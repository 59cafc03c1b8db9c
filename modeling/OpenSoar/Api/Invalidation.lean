/-
# `OpenSoar.Api.Invalidation` — an analyst clears what a source said

`DELETE /observables/{id}/enrichments/{source}` of `api/observables.py`: it deletes one key
of the cache, made of the source and the observable's type and value, and takes the source's
records from the row.

The connectors look under keys of their own.  What they wrote for the value is gone exactly
when it was under that one key (`invalidation_complete_iff`): what VirusTotal was asked about
the observable's own type, and nothing of AbuseIPDB or GreyNoise, whose keys carry an age, a
prefix or another type, unless two digests are equal.
-/
import OpenSoar.Retention.Rows
import OpenSoar.Worker.Credentials

namespace OpenSoar

open Python TtlMap

/-! ## The request -/

/-- `e.get("source") == source`; the records that the program stores are dicts. -/
def recordOf (source : String) (record : Json) : Bool :=
  match record with
  | .obj fields => (Json.get fields "source").string? = some source
  | _ => false

/-- The row without the source's records. -/
def Observable.withoutRecords (obs : Observable) (source : String) : Observable :=
  let remaining := (obs.enrichments.getD []).filter (fun record => !recordOf source record)
  { obs with
    enrichments := some remaining
    enrichmentStatus := if remaining.isEmpty then .lit "pending" else obs.enrichmentStatus }

structure InvalidationResponse where
  observableId : Uuid
  source : String
  cacheCleared : Nat
  recordsRemoved : Nat

/-- `invalidate_observable_enrichment`. -/
def invalidateObservableEnrichment (app : App) (observableId : Uuid) (source : String)
    (caller : Option Analyst) (s : Store) (entries : CacheEntries) :
    Except Raised (Store × CacheEntries × InvalidationResponse) := do
  let analyst ← requirePermission .observablesManage caller
  let obs ← orRaise (s.observables.find? (fun o => o.id = observableId))
    (.httpException 404 "Observable not found")
  enforceTenantAccess app (.observable obs.object) "update" (some analyst)
  let (cleared, entries') :=
    EnrichmentCache.invalidate source obs.type.val obs.value.val entries
  let row := obs.withoutRecords source
  pure ({ s with
      observables := s.observables.map (fun o => if o.id = observableId then row else o) },
    entries',
    { observableId := observableId
      source := source
      cacheCleared := cleared
      recordsRemoved := (obs.enrichments.getD []).length - (row.enrichments.getD []).length })

/-- One key is deleted. -/
theorem invalidateObservableEnrichment_entries {app : App} {observableId : Uuid} {source : String}
    {caller : Option Analyst} {s s' : Store} {entries entries' : CacheEntries}
    {response : InvalidationResponse} {obs : Observable}
    (hobs : s.observables.find? (fun o => o.id = observableId) = some obs)
    (h : invalidateObservableEnrichment app observableId source caller s entries =
      .ok (s', entries', response)) :
    entries' = TtlMap.delete entries (buildKey source obs.type.val obs.value.val) := by
  obtain ⟨analyst, -, h⟩ := bind_ok h
  obtain ⟨found, hfound, h⟩ := bind_ok h
  cases hobs.symm.trans (orRaise_ok hfound)
  obtain ⟨⟨⟩, -, h⟩ := bind_ok h
  cases h
  rfl

/-! ## What survives -/

/-- There is an entry under a key. -/
def Survives (backend : Lifetime) (entries : CacheEntries) (key : String)
    (now : Timestamp) : Prop :=
  (peek backend entries key now).isSome = true

/-- No entry that a method of the source wrote for the value is left: the next call of each
of them reaches the service. -/
def Cleared (backend : Lifetime) (obs : Observable) (source : String) (entries : CacheEntries)
    (now : Timestamp) : Prop :=
  ∀ method : ConnectorMethod, method.cls.integrationType = source →
    ¬ Survives backend entries (method.lookup obs.value.val).key now ∧
    ∀ (env : ConnectorEnv) (integration : IntegrationInstance) (o : Outside),
      env.backend = backend → o.entries = entries → now ≤ o.now →
      ((method.lookup obs.value.val).after env integration o).requests =
        o.requests ++ [(method.lookup obs.value.val).request integration]

/-- The entry, if there is one, is under the key that the request deletes. -/
def UnderOneKey (backend : Lifetime) (obs : Observable) (entries : CacheEntries) (now : Timestamp)
    (lookup : Lookup) : Prop :=
  Survives backend entries lookup.key now →
    lookup.obsType = obs.type.val ∧ digest lookup.value = digest obs.value.val

section Cleared

variable {backend : Lifetime} {obs : Observable} {entries : CacheEntries} {now : Timestamp}

/-- A method looks under the deleted key when the types and the digests are equal. -/
theorem lookup_key_eq_iff (method : ConnectorMethod) (value : String) :
    (method.lookup value).key =
        buildKey method.cls.integrationType obs.type.val obs.value.val ↔
      (method.lookup value).obsType = obs.type.val ∧
        digest (method.lookup value).value = digest obs.value.val := by
  rw [Lookup.key, lookup_source,
    buildKey_inj (integrationType_colon method.cls) (integrationType_colon method.cls),
    and_iff_right rfl]

/-- Where no entry is left, a call reaches the service. -/
theorem reaches_of_not_survives {lookup : Lookup} (h : ¬ Survives backend entries lookup.key now)
    {env : ConnectorEnv} {integration : IntegrationInstance} {o : Outside}
    (hbackend : env.backend = backend) (hentries : o.entries = entries) (hnow : now ≤ o.now) :
    (lookup.after env integration o).requests = o.requests ++ [lookup.request integration] := by
  subst hbackend hentries
  refine requests_after_of_stale ?_
  have hnone : peek env.backend o.entries lookup.key o.now = none := by
    cases hlater : peek env.backend o.entries lookup.key o.now with
    | none => rfl
    | some raw =>
        refine absurd ?_ h
        rw [Survives, peek_earlier hnow hlater]
        rfl
  rw [Fresh, hnone]
  simp [decoded]

end Cleared

/-- **Invalidation is complete**, and when it is: everything that the source's methods wrote
for the value was under the one key that is deleted. -/
theorem invalidation_complete_iff {app : App} {observableId : Uuid} {source : String}
    {caller : Option Analyst} {s s' : Store} {entries entries' : CacheEntries}
    {response : InvalidationResponse} {obs : Observable} {backend : Lifetime} {now : Timestamp}
    (hobs : s.observables.find? (fun o => o.id = observableId) = some obs)
    (h : invalidateObservableEnrichment app observableId source caller s entries =
      .ok (s', entries', response)) :
    Cleared backend obs source entries' now ↔
      ∀ method : ConnectorMethod, method.cls.integrationType = source →
        UnderOneKey backend obs entries now (method.lookup obs.value.val) := by
  cases invalidateObservableEnrichment_entries hobs h
  constructor
  · rintro hcleared method rfl hsurvives
    rw [← lookup_key_eq_iff]
    by_contra hother
    refine (hcleared method rfl).1 ?_
    rw [Survives, peek_delete_of_ne hother]
    exact hsurvives
  · rintro hone method rfl
    have hgone : ¬ Survives backend
        (TtlMap.delete entries (buildKey method.cls.integrationType obs.type.val obs.value.val))
        (method.lookup obs.value.val).key now := by
      intro hsurvives
      by_cases hkey : (method.lookup obs.value.val).key =
          buildKey method.cls.integrationType obs.type.val obs.value.val
      · rw [Survives, hkey, peek_delete_self] at hsurvives
        cases hsurvives
      · rw [Survives, peek_delete_of_ne hkey] at hsurvives
        exact hkey ((lookup_key_eq_iff method _).mpr (hone method rfl hsurvives))
    exact ⟨hgone, fun env integration o hbackend hentries hnow =>
      reaches_of_not_survives hgone hbackend hentries hnow⟩

/-! ## A verdict that is cleared, and one that is not -/

def observed : Store := { Store.empty with observables := [unattached] }

/-- The cache after one call of a method. -/
def written (lookup : Lookup) : CacheEntries :=
  TtlMap.set inMemoryCacheBackend ∅ lookup.key (some (.obj [])) 3600 0

theorem not_survives_written {lookup : Lookup} {key : String} (h : key ≠ lookup.key) :
    ¬ Survives inMemoryCacheBackend (written lookup) key 0 := by
  rw [Survives, written, peek_set_of_ne h, peek, AList.lookup_empty]
  simp

theorem invalidation_complete_of_virusTotal :
    Cleared inMemoryCacheBackend unattached "virustotal"
      (TtlMap.delete (written (VirusTotal.lookupIp "203.0.113.7"))
        (buildKey "virustotal" "ip" "203.0.113.7")) 0 := by
  refine (@invalidation_complete_iff .core 1 "virustotal" (some administrator) observed _
    (written (VirusTotal.lookupIp "203.0.113.7")) _ _ unattached _ 0 rfl rfl).mpr ?_
  intro method hmethod hsurvives
  by_cases hkey : (method.lookup "203.0.113.7").key = (VirusTotal.lookupIp "203.0.113.7").key
  · refine (lookup_key_eq_iff method "203.0.113.7").mp (hkey.trans ?_)
    rw [hmethod]
    rfl
  · exact absurd hsurvives (not_survives_written hkey)

/-- AbuseIPDB's verdict is still there after it was cleared. -/
theorem abuseIpDb_verdict_survives :
    ¬ ∀ (app : App) (observableId : Uuid) (source : String) (caller : Option Analyst)
        (s s' : Store) (entries entries' : CacheEntries) (response : InvalidationResponse)
        (obs : Observable) (backend : Lifetime) (now : Timestamp),
      source ∈ ["virustotal", "abuseipdb", "greynoise"] →
      s.observables.find? (fun o => o.id = observableId) = some obs →
      invalidateObservableEnrichment app observableId source caller s entries =
        .ok (s', entries', response) →
      Cleared backend obs source entries' now := by
  intro hclaim
  have hcleared := hclaim .core 1 "abuseipdb" (some administrator) observed _
    (written (AbuseIpDb.checkIp "203.0.113.7" 90)) _ _ unattached inMemoryCacheBackend 0 (by decide)
    rfl rfl
  refine (hcleared (.checkIp 90) rfl).1 ?_
  have hother : ((ConnectorMethod.checkIp 90).lookup unattached.value.val).key ≠
      buildKey "abuseipdb" unattached.type.val unattached.value.val := by
    intro hkey
    have hdigest := ((lookup_key_eq_iff (.checkIp 90) unattached.value.val).mp hkey).2
    revert hdigest
    decide +kernel
  rw [Survives, peek_delete_of_ne hother]
  show (peek inMemoryCacheBackend (TtlMap.set inMemoryCacheBackend ∅
    (AbuseIpDb.checkIp "203.0.113.7" 90).key _ 3600 0)
    (AbuseIpDb.checkIp "203.0.113.7" 90).key 0).isSome = true
  rw [peek_set_self]
  rfl

end OpenSoar
