/-
# `OpenSoar.Worker.Freshness` — the freshness check against the dispatcher

`should_enrich` skips an observable when each of its tenant's sources has a fresh entry
under the source, the type and the bare value.  A dispatch in which every call succeeds
leaves fresh what was fresh before and the keys its own lookups are for, and nothing else
(`dispatchFrom_fresh`).  Those keys are the checked ones for VirusTotal, which has no method
for URLs; AbuseIPDB's carry the age, and GreyNoise is not asked.

So the check agrees with the dispatcher exactly when each source is VirusTotal, for
something other than a URL, or was fresh already (`freshness_agrees_iff`).
-/
import OpenSoar.Worker.Credentials
import OpenSoar.Worker.Scheduling

namespace OpenSoar

open Python TtlMap UnitOfWork

/-! ## `should_enrich` on the cache -/

/-- What `should_enrich` is answered: its query returns the rows, the cache can be had, and
every entry can be read (reading one leaves the others as they were: `TtlMap.peek_get`). -/
def consulting (enqueue : EnqueueEnv) (backend : Lifetime) (rows : List IntegrationInstance)
    (obs : Observable) (partner : Option String) (entries : CacheEntries) (now : Timestamp) :
    EnqueueEnv :=
  { enqueue with
    sourcesFate := .answered
    sources := configuredSourcesFor rows obs.type.val partner
    cache := .value ()
    cached := fun source => .value (decide
      (Fresh backend entries (buildKey source obs.type.val obs.value.val) now)) }

theorem anyStale_eq_false {fresh : String → Bool} {sources : List String}
    {session : IngestSession} :
    (anyStale (fun source => .value (fresh source)) sources session).1 = .ok false ↔
      ∀ source ∈ sources, fresh source = true := by
  induction sources with
  | nil => exact iff_of_true rfl (fun _ h => by cases h)
  | cons source rest ih =>
      rw [List.forall_mem_cons]
      cases hfresh : fresh source with
      | true =>
          have hstep : anyStale (fun source => .value (fresh source)) (source :: rest) session =
              anyStale (fun source => .value (fresh source)) rest session := by
            simp only [anyStale, hfresh]
          rw [hstep, ih]
          exact (and_iff_right rfl).symm
      | false =>
          have hstep : (anyStale (fun source => .value (fresh source)) (source :: rest) session).1 =
              .ok true := by
            simp only [anyStale, hfresh]
            rfl
          rw [hstep]
          simp

/-- `should_enrich` says no where there is a source and each has a fresh entry. -/
theorem shouldEnrich_eq_false {enqueue : EnqueueEnv} {backend : Lifetime}
    {rows : List IntegrationInstance} {obs : Observable} {partner : Option String}
    {entries : CacheEntries} {now : Timestamp} {session : IngestSession}
    (hsession : ¬ Doomed observableWrites session) :
    (shouldEnrich (consulting enqueue backend rows obs partner entries now) session).1 = .ok false ↔
      configuredSourcesFor rows obs.type.val partner ≠ [] ∧
        ∀ source ∈ configuredSourcesFor rows obs.type.val partner,
          Fresh backend entries (buildKey source obs.type.val obs.value.val) now := by
  rw [shouldEnrich_answered hsession rfl]
  show (consultCache _ (some (configuredSourcesFor rows obs.type.val partner)) _).1 = _ ↔ _
  cases hsources : configuredSourcesFor rows obs.type.val partner with
  | nil =>
      refine iff_of_false (fun h => ?_) (fun h => h.1 rfl)
      cases h
  | cons source rest =>
      rw [and_iff_right (List.cons_ne_nil _ _)]
      refine anyStale_eq_false.trans (forall₂_congr (fun source _ => ?_))
      exact decide_eq_true_iff

/-! ## What a dispatch leaves fresh -/

/-- The lookup of a turn. -/
def turnLookup (obs : Observable) (integration : IntegrationInstance) : Option Lookup :=
  (getConnector integration.integrationType.val).bind
    (fun cls => invokeLookup cls obs.type.val obs.value.val)

/-- The key that a turn looks under. -/
def turnKey (obs : Observable) (integration : IntegrationInstance) : Option String :=
  (turnLookup obs integration).map Lookup.key

/-- The connector is built, connects, answers with a JSON object and closes. -/
structure TurnSucceeds (env : ConnectorEnv) (obs : Observable) (integration : IntegrationInstance)
    (o : Outside) : Prop where
  built : validateConfig integration.config = .ok ()
  connected : env.connect integration = .ok ()
  closed : env.disconnect integration = .ok ()
  answered : ∀ lookup, turnLookup obs integration = some lookup →
    ∃ fields, (lookup.outcome env integration o).result = .ok (.obj fields)

/-- What a turn stores does not expire before a time. -/
def StoredUntil (env : ConnectorEnv) (obs : Observable) (time : Timestamp)
    (integration : IntegrationInstance) (o : Outside) : Prop :=
  ∀ lookup, turnLookup obs integration = some lookup →
    (lookup.outcome env integration o).fetched = true →
    env.backend.live
      (env.backend.expiry (lookup.outcome env integration o).now
        (env.settings.defaultTtlFor lookup.source)) time = true

/-- In every turn of a dispatch, from the state it starts in. -/
def Throughout (env : ConnectorEnv) (obs : Observable)
    (P : IntegrationInstance → Outside → Prop) : List IntegrationInstance → Outside → Prop
  | [], _ => True
  | integration :: rest, o =>
      P integration o ∧ Throughout env obs P rest (enrichmentTurn env obs integration o).2

section Turn

variable {env : ConnectorEnv} {obs : Observable} {integration : IntegrationInstance} {o : Outside}
  {lookup : Lookup} {key : String} {time : Timestamp}

/-- What a successful turn leaves. -/
theorem turn_of_succeeds (h : TurnSucceeds env obs integration o) :
    ∃ entry, enrichmentTurn env obs integration o = (.ok entry,
      match turnLookup obs integration with
      | none => o
      | some lookup => lookup.after env integration o) := by
  unfold enrichmentTurn
  cases hcls : getConnector integration.integrationType.val with
  | none =>
      refine ⟨none, ?_⟩
      simp only [turnLookup, hcls, Option.bind_none]
  | some cls =>
      have hturn : turnLookup obs integration = invokeLookup cls obs.type.val obs.value.val := by
        rw [turnLookup, hcls]
        rfl
      simp only [lookupWithInstance, h.built, h.connected, h.closed, closing, tryLookup, hturn]
      cases hlookup : invokeLookup cls obs.type.val obs.value.val with
      | none => exact ⟨none, rfl⟩
      | some lookup =>
          obtain ⟨fields, hanswer⟩ := h.answered lookup (hturn.trans hlookup)
          simp only [hanswer]
          exact ⟨_, rfl⟩

/-- A successful call leaves its own key fresh, and the others as they were. -/
theorem fresh_after {fields : Dict}
    (hanswer : (lookup.outcome env integration o).result = .ok (.obj fields))
    (hkept : Fresh env.backend o.entries lookup.key o.now →
      Fresh env.backend o.entries lookup.key time)
    (hstored : (lookup.outcome env integration o).fetched = true →
      env.backend.live
        (env.backend.expiry (lookup.outcome env integration o).now
          (env.settings.defaultTtlFor lookup.source)) time = true) :
    Fresh env.backend (lookup.after env integration o).entries lookup.key time := by
  by_cases hfresh : Fresh env.backend o.entries lookup.key o.now
  · obtain ⟨cached, hcached⟩ := Option.isSome_iff_exists.mp hfresh
    rw [Lookup.after, outcome_of_fresh hcached]
    exact hkept hfresh
  · cases hresult : (env.respond o.requests (lookup.request integration)).result with
    | error e =>
        rw [outcome_of_failure hfresh hresult] at hanswer
        cases hanswer
    | ok payload =>
        rw [outcome_of_answer hfresh hresult] at hanswer hstored
        cases hanswer
        rw [Lookup.after, outcome_of_answer hfresh hresult, Fresh, peek_set_self,
          if_pos (hstored rfl)]
        rfl

theorem fresh_after_of_ne (h : key ≠ lookup.key) :
    Fresh env.backend (lookup.after env integration o).entries key time ↔
      Fresh env.backend o.entries key time := by
  rw [Fresh, peek_after_of_ne h]
  rfl

/-- A successful turn leaves fresh what was fresh and its own key; of the keys that do not
expire, none expires after it. -/
theorem turn_fresh {K : String → Prop} (hsucceeds : TurnSucceeds env obs integration o)
    (hown : ∀ key, turnKey obs integration = some key → K key)
    (hkept : ∀ key, K key → Fresh env.backend o.entries key o.now →
      Fresh env.backend o.entries key time)
    (hstored : StoredUntil env obs time integration o) :
    ∃ entry o', enrichmentTurn env obs integration o = (.ok entry, o') ∧
      (∀ key, Fresh env.backend o'.entries key time ↔
        Fresh env.backend o.entries key time ∨ turnKey obs integration = some key) ∧
      ∀ key, K key → Fresh env.backend o'.entries key o'.now →
        Fresh env.backend o'.entries key time := by
  obtain ⟨entry, hturn⟩ := turn_of_succeeds hsucceeds
  refine ⟨entry, _, hturn, ?_⟩
  cases hlookup : turnLookup obs integration with
  | none =>
      have hkey : turnKey obs integration = none := by rw [turnKey, hlookup, Option.map_none]
      refine ⟨fun key => ?_, hkept⟩
      rw [hkey]
      simp
  | some lookup =>
      have hkey : turnKey obs integration = some lookup.key := by
        rw [turnKey, hlookup, Option.map_some]
      obtain ⟨fields, hanswer⟩ := hsucceeds.answered lookup hlookup
      have hfresh := fresh_after hanswer (hkept _ (hown _ hkey)) (hstored lookup hlookup)
      constructor
      · intro key
        by_cases hsame : key = lookup.key
        · subst hsame
          exact iff_of_true hfresh (Or.inr hkey)
        · rw [fresh_after_of_ne hsame, hkey, Option.some_inj, or_iff_left (Ne.symm hsame)]
      · intro key hK hnow
        by_cases hsame : key = lookup.key
        · subst hsame
          exact hfresh
        · rw [fresh_after_of_ne hsame] at hnow ⊢
          exact hkept key hK (hnow.earlier now_after)

end Turn

section Run

variable {env : ConnectorEnv} {obs : Observable} {integrations : List IntegrationInstance}
  {o : Outside} {time : Timestamp} {K : String → Prop}

theorem dispatchFrom_cons {integration : IntegrationInstance} {entry : Option Json} {o' : Outside}
    (h : enrichmentTurn env obs integration o = (.ok entry, o')) :
    (dispatchFrom env obs (integration :: integrations) o).2 =
      (dispatchFrom env obs integrations o').2 := by
  simp only [dispatchFrom, h]
  split
  next hrest => rw [hrest]
  next hrest => rw [hrest]

/-- A dispatch in which every call succeeds leaves fresh what was fresh and the keys of its
turns.  By induction on the integrations: what has not expired by then still has not after a
turn. -/
theorem dispatchFrom_fresh
    (hown : ∀ integration ∈ integrations, ∀ key, turnKey obs integration = some key → K key)
    (hsucceeds : Throughout env obs (TurnSucceeds env obs) integrations o)
    (hkept : ∀ key, K key → Fresh env.backend o.entries key o.now →
      Fresh env.backend o.entries key time)
    (hstored : Throughout env obs (StoredUntil env obs time) integrations o) (key : String) :
    Fresh env.backend (dispatchFrom env obs integrations o).2.entries key time ↔
      Fresh env.backend o.entries key time ∨
        ∃ integration ∈ integrations, turnKey obs integration = some key := by
  induction integrations generalizing o with
  | nil => simp [dispatchFrom]
  | cons integration rest ih =>
      obtain ⟨hturn, hrest⟩ := hsucceeds
      obtain ⟨hturnStored, hrestStored⟩ := hstored
      obtain ⟨entry, o', hend, hfresh, hkept'⟩ :=
        turn_fresh hturn (hown integration List.mem_cons_self) hkept hturnStored
      rw [hend] at hrest hrestStored
      rw [dispatchFrom_cons hend, ih (fun i hi => hown i (List.mem_cons_of_mem _ hi)) hrest hkept'
        hrestStored, hfresh, List.exists_mem_cons_iff, or_assoc]

end Run

/-! ## The keys that are checked -/

theorem mem_configuredSourcesFor {rows : List IntegrationInstance} {obsType source : String}
    {partner : Option String} :
    source ∈ configuredSourcesFor rows obsType partner ↔
      obsType ∈ sourceTypeCapabilities source ∧
        ∃ integration ∈ configuredInstances rows partner,
          integration.integrationType.val = source := by
  rw [configuredSourcesFor, List.mem_eraseDups, List.mem_filter, List.mem_map, decide_eq_true_eq]
  exact and_comm

theorem enriches_of_mem {alerts : Table Alert.id} {rows : List IntegrationInstance}
    {obs : Observable} {integration : IntegrationInstance}
    (h : integration ∈ enrichmentInstances alerts rows obs) : Enriches integration := by
  unfold enrichmentInstances at h
  split at h
  next => exact of_decide_eq_true (List.mem_filter.mp (List.mem_filter.mp h).1).2
  next => exact of_decide_eq_true (List.mem_filter.mp h).2

/-- The dispatcher works with every integration behind the sources that it queries for. -/
theorem configured_enriches {alerts : Table Alert.id} {rows : List IntegrationInstance}
    {obs : Observable} {integration : IntegrationInstance}
    (h : integration ∈ configuredInstances rows (partnerOf alerts obs))
    (htype : integration.integrationType.val ∈ ["virustotal", "abuseipdb"]) :
    integration ∈ enrichmentInstances alerts rows obs := by
  obtain ⟨hrow, hpartner⟩ := List.mem_filter.mp h
  obtain ⟨hrow, haware⟩ := List.mem_filter.mp hrow
  obtain ⟨henabled, -⟩ := Bool.and_eq_true_iff.mp haware
  have hqueried : integration ∈ rows.filter (fun integration => decide (Enriches integration)) :=
    List.mem_filter.mpr ⟨hrow, decide_eq_true ⟨henabled, htype⟩⟩
  unfold enrichmentInstances
  cases hof : partnerOf alerts obs with
  | none => exact hqueried
  | some partner =>
      rw [hof] at hpartner
      exact List.mem_filter.mpr ⟨hqueried, hpartner⟩

theorem turnKey_virusTotal {obs : Observable} {integration : IntegrationInstance}
    (h : integration.integrationType.val = "virustotal") :
    turnKey obs integration =
      if obs.type.val ∈ ["ip", "domain", "hash"] then
        some (buildKey "virustotal" obs.type.val obs.value.val)
      else none := by
  have hlookup : turnLookup obs integration =
      invokeLookup .virusTotal obs.type.val obs.value.val := by
    rw [turnLookup, h]
    rfl
  rw [turnKey, hlookup, invokeLookup]
  by_cases hip : obs.type.val = "ip"
  · rw [hip]
    rfl
  by_cases hdomain : obs.type.val = "domain"
  · rw [hdomain]
    rfl
  by_cases hhash : obs.type.val = "hash"
  · rw [hhash]
    rfl
  -- no method for a URL, nor for a type that is not looked up
  have hnone : obs.type.val ∉ ["ip", "domain", "hash"] := by simp [hip, hdomain, hhash]
  rw [if_neg hip, if_neg hdomain, if_neg hhash, if_neg hnone]
  split_ifs <;> rfl

theorem turnKey_abuseIpDb {obs : Observable} {integration : IntegrationInstance}
    (h : integration.integrationType.val = "abuseipdb") :
    turnKey obs integration =
      if obs.type.val = "ip" then some (AbuseIpDb.checkIp obs.value.val 90).key else none := by
  have hlookup : turnLookup obs integration =
      invokeLookup .abuseIpDb obs.type.val obs.value.val := by
    rw [turnLookup, h]
    rfl
  rw [turnKey, hlookup, invokeLookup]
  by_cases hip : obs.type.val = "ip"
  · rw [if_pos hip, if_pos hip]
    rfl
  · -- it has none of the methods for the other types
    rw [if_neg hip, if_neg hip]
    split_ifs <;> rfl

/-- The checked key of a source is one that the dispatcher looks under: VirusTotal's, except
for a URL; AbuseIPDB's, if the digest of the value is also that of the value with the age. -/
theorem turnKey_checked {alerts : Table Alert.id} {rows : List IntegrationInstance}
    {obs : Observable} {source : String}
    (h : source ∈ configuredSourcesFor rows obs.type.val (partnerOf alerts obs)) :
    (∃ integration ∈ enrichmentInstances alerts rows obs,
        turnKey obs integration = some (buildKey source obs.type.val obs.value.val)) ↔
      (source = "virustotal" ∧ obs.type.val ≠ "url") ∨
        (source = "abuseipdb" ∧
          digest (AbuseIpDb.checkIp obs.value.val 90).value = digest obs.value.val) := by
  obtain ⟨hcapable, integration, hconfigured, hsource⟩ := mem_configuredSourcesFor.mp h
  have haware : source ∈ cacheAwareSources := by
    rw [← hsource]
    exact of_decide_eq_true (Bool.and_eq_true_iff.mp
      (List.mem_filter.mp (List.mem_filter.mp hconfigured).1).2).2
  have hcolon : ':' ∉ source.toList := by
    rcases List.mem_cons.mp haware with rfl | haware
    · decide
    rcases List.mem_cons.mp haware with rfl | haware
    · decide
    cases List.mem_singleton.mp haware
    decide
  have habuse : ':' ∉ "abuseipdb".toList := by decide
  constructor
  · rintro ⟨turn, hturn, hkey⟩
    have hqueried := (enriches_of_mem hturn).2
    rcases List.mem_cons.mp hqueried with hvt | hqueried
    · rw [turnKey_virusTotal hvt] at hkey
      split at hkey
      next htype =>
        obtain ⟨rfl, -, -⟩ := (buildKey_inj (by decide) hcolon).mp (Option.some.inj hkey)
        refine Or.inl ⟨rfl, ?_⟩
        intro hurl
        rw [hurl] at htype
        revert htype
        decide
      next => cases hkey
    · rw [turnKey_abuseIpDb (List.mem_singleton.mp hqueried)] at hkey
      split at hkey
      next htype =>
        obtain ⟨rfl, -, hdigest⟩ := (buildKey_inj habuse hcolon).mp (Option.some.inj hkey)
        exact Or.inr ⟨rfl, hdigest⟩
      next => cases hkey
  · rintro (⟨rfl, hurl⟩ | ⟨rfl, hdigest⟩)
    · refine ⟨integration, configured_enriches hconfigured (by simp [hsource]), ?_⟩
      rw [turnKey_virusTotal hsource, if_pos]
      have hfour : obs.type.val ∈ ["ip", "domain", "hash", "url"] := hcapable
      simp only [List.mem_cons, List.not_mem_nil, or_false] at hfour ⊢
      tauto
    · refine ⟨integration, configured_enriches hconfigured (by simp [hsource]), ?_⟩
      have hip : obs.type.val = "ip" := List.mem_singleton.mp hcapable
      rw [turnKey_abuseIpDb hsource, if_pos hip, hip]
      exact congrArg some ((buildKey_inj habuse habuse).mpr ⟨rfl, rfl, hdigest⟩)

/-! ## The check and the dispatcher -/

/-- The keys that the check asks for and those that a dispatch looks under. -/
def Concerns (alerts : Table Alert.id) (rows : List IntegrationInstance) (obs : Observable)
    (key : String) : Prop :=
  (∃ source ∈ configuredSourcesFor rows obs.type.val (partnerOf alerts obs),
    buildKey source obs.type.val obs.value.val = key) ∨
  ∃ integration ∈ enrichmentInstances alerts rows obs, turnKey obs integration = some key

/-- No time to live has elapsed at a time: of the entries under these keys, those that were
fresh when the dispatch began still are, and so are those that it stored. -/
structure Unexpired (env : ConnectorEnv) (alerts : Table Alert.id)
    (rows : List IntegrationInstance) (obs : Observable) (o : Outside) (time : Timestamp) :
    Prop where
  begun : o.now ≤ time
  kept : ∀ key, Concerns alerts rows obs key → Fresh env.backend o.entries key o.now →
    Fresh env.backend o.entries key time
  stored : Throughout env obs (StoredUntil env obs time) (enrichmentInstances alerts rows obs) o

/-- A later cache in which no entry under these keys was invalidated. -/
def Keeps (backend : Lifetime) (alerts : Table Alert.id) (rows : List IntegrationInstance)
    (obs : Observable) (time : Timestamp) (entries later : CacheEntries) : Prop :=
  ∀ key, Concerns alerts rows obs key → Fresh backend entries key time →
    Fresh backend later key time

/-- The entry that the check asks a source for was fresh before the dispatch, or is one that
the source's connector writes. -/
def LeavesFresh (backend : Lifetime) (obs : Observable) (o : Outside) (source : String) : Prop :=
  Fresh backend o.entries (buildKey source obs.type.val obs.value.val) o.now ∨
    (source = "virustotal" ∧ obs.type.val ≠ "url") ∨
    (source = "abuseipdb" ∧
      digest (AbuseIpDb.checkIp obs.value.val 90).value = digest obs.value.val)

/-- **The freshness check agrees with the dispatcher**, and when it does.  After a dispatch
in which every call succeeds, and as long as nothing expires or is invalidated, the check
says no exactly when the tenant has a source for the type and the entry asked of each of its
sources was fresh before or is VirusTotal's, for something other than a URL. -/
theorem freshness_agrees_iff {env : ConnectorEnv} {alerts : Table Alert.id}
    {rows : List IntegrationInstance} {obs : Observable} {o : Outside} {time : Timestamp}
    {enqueue : EnqueueEnv} {session : IngestSession}
    (hsession : ¬ Doomed observableWrites session)
    (hsucceeds : Throughout env obs (TurnSucceeds env obs) (enrichmentInstances alerts rows obs) o)
    (hunexpired : Unexpired env alerts rows obs o time) :
    (∀ later, Keeps env.backend alerts rows obs time
          (dispatchEnrichments env alerts rows obs o).2.entries later →
        (shouldEnrich (consulting enqueue env.backend rows obs (partnerOf alerts obs) later time)
          session).1 = .ok false) ↔
      configuredSourcesFor rows obs.type.val (partnerOf alerts obs) ≠ [] ∧
        ∀ source ∈ configuredSourcesFor rows obs.type.val (partnerOf alerts obs),
          LeavesFresh env.backend obs o source := by
  have hfresh := dispatchFrom_fresh
    (fun integration hmem key hkey => Or.inr ⟨integration, hmem, hkey⟩) hsucceeds hunexpired.kept
    hunexpired.stored
  constructor
  · intro hskips
    obtain ⟨hsome, hall⟩ := (shouldEnrich_eq_false hsession).mp (hskips _ (fun _ _ h => h))
    refine ⟨hsome, fun source hsource => ?_⟩
    rcases (hfresh _).mp (hall source hsource) with hbefore | hturn
    · exact Or.inl (hbefore.earlier hunexpired.begun)
    · exact Or.inr ((turnKey_checked hsource).mp hturn)
  · rintro ⟨hsome, hall⟩ later hkeeps
    refine (shouldEnrich_eq_false hsession).mpr ⟨hsome, fun source hsource => ?_⟩
    have hconcerns : Concerns alerts rows obs (buildKey source obs.type.val obs.value.val) :=
      Or.inl ⟨source, hsource, rfl⟩
    refine hkeeps _ hconcerns ((hfresh _).mpr ?_)
    rcases hall source hsource with hbefore | hwritten
    · exact Or.inl (hunexpired.kept _ hconcerns hbefore)
    · exact Or.inr ((turnKey_checked hsource).mpr hwritten)

/-! ## An address that two services know -/

/-- Services that answer every request with an empty object, at once. -/
def emptyAnswers : ConnectorEnv where
  backend := inMemoryCacheBackend
  settings := .shipped
  connect _ := .ok ()
  respond _ _ := ⟨.ok (.obj []), 0⟩
  disconnect _ := .ok ()

def emptyCache : Outside := ⟨∅, 0, []⟩

def shared (integrationType : Varchar 100) : IntegrationInstance :=
  ⟨1, integrationType, none, [("api_key", .str "shared-key")], true⟩

def virusTotalForAll : IntegrationInstance := shared acmeVirusTotal.integrationType

def abuseIpDbForAll : IntegrationInstance := shared (.lit "abuseipdb")

theorem not_fresh_emptyCache (key : String) :
    ¬ Fresh emptyAnswers.backend emptyCache.entries key emptyCache.now := by
  rw [Fresh, peek, emptyCache, AList.lookup_empty]
  simp [decoded]

theorem succeeds_emptyAnswers {obs : Observable} {integrationType : Varchar 100} :
    TurnSucceeds emptyAnswers obs (shared integrationType) emptyCache where
  built := rfl
  connected := rfl
  closed := rfl
  answered := by
    intro lookup _
    refine ⟨[], ?_⟩
    rw [outcome_of_answer (not_fresh_emptyCache _) rfl]

theorem storedUntil_emptyAnswers {obs : Observable} {integrationType : Varchar 100} :
    StoredUntil emptyAnswers obs 0 (shared integrationType) emptyCache := by
  intro lookup _ _
  have hnow : (lookup.outcome emptyAnswers (shared integrationType) emptyCache).now = 0 := by
    rw [outcome_of_answer (not_fresh_emptyCache _) rfl]
    rfl
  have hpositive : 0 < CacheSettings.shipped.defaultTtlFor lookup.source := by
    unfold CacheSettings.defaultTtlFor
    split_ifs
    all_goals decide
  have hexpiry : 0 < 0 + (max 0 (CacheSettings.shipped.defaultTtlFor lookup.source)).toNat *
      microsecondsPerSecond := by
    have hmax := le_max_right 0 (CacheSettings.shipped.defaultTtlFor lookup.source)
    simp only [microsecondsPerSecond]
    omega
  rw [hnow]
  exact decide_eq_true hexpiry

/-- One integration for all tenants, asked once about an address. -/
theorem turns_emptyAnswers {integrationType : Varchar 100}
    (htype : integrationType.val ∈ ["virustotal", "abuseipdb"])
    {P : IntegrationInstance → Outside → Prop} (hturn : P (shared integrationType) emptyCache) :
    Throughout emptyAnswers unattached P
      (enrichmentInstances .empty [shared integrationType] unattached) emptyCache := by
  have hqueried : enrichmentInstances .empty [shared integrationType] unattached =
      [shared integrationType] := by
    refine List.filter_eq_self.mpr (fun integration hmem => ?_)
    cases List.mem_singleton.mp hmem
    exact decide_eq_true ⟨rfl, htype⟩
  rw [hqueried]
  exact ⟨hturn, trivial⟩

theorem unexpired_emptyAnswers {integrationType : Varchar 100}
    (htype : integrationType.val ∈ ["virustotal", "abuseipdb"]) :
    Unexpired emptyAnswers .empty [shared integrationType] unattached emptyCache 0 where
  begun := Nat.le_refl _
  kept key _ hfresh := absurd hfresh (not_fresh_emptyCache key)
  stored := turns_emptyAnswers htype storedUntil_emptyAnswers

/-- An enqueue whose slot is free and whose broker takes the task. -/
def freeSlot : EnqueueEnv :=
  ⟨.answered, [], .value (), fun _ => .value false, .value (), .ok true, .value (), .ok ()⟩

def openedSession : IngestSession := Session.opened ⟨.empty, []⟩

theorem openedSession_not_doomed : ¬ Doomed observableWrites openedSession := by
  rintro (h | ⟨_, h, _⟩)
  · cases h
  · cases h

theorem freshness_agrees_of_virusTotal :
    (shouldEnrich (consulting freeSlot emptyAnswers.backend [virusTotalForAll] unattached none
      (dispatchEnrichments emptyAnswers .empty [virusTotalForAll] unattached emptyCache).2.entries
        0)
      openedSession).1 = .ok false := by
  refine (freshness_agrees_iff openedSession_not_doomed
    (turns_emptyAnswers (by decide) succeeds_emptyAnswers)
    (unexpired_emptyAnswers (by decide))).mpr ⟨by decide, ?_⟩ _ (fun _ _ h => h)
  intro source hsource
  cases List.mem_singleton.mp hsource
  exact Or.inr (Or.inl ⟨rfl, by decide⟩)

/-- AbuseIPDB's answer is stored under another key than the one that is checked. -/
theorem abuseIpDb_is_never_skipped :
    ¬ ∀ (env : ConnectorEnv) (alerts : Table Alert.id) (rows : List IntegrationInstance)
        (obs : Observable) (o : Outside) (time : Timestamp) (enqueue : EnqueueEnv)
        (session : IngestSession), ¬ Doomed observableWrites session →
      obs.type.val ∈ ["ip", "domain", "hash", "url"] →
      Throughout env obs (TurnSucceeds env obs) (enrichmentInstances alerts rows obs) o →
      Unexpired env alerts rows obs o time →
      (shouldEnrich (consulting enqueue env.backend rows obs (partnerOf alerts obs)
        (dispatchEnrichments env alerts rows obs o).2.entries time) session).1 = .ok false := by
  intro hclaim
  have hskips := hclaim emptyAnswers .empty [abuseIpDbForAll] unattached emptyCache 0 freeSlot
    openedSession openedSession_not_doomed (by decide)
    (turns_emptyAnswers (by decide) succeeds_emptyAnswers) (unexpired_emptyAnswers (by decide))
  have hsource : "abuseipdb" ∈ configuredSourcesFor [abuseIpDbForAll] unattached.type.val
      (partnerOf .empty unattached) := by decide
  have hchecked := ((shouldEnrich_eq_false openedSession_not_doomed).mp hskips).2 _ hsource
  have hfresh := (dispatchFrom_fresh (K := fun _ => True) (fun _ _ _ _ => trivial)
    (turns_emptyAnswers (by decide) succeeds_emptyAnswers)
    (fun key _ hfresh => absurd hfresh (not_fresh_emptyCache key))
    (turns_emptyAnswers (by decide) storedUntil_emptyAnswers) _).mp hchecked
  rcases hfresh with hbefore | hturn
  · exact not_fresh_emptyCache _ hbefore
  · rcases (turnKey_checked hsource).mp hturn with ⟨hvirusTotal, -⟩ | ⟨-, hdigest⟩
    · revert hvirusTotal
      decide
    · revert hdigest
      decide +kernel

end OpenSoar
