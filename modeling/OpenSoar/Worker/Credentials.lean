/-
# `OpenSoar.Worker.Credentials` — the integrations an enrichment works with

`_dispatch_enrichments` of `worker/enrichment.py`: a query of the enabled integrations, and
for each of them one connector that is built, connected, asked and closed.  A failure of the
classes that `_lookup_with_instance` expects skips the integration; any other ends the loop.

The query is narrowed to the tenant of the observable's alert only where there is one.  So
each integration it selects belongs to that tenant or to all of them exactly when the
observable has a tenant, or when no enabled integration that is queried for has one
(`credentials_isolated_iff`).  `_configured_sources_for` narrows its query in both cases.
-/
import OpenSoar.Integrations.Connectors

namespace OpenSoar

open Python

/-! ## `_configured_sources_for` -/

/-- `_SOURCE_TYPE_CAPABILITIES`. -/
def sourceTypeCapabilities (source : String) : List String :=
  if source = "virustotal" then ["ip", "domain", "hash", "url"]
  else if source = "abuseipdb" then ["ip"]
  else if source = "greynoise" then ["ip"]
  else []

/-- `_CACHE_AWARE_SOURCES`. -/
def cacheAwareSources : List String := ["virustotal", "abuseipdb", "greynoise"]

/-- `IntegrationInstance.partner == partner` or `IS NULL`. -/
def servesPartner (partner : String) (integration : IntegrationInstance) : Bool :=
  match integration.partner with
  | none => true
  | some own => own.val = partner

/-- The rows behind the sources. -/
def configuredInstances (rows : List IntegrationInstance) (partner : Option String) :
    List IntegrationInstance :=
  (rows.filter (fun integration =>
    integration.enabled && decide (integration.integrationType.val ∈ cacheAwareSources))).filter
    (fun integration =>
      match partner with
      | some partner => servesPartner partner integration
      | none => integration.partner.isNone)

/-- `_configured_sources_for`: each source once. -/
def configuredSourcesFor (rows : List IntegrationInstance) (obsType : String)
    (partner : Option String) : List String :=
  (((configuredInstances rows partner).map (·.integrationType.val)).filter
    (fun source => decide (obsType ∈ sourceTypeCapabilities source))).eraseDups

/-! ## `_lookup_with_instance` -/

/-- `except (ValueError, TypeError, KeyError, AttributeError)` around the constructor. -/
def ConnectorError.skipsConfig : ConnectorError → Bool
  | .valueError | .typeError | .keyError | .attributeError => true
  | _ => false

/-- `except (OSError, ValueError, RuntimeError, ...)` around `connect` and the lookup. -/
def ConnectorError.skipsLookup : ConnectorError → Bool
  | .osError | .valueError | .runtimeError => true
  | _ => false

/-- `except (OSError, RuntimeError)` around `disconnect`. -/
def ConnectorError.skipsDisconnect : ConnectorError → Bool
  | .osError | .runtimeError => true
  | _ => false

/-- `_invoke_lookup`, up to the call: the method of the connector for the type. -/
def invokeLookup (cls : ConnectorClass) (obsType value : String) : Option Lookup :=
  if obsType = "ip" then
    match cls.method? "lookup_ip" with
    | some method => some (method.lookup value)
    | none => (cls.method? "check_ip").map (·.lookup value)
  else if obsType = "domain" then (cls.method? "lookup_domain").map (·.lookup value)
  else if obsType = "hash" then (cls.method? "lookup_hash").map (·.lookup value)
  else if obsType = "url" then (cls.method? "lookup_url").map (·.lookup value)
  else none

/-- The entry that an answer is stored as. -/
def enrichmentEntry (integration : IntegrationInstance) (data : Json) : Json :=
  .obj [("source", .str integration.integrationType.val), ("data", data),
    ("malicious", .bool false), ("score", .null)]

/-- The lookup, in its `try`. -/
def tryLookup (env : ConnectorEnv) (cls : ConnectorClass) (integration : IntegrationInstance)
    (obs : Observable) (o : Outside) : Except ConnectorError (Option Json) × Outside :=
  match invokeLookup cls obs.type.val obs.value.val with
  | none => (.ok none, o)
  | some lookup =>
      match (lookup.outcome env integration o).result with
      | .ok data =>
          (.ok (if data.isNull then none else some (enrichmentEntry integration data)),
            lookup.after env integration o)
      | .error e =>
          (if e.skipsLookup then .ok none else .error e, lookup.after env integration o)

/-- The `finally` of the lookup. -/
def closing (closed : Except ConnectorError Unit) (answer : Except ConnectorError (Option Json)) :
    Except ConnectorError (Option Json) :=
  match closed with
  | .ok _ => answer
  | .error e => if e.skipsDisconnect then answer else .error e

/-- `_lookup_with_instance`. -/
def lookupWithInstance (env : ConnectorEnv) (cls : ConnectorClass)
    (integration : IntegrationInstance) (obs : Observable) (o : Outside) :
    Except ConnectorError (Option Json) × Outside :=
  match validateConfig integration.config with
  | .error e => (if e.skipsConfig then .ok none else .error e, o)
  | .ok _ =>
      match env.connect integration with
      | .error e => (if e.skipsLookup then .ok none else .error e, o)
      | .ok _ =>
          let (answer, o') := tryLookup env cls integration obs o
          (closing (env.disconnect integration) answer, o')

/-! ## `_dispatch_enrichments` -/

/-- The partner of the observable's alert, where there is such an alert and it has one. -/
def partnerOf (alerts : Table Alert.id) (obs : Observable) : Option String :=
  ((obs.alertId.bind alerts.find?).bind (·.partner)).map (·.val)

/-- The integrations that an enrichment queries for. -/
def Enriches (integration : IntegrationInstance) : Prop :=
  integration.enabled = true ∧ integration.integrationType.val ∈ ["virustotal", "abuseipdb"]

instance (integration : IntegrationInstance) : Decidable (Enriches integration) :=
  inferInstanceAs (Decidable (_ ∧ _))

/-- The query. -/
def enrichmentInstances (alerts : Table Alert.id) (rows : List IntegrationInstance)
    (obs : Observable) : List IntegrationInstance :=
  let query := rows.filter (fun integration => decide (Enriches integration))
  match partnerOf alerts obs with
  | some partner => query.filter (servesPartner partner)
  | none => query

/-- One turn of the loop. -/
def enrichmentTurn (env : ConnectorEnv) (obs : Observable) (integration : IntegrationInstance)
    (o : Outside) : Except ConnectorError (Option Json) × Outside :=
  match getConnector integration.integrationType.val with
  | none => (.ok none, o)
  | some cls => lookupWithInstance env cls integration obs o

/-- The loop over the integrations. -/
def dispatchFrom (env : ConnectorEnv) (obs : Observable) :
    List IntegrationInstance → Outside → Except ConnectorError (List Json) × Outside
  | [], o => (.ok [], o)
  | integration :: rest, o =>
      match enrichmentTurn env obs integration o with
      | (.error e, o') => (.error e, o')
      | (.ok entry, o') =>
          match dispatchFrom env obs rest o' with
          | (.error e, o'') => (.error e, o'')
          | (.ok entries, o'') => (.ok (entry.toList ++ entries), o'')

/-- `_dispatch_enrichments`. -/
def dispatchEnrichments (env : ConnectorEnv) (alerts : Table Alert.id)
    (rows : List IntegrationInstance) (obs : Observable) (o : Outside) :
    Except ConnectorError (List Json) × Outside :=
  dispatchFrom env obs (enrichmentInstances alerts rows obs) o

/-! ## Whose credentials are sent -/

section Dispatch

variable {env : ConnectorEnv} {obs : Observable} {integration : IntegrationInstance} {o : Outside}

theorem requests_after {lookup : Lookup} {request : Request}
    (h : request ∈ (lookup.after env integration o).requests) :
    request ∈ o.requests ∨ request.integration = integration := by
  simp only [Lookup.after] at h
  split at h
  next =>
    rcases List.mem_append.mp h with hbefore | hnew
    · exact Or.inl hbefore
    · cases List.mem_singleton.mp hnew
      exact Or.inr rfl
  next => exact Or.inl h

theorem requests_tryLookup {cls : ConnectorClass} {request : Request}
    (h : request ∈ (tryLookup env cls integration obs o).2.requests) :
    request ∈ o.requests ∨ request.integration = integration := by
  unfold tryLookup at h
  split at h
  next => exact Or.inl h
  next lookup _ =>
    split at h
    next => exact requests_after h
    next => exact requests_after h

/-- A turn sends requests with the credentials of its integration only. -/
theorem requests_enrichmentTurn {request : Request}
    (h : request ∈ (enrichmentTurn env obs integration o).2.requests) :
    request ∈ o.requests ∨ request.integration = integration := by
  unfold enrichmentTurn at h
  split at h
  next => exact Or.inl h
  next cls _ =>
    unfold lookupWithInstance at h
    split at h
    next => exact Or.inl h
    next =>
      split at h
      next => exact Or.inl h
      next => exact requests_tryLookup h

/-- A dispatch sends requests with the credentials of the integrations it loops over. -/
theorem requests_dispatchFrom {integrations : List IntegrationInstance} {request : Request}
    (h : request ∈ (dispatchFrom env obs integrations o).2.requests) :
    request ∈ o.requests ∨ request.integration ∈ integrations := by
  induction integrations generalizing o with
  | nil => exact Or.inl h
  | cons integration rest ih =>
      have hturn : request ∈ (enrichmentTurn env obs integration o).2.requests →
          request ∈ o.requests ∨ request.integration ∈ integration :: rest := by
        intro hmem
        rcases requests_enrichmentTurn hmem with hbefore | rfl
        · exact Or.inl hbefore
        · exact Or.inr List.mem_cons_self
      have hrest : request ∈ (dispatchFrom env obs rest
            (enrichmentTurn env obs integration o).2).2.requests →
          request ∈ o.requests ∨ request.integration ∈ integration :: rest := by
        intro hmem
        rcases ih hmem with hbefore | hlater
        · exact hturn hbefore
        · exact Or.inr (List.mem_cons_of_mem _ hlater)
      unfold dispatchFrom at h
      rcases hend : enrichmentTurn env obs integration o with ⟨e | entry, o'⟩
      · rw [hend] at h hturn
        exact hturn h
      · rw [hend] at h hrest
        refine hrest ?_
        simp only at h
        rcases hdispatch : dispatchFrom env obs rest o' with ⟨e | entries, o''⟩
        · rw [hdispatch] at h
          exact h
        · rw [hdispatch] at h
          exact h

end Dispatch

/-- An integration of the tenant, or of all tenants. -/
def MayUse (partner : Option String) (integration : IntegrationInstance) : Prop :=
  ∀ own, integration.partner = some own → partner = some own.val

theorem mayUse_of_none {partner : Option String} {integration : IntegrationInstance}
    (h : integration.partner = none) : MayUse partner integration := by
  intro own hown
  cases h.symm.trans hown

theorem servesPartner_iff {partner : String} {integration : IntegrationInstance} :
    servesPartner partner integration = true ↔ MayUse (some partner) integration := by
  unfold servesPartner
  split
  next hnone => exact iff_of_true rfl (mayUse_of_none hnone)
  next own hown =>
    rw [decide_eq_true_eq]
    constructor
    · rintro rfl own' hown'
      cases hown.symm.trans hown'
      rfl
    · intro h
      exact (Option.some.inj (h own hown)).symm

/-- **Credential isolation**, and when it holds: the observable's alert has a partner, or
no integration that is queried for has one.  Where it holds, no request is sent with another
tenant's credentials. -/
theorem credentials_isolated_iff (alerts : Table Alert.id) (rows : List IntegrationInstance)
    (obs : Observable) :
    ((∀ integration ∈ enrichmentInstances alerts rows obs,
        MayUse (partnerOf alerts obs) integration) ↔
      (partnerOf alerts obs).isSome = true ∨
        ∀ integration ∈ rows, Enriches integration → integration.partner = none) ∧
    ((∀ integration ∈ enrichmentInstances alerts rows obs,
        MayUse (partnerOf alerts obs) integration) →
      ∀ env o, ∀ request ∈ (dispatchEnrichments env alerts rows obs o).2.requests,
        request ∈ o.requests ∨ MayUse (partnerOf alerts obs) request.integration) := by
  constructor
  · unfold enrichmentInstances
    cases hpartner : partnerOf alerts obs with
    | some partner =>
        refine iff_of_true ?_ (Or.inl rfl)
        intro integration hmem
        exact servesPartner_iff.mp (List.mem_filter.mp hmem).2
    | none =>
        constructor
        · intro hisolated
          refine Or.inr ?_
          intro integration hrow hqueried
          cases hown : integration.partner with
          | none => rfl
          | some own =>
              cases hisolated integration
                (List.mem_filter.mpr ⟨hrow, decide_eq_true hqueried⟩) own hown
        · rintro (hsome | hnone) integration hmem
          · cases hsome
          · obtain ⟨hrow, hqueried⟩ := List.mem_filter.mp hmem
            exact mayUse_of_none (hnone integration hrow (of_decide_eq_true hqueried))
  · intro hisolated env o request hmem
    rcases requests_dispatchFrom hmem with hbefore | hsent
    · exact Or.inl hbefore
    · exact Or.inr (hisolated _ hsent)

/-! ## An observable of no tenant -/

def acmeVirusTotal : IntegrationInstance :=
  ⟨1, .lit "virustotal", some (.lit "acme"), [("api_key", .str "acme-key")], true⟩

def unattached : Observable :=
  ⟨1, .lit "ip", .lit "203.0.113.7", none, .lit "pending", some [], none,
    none⟩

/-- A tenant's key is used for an observable that has no alert. -/
theorem unattached_observable_is_looked_up_by_acme :
    ¬ ∀ (alerts : Table Alert.id) (rows : List IntegrationInstance) (obs : Observable),
      ∀ integration ∈ enrichmentInstances alerts rows obs,
        MayUse (partnerOf alerts obs) integration := by
  intro hclaim
  have hqueried : acmeVirusTotal ∈ enrichmentInstances .empty [acmeVirusTotal] unattached :=
    List.mem_filter.mpr ⟨List.mem_cons_self, by decide⟩
  cases hclaim .empty [acmeVirusTotal] unattached acmeVirusTotal hqueried _ rfl

end OpenSoar
