/-
# `OpenSoar.Api.Observables` — the writers of the table of observables

`create_observable` of `api/observables.py`, `create_incident_observable` of
`api/incidents.py` and `materialise_observables_for_alert`, one after another on one
table.  The first and the last look for a row by type and value and add one where there
is none; the second looks among the rows of its incident only.

As long as no incident is given an observable that is stored elsewhere, no two rows have
the same type and value and every lookup finds one row at most; after it is, each lookup of
that type and value by the other two raises (`lookups_stay_unambiguous`).
-/
import OpenSoar.Api.IncidentUpdates
import OpenSoar.Worker.Materialise

namespace OpenSoar

open Python

structure ObservableCreate where
  type : String
  value : String
  source : Option String
  alertId : Option String
  incidentId : Option String

/-! ## The rows -/

/-- `uuid.UUID(text) if text else None`. -/
def optionalUuid (py : PyText) (given : Option String) : Except Raised (Option Uuid) :=
  match truthy given with
  | none => .ok none
  | some text =>
      match Uuid.ofText? py text with
      | none => .error (.valueError "badly formed hexadecimal UUID string")
      | some id => .ok (some id)

/-- `Observable(...)`, not flushed yet. -/
def ObservableCreate.object (data : ObservableCreate) (alertId incidentId : Option Uuid) :
    ObservableObject where
  id := none
  type := data.type
  value := data.value
  source := data.source
  enrichmentStatus := none
  enrichments := none
  alertId := alertId
  incidentId := incidentId

/-- The row that a flush inserts, with the defaults of the columns; the foreign keys are
checked with it. -/
def ObservableObject.row (s : Store) (observableId : Uuid) (o : ObservableObject) :
    Except Raised Observable := do
  let type ← column 50 o.type
  let value ← column 1000 o.value
  let source ← o.source.mapM (column 100)
  if !o.alertId.all (fun i => (s.alerts.find? i).isSome) then
    .error (.refusedByDatabase
      "insert on table observables violates foreign key constraint fk_observables_alert_id_alerts")
  else if !o.incidentId.all (fun i => (s.incidents.find? i).isSome) then
    .error (.refusedByDatabase
      ("insert on table observables violates foreign key constraint " ++
        "fk_observables_incident_id_incidents"))
  else pure {
    id := observableId
    type := type
    value := value
    source := source
    enrichmentStatus := .lit "pending"
    enrichments := some []
    alertId := o.alertId
    incidentId := o.incidentId }

/-! ## The requests -/

/-- `create_observable`. -/
def createObservable (py : PyText) (app : App) (observableId : Uuid) (data : ObservableCreate)
    (caller : Option Analyst) (s : Store) : Except Raised (Store × Observable) := do
  let analyst ← requirePermission .observablesManage caller
  match ← scalarOneOrNone (matching s.observables (data.type, data.value)) with
  | some obs => pure (s, obs)
  | none =>
      let alertId ← optionalUuid py data.alertId
      let incidentId ← optionalUuid py data.incidentId
      let obs := data.object alertId incidentId
      enforceTenantAccess app (.observable obs) "create" (some analyst)
      let row ← obs.row s observableId
      pure ({ s with observables := s.observables ++ [row] }, row)

def observableAdded (analyst : Analyst) (incidentId : Uuid) (data : ObservableCreate) : Activity :=
  incidentActivity analyst incidentId (.lit "observable_added")
    ("Added observable " ++ data.type ++ ":" ++ data.value)
    [("observable_type", .str data.type), ("observable_value", .str data.value)]

/-- The rows under a type and value that belong to the incident. -/
def matchingIncident (observables : List Observable) (c : String × String) (incidentId : Uuid) :
    List Observable :=
  (matching observables c).filter (fun o => decide (o.incidentId = some incidentId))

/-- `create_incident_observable`. -/
def createIncidentObservable (app : App) (now : Timestamp) (observableId incidentId : Uuid)
    (data : ObservableCreate) (caller : Option Analyst) (s : Store) :
    Except Raised (Store × Observable) := do
  let analyst ← requirePermission .observablesManage caller
  let incident ← orRaise (s.incidents.find? incidentId) (.httpException 404 "Incident not found")
  enforceTenantAccess app (.incident incident.toIncident) "update" (some analyst)
  match ← scalarOneOrNone (matchingIncident s.observables (data.type, data.value) incidentId) with
  | some observable => pure (s, observable)
  | none =>
      let observable := data.object none (some incidentId)
      enforceTenantAccess app (.observable observable) "create" (some analyst)
      let row ← observable.row s observableId
      pure ({ s with
        observables := s.observables ++ [row]
        activities := s.activities ++ [newActivity now (observableAdded analyst incidentId data)] },
        row)

/-! ## The system -/

inductive ObservableOp where
  | createObservable (observableId : Uuid) (data : ObservableCreate) (caller : Option Analyst)
  | createIncidentObservable (observableId incidentId : Uuid) (data : ObservableCreate)
      (caller : Option Analyst)
  | materialise (observableId : String × String → Uuid) (alert : Alert)

structure ObservableEvent where
  now : Timestamp
  op : ObservableOp

/-- One operation on the store, in a transaction of its own. -/
def observableStep (py : PyText) (app : App) (s : Store) (event : ObservableEvent) :
    Except Raised Store :=
  match event.op with
  | .createObservable observableId data caller =>
      (createObservable py app observableId data caller s).map Prod.fst
  | .createIncidentObservable observableId incidentId data caller =>
      (createIncidentObservable app event.now observableId incidentId data caller s).map Prod.fst
  | .materialise observableId alert =>
      (materialiseAlone observableId alert s.observables).map
        (fun t => { s with observables := t.observables })

/-- The incident is given an observable that is stored under other incidents, or under none. -/
def AddsKnownPair (s : Store) (event : ObservableEvent) : Prop :=
  match event.op with
  | .createIncidentObservable _ incidentId data _ =>
      matching s.observables (data.type, data.value) ≠ [] ∧
        matchingIncident s.observables (data.type, data.value) incidentId = []
  | _ => False

/-- A lookup by type and value finds more than one row. -/
def LookupFails (s : Store) (event : ObservableEvent) : Prop :=
  match event.op with
  | .createObservable _ data _ =>
      scalarOneOrNone (matching s.observables (data.type, data.value))
        = .error .multipleResultsFound
  | .materialise observableId alert =>
      materialiseAlone observableId alert s.observables = .error .multipleResultsFound
  | .createIncidentObservable _ _ _ _ => False

section Step

variable {py : PyText} {app : App} {s s' : Store}

theorem ObservableObject.pair_row {o : ObservableObject} {observableId : Uuid} {row : Observable}
    (h : o.row s observableId = .ok row) : row.pair = (o.type, o.value) := by
  obtain ⟨type, htype, h⟩ := bind_ok h
  obtain ⟨value, hvalue, h⟩ := bind_ok h
  obtain ⟨source, -, h⟩ := bind_ok h
  split at h
  · cases h
  split at h
  · cases h
  cases h
  exact Prod.ext (column_val htype) (column_val hvalue)

/-- A row is added under a pair that has none, or none is. -/
theorem createObservable_observables {observableId : Uuid} {data : ObservableCreate}
    {caller : Option Analyst} {row : Observable}
    (h : createObservable py app observableId data caller s = .ok (s', row)) :
    s'.observables = s.observables ∨
      (IsNew s.observables (data.type, data.value) ∧ row.pair = (data.type, data.value) ∧
        s'.observables = s.observables ++ [row]) := by
  obtain ⟨analyst, -, h⟩ := bind_ok h
  obtain ⟨found, hfound, h⟩ := bind_ok h
  cases found with
  | some obs =>
      cases h
      exact Or.inl rfl
  | none =>
      obtain ⟨alertId, -, h⟩ := bind_ok h
      obtain ⟨incidentId, -, h⟩ := bind_ok h
      obtain ⟨⟨⟩, -, h⟩ := bind_ok h
      obtain ⟨row', hrow, h⟩ := bind_ok h
      cases h
      exact Or.inr ⟨scalarOneOrNone_ok hfound, ObservableObject.pair_row hrow, rfl⟩

theorem createIncidentObservable_observables {now : Timestamp} {observableId incidentId : Uuid}
    {data : ObservableCreate} {caller : Option Analyst} {row : Observable}
    (h : createIncidentObservable app now observableId incidentId data caller s = .ok (s', row)) :
    (matchingIncident s.observables (data.type, data.value) incidentId ≠ [] ∧
        s'.observables = s.observables) ∨
      (matchingIncident s.observables (data.type, data.value) incidentId = [] ∧
        row.pair = (data.type, data.value) ∧ s'.observables = s.observables ++ [row]) := by
  obtain ⟨analyst, -, h⟩ := bind_ok h
  obtain ⟨incident, -, h⟩ := bind_ok h
  obtain ⟨⟨⟩, -, h⟩ := bind_ok h
  obtain ⟨found, hfound, h⟩ := bind_ok h
  have hrows := scalarOneOrNone_ok hfound
  cases found with
  | some observable =>
      cases h
      rw [hrows]
      exact Or.inl ⟨List.cons_ne_nil _ _, rfl⟩
  | none =>
      obtain ⟨⟨⟩, -, h⟩ := bind_ok h
      obtain ⟨row', hrow, h⟩ := bind_ok h
      cases h
      exact Or.inr ⟨hrows, ObservableObject.pair_row hrow, rfl⟩

/-- **One operation.**  It keeps the table unambiguous, unless it gives an incident an
observable that is stored elsewhere. -/
theorem step_unambiguous {event : ObservableEvent} (hs : Unambiguous s.observables)
    (hkeep : ¬ AddsKnownPair s event) (h : observableStep py app s event = .ok s') :
    Unambiguous s'.observables := by
  obtain ⟨now, op⟩ := event
  cases op with
  | createObservable observableId data caller =>
      obtain ⟨⟨_, row⟩, hresult, rfl⟩ := map_ok h
      rcases createObservable_observables hresult with hsame | ⟨hnew, hpair, hadded⟩
      · rw [hsame]
        exact hs
      · rw [hadded]
        exact hs.append hpair hnew
  | createIncidentObservable observableId incidentId data caller =>
      obtain ⟨⟨_, row⟩, hresult, rfl⟩ := map_ok h
      rcases createIncidentObservable_observables hresult with ⟨-, hsame⟩ | ⟨hnone, hpair, hadded⟩
      · rw [hsame]
        exact hs
      · rw [hadded]
        refine hs.append hpair ?_
        by_contra hknown
        exact hkeep ⟨hknown, hnone⟩
  | materialise observableId alert =>
      obtain ⟨t, hresult, rfl⟩ := map_ok h
      exact (materialiseFrom_unambiguous hs).1 t hresult

/-- In an unambiguous table no lookup fails. -/
theorem not_lookupFails (hs : Unambiguous s.observables) (event : ObservableEvent) :
    ¬ LookupFails s event := by
  obtain ⟨now, op⟩ := event
  cases op with
  | createObservable observableId data caller =>
      intro hfails
      have hone := length_matching_le_one hs (data.type, data.value)
      have hmany := (scalarOneOrNone_error hfails).2
      omega
  | createIncidentObservable _ _ _ _ => exact id
  | materialise observableId alert => exact (materialiseFrom_unambiguous hs).2

end Step

/-- **Lookups by type and value stay unambiguous, as long as incidents are given new
observables only.**  In every run from an unambiguous table in which no step gives an
incident an observable that is stored elsewhere, no lookup of a later `create_observable`
or materialisation finds more than one row; and after an accepted step that does so, every
`create_observable` with that type and value fails. -/
theorem lookups_stay_unambiguous {py : PyText} {app : App} {s : Store}
    (hs : Unambiguous s.observables) :
    (∀ es, Along (observableStep py app) (fun s event => ¬ AddsKnownPair s event) s es →
      ∀ event, ¬ LookupFails (run (observableStep py app) s es) event) ∧
    ∀ es now observableId incidentId data caller s₁,
      AddsKnownPair (run (observableStep py app) s es)
        ⟨now, .createIncidentObservable observableId incidentId data caller⟩ →
      observableStep py app (run (observableStep py app) s es)
        ⟨now, .createIncidentObservable observableId incidentId data caller⟩ = .ok s₁ →
      ∀ later laterId laterData laterCaller, laterData.type = data.type →
        laterData.value = data.value →
        LookupFails s₁ ⟨later, .createObservable laterId laterData laterCaller⟩ := by
  constructor
  · intro es hkeep
    refine not_lookupFails ?_
    exact run_inv (observableStep py app) (I := fun s => Unambiguous s.observables)
      (fun _ _ _ hs hk hstep => step_unambiguous hs hk hstep) es s hs hkeep
  · intro es now observableId incidentId data caller s₁ ⟨hknown, hnone⟩ hstep later laterId
      laterData laterCaller htype hvalue
    obtain ⟨⟨_, row⟩, hresult, rfl⟩ := map_ok hstep
    rcases createIncidentObservable_observables hresult with ⟨hsome, -⟩ | ⟨-, hpair, hadded⟩
    · exact absurd hnone hsome
    · show scalarOneOrNone (matching _ (laterData.type, laterData.value)) = _
      rw [htype, hvalue]
      refine scalarOneOrNone_many ?_
      have hrow : matching [row] (data.type, data.value) = [row] := by
        rw [matching_eq, List.filter_singleton, decide_eq_true hpair]
        rfl
      have hbefore := List.length_pos_iff.mpr hknown
      simp only [hadded]
      rw [matching_eq, List.filter_append, ← matching_eq, ← matching_eq, hrow, List.length_append,
        List.length_singleton]
      omega

/-! ## One indicator in two incidents -/

def openIncident (incidentId : Uuid) : IncidentRow where
  id := incidentId
  title := .lit "Phishing"
  description := none
  severity := .lit "medium"
  status := .lit "open"
  tags := none
  assignedTo := none
  assignedUsername := none
  closedAt := none
  createdAt := 0
  archivedAt := none

def twoIncidents : Store :=
  { Store.empty with incidents := ⟨[openIncident 1, openIncident 2], by decide⟩ }

def address : ObservableCreate := ⟨"ip", "203.0.113.7", none, none, none⟩

def addressIn (observableId incidentId : Uuid) : ObservableEvent :=
  ⟨0, .createIncidentObservable observableId incidentId address (some administrator)⟩

theorem lookups_stay_unambiguous_of_one_incident :
    ¬ LookupFails (run (observableStep .ascii .core) twoIncidents [addressIn 10 1])
      ⟨0, .createObservable 11 address (some administrator)⟩ := by
  refine (@lookups_stay_unambiguous .ascii .core twoIncidents List.nodup_nil).1
    [addressIn 10 1] ⟨?_, trivial⟩ _
  rintro ⟨hknown, -⟩
  exact hknown rfl
/-- An indicator that two incidents share cannot be created any more. -/
theorem shared_indicator_makes_lookups_fail :
    ¬ ∀ (es : List ObservableEvent) (event : ObservableEvent),
      ¬ LookupFails (run (observableStep .ascii .core) twoIncidents es) event := by
  intro hclaim
  refine hclaim [addressIn 10 1, addressIn 11 2]
    ⟨0, .createObservable 12 address (some administrator)⟩ ?_
  exact scalarOneOrNone_many (by decide +kernel)

end OpenSoar
