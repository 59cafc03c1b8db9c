/-
# `OpenSoar.Lifecycle.Incidents` — the trail and the closing time of an incident

Runs of `update_incident`, over any number of incidents.  A request that returns appends one
activity for each tracked column whose value it changed (`auditOf`), and the trail of a run is
what its accepted requests appended (`incident_trail_complete`).  `closed_at` is the time of the
last step into `closed` (`closed_at_exact`), as long as no request empties the status of a
closed incident: `update.status and ...` takes the empty status for none.
-/
import OpenSoar.Api.IncidentUpdates
import OpenSoar.Api.Observables

namespace OpenSoar

open Python

/-! ## When an update goes through -/

/-- The field gives a value, and not the empty one, if it gives anything. -/
def Field.Filled (field : Field String) : Prop :=
  ∀ given, field = some given → ∃ value, given = some value ∧ value ≠ ""

/-- The values that a body gives are neither `null` nor empty, and the assignee is named by a
UUID. -/
structure IncidentUpdate.Filled (py : PyText) (update : IncidentUpdate) : Prop where
  title : update.title.Filled
  description : update.description.Filled
  severity : update.severity.Filled
  status : update.status.Filled
  assignedTo : update.assignedTo.WellFormed py
  tags : update.tags.NotNull

/-- The columns take the strings that the body gives: of those without a U+0000, which are all
strings here, the ones that are not too long. -/
structure IncidentUpdate.Fits (update : IncidentUpdate) : Prop where
  title : update.title.Fits 500
  severity : update.severity.Fits 20
  status : update.status.Fits 20

theorem Field.Filled.notNull {field : Field String} (h : field.Filled) : field.NotNull := by
  intro hnull
  obtain ⟨value, hvalue, -⟩ := h none hnull
  cases hvalue

section Row

variable {py : PyText} {analysts : Table Analyst.id} {now : Timestamp} {analyst : Analyst}
variable {update : IncidentUpdate} {old new : IncidentRow} {activities : List Activity}

theorem assignIncident_returns {assignedTo : Field String}
    (h : assignedTo.WellFormed py) : Returns (assignIncident py analysts assignedTo old) := by
  cases assignedTo with
  | none => exact returns_ok old
  | some given =>
      cases htext : truthy given with
      | none =>
          rw [assignIncident, htext]
          exact returns_ok _
      | some text =>
          obtain ⟨id, hid⟩ := Option.isSome_iff_exists.mp (h text htext)
          simp only [assignIncident, htext, hid]
          cases analysts.find? id with
          | none => exact returns_ok old
          | some assignee => exact returns_ok _

theorem updateIncidentRow_returns (hfilled : update.Filled py) (hfits : update.Fits) :
    Returns (updateIncidentRow py analysts now analyst update old) := by
  have hassign : Returns (assignIncident py analysts update.assignedTo old) :=
    assignIncident_returns hfilled.assignedTo
  obtain ⟨assigned, hassigned⟩ := hassign
  have htitle : Returns (update.title.assign assigned.title) :=
    Field.assign_returns.mpr ⟨hfilled.title.notNull, hfits.title⟩
  have hseverity : Returns (update.severity.assign assigned.severity) :=
    Field.assign_returns.mpr ⟨hfilled.severity.notNull, hfits.severity⟩
  have hstatus : Returns (update.status.assign assigned.status) :=
    Field.assign_returns.mpr ⟨hfilled.status.notNull, hfits.status⟩
  obtain ⟨title, htitle⟩ := htitle
  obtain ⟨severity, hseverity⟩ := hseverity
  obtain ⟨status, hstatus⟩ := hstatus
  refine returns_bind.mpr ⟨assigned, hassigned, returns_bind.mpr ?_⟩
  exact ⟨_, (bind_of_ok htitle).trans ((bind_of_ok hseverity).trans (bind_of_ok hstatus)),
    returns_ok _⟩

end Row

/-! ## The trail -/

/-- The activities that two versions of an incident call for: one for each tracked column that
has another value. -/
def auditOf (analyst : Analyst) (old new : IncidentRow) : List Activity :=
  (if new.status = old.status then []
    else [incidentActivity analyst old.id statusChange
      ("Status changed from " ++ old.status.val ++ " to " ++ new.status.val)
      (changeOf old.status.val new.status.val)])
  ++ ((if new.severity = old.severity then []
    else [incidentActivity analyst old.id severityChange
      ("Severity changed from " ++ old.severity.val ++ " to " ++ new.severity.val)
      (changeOf old.severity.val new.severity.val)])
  ++ (if new.assignedTo = old.assignedTo then []
    else [incidentActivity analyst old.id assignedAction (assignmentDetail old new)
      [("old", .ofOption (old.assignedTo.map Uuid.toText)),
       ("new", .ofOption (new.assignedTo.map Uuid.toText)),
       ("old_username", .ofOption (old.assignedUsername.map (·.val))),
       ("new_username", .ofOption (new.assignedUsername.map (·.val)))]]))

section Trail

variable {py : PyText} {analysts : Table Analyst.id} {now : Timestamp} {analyst : Analyst}
variable {update : IncidentUpdate} {old new : IncidentRow} {activities : List Activity}

/-- A column that the body fills is logged when it has changed. -/
theorem incidentChange_of_filled {n : Nat} {field : Field String} {before after : Varchar n}
    (hfilled : field.Filled) (h : field.assign before = .ok after) (incidentId : Uuid)
    (action : Varchar 50) (detail : String → String) :
    incidentChange analyst incidentId action field.join before.val detail =
      if after = before then []
      else [incidentActivity analyst incidentId action (detail after.val)
        (changeOf before.val after.val)] := by
  cases field with
  | none =>
      cases h
      exact (if_pos rfl).symm
  | some given =>
      obtain ⟨value, rfl, hvalue⟩ := hfilled given rfl
      have hval : after.val = value := column_val h
      subst hval
      have htruthy : truthy (some after.val) = some after.val := truthy_eq_some.mpr ⟨rfl, hvalue⟩
      show incidentChange analyst incidentId action (some after.val) before.val detail = _
      rw [incidentChange, htruthy]
      by_cases hsame : after = before
      · have hval : after.val = before.val := congrArg Varchar.val hsame
        simp only [hsame, ne_eq, not_true_eq_false, if_false, if_true]
      · have hval : after.val ≠ before.val := fun h => hsame (Varchar.ext_val h)
        simp only [hsame, hval, ne_eq, not_false_eq_true, if_false, if_true]

/-- An assignment that changed the row was in the body, and was not a `null` on an incident
that nobody had. -/
theorem assignIncident_changed {assignedTo : Field String} {assigned : IncidentRow}
    (h : assignIncident py analysts assignedTo old = .ok assigned)
    (hchanged : assigned.assignedTo ≠ old.assignedTo) :
    assignedTo.join.isSome = true ∨ assignedTo = some none ∧ old.assignedTo.isSome = true := by
  rcases assignedTo with - | - | text
  · cases h
    exact absurd rfl hchanged
  · cases h
    refine Or.inr ⟨rfl, Option.isSome_iff_ne_none.mpr (fun hnone => hchanged ?_)⟩
    rw [hnone]
  · exact Or.inl rfl

/-- **The trail of a request.**  What is appended is what the two versions call for. -/
theorem updateIncidentRow_audit (hfilled : update.Filled py)
    (h : updateIncidentRow py analysts now analyst update old = .ok (new, activities)) :
    activities = auditOf analyst old new := by
  obtain ⟨assigned, hassigned, h⟩ := bind_ok h
  obtain ⟨updated, hupdated, h⟩ := bind_ok h
  have hchanged := @assignIncident_changed _ _ _ _ _ hassigned
  obtain ⟨target, username, rfl⟩ := assignIncident_ok hassigned
  obtain ⟨title, -, hupdated⟩ := bind_ok hupdated
  obtain ⟨severity, hseverity, hupdated⟩ := bind_ok hupdated
  obtain ⟨status, hstatus, hupdated⟩ := bind_ok hupdated
  cases hupdated
  cases h
  have hassignment : ∀ entry : Activity,
      (if (update.assignedTo.join.isSome = true ∨
            update.assignedTo = some none ∧ old.assignedTo.isSome = true) ∧
          target ≠ old.assignedTo then [entry] else []) =
        if target = old.assignedTo then [] else [entry] := by
    intro entry
    by_cases hsame : target = old.assignedTo
    · rw [if_pos hsame, if_neg (fun h => h.2 hsame)]
    · rw [if_neg hsame, if_pos ⟨hchanged hsame, hsame⟩]
  rw [auditOf, incidentStatusChanged, incidentSeverityChanged, incidentAssigned,
    incidentChange_of_filled hfilled.status hstatus,
    incidentChange_of_filled hfilled.severity hseverity]
  exact congrArg _ (congrArg _ (hassignment _))

end Trail

/-! ## Runs -/

/-- A `PATCH /incidents/{incident_id}`, and when it comes in. -/
structure IncidentRequest where
  now : Timestamp
  incidentId : Uuid
  update : IncidentUpdate
  caller : Option Analyst

def incidentStep (py : PyText) (app : App) (s : Store) (request : IncidentRequest) :
    Except Raised Store :=
  (updateIncident py app request.now request.incidentId request.update request.caller s).map
    Prod.fst

/-- The rows that the change of an accepted request calls for. -/
def auditRows (accepted : Accepted Store IncidentRequest) : List ActivityRow :=
  match accepted.op.caller, accepted.before.incidents.find? accepted.op.incidentId,
      accepted.after.incidents.find? accepted.op.incidentId with
  | some analyst, some old, some new =>
      (auditOf analyst old new).map (newActivity accepted.op.now)
  | _, _, _ => []

section Runs

variable {py : PyText} {app : App}

/-- A request that the columns take is answered: it returns, or it lays the fault on the
client. -/
theorem incidentStep_answered (hrefuses : RefusesWithAnswer app) {request : IncidentRequest}
    (hfilled : request.update.Filled py) (hfits : request.update.Fits) {s : Store} {e : Raised}
    (h : incidentStep py app s request = .error e) : e.IsClientError := by
  have herror : updateIncident py app request.now request.incidentId request.update
      request.caller s = .error e := by
    cases hresult : updateIncident py app request.now request.incidentId request.update
        request.caller s with
    | ok result =>
        rw [incidentStep, hresult] at h
        cases h
    | error e' =>
        rw [incidentStep, hresult] at h
        cases h
        rfl
  rcases bind_error herror with hcaller | ⟨analyst, -, hrest⟩
  · exact requirePermission_error hcaller
  rcases bind_error hrest with hmissing | ⟨old, -, hrest⟩
  · cases hfound : s.incidents.find? request.incidentId with
    | none =>
        rw [hfound] at hmissing
        cases hmissing
        exact ⟨by decide, by decide⟩
    | some row =>
        rw [hfound] at hmissing
        cases hmissing
  rcases bind_error hrest with hrefused | ⟨_, -, hrest⟩
  · exact hrefuses _ _ _ _ hrefused
  · obtain ⟨result, hresult⟩ := @updateIncidentRow_returns py s.analysts request.now analyst
      request.update old hfilled hfits
    rw [bind_of_ok hresult] at hrest
    cases hrest

/-- What an accepted request appends. -/
theorem incidentStep_trail {s s' : Store} {request : IncidentRequest}
    (hfilled : request.update.Filled py) (h : incidentStep py app s request = .ok s') :
    s'.activities = s.activities ++ auditRows ⟨s, request, s'⟩ := by
  obtain ⟨⟨_, new⟩, hupdate, rfl⟩ := map_ok h
  have hrow := updateIncident_row hupdate request.incidentId
  obtain ⟨analyst, hanalyst, hrest⟩ := bind_ok hupdate
  obtain ⟨old, hload, hrest⟩ := bind_ok hrest
  obtain ⟨-, -, hrest⟩ := bind_ok hrest
  obtain ⟨⟨_, activities⟩, hresult, hrest⟩ := bind_ok hrest
  cases hrest
  rcases hrow with ⟨hne, -⟩ | ⟨-, -, -, -, hnew⟩
  · exact absurd rfl hne
  · simp only [auditRows, (requirePermission_ok hanalyst).1, orRaise_ok hload, hnew]
    rw [← updateIncidentRow_audit hfilled hresult]
    rfl

/-- **The audit of incidents is complete.**  In every run of requests whose values the columns
take, each request is answered, and the trail grows by what the accepted ones changed. -/
theorem incident_trail_complete (hrefuses : RefusesWithAnswer app)
    {requests : List IncidentRequest}
    (hbodies : ∀ request ∈ requests, request.update.Filled py ∧ request.update.Fits) (s : Store) :
    (∀ before request after e, requests = before ++ request :: after →
        incidentStep py app (run (incidentStep py app) s before) request = .error e →
        e.IsClientError) ∧
      (run (incidentStep py app) s requests).activities =
        s.activities ++ (trace (incidentStep py app) s requests).flatMap auditRows := by
  constructor
  · intro before request after e hrequests h
    have hmem : request ∈ requests := hrequests ▸ List.mem_append_right _ List.mem_cons_self
    exact incidentStep_answered hrefuses (hbodies request hmem).1 (hbodies request hmem).2 h
  · have hfilled : Along (incidentStep py app) (fun _ request => request.update.Filled py) s
        requests := along_of_forall _ (fun request hmem _ => (hbodies request hmem).1) s
    exact run_log_along _ Store.activities auditRows
      (fun _ _ _ hC h => incidentStep_trail hC h) requests s hfilled

/-- A body that gives a status and nothing else. -/
def statusOnly (status : String) : IncidentUpdate :=
  { IncidentUpdate.none with status := some (some status) }

theorem statusOnly_filled {status : String} (h : status ≠ "") :
    (statusOnly status).Filled py where
  title := nofun
  description := nofun
  severity := nofun
  status := by
    rintro _ ⟨⟩
    exact ⟨status, rfl, h⟩
  assignedTo := nofun
  tags := nofun

theorem statusOnly_fits {status : String} (h : status.length ≤ 20) : (statusOnly status).Fits where
  title := nofun
  severity := nofun
  status := by
    rintro _ ⟨⟩
    exact h

theorem incident_trail_of_closing :
    (run (incidentStep .ascii .core) twoIncidents
      [⟨5, 1, statusOnly "closed", some administrator⟩]).activities.map (·.action.val) =
        ["status_change"] := by
  rw [(incident_trail_complete refusesWithAnswer_core ?_ twoIncidents).2]
  · rfl
  · intro request hmem
    rw [List.mem_singleton.mp hmem]
    exact ⟨statusOnly_filled (by decide), statusOnly_fits (by decide)⟩

/-- A status that is too long for its column gets no answer. -/
theorem long_status_is_not_answered :
    ¬ ∀ (py : PyText) (app : App) (s : Store) (request : IncidentRequest) (e : Raised),
      RefusesWithAnswer app → request.update.Filled py →
      incidentStep py app s request = .error e → e.IsClientError := by
  intro h
  exact h .ascii .core twoIncidents
    ⟨0, 1, statusOnly "awaiting_confirmation", some administrator⟩
    (.refusedByDatabase "value too long for type character varying(20)") refusesWithAnswer_core
    (statusOnly_filled (by decide)) rfl

end Runs

/-! ## The closing time -/

/-- The incident is closed, as far as its status goes. -/
def IsClosed (i : Uuid) (s : Store) : Bool :=
  (s.incidents.find? i).any (fun incident => incident.status.val = "closed")

/-- `closed_at` is set on a closed incident and on no other, and is the time at which it was
closed last. -/
structure ClosedExactly (incident : IncidentRow) (closed : Option Timestamp) : Prop where
  isSome_iff : incident.closedAt.isSome = true ↔ incident.status.val = "closed"
  time : incident.status.val = "closed" → incident.closedAt = closed

/-- The request does not empty the status of the incident while it is closed. -/
def KeepsStatus (i : Uuid) (s : Store) (request : IncidentRequest) : Prop :=
  ¬ (request.incidentId = i ∧ request.update.status = some (some "") ∧ IsClosed i s = true)

/-- A new incident, which is open, has never been closed. -/
theorem closedExactly_of_open {incident : IncidentRow} (hstatus : incident.status.val ≠ "closed")
    (hclosedAt : incident.closedAt = none) : ClosedExactly incident none where
  isSome_iff := iff_of_false (by rw [hclosedAt]; exact Bool.false_ne_true) hstatus
  time h := absurd h hstatus

/-- A body without a status leaves the stamp alone. -/
theorem IncidentUpdated.closedAt_absent {now : Timestamp} {update : IncidentUpdate}
    {old new : IncidentRow} (h : IncidentUpdated now update old new)
    (hstatus : update.status = none) : new.closedAt = old.closedAt := by
  rw [h.closedAt, hstatus]
  rfl

theorem IncidentUpdated.closedAt_closed {now : Timestamp} {update : IncidentUpdate}
    {old new : IncidentRow} (h : IncidentUpdated now update old new)
    (hstatus : update.status = some (some "closed")) :
    new.closedAt = if old.closedAt = none then some now else old.closedAt := by
  rw [h.closedAt, hstatus]
  by_cases hopen : old.closedAt = none
  · rw [if_pos ⟨rfl, hopen⟩, if_pos hopen]
  · rw [if_neg (fun h => hopen h.2), if_neg hopen]
    rfl

/-- Every other status clears the stamp, apart from the empty one, which is taken for none. -/
theorem IncidentUpdated.closedAt_other {now : Timestamp} {update : IncidentUpdate}
    {old new : IncidentRow} {value : String} (h : IncidentUpdated now update old new)
    (hstatus : update.status = some (some value)) (hvalue : value ≠ "closed") :
    new.closedAt = if value = "" then old.closedAt else none := by
  have hnot : ¬ ((some (some value)).join = some "closed" ∧ old.closedAt = none) :=
    fun h => hvalue (Option.some.inj h.1)
  rw [h.closedAt, hstatus, if_neg hnot]
  by_cases hempty : value = ""
  · subst hempty
    rw [if_pos rfl]
    rfl
  · have hgiven : truthy (some value) = some value := truthy_eq_some.mpr ⟨rfl, hempty⟩
    have htruthy : (truthy (some (some value)).join).any (· ≠ "closed") = true := by
      show (truthy (some value)).any (· ≠ "closed") = true
      rw [hgiven, Option.any_some, decide_eq_true_eq]
      exact hvalue
    rw [if_pos htruthy, if_neg hempty]

/-- **One update.**  The status the body gives decides, unless it is empty; then the columns
are kept, which is right for an incident that is not closed. -/
theorem IncidentUpdated.closedExactly {now : Timestamp} {update : IncidentUpdate}
    {old new : IncidentRow} {closed : Option Timestamp} (h : IncidentUpdated now update old new)
    (hold : ClosedExactly old closed)
    (hkeeps : ¬ (update.status = some (some "") ∧ old.status.val = "closed")) :
    ClosedExactly new
      (if old.status.val ≠ "closed" ∧ new.status.val = "closed" then some now else closed) := by
  rcases Field.assign_ok h.status with ⟨hnone, hsame⟩ | ⟨value, hgiven, hvalue⟩
  · have hkept := h.closedAt_absent hnone
    rw [hsame, if_neg (fun h => h.1 h.2)]
    exact ⟨by rw [hkept, hsame]; exact hold.isSome_iff,
      fun hclosed => hkept.trans (hold.time (hsame ▸ hclosed))⟩
  · rw [hvalue]
    by_cases hcloses : value = "closed"
    · subst hcloses
      have hstamp := h.closedAt_closed hgiven
      by_cases hwas : old.status.val = "closed"
      · -- Closed already: the stamp is kept.
        have hstamped := hold.isSome_iff.mpr hwas
        rw [if_neg (Option.isSome_iff_ne_none.mp hstamped)] at hstamp
        rw [if_neg (fun h => h.1 hwas)]
        exact ⟨by rw [hstamp]; exact iff_of_true hstamped hvalue,
          fun _ => hstamp.trans (hold.time hwas)⟩
      · have hopen : old.closedAt = none := by
          rw [← Option.not_isSome_iff_eq_none]
          exact fun hstamped => hwas (hold.isSome_iff.mp hstamped)
        rw [if_pos hopen] at hstamp
        rw [if_pos ⟨hwas, rfl⟩]
        exact ⟨by rw [hstamp]; exact iff_of_true rfl hvalue, fun _ => hstamp⟩
    · have hnew : new.status.val ≠ "closed" := fun h => hcloses (hvalue.symm.trans h)
      rw [if_neg (fun h => hcloses h.2)]
      refine ⟨iff_of_false ?_ hnew, fun h => absurd h hnew⟩
      rw [h.closedAt_other hgiven hcloses]
      by_cases hempty : value = ""
      · -- The empty status: nothing was stamped, since the incident was not closed.
        subst hempty
        rw [if_pos rfl]
        exact fun hstamped => hkeeps ⟨hgiven, hold.isSome_iff.mp hstamped⟩
      · rw [if_neg hempty]
        exact Bool.false_ne_true

section Runs

variable {py : PyText} {app : App} {i : Uuid}

/-- **`closed_at` is exact.**  After every run in which no request empties the status of the
incident while it is closed, its `closed_at` is set when it is closed and not otherwise, and is
the time of the last step into `closed`. -/
theorem closed_at_exact {s : Store} {incident : IncidentRow} {closed : Option Timestamp}
    (hfind : s.incidents.find? i = some incident) (hstart : ClosedExactly incident closed)
    {requests : List IncidentRequest}
    (hkeeps : Along (incidentStep py app) (KeepsStatus i) s requests) :
    ∃ incident', (run (incidentStep py app) s requests).incidents.find? i = some incident' ∧
      ClosedExactly incident' (lastRise (incidentStep py app) (IsClosed i) IncidentRequest.now s
        requests closed) := by
  refine run_inv_rise (incidentStep py app) (IsClosed i) IncidentRequest.now
    (I := fun s closed => ∃ incident, s.incidents.find? i = some incident ∧
      ClosedExactly incident closed) ?_ requests s closed ⟨incident, hfind, hstart⟩ hkeeps
  rintro s request s' closed ⟨old, hold, hexact⟩ hkeeps hstep
  obtain ⟨⟨_, new⟩, hupdate, rfl⟩ := map_ok hstep
  have hwas : IsClosed i s = decide (old.status.val = "closed") := by
    rw [IsClosed, hold, Option.any_some]
  rcases updateIncident_row hupdate i with ⟨hne, hsame⟩ | ⟨rfl, old', hold', hupdated, hnew⟩
  · have hstays : IsClosed i _ = IsClosed i s := congrArg (fun row => Option.any _ row) hsame
    refine ⟨old, hsame.trans hold, ?_⟩
    rw [hstays, if_neg]
    · exact hexact
    · cases IsClosed i s <;> decide
  · cases hold.symm.trans hold'
    refine ⟨new, hnew, ?_⟩
    have hkept := hupdated.closedExactly hexact (fun h => hkeeps ⟨rfl, h.1, by
      rw [hwas, decide_eq_true h.2]⟩)
    have hnow : IsClosed request.incidentId _ = decide (new.status.val = "closed") :=
      congrArg (fun row => Option.any _ row) hnew
    rw [hwas, hnow]
    simpa only [Bool.and_eq_true, Bool.not_eq_true', decide_eq_false_iff_not, decide_eq_true_eq]
      using hkept

end Runs

def statusAt (now : Timestamp) (status : String) : IncidentRequest :=
  ⟨now, 1, statusOnly status, some administrator⟩

theorem openIncident_closedExactly : ClosedExactly (openIncident 1) none :=
  closedExactly_of_open (by decide) rfl

theorem reopened_incident_is_dated :
    ((run (incidentStep .ascii .core) twoIncidents
      [statusAt 5 "closed", statusAt 6 "closed", statusAt 7 "open",
        statusAt 8 "closed"]).incidents.find? 1).map (·.closedAt) = some (some 8) := by
  have hfind : twoIncidents.incidents.find? 1 = some (openIncident 1) := rfl
  have hkeeps : ∀ (now : Timestamp) (status : String) (s : Store), status ≠ "" →
      KeepsStatus 1 s (statusAt now status) := by
    rintro now status s hstatus ⟨-, hempty, -⟩
    exact hstatus (Option.some.inj (Option.some.inj hempty))
  have hexact := @closed_at_exact .ascii .core 1 _ _ _ hfind openIncident_closedExactly
    [statusAt 5 "closed", statusAt 6 "closed", statusAt 7 "open", statusAt 8 "closed"]
    ⟨hkeeps _ _ _ (by decide), hkeeps _ _ _ (by decide), hkeeps _ _ _ (by decide),
      hkeeps _ _ _ (by decide), trivial⟩
  obtain ⟨incident, hincident, hclosed⟩ := hexact
  have hstatus : IsClosed 1 (run (incidentStep .ascii .core) twoIncidents
      [statusAt 5 "closed", statusAt 6 "closed", statusAt 7 "open", statusAt 8 "closed"]) =
        true := rfl
  rw [IsClosed, hincident, Option.any_some, decide_eq_true_eq] at hstatus
  rw [hincident]
  exact congrArg some (hclosed.time hstatus)

/-- An empty status takes an incident out of `closed` and leaves its `closed_at`. -/
theorem emptied_status_keeps_closed_at :
    ¬ ∀ (py : PyText) (app : App) (i : Uuid) (s : Store) (incident : IncidentRow)
      (closed : Option Timestamp) (requests : List IncidentRequest),
      s.incidents.find? i = some incident → ClosedExactly incident closed →
      ∃ incident', (run (incidentStep py app) s requests).incidents.find? i = some incident' ∧
        ClosedExactly incident' (lastRise (incidentStep py app) (IsClosed i)
          IncidentRequest.now s requests closed) := by
  intro h
  obtain ⟨incident, hfind, hexact⟩ := h .ascii .core 1 twoIncidents (openIncident 1) none
    [statusAt 5 "closed", statusAt 6 ""] rfl openIncident_closedExactly
  have hstored : (run (incidentStep .ascii .core) twoIncidents
      [statusAt 5 "closed", statusAt 6 ""]).incidents.find? 1 =
        some { openIncident 1 with status := .lit "", closedAt := some 5 } := rfl
  cases hstored.symm.trans hfind
  have hclosed := hexact.isSome_iff.mp rfl
  revert hclosed
  decide

end OpenSoar
