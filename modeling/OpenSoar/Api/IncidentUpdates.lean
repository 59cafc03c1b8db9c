/-
# `OpenSoar.Api.IncidentUpdates` — the request that changes an incident

`update_incident` of `api/incidents.py`, with the body of `schemas/incident.py`.  The
assignment is handled first and taken out of the fields that are then set one by one;
`closed_at` follows the status the body gives, not the status stored.  A value its column
refuses raises at the commit, and the transaction is rolled back.  The response built
from the row after the commit is not modelled.
-/
import OpenSoar.Retention.Rows

namespace OpenSoar

open Python

structure IncidentUpdate where
  title : Field String
  description : Field String
  severity : Field String
  status : Field String
  assignedTo : Field String
  tags : Field (List String)

/-- The body with nothing in it. -/
def IncidentUpdate.none : IncidentUpdate :=
  ⟨Option.none, Option.none, Option.none, Option.none, Option.none, Option.none⟩

/-! ## The fields -/

/-- `assigned_to`: a falsy value unassigns, an id that names no analyst is ignored. -/
def assignIncident (py : PyText) (analysts : Table Analyst.id) (assignedTo : Field String)
    (incident : IncidentRow) : Except Raised IncidentRow :=
  match assignedTo with
  | none => .ok incident
  | some given =>
      match truthy given with
      | none => .ok { incident with assignedTo := none, assignedUsername := none }
      | some text =>
          match Uuid.ofText? py text with
          | none => .error (.valueError "badly formed hexadecimal UUID string")
          | some assignedId =>
              match analysts.find? assignedId with
              | none => .ok incident
              | some assignee => .ok { incident with
                  assignedTo := some assignee.id
                  assignedUsername := some assignee.username }

/-- `for field, value in update_data.items(): setattr(incident, field, value)`. -/
def setIncidentFields (update : IncidentUpdate) (incident : IncidentRow) :
    Except Raised IncidentRow := do
  let title ← update.title.assign incident.title
  let severity ← update.severity.assign incident.severity
  let status ← update.status.assign incident.status
  pure { incident with
    title := title
    description := update.description.getD incident.description
    severity := severity
    status := status
    tags := update.tags.getD incident.tags }

/-- `if update.status == "closed" and not incident.closed_at`, and the branch beside it. -/
def stampClosed (now : Timestamp) (update : IncidentUpdate) (incident : IncidentRow) :
    IncidentRow :=
  { incident with
    closedAt :=
      if update.status.join = some "closed" ∧ incident.closedAt = none then some now
      else if (truthy update.status.join).any (· ≠ "closed") then none
      else incident.closedAt }

/-! ## The activities -/

/-- `_append_incident_activity`. -/
def incidentActivity (analyst : Analyst) (incidentId : Uuid) (action : Varchar 50)
    (detail : String) (metadata : Dict) : Activity where
  alertId := none
  incidentId := some incidentId
  analystId := some analyst.id
  analystUsername := some analyst.username
  action := action
  detail := some detail
  metadataJson := some metadata

/-- `if value and value != old`: one activity for a change of a tracked field. -/
def incidentChange (analyst : Analyst) (incidentId : Uuid) (action : Varchar 50)
    (value : Option String) (old : String) (detail : String → String) : List Activity :=
  match truthy value with
  | some new =>
      if new ≠ old then
        [incidentActivity analyst incidentId action (detail new) (changeOf old new)]
      else []
  | none => []

def incidentStatusChanged (analyst : Analyst) (update : IncidentUpdate) (old : IncidentRow) :
    List Activity :=
  incidentChange analyst old.id statusChange update.status.join old.status.val
    (fun new => "Status changed from " ++ old.status.val ++ " to " ++ new)

def incidentSeverityChanged (analyst : Analyst) (update : IncidentUpdate) (old : IncidentRow) :
    List Activity :=
  incidentChange analyst old.id severityChange update.severity.join old.severity.val
    (fun new => "Severity changed from " ++ old.severity.val ++ " to " ++ new)

/-- The detail of an assignment that took effect. -/
def assignmentDetail (old new : IncidentRow) : String :=
  match new.assignedTo, truthy (new.assignedUsername.map (·.val)) with
  | some _, some username => "Assigned to " ++ username
  | _, _ =>
      match truthy (old.assignedUsername.map (·.val)) with
      | some username => "Unassigned from " ++ username
      | none => "Unassigned"

/-- The assignment is in the body and has changed the row.  The key itself is gone from
`update_data` by then, so a `null` counts only where somebody was assigned. -/
def incidentAssigned (analyst : Analyst) (update : IncidentUpdate) (old new : IncidentRow) :
    List Activity :=
  if (update.assignedTo.join.isSome ∨ update.assignedTo = some none ∧ old.assignedTo.isSome)
      ∧ new.assignedTo ≠ old.assignedTo then
    [incidentActivity analyst old.id assignedAction (assignmentDetail old new)
      [("old", .ofOption (old.assignedTo.map Uuid.toText)),
       ("new", .ofOption (new.assignedTo.map Uuid.toText)),
       ("old_username", .ofOption (old.assignedUsername.map (·.val))),
       ("new_username", .ofOption (new.assignedUsername.map (·.val)))]]
  else []

/-! ## `PATCH /incidents/{incident_id}` -/

/-- `update_incident` on the row it loaded. -/
def updateIncidentRow (py : PyText) (analysts : Table Analyst.id) (now : Timestamp)
    (analyst : Analyst) (update : IncidentUpdate) (old : IncidentRow) :
    Except Raised (IncidentRow × List Activity) := do
  let assigned ← assignIncident py analysts update.assignedTo old
  let updated ← setIncidentFields update assigned
  let incident := stampClosed now update updated
  pure (incident, incidentStatusChanged analyst update old
    ++ (incidentSeverityChanged analyst update old
      ++ incidentAssigned analyst update old incident))

/-- Commit a rewritten incident together with the activities added beside it. -/
def Store.commitIncident (s : Store) (now : Timestamp) (incident : IncidentRow)
    (activities : List Activity) : Store :=
  { s with
    incidents := s.incidents.set incident
    activities := s.activities ++ activities.map (newActivity now) }

/-- `update_incident`. -/
def updateIncident (py : PyText) (app : App) (now : Timestamp) (incidentId : Uuid)
    (update : IncidentUpdate) (caller : Option Analyst) (s : Store) :
    Except Raised (Store × IncidentRow) := do
  let analyst ← requirePermission .incidentsUpdate caller
  let old ← orRaise (s.incidents.find? incidentId) (.httpException 404 "Incident not found")
  enforceTenantAccess app (.incident old.toIncident) "update" (some analyst)
  let result ← updateIncidentRow py s.analysts now analyst update old
  pure (s.commitIncident now result.1 result.2, result.1)

/-! ## What a row can become -/

/-- What an accepted `PATCH` makes of an incident, as far as the status and the columns
of its lifetime go. -/
structure IncidentUpdated (now : Timestamp) (update : IncidentUpdate)
    (old new : IncidentRow) : Prop where
  id : new.id = old.id
  status : update.status.assign old.status = .ok new.status
  closedAt : new.closedAt =
    if update.status.join = some "closed" ∧ old.closedAt = none then some now
    else if (truthy update.status.join).any (· ≠ "closed") then none
    else old.closedAt
  createdAt : new.createdAt = old.createdAt
  archivedAt : new.archivedAt = old.archivedAt

/-- An assignment changes who the incident is assigned to, and nothing else. -/
theorem assignIncident_ok {py : PyText} {analysts : Table Analyst.id}
    {assignedTo : Field String} {incident assigned : IncidentRow}
    (h : assignIncident py analysts assignedTo incident = .ok assigned) :
    ∃ target username, assigned
      = { incident with assignedTo := target, assignedUsername := username } := by
  simp only [assignIncident] at h
  split at h
  · cases h
    exact ⟨_, _, rfl⟩
  · split at h
    · cases h
      exact ⟨_, _, rfl⟩
    · split at h
      · cases h
      · split at h
        · cases h
          exact ⟨_, _, rfl⟩
        · cases h
          exact ⟨_, _, rfl⟩

theorem updateIncidentRow_ok {py : PyText} {analysts : Table Analyst.id} {now : Timestamp}
    {analyst : Analyst} {update : IncidentUpdate} {old new : IncidentRow}
    {activities : List Activity}
    (h : updateIncidentRow py analysts now analyst update old = .ok (new, activities)) :
    IncidentUpdated now update old new := by
  obtain ⟨assigned, hassigned, h⟩ := bind_ok h
  obtain ⟨updated, hupdated, h⟩ := bind_ok h
  obtain ⟨target, username, rfl⟩ := assignIncident_ok hassigned
  obtain ⟨title, -, hupdated⟩ := bind_ok hupdated
  obtain ⟨severity, -, hupdated⟩ := bind_ok hupdated
  obtain ⟨status, hstatus, hupdated⟩ := bind_ok hupdated
  cases hupdated
  cases h
  exact ⟨rfl, hstatus, rfl, rfl, rfl⟩

/-- An accepted `PATCH`, taken apart. -/
theorem updateIncident_ok {py : PyText} {app : App} {now : Timestamp} {incidentId : Uuid}
    {update : IncidentUpdate} {caller : Option Analyst} {s s' : Store} {new : IncidentRow}
    (h : updateIncident py app now incidentId update caller s = .ok (s', new)) :
    ∃ old activities, s.incidents.find? incidentId = some old ∧
      IncidentUpdated now update old new ∧ s' = s.commitIncident now new activities := by
  obtain ⟨analyst, -, h⟩ := bind_ok h
  obtain ⟨old, hload, h⟩ := bind_ok h
  obtain ⟨-, -, h⟩ := bind_ok h
  obtain ⟨result, hrow, h⟩ := bind_ok h
  cases h
  exact ⟨old, result.2, orRaise_ok hload, updateIncidentRow_ok hrow, rfl⟩

/-- The incidents after an accepted `PATCH`: the one it names is rewritten, every other
one is as it was. -/
theorem updateIncident_row {py : PyText} {app : App} {now : Timestamp} {incidentId : Uuid}
    {update : IncidentUpdate} {caller : Option Analyst} {s s' : Store} {new : IncidentRow}
    (h : updateIncident py app now incidentId update caller s = .ok (s', new)) (i : Uuid) :
    (i ≠ incidentId ∧ s'.incidents.find? i = s.incidents.find? i) ∨
      (i = incidentId ∧ ∃ old, s.incidents.find? i = some old ∧
        IncidentUpdated now update old new ∧ s'.incidents.find? i = some new) := by
  obtain ⟨old, activities, hfind, hupdated, rfl⟩ := updateIncident_ok h
  have hold : old.key = incidentId := Table.find?_key hfind
  have hkey : new.key = incidentId := hupdated.id.trans hold
  by_cases hi : i = incidentId
  · subst hi
    refine Or.inr ⟨rfl, old, hfind, hupdated, ?_⟩
    rw [← hkey] at hfind ⊢
    exact Table.find?_set_self hfind
  · refine Or.inl ⟨hi, ?_⟩
    exact Table.find?_set_ne (fun e => hi (e.trans hkey))

end OpenSoar
