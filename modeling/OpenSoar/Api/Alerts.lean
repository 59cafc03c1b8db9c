/-
# `OpenSoar.Api.Alerts` — the requests that change an alert

`api/alerts.py`: `PATCH /alerts/{id}`, `POST /alerts/{id}/claim` and `POST /alerts/bulk`,
with the bodies of `schemas/alert.py`.  What a request does to one alert is a
function of that alert's row (`updateRow`, `claimRow`, `bulkRow`): the new row and
the activities added beside it, or what is raised.

A request that raises is rolled back.  A value its column refuses raises at the
commit, so in a bulk request it takes the whole batch with it, while what the
loop itself catches only fails the one alert.  The response built from the row
after the commit is not modelled.
-/
import OpenSoar.Auth

namespace OpenSoar

open Python

/-! ## Activities and column assignments -/

/-- An activity about an alert. -/
def alertActivity (author : Option Analyst) (alertId : Uuid) (action : Varchar 50)
    (detail : String) (metadata : Option Dict) : Activity where
  alertId := some alertId
  incidentId := none
  analystId := author.map (·.id)
  analystUsername := author.map (·.username)
  action := action
  detail := some detail
  metadataJson := metadata

def statusChange : Varchar 50 := .lit "status_change"

def determinationSet : Varchar 50 := .lit "determination_set"

def severityChange : Varchar 50 := .lit "severity_change"

def assignedAction : Varchar 50 := .lit "assigned"

def claimedAction : Varchar 50 := .lit "claimed"

/-- The `metadata_json` of a tracked change. -/
def changeOf (old new : String) : Dict := [("old", .str old), ("new", .str new)]

/-- `f" — {reason}" if reason else ""`. -/
def reasonSuffix (reason : Option String) : String :=
  match truthy reason with
  | some reason => " — " ++ reason
  | none => ""

/-- `f" (was {old})" if old != "unknown" else ""`. -/
def wasSuffix (old : String) : String :=
  if old ≠ "unknown" then " (was " ++ old ++ ")" else ""

/-- An optional field of a request body: absent, `null` or a value. -/
abbrev Field (α : Type) := Option (Option α)

/-- `setattr` on a `NOT NULL` column of strings. -/
def Field.assign {n : Nat} (field : Field String) (old : Varchar n) :
    Except Raised (Varchar n) :=
  match field with
  | none => .ok old
  | some none => .error (.refusedByDatabase "null value violates not-null constraint")
  | some (some value) => column n value

/-- `setattr` on a nullable column of strings. -/
def Field.assignNullable {n : Nat} (field : Field String) (old : Option (Varchar n)) :
    Except Raised (Option (Varchar n)) :=
  match field with
  | none => .ok old
  | some none => .ok none
  | some (some value) => (column n value).map some

/-- `if value is not None: setattr(...)`. -/
def Field.given (value : Option String) : Field String := value.map some

theorem Field.assign_given {n : Nat} {value : Option String} {old new : Varchar n}
    (h : (Field.given value).assign old = .ok new) : new.val = value.getD old.val := by
  cases value with
  | none => cases h; rfl
  | some value => exact column_val h

theorem Field.assign_ok {n : Nat} {field : Field String} {old new : Varchar n}
    (h : field.assign old = .ok new) :
    (field = none ∧ new = old) ∨ ∃ value, field = some (some value) ∧ new.val = value := by
  cases field with
  | none => cases h; exact Or.inl ⟨rfl, rfl⟩
  | some given =>
      cases given with
      | none => cases h
      | some value => exact Or.inr ⟨value, rfl, column_val h⟩

/-- What a nullable column holds after an assignment. -/
theorem Field.assignNullable_val {n : Nat} {field : Field String} {old new : Option (Varchar n)}
    (h : field.assignNullable old = .ok new) :
    new.map (·.val) = field.getD (old.map (·.val)) := by
  rcases field with - | - | value
  · cases h
    rfl
  · cases h
    rfl
  · obtain ⟨v, hv, rfl⟩ := map_ok h
    exact congrArg some (column_val hv)

/-- The field does not give `null`. -/
def Field.NotNull {α : Type} (field : Field α) : Prop := field ≠ some none

/-- A `VARCHAR(n)` column takes the string that the field gives, if it gives one. -/
def Field.Fits (n : Nat) (field : Field String) : Prop :=
  ∀ value, field = some (some value) → value.length ≤ n

/-- The field names an identifier, or nothing. -/
def Field.WellFormed (py : PyText) (field : Field String) : Prop :=
  ∀ text, truthy field.join = some text → (Uuid.ofText? py text).isSome = true

theorem column_returns {n : Nat} {s : String} : Returns (column n s) ↔ s.length ≤ n := by
  constructor
  · rintro ⟨v, h⟩
    exact column_val h ▸ v.fits
  · intro h
    exact ⟨⟨s, h⟩, column_ok h⟩

theorem Field.assign_returns {n : Nat} {field : Field String} {old : Varchar n} :
    Returns (field.assign old) ↔ field.NotNull ∧ field.Fits n := by
  rcases field with - | - | value
  · exact iff_of_true (returns_ok old) ⟨nofun, nofun⟩
  · exact iff_of_false (not_returns_error _) (fun h => h.1 rfl)
  · refine column_returns.trans ⟨fun h => ⟨nofun, ?_⟩, fun h => h.2 value rfl⟩
    rintro _ ⟨⟩
    exact h

theorem Field.assignNullable_returns {n : Nat} {field : Field String}
    {old : Option (Varchar n)} : Returns (field.assignNullable old) ↔ field.Fits n := by
  rcases field with - | - | value
  · exact iff_of_true (returns_ok old) nofun
  · exact iff_of_true (returns_ok none) nofun
  · constructor
    · rintro ⟨new, h⟩ _ ⟨⟩
      obtain ⟨v, hv, -⟩ := map_ok h
      exact column_returns.mp ⟨v, hv⟩
    · intro h
      exact ⟨some ⟨value, h value rfl⟩, by
        rw [Field.assignNullable, column_ok (h value rfl)]
        rfl⟩

/-! ## `PATCH /alerts/{alert_id}` -/

structure AlertUpdate where
  status : Field String
  severity : Field String
  resolveReason : Field String
  determination : Field String
  partner : Field String
  tags : Field (List String)
  assignedTo : Field String

/-- The body with nothing in it. -/
def AlertUpdate.none : AlertUpdate :=
  ⟨Option.none, Option.none, Option.none, Option.none, Option.none, Option.none, Option.none⟩

/-- `VALID_DETERMINATIONS`. -/
def validDeterminations : List String := ["unknown", "malicious", "suspicious", "benign"]

def invalidDetermination (py : PyText) : Raised :=
  .httpException 422 ("Invalid determination. Must be one of: "
    ++ ", ".intercalate (py.setToList validDeterminations))

def cannotResolve : Raised :=
  .httpException 422
    "Cannot resolve an alert with determination 'unknown'. Set a determination first."

/-- The two guards, in the order of the handler. -/
def validateUpdate (py : PyText) (update : AlertUpdate) (alert : Alert) :
    Except Raised Unit :=
  if (truthy update.determination.join).any (fun d => !validDeterminations.contains d) then
    .error (invalidDetermination py)
  else if update.status.join = some "resolved" ∧
      (truthy update.determination.join).getD alert.determination.val = "unknown" then
    .error cannotResolve
  else .ok ()

/-- `assigned_to`: a falsy value unassigns, an id that names no analyst is ignored. -/
def assignField (py : PyText) (analysts : Table Analyst.id) (analyst : Analyst)
    (assignedTo : Field String) (alert : Alert) : Except Raised (Alert × List Activity) :=
  match assignedTo with
  | none => .ok (alert, [])
  | some given =>
      match truthy given with
      | none => .ok ({ alert with assignedTo := none, assignedUsername := none }, [])
      | some text =>
          match Uuid.ofText? py text with
          | none => .error (.valueError "badly formed hexadecimal UUID string")
          | some assignedId =>
              match analysts.find? assignedId with
              | none => .ok (alert, [])
              | some assignee => .ok
                  ({ alert with
                      assignedTo := some assignee.id
                      assignedUsername := some assignee.username },
                   [alertActivity (some analyst) alert.id assignedAction
                     ("Assigned to " ++ assignee.displayName.val) none])

/-- `for field, value in update_data.items(): setattr(alert, field, value)`. -/
def setFields (update : AlertUpdate) (alert : Alert) : Except Raised Alert := do
  let status ← update.status.assign alert.status
  let severity ← update.severity.assign alert.severity
  let resolveReason ← update.resolveReason.assignNullable alert.resolveReason
  let determination ← update.determination.assign alert.determination
  let partner ← update.partner.assignNullable alert.partner
  pure { alert with
    status := status
    severity := severity
    resolveReason := resolveReason
    determination := determination
    partner := partner
    tags := match update.tags with
      | none => alert.tags
      | some given => given.map (fun tags => tags.map some) }

/-- `if update.status == "resolved" and not alert.resolved_at`. -/
def stampResolved (now : Timestamp) (update : AlertUpdate) (alert : Alert) : Alert :=
  { alert with
    resolvedAt :=
      if update.status.join = some "resolved" ∧ alert.resolvedAt = none then some now
      else alert.resolvedAt }

/-- `if value and value != old`: one activity for a change of a tracked field. -/
def changeActivity (author : Option Analyst) (alertId : Uuid) (action : Varchar 50)
    (value : Option String) (old : String) (detail : String → String) : List Activity :=
  match truthy value with
  | some new =>
      if new ≠ old then
        [alertActivity author alertId action (detail new) (some (changeOf old new))]
      else []
  | none => []

def statusChanged (analyst : Analyst) (update : AlertUpdate) (alert : Alert) : List Activity :=
  changeActivity (some analyst) alert.id statusChange update.status.join alert.status.val
    (fun new => "Status changed from " ++ alert.status.val ++ " to " ++ new
      ++ (if new = "resolved" then reasonSuffix update.resolveReason.join else ""))

def determinationChanged (analyst : Analyst) (update : AlertUpdate) (alert : Alert) :
    List Activity :=
  changeActivity (some analyst) alert.id determinationSet update.determination.join
    alert.determination.val
    (fun new => "Determination set to " ++ new ++ wasSuffix alert.determination.val)

def severityChanged (analyst : Analyst) (update : AlertUpdate) (alert : Alert) :
    List Activity :=
  changeActivity (some analyst) alert.id severityChange update.severity.join alert.severity.val
    (fun new => "Severity changed from " ++ alert.severity.val ++ " to " ++ new)

/-- `update_alert` on the row it loaded. -/
def updateRow (py : PyText) (analysts : Table Analyst.id) (now : Timestamp)
    (analyst : Analyst) (update : AlertUpdate) (alert : Alert) :
    Except Raised (Alert × List Activity) := do
  validateUpdate py update alert
  let assigned ← assignField py analysts analyst update.assignedTo alert
  let updated ← setFields update assigned.1
  pure (stampResolved now update updated,
    assigned.2 ++ (statusChanged analyst update alert
      ++ (determinationChanged analyst update alert ++ severityChanged analyst update alert)))

def alertNotFound : Raised := .httpException 404 "Alert not found"

/-- `update_alert`. -/
def updateAlert (py : PyText) (app : App) (now : Timestamp) (alertId : Uuid)
    (update : AlertUpdate) (caller : Option Analyst) (db : Db) : Except Raised (Db × Alert) := do
  let analyst ← requirePermission .alertsUpdate caller
  db.withAlert alertId alertNotFound (fun alert => do
    enforceTenantAccess app (.alert alert) "update" (some analyst)
    updateRow py db.analysts now analyst update alert)

/-! ## `POST /alerts/{alert_id}/claim` -/

/-- `claim_alert` on the row it loaded. -/
def claimRow (analyst : Analyst) (alert : Alert) : Alert × List Activity :=
  let claimed :=
    { alert with assignedTo := some analyst.id, assignedUsername := some analyst.username }
  let activity := alertActivity (some analyst) alert.id claimedAction
    ("Claimed by " ++ analyst.displayName.val) none
  if alert.status.val = "new" then
    ({ claimed with status := .lit "in_progress" },
     [activity, alertActivity (some analyst) alert.id statusChange
        "Status changed from new to in_progress" (some (changeOf "new" "in_progress"))])
  else (claimed, [activity])

/-- `claim_alert`. -/
def claimAlert (app : App) (alertId : Uuid) (caller : Option Analyst) (db : Db) :
    Except Raised (Db × Alert) := do
  let analyst ← requirePermission .alertsUpdate caller
  db.withAlert alertId alertNotFound (fun alert => do
    enforceTenantAccess app (.alert alert) "claim" (some analyst)
    pure (claimRow analyst alert))

/-! ## `POST /alerts/bulk` -/

structure BulkAlertUpdate where
  alertIds : List Uuid
  action : String
  resolveReason : Option String
  determination : Option String
  assignedTo : Option String
  severity : Option String

structure BulkOperationResult where
  updated : Nat
  failed : Nat
  errors : List String
deriving DecidableEq

def BulkOperationResult.fail (result : BulkOperationResult) (error : String) :
    BulkOperationResult :=
  { result with failed := result.failed + 1, errors := result.errors ++ [error] }

/-- How one pass of the loop over the ids leaves the row it loaded. -/
inductive BulkOutcome where
  | updated (alert : Alert) (activities : List Activity)
  | skipped
  | failed (error : String)

/-- `resolve`: an alert that is resolved already is skipped, the stamp of any other is
overwritten. -/
def bulkResolve (now : Timestamp) (analyst : Analyst) (body : BulkAlertUpdate)
    (alert : Alert) : Except Raised BulkOutcome :=
  if alert.status.val = "resolved" then .ok .skipped
  else if (truthy body.determination).getD alert.determination.val = "unknown" then
    .ok (.failed ("Alert " ++ Uuid.toText alert.id
      ++ ": cannot resolve with unknown determination"))
  else do
    let resolveReason ←
      (Field.given (truthy body.resolveReason)).assignNullable alert.resolveReason
    let determination ← (Field.given (truthy body.determination)).assign alert.determination
    pure (.updated
      { alert with
        status := .lit "resolved"
        resolvedAt := some now
        resolveReason := resolveReason
        determination := determination }
      [alertActivity (some analyst) alert.id statusChange
        ("Bulk resolved (was " ++ alert.status.val ++ ")" ++ reasonSuffix body.resolveReason)
        (some (changeOf alert.status.val "resolved"))])

/-- `assign`: to the caller, whatever `assigned_to` says. -/
def bulkAssign (analyst : Analyst) (alert : Alert) : BulkOutcome :=
  .updated
    { alert with
      assignedTo := some analyst.id
      assignedUsername := some analyst.username
      status := if alert.status.val = "new" then .lit "in_progress" else alert.status }
    [alertActivity (some analyst) alert.id claimedAction
      ("Bulk assigned to " ++ analyst.displayName.val) none]

/-- `change_severity`, with a severity to change to. -/
def bulkChangeSeverity (analyst : Analyst) (new : String) (alert : Alert) :
    Except Raised BulkOutcome := do
  let severity ← column 20 new
  pure (.updated { alert with severity := severity }
    [alertActivity (some analyst) alert.id severityChange
      ("Bulk severity change from " ++ alert.severity.val ++ " to " ++ new)
      (some (changeOf alert.severity.val new))])

/-- The action of a bulk request on one row; `.error` when the database will refuse
the row at the commit. -/
def bulkRow (now : Timestamp) (analyst : Analyst) (body : BulkAlertUpdate) (alert : Alert) :
    Except Raised BulkOutcome :=
  if body.action = "resolve" then bulkResolve now analyst body alert
  else if body.action = "assign" then .ok (bulkAssign analyst alert)
  else
    match if body.action = "change_severity" then truthy body.severity else none with
    | some severity => bulkChangeSeverity analyst severity alert
    | none => .ok (.failed ("Unknown action: " ++ body.action))

/-- What one pass of the loop comes to for the id it is at: an id that was not loaded
fails, and so does one whose tenant guard raises. -/
def bulkOutcome (app : App) (now : Timestamp) (analyst : Analyst) (body : BulkAlertUpdate)
    (loaded : Uuid → Bool) (db : Db) (aid : Uuid) : Except Raised BulkOutcome :=
  match if loaded aid then db.alerts.find? aid else none with
  | none => .ok (.failed ("Alert " ++ Uuid.toText aid ++ " not found"))
  | some alert =>
      match enforceTenantAccess app (.alert alert) "bulk_update" (some analyst) with
      | .error e => .ok (.failed ("Alert " ++ Uuid.toText aid ++ ": " ++ e.text))
      | .ok () => bulkRow now analyst body alert

/-- The session's rows and the counts after a pass. -/
def BulkOutcome.count (state : Db × BulkOperationResult) :
    BulkOutcome → Db × BulkOperationResult
  | .updated alert activities =>
      (state.1.commitAlert alert activities,
        { state.2 with updated := state.2.updated + 1 })
  | .skipped => state
  | .failed error => (state.1, state.2.fail error)

/-- One pass of the loop. -/
def bulkStep (app : App) (now : Timestamp) (analyst : Analyst) (body : BulkAlertUpdate)
    (loaded : Uuid → Bool) (state : Db × BulkOperationResult) (aid : Uuid) :
    Except Raised (Db × BulkOperationResult) :=
  (bulkOutcome app now analyst body loaded state.1 aid).map (BulkOutcome.count state)

/-- The alerts the query of a bulk request returns. -/
def bulkLoaded (app : App) (analyst : Analyst) (db : Db) (aid : Uuid) : Bool :=
  (db.alerts.find? aid).any (fun alert =>
    applyTenantAccessQuery app (.alert alert) "bulk_update" (some analyst))

/-- `bulk_update_alerts`. -/
def bulkUpdateAlerts (app : App) (now : Timestamp) (body : BulkAlertUpdate)
    (caller : Option Analyst) (db : Db) : Except Raised (Db × BulkOperationResult) := do
  let analyst ← requirePermission .alertsUpdate caller
  body.alertIds.foldlM (bulkStep app now analyst body (bulkLoaded app analyst db))
    (db, ⟨0, 0, []⟩)

/-! ## What a row can become -/

theorem validateUpdate_ok {py : PyText} {update : AlertUpdate} {alert : Alert}
    (h : validateUpdate py update alert = .ok ()) :
    (∀ d, truthy update.determination.join = some d → d ∈ validDeterminations) ∧
      (update.status.join = some "resolved" →
        (truthy update.determination.join).getD alert.determination.val ≠ "unknown") := by
  unfold validateUpdate at h
  split at h
  · cases h
  · rename_i hvalid
    split at h
    · cases h
    · rename_i hresolve
      refine ⟨?_, fun hstatus hunknown => hresolve ⟨hstatus, hunknown⟩⟩
      intro d hd
      rw [hd] at hvalid
      simpa using hvalid

/-- An assignment changes who the alert is assigned to, and nothing else. -/
theorem assignField_ok {py : PyText} {analysts : Table Analyst.id} {analyst : Analyst}
    {assignedTo : Field String} {alert : Alert} {assigned : Alert × List Activity}
    (h : assignField py analysts analyst assignedTo alert = .ok assigned) :
    (∃ target username, assigned.1
        = { alert with assignedTo := target, assignedUsername := username }) ∧
      (assignedTo = none → assigned.1 = alert) ∧
      ∀ activity ∈ assigned.2, activity.alertId = some alert.id ∧
        activity.action = assignedAction := by
  unfold assignField at h
  split at h
  · cases h
    exact ⟨⟨_, _, rfl⟩, fun _ => rfl, fun _ hmem => absurd hmem List.not_mem_nil⟩
  · split at h
    · cases h
      exact ⟨⟨_, _, rfl⟩, fun hnone => (nomatch hnone),
        fun _ hmem => absurd hmem List.not_mem_nil⟩
    · split at h
      · cases h
      · split at h
        · cases h
          exact ⟨⟨_, _, rfl⟩, fun _ => rfl, fun _ hmem => absurd hmem List.not_mem_nil⟩
        · cases h
          refine ⟨⟨_, _, rfl⟩, fun hnone => (nomatch hnone), ?_⟩
          intro activity hmem
          rw [List.mem_singleton] at hmem
          subst hmem
          exact ⟨rfl, rfl⟩

/-- The columns that a `PATCH` assigns. -/
theorem setFields_ok {update : AlertUpdate} {alert updated : Alert}
    (h : setFields update alert = .ok updated) :
    ∃ status severity resolveReason determination partner,
      update.status.assign alert.status = .ok status ∧
      update.severity.assign alert.severity = .ok severity ∧
      update.resolveReason.assignNullable alert.resolveReason = .ok resolveReason ∧
      update.determination.assign alert.determination = .ok determination ∧
      update.partner.assignNullable alert.partner = .ok partner ∧
      updated = { alert with
        status := status
        severity := severity
        resolveReason := resolveReason
        determination := determination
        partner := partner
        tags := match update.tags with
          | none => alert.tags
          | some given => given.map (fun tags => tags.map some) } := by
  obtain ⟨status, hstatus, h⟩ := bind_ok h
  obtain ⟨severity, hseverity, h⟩ := bind_ok h
  obtain ⟨resolveReason, hreason, h⟩ := bind_ok h
  obtain ⟨determination, hdetermination, h⟩ := bind_ok h
  obtain ⟨partner, hpartner, h⟩ := bind_ok h
  cases h
  exact ⟨status, severity, resolveReason, determination, partner, hstatus, hseverity, hreason,
    hdetermination, hpartner, rfl⟩

/-- What an accepted `PATCH` makes of a row, as far as status, severity, determination,
the stamp and an assignment that is not asked for go. -/
structure Updated (py : PyText) (now : Timestamp) (analyst : Analyst) (update : AlertUpdate)
    (alert alert' : Alert) (activities : List Activity) : Prop where
  valid : validateUpdate py update alert = .ok ()
  id : alert'.id = alert.id
  status : update.status.assign alert.status = .ok alert'.status
  severity : update.severity.assign alert.severity = .ok alert'.severity
  determination : update.determination.assign alert.determination = .ok alert'.determination
  assigned : update.assignedTo = none →
    alert'.assignedTo = alert.assignedTo ∧ alert'.assignedUsername = alert.assignedUsername
  resolvedAt : alert'.resolvedAt =
    if update.status.join = some "resolved" ∧ alert.resolvedAt = none then some now
    else alert.resolvedAt
  activities : ∃ assigned, (∀ activity ∈ assigned, activity.alertId = some alert.id ∧
      activity.action = assignedAction) ∧
    activities = assigned ++ (statusChanged analyst update alert
      ++ (determinationChanged analyst update alert ++ severityChanged analyst update alert))

theorem updateRow_ok {py : PyText} {analysts : Table Analyst.id} {now : Timestamp}
    {analyst : Analyst} {update : AlertUpdate} {alert alert' : Alert}
    {activities : List Activity}
    (h : updateRow py analysts now analyst update alert = .ok (alert', activities)) :
    Updated py now analyst update alert alert' activities := by
  unfold updateRow at h
  obtain ⟨_, hvalid, h⟩ := bind_ok h
  obtain ⟨assigned, hassigned, h⟩ := bind_ok h
  obtain ⟨updated, hupdated, h⟩ := bind_ok h
  obtain ⟨⟨target, username, hrow⟩, hsame, hacts⟩ := assignField_ok hassigned
  rw [hrow] at hupdated
  obtain ⟨status, severity, resolveReason, determination, partner, hstatus, hseverity, -,
    hdetermination, -, rfl⟩ := setFields_ok hupdated
  cases h
  refine ⟨hvalid, rfl, hstatus, hseverity, hdetermination, ?_, rfl, _, hacts, rfl⟩
  intro hnone
  have hkept := hrow.symm.trans (hsame hnone)
  have htarget : target = alert.assignedTo := congrArg Alert.assignedTo hkept
  have husername : username = alert.assignedUsername := congrArg Alert.assignedUsername hkept
  exact ⟨htarget, husername⟩

/-- An accepted `PATCH`, taken apart. -/
theorem updateAlert_ok {py : PyText} {app : App} {now : Timestamp} {alertId : Uuid}
    {update : AlertUpdate} {caller : Option Analyst} {db db' : Db} {alert' : Alert}
    (h : updateAlert py app now alertId update caller db = .ok (db', alert')) :
    ∃ analyst alert activities, caller = some analyst ∧ db.alerts.find? alertId = some alert ∧
      enforceTenantAccess app (.alert alert) "update" (some analyst) = .ok () ∧
      Updated py now analyst update alert alert' activities ∧
      db' = db.commitAlert alert' activities := by
  obtain ⟨analyst, hanalyst, hload⟩ := bind_ok h
  obtain ⟨alert, activities, hfind, hrow, hdb⟩ := Db.withAlert_ok hload
  obtain ⟨_, hallowed, hrow⟩ := bind_ok hrow
  exact ⟨analyst, alert, activities, (requirePermission_ok hanalyst).1, hfind, hallowed,
    updateRow_ok hrow, hdb⟩

/-- An accepted claim, taken apart. -/
theorem claimAlert_ok {app : App} {alertId : Uuid} {caller : Option Analyst} {db db' : Db}
    {alert' : Alert} (h : claimAlert app alertId caller db = .ok (db', alert')) :
    ∃ analyst alert activities, caller = some analyst ∧ db.alerts.find? alertId = some alert ∧
      enforceTenantAccess app (.alert alert) "claim" (some analyst) = .ok () ∧
      (alert', activities) = claimRow analyst alert ∧
      db' = db.commitAlert alert' activities := by
  obtain ⟨analyst, hanalyst, hload⟩ := bind_ok h
  obtain ⟨alert, activities, hfind, hrow, hdb⟩ := Db.withAlert_ok hload
  obtain ⟨_, hallowed, hrow⟩ := bind_ok hrow
  exact ⟨analyst, alert, activities, (requirePermission_ok hanalyst).1, hfind, hallowed,
    (Except.ok.inj hrow).symm, hdb⟩

theorem mem_changeActivity {author : Option Analyst} {alertId : Uuid} {action : Varchar 50}
    {value : Option String} {old : String} {detail : String → String} {activity : Activity}
    (h : activity ∈ changeActivity author alertId action value old detail) :
    activity.alertId = some alertId := by
  unfold changeActivity at h
  split at h
  · split at h
    · rw [List.mem_singleton] at h
      subst h
      rfl
    · exact absurd h List.not_mem_nil
  · exact absurd h List.not_mem_nil

/-- What one pass of a bulk request makes of a row that it changes. -/
inductive BulkChanged (now : Timestamp) (analyst : Analyst) (body : BulkAlertUpdate)
    (alert alert' : Alert) : List Activity → Prop
  | resolved (detail : String) (resolveReason : Option (Varchar 255))
      (determination : Varchar 30) : body.action = "resolve" → alert.status.val ≠ "resolved" →
      (truthy body.determination).getD alert.determination.val ≠ "unknown" →
      (Field.given (truthy body.resolveReason)).assignNullable alert.resolveReason
        = .ok resolveReason →
      determination.val = (truthy body.determination).getD alert.determination.val →
      alert' = { alert with
        status := .lit "resolved"
        resolvedAt := some now
        resolveReason := resolveReason
        determination := determination } →
      BulkChanged now analyst body alert alert' [alertActivity (some analyst) alert.id
        statusChange detail (some (changeOf alert.status.val "resolved"))]
  | assigned {activities : List Activity} : body.action = "assign" →
      .updated alert' activities = bulkAssign analyst alert →
      BulkChanged now analyst body alert alert' activities
  | severity (new detail : String) : body.action = "change_severity" →
      truthy body.severity = some new → (∃ severity : Varchar 20, severity.val = new ∧
        alert' = { alert with severity := severity }) →
      BulkChanged now analyst body alert alert' [alertActivity (some analyst) alert.id
        severityChange detail (some (changeOf alert.severity.val new))]

/-- A pass that does not simply fail works on the row stored under its id. -/
theorem bulkOutcome_cases {app : App} {now : Timestamp} {analyst : Analyst}
    {body : BulkAlertUpdate} {loaded : Uuid → Bool} {db : Db} {aid : Uuid}
    {outcome : BulkOutcome} (h : bulkOutcome app now analyst body loaded db aid = .ok outcome) :
    (∃ error, outcome = .failed error) ∨
      ∃ alert, db.alerts.find? aid = some alert ∧
        bulkRow now analyst body alert = .ok outcome := by
  simp only [bulkOutcome] at h
  split at h
  · cases h
    exact Or.inl ⟨_, rfl⟩
  · rename_i alert hloaded
    have hfind : db.alerts.find? aid = some alert := by
      split at hloaded
      · exact hloaded
      · cases hloaded
    split at h
    · cases h
      exact Or.inl ⟨_, rfl⟩
    · exact Or.inr ⟨alert, hfind, h⟩

theorem bulkRow_updated {now : Timestamp} {analyst : Analyst} {body : BulkAlertUpdate}
    {alert alert' : Alert} {activities : List Activity}
    (h : bulkRow now analyst body alert = .ok (.updated alert' activities)) :
    BulkChanged now analyst body alert alert' activities := by
  unfold bulkRow at h
  split at h
  · rename_i haction
    unfold bulkResolve at h
    split at h
    · cases h
    · rename_i hstatus
      split at h
      · cases h
      · rename_i hknown
        obtain ⟨resolveReason, hreason, h⟩ := bind_ok h
        obtain ⟨determination, hdetermination, h⟩ := bind_ok h
        cases h
        exact .resolved _ _ determination haction hstatus hknown hreason
          (Field.assign_given hdetermination) rfl
  · split at h
    · rename_i haction
      exact .assigned haction (Except.ok.inj h).symm
    · split at h
      · rename_i severity hgiven
        split at hgiven
        · rename_i haction
          obtain ⟨value, hvalue, h⟩ := bind_ok h
          cases h
          exact .severity severity _ haction hgiven ⟨value, column_val hvalue, rfl⟩
        · cases hgiven
      · cases h

end OpenSoar
