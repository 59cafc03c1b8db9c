/-
# `OpenSoar.Runtime` — what a running playbook does to its alert

`runtime.py`: `update_current_alert`, `resolve_current_alert` and
`assign_current_alert`.  The alert is the one bound to the execution context, here
the argument `ctx`: `none` when there is no context or no alert in it.  The
arguments are checked before the context is, and the row is read last.
-/
import OpenSoar.Api.Alerts

namespace OpenSoar

open Python

/-- The keyword arguments of `update_current_alert`. -/
structure CurrentAlertUpdate where
  status : Option String
  determination : Option String
  reason : Option String
  partner : Option String
  activityAction : Option String
  activityDetail : Option String
  activityMetadata : Option Dict

/-- A change made by a playbook: its activities carry the source. -/
def playbookChangeOf (old new : String) : Dict :=
  changeOf old new ++ [("source", .str "playbook")]

/-- `activity_metadata or {"source": "playbook"}`. -/
def activityMetadataOr (metadata : Option Dict) : Dict :=
  match metadata with
  | some (entry :: rest) => entry :: rest
  | _ => [("source", .str "playbook")]

/-- `if activity_action and activity_detail`: the activity the caller asks for. -/
def customActivity (args : CurrentAlertUpdate) (alertId : Uuid) :
    Except Raised (List Activity) :=
  match truthy args.activityAction, truthy args.activityDetail with
  | some action, some detail =>
      (column 50 action).map (fun action =>
        [alertActivity none alertId action detail
          (some (activityMetadataOr args.activityMetadata))])
  | _, _ => .ok []

/-- `if alert.status != old_status`. -/
def appliedStatusChange (args : CurrentAlertUpdate) (alert alert' : Alert) : List Activity :=
  if alert'.status.val ≠ alert.status.val then
    [alertActivity none alert.id statusChange
      ("Status changed from " ++ alert.status.val ++ " to " ++ alert'.status.val
        ++ reasonSuffix args.reason)
      (some (playbookChangeOf alert.status.val alert'.status.val))]
  else []

/-- `if determination is not None and old_determination != determination`. -/
def appliedDetermination (args : CurrentAlertUpdate) (alert : Alert) : List Activity :=
  match args.determination with
  | some determination =>
      if alert.determination.val ≠ determination then
        [alertActivity none alert.id determinationSet
          ("Determination set to " ++ determination ++ wasSuffix alert.determination.val)
          (some (playbookChangeOf alert.determination.val determination))]
      else []
  | none => []

/-- `_apply_alert_update`. -/
def applyAlertUpdate (now : Timestamp) (args : CurrentAlertUpdate) (alert : Alert) :
    Except Raised (Alert × List Activity) := do
  let status ← (Field.given args.status).assign alert.status
  let determination ← (Field.given args.determination).assign alert.determination
  let resolveReason ← (Field.given args.reason).assignNullable alert.resolveReason
  let partner ← (Field.given args.partner).assignNullable alert.partner
  let custom ← customActivity args alert.id
  let alert' := { alert with
    status := status
    determination := determination
    resolvedAt :=
      if status.val = "resolved" then some (alert.resolvedAt.getD now) else alert.resolvedAt
    resolveReason := resolveReason
    partner := partner }
  pure (alert',
    appliedStatusChange args alert alert' ++ (appliedDetermination args alert ++ custom))

/-- `VALID_ALERT_STATUSES`. -/
def validAlertStatuses : List String := ["new", "in_progress", "resolved"]

def noCurrentAlert : Raised :=
  .runtimeError "No current alert is bound to this execution context"

def currentAlertNotFound : Raised := .runtimeError "Current alert not found"

/-- What `update_current_alert` checks before it looks at the context. -/
def validateCurrent (args : CurrentAlertUpdate) : Except Raised Unit :=
  if args.status = none ∧ args.determination = none ∧ args.reason = none
      ∧ args.partner = none then
    .error (.valueError "At least one alert field must be updated")
  else if args.status.any (fun status => !validAlertStatuses.contains status) then
    .error (.valueError "status must be one of: in_progress, new, resolved")
  else if args.determination.any (fun d => !validDeterminations.contains d) then
    .error (.valueError
      "determination must be one of: benign, malicious, suspicious, unknown")
  else if args.status = some "resolved" ∧ args.determination.getD "unknown" = "unknown" then
    .error (.valueError "resolving an alert requires a determination other than 'unknown'")
  else .ok ()

/-- `update_current_alert`. -/
def updateCurrentAlert (now : Timestamp) (ctx : Option Uuid) (args : CurrentAlertUpdate)
    (db : Db) : Except Raised (Db × Alert) := do
  validateCurrent args
  match ctx with
  | none => .error noCurrentAlert
  | some alertId => db.withAlert alertId currentAlertNotFound (applyAlertUpdate now args)

/-- The keyword arguments of `resolve_current_alert`. -/
structure CurrentAlertResolution where
  determination : String
  reason : Option String
  partner : Option String
  activityAction : Option String
  activityDetail : Option String
  activityMetadata : Option Dict

/-- The update a resolution stands for. -/
def CurrentAlertResolution.toUpdate (args : CurrentAlertResolution) : CurrentAlertUpdate where
  status := some "resolved"
  determination := some args.determination
  reason := args.reason
  partner := args.partner
  activityAction := args.activityAction
  activityDetail := args.activityDetail
  activityMetadata := args.activityMetadata

/-- `resolve_current_alert`. -/
def resolveCurrentAlert (now : Timestamp) (ctx : Option Uuid) (args : CurrentAlertResolution)
    (db : Db) : Except Raised (Db × Alert) :=
  if args.determination ∈ validDeterminations.filter (· ≠ "unknown") then
    updateCurrentAlert now ctx args.toUpdate db
  else .error (.valueError "determination must be one of: benign, suspicious, malicious")

/-! ## Assignment -/

/-- The active analyst an assignment names: `scalar_one_or_none` on the analysts under
an id or under a username. -/
def findAssignee (py : PyText) (analysts : Table Analyst.id) (analystId : Option String)
    (username : String) : Except Raised (Option Analyst) :=
  match analystId with
  | some text =>
      match Uuid.ofText? py text with
      | none => .error (.valueError "badly formed hexadecimal UUID string")
      | some id => .ok ((analysts.find? id).filter (·.isActive))
  | none =>
      match analysts.rows.filter (fun analyst =>
          analyst.isActive && analyst.username.val == username) with
      | [] => .ok none
      | [analyst] => .ok (some analyst)
      | _ => .error .multipleResultsFound

/-- The row and the activity of an assignment to nobody. -/
def unassignRow (alert : Alert) : Alert × List Activity :=
  ({ alert with assignedTo := none, assignedUsername := none },
   [alertActivity none alert.id assignedAction "Alert unassigned by playbook"
      (some [("source", .str "playbook"), ("assigned_to", .null)])])

/-- The row and the activity of an assignment to an analyst. -/
def assignRow (assignee : Analyst) (alert : Alert) : Alert × List Activity :=
  ({ alert with
      assignedTo := some assignee.id
      assignedUsername := some assignee.username
      status := if alert.status.val = "new" then .lit "in_progress" else alert.status },
   [alertActivity none alert.id assignedAction
      ("Assigned to " ++ assignee.username.val ++ " by playbook")
      (some [("source", .str "playbook"), ("assigned_to", .str (Uuid.toText assignee.id)),
        ("assigned_username", .str assignee.username.val)])])

/-- The handler of `assign_current_alert`. -/
def assignHandler (py : PyText) (analysts : Table Analyst.id)
    (analystId username : Option String) (alert : Alert) :
    Except Raised (Alert × List Activity) :=
  match truthy analystId, truthy username with
  | none, none => .ok (unassignRow alert)
  | analystId, username =>
      match findAssignee py analysts analystId (username.getD "") with
      | .error e => .error e
      | .ok none => .error (.runtimeError "Target analyst not found or inactive")
      | .ok (some assignee) => .ok (assignRow assignee alert)

/-- `assign_current_alert`. -/
def assignCurrentAlert (py : PyText) (ctx : Option Uuid) (analystId username : Option String)
    (db : Db) : Except Raised (Db × Alert) :=
  if (truthy analystId).isSome ∧ (truthy username).isSome then
    .error (.valueError "Provide either analyst_id or username, not both")
  else
    match ctx with
    | none => .error noCurrentAlert
    | some alertId =>
        db.withAlert alertId currentAlertNotFound
          (assignHandler py db.analysts analystId username)

/-! ## What a row can become -/

theorem validateCurrent_ok {args : CurrentAlertUpdate} (h : validateCurrent args = .ok ()) :
    (∀ status, args.status = some status → status ∈ validAlertStatuses) ∧
      (∀ d, args.determination = some d → d ∈ validDeterminations) ∧
      (args.status = some "resolved" → ∃ d, args.determination = some d ∧ d ≠ "unknown") := by
  unfold validateCurrent at h
  split at h
  · cases h
  split at h
  · cases h
  rename_i hstatus
  split at h
  · cases h
  rename_i hdetermination
  split at h
  · cases h
  rename_i hresolve
  refine ⟨?_, ?_, ?_⟩
  · intro status hs
    rw [hs] at hstatus
    simpa using hstatus
  · intro d hd
    rw [hd] at hdetermination
    simpa using hdetermination
  · intro hs
    cases hd : args.determination with
    | none => exact absurd ⟨hs, by rw [hd]; rfl⟩ hresolve
    | some d =>
        refine ⟨d, rfl, fun hunknown => hresolve ⟨hs, ?_⟩⟩
        rw [hd, hunknown]
        rfl

/-- What `_apply_alert_update` makes of a row. -/
structure Applied (now : Timestamp) (args : CurrentAlertUpdate) (alert alert' : Alert)
    (activities : List Activity) : Prop where
  id : alert'.id = alert.id
  status : alert'.status.val = args.status.getD alert.status.val
  severity : alert'.severity = alert.severity
  determination : alert'.determination.val = args.determination.getD alert.determination.val
  resolvedAt : alert'.resolvedAt =
    if alert'.status.val = "resolved" then some (alert.resolvedAt.getD now)
    else alert.resolvedAt
  activities : ∃ custom, customActivity args alert.id = .ok custom ∧
    activities = appliedStatusChange args alert alert'
      ++ (appliedDetermination args alert ++ custom)

theorem applyAlertUpdate_ok {now : Timestamp} {args : CurrentAlertUpdate}
    {alert alert' : Alert} {activities : List Activity}
    (h : applyAlertUpdate now args alert = .ok (alert', activities)) :
    Applied now args alert alert' activities := by
  unfold applyAlertUpdate at h
  obtain ⟨status, hstatus, h⟩ := bind_ok h
  obtain ⟨determination, hdetermination, h⟩ := bind_ok h
  obtain ⟨resolveReason, -, h⟩ := bind_ok h
  obtain ⟨partner, -, h⟩ := bind_ok h
  obtain ⟨custom, hcustom, h⟩ := bind_ok h
  cases h
  exact ⟨rfl, Field.assign_given hstatus, rfl, Field.assign_given hdetermination, rfl,
    custom, hcustom, rfl⟩

theorem customActivity_ok {args : CurrentAlertUpdate} {alertId : Uuid} {custom : List Activity}
    (h : customActivity args alertId = .ok custom) :
    ∀ activity ∈ custom, activity.alertId = some alertId := by
  unfold customActivity at h
  split at h
  · obtain ⟨action, -, rfl⟩ := map_ok h
    intro activity hmem
    rw [List.mem_singleton] at hmem
    subst hmem
    rfl
  · cases h
    exact fun _ hmem => absurd hmem List.not_mem_nil

/-- An assignment either names nobody, or moves a new alert into progress. -/
theorem assignHandler_ok {py : PyText} {analysts : Table Analyst.id}
    {analystId username : Option String} {alert : Alert} {result : Alert × List Activity}
    (h : assignHandler py analysts analystId username alert = .ok result) :
    (truthy analystId = none ∧ truthy username = none ∧ result = unassignRow alert) ∨
      ((truthy analystId).isSome ∨ (truthy username).isSome) ∧
        ∃ assignee, result = assignRow assignee alert := by
  unfold assignHandler at h
  split at h
  · cases h
    exact Or.inl ⟨‹_›, ‹_›, rfl⟩
  · rename_i hnot
    refine Or.inr ⟨?_, ?_⟩
    · cases hid : truthy analystId with
      | some id => exact Or.inl rfl
      | none =>
          cases hname : truthy username with
          | some name => exact Or.inr rfl
          | none => exact absurd hname (hnot hid)
    · split at h
      · cases h
      · cases h
      · rename_i assignee _
        cases h
        exact ⟨assignee, rfl⟩

end OpenSoar
