/-
# `OpenSoar.Lifecycle.Rejections` — how the requests on alerts end

`update_alert` and `bulk_update_alerts` up to the answer they give.  A request ends cleanly when
it has done what it was asked for (`PatchApplied`, `BulkApplied`), or has answered that it will
not and left everything as it was.  Neither checks what the columns take: a `null` for a
`NOT NULL` column and a string that is too long are refused at the commit, where nobody catches
the error, and in a bulk request that is the commit of the whole batch.  An assignee that is
nobody's id is passed over.  `alert_updates_end_cleanly_iff` has the exact conditions.

The bulk loop is seen from one id at a time (`SettledAs`): the first pass for it decides, and a
later one finds the row as that pass has left it.
-/
import OpenSoar.Lifecycle.Bulk

namespace OpenSoar

open Python

/-! ## The answer of a `PATCH` -/

/-- `AlertResponse.model_validate`: of the columns, only the elements of an array can be other
than the response declares. -/
def alertResponse (alert : Alert) : Except Raised Alert :=
  if alert.tags.all (fun tags => tags.all Option.isSome) then .ok alert
  else .error (.valueError "Input should be a valid string")

/-- `update_alert` to its end: what the database holds then, and the answer. -/
def patchAlert (py : PyText) (app : App) (now : Timestamp) (alertId : Uuid)
    (update : AlertUpdate) (caller : Option Analyst) (db : Db) : Db × Except Raised Alert :=
  match updateAlert py app now alertId update caller db with
  | .error e => (db, .error e)
  | .ok (db', alert) => (db', alertResponse alert)

/-- The assignment that a body asks for, made on a row, and what is logged of it. -/
inductive AssignmentApplied (py : PyText) (analysts : Table Analyst.id) (analyst : Analyst)
    (alert alert' : Alert) : Field String → List Activity → Prop
  | kept (hkept : alert'.assignedTo = alert.assignedTo ∧
      alert'.assignedUsername = alert.assignedUsername) :
      AssignmentApplied py analysts analyst alert alert' none []
  | cleared {given : Option String} (hempty : truthy given = none)
      (hcleared : alert'.assignedTo = none ∧ alert'.assignedUsername = none) :
      AssignmentApplied py analysts analyst alert alert' (some given) []
  | assigned {text : String} {id : Uuid} {assignee : Analyst} (hgiven : text ≠ "")
      (hid : Uuid.ofText? py text = some id) (hassignee : analysts.find? id = some assignee)
      (hassigned : alert'.assignedTo = some id ∧
        alert'.assignedUsername = some assignee.username) :
      AssignmentApplied py analysts analyst alert alert' (some (some text))
        [alertActivity (some analyst) alert.id assignedAction
          ("Assigned to " ++ assignee.displayName.val) none]

/-- The update applied to a row, and its log: each column holds what the body gives for it, and
what it held where the body gives nothing. -/
structure PatchApplied (py : PyText) (analysts : Table Analyst.id) (now : Timestamp)
    (analyst : Analyst) (update : AlertUpdate) (alert alert' : Alert) (log : List Activity) :
    Prop where
  status : some alert'.status.val = update.status.getD (some alert.status.val)
  severity : some alert'.severity.val = update.severity.getD (some alert.severity.val)
  determination : some alert'.determination.val =
    update.determination.getD (some alert.determination.val)
  resolveReason : alert'.resolveReason.map (·.val) =
    update.resolveReason.getD (alert.resolveReason.map (·.val))
  partner : alert'.partner.map (·.val) = update.partner.getD (alert.partner.map (·.val))
  tags : alert'.tags =
    (update.tags.map (fun given => given.map (fun tags => tags.map some))).getD alert.tags
  resolvedAt : alert'.resolvedAt =
    if update.status = some (some "resolved") ∧ alert.resolvedAt = none then some now
    else alert.resolvedAt
  rest : alert' = { alert with
    status := alert'.status, severity := alert'.severity
    determination := alert'.determination, resolveReason := alert'.resolveReason
    partner := alert'.partner, tags := alert'.tags, resolvedAt := alert'.resolvedAt
    assignedTo := alert'.assignedTo, assignedUsername := alert'.assignedUsername }
  logged : ∃ assignment,
    AssignmentApplied py analysts analyst alert alert' update.assignedTo assignment ∧
    log = assignment ++ (statusChanged analyst update alert
      ++ (determinationChanged analyst update alert ++ severityChanged analyst update alert))

/-- The update is applied and its row is the answer, or the fault is the request's and nothing
has changed. -/
def PatchEndsCleanly (py : PyText) (now : Timestamp) (alertId : Uuid) (update : AlertUpdate)
    (caller : Option Analyst) (db : Db) (ending : Db × Except Raised Alert) : Prop :=
  match ending.2 with
  | .ok alert' => ∃ analyst alert log, caller = some analyst ∧
      db.alerts.find? alertId = some alert ∧
      PatchApplied py db.analysts now analyst update alert alert' log ∧
      ending.1 = db.commitAlert alert' log
  | .error e => e.IsClientError ∧ ending.1 = db

/-- The field names an analyst, or nobody. -/
def Field.KnownAnalyst (py : PyText) (analysts : Table Analyst.id) (field : Field String) : Prop :=
  ∀ text, field = some (some text) → text ≠ "" →
    ∃ id assignee, Uuid.ofText? py text = some id ∧ analysts.find? id = some assignee

/-- The columns take what the body gives for them.  A determination that is too long is one
that the handler rejects. -/
structure AlertUpdate.Fits (update : AlertUpdate) : Prop where
  status : update.status.NotNull ∧ update.status.Fits 20
  severity : update.severity.NotNull ∧ update.severity.Fits 20
  resolveReason : update.resolveReason.Fits 255
  determination : update.determination.NotNull
  partner : update.partner.Fits 100

/-- The tags that the update leaves. -/
def AlertUpdate.tagsOf (update : AlertUpdate) (alert : Alert) : Option (List (Option String)) :=
  match update.tags with
  | .none => alert.tags
  | .some given => given.map (fun tags => tags.map some)

/-- The handler can carry the update out: the assignee is one of the analysts, the columns take
their values, and the tags are strings. -/
structure AlertUpdate.Fulfillable (py : PyText) (analysts : Table Analyst.id)
    (update : AlertUpdate) (alert : Alert) : Prop where
  assignedTo : update.assignedTo.KnownAnalyst py analysts
  fits : update.Fits
  tags : (update.tagsOf alert).all (fun tags => tags.all Option.isSome) = true

section Patch

variable {py : PyText} {analysts : Table Analyst.id} {now : Timestamp} {analyst : Analyst}
variable {update : AlertUpdate} {alert : Alert}

theorem assignField_returns {assignedTo : Field String} :
    Returns (assignField py analysts analyst assignedTo alert) ↔ assignedTo.WellFormed py := by
  cases assignedTo with
  | none => exact iff_of_true (returns_ok _) nofun
  | some given =>
      cases htext : truthy given with
      | none =>
          rw [assignField, htext]
          refine iff_of_true (returns_ok _) (fun text h => ?_)
          cases htext.symm.trans h
      | some text =>
          simp only [assignField, htext]
          cases hid : Uuid.ofText? py text with
          | none =>
              refine iff_of_false (not_returns_error _) (fun h => ?_)
              have hsome := h text htext
              rw [hid] at hsome
              cases hsome
          | some id =>
              refine iff_of_true ?_ (fun text' h => ?_)
              · cases hassignee : analysts.find? id with
                | none =>
                    simp only [hassignee]
                    exact returns_ok _
                | some assignee =>
                    simp only [hassignee]
                    exact returns_ok _
              · cases htext.symm.trans h
                rw [hid]
                rfl

theorem setFields_returns : Returns (setFields update alert) ↔
    update.Fits ∧ update.determination.Fits 30 := by
  simp only [setFields, returns_bind]
  constructor
  · rintro ⟨status, hstatus, severity, hseverity, reason, hreason, determination, hdetermination,
      partner, hpartner, -⟩
    obtain ⟨hnull, hfits⟩ := Field.assign_returns.mp ⟨determination, hdetermination⟩
    exact ⟨⟨Field.assign_returns.mp ⟨status, hstatus⟩,
      Field.assign_returns.mp ⟨severity, hseverity⟩,
      Field.assignNullable_returns.mp ⟨reason, hreason⟩, hnull,
      Field.assignNullable_returns.mp ⟨partner, hpartner⟩⟩, hfits⟩
  · rintro ⟨hfits, hlength⟩
    have hstatus : Returns (update.status.assign alert.status) :=
      Field.assign_returns.mpr hfits.status
    have hseverity : Returns (update.severity.assign alert.severity) :=
      Field.assign_returns.mpr hfits.severity
    have hreason : Returns (update.resolveReason.assignNullable alert.resolveReason) :=
      Field.assignNullable_returns.mpr hfits.resolveReason
    have hdetermination : Returns (update.determination.assign alert.determination) :=
      Field.assign_returns.mpr ⟨hfits.determination, hlength⟩
    have hpartner : Returns (update.partner.assignNullable alert.partner) :=
      Field.assignNullable_returns.mpr hfits.partner
    obtain ⟨status, hstatus⟩ := hstatus
    obtain ⟨severity, hseverity⟩ := hseverity
    obtain ⟨reason, hreason⟩ := hreason
    obtain ⟨determination, hdetermination⟩ := hdetermination
    obtain ⟨partner, hpartner⟩ := hpartner
    exact ⟨status, hstatus, severity, hseverity, reason, hreason, determination, hdetermination,
      partner, hpartner, returns_ok _⟩

/-- What passed the handler's check of the determination fits. -/
theorem determination_fits (hvalid : validateUpdate py update alert = .ok ()) :
    update.determination.Fits 30 := by
  intro value hvalue
  by_cases hempty : value = ""
  · subst hempty
    decide
  · refine validDetermination_fits ((validateUpdate_ok hvalid).1 value ?_)
    rw [hvalue]
    exact truthy_eq_some.mpr ⟨rfl, hempty⟩

theorem updateRow_returns (hvalid : validateUpdate py update alert = .ok ()) :
    Returns (updateRow py analysts now analyst update alert) ↔
      update.assignedTo.WellFormed py ∧ update.Fits := by
  simp only [updateRow, returns_bind, hvalid]
  constructor
  · rintro ⟨-, -, assigned, hassigned, updated, hupdated, -⟩
    exact ⟨assignField_returns.mp ⟨assigned, hassigned⟩,
      (setFields_returns.mp ⟨updated, hupdated⟩).1⟩
  · rintro ⟨hwellFormed, hfits⟩
    obtain ⟨assigned, hassigned⟩ := assignField_returns.mpr hwellFormed
    have hfields : Returns (setFields update assigned.1) :=
      setFields_returns.mpr ⟨hfits, determination_fits hvalid⟩
    obtain ⟨updated, hupdated⟩ := hfields
    exact ⟨(), trivial, assigned, hassigned, updated, hupdated, returns_ok _⟩

theorem updateRow_tags {alert' : Alert} {activities : List Activity}
    (h : updateRow py analysts now analyst update alert = .ok (alert', activities)) :
    alert'.tags = update.tagsOf alert := by
  obtain ⟨_, -, h⟩ := bind_ok h
  obtain ⟨assigned, hassigned, h⟩ := bind_ok h
  obtain ⟨updated, hupdated, h⟩ := bind_ok h
  obtain ⟨⟨target, username, hrow⟩, -, -⟩ := assignField_ok hassigned
  rw [hrow] at hupdated
  obtain ⟨status, severity, resolveReason, determination, partner, -, -, -, -, -, rfl⟩ :=
    setFields_ok hupdated
  cases h
  rfl

theorem Field.KnownAnalyst.wellFormed {field : Field String}
    (h : field.KnownAnalyst py analysts) : field.WellFormed py := by
  intro text htext
  obtain ⟨hgiven, hne⟩ := truthy_eq_some.mp htext
  obtain ⟨id, assignee, hid, -⟩ := h text (Option.join_eq_some_iff.mp hgiven) hne
  rw [hid]
  rfl

theorem PatchApplied.knownAnalyst {alert' : Alert} {log : List Activity}
    (h : PatchApplied py analysts now analyst update alert alert' log) :
    update.assignedTo.KnownAnalyst py analysts := by
  intro text hgiven hne
  obtain ⟨assignment, hassignment, -⟩ := h.logged
  rw [hgiven] at hassignment
  cases hassignment with
  | cleared hempty => exact absurd (truthy_eq_some.mpr ⟨rfl, hne⟩) (by rw [hempty]; exact nofun)
  | assigned _ hid hassignee => exact ⟨_, _, hid, hassignee⟩

theorem assignField_applied {assignedTo : Field String} {assigned : Alert × List Activity}
    (hknown : assignedTo.KnownAnalyst py analysts)
    (h : assignField py analysts analyst assignedTo alert = .ok assigned) :
    AssignmentApplied py analysts analyst alert assigned.1 assignedTo assigned.2 := by
  rcases assignedTo with - | given
  · cases h
    exact .kept ⟨rfl, rfl⟩
  · simp only [assignField] at h
    cases htruthy : truthy given with
    | none =>
        rw [htruthy] at h
        cases h
        exact .cleared htruthy ⟨rfl, rfl⟩
    | some text =>
        obtain ⟨rfl, hne⟩ := truthy_eq_some.mp htruthy
        obtain ⟨id, assignee, hid, hassignee⟩ := hknown text rfl hne
        simp only [htruthy, hid, hassignee] at h
        cases h
        exact .assigned hne hid hassignee ⟨congrArg some (Table.find?_key hassignee), rfl⟩

theorem AssignmentApplied.of_eq {alert' alert'' : Alert} {assignedTo : Field String}
    {log : List Activity} (h : AssignmentApplied py analysts analyst alert alert' assignedTo log)
    (hto : alert''.assignedTo = alert'.assignedTo)
    (husername : alert''.assignedUsername = alert'.assignedUsername) :
    AssignmentApplied py analysts analyst alert alert'' assignedTo log := by
  cases h with
  | kept hkept => exact .kept (by rwa [hto, husername])
  | cleared hempty hcleared => exact .cleared hempty (by rwa [hto, husername])
  | assigned hgiven hid hassignee hassigned =>
      exact .assigned hgiven hid hassignee (by rwa [hto, husername])

theorem Field.assign_getD {n : Nat} {field : Field String} {old new : Varchar n}
    (h : field.assign old = .ok new) : some new.val = field.getD (some old.val) := by
  rcases Field.assign_ok h with ⟨rfl, rfl⟩ | ⟨value, rfl, rfl⟩
  · rfl
  · rfl

theorem join_eq_resolved {status : Field String} :
    status.join = some "resolved" ↔ status = some (some "resolved") :=
  Option.join_eq_some_iff

/-- The row function applies the update. -/
theorem updateRow_applied {alert' : Alert} {log : List Activity}
    (hknown : update.assignedTo.KnownAnalyst py analysts)
    (h : updateRow py analysts now analyst update alert = .ok (alert', log)) :
    PatchApplied py analysts now analyst update alert alert' log := by
  obtain ⟨_, -, h⟩ := bind_ok h
  obtain ⟨assigned, hassigned, h⟩ := bind_ok h
  obtain ⟨updated, hupdated, h⟩ := bind_ok h
  have happlied := assignField_applied hknown hassigned
  obtain ⟨⟨target, username, hrow⟩, -, -⟩ := assignField_ok hassigned
  rw [hrow] at hupdated happlied
  obtain ⟨status, severity, resolveReason, determination, partner, hstatus, hseverity, hreason,
    hdetermination, hpartner, rfl⟩ := setFields_ok hupdated
  cases h
  refine ⟨Field.assign_getD hstatus, Field.assign_getD hseverity,
    Field.assign_getD hdetermination, Field.assignNullable_val hreason,
      Field.assignNullable_val hpartner, ?_, ?_, rfl,
    assigned.2, happlied.of_eq rfl rfl, rfl⟩
  · show (match update.tags with | none => alert.tags | some given => _) = _
    cases update.tags with
    | none => rfl
    | some given => rfl
  · exact if_congr (and_congr_left fun _ => join_eq_resolved) rfl rfl

/-- The handler's own checks lay the fault on the request. -/
theorem validateUpdate_error {e : Raised} (h : validateUpdate py update alert = .error e) :
    e.IsClientError := by
  simp only [validateUpdate] at h
  split at h
  · cases h
    exact ⟨by decide, by decide⟩
  · split at h
    · cases h
      exact ⟨by decide, by decide⟩
    · cases h

theorem column_notClientError {n : Nat} {value : String} {e : Raised}
    (h : column n value = .error e) : ¬ e.IsClientError := by
  obtain ⟨reason, rfl⟩ := column_error h
  exact not_false

theorem Field.assign_error {n : Nat} {field : Field String} {old : Varchar n} {e : Raised}
    (h : field.assign old = .error e) : ¬ e.IsClientError := by
  rcases field with - | - | value
  · cases h
  · cases h
    exact not_false
  · exact column_notClientError h

theorem Field.assignNullable_error {n : Nat} {field : Field String} {old : Option (Varchar n)}
    {e : Raised} (h : field.assignNullable old = .error e) : ¬ e.IsClientError := by
  rcases field with - | - | value
  · cases h
  · cases h
  · cases hcolumn : column n value with
    | ok v =>
        rw [Field.assignNullable, hcolumn] at h
        cases h
    | error e' =>
        rw [Field.assignNullable, hcolumn] at h
        cases h
        exact column_notClientError hcolumn

theorem assignField_error {assignedTo : Field String} {e : Raised}
    (h : assignField py analysts analyst assignedTo alert = .error e) : ¬ e.IsClientError := by
  simp only [assignField] at h
  split at h
  · cases h
  · split at h
    · cases h
    · split at h
      · cases h
        exact not_false
      · split at h <;> cases h

theorem setFields_error {e : Raised} (h : setFields update alert = .error e) :
    ¬ e.IsClientError := by
  rcases bind_error h with h | ⟨_, -, h⟩
  · exact Field.assign_error h
  rcases bind_error h with h | ⟨_, -, h⟩
  · exact Field.assign_error h
  rcases bind_error h with h | ⟨_, -, h⟩
  · exact Field.assignNullable_error h
  rcases bind_error h with h | ⟨_, -, h⟩
  · exact Field.assign_error h
  rcases bind_error h with h | ⟨_, -, h⟩
  · exact Field.assignNullable_error h
  · cases h

/-- What a valid update raises is nobody's answer. -/
theorem updateRow_error (hvalid : validateUpdate py update alert = .ok ()) {e : Raised}
    (h : updateRow py analysts now analyst update alert = .error e) : ¬ e.IsClientError := by
  rw [updateRow, bind_of_ok hvalid] at h
  rcases bind_error h with h | ⟨_, -, h⟩
  · exact assignField_error h
  rcases bind_error h with h | ⟨_, -, h⟩
  · exact setFields_error h
  · cases h

/-- A request that gets as far as the row does what the row function does. -/
theorem updateAlert_reached {app : App} {alertId : Uuid} {caller : Option Analyst} {db : Db}
    (hanalyst : requirePermission .alertsUpdate caller = .ok analyst)
    (hfind : db.alerts.find? alertId = some alert)
    (hallowed : enforceTenantAccess app (.alert alert) "update" (some analyst) = .ok ()) :
    updateAlert py app now alertId update caller db =
      (updateRow py db.analysts now analyst update alert).map
        (fun result => (db.commitAlert result.1 result.2, result.1)) := by
  rw [updateAlert, bind_of_ok hanalyst, Db.withAlert]
  simp only [hfind, bind_of_ok hallowed]
  cases updateRow py db.analysts now analyst update alert with
  | error e => rfl
  | ok result => rfl

end Patch

section Requests

variable {py : PyText} {app : App} {now : Timestamp} {caller : Option Analyst} {db : Db}

/-- A request that ends cleanly, though nothing rejects it, is one that can be fulfilled. -/
theorem PatchEndsCleanly.fulfillable {alertId : Uuid} {update : AlertUpdate} {analyst : Analyst}
    {alert : Alert}
    (hends : PatchEndsCleanly py now alertId update caller db
      (patchAlert py app now alertId update caller db))
    (hanalyst : requirePermission .alertsUpdate caller = .ok analyst)
    (hfind : db.alerts.find? alertId = some alert)
    (hallowed : enforceTenantAccess app (.alert alert) "update" (some analyst) = .ok ())
    (hvalid : validateUpdate py update alert = .ok ()) :
    update.Fulfillable py db.analysts alert := by
  have hreached := @updateAlert_reached py now analyst update alert app alertId caller db
    hanalyst hfind hallowed
  cases hrow : updateRow py db.analysts now analyst update alert with
  | error e =>
      rw [hrow] at hreached
      simp only [PatchEndsCleanly, patchAlert, hreached, Except.map] at hends
      exact absurd hends.1 (updateRow_error hvalid hrow)
  | ok result =>
      obtain ⟨-, hfits⟩ := (updateRow_returns hvalid).mp ⟨result, hrow⟩
      rw [hrow] at hreached
      have htags : result.1.tags.all (fun tags => tags.all Option.isSome) = true := by
        by_contra htags
        have hresponse : alertResponse result.1 = .error _ := if_neg htags
        simp only [PatchEndsCleanly, patchAlert, hreached, Except.map, hresponse] at hends
        exact hends.1
      have hresponse : alertResponse result.1 = .ok result.1 := if_pos htags
      simp only [PatchEndsCleanly, patchAlert, hreached, Except.map, hresponse] at hends
      obtain ⟨_, _, _, -, -, happlied, -⟩ := hends
      exact ⟨happlied.knownAnalyst, hfits, updateRow_tags hrow ▸ htags⟩

/-- The request can be fulfilled, unless something rejects it. -/
def FulfillableIfReached (py : PyText) (app : App) (alertId : Uuid) (update : AlertUpdate)
    (caller : Option Analyst) (db : Db) : Prop :=
  ∀ analyst alert, requirePermission .alertsUpdate caller = .ok analyst →
    db.alerts.find? alertId = some alert →
    enforceTenantAccess app (.alert alert) "update" (some analyst) = .ok () →
    validateUpdate py update alert = .ok () → update.Fulfillable py db.analysts alert

/-- What is refused then is refused with an answer. -/
theorem updateAlert_refused (hrefuses : RefusesWithAnswer app) {alertId : Uuid}
    {update : AlertUpdate} {e : Raised}
    (h : FulfillableIfReached py app alertId update caller db)
    (hresult : updateAlert py app now alertId update caller db = .error e) :
    e.IsClientError := by
  rcases bind_error hresult with hcaller | ⟨analyst, hanalyst, hload⟩
  · exact requirePermission_error hcaller
  simp only [Db.withAlert] at hload
  cases hfind : db.alerts.find? alertId with
  | none =>
      rw [hfind] at hload
      cases hload
      exact ⟨by decide, by decide⟩
  | some alert =>
      simp only [hfind] at hload
      cases hallowed : enforceTenantAccess app (.alert alert) "update" (some analyst) with
      | error e' =>
          rw [hallowed] at hload
          cases hload
          exact hrefuses _ _ _ _ hallowed
      | ok _ =>
          have hreached := @updateAlert_reached py now analyst update alert app alertId
            caller db hanalyst hfind hallowed
          rw [hresult] at hreached
          cases hvalid : validateUpdate py update alert with
          | error e' =>
              rw [updateRow, hvalid] at hreached
              cases hreached
              exact validateUpdate_error hvalid
          | ok _ =>
              have hable := h analyst alert hanalyst hfind hallowed hvalid
              have hreturns : Returns (updateRow py db.analysts now analyst update alert) :=
                (updateRow_returns hvalid).mpr ⟨hable.assignedTo.wellFormed, hable.fits⟩
              obtain ⟨result, hrow⟩ := hreturns
              rw [hrow] at hreached
              cases hreached

/-- What is updated then is answered. -/
theorem updateAlert_answered {alertId : Uuid} {update : AlertUpdate} {db' : Db} {alert' : Alert}
    (h : FulfillableIfReached py app alertId update caller db)
    (hresult : updateAlert py app now alertId update caller db = .ok (db', alert')) :
    alertResponse alert' = .ok alert' ∧ ∃ analyst alert log, caller = some analyst ∧
      db.alerts.find? alertId = some alert ∧
      PatchApplied py db.analysts now analyst update alert alert' log ∧
      db' = db.commitAlert alert' log := by
  obtain ⟨analyst, alert, activities, hcaller, hfind, hallowed, hupdated, hdb⟩ :=
    updateAlert_ok hresult
  obtain ⟨analyst', hanalyst, -⟩ := bind_ok hresult
  cases hcaller.symm.trans (requirePermission_ok hanalyst).1
  have hreached := @updateAlert_reached py now analyst update alert app alertId caller db
    hanalyst hfind hallowed
  rw [hresult] at hreached
  obtain ⟨⟨row, log⟩, hrow, hcommit⟩ := map_ok hreached.symm
  cases hcommit
  have hable := h analyst alert hanalyst hfind hallowed hupdated.valid
  have htags := hable.tags
  rw [← updateRow_tags hrow] at htags
  exact ⟨if_pos htags, analyst, alert, log, hcaller, hfind,
    updateRow_applied hable.assignedTo hrow, rfl⟩

/-- **A `PATCH` ends cleanly** when the handler can carry it out, or rejects it before it comes
to that. -/
theorem patchAlert_ends_cleanly_iff (hrefuses : RefusesWithAnswer app) {alertId : Uuid}
    {update : AlertUpdate} :
    PatchEndsCleanly py now alertId update caller db
        (patchAlert py app now alertId update caller db) ↔
      ∀ analyst alert, requirePermission .alertsUpdate caller = .ok analyst →
        db.alerts.find? alertId = some alert →
        enforceTenantAccess app (.alert alert) "update" (some analyst) = .ok () →
        validateUpdate py update alert = .ok () → update.Fulfillable py db.analysts alert := by
  constructor
  · exact fun hends analyst alert => hends.fulfillable
  · intro h
    cases hresult : updateAlert py app now alertId update caller db with
    | error e =>
        simp only [PatchEndsCleanly, patchAlert, hresult, and_true]
        exact updateAlert_refused hrefuses h hresult
    | ok result =>
        obtain ⟨db', alert'⟩ := result
        obtain ⟨hresponse, hupdated⟩ := updateAlert_answered h hresult
        simp only [PatchEndsCleanly, patchAlert, hresult, hresponse]
        exact hupdated

end Requests

/-! ## The answer of a bulk request -/

/-- The activities that a pass adds. -/
def BulkOutcome.log : BulkOutcome → List Activity
  | .updated _ activities => activities
  | _ => []

/-- The alert is as before. -/
def Untouched (db db' : Db) (aid : Uuid) : Prop :=
  db'.alerts.find? aid = db.alerts.find? aid ∧ db'.activitiesOf aid = db.activitiesOf aid

/-- The alert is as the first pass for it has left it: untouched, or with the row and the
activities of that pass, which later passes may have logged once more. -/
def SettledAs (db db' : Db) (aid : Uuid) : BulkOutcome → Prop
  | .updated alert activities => db'.alerts.find? aid = some alert ∧
      ∃ later, db'.activitiesOf aid = db.activitiesOf aid ++ (activities ++ later)
  | _ => Untouched db db' aid

/-- A bulk action carried out on a row, and its log.  A resolution writes a reason and a
determination where they are given and not empty; an assignment is to the caller. -/
inductive BulkApplied (now : Timestamp) (analyst : Analyst) (body : BulkAlertUpdate)
    (alert : Alert) : Alert → List Activity → Prop
  | resolve {status : Varchar 20} {reason : Option (Varchar 255)} {determination : Varchar 30}
      {detail : String} (haction : body.action = "resolve")
      (hopen : alert.status.val ≠ "resolved") (hstatus : status.val = "resolved")
      (hreason : reason.map (·.val) =
        (truthy body.resolveReason).or (alert.resolveReason.map (·.val)))
      (hdetermination : determination.val =
        (truthy body.determination).getD alert.determination.val)
      (hknown : determination.val ≠ "unknown") :
      BulkApplied now analyst body alert
        { alert with
          status := status, resolvedAt := some now, resolveReason := reason
          determination := determination }
        [alertActivity (some analyst) alert.id statusChange detail
          (some (changeOf alert.status.val "resolved"))]
  | assign {status : Varchar 20} {detail : String} (haction : body.action = "assign")
      (hstatus : status.val =
        if alert.status.val = "new" then "in_progress" else alert.status.val) :
      BulkApplied now analyst body alert
        { alert with
          assignedTo := some analyst.id, assignedUsername := some analyst.username
          status := status }
        [alertActivity (some analyst) alert.id claimedAction detail none]
  | changeSeverity {severity : Varchar 20} {detail : String}
      (haction : body.action = "change_severity")
      (hseverity : truthy body.severity = some severity.val) :
      BulkApplied now analyst body alert { alert with severity := severity }
        [alertActivity (some analyst) alert.id severityChange detail
          (some (changeOf alert.severity.val severity.val))]

/-- The request gets to a stored alert: the query returns it, and its tenant guard passes. -/
structure BulkReaches (app : App) (analyst : Analyst) (db : Db) (aid : Uuid) (alert : Alert) :
    Prop where
  loaded : bulkLoaded app analyst db aid = true
  stored : db.alerts.find? aid = some alert
  allowed : enforceTenantAccess app (.alert alert) "bulk_update" (some analyst) = .ok ()

/-- What the request asks for can not be done to the alert: an alert of an unknown determination
is not resolved, and there is no other action. -/
inductive BulkAlertUpdate.Refuses (body : BulkAlertUpdate) (alert : Alert) : Prop
  | unknown (haction : body.action = "resolve")
      (hunknown : (truthy body.determination).getD alert.determination.val = "unknown")
  | noAction (haction : body.action ∉ ["resolve", "assign", "change_severity"])
  | noSeverity (haction : body.action = "change_severity") (hnone : truthy body.severity = none)

/-- The text of a failure is about the alert, or about the action. -/
def FailureOf (body : BulkAlertUpdate) (aid : Uuid) (error : String) : Prop :=
  (∃ text, error = "Alert " ++ Uuid.toText aid ++ text) ∨ error = "Unknown action: " ++ body.action

/-- What a bulk request does to an alert it lists.  It carries the action out, and the later passes
of an id listed twice may log it once more; or it finds the alert resolved already; or
it reports why not, and leaves the alert alone. -/
inductive BulkSettles (app : App) (now : Timestamp) (analyst : Analyst) (body : BulkAlertUpdate)
    (db db' : Db) (errors : List String) (aid : Uuid) : Prop
  | applied {alert alert' : Alert} {log later : List Activity}
      (hreaches : BulkReaches app analyst db aid alert)
      (happlied : BulkApplied now analyst body alert alert' log)
      (hrow : db'.alerts.find? aid = some alert')
      (htrail : db'.activitiesOf aid = db.activitiesOf aid ++ (log ++ later))
  | alreadyResolved {alert : Alert} (hreaches : BulkReaches app analyst db aid alert)
      (haction : body.action = "resolve") (hresolved : alert.status.val = "resolved")
      (huntouched : Untouched db db' aid)
  | failed {error : String} (hreported : error ∈ errors) (hfailure : FailureOf body aid error)
      (hrefused : ∀ alert, BulkReaches app analyst db aid alert → body.Refuses alert)
      (huntouched : Untouched db db' aid)

/-- Every listed alert is settled, or the fault is the request's. -/
def BulkEndsCleanly (app : App) (now : Timestamp) (body : BulkAlertUpdate)
    (caller : Option Analyst) (db : Db) (ending : Except Raised (Db × BulkOperationResult)) :
    Prop :=
  match ending with
  | .ok (db', result) => ∃ analyst, caller = some analyst ∧
      ∀ aid ∈ body.alertIds, BulkSettles app now analyst body db db' result.errors aid
  | .error e => e.IsClientError

/-- The columns take what the action would write to the alert. -/
structure BulkAlertUpdate.Fits (body : BulkAlertUpdate) (alert : Alert) : Prop where
  resolve : body.action = "resolve" → alert.status.val ≠ "resolved" →
    (truthy body.determination).getD alert.determination.val ≠ "unknown" →
    (∀ reason, body.resolveReason = some reason → reason.length ≤ 255) ∧
      ∀ determination, body.determination = some determination → determination.length ≤ 30
  severity : body.action = "change_severity" →
    ∀ severity, body.severity = some severity → severity.length ≤ 20

section Pass

variable {app : App} {now : Timestamp} {analyst : Analyst} {body : BulkAlertUpdate}
variable {alert : Alert} {loaded : Uuid → Bool} {db db' : Db} {aid : Uuid}

/-- An optional value that is used where it is not empty. -/
theorem given_truthy_fits {n : Nat} {value : Option String} :
    (Field.given (truthy value)).Fits n ↔ ∀ given, value = some given → given.length ≤ n := by
  constructor
  · intro h given hgiven
    by_cases hempty : given = ""
    · subst hempty
      exact Nat.zero_le n
    · refine h given ?_
      rw [truthy_eq_some.mpr ⟨hgiven, hempty⟩]
      rfl
  · intro h given hgiven
    cases htruthy : truthy value with
    | none =>
        rw [htruthy] at hgiven
        cases hgiven
    | some text =>
        rw [htruthy] at hgiven
        cases hgiven
        exact h given (truthy_eq_some.mp htruthy).1

theorem given_notNull (value : Option String) : (Field.given value).NotNull := by
  cases value <;> exact nofun

/-- A resolution of an alert that it can resolve needs its values to fit. -/
theorem bulkResolve_returns (hopen : alert.status.val ≠ "resolved")
    (hknown : (truthy body.determination).getD alert.determination.val ≠ "unknown") :
    Returns (bulkResolve now analyst body alert) ↔
      (∀ reason, body.resolveReason = some reason → reason.length ≤ 255) ∧
        ∀ determination, body.determination = some determination →
          determination.length ≤ 30 := by
  rw [bulkResolve, if_neg hopen, if_neg hknown, ← given_truthy_fits, ← given_truthy_fits]
  simp only [returns_bind]
  constructor
  · rintro ⟨reason, hreason, determination, hdetermination, -⟩
    exact ⟨Field.assignNullable_returns.mp ⟨reason, hreason⟩,
      (Field.assign_returns.mp ⟨determination, hdetermination⟩).2⟩
  · rintro ⟨hreason, hdetermination⟩
    have hreason' : Returns ((Field.given (truthy body.resolveReason)).assignNullable
        alert.resolveReason) := Field.assignNullable_returns.mpr hreason
    have hdetermination' : Returns ((Field.given (truthy body.determination)).assign
        alert.determination) := Field.assign_returns.mpr ⟨given_notNull _, hdetermination⟩
    obtain ⟨reason, hreason'⟩ := hreason'
    obtain ⟨determination, hdetermination'⟩ := hdetermination'
    exact ⟨reason, hreason', determination, hdetermination', returns_ok _⟩

theorem bulkRow_returns : Returns (bulkRow now analyst body alert) ↔ body.Fits alert := by
  by_cases hresolve : body.action = "resolve"
  · have hother : body.action ≠ "change_severity" := by
      rw [hresolve]
      decide
    rw [bulkRow, if_pos hresolve]
    by_cases hopen : alert.status.val = "resolved"
    · rw [bulkResolve, if_pos hopen]
      exact iff_of_true (returns_ok _)
        ⟨fun _ h => absurd hopen h, fun h => absurd h hother⟩
    by_cases hknown : (truthy body.determination).getD alert.determination.val = "unknown"
    · rw [bulkResolve, if_neg hopen, if_pos hknown]
      exact iff_of_true (returns_ok _)
        ⟨fun _ _ h => absurd hknown h, fun h => absurd h hother⟩
    · rw [bulkResolve_returns hopen hknown]
      exact ⟨fun h => ⟨fun _ _ _ => h, fun h => absurd h hother⟩,
        fun h => h.resolve hresolve hopen hknown⟩
  · rw [bulkRow, if_neg hresolve]
    by_cases hassign : body.action = "assign"
    · rw [if_pos hassign]
      refine iff_of_true (returns_ok _) ⟨fun h => absurd h hresolve, fun h => ?_⟩
      exact absurd (hassign.symm.trans h) (by decide)
    · rw [if_neg hassign]
      by_cases hchange : body.action = "change_severity"
      · rw [if_pos hchange]
        have hfits : body.Fits alert ↔
            ∀ severity, body.severity = some severity → severity.length ≤ 20 :=
          ⟨fun h => h.severity hchange, fun h => ⟨fun h => absurd h hresolve, fun _ => h⟩⟩
        rw [hfits, ← given_truthy_fits]
        cases hseverity : truthy body.severity with
        | none => exact iff_of_true (returns_ok _) (fun _ h => (Option.some_ne_none _ h.symm).elim)
        | some severity =>
            refine returns_bind.trans ⟨?_, fun h => ?_⟩
            · rintro ⟨new, hnew, -⟩ _ ⟨⟩
              exact column_returns.mp ⟨new, hnew⟩
            · exact ⟨⟨severity, h severity rfl⟩, column_ok (h severity rfl), returns_ok _⟩
      · rw [if_neg hchange]
        exact iff_of_true (returns_ok _) ⟨fun h => absurd h hresolve, fun h => absurd h hchange⟩

/-- What a pass comes to depends on the row of its id only. -/
theorem bulkOutcome_congr (h : db'.alerts.find? aid = db.alerts.find? aid) :
    bulkOutcome app now analyst body loaded db' aid =
      bulkOutcome app now analyst body loaded db aid := by
  simp only [bulkOutcome, h]

/-- A pass that gets to its alert does what the action does. -/
theorem bulkOutcome_reached (hloaded : loaded aid = true)
    (hfind : db.alerts.find? aid = some alert)
    (hallowed : enforceTenantAccess app (.alert alert) "bulk_update" (some analyst) = .ok ()) :
    bulkOutcome app now analyst body loaded db aid = bulkRow now analyst body alert := by
  simp only [bulkOutcome, hloaded, if_true, hfind, hallowed]

/-- A pass that does not get there fails. -/
theorem bulkOutcome_unreached
    (h : ¬ ∃ alert, loaded aid = true ∧ db.alerts.find? aid = some alert ∧
      enforceTenantAccess app (.alert alert) "bulk_update" (some analyst) = .ok ()) :
    ∃ error, bulkOutcome app now analyst body loaded db aid = .ok (.failed error) ∧
      FailureOf body aid error := by
  cases hloaded : loaded aid with
  | false =>
      refine ⟨_, ?_, .inl ⟨" not found", rfl⟩⟩
      simp only [bulkOutcome, hloaded, Bool.false_eq_true, if_false]
  | true =>
      cases hfind : db.alerts.find? aid with
      | none =>
          refine ⟨_, ?_, .inl ⟨" not found", rfl⟩⟩
          simp only [bulkOutcome, hloaded, if_true, hfind]
      | some alert =>
          cases hallowed :
              enforceTenantAccess app (.alert alert) "bulk_update" (some analyst) with
          | error e =>
              refine ⟨_, ?_, .inl ⟨": " ++ e.text, String.append_assoc⟩⟩
              simp only [bulkOutcome, hloaded, if_true, hfind, hallowed]
          | ok _ => exact absurd ⟨alert, hloaded, hfind, hallowed⟩ h

/-- A pass returns when the alert it gets to has its values taken. -/
theorem bulkOutcome_returns : Returns (bulkOutcome app now analyst body loaded db aid) ↔
    ∀ alert, loaded aid = true → db.alerts.find? aid = some alert →
      enforceTenantAccess app (.alert alert) "bulk_update" (some analyst) = .ok () →
      body.Fits alert := by
  by_cases hreached : ∃ alert, loaded aid = true ∧ db.alerts.find? aid = some alert ∧
      enforceTenantAccess app (.alert alert) "bulk_update" (some analyst) = .ok ()
  · obtain ⟨alert, hloaded, hfind, hallowed⟩ := hreached
    rw [bulkOutcome_reached hloaded hfind hallowed, bulkRow_returns]
    constructor
    · intro h other _ hother _
      cases hfind.symm.trans hother
      exact h
    · intro h
      exact h alert hloaded hfind hallowed
  · obtain ⟨error, herror, -⟩ := @bulkOutcome_unreached app now analyst body loaded db aid hreached
    refine iff_of_true ⟨_, herror⟩ (fun alert hloaded hfind hallowed => ?_)
    exact absurd ⟨alert, hloaded, hfind, hallowed⟩ hreached

/-- What a pass raises is nobody's answer. -/
theorem bulkOutcome_error {e : Raised}
    (h : bulkOutcome app now analyst body loaded db aid = .error e) : ¬ e.IsClientError := by
  simp only [bulkOutcome] at h
  split at h
  · cases h
  · split at h
    · cases h
    · simp only [bulkRow] at h
      split at h
      · simp only [bulkResolve] at h
        split at h
        · cases h
        split at h
        · cases h
        rcases bind_error h with h | ⟨_, -, h⟩
        · exact Field.assignNullable_error h
        rcases bind_error h with h | ⟨_, -, h⟩
        · exact Field.assign_error h
        · cases h
      split at h
      · cases h
      split at h
      · rcases bind_error h with h | ⟨_, -, h⟩
        · exact column_notClientError h
        · cases h
      · cases h

/-- A pass that changes a row carries the action out. -/
theorem bulkRow_applied {alert' : Alert} {log : List Activity}
    (h : bulkRow now analyst body alert = .ok (.updated alert' log)) :
    BulkApplied now analyst body alert alert' log := by
  cases bulkRow_updated h with
  | resolved detail reason determination haction hopen hknown hreason hdetermination hrow =>
      subst hrow
      have hreason' := Field.assignNullable_val hreason
      refine .resolve haction hopen rfl ?_ hdetermination (hdetermination ▸ hknown)
      cases htruthy : truthy body.resolveReason with
      | none =>
          rw [htruthy] at hreason'
          exact hreason'
      | some text =>
          rw [htruthy] at hreason'
          exact hreason'
  | assigned haction hassigned =>
      cases hassigned
      refine .assign haction ?_
      split
      · rfl
      · rfl
  | severity new detail haction hgiven hchanged =>
      obtain ⟨severity, rfl, rfl⟩ := hchanged
      exact .changeSeverity haction hgiven

/-- A pass fails an alert that it gets to when the action can not be done to it. -/
theorem bulkRow_refuses {error : String}
    (h : bulkRow now analyst body alert = .ok (.failed error)) : body.Refuses alert := by
  obtain ⟨-, hunknown, hassign, hseverity⟩ := bulkRow_failed h
  by_cases hresolve : body.action = "resolve"
  · exact .unknown hresolve (hunknown hresolve)
  by_cases hchange : body.action = "change_severity"
  · exact .noSeverity hchange (hseverity hchange)
  · refine .noAction fun hmem => ?_
    simp only [List.mem_cons, List.not_mem_nil, or_false] at hmem
    rcases hmem with hmem | hmem | hmem
    · exact hresolve hmem
    · exact hassign hmem
    · exact hchange hmem

theorem bulkRow_failure {error : String}
    (h : bulkRow now analyst body alert = .ok (.failed error)) :
    FailureOf body alert.id error := by
  simp only [bulkRow, bulkResolve, bulkChangeSeverity] at h
  split at h
  · split at h
    · cases h
    split at h
    · cases h
      exact .inl ⟨_, rfl⟩
    obtain ⟨_, -, h⟩ := bind_ok h
    obtain ⟨_, -, h⟩ := bind_ok h
    cases h
  split at h
  · cases h
  split at h
  · obtain ⟨_, -, h⟩ := bind_ok h
    cases h
  · cases h
    exact .inr rfl

/-- A pass over the row that an earlier one has written leaves it alone. -/
theorem bulkRow_twice {alert' : Alert} {activities : List Activity}
    (h : bulkRow now analyst body alert = .ok (.updated alert' activities)) :
    ∃ outcome, bulkRow now analyst body alert' = .ok outcome ∧
      outcome.rowAfter (some alert') = some alert' := by
  cases bulkRow_updated h with
  | resolved _ _ _ haction _ _ _ _ hresolved =>
      subst hresolved
      refine ⟨.skipped, ?_, rfl⟩
      rw [bulkRow, if_pos haction, bulkResolve, if_pos rfl]
  | assigned haction hassigned =>
      refine ⟨bulkAssign analyst alert', ?_, ?_⟩
      · rw [bulkRow, if_neg (by rw [haction]; decide), if_pos haction]
      · cases hassigned
        have htaken : (if alert.status.val = "new" then (.lit "in_progress" : Varchar 20)
            else alert.status).val ≠ "new" := by
          split
          · decide
          · assumption
        simp only [BulkOutcome.rowAfter, bulkAssign, if_neg htaken]
  | severity new _ haction hgiven hchanged =>
      obtain ⟨severity, rfl, rfl⟩ := hchanged
      have hchange : bulkRow now analyst body { alert with severity := severity } =
          bulkChangeSeverity analyst severity.val { alert with severity := severity } := by
        rw [bulkRow, if_neg (by rw [haction]; decide), if_neg (by rw [haction]; decide),
          if_pos haction, hgiven]
      rw [hchange, bulkChangeSeverity, column_of_fits]
      exact ⟨_, rfl, rfl⟩

end Pass

/-! ## The loop, from one id -/

section Loop

variable {app : App} {now : Timestamp} {analyst : Analyst} {body : BulkAlertUpdate}
variable {loaded : Uuid → Bool} {db db' : Db} {aid : Uuid} {outcome : BulkOutcome}

/-- The session after a pass, from the id of the pass. -/
theorem count_self {result : BulkOperationResult}
    (h : bulkOutcome app now analyst body loaded db aid = .ok outcome) :
    (outcome.count (db, result)).1.alerts.find? aid = outcome.rowAfter (db.alerts.find? aid) ∧
      (outcome.count (db, result)).1.activitiesOf aid = db.activitiesOf aid ++ outcome.log := by
  refine ⟨(@count_row app now analyst body loaded (db, result) aid outcome h aid).trans
    (if_pos rfl), ?_⟩
  cases outcome with
  | failed error => exact (List.append_nil _).symm
  | skipped => exact (List.append_nil _).symm
  | updated alert' activities =>
      rcases bulkOutcome_cases h with ⟨error, herror⟩ | ⟨alert, hfind, hrow⟩
      · cases herror
      · have hkey : alert.id = aid := Table.find?_key hfind
        subst hkey
        exact Db.activitiesOf_commitAlert_self (bulkRow_updated hrow).rowFunction.2

/-- The session after a pass, from any other id. -/
theorem count_other {result : BulkOperationResult} {i : Uuid} (hne : i ≠ aid)
    (h : bulkOutcome app now analyst body loaded db aid = .ok outcome) :
    Untouched db (outcome.count (db, result)).1 i := by
  refine ⟨(@count_row app now analyst body loaded (db, result) aid outcome h i).trans
    (if_neg hne), ?_⟩
  cases outcome with
  | failed error => rfl
  | skipped => rfl
  | updated alert' activities =>
      rcases bulkOutcome_cases h with ⟨error, herror⟩ | ⟨alert, hfind, hrow⟩
      · cases herror
      · have hkey : alert.id = aid := Table.find?_key hfind
        subst hkey
        exact Db.activitiesOf_commitAlert_ne hne (bulkRow_updated hrow).rowFunction.2

theorem settled_self {result : BulkOperationResult}
    (h : bulkOutcome app now analyst body loaded db aid = .ok outcome) :
    SettledAs db (outcome.count (db, result)).1 aid outcome := by
  obtain ⟨hrow, htrail⟩ := @count_self app now analyst body loaded db aid outcome result h
  cases outcome with
  | failed error => exact ⟨rfl, rfl⟩
  | skipped => exact ⟨rfl, rfl⟩
  | updated alert' activities => exact ⟨hrow, [], by rw [htrail, List.append_nil]; rfl⟩

theorem Untouched.settled {s : Db} (h : Untouched db s aid)
    (hsettled : SettledAs s db' aid outcome) : SettledAs db db' aid outcome := by
  cases outcome with
  | failed error => exact ⟨hsettled.1.trans h.1, hsettled.2.trans h.2⟩
  | skipped => exact ⟨hsettled.1.trans h.1, hsettled.2.trans h.2⟩
  | updated alert' activities =>
      obtain ⟨hrow, later, htrail⟩ := hsettled
      exact ⟨hrow, later, by rw [htrail, h.2]⟩

theorem SettledAs.untouched {s : Db} (h : SettledAs db s aid outcome)
    (huntouched : Untouched s db' aid) : SettledAs db db' aid outcome := by
  cases outcome with
  | failed error => exact ⟨huntouched.1.trans h.1, huntouched.2.trans h.2⟩
  | skipped => exact ⟨huntouched.1.trans h.1, huntouched.2.trans h.2⟩
  | updated alert' activities =>
      obtain ⟨hrow, later, htrail⟩ := h
      exact ⟨huntouched.1.trans hrow, later, huntouched.2.trans htrail⟩

/-- **A later pass.**  For an alert that its first pass has settled, a pass returns and leaves
it settled. -/
theorem settled_again {s : Db} {result : BulkOperationResult}
    (hfirst : bulkOutcome app now analyst body loaded db aid = .ok outcome)
    (hsettled : SettledAs db s aid outcome) :
    ∃ next, bulkOutcome app now analyst body loaded s aid = .ok next ∧
      SettledAs db (next.count (s, result)).1 aid outcome := by
  cases outcome with
  | failed error => exact ⟨_, (bulkOutcome_congr hsettled.1).trans hfirst, hsettled⟩
  | skipped => exact ⟨_, (bulkOutcome_congr hsettled.1).trans hfirst, hsettled⟩
  | updated alert' activities =>
      obtain ⟨hrow, later, htrail⟩ := hsettled
      rcases bulkOutcome_cases hfirst with ⟨error, herror⟩ | ⟨alert, -, hchanged⟩
      · cases herror
      by_cases hreached : ∃ found, loaded aid = true ∧ s.alerts.find? aid = some found ∧
          enforceTenantAccess app (.alert found) "bulk_update" (some analyst) = .ok ()
      · obtain ⟨found, hloaded, hfind, hallowed⟩ := hreached
        cases hrow.symm.trans hfind
        obtain ⟨next, hnext, hkept⟩ := bulkRow_twice hchanged
        have hpass := (bulkOutcome_reached hloaded hfind hallowed).trans hnext
        obtain ⟨hrow', htrail'⟩ :=
          @count_self app now analyst body loaded s aid next result hpass
        refine ⟨next, hpass, hrow'.trans (by rw [hrow, hkept]), later ++ next.log, ?_⟩
        rw [htrail', htrail, List.append_assoc, List.append_assoc]
      · -- The validators may refuse the row that the first pass made.
        obtain ⟨error, herror, -⟩ :=
          @bulkOutcome_unreached app now analyst body loaded s aid hreached
        exact ⟨_, herror, hrow, later, htrail⟩

/-- A pass for another alert. -/
theorem settled_other {s : Db} {other : Uuid} {next : BulkOutcome} {result : BulkOperationResult}
    (hne : aid ≠ other) (h : bulkOutcome app now analyst body loaded s other = .ok next) :
    (Untouched db s aid → Untouched db (next.count (s, result)).1 aid) ∧
      (SettledAs db s aid outcome → SettledAs db (next.count (s, result)).1 aid outcome) := by
  have hkept := @count_other app now analyst body loaded s other next result aid hne h
  constructor
  · intro huntouched
    exact ⟨hkept.1.trans huntouched.1, hkept.2.trans huntouched.2⟩
  · intro hsettled
    exact hsettled.untouched hkept

/-- **The loop.**  When the first pass for each listed alert returns, so does the loop, and it
settles every one of them. -/
theorem bulkLoop_settles (hfirst : ∀ i ∈ body.alertIds,
      Returns (bulkOutcome app now analyst body loaded db i)) :
    ∀ (aids : List Uuid) (state : Db × BulkOperationResult), (∀ i ∈ aids, i ∈ body.alertIds) →
      (∀ i o, i ∈ body.alertIds → bulkOutcome app now analyst body loaded db i = .ok o →
        Untouched db state.1 i ∨ SettledAs db state.1 i o) →
      ∃ state', aids.foldlM (bulkStep app now analyst body loaded) state = .ok state' ∧
        ∀ i o, i ∈ body.alertIds → bulkOutcome app now analyst body loaded db i = .ok o →
          (Untouched db state'.1 i ∨ SettledAs db state'.1 i o) ∧
            (i ∈ aids ∨ SettledAs db state.1 i o → SettledAs db state'.1 i o) := by
  intro aids
  induction aids with
  | nil =>
      intro state _ hstate
      refine ⟨state, rfl, fun i o hi ho => ⟨hstate i o hi ho, ?_⟩⟩
      rintro (hmem | hsettled)
      · cases hmem
      · exact hsettled
  | cons aid aids ih =>
      intro state hlisted hstate
      obtain ⟨s, result⟩ := state
      have haid := hlisted aid List.mem_cons_self
      obtain ⟨outcome, houtcome⟩ := hfirst aid haid
      -- The pass for `aid` returns and settles it, the first one or a later one.
      have hpass : ∃ next, bulkOutcome app now analyst body loaded s aid = .ok next ∧
          SettledAs db (next.count (s, result)).1 aid outcome := by
        rcases hstate aid outcome haid houtcome with huntouched | hsettled
        · have hsame := (bulkOutcome_congr huntouched.1).trans houtcome
          exact ⟨outcome, hsame, huntouched.settled (settled_self hsame)⟩
        · exact settled_again houtcome hsettled
      obtain ⟨next, hnext, hsettled⟩ := hpass
      have hstep : bulkStep app now analyst body loaded (s, result) aid =
          .ok (next.count (s, result)) := by
        rw [bulkStep, hnext]
        rfl
      have hstate' : ∀ i o, i ∈ body.alertIds →
          bulkOutcome app now analyst body loaded db i = .ok o →
          (Untouched db (next.count (s, result)).1 i ∨
            SettledAs db (next.count (s, result)).1 i o) ∧
          (i = aid ∨ SettledAs db s i o → SettledAs db (next.count (s, result)).1 i o) := by
        intro i o hi ho
        by_cases hne : i = aid
        · subst hne
          cases houtcome.symm.trans ho
          exact ⟨Or.inr hsettled, fun _ => hsettled⟩
        · obtain ⟨huntouched, hkept⟩ := @settled_other app now analyst body loaded db i o s aid next
            result hne hnext
          refine ⟨(hstate i o hi ho).imp huntouched hkept, ?_⟩
          rintro (heq | hbefore)
          · exact absurd heq hne
          · exact hkept hbefore
      obtain ⟨state', hrest, hdone⟩ := ih (next.count (s, result))
        (fun i hi => hlisted i (List.mem_cons_of_mem _ hi)) (fun i o hi ho => (hstate' i o hi ho).1)
      refine ⟨state', ?_, fun i o hi ho => ⟨(hdone i o hi ho).1, ?_⟩⟩
      · rw [List.foldlM_cons, bind_of_ok hstep]
        exact hrest
      · rintro (hmem | hbefore)
        · rcases List.mem_cons.mp hmem with heq | hmem
          · exact (hdone i o hi ho).2 (Or.inr ((hstate' i o hi ho).2 (Or.inl heq)))
          · exact (hdone i o hi ho).2 (Or.inl hmem)
        · exact (hdone i o hi ho).2 (Or.inr ((hstate' i o hi ho).2 (Or.inr hbefore)))

/-- **Failures are reported.**  Every pass for an alert that its first pass fails, fails it alike,
and says so. -/
theorem bulkLoop_reports {error : String}
    (hfirst : bulkOutcome app now analyst body loaded db aid = .ok (.failed error)) :
    ∀ (aids : List Uuid) (state state' : Db × BulkOperationResult),
      aids.foldlM (bulkStep app now analyst body loaded) state = .ok state' →
      state.1.alerts.find? aid = db.alerts.find? aid →
      aid ∈ aids ∨ error ∈ state.2.errors → error ∈ state'.2.errors := by
  intro aids
  induction aids with
  | nil =>
      intro state state' h _ hmem
      cases h
      exact hmem.resolve_left List.not_mem_nil
  | cons first aids ih =>
      intro state state' h hrow hmem
      rw [List.foldlM_cons] at h
      obtain ⟨next, hstep, hrest⟩ := bind_ok h
      obtain ⟨outcome, hpass, rfl⟩ := map_ok hstep
      have hkept : error ∈ state.2.errors → error ∈ (outcome.count state).2.errors := by
        intro hbefore
        cases outcome with
        | updated alert activities => exact hbefore
        | skipped => exact hbefore
        | failed other => exact List.mem_append_left _ hbefore
      by_cases hne : aid = first
      · subst hne
        cases ((bulkOutcome_congr hrow).trans hfirst).symm.trans hpass
        exact ih _ state' hrest hrow (.inr (List.mem_append_right _ List.mem_cons_self))
      · have hother := (@count_other app now analyst body loaded state.1 first outcome state.2 aid
          hne hpass).1
        refine ih _ state' hrest (hother.trans hrow) ?_
        rcases hmem with hmem | hbefore
        · exact .inl ((List.mem_cons.mp hmem).resolve_left hne)
        · exact .inr (hkept hbefore)

/-- What the first pass for an alert comes to, said of the alert. -/
theorem bulkSettles_of_settled {errors : List String}
    (hfirst : bulkOutcome app now analyst body (bulkLoaded app analyst db) db aid = .ok outcome)
    (hsettled : SettledAs db db' aid outcome)
    (hreported : ∀ error, outcome = .failed error → error ∈ errors) :
    BulkSettles app now analyst body db db' errors aid := by
  by_cases hreached : ∃ alert, bulkLoaded app analyst db aid = true ∧
      db.alerts.find? aid = some alert ∧
      enforceTenantAccess app (.alert alert) "bulk_update" (some analyst) = .ok ()
  · obtain ⟨alert, hloaded, hfind, hallowed⟩ := hreached
    have hreaches : BulkReaches app analyst db aid alert := ⟨hloaded, hfind, hallowed⟩
    have hpass : bulkRow now analyst body alert = .ok outcome :=
      (bulkOutcome_reached hloaded hfind hallowed).symm.trans hfirst
    cases outcome with
    | updated alert' log =>
        obtain ⟨hrow, later, htrail⟩ := hsettled
        exact .applied hreaches (bulkRow_applied hpass) hrow htrail
    | skipped =>
        obtain ⟨haction, hresolved⟩ := bulkRow_skipped hpass
        exact .alreadyResolved hreaches haction hresolved hsettled
    | failed error =>
        have hid : alert.id = aid := Table.find?_key hfind
        refine .failed (hreported error rfl) (hid ▸ bulkRow_failure hpass)
          (fun other hother => ?_) hsettled
        cases hfind.symm.trans hother.stored
        exact bulkRow_refuses hpass
  · obtain ⟨error, herror, hfailure⟩ :=
      @bulkOutcome_unreached app now analyst body (bulkLoaded app analyst db) db aid hreached
    cases hfirst.symm.trans herror
    refine .failed (hreported error rfl) hfailure (fun alert hreaches => ?_) hsettled
    exact absurd ⟨alert, hreaches.loaded, hreaches.stored, hreaches.allowed⟩ hreached

/-- A first pass that raises takes the batch with it, whatever is listed beside its alert. -/
theorem bulkLoop_raises {e : Raised}
    (hraises : bulkOutcome app now analyst body loaded db aid = .error e) :
    ∀ (aids : List Uuid) (state : Db × BulkOperationResult), aid ∈ aids →
      state.1.alerts.find? aid = db.alerts.find? aid →
      ∃ e', aids.foldlM (bulkStep app now analyst body loaded) state = .error e' ∧
        ¬ e'.IsClientError := by
  intro aids
  induction aids with
  | nil => exact fun _ hmem => (nomatch hmem)
  | cons first aids ih =>
      intro state hmem hrow
      rw [List.foldlM_cons, bulkStep]
      cases hpass : bulkOutcome app now analyst body loaded state.1 first with
      | error e' => exact ⟨e', rfl, bulkOutcome_error hpass⟩
      | ok outcome =>
          have hne : aid ≠ first := by
            rintro rfl
            have hsame := (bulkOutcome_congr hrow).trans hraises
            cases hpass.symm.trans hsame
          have hrest : aid ∈ aids := (List.mem_cons.mp hmem).resolve_left hne
          exact ih (outcome.count state) hrest
            ((@count_other app now analyst body loaded state.1 first outcome state.2 aid hne
              hpass).1.trans hrow)

end Loop

/-- **A bulk request ends cleanly** exactly when the columns take what it would write to each
listed alert that it gets to. -/
theorem bulk_ends_cleanly_iff {app : App} {now : Timestamp} {body : BulkAlertUpdate}
    {caller : Option Analyst} {db : Db} :
    BulkEndsCleanly app now body caller db (bulkUpdateAlerts app now body caller db) ↔
      ∀ analyst, requirePermission .alertsUpdate caller = .ok analyst →
        ∀ aid ∈ body.alertIds, ∀ alert, bulkLoaded app analyst db aid = true →
          db.alerts.find? aid = some alert →
          enforceTenantAccess app (.alert alert) "bulk_update" (some analyst) = .ok () →
          body.Fits alert := by
  suffices hpasses : BulkEndsCleanly app now body caller db
      (bulkUpdateAlerts app now body caller db) ↔
        ∀ analyst, requirePermission .alertsUpdate caller = .ok analyst →
          ∀ aid ∈ body.alertIds,
            Returns (bulkOutcome app now analyst body (bulkLoaded app analyst db) db aid) by
    rw [hpasses]
    constructor
    · intro h analyst hanalyst aid haid
      exact bulkOutcome_returns.mp (h analyst hanalyst aid haid)
    · intro h analyst hanalyst aid haid
      exact bulkOutcome_returns.mpr (h analyst hanalyst aid haid)
  cases hcaller : requirePermission .alertsUpdate caller with
  | error e =>
      refine iff_of_true ?_ nofun
      rw [bulkUpdateAlerts, hcaller]
      exact requirePermission_error hcaller
  | ok analyst =>
      rw [bulkUpdateAlerts, bind_of_ok hcaller]
      constructor
      · rintro hends _ ⟨⟩ aid haid
        by_contra hraises
        obtain ⟨e, herror⟩ := not_returns.mp hraises
        obtain ⟨e', hloop, hunanswered⟩ := bulkLoop_raises herror body.alertIds (db, ⟨0, 0, []⟩)
          haid rfl
        rw [hloop] at hends
        exact hunanswered hends
      · intro hreturns
        obtain ⟨⟨db', result⟩, hloop, hsettles⟩ := bulkLoop_settles (hreturns analyst rfl)
          body.alertIds (db, ⟨0, 0, []⟩) (fun _ hi => hi) (fun _ _ _ _ => Or.inl ⟨rfl, rfl⟩)
        rw [hloop]
        refine ⟨analyst, (requirePermission_ok hcaller).1, fun aid haid => ?_⟩
        obtain ⟨outcome, houtcome⟩ := hreturns analyst rfl aid haid
        refine bulkSettles_of_settled houtcome
          ((hsettles aid outcome haid houtcome).2 (Or.inl haid)) (fun error herror => ?_)
        exact bulkLoop_reports (herror ▸ houtcome) body.alertIds _ _ hloop rfl (.inl haid)

/-- **How the updates of alerts end.**  A `PATCH` ends cleanly exactly when the handler rejects
it or can carry it out, and a bulk request exactly when the columns take what it would write to
the alerts that it gets to. -/
theorem alert_updates_end_cleanly_iff {py : PyText} {app : App} (hrefuses : RefusesWithAnswer app)
    {now : Timestamp} {caller : Option Analyst} {db : Db} (alertId : Uuid)
    (update : AlertUpdate) (body : BulkAlertUpdate) :
    (PatchEndsCleanly py now alertId update caller db
        (patchAlert py app now alertId update caller db) ↔
      ∀ analyst alert, requirePermission .alertsUpdate caller = .ok analyst →
        db.alerts.find? alertId = some alert →
        enforceTenantAccess app (.alert alert) "update" (some analyst) = .ok () →
        validateUpdate py update alert = .ok () → update.Fulfillable py db.analysts alert) ∧
    (BulkEndsCleanly app now body caller db (bulkUpdateAlerts app now body caller db) ↔
      ∀ analyst, requirePermission .alertsUpdate caller = .ok analyst →
        ∀ aid ∈ body.alertIds, ∀ alert, bulkLoaded app analyst db aid = true →
          db.alerts.find? aid = some alert →
          enforceTenantAccess app (.alert alert) "bulk_update" (some analyst) = .ok () →
          body.Fits alert) :=
  ⟨patchAlert_ends_cleanly_iff hrefuses, bulk_ends_cleanly_iff⟩

/-! ## One alert -/

/-- A body with a `null` for the status. -/
def statusNull : AlertUpdate := { AlertUpdate.none with status := some none }

/-- One with this assignee. -/
def assignTo (assignee : String) : AlertUpdate :=
  { AlertUpdate.none with assignedTo := some (some assignee) }

/-- One that resolves an alert as benign, with a reason, and takes its partner away. -/
def resolveAsBenign : AlertUpdate :=
  { AlertUpdate.none with
    status := some (some "resolved"), determination := some (some "benign")
    resolveReason := some (some "a scanner of ours"), partner := some none
    assignedTo := some none }

/-- A bulk change of the severity, of an alert that is there and one that is not. -/
def changeSeverities (severity : String) : BulkAlertUpdate :=
  ⟨[1, 99], "change_severity", none, none, none, some severity⟩

theorem updates_of_new_alert_end_cleanly :
    PatchEndsCleanly .ascii 7 1 resolveAsBenign (some administrator) newAlertDb
        (patchAlert .ascii .core 7 1 resolveAsBenign (some administrator) newAlertDb) ∧
      BulkEndsCleanly .core 7 (changeSeverities "low") (some administrator) newAlertDb
        (bulkUpdateAlerts .core 7 (changeSeverities "low") (some administrator) newAlertDb) := by
  obtain ⟨hpatch, hbulk⟩ := @alert_updates_end_cleanly_iff .ascii .core refusesWithAnswer_core 7
    (some administrator) newAlertDb 1 resolveAsBenign (changeSeverities "low")
  constructor
  · rw [hpatch]
    intro analyst alert _ hfind _ _
    have htags : ((newAlertDb.alerts.find? 1).map (fun stored =>
        (resolveAsBenign.tagsOf stored).all (fun tags => tags.all Option.isSome))) = some true := by
      decide +kernel
    rw [hfind] at htags
    exact {
      assignedTo := by rintro _ ⟨⟩
      fits := {
        status := ⟨nofun, by rintro _ ⟨⟩; decide⟩
        severity := ⟨nofun, nofun⟩
        resolveReason := by rintro _ ⟨⟩; decide
        determination := nofun
        partner := by rintro _ ⟨⟩ }
      tags := Option.some.inj htags }
  · rw [hbulk]
    intro _ _ _ _ _ _ _ _
    constructor
    · intro h
      exact absurd h (by decide)
    · intro _ severity hseverity
      cases hseverity
      decide

/-- A `null`, a malformed assignee and a severity that is too long end the request with an
exception that nobody answers; an assignee that is no analyst's id is passed over. -/
theorem updates_end_in_exceptions :
    (¬ PatchEndsCleanly .ascii 7 1 statusNull (some administrator) newAlertDb
        (patchAlert .ascii .core 7 1 statusNull (some administrator) newAlertDb)) ∧
      (¬ PatchEndsCleanly .ascii 7 1 (assignTo "nobody") (some administrator) newAlertDb
        (patchAlert .ascii .core 7 1 (assignTo "nobody") (some administrator) newAlertDb)) ∧
      (¬ PatchEndsCleanly .ascii 7 1 (assignTo (Uuid.toText 99)) (some administrator) newAlertDb
        (patchAlert .ascii .core 7 1 (assignTo (Uuid.toText 99)) (some administrator)
          newAlertDb)) ∧
      ¬ BulkEndsCleanly .core 7 (changeSeverities "catastrophic_severity") (some administrator)
        newAlertDb (bulkUpdateAlerts .core 7 (changeSeverities "catastrophic_severity")
          (some administrator) newAlertDb) := by
  have hstored : (newAlertDb.alerts.find? 1).isSome = true := by decide +kernel
  obtain ⟨alert, hfind⟩ := Option.isSome_iff_exists.mp hstored
  have hnobody : ∀ id, newAlertDb.analysts.find? id = none := by
    intro id
    have hempty : newAlertDb.analysts.rows.isEmpty = true := by decide +kernel
    rw [Table.find?, List.isEmpty_iff.mp hempty]
    rfl
  refine ⟨fun h => ?_, fun h => ?_, fun h => ?_, fun h => ?_⟩
  · have hable := (patchAlert_ends_cleanly_iff refusesWithAnswer_core).mp h administrator alert rfl
      hfind rfl rfl
    exact hable.fits.status.1 rfl
  · have hable := (patchAlert_ends_cleanly_iff refusesWithAnswer_core).mp h administrator alert rfl
      hfind rfl rfl
    obtain ⟨id, _, hid, -⟩ := hable.assignedTo "nobody" rfl (by decide)
    have hnone : Uuid.ofText? .ascii "nobody" = none := by decide +kernel
    rw [hnone] at hid
    cases hid
  · have hable := (patchAlert_ends_cleanly_iff refusesWithAnswer_core).mp h administrator alert rfl
      hfind rfl rfl
    obtain ⟨id, assignee, -, hassignee⟩ := hable.assignedTo _ rfl (by decide +kernel)
    rw [hnobody] at hassignee
    cases hassignee
  · have hloaded : bulkLoaded .core administrator newAlertDb 1 = true := by
      rw [bulkLoaded, hfind]
      rfl
    have hfits := bulk_ends_cleanly_iff.mp h administrator rfl 1 List.mem_cons_self alert hloaded
      hfind rfl
    have hlength := hfits.severity rfl "catastrophic_severity" rfl
    revert hlength
    decide

end OpenSoar
