/-
# `OpenSoar.Lifecycle.Audit` — replaying the audit trail of an alert

An activity with one of the three tracked actions tells, in its metadata, the old
and the new value of a field.  `trackedChange` applies such an entry, and refuses it
when the old value is not the one reached so far; folding it over the trail is
`replay`.

`LogsChanges` says, of an operation and the row it meets, that it logs what it
changes.  It is exactly what a change needs to be replayed
(`Changed.replays_iff`), and the one fact to take away is `audit_trail_replays`:
in every run whose operations all log what they change, the trail replays to the
row's status, determination and severity, entry by entry.
-/
import OpenSoar.Lifecycle.System

namespace OpenSoar

open Python

/-! ## Reading an activity as a change -/

inductive TrackedField where
  | status | determination | severity
deriving DecidableEq

/-- The field that an action tells of. -/
def trackedField? (action : String) : Option TrackedField :=
  if action = "status_change" then some .status
  else if action = "determination_set" then some .determination
  else if action = "severity_change" then some .severity
  else none

def Tracked.get (t : Tracked) : TrackedField → String
  | .status => t.status
  | .determination => t.determination
  | .severity => t.severity

def Tracked.set (t : Tracked) (field : TrackedField) (value : String) : Tracked :=
  match field with
  | .status => { t with status := value }
  | .determination => { t with determination := value }
  | .severity => { t with severity := value }

theorem Tracked.set_get (t : Tracked) (field : TrackedField) : t.set field (t.get field) = t := by
  cases field <;> rfl

theorem Tracked.set_eq_self_iff {t : Tracked} {field : TrackedField} {value : String} :
    t.set field value = t ↔ value = t.get field := by
  constructor
  · intro h
    have hget := congrArg (fun t => t.get field) h
    cases field <;> exact hget
  · rintro rfl
    exact t.set_get field

/-- The old and the new value in an activity's metadata. -/
def changeIn (metadata : Dict) : Option (String × String) :=
  match metadata.lookup "old", metadata.lookup "new" with
  | some (.str old), some (.str new) => some (old, new)
  | _, _ => none

/-- One activity applied to the values reached so far; `none` when it tells of a tracked
field but not of a change from the value reached. -/
def trackedChange (t : Tracked) (activity : Activity) : Option Tracked :=
  match trackedField? activity.action.val with
  | none => some t
  | some field =>
      match changeIn (activity.metadataJson.getD []) with
      | none => none
      | some (old, new) => if old = t.get field then some (t.set field new) else none

/-- An activity about a tracked field that tells of a change from the value reached. -/
theorem trackedChange_of_change (field : TrackedField) {t : Tracked} {activity : Activity}
    {old new : String} (hfield : trackedField? activity.action.val = some field)
    (hchange : changeIn (activity.metadataJson.getD []) = some (old, new))
    (hold : old = t.get field) : trackedChange t activity = some (t.set field new) := by
  simp only [trackedChange, hfield, hchange, if_pos hold]

theorem trackedChange_untracked {activity : Activity}
    (hfield : trackedField? activity.action.val = none) (t : Tracked) :
    trackedChange t activity = some t := by
  simp only [trackedChange, hfield]

/-- An activity keeps the values reached only when it says that its field is what it
was. -/
theorem trackedChange_eq_self_iff {t : Tracked} {activity : Activity} :
    trackedChange t activity = some t ↔
      ∀ field, trackedField? activity.action.val = some field →
        changeIn (activity.metadataJson.getD []) = some (t.get field, t.get field) := by
  cases hfield : trackedField? activity.action.val with
  | none =>
      exact ⟨fun _ _ h => (nomatch h), fun _ => trackedChange_untracked hfield t⟩
  | some field =>
      constructor
      · intro h field' hfield'
        cases hfield'
        simp only [trackedChange, hfield] at h
        split at h
        · cases h
        · rename_i old new hchange
          split at h
          · rename_i hold
            have hnew := Tracked.set_eq_self_iff.mp (Option.some.inj h)
            rw [hchange, hold, hnew]
          · cases h
      · intro h
        rw [trackedChange_of_change field hfield (h field rfl) rfl, Tracked.set_get]

theorem changeIn_changeOf (old new : String) : changeIn (changeOf old new) = some (old, new) :=
  rfl

theorem changeIn_playbookChangeOf (old new : String) :
    changeIn (playbookChangeOf old new) = some (old, new) := rfl

/-! ## When an operation logs what it changes -/

/-- The row after `_apply_alert_update`, as far as it is tracked. -/
def CurrentAlertUpdate.target (args : CurrentAlertUpdate) (t : Tracked) : Tracked where
  status := args.status.getD t.status
  determination := args.determination.getD t.determination
  severity := t.severity

/-- The activity a playbook asks for does not claim a change of a tracked field: its
action is not a tracked one, or its metadata says that the field is what it is. -/
def CustomFits (args : CurrentAlertUpdate) (t : Tracked) : Prop :=
  ∀ action detail, truthy args.activityAction = some action →
    truthy args.activityDetail = some detail →
    ∀ field, trackedField? action = some field →
      changeIn (activityMetadataOr args.activityMetadata) = some (t.get field, t.get field)

/-- The operation logs every change it makes to the tracked fields of this row, and
claims no other. -/
def LogsChanges (op : AlertOp) (alert : Alert) : Prop :=
  match op with
  | .processWebhook _ => True
  | .updateAlert alertId update _ => alertId = alert.id →
      (update.status.join = some "" → alert.status.val = "") ∧
      (update.determination.join = some "" → alert.determination.val = "") ∧
      (update.severity.join = some "" → alert.severity.val = "")
  | .claimAlert _ _ => True
  | .bulkUpdateAlerts body _ => alert.id ∈ body.alertIds →
      (body.action = "assign" → alert.status.val ≠ "new") ∧
      (body.action = "resolve" → alert.status.val ≠ "resolved" →
        (truthy body.determination).getD alert.determination.val ≠ "unknown" →
        (truthy body.determination).getD alert.determination.val = alert.determination.val)
  | .updateCurrentAlert ctx args => ctx = some alert.id →
      CustomFits args (args.target alert.tracked)
  | .resolveCurrentAlert ctx args => ctx = some alert.id →
      CustomFits args.toUpdate (args.toUpdate.target alert.tracked)
  | .assignCurrentAlert ctx analystId username => ctx = some alert.id →
      (truthy analystId).isSome ∨ (truthy username).isSome → alert.status.val ≠ "new"

/-! ## What each operation logs -/

theorem Field.assign_val {n : Nat} {field : Field String} {old new : Varchar n}
    (h : field.assign old = .ok new) : new.val = field.join.getD old.val := by
  rcases Field.assign_ok h with ⟨rfl, rfl⟩ | ⟨value, rfl, hval⟩
  · rfl
  · exact hval

/-- A value that is not logged because it is empty. -/
theorem truthy_getD_eq_iff {value : Option String} {old : String} :
    (truthy value).getD old = value.getD old ↔ (value = some "" → old = "") := by
  cases value with
  | none => exact ⟨fun _ h => (nomatch h), fun _ => rfl⟩
  | some v =>
      by_cases hv : v = ""
      · subst hv
        exact ⟨fun h _ => h, fun h => h rfl⟩
      · have htruthy : truthy (some v) = some v := truthy_eq_some.mpr ⟨rfl, hv⟩
        rw [htruthy]
        exact ⟨fun _ h => absurd (Option.some.inj h) hv, fun _ => rfl⟩

/-- One logged change. -/
theorem replay_change (field : TrackedField) {t : Tracked} {author : Option Analyst}
    {alertId : Uuid} {action : Varchar 50} {detail : String} {metadata : Dict}
    {old new : String} (hfield : trackedField? action.val = some field)
    (hchange : changeIn metadata = some (old, new)) (hold : old = t.get field) :
    replay trackedChange t [alertActivity author alertId action detail (some metadata)]
      = some (t.set field new) := by
  rw [replay_singleton]
  exact trackedChange_of_change field hfield hchange hold

/-- The activity of a changed field takes the field to the value that was set, unless
that value is empty. -/
theorem replay_changeActivity (field : TrackedField) {t : Tracked} {author : Option Analyst}
    {alertId : Uuid} {action : Varchar 50} {value : Option String} {old : String}
    {detail : String → String} (hfield : trackedField? action.val = some field)
    (hold : old = t.get field) :
    replay trackedChange t (changeActivity author alertId action value old detail)
      = some (t.set field ((truthy value).getD old)) := by
  cases hvalue : truthy value with
  | none =>
      simp only [changeActivity, hvalue, replay_nil, Option.getD_none]
      rw [hold, Tracked.set_get]
  | some new =>
      simp only [changeActivity, hvalue, Option.getD_some]
      split
      · exact replay_change field hfield (changeIn_changeOf old new) hold
      · rename_i hsame
        rw [Decidable.not_not.mp hsame, hold, Tracked.set_get]
        rfl

theorem Updated.replay_log {py : PyText} {now : Timestamp} {analyst : Analyst}
    {update : AlertUpdate} {a a' : Alert} {log : List Activity}
    (h : Updated py now analyst update a a' log) :
    replay trackedChange a.tracked log = some
      ⟨(truthy update.status.join).getD a.status.val,
        (truthy update.determination.join).getD a.determination.val,
        (truthy update.severity.join).getD a.severity.val⟩ := by
  obtain ⟨assigned, hassigned, rfl⟩ := h.activities
  have hignored : replay trackedChange a.tracked assigned = some a.tracked := by
    refine replay_ignored _ (fun x hx t => trackedChange_untracked ?_ t) _
    rw [(hassigned x hx).2]
    rfl
  have hstatus : replay trackedChange a.tracked (statusChanged analyst update a)
      = some (a.tracked.set .status ((truthy update.status.join).getD a.status.val)) :=
    replay_changeActivity .status rfl rfl
  have hdetermination : replay trackedChange
      (a.tracked.set .status ((truthy update.status.join).getD a.status.val))
      (determinationChanged analyst update a)
      = some ⟨(truthy update.status.join).getD a.status.val,
          (truthy update.determination.join).getD a.determination.val, a.severity.val⟩ :=
    replay_changeActivity .determination rfl rfl
  rw [replay_append_of_eq _ hignored, replay_append_of_eq _ hstatus,
    replay_append_of_eq _ hdetermination]
  exact replay_changeActivity .severity rfl rfl

theorem Updated.replays_iff {py : PyText} {now : Timestamp} {analyst : Analyst}
    {update : AlertUpdate} {a a' : Alert} {log : List Activity}
    (h : Updated py now analyst update a a' log) :
    replay trackedChange a.tracked log = some a'.tracked ↔
      LogsChanges (.updateAlert a.id update (some analyst)) a := by
  have hrow : a'.tracked = ⟨update.status.join.getD a.status.val,
      update.determination.join.getD a.determination.val,
      update.severity.join.getD a.severity.val⟩ := by
    rw [Alert.tracked, Field.assign_val h.status, Field.assign_val h.determination,
      Field.assign_val h.severity]
  rw [h.replay_log, hrow, Option.some.injEq, Tracked.mk.injEq, truthy_getD_eq_iff,
    truthy_getD_eq_iff, truthy_getD_eq_iff]
  exact ⟨fun hlogs _ => hlogs, fun hlogs => hlogs rfl⟩

/-- The trail of a claim: the assignment, and the status when it changes. -/
theorem claimRow_replays (analyst : Analyst) (a : Alert) :
    replay trackedChange a.tracked (claimRow analyst a).2
      = some (claimRow analyst a).1.tracked := by
  simp only [claimRow]
  split
  · rename_i hnew
    rw [replay_cons, trackedChange_untracked rfl, Option.bind_some,
      replay_change .status rfl (changeIn_changeOf _ _) hnew.symm]
    rfl
  · rw [replay_cons, trackedChange_untracked rfl]
    rfl

/-- An assignment that logs nothing tracked fits the alerts that are not new. -/
theorem TakenOn.replays_iff {a a' : Alert} (h : TakenOn a a') {activity : Activity}
    (hactivity : trackedField? activity.action.val = none) :
    replay trackedChange a.tracked [activity] = some a'.tracked ↔ a.status.val ≠ "new" := by
  rw [replay_cons, trackedChange_untracked hactivity, Option.bind_some, replay_nil,
    Option.some.injEq, Alert.tracked, Alert.tracked, h.severity, h.determination, h.status,
    Tracked.mk.injEq]
  constructor
  · rintro ⟨hstatus, -, -⟩ hnew
    rw [if_pos hnew, hnew] at hstatus
    exact absurd hstatus (by decide)
  · intro hnew
    rw [if_neg hnew]
    exact ⟨rfl, rfl, rfl⟩

/-- What a bulk assignment has to meet. -/
theorem logsChanges_bulk_assign {body : BulkAlertUpdate} {caller : Option Analyst} {a : Alert}
    (haction : body.action = "assign") (hlisted : a.id ∈ body.alertIds) :
    LogsChanges (.bulkUpdateAlerts body caller) a ↔ a.status.val ≠ "new" := by
  constructor
  · intro hlogs
    exact (hlogs hlisted).1 haction
  · intro hnew _
    exact ⟨fun _ => hnew, fun hresolve => absurd (haction.symm.trans hresolve) (by decide)⟩

/-- What a bulk resolution has to meet. -/
theorem logsChanges_bulk_resolve {body : BulkAlertUpdate} {caller : Option Analyst} {a : Alert}
    (haction : body.action = "resolve") (hlisted : a.id ∈ body.alertIds) :
    LogsChanges (.bulkUpdateAlerts body caller) a ↔
      (a.status.val ≠ "resolved" →
        (truthy body.determination).getD a.determination.val ≠ "unknown" →
        (truthy body.determination).getD a.determination.val = a.determination.val) := by
  constructor
  · intro hlogs
    exact (hlogs hlisted).2 haction
  · intro hsame _
    exact ⟨fun hassign => absurd (haction.symm.trans hassign) (by decide), fun _ => hsame⟩

/-- A bulk change of severity logs all it does. -/
theorem logsChanges_bulk_severity {body : BulkAlertUpdate} {caller : Option Analyst} {a : Alert}
    (haction : body.action = "change_severity") :
    LogsChanges (.bulkUpdateAlerts body caller) a :=
  fun _ => ⟨fun hassign => absurd (haction.symm.trans hassign) (by decide),
    fun hresolve => absurd (haction.symm.trans hresolve) (by decide)⟩

theorem BulkChanged.replays_iff {now : Timestamp} {analyst : Analyst} {body : BulkAlertUpdate}
    {a a' : Alert} {log : List Activity} (h : BulkChanged now analyst body a a' log)
    (hlisted : a.id ∈ body.alertIds) :
    replay trackedChange a.tracked log = some a'.tracked ↔
      LogsChanges (.bulkUpdateAlerts body (some analyst)) a := by
  cases h with
  | resolved detail _ determination haction hopen hknown _ hdetermination hresolved =>
      have hrow : a'.tracked = ⟨"resolved", (truthy body.determination).getD a.determination.val,
          a.severity.val⟩ := by
        rw [hresolved, ← hdetermination]
        rfl
      have hreplay : replay trackedChange a.tracked [alertActivity (some analyst) a.id
          statusChange detail (some (changeOf a.status.val "resolved"))]
          = some (a.tracked.set .status "resolved") :=
        replay_change .status rfl (changeIn_changeOf _ _) rfl
      rw [hreplay, hrow, Option.some.injEq, logsChanges_bulk_resolve haction hlisted]
      simp only [Tracked.set, Alert.tracked, Tracked.mk.injEq, true_and, and_true]
      exact ⟨fun hdet _ _ => hdet.symm, fun hsame => (hsame hopen hknown).symm⟩
  | assigned haction hrow =>
      have htaken := bulkAssign_takenOn hrow
      cases hrow
      rw [logsChanges_bulk_assign haction hlisted]
      exact htaken.replays_iff rfl
  | severity new detail haction _ hrow =>
      obtain ⟨severity, rfl, rfl⟩ := hrow
      exact ⟨fun _ => logsChanges_bulk_severity haction,
        fun _ => replay_change .severity rfl (changeIn_changeOf _ _) rfl⟩

theorem replay_customActivity_iff {args : CurrentAlertUpdate} {alertId : Uuid}
    {custom : List Activity} {t : Tracked} (h : customActivity args alertId = .ok custom) :
    replay trackedChange t custom = some t ↔ CustomFits args t := by
  simp only [customActivity] at h
  split at h
  · rename_i action detail haction hdetail
    obtain ⟨value, hvalue, rfl⟩ := map_ok h
    have hval := column_val hvalue
    subst hval
    rw [replay_singleton, trackedChange_eq_self_iff]
    constructor
    · intro hfits action' detail' haction' _
      cases haction.symm.trans haction'
      exact hfits
    · intro hfits
      exact hfits _ _ haction hdetail
  · rename_i hnone
    cases h
    refine ⟨fun _ action detail haction hdetail => absurd hdetail (hnone _ _ haction), fun _ => rfl⟩

theorem Applied.tracked_eq {now : Timestamp} {args : CurrentAlertUpdate} {a a' : Alert}
    {log : List Activity} (h : Applied now args a a' log) :
    a'.tracked = args.target a.tracked := by
  rw [Alert.tracked, h.status, h.determination, h.severity]
  rfl

theorem Applied.replays_iff {now : Timestamp} {args : CurrentAlertUpdate} {a a' : Alert}
    {log : List Activity} (h : Applied now args a a' log) :
    replay trackedChange a.tracked log = some a'.tracked ↔
      CustomFits args (args.target a.tracked) := by
  obtain ⟨custom, hcustom, rfl⟩ := h.activities
  have hstatus : replay trackedChange a.tracked (appliedStatusChange args a a')
      = some (a.tracked.set .status a'.status.val) := by
    simp only [appliedStatusChange]
    split
    · exact replay_change .status rfl (changeIn_playbookChangeOf _ _) rfl
    · rename_i hsame
      rw [Decidable.not_not.mp hsame]
      rfl
  have hdetermination : replay trackedChange (a.tracked.set .status a'.status.val)
      (appliedDetermination args a) = some a'.tracked := by
    have hrow : a'.tracked = ⟨a'.status.val, args.determination.getD a.determination.val,
        a.severity.val⟩ := by
      rw [Alert.tracked, h.severity, h.determination]
    rw [hrow]
    simp only [appliedDetermination]
    cases hgiven : args.determination with
    | none => rfl
    | some d =>
        simp only [Option.getD_some]
        split
        · exact replay_change .determination rfl (changeIn_playbookChangeOf _ _) rfl
        · rename_i hsame
          rw [← Decidable.not_not.mp hsame]
          rfl
  rw [replay_append_of_eq _ hstatus, replay_append_of_eq _ hdetermination, h.tracked_eq]
  exact replay_customActivity_iff hcustom

/-- **A change can be replayed exactly when it is logged.** -/
theorem Changed.replays_iff {py : PyText} {now : Timestamp} {op : AlertOp} {a a' : Alert}
    {log : List Activity} (h : Changed py now a a' op log) :
    replay trackedChange a.tracked log = some a'.tracked ↔ LogsChanges op a := by
  cases h with
  | duplicate call n hrow =>
      rw [hrow]
      exact ⟨fun _ => trivial, fun _ => rfl⟩
  | updated update analyst hupdated => exact hupdated.replays_iff
  | claimed analyst hrow =>
      have hreplays := claimRow_replays analyst a
      rw [← hrow] at hreplays
      exact ⟨fun _ => trivial, fun _ => hreplays⟩
  | bulk body analyst hlisted hbulk => exact hbulk.replays_iff hlisted
  | applied args hvalid happlied =>
      rw [happlied.replays_iff]
      exact ⟨fun hfits _ => hfits, fun hlogs => hlogs rfl⟩
  | resolved args hvalid happlied =>
      rw [happlied.replays_iff]
      exact ⟨fun hfits _ => hfits, fun hlogs => hlogs rfl⟩
  | unassigned analystId username hid hname hrow =>
      cases hrow
      refine ⟨?_, fun _ => rfl⟩
      intro _ _ hgiven
      rw [hid, hname] at hgiven
      rcases hgiven with hgiven | hgiven <;> cases hgiven
  | assigned analystId username assignee hgiven hrow =>
      have htaken := assignRow_takenOn assignee a
      cases hrow
      exact (htaken.replays_iff rfl).trans
        ⟨fun hnew _ _ => hnew, fun hlogs => hlogs rfl hgiven⟩

theorem CurrentAlertUpdate.target_target (args : CurrentAlertUpdate) (t : Tracked) :
    args.target (args.target t) = args.target t := by
  simp only [CurrentAlertUpdate.target]
  cases args.status <;> cases args.determination <;> rfl

/-- A bulk request that lists an alert more than once logs its changes each time. -/
theorem Changed.logs_again {py : PyText} {now : Timestamp} {op : AlertOp} {a a' : Alert}
    {log : List Activity} (h : Changed py now a a' op log) (hlogs : LogsChanges op a) :
    LogsChanges op a' := by
  cases h with
  | duplicate call n hrow => trivial
  | updated update analyst hupdated =>
      intro _
      rw [Field.assign_val hupdated.status, Field.assign_val hupdated.determination,
        Field.assign_val hupdated.severity]
      refine ⟨?_, ?_, ?_⟩ <;>
        · intro hempty
          rw [hempty]
          rfl
  | claimed analyst hrow => trivial
  | bulk body analyst hlisted hbulk =>
      have hlisted' : a'.id ∈ body.alertIds := by
        rw [hbulk.rowFunction.1]
        exact hlisted
      cases hbulk with
      | resolved detail _ _ haction _ _ _ _ hrow =>
          subst hrow
          exact (logsChanges_bulk_resolve haction hlisted').mpr (fun hopen => absurd rfl hopen)
      | assigned haction hrow =>
          have hnew := (logsChanges_bulk_assign haction hlisted).mp hlogs
          refine (logsChanges_bulk_assign haction hlisted').mpr ?_
          rw [(bulkAssign_takenOn hrow).status, if_neg hnew]
          exact hnew
      | severity new detail haction _ _ => exact logsChanges_bulk_severity haction
  | applied args hvalid happlied =>
      intro _
      rw [happlied.tracked_eq, args.target_target]
      exact hlogs rfl
  | resolved args hvalid happlied =>
      intro _
      rw [happlied.tracked_eq, args.toUpdate.target_target]
      exact hlogs rfl
  | unassigned analystId username hid hname hrow =>
      intro _ hgiven
      rw [hid, hname] at hgiven
      rcases hgiven with hgiven | hgiven <;> cases hgiven
  | assigned analystId username assignee hgiven hrow =>
      have htaken := assignRow_takenOn assignee a
      rw [← hrow] at htaken
      intro _ _
      have hnew := hlogs rfl hgiven
      rw [htaken.status, if_neg hnew]
      exact hnew

/-! ## Whole runs -/

/-- The foreign key of `activities`: an alert that is not stored has none. -/
def Db.ActivitiesRefer (db : Db) : Prop :=
  ∀ i, db.alerts.find? i = none → db.activitiesOf i = []

/-- **The audit trail replays.**  From the ingest that creates the alert, in every state
of every run whose operations log what they change, folding the tracked activities
of the alert over the status, determination and severity it was created with never
meets an old value other than the one reached, and ends at its current status,
determination and severity. -/
theorem audit_trail_replays {py : PyText} {app : App} {call : WebhookCall} {db₀ db : Db}
    {a : Alert} (h : processWebhook py call db₀ = .ok (db, a))
    (hnew : db₀.alerts.find? a.id = none) (hrefer : db₀.ActivitiesRefer) (es : List Event)
    (hlogs : Along (alertStep py app) (OnRow a.id LogsChanges) db es) :
    (run (alertStep py app) db es).Row a.id (fun row =>
      replay trackedChange a.tracked ((run (alertStep py app) db es).activitiesOf a.id)
        = some row.tracked) := by
  obtain ⟨hfind, -, -, -, hacts⟩ := processWebhook_created h hnew
  have hstart : replay trackedChange a.tracked (db.activitiesOf a.id) = some a.tracked := by
    rw [hacts, hrefer a.id hnew]
    rfl
  refine run_row_inv
    (P := fun row trail => replay trackedChange a.tracked trail = some row.tracked) ?_ es
    ⟨a, hfind, hstart⟩ hlogs
  intro now op row row' trail log hreached hlogs hrewrites
  rw [replay_append_of_eq _ hreached]
  refine hrewrites.replay (C := LogsChanges op) ?_ ?_ hlogs
  · exact fun _ _ _ hlogs hchanged => hchanged.logs_again hlogs
  · exact fun _ _ _ hlogs hchanged => hchanged.replays_iff.mpr hlogs

/-- A new alert assigned in bulk. -/
def assignedInBulk : List Event :=
  [⟨100, .bulkUpdateAlerts ⟨[1], "assign", none, none, none, none⟩ (some administrator)⟩]

/-- A bulk assignment moves a new alert into progress, and the trail still says that it
is new. -/
theorem bulk_assignment_is_not_replayed :
    ¬ ∀ (call : WebhookCall) (db₀ db : Db) (a : Alert) (es : List Event),
      processWebhook .ascii call db₀ = .ok (db, a) → db₀.alerts.find? a.id = none →
      db₀.ActivitiesRefer →
      (run (alertStep .ascii .core) db es).Row a.id (fun row =>
        replay trackedChange a.tracked ((run (alertStep .ascii .core) db es).activitiesOf a.id)
          = some row.tracked) := by
  intro hclaim
  have hresult : (processWebhook .ascii loginFailure .empty).map (fun p =>
      (((run (alertStep .ascii .core) p.1 assignedInBulk).alerts.find? p.2.id).map Alert.tracked,
        replay trackedChange p.2.tracked
          ((run (alertStep .ascii .core) p.1 assignedInBulk).activitiesOf p.2.id)))
      = .ok (some ⟨"in_progress", "unknown", "medium"⟩, some ⟨"new", "unknown", "medium"⟩) := by
    decide +kernel
  obtain ⟨⟨db, a⟩, hok, hview⟩ := map_ok hresult
  obtain ⟨hstored, htrail⟩ := Prod.mk.inj hview
  obtain ⟨row, hrow, hreplay⟩ := hclaim loginFailure .empty db a assignedInBulk hok rfl
    (fun _ _ => rfl)
  rw [hrow, Option.map_some] at hstored
  rw [htrail, Option.some.inj hstored] at hreplay
  exact absurd hreplay (by decide)

/-- Claimed, then resolved by a playbook. -/
def claimedAndResolved : List Event :=
  [⟨100, .claimAlert 1 (some administrator)⟩,
   ⟨200, .resolveCurrentAlert (some 1) ⟨"benign", none, none, none, none, none⟩⟩]

theorem audit_trail_replays_when_claimed_and_resolved :
    ∃ db a, processWebhook .ascii loginFailure .empty = .ok (db, a) ∧
      (run (alertStep .ascii .core) db claimedAndResolved).Row a.id (fun row =>
        replay trackedChange a.tracked
          ((run (alertStep .ascii .core) db claimedAndResolved).activitiesOf a.id)
          = some row.tracked) := by
  obtain ⟨db, a, hok⟩ := loginFailure_ingested
  refine ⟨db, a, hok, audit_trail_replays hok rfl (fun _ _ => rfl) _ ?_⟩
  refine ⟨fun _ _ => trivial, ?_, trivial⟩
  intro row _ _ action detail haction
  cases haction

end OpenSoar
