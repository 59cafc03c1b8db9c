/-
# `OpenSoar.Lifecycle.System` — every operation on alerts, as one system

The ingest of `ingestion/webhook.py`, the three requests of `api/alerts.py` and the
three helpers of `runtime.py` are the operations; an event is an operation with
the time at which it is made.  An operation that raises leaves the database as it
was (`attempt`), so a run is any sequence of events, accepted or not.

`Changed` says once what an operation can do to the row it meets and which
activities it adds beside it.  The one fact to take away is `step_row`: an accepted
event takes every stored alert through such changes — none for most alerts, one
for the alert it is about, several for an alert that a bulk request lists more than
once — and logs exactly what they log.  `run_row_inv` is the invariant rule that
follows.
-/
import OpenSoar.Lib.Replay
import OpenSoar.Ingestion.Webhook
import OpenSoar.Runtime

namespace OpenSoar

open Python

inductive AlertOp where
  | processWebhook (call : WebhookCall)
  | updateAlert (alertId : Uuid) (update : AlertUpdate) (caller : Option Analyst)
  | claimAlert (alertId : Uuid) (caller : Option Analyst)
  | bulkUpdateAlerts (body : BulkAlertUpdate) (caller : Option Analyst)
  | updateCurrentAlert (ctx : Option Uuid) (args : CurrentAlertUpdate)
  | resolveCurrentAlert (ctx : Option Uuid) (args : CurrentAlertResolution)
  | assignCurrentAlert (ctx : Option Uuid) (analystId username : Option String)

structure Event where
  now : Timestamp
  op : AlertOp

/-- One event on the database. -/
def alertStep (py : PyText) (app : App) (db : Db) (event : Event) : Except Raised Db :=
  match event.op with
  | .processWebhook call => (processWebhook py call db).map Prod.fst
  | .updateAlert alertId update caller =>
      (updateAlert py app event.now alertId update caller db).map Prod.fst
  | .claimAlert alertId caller => (claimAlert app alertId caller db).map Prod.fst
  | .bulkUpdateAlerts body caller =>
      (bulkUpdateAlerts app event.now body caller db).map Prod.fst
  | .updateCurrentAlert ctx args => (updateCurrentAlert event.now ctx args db).map Prod.fst
  | .resolveCurrentAlert ctx args => (resolveCurrentAlert event.now ctx args db).map Prod.fst
  | .assignCurrentAlert ctx analystId username =>
      (assignCurrentAlert py ctx analystId username db).map Prod.fst

/-- What an operation can make of a row it changes, and the activities it adds. -/
inductive Changed (py : PyText) (now : Timestamp) (alert alert' : Alert) :
    AlertOp → List Activity → Prop
  | duplicate (call : WebhookCall) (n : NormalizedAlert) :
      alert' = registerDuplicate call n alert →
      Changed py now alert alert' (.processWebhook call) []
  | updated (update : AlertUpdate) (analyst : Analyst) {activities : List Activity} :
      Updated py now analyst update alert alert' activities →
      Changed py now alert alert' (.updateAlert alert.id update (some analyst)) activities
  | claimed (analyst : Analyst) {activities : List Activity} :
      (alert', activities) = claimRow analyst alert →
      Changed py now alert alert' (.claimAlert alert.id (some analyst)) activities
  | bulk (body : BulkAlertUpdate) (analyst : Analyst) {activities : List Activity} :
      alert.id ∈ body.alertIds → BulkChanged now analyst body alert alert' activities →
      Changed py now alert alert' (.bulkUpdateAlerts body (some analyst)) activities
  | applied (args : CurrentAlertUpdate) {activities : List Activity} :
      validateCurrent args = .ok () → Applied now args alert alert' activities →
      Changed py now alert alert' (.updateCurrentAlert (some alert.id) args) activities
  | resolved (args : CurrentAlertResolution) {activities : List Activity} :
      validateCurrent args.toUpdate = .ok () →
      Applied now args.toUpdate alert alert' activities →
      Changed py now alert alert' (.resolveCurrentAlert (some alert.id) args) activities
  | unassigned (analystId username : Option String) {activities : List Activity} :
      truthy analystId = none → truthy username = none →
      (alert', activities) = unassignRow alert →
      Changed py now alert alert' (.assignCurrentAlert (some alert.id) analystId username)
        activities
  | assigned (analystId username : Option String) (assignee : Analyst)
      {activities : List Activity} :
      ((truthy analystId).isSome ∨ (truthy username).isSome) →
      (alert', activities) = assignRow assignee alert →
      Changed py now alert alert' (.assignCurrentAlert (some alert.id) analystId username)
        activities

/-- The fields of an alert whose changes the audit trail is to tell. -/
structure Tracked where
  status : String
  determination : String
  severity : String
deriving DecidableEq

def Alert.tracked (alert : Alert) : Tracked :=
  ⟨alert.status.val, alert.determination.val, alert.severity.val⟩

/-! ## The row functions keep the identity of their row -/

theorem Updated.rowFunction {py : PyText} {now : Timestamp} {analyst : Analyst}
    {update : AlertUpdate} {alert alert' : Alert} {activities : List Activity}
    (h : Updated py now analyst update alert alert' activities) :
    alert'.id = alert.id ∧ ∀ activity ∈ activities, activity.alertId = some alert.id := by
  refine ⟨h.id, ?_⟩
  obtain ⟨assigned, hassigned, rfl⟩ := h.activities
  intro activity hmem
  rcases List.mem_append.mp hmem with hmem | hmem
  · exact (hassigned activity hmem).1
  rcases List.mem_append.mp hmem with hmem | hmem
  · exact mem_changeActivity hmem
  rcases List.mem_append.mp hmem with hmem | hmem
  · exact mem_changeActivity hmem
  · exact mem_changeActivity hmem

theorem claimRow_keeps (analyst : Analyst) (alert : Alert) :
    (claimRow analyst alert).1.id = alert.id ∧
      ∀ activity ∈ (claimRow analyst alert).2, activity.alertId = some alert.id := by
  simp only [claimRow]
  split <;> simp [alertActivity]

theorem BulkChanged.rowFunction {now : Timestamp} {analyst : Analyst} {body : BulkAlertUpdate}
    {alert alert' : Alert} {activities : List Activity}
    (h : BulkChanged now analyst body alert alert' activities) :
    alert'.id = alert.id ∧ ∀ activity ∈ activities, activity.alertId = some alert.id := by
  cases h with
  | resolved detail _ _ _ _ _ _ _ hrow =>
      subst hrow
      exact ⟨rfl, by simp [alertActivity]⟩
  | assigned _ hrow =>
      cases hrow
      exact ⟨rfl, by simp [alertActivity]⟩
  | severity new detail _ _ hrow =>
      obtain ⟨severity, -, rfl⟩ := hrow
      exact ⟨rfl, by simp [alertActivity]⟩

theorem Applied.rowFunction {now : Timestamp} {args : CurrentAlertUpdate}
    {alert alert' : Alert} {activities : List Activity}
    (h : Applied now args alert alert' activities) :
    alert'.id = alert.id ∧ ∀ activity ∈ activities, activity.alertId = some alert.id := by
  refine ⟨h.id, ?_⟩
  obtain ⟨custom, hcustom, rfl⟩ := h.activities
  intro activity hmem
  rcases List.mem_append.mp hmem with hmem | hmem
  · simp only [appliedStatusChange] at hmem
    split at hmem
    · rw [List.mem_singleton.mp hmem]; rfl
    · exact absurd hmem List.not_mem_nil
  rcases List.mem_append.mp hmem with hmem | hmem
  · simp only [appliedDetermination] at hmem
    split at hmem
    · split at hmem
      · rw [List.mem_singleton.mp hmem]; rfl
      · exact absurd hmem List.not_mem_nil
    · exact absurd hmem List.not_mem_nil
  · exact customActivity_ok hcustom activity hmem

theorem rowFunction_applyAlertUpdate (now : Timestamp) (args : CurrentAlertUpdate) :
    RowFunction (applyAlertUpdate now args) :=
  fun _ _ _ h => (applyAlertUpdate_ok h).rowFunction

theorem rowFunction_assignHandler (py : PyText) (analysts : Table Analyst.id)
    (analystId username : Option String) :
    RowFunction (assignHandler py analysts analystId username) := by
  intro alert alert' activities h
  rcases assignHandler_ok h with ⟨-, -, hrow⟩ | ⟨-, assignee, hrow⟩
  · cases hrow
    exact ⟨rfl, by simp [alertActivity]⟩
  · cases hrow
    exact ⟨rfl, by simp [alertActivity]⟩

/-- The alert is assigned to somebody: a new one goes into progress, and that is all
of it that is tracked. -/
structure TakenOn (alert alert' : Alert) : Prop where
  id : alert'.id = alert.id
  status : alert'.status.val =
    if alert.status.val = "new" then "in_progress" else alert.status.val
  severity : alert'.severity = alert.severity
  determination : alert'.determination = alert.determination
  resolvedAt : alert'.resolvedAt = alert.resolvedAt

theorem claimRow_takenOn (analyst : Analyst) (alert : Alert) :
    TakenOn alert (claimRow analyst alert).1 := by
  simp only [claimRow]
  split
  · rename_i hnew
    exact ⟨rfl, (if_pos hnew).symm, rfl, rfl, rfl⟩
  · rename_i hnew
    exact ⟨rfl, (if_neg hnew).symm, rfl, rfl, rfl⟩

theorem bulkAssign_takenOn {analyst : Analyst} {alert alert' : Alert}
    {activities : List Activity} (h : .updated alert' activities = bulkAssign analyst alert) :
    TakenOn alert alert' := by
  cases h
  exact ⟨rfl, by simp only [apply_ite Varchar.val], rfl, rfl, rfl⟩

theorem assignRow_takenOn (assignee : Analyst) (alert : Alert) :
    TakenOn alert (assignRow assignee alert).1 :=
  ⟨rfl, by simp only [assignRow, apply_ite Varchar.val], rfl, rfl, rfl⟩

/-- Taking an alert on neither resolves nor reopens it. -/
theorem TakenOn.resolved_iff {alert alert' : Alert} (h : TakenOn alert alert') :
    alert'.status.val = "resolved" ↔ alert.status.val = "resolved" := by
  rw [h.status]
  split
  · rename_i hnew
    rw [hnew]
    decide
  · exact Iff.rfl

/-! ## One event, seen from one alert -/

/-- An accepted event takes the row of a stored alert through changes of the operation
and logs them. -/
def RowStep (py : PyText) (event : Event) (db db' : Db) (i : Uuid) (a : Alert) : Prop :=
  ∃ a' activities, db'.alerts.find? i = some a' ∧
    db'.activitiesOf i = db.activitiesOf i ++ activities ∧
    Rewrites (fun a₁ a₂ log => Changed py event.now a₁ a₂ event.op log) a a' activities

theorem RowStep.untouched {py : PyText} {event : Event} {db db' : Db} {i : Uuid} {a : Alert}
    (hfind : db'.alerts.find? i = some a) (hacts : db'.activitiesOf i = db.activitiesOf i) :
    RowStep py event db db' i a :=
  ⟨a, [], hfind, by rw [hacts, List.append_nil], .refl⟩

theorem RowStep.changed {py : PyText} {event : Event} {db db' : Db} {i : Uuid} {a a' : Alert}
    {activities : List Activity} (hfind : db'.alerts.find? i = some a')
    (hacts : db'.activitiesOf i = db.activitiesOf i ++ activities)
    (h : Changed py event.now a a' event.op activities) : RowStep py event db db' i a :=
  ⟨a', activities, hfind, hacts, .single h⟩

/-- A commit of one changed row, seen from any stored alert. -/
theorem commit_rowStep {py : PyText} {event : Event} {db : Db} {alert alert' : Alert}
    {activities : List Activity} (hchanged : Changed py event.now alert alert' event.op activities)
    (hfind : db.alerts.find? alert.id = some alert)
    (hkeeps : alert'.id = alert.id ∧ ∀ activity ∈ activities, activity.alertId = some alert.id)
    {i : Uuid} {a : Alert} (ha : db.alerts.find? i = some a) :
    RowStep py event db (db.commitAlert alert' activities) i a := by
  rcases Db.commitAlert_row hfind hkeeps.1 hkeeps.2 ha with
    ⟨-, hsame, hacts⟩ | ⟨-, rfl, hrow, hacts⟩
  · exact .untouched hsame hacts
  · exact .changed hrow hacts hchanged

theorem processWebhook_row {py : PyText} {now : Timestamp} {call : WebhookCall} {db db' : Db}
    {alert : Alert} (h : processWebhook py call db = .ok (db', alert)) {i : Uuid} {a : Alert}
    (ha : db.alerts.find? i = some a) :
    RowStep py ⟨now, .processWebhook call⟩ db db' i a := by
  obtain ⟨n, -, hingested⟩ := processWebhook_ok h
  cases hingested with
  | created _ _ hnew _ hlookup hdb =>
      have hne : i ≠ alert.id := by
        rintro rfl
        rw [hnew] at ha
        cases ha
      refine .untouched (by rw [hlookup, if_neg hne, ha]) ?_
      rw [hdb]
      rfl
  | duplicate existing _ hfind halert hdb =>
      subst halert hdb
      refine commit_rowStep ?_ hfind ?_ ha
      · exact .duplicate call n rfl
      · exact ⟨rfl, fun _ hmem => absurd hmem List.not_mem_nil⟩

/-- An ingest that creates its alert: the row it starts with. -/
theorem processWebhook_created {py : PyText} {call : WebhookCall} {db db' : Db} {a : Alert}
    (h : processWebhook py call db = .ok (db', a)) (hnew : db.alerts.find? a.id = none) :
    db'.alerts.find? a.id = some a ∧ a.status.val = "new" ∧ a.determination.val = "unknown" ∧
      a.resolvedAt = none ∧ db'.activitiesOf a.id = db.activitiesOf a.id := by
  obtain ⟨n, -, hingested⟩ := processWebhook_ok h
  cases hingested with
  | created _ halert _ _ hlookup hdb =>
      obtain ⟨-, -, -, -, hstatus, hdetermination, hresolvedAt, -, -⟩ := newAlert_ok halert
      refine ⟨by rw [hlookup, if_pos rfl], hstatus, hdetermination, hresolvedAt, ?_⟩
      rw [hdb]
      rfl
  | duplicate existing _ hfind halert _ =>
      have hid : a.id = existing.id := by rw [halert]; rfl
      rw [hid, hfind] at hnew
      cases hnew

/-- The operations that load one alert and rewrite its row. -/
theorem withAlert_rowStep {py : PyText} {event : Event} {db db' : Db} {alertId : Uuid}
    {missing : Raised} {f : Alert → Except Raised (Alert × List Activity)} {alert' : Alert}
    (hf : RowFunction f) (h : db.withAlert alertId missing f = .ok (db', alert'))
    (hchanged : ∀ alert alert' activities, alert.id = alertId →
      f alert = .ok (alert', activities) → Changed py event.now alert alert' event.op activities)
    {i : Uuid} {a : Alert} (ha : db.alerts.find? i = some a) : RowStep py event db db' i a := by
  rcases Db.withAlert_row hf h ha with ⟨-, hsame, hacts⟩ | ⟨rfl, activities, hrow, hfind, hacts⟩
  · exact .untouched hsame hacts
  · exact .changed hfind hacts (hchanged a alert' activities (Table.find?_key ha) hrow)

theorem updateAlert_row {py : PyText} {app : App} {now : Timestamp} {alertId : Uuid}
    {update : AlertUpdate} {caller : Option Analyst} {db db' : Db} {alert' : Alert}
    (h : updateAlert py app now alertId update caller db = .ok (db', alert')) {i : Uuid}
    {a : Alert} (ha : db.alerts.find? i = some a) :
    RowStep py ⟨now, .updateAlert alertId update caller⟩ db db' i a := by
  obtain ⟨analyst, alert, activities, rfl, hfind, -, hupdated, rfl⟩ := updateAlert_ok h
  have hkey : alert.id = alertId := Table.find?_key hfind
  subst hkey
  exact commit_rowStep (.updated update analyst hupdated) hfind hupdated.rowFunction ha

/-- An accepted `PATCH` changes the row it names. -/
theorem updateAlert_self {py : PyText} {app : App} {now : Timestamp} {a : Alert}
    {update : AlertUpdate} {caller : Option Analyst} {db db' : Db} {alert' : Alert}
    (h : updateAlert py app now a.id update caller db = .ok (db', alert'))
    (ha : db.alerts.find? a.id = some a) :
    db'.alerts.find? a.id = some alert' ∧ ∃ analyst activities,
      Updated py now analyst update a alert' activities := by
  obtain ⟨analyst, row, activities, -, hfind, -, hupdated, rfl⟩ := updateAlert_ok h
  cases ha.symm.trans hfind
  exact ⟨Db.find?_commitAlert_self ha hupdated.id, analyst, activities, hupdated⟩

theorem claimAlert_row {py : PyText} {app : App} {now : Timestamp} {alertId : Uuid}
    {caller : Option Analyst} {db db' : Db} {alert' : Alert}
    (h : claimAlert app alertId caller db = .ok (db', alert')) {i : Uuid} {a : Alert}
    (ha : db.alerts.find? i = some a) :
    RowStep py ⟨now, .claimAlert alertId caller⟩ db db' i a := by
  obtain ⟨analyst, alert, activities, rfl, hfind, -, hrow, rfl⟩ := claimAlert_ok h
  have hkey : alert.id = alertId := Table.find?_key hfind
  subst hkey
  have hkeeps := claimRow_keeps analyst alert
  rw [← hrow] at hkeeps
  exact commit_rowStep (.claimed analyst hrow) hfind hkeeps ha

/-- One pass of the bulk loop. -/
theorem bulkStep_row (py : PyText) {app : App} {now : Timestamp} {analyst : Analyst}
    {body : BulkAlertUpdate} {loaded : Uuid → Bool} {state state' : Db × BulkOperationResult}
    {aid : Uuid} (haid : aid ∈ body.alertIds)
    (h : bulkStep app now analyst body loaded state aid = .ok state') {i : Uuid} {a : Alert}
    (ha : state.1.alerts.find? i = some a) :
    RowStep py ⟨now, .bulkUpdateAlerts body (some analyst)⟩ state.1 state'.1 i a := by
  obtain ⟨outcome, houtcome, rfl⟩ := map_ok h
  rcases bulkOutcome_cases houtcome with ⟨error, rfl⟩ | ⟨alert, hfind, hrow⟩
  · exact .untouched ha rfl
  cases outcome with
  | failed error => exact .untouched ha rfl
  | skipped => exact .untouched ha rfl
  | updated alert' activities =>
      have hkey : alert.id = aid := Table.find?_key hfind
      subst hkey
      have hchanged := bulkRow_updated hrow
      exact commit_rowStep (.bulk body analyst haid hchanged) hfind hchanged.rowFunction ha

/-- The whole bulk loop, by induction on the ids it goes through. -/
theorem bulkLoop_row (py : PyText) {app : App} {now : Timestamp} {analyst : Analyst}
    {body : BulkAlertUpdate} {loaded : Uuid → Bool} {i : Uuid} :
    ∀ (aids : List Uuid) {state state' : Db × BulkOperationResult} {a : Alert},
      (∀ aid ∈ aids, aid ∈ body.alertIds) →
      aids.foldlM (bulkStep app now analyst body loaded) state = .ok state' →
      state.1.alerts.find? i = some a →
      RowStep py ⟨now, .bulkUpdateAlerts body (some analyst)⟩ state.1 state'.1 i a := by
  intro aids
  induction aids with
  | nil =>
    intro state state' a _ h ha
    cases h
    exact .untouched ha rfl
  | cons aid aids ih =>
    intro state state' a haids h ha
    rw [List.foldlM_cons] at h
    obtain ⟨mid, hstep, hrest⟩ := bind_ok h
    obtain ⟨a₁, log, hfind, hacts, hrewrites⟩ :=
      bulkStep_row py (haids aid List.mem_cons_self) hstep ha
    obtain ⟨a₂, log', hfind', hacts', hrewrites'⟩ :=
      ih (fun aid h => haids aid (List.mem_cons_of_mem _ h)) hrest hfind
    refine ⟨a₂, log ++ log', hfind', ?_, hrewrites.trans hrewrites'⟩
    rw [hacts', hacts, List.append_assoc]

theorem updateCurrentAlert_spec {now : Timestamp} {ctx : Option Uuid}
    {args : CurrentAlertUpdate} {db db' : Db} {alert' : Alert}
    (h : updateCurrentAlert now ctx args db = .ok (db', alert')) :
    validateCurrent args = .ok () ∧ ∃ alertId, ctx = some alertId ∧
      db.withAlert alertId currentAlertNotFound (applyAlertUpdate now args)
        = .ok (db', alert') := by
  obtain ⟨_, hvalid, h⟩ := bind_ok h
  cases ctx with
  | none => cases h
  | some alertId => exact ⟨hvalid, alertId, rfl, h⟩

theorem updateCurrentAlert_row {py : PyText} {now : Timestamp} {ctx : Option Uuid}
    {args : CurrentAlertUpdate} {db db' : Db} {alert' : Alert}
    (h : updateCurrentAlert now ctx args db = .ok (db', alert')) {i : Uuid} {a : Alert}
    (ha : db.alerts.find? i = some a) :
    RowStep py ⟨now, .updateCurrentAlert ctx args⟩ db db' i a := by
  obtain ⟨hvalid, alertId, rfl, hload⟩ := updateCurrentAlert_spec h
  refine withAlert_rowStep (rowFunction_applyAlertUpdate now args) hload ?_ ha
  rintro alert alert' activities rfl hrow
  exact .applied args hvalid (applyAlertUpdate_ok hrow)

/-- An accepted update of the current alert changes it. -/
theorem updateCurrentAlert_self {now : Timestamp} {a : Alert} {args : CurrentAlertUpdate}
    {db db' : Db} {alert' : Alert}
    (h : updateCurrentAlert now (some a.id) args db = .ok (db', alert'))
    (ha : db.alerts.find? a.id = some a) :
    db'.alerts.find? a.id = some alert' ∧ ∃ activities,
      Applied now args a alert' activities := by
  obtain ⟨-, alertId, hctx, hload⟩ := updateCurrentAlert_spec h
  cases hctx
  obtain ⟨row, activities, hfind, hrow, rfl⟩ := Db.withAlert_ok hload
  cases ha.symm.trans hfind
  have happlied := applyAlertUpdate_ok hrow
  exact ⟨Db.find?_commitAlert_self ha happlied.id, activities, happlied⟩

theorem resolveCurrentAlert_row {py : PyText} {now : Timestamp} {ctx : Option Uuid}
    {args : CurrentAlertResolution} {db db' : Db} {alert' : Alert}
    (h : resolveCurrentAlert now ctx args db = .ok (db', alert')) {i : Uuid} {a : Alert}
    (ha : db.alerts.find? i = some a) :
    RowStep py ⟨now, .resolveCurrentAlert ctx args⟩ db db' i a := by
  simp only [resolveCurrentAlert] at h
  split at h
  · obtain ⟨hvalid, alertId, rfl, hload⟩ := updateCurrentAlert_spec h
    refine withAlert_rowStep (rowFunction_applyAlertUpdate now args.toUpdate) hload ?_ ha
    rintro alert alert' activities rfl hrow
    exact .resolved args hvalid (applyAlertUpdate_ok hrow)
  · cases h

theorem assignCurrentAlert_row {py : PyText} {now : Timestamp} {ctx : Option Uuid}
    {analystId username : Option String} {db db' : Db} {alert' : Alert}
    (h : assignCurrentAlert py ctx analystId username db = .ok (db', alert')) {i : Uuid}
    {a : Alert} (ha : db.alerts.find? i = some a) :
    RowStep py ⟨now, .assignCurrentAlert ctx analystId username⟩ db db' i a := by
  simp only [assignCurrentAlert] at h
  split at h
  · cases h
  cases ctx with
  | none => cases h
  | some alertId =>
      refine withAlert_rowStep (rowFunction_assignHandler _ _ _ _) h ?_ ha
      rintro alert alert' activities rfl hrow
      rcases assignHandler_ok hrow with ⟨hid, hname, hresult⟩ | ⟨hgiven, assignee, hresult⟩
      · exact .unassigned analystId username hid hname hresult
      · exact .assigned analystId username assignee hgiven hresult

/-- **Every accepted event, seen from any stored alert.** -/
theorem step_row {py : PyText} {app : App} {db db' : Db} {event : Event}
    (h : alertStep py app db event = .ok db') {i : Uuid} {a : Alert}
    (ha : db.alerts.find? i = some a) : RowStep py event db db' i a := by
  obtain ⟨now, op⟩ := event
  cases op with
  | processWebhook call =>
      obtain ⟨result, hresult, rfl⟩ := map_ok h
      exact processWebhook_row hresult ha
  | updateAlert alertId update caller =>
      obtain ⟨result, hresult, rfl⟩ := map_ok h
      exact updateAlert_row hresult ha
  | claimAlert alertId caller =>
      obtain ⟨result, hresult, rfl⟩ := map_ok h
      exact claimAlert_row hresult ha
  | bulkUpdateAlerts body caller =>
      obtain ⟨result, hresult, rfl⟩ := map_ok h
      obtain ⟨analyst, hanalyst, hloop⟩ := bind_ok hresult
      obtain ⟨rfl, -⟩ := requirePermission_ok hanalyst
      exact bulkLoop_row py body.alertIds (fun _ h => h) hloop ha
  | updateCurrentAlert ctx args =>
      obtain ⟨result, hresult, rfl⟩ := map_ok h
      exact updateCurrentAlert_row hresult ha
  | resolveCurrentAlert ctx args =>
      obtain ⟨result, hresult, rfl⟩ := map_ok h
      exact resolveCurrentAlert_row hresult ha
  | assignCurrentAlert ctx analystId username =>
      obtain ⟨result, hresult, rfl⟩ := map_ok h
      exact assignCurrentAlert_row hresult ha

/-! ## One event, seen from the rest of the database -/

/-- Alerts apart, activities are added at the end and nothing else changes. -/
structure AlertsOnly (db db' : Db) : Prop where
  activities : ∃ added, db'.activities = db.activities ++ added
  analysts : db'.analysts = db.analysts
  playbooks : db'.playbooks = db.playbooks
  incidents : db'.incidents = db.incidents
  incidentTemplates : db'.incidentTemplates = db.incidentTemplates

theorem AlertsOnly.refl (db : Db) : AlertsOnly db db :=
  ⟨⟨[], (List.append_nil _).symm⟩, rfl, rfl, rfl, rfl⟩

theorem AlertsOnly.trans {db db₁ db₂ : Db} (h : AlertsOnly db db₁) (h' : AlertsOnly db₁ db₂) :
    AlertsOnly db db₂ := by
  obtain ⟨added, hadded⟩ := h.activities
  obtain ⟨added', hadded'⟩ := h'.activities
  refine ⟨⟨added ++ added', ?_⟩, h'.analysts.trans h.analysts, h'.playbooks.trans h.playbooks,
    h'.incidents.trans h.incidents, h'.incidentTemplates.trans h.incidentTemplates⟩
  rw [hadded', hadded, List.append_assoc]

theorem alertsOnly_commitAlert (db : Db) (alert : Alert) (activities : List Activity) :
    AlertsOnly db (db.commitAlert alert activities) :=
  ⟨⟨activities, rfl⟩, rfl, rfl, rfl, rfl⟩

/-- Rows rewritten one after another, with the activities beside them. -/
inductive Commits (db : Db) : Db → Prop
  | refl : Commits db db
  | commit {db₁ : Db} (alert : Alert) (activities : List Activity) :
      Commits db db₁ → Commits db (db₁.commitAlert alert activities)

/-- The database after an accepted event: a new alert, or stored ones rewritten. -/
inductive Written (db db' : Db) : Prop
  | created (alert : Alert) : alert.status.val = "new" →
      (∀ i, db'.alerts.find? i = if i = alert.id then some alert else db.alerts.find? i) →
      db' = { db with alerts := db'.alerts } → Written db db'
  | rewritten : Commits db db' → Written db db'

theorem written_withAlert {db db' : Db} {alertId : Uuid} {missing : Raised}
    {f : Alert → Except Raised (Alert × List Activity)} {alert' : Alert}
    (h : db.withAlert alertId missing f = .ok (db', alert')) : Written db db' := by
  obtain ⟨alert, activities, -, -, rfl⟩ := Db.withAlert_ok h
  exact .rewritten (.commit _ _ .refl)

theorem written_processWebhook {py : PyText} {call : WebhookCall} {db db' : Db}
    {alert : Alert} (h : processWebhook py call db = .ok (db', alert)) : Written db db' := by
  obtain ⟨n, -, hingested⟩ := processWebhook_ok h
  cases hingested with
  | created _ halert _ _ hlookup hdb =>
      obtain ⟨-, -, -, -, hstatus, -⟩ := newAlert_ok halert
      exact .created alert hstatus hlookup hdb
  | duplicate existing _ _ _ hdb =>
      rw [hdb]
      exact .rewritten (.commit _ _ .refl)

theorem written_bulkUpdateAlerts {app : App} {now : Timestamp} {body : BulkAlertUpdate}
    {caller : Option Analyst} {db : Db} {result : Db × BulkOperationResult}
    (h : bulkUpdateAlerts app now body caller db = .ok result) : Written db result.1 := by
  obtain ⟨analyst, -, hloop⟩ := bind_ok h
  refine .rewritten (foldlM_inv (P := fun state => Commits db state.1) ?_ .refl hloop)
  intro state aid state' hstate hstep
  obtain ⟨outcome, -, rfl⟩ := map_ok hstep
  cases outcome with
  | failed error => exact hstate
  | skipped => exact hstate
  | updated alert activities => exact .commit _ _ hstate

/-- **Every accepted event, seen from the database.** -/
theorem step_written {py : PyText} {app : App} {db db' : Db} {event : Event}
    (h : alertStep py app db event = .ok db') : Written db db' := by
  obtain ⟨now, op⟩ := event
  cases op with
  | processWebhook call =>
      obtain ⟨result, hresult, rfl⟩ := map_ok h
      exact written_processWebhook hresult
  | updateAlert alertId update caller =>
      obtain ⟨result, hresult, rfl⟩ := map_ok h
      obtain ⟨analyst, -, hload⟩ := bind_ok hresult
      exact written_withAlert hload
  | claimAlert alertId caller =>
      obtain ⟨result, hresult, rfl⟩ := map_ok h
      obtain ⟨analyst, -, hload⟩ := bind_ok hresult
      exact written_withAlert hload
  | bulkUpdateAlerts body caller =>
      obtain ⟨result, hresult, rfl⟩ := map_ok h
      exact written_bulkUpdateAlerts hresult
  | updateCurrentAlert ctx args =>
      obtain ⟨result, hresult, rfl⟩ := map_ok h
      obtain ⟨-, alertId, -, hload⟩ := updateCurrentAlert_spec hresult
      exact written_withAlert hload
  | resolveCurrentAlert ctx args =>
      obtain ⟨result, hresult, rfl⟩ := map_ok h
      simp only [resolveCurrentAlert] at hresult
      split at hresult
      · obtain ⟨-, alertId, -, hload⟩ := updateCurrentAlert_spec hresult
        exact written_withAlert hload
      · cases hresult
  | assignCurrentAlert ctx analystId username =>
      obtain ⟨result, hresult, rfl⟩ := map_ok h
      simp only [assignCurrentAlert] at hresult
      split at hresult
      · cases hresult
      cases ctx with
      | none => cases hresult
      | some alertId => exact written_withAlert hresult

theorem step_alertsOnly {py : PyText} {app : App} {db db' : Db} {event : Event}
    (h : alertStep py app db event = .ok db') : AlertsOnly db db' := by
  cases step_written h with
  | created alert _ _ hdb =>
      rw [hdb]
      exact ⟨⟨[], (List.append_nil _).symm⟩, rfl, rfl, rfl, rfl⟩
  | rewritten hcommits =>
      clear h
      induction hcommits with
      | refl => exact AlertsOnly.refl db
      | commit alert activities _ ih => exact ih.trans (alertsOnly_commitAlert _ alert activities)

/-- An alert that an accepted event adds is new. -/
theorem step_new_row {py : PyText} {app : App} {db db' : Db} {event : Event}
    (h : alertStep py app db event = .ok db') {i : Uuid} (hnone : db.alerts.find? i = none)
    {a : Alert} (ha : db'.alerts.find? i = some a) : a.status.val = "new" := by
  cases step_written h with
  | created alert hnew hlookup _ =>
      rw [hlookup i] at ha
      split at ha
      · cases ha
        exact hnew
      · cases hnone.symm.trans ha
  | rewritten hcommits =>
      have habsent : db'.alerts.find? i = none := by
        clear ha h
        induction hcommits with
        | refl => exact hnone
        | commit alert activities _ ih =>
            show (Table.set _ alert).find? i = none
            rw [Table.find?_set, ih]
            split <;> rfl
      cases habsent.symm.trans ha

/-! ## Runs, seen from one alert -/

/-- The stored row of an alert has a property. -/
def Db.Row (db : Db) (i : Uuid) (P : Alert → Prop) : Prop :=
  ∃ a, db.alerts.find? i = some a ∧ P a

/-- An operation meets a condition in the row it finds. -/
def OnRow (i : Uuid) (C : AlertOp → Alert → Prop) (db : Db) (event : Event) : Prop :=
  ∀ a, db.alerts.find? i = some a → C event.op a

/-- **The invariant rule for one alert's row and trail.** -/
theorem run_row_inv {py : PyText} {app : App} {i : Uuid}
    {P : Alert → List Activity → Prop} {C : AlertOp → Alert → Prop}
    (hstep : ∀ now op a a' trail log, P a trail → C op a →
      Rewrites (fun a₁ a₂ log => Changed py now a₁ a₂ op log) a a' log → P a' (trail ++ log))
    (es : List Event) {db : Db} (hP : db.Row i (fun a => P a (db.activitiesOf i)))
    (hC : Along (alertStep py app) (OnRow i C) db es) :
    (run (alertStep py app) db es).Row i
      (fun a => P a ((run (alertStep py app) db es).activitiesOf i)) := by
  refine run_inv (alertStep py app) (C := OnRow i C)
    (I := fun db => db.Row i (fun a => P a (db.activitiesOf i))) ?_ es db hP hC
  rintro db event db' ⟨a, ha, hP⟩ hC h
  obtain ⟨a', log, hfind, hacts, hrewrites⟩ := step_row h ha
  refine ⟨a', hfind, ?_⟩
  rw [hacts]
  exact hstep event.now event.op a a' _ log hP (hC a ha) hrewrites

/-! ## A new alert, for runs on concrete input -/

def loginFailure : WebhookCall := ⟨[("title", .str "Login failure")], "webhook", 1, 11⟩

theorem loginFailure_ingested :
    ∃ db a, processWebhook .ascii loginFailure .empty = .ok (db, a) := by
  obtain ⟨⟨db, a⟩, hok⟩ : ∃ p, processWebhook .ascii loginFailure .empty = .ok p := ⟨_, rfl⟩
  exact ⟨db, a, hok⟩

end OpenSoar
