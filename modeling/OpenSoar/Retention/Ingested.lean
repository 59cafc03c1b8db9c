/-
# `OpenSoar.Retention.Ingested` — the columns of an alert that only an ingest writes

Source, source id, duplicate count and correlation id.  The other operations on alerts are row
functions that keep these columns (`KeepsIngested`), and requests about incidents and purges write
none of them.  So of all operations on the store, the `DELETE` of an alert included, only
`process_webhook` changes what it finds there (`storeStep_ingested`), and none takes away an alert
that a playbook run refers to (`hasAlert_storeStep`).
-/
import OpenSoar.Retention.References

namespace OpenSoar

open Python

/-! ## The columns -/

structure IngestedColumns where
  source : Varchar 50
  sourceId : Option (Varchar 255)
  duplicateCount : Nat
  correlationId : Option Uuid

def Alert.ingested (alert : Alert) : IngestedColumns where
  source := alert.source
  sourceId := alert.sourceId
  duplicateCount := alert.duplicateCount
  correlationId := alert.correlationId

def Db.ingested (db : Db) (i : Uuid) : Option IngestedColumns :=
  (db.alerts.find? i).map Alert.ingested

/-! ## Writers of other columns -/

/-- The row function keeps the row's id and these columns. -/
def KeepsIngested (f : Alert → Except Raised (Alert × List Activity)) : Prop :=
  ∀ alert alert' activities, f alert = .ok (alert', activities) →
    alert'.id = alert.id ∧ alert'.ingested = alert.ingested

theorem Db.ingested_commitAlert {db : Db} {alert alert' : Alert} {activities : List Activity}
    (hfind : db.alerts.find? alert.id = some alert)
    (h : alert'.id = alert.id ∧ alert'.ingested = alert.ingested) :
    (db.commitAlert alert' activities).ingested = db.ingested := by
  funext i
  by_cases hi : i = alert.id
  · subst hi
    rw [ingested, ingested, find?_commitAlert_self hfind h.1, hfind, Option.map_some,
      Option.map_some, h.2]
  · rw [ingested, find?_commitAlert_ne (by rw [h.1]; exact hi)]
    rfl

theorem ingested_withAlert {db db' : Db} {alertId : Uuid} {missing : Raised}
    {f : Alert → Except Raised (Alert × List Activity)} {alert' : Alert} (hf : KeepsIngested f)
    (h : db.withAlert alertId missing f = .ok (db', alert')) : db'.ingested = db.ingested := by
  obtain ⟨alert, activities, hfind, hrow, rfl⟩ := Db.withAlert_ok h
  have hid : alert.id = alertId := Table.find?_key hfind
  subst hid
  exact Db.ingested_commitAlert hfind (hf alert alert' activities hrow)

theorem keepsIngested_updateRow (py : PyText) (analysts : Table Analyst.id) (now : Timestamp)
    (analyst : Analyst) (update : AlertUpdate) :
    KeepsIngested (updateRow py analysts now analyst update) := by
  intro alert alert' activities h
  unfold updateRow at h
  obtain ⟨_, -, h⟩ := bind_ok h
  obtain ⟨assigned, hassigned, h⟩ := bind_ok h
  obtain ⟨updated, hupdated, h⟩ := bind_ok h
  obtain ⟨⟨target, username, hrow⟩, -, -⟩ := assignField_ok hassigned
  rw [hrow] at hupdated
  obtain ⟨status, severity, resolveReason, determination, partner, -, -, -, -, -, rfl⟩ :=
    setFields_ok hupdated
  cases h
  exact ⟨rfl, rfl⟩

theorem claimRow_ingested (analyst : Analyst) (alert : Alert) :
    (claimRow analyst alert).1.id = alert.id ∧
      (claimRow analyst alert).1.ingested = alert.ingested := by
  simp only [claimRow]
  split <;> exact ⟨rfl, rfl⟩

theorem keepsIngested_applyAlertUpdate (now : Timestamp) (args : CurrentAlertUpdate) :
    KeepsIngested (applyAlertUpdate now args) := by
  intro alert alert' activities h
  unfold applyAlertUpdate at h
  iterate 5 obtain ⟨_, -, h⟩ := bind_ok h
  cases h
  exact ⟨rfl, rfl⟩

theorem keepsIngested_assignHandler (py : PyText) (analysts : Table Analyst.id)
    (analystId username : Option String) :
    KeepsIngested (assignHandler py analysts analystId username) := by
  intro alert alert' activities h
  rcases assignHandler_ok h with ⟨-, -, hrow⟩ | ⟨-, assignee, hrow⟩
  · cases hrow
    exact ⟨rfl, rfl⟩
  · cases hrow
    exact ⟨rfl, rfl⟩

theorem BulkChanged.ingested {now : Timestamp} {analyst : Analyst} {body : BulkAlertUpdate}
    {alert alert' : Alert} {activities : List Activity}
    (h : BulkChanged now analyst body alert alert' activities) :
    alert'.id = alert.id ∧ alert'.ingested = alert.ingested := by
  cases h with
  | resolved _ _ _ _ _ _ _ _ hrow =>
      subst hrow
      exact ⟨rfl, rfl⟩
  | assigned _ hrow =>
      cases hrow
      exact ⟨rfl, rfl⟩
  | severity _ _ _ _ hrow =>
      obtain ⟨severity, -, rfl⟩ := hrow
      exact ⟨rfl, rfl⟩

theorem ingested_bulkUpdateAlerts {app : App} {now : Timestamp} {body : BulkAlertUpdate}
    {caller : Option Analyst} {db : Db} {result : Db × BulkOperationResult}
    (h : bulkUpdateAlerts app now body caller db = .ok result) :
    result.1.ingested = db.ingested := by
  obtain ⟨analyst, -, hloop⟩ := bind_ok h
  refine foldlM_inv (P := fun state => state.1.ingested = db.ingested) ?_ rfl hloop
  intro state aid state' hstate hstep
  obtain ⟨outcome, houtcome, rfl⟩ := map_ok hstep
  rcases bulkOutcome_cases houtcome with ⟨error, rfl⟩ | ⟨alert, hfind, hrow⟩
  · exact hstate
  cases outcome with
  | failed error => exact hstate
  | skipped => exact hstate
  | updated alert' activities =>
      have hid : alert.id = aid := Table.find?_key hfind
      subst hid
      exact (Db.ingested_commitAlert hfind (bulkRow_updated hrow).ingested).trans hstate

/-- The call of `process_webhook`, if the operation is one. -/
def AlertOp.ingest : AlertOp → Option WebhookCall
  | .processWebhook call => some call
  | _ => none

/-- Every other operation on alerts leaves the columns alone. -/
theorem ingested_alertStep {py : PyText} {app : App} {db db' : Db} {event : Event}
    (h : alertStep py app db event = .ok db') (hop : event.op.ingest = none) :
    db'.ingested = db.ingested := by
  obtain ⟨now, op⟩ := event
  cases op with
  | processWebhook call => cases hop
  | updateAlert alertId update caller =>
      obtain ⟨result, hresult, rfl⟩ := map_ok h
      obtain ⟨analyst, -, hload⟩ := bind_ok hresult
      refine ingested_withAlert ?_ hload
      intro alert alert' activities hrow
      obtain ⟨_, -, hrow⟩ := bind_ok hrow
      exact keepsIngested_updateRow py db.analysts now analyst update alert alert' activities hrow
  | claimAlert alertId caller =>
      obtain ⟨result, hresult, rfl⟩ := map_ok h
      obtain ⟨analyst, -, hload⟩ := bind_ok hresult
      refine ingested_withAlert ?_ hload
      intro alert alert' activities hrow
      obtain ⟨_, -, hrow⟩ := bind_ok hrow
      have hclaimed := claimRow_ingested analyst alert
      rwa [Except.ok.inj hrow] at hclaimed
  | bulkUpdateAlerts body caller =>
      obtain ⟨result, hresult, rfl⟩ := map_ok h
      exact ingested_bulkUpdateAlerts hresult
  | updateCurrentAlert ctx args =>
      obtain ⟨result, hresult, rfl⟩ := map_ok h
      obtain ⟨-, alertId, -, hload⟩ := updateCurrentAlert_spec hresult
      exact ingested_withAlert (keepsIngested_applyAlertUpdate now args) hload
  | resolveCurrentAlert ctx args =>
      obtain ⟨result, hresult, rfl⟩ := map_ok h
      simp only [resolveCurrentAlert] at hresult
      split at hresult
      · obtain ⟨-, alertId, -, hload⟩ := updateCurrentAlert_spec hresult
        exact ingested_withAlert (keepsIngested_applyAlertUpdate now args.toUpdate) hload
      · cases hresult
  | assignCurrentAlert ctx analystId username =>
      obtain ⟨result, hresult, rfl⟩ := map_ok h
      simp only [assignCurrentAlert] at hresult
      split at hresult
      · cases hresult
      cases ctx with
      | none => cases hresult
      | some alertId => exact ingested_withAlert (keepsIngested_assignHandler _ _ _ _) hresult

/-! ## The store -/

/-- An event, or the `DELETE` of an alert. -/
inductive StoreOp where
  | event (event : RetentionEvent)
  | deleteAlert (alertId : Uuid) (caller : Option Analyst)

/-- The reading of the clock that the operation stores. -/
def StoreOp.time : StoreOp → Option Timestamp
  | .event ⟨now, _⟩ => some now
  | .deleteAlert _ _ => none

def StoreOp.ingest : StoreOp → Option WebhookCall
  | .event ⟨_, .alerts op⟩ => op.ingest
  | _ => none

section Store

variable (py : PyText) (app : App)

def storeStep (s : Store) : StoreOp → Except RetentionRaised Store
  | .event event => retentionStep py app s event
  | .deleteAlert alertId caller => deleteAlert app alertId caller s

variable {py app} {s s' : Store} {op : StoreOp}

/-- The alerts that are left are as they were in these columns. -/
def IngestedKept (s s' : Store) : Prop :=
  ∀ i row', s'.alerts.find? i = some row' →
    ∃ row, s.alerts.find? i = some row ∧ row'.toAlert.ingested = row.toAlert.ingested

theorem ingestedKept_of_db (h : s'.db.ingested = s.db.ingested) : IngestedKept s s' := by
  intro i row' hrow
  have hi := congrFun h i
  rw [Db.ingested, Db.ingested, Store.find?_db_alerts, Store.find?_db_alerts, hrow, Option.map_some,
    Option.map_some] at hi
  obtain ⟨alert, halert, hcolumns⟩ := Option.map_eq_some_iff.mp hi.symm
  obtain ⟨row, hold, rfl⟩ := Option.map_eq_some_iff.mp halert
  exact ⟨row, hold, hcolumns.symm⟩

/-- A new incident leaves the alerts as they are. -/
theorem createIncident_ingested {now : Timestamp} {incidentId : Uuid} {data : IncidentCreate}
    {caller : Option Analyst}
    (h : retentionStep py app s ⟨now, .createIncident incidentId data caller⟩ = .ok s') :
    ∀ i, s'.alerts.find? i = s.alerts.find? i := by
  obtain ⟨db, hdb, rfl⟩ := Store.lift_ok (mapError_ok h)
  obtain ⟨result, hresult, rfl⟩ := map_ok hdb
  obtain ⟨incident, activity, -, -, -, halerts, -⟩ := createIncident_rows hresult
  intro i
  rw [Store.find?_absorb_alerts, halerts, Store.find?_db_alerts]
  cases hold : s.alerts.find? i with
  | none => rfl
  | some row =>
      obtain rfl : row.key = i := Table.find?_key hold
      rw [Option.map_some, Option.map_some, Store.alertRow_stored hold]

theorem updateIncident_ingested {now : Timestamp} {incidentId : Uuid} {update : IncidentUpdate}
    {caller : Option Analyst}
    (h : retentionStep py app s ⟨now, .updateIncident incidentId update caller⟩ = .ok s') :
    ∀ i, s'.alerts.find? i = s.alerts.find? i := by
  obtain ⟨result, hresult, rfl⟩ := map_ok (mapError_ok h)
  obtain ⟨old, activities, -, -, hs⟩ := updateIncident_ok hresult
  intro i
  rw [hs]
  rfl

theorem purge_ingested {settings : RetentionSettings} {clock : Nat → Timestamp} {dryRun : Bool}
    {actorUsername : Option (Varchar 100)} {actorId : Option Uuid} {report : PurgeReport}
    (hresult : runRetentionPurge settings clock dryRun actorUsername actorId s = .ok (s', report)) :
    IngestedKept s s' := by
  intro i row' hrow
  cases dryRun with
  | true =>
      rw [runRetentionPurge_dry hresult] at hrow
      exact ⟨row', hrow, rfl⟩
  | false =>
      obtain ⟨_, _, _, -, -, -, hrows⟩ := (runRetentionPurge_ok hresult).1
      rw [hrows i] at hrow
      exact purged_same hrow.symm (fun row => row.toAlert.ingested) (fun _ => rfl)

/-- A deletion leaves every alert but one as it is. -/
theorem find?_deleteAlert {alertId : Uuid} {caller : Option Analyst}
    (h : deleteAlert app alertId caller s = .ok s') {i : Uuid} {row : AlertRow}
    (hrow : s'.alerts.find? i = some row) : s.alerts.find? i = some row := by
  obtain ⟨-, -, rfl⟩ := deleteAlert_eq_ok.mp h
  have hkept : ((s.alerts.filter _).find? i) = some row := hrow
  rw [Table.find?_filter] at hkept
  exact (Option.filter_eq_some_iff.mp hkept).1

/-- **Only an ingest writes the columns.** -/
theorem storeStep_ingested (h : storeStep py app s op = .ok s') :
    (∃ call alert, op.ingest = some call ∧ processWebhook py call s.db = .ok (s'.db, alert)) ∨
      (op.ingest = none ∧ IngestedKept s s') := by
  cases op with
  | deleteAlert alertId caller =>
      exact Or.inr ⟨rfl, fun i row' hrow => ⟨row', find?_deleteAlert h hrow, rfl⟩⟩
  | event event =>
      obtain ⟨now, op⟩ := event
      cases op with
      | alerts op =>
          have hstep := (retentionStep_alerts h).1
          cases hop : op.ingest with
          | none =>
              exact Or.inr ⟨hop, ingestedKept_of_db (ingested_alertStep hstep hop)⟩
          | some call =>
              cases op with
              | processWebhook call' =>
                  cases hop
                  obtain ⟨⟨db', alert⟩, hresult, hdb⟩ := map_ok hstep
                  cases hdb
                  exact Or.inl ⟨call, alert, rfl, hresult⟩
              | _ => cases hop
      | createIncident incidentId data caller =>
          refine Or.inr ⟨rfl, fun i row' hrow => ⟨row', ?_, rfl⟩⟩
          exact (createIncident_ingested h i).symm.trans hrow
      | updateIncident incidentId update caller =>
          refine Or.inr ⟨rfl, fun i row' hrow => ⟨row', ?_, rfl⟩⟩
          exact (updateIncident_ingested h i).symm.trans hrow
      | purge settings elapsed dryRun actorUsername actorId =>
          obtain ⟨result, hresult, rfl⟩ := map_ok (mapError_ok h)
          exact Or.inr ⟨rfl, purge_ingested hresult⟩

/-! ## Alerts that playbook runs refer to -/

theorem Store.hasAlert_db {i : Uuid} : s.HasAlert i ↔ (s.db.ingested i).isSome = true := by
  rw [Db.ingested, find?_db_alerts, Option.map_map, Option.isSome_map]
  rfl

/-- An ingest takes no alert away. -/
theorem hasAlert_processWebhook {call : WebhookCall} {alert : Alert}
    (h : processWebhook py call s.db = .ok (s'.db, alert)) {i : Uuid} (hi : s.HasAlert i) :
    s'.HasAlert i := by
  obtain ⟨n, -, hingested⟩ := processWebhook_ok h
  rw [Store.hasAlert_db, Db.ingested, Option.isSome_map] at hi ⊢
  cases hingested with
  | created _ _ _ _ hfind _ =>
      rw [hfind]
      split
      · rfl
      · exact hi
  | duplicate existing _ hfind hrow hdb =>
      subst hrow
      rw [hdb]
      by_cases hself : i = existing.id
      · have hcounted : (s.db.commitAlert (registerDuplicate call n existing) []).alerts.find?
            existing.id = some (registerDuplicate call n existing) :=
          Db.find?_commitAlert_self hfind rfl
        rw [hself, hcounted]
        rfl
      · have hother : (s.db.commitAlert (registerDuplicate call n existing) []).alerts.find? i =
            s.db.alerts.find? i := Db.find?_commitAlert_ne hself
        rw [hother]
        exact hi

/-- A purge that would take away an alert of a run is refused. -/
theorem hasAlert_purge {settings : RetentionSettings} {clock : Nat → Timestamp} {dryRun : Bool}
    {actorUsername : Option (Varchar 100)} {actorId : Option Uuid} {report : PurgeReport}
    (h : runRetentionPurge settings clock dryRun actorUsername actorId s = .ok (s', report))
    {run : PlaybookRun} (hrun : run ∈ s.runs) {i : Uuid} (hi : run.alertId = some i)
    (hstored : s.HasAlert i) : s'.HasAlert i := by
  cases dryRun with
  | true =>
      rw [runRetentionPurge_dry h]
      exact hstored
  | false =>
      obtain ⟨-, hreleased, -, _, _, _, rfl⟩ := runRetentionPurge_purged h
      refine Table.isSome_filter ⟨(Store.hasAlert_archived i).mpr hstored, ?_⟩
      exact (s.archived_deletesAlert _ i).trans (hreleased run hrun i hi)

/-- **No operation takes away an alert that a run refers to.** -/
theorem hasAlert_storeStep (h : storeStep py app s op = .ok s') {run : PlaybookRun}
    (hrun : run ∈ s.runs) {i : Uuid} (hi : run.alertId = some i) (hstored : s.HasAlert i) :
    s'.HasAlert i := by
  cases op with
  | deleteAlert alertId caller =>
      obtain ⟨-, hruns, rfl⟩ := deleteAlert_eq_ok.mp h
      obtain ⟨row, hrow⟩ := Option.isSome_iff_exists.mp hstored
      have hother : row.key ≠ alertId := by
        rw [Table.find?_key hrow]
        exact fun heq => hruns run hrun (hi.trans (congrArg some heq))
      refine Table.isSome_filter ⟨hstored, ?_⟩
      simp only [hrow, Option.any_some, decide_eq_false hother]
  | event event =>
      obtain ⟨now, op⟩ := event
      cases op with
      | alerts op =>
          have hstep := (retentionStep_alerts h).1
          cases hop : op.ingest with
          | none =>
              rw [Store.hasAlert_db, ingested_alertStep hstep hop]
              exact Store.hasAlert_db.mp hstored
          | some call =>
              cases op with
              | processWebhook call' =>
                  obtain ⟨⟨db', alert⟩, hresult, hdb⟩ := map_ok hstep
                  cases hdb
                  exact hasAlert_processWebhook hresult hstored
              | _ => cases hop
      | createIncident incidentId data caller =>
          rw [Store.HasAlert, createIncident_ingested h i]
          exact hstored
      | updateIncident incidentId update caller =>
          rw [Store.HasAlert, updateIncident_ingested h i]
          exact hstored
      | purge settings elapsed dryRun actorUsername actorId =>
          obtain ⟨result, hresult, rfl⟩ := map_ok (mapError_ok h)
          exact hasAlert_purge hresult hrun hi hstored

end Store

end OpenSoar
