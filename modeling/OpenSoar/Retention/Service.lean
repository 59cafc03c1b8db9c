/-
# `OpenSoar.Retention.Service` — the purge

`retention/service.py`.  A purge stamps `archived_at` on the closed records whose time is
over and removes the records whose stamp is older than the grace period; the second
statement of each resource looks at the stamp alone.  Activities are purged by their age,
except the rows the purge itself writes.

Every cutoff is taken from a reading of the clock of its own: `clock k` is the `k`-th call
of `_now()` in one purge, and the settings are any integers, so a cutoff may be no
`datetime` at all (`daysBefore`).  The statements run in one transaction; what raises
leaves nothing behind.
-/
import OpenSoar.Retention.Rows

namespace OpenSoar

open Python

/-- What can leave a purge other than its result. -/
inductive PurgeRaised where
  | overflowError
  | refusedByDatabase (reason : String)
deriving DecidableEq

/-! ## Settings and cutoffs -/

structure RetentionSettings where
  alertsRetentionDays : Int
  incidentsRetentionDays : Int
  activitiesRetentionDays : Int
  retentionGraceDays : Int

/-- The values of `config.py`. -/
def defaultSettings : RetentionSettings := ⟨365, 730, 365, 30⟩

/-- `RESOLVED_ALERT_STATUSES`. -/
def resolvedAlertStatuses : List String := ["resolved", "closed"]

/-- `CLOSED_INCIDENT_STATUSES`. -/
def closedIncidentStatuses : List String := ["closed", "resolved"]

def microsecondsPerDay : Nat := 86400000000

/-- `datetime.max`, on the clock that starts with `datetime.min`. -/
def datetimeMax : Timestamp := 315537897599999999

/-- `now - timedelta(days=days)`. -/
def daysBefore (days : Int) (now : Timestamp) : Except PurgeRaised Timestamp :=
  let moment : Int := now - days * microsecondsPerDay
  if 0 ≤ moment ∧ moment ≤ datetimeMax then .ok moment.toNat else .error .overflowError

variable (settings : RetentionSettings) (clock : Nat → Timestamp)

def alertRetentionCutoff (now : Timestamp) : Except PurgeRaised Timestamp :=
  daysBefore settings.alertsRetentionDays now

def incidentRetentionCutoff (now : Timestamp) : Except PurgeRaised Timestamp :=
  daysBefore settings.incidentsRetentionDays now

def activityRetentionCutoff (now : Timestamp) : Except PurgeRaised Timestamp :=
  daysBefore settings.activitiesRetentionDays now

def graceCutoff (now : Timestamp) : Except PurgeRaised Timestamp :=
  daysBefore settings.retentionGraceDays now

/-! ## The filters -/

/-- A closed record that is not archived and whose time is over, by the column that is
stamped when it is closed or, without a stamp, by its creation. -/
def retentionOver (closed : List String) (status : String) (archivedAt stampedAt : Option Timestamp)
    (createdAt stampedBefore createdBefore : Timestamp) : Bool :=
  archivedAt.isNone && closed.contains status &&
    match stampedAt with
    | some stamped => decide (stamped < stampedBefore)
    | none => decide (createdAt < createdBefore)

/-- An archived record whose grace period is over. -/
def graceOver (archivedAt : Option Timestamp) (archivedBefore : Timestamp) : Bool :=
  archivedAt.any (fun archived => decide (archived < archivedBefore))

def AlertRow.expired (resolvedBefore createdBefore : Timestamp) (row : AlertRow) : Bool :=
  retentionOver resolvedAlertStatuses row.status.val row.archivedAt row.resolvedAt
    row.createdAt resolvedBefore createdBefore

def IncidentRow.expired (closedBefore createdBefore : Timestamp) (row : IncidentRow) : Bool :=
  retentionOver closedIncidentStatuses row.status.val row.archivedAt row.closedAt
    row.createdAt closedBefore createdBefore

def ActivityRow.expired (createdBefore : Timestamp) (row : ActivityRow) : Bool :=
  row.archivedAt.isNone && decide (row.createdAt < createdBefore)

/-- The action of the rows that the purge writes. -/
def retentionPurge : Varchar 50 := .lit "retention_purge"

/-! ## The candidates -/

/-- The counts of one resource. -/
structure Candidates where
  softDelete : Nat
  hardDelete : Nat
deriving DecidableEq

def alertCounts (s : Store) : Except PurgeRaised Candidates := do
  let resolvedBefore ← alertRetentionCutoff settings (clock 0)
  let createdBefore ← alertRetentionCutoff settings (clock 1)
  let archivedBefore ← graceCutoff settings (clock 2)
  pure {
    softDelete := s.alerts.rows.countP (·.expired resolvedBefore createdBefore)
    hardDelete := s.alerts.rows.countP (fun row => graceOver row.archivedAt archivedBefore) }

def incidentCounts (s : Store) : Except PurgeRaised Candidates := do
  let closedBefore ← incidentRetentionCutoff settings (clock 0)
  let createdBefore ← incidentRetentionCutoff settings (clock 1)
  let archivedBefore ← graceCutoff settings (clock 2)
  pure {
    softDelete := s.incidents.rows.countP (·.expired closedBefore createdBefore)
    hardDelete := s.incidents.rows.countP (fun row => graceOver row.archivedAt archivedBefore) }

/-- The rows of the purge itself are counted, though no statement touches them. -/
def activityCounts (s : Store) : Except PurgeRaised Candidates := do
  let createdBefore ← activityRetentionCutoff settings (clock 0)
  let archivedBefore ← graceCutoff settings (clock 1)
  pure {
    softDelete := s.activities.countP (·.expired createdBefore)
    hardDelete := s.activities.countP (fun row => graceOver row.archivedAt archivedBefore) }

/-! ## Soft deletion -/

/-- `SET archived_at = now`. -/
def AlertRow.archive (now : Timestamp) (row : AlertRow) : AlertRow :=
  { row with archivedAt := some now }

def IncidentRow.archive (now : Timestamp) (row : IncidentRow) : IncidentRow :=
  { row with archivedAt := some now }

def ActivityRow.archive (now : Timestamp) (row : ActivityRow) : ActivityRow :=
  { row with archivedAt := some now }

theorem AlertRow.key_archive (now : Timestamp) (row : AlertRow) :
    (row.archive now).key = row.key := rfl

theorem IncidentRow.key_archive (now : Timestamp) (row : IncidentRow) :
    (row.archive now).key = row.key := rfl

/-- The store after a statement, and its `rowcount`. -/
def softDeleteAlerts (now : Timestamp) (s : Store) : Except PurgeRaised (Store × Nat) := do
  let resolvedBefore ← alertRetentionCutoff settings (clock 0)
  let createdBefore ← alertRetentionCutoff settings (clock 1)
  let expired := AlertRow.expired resolvedBefore createdBefore
  pure ({ s with
      alerts := s.alerts.update expired (AlertRow.archive now) (AlertRow.key_archive now) },
    s.alerts.rows.countP expired)

def softDeleteIncidents (now : Timestamp) (s : Store) : Except PurgeRaised (Store × Nat) := do
  let closedBefore ← incidentRetentionCutoff settings (clock 0)
  let createdBefore ← incidentRetentionCutoff settings (clock 1)
  let expired := IncidentRow.expired closedBefore createdBefore
  pure ({ s with
      incidents :=
        s.incidents.update expired (IncidentRow.archive now) (IncidentRow.key_archive now) },
    s.incidents.rows.countP expired)

def softDeleteActivities (now : Timestamp) (s : Store) : Except PurgeRaised (Store × Nat) := do
  let createdBefore ← activityRetentionCutoff settings (clock 0)
  let expired (row : ActivityRow) : Bool :=
    row.expired createdBefore && decide (row.action ≠ retentionPurge)
  pure ({ s with
      activities := s.activities.map (fun row => if expired row then row.archive now else row) },
    s.activities.countP expired)

/-! ## Hard deletion -/

/-- `DELETE FROM alerts WHERE ...`: the activities and links of a deleted alert go with it,
its observables lose the reference, and a playbook run that refers to it refuses the
statement. -/
def Store.deleteAlerts (selected : AlertRow → Bool) (s : Store) : Except PurgeRaised Store :=
  let deleted (alertId : Uuid) : Bool := (s.alerts.find? alertId).any selected
  if s.runs.any (fun run => run.alertId.any deleted) then
    .error (.refusedByDatabase
      "delete on table alerts violates foreign key constraint fk_playbook_runs_alert_id_alerts")
  else .ok { s with
    alerts := s.alerts.filter (fun row => !selected row)
    activities := s.activities.filter (fun row => !row.alertId.any deleted)
    observables := s.observables.map (fun row =>
      if row.alertId.any deleted then { row with alertId := none } else row)
    incidentAlerts := s.incidentAlerts.filter (fun link => !deleted link.alertId) }

/-- `DELETE FROM incidents WHERE ...`. -/
def Store.deleteIncidents (selected : IncidentRow → Bool) (s : Store) : Store :=
  let deleted (incidentId : Uuid) : Bool := (s.incidents.find? incidentId).any selected
  { s with
    incidents := s.incidents.filter (fun row => !selected row)
    activities := s.activities.filter (fun row => !row.incidentId.any deleted)
    observables := s.observables.map (fun row =>
      if row.incidentId.any deleted then { row with incidentId := none } else row)
    incidentAlerts := s.incidentAlerts.filter (fun link => !deleted link.incidentId) }

def hardDeleteAlerts (s : Store) : Except PurgeRaised (Store × Nat) := do
  let archivedBefore ← graceCutoff settings (clock 0)
  let selected (row : AlertRow) : Bool := graceOver row.archivedAt archivedBefore
  let s' ← s.deleteAlerts selected
  pure (s', s.alerts.rows.countP selected)

def hardDeleteIncidents (s : Store) : Except PurgeRaised (Store × Nat) := do
  let archivedBefore ← graceCutoff settings (clock 0)
  let selected (row : IncidentRow) : Bool := graceOver row.archivedAt archivedBefore
  pure (s.deleteIncidents selected, s.incidents.rows.countP selected)

def hardDeleteActivities (s : Store) : Except PurgeRaised (Store × Nat) := do
  let archivedBefore ← graceCutoff settings (clock 0)
  let selected (row : ActivityRow) : Bool :=
    graceOver row.archivedAt archivedBefore && decide (row.action ≠ retentionPurge)
  pure ({ s with activities := s.activities.filter (fun row => !selected row) },
    s.activities.countP selected)

/-! ## The purge -/

/-- The `rowcount`s of one resource. -/
structure Deleted where
  soft : Nat
  hard : Nat
deriving DecidableEq

/-- The part of a result about one resource; a dry run counts candidates only. -/
structure ResourceReport where
  candidates : Candidates
  deleted : Option Deleted
deriving DecidableEq

structure PurgeReport where
  dryRun : Bool
  graceDays : Int
  alerts : ResourceReport
  incidents : ResourceReport
  activities : ResourceReport
deriving DecidableEq

def ResourceReport.toDict (report : ResourceReport) : Dict :=
  [("soft_delete_candidates", .int report.candidates.softDelete),
   ("hard_delete_candidates", .int report.candidates.hardDelete)] ++
    match report.deleted with
    | some deleted => [("soft_deleted", .int deleted.soft), ("hard_deleted", .int deleted.hard)]
    | none => []

def Deleted.text (resource : String) (deleted : Deleted) : String :=
  resource ++ " soft=" ++ toString deleted.soft ++ " hard=" ++ toString deleted.hard

/-- The activity that a purge writes. -/
def purgeAudit (actorUsername : Option (Varchar 100)) (actorId : Option Uuid)
    (alerts incidents activities : Deleted) (report : PurgeReport) : Activity where
  alertId := none
  incidentId := none
  analystId := actorId
  analystUsername := actorUsername
  action := retentionPurge
  detail := some ("Retention purge: " ++ alerts.text "alerts" ++ ", "
    ++ incidents.text "incidents" ++ ", " ++ activities.text "activities")
  metadataJson := some [("alerts", .obj report.alerts.toDict),
    ("incidents", .obj report.incidents.toDict),
    ("activities", .obj report.activities.toDict), ("grace_days", .int report.graceDays)]

/-- `run_retention_purge`. -/
def runRetentionPurge (dryRun : Bool) (actorUsername : Option (Varchar 100))
    (actorId : Option Uuid) (s : Store) : Except PurgeRaised (Store × PurgeReport) := do
  let alertCandidates ← alertCounts settings clock s
  let incidentCandidates ← incidentCounts settings (fun k => clock (3 + k)) s
  let activityCandidates ← activityCounts settings (fun k => clock (6 + k)) s
  if dryRun then
    pure (s, ⟨dryRun, settings.retentionGraceDays, ⟨alertCandidates, none⟩,
      ⟨incidentCandidates, none⟩, ⟨activityCandidates, none⟩⟩)
  else do
    let now := clock 8
    let alertsSoft ← softDeleteAlerts settings (fun k => clock (9 + k)) now s
    let incidentsSoft ← softDeleteIncidents settings (fun k => clock (11 + k)) now alertsSoft.1
    let activitiesSoft ← softDeleteActivities settings (fun k => clock (13 + k)) now incidentsSoft.1
    let alertsHard ← hardDeleteAlerts settings (fun k => clock (14 + k)) activitiesSoft.1
    let incidentsHard ← hardDeleteIncidents settings (fun k => clock (15 + k)) alertsHard.1
    let activitiesHard ← hardDeleteActivities settings (fun k => clock (16 + k)) incidentsHard.1
    let alerts : Deleted := ⟨alertsSoft.2, alertsHard.2⟩
    let incidents : Deleted := ⟨incidentsSoft.2, incidentsHard.2⟩
    let activities : Deleted := ⟨activitiesSoft.2, activitiesHard.2⟩
    let report : PurgeReport := ⟨dryRun, settings.retentionGraceDays,
      ⟨alertCandidates, some alerts⟩, ⟨incidentCandidates, some incidents⟩,
      ⟨activityCandidates, some activities⟩⟩
    let audit := purgeAudit actorUsername actorId alerts incidents activities report
    pure ({ activitiesHard.1 with
      activities := activitiesHard.1.activities ++ [newActivity (clock 17) audit] }, report)

/-! ## What a purge does to alerts and incidents -/

/-- The alerts after a purge: the expired ones stamped, those past the grace period gone. -/
def AlertsPurged (s s' : Store) : Prop :=
  ∃ resolvedBefore createdBefore archivedBefore,
    alertRetentionCutoff settings (clock 9) = .ok resolvedBefore ∧
    alertRetentionCutoff settings (clock 10) = .ok createdBefore ∧
    graceCutoff settings (clock 14) = .ok archivedBefore ∧
    ∀ i, s'.alerts.find? i = ((s.alerts.find? i).map (fun row =>
      if row.expired resolvedBefore createdBefore then row.archive (clock 8) else row)).filter
        (fun row => !graceOver row.archivedAt archivedBefore)

/-- The incidents after a purge. -/
def IncidentsPurged (s s' : Store) : Prop :=
  ∃ closedBefore createdBefore archivedBefore,
    incidentRetentionCutoff settings (clock 11) = .ok closedBefore ∧
    incidentRetentionCutoff settings (clock 12) = .ok createdBefore ∧
    graceCutoff settings (clock 15) = .ok archivedBefore ∧
    ∀ i, s'.incidents.find? i = ((s.incidents.find? i).map (fun row =>
      if row.expired closedBefore createdBefore then row.archive (clock 8) else row)).filter
        (fun row => !graceOver row.archivedAt archivedBefore)

variable {settings clock}

theorem Store.deleteAlerts_ok {selected : AlertRow → Bool} {s s' : Store}
    (h : s.deleteAlerts selected = .ok s') :
    s'.alerts = s.alerts.filter (fun row => !selected row) ∧ s'.incidents = s.incidents := by
  simp only [deleteAlerts] at h
  split at h
  · cases h
  · cases h
    exact ⟨rfl, rfl⟩

/-- A dry run changes nothing. -/
theorem runRetentionPurge_dry {actorUsername : Option (Varchar 100)} {actorId : Option Uuid}
    {s s' : Store} {report : PurgeReport}
    (h : runRetentionPurge settings clock true actorUsername actorId s = .ok (s', report)) :
    s' = s := by
  obtain ⟨alertCandidates, -, h⟩ := bind_ok h
  obtain ⟨incidentCandidates, -, h⟩ := bind_ok h
  obtain ⟨activityCandidates, -, h⟩ := bind_ok h
  cases h
  rfl

/-- A purge, seen from the tables of alerts and incidents. -/
theorem runRetentionPurge_ok {actorUsername : Option (Varchar 100)} {actorId : Option Uuid}
    {s s' : Store} {report : PurgeReport}
    (h : runRetentionPurge settings clock false actorUsername actorId s = .ok (s', report)) :
    AlertsPurged settings clock s s' ∧ IncidentsPurged settings clock s s' := by
  obtain ⟨alertCandidates, -, h⟩ := bind_ok h
  obtain ⟨incidentCandidates, -, h⟩ := bind_ok h
  obtain ⟨activityCandidates, -, h⟩ := bind_ok h
  obtain ⟨alertsSoft, hsoft, h⟩ := bind_ok h
  obtain ⟨resolvedBefore, hresolved, hsoft⟩ := bind_ok hsoft
  obtain ⟨createdBefore, hcreated, hsoft⟩ := bind_ok hsoft
  cases hsoft
  obtain ⟨incidentsSoft, hsoft, h⟩ := bind_ok h
  obtain ⟨closedBefore, hclosed, hsoft⟩ := bind_ok hsoft
  obtain ⟨openedBefore, hopened, hsoft⟩ := bind_ok hsoft
  cases hsoft
  obtain ⟨activitiesSoft, hsoft, h⟩ := bind_ok h
  obtain ⟨writtenBefore, -, hsoft⟩ := bind_ok hsoft
  cases hsoft
  obtain ⟨alertsHard, hhard, h⟩ := bind_ok h
  obtain ⟨alertsBefore, halerts, hhard⟩ := bind_ok hhard
  obtain ⟨s₄, hdeleted, hhard⟩ := bind_ok hhard
  cases hhard
  obtain ⟨halertRows, hincidentRows⟩ := Store.deleteAlerts_ok hdeleted
  obtain ⟨incidentsHard, hhard, h⟩ := bind_ok h
  obtain ⟨incidentsBefore, hincidents, hhard⟩ := bind_ok hhard
  cases hhard
  obtain ⟨activitiesHard, hhard, h⟩ := bind_ok h
  obtain ⟨activitiesBefore, -, hhard⟩ := bind_ok hhard
  cases hhard
  cases h
  constructor
  · refine ⟨resolvedBefore, createdBefore, alertsBefore, hresolved, hcreated, halerts, ?_⟩
    intro i
    show s₄.alerts.find? i = _
    rw [halertRows, Table.find?_filter]
    exact congrArg _ (Table.find?_update _ _ (AlertRow.key_archive (clock 8)) s.alerts i)
  · refine ⟨closedBefore, openedBefore, incidentsBefore, hclosed, hopened, hincidents, ?_⟩
    intro i
    show (s₄.incidents.filter _).find? i = _
    rw [hincidentRows, Table.find?_filter]
    exact congrArg _ (Table.find?_update _ _ (IncidentRow.key_archive (clock 8)) s.incidents i)

end OpenSoar
