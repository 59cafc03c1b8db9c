/-
# `OpenSoar.Retention.Purge` — when a purge commits, and what it has done then

A purge as one function of the store it finds.  Its statements compare with nine moments
(`Moments`), taken from as many readings of the clock, and each has a reading on the row
before the purge: `alertOver` says that the purge deletes the alert, be it archived before
or by the purge itself, and `cascades` that an activity goes with a deleted record.

A purge commits exactly when every cutoff it computes is a `datetime` and no playbook run
refers to an alert it deletes (`runRetentionPurge_commits`, `runRetentionPurge_purged`);
the store it leaves is `Store.purged` and the audit row, and its report is `Reported`.
-/
import OpenSoar.Retention.Service

namespace OpenSoar

open Python

/-! ## Cutoffs that are datetimes -/

/-- `now - timedelta(days=days)` is a `datetime`. -/
def IsDatetime (days : Int) (now : Timestamp) : Prop :=
  0 ≤ (now : Int) - days * microsecondsPerDay ∧
    (now : Int) - days * microsecondsPerDay ≤ datetimeMax

instance (days : Int) (now : Timestamp) : Decidable (IsDatetime days now) :=
  inferInstanceAs (Decidable (_ ∧ _))

/-- The days before a moment, cut off at the first `datetime`. -/
def cutoff (days : Int) (now : Timestamp) : Timestamp :=
  ((now : Int) - days * microsecondsPerDay).toNat

theorem daysBefore_of_isDatetime {days : Int} {now : Timestamp} (h : IsDatetime days now) :
    daysBefore days now = .ok (cutoff days now) :=
  if_pos h

theorem daysBefore_ok {days : Int} {now t : Timestamp} (h : daysBefore days now = .ok t) :
    IsDatetime days now ∧ t = cutoff days now := by
  simp only [daysBefore] at h
  split at h
  · cases h
    exact ⟨‹_›, rfl⟩
  · cases h

/-- A moment is not before the cutoff of a period that is over later. -/
theorem cutoff_le {days : Int} {now : Timestamp} (h : 0 ≤ days) : cutoff days now ≤ now := by
  have hperiod : 0 ≤ days * (microsecondsPerDay : Int) :=
    Int.mul_nonneg h (Int.natCast_nonneg _)
  have hmoment : (now : Int) - days * microsecondsPerDay ≤ now := Int.sub_le_self _ hperiod
  exact Int.toNat_le.mpr hmoment

/-- Every cutoff that a purge computes is a `datetime`. -/
structure Datetimes (settings : RetentionSettings) (clock : Nat → Timestamp) : Prop where
  alerts : ∀ k ∈ [0, 1, 9, 10], IsDatetime settings.alertsRetentionDays (clock k)
  incidents : ∀ k ∈ [3, 4, 11, 12], IsDatetime settings.incidentsRetentionDays (clock k)
  activities : ∀ k ∈ [6, 13], IsDatetime settings.activitiesRetentionDays (clock k)
  grace : ∀ k ∈ [2, 5, 7, 14, 15, 16], IsDatetime settings.retentionGraceDays (clock k)

/-- The stamp of a purge and the moments its statements compare with. -/
structure Moments where
  stamp : Timestamp
  resolvedBefore : Timestamp
  alertCreatedBefore : Timestamp
  closedBefore : Timestamp
  incidentCreatedBefore : Timestamp
  activityCreatedBefore : Timestamp
  alertArchivedBefore : Timestamp
  incidentArchivedBefore : Timestamp
  activityArchivedBefore : Timestamp

def moments (settings : RetentionSettings) (clock : Nat → Timestamp) : Moments where
  stamp := clock 8
  resolvedBefore := cutoff settings.alertsRetentionDays (clock 9)
  alertCreatedBefore := cutoff settings.alertsRetentionDays (clock 10)
  closedBefore := cutoff settings.incidentsRetentionDays (clock 11)
  incidentCreatedBefore := cutoff settings.incidentsRetentionDays (clock 12)
  activityCreatedBefore := cutoff settings.activitiesRetentionDays (clock 13)
  alertArchivedBefore := cutoff settings.retentionGraceDays (clock 14)
  incidentArchivedBefore := cutoff settings.retentionGraceDays (clock 15)
  activityArchivedBefore := cutoff settings.retentionGraceDays (clock 16)

/-! ## What the purge makes of one row -/

namespace Moments

variable (m : Moments)

def alertExpired (row : AlertRow) : Bool := row.expired m.resolvedBefore m.alertCreatedBefore

def incidentExpired (row : IncidentRow) : Bool :=
  row.expired m.closedBefore m.incidentCreatedBefore

def activityExpired (row : ActivityRow) : Bool :=
  row.expired m.activityCreatedBefore && decide (row.action ≠ retentionPurge)

/-- The row after the statements that archive. -/
def alert (row : AlertRow) : AlertRow :=
  if m.alertExpired row then row.archive m.stamp else row

def incident (row : IncidentRow) : IncidentRow :=
  if m.incidentExpired row then row.archive m.stamp else row

def activity (row : ActivityRow) : ActivityRow :=
  if m.activityExpired row then row.archive m.stamp else row

/-- The row meets the filter of the statement that deletes, once it is archived. -/
def alertOver (row : AlertRow) : Bool :=
  graceOver (m.alert row).archivedAt m.alertArchivedBefore

def incidentOver (row : IncidentRow) : Bool :=
  graceOver (m.incident row).archivedAt m.incidentArchivedBefore

def activityOver (row : ActivityRow) : Bool :=
  graceOver (m.activity row).archivedAt m.activityArchivedBefore
    && decide (row.action ≠ retentionPurge)

theorem toActivity_activity (row : ActivityRow) :
    (m.activity row).toActivity = row.toActivity := by
  unfold activity
  split <;> rfl

theorem toAlert_alert (row : AlertRow) : (m.alert row).toAlert = row.toAlert := by
  unfold alert
  split <;> rfl

end Moments

/-! ## What the purge makes of a store -/

namespace Store

variable (m : Moments) (s : Store)

/-- The purge deletes the alert. -/
def deletesAlert (alertId : Uuid) : Bool := (s.alerts.find? alertId).any m.alertOver

/-- The purge deletes the incident. -/
def deletesIncident (incidentId : Uuid) : Bool :=
  (s.incidents.find? incidentId).any m.incidentOver

/-- The activity goes with an alert or an incident that the purge deletes. -/
def cascades (row : ActivityRow) : Bool :=
  row.alertId.any (s.deletesAlert m) || row.incidentId.any (s.deletesIncident m)

/-- No playbook run refers to an alert that the purge deletes. -/
def RunsRelease : Prop :=
  ∀ run ∈ s.runs, ∀ alertId, run.alertId = some alertId → s.deletesAlert m alertId = false

/-- The store after the statements that archive. -/
def archived : Store :=
  { s with
    alerts := s.alerts.update m.alertExpired (AlertRow.archive m.stamp)
      (AlertRow.key_archive m.stamp)
    incidents := s.incidents.update m.incidentExpired (IncidentRow.archive m.stamp)
      (IncidentRow.key_archive m.stamp)
    activities := s.activities.map m.activity }

/-- `deleteAlerts`, where nothing refuses it. -/
def withoutAlerts (selected : AlertRow → Bool) : Store :=
  let deleted (alertId : Uuid) : Bool := (s.alerts.find? alertId).any selected
  { s with
    alerts := s.alerts.filter (fun row => !selected row)
    activities := s.activities.filter (fun row => !row.alertId.any deleted)
    observables := s.observables.map (fun row =>
      if row.alertId.any deleted then { row with alertId := none } else row)
    incidentAlerts := s.incidentAlerts.filter (fun link => !deleted link.alertId) }

/-- The store after the statements that delete alerts and incidents. -/
def swept : Store :=
  ((s.archived m).withoutAlerts (fun row =>
    graceOver row.archivedAt m.alertArchivedBefore)).deleteIncidents (fun row =>
      graceOver row.archivedAt m.incidentArchivedBefore)

/-- The store after all statements, without the audit row. -/
def purged : Store :=
  { s.swept m with
    activities := (s.swept m).activities.filter (fun row =>
      !(graceOver row.archivedAt m.activityArchivedBefore
        && decide (row.action ≠ retentionPurge))) }

end Store

variable {s s' : Store} {m : Moments}

theorem Store.deleteAlerts_of_any {selected : AlertRow → Bool}
    (h : s.runs.any (fun run => run.alertId.any (fun alertId =>
      (s.alerts.find? alertId).any selected)) = false) :
    s.deleteAlerts selected = .ok (s.withoutAlerts selected) :=
  if_neg (by rw [h]; exact Bool.false_ne_true)

theorem Store.deleteAlerts_released {selected : AlertRow → Bool}
    (h : s.deleteAlerts selected = .ok s') :
    s.runs.any (fun run => run.alertId.any (fun alertId =>
      (s.alerts.find? alertId).any selected)) = false ∧ s' = s.withoutAlerts selected := by
  simp only [deleteAlerts] at h
  split at h
  · cases h
  · rename_i hnone
    cases h
    exact ⟨Bool.not_eq_true _ ▸ hnone, rfl⟩

theorem Store.find?_archived_alerts (s : Store) (m : Moments) (i : Uuid) :
    (s.archived m).alerts.find? i = (s.alerts.find? i).map m.alert :=
  Table.find?_update _ _ (AlertRow.key_archive m.stamp) s.alerts i

theorem Store.find?_archived_incidents (s : Store) (m : Moments) (i : Uuid) :
    (s.archived m).incidents.find? i = (s.incidents.find? i).map m.incident :=
  Table.find?_update _ _ (IncidentRow.key_archive m.stamp) s.incidents i

/-- An alert is selected after the archiving as `alertOver` says before it. -/
theorem Store.archived_deletesAlert (s : Store) (m : Moments) (alertId : Uuid) :
    ((s.archived m).alerts.find? alertId).any (fun row =>
      graceOver row.archivedAt m.alertArchivedBefore) = s.deletesAlert m alertId := by
  rw [find?_archived_alerts, Option.any_map]
  rfl

theorem Store.archived_deletesIncident (s : Store) (m : Moments) (incidentId : Uuid) :
    ((s.archived m).incidents.find? incidentId).any (fun row =>
      graceOver row.archivedAt m.incidentArchivedBefore) = s.deletesIncident m incidentId := by
  rw [find?_archived_incidents, Option.any_map]
  rfl

theorem Store.runsRelease_iff :
    s.RunsRelease m ↔ (s.archived m).runs.any (fun run => run.alertId.any (fun alertId =>
      ((s.archived m).alerts.find? alertId).any (fun row =>
        graceOver row.archivedAt m.alertArchivedBefore))) = false := by
  simp only [archived_deletesAlert]
  rw [List.any_eq_false]
  constructor
  · intro h run hrun
    cases halert : run.alertId with
    | none => exact Bool.false_ne_true
    | some alertId =>
        rw [Option.any_some, h run hrun alertId halert]
        exact Bool.false_ne_true
  · intro h run hrun alertId halert
    have hrow := h run hrun
    rw [halert, Option.any_some, Bool.not_eq_true] at hrow
    exact hrow

/-- The activities that are left when the records are deleted. -/
theorem Store.activities_swept (s : Store) (m : Moments) :
    (s.swept m).activities
      = (s.activities.filter (fun row => !s.cascades m row)).map m.activity := by
  have hincident (i : Uuid) :
      (((s.archived m).withoutAlerts (fun row =>
        graceOver row.archivedAt m.alertArchivedBefore)).incidents.find? i).any (fun row =>
          graceOver row.archivedAt m.incidentArchivedBefore) = s.deletesIncident m i :=
    archived_deletesIncident s m i
  have halert := archived_deletesAlert s m
  show ((s.activities.map m.activity).filter _).filter _ = _
  simp only [hincident, halert]
  rw [List.filter_filter, List.filter_map]
  congr 1
  refine List.filter_congr (fun row _ => ?_)
  have hrow := m.toActivity_activity row
  simp only [Function.comp_apply, hrow, cascades, Bool.not_or]
  exact Bool.and_comm _ _

/-- The activities that a purge leaves, beside its own: those that neither go with a record
nor are past the grace period themselves, archived if they are expired. -/
theorem Store.activities_purged (s : Store) (m : Moments) :
    (s.purged m).activities
      = (s.activities.filter (fun row => !(s.cascades m row || m.activityOver row))).map
          m.activity := by
  show (s.swept m).activities.filter _ = _
  rw [activities_swept, List.filter_map, List.filter_filter]
  congr 1
  refine List.filter_congr (fun row _ => ?_)
  have hrow := m.toActivity_activity row
  simp only [Function.comp_apply, hrow, Moments.activityOver, Bool.not_or]
  exact Bool.and_comm _ _

/-! ## The purge as a whole -/

/-- What a purge reports about the store it finds. -/
structure Reported (settings : RetentionSettings) (clock : Nat → Timestamp) (s : Store)
    (report : PurgeReport) : Prop where
  graceDays : report.graceDays = settings.retentionGraceDays
  alertCandidates : alertCounts settings clock s = .ok report.alerts.candidates
  incidentCandidates :
    incidentCounts settings (fun k => clock (3 + k)) s = .ok report.incidents.candidates
  activityCandidates :
    activityCounts settings (fun k => clock (6 + k)) s = .ok report.activities.candidates
  alerts : report.alerts.deleted = some
    ⟨s.alerts.rows.countP (moments settings clock).alertExpired,
      s.alerts.rows.countP (moments settings clock).alertOver⟩
  incidents : report.incidents.deleted = some
    ⟨s.incidents.rows.countP (moments settings clock).incidentExpired,
      s.incidents.rows.countP (moments settings clock).incidentOver⟩
  activities : report.activities.deleted = some
    ⟨s.activities.countP (moments settings clock).activityExpired,
      s.activities.countP (fun row => (moments settings clock).activityOver row
        && !s.cascades (moments settings clock) row)⟩

/-- The store and the row that a purge adds to it. -/
def Store.audited (now : Timestamp) (audit : Activity) (s : Store) : Store :=
  { s with activities := s.activities ++ [newActivity now audit] }

section Purge

variable {settings : RetentionSettings} {clock : Nat → Timestamp}
  {actorUsername : Option (Varchar 100)} {actorId : Option Uuid}

/-! ### The counts -/

theorem alertCounts_eq_ok {c : Candidates} : alertCounts settings clock s = .ok c ↔
    IsDatetime settings.alertsRetentionDays (clock 0) ∧
      IsDatetime settings.alertsRetentionDays (clock 1) ∧
      IsDatetime settings.retentionGraceDays (clock 2) ∧
      c = ⟨s.alerts.rows.countP (·.expired (cutoff settings.alertsRetentionDays (clock 0))
          (cutoff settings.alertsRetentionDays (clock 1))),
        s.alerts.rows.countP (fun row =>
          graceOver row.archivedAt (cutoff settings.retentionGraceDays (clock 2)))⟩ := by
  constructor
  · intro h
    obtain ⟨resolvedBefore, hresolved, h⟩ := bind_ok h
    obtain ⟨createdBefore, hcreated, h⟩ := bind_ok h
    obtain ⟨archivedBefore, harchived, h⟩ := bind_ok h
    obtain ⟨hresolved', rfl⟩ := daysBefore_ok hresolved
    obtain ⟨hcreated', rfl⟩ := daysBefore_ok hcreated
    obtain ⟨harchived', rfl⟩ := daysBefore_ok harchived
    cases h
    exact ⟨hresolved', hcreated', harchived', rfl⟩
  · rintro ⟨hresolved, hcreated, harchived, rfl⟩
    simp only [alertCounts, alertRetentionCutoff, graceCutoff, daysBefore_of_isDatetime hresolved,
      daysBefore_of_isDatetime hcreated, daysBefore_of_isDatetime harchived]
    rfl

theorem incidentCounts_eq_ok {c : Candidates} : incidentCounts settings clock s = .ok c ↔
    IsDatetime settings.incidentsRetentionDays (clock 0) ∧
      IsDatetime settings.incidentsRetentionDays (clock 1) ∧
      IsDatetime settings.retentionGraceDays (clock 2) ∧
      c = ⟨s.incidents.rows.countP (·.expired (cutoff settings.incidentsRetentionDays (clock 0))
          (cutoff settings.incidentsRetentionDays (clock 1))),
        s.incidents.rows.countP (fun row =>
          graceOver row.archivedAt (cutoff settings.retentionGraceDays (clock 2)))⟩ := by
  constructor
  · intro h
    obtain ⟨closedBefore, hclosed, h⟩ := bind_ok h
    obtain ⟨createdBefore, hcreated, h⟩ := bind_ok h
    obtain ⟨archivedBefore, harchived, h⟩ := bind_ok h
    obtain ⟨hclosed', rfl⟩ := daysBefore_ok hclosed
    obtain ⟨hcreated', rfl⟩ := daysBefore_ok hcreated
    obtain ⟨harchived', rfl⟩ := daysBefore_ok harchived
    cases h
    exact ⟨hclosed', hcreated', harchived', rfl⟩
  · rintro ⟨hclosed, hcreated, harchived, rfl⟩
    simp only [incidentCounts, incidentRetentionCutoff, graceCutoff,
      daysBefore_of_isDatetime hclosed, daysBefore_of_isDatetime hcreated,
      daysBefore_of_isDatetime harchived]
    rfl

theorem activityCounts_eq_ok {c : Candidates} : activityCounts settings clock s = .ok c ↔
    IsDatetime settings.activitiesRetentionDays (clock 0) ∧
      IsDatetime settings.retentionGraceDays (clock 1) ∧
      c = ⟨s.activities.countP (·.expired (cutoff settings.activitiesRetentionDays (clock 0))),
        s.activities.countP (fun row =>
          graceOver row.archivedAt (cutoff settings.retentionGraceDays (clock 1)))⟩ := by
  constructor
  · intro h
    obtain ⟨createdBefore, hcreated, h⟩ := bind_ok h
    obtain ⟨archivedBefore, harchived, h⟩ := bind_ok h
    obtain ⟨hcreated', rfl⟩ := daysBefore_ok hcreated
    obtain ⟨harchived', rfl⟩ := daysBefore_ok harchived
    cases h
    exact ⟨hcreated', harchived', rfl⟩
  · rintro ⟨hcreated, harchived, rfl⟩
    simp only [activityCounts, activityRetentionCutoff, graceCutoff,
      daysBefore_of_isDatetime hcreated, daysBefore_of_isDatetime harchived]
    rfl

/-! ### The statements -/

/-- The alerts that the purge deletes, counted after the archiving. -/
theorem Store.countP_archived_alerts (s : Store) (m : Moments) :
    (s.archived m).alerts.rows.countP (fun row =>
      graceOver row.archivedAt m.alertArchivedBefore) = s.alerts.rows.countP m.alertOver :=
  List.countP_map

theorem Store.countP_archived_incidents (s : Store) (m : Moments) :
    (s.archived m).incidents.rows.countP (fun row =>
      graceOver row.archivedAt m.incidentArchivedBefore) = s.incidents.rows.countP m.incidentOver :=
  List.countP_map

/-- The activities that the last statement deletes are those the others have left. -/
theorem Store.countP_swept_activities (s : Store) (m : Moments) :
    (s.swept m).activities.countP (fun row =>
      graceOver row.archivedAt m.activityArchivedBefore && decide (row.action ≠ retentionPurge))
        = s.activities.countP (fun row => m.activityOver row && !s.cascades m row) := by
  rw [activities_swept, List.countP_map, List.countP_filter]
  refine List.countP_congr (fun row _ => ?_)
  have hrow := m.toActivity_activity row
  simp only [Function.comp_apply, hrow, Moments.activityOver]

/-- **What a purge that commits has done.** -/
theorem runRetentionPurge_purged {report : PurgeReport}
    (h : runRetentionPurge settings clock false actorUsername actorId s = .ok (s', report)) :
    Datetimes settings clock ∧ s.RunsRelease (moments settings clock) ∧
      Reported settings clock s report ∧
      ∃ alerts incidents activities,
        s' = (s.purged (moments settings clock)).audited (clock 17)
          (purgeAudit actorUsername actorId alerts incidents activities report) := by
  obtain ⟨alertCandidates, halertCounts, h⟩ := bind_ok h
  obtain ⟨incidentCandidates, hincidentCounts, h⟩ := bind_ok h
  obtain ⟨activityCandidates, hactivityCounts, h⟩ := bind_ok h
  -- the statements that archive
  obtain ⟨alertsSoft, hsoft, h⟩ := bind_ok h
  obtain ⟨_, hresolved, hsoft⟩ := bind_ok hsoft
  obtain ⟨_, hcreated, hsoft⟩ := bind_ok hsoft
  obtain ⟨hresolved', rfl⟩ := daysBefore_ok hresolved
  obtain ⟨hcreated', rfl⟩ := daysBefore_ok hcreated
  cases hsoft
  obtain ⟨incidentsSoft, hsoft, h⟩ := bind_ok h
  obtain ⟨_, hclosed, hsoft⟩ := bind_ok hsoft
  obtain ⟨_, hopened, hsoft⟩ := bind_ok hsoft
  obtain ⟨hclosed', rfl⟩ := daysBefore_ok hclosed
  obtain ⟨hopened', rfl⟩ := daysBefore_ok hopened
  cases hsoft
  obtain ⟨activitiesSoft, hsoft, h⟩ := bind_ok h
  obtain ⟨_, hwritten, hsoft⟩ := bind_ok hsoft
  obtain ⟨hwritten', rfl⟩ := daysBefore_ok hwritten
  cases hsoft
  -- the statements that delete
  obtain ⟨alertsHard, hhard, h⟩ := bind_ok h
  obtain ⟨_, halerts, hhard⟩ := bind_ok hhard
  obtain ⟨halerts', rfl⟩ := daysBefore_ok halerts
  obtain ⟨s₄, hdeleted, hhard⟩ := bind_ok hhard
  cases hhard
  obtain ⟨hreleased, rfl⟩ := Store.deleteAlerts_released hdeleted
  obtain ⟨incidentsHard, hhard, h⟩ := bind_ok h
  obtain ⟨_, hincidents, hhard⟩ := bind_ok hhard
  obtain ⟨hincidents', rfl⟩ := daysBefore_ok hincidents
  cases hhard
  obtain ⟨activitiesHard, hhard, h⟩ := bind_ok h
  obtain ⟨_, hactivities, hhard⟩ := bind_ok hhard
  obtain ⟨hactivities', rfl⟩ := daysBefore_ok hactivities
  cases hhard
  cases h
  obtain ⟨hc₀, hc₁, hc₂, -⟩ := alertCounts_eq_ok.mp halertCounts
  obtain ⟨hc₃, hc₄, hc₅, -⟩ := incidentCounts_eq_ok.mp hincidentCounts
  obtain ⟨hc₆, hc₇, -⟩ := activityCounts_eq_ok.mp hactivityCounts
  refine ⟨?_, ?_, ?_, ?_⟩
  · constructor <;> simp only [List.forall_mem_cons, List.not_mem_nil, false_imp_iff, forall_const]
    · exact ⟨hc₀, hc₁, hresolved', hcreated', trivial⟩
    · exact ⟨hc₃, hc₄, hclosed', hopened', trivial⟩
    · exact ⟨hc₆, hwritten', trivial⟩
    · exact ⟨hc₂, hc₅, hc₇, halerts', hincidents', hactivities', trivial⟩
  · exact Store.runsRelease_iff.mpr hreleased
  · exact ⟨rfl, halertCounts, hincidentCounts, hactivityCounts,
      congrArg (fun n => some (Deleted.mk _ n))
        (Store.countP_archived_alerts s (moments settings clock)),
      congrArg (fun n => some (Deleted.mk _ n))
        (Store.countP_archived_incidents s (moments settings clock)),
      congrArg (fun n => some (Deleted.mk _ n))
        (Store.countP_swept_activities s (moments settings clock))⟩
  · exact ⟨_, _, _, rfl⟩

/-- A purge commits when its cutoffs are datetimes and no run holds an alert. -/
theorem runRetentionPurge_commits (actorUsername : Option (Varchar 100)) (actorId : Option Uuid)
    (hdates : Datetimes settings clock) (hruns : s.RunsRelease (moments settings clock)) :
    ∃ result, runRetentionPurge settings clock false actorUsername actorId s = .ok result := by
  have halert {k : Nat} (hk : k ∈ [0, 1, 9, 10]) :
      alertRetentionCutoff settings (clock k) = .ok _ :=
        daysBefore_of_isDatetime (hdates.alerts k hk)
  have hincident {k : Nat} (hk : k ∈ [3, 4, 11, 12]) :
      incidentRetentionCutoff settings (clock k) = .ok _ :=
    daysBefore_of_isDatetime (hdates.incidents k hk)
  have hactivity {k : Nat} (hk : k ∈ [6, 13]) :
      activityRetentionCutoff settings (clock k) = .ok _ :=
    daysBefore_of_isDatetime (hdates.activities k hk)
  have hgrace {k : Nat} (hk : k ∈ [2, 5, 7, 14, 15, 16]) :
      graceCutoff settings (clock k) = .ok _ := daysBefore_of_isDatetime (hdates.grace k hk)
  have halertCounts : alertCounts settings clock s = .ok _ := alertCounts_eq_ok.mpr
    ⟨hdates.alerts 0 (by decide), hdates.alerts 1 (by decide), hdates.grace 2 (by decide), rfl⟩
  have hincidentCounts : incidentCounts settings (fun k => clock (3 + k)) s = .ok _ :=
    incidentCounts_eq_ok.mpr
      ⟨hdates.incidents 3 (by decide), hdates.incidents 4 (by decide), hdates.grace 5 (by decide),
        rfl⟩
  have hactivityCounts : activityCounts settings (fun k => clock (6 + k)) s = .ok _ :=
    activityCounts_eq_ok.mpr ⟨hdates.activities 6 (by decide), hdates.grace 7 (by decide), rfl⟩
  have halertsSoft : softDeleteAlerts settings (fun k => clock (9 + k)) (clock 8) s = .ok _ :=
    (bind_of_ok (halert (k := 9) (by decide))).trans
      (bind_of_ok (halert (k := 10) (by decide)))
  have hincidentsSoft (s : Store) :
      softDeleteIncidents settings (fun k => clock (11 + k)) (clock 8) s = .ok _ :=
    (bind_of_ok (hincident (k := 11) (by decide))).trans
      (bind_of_ok (hincident (k := 12) (by decide)))
  have hactivitiesSoft (s : Store) :
      softDeleteActivities settings (fun k => clock (13 + k)) (clock 8) s = .ok _ :=
    bind_of_ok (hactivity (k := 13) (by decide))
  have halertsHard : hardDeleteAlerts settings (fun k => clock (14 + k))
      (s.archived (moments settings clock)) = .ok _ :=
    (bind_of_ok (hgrace (k := 14) (by decide))).trans
      (bind_of_ok (Store.deleteAlerts_of_any (Store.runsRelease_iff.mp hruns)))
  have hincidentsHard (s : Store) :
      hardDeleteIncidents settings (fun k => clock (15 + k)) s = .ok _ :=
    bind_of_ok (hgrace (k := 15) (by decide))
  have hactivitiesHard (s : Store) :
      hardDeleteActivities settings (fun k => clock (16 + k)) s = .ok _ :=
    bind_of_ok (hgrace (k := 16) (by decide))
  refine bind_returns halertCounts (bind_returns hincidentCounts
    (bind_returns hactivityCounts ?_))
  rw [if_neg Bool.false_ne_true]
  exact bind_returns halertsSoft (bind_returns (hincidentsSoft _)
    (bind_returns (hactivitiesSoft _) (bind_returns halertsHard
      (bind_returns (hincidentsHard _) (bind_returns (hactivitiesHard _) ⟨_, rfl⟩)))))

end Purge

end OpenSoar
