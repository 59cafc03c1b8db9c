/-
# `OpenSoar.Retention.References` — deletions and the foreign keys

The foreign keys that the models declare among the tables of a `Store`, and the two
operations that delete records: the purge and `DELETE /alerts/{alert_id}`.

Activities and the links of incidents go with a deleted alert and observables lose their
reference, by the `ON DELETE` of their columns.  `playbook_runs.alert_id` has none, so an
alert that a playbook has run on cannot be deleted: the statement is refused, and with it
the whole purge, at every later attempt too.  An operation that deletes succeeds, and
leaves a store whose references are whole, exactly when no run refers to an alert that it
deletes (`deletion_keeps_references`).
-/
import OpenSoar.Lib.Reference
import OpenSoar.Core.Runs
import OpenSoar.Retention.Purge
import OpenSoar.Retention.Phases

namespace OpenSoar

open Python

/-! ## The foreign keys -/

namespace Store

variable (s : Store)

def HasAlert (i : Uuid) : Prop := (s.alerts.find? i).isSome = true

def HasIncident (i : Uuid) : Prop := (s.incidents.find? i).isSome = true

def HasAnalyst (i : Uuid) : Prop := (s.analysts.find? i).isSome = true

def HasPlaybook (i : Uuid) : Prop := (s.playbooks.find? i).isSome = true

instance : DecidablePred s.HasAlert := fun _ => inferInstanceAs (Decidable (_ = _))

instance : DecidablePred s.HasIncident := fun _ => inferInstanceAs (Decidable (_ = _))

instance : DecidablePred s.HasAnalyst := fun _ => inferInstanceAs (Decidable (_ = _))

instance : DecidablePred s.HasPlaybook := fun _ => inferInstanceAs (Decidable (_ = _))

/-- The declared foreign keys hold. -/
structure ForeignKeys : Prop where
  alertAssignee : Refers (fun row => row.assignedTo) s.HasAnalyst s.alerts.rows
  incidentAssignee : Refers (fun row => row.assignedTo) s.HasAnalyst s.incidents.rows
  activityAlert : Refers (fun row => row.alertId) s.HasAlert s.activities
  activityIncident : Refers (fun row => row.incidentId) s.HasIncident s.activities
  activityAnalyst : Refers (fun row => row.analystId) s.HasAnalyst s.activities
  observableAlert : Refers (fun row => row.alertId) s.HasAlert s.observables
  observableIncident : Refers (fun row => row.incidentId) s.HasIncident s.observables
  linkAlert : Refers (fun link => some link.alertId) s.HasAlert s.incidentAlerts
  linkIncident : Refers (fun link => some link.incidentId) s.HasIncident s.incidentAlerts
  runAlert : Refers (fun run => run.alertId) s.HasAlert s.runs
  runPlaybook : Refers (fun run => some run.playbookId) s.HasPlaybook s.runs

instance : Decidable s.ForeignKeys :=
  decidable_of_iff
    (Refers (fun row => row.assignedTo) s.HasAnalyst s.alerts.rows ∧
      Refers (fun row => row.assignedTo) s.HasAnalyst s.incidents.rows ∧
      Refers (fun row => row.alertId) s.HasAlert s.activities ∧
      Refers (fun row => row.incidentId) s.HasIncident s.activities ∧
      Refers (fun row => row.analystId) s.HasAnalyst s.activities ∧
      Refers (fun row => row.alertId) s.HasAlert s.observables ∧
      Refers (fun row => row.incidentId) s.HasIncident s.observables ∧
      Refers (fun link => some link.alertId) s.HasAlert s.incidentAlerts ∧
      Refers (fun link => some link.incidentId) s.HasIncident s.incidentAlerts ∧
      Refers (fun run => run.alertId) s.HasAlert s.runs ∧
      Refers (fun run => some run.playbookId) s.HasPlaybook s.runs)
    ⟨fun ⟨h₁, h₂, h₃, h₄, h₅, h₆, h₇, h₈, h₉, h₁₀, h₁₁⟩ =>
        ⟨h₁, h₂, h₃, h₄, h₅, h₆, h₇, h₈, h₉, h₁₀, h₁₁⟩,
      fun h => ⟨h.1, h.2, h.3, h.4, h.5, h.6, h.7, h.8, h.9, h.10, h.11⟩⟩

end Store

/-! ## What the statements keep -/

section Statements

variable {s : Store} {m : Moments}

theorem Store.hasAlert_archived (i : Uuid) : (s.archived m).HasAlert i ↔ s.HasAlert i := by
  rw [HasAlert, find?_archived_alerts, Option.isSome_map]
  rfl

theorem Store.hasIncident_archived (i : Uuid) :
    (s.archived m).HasIncident i ↔ s.HasIncident i := by
  rw [HasIncident, find?_archived_incidents, Option.isSome_map]
  rfl

/-- A key that a deletion keeps is still there after it. -/
theorem Table.isSome_filter {α : Type} {key : α → Uuid} {t : Table key} {selected : α → Bool}
    {i : Uuid} (h : Remains (fun i => (t.find? i).isSome = true)
      (fun i => (t.find? i).any selected) i) :
    ((t.filter (fun row => !selected row)).find? i).isSome = true := by
  obtain ⟨hsome, hkept⟩ := h
  obtain ⟨row, hrow⟩ := Option.isSome_iff_exists.mp hsome
  have hkept : selected row = false := by
    simp only [hrow, Option.any_some] at hkept
    exact hkept
  rw [Table.find?_filter, hrow, Option.filter_some_pos (by rw [hkept]; rfl)]
  rfl

theorem Moments.alertId_activity (row : ActivityRow) : (m.activity row).alertId = row.alertId :=
  congrArg Activity.alertId (m.toActivity_activity row)

theorem Moments.incidentId_activity (row : ActivityRow) :
    (m.activity row).incidentId = row.incidentId :=
  congrArg Activity.incidentId (m.toActivity_activity row)

theorem Moments.analystId_activity (row : ActivityRow) :
    (m.activity row).analystId = row.analystId :=
  congrArg Activity.analystId (m.toActivity_activity row)

theorem Moments.assignedTo_incident (row : IncidentRow) :
    (m.incident row).assignedTo = row.assignedTo := by
  unfold incident
  split <;> rfl

/-- Archiving changes no reference. -/
theorem Store.ForeignKeys.archived (h : s.ForeignKeys) : (s.archived m).ForeignKeys := by
  have halert : Refers (fun row => row.alertId) s.HasAlert (s.archived m).activities :=
    h.activityAlert.map Moments.alertId_activity
  have hincident : Refers (fun row => row.incidentId) s.HasIncident (s.archived m).activities :=
    h.activityIncident.map Moments.incidentId_activity
  exact {
    alertAssignee :=
      h.alertAssignee.map (fun row => congrArg Alert.assignedTo (m.toAlert_alert row))
    incidentAssignee := h.incidentAssignee.map Moments.assignedTo_incident
    activityAlert := halert.mono (fun i => (hasAlert_archived i).mpr)
    activityIncident := hincident.mono (fun i => (hasIncident_archived i).mpr)
    activityAnalyst := h.activityAnalyst.map Moments.analystId_activity
    observableAlert := h.observableAlert.mono (fun i => (hasAlert_archived i).mpr)
    observableIncident := h.observableIncident.mono (fun i => (hasIncident_archived i).mpr)
    linkAlert := h.linkAlert.mono (fun i => (hasAlert_archived i).mpr)
    linkIncident := h.linkIncident.mono (fun i => (hasIncident_archived i).mpr)
    runAlert := h.runAlert.mono (fun i => (hasAlert_archived i).mpr)
    runPlaybook := h.runPlaybook }

/-- Alerts that no run refers to can go: what refers to them follows or lets go. -/
theorem Store.ForeignKeys.withoutAlerts {selected : AlertRow → Bool} (h : s.ForeignKeys)
    (hruns : s.runs.any (fun run => run.alertId.any (fun alertId =>
      (s.alerts.find? alertId).any selected)) = false) :
    (s.withoutAlerts selected).ForeignKeys where
  alertAssignee := h.alertAssignee.filter _
  incidentAssignee := h.incidentAssignee
  activityAlert := h.activityAlert.cascade.mono (fun _ => Table.isSome_filter)
  activityIncident := h.activityIncident.filter _
  activityAnalyst := h.activityAnalyst.filter _
  observableAlert := (h.observableAlert.setNull (fun row => { row with alertId := none })
    (fun _ => rfl)).mono (fun _ => Table.isSome_filter)
  observableIncident := h.observableIncident.map (fun row => by split <;> rfl)
  linkAlert := (h.linkAlert.cascade).mono (fun _ => Table.isSome_filter)
  linkIncident := h.linkIncident.filter _
  runAlert := (h.runAlert.noAction hruns).mono (fun _ => Table.isSome_filter)
  runPlaybook := h.runPlaybook

/-- Incidents can always go. -/
theorem Store.ForeignKeys.deleteIncidents {selected : IncidentRow → Bool} (h : s.ForeignKeys) :
    (s.deleteIncidents selected).ForeignKeys where
  alertAssignee := h.alertAssignee
  incidentAssignee := h.incidentAssignee.filter _
  activityAlert := h.activityAlert.filter _
  activityIncident := h.activityIncident.cascade.mono (fun _ => Table.isSome_filter)
  activityAnalyst := h.activityAnalyst.filter _
  observableAlert := h.observableAlert.map (fun row => by split <;> rfl)
  observableIncident := (h.observableIncident.setNull
    (fun row => { row with incidentId := none }) (fun _ => rfl)).mono
      (fun _ => Table.isSome_filter)
  linkAlert := h.linkAlert.filter _
  linkIncident := (h.linkIncident.cascade).mono (fun _ => Table.isSome_filter)
  runAlert := h.runAlert
  runPlaybook := h.runPlaybook

theorem Store.ForeignKeys.filterActivities {kept : ActivityRow → Bool} (h : s.ForeignKeys) :
    ({ s with activities := s.activities.filter kept } : Store).ForeignKeys :=
  { h with
    activityAlert := h.activityAlert.filter _
    activityIncident := h.activityIncident.filter _
    activityAnalyst := h.activityAnalyst.filter _ }

/-- The audit row refers to the analyst behind the purge, if there is one. -/
theorem Store.ForeignKeys.audited {now : Timestamp} {audit : Activity} (h : s.ForeignKeys)
    (halert : audit.alertId = none) (hincident : audit.incidentId = none)
    (hanalyst : ∀ i, audit.analystId = some i → s.HasAnalyst i) :
    (s.audited now audit).ForeignKeys :=
  { h with
    activityAlert := h.activityAlert.append (.singleton (fun _ hi => by cases halert.symm.trans hi))
    activityIncident :=
      h.activityIncident.append (.singleton (fun _ hi => by cases hincident.symm.trans hi))
    activityAnalyst := h.activityAnalyst.append (.singleton hanalyst) }

/-- Every statement of a purge keeps the foreign keys. -/
theorem Store.ForeignKeys.purged (h : s.ForeignKeys) (hruns : s.RunsRelease m) :
    (s.purged m).ForeignKeys :=
  ((h.archived.withoutAlerts (Store.runsRelease_iff.mp hruns)).deleteIncidents).filterActivities

end Statements

/-! ## `DELETE /alerts/{alert_id}` -/

/-- `delete_alert`. -/
def deleteAlert (app : App) (alertId : Uuid) (caller : Option Analyst) (s : Store) :
    Except RetentionRaised Store := do
  let analyst ← (requirePermission .alertsDelete caller).mapError .request
  let alert ← (orRaise (s.alerts.find? alertId)
    (.httpException 404 "Alert not found")).mapError .request
  (enforceTenantAccess app (.alert alert.toAlert) "delete" (some analyst)).mapError .request
  (s.deleteAlerts (fun row => decide (row.key = alertId))).mapError .purge

/-- The alert exists and the caller may delete it. -/
def MayDelete (app : App) (alertId : Uuid) (caller : Option Analyst) (s : Store) : Prop :=
  ∃ analyst alert, requirePermission .alertsDelete caller = .ok analyst ∧
    s.alerts.find? alertId = some alert ∧
    enforceTenantAccess app (.alert alert.toAlert) "delete" (some analyst) = .ok ()

section Deletion

variable {s s' : Store} {app : App} {alertId : Uuid} {caller : Option Analyst}

/-- The statement that deletes one alert selects the rows that refer to it. -/
theorem Store.runs_any_key (alertId : Uuid) (hrow : s.HasAlert alertId) :
    s.runs.any (fun run => run.alertId.any (fun i =>
      (s.alerts.find? i).any (fun row => decide (row.key = alertId)))) = false ↔
        ∀ run ∈ s.runs, run.alertId ≠ some alertId := by
  rw [List.any_eq_false]
  refine forall_congr' fun run => forall_congr' fun _ => ?_
  rw [Bool.not_eq_true, Option.any_eq_false]
  constructor
  · intro h hrun
    obtain ⟨row, hfind⟩ := Option.isSome_iff_exists.mp hrow
    have hother := h alertId hrun
    rw [hfind, Option.any_some, decide_eq_true (Table.find?_key hfind)] at hother
    cases hother
  · intro h i hrun
    rw [Option.any_eq_false]
    intro row hfind
    have hi : row.key = i := Table.find?_key hfind
    refine decide_eq_false (fun hkey => h ?_)
    rw [hrun, ← hi, hkey]

theorem deleteAlert_eq_ok : deleteAlert app alertId caller s = .ok s' ↔
    MayDelete app alertId caller s ∧ (∀ run ∈ s.runs, run.alertId ≠ some alertId) ∧
      s' = s.withoutAlerts (fun row => decide (row.key = alertId)) := by
  constructor
  · intro h
    obtain ⟨analyst, hallowed, h⟩ := bind_ok h
    obtain ⟨alert, hload, h⟩ := bind_ok h
    obtain ⟨⟨⟩, hadmitted, h⟩ := bind_ok h
    have hfind := orRaise_ok (mapError_ok hload)
    obtain ⟨hruns, rfl⟩ := Store.deleteAlerts_released (mapError_ok h)
    refine ⟨⟨analyst, alert, mapError_ok hallowed, hfind, mapError_ok hadmitted⟩, ?_, rfl⟩
    exact (Store.runs_any_key alertId (by rw [Store.HasAlert, hfind]; rfl)).mp hruns
  · rintro ⟨⟨analyst, alert, hallowed, hfind, hadmitted⟩, hruns, rfl⟩
    have hruns := (Store.runs_any_key alertId (by rw [Store.HasAlert, hfind]; rfl)).mpr hruns
    have hload : (orRaise (s.alerts.find? alertId)
        (.httpException 404 "Alert not found")).mapError RetentionRaised.request = .ok alert := by
      rw [hfind]
      rfl
    rw [deleteAlert, bind_of_ok (by rw [hallowed]; rfl), bind_of_ok hload,
      bind_of_ok (by rw [hadmitted]; rfl), Store.deleteAlerts_of_any hruns]
    rfl

/-- **Deletions and playbook runs.**  From a store whose foreign keys hold, a purge by an
analyst of the store, or by none, commits with the foreign keys held exactly when its
cutoffs are datetimes and no playbook run refers to an alert that it deletes; and an alert
is deleted on request, with the foreign keys held, exactly when the request is admitted and
no playbook run refers to the alert. -/
theorem deletion_keeps_references (hs : s.ForeignKeys) :
    (∀ settings clock actorUsername actorId, (∀ i, actorId = some i → s.HasAnalyst i) →
      ((∃ s' report, runRetentionPurge settings clock false actorUsername actorId s
          = .ok (s', report) ∧ s'.ForeignKeys) ↔
        Datetimes settings clock ∧ s.RunsRelease (moments settings clock))) ∧
    ∀ app alertId caller,
      ((∃ s', deleteAlert app alertId caller s = .ok s' ∧ s'.ForeignKeys ∧
          s'.alerts.find? alertId = none) ↔
        MayDelete app alertId caller s ∧ ∀ run ∈ s.runs, run.alertId ≠ some alertId) := by
  constructor
  · intro settings clock actorUsername actorId hactor
    constructor
    · rintro ⟨s', report, h, -⟩
      obtain ⟨hdates, hruns, -⟩ := runRetentionPurge_purged h
      exact ⟨hdates, hruns⟩
    · rintro ⟨hdates, hruns⟩
      obtain ⟨⟨s', report⟩, h⟩ := runRetentionPurge_commits actorUsername actorId hdates hruns
      refine ⟨s', report, h, ?_⟩
      obtain ⟨-, -, -, _, _, _, rfl⟩ := runRetentionPurge_purged h
      exact (hs.purged hruns).audited rfl rfl hactor
  · intro app alertId caller
    constructor
    · rintro ⟨s', h, -, -⟩
      obtain ⟨hmay, hruns, -⟩ := deleteAlert_eq_ok.mp h
      exact ⟨hmay, hruns⟩
    · rintro ⟨hmay, hruns⟩
      refine ⟨_, deleteAlert_eq_ok.mpr ⟨hmay, hruns, rfl⟩, ?_, ?_⟩
      · obtain ⟨_, row, -, hfind, -⟩ := hmay
        exact hs.withoutAlerts
          ((Store.runs_any_key alertId (by rw [Store.HasAlert, hfind]; rfl)).mpr hruns)
      · show (s.alerts.filter _).find? alertId = none
        rw [Table.find?_filter, Option.filter_eq_none_iff]
        intro row hfind
        show ¬ (!decide (row.key = alertId)) = true
        rw [decide_eq_true (Table.find?_key hfind)]
        exact Bool.false_ne_true

end Deletion

/-! ## An alert that a playbook has run on -/

/-- The alert is archived, and nothing refers to it but its activities. -/
def releasedAlert : Store :=
  { run (retentionStep .ascii .core) .empty (leftAlone ++ [purged 739400]) with
    analysts := ⟨[administrator], List.nodup_singleton _⟩
    playbooks := isolateDb.playbooks }

/-- A playbook has run on it. -/
def heldAlert : Store :=
  { releasedAlert with
    runs := [⟨isolateHost.id, some 1, .lit "success", none, none, none⟩] }

/-- The clock stands still, after the grace period of the alert. -/
def afterGrace : Nat → Timestamp := fun _ => onDay 739431

theorem datetimes_afterGrace : Datetimes defaultSettings afterGrace := by
  constructor <;> decide

theorem foreignKeys_releasedAlert : releasedAlert.ForeignKeys := by decide +kernel

theorem foreignKeys_heldAlert : heldAlert.ForeignKeys := by decide +kernel

theorem deletion_keeps_references_of_releasedAlert :
    (∃ s' report, runRetentionPurge defaultSettings afterGrace false none none releasedAlert
        = .ok (s', report) ∧ s'.ForeignKeys) ∧
      ∃ s', deleteAlert .core 1 (some administrator) releasedAlert = .ok s' ∧ s'.ForeignKeys ∧
        s'.alerts.find? 1 = none := by
  have hruns : ∀ run ∈ releasedAlert.runs, ∀ alertId, run.alertId ≠ some alertId := by
    intro run hrun
    cases hrun
  constructor
  · refine ((deletion_keeps_references foreignKeys_releasedAlert).1 defaultSettings afterGrace none
      none (fun _ h => nomatch h)).mpr ⟨datetimes_afterGrace, ?_⟩
    intro run hrun alertId halert
    exact absurd halert (hruns run hrun alertId)
  · refine ((deletion_keeps_references foreignKeys_releasedAlert).2 .core 1
      (some administrator)).mpr ⟨?_, fun run hrun => hruns run hrun 1⟩
    have hstored : (releasedAlert.alerts.find? 1).isSome = true := by decide +kernel
    obtain ⟨row, hrow⟩ := Option.isSome_iff_exists.mp hstored
    exact ⟨administrator, row, rfl, hrow, rfl⟩

/-- One alert that a playbook has run on makes every purge past its grace period fail. -/
theorem purge_fails_on_an_alert_with_a_run :
    ¬ ∀ (s : Store) (settings : RetentionSettings) (clock : Nat → Timestamp),
      s.ForeignKeys → Datetimes settings clock →
        ∃ result, runRetentionPurge settings clock false none none s = .ok result := by
  intro hclaim
  obtain ⟨⟨s', report⟩, h⟩ :=
    hclaim heldAlert defaultSettings afterGrace foreignKeys_heldAlert datetimes_afterGrace
  obtain ⟨-, hruns, -⟩ := runRetentionPurge_purged h
  have hreleased := hruns _ (List.mem_singleton.mpr rfl) 1 rfl
  have hdeleted : heldAlert.deletesAlert (moments defaultSettings afterGrace) 1 = true := by
    decide +kernel
  rw [hdeleted] at hreleased
  cases hreleased

end OpenSoar
