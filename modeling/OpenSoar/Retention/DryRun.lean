/-
# `OpenSoar.Retention.DryRun` — what a dry run promises

A dry run and the purge after it, on one store and at one moment.  Alerts and incidents are
counted by the filters of the statements.  Activities are not: the statements pass over the
rows of the purge and the counts do not, and the statement that deletes activities comes
after those that take activities along with a record.

So the two reports agree exactly when no activity of a purge is old enough to be counted
and no activity past the grace period goes with a record (`dry_run_predicts_iff`).
-/
import OpenSoar.Retention.References

namespace OpenSoar

open Python

/-! ## The promise -/

/-- The counts of a purge are those of the dry run. -/
def ResourceReport.Foretells (dry real : ResourceReport) : Prop :=
  real.deleted = some ⟨dry.candidates.softDelete, dry.candidates.hardDelete⟩

/-- The dry run changes nothing, the purge commits, and their counts agree. -/
def DryRunPredicts (settings : RetentionSettings) (now : Timestamp)
    (actorUsername : Option (Varchar 100)) (actorId : Option Uuid) (s : Store) : Prop :=
  ∃ dry real s',
    runRetentionPurge settings (fun _ => now) true actorUsername actorId s = .ok (s, dry) ∧
    runRetentionPurge settings (fun _ => now) false actorUsername actorId s = .ok (s', real) ∧
    dry.alerts.Foretells real.alerts ∧ dry.incidents.Foretells real.incidents ∧
    dry.activities.Foretells real.activities

namespace Store

variable (s : Store) (archivedBefore : Timestamp)

/-- The alert is stored and past its grace period. -/
def AlertPast (i : Uuid) : Prop :=
  (s.alerts.find? i).any (fun row => graceOver row.archivedAt archivedBefore) = true

/-- The incident is stored and past its grace period. -/
def IncidentPast (i : Uuid) : Prop :=
  (s.incidents.find? i).any (fun row => graceOver row.archivedAt archivedBefore) = true

end Store

/-- What the counts of a dry run rest on. -/
structure Predictable (settings : RetentionSettings) (now : Timestamp) (s : Store) : Prop where
  datetimes : Datetimes settings (fun _ => now)
  runs : ∀ run ∈ s.runs, ∀ i, run.alertId = some i →
    ¬ s.AlertPast (cutoff settings.retentionGraceDays now) i
  audits : ∀ row ∈ s.activities, row.action = retentionPurge →
    row.expired (cutoff settings.activitiesRetentionDays now) = false
  activities : ∀ row ∈ s.activities,
    graceOver row.archivedAt (cutoff settings.retentionGraceDays now) = true →
      row.action ≠ retentionPurge ∧
      (∀ i, row.alertId = some i → ¬ s.AlertPast (cutoff settings.retentionGraceDays now) i) ∧
      ∀ i, row.incidentId = some i → ¬ s.IncidentPast (cutoff settings.retentionGraceDays now) i

/-! ## Counting -/

/-- A filter that another one implies counts as much as it on a list where the two agree. -/
theorem countP_eq_iff_of_imp {α : Type} {p q : α → Bool} (h : ∀ a, q a = true → p a = true)
    {l : List α} : l.countP q = l.countP p ↔ ∀ a ∈ l, p a = true → q a = true := by
  induction l with
  | nil => simp
  | cons a l ih =>
      have hle : l.countP q ≤ l.countP p := List.countP_mono_left (fun a _ => h a)
      rw [List.countP_cons, List.countP_cons, List.forall_mem_cons, ← ih]
      cases hp : p a with
      | false =>
          have hq : q a = false := by
            cases hq : q a with
            | false => rfl
            | true => rw [h a hq] at hp; cases hp
          simp [hq]
      | true =>
          cases hq : q a with
          | true => simp
          | false =>
              constructor
              · intro hcount
                simp only [Bool.false_eq_true, ↓reduceIte, Nat.add_zero] at hcount
                omega
              · intro hcontra
                cases hcontra.1 rfl

/-! ## One moment -/

section Moment

variable {settings : RetentionSettings} {now : Timestamp} {s : Store}

/-- What a purge archives now it does not delete now. -/
theorem graceOver_archived (hgrace : 0 ≤ settings.retentionGraceDays) (expired : Bool)
    (archivedAt : Option Timestamp) (harchived : expired = true → archivedAt = none) :
    graceOver (if expired then some now else archivedAt) (cutoff settings.retentionGraceDays now)
      = graceOver archivedAt (cutoff settings.retentionGraceDays now) := by
  cases hexpired : expired with
  | false => rfl
  | true =>
      rw [harchived hexpired, if_pos rfl]
      exact decide_eq_false (not_lt.mpr (cutoff_le hgrace))

theorem retentionOver_unarchived {closed : List String} {status : String}
    {archivedAt stampedAt : Option Timestamp} {createdAt stampedBefore createdBefore : Timestamp}
    (h : retentionOver closed status archivedAt stampedAt createdAt stampedBefore createdBefore
      = true) : archivedAt = none := by
  simp only [retentionOver, Bool.and_eq_true, Option.isNone_iff_eq_none] at h
  exact h.1.1

theorem alertOver_now (hgrace : 0 ≤ settings.retentionGraceDays) (row : AlertRow) :
    (moments settings (fun _ => now)).alertOver row
      = graceOver row.archivedAt (cutoff settings.retentionGraceDays now) := by
  have hunarchived : (moments settings (fun _ => now)).alertExpired row = true →
      row.archivedAt = none := fun h => retentionOver_unarchived h
  rw [← graceOver_archived hgrace _ row.archivedAt hunarchived]
  unfold Moments.alertOver Moments.alert
  refine congrArg (graceOver · _) ?_
  split <;> rfl

theorem incidentOver_now (hgrace : 0 ≤ settings.retentionGraceDays) (row : IncidentRow) :
    (moments settings (fun _ => now)).incidentOver row
      = graceOver row.archivedAt (cutoff settings.retentionGraceDays now) := by
  have hunarchived : (moments settings (fun _ => now)).incidentExpired row = true →
      row.archivedAt = none := fun h => retentionOver_unarchived h
  rw [← graceOver_archived hgrace _ row.archivedAt hunarchived]
  unfold Moments.incidentOver Moments.incident
  refine congrArg (graceOver · _) ?_
  split <;> rfl

theorem activityOver_now (hgrace : 0 ≤ settings.retentionGraceDays) (row : ActivityRow) :
    (moments settings (fun _ => now)).activityOver row
      = (graceOver row.archivedAt (cutoff settings.retentionGraceDays now)
        && decide (row.action ≠ retentionPurge)) := by
  have hunarchived : (moments settings (fun _ => now)).activityExpired row = true →
      row.archivedAt = none := by
    intro h
    obtain ⟨hage, -⟩ := Bool.and_eq_true_iff.mp h
    exact Option.isNone_iff_eq_none.mp (Bool.and_eq_true_iff.mp hage).1
  rw [← graceOver_archived hgrace _ row.archivedAt hunarchived]
  unfold Moments.activityOver Moments.activity
  refine congrArg (graceOver · _ && _) ?_
  split <;> rfl

/-- The alerts that a purge deletes are those past their grace period before it. -/
theorem deletesAlert_now (hgrace : 0 ≤ settings.retentionGraceDays) (i : Uuid) :
    s.deletesAlert (moments settings (fun _ => now)) i = true ↔
      s.AlertPast (cutoff settings.retentionGraceDays now) i := by
  rw [Store.deletesAlert, Store.AlertPast, funext (alertOver_now hgrace)]

theorem deletesIncident_now (hgrace : 0 ≤ settings.retentionGraceDays) (i : Uuid) :
    s.deletesIncident (moments settings (fun _ => now)) i = true ↔
      s.IncidentPast (cutoff settings.retentionGraceDays now) i := by
  rw [Store.deletesIncident, Store.IncidentPast, funext (incidentOver_now hgrace)]

theorem cascades_now (hgrace : 0 ≤ settings.retentionGraceDays) (row : ActivityRow) :
    s.cascades (moments settings (fun _ => now)) row = false ↔
      (∀ i, row.alertId = some i → ¬ s.AlertPast (cutoff settings.retentionGraceDays now) i) ∧
      ∀ i, row.incidentId = some i →
        ¬ s.IncidentPast (cutoff settings.retentionGraceDays now) i := by
  rw [Store.cascades, Bool.or_eq_false_iff, Option.any_eq_false, Option.any_eq_false]
  refine and_congr (forall_congr' fun i => forall_congr' fun _ => ?_)
    (forall_congr' fun i => forall_congr' fun _ => ?_)
  · rw [← deletesAlert_now hgrace, Bool.not_eq_true]
  · rw [← deletesIncident_now hgrace, Bool.not_eq_true]

/-! ## The two reports -/

variable {actorUsername : Option (Varchar 100)} {actorId : Option Uuid}

/-- The statement that archives activities counts as the dry run does. -/
theorem softDeleted_activities_iff :
    s.activities.countP (moments settings (fun _ => now)).activityExpired
      = s.activities.countP (·.expired (cutoff settings.activitiesRetentionDays now)) ↔
    ∀ row ∈ s.activities, row.action = retentionPurge →
      row.expired (cutoff settings.activitiesRetentionDays now) = false := by
  have hfilter : ∀ row : ActivityRow, (moments settings (fun _ => now)).activityExpired row = true →
      row.expired (cutoff settings.activitiesRetentionDays now) = true :=
    fun row h => (Bool.and_eq_true_iff.mp h).1
  rw [countP_eq_iff_of_imp hfilter]
  refine forall_congr' fun row => forall_congr' fun _ => ?_
  constructor
  · intro h haction
    by_contra hexpired
    obtain ⟨-, hother⟩ := Bool.and_eq_true_iff.mp (h (Bool.not_eq_false _ ▸ hexpired))
    exact of_decide_eq_true hother haction
  · intro h hexpired
    refine Bool.and_eq_true_iff.mpr ⟨hexpired, decide_eq_true (fun haction => ?_)⟩
    rw [h haction] at hexpired
    cases hexpired

/-- The statement that deletes activities counts as the dry run does. -/
theorem hardDeleted_activities_iff (hgrace : 0 ≤ settings.retentionGraceDays) :
    s.activities.countP (fun row => (moments settings (fun _ => now)).activityOver row
        && !s.cascades (moments settings (fun _ => now)) row)
      = s.activities.countP (fun row =>
        graceOver row.archivedAt (cutoff settings.retentionGraceDays now)) ↔
    ∀ row ∈ s.activities,
      graceOver row.archivedAt (cutoff settings.retentionGraceDays now) = true →
        row.action ≠ retentionPurge ∧
        (∀ i, row.alertId = some i → ¬ s.AlertPast (cutoff settings.retentionGraceDays now) i) ∧
        ∀ i, row.incidentId = some i →
          ¬ s.IncidentPast (cutoff settings.retentionGraceDays now) i := by
  simp only [activityOver_now hgrace]
  rw [countP_eq_iff_of_imp (fun row h =>
    (Bool.and_eq_true_iff.mp (Bool.and_eq_true_iff.mp h).1).1)]
  refine forall_congr' fun row => forall_congr' fun _ => forall_congr' fun hover => ?_
  rw [hover, Bool.true_and, Bool.and_eq_true_iff, Bool.not_eq_true', cascades_now hgrace,
    decide_eq_true_iff]

/-- Where the purge counts its candidates, a dry run reports them. -/
theorem runRetentionPurge_dry_of_reported {clock : Nat → Timestamp} {real : PurgeReport}
    (actorUsername : Option (Varchar 100)) (actorId : Option Uuid)
    (h : Reported settings clock s real) :
    ∃ dry, runRetentionPurge settings clock true actorUsername actorId s = .ok (s, dry) ∧
      dry.alerts.candidates = real.alerts.candidates ∧
      dry.incidents.candidates = real.incidents.candidates ∧
      dry.activities.candidates = real.activities.candidates := by
  have hdry : runRetentionPurge settings clock true actorUsername actorId s = .ok _ :=
    (bind_of_ok h.alertCandidates).trans ((bind_of_ok h.incidentCandidates).trans
      (bind_of_ok h.activityCandidates))
  exact ⟨_, hdry, rfl, rfl, rfl⟩

/-- What a purge that commits counts, against a dry run at the same moment. -/
theorem foretells_iff (hgrace : 0 ≤ settings.retentionGraceDays) {dry real : PurgeReport}
    (hreal : Reported settings (fun _ => now) s real)
    (halerts : dry.alerts.candidates = real.alerts.candidates)
    (hincidents : dry.incidents.candidates = real.incidents.candidates)
    (hactivities : dry.activities.candidates = real.activities.candidates) :
    (dry.alerts.Foretells real.alerts ∧ dry.incidents.Foretells real.incidents ∧
      dry.activities.Foretells real.activities) ↔
    (∀ row ∈ s.activities, row.action = retentionPurge →
        row.expired (cutoff settings.activitiesRetentionDays now) = false) ∧
      ∀ row ∈ s.activities,
        graceOver row.archivedAt (cutoff settings.retentionGraceDays now) = true →
          row.action ≠ retentionPurge ∧
          (∀ i, row.alertId = some i →
            ¬ s.AlertPast (cutoff settings.retentionGraceDays now) i) ∧
          ∀ i, row.incidentId = some i →
            ¬ s.IncidentPast (cutoff settings.retentionGraceDays now) i := by
  obtain ⟨-, -, -, halertCounts⟩ := alertCounts_eq_ok.mp hreal.alertCandidates
  obtain ⟨-, -, -, hincidentCounts⟩ := incidentCounts_eq_ok.mp hreal.incidentCandidates
  obtain ⟨-, -, hactivityCounts⟩ := activityCounts_eq_ok.mp hreal.activityCandidates
  have halertsAgree : dry.alerts.Foretells real.alerts := by
    rw [ResourceReport.Foretells, halerts, halertCounts, hreal.alerts,
      funext (alertOver_now hgrace)]
    rfl
  have hincidentsAgree : dry.incidents.Foretells real.incidents := by
    rw [ResourceReport.Foretells, hincidents, hincidentCounts, hreal.incidents,
      funext (incidentOver_now hgrace)]
    rfl
  rw [and_iff_right halertsAgree, and_iff_right hincidentsAgree, ResourceReport.Foretells,
    hactivities, hactivityCounts, hreal.activities, Option.some.injEq, Deleted.mk.injEq,
    softDeleted_activities_iff, hardDeleted_activities_iff hgrace]

theorem runsRelease_now (hgrace : 0 ≤ settings.retentionGraceDays) :
    s.RunsRelease (moments settings (fun _ => now)) ↔ ∀ run ∈ s.runs, ∀ i,
      run.alertId = some i → ¬ s.AlertPast (cutoff settings.retentionGraceDays now) i := by
  refine forall_congr' fun run => forall_congr' fun _ => forall_congr' fun i =>
    forall_congr' fun _ => ?_
  rw [← deletesAlert_now hgrace, Bool.not_eq_true]

/-- A dry run that was right. -/
theorem DryRunPredicts.predictable (hgrace : 0 ≤ settings.retentionGraceDays)
    (h : DryRunPredicts settings now actorUsername actorId s) : Predictable settings now s := by
  obtain ⟨dry, real, s', hdry, hreal, hforetells⟩ := h
  obtain ⟨hdates, hreleased, hreported, -⟩ := runRetentionPurge_purged hreal
  obtain ⟨dry', hdry', halerts, hincidents, hactivities⟩ :=
    runRetentionPurge_dry_of_reported actorUsername actorId hreported
  cases hdry.symm.trans hdry'
  obtain ⟨haudits, hages⟩ :=
    (foretells_iff hgrace hreported halerts hincidents hactivities).mp hforetells
  exact ⟨hdates, (runsRelease_now hgrace).mp hreleased, haudits, hages⟩

/-- A dry run that will be right. -/
theorem Predictable.dryRunPredicts (hgrace : 0 ≤ settings.retentionGraceDays)
    (h : Predictable settings now s) : DryRunPredicts settings now actorUsername actorId s := by
  obtain ⟨⟨s', real⟩, hreal⟩ := runRetentionPurge_commits actorUsername actorId h.datetimes
    ((runsRelease_now hgrace).mpr h.runs)
  obtain ⟨-, -, hreported, -⟩ := runRetentionPurge_purged hreal
  obtain ⟨dry, hdry, halerts, hincidents, hactivities⟩ :=
    runRetentionPurge_dry_of_reported actorUsername actorId hreported
  exact ⟨dry, real, s', hdry, hreal, (foretells_iff hgrace hreported halerts hincidents
    hactivities).mpr ⟨h.audits, h.activities⟩⟩

/-- **When a dry run tells what the purge will do.**  With a positive grace period and all
readings of the clock equal, a dry run and a purge of the same store report the same counts
exactly when every cutoff is a `datetime`, no playbook run refers to an alert past its grace
period, no activity of a purge is old enough to be archived, and no activity past its grace
period is of a purge or belongs to a record past its own. -/
theorem dry_run_predicts_iff (hgrace : 0 < settings.retentionGraceDays) :
    DryRunPredicts settings now actorUsername actorId s ↔ Predictable settings now s :=
  ⟨fun h => h.predictable hgrace.le, fun h => h.dryRunPredicts hgrace.le⟩

end Moment

/-- The alert is resolved and not archived yet. -/
def resolvedStore : Store := run (retentionStep .ascii .core) .empty leftAlone

theorem dry_run_predicts_of_resolvedStore :
    (resolvedStore.alerts.find? 1).any (fun row => row.expired
        (cutoff defaultSettings.alertsRetentionDays (onDay 739431))
        (cutoff defaultSettings.alertsRetentionDays (onDay 739431))) = true ∧
      DryRunPredicts defaultSettings (onDay 739431) none none resolvedStore := by
  have haudits : resolvedStore.activities.all (fun row => decide (row.action ≠ retentionPurge))
      = true := by decide +kernel
  have hunarchived : resolvedStore.activities.all (fun row => row.archivedAt.isNone) = true := by
    decide +kernel
  refine ⟨by decide +kernel, (dry_run_predicts_iff (by decide)).mpr
    ⟨datetimes_afterGrace, ?_, ?_, ?_⟩⟩
  · intro run hrun
    cases hrun
  · intro row hrow haction
    exact absurd haction (of_decide_eq_true (List.all_eq_true.mp haudits row hrow))
  · intro row hrow hover
    have hnone := List.all_eq_true.mp hunarchived row hrow
    rw [Option.isNone_iff_eq_none.mp hnone] at hover
    cases hover

/-! ## The trail of an old purge -/

/-- A purge of an empty store has left its row. -/
def oldAudit : Activity :=
  purgeAudit none none ⟨0, 0⟩ ⟨0, 0⟩ ⟨0, 0⟩
    ⟨false, 30, ⟨⟨0, 0⟩, some ⟨0, 0⟩⟩, ⟨⟨0, 0⟩, some ⟨0, 0⟩⟩, ⟨⟨0, 0⟩, some ⟨0, 0⟩⟩⟩

/-- A year after a purge, a dry run counts the row that it has left. -/
theorem dry_run_counts_an_old_purge :
    ¬ ∀ (settings : RetentionSettings) (now : Timestamp) (s : Store),
      0 < settings.retentionGraceDays → Datetimes settings (fun _ => now) → s.ForeignKeys →
      DryRunPredicts settings now none none s := by
  intro hclaim
  have hpredicts :=
    hclaim defaultSettings (onDay 739431) (Store.empty.audited (onDay 739000) oldAudit)
    (by decide) datetimes_afterGrace (by decide +kernel)
  have hexpired := (hpredicts.predictable (by decide)).audits _ (List.mem_singleton.mpr rfl) rfl
  exact absurd hexpired (by decide)

end OpenSoar
