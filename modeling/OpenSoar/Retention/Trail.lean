/-
# `OpenSoar.Retention.Trail` — how activities leave the database

The audit trail under every operation that writes it: the operations of the retention
system, the deletion of one alert, and any other request that records an activity
(`TrailOp.record`).  Activities are never changed but by the purge, which archives them by
their age.

A purge removes an activity in two ways.  Its own statements remove it when it was
archived, by this purge or an earlier one, at its own age and more than the grace period
before; they pass over the rows of the purge.  And the foreign keys remove it with the alert
or the incident it belongs to, whatever its age (`ON DELETE CASCADE`).  There is no third
way (`activity_removed_by_age_or_with_its_record`).  The rows that a purge writes belong to no
record, so nothing ever removes them.
-/
import OpenSoar.Retention.References

namespace OpenSoar

open Python

/-! ## The system -/

inductive TrailOp where
  | retention (op : RetentionOp)
  | deleteAlert (alertId : Uuid) (caller : Option Analyst)
  | record (activity : Activity)

structure TrailEvent where
  now : Timestamp
  op : TrailOp

/-- One event on the store. -/
def trailStep (py : PyText) (app : App) (s : Store) (event : TrailEvent) :
    Except RetentionRaised Store :=
  match event.op with
  | .retention op => retentionStep py app s ⟨event.now, op⟩
  | .deleteAlert alertId caller => deleteAlert app alertId caller s
  | .record activity => .ok (s.audited event.now activity)

/-- What an event can do to the activities. -/
inductive TrailMove (event : TrailEvent) (s s' : Store) : Prop
  | appended (added : List Activity) :
      s'.activities = s.activities ++ added.map (newActivity event.now) → TrailMove event s s'
  | withAlert (gone : ActivityRow → Bool) :
      s'.activities = s.activities.filter (fun row => !gone row) → TrailMove event s s'
  | purged (settings : RetentionSettings) (elapsed : Nat → Nat)
      (actorUsername : Option (Varchar 100)) (actorId : Option Uuid) (m : Moments)
      (audit : Activity) :
      event.op = .retention (.purge settings elapsed false actorUsername actorId) →
      m = moments settings (fun k => event.now + elapsed k) →
      s' = (s.purged m).audited (event.now + elapsed 17) audit →
      audit.action = retentionPurge → audit.alertId = none → audit.incidentId = none →
      TrailMove event s s'

theorem Store.activities_absorb (s : Store) (now : Timestamp) (db : Db) :
    ∃ added : List Activity,
      (s.absorb now db).activities = s.activities ++ added.map (newActivity now) :=
  ⟨db.activities.drop s.activities.length, rfl⟩

theorem trailStep_purge {py : PyText} {app : App} {s s' : Store} {event : TrailEvent}
    {settings : RetentionSettings} {elapsed : Nat → Nat} {dryRun : Bool}
    {actorUsername : Option (Varchar 100)} {actorId : Option Uuid}
    (hop : event.op = .retention (.purge settings elapsed dryRun actorUsername actorId))
    (h : trailStep py app s event = .ok s') :
    ∃ report, runRetentionPurge settings (fun k => event.now + elapsed k) dryRun actorUsername
      actorId s = .ok (s', report) := by
  obtain ⟨now, op⟩ := event
  cases hop
  obtain ⟨⟨_, report⟩, hresult, rfl⟩ := map_ok (mapError_ok h)
  exact ⟨report, hresult⟩

/-- **Every accepted event, seen from the activities.** -/
theorem trailStep_move {py : PyText} {app : App} {s s' : Store} {event : TrailEvent}
    (h : trailStep py app s event = .ok s') : TrailMove event s s' := by
  obtain ⟨now, op⟩ := event
  cases op with
  | retention op =>
      cases op with
      | alerts op =>
          obtain ⟨db, -, rfl⟩ := Store.lift_ok (mapError_ok h)
          obtain ⟨added, hadded⟩ := s.activities_absorb now db
          exact .appended added hadded
      | createIncident _ _ _ =>
          obtain ⟨db, -, rfl⟩ := Store.lift_ok (mapError_ok h)
          obtain ⟨added, hadded⟩ := s.activities_absorb now db
          exact .appended added hadded
      | updateIncident _ _ _ =>
          obtain ⟨⟨s'', new⟩, hresult, rfl⟩ := map_ok (mapError_ok h)
          obtain ⟨_, activities, -, -, rfl⟩ := updateIncident_ok hresult
          exact .appended activities rfl
      | purge settings elapsed dryRun actorUsername actorId =>
          obtain ⟨report, hresult⟩ := trailStep_purge rfl h
          cases dryRun with
          | true =>
              rw [runRetentionPurge_dry hresult]
              exact .appended [] (List.append_nil _).symm
          | false =>
              obtain ⟨-, -, -, _, _, _, hs'⟩ := runRetentionPurge_purged hresult
              exact .purged settings elapsed actorUsername actorId _ _ rfl rfl hs' rfl rfl rfl
  | deleteAlert alertId caller =>
      obtain ⟨-, -, rfl⟩ := deleteAlert_eq_ok.mp h
      exact .withAlert _ rfl
  | record activity =>
      cases h
      exact .appended [activity] rfl

/-! ## The stamps of the trail -/

/-- The event is a purge that archives the activity, which is past its own retention
period, at `archived`. -/
def ArchivesActivity (event : TrailEvent) (row : ActivityRow) (archived : Timestamp) : Prop :=
  match event.op with
  | .retention (.purge settings elapsed false _ _) =>
      archived = event.now + elapsed 8 ∧ row.action ≠ retentionPurge ∧
        (row.createdAt : Int) + settings.activitiesRetentionDays * microsecondsPerDay
          < (event.now + elapsed 13 : Nat)
  | _ => False

/-- A stamp on an activity was set by a purge of the past. -/
def TrailArchived (past : List (Accepted Store TrailEvent)) (s : Store) : Prop :=
  ∀ row ∈ s.activities, ∀ archived, row.archivedAt = some archived →
    ∃ x ∈ past, ArchivesActivity x.op row archived

theorem cutoff_lt {days : Int} {now t : Timestamp} (h : t < cutoff days now) :
    (t : Int) + days * microsecondsPerDay < now := by
  have hlt := Int.lt_toNat.mp h
  omega

/-- The row after the statement that archives, if it was not archived before. -/
theorem Moments.activity_stamped {settings : RetentionSettings} {event : TrailEvent}
    {elapsed : Nat → Nat} {actorUsername : Option (Varchar 100)} {actorId : Option Uuid}
    (hop : event.op = .retention (.purge settings elapsed false actorUsername actorId))
    (row : ActivityRow) (archived : Timestamp)
    (h : ((moments settings (fun k => event.now + elapsed k)).activity row).archivedAt
      = some archived) :
    row.archivedAt = some archived ∨ ArchivesActivity event row archived := by
  unfold activity at h
  split at h
  · rename_i hexpired
    refine Or.inr ?_
    obtain ⟨hage, haction⟩ := Bool.and_eq_true_iff.mp hexpired
    obtain ⟨-, hage⟩ := Bool.and_eq_true_iff.mp hage
    rw [ArchivesActivity, hop]
    exact ⟨(Option.some.inj h).symm, of_decide_eq_true haction, cutoff_lt (of_decide_eq_true hage)⟩
  · exact Or.inl h

theorem ArchivesActivity.of_activity {event : TrailEvent} {m : Moments} {row : ActivityRow}
    {archived : Timestamp} (h : ArchivesActivity event row archived) :
    ArchivesActivity event (m.activity row) archived := by
  unfold Moments.activity
  split <;> exact h

/-- One more event keeps the account of the stamps. -/
theorem trailStep_archived {py : PyText} {app : App} {past : List (Accepted Store TrailEvent)}
    {s s' : Store} {event : TrailEvent} (hpast : TrailArchived past s)
    (h : trailStep py app s event = .ok s') : TrailArchived (past ++ [⟨s, event, s'⟩]) s' := by
  have hold : ∀ row ∈ s.activities, ∀ archived, row.archivedAt = some archived →
      ∃ x ∈ past ++ [⟨s, event, s'⟩], ArchivesActivity x.op row archived := by
    intro row hrow archived hstamp
    obtain ⟨x, hx, harchives⟩ := hpast row hrow archived hstamp
    exact ⟨x, List.mem_append_left _ hx, harchives⟩
  intro row hrow archived hstamp
  cases trailStep_move h with
  | appended added hadded =>
      rw [hadded, List.mem_append] at hrow
      rcases hrow with hrow | hrow
      · exact hold row hrow archived hstamp
      · obtain ⟨_, -, rfl⟩ := List.mem_map.mp hrow
        cases hstamp
  | withAlert gone hgone =>
      rw [hgone] at hrow
      exact hold row (List.mem_of_mem_filter hrow) archived hstamp
  | purged settings elapsed actorUsername actorId m audit hop hm hs' _ _ _ =>
      subst hm
      rw [hs', Store.audited, Store.activities_purged, List.mem_append] at hrow
      rcases hrow with hrow | hrow
      · obtain ⟨row, hmem, rfl⟩ := List.mem_map.mp hrow
        rcases Moments.activity_stamped hop row archived hstamp with hbefore | harchives
        · obtain ⟨x, hx, harchives⟩ :=
            hold row (List.mem_of_mem_filter hmem) archived hbefore
          exact ⟨x, hx, harchives.of_activity⟩
        · exact ⟨⟨s, event, s'⟩, List.mem_append_right _ (List.mem_singleton.mpr rfl),
            harchives.of_activity⟩
      · rw [List.mem_singleton.mp hrow] at hstamp
        cases hstamp

/-! ## What a purge removes from the trail -/

/-- The record that the activity belongs to is there before and not after. -/
def GoesWithRecord (s s' : Store) (row : ActivityRow) : Prop :=
  (∃ alertId, row.alertId = some alertId ∧ s.HasAlert alertId ∧ ¬ s'.HasAlert alertId) ∨
    ∃ incidentId, row.incidentId = some incidentId ∧ s.HasIncident incidentId ∧
      ¬ s'.HasIncident incidentId

/-- The activity is removed by its own age: it is not of a purge, and it was archived, past
its retention period, more than the grace period before. -/
def RemovedByAge (before : List (Accepted Store TrailEvent)) (event : TrailEvent)
    (settings : RetentionSettings) (elapsed : Nat → Nat) (row : ActivityRow) : Prop :=
  row.action ≠ retentionPurge ∧ ∃ archived : Timestamp,
    (archived : Int) + settings.retentionGraceDays * microsecondsPerDay
      < (event.now + elapsed 16 : Nat) ∧
    ((row.archivedAt = some archived ∧ ∃ y ∈ before, ArchivesActivity y.op row archived) ∨
      ArchivesActivity event row archived)

/-- A purge takes the activities it removes out of the trail, archives others and appends its
own; each one it removes goes with its record or by its own age. -/
def RemovesByAgeOrWithRecord (before : List (Accepted Store TrailEvent))
    (x : Accepted Store TrailEvent) : Prop :=
  ∀ settings elapsed actorUsername actorId,
    x.op.op = .retention (.purge settings elapsed false actorUsername actorId) →
    ∃ (removed : ActivityRow → Bool) (audit : Activity),
      x.after.activities = (x.before.activities.filter (fun row => !removed row)).map
          (moments settings (fun k => x.op.now + elapsed k)).activity
        ++ [newActivity (x.op.now + elapsed 17) audit] ∧
      (audit.action = retentionPurge ∧ audit.alertId = none ∧ audit.incidentId = none) ∧
      (∀ row ∈ x.before.activities, removed row = true →
        GoesWithRecord x.before x.after row ∨
          RemovedByAge before x.op settings elapsed row) ∧
      ∀ row ∈ x.before.activities, row.action = retentionPurge → row.alertId = none →
        row.incidentId = none → removed row = false

/-- The alerts after a purge. -/
theorem Store.find?_purged_alerts (s : Store) (m : Moments) (i : Uuid) :
    (s.purged m).alerts.find? i = ((s.alerts.find? i).map m.alert).filter
      (fun row => !graceOver row.archivedAt m.alertArchivedBefore) := by
  show ((s.archived m).alerts.filter _).find? i = _
  rw [Table.find?_filter, find?_archived_alerts]

theorem Store.find?_purged_incidents (s : Store) (m : Moments) (i : Uuid) :
    (s.purged m).incidents.find? i = ((s.incidents.find? i).map m.incident).filter
      (fun row => !graceOver row.archivedAt m.incidentArchivedBefore) := by
  show ((s.archived m).incidents.filter _).find? i = _
  rw [Table.find?_filter, find?_archived_incidents]

theorem Store.gone_of_deletesAlert {s : Store} {m : Moments} {i : Uuid}
    (h : s.deletesAlert m i = true) : s.HasAlert i ∧ ¬ (s.purged m).HasAlert i := by
  obtain ⟨row, hfind, hover⟩ := (Option.any_eq_true _ _).mp h
  constructor
  · rw [HasAlert, hfind]
    rfl
  · rw [HasAlert, find?_purged_alerts, hfind, Option.map_some,
      Option.filter_some_neg (by
        show (!m.alertOver row) = false
        rw [hover]
        rfl)]
    exact Bool.false_ne_true

theorem Store.gone_of_deletesIncident {s : Store} {m : Moments} {i : Uuid}
    (h : s.deletesIncident m i = true) : s.HasIncident i ∧ ¬ (s.purged m).HasIncident i := by
  obtain ⟨row, hfind, hover⟩ := (Option.any_eq_true _ _).mp h
  constructor
  · rw [HasIncident, hfind]
    rfl
  · rw [HasIncident, find?_purged_incidents, hfind, Option.map_some,
      Option.filter_some_neg (by
        show (!m.incidentOver row) = false
        rw [hover]
        rfl)]
    exact Bool.false_ne_true

/-- An activity that goes with a record belongs to one that the purge deletes. -/
theorem Store.goesWithRecord_of_cascades {s : Store} {m : Moments} {now : Timestamp}
    {audit : Activity} {row : ActivityRow} (h : s.cascades m row = true) :
    GoesWithRecord s ((s.purged m).audited now audit) row := by
  rcases Bool.or_eq_true_iff.mp h with h | h
  · obtain ⟨alertId, halert, hdeletes⟩ := (Option.any_eq_true _ _).mp h
    exact Or.inl ⟨alertId, halert, Store.gone_of_deletesAlert hdeletes⟩
  · obtain ⟨incidentId, hincident, hdeletes⟩ := (Option.any_eq_true _ _).mp h
    exact Or.inr ⟨incidentId, hincident, Store.gone_of_deletesIncident hdeletes⟩

/-- **Activities leave by their own age, or with their record.**  In every run from a store
in which no activity is archived, each activity that a purge removes belonged to an alert or
an incident that the purge deletes, or was archived by a purge that found it past its own
retention period, more than the grace period before; the rows of the purges are never
removed. -/
theorem activity_removed_by_age_or_with_its_record {py : PyText} {app : App} {s : Store}
    (hs : ∀ row ∈ s.activities, row.archivedAt = none) (es : List TrailEvent) :
    ∀ before x after, trace (trailStep py app) s es = before ++ x :: after →
      RemovesByAgeOrWithRecord before x := by
  intro before x after h settings elapsed actorUsername actorId hop
  have hpast : TrailArchived before x.before :=
    trace_history (trailStep py app) (I := TrailArchived)
      (fun _ _ _ _ hpast hstep => trailStep_archived hpast hstep)
      (fun row hrow archived hstamp => by rw [hs row hrow] at hstamp; cases hstamp) h
  obtain ⟨report, hresult⟩ := trailStep_purge hop (step_of_mem_trace (trailStep py app)
    (by rw [h]; exact List.mem_append_right _ List.mem_cons_self))
  obtain ⟨-, -, -, alerts, incidents, activities, hafter⟩ := runRetentionPurge_purged hresult
  rw [hafter]
  refine ⟨fun row =>
      x.before.cascades (moments settings (fun k => x.op.now + elapsed k)) row ||
        (moments settings (fun k => x.op.now + elapsed k)).activityOver row,
    purgeAudit actorUsername actorId alerts incidents activities report, ?_,
    ⟨rfl, rfl, rfl⟩, ?_, ?_⟩
  · exact congrArg (· ++ _) (Store.activities_purged _ _)
  · intro row hrow hremoved
    refine (Bool.or_eq_true_iff.mp hremoved).imp Store.goesWithRecord_of_cascades ?_
    intro hover
    obtain ⟨hgrace, haction⟩ := Bool.and_eq_true_iff.mp hover
    obtain ⟨archived, hstamp, hlt⟩ := graceOver_iff.mp hgrace
    refine ⟨?_, archived, cutoff_lt hlt, ?_⟩
    · exact of_decide_eq_true haction
    · rcases Moments.activity_stamped hop row archived hstamp with hbefore | harchives
      · exact Or.inl ⟨hbefore, hpast row hrow archived hbefore⟩
      · exact Or.inr harchives
  · intro row _ haction halert hincident
    show (row.alertId.any _ || row.incidentId.any _ || (_ && decide _)) = false
    rw [halert, hincident, haction]
    simp

/-! ## A young activity of an old alert -/

/-- Activities are kept for ten years. -/
def longTrail : RetentionSettings := ⟨365, 730, 3650, 30⟩

def RetentionEvent.onTrail (event : RetentionEvent) : TrailEvent :=
  ⟨event.now, .retention event.op⟩

def purgedLong (day : Nat) : TrailEvent :=
  ⟨onDay day, .retention (.purge longTrail (fun _ => 0) false none none)⟩

/-- The alert is resolved and archived a year later. -/
def archivedAlert : List TrailEvent := leftAlone.map RetentionEvent.onTrail ++ [purgedLong 739400]

theorem activity_removed_of_archivedAlert :
    (run (trailStep .ascii .core) .empty (archivedAlert ++ [purgedLong 739431])).activities.length
        = 2 ∧
      ∀ before x after, trace (trailStep .ascii .core) .empty (archivedAlert ++ [purgedLong 739431])
          = before ++ x :: after → RemovesByAgeOrWithRecord before x := by
  refine ⟨by decide +kernel, activity_removed_by_age_or_with_its_record ?_ _⟩
  intro row hrow
  cases hrow

theorem tenYears_lt : ¬ ((onDay 739001 : Int) +
    longTrail.activitiesRetentionDays * microsecondsPerDay ≤ (onDay 739431 : Nat)) := by
  simp only [onDay, longTrail, microsecondsPerDay]
  omega

/-- An activity is removed with its alert when it is little more than a year old. -/
theorem young_activity_goes_with_its_alert :
    ¬ ∀ (es : List TrailEvent) (now : Timestamp) (settings : RetentionSettings) (s' : Store),
      trailStep .ascii .core (run (trailStep .ascii .core) .empty es)
        ⟨now, .retention (.purge settings (fun _ => 0) false none none)⟩ = .ok s' →
      ∀ row ∈ (run (trailStep .ascii .core) .empty es).activities,
        (∀ row' ∈ s'.activities, row'.createdAt ≠ row.createdAt) →
        (row.createdAt : Int) + settings.activitiesRetentionDays * microsecondsPerDay ≤ now := by
  intro hclaim
  have hbefore : (run (trailStep .ascii .core) .empty archivedAlert).activities.any
      (fun row => decide (row.createdAt = onDay 739001)) = true := by decide +kernel
  have hafter : (trailStep .ascii .core (run (trailStep .ascii .core) .empty archivedAlert)
      (purgedLong 739431)).map (fun s => s.activities.all
        (fun row => decide (row.createdAt ≠ onDay 739001))) = .ok true := by decide +kernel
  obtain ⟨s', hstep, hgone⟩ := map_ok hafter
  obtain ⟨row, hrow, hcreated⟩ := List.any_eq_true.mp hbefore
  have hcreated := of_decide_eq_true hcreated
  have hkept := hclaim archivedAlert (onDay 739431) longTrail s' hstep row hrow (by
    intro row' hrow'
    rw [hcreated]
    exact of_decide_eq_true (List.all_eq_true.mp hgone row' hrow'))
  rw [hcreated] at hkept
  exact tenYears_lt hkept

end OpenSoar
