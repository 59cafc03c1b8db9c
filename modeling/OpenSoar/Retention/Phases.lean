/-
# `OpenSoar.Retention.Phases` — a deletion and the purge that archived its record

Nothing but a purge writes `archived_at`, and a purge deletes by that column alone.  So,
from a store in which nothing is archived, whatever a purge deletes was archived by a
purge of the same run, whose filter it met then, and the grace period lies between the
stamp and the cutoff of the deletion (`deleted_after_grace`).  The rule comes from
`TwoPhase.swept_was_archived`, with `archived_at` for the stamp.

The stamp of a purge is its ninth reading of the clock and its cutoffs are later ones: a
purge deletes what it has archived itself when more than the grace period passes between
the two readings.
-/
import OpenSoar.Retention.System

namespace OpenSoar

open Python TwoPhase

/-! ## Archiving and deleting, seen from one purge -/

/-- The event is a purge that archives the alert, which meets its filter, at `archived`. -/
def ArchivesAlert (event : RetentionEvent) (row : AlertRow) (archived : Timestamp) : Prop :=
  match event.op with
  | .purge settings elapsed false _ _ =>
      archived = event.now + elapsed 8 ∧ ∃ resolvedBefore createdBefore,
        alertRetentionCutoff settings (event.now + elapsed 9) = .ok resolvedBefore ∧
        alertRetentionCutoff settings (event.now + elapsed 10) = .ok createdBefore ∧
        row.expired resolvedBefore createdBefore = true
  | _ => False

/-- The event is a purge that archives the incident. -/
def ArchivesIncident (event : RetentionEvent) (row : IncidentRow) (archived : Timestamp) :
    Prop :=
  match event.op with
  | .purge settings elapsed false _ _ =>
      archived = event.now + elapsed 8 ∧ ∃ closedBefore createdBefore,
        incidentRetentionCutoff settings (event.now + elapsed 11) = .ok closedBefore ∧
        incidentRetentionCutoff settings (event.now + elapsed 12) = .ok createdBefore ∧
        row.expired closedBefore createdBefore = true
  | _ => False

/-- The event is a purge that deletes what was archived at `archived`; `reading` is the
reading of the clock its cutoff is taken from. -/
def Sweeps (reading : Nat) (event : RetentionEvent) (archived : Timestamp) : Prop :=
  match event.op with
  | .purge settings elapsed false _ _ => ∃ archivedBefore,
      graceCutoff settings (event.now + elapsed reading) = .ok archivedBefore ∧
      archived < archivedBefore
  | _ => False

theorem graceOver_iff {archivedAt : Option Timestamp} {archivedBefore : Timestamp} :
    graceOver archivedAt archivedBefore = true ↔
      ∃ archived, archivedAt = some archived ∧ archived < archivedBefore := by
  cases archivedAt with
  | none => exact iff_of_false Bool.false_ne_true (fun ⟨_, h, _⟩ => nomatch h)
  | some archived => simp [graceOver]

/-- What is before a cutoff is the days older than the reading the cutoff is taken from. -/
theorem daysBefore_lt {days : Int} {now cutoff t : Timestamp} (h : daysBefore days now = .ok cutoff)
    (ht : t < cutoff) : (t : Int) + days * microsecondsPerDay < now := by
  simp only [daysBefore] at h
  split at h
  · cases h
    have hlt := Int.lt_toNat.mp ht
    omega
  · cases h

/-- One resource under a purge, with its stamps: the `selected` rows are stamped by `f`, then
the rows with a stamp past the grace period go. -/
theorem purged_stamped {α : Type} {stamp : α → Option Timestamp}
    {archives : α → Timestamp → Prop} {sweeps : Timestamp → Prop} (selected gone : α → Bool)
    (f : α → α) (now : Timestamp)
    (hselected : ∀ row, selected row = true → archives row now ∧ stamp (f row) = some now)
    (hgone : ∀ row, gone row = true → ∃ t, stamp row = some t ∧ sweeps t) (o : Option α) :
    Stamped stamp archives sweeps o
      ((o.map (fun row => if selected row then f row else row)).filter (fun row => !gone row)) := by
  refine purged_cases o .absent ?_ ?_ ?_ ?_
  · intro row hs _
    exact .archived (hselected row hs).1 (hselected row hs).2
  · intro row hs hg
    obtain ⟨harchives, hstamp⟩ := hselected row hs
    obtain ⟨t, ht, hsweeps⟩ := hgone (f row) hg
    cases hstamp.symm.trans ht
    exact .atOnce harchives hsweeps
  · intro row _ hg
    obtain ⟨t, ht, hsweeps⟩ := hgone row hg
    exact .swept ht hsweeps
  · intro row _ _
    exact .edited rfl

/-! ## One event, seen from one record -/

section Step

variable {py : PyText} {app : App} {s s' : Store}

theorem step_alert_stamped {event : RetentionEvent} (h : retentionStep py app s event = .ok s')
    (i : Uuid) : Stamped AlertRow.archivedAt (ArchivesAlert event) (Sweeps 14 event)
      (s.alerts.find? i) (s'.alerts.find? i) := by
  have hmove := step_alert_move h i
  generalize s.alerts.find? i = o at hmove ⊢
  generalize s'.alerts.find? i = o' at hmove ⊢
  cases hmove with
  | absent => exact .absent
  | created _ _ harchived => exact .added harchived
  | kept row => exact .kept (some row)
  | changed _ _ => exact .edited rfl
  | @purged _ elapsed _ _ _ _ _ _ hop hresolved hcreated hgrace =>
      refine purged_stamped _ _ _ (event.now + elapsed 8) ?_ ?_ _
      · intro row hexpired
        refine ⟨?_, rfl⟩
        rw [ArchivesAlert, hop]
        exact ⟨rfl, _, _, hresolved, hcreated, hexpired⟩
      · intro row hover
        obtain ⟨archived, harchived, hlt⟩ := graceOver_iff.mp hover
        refine ⟨archived, harchived, ?_⟩
        rw [Sweeps, hop]
        exact ⟨_, hgrace, hlt⟩

theorem step_incident_stamped {event : RetentionEvent}
    (h : retentionStep py app s event = .ok s') (i : Uuid) :
    Stamped IncidentRow.archivedAt (ArchivesIncident event) (Sweeps 15 event)
      (s.incidents.find? i) (s'.incidents.find? i) := by
  have hmove := step_incident_move h i
  generalize s.incidents.find? i = o at hmove ⊢
  generalize s'.incidents.find? i = o' at hmove ⊢
  cases hmove with
  | absent => exact .absent
  | created _ _ _ harchived => exact .added harchived
  | kept row => exact .kept (some row)
  | updated _ hupdated => exact .edited hupdated.archivedAt
  | @purged _ elapsed _ _ _ _ _ _ hop hclosed hcreated hgrace =>
      refine purged_stamped _ _ _ (event.now + elapsed 8) ?_ ?_ _
      · intro row hexpired
        refine ⟨?_, rfl⟩
        rw [ArchivesIncident, hop]
        exact ⟨rfl, _, _, hclosed, hcreated, hexpired⟩
      · intro row hover
        obtain ⟨archived, harchived, hlt⟩ := graceOver_iff.mp hover
        refine ⟨archived, harchived, ?_⟩
        rw [Sweeps, hop]
        exact ⟨_, hgrace, hlt⟩

end Step

/-! ## What a purge deletes -/

/-- Nothing is archived. -/
structure NothingArchived (s : Store) : Prop where
  alerts : ∀ i row, s.alerts.find? i = some row → row.archivedAt = none
  incidents : ∀ i row, s.incidents.find? i = some row → row.archivedAt = none

/-- Whatever the operation removes, it removes as a purge, more than the grace period after
the stamp; an operation `before` archived the record with that stamp, or the purge itself
did, with more than the grace period between its two readings of the clock. -/
def DeletesAfterGrace {α : Type} (look : Store → Uuid → Option α)
    (archivedAt : α → Option Timestamp) (Archives : RetentionEvent → α → Timestamp → Prop)
    (reading : Nat) (before : List (Accepted Store RetentionEvent))
    (x : Accepted Store RetentionEvent) : Prop :=
  ∀ i row, look x.before i = some row → look x.after i = none →
    ∃ settings elapsed actorUsername actorId, ∃ archived : Timestamp,
      x.op.op = .purge settings elapsed false actorUsername actorId ∧
      (archived : Int) + settings.retentionGraceDays * microsecondsPerDay
        < (x.op.now + elapsed reading : Nat) ∧
      ((archivedAt row = some archived ∧ ArchivedIn look Archives before i archived) ∨
        (Archives x.op row archived ∧
          settings.retentionGraceDays * microsecondsPerDay
            < (elapsed reading : Int) - elapsed 8))

/-- One resource of a run in which only archiving sets a stamp. -/
theorem deletesAfterGrace {α : Type} {look : Store → Uuid → Option α}
    {archivedAt : α → Option Timestamp} {Archives : RetentionEvent → α → Timestamp → Prop}
    {reading : Nat} {py : PyText} {app : App}
    (harchives : ∀ event row archived, Archives event row archived →
      ∀ settings elapsed actorUsername actorId,
        event.op = .purge settings elapsed false actorUsername actorId →
        archived = event.now + elapsed 8)
    (hfate : ∀ s event s', retentionStep py app s event = .ok s' → ∀ i,
      Stamped archivedAt (Archives event) (Sweeps reading event) (look s i) (look s' i))
    {s : Store} (hs : ∀ i row, look s i = some row → archivedAt row = none)
    {es : List RetentionEvent} {before after : List (Accepted Store RetentionEvent)}
    {x : Accepted Store RetentionEvent}
    (h : trace (retentionStep py app) s es = before ++ x :: after) :
    DeletesAfterGrace look archivedAt Archives reading before x := by
  intro i row hbefore hafter
  obtain ⟨archived, hsweeps, hwhen⟩ := swept_was_archived look hfate hs h hbefore hafter
  unfold Sweeps at hsweeps
  split at hsweeps
  · rename_i settings elapsed actorUsername actorId hop
    obtain ⟨archivedBefore, hgrace, hlt⟩ := hsweeps
    have hover := daysBefore_lt hgrace hlt
    refine ⟨settings, elapsed, actorUsername, actorId, archived, hop, hover, ?_⟩
    refine hwhen.imp_right (fun hself => ⟨hself, ?_⟩)
    have hstamp := harchives x.op row archived hself settings elapsed actorUsername actorId hop
    rw [hstamp] at hover
    omega
  · exact hsweeps.elim

theorem archivesAlert_at {event : RetentionEvent} {row : AlertRow} {archived : Timestamp}
    (h : ArchivesAlert event row archived) (settings : RetentionSettings) (elapsed : Nat → Nat)
    (actorUsername : Option (Varchar 100)) (actorId : Option Uuid)
    (hop : event.op = .purge settings elapsed false actorUsername actorId) :
    archived = event.now + elapsed 8 := by
  rw [ArchivesAlert, hop] at h
  exact h.1

theorem archivesIncident_at {event : RetentionEvent} {row : IncidentRow} {archived : Timestamp}
    (h : ArchivesIncident event row archived) (settings : RetentionSettings)
    (elapsed : Nat → Nat) (actorUsername : Option (Varchar 100)) (actorId : Option Uuid)
    (hop : event.op = .purge settings elapsed false actorUsername actorId) :
    archived = event.now + elapsed 8 := by
  rw [ArchivesIncident, hop] at h
  exact h.1

/-- **A deletion comes after the archiving and the grace period.**  In every run from a store
in which nothing is archived, every alert and every incident that an operation removes was
archived by a purge of the run, whose filter it met then, more than the grace period
before; and a dry run changes nothing. -/
theorem deleted_after_grace {py : PyText} {app : App} {s : Store} (hs : NothingArchived s)
    (es : List RetentionEvent) :
    (∀ before x after, trace (retentionStep py app) s es = before ++ x :: after →
      DeletesAfterGrace (fun s i => s.alerts.find? i) AlertRow.archivedAt ArchivesAlert 14
          before x ∧
        DeletesAfterGrace (fun s i => s.incidents.find? i) IncidentRow.archivedAt
          ArchivesIncident 15 before x) ∧
    ∀ now settings elapsed actorUsername actorId s',
      retentionStep py app (run (retentionStep py app) s es)
        ⟨now, .purge settings elapsed true actorUsername actorId⟩ = .ok s' →
      s' = run (retentionStep py app) s es := by
  constructor
  · intro before x after h
    exact ⟨deletesAfterGrace (fun _ _ _ => archivesAlert_at)
        (fun _ _ _ hstep i => step_alert_stamped hstep i) hs.alerts h,
      deletesAfterGrace (fun _ _ _ => archivesIncident_at)
        (fun _ _ _ hstep i => step_incident_stamped hstep i) hs.incidents h⟩
  · intro now settings elapsed actorUsername actorId s' h
    obtain ⟨result, hresult, rfl⟩ := map_ok (mapError_ok h)
    exact runRetentionPurge_dry hresult

theorem nothingArchived_empty : NothingArchived .empty where
  alerts _ _ h := nomatch h
  incidents _ _ h := nomatch h

theorem deleted_after_grace_of_resolvedAlert :
    ((run (retentionStep .ascii .core) .empty resolvedAlert).alerts.find? 1).isNone = true ∧
      ∀ before x after, trace (retentionStep .ascii .core) .empty resolvedAlert
          = before ++ x :: after →
        DeletesAfterGrace (fun s i => s.alerts.find? i) AlertRow.archivedAt ArchivesAlert 14
            before x ∧
          DeletesAfterGrace (fun s i => s.incidents.find? i) IncidentRow.archivedAt
            ArchivesIncident 15 before x :=
  ⟨by decide +kernel, (deleted_after_grace nothingArchived_empty resolvedAlert).1⟩

/-- What the clock says at the readings of an event. -/
def RetentionEvent.reading (event : RetentionEvent) (k : Nat) : Timestamp :=
  match event.op with
  | .purge _ elapsed _ _ _ => event.now + elapsed k
  | _ => event.now

/-- The clock never goes back, from event to event and within a purge. -/
def MonotoneClock (es : List RetentionEvent) : Prop :=
  (∀ event ∈ es, Monotone event.reading) ∧
    es.Pairwise (fun event later => ∀ k, event.reading k ≤ later.now)

/-- A purge that waits a month after its stamp, behind a lock for instance. -/
def stalledPurge : RetentionEvent :=
  ⟨onDay 739400, .purge defaultSettings (fun k => if k ≤ 8 then 0 else 31 * microsecondsPerDay)
    false none none⟩

/-- The alert is resolved and left alone for a year. -/
def leftAlone : List RetentionEvent :=
  [⟨onDay 739000, .alerts (.processWebhook loginFailure)⟩, patched 739001 "resolved" "malicious"]

theorem monotone_stalledPurge : Monotone stalledPurge.reading := by
  intro k l hkl
  simp only [RetentionEvent.reading, stalledPurge]
  split
  · exact Nat.add_le_add_left (Nat.zero_le _) _
  · rw [if_neg (by omega)]

theorem reading_leftAlone {event : RetentionEvent} (h : event ∈ leftAlone) (k : Nat) :
    event.reading k = event.now := by
  simp only [leftAlone, List.mem_cons, List.not_mem_nil, or_false] at h
  rcases h with rfl | rfl <;> rfl

theorem monotone_leftAlone : MonotoneClock (leftAlone ++ [stalledPurge]) := by
  have hdays : (leftAlone ++ [stalledPurge]).Pairwise (fun event later =>
      event.now ≤ later.now) := by decide
  obtain ⟨hleft, -, hlast⟩ := List.pairwise_append.mp hdays
  constructor
  · intro event hevent
    rcases List.mem_append.mp hevent with hevent | hevent
    · intro k l _
      rw [reading_leftAlone hevent, reading_leftAlone hevent]
    · rw [List.mem_singleton.mp hevent]
      exact monotone_stalledPurge
  · refine List.pairwise_append.mpr ⟨?_, List.pairwise_singleton _ _, ?_⟩
    · refine hleft.imp_of_mem (fun hevent _ hle k => ?_)
      rw [reading_leftAlone hevent]
      exact hle
    · intro event hevent later hlater k
      rw [reading_leftAlone hevent]
      exact hlast event hevent later hlater

/-- A stalled purge deletes an alert that no earlier one has archived, with a grace period
of thirty days. -/
theorem stalled_purge_deletes_at_once :
    ¬ ∀ (s : Store) (es : List RetentionEvent), NothingArchived s → MonotoneClock es →
      ∀ before x after, trace (retentionStep .ascii .core) s es = before ++ x :: after →
        ∀ settings elapsed actorUsername actorId,
          x.op.op = .purge settings elapsed false actorUsername actorId →
          0 < settings.retentionGraceDays →
          ∀ i row, x.before.alerts.find? i = some row → x.after.alerts.find? i = none →
            ∃ archived, row.archivedAt = some archived ∧
              ArchivedIn (fun s i => s.alerts.find? i) ArchivesAlert before i archived := by
  intro hclaim
  have hbefore : ((run (retentionStep .ascii .core) .empty leftAlone).alerts.find? 1).map
      (·.archivedAt) = some none := by decide +kernel
  have hafter : (retentionStep .ascii .core (run (retentionStep .ascii .core) .empty leftAlone)
      stalledPurge).map (fun s => (s.alerts.find? 1).isNone) = .ok true := by decide +kernel
  obtain ⟨s', hstep, hgone⟩ := map_ok hafter
  obtain ⟨row, hrow, harchivedAt⟩ := Option.map_eq_some_iff.mp hbefore
  obtain ⟨before, after, hsplit⟩ := List.append_of_mem
    (mem_trace_of_step (retentionStep .ascii .core) hstep)
  obtain ⟨archived, hstamp, -⟩ := hclaim .empty (leftAlone ++ [stalledPurge])
    nothingArchived_empty monotone_leftAlone before _ after hsplit defaultSettings _ none none rfl
    (by decide) 1 row hrow (Option.isNone_iff_eq_none.mp hgone)
  rw [harchivedAt] at hstamp
  cases hstamp

end OpenSoar
