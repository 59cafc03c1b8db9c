/-
# `OpenSoar.Retention.Clock` — how long a record has been closed when it is archived

A purge dates a closed record by `resolved_at` or `closed_at`, or by its creation where
that column is empty.  The date is the moment at which the record was closed as long as
every request that closes it stamps it then.  Some do not (`Backdates`): an alert that is
resolved again keeps its first stamp, the status `closed` stamps no alert, and the status
`resolved` takes the stamp off an incident.

In every run without such a request, a record that a purge archives was closed for the
whole of its retention period before (`archived_in_time`); the ghost is the time of the
last event that closed it (`lastRise`).
-/
import OpenSoar.Retention.Phases

namespace OpenSoar

open Python TwoPhase

/-! ## The date of a record -/

/-- The column the purge looks at first, or the one it falls back on. -/
def AlertRow.dated (row : AlertRow) : Timestamp := row.resolvedAt.getD row.createdAt

def IncidentRow.dated (row : IncidentRow) : Timestamp := row.closedAt.getD row.createdAt

instance (row : AlertRow) : Decidable row.Closed :=
  inferInstanceAs (Decidable (row.status.val ∈ resolvedAlertStatuses))

instance (row : IncidentRow) : Decidable row.Closed :=
  inferInstanceAs (Decidable (row.status.val ∈ closedIncidentStatuses))

/-- The record under this key is closed. -/
def Store.alertClosed (i : Uuid) (s : Store) : Bool :=
  (s.alerts.find? i).any (fun row => decide row.Closed)

def Store.incidentClosed (i : Uuid) (s : Store) : Bool :=
  (s.incidents.find? i).any (fun row => decide row.Closed)

/-! ## Who backdates -/

/-- The operation gives the alert this status. -/
def GivesAlertStatus (op : AlertOp) (i : Uuid) (status : String) : Prop :=
  match op with
  | .updateAlert alertId update _ => alertId = i ∧ update.status = some (some status)
  | .updateCurrentAlert ctx args => ctx = some i ∧ args.status = some status
  | .resolveCurrentAlert ctx _ => ctx = some i ∧ status = "resolved"
  | _ => False

/-- The date of an alert, created at `createdAt`, that is given a closed status now. -/
def closingDate (now createdAt : Timestamp) (alert : Alert) (status : String) : Timestamp :=
  alert.resolvedAt.getD (if status = "resolved" then now else createdAt)

/-- A request closes an alert or an incident and leaves it with an earlier date, or takes the
stamp off a closed incident that is older than the request. -/
def Backdates (s : Store) (event : RetentionEvent) : Prop :=
  match event.op with
  | .alerts op =>
      ∃ i row status, s.alerts.find? i = some row ∧ ¬ row.Closed ∧
        GivesAlertStatus op i status ∧ status ∈ resolvedAlertStatuses ∧
        closingDate event.now row.createdAt row.toAlert status < event.now
  | .updateIncident incidentId update _ =>
      ∃ row, s.incidents.find? incidentId = some row ∧
        ((update.status = some (some "resolved") ∧ row.createdAt < event.now) ∨
          (update.status = some (some "closed") ∧ ¬ row.Closed ∧
            ∃ closedAt, row.closedAt = some closedAt ∧ closedAt < event.now))
  | _ => False

/-! ## One change of an alert -/

/-- The alert, created at `createdAt`, is dated `floor` or later if it is closed, and would be
if the operation closed it. -/
structure DatedFrom (floor now createdAt : Timestamp) (op : AlertOp) (alert : Alert) : Prop where
  closed : alert.status.val ∈ resolvedAlertStatuses →
    floor ≤ alert.resolvedAt.getD createdAt
  closing : alert.status.val ∉ resolvedAlertStatuses → ∀ status,
    GivesAlertStatus op alert.id status →
    status ∈ resolvedAlertStatuses → floor ≤ closingDate now createdAt alert status

/-- A change that leaves the status and the stamp as they are. -/
theorem DatedFrom.of_same {floor now createdAt : Timestamp} {op : AlertOp} {a a' : Alert}
    (h : DatedFrom floor now createdAt op a) (hid : a'.id = a.id)
    (hstatus : a'.status.val = a.status.val) (hstamp : a'.resolvedAt = a.resolvedAt) :
    DatedFrom floor now createdAt op a' := by
  constructor
  · rw [hstatus, hstamp]
    exact h.closed
  · rw [hstatus, hid]
    intro hopen status hgives hclosed
    rw [closingDate, hstamp]
    exact h.closing hopen status hgives hclosed

/-- A change that gives a status: the stamp is kept, or set now where there was none. -/
theorem DatedFrom.of_given {floor now createdAt : Timestamp} {op : AlertOp} {a a' : Alert}
    {status : String} (h : DatedFrom floor now createdAt op a) (hnow : floor ≤ now)
    (hid : a'.id = a.id) (hgives : GivesAlertStatus op a.id status)
    (honly : ∀ other, GivesAlertStatus op a.id other → other = status)
    (hstatus : a'.status.val = status)
    (hstamp : a'.resolvedAt = if status = "resolved" then some (a.resolvedAt.getD now)
      else a.resolvedAt) : DatedFrom floor now createdAt op a' := by
  constructor
  · rw [hstatus, hstamp]
    intro hclosed
    by_cases hbefore : a.status.val ∈ resolvedAlertStatuses
    · have hdate := h.closed hbefore
      cases hold : a.resolvedAt with
      | some resolvedAt =>
          rw [hold] at hdate
          split <;> exact hdate
      | none =>
          rw [hold] at hdate
          split
          · exact hnow
          · exact hdate
    · have hdate := h.closing hbefore status hgives hclosed
      rw [closingDate] at hdate
      split
      · rename_i hresolved
        rw [if_pos hresolved] at hdate
        exact hdate
      · rename_i hother
        rw [if_neg hother] at hdate
        exact hdate
  · rw [hstatus, hid]
    intro hopen other hother hclosed
    rw [honly other hother] at hclosed
    exact absurd hclosed hopen

theorem DatedFrom.of_takenOn {floor now createdAt : Timestamp} {op : AlertOp} {a a' : Alert}
    (h : DatedFrom floor now createdAt op a) (htaken : TakenOn a a')
    (hnot : ∀ status, ¬ GivesAlertStatus op a.id status) :
    DatedFrom floor now createdAt op a' := by
  constructor
  · rw [htaken.status, htaken.resolvedAt]
    split
    · intro hclosed
      exact absurd hclosed (by decide)
    · exact h.closed
  · rw [htaken.id]
    intro _ status hgives
    exact absurd hgives (hnot status)

/-- **No change brings the date of a closed alert forward**, when it is not one that would
close it with an earlier date. -/
theorem Changed.datedFrom {py : PyText} {floor now createdAt : Timestamp} {op : AlertOp}
    {a a' : Alert} {log : List Activity} (h : Changed py now a a' op log)
    (hdated : DatedFrom floor now createdAt op a) (hnow : floor ≤ now) :
    DatedFrom floor now createdAt op a' := by
  cases h with
  | duplicate call n hrow =>
      subst hrow
      exact hdated.of_same rfl rfl rfl
  | updated update analyst hupdated =>
      rcases Field.assign_ok hupdated.status with ⟨hnone, hsame⟩ | ⟨status, hgiven, hval⟩
      · refine hdated.of_same hupdated.id (congrArg _ hsame) ?_
        rw [hupdated.resolvedAt, hnone]
        exact if_neg (fun h => nomatch h.1)
      · refine hdated.of_given hnow hupdated.id ⟨rfl, hgiven⟩ ?_ hval ?_
        · rintro other ⟨-, hother⟩
          rw [hgiven] at hother
          cases hother
          rfl
        · rw [hupdated.resolvedAt, hgiven]
          cases a.resolvedAt with
          | some resolvedAt => simp
          | none => simp
  | claimed analyst hrow =>
      have htaken := claimRow_takenOn analyst a
      rw [← hrow] at htaken
      exact hdated.of_takenOn htaken (fun _ h => h)
  | bulk body analyst hlisted hbulk =>
      cases hbulk with
      | resolved _ _ _ _ _ _ _ _ hrow =>
          subst hrow
          have hresolved : "resolved" ∈ resolvedAlertStatuses := by decide
          exact ⟨fun _ => hnow, fun hopen => absurd hresolved hopen⟩
      | assigned _ hrow => exact hdated.of_takenOn (bulkAssign_takenOn hrow) (fun _ h => h)
      | severity _ _ _ _ hrow =>
          obtain ⟨_, -, rfl⟩ := hrow
          exact hdated.of_same rfl rfl rfl
  | applied args hvalid happlied =>
      cases hgiven : args.status with
      | some status =>
          have hstatus : a'.status.val = status := by
            rw [happlied.status, hgiven]
            rfl
          refine hdated.of_given hnow happlied.id ⟨rfl, hgiven⟩ ?_ hstatus ?_
          · rintro other ⟨-, hother⟩
            rw [hgiven] at hother
            cases hother
            rfl
          · rw [happlied.resolvedAt, hstatus]
      | none =>
          have hstatus : a'.status.val = a.status.val := by
            rw [happlied.status, hgiven]
            rfl
          constructor
          · rw [happlied.resolvedAt, hstatus]
            intro hclosed
            have hdate := hdated.closed hclosed
            split
            · -- a resolved alert without a stamp gets one
              cases hold : a.resolvedAt with
              | some resolvedAt =>
                  rw [hold] at hdate
                  exact hdate
              | none => exact hnow
            · exact hdate
          · rintro _ status ⟨-, hother⟩
            rw [hgiven] at hother
            cases hother
  | resolved args hvalid happlied =>
      refine hdated.of_given hnow happlied.id ⟨rfl, rfl⟩ (fun _ hother => hother.2) ?_ ?_
      · rw [happlied.status]
        rfl
      · rw [happlied.resolvedAt, happlied.status]
        rfl
  | unassigned _ _ _ _ hrow =>
      cases hrow
      exact hdated.of_same rfl rfl rfl
  | assigned _ _ assignee _ hrow =>
      have htaken := assignRow_takenOn assignee a
      rw [← hrow] at htaken
      exact hdated.of_takenOn htaken (fun _ h => h)

/-! ## One event, seen from one record -/

section Step

variable {py : PyText} {app : App} {s s' : Store}

/-- The alert, if it is closed, is not dated before the last event that closed it. -/
def AlertDated (i : Uuid) (s : Store) (last : Option Timestamp) : Prop :=
  ∀ row, s.alerts.find? i = some row → row.Closed → ∀ t, last = some t → t ≤ row.dated

def IncidentDated (i : Uuid) (s : Store) (last : Option Timestamp) : Prop :=
  ∀ row, s.incidents.find? i = some row → row.Closed → ∀ t, last = some t → t ≤ row.dated

theorem Store.alertClosed_some {i : Uuid} {s : Store} {row : AlertRow}
    (h : s.alerts.find? i = some row) : s.alertClosed i = decide row.Closed := by
  rw [alertClosed, h, Option.any_some]

theorem Store.incidentClosed_some {i : Uuid} {s : Store} {row : IncidentRow}
    (h : s.incidents.find? i = some row) : s.incidentClosed i = decide row.Closed := by
  rw [incidentClosed, h, Option.any_some]

/-- A record that was closed before an event keeps the last time it was closed. -/
theorem edge_kept {closed closed' : Bool} {now : Timestamp} {last : Option Timestamp}
    (h : closed = true) : (if !closed && closed' then some now else last) = last := by
  rw [h]
  rfl

theorem alertEdge_kept {i : Uuid} {row : AlertRow} {now : Timestamp} {last : Option Timestamp}
    (hrow : s.alerts.find? i = some row) (hclosed : row.Closed) :
    (if !s.alertClosed i && s'.alertClosed i then some now else last) = last := by
  refine edge_kept ?_
  rw [Store.alertClosed_some hrow]
  exact decide_eq_true hclosed

theorem incidentEdge_kept {i : Uuid} {row : IncidentRow} {now : Timestamp}
    {last : Option Timestamp} (hrow : s.incidents.find? i = some row) (hclosed : row.Closed) :
    (if !s.incidentClosed i && s'.incidentClosed i then some now else last) = last := by
  refine edge_kept ?_
  rw [Store.incidentClosed_some hrow]
  exact decide_eq_true hclosed

theorem step_alertDated {event : RetentionEvent} {i : Uuid} {last : Option Timestamp}
    (hdated : AlertDated i s last) (hlast : ∀ t, last = some t → t ≤ event.now)
    (hkeep : ¬ Backdates s event) (h : retentionStep py app s event = .ok s') :
    AlertDated i s'
      (if !s.alertClosed i && s'.alertClosed i then some event.now else last) := by
  intro row' hrow' hclosed' t ht
  have hmove := step_alert_move h i
  rw [hrow'] at hmove
  generalize hbefore : s.alerts.find? i = o at hmove
  generalize hafter : some row' = o' at hmove
  cases hmove with
  | absent => cases hafter
  | created hnew _ _ =>
      cases hafter
      rw [AlertRow.Closed, hnew] at hclosed'
      exact absurd hclosed' (by decide)
  | kept row =>
      cases hafter
      rw [alertEdge_kept hbefore hclosed'] at ht
      exact hdated _ hbefore hclosed' t ht
  | @changed op row alert _ hop hrewrites =>
      cases hafter
      have hid : row.key = i := Table.find?_key hbefore
      -- the floor is the last edge for a record that was closed, and now for one that was not
      have hfloor : t ≤ event.now ∧
          DatedFrom t event.now row.createdAt op row.toAlert := by
        by_cases hclosed : row.Closed
        · rw [alertEdge_kept hbefore hclosed] at ht
          exact ⟨hlast t ht, fun _ => hdated row hbefore hclosed t ht,
            fun hopen => absurd hclosed hopen⟩
        · rw [Store.alertClosed_some hbefore, decide_eq_false hclosed,
            Store.alertClosed_some hrow', decide_eq_true hclosed'] at ht
          cases ht
          refine ⟨le_rfl, fun hclosed₁ => absurd hclosed₁ hclosed, ?_⟩
          intro _ status hgives hstatus
          by_contra hearlier
          refine hkeep ?_
          rw [Backdates, hop]
          refine ⟨i, row, status, hbefore, hclosed, ?_, hstatus, not_le.mp hearlier⟩
          rw [← hid]
          exact hgives
      obtain ⟨hnow, hstart⟩ := hfloor
      exact (hrewrites.inv (P := DatedFrom t event.now row.createdAt op)
        (fun _ _ _ hd hc => hc.datedFrom hd hnow) hstart).closed hclosed'
  | @purged _ elapsed _ _ resolvedBefore createdBefore _ _ hop _ _ _ =>
      obtain ⟨row, rfl, hsame⟩ := purged_same hafter (fun row => (row.Closed, row.dated))
        (fun _ => rfl)
      obtain ⟨hstatus, hdate⟩ := Prod.mk.inj hsame
      rw [hstatus] at hclosed'
      rw [alertEdge_kept hbefore hclosed'] at ht
      rw [hdate]
      exact hdated row hbefore hclosed' t ht

/-- The date of an incident that an accepted `PATCH` leaves closed. -/
theorem IncidentUpdated.dated {now floor : Timestamp} {update : IncidentUpdate}
    {old new : IncidentRow} (h : IncidentUpdated now update old new)
    (hclosed : new.Closed) (hnow : floor ≤ now) (hfloor : old.Closed → floor ≤ old.dated)
    (hresolved : update.status = some (some "resolved") → floor ≤ old.createdAt)
    (hstamped : update.status = some (some "closed") → ¬ old.Closed →
      ∀ closedAt, old.closedAt = some closedAt → floor ≤ closedAt) : floor ≤ new.dated := by
  rw [IncidentRow.dated, h.closedAt, h.createdAt]
  rcases Field.assign_ok h.status with ⟨hnone, hsame⟩ | ⟨status, hgiven, hval⟩
  · have hold : old.Closed := by
      rw [IncidentRow.Closed, ← hsame]
      exact hclosed
    rw [hnone]
    exact hfloor hold
  · rw [hgiven]
    rw [IncidentRow.Closed, hval] at hclosed
    simp only [closedIncidentStatuses, List.mem_cons, List.not_mem_nil, or_false] at hclosed
    rcases hclosed with rfl | rfl
    · cases hstamp : old.closedAt with
      | none => exact hnow
      | some closedAt =>
          show floor ≤ closedAt
          by_cases hold : old.Closed
          · have hdate := hfloor hold
            rw [IncidentRow.dated, hstamp] at hdate
            exact hdate
          · exact hstamped hgiven hold closedAt hstamp
    · exact hresolved hgiven

theorem step_incidentDated {event : RetentionEvent} {i : Uuid} {last : Option Timestamp}
    (hdated : IncidentDated i s last) (hlast : ∀ t, last = some t → t ≤ event.now)
    (hkeep : ¬ Backdates s event) (h : retentionStep py app s event = .ok s') :
    IncidentDated i s'
      (if !s.incidentClosed i && s'.incidentClosed i then some event.now else last) := by
  intro row' hrow' hclosed' t ht
  have hmove := step_incident_move h i
  rw [hrow'] at hmove
  generalize hbefore : s.incidents.find? i = o at hmove
  generalize hafter : some row' = o' at hmove
  cases hmove with
  | absent => cases hafter
  | created hopen _ _ _ =>
      cases hafter
      rw [IncidentRow.Closed, hopen] at hclosed'
      exact absurd hclosed' (by decide)
  | kept row =>
      cases hafter
      rw [incidentEdge_kept hbefore hclosed'] at ht
      exact hdated _ hbefore hclosed' t ht
  | @updated update _ old _ hop hupdated =>
      cases hafter
      have hid : old.key = i := Table.find?_key hbefore
      have hfloor : t ≤ event.now ∧ (old.Closed → t ≤ old.dated) := by
        by_cases hclosed : old.Closed
        · rw [incidentEdge_kept hbefore hclosed] at ht
          exact ⟨hlast t ht, fun _ => hdated old hbefore hclosed t ht⟩
        · rw [Store.incidentClosed_some hbefore, decide_eq_false hclosed,
            Store.incidentClosed_some hrow', decide_eq_true hclosed'] at ht
          cases ht
          exact ⟨le_rfl, fun hclosed₁ => absurd hclosed₁ hclosed⟩
      obtain ⟨hnow, hfloor⟩ := hfloor
      rw [Backdates, hop, hid] at hkeep
      refine hupdated.dated hclosed' hnow hfloor ?_ ?_
      · intro hgiven
        by_contra hearlier
        refine hkeep ⟨old, hbefore, Or.inl ⟨hgiven, ?_⟩⟩
        exact lt_of_lt_of_le (not_le.mp hearlier) hnow
      · intro hgiven hopen closedAt hstamp
        by_contra hearlier
        refine hkeep ⟨old, hbefore, Or.inr ⟨hgiven, hopen, closedAt, hstamp, ?_⟩⟩
        exact lt_of_lt_of_le (not_le.mp hearlier) hnow
  | @purged _ elapsed _ _ closedBefore createdBefore _ _ hop _ _ _ =>
      obtain ⟨row, rfl, hsame⟩ := purged_same hafter (fun row => (row.Closed, row.dated))
        (fun _ => rfl)
      obtain ⟨hstatus, hdate⟩ := Prod.mk.inj hsame
      rw [hstatus] at hclosed'
      rw [incidentEdge_kept hbefore hclosed'] at ht
      rw [hdate]
      exact hdated row hbefore hclosed' t ht

end Step

/-! ## What a purge archives -/

/-- The record under this key is archived between two states: it is afterwards, or gone. -/
def ArchivedBetween {α : Type} (look : Store → Uuid → Option α)
    (archivedAt : α → Option Timestamp) (s s' : Store) (i : Uuid) : Prop :=
  ∃ row, look s i = some row ∧ archivedAt row = none ∧
    ∀ row', look s' i = some row' → (archivedAt row').isSome = true

/-- A record whose time is over is closed, and its date is before one of the two cutoffs. -/
theorem retentionOver_dated {closed : List String} {status : String}
    {archivedAt stampedAt : Option Timestamp} {createdAt stampedBefore createdBefore : Timestamp}
    (h : retentionOver closed status archivedAt stampedAt createdAt stampedBefore createdBefore
      = true) :
    status ∈ closed ∧ (stampedAt.getD createdAt < stampedBefore ∨
      stampedAt.getD createdAt < createdBefore) := by
  refine ⟨retentionOver_closed h, ?_⟩
  simp only [retentionOver, Bool.and_eq_true] at h
  obtain ⟨-, hdate⟩ := h
  cases stampedAt with
  | some stamped => exact Or.inl (of_decide_eq_true hdate)
  | none => exact Or.inr (of_decide_eq_true hdate)

/-- A purge archives only what is `selected`. -/
theorem selected_of_archived {α : Type} (archivedAt : α → Option Timestamp)
    {selected : α → Bool} {f : α → α} {archivedBefore : Timestamp} {row : α}
    (harchivedAt : archivedAt row = none)
    (h : ∀ row', ((some row).map (fun row => if selected row then f row else row)).filter
        (fun row => !graceOver (archivedAt row) archivedBefore) = some row' →
      (archivedAt row').isSome = true) : selected row = true := by
  by_contra hnot
  have hkept : ((some row).map (fun row => if selected row then f row else row)).filter
      (fun row => !graceOver (archivedAt row) archivedBefore) = some row := by
    rw [Option.map_some, if_neg hnot]
    exact Option.filter_some_pos (by rw [harchivedAt]; rfl)
  have harchived := h row hkept
  rw [harchivedAt] at harchived
  cases harchived

/-- A date before one of two cutoffs, the second of which is not read before the first. -/
theorem daysBefore_lt_later {days : Int} {now later dated stampedBefore createdBefore : Timestamp}
    (hstamped : daysBefore days now = .ok stampedBefore)
    (hcreated : daysBefore days later = .ok createdBefore) (hlater : now ≤ later)
    (h : dated < stampedBefore ∨ dated < createdBefore) :
    (dated : Int) + days * microsecondsPerDay < later := by
  rcases h with h | h
  · exact lt_of_lt_of_le (daysBefore_lt hstamped h) (Int.ofNat_le.mpr hlater)
  · exact daysBefore_lt hcreated h

theorem MonotoneClock.ordered {es : List RetentionEvent} (h : MonotoneClock es) :
    es.Pairwise (fun event later => event.now ≤ later.now) := by
  refine h.2.imp (fun {event later} hle => le_trans ?_ (hle 0))
  simp only [RetentionEvent.reading]
  split
  · exact Nat.le_add_right _ _
  · exact le_rfl

/-- **Nothing is archived before its time, as long as no request backdates.**  In every run
whose clock does not go back and in which no step closes a record with an earlier date, a
purge archives an alert or an incident only when its retention period has passed since
the event that last closed it. -/
theorem archived_in_time {py : PyText} {app : App} {s s' : Store} {es : List RetentionEvent}
    {now : Timestamp} {settings : RetentionSettings} {elapsed : Nat → Nat}
    {actorUsername : Option (Varchar 100)} {actorId : Option Uuid}
    (hclock : MonotoneClock (es ++ [⟨now, .purge settings elapsed false actorUsername actorId⟩]))
    (hkeep : Along (retentionStep py app) (fun s event => ¬ Backdates s event) s es)
    (h : retentionStep py app (run (retentionStep py app) s es)
      ⟨now, .purge settings elapsed false actorUsername actorId⟩ = .ok s') :
    (∀ i t, ArchivedBetween (fun s i => s.alerts.find? i) AlertRow.archivedAt
        (run (retentionStep py app) s es) s' i →
      lastRise (retentionStep py app) (Store.alertClosed i) RetentionEvent.now s es none = some t →
      (t : Int) + settings.alertsRetentionDays * microsecondsPerDay < (now + elapsed 10 : Nat)) ∧
    ∀ i t, ArchivedBetween (fun s i => s.incidents.find? i) IncidentRow.archivedAt
        (run (retentionStep py app) s es) s' i →
      lastRise (retentionStep py app) (Store.incidentClosed i) RetentionEvent.now s es none
        = some t →
      (t : Int) + settings.incidentsRetentionDays * microsecondsPerDay
        < (now + elapsed 12 : Nat) := by
  have horder := (List.pairwise_append.mp hclock.ordered).1
  have hreading : Monotone (RetentionEvent.reading
      ⟨now, .purge settings elapsed false actorUsername actorId⟩) :=
    hclock.1 _ (List.mem_append_right _ (List.mem_singleton.mpr rfl))
  obtain ⟨result, hresult, rfl⟩ := map_ok (mapError_ok h)
  obtain ⟨⟨_, _, _, hresolved, hcreated, -, halertRows⟩,
    ⟨_, _, _, hclosed, hopened, -, hincidentRows⟩⟩ := runRetentionPurge_ok hresult
  constructor
  · rintro i t ⟨row, hrow, harchivedAt, harchived⟩ hlast
    have hdated := run_inv_clock (retentionStep py app) (Store.alertClosed i) RetentionEvent.now
      (I := AlertDated i) (fun _ _ _ _ hd hl hk hs => step_alertDated hd hl hk hs) es s none
      (fun _ _ _ _ ht => nomatch ht) horder (fun _ _ _ ht => nomatch ht) hkeep
    rw [hlast] at hdated
    have hexpired := selected_of_archived AlertRow.archivedAt harchivedAt
      (fun row' hrow' => harchived row' (by
        have hrow : (run (retentionStep py app) s es).alerts.find? i = some row := hrow
        show result.1.alerts.find? i = some row'
        rw [halertRows i, hrow]
        exact hrow'))
    obtain ⟨hstatus, hover⟩ := retentionOver_dated hexpired
    have hlt := daysBefore_lt_later hresolved hcreated (hreading (by decide)) hover
    have hle : t ≤ row.dated := hdated row hrow hstatus t rfl
    exact lt_of_le_of_lt (Int.add_le_add_right (Int.ofNat_le.mpr hle) _) hlt
  · rintro i t ⟨row, hrow, harchivedAt, harchived⟩ hlast
    have hdated := run_inv_clock (retentionStep py app) (Store.incidentClosed i)
      RetentionEvent.now (I := IncidentDated i)
      (fun _ _ _ _ hd hl hk hs => step_incidentDated hd hl hk hs) es s none
      (fun _ _ _ _ ht => nomatch ht) horder (fun _ _ _ ht => nomatch ht) hkeep
    rw [hlast] at hdated
    have hexpired := selected_of_archived IncidentRow.archivedAt harchivedAt
      (fun row' hrow' => harchived row' (by
        have hrow : (run (retentionStep py app) s es).incidents.find? i = some row := hrow
        show result.1.incidents.find? i = some row'
        rw [hincidentRows i, hrow]
        exact hrow'))
    obtain ⟨hstatus, hover⟩ := retentionOver_dated hexpired
    have hlt := daysBefore_lt_later hclosed hopened (hreading (by decide)) hover
    have hle : t ≤ row.dated := hdated row hrow hstatus t rfl
    exact lt_of_le_of_lt (Int.add_le_add_right (Int.ofNat_le.mpr hle) _) hlt

/-- A clock of which every event takes one reading. -/
theorem monotoneClock_of_now {es : List RetentionEvent}
    (hreading : ∀ event ∈ es, ∀ k, event.reading k = event.now)
    (h : es.Pairwise (fun event later => event.now ≤ later.now)) : MonotoneClock es := by
  constructor
  · intro event hevent k l _
    rw [hreading event hevent, hreading event hevent]
  · refine h.imp_of_mem (fun hevent _ hle k => ?_)
    rw [hreading _ hevent]
    exact hle

theorem not_backdates_leftAlone :
    Along (retentionStep .ascii .core) (fun s event => ¬ Backdates s event) .empty leftAlone := by
  have hunstamped : ((run (retentionStep .ascii .core) .empty
      [⟨onDay 739000, .alerts (.processWebhook loginFailure)⟩]).alerts.find? 1).map (·.resolvedAt)
        = some none := by decide +kernel
  refine ⟨?_, ?_, trivial⟩
  · rintro ⟨_, _, _, -, -, hgives, -⟩
    exact hgives
  · rintro ⟨i, row, status, hrow, -, ⟨rfl, hgiven⟩, -, hearlier⟩
    cases hgiven
    have hresolvedAt : row.resolvedAt = none := by
      obtain ⟨row₁, hrow₁, hstamp⟩ := Option.map_eq_some_iff.mp hunstamped
      cases hrow₁.symm.trans hrow
      exact hstamp
    rw [closingDate, hresolvedAt, Option.getD_none, if_pos rfl] at hearlier
    exact lt_irrefl _ hearlier

theorem archived_in_time_of_leftAlone :
    ∃ s', retentionStep .ascii .core (run (retentionStep .ascii .core) .empty leftAlone)
        (purged 739400) = .ok s' ∧
      ArchivedBetween (fun s i => s.alerts.find? i) AlertRow.archivedAt
        (run (retentionStep .ascii .core) .empty leftAlone) s' 1 ∧
      (onDay 739001 : Int) + defaultSettings.alertsRetentionDays * microsecondsPerDay
        < (onDay 739400 : Nat) := by
  have hbefore : ((run (retentionStep .ascii .core) .empty leftAlone).alerts.find? 1).map
      (·.archivedAt) = some none := by decide +kernel
  have hafter : (retentionStep .ascii .core (run (retentionStep .ascii .core) .empty leftAlone)
      (purged 739400)).map (fun s => (s.alerts.find? 1).map (·.archivedAt.isSome))
        = .ok (some true) := by decide +kernel
  have hlast : lastRise (retentionStep .ascii .core) (Store.alertClosed 1) RetentionEvent.now .empty
      leftAlone none = some (onDay 739001) := by decide +kernel
  obtain ⟨s', hstep, hstored⟩ := map_ok hafter
  obtain ⟨row, hrow, harchivedAt⟩ := Option.map_eq_some_iff.mp hbefore
  have harchived : ArchivedBetween (fun s i => s.alerts.find? i) AlertRow.archivedAt
      (run (retentionStep .ascii .core) .empty leftAlone) s' 1 := by
    refine ⟨row, hrow, harchivedAt, fun row' hrow' => ?_⟩
    obtain ⟨row₁, hrow₁, hset⟩ := Option.map_eq_some_iff.mp hstored
    cases hrow₁.symm.trans hrow'
    exact hset
  have hclock : MonotoneClock (leftAlone ++ [purged 739400]) := by
    refine monotoneClock_of_now ?_ (by decide)
    simp only [leftAlone, List.cons_append, List.nil_append, List.mem_cons, List.not_mem_nil,
      or_false]
    rintro event (rfl | rfl | rfl) k
    · rfl
    · rfl
    · exact Nat.add_zero _
  have hlate := (archived_in_time hclock not_backdates_leftAlone hstep).1 1 _ harchived hlast
  rw [Nat.add_zero] at hlate
  exact ⟨s', hstep, harchived, hlate⟩

/-! ## An alert that is resolved twice -/

/-- The alert is resolved, reopened and resolved again a year later. -/
def resolvedAgain : List RetentionEvent :=
  [⟨onDay 739000, .alerts (.processWebhook loginFailure)⟩,
   patched 739001 "resolved" "malicious", patched 739002 "in_progress" "malicious",
   patched 739380 "resolved" "malicious"]

theorem monotone_resolvedAgain : MonotoneClock (resolvedAgain ++ [purged 739400]) := by
  refine monotoneClock_of_now ?_ (by decide)
  simp only [resolvedAgain, List.cons_append, List.nil_append, List.mem_cons,
    List.not_mem_nil, or_false]
  rintro event (rfl | rfl | rfl | rfl | rfl) k
  · rfl
  · rfl
  · rfl
  · rfl
  · exact Nat.add_zero _

/-- Twenty days are less than the retention period. -/
theorem twentyDays_lt : ¬ ((onDay 739380 : Int) +
    defaultSettings.alertsRetentionDays * microsecondsPerDay ≤ (onDay 739400 : Nat)) := by
  simp only [onDay, defaultSettings, microsecondsPerDay]
  omega

/-- An alert is archived twenty days after it was resolved for the second time. -/
theorem alert_resolved_again_is_archived_early :
    ¬ ∀ (es : List RetentionEvent) (now : Timestamp) (settings : RetentionSettings)
        (elapsed : Nat → Nat) (actorUsername : Option (Varchar 100)) (actorId : Option Uuid)
        (s' : Store),
      MonotoneClock (es ++ [⟨now, .purge settings elapsed false actorUsername actorId⟩]) →
      retentionStep .ascii .core (run (retentionStep .ascii .core) .empty es)
        ⟨now, .purge settings elapsed false actorUsername actorId⟩ = .ok s' →
      ∀ i t, ArchivedBetween (fun s i => s.alerts.find? i) AlertRow.archivedAt
          (run (retentionStep .ascii .core) .empty es) s' i →
        lastRise (retentionStep .ascii .core) (Store.alertClosed i) RetentionEvent.now .empty es
          none = some t →
        (t : Int) + settings.alertsRetentionDays * microsecondsPerDay
          ≤ (now + elapsed 10 : Nat) := by
  intro hclaim
  have hbefore : ((run (retentionStep .ascii .core) .empty resolvedAgain).alerts.find? 1).map
      (·.archivedAt) = some none := by decide +kernel
  have hafter : (retentionStep .ascii .core (run (retentionStep .ascii .core) .empty resolvedAgain)
      (purged 739400)).map (fun s => (s.alerts.find? 1).map (·.archivedAt.isSome))
        = .ok (some true) := by decide +kernel
  have hlast : lastRise (retentionStep .ascii .core) (Store.alertClosed 1) RetentionEvent.now .empty
      resolvedAgain none = some (onDay 739380) := by decide +kernel
  obtain ⟨s', hstep, hstored⟩ := map_ok hafter
  obtain ⟨row, hrow, harchivedAt⟩ := Option.map_eq_some_iff.mp hbefore
  refine twentyDays_lt (hclaim resolvedAgain (onDay 739400) defaultSettings (fun _ => 0) none none
    s' monotone_resolvedAgain hstep 1 (onDay 739380) ⟨row, hrow, harchivedAt, ?_⟩ hlast)
  intro row' hrow'
  obtain ⟨row₁, hrow₁, harchived⟩ := Option.map_eq_some_iff.mp hstored
  cases hrow₁.symm.trans hrow'
  exact harchived

end OpenSoar
