/-
# `OpenSoar.Retention.System` — records that change while they are being purged

Every operation on alerts, the creation and the update of incidents, and the purge, as
one system on a `Store`.  A purge reads its clock `elapsed k` after it has begun.

A purge archives closed records only, but it deletes whatever was archived long enough
ago.  Nothing clears `archived_at`, and two requests and one playbook helper give a
status that is not closed to a record that is archived: `ReopensArchived` is that case.
As long as no step is one, what a purge deletes is closed; after such a step every purge
past the grace period deletes a record that is open (`purge_deletes_closed_only`).  The
rule comes from `TwoPhase`, with `archived_at` for the mark.
-/
import OpenSoar.Lib.TwoPhase
import OpenSoar.Api.IncidentUpdates
import OpenSoar.Retention.Service

namespace OpenSoar

open Python TwoPhase

inductive RetentionOp where
  | alerts (op : AlertOp)
  | createIncident (incidentId : Uuid) (data : IncidentCreate) (caller : Option Analyst)
  | updateIncident (incidentId : Uuid) (update : IncidentUpdate) (caller : Option Analyst)
  | purge (settings : RetentionSettings) (elapsed : Nat → Nat) (dryRun : Bool)
      (actorUsername : Option (Varchar 100)) (actorId : Option Uuid)

structure RetentionEvent where
  now : Timestamp
  op : RetentionOp

inductive RetentionRaised where
  | request (e : Raised)
  | purge (e : PurgeRaised)
deriving DecidableEq

/-- One event on the store. -/
def retentionStep (py : PyText) (app : App) (s : Store) (event : RetentionEvent) :
    Except RetentionRaised Store :=
  match event.op with
  | .alerts op =>
      (s.lift event.now (fun db => alertStep py app db ⟨event.now, op⟩)).mapError .request
  | .createIncident incidentId data caller =>
      (s.lift event.now (fun db =>
        (createIncident py app incidentId data caller db).map Prod.fst)).mapError .request
  | .updateIncident incidentId update caller =>
      ((updateIncident py app event.now incidentId update caller s).map Prod.fst).mapError .request
  | .purge settings elapsed dryRun actorUsername actorId =>
      ((runRetentionPurge settings (fun k => event.now + elapsed k) dryRun actorUsername actorId
        s).map Prod.fst).mapError .purge

/-- The operations on alerts are those of `alertStep`, on the store's own database. -/
theorem retentionStep_alerts {py : PyText} {app : App} {s s' : Store} {now : Timestamp}
    {op : AlertOp} (h : retentionStep py app s ⟨now, .alerts op⟩ = .ok s') :
    alertStep py app s.db ⟨now, op⟩ = .ok s'.db ∧ s' = s.absorb now s'.db := by
  obtain ⟨db, hdb, rfl⟩ := Store.lift_ok (mapError_ok h)
  obtain ⟨added, hadded⟩ := (step_alertsOnly hdb).activities
  rw [Store.db_absorb hadded]
  exact ⟨hdb, rfl⟩

/-! ## One event, seen from one record -/

/-- What an event can do to the alert under one key. -/
inductive AlertMove (py : PyText) (event : RetentionEvent) :
    Option AlertRow → Option AlertRow → Prop
  | absent : AlertMove py event none none
  | created {row : AlertRow} : row.status.val = "new" → row.createdAt = event.now →
      row.archivedAt = none → AlertMove py event none (some row)
  | kept (row : AlertRow) : AlertMove py event (some row) (some row)
  | changed {op : AlertOp} {row : AlertRow} {alert : Alert} {log : List Activity} :
      event.op = .alerts op →
      Rewrites (fun a a' log => Changed py event.now a a' op log) row.toAlert alert log →
      AlertMove py event (some row) (some { row with toAlert := alert })
  | purged {settings : RetentionSettings} {elapsed : Nat → Nat}
      {actorUsername : Option (Varchar 100)} {actorId : Option Uuid}
      {resolvedBefore createdBefore archivedBefore : Timestamp} (o : Option AlertRow) :
      event.op = .purge settings elapsed false actorUsername actorId →
      alertRetentionCutoff settings (event.now + elapsed 9) = .ok resolvedBefore →
      alertRetentionCutoff settings (event.now + elapsed 10) = .ok createdBefore →
      graceCutoff settings (event.now + elapsed 14) = .ok archivedBefore →
      AlertMove py event o ((o.map (fun row =>
        if row.expired resolvedBefore createdBefore then row.archive (event.now + elapsed 8)
        else row)).filter (fun row => !graceOver row.archivedAt archivedBefore))

/-- What an event can do to the incident under one key. -/
inductive IncidentMove (event : RetentionEvent) :
    Option IncidentRow → Option IncidentRow → Prop
  | absent : IncidentMove event none none
  | created {row : IncidentRow} : row.status.val = "open" → row.closedAt = none →
      row.createdAt = event.now → row.archivedAt = none → IncidentMove event none (some row)
  | kept (row : IncidentRow) : IncidentMove event (some row) (some row)
  | updated {update : IncidentUpdate} {caller : Option Analyst} {old new : IncidentRow} :
      event.op = .updateIncident old.key update caller →
      IncidentUpdated event.now update old new → IncidentMove event (some old) (some new)
  | purged {settings : RetentionSettings} {elapsed : Nat → Nat}
      {actorUsername : Option (Varchar 100)} {actorId : Option Uuid}
      {closedBefore createdBefore archivedBefore : Timestamp} (o : Option IncidentRow) :
      event.op = .purge settings elapsed false actorUsername actorId →
      incidentRetentionCutoff settings (event.now + elapsed 11) = .ok closedBefore →
      incidentRetentionCutoff settings (event.now + elapsed 12) = .ok createdBefore →
      graceCutoff settings (event.now + elapsed 15) = .ok archivedBefore →
      IncidentMove event o ((o.map (fun row =>
        if row.expired closedBefore createdBefore then row.archive (event.now + elapsed 8)
        else row)).filter (fun row => !graceOver row.archivedAt archivedBefore))

theorem AlertMove.same {py : PyText} {event : RetentionEvent} (o : Option AlertRow) :
    AlertMove py event o o := by
  cases o with
  | none => exact .absent
  | some row => exact .kept row

theorem IncidentMove.same {event : RetentionEvent} (o : Option IncidentRow) :
    IncidentMove event o o := by
  cases o with
  | none => exact .absent
  | some row => exact .kept row

section Step

variable {py : PyText} {app : App} {s s' : Store}

/-- **Every accepted event, seen from one alert.** -/
theorem step_alert_move {event : RetentionEvent} (h : retentionStep py app s event = .ok s')
    (i : Uuid) : AlertMove py event (s.alerts.find? i) (s'.alerts.find? i) := by
  obtain ⟨now, op⟩ := event
  cases op with
  | alerts op =>
      obtain ⟨db, hdb, rfl⟩ := Store.lift_ok (mapError_ok h)
      cases hrow : s.alerts.find? i with
      | some row =>
          have hstored : s.db.alerts.find? i = some row.toAlert := by
            rw [Store.find?_db_alerts, hrow, Option.map_some]
          obtain ⟨alert, log, halert, -, hrewrites⟩ := step_row hdb hstored
          rw [Store.absorb_alert_stored hrow halert]
          exact .changed rfl hrewrites
      | none =>
          cases hrow' : (s.absorb now db).alerts.find? i with
          | none => exact .absent
          | some row' =>
              obtain ⟨hstored, hcreated, harchived⟩ := Store.absorb_alert_new hrow hrow'
              have hnone : s.db.alerts.find? i = none := by
                rw [Store.find?_db_alerts, hrow, Option.map_none]
              exact .created (step_new_row hdb hnone hstored) hcreated harchived
  | createIncident incidentId data caller =>
      obtain ⟨db, hdb, rfl⟩ := Store.lift_ok (mapError_ok h)
      obtain ⟨result, hresult, rfl⟩ := map_ok hdb
      obtain ⟨incident, activity, -, -, -, halerts, -⟩ := createIncident_rows hresult
      have hsame : (s.absorb now result.1).alerts.find? i = s.alerts.find? i := by
        cases hrow : s.alerts.find? i with
        | some row =>
            refine Store.absorb_alert_stored hrow ?_
            rw [halerts, Store.find?_db_alerts, hrow, Option.map_some]
        | none =>
            rw [Store.find?_absorb_alerts, halerts, Store.find?_db_alerts, hrow]
            rfl
      rw [hsame]
      exact .same _
  | updateIncident incidentId update caller =>
      obtain ⟨result, hresult, rfl⟩ := map_ok (mapError_ok h)
      obtain ⟨old, activities, -, -, hs⟩ := updateIncident_ok hresult
      rw [hs]
      exact .same _
  | purge settings elapsed dryRun actorUsername actorId =>
      obtain ⟨result, hresult, rfl⟩ := map_ok (mapError_ok h)
      cases dryRun with
      | true =>
          rw [runRetentionPurge_dry hresult]
          exact .same _
      | false =>
          obtain ⟨_, _, _, hresolved, hcreated, hgrace, hrows⟩ := (runRetentionPurge_ok hresult).1
          rw [hrows i]
          exact .purged _ rfl hresolved hcreated hgrace

/-- **Every accepted event, seen from one incident.** -/
theorem step_incident_move {event : RetentionEvent} (h : retentionStep py app s event = .ok s')
    (i : Uuid) : IncidentMove event (s.incidents.find? i) (s'.incidents.find? i) := by
  obtain ⟨now, op⟩ := event
  cases op with
  | alerts op =>
      obtain ⟨db, hdb, rfl⟩ := Store.lift_ok (mapError_ok h)
      have hsame : (s.absorb now db).incidents.find? i = s.incidents.find? i := by
        cases hrow : s.incidents.find? i with
        | some row =>
            refine Store.absorb_incident_stored hrow ?_
            rw [(step_alertsOnly hdb).incidents, Store.find?_db_incidents, hrow, Option.map_some]
        | none =>
            rw [Store.find?_absorb_incidents, (step_alertsOnly hdb).incidents,
              Store.find?_db_incidents, hrow]
            rfl
      rw [hsame]
      exact .same _
  | createIncident incidentId data caller =>
      obtain ⟨db, hdb, rfl⟩ := Store.lift_ok (mapError_ok h)
      obtain ⟨result, hresult, rfl⟩ := map_ok hdb
      obtain ⟨incident, activity, -, hopen, hinsert, -, -⟩ := createIncident_rows hresult
      have hlookup := Table.find?_insert hinsert i
      cases hrow : s.incidents.find? i with
      | some row =>
          have hstored : s.db.incidents.find? i = some row.toIncident := by
            rw [Store.find?_db_incidents, hrow, Option.map_some]
          have hne : i ≠ incident.id := by
            rintro rfl
            rw [(Table.insert?_some hinsert).1] at hstored
            cases hstored
          rw [if_neg hne, hstored] at hlookup
          rw [Store.absorb_incident_stored hrow hlookup]
          exact .kept row
      | none =>
          cases hrow' : (s.absorb now result.1).incidents.find? i with
          | none => exact .absent
          | some row' =>
              obtain ⟨hstored, hclosed, hcreated, harchived⟩ :=
                Store.absorb_incident_new hrow hrow'
              have hnone : s.db.incidents.find? i = none := by
                rw [Store.find?_db_incidents, hrow, Option.map_none]
              rw [hnone] at hlookup
              have hincident : row'.toIncident = incident := by
                rw [hstored] at hlookup
                split at hlookup
                · exact Option.some.inj hlookup
                · cases hlookup
              refine .created ?_ hclosed hcreated harchived
              rw [hincident]
              exact hopen
  | updateIncident incidentId update caller =>
      obtain ⟨result, hresult, rfl⟩ := map_ok (mapError_ok h)
      rcases updateIncident_row hresult i with ⟨-, hsame⟩ | ⟨rfl, old, hold, hupdated, hnew⟩
      · rw [hsame]
        exact .same _
      · rw [hold, hnew]
        have hkey : old.key = i := Table.find?_key hold
        subst hkey
        exact .updated rfl hupdated
  | purge settings elapsed dryRun actorUsername actorId =>
      obtain ⟨result, hresult, rfl⟩ := map_ok (mapError_ok h)
      cases dryRun with
      | true =>
          rw [runRetentionPurge_dry hresult]
          exact .same _
      | false =>
          obtain ⟨_, _, _, hclosed, hcreated, hgrace, hrows⟩ := (runRetentionPurge_ok hresult).2
          rw [hrows i]
          exact .purged _ rfl hclosed hcreated hgrace

end Step

/-! ## The two kinds of record -/

def AlertRow.Archived (row : AlertRow) : Prop := row.archivedAt.isSome = true

def AlertRow.Closed (row : AlertRow) : Prop := row.status.val ∈ resolvedAlertStatuses

def IncidentRow.Archived (row : IncidentRow) : Prop := row.archivedAt.isSome = true

def IncidentRow.Closed (row : IncidentRow) : Prop := row.status.val ∈ closedIncidentStatuses

/-- Archived records are closed. -/
structure ArchivedClosed (s : Store) : Prop where
  alerts : ∀ i, Sound AlertRow.Archived AlertRow.Closed (s.alerts.find? i)
  incidents : ∀ i, Sound IncidentRow.Archived IncidentRow.Closed (s.incidents.find? i)

/-- Every record that is deleted between two states is closed in the first of them. -/
structure OnlyClosedDeleted (s s' : Store) : Prop where
  alerts : ∀ i row, s.alerts.find? i = some row → s'.alerts.find? i = none → row.Closed
  incidents : ∀ i row, s.incidents.find? i = some row → s'.incidents.find? i = none → row.Closed

/-! ## The filters of the purge -/

theorem retentionOver_closed {closed : List String} {status : String}
    {archivedAt stampedAt : Option Timestamp} {createdAt stampedBefore createdBefore : Timestamp}
    (h : retentionOver closed status archivedAt stampedAt createdAt stampedBefore createdBefore
      = true) : status ∈ closed := by
  simp only [retentionOver, Bool.and_eq_true] at h
  exact List.contains_iff_mem.mp h.1.2

theorem graceOver_isSome {archivedAt : Option Timestamp} {archivedBefore : Timestamp}
    (h : graceOver archivedAt archivedBefore = true) : archivedAt.isSome = true := by
  cases archivedAt with
  | none => cases h
  | some archived => rfl

/-- What a purge makes of one record: the `selected` ones are stamped by `f`, then those that are
`gone` go. -/
@[elab_as_elim]
theorem purged_cases {α : Type} {selected gone : α → Bool} {f : α → α}
    {motive : Option α → Option α → Prop} (o : Option α) (absent : motive none none)
    (stamped : ∀ row, selected row = true → gone (f row) = false → motive (some row) (some (f row)))
    (atOnce : ∀ row, selected row = true → gone (f row) = true → motive (some row) none)
    (swept : ∀ row, selected row = false → gone row = true → motive (some row) none)
    (kept : ∀ row, selected row = false → gone row = false → motive (some row) (some row)) :
    motive o
      ((o.map (fun row => if selected row then f row else row)).filter (fun row => !gone row)) := by
  cases o with
  | none => exact absent
  | some row =>
      rw [Option.map_some]
      cases hs : selected row with
      | true =>
          rw [if_pos rfl]
          cases hg : gone (f row) with
          | true =>
              rw [Option.filter_some_neg (by rw [hg]; rfl)]
              exact atOnce row hs hg
          | false =>
              rw [Option.filter_some_pos (by rw [hg]; rfl)]
              exact stamped row hs hg
      | false =>
          rw [if_neg Bool.false_ne_true]
          cases hg : gone row with
          | true =>
              rw [Option.filter_some_neg (by rw [hg]; rfl)]
              exact swept row hs hg
          | false =>
              rw [Option.filter_some_pos (by rw [hg]; rfl)]
              exact kept row hs hg

/-- One resource under a purge: the `selected` rows are stamped by `f`, then the rows past
the grace period go. -/
theorem purged_fate {α : Type} {Archived Closed : α → Prop} (selected gone : α → Bool)
    (f : α → α) (hselected : ∀ row, selected row = true → Closed row ∧ Closed (f row))
    (hgone : ∀ row, gone row = true → Archived row) (reopens : Prop) (o : Option α) :
    Fate Archived Closed reopens o
      ((o.map (fun row => if selected row then f row else row)).filter (fun row => !gone row)) := by
  refine purged_cases o .absent ?_ ?_ ?_ ?_
  · intro row hs _
    exact .archived (hselected row hs).1 (hselected row hs).2
  · intro row hs _
    exact .swept (Or.inr (hselected row hs).1)
  · intro row _ hg
    exact .swept (Or.inl (hgone row hg))
  · intro row _ _
    exact .kept (some row)

/-- A record that is there after a purge was there before, and looks the same in whatever a stamp
leaves as it is. -/
theorem purged_same {α β : Type} {selected gone : α → Bool} {f : α → α} {o : Option α} {row' : α}
    (h : some row' =
      (o.map (fun row => if selected row then f row else row)).filter (fun row => !gone row))
    (view : α → β) (hview : ∀ row, view (f row) = view row) :
    ∃ row, o = some row ∧ view row' = view row := by
  revert h
  refine purged_cases o ?_ ?_ ?_ ?_ ?_
  · intro h
    cases h
  · intro row _ _ h
    cases h
    exact ⟨row, rfl, hview row⟩
  · intro row _ _ h
    cases h
  · intro row _ _ h
    cases h
  · intro row _ _ h
    exact ⟨row, rfl, congrArg view (Option.some.inj h)⟩

theorem purged_gone {α : Type} (selected gone : α → Bool) (f : α → α) {row : α}
    (hkept : selected row = false) (hgone : gone row = true) :
    ((some row).map (fun row => if selected row then f row else row)).filter
      (fun row => !gone row) = none := by
  rw [Option.map_some, hkept, if_neg Bool.false_ne_true]
  exact Option.filter_some_neg (by rw [hgone]; rfl)

/-! ## Who reopens -/

/-- The operation gives the alert this status by name. -/
def SetsAlertStatus (op : AlertOp) (i : Uuid) (status : String) : Prop :=
  match op with
  | .updateAlert alertId update _ => alertId = i ∧ update.status = some (some status)
  | .updateCurrentAlert ctx args => ctx = some i ∧ args.status = some status
  | _ => False

/-- An archived record is given a status that is not closed. -/
def ReopensArchived (s : Store) (event : RetentionEvent) : Prop :=
  match event.op with
  | .alerts op =>
      ∃ i row status, s.alerts.find? i = some row ∧ row.Archived ∧
        SetsAlertStatus op i status ∧ status ∉ resolvedAlertStatuses
  | .updateIncident incidentId update _ =>
      ∃ row status, s.incidents.find? incidentId = some row ∧ row.Archived ∧
        update.status = some (some status) ∧ status ∉ closedIncidentStatuses
  | _ => False

theorem TakenOn.staysClosed {a a' : Alert} (h : TakenOn a a')
    (hclosed : a.status.val ∈ resolvedAlertStatuses) :
    a'.status.val ∈ resolvedAlertStatuses := by
  have hnew : a.status.val ≠ "new" := by
    intro hnew
    rw [hnew] at hclosed
    exact absurd hclosed (by decide)
  rw [h.status, if_neg hnew]
  exact hclosed

/-- No change takes an alert out of the closed statuses but by naming another one. -/
theorem Changed.staysClosed {py : PyText} {now : Timestamp} {op : AlertOp} {a a' : Alert}
    {log : List Activity} (h : Changed py now a a' op log)
    (hclosed : a.status.val ∈ resolvedAlertStatuses)
    (hkeep : ∀ status, SetsAlertStatus op a.id status → status ∈ resolvedAlertStatuses) :
    a'.id = a.id ∧ a'.status.val ∈ resolvedAlertStatuses := by
  cases h with
  | duplicate call n hrow =>
      subst hrow
      exact ⟨rfl, hclosed⟩
  | updated update analyst hupdated =>
      refine ⟨hupdated.id, ?_⟩
      rcases Field.assign_ok hupdated.status with ⟨-, hsame⟩ | ⟨status, hgiven, hval⟩
      · rw [hsame]
        exact hclosed
      · rw [hval]
        exact hkeep status ⟨rfl, hgiven⟩
  | claimed analyst hrow =>
      have htaken := claimRow_takenOn analyst a
      rw [← hrow] at htaken
      exact ⟨htaken.id, htaken.staysClosed hclosed⟩
  | bulk body analyst hlisted hbulk =>
      refine ⟨hbulk.rowFunction.1, ?_⟩
      cases hbulk with
      | resolved _ _ _ _ _ _ _ _ hrow =>
          subst hrow
          show "resolved" ∈ resolvedAlertStatuses
          decide
      | assigned _ hrow => exact (bulkAssign_takenOn hrow).staysClosed hclosed
      | severity _ _ _ _ hrow =>
          obtain ⟨_, -, rfl⟩ := hrow
          exact hclosed
  | applied args hvalid happlied =>
      refine ⟨happlied.id, ?_⟩
      rw [happlied.status]
      cases hgiven : args.status with
      | none => exact hclosed
      | some status => exact hkeep status ⟨rfl, hgiven⟩
  | resolved args hvalid happlied =>
      refine ⟨happlied.id, ?_⟩
      rw [happlied.status]
      show "resolved" ∈ resolvedAlertStatuses
      decide
  | unassigned _ _ _ _ hrow =>
      cases hrow
      exact ⟨rfl, hclosed⟩
  | assigned _ _ assignee _ hrow =>
      have htaken := assignRow_takenOn assignee a
      rw [← hrow] at htaken
      exact ⟨htaken.id, htaken.staysClosed hclosed⟩

section Fates

variable {py : PyText} {app : App} {s s' : Store}

theorem step_alert_fate {event : RetentionEvent} (h : retentionStep py app s event = .ok s')
    (i : Uuid) : Fate AlertRow.Archived AlertRow.Closed (ReopensArchived s event)
      (s.alerts.find? i) (s'.alerts.find? i) := by
  have hmove := step_alert_move h i
  generalize hbefore : s.alerts.find? i = o at hmove ⊢
  generalize s'.alerts.find? i = o' at hmove ⊢
  cases hmove with
  | absent => exact .absent
  | created _ _ harchived =>
      refine .added ?_
      rw [AlertRow.Archived, harchived]
      exact Bool.false_ne_true
  | kept row => exact .kept (some row)
  | @changed op row alert _ hop hrewrites =>
      refine .edited id ?_
      intro harchived hclosed
      by_contra hopen
      obtain ⟨hopen, hkeep⟩ := not_or.mp hopen
      have hid : row.key = i := Table.find?_key hbefore
      refine hopen (hrewrites.inv
        (P := fun a => a.id = i ∧ a.status.val ∈ resolvedAlertStatuses) ?_ ⟨hid, hclosed⟩).2
      rintro a a' log' ⟨ha, hstatus⟩ hchanged
      obtain ⟨ha', hstatus'⟩ := hchanged.staysClosed hstatus (by
        intro status hsets
        by_contra hother
        rw [ha] at hsets
        refine hkeep ?_
        rw [ReopensArchived, hop]
        exact ⟨i, row, status, hbefore, harchived, hsets, hother⟩)
      exact ⟨ha'.trans ha, hstatus'⟩
  | purged _ _ _ _ =>
      refine purged_fate _ _ _ ?_ (fun _ hover => graceOver_isSome hover) _ _
      intro row hexpired
      have hclosed : row.Closed := retentionOver_closed hexpired
      exact ⟨hclosed, hclosed⟩

theorem step_incident_fate {event : RetentionEvent} (h : retentionStep py app s event = .ok s')
    (i : Uuid) : Fate IncidentRow.Archived IncidentRow.Closed (ReopensArchived s event)
      (s.incidents.find? i) (s'.incidents.find? i) := by
  have hmove := step_incident_move h i
  generalize hbefore : s.incidents.find? i = o at hmove ⊢
  generalize s'.incidents.find? i = o' at hmove ⊢
  cases hmove with
  | absent => exact .absent
  | created _ _ _ harchived =>
      refine .added ?_
      rw [IncidentRow.Archived, harchived]
      exact Bool.false_ne_true
  | kept row => exact .kept (some row)
  | @updated update _ old new hop hupdated =>
      have hkey : old.key = i := Table.find?_key hbefore
      subst hkey
      refine .edited ?_ ?_
      · intro harchived
        rw [IncidentRow.Archived, hupdated.archivedAt] at harchived
        exact harchived
      · intro harchived hclosed
        rcases Field.assign_ok hupdated.status with ⟨-, hsame⟩ | ⟨status, hgiven, hval⟩
        · left
          rw [IncidentRow.Closed, hsame]
          exact hclosed
        · by_cases hstatus : status ∈ closedIncidentStatuses
          · left
            rw [IncidentRow.Closed, hval]
            exact hstatus
          · right
            rw [ReopensArchived, hop]
            exact ⟨old, status, hbefore, harchived, hgiven, hstatus⟩
  | purged _ _ _ _ =>
      refine purged_fate _ _ _ ?_ (fun _ hover => graceOver_isSome hover) _ _
      intro row hexpired
      have hclosed : row.Closed := retentionOver_closed hexpired
      exact ⟨hclosed, hclosed⟩

/-! ## A record that has been reopened -/

/-- A request that names a status leaves the alert with it, and with its stamp. -/
theorem step_sets_alert {now : Timestamp} {op : AlertOp} {i : Uuid} {row : AlertRow}
    {status : String} (h : retentionStep py app s ⟨now, .alerts op⟩ = .ok s')
    (hrow : s.alerts.find? i = some row) (hsets : SetsAlertStatus op i status) :
    ∃ row', s'.alerts.find? i = some row' ∧ row'.archivedAt = row.archivedAt ∧
      row'.status.val = status := by
  obtain ⟨db, hdb, rfl⟩ := Store.lift_ok (mapError_ok h)
  have hstored : s.db.alerts.find? i = some row.toAlert := by
    rw [Store.find?_db_alerts, hrow, Option.map_some]
  have hid : row.toAlert.id = i := Table.find?_key hstored
  subst hid
  cases op with
  | updateAlert alertId update caller =>
      obtain ⟨rfl, hgiven⟩ := hsets
      obtain ⟨result, hresult, rfl⟩ := map_ok hdb
      obtain ⟨hfind, analyst, activities, hupdated⟩ := updateAlert_self hresult hstored
      refine ⟨_, Store.absorb_alert_stored hrow hfind, rfl, ?_⟩
      have hassigned := hupdated.status
      rw [hgiven] at hassigned
      exact column_val hassigned
  | updateCurrentAlert ctx args =>
      obtain ⟨rfl, hgiven⟩ := hsets
      obtain ⟨result, hresult, rfl⟩ := map_ok hdb
      obtain ⟨hfind, activities, happlied⟩ := updateCurrentAlert_self hresult hstored
      refine ⟨_, Store.absorb_alert_stored hrow hfind, rfl, ?_⟩
      show result.2.status.val = status
      rw [happlied.status, hgiven]
      rfl
  | processWebhook _ => exact hsets.elim
  | claimAlert _ _ => exact hsets.elim
  | bulkUpdateAlerts _ _ => exact hsets.elim
  | resolveCurrentAlert _ _ => exact hsets.elim
  | assignCurrentAlert _ _ _ => exact hsets.elim

/-- The event is a purge whose grace period is over for every archived record. -/
def PastGrace (s : Store) (event : RetentionEvent) : Prop :=
  match event.op with
  | .purge settings elapsed false _ _ =>
      ∀ k archivedBefore, graceCutoff settings (event.now + elapsed k) = .ok archivedBefore →
        (∀ i row, s.alerts.find? i = some row → row.Archived →
          graceOver row.archivedAt archivedBefore = true) ∧
        (∀ i row, s.incidents.find? i = some row → row.Archived →
          graceOver row.archivedAt archivedBefore = true)
  | _ => False

theorem retentionOver_archived {closed : List String} {status : String}
    {archivedAt stampedAt : Option Timestamp} {createdAt stampedBefore createdBefore : Timestamp}
    (h : archivedAt.isSome = true) :
    retentionOver closed status archivedAt stampedAt createdAt stampedBefore createdBefore
      = false := by
  cases archivedAt with
  | none => cases h
  | some archived => rfl

/-- Past the grace period, a purge deletes what is archived. -/
theorem pastGrace_deletes {event : RetentionEvent} (hpast : PastGrace s event)
    (h : retentionStep py app s event = .ok s') :
    (∀ i row, s.alerts.find? i = some row → row.Archived → s'.alerts.find? i = none) ∧
      (∀ i row, s.incidents.find? i = some row → row.Archived →
        s'.incidents.find? i = none) := by
  obtain ⟨now, op⟩ := event
  cases op with
  | purge settings elapsed dryRun actorUsername actorId =>
      cases dryRun with
      | true => exact hpast.elim
      | false =>
          obtain ⟨result, hresult, rfl⟩ := map_ok (mapError_ok h)
          obtain ⟨⟨_, _, alertsBefore, -, -, halerts, halertRows⟩,
            ⟨_, _, incidentsBefore, -, -, hincidents, hincidentRows⟩⟩ :=
              runRetentionPurge_ok hresult
          constructor
          · intro i row hrow harchived
            rw [halertRows i, hrow]
            exact purged_gone _ _ _ (retentionOver_archived harchived)
              ((hpast 14 alertsBefore halerts).1 i row hrow harchived)
          · intro i row hrow harchived
            rw [hincidentRows i, hrow]
            exact purged_gone _ _ _ (retentionOver_archived harchived)
              ((hpast 15 incidentsBefore hincidents).2 i row hrow harchived)
  | alerts _ => exact hpast.elim
  | createIncident _ _ _ => exact hpast.elim
  | updateIncident _ _ _ => exact hpast.elim

/-- After a step that reopens, a purge past the grace period deletes an open record. -/
theorem reopened_is_deleted {event purge : RetentionEvent} {s₂ : Store}
    (hreopens : ReopensArchived s event) (h : retentionStep py app s event = .ok s')
    (hpast : PastGrace s' purge) (hpurge : retentionStep py app s' purge = .ok s₂) :
    ¬ OnlyClosedDeleted s' s₂ := by
  intro hclosed
  obtain ⟨halerts, hincidents⟩ := pastGrace_deletes hpast hpurge
  obtain ⟨now, op⟩ := event
  cases op with
  | alerts op =>
      obtain ⟨i, row, status, hrow, harchived, hsets, hopen⟩ := hreopens
      obtain ⟨row', hrow', hstamp, hstatus⟩ := step_sets_alert h hrow hsets
      have harchived' : row'.Archived := by rw [AlertRow.Archived, hstamp]; exact harchived
      have hclosed' : row'.Closed := hclosed.alerts i row' hrow' (halerts i row' hrow' harchived')
      rw [AlertRow.Closed, hstatus] at hclosed'
      exact hopen hclosed'
  | updateIncident incidentId update caller =>
      obtain ⟨row, status, hrow, harchived, hgiven, hopen⟩ := hreopens
      obtain ⟨result, hresult, rfl⟩ := map_ok (mapError_ok h)
      rcases updateIncident_row hresult incidentId with ⟨hne, -⟩ | ⟨-, old, hold, hupdated, hnew⟩
      · exact hne rfl
      · cases hrow.symm.trans hold
        have harchived' : result.2.Archived := by
          rw [IncidentRow.Archived, hupdated.archivedAt]
          exact harchived
        have hclosed' : result.2.Closed :=
          hclosed.incidents incidentId _ hnew (hincidents incidentId _ hnew harchived')
        have hassigned := hupdated.status
        rw [hgiven] at hassigned
        rw [IncidentRow.Closed, column_val hassigned] at hclosed'
        exact hopen hclosed'
  | createIncident _ _ _ => exact hreopens
  | purge _ _ _ _ _ => exact hreopens

end Fates

/-! ## What a purge deletes -/

/-- **Retention deletes closed records, as long as no archived one is reopened.**  In every
run from a state whose archived records are closed, in which no step gives an archived
record a status that is not closed, every record that a step deletes is closed then; and
after an accepted step that does so, every purge past the grace period deletes a record
that is not. -/
theorem purge_deletes_closed_only {py : PyText} {app : App} {s : Store} (hs : ArchivedClosed s) :
    (∀ es, Along (retentionStep py app) (fun s event => ¬ ReopensArchived s event) s es →
      ∀ x ∈ trace (retentionStep py app) s es, OnlyClosedDeleted x.before x.after) ∧
    ∀ es event s₁ purge s₂, ReopensArchived (run (retentionStep py app) s es) event →
      retentionStep py app (run (retentionStep py app) s es) event = .ok s₁ →
      PastGrace s₁ purge → retentionStep py app s₁ purge = .ok s₂ →
      ¬ OnlyClosedDeleted s₁ s₂ := by
  constructor
  · intro es hkeep x hx
    constructor
    · intro i row
      exact swept_is_final (fun s i => s.alerts.find? i)
        (fun _ _ _ h i => step_alert_fate h i) hs.alerts hkeep x hx i row
    · intro i row
      exact swept_is_final (fun s i => s.incidents.find? i)
        (fun _ _ _ h i => step_incident_fate h i) hs.incidents hkeep x hx i row
  · intro es event s₁ purge s₂ hreopens h hpast hpurge
    exact reopened_is_deleted hreopens h hpast hpurge

theorem archivedClosed_empty : ArchivedClosed .empty where
  alerts _ _ h := nomatch h
  incidents _ _ h := nomatch h

/-! ## A reopened alert -/

def onDay (day : Nat) : Timestamp := day * microsecondsPerDay

/-- A `PATCH` of the first alert. -/
def patched (day : Nat) (status determination : String) : RetentionEvent :=
  ⟨onDay day, .alerts (.updateAlert 1 { AlertUpdate.none with
    status := some (some status)
    determination := some (some determination) } (some administrator))⟩

/-- A purge with the default settings. -/
def purged (day : Nat) : RetentionEvent :=
  ⟨onDay day, .purge defaultSettings (fun _ => 0) false none none⟩

/-- The alert is resolved, archived a year later and reopened on the next day. -/
def reopenedAlert : List RetentionEvent :=
  [⟨onDay 739000, .alerts (.processWebhook loginFailure)⟩,
   patched 739001 "resolved" "malicious", purged 739400,
   patched 739401 "in_progress" "malicious"]

/-- A purge deletes an alert that is in progress. -/
theorem reopened_alert_is_deleted :
    ¬ ∀ es : List RetentionEvent, es.Pairwise (fun event later => event.now < later.now) →
      ∀ x ∈ trace (retentionStep .ascii .core) .empty es, OnlyClosedDeleted x.before x.after := by
  intro hclaim
  have hbefore : ((run (retentionStep .ascii .core) .empty reopenedAlert).alerts.find? 1).map
      (·.status.val) = some "in_progress" := by decide +kernel
  have hafter : (retentionStep .ascii .core (run (retentionStep .ascii .core) .empty reopenedAlert)
      (purged 739431)).map (fun s => (s.alerts.find? 1).isNone) = .ok true := by decide +kernel
  obtain ⟨s', hstep, hgone⟩ := map_ok hafter
  obtain ⟨row, hrow, hstatus⟩ := Option.map_eq_some_iff.mp hbefore
  have hclosed : row.Closed :=
    (hclaim (reopenedAlert ++ [purged 739431]) (by decide +kernel) _
      (mem_trace_of_step _ hstep)).alerts 1 row hrow (Option.isNone_iff_eq_none.mp hgone)
  rw [AlertRow.Closed, hstatus] at hclosed
  exact absurd hclosed (by decide)

/-- The alert is resolved, archived a year later and deleted after the grace period. -/
def resolvedAlert : List RetentionEvent :=
  [⟨onDay 739000, .alerts (.processWebhook loginFailure)⟩,
   patched 739001 "resolved" "malicious", purged 739400, purged 739431]

theorem purge_deletes_closed_only_of_resolvedAlert :
    ((run (retentionStep .ascii .core) .empty resolvedAlert).alerts.find? 1).isNone = true ∧
      ∀ x ∈ trace (retentionStep .ascii .core) .empty resolvedAlert,
        OnlyClosedDeleted x.before x.after := by
  refine ⟨by decide +kernel, (purge_deletes_closed_only archivedClosed_empty).1 _ ?_⟩
  refine along_of_forall _ ?_ _
  intro event hevent s hreopens
  simp only [resolvedAlert, List.mem_cons, List.not_mem_nil, or_false] at hevent
  rcases hevent with rfl | rfl | rfl | rfl
  · obtain ⟨_, _, _, -, -, hsets, -⟩ := hreopens
    exact hsets
  · obtain ⟨_, _, status, -, -, ⟨-, hgiven⟩, hopen⟩ := hreopens
    cases hgiven
    exact hopen (by decide)
  · exact hreopens
  · exact hreopens

end OpenSoar
