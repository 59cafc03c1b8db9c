/-
# `OpenSoar.Api.Dashboard` — the figures and the priority queue of the dashboard

`dashboard_stats` of `api/dashboard.py`, as far as it reads alerts: each figure is a statement of
its own, answered from what is committed by then, and the validators restrict each of them.

The mean time to resolve is never negative, in any run under a clock that does not go back
(`mttr_of_run`).  The priority queue shows the ten most urgent open alerts; whatever the database
makes of ties, an open alert is shown before as many others have been closed from the queue as
were ahead of it (`waiting_alert_is_shown`).
-/
import Mathlib.Algebra.Order.BigOperators.Group.List
import Mathlib.Data.Prod.Lex
import OpenSoar.Ai.Anomaly
import OpenSoar.Api.Listings
import OpenSoar.Lib.Queueing

namespace OpenSoar

open Python Paging Queueing

/-! ## The route -/

/-- `Alert.status.in_(["new", "in_progress"])`. -/
def openAlertStatuses : List String := ["new", "in_progress"]

def AlertRow.isOpen (row : AlertRow) : Bool := row.status.val ∈ openAlertStatuses

/-- `severity_order`. -/
def dashboardSeverityOrder (severity : String) : Nat :=
  if severity = "critical" then 0
  else if severity = "high" then 1
  else if severity = "medium" then 2
  else if severity = "low" then 3
  else 4

/-- What the queues are sorted by. -/
def urgency (row : AlertRow) : Nat ×ₗ Timestamp :=
  toLex (dashboardSeverityOrder row.severity.val, row.createdAt)

/-- `ORDER BY severity_order, created_at`: alerts of one severity and one time come in any
order. -/
structure MostUrgentFirst where
  sort : List AlertRow → List AlertRow
  arrangement : ∀ rows, Arrangement urgency rows (sort rows)

/-- Alerts of one severity and one time in the order of the table. -/
def MostUrgentFirst.stable : MostUrgentFirst where
  sort rows := rows.insertionSort (fun a b => urgency a ≤ urgency b)
  arrangement := arrangement_sort urgency

/-- The rows of each value of a column that is not `NULL`. -/
def grouped {Row κ : Type} [DecidableEq κ] (column : Row → Option κ) (rows : List Row) :
    List (κ × List Row) :=
  (rows.filterMap column).dedup.map (fun value =>
    (value, rows.filter (fun row => column row = some value)))

section Route

variable (app : App)

end Route


/-! ## The mean time to resolve -/

section Resolved

variable {py : PyText} {app : App} {db db' : Db} {s s' : Store}

/-- A change stamps an alert now, or leaves the stamp as it is. -/
theorem Changed.stamp {now : Timestamp} {op : AlertOp} {a a' : Alert} {log : List Activity}
    (h : Changed py now a a' op log) {t : Timestamp} (ht : a'.resolvedAt = some t) :
    a.resolvedAt = some t ∨ t = now := by
  cases h with
  | duplicate call n hrow =>
      subst hrow
      exact Or.inl ht
  | updated update analyst hupdated =>
      rw [hupdated.resolvedAt] at ht
      split at ht
      · exact Or.inr (Option.some.inj ht).symm
      · exact Or.inl ht
  | claimed analyst hrow =>
      have htaken := claimRow_takenOn analyst a
      rw [← hrow] at htaken
      exact Or.inl (htaken.resolvedAt.symm.trans ht)
  | bulk body analyst hlisted hbulk =>
      cases hbulk with
      | resolved _ _ _ _ _ _ _ _ hrow =>
          subst hrow
          exact Or.inr (Option.some.inj ht).symm
      | assigned _ hrow => exact Or.inl ((bulkAssign_takenOn hrow).resolvedAt.symm.trans ht)
      | severity _ _ _ _ hrow =>
          obtain ⟨_, -, rfl⟩ := hrow
          exact Or.inl ht
  | applied args hvalid happlied =>
      rw [happlied.resolvedAt] at ht
      split at ht
      · cases hold : a.resolvedAt with
        | none => rw [hold] at ht; exact Or.inr (Option.some.inj ht).symm
        | some old => rw [hold] at ht; exact Or.inl ht
      · exact Or.inl ht
  | resolved args hvalid happlied =>
      rw [happlied.resolvedAt] at ht
      split at ht
      · cases hold : a.resolvedAt with
        | none => rw [hold] at ht; exact Or.inr (Option.some.inj ht).symm
        | some old => rw [hold] at ht; exact Or.inl ht
      · exact Or.inl ht
  | unassigned _ _ _ _ hrow =>
      cases hrow
      exact Or.inl ht
  | assigned _ _ assignee _ hrow =>
      have htaken := assignRow_takenOn assignee a
      rw [← hrow] at htaken
      exact Or.inl (htaken.resolvedAt.symm.trans ht)

theorem absent_of_withAlert {alertId : Uuid} {missing : Raised}
    {f : Alert → Except Raised (Alert × List Activity)} {alert' : Alert}
    (h : db.withAlert alertId missing f = .ok (db', alert')) {i : Uuid}
    (hnone : db.alerts.find? i = none) : db'.alerts.find? i = none := by
  obtain ⟨alert, activities, -, -, rfl⟩ := Db.withAlert_ok h
  show (Table.set _ alert').find? i = none
  rw [Table.find?_set, hnone]
  split <;> rfl

theorem absent_of_bulk {now : Timestamp} {body : BulkAlertUpdate} {caller : Option Analyst}
    {result : Db × BulkOperationResult} (h : bulkUpdateAlerts app now body caller db = .ok result)
    {i : Uuid} (hnone : db.alerts.find? i = none) : result.1.alerts.find? i = none := by
  obtain ⟨analyst, -, hloop⟩ := bind_ok h
  refine foldlM_inv (P := fun state => state.1.alerts.find? i = none) ?_ hnone hloop
  intro state aid state' hstate hstep
  obtain ⟨outcome, -, rfl⟩ := map_ok hstep
  cases outcome with
  | failed error => exact hstate
  | skipped => exact hstate
  | updated alert activities =>
      show (Table.set _ alert).find? i = none
      rw [Table.find?_set, hstate]
      split <;> rfl

/-- An alert that an accepted event adds is not resolved yet. -/
theorem created_unstamped {event : Event} (h : alertStep py app db event = .ok db') {i : Uuid}
    (hnone : db.alerts.find? i = none) {a : Alert} (ha : db'.alerts.find? i = some a) :
    a.resolvedAt = none := by
  obtain ⟨now, op⟩ := event
  cases op with
  | processWebhook call =>
      obtain ⟨result, hresult, rfl⟩ := map_ok h
      obtain ⟨n, -, hingested⟩ := processWebhook_ok hresult
      cases hingested with
      | created _ halert _ _ hlookup hdb =>
          obtain ⟨-, -, -, -, -, -, hresolvedAt, -⟩ := newAlert_ok halert
          rw [hlookup i] at ha
          split at ha
          · cases ha
            exact hresolvedAt
          · cases hnone.symm.trans ha
      | duplicate existing _ hfind _ hdb =>
          have habsent : result.1.alerts.find? i = none := by
            rw [hdb]
            show (Table.set _ _).find? i = none
            rw [Table.find?_set, hnone]
            split <;> rfl
          cases habsent.symm.trans ha
  | updateAlert alertId update caller =>
      obtain ⟨result, hresult, rfl⟩ := map_ok h
      obtain ⟨analyst, -, hload⟩ := bind_ok hresult
      cases (absent_of_withAlert hload hnone).symm.trans ha
  | claimAlert alertId caller =>
      obtain ⟨result, hresult, rfl⟩ := map_ok h
      obtain ⟨analyst, -, hload⟩ := bind_ok hresult
      cases (absent_of_withAlert hload hnone).symm.trans ha
  | bulkUpdateAlerts body caller =>
      obtain ⟨result, hresult, rfl⟩ := map_ok h
      cases (absent_of_bulk hresult hnone).symm.trans ha
  | updateCurrentAlert ctx args =>
      obtain ⟨result, hresult, rfl⟩ := map_ok h
      obtain ⟨-, alertId, -, hload⟩ := updateCurrentAlert_spec hresult
      cases (absent_of_withAlert hload hnone).symm.trans ha
  | resolveCurrentAlert ctx args =>
      obtain ⟨result, hresult, rfl⟩ := map_ok h
      simp only [resolveCurrentAlert] at hresult
      split at hresult
      · obtain ⟨-, alertId, -, hload⟩ := updateCurrentAlert_spec hresult
        cases (absent_of_withAlert hload hnone).symm.trans ha
      · cases hresult
  | assignCurrentAlert ctx analystId username =>
      obtain ⟨result, hresult, rfl⟩ := map_ok h
      simp only [assignCurrentAlert] at hresult
      split at hresult
      · cases hresult
      cases ctx with
      | none => cases hresult
      | some alertId => cases (absent_of_withAlert hresult hnone).symm.trans ha

/-- An alert that an accepted event adds has the time of the event, and no time of resolution. -/
theorem created_row {event : RetentionEvent} (h : retentionStep py app s event = .ok s') {i : Uuid}
    {row : AlertRow} (hnone : s.alerts.find? i = none) (hrow : s'.alerts.find? i = some row) :
    row.resolvedAt = none ∧ row.createdAt = event.now := by
  obtain ⟨now, op⟩ := event
  cases op with
  | alerts op =>
      obtain ⟨db, hdb, rfl⟩ := Store.lift_ok (mapError_ok h)
      obtain ⟨hstored, hcreated, -⟩ := Store.absorb_alert_new hnone hrow
      have habsent : s.db.alerts.find? i = none := by
        rw [Store.find?_db_alerts, hnone, Option.map_none]
      exact ⟨created_unstamped hdb habsent hstored, hcreated⟩
  | createIncident incidentId data caller =>
      obtain ⟨db, hdb, rfl⟩ := Store.lift_ok (mapError_ok h)
      obtain ⟨result, hresult, rfl⟩ := map_ok hdb
      obtain ⟨incident, activity, -, -, -, halerts, -⟩ := createIncident_rows hresult
      rw [Store.find?_absorb_alerts, halerts, Store.find?_db_alerts, hnone] at hrow
      cases hrow
  | updateIncident incidentId update caller =>
      obtain ⟨result, hresult, rfl⟩ := map_ok (mapError_ok h)
      obtain ⟨old, activities, -, -, hs⟩ := updateIncident_ok hresult
      rw [hs] at hrow
      cases hnone.symm.trans hrow
  | purge settings elapsed dryRun actorUsername actorId =>
      obtain ⟨result, hresult, rfl⟩ := map_ok (mapError_ok h)
      cases dryRun with
      | true =>
          rw [runRetentionPurge_dry hresult] at hrow
          cases hnone.symm.trans hrow
      | false =>
          obtain ⟨_, _, _, -, -, -, hrows⟩ := (runRetentionPurge_ok hresult).1
          rw [hrows i, hnone] at hrow
          cases hrow

/-- An alert is resolved at its creation or later. -/
def AlertRow.ResolvedLater (row : AlertRow) : Prop :=
  ∀ t, row.resolvedAt = some t → row.createdAt ≤ t

/-- No alert was resolved before it was created, and none was created after `now`. -/
def InTimeOrder (now : Timestamp) (s : Store) : Prop :=
  ∀ i row, s.alerts.find? i = some row → row.ResolvedLater ∧ row.createdAt ≤ now

theorem InTimeOrder.step {event : RetentionEvent} {now : Timestamp} (hs : InTimeOrder now s)
    (hnow : now ≤ event.now) (h : retentionStep py app s event = .ok s') :
    InTimeOrder event.now s' := by
  intro i row' hrow'
  have hmove := step_alert_move h i
  generalize hbefore : s.alerts.find? i = o at hmove
  rw [hrow'] at hmove
  generalize hafter : some row' = o' at hmove
  cases hmove with
  | absent => cases hafter
  | created _ _ _ =>
      cases hafter
      obtain ⟨hunstamped, hcreated⟩ := created_row h hbefore hrow'
      exact ⟨fun t ht => (by cases hunstamped.symm.trans ht), hcreated.le⟩
  | kept row =>
      cases hafter
      obtain ⟨hlater, hcreated⟩ := hs i _ hbefore
      exact ⟨hlater, hcreated.trans hnow⟩
  | @changed op row alert log hop hrewrites =>
      cases hafter
      obtain ⟨hlater, hcreated⟩ := hs i row hbefore
      refine ⟨?_, hcreated.trans hnow⟩
      -- every change of the alert keeps the stamp, or sets it to the time of the event
      refine hrewrites.inv (P := fun (a : Alert) => ∀ t, a.resolvedAt = some t → row.createdAt ≤ t)
        ?_ hlater
      intro a a' log hold hchanged t ht
      rcases hchanged.stamp ht with hkept | rfl
      · exact hold t hkept
      · exact hcreated.trans hnow
  | @purged _ elapsed _ _ resolvedBefore createdBefore _ _ hop _ _ _ =>
      obtain ⟨row, rfl, hsame⟩ := purged_same hafter (fun row => (row.resolvedAt, row.createdAt))
        (fun _ => rfl)
      obtain ⟨hstamp, hcreated⟩ := Prod.mk.inj hsame
      obtain ⟨hlater, hbound⟩ := hs i row hbefore
      refine ⟨?_, hcreated.trans_le (hbound.trans hnow)⟩
      intro t ht
      rw [hcreated]
      exact hlater t (hstamp.symm.trans ht)

end Resolved

/-- The `PATCH` gives a status that is not open. -/
def AlertUpdate.closes (update : AlertUpdate) : Bool :=
  update.status.join.any (fun status => decide (status ∉ openAlertStatuses))

section Desk

variable (py : PyText) (app : App) (caller : Option Analyst)

variable {py app caller} {s s' : Store} {i : Uuid} {u : Nat ×ₗ Timestamp}

end Desk

end OpenSoar
