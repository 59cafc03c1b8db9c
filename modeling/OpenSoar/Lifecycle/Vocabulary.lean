/-
# `OpenSoar.Lifecycle.Vocabulary` — the statuses and determinations an alert can have

Three statuses and four determinations, over every run from the ingest that creates
the alert.  The playbook helpers check both against their lists.  A `PATCH` takes any
status that fits its column and, because its check of the determination is skipped by
a falsy value, the empty determination; a bulk resolution takes any determination that
fits.  `OutsideVocabulary` is an operation that does so, and the rule holds as long as
no such operation meets the alert (`vocabulary_is_closed`).
-/
import OpenSoar.Lifecycle.System

namespace OpenSoar

open Python

/-- The documented statuses and determinations. -/
structure InVocabulary (alert : Alert) : Prop where
  status : alert.status.val ∈ validAlertStatuses
  determination : alert.determination.val ∈ validDeterminations

/-- The operation gives a status or a determination that is not in the vocabulary, on a
path that does not check it. -/
def OutsideVocabulary (op : AlertOp) : Prop :=
  match op with
  | .updateAlert _ update _ =>
      (∃ status, update.status = some (some status) ∧ status ∉ validAlertStatuses) ∨
        update.determination = some (some "")
  | .bulkUpdateAlerts body _ =>
      body.action = "resolve" ∧
        ∃ d, truthy body.determination = some d ∧ d ∉ validDeterminations
  | _ => False

/-- Such an operation on this alert; a bulk resolution passes over an alert that is
resolved already. -/
def LeavesVocabulary (op : AlertOp) (alert : Alert) : Prop :=
  OutsideVocabulary op ∧
    match op with
    | .updateAlert alertId _ _ => alertId = alert.id
    | .bulkUpdateAlerts body _ => alert.id ∈ body.alertIds ∧ alert.status.val ≠ "resolved"
    | _ => False

theorem Updated.inVocabulary {py : PyText} {now : Timestamp} {analyst : Analyst}
    {update : AlertUpdate} {a a' : Alert} {log : List Activity}
    (h : Updated py now analyst update a a' log) (ha : InVocabulary a)
    (hstatus : ∀ status, update.status = some (some status) → status ∈ validAlertStatuses)
    (hdetermination : update.determination ≠ some (some "")) : InVocabulary a' := by
  constructor
  · rcases Field.assign_ok h.status with ⟨-, hsame⟩ | ⟨status, hgiven, hval⟩
    · rw [hsame]
      exact ha.status
    · rw [hval]
      exact hstatus status hgiven
  · rcases Field.assign_ok h.determination with ⟨-, hsame⟩ | ⟨d, hgiven, hval⟩
    · rw [hsame]
      exact ha.determination
    · -- a given determination is not empty, so the guard has looked at it
      have hne : d ≠ "" := by
        rintro rfl
        exact hdetermination hgiven
      have htruthy : truthy update.determination.join = some d := by
        rw [hgiven]
        exact truthy_eq_some.mpr ⟨rfl, hne⟩
      rw [hval]
      exact (validateUpdate_ok h.valid).1 d htruthy

theorem TakenOn.inVocabulary {a a' : Alert} (h : TakenOn a a') (ha : InVocabulary a) :
    InVocabulary a' := by
  constructor
  · rw [h.status]
    split
    · decide
    · exact ha.status
  · rw [h.determination]
    exact ha.determination

theorem Applied.inVocabulary {now : Timestamp} {args : CurrentAlertUpdate} {a a' : Alert}
    {log : List Activity} (h : Applied now args a a' log)
    (hvalid : validateCurrent args = .ok ()) (ha : InVocabulary a) : InVocabulary a' := by
  obtain ⟨hstatus, hdetermination, -⟩ := validateCurrent_ok hvalid
  constructor
  · rw [h.status]
    cases hgiven : args.status with
    | none => exact ha.status
    | some status => exact hstatus status hgiven
  · rw [h.determination]
    cases hgiven : args.determination with
    | none => exact ha.determination
    | some d => exact hdetermination d hgiven

theorem BulkChanged.inVocabulary {now : Timestamp} {analyst : Analyst} {body : BulkAlertUpdate}
    {a a' : Alert} {log : List Activity} (h : BulkChanged now analyst body a a' log)
    (ha : InVocabulary a)
    (hdetermination : body.action = "resolve" → a.status.val ≠ "resolved" →
      ∀ d, truthy body.determination = some d → d ∈ validDeterminations) : InVocabulary a' := by
  cases h with
  | resolved _ _ _ haction hopen _ _ hdet hrow =>
      subst hrow
      constructor
      · show "resolved" ∈ validAlertStatuses
        decide
      · rw [hdet]
        cases hgiven : truthy body.determination with
        | none => exact ha.determination
        | some d => exact hdetermination haction hopen d hgiven
  | assigned _ hrow => exact (bulkAssign_takenOn hrow).inVocabulary ha
  | severity _ _ _ _ hrow =>
      obtain ⟨_, -, rfl⟩ := hrow
      exact ⟨ha.status, ha.determination⟩

/-- Every change that does not leave the vocabulary keeps it. -/
theorem Changed.inVocabulary {py : PyText} {now : Timestamp} {op : AlertOp} {a a' : Alert}
    {log : List Activity} (h : Changed py now a a' op log) (ha : InVocabulary a)
    (hkeeps : ¬ LeavesVocabulary op a) : InVocabulary a' := by
  cases h with
  | duplicate call n hrow =>
      subst hrow
      exact ⟨ha.status, ha.determination⟩
  | updated update analyst hupdated =>
      refine hupdated.inVocabulary ha ?_ ?_
      · intro status hgiven
        by_contra hother
        exact hkeeps ⟨Or.inl ⟨status, hgiven, hother⟩, rfl⟩
      · intro hempty
        exact hkeeps ⟨Or.inr hempty, rfl⟩
  | claimed analyst hrow =>
      have htaken := claimRow_takenOn analyst a
      rw [← hrow] at htaken
      exact htaken.inVocabulary ha
  | bulk body analyst hlisted hbulk =>
      refine hbulk.inVocabulary ha ?_
      intro haction hopen d hgiven
      by_contra hother
      exact hkeeps ⟨⟨haction, d, hgiven, hother⟩, hlisted, hopen⟩
  | applied args hvalid happlied => exact happlied.inVocabulary hvalid ha
  | resolved args hvalid happlied => exact happlied.inVocabulary hvalid ha
  | unassigned _ _ _ _ hrow =>
      cases hrow
      exact ⟨ha.status, ha.determination⟩
  | assigned _ _ assignee _ hrow =>
      have htaken := assignRow_takenOn assignee a
      rw [← hrow] at htaken
      exact htaken.inVocabulary ha

/-- A repetition of the operation finds the alert resolved, or is the same `PATCH`. -/
theorem Changed.not_leaves {py : PyText} {now : Timestamp} {op : AlertOp} {a a' : Alert}
    {log : List Activity} (h : Changed py now a a' op log) (hkeeps : ¬ LeavesVocabulary op a) :
    ¬ LeavesVocabulary op a' := by
  rintro ⟨houtside, hop⟩
  cases h with
  | updated update analyst hupdated => exact hkeeps ⟨houtside, rfl⟩
  | bulk body analyst hlisted hbulk =>
      refine hkeeps ⟨houtside, hlisted, ?_⟩
      obtain ⟨haction, -⟩ := houtside
      cases hbulk with
      | resolved _ _ _ _ hopen _ _ _ _ => exact hopen
      | assigned hother _ => exact absurd (haction.symm.trans hother) (by decide)
      | severity _ _ hother _ _ => exact absurd (haction.symm.trans hother) (by decide)
  | duplicate _ _ _ => exact hop
  | claimed _ _ => exact hop
  | applied _ _ _ => exact hop
  | resolved _ _ _ => exact hop
  | unassigned _ _ _ _ _ => exact hop
  | assigned _ _ _ _ _ => exact hop

/-- A row that an operation outside the vocabulary has changed is outside it. -/
theorem Changed.not_inVocabulary {py : PyText} {now : Timestamp} {op : AlertOp} {a a' : Alert}
    {log : List Activity} (h : Changed py now a a' op log) (houtside : OutsideVocabulary op) :
    ¬ InVocabulary a' := by
  rintro ⟨hstatus, hdetermination⟩
  cases h with
  | updated update analyst hupdated =>
      rcases houtside with ⟨status, hgiven, hother⟩ | hempty
      · rcases Field.assign_ok hupdated.status with ⟨hnone, -⟩ | ⟨status', hgiven', hval⟩
        · rw [hgiven] at hnone
          cases hnone
        · cases hgiven.symm.trans hgiven'
          rw [hval] at hstatus
          exact hother hstatus
      · rcases Field.assign_ok hupdated.determination with ⟨hnone, -⟩ | ⟨d, hgiven, hval⟩
        · rw [hempty] at hnone
          cases hnone
        · cases hempty.symm.trans hgiven
          rw [hval] at hdetermination
          exact absurd hdetermination (by decide)
  | bulk body analyst _ hbulk =>
      obtain ⟨haction, d, hgiven, hother⟩ := houtside
      cases hbulk with
      | resolved _ _ _ _ _ _ _ hdet hrow =>
          subst hrow
          rw [hdet, hgiven] at hdetermination
          exact hother hdetermination
      | assigned hassign _ => exact absurd (haction.symm.trans hassign) (by decide)
      | severity _ _ hseverity _ _ => exact absurd (haction.symm.trans hseverity) (by decide)
  | duplicate _ _ _ => exact houtside
  | claimed _ _ => exact houtside
  | applied _ _ _ => exact houtside
  | resolved _ _ _ => exact houtside
  | unassigned _ _ _ _ _ => exact houtside
  | assigned _ _ _ _ _ => exact houtside

/-- **The vocabulary is closed under every operation that checks it.**  From the ingest
that creates the alert, its status and determination are documented ones in every
state of every run that has no `LeavesVocabulary` step on it; and a row that an
accepted step outside the vocabulary changes is outside it. -/
theorem vocabulary_is_closed {py : PyText} {app : App} {call : WebhookCall}
    {db₀ db : Db} {a : Alert} (h : processWebhook py call db₀ = .ok (db, a))
    (hnew : db₀.alerts.find? a.id = none) :
    (∀ es, Along (alertStep py app) (OnRow a.id (fun op row => ¬ LeavesVocabulary op row)) db es →
      (run (alertStep py app) db es).Row a.id InVocabulary) ∧
    ∀ es event db' row, (run (alertStep py app) db es).alerts.find? a.id = some row →
      OutsideVocabulary event.op →
      alertStep py app (run (alertStep py app) db es) event = .ok db' →
      db'.Row a.id (fun row' => row' = row ∨ ¬ InVocabulary row') := by
  obtain ⟨hfind, hstatus, hdetermination, -, -⟩ := processWebhook_created h hnew
  constructor
  · intro es hes
    refine run_row_inv (P := fun row _ => InVocabulary row) ?_ es ⟨a, hfind, ?_⟩ hes
    · intro now op row row' _ log hrow hkeeps hrewrites
      refine (hrewrites.inv (P := fun r => InVocabulary r ∧ ¬ LeavesVocabulary op r) ?_
        ⟨hrow, hkeeps⟩).1
      intro r r' log' hr hchanged
      exact ⟨hchanged.inVocabulary hr.1 hr.2, hchanged.not_leaves hr.2⟩
    · exact ⟨by rw [hstatus]; decide, by rw [hdetermination]; decide⟩
  · intro es event db' row hrow houtside hstep
    obtain ⟨row', log, hfind', -, hrewrites⟩ := step_row hstep hrow
    refine ⟨row', hfind', ?_⟩
    refine hrewrites.inv (P := fun r => r = row ∨ ¬ InVocabulary r) ?_ (Or.inl rfl)
    intro r r' log' _ hchanged
    exact Or.inr (hchanged.not_inVocabulary houtside)

/-- A `PATCH` that closes the alert. -/
def closedByPatch : List Event :=
  [⟨100, .updateAlert 1 { AlertUpdate.none with status := some (some "closed") }
      (some administrator)⟩]

/-- A `PATCH` gives an alert a status that is none of the three. -/
theorem patched_alert_leaves_the_vocabulary :
    ¬ ∀ (call : WebhookCall) (db₀ db : Db) (a : Alert) (es : List Event),
      processWebhook .ascii call db₀ = .ok (db, a) → db₀.alerts.find? a.id = none →
      (run (alertStep .ascii .core) db es).Row a.id InVocabulary := by
  intro hclaim
  have hresult : (processWebhook .ascii loginFailure .empty).map (fun p =>
      ((run (alertStep .ascii .core) p.1 closedByPatch).alerts.find? p.2.id).map
        Alert.tracked) = .ok (some ⟨"closed", "unknown", "medium"⟩) := by decide +kernel
  obtain ⟨⟨db, a⟩, hok, hview⟩ := map_ok hresult
  obtain ⟨row, hrow, hstatus, -⟩ := hclaim loginFailure .empty db a closedByPatch hok rfl
  rw [hrow, Option.map_some] at hview
  have htracked : row.tracked = ⟨"closed", "unknown", "medium"⟩ := Option.some.inj hview
  have hclosed : row.status.val = "closed" := congrArg Tracked.status htracked
  rw [hclosed] at hstatus
  exact absurd hstatus (by decide)

theorem vocabulary_is_closed_of_loginFailure :
    ∃ db a, processWebhook .ascii loginFailure .empty = .ok (db, a) ∧
      (∀ es, Along (alertStep .ascii .core)
          (OnRow a.id (fun op row => ¬ LeavesVocabulary op row)) db es →
        (run (alertStep .ascii .core) db es).Row a.id InVocabulary) := by
  obtain ⟨db, a, hok⟩ := loginFailure_ingested
  exact ⟨db, a, hok, (vocabulary_is_closed hok rfl).1⟩

end OpenSoar
