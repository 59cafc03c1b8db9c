/-
# `OpenSoar.Lifecycle.Resolution` — judgments and resolution times

Two rules about resolved alerts, both over every run from the ingest that creates
the alert.

* A resolved alert has a determination other than `unknown`.  Every operation that
  resolves an alert checks this, but an operation that sets the determination
  alone does not look at the status: `ForgetsJudgment` is that case, and the only
  one (`resolved_alerts_are_judged`).
* `resolved_at` is set exactly on the resolved alerts, to the time at which the
  alert was last resolved.  No operation that moves an alert out of `resolved`
  clears it: `Reopens` is that case, and the only one (`resolved_at_is_exact`).
-/
import OpenSoar.Lifecycle.System

namespace OpenSoar

open Python

/-! ## The judgment behind a resolution -/

/-- "An alert cannot be resolved while its determination is `unknown`." -/
def JudgedWhenResolved (alert : Alert) : Prop :=
  alert.status.val = "resolved" → alert.determination.val ≠ "unknown"

/-- The determination of a resolved alert is set back to `unknown`, by a request or a
playbook that leaves the status out. -/
def ForgetsJudgment (op : AlertOp) (alert : Alert) : Prop :=
  alert.status.val = "resolved" ∧
    match op with
    | .updateAlert alertId update _ =>
        alertId = alert.id ∧ update.status = none ∧ update.determination.join = some "unknown"
    | .updateCurrentAlert ctx args =>
        ctx = some alert.id ∧ args.status = none ∧ args.determination = some "unknown"
    | _ => False

theorem Updated.judged {py : PyText} {now : Timestamp} {analyst : Analyst}
    {update : AlertUpdate} {a a' : Alert} {log : List Activity}
    (h : Updated py now analyst update a a' log) (ha : JudgedWhenResolved a)
    (hkeeps : update.status = none → update.determination.join = some "unknown" →
      a.status.val ≠ "resolved") : JudgedWhenResolved a' := by
  intro hresolved hunknown
  obtain ⟨-, hguard⟩ := validateUpdate_ok h.valid
  rcases Field.assign_ok h.status with ⟨hstatus, hsame⟩ | ⟨status, hstatus, hval⟩
  · -- the status is left alone: the alert was resolved before
    have hbefore : a.status.val = "resolved" := by rw [← hsame]; exact hresolved
    rcases Field.assign_ok h.determination with ⟨-, hdet⟩ | ⟨d, hdet, hval⟩
    · exact ha hbefore (by rw [← hdet]; exact hunknown)
    · refine hkeeps hstatus ?_ hbefore
      rw [hdet, ← hval, hunknown]
      rfl
  · -- the status is set to `resolved`: the guard has looked at the determination
    have hjoin : update.status.join = some "resolved" := by rw [hstatus, ← hval, hresolved]; rfl
    refine hguard hjoin ?_
    rcases Field.assign_ok h.determination with ⟨hdet, hsame⟩ | ⟨d, hdet, hval'⟩
    · rw [hdet, ← hunknown, hsame]
      rfl
    · rw [hdet, ← hval', hunknown]
      rfl

theorem Applied.judged {now : Timestamp} {args : CurrentAlertUpdate} {a a' : Alert}
    {log : List Activity} (h : Applied now args a a' log) (hvalid : validateCurrent args = .ok ())
    (ha : JudgedWhenResolved a)
    (hkeeps : args.status = none → args.determination = some "unknown" →
      a.status.val ≠ "resolved") : JudgedWhenResolved a' := by
  intro hresolved hunknown
  obtain ⟨-, -, hguard⟩ := validateCurrent_ok hvalid
  rw [h.status] at hresolved
  rw [h.determination] at hunknown
  cases hstatus : args.status with
  | none =>
      rw [hstatus] at hresolved
      cases hdet : args.determination with
      | none => rw [hdet] at hunknown; exact ha hresolved hunknown
      | some d =>
          rw [hdet] at hunknown
          exact hkeeps hstatus (hdet.trans (congrArg some hunknown)) hresolved
  | some status =>
      rw [hstatus] at hresolved
      obtain ⟨d, hdet, hknown⟩ := hguard (hstatus.trans (congrArg some hresolved))
      rw [hdet] at hunknown
      exact hknown hunknown

theorem TakenOn.judged {a a' : Alert} (h : TakenOn a a') (ha : JudgedWhenResolved a) :
    JudgedWhenResolved a' := by
  intro hresolved
  rw [h.determination]
  exact ha (h.resolved_iff.mp hresolved)

/-- Every change that does not forget the judgment keeps the rule. -/
theorem Changed.judged {py : PyText} {now : Timestamp} {op : AlertOp} {a a' : Alert}
    {log : List Activity} (h : Changed py now a a' op log) (ha : JudgedWhenResolved a)
    (hkeeps : ¬ ForgetsJudgment op a) : JudgedWhenResolved a' := by
  cases h with
  | duplicate call n hrow => rw [hrow]; exact ha
  | updated update analyst hupdated =>
      exact hupdated.judged ha (fun hstatus hdet hresolved =>
        hkeeps ⟨hresolved, rfl, hstatus, hdet⟩)
  | claimed analyst hrow =>
      have htaken := claimRow_takenOn analyst a
      rw [← hrow] at htaken
      exact htaken.judged ha
  | bulk body analyst _ hbulk =>
      cases hbulk with
      | resolved _ _ _ _ _ hknown _ hdet hrow =>
          subst hrow
          intro _ hunknown
          exact hknown (hdet.symm.trans hunknown)
      | assigned _ hrow => exact (bulkAssign_takenOn hrow).judged ha
      | severity _ _ _ _ hrow =>
          obtain ⟨_, -, rfl⟩ := hrow
          exact ha
  | applied args hvalid happlied =>
      exact happlied.judged hvalid ha (fun hstatus hdet hresolved =>
        hkeeps ⟨hresolved, rfl, hstatus, hdet⟩)
  | resolved args hvalid happlied =>
      exact happlied.judged hvalid ha (fun hstatus => by cases hstatus)
  | unassigned _ _ _ _ hrow => cases hrow; exact ha
  | assigned _ _ assignee _ hrow =>
      have htaken := assignRow_takenOn assignee a
      rw [← hrow] at htaken
      exact htaken.judged ha

/-- Only an alert that is resolved before the change can have its judgment forgotten
by a repetition of it. -/
theorem Changed.not_forgets {py : PyText} {now : Timestamp} {op : AlertOp} {a a' : Alert}
    {log : List Activity} (h : Changed py now a a' op log) (hkeeps : ¬ ForgetsJudgment op a) :
    ¬ ForgetsJudgment op a' := by
  rintro ⟨hresolved, hop⟩
  cases h with
  | updated update analyst hupdated =>
      obtain ⟨-, hstatus, hdet⟩ := hop
      rcases Field.assign_ok hupdated.status with ⟨-, hsame⟩ | ⟨status, hgiven, -⟩
      · exact hkeeps ⟨by rw [← hsame]; exact hresolved, rfl, hstatus, hdet⟩
      · rw [hstatus] at hgiven
        cases hgiven
  | applied args hvalid happlied =>
      obtain ⟨-, hstatus, hdet⟩ := hop
      have hsame := happlied.status
      rw [hstatus] at hsame
      exact hkeeps ⟨hsame.symm.trans hresolved, rfl, hstatus, hdet⟩
  | duplicate _ _ _ => exact hop
  | claimed _ _ => exact hop
  | bulk _ _ _ _ => exact hop
  | resolved _ _ _ => exact hop
  | unassigned _ _ _ _ _ => exact hop
  | assigned _ _ _ _ _ => exact hop

/-- An accepted step that forgets the judgment breaks the rule. -/
theorem not_judged_of_forgets {py : PyText} {app : App} {db db' : Db} {event : Event} {a : Alert}
    (ha : db.alerts.find? a.id = some a) (hforgets : ForgetsJudgment event.op a)
    (h : alertStep py app db event = .ok db') : ¬ db'.Row a.id JudgedWhenResolved := by
  obtain ⟨now, op⟩ := event
  obtain ⟨hresolved, hop⟩ := hforgets
  rintro ⟨row, hrow, hjudged⟩
  cases op with
  | updateAlert alertId update caller =>
      obtain ⟨rfl, hstatus, hdet⟩ := hop
      obtain ⟨result, hresult, rfl⟩ := map_ok h
      obtain ⟨hfind, analyst, log, hupdated⟩ := updateAlert_self hresult ha
      cases hrow.symm.trans hfind
      refine hjudged ?_ ?_
      · rcases Field.assign_ok hupdated.status with ⟨-, hsame⟩ | ⟨status, hgiven, -⟩
        · rw [hsame]; exact hresolved
        · rw [hstatus] at hgiven; cases hgiven
      · rcases Field.assign_ok hupdated.determination with ⟨hnone, -⟩ | ⟨d, hgiven, hval⟩
        · rw [hnone] at hdet; cases hdet
        · rw [hgiven] at hdet
          exact hval.trans (Option.some.inj hdet)
  | updateCurrentAlert ctx args =>
      obtain ⟨rfl, hstatus, hdet⟩ := hop
      obtain ⟨result, hresult, rfl⟩ := map_ok h
      obtain ⟨hfind, log, happlied⟩ := updateCurrentAlert_self hresult ha
      cases hrow.symm.trans hfind
      refine hjudged ?_ ?_
      · rw [happlied.status, hstatus]; exact hresolved
      · rw [happlied.determination, hdet]; rfl
  | processWebhook _ => exact hop
  | claimAlert _ _ => exact hop
  | bulkUpdateAlerts _ _ => exact hop
  | resolveCurrentAlert _ _ => exact hop
  | assignCurrentAlert _ _ _ => exact hop

/-- **A resolved alert is judged, unless somebody takes the judgment back.**  From the
ingest that creates the alert, the rule holds in every state of every run that has
no `ForgetsJudgment` step on it; and such a step, where it is accepted, breaks the
rule. -/
theorem resolved_alerts_are_judged {py : PyText} {app : App} {call : WebhookCall}
    {db₀ db : Db} {a : Alert} (h : processWebhook py call db₀ = .ok (db, a))
    (hnew : db₀.alerts.find? a.id = none) :
    (∀ es, Along (alertStep py app) (OnRow a.id (fun op row => ¬ ForgetsJudgment op row)) db es →
      (run (alertStep py app) db es).Row a.id JudgedWhenResolved) ∧
    ∀ es event db' row, (run (alertStep py app) db es).alerts.find? a.id = some row →
      ForgetsJudgment event.op row →
      alertStep py app (run (alertStep py app) db es) event = .ok db' →
      ¬ db'.Row a.id JudgedWhenResolved := by
  obtain ⟨hfind, hstatus, -, -, -⟩ := processWebhook_created h hnew
  constructor
  · intro es hes
    refine run_row_inv (P := fun row _ => JudgedWhenResolved row) ?_ es ⟨a, hfind, ?_⟩ hes
    · intro now op row row' _ log hrow hkeeps hrewrites
      refine (hrewrites.inv (P := fun r => JudgedWhenResolved r ∧ ¬ ForgetsJudgment op r) ?_
        ⟨hrow, hkeeps⟩).1
      intro r r' log' hr hchanged
      exact ⟨hchanged.judged hr.1 hr.2, hchanged.not_forgets hr.2⟩
    · intro hresolved
      rw [hstatus] at hresolved
      exact absurd hresolved (by decide)
  · intro es event db' row hrow hforgets hstep
    have hid : row.id = a.id := Table.find?_key hrow
    rw [← hid] at hrow ⊢
    exact not_judged_of_forgets hrow hforgets hstep

/-- Resolved as benign, then set back to `unknown`. -/
def judgmentTakenBack : List Event :=
  [⟨100, .updateAlert 1 { AlertUpdate.none with
      status := some (some "resolved"), determination := some (some "benign") }
      (some administrator)⟩,
   ⟨200, .updateAlert 1 { AlertUpdate.none with determination := some (some "unknown") }
      (some administrator)⟩]

/-- A resolved alert whose determination is set back to `unknown` stays resolved. -/
theorem resolved_alert_forgets_its_judgment :
    ¬ ∀ (call : WebhookCall) (db₀ db : Db) (a : Alert) (es : List Event),
      processWebhook .ascii call db₀ = .ok (db, a) → db₀.alerts.find? a.id = none →
      (run (alertStep .ascii .core) db es).Row a.id JudgedWhenResolved := by
  intro hclaim
  have hresult : (processWebhook .ascii loginFailure .empty).map (fun p =>
      ((run (alertStep .ascii .core) p.1 judgmentTakenBack).alerts.find? p.2.id).map
        Alert.tracked) = .ok (some ⟨"resolved", "unknown", "medium"⟩) := by decide +kernel
  obtain ⟨⟨db, a⟩, hok, hview⟩ := map_ok hresult
  obtain ⟨row, hrow, hjudged⟩ := hclaim loginFailure .empty db a judgmentTakenBack hok rfl
  rw [hrow, Option.map_some] at hview
  have htracked : row.tracked = ⟨"resolved", "unknown", "medium"⟩ := Option.some.inj hview
  exact hjudged (congrArg Tracked.status htracked) (congrArg Tracked.determination htracked)

theorem resolved_alerts_are_judged_of_loginFailure :
    ∃ db a, processWebhook .ascii loginFailure .empty = .ok (db, a) ∧
      (∀ es, Along (alertStep .ascii .core)
          (OnRow a.id (fun op row => ¬ ForgetsJudgment op row)) db es →
        (run (alertStep .ascii .core) db es).Row a.id JudgedWhenResolved) := by
  obtain ⟨db, a, hok⟩ := loginFailure_ingested
  exact ⟨db, a, hok, (resolved_alerts_are_judged hok rfl).1⟩

/-! ## The time of a resolution -/

/-- `resolved_at` is set exactly while the alert is resolved. -/
def StampedWhenResolved (alert : Alert) : Prop :=
  alert.resolvedAt.isSome = true ↔ alert.status.val = "resolved"

/-- ... and is then the time at which the alert was last resolved. -/
def ResolvedAtExact (lastResolved : Option Timestamp) (alert : Alert) : Prop :=
  StampedWhenResolved alert ∧ ∀ t, alert.resolvedAt = some t → lastResolved = some t

/-- A resolved alert is given another status, by a request or a playbook. -/
def Reopens (op : AlertOp) (alert : Alert) : Prop :=
  alert.status.val = "resolved" ∧
    match op with
    | .updateAlert alertId update _ =>
        alertId = alert.id ∧ ∃ status, update.status = some (some status) ∧ status ≠ "resolved"
    | .updateCurrentAlert ctx args =>
        ctx = some alert.id ∧ ∃ status, args.status = some status ∧ status ≠ "resolved"
    | _ => False

/-- A change that does not reopen: a resolved alert keeps status and stamp, and any
other is resolved and stamped now, or stays unresolved and unstamped. -/
def StampStep (now : Timestamp) (a a' : Alert) : Prop :=
  (a.status.val = "resolved" → a'.status.val = "resolved" ∧ a'.resolvedAt = a.resolvedAt) ∧
  (a.status.val ≠ "resolved" →
    (a'.status.val = "resolved" ∧ a'.resolvedAt = some now) ∨
      (a'.status.val ≠ "resolved" ∧ a'.resolvedAt = none))

theorem StampedWhenResolved.unstamped {a : Alert} (h : StampedWhenResolved a)
    (hopen : a.status.val ≠ "resolved") : a.resolvedAt = none := by
  cases hr : a.resolvedAt with
  | none => rfl
  | some t => exact absurd (h.mp (by rw [hr]; rfl)) hopen

theorem StampedWhenResolved.stamped {a : Alert} (h : StampedWhenResolved a)
    (hresolved : a.status.val = "resolved") : ∃ t, a.resolvedAt = some t :=
  Option.isSome_iff_exists.mp (h.mpr hresolved)

/-- A change that leaves both columns alone. -/
theorem stampStep_of_same {now : Timestamp} {a a' : Alert} (h : StampedWhenResolved a)
    (hstatus : a'.status.val = "resolved" ↔ a.status.val = "resolved")
    (hresolvedAt : a'.resolvedAt = a.resolvedAt) : StampStep now a a' := by
  refine ⟨fun hresolved => ⟨hstatus.mpr hresolved, hresolvedAt⟩, fun hopen => Or.inr ⟨?_, ?_⟩⟩
  · exact fun hresolved => hopen (hstatus.mp hresolved)
  · rw [hresolvedAt]
    exact h.unstamped hopen

theorem Updated.stampStep {py : PyText} {now : Timestamp} {analyst : Analyst}
    {update : AlertUpdate} {a a' : Alert} {log : List Activity}
    (h : Updated py now analyst update a a' log) (ha : StampedWhenResolved a)
    (hkeeps : ∀ status, update.status = some (some status) → status ≠ "resolved" →
      a.status.val ≠ "resolved") : StampStep now a a' := by
  have hstamp := h.resolvedAt
  rcases Field.assign_ok h.status with ⟨hnone, hsame⟩ | ⟨status, hgiven, hval⟩
  · -- the status is left alone, and so is the stamp
    have hskip : ¬ (update.status.join = some "resolved" ∧ a.resolvedAt = none) := by
      rw [hnone]
      rintro ⟨hjoin, -⟩
      cases hjoin
    rw [if_neg hskip] at hstamp
    exact stampStep_of_same ha (by rw [hsame]) hstamp
  · by_cases hresolved : status = "resolved"
    · subst hresolved
      refine ⟨fun hbefore => ⟨hval, ?_⟩, fun hopen => Or.inl ⟨hval, ?_⟩⟩
      · obtain ⟨t, ht⟩ := ha.stamped hbefore
        rw [hstamp, if_neg]
        rintro ⟨-, hnone⟩
        rw [ht] at hnone
        cases hnone
      · have hjoin : update.status.join = some "resolved" := by rw [hgiven]; rfl
        rw [hstamp, if_pos ⟨hjoin, ha.unstamped hopen⟩]
    · have hopen := hkeeps status hgiven hresolved
      refine ⟨fun hbefore => absurd hbefore hopen, fun _ => Or.inr ⟨?_, ?_⟩⟩
      · rw [hval]
        exact hresolved
      · have hskip : ¬ (update.status.join = some "resolved" ∧ a.resolvedAt = none) := by
          rw [hgiven]
          rintro ⟨hjoin, -⟩
          exact hresolved (Option.some.inj hjoin)
        rw [hstamp, if_neg hskip]
        exact ha.unstamped hopen

theorem Applied.stampStep {now : Timestamp} {args : CurrentAlertUpdate} {a a' : Alert}
    {log : List Activity} (h : Applied now args a a' log) (ha : StampedWhenResolved a)
    (hkeeps : ∀ status, args.status = some status → status ≠ "resolved" →
      a.status.val ≠ "resolved") : StampStep now a a' := by
  have hstamp := h.resolvedAt
  by_cases hresolved : a'.status.val = "resolved"
  · rw [if_pos hresolved] at hstamp
    refine ⟨fun hbefore => ⟨hresolved, ?_⟩, fun hopen => Or.inl ⟨hresolved, ?_⟩⟩
    · obtain ⟨t, ht⟩ := ha.stamped hbefore
      rw [hstamp, ht]
      rfl
    · rw [hstamp, ha.unstamped hopen]
      rfl
  · rw [if_neg hresolved] at hstamp
    have hopen : a.status.val ≠ "resolved" := by
      have hstatus := h.status
      cases hs : args.status with
      | none =>
          rw [hs] at hstatus
          exact fun hbefore => hresolved (hstatus.trans hbefore)
      | some status =>
          rw [hs] at hstatus
          exact hkeeps status hs (fun heq => hresolved (hstatus.trans heq))
    exact stampStep_of_same ha ⟨fun hr => absurd hr hresolved, fun hr => absurd hr hopen⟩ hstamp

theorem TakenOn.stampStep {now : Timestamp} {a a' : Alert} (h : TakenOn a a')
    (ha : StampedWhenResolved a) : StampStep now a a' :=
  stampStep_of_same ha h.resolved_iff h.resolvedAt

/-- Every change that does not reopen the alert is a `StampStep`. -/
theorem Changed.stampStep {py : PyText} {now : Timestamp} {op : AlertOp} {a a' : Alert}
    {log : List Activity} (h : Changed py now a a' op log) (ha : StampedWhenResolved a)
    (hkeeps : ¬ Reopens op a) : StampStep now a a' := by
  cases h with
  | duplicate call n hrow => exact stampStep_of_same ha (by rw [hrow]; rfl) (by rw [hrow]; rfl)
  | updated update analyst hupdated =>
      exact hupdated.stampStep ha (fun status hgiven hother hresolved =>
        hkeeps ⟨hresolved, rfl, status, hgiven, hother⟩)
  | claimed analyst hrow =>
      have htaken := claimRow_takenOn analyst a
      rw [← hrow] at htaken
      exact htaken.stampStep ha
  | bulk body analyst _ hbulk =>
      cases hbulk with
      | resolved _ _ _ _ hopen _ _ _ hrow =>
          subst hrow
          exact ⟨fun hresolved => absurd hresolved hopen, fun _ => Or.inl ⟨rfl, rfl⟩⟩
      | assigned _ hrow => exact (bulkAssign_takenOn hrow).stampStep ha
      | severity _ _ _ _ hrow =>
          obtain ⟨_, -, rfl⟩ := hrow
          exact stampStep_of_same ha Iff.rfl rfl
  | applied args hvalid happlied =>
      exact happlied.stampStep ha (fun status hgiven hother hresolved =>
        hkeeps ⟨hresolved, rfl, status, hgiven, hother⟩)
  | resolved args hvalid happlied =>
      refine happlied.stampStep ha ?_
      intro status hgiven hother
      exact absurd (Option.some.inj hgiven).symm hother
  | unassigned _ _ _ _ hrow => cases hrow; exact stampStep_of_same ha Iff.rfl rfl
  | assigned _ _ assignee _ hrow =>
      have htaken := assignRow_takenOn assignee a
      rw [← hrow] at htaken
      exact htaken.stampStep ha

theorem Changed.not_reopens {py : PyText} {now : Timestamp} {op : AlertOp} {a a' : Alert}
    {log : List Activity} (h : Changed py now a a' op log) : ¬ Reopens op a' := by
  rintro ⟨hresolved, hop⟩
  cases h with
  | updated update analyst hupdated =>
      obtain ⟨-, status, hgiven, hother⟩ := hop
      rcases Field.assign_ok hupdated.status with ⟨hnone, -⟩ | ⟨status', hgiven', hval⟩
      · rw [hgiven] at hnone
        cases hnone
      · cases hgiven.symm.trans hgiven'
        exact hother (hval.symm.trans hresolved)
  | applied args hvalid happlied =>
      obtain ⟨-, status, hgiven, hother⟩ := hop
      have hstatus := happlied.status
      rw [hgiven] at hstatus
      exact hother (hstatus.symm.trans hresolved)
  | duplicate _ _ _ => exact hop
  | claimed _ _ => exact hop
  | bulk _ _ _ _ => exact hop
  | resolved _ _ _ => exact hop
  | unassigned _ _ _ _ _ => exact hop
  | assigned _ _ _ _ _ => exact hop

theorem StampStep.stampedWhenResolved {now : Timestamp} {a a' : Alert} (h : StampStep now a a')
    (ha : StampedWhenResolved a) : StampedWhenResolved a' := by
  by_cases hbefore : a.status.val = "resolved"
  · obtain ⟨hstatus, hstamp⟩ := h.1 hbefore
    obtain ⟨t, ht⟩ := ha.stamped hbefore
    exact ⟨fun _ => hstatus, fun _ => by rw [hstamp, ht]; rfl⟩
  · rcases h.2 hbefore with ⟨hstatus, hstamp⟩ | ⟨hopen, hstamp⟩
    · exact ⟨fun _ => hstatus, fun _ => by rw [hstamp]; rfl⟩
    · constructor
      · intro hsome
        rw [hstamp] at hsome
        cases hsome
      · intro hresolved
        exact absurd hresolved hopen

theorem StampStep.refl {now : Timestamp} {a : Alert} (ha : StampedWhenResolved a) :
    StampStep now a a :=
  stampStep_of_same ha Iff.rfl rfl

theorem StampStep.trans {now : Timestamp} {a a₁ a₂ : Alert} (h : StampStep now a a₁)
    (h' : StampStep now a₁ a₂) : StampStep now a a₂ := by
  constructor
  · intro hbefore
    obtain ⟨hstatus, hstamp⟩ := h.1 hbefore
    obtain ⟨hstatus', hstamp'⟩ := h'.1 hstatus
    exact ⟨hstatus', hstamp'.trans hstamp⟩
  · intro hopen
    rcases h.2 hopen with ⟨hstatus, hstamp⟩ | ⟨hopen', hstamp⟩
    · obtain ⟨hstatus', hstamp'⟩ := h'.1 hstatus
      exact Or.inl ⟨hstatus', hstamp'.trans hstamp⟩
    · exact h'.2 hopen'

/-- Any number of changes of one operation stamp like one of them. -/
theorem stampStep_of_rewrites {py : PyText} {now : Timestamp} {op : AlertOp} {a a' : Alert}
    {log : List Activity} (ha : StampedWhenResolved a) (hkeeps : ¬ Reopens op a)
    (h : Rewrites (fun a₁ a₂ log => Changed py now a₁ a₂ op log) a a' log) :
    StampStep now a a' := by
  refine (h.inv (P := fun r => StampStep now a r ∧ StampedWhenResolved r ∧ ¬ Reopens op r) ?_
    ⟨.refl ha, ha, hkeeps⟩).1
  rintro r r' log' ⟨hstep, hstamped, hkeeps'⟩ hchanged
  have hnext := hchanged.stampStep hstamped hkeeps'
  exact ⟨hstep.trans hnext, hnext.stampedWhenResolved hstamped, hchanged.not_reopens⟩

/-- The alert is stored as resolved. -/
def Db.isResolved (i : Uuid) (db : Db) : Bool :=
  (db.alerts.find? i).any (fun a => decide (a.status.val = "resolved"))

theorem isResolved_of_row {db : Db} {i : Uuid} {a : Alert} (h : db.alerts.find? i = some a) :
    db.isResolved i = decide (a.status.val = "resolved") := by
  simp only [Db.isResolved, h, Option.any_some]

/-- One event of a run, with the time of the last resolution beside it. -/
theorem resolvedAtExact_step {py : PyText} {app : App} {i : Uuid} {db db' : Db} {event : Event}
    {last : Option Timestamp} (hrow : db.Row i (ResolvedAtExact last))
    (hkeeps : OnRow i (fun op row => ¬ Reopens op row) db event)
    (h : alertStep py app db event = .ok db') :
    db'.Row i (ResolvedAtExact
      (if !db.isResolved i && db'.isResolved i then some event.now else last)) := by
  obtain ⟨a, ha, hstamped, hlast⟩ := hrow
  obtain ⟨a', log, ha', -, hrewrites⟩ := step_row h ha
  have hstep := stampStep_of_rewrites hstamped (hkeeps a ha) hrewrites
  refine ⟨a', ha', hstep.stampedWhenResolved hstamped, ?_⟩
  intro t ht
  rw [isResolved_of_row ha, isResolved_of_row ha']
  by_cases hbefore : a.status.val = "resolved"
  · obtain ⟨-, hstamp⟩ := hstep.1 hbefore
    have hsame := hlast t (hstamp.symm.trans ht)
    rw [decide_eq_true hbefore, Bool.not_true, Bool.false_and, if_neg Bool.false_ne_true]
    exact hsame
  · rcases hstep.2 hbefore with ⟨hstatus, hstamp⟩ | ⟨-, hstamp⟩
    · rw [decide_eq_false hbefore, decide_eq_true hstatus]
      exact hstamp.symm.trans ht
    · rw [hstamp] at ht
      cases ht

/-- An accepted step that reopens a resolved alert leaves its stamp behind. -/
theorem not_stamped_of_reopens {py : PyText} {app : App} {db db' : Db} {event : Event}
    {a : Alert} (ha : db.alerts.find? a.id = some a) (hstamped : StampedWhenResolved a)
    (hreopens : Reopens event.op a) (h : alertStep py app db event = .ok db') :
    ¬ db'.Row a.id StampedWhenResolved := by
  obtain ⟨now, op⟩ := event
  obtain ⟨hresolved, hop⟩ := hreopens
  obtain ⟨t, ht⟩ := hstamped.stamped hresolved
  rintro ⟨row, hrow, hexact⟩
  cases op with
  | updateAlert alertId update caller =>
      obtain ⟨rfl, status, hgiven, hother⟩ := hop
      obtain ⟨result, hresult, rfl⟩ := map_ok h
      obtain ⟨hfind, analyst, log, hupdated⟩ := updateAlert_self hresult ha
      cases hrow.symm.trans hfind
      have hstamp := hupdated.resolvedAt
      rw [ht, if_neg (fun hcond => by cases hcond.2)] at hstamp
      rcases Field.assign_ok hupdated.status with ⟨hnone, -⟩ | ⟨status', hgiven', hval⟩
      · rw [hgiven] at hnone
        cases hnone
      · cases hgiven.symm.trans hgiven'
        exact hother (hval.symm.trans (hexact.mp (by rw [hstamp]; rfl)))
  | updateCurrentAlert ctx args =>
      obtain ⟨rfl, status, hgiven, hother⟩ := hop
      obtain ⟨result, hresult, rfl⟩ := map_ok h
      obtain ⟨hfind, log, happlied⟩ := updateCurrentAlert_self hresult ha
      cases hrow.symm.trans hfind
      have hstatus := happlied.status
      rw [hgiven] at hstatus
      have hopen : result.2.status.val ≠ "resolved" :=
        fun hr => hother (hstatus.symm.trans hr)
      have hstamp := happlied.resolvedAt
      rw [if_neg hopen, ht] at hstamp
      exact hopen (hexact.mp (by rw [hstamp]; rfl))
  | processWebhook _ => exact hop
  | claimAlert _ _ => exact hop
  | bulkUpdateAlerts _ _ => exact hop
  | resolveCurrentAlert _ _ => exact hop
  | assignCurrentAlert _ _ _ => exact hop

/-- **`resolved_at` is exact, unless a resolved alert is reopened.**  From the ingest
that creates the alert, `resolved_at` is set exactly while the alert is resolved, to
the time of the last event that resolved it, in every state of every run that has no
`Reopens` step on it; and such a step, where it is accepted, leaves a stamp on an
alert that is not resolved. -/
theorem resolved_at_is_exact {py : PyText} {app : App} {call : WebhookCall}
    {db₀ db : Db} {a : Alert} (h : processWebhook py call db₀ = .ok (db, a))
    (hnew : db₀.alerts.find? a.id = none) :
    (∀ es, Along (alertStep py app) (OnRow a.id (fun op row => ¬ Reopens op row)) db es →
      (run (alertStep py app) db es).Row a.id
        (ResolvedAtExact (lastRise (alertStep py app) (Db.isResolved a.id) Event.now db es none))) ∧
    ∀ es event db' row, (run (alertStep py app) db es).alerts.find? a.id = some row →
      StampedWhenResolved row → Reopens event.op row →
      alertStep py app (run (alertStep py app) db es) event = .ok db' →
      ¬ db'.Row a.id StampedWhenResolved := by
  obtain ⟨hfind, hstatus, -, hunstamped, -⟩ := processWebhook_created h hnew
  constructor
  · intro es hes
    have hstart : ResolvedAtExact none a := by
      refine ⟨⟨?_, ?_⟩, ?_⟩
      · intro hsome
        rw [hunstamped] at hsome
        cases hsome
      · intro hresolved
        rw [hstatus] at hresolved
        exact absurd hresolved (by decide)
      · intro t ht
        rw [hunstamped] at ht
        cases ht
    exact run_inv_rise (alertStep py app) (Db.isResolved a.id) Event.now
      (I := fun db last => db.Row a.id (ResolvedAtExact last))
      (fun _ _ _ _ hrow hkeeps hstep => resolvedAtExact_step hrow hkeeps hstep)
      es db none ⟨a, hfind, hstart⟩ hes
  · intro es event db' row hrow hstamped hreopens hstep
    have hid : row.id = a.id := Table.find?_key hrow
    rw [← hid] at hrow ⊢
    exact not_stamped_of_reopens hrow hstamped hreopens hstep

/-- Resolved, then reopened. -/
def reopened : List Event :=
  [⟨100, .updateAlert 1 { AlertUpdate.none with
      status := some (some "resolved"), determination := some (some "benign") }
      (some administrator)⟩,
   ⟨200, .updateAlert 1 { AlertUpdate.none with status := some (some "in_progress") }
      (some administrator)⟩]

/-- A reopened alert keeps the time of a resolution that no longer holds. -/
theorem reopened_alert_keeps_its_stamp :
    ¬ ∀ (call : WebhookCall) (db₀ db : Db) (a : Alert) (es : List Event),
      processWebhook .ascii call db₀ = .ok (db, a) → db₀.alerts.find? a.id = none →
      (run (alertStep .ascii .core) db es).Row a.id
        (ResolvedAtExact
          (lastRise (alertStep .ascii .core) (Db.isResolved a.id) Event.now db es none)) := by
  intro hclaim
  have hresult : (processWebhook .ascii loginFailure .empty).map (fun p =>
      ((run (alertStep .ascii .core) p.1 reopened).alerts.find? p.2.id).map
        (fun a => (a.status.val, a.resolvedAt))) = .ok (some ("in_progress", some 100)) := by
    decide +kernel
  obtain ⟨⟨db, a⟩, hok, hview⟩ := map_ok hresult
  obtain ⟨row, hrow, hstamped, -⟩ := hclaim loginFailure .empty db a reopened hok rfl
  rw [hrow, Option.map_some] at hview
  obtain ⟨hstatus, hstamp⟩ := Prod.mk.inj (Option.some.inj hview)
  have hresolved := hstamped.mp (by rw [hstamp]; rfl)
  rw [hstatus] at hresolved
  exact absurd hresolved (by decide)

theorem resolved_at_is_exact_of_loginFailure :
    ∃ db a, processWebhook .ascii loginFailure .empty = .ok (db, a) ∧
      (∀ es, Along (alertStep .ascii .core) (OnRow a.id (fun op row => ¬ Reopens op row)) db es →
        (run (alertStep .ascii .core) db es).Row a.id
          (ResolvedAtExact
            (lastRise (alertStep .ascii .core) (Db.isResolved a.id) Event.now db es none))) := by
  obtain ⟨db, a, hok⟩ := loginFailure_ingested
  exact ⟨db, a, hok, (resolved_at_is_exact hok rfl).1⟩

end OpenSoar
