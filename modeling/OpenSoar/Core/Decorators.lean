/-
# `OpenSoar.Core.Decorators` — what `@action` makes of a function

The wrapper of `core/decorators.py`: inside an execution context a function is awaited
under a timeout, its success recorded and its value returned; an exception is followed by a
pause and the next attempt, and the last one is recorded and raised again.

The function, the recorder and the clock are given by what they answer: the function at each
attempt, the recorder at each call, the clock at each reading.

A call of a function that keeps failing, or succeeds, does what the reference says
(`action_reference`), provided the recorder never fails.  The success is recorded inside the
`try`, so a recorder that fails has the function executed again, unless no attempt is left
(`never_executed_again_iff`).
-/
import Mathlib.Algebra.Group.Nat.Defs
import OpenSoar.Lib.Retry
import OpenSoar.Models

namespace OpenSoar

open Python Retry

/-- `asyncio.TimeoutError`, by the text of the exception, or another `Exception`: what the two
`except` clauses take. -/
inductive Failure where
  | timeout (text : String)
  | exception (text : String)

/-- An exception: a failure, or a `BaseException` of another kind. -/
inductive Thrown where
  | failure (failure : Failure)
  | exit (text : String)

/-- `ActionMeta`. -/
structure ActionMeta (β : Type) where
  name : String
  timeout : Int
  retries : Int
  retryBackoff : β

/-- `result if isinstance(result, dict) else {"result": result}`. -/
inductive OutputData (α : Type) where
  | dict (value : α)
  | result (value : α)

def outputData {α : Type} (isDict : α → Bool) (value : α) : OutputData α :=
  if isDict value then .dict value else .result value

inductive ActionStatus where
  | success
  | failed
  deriving DecidableEq

/-- The keyword arguments of `record_action`. -/
structure ActionRecord (α : Type) where
  actionName : String
  status : ActionStatus
  startedAt : Timestamp
  finishedAt : Timestamp
  outputData : Option (OutputData α)
  error : Option String
  attempt : Nat

/-- The answers of a recorder to its calls, in order. -/
abbrev Recorder := Nat → Except Thrown Unit

/-- `ExecutionContext`, without the session. -/
structure ExecutionContext where
  runId : Uuid
  alertId : Option Uuid
  recordAction : Option Recorder
  correlationId : Option Uuid

/-- What a call of a wrapped function meets: how `asyncio.wait_for` ends at each attempt, and
the readings of the clock, in order. -/
structure ActionCall (α : Type) where
  outcome : Nat → Except Thrown α
  now : Nat → Timestamp
  isDict : α → Bool

/-- What a call has done: how often it invoked the function, the calls of the recorder, the
pauses. -/
structure ActionLog (α β : Type) where
  invocations : Nat
  records : List (ActionRecord α)
  pauses : List β

section Wrapper

variable {α β : Type} [Monoid β] (info : ActionMeta β) (call : ActionCall α)

/-- `last_error`. -/
def ActionMeta.lastError : Failure → String
  | .timeout _ => "Timeout after " ++ toString info.timeout ++ "s"
  | .exception text => text

/-- The clock is read once when the call starts, and once for each record. -/
def successRecord (attempt : Nat) (value : α) (log : ActionLog α β) : ActionRecord α where
  actionName := info.name
  status := .success
  startedAt := call.now 0
  finishedAt := call.now (log.records.length + 1)
  outputData := some (outputData call.isDict value)
  error := none
  attempt := attempt

def failedRecord (attempt : Nat) (failure : Failure) (log : ActionLog α β) : ActionRecord α where
  actionName := info.name
  status := .failed
  startedAt := call.now 0
  finishedAt := call.now (log.records.length + 1)
  outputData := none
  error := some (info.lastError failure)
  attempt := attempt

/-- `if ctx.record_action: await ctx.record_action(...)`. -/
def record (recorder : Option Recorder) (entry : ActionRecord α) (log : ActionLog α β) :
    Except Thrown Unit × ActionLog α β :=
  match recorder with
  | none => (.ok (), log)
  | some answers =>
      (answers log.records.length, { log with records := log.records ++ [entry] })

/-- The body of the `try`: the function, and the record of its success. -/
def tryOnce (recorder : Option Recorder) (attempt : Nat) (log : ActionLog α β) :
    Except Thrown α × ActionLog α β :=
  let invoked := { log with invocations := log.invocations + 1 }
  match call.outcome attempt with
  | .error e => (.error e, invoked)
  | .ok value =>
      match record recorder (successRecord info call attempt value invoked) invoked with
      | (.ok _, log') => (.ok value, log')
      | (.error e, log') => (.error e, log')

/-- Either `except` clause: a pause, or the record of the failure, which is raised again. -/
def handle (recorder : Option Recorder) (attempt : Nat) (failure : Failure)
    (log : ActionLog α β) : Verdict (Except Thrown α) × ActionLog α β :=
  if attempt ≤ info.retries then
    (.again, { log with pauses := log.pauses ++ [info.retryBackoff ^ attempt] })
  else
    match record recorder (failedRecord info call attempt failure log) log with
    | (.ok _, log') => (.stop (.error (.failure failure)), log')
    | (.error e, log') => (.stop (.error e), log')

/-- One turn of `for attempt in range(1, meta.retries + 2)`. -/
def actionAttempt (recorder : Option Recorder) (attempt : Nat) (log : ActionLog α β) :
    Verdict (Except Thrown α) × ActionLog α β :=
  match tryOnce info call recorder attempt log with
  | (.ok value, log') => (.stop (.ok value), log')
  | (.error (.exit text), log') => (.stop (.error (.exit text)), log')
  | (.error (.failure failure), log') => handle info call recorder attempt failure log'

/-- `wrapper`. -/
def wrapper (ctx : Option ExecutionContext) : Except Thrown α × ActionLog α β :=
  match ctx with
  | none => (call.outcome 1, ⟨1, [], []⟩)
  | some ctx =>
      match attempts (actionAttempt info call ctx.recordAction) (info.retries + 1).toNat 1
        ⟨0, [], []⟩ with
      | (some result, log) => (result, log)
      | (none, log) => (.error (.failure (.exception ("Action " ++ info.name ++ " failed after " ++
          toString (info.retries + 1) ++ " attempts"))), log)

end Wrapper

/-! ## One attempt -/

section Attempt

variable {α β : Type} {info : ActionMeta β} {call : ActionCall α} {recorder : Option Recorder}
  {n : Nat} {log : ActionLog α β}

theorem tryOnce_error {e : Thrown} (h : call.outcome n = .error e) :
    tryOnce info call recorder n log =
      (.error e, { log with invocations := log.invocations + 1 }) := by
  simp only [tryOnce, h]

theorem tryOnce_unrecorded {value : α} (h : call.outcome n = .ok value) :
    tryOnce info call none n log =
      (.ok value, { log with invocations := log.invocations + 1 }) := by
  simp only [tryOnce, h, record]

/-- A success that is to be recorded: the recorder's answer decides. -/
theorem tryOnce_recorded {value : α} {answers : Recorder} (h : call.outcome n = .ok value) :
    tryOnce info call (some answers) n log =
      ((answers log.records.length).map (fun _ => value),
        { log with
          invocations := log.invocations + 1
          records := log.records ++ [successRecord info call n value log] }) := by
  simp only [tryOnce, h, record]
  cases answers log.records.length <;> rfl

/-- The first call of the recorder. -/
theorem tryOnce_first {value : α} {answers : Recorder} (hlog : log.records = [])
    (h : call.outcome n = .ok value) :
    tryOnce info call (some answers) n log =
      ((answers 0).map (fun _ => value),
        { log with
          invocations := log.invocations + 1
          records := [successRecord info call n value log] }) := by
  rw [tryOnce_recorded h, hlog]
  rfl

theorem tryOnce_invocations :
    (tryOnce info call recorder n log).2.invocations = log.invocations + 1 := by
  cases h : call.outcome n with
  | error e => rw [tryOnce_error h]
  | ok value =>
      cases recorder with
      | none => rw [tryOnce_unrecorded h]
      | some answers => rw [tryOnce_recorded h]

variable [Monoid β]

theorem handle_again {failure : Failure} (h : n ≤ info.retries) :
    handle info call recorder n failure log =
      (.again, { log with pauses := log.pauses ++ [info.retryBackoff ^ n] }) :=
  if_pos h

/-- The last attempt ends the loop, with the failure or with the recorder's. -/
theorem handle_last {failure : Failure} (h : ¬ n ≤ info.retries) :
    ∃ e, (handle info call recorder n failure log).1 = .stop (.error e) := by
  simp only [handle, if_neg h]
  split
  · exact ⟨_, rfl⟩
  · exact ⟨_, rfl⟩

theorem handle_invocations {failure : Failure} :
    (handle info call recorder n failure log).2.invocations = log.invocations := by
  unfold handle
  split
  · rfl
  · cases recorder with
    | none => rfl
    | some answers =>
        simp only [record]
        cases answers log.records.length <;> rfl

/-- A failure in the `try`, of the function or of the recorder. -/
theorem actionAttempt_failed {failure : Failure} {log' : ActionLog α β}
    (h : tryOnce info call recorder n log = (.error (.failure failure), log')) :
    actionAttempt info call recorder n log = handle info call recorder n failure log' := by
  simp only [actionAttempt, h]

theorem actionAttempt_returned {value : α} {log' : ActionLog α β}
    (h : tryOnce info call recorder n log = (.ok value, log')) :
    actionAttempt info call recorder n log = (.stop (.ok value), log') := by
  simp only [actionAttempt, h]

theorem actionAttempt_exited {text : String} {log' : ActionLog α β}
    (h : tryOnce info call recorder n log = (.error (.exit text), log')) :
    actionAttempt info call recorder n log = (.stop (.error (.exit text)), log') := by
  simp only [actionAttempt, h]

theorem invocations_of_attempt {log' : ActionLog α β} {verdict : Verdict (Except Thrown α)}
    (h : actionAttempt info call recorder n log = (verdict, log')) :
    log'.invocations = log.invocations + 1 := by
  have htried : (tryOnce info call recorder n log).2.invocations = log.invocations + 1 :=
    tryOnce_invocations
  unfold actionAttempt at h
  split at h
  · rename_i hvalue
    rw [hvalue] at htried
    cases h
    exact htried
  · rename_i hexit
    rw [hexit] at htried
    cases h
    exact htried
  · rename_i failure tried hfailure
    rw [hfailure] at htried
    have hhandled : (handle info call recorder n failure tried).2.invocations = tried.invocations :=
      handle_invocations
    rw [h] at hhandled
    exact hhandled.trans htried

/-- The last attempt of the range ends the loop. -/
theorem actionAttempt_last (h : ¬ n ≤ info.retries) :
    ∃ result log', actionAttempt info call recorder n log = (.stop result, log') := by
  unfold actionAttempt
  split
  · exact ⟨_, _, rfl⟩
  · exact ⟨_, _, rfl⟩
  · rename_i failure log' _
    obtain ⟨e, he⟩ : ∃ e, (handle info call recorder n failure log').1 = .stop (.error e) :=
      handle_last h
    exact ⟨_, _, Prod.ext he rfl⟩

end Attempt

/-! ## The reference -/

section Reference

variable {α β : Type} [Monoid β]

/-- The one record of a call that ends at attempt `k`. -/
def referenceRecord (info : ActionMeta β) (call : ActionCall α) (k : Nat) : ActionRecord α where
  actionName := info.name
  status := if (call.outcome k).isOk then .success else .failed
  startedAt := call.now 0
  finishedAt := call.now 1
  outputData := (call.outcome k).toOption.map (outputData call.isDict)
  error :=
    match call.outcome k with
    | .ok _ => none
    | .error (.failure failure) => some (info.lastError failure)
    | .error (.exit text) => some text
  attempt := k

/-- `backoff^1, ..., backoff^(k-1)`. -/
def backoffs (info : ActionMeta β) (k : Nat) : List β :=
  (List.range' 1 (k - 1)).map (fun n => info.retryBackoff ^ n)

theorem backoffs_succ (info : ActionMeta β) {k : Nat} (hk : 1 ≤ k) :
    backoffs info (k + 1) = backoffs info k ++ [info.retryBackoff ^ k] := by
  obtain ⟨m, rfl⟩ : ∃ m, k = m + 1 := ⟨k - 1, by omega⟩
  have hsplit : List.range' 1 (m + 1) = List.range' 1 m ++ [m + 1] := by
    rw [List.range'_concat]
    simp [Nat.add_comm]
  simp [backoffs, hsplit]

/-- Every attempt before the `n`-th has failed. -/
def FailedBefore (call : ActionCall α) (n : Nat) : Prop :=
  ∀ j, 1 ≤ j → j < n → ∃ failure, call.outcome j = .error (.failure failure)

omit [Monoid β] in
theorem FailedBefore.succ {call : ActionCall α} {n : Nat} {failure : Failure}
    (h : FailedBefore call n) (hn : call.outcome n = .error (.failure failure)) :
    FailedBefore call (n + 1) := by
  intro j hj hlt
  rcases Nat.lt_succ_iff_lt_or_eq.mp hlt with hlt | rfl
  · exact h j hj hlt
  · exact ⟨failure, hn⟩

omit [Monoid β] in
/-- An attempt that returned is not among those that failed. -/
theorem FailedBefore.le_of_ok {call : ActionCall α} {n j : Nat} {value : α}
    (h : FailedBefore call n) (hj : 1 ≤ j) (hvalue : call.outcome j = .ok value) : n ≤ j := by
  by_contra hlt
  obtain ⟨failure, hfailure⟩ := h j hj (by omega)
  cases hvalue.symm.trans hfailure

/-- An attempt after failures only, with a recorder that does not fail. -/
theorem actionAttempt_reference {info : ActionMeta β} {r : Nat} (call : ActionCall α)
    (hr : info.retries = r) {answers : Recorder} (hanswers : ∀ m, answers m = .ok ()) {n : Nat}
    (hn : 1 ≤ n) :
    (∀ value, call.outcome n = .ok value →
      actionAttempt info call (some answers) n ⟨n - 1, [], backoffs info n⟩ =
        (.stop (.ok value), ⟨n, [referenceRecord info call n], backoffs info n⟩)) ∧
    (∀ failure, call.outcome n = .error (.failure failure) → n ≤ r →
      actionAttempt info call (some answers) n ⟨n - 1, [], backoffs info n⟩ =
        (.again, ⟨n, [], backoffs info (n + 1)⟩)) ∧
    (∀ failure, call.outcome n = .error (.failure failure) → ¬ n ≤ r →
      actionAttempt info call (some answers) n ⟨n - 1, [], backoffs info n⟩ =
        (.stop (.error (.failure failure)),
          ⟨n, [referenceRecord info call n], backoffs info n⟩)) := by
  have hcount : n - 1 + 1 = n := by omega
  have hbound : (n : Int) ≤ info.retries ↔ n ≤ r := by
    rw [hr]
    exact Int.ofNat_le
  refine ⟨?_, ?_, ?_⟩
  · intro value hvalue
    refine actionAttempt_returned ((tryOnce_recorded hvalue).trans ?_)
    rw [hanswers, hcount]
    refine Prod.ext rfl ?_
    simp [successRecord, referenceRecord, hvalue, Except.isOk, Except.toBool, Except.toOption]
  · intro failure hfailure hle
    rw [actionAttempt_failed (tryOnce_error hfailure), handle_again (hbound.mpr hle), hcount,
      backoffs_succ info hn]
  · intro failure hfailure hlast
    rw [actionAttempt_failed (tryOnce_error hfailure), hcount]
    simp [handle, hbound, hlast, record, hanswers, failedRecord, referenceRecord, hfailure,
      Except.isOk, Except.toBool, Except.toOption]

/-- The loop of attempts: before each of them all have failed, and the one that ends the loop
returns or is the last. -/
theorem attempts_reference {info : ActionMeta β} {r : Nat} (hr : info.retries = r)
    {call : ActionCall α}
    (hcall : ∀ n e, call.outcome n = .error e → ∃ failure, e = .failure failure)
    {answers : Recorder} (hanswers : ∀ m, answers m = .ok ()) :
    Ends
      (fun n log => 1 ≤ n ∧ FailedBefore call n ∧
        log = (⟨n - 1, [], backoffs info n⟩ : ActionLog α β))
      (fun k result log => FailedBefore call k ∧ (∀ e, call.outcome k = .error e → k = r + 1) ∧
        result = call.outcome k ∧ log = ⟨k, [referenceRecord info call k], backoffs info k⟩)
      1 (r + 1) (attempts (actionAttempt info call (some answers)) (r + 1) 1 ⟨0, [], []⟩) := by
  refine attempts_rule (r + 2) ?_ ?_ (r + 1) 1 _ (by omega) ?_
  · rintro n log log' - ⟨hn, hfailed, rfl⟩ hagain
    obtain ⟨hreturned, hretried, hlast⟩ :=
      actionAttempt_reference call hr hanswers hn
    cases houtcome : call.outcome n with
    | ok value => cases hagain.symm.trans (hreturned value houtcome)
    | error e =>
        obtain ⟨failure, rfl⟩ := hcall n e houtcome
        by_cases hle : n ≤ r
        · cases hagain.symm.trans (hretried failure houtcome hle)
          exact ⟨by omega, hfailed.succ houtcome, rfl⟩
        · cases hagain.symm.trans (hlast failure houtcome hle)
  · rintro n log log' result hn' ⟨hn, hfailed, rfl⟩ hstop
    obtain ⟨hreturned, hretried, hlast⟩ :=
      actionAttempt_reference call hr hanswers hn
    cases houtcome : call.outcome n with
    | ok value =>
        cases hstop.symm.trans (hreturned value houtcome)
        refine ⟨hfailed, fun e he => ?_, rfl, rfl⟩
        cases he
    | error e =>
        obtain ⟨failure, rfl⟩ := hcall n e houtcome
        by_cases hle : n ≤ r
        · cases hstop.symm.trans (hretried failure houtcome hle)
        · cases hstop.symm.trans (hlast failure houtcome hle)
          exact ⟨hfailed, fun _ _ => by omega, rfl, rfl⟩
  · exact ⟨le_rfl, fun j hj hlt => by omega, rfl⟩

/-- **The reference semantics of `@action`.**  With a recorder that never fails, the function
is invoked until its first normal end or `retries + 1` times, whichever is less; that
attempt decides what is recorded and how the call ends. -/
theorem action_reference (info : ActionMeta β) {r : Nat} (hr : info.retries = r)
    (call : ActionCall α)
    (hcall : ∀ n e, call.outcome n = .error e → ∃ failure, e = .failure failure)
    (ctx : ExecutionContext) {answers : Recorder} (hctx : ctx.recordAction = some answers)
    (hanswers : ∀ m, answers m = .ok ()) :
    ∃ k, IsLeast ({k | 1 ≤ k ∧ (call.outcome k).isOk} ∪ {r + 1}) k ∧
      (∀ e, call.outcome k = .error e → k = r + 1) ∧
      wrapper info call (some ctx) =
        (call.outcome k, ⟨k, [referenceRecord info call k], backoffs info k⟩) := by
  have hrange : (info.retries + 1).toNat = r + 1 := by omega
  have hends := attempts_reference hr hcall hanswers
  have hresult : ∃ result log, attempts (actionAttempt info call (some answers)) (r + 1) 1
      (⟨0, [], []⟩ : ActionLog α β) = (some result, log) := by
    refine attempts_some (by omega) (fun log => actionAttempt_last ?_)
    rw [hr]
    omega
  obtain ⟨result, log, hloop⟩ := hresult
  rw [hloop] at hends
  cases hends with
  | stopped k result log hk hlt hQ =>
      obtain ⟨hfailed, hlast, rfl, rfl⟩ := hQ
      refine ⟨k, ⟨?_, ?_⟩, hlast, ?_⟩
      · cases houtcome : call.outcome k with
        | ok value =>
            refine Or.inl ⟨hk, ?_⟩
            rw [houtcome]
            rfl
        | error e => exact Or.inr (hlast e houtcome)
      · rintro j (⟨hj, hok⟩ | rfl)
        · cases houtcome : call.outcome j with
          | ok value => exact hfailed.le_of_ok hj houtcome
          | error e =>
              rw [houtcome] at hok
              cases hok
        · omega
      · simp only [wrapper, hctx, hrange, hloop]

end Reference

/-- A function that times out at its first attempt and returns at the second. -/
def flakyCall : ActionCall Nat where
  outcome n := if n = 1 then .error (.failure (.timeout "")) else .ok n
  now _ := 0
  isDict _ := false

/-- A context whose recorder gives these answers. -/
def recordedBy (answers : Recorder) : ExecutionContext := ⟨1, none, some answers, none⟩

/-- It is invoked twice, with one pause in between, and recorded as a success. -/
theorem flaky_call_follows_the_reference :
    (wrapper (⟨"virustotal.lookup", 30, 2, 3⟩ : ActionMeta Nat) flakyCall
        (some (recordedBy (fun _ => .ok ())))).1 = .ok 2 ∧
      (wrapper (⟨"virustotal.lookup", 30, 2, 3⟩ : ActionMeta Nat) flakyCall
        (some (recordedBy (fun _ => .ok ())))).2.pauses = [3] := by
  obtain ⟨k, ⟨hmem, hleast⟩, -, hrun⟩ := action_reference
    (⟨"virustotal.lookup", 30, 2, 3⟩ : ActionMeta Nat) (r := 2) rfl flakyCall
    (fun n e h => by
      simp only [flakyCall] at h
      split at h
      · cases h
        exact ⟨_, rfl⟩
      · cases h)
    (recordedBy (fun _ => .ok ())) rfl (fun _ => rfl)
  have hk : k = 2 := by
    have hle : k ≤ 2 := hleast (Or.inl ⟨by omega, rfl⟩)
    have hne : k ≠ 1 := by
      rintro rfl
      rcases hmem with ⟨-, hok⟩ | hlast
      · cases hok
      · cases hlast
    rcases hmem with ⟨h, -⟩ | rfl <;> omega
  rw [hrun, hk]
  exact ⟨rfl, rfl⟩

/-! ## A success that is executed again -/

section Again

variable {α β : Type}

/-- Once an attempt has returned, no other is made, and the call returns its value or raises
what the recorder raised. -/
structure NeverAgain (call : ActionCall α) (recorder : Option Recorder)
    (out : Except Thrown α × ActionLog α β) : Prop where
  once : ∀ k value, 1 ≤ k → k ≤ out.2.invocations → call.outcome k = .ok value →
    out.2.invocations = k
  ends : ∀ k value, 1 ≤ k → k ≤ out.2.invocations → call.outcome k = .ok value →
    out.1 = .ok value ∨ ∃ answers m e, recorder = some answers ∧ m < out.2.records.length ∧
      answers m = .error e ∧ out.1 = .error e

/-- The call comes to attempt `k`. -/
structure ComesTo (info : ActionMeta β) (call : ActionCall α) (k : Nat) : Prop where
  first : 1 ≤ k
  within : k ≤ info.retries + 1
  failed : FailedBefore call k

/-- The record of the first success is refused while an attempt is left. -/
def RecordedInVain (info : ActionMeta β) (call : ActionCall α) (recorder : Option Recorder) :
    Prop :=
  ∃ answers k value failure, recorder = some answers ∧ ComesTo info call k ∧ k ≤ info.retries ∧
    call.outcome k = .ok value ∧ answers 0 = .error (.failure failure)

variable [Monoid β] {info : ActionMeta β} {call : ActionCall α} {recorder : Option Recorder}

/-- An attempt that ends the loop, when no success is recorded in vain: it failed, or its
value or the recorder's exception is the end of the call. -/
theorem actionAttempt_stops (hfine : ¬ RecordedInVain info call recorder) {n : Nat}
    (hn : ComesTo info call n) {log log' : ActionLog α β} (hlog : log.records = [])
    {result : Except Thrown α}
    (h : actionAttempt info call recorder n log = (.stop result, log')) {value : α}
    (hvalue : call.outcome n = .ok value) :
    result = .ok value ∨ ∃ answers m e, recorder = some answers ∧ m < log'.records.length ∧
      answers m = .error e ∧ result = .error e := by
  cases recorder with
  | none =>
      cases h.symm.trans (actionAttempt_returned (tryOnce_unrecorded hvalue))
      exact Or.inl rfl
  | some answers =>
      have htried : tryOnce info call (some answers) n log = _ := tryOnce_first hlog hvalue
      cases hanswer : answers 0 with
      | ok u =>
          rw [hanswer] at htried
          cases h.symm.trans (actionAttempt_returned htried)
          exact Or.inl rfl
      | error e =>
          rw [hanswer] at htried
          cases e with
          | exit text =>
              cases h.symm.trans (actionAttempt_exited htried)
              exact Or.inr ⟨answers, 0, _, rfl, by simp, hanswer, rfl⟩
          | failure failure =>
              have hlast : ¬ n ≤ info.retries := fun hle =>
                hfine ⟨answers, n, value, failure, rfl, hn, hle, hvalue, hanswer⟩
              rw [actionAttempt_failed htried] at h
              simp only [handle, if_neg hlast, record] at h
              -- the failure of the recorder is recorded in turn
              cases hagain : answers 1 with
              | ok u =>
                  simp only [List.length_singleton, hagain] at h
                  cases h
                  exact Or.inr ⟨answers, 0, _, rfl, by simp, hanswer, rfl⟩
              | error e =>
                  simp only [List.length_singleton, hagain] at h
                  cases h
                  exact Or.inr ⟨answers, 1, e, rfl, by simp, hagain, rfl⟩

/-- An attempt that is followed by another, when no success is recorded in vain: it failed. -/
theorem actionAttempt_goes_on (hfine : ¬ RecordedInVain info call recorder) {n : Nat}
    (hn : ComesTo info call n) {log log' : ActionLog α β} (hlog : log.records = [])
    (h : actionAttempt info call recorder n log = (.again, log')) :
    (∃ failure, call.outcome n = .error (.failure failure)) ∧ log'.records = [] := by
  cases houtcome : call.outcome n with
  | error e =>
      cases e with
      | exit text => cases h.symm.trans (actionAttempt_exited (tryOnce_error houtcome))
      | failure failure =>
          refine ⟨⟨failure, rfl⟩, ?_⟩
          rw [actionAttempt_failed (tryOnce_error houtcome)] at h
          by_cases hle : n ≤ info.retries
          · cases h.symm.trans (handle_again hle)
            exact hlog
          · obtain ⟨e, he⟩ := handle_last hle
            cases (congrArg Prod.fst h).symm.trans he
  | ok value =>
      cases recorder with
      | none => cases h.symm.trans (actionAttempt_returned (tryOnce_unrecorded houtcome))
      | some answers =>
          have htried : tryOnce info call (some answers) n log = _ := tryOnce_first hlog houtcome
          cases hanswer : answers 0 with
          | ok u =>
              rw [hanswer] at htried
              cases h.symm.trans (actionAttempt_returned htried)
          | error e =>
              rw [hanswer] at htried
              cases e with
              | exit text => cases h.symm.trans (actionAttempt_exited htried)
              | failure failure =>
                  rw [actionAttempt_failed htried] at h
                  by_cases hle : n ≤ info.retries
                  · exact absurd ⟨answers, n, value, failure, rfl, hn, hle, houtcome, hanswer⟩ hfine
                  · obtain ⟨e, he⟩ := handle_last hle
                    cases (congrArg Prod.fst h).symm.trans he

/-- A call that records no success in vain. -/
theorem neverAgain_of_fine (info : ActionMeta β) (call : ActionCall α)
    (hfine : ¬ RecordedInVain info call recorder) :
    Ends
      (fun n log => 1 ≤ n ∧ log.invocations + 1 = n ∧ log.records = [] ∧ FailedBefore call n)
      (fun k result (log : ActionLog α β) => log.invocations = k ∧ FailedBefore call k ∧
        ∀ value, call.outcome k = .ok value → result = .ok value ∨
          ∃ answers m e, recorder = some answers ∧ m < log.records.length ∧
            answers m = .error e ∧ result = .error e)
      1 (info.retries + 1).toNat
      (attempts (actionAttempt info call recorder) (info.retries + 1).toNat 1 ⟨0, [], []⟩) := by
  refine attempts_rule ((info.retries + 1).toNat + 1) ?_ ?_ _ 1 _ (by omega) ?_
  · rintro n log log' hn ⟨hone, hcount, hrecords, hfailed⟩ hagain
    have hcomes : ComesTo info call n := ⟨hone, by omega, hfailed⟩
    obtain ⟨⟨failure, hfailure⟩, hrecords'⟩ := actionAttempt_goes_on hfine hcomes hrecords hagain
    have hcount' := invocations_of_attempt hagain
    exact ⟨by omega, by omega, hrecords', hfailed.succ hfailure⟩
  · rintro n log log' result hn ⟨hone, hcount, hrecords, hfailed⟩ hstop
    have hcomes : ComesTo info call n := ⟨hone, by omega, hfailed⟩
    have hcount' := invocations_of_attempt hstop
    exact ⟨by omega, hfailed,
      fun value hvalue => actionAttempt_stops hfine hcomes hrecords hstop hvalue⟩
  · exact ⟨le_rfl, rfl, rfl, fun j hj hlt => by omega⟩

/-- A success recorded in vain at attempt `k` is followed by another attempt. -/
theorem again_of_vain {answers : Recorder} {k : Nat} {value : α} {failure : Failure}
    (hcomes : ComesTo info call k) (hk : k ≤ info.retries) (hvalue : call.outcome k = .ok value)
    (hanswer : answers 0 = .error (.failure failure)) :
    Ends (fun n log => 1 ≤ n ∧ log.invocations + 1 = n ∧ (n ≤ k → log.records = []))
      (fun j _ (log : ActionLog α β) => k < j ∧ log.invocations = j) 1 (info.retries + 1).toNat
      (attempts (actionAttempt info call (some answers)) (info.retries + 1).toNat 1
        ⟨0, [], []⟩) := by
  -- up to the `k`-th, every attempt has another after it
  have hagain : ∀ n (log : ActionLog α β), 1 ≤ n → n ≤ k → log.records = [] →
      ∃ log', actionAttempt info call (some answers) n log = (.again, log') ∧
        (n < k → log'.records = []) := by
    intro n log hn hle hrecords
    have hpause : n ≤ info.retries := by omega
    rcases Nat.lt_or_eq_of_le hle with hlt | rfl
    · obtain ⟨failure, hfailure⟩ := hcomes.failed n hn hlt
      refine ⟨_, (actionAttempt_failed (tryOnce_error hfailure)).trans (handle_again hpause), ?_⟩
      exact fun _ => hrecords
    · have htried : tryOnce info call (some answers) n log = _ := tryOnce_first hrecords hvalue
      rw [hanswer] at htried
      exact ⟨_, (actionAttempt_failed htried).trans (handle_again hpause),
        fun h => absurd h (lt_irrefl n)⟩
  refine attempts_rule ((info.retries + 1).toNat + 1) ?_ ?_ _ 1 _ (by omega) ?_
  · rintro n log log' - ⟨hone, hcount, hrecords⟩ hbody
    have hcount' := invocations_of_attempt hbody
    refine ⟨by omega, by omega, fun hle => ?_⟩
    obtain ⟨log'', hbody', hrecords'⟩ := hagain n log hone (by omega) (hrecords (by omega))
    cases hbody.symm.trans hbody'
    exact hrecords' (by omega)
  · rintro n log log' result - ⟨hone, hcount, hrecords⟩ hbody
    have hcount' := invocations_of_attempt hbody
    refine ⟨?_, by omega⟩
    by_contra hle
    obtain ⟨log'', hbody', -⟩ := hagain n log hone (by omega) (hrecords (by omega))
    cases hbody.symm.trans hbody'
  · exact ⟨le_rfl, rfl, fun _ => rfl⟩

theorem not_neverAgain_of_vain {ctx : ExecutionContext}
    (hvain : RecordedInVain info call ctx.recordAction) :
    ¬ NeverAgain call ctx.recordAction (wrapper info call (some ctx)) := by
  obtain ⟨answers, k, value, failure, hrecorder, hcomes, hk, hvalue, hanswer⟩ := hvain
  intro hnever
  have hends := again_of_vain hcomes hk hvalue hanswer
  have hmore : k < (wrapper info call (some ctx)).2.invocations := by
    simp only [wrapper, hrecorder]
    generalize attempts (actionAttempt info call (some answers)) (info.retries + 1).toNat 1
      (⟨0, [], []⟩ : ActionLog α β) = out at hends
    cases hends with
    | stopped j result log _ _ h =>
        show k < log.invocations
        omega
    | exhausted log h =>
        show k < log.invocations
        omega
  have hsame := hnever.once k value hcomes.first (le_of_lt hmore) hvalue
  omega

theorem neverAgain_of_not_vain (info : ActionMeta β) (call : ActionCall α) {ctx : ExecutionContext}
    (hfine : ¬ RecordedInVain info call ctx.recordAction) :
    NeverAgain call ctx.recordAction (wrapper info call (some ctx)) := by
  have hends := neverAgain_of_fine info call hfine
  generalize hloop : attempts (actionAttempt info call ctx.recordAction)
    (info.retries + 1).toNat 1 (⟨0, [], []⟩ : ActionLog α β) = out at hends
  cases hends with
  | stopped k result log hk hlt h =>
      obtain ⟨hcount, hfailed, hresult⟩ := h
      have hrun : wrapper info call (some ctx) = (result, log) := by
        simp only [wrapper, hloop]
      have heq : ∀ j value, 1 ≤ j → j ≤ log.invocations → call.outcome j = .ok value →
          j = k := by
        intro j value hj hle hvalue
        have hfirst := hfailed.le_of_ok hj hvalue
        omega
      rw [hrun]
      refine ⟨?_, ?_⟩
      · intro j value hj hle hvalue
        rw [heq j value hj hle hvalue]
        exact hcount
      · intro j value hj hle hvalue
        cases heq j value hj hle hvalue
        exact hresult value hvalue
  | exhausted log h =>
      obtain ⟨-, hcount, -, hfailed⟩ := h
      have hlog : (wrapper info call (some ctx)).2 = log := by
        simp only [wrapper, hloop]
      have hnone : ∀ j value, 1 ≤ j → j ≤ (wrapper info call (some ctx)).2.invocations →
          call.outcome j ≠ .ok value := by
        intro j value hj hle hvalue
        have hfirst := hfailed.le_of_ok hj hvalue
        rw [hlog] at hle
        omega
      refine ⟨?_, ?_⟩
      · intro j value hj hle hvalue
        exact absurd hvalue (hnone j value hj hle)
      · intro j value hj hle hvalue
        exact absurd hvalue (hnone j value hj hle)

/-- **When a successful action is not executed again.**  Whatever the outcomes of the function
and the answers of the recorder, the function is not invoked after an attempt that
returned, and the call ends with its value or with the recorder's exception, if and only if
the first recorded success is not refused while an attempt is left. -/
theorem never_executed_again_iff (info : ActionMeta β) (call : ActionCall α)
    (ctx : Option ExecutionContext) :
    NeverAgain call (ctx.bind (·.recordAction)) (wrapper info call ctx) ↔
      ¬ RecordedInVain info call (ctx.bind (·.recordAction)) := by
  cases ctx with
  | none =>
      refine iff_of_true ⟨?_, ?_⟩ ?_
      · intro k value hk hle _
        exact le_antisymm hk hle
      · intro k value hk hle hvalue
        obtain rfl : k = 1 := le_antisymm hle hk
        exact Or.inl hvalue
      · rintro ⟨answers, k, value, failure, hrecorder, -⟩
        cases hrecorder
  | some ctx =>
      show NeverAgain call ctx.recordAction (wrapper info call (some ctx)) ↔
        ¬ RecordedInVain info call ctx.recordAction
      constructor
      · intro hnever hvain
        exact not_neverAgain_of_vain hvain hnever
      · exact neverAgain_of_not_vain info call

end Again

/-- An isolation that works at once, whose record is refused: it is executed again. -/
theorem isolation_is_executed_again :
    ¬ ∀ (info : ActionMeta Nat) (call : ActionCall Nat) (ctx : Option ExecutionContext),
      NeverAgain call (ctx.bind (·.recordAction)) (wrapper info call ctx) := by
  intro hclaim
  have hnever := hclaim ⟨"edr.isolate_host", 300, 1, 1⟩ ⟨fun n => .ok n, fun _ => 0, fun _ => false⟩
    (some (recordedBy (fun m => if m = 0 then .error (.failure (.exception "OperationalError"))
      else .ok ())))
  have htwice := hnever.once 1 1 le_rfl (by decide) rfl
  exact absurd htwice (by decide)

end OpenSoar
