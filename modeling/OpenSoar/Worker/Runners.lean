/-
# `OpenSoar.Worker.Runners` — coroutines that a task runs to their end

`_run_async` of `worker/tasks.py` and of `worker/retention.py`, and `detect_anomalies_task` of
`worker/anomaly.py`.  Each tries one way to run a coroutine and another one after a
`RuntimeError`, which is how `asyncio` says that there is no usable loop, or that one is running
already.  A `RuntimeError` of the body itself is taken for that too: `_run_async` then awaits the
finished coroutine and raises the error of that, and `detect_anomalies_task` calls `_run` once more.
-/
import OpenSoar.Python.Asyncio

namespace OpenSoar

open Python

/-! ## The program -/

section Program

variable {σ ε α : Type} (runtimeError : ε → Bool)

/-- The `try` block of `_run_async`, by what `get_event_loop` finds in the thread.  A running loop
is left alone: `asyncio.run` is submitted to another thread. -/
def tryCurrentLoop (current : Option EventLoop) (body : CoroutineBody σ ε α)
    (st : CoroutineState σ) : Except (AsyncRaised ε) α × CoroutineState σ :=
  match current with
  | none => (.error .noCurrentLoop, st)
  | some .running => asyncioRun body false st
  | some loop => loop.runUntilComplete body st

/-- `_run_async`. -/
def runAsync (current : Option EventLoop) (body : CoroutineBody σ ε α) (st : CoroutineState σ) :
    Except (AsyncRaised ε) α × CoroutineState σ :=
  match tryCurrentLoop current body st with
  | (.ok value, st) => (.ok value, st)
  | (.error e, st) =>
      if e.isRuntimeError runtimeError then
        asyncioRun body (decide (current = some .running)) st
      else (.error e, st)

/-- `_run_async` of `worker/tasks.py`. -/
def Tasks.runAsync (current : Option EventLoop) (body : CoroutineBody σ ε α) (world : σ) :
    Except (AsyncRaised ε) α × CoroutineState σ :=
  OpenSoar.runAsync runtimeError current body ⟨world, 0, false⟩

/-- `_run_async` of `worker/retention.py`. -/
def Retention.runAsync (current : Option EventLoop) (body : CoroutineBody σ ε α) (world : σ) :
    Except (AsyncRaised ε) α × CoroutineState σ :=
  OpenSoar.runAsync runtimeError current body ⟨world, 0, false⟩

/-- `detect_anomalies_task`, whose second attempt is in a thread of its own. -/
def detectAnomaliesTask (current : Option EventLoop) (run : CoroutineBody σ ε Int) (world : σ) :
    Except (AsyncRaised ε) Int × CoroutineState σ :=
  match asyncioRun run (decide (current = some .running)) ⟨world, 0, false⟩ with
  | (.ok inserted, st) => (.ok inserted, st)
  | (.error e, st) =>
      if e.isRuntimeError runtimeError then asyncioRun run false st.call else (.error e, st)

end Program

/-! ## Transparency -/

section Transparent

variable {σ ε α : Type} {runtimeError : ε → Bool} {current : Option EventLoop}
  {body : CoroutineBody σ ε α} {world : σ}

/-- The call comes to what the body comes to, which has been started once. -/
structure Transparent (body : CoroutineBody σ ε α) (world : σ)
    (out : Except (AsyncRaised ε) α × CoroutineState σ) : Prop where
  result : out.1 = (body world).1.mapError .body
  starts : out.2.starts = 1
  world : out.2.world = (body world).2

/-- The body raises a `RuntimeError`. -/
def RaisesRuntimeError (runtimeError : ε → Bool) (body : CoroutineBody σ ε α) (world : σ) : Prop :=
  ∃ e, (body world).1 = .error e ∧ runtimeError e = true

theorem transparent_await : Transparent body world (awaitCoroutine body ⟨world, 0, false⟩) :=
  ⟨rfl, rfl, rfl⟩

/-- Without a loop to use the body is only run by the second attempt. -/
theorem runAsync_unusable (h : current = none ∨ current = some .closed) :
    runAsync runtimeError current body ⟨world, 0, false⟩ =
      awaitCoroutine body ⟨world, 0, false⟩ := by
  rcases h with rfl | rfl
  · rfl
  · rfl

/-- With a loop the first attempt runs the body. -/
theorem tryCurrentLoop_usable (h : current = some .idle ∨ current = some .running) :
    tryCurrentLoop current body ⟨world, 0, false⟩ = awaitCoroutine body ⟨world, 0, false⟩ := by
  rcases h with rfl | rfl
  · rfl
  · rfl

/-- A second attempt at a finished coroutine raises another error than its own. -/
theorem asyncioRun_finished (running : Bool) (world : σ) :
    ∃ e, (asyncioRun body running ⟨world, 1, true⟩).1 = .error e ∧ ∀ e', e ≠ .body e' := by
  cases running with
  | true => exact ⟨.loopRunning, rfl, fun e' h => by cases h⟩
  | false => exact ⟨.alreadyAwaited, rfl, fun e' h => by cases h⟩

theorem runAsync_ok (h : current = some .idle ∨ current = some .running) {value : α}
    (hresult : (body world).1 = .ok value) :
    Transparent body world (runAsync runtimeError current body ⟨world, 0, false⟩) := by
  have hfirst := @tryCurrentLoop_usable σ ε α current body world h
  rw [awaitCoroutine_fresh, hresult] at hfirst
  rw [runAsync, hfirst]
  refine ⟨?_, rfl, rfl⟩
  rw [hresult]
  rfl

theorem runAsync_error (h : current = some .idle ∨ current = some .running) {e : ε}
    (hresult : (body world).1 = .error e) :
    Transparent body world (runAsync runtimeError current body ⟨world, 0, false⟩) ↔
      runtimeError e = false := by
  have hfirst := @tryCurrentLoop_usable σ ε α current body world h
  rw [awaitCoroutine_fresh, hresult] at hfirst
  rw [runAsync, hfirst]
  show Transparent body world (if runtimeError e = true then _ else _) ↔ _
  cases hruntime : runtimeError e with
  | false =>
      refine iff_of_true ⟨?_, rfl, rfl⟩ rfl
      rw [hresult]
      rfl
  | true =>
      refine iff_of_false (fun htransparent => ?_) Bool.true_eq_false.mp
      obtain ⟨e', he', hother⟩ :=
        @asyncioRun_finished σ ε α body (decide (current = some .running)) (body world).2
      have hsame := htransparent.result
      rw [hresult] at hsame
      exact hother e (Except.error.inj (he'.symm.trans hsame))

/-- **Which coroutines `_run_async` runs as they are.**  All of them where there is no loop to use,
and else those that raise no `RuntimeError`. -/
theorem runAsync_transparent_iff :
    Transparent body world (runAsync runtimeError current body ⟨world, 0, false⟩) ↔
      ¬ RaisesRuntimeError runtimeError body world ∨ current = none ∨ current = some .closed := by
  by_cases hunusable : current = none ∨ current = some .closed
  · rw [runAsync_unusable hunusable]
    exact iff_of_true transparent_await (Or.inr hunusable)
  · have husable : current = some .idle ∨ current = some .running := by
      cases current with
      | none => exact absurd (Or.inl rfl) hunusable
      | some loop =>
          cases loop with
          | closed => exact absurd (Or.inr rfl) hunusable
          | idle => exact Or.inl rfl
          | running => exact Or.inr rfl
    rw [or_iff_left hunusable, RaisesRuntimeError]
    cases hresult : (body world).1 with
    | ok value =>
        refine iff_of_true (runAsync_ok husable hresult) ?_
        rintro ⟨e, he, -⟩
        cases he
    | error e =>
        rw [runAsync_error husable hresult]
        constructor
        · rintro hother ⟨e', he', hruntime⟩
          cases he'
          exact Bool.false_ne_true (hother.symm.trans hruntime)
        · exact fun hnone => Bool.eq_false_iff.mpr (fun hruntime => hnone ⟨e, rfl, hruntime⟩)

/-- **How often the detection runs.**  Once, unless it raises a `RuntimeError` and there is no
running loop that could have been the reason. -/
theorem detectAnomaliesTask_once_iff {run : CoroutineBody σ ε Int} :
    (detectAnomaliesTask runtimeError current run world).2.starts = 1 ↔
      ¬ RaisesRuntimeError runtimeError run world ∨ current = some .running := by
  by_cases hrunning : current = some .running
  · subst hrunning
    exact iff_of_true rfl (Or.inr rfl)
  · have hfirst : asyncioRun run (decide (current = some .running)) ⟨world, 0, false⟩ =
        ((run world).1.mapError .body, ⟨(run world).2, 1, true⟩) := by
      rw [decide_eq_false hrunning]
      rfl
    rw [or_iff_left hrunning, RaisesRuntimeError, detectAnomaliesTask, hfirst]
    cases hresult : (run world).1 with
    | ok inserted =>
        refine iff_of_true rfl ?_
        rintro ⟨e, he, -⟩
        cases he
    | error e =>
        show (if runtimeError e = true then _ else _ :
          Except (AsyncRaised ε) Int × CoroutineState σ).2.starts = 1 ↔ _
        cases hruntime : runtimeError e with
        | false =>
            refine iff_of_true rfl ?_
            rintro ⟨e', he', hruntime'⟩
            cases he'
            exact Bool.false_ne_true (hruntime.symm.trans hruntime')
        | true => exact iff_of_false (Nat.succ_ne_self 1) (fun h => h ⟨e, rfl, hruntime⟩)

/-- **Which calls are transparent.** -/
theorem runners_transparent_iff (runtimeError : ε → Bool) (current : Option EventLoop)
    (body : CoroutineBody σ ε α) (detection : CoroutineBody σ ε Int) (world : σ) :
    (Transparent body world (Tasks.runAsync runtimeError current body world) ↔
        ¬ RaisesRuntimeError runtimeError body world ∨ current = none ∨ current = some .closed) ∧
      (Transparent body world (Retention.runAsync runtimeError current body world) ↔
        ¬ RaisesRuntimeError runtimeError body world ∨ current = none ∨ current = some .closed) ∧
      ((detectAnomaliesTask runtimeError current detection world).2.starts = 1 ↔
        ¬ RaisesRuntimeError runtimeError detection world ∨ current = some .running) :=
  ⟨runAsync_transparent_iff, runAsync_transparent_iff, detectAnomaliesTask_once_iff⟩

end Transparent

/-! ## A body that raises a `RuntimeError` -/

/-- The body counts its runs, and raises. -/
def raisesText (α : Type) : CoroutineBody Nat String α := fun runs => (.error "boom", runs + 1)

/-- The text is lost, in a thread with a loop and in one whose loop is running; and the detection
runs twice. -/
theorem runtimeError_masked :
    (Tasks.runAsync (fun _ => true) (some .idle) (raisesText Unit) 0).1.toOption = none ∧
      ¬ Transparent (raisesText Unit) 0
        (Tasks.runAsync (fun _ => true) (some .idle) (raisesText Unit) 0) ∧
      ¬ Transparent (raisesText Unit) 0
        (Retention.runAsync (fun _ => true) (some .running) (raisesText Unit) 0) ∧
      (detectAnomaliesTask (fun _ => true) none (raisesText Int) 0).2.starts = 2 := by
  refine ⟨rfl, fun h => ?_, fun h => ?_, rfl⟩
  · cases h.result
  · cases h.result

end OpenSoar
