/-
# `OpenSoar.Python.Asyncio` — coroutines and the loops that run them

The body of a coroutine acts on a state `σ`; it returns a value, or raises an exception of some type
`ε`.  The object that a call of a coroutine function makes can be awaited once, and what the
machinery raises by itself is always a `RuntimeError`.
-/

namespace OpenSoar.Python

universe u v w

/-- What leaves a call: an exception of the body, or a `RuntimeError` of the machinery. -/
inductive AsyncRaised (ε : Type v) where
  | body (e : ε)
  /-- "cannot reuse already awaited coroutine" -/
  | alreadyAwaited
  /-- "Event loop is closed" -/
  | loopClosed
  /-- "asyncio.run() cannot be called from a running event loop" -/
  | loopRunning
  /-- "There is no current event loop in thread" -/
  | noCurrentLoop
deriving DecidableEq

/-- `isinstance(e, RuntimeError)`, by which exceptions of the body are one. -/
def AsyncRaised.isRuntimeError {ε : Type v} (runtimeError : ε → Bool) : AsyncRaised ε → Bool
  | .body e => runtimeError e
  | _ => true

/-- The body of a coroutine. -/
abbrev CoroutineBody (σ : Type u) (ε : Type v) (α : Type w) := σ → Except ε α × σ

/-- The state, how often a body has been started so far, and whether the object at hand has been
awaited. -/
structure CoroutineState (σ : Type u) where
  world : σ
  starts : Nat
  awaited : Bool

/-- A call of the coroutine function makes a fresh object. -/
def CoroutineState.call {σ : Type u} (st : CoroutineState σ) : CoroutineState σ :=
  { st with awaited := false }

inductive EventLoop where
  | closed
  | idle
  | running
deriving DecidableEq

section Run

variable {σ : Type u} {ε : Type v} {α : Type w} (body : CoroutineBody σ ε α)

/-- `await` of the object. -/
def awaitCoroutine (st : CoroutineState σ) : Except (AsyncRaised ε) α × CoroutineState σ :=
  if st.awaited then (.error .alreadyAwaited, st)
  else
    let (result, world) := body st.world
    (result.mapError .body, ⟨world, st.starts + 1, true⟩)

/-- `asyncio.run` in a thread in which a loop is running, or none. -/
def asyncioRun (running : Bool) (st : CoroutineState σ) :
    Except (AsyncRaised ε) α × CoroutineState σ :=
  if running then (.error .loopRunning, st) else awaitCoroutine body st

/-- `loop.run_until_complete`. -/
def EventLoop.runUntilComplete (loop : EventLoop) (st : CoroutineState σ) :
    Except (AsyncRaised ε) α × CoroutineState σ :=
  match loop with
  | .closed => (.error .loopClosed, st)
  | .idle => awaitCoroutine body st
  | .running => (.error .loopRunning, st)

/-- What the body does to a state in which it has not been started. -/
theorem awaitCoroutine_fresh (world : σ) (starts : Nat) :
    awaitCoroutine body ⟨world, starts, false⟩ =
      ((body world).1.mapError .body, ⟨(body world).2, starts + 1, true⟩) := rfl

end Run

end OpenSoar.Python
