/-
# `OpenSoar.Lib.Retry` — a body that is tried a bounded number of times

Each attempt gets its number and the state the attempts before it left, and either ends
the loop with a result or has it go on.  `attempts_rule` is the rule for such a loop: `P`
holds before every attempt that takes place, and `Q` of the attempt that ends it.
-/
import Mathlib.Order.Bounds.Basic

namespace OpenSoar.Retry

universe u v

/-- What an attempt says: the loop is over, with this result, or it goes on. -/
inductive Verdict (β : Type v) where
  | stop (result : β)
  | again

variable {σ : Type u} {β : Type v} (body : Nat → σ → Verdict β × σ)

/-- At most `left` attempts, the first of them with the number `n`; no result when none of
them ends the loop. -/
def attempts : (left n : Nat) → σ → Option β × σ
  | 0, _, s => (none, s)
  | left + 1, n, s =>
      match body n s with
      | (.stop result, s') => (some result, s')
      | (.again, s') => attempts left (n + 1) s'

/-- How a loop ends: at attempt `k`, of which `Q` holds, or without a result after the last
attempt, where `P` holds. -/
inductive Ends (P : Nat → σ → Prop) (Q : Nat → β → σ → Prop) (n left : Nat) :
    Option β × σ → Prop
  | stopped (k : Nat) (result : β) (s : σ) : n ≤ k → k < n + left → Q k result s →
      Ends P Q n left (some result, s)
  | exhausted (s : σ) : P (n + left) s → Ends P Q n left (none, s)

variable {body}

/-- **The rule for a bounded loop.**  `P` before an attempt gives `Q` when the attempt ends
the loop, and `P` before the next when it does not. -/
theorem attempts_rule {P : Nat → σ → Prop} {Q : Nat → β → σ → Prop} (top : Nat)
    (hagain : ∀ n s s', n < top → P n s → body n s = (.again, s') → P (n + 1) s')
    (hstop : ∀ n s s' result, n < top → P n s → body n s = (.stop result, s') → Q n result s')
    (left n : Nat) (s : σ) (htop : n + left ≤ top) (hP : P n s) :
    Ends P Q n left (attempts body left n s) := by
  induction left generalizing n s with
  | zero => exact .exhausted s hP
  | succ left ih =>
      have hn : n < top := by omega
      simp only [attempts]
      cases hbody : body n s with
      | mk verdict s' =>
          cases verdict with
          | stop result =>
              exact .stopped n result s' le_rfl (by omega) (hstop n s s' result hn hP hbody)
          | again =>
              have hnext := ih (n + 1) s' (by omega) (hagain n s s' hn hP hbody)
              show Ends P Q n (left + 1) (attempts body left (n + 1) s')
              generalize attempts body left (n + 1) s' = out at hnext
              cases hnext with
              | stopped k result s'' hle hlt hQ =>
                  exact .stopped k result s'' (by omega) (by omega) hQ
              | exhausted s'' hP' =>
                  refine .exhausted s'' ?_
                  have hsame : n + (left + 1) = n + 1 + left := by omega
                  rw [hsame]
                  exact hP'

/-- A loop whose last attempt always ends it has a result. -/
theorem attempts_some {left n : Nat} {s : σ} (hleft : 0 < left)
    (hlast : ∀ s, ∃ result s', body (n + left - 1) s = (.stop result, s')) :
    ∃ result s', attempts body left n s = (some result, s') := by
  induction left generalizing n s with
  | zero => omega
  | succ left ih =>
      simp only [attempts]
      cases hbody : body n s with
      | mk verdict s' =>
          cases verdict with
          | stop result => exact ⟨result, s', rfl⟩
          | again =>
              have hmore : 0 < left := by
                rcases Nat.eq_zero_or_pos left with rfl | h
                · obtain ⟨result, s'', hstop⟩ := hlast s
                  rw [Nat.add_sub_cancel, hbody] at hstop
                  cases hstop
                · exact h
              refine ih hmore ?_
              have hsame : n + 1 + left - 1 = n + (left + 1) - 1 := by omega
              rw [hsame]
              exact hlast

end OpenSoar.Retry
