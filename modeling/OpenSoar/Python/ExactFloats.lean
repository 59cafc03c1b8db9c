/-
# `OpenSoar.Python.ExactFloats` — the statistics over the exact reals

`FloatOps.exact` computes with real numbers and the two infinities.  On finite values the mean that
the program computes is that of the sample (`exact_mean`).
-/
import Mathlib.Data.EReal.Inv
import OpenSoar.Lib.Sample
import OpenSoar.Python.Floats

namespace OpenSoar.Python

open Classical in
/-- Real numbers, and the infinities. -/
noncomputable def FloatOps.exact : FloatOps EReal where
  ofInt n := ((n : ℝ) : EReal)
  add x y := x + y
  sub x y := x - y
  mul x y := x * y
  div x y := x / y
  sqrt x := ((√x.toReal : ℝ) : EReal)
  inf := ⊤
  isFinite x := decide (x ≠ ⊤ ∧ x ≠ ⊥)
  eq x y := decide (x = y)
  lt x y := decide (x < y)

/-- Numbers that are finite. -/
def finite (xs : List ℝ) : List EReal := xs.map Real.toEReal

theorem exact_eq {x y : EReal} : FloatOps.exact.eq x y = true ↔ x = y := decide_eq_true_iff

theorem exact_lt {x y : EReal} : FloatOps.exact.lt x y = true ↔ x < y := decide_eq_true_iff

theorem exact_ofInt (n : Int) : FloatOps.exact.ofInt n = ((n : ℝ) : EReal) := rfl

theorem exact_sub (x y : ℝ) : FloatOps.exact.sub x y = ((x - y : ℝ) : EReal) := rfl

theorem exact_div (x y : ℝ) : FloatOps.exact.div x y = ((x / y : ℝ) : EReal) :=
  (EReal.coe_div x y).symm

theorem exact_sqrt (x : ℝ) : FloatOps.exact.sqrt x = ((√x : ℝ) : EReal) := rfl

theorem exact_sum (xs : List ℝ) : FloatOps.exact.sum (finite xs) = ((xs.sum : ℝ) : EReal) := by
  have hfold : ∀ acc : ℝ, (finite xs).foldl FloatOps.exact.add acc =
      ((acc + xs.sum : ℝ) : EReal) := by
    induction xs with
    | nil =>
        intro acc
        rw [List.sum_nil, add_zero]
        rfl
    | cons x xs ih =>
        intro acc
        rw [List.sum_cons, ← add_assoc]
        exact ih (acc + x)
  have hzero := hfold ((0 : Int) : ℝ)
  rw [Int.cast_zero, zero_add] at hzero
  rw [FloatOps.sum, exact_ofInt, Int.cast_zero]
  exact hzero

theorem exact_mean (xs : List ℝ) :
    FloatOps.exact.mean (finite xs) = ((Sample.mean xs : ℝ) : EReal) := by
  rw [FloatOps.mean, exact_sum, exact_ofInt, exact_div, Sample.mean, finite, List.length_map,
    Int.cast_natCast]

end OpenSoar.Python
