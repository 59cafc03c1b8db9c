/-
# `OpenSoar.Lib.Sample` — mean and standard deviation of a sample

The mean of a list of reals, and its deviation as an estimate from a sample: the root of the sum
of the squared differences over the number of values less one, and nothing for less than two
values.  Both are those of the multiset (`mean_perm`, `stdev_perm`), and the deviation is zero
exactly for the samples that are constant (`stdev_eq_zero_iff`).
-/
import Mathlib.Algebra.BigOperators.Group.List.Basic
import Mathlib.Algebra.Order.BigOperators.Group.List
import Mathlib.Analysis.Real.Sqrt
import Mathlib.Tactic.Positivity

namespace OpenSoar.Sample

noncomputable def mean (xs : List ℝ) : ℝ := xs.sum / xs.length

/-- The squared differences from the mean. -/
noncomputable def squares (xs : List ℝ) : List ℝ :=
  xs.map (fun x => (x - mean xs) * (x - mean xs))

noncomputable def stdev (xs : List ℝ) : ℝ :=
  if xs.length < 2 then 0 else √((squares xs).sum / (xs.length - 1))

variable {xs ys : List ℝ} {v : ℝ}

/-! ## The order of the values -/

theorem mean_perm (h : xs.Perm ys) : mean xs = mean ys := by
  rw [mean, mean, h.sum_eq, h.length_eq]

theorem squares_perm (h : xs.Perm ys) : (squares xs).Perm (squares ys) := by
  unfold squares
  rw [mean_perm h]
  exact h.map _

theorem stdev_perm (h : xs.Perm ys) : stdev xs = stdev ys := by
  rw [stdev, stdev, (squares_perm h).sum_eq, h.length_eq]

/-! ## Constant samples -/

theorem mean_of_const (hne : xs ≠ []) (h : ∀ x ∈ xs, x = v) : mean xs = v := by
  have hlength : (xs.length : ℝ) ≠ 0 :=
    Nat.cast_ne_zero.mpr (fun hzero => hne (List.length_eq_zero_iff.mp hzero))
  rw [mean, List.eq_replicate_of_mem h, List.sum_replicate, List.length_replicate, nsmul_eq_mul,
    mul_div_cancel_left₀ _ hlength]

theorem stdev_nonneg : 0 ≤ stdev xs := by
  unfold stdev
  split
  · exact le_refl 0
  · exact Real.sqrt_nonneg _

theorem squares_nonneg : ∀ d ∈ squares xs, 0 ≤ d := by
  intro d hd
  obtain ⟨x, -, rfl⟩ := List.mem_map.mp hd
  exact mul_self_nonneg _

/-- No value differs from the mean of a sample without deviation. -/
theorem eq_mean_of_stdev_eq_zero (h : stdev xs = 0) : ∀ x ∈ xs, x = mean xs := by
  intro x hx
  unfold stdev at h
  split at h
  next hshort =>
    obtain ⟨y, rfl⟩ : ∃ y, xs = [y] := by
      have hpos := List.length_pos_of_mem hx
      exact List.length_eq_one_iff.mp (by omega)
    rw [mean_of_const (List.cons_ne_nil _ _) (fun z hz => List.mem_singleton.mp hz)]
    exact List.mem_singleton.mp hx
  next hlong =>
    have hcount : (0 : ℝ) < xs.length - 1 := by
      have htwo : ((2 : Nat) : ℝ) ≤ xs.length := Nat.cast_le.mpr (Nat.not_lt.mp hlong)
      push_cast at htwo
      linarith
    have hsum : (squares xs).sum = 0 := by
      have hle := Real.sqrt_eq_zero'.mp h
      rw [div_le_iff₀ hcount, zero_mul] at hle
      exact le_antisymm hle (List.sum_nonneg squares_nonneg)
    have hzero := List.all_zero_of_le_zero_le_of_sum_eq_zero squares_nonneg hsum
      (List.mem_map_of_mem hx)
    exact sub_eq_zero.mp (mul_self_eq_zero.mp hzero)

theorem stdev_of_const (h : ∀ x ∈ xs, x = v) : stdev xs = 0 := by
  unfold stdev
  split
  · rfl
  next hlong =>
    have hne : xs ≠ [] := by
      rintro rfl
      exact hlong (by decide)
    have hsquares : ∀ d ∈ squares xs, d = 0 := by
      intro d hd
      obtain ⟨x, hx, rfl⟩ := List.mem_map.mp hd
      rw [h x hx, mean_of_const hne h, sub_self, zero_mul]
    rw [List.sum_eq_zero hsquares, zero_div, Real.sqrt_zero]

theorem stdev_eq_zero_iff : stdev xs = 0 ↔ ∀ x ∈ xs, x = mean xs :=
  ⟨eq_mean_of_stdev_eq_zero, stdev_of_const⟩

end OpenSoar.Sample
