/-
# `OpenSoar.Ai.Similarity` — the cosine similarity of two embeddings

`cosine_similarity` of `ai/embeddings.py` is written over the operations of a `ScoreOps`; over the
exact reals (`ScoreOps.exact`) it is the cosine of the angle between the vectors
(`cosineSimilarity_exact`), so it is symmetric, between -1 and 1, and 1 for parallel vectors
(`cosineSimilarity_similarity`); and `round(score, 4)` never falls as the score rises
(`round4_mono`).
-/
import Mathlib.Algebra.BigOperators.Fin
import Mathlib.Algebra.Order.BigOperators.Ring.Finset
import Mathlib.Analysis.Real.Sqrt

namespace OpenSoar

/-! ## The program -/

/-- The operations on scores of type `F`. -/
structure ScoreOps (F : Type) where
  zero : F
  add : F → F → F
  mul : F → F → F
  div : F → F → F
  /-- `math.sqrt`. -/
  sqrt : F → F
  eq : F → F → Bool
  lt : F → F → Bool
  /-- `x >= y`. -/
  ge : F → F → Bool
  /-- `round(x, 4)`. -/
  round4 : F → F

section Cosine

variable {F : Type} (ops : ScoreOps F)

/-- The loop: the dot product and the squares of the norms. -/
def products (a b : List F) : F × F × F :=
  (a.zip b).foldl (fun (dot, normA, normB) (x, y) =>
    (ops.add dot (ops.mul x y), ops.add normA (ops.mul x x), ops.add normB (ops.mul y y)))
    (ops.zero, ops.zero, ops.zero)

/-- `cosine_similarity`. -/
def cosineSimilarity (a b : List F) : F :=
  if a.isEmpty || b.isEmpty || a.length ≠ b.length then ops.zero
  else
    let (dot, normA, normB) := products ops a b
    if ops.eq normA ops.zero || ops.eq normB ops.zero then ops.zero
    else ops.div dot (ops.mul (ops.sqrt normA) (ops.sqrt normB))

end Cosine

/-! ## Rounding -/

/-- To the nearest integer, and from the middle to the even one. -/
noncomputable def roundHalfEven (x : ℝ) : ℤ :=
  if Int.fract x < 1 / 2 then ⌊x⌋
  else if 1 / 2 < Int.fract x then ⌊x⌋ + 1
  else if Even ⌊x⌋ then ⌊x⌋
  else ⌊x⌋ + 1

noncomputable def half : ℝ := 1 / 2

theorem floor_le_roundHalfEven (x : ℝ) : ⌊x⌋ ≤ roundHalfEven x := by
  rw [roundHalfEven]
  split_ifs <;> omega

theorem roundHalfEven_le_floor (x : ℝ) : roundHalfEven x ≤ ⌊x⌋ + 1 := by
  rw [roundHalfEven]
  split_ifs <;> omega

theorem roundHalfEven_mono {x y : ℝ} (h : x ≤ y) : roundHalfEven x ≤ roundHalfEven y := by
  rcases (Int.floor_mono h).lt_or_eq with hlt | heq
  · exact (roundHalfEven_le_floor x).trans
      ((Int.add_one_le_of_lt hlt).trans (floor_le_roundHalfEven y))
  · have hfract : Int.fract x ≤ Int.fract y := by
      rw [Int.fract, Int.fract, heq]
      exact sub_le_sub_right h _
    rw [roundHalfEven, roundHalfEven, heq]
    split_ifs <;> first | omega | linarith

/-! ## Over the exact reals -/

open Classical in
/-- Real numbers. -/
noncomputable def ScoreOps.exact : ScoreOps ℝ where
  zero := 0
  add x y := x + y
  mul x y := x * y
  div x y := x / y
  sqrt x := √x
  eq x y := decide (x = y)
  lt x y := decide (x < y)
  ge x y := decide (y ≤ x)
  round4 x := roundHalfEven (x * 10000) / 10000

theorem exact_ge {x y : ℝ} : ScoreOps.exact.ge x y = true ↔ y ≤ x := decide_eq_true_iff

theorem exact_not_lt {x y : ℝ} : ScoreOps.exact.lt x y = false ↔ y ≤ x :=
  decide_eq_false_iff_not.trans not_lt

theorem round4_mono {x y : ℝ} (h : x ≤ y) : ScoreOps.exact.round4 x ≤ ScoreOps.exact.round4 y := by
  have hround : roundHalfEven (x * 10000) ≤ roundHalfEven (y * 10000) :=
    roundHalfEven_mono (mul_le_mul_of_nonneg_right h (by norm_num))
  exact div_le_div_of_nonneg_right (Int.cast_le.mpr hround) (by norm_num)

/-- The sum of the squares of the numbers. -/
def sumSquares (a : List ℝ) : ℝ := (a.map (fun x => x * x)).sum

def dotProduct (a b : List ℝ) : ℝ := ((a.zip b).map (fun p => p.1 * p.2)).sum

theorem products_exact {a b : List ℝ} (h : a.length = b.length) :
    products .exact a b = (dotProduct a b, sumSquares a, sumSquares b) := by
  have hfold : ∀ dot normA normB : ℝ, (a.zip b).foldl (fun (dot, normA, normB) (x, y) =>
      (dot + x * y, normA + x * x, normB + y * y)) (dot, normA, normB)
        = (dot + dotProduct a b, normA + sumSquares a, normB + sumSquares b) := by
    induction a generalizing b with
    | nil =>
        cases List.length_eq_zero_iff.mp h.symm
        intro dot normA normB
        simp [dotProduct, sumSquares]
    | cons x a ih =>
        cases b with
        | nil => cases h
        | cons y b =>
            intro dot normA normB
            rw [List.zip_cons_cons, List.foldl_cons, ih (Nat.succ.inj h)]
            simp only [dotProduct, sumSquares, List.zip_cons_cons, List.map_cons, List.sum_cons,
              add_assoc]
  have hzero := hfold 0 0 0
  rw [zero_add, zero_add, zero_add] at hzero
  exact hzero

/-- Over the exact reals the similarity is the cosine of the angle between the vectors. -/
theorem cosineSimilarity_exact {a b : List ℝ} (h : a.length = b.length) :
    cosineSimilarity .exact a b = dotProduct a b / (√(sumSquares a) * √(sumSquares b)) := by
  rw [cosineSimilarity]
  split
  · rename_i hempty
    have hnil : a = [] := by
      rcases Bool.or_eq_true_iff.mp hempty with hab | hlength
      · rcases Bool.or_eq_true_iff.mp hab with ha | hb
        · exact List.isEmpty_iff.mp ha
        · rw [List.isEmpty_iff.mp hb] at h
          exact List.length_eq_zero_iff.mp h
      · exact absurd h (of_decide_eq_true hlength)
    subst hnil
    simp [dotProduct, ScoreOps.exact]
  · rw [products_exact h]
    show (if (decide (sumSquares a = 0) || decide (sumSquares b = 0)) = true then (0 : ℝ)
      else _) = _
    split
    · rename_i hzero
      rcases Bool.or_eq_true_iff.mp hzero with ha | hb
      · rw [of_decide_eq_true ha, Real.sqrt_zero, zero_mul, div_zero]
      · rw [of_decide_eq_true hb, Real.sqrt_zero, mul_zero, div_zero]
    · rfl

/-! ## The range of the similarity -/

section Range

variable {a b : List ℝ}

theorem sumSquares_nonneg (a : List ℝ) : 0 ≤ sumSquares a := by
  refine List.sum_nonneg (fun x hx => ?_)
  obtain ⟨y, -, rfl⟩ := List.mem_map.mp hx
  exact mul_self_nonneg y

theorem sumSquares_eq_zero : sumSquares a = 0 ↔ ∀ x ∈ a, x = 0 := by
  induction a with
  | nil => exact iff_of_true rfl (fun x hx => absurd hx List.not_mem_nil)
  | cons x a ih =>
      have hsum : sumSquares (x :: a) = x * x + sumSquares a := List.sum_cons
      rw [hsum, add_eq_zero_iff_of_nonneg (mul_self_nonneg x) (sumSquares_nonneg a),
        mul_self_eq_zero,
        ih, List.forall_mem_cons]

theorem dotProduct_comm (a b : List ℝ) : dotProduct a b = dotProduct b a := by
  rw [dotProduct, dotProduct, ← List.zip_swap, List.map_map]
  congr 1
  exact List.map_congr_left (fun p _ => mul_comm _ _)

theorem dotProduct_smul_self (c : ℝ) (a : List ℝ) :
    dotProduct a (a.map (c * ·)) = c * sumSquares a := by
  induction a with
  | nil => exact (mul_zero c).symm
  | cons x a ih =>
      have hdot : dotProduct (x :: a) ((x :: a).map (c * ·)) =
        x * (c * x) + dotProduct a (a.map (c * ·)) := List.sum_cons
      have hsum : sumSquares (x :: a) = x * x + sumSquares a := List.sum_cons
      rw [hdot, ih, hsum]
      ring

theorem sumSquares_smul (c : ℝ) (a : List ℝ) :
    sumSquares (a.map (c * ·)) = c ^ 2 * sumSquares a := by
  rw [sumSquares, sumSquares, List.map_map, ← List.sum_map_mul_left]
  congr 1
  exact List.map_congr_left (fun x _ => by rw [Function.comp_apply]; ring)

/-- Cauchy and Schwarz, on the pairs that the loop goes through. -/
theorem dotProduct_sq_le (h : a.length = b.length) :
    dotProduct a b ^ 2 ≤ sumSquares a * sumSquares b := by
  have hfst : sumSquares a = ((a.zip b).map (fun p => p.1 ^ 2)).sum := by
    rw [sumSquares]
    nth_rewrite 1 [← List.map_fst_zip h.le]
    rw [List.map_map]
    congr 1
    exact List.map_congr_left (fun p _ => (pow_two _).symm)
  have hsnd : sumSquares b = ((a.zip b).map (fun p => p.2 ^ 2)).sum := by
    rw [sumSquares]
    nth_rewrite 1 [← List.map_snd_zip h.ge]
    rw [List.map_map]
    congr 1
    exact List.map_congr_left (fun p _ => (pow_two _).symm)
  rw [hfst, hsnd, dotProduct, ← Fin.sum_univ_fun_getElem, ← Fin.sum_univ_fun_getElem,
    ← Fin.sum_univ_fun_getElem]
  exact Finset.sum_mul_sq_le_sq_mul_sq _ _ _

/-- The exits of the function: a vector is empty, the lengths differ, or a vector is zero. -/
theorem cosineSimilarity_degenerate
    (h : a = [] ∨ b = [] ∨ a.length ≠ b.length ∨ (∀ x ∈ a, x = 0) ∨ ∀ x ∈ b, x = 0) :
    cosineSimilarity .exact a b = 0 := by
  by_cases hlength : a.length = b.length
  · rw [cosineSimilarity_exact hlength]
    rcases h with rfl | rfl | hdiffer | hzero | hzero
    · rw [sumSquares, List.map_nil, List.sum_nil, Real.sqrt_zero, zero_mul, div_zero]
    · rw [sumSquares, sumSquares, List.map_nil, List.sum_nil, Real.sqrt_zero, mul_zero, div_zero]
    · exact absurd hlength hdiffer
    · rw [sumSquares_eq_zero.mpr hzero, Real.sqrt_zero, zero_mul, div_zero]
    · rw [sumSquares_eq_zero.mpr hzero, Real.sqrt_zero, mul_zero, div_zero]
  · rw [cosineSimilarity, if_pos]
    · rfl
    · exact Bool.or_eq_true_iff.mpr (Or.inr (decide_eq_true hlength))

theorem cosineSimilarity_comm (a b : List ℝ) :
    cosineSimilarity .exact a b = cosineSimilarity .exact b a := by
  by_cases hlength : a.length = b.length
  · rw [cosineSimilarity_exact hlength, cosineSimilarity_exact hlength.symm, dotProduct_comm,
      mul_comm]
  · rw [cosineSimilarity_degenerate (Or.inr (Or.inr (Or.inl hlength))),
      cosineSimilarity_degenerate (Or.inr (Or.inr (Or.inl (Ne.symm hlength))))]

theorem abs_cosineSimilarity_le_one (a b : List ℝ) : |cosineSimilarity .exact a b| ≤ 1 := by
  by_cases hlength : a.length = b.length
  · have hbound : |dotProduct a b| ≤ √(sumSquares a) * √(sumSquares b) := by
      rw [← Real.sqrt_mul (sumSquares_nonneg a)]
      exact Real.abs_le_sqrt (dotProduct_sq_le hlength)
    have hnonneg : 0 ≤ √(sumSquares a) * √(sumSquares b) :=
      mul_nonneg (Real.sqrt_nonneg _) (Real.sqrt_nonneg _)
    rw [cosineSimilarity_exact hlength, abs_div, abs_of_nonneg hnonneg]
    exact div_le_one_of_le₀ hbound hnonneg
  · rw [cosineSimilarity_degenerate (Or.inr (Or.inr (Or.inl hlength))), abs_zero]
    exact zero_le_one

/-- A vector against a positive multiple of itself. -/
theorem cosineSimilarity_smul_self {c : ℝ} (hc : 0 < c) (ha : ∃ x ∈ a, x ≠ 0) :
    cosineSimilarity .exact a (a.map (c * ·)) = 1 := by
  have hpos : 0 < sumSquares a := by
    refine lt_of_le_of_ne (sumSquares_nonneg a) (fun hzero => ?_)
    obtain ⟨x, hx, hne⟩ := ha
    exact hne (sumSquares_eq_zero.mp hzero.symm x hx)
  have hself : √(sumSquares a) * (c * √(sumSquares a)) = c * sumSquares a := by
    rw [mul_left_comm, Real.mul_self_sqrt hpos.le]
  rw [cosineSimilarity_exact (List.length_map (c * ·)).symm, dotProduct_smul_self, sumSquares_smul,
    Real.sqrt_mul (sq_nonneg c), Real.sqrt_sq hc.le, hself]
  exact div_self (mul_pos hc hpos).ne'

/-- **Cosine similarity is a similarity.** -/
theorem cosineSimilarity_similarity (a b : List ℝ) :
    cosineSimilarity .exact a b = cosineSimilarity .exact b a ∧
      |cosineSimilarity .exact a b| ≤ 1 ∧
      ((∃ x ∈ a, x ≠ 0) → cosineSimilarity .exact a a = 1 ∧
        ∀ c : ℝ, 0 < c → cosineSimilarity .exact a (a.map (c * ·)) = 1) ∧
      (a = [] ∨ b = [] ∨ a.length ≠ b.length ∨ (∀ x ∈ a, x = 0) ∨ (∀ x ∈ b, x = 0) →
        cosineSimilarity .exact a b = 0) := by
  refine ⟨cosineSimilarity_comm a b, abs_cosineSimilarity_le_one a b, fun ha => ⟨?_, ?_⟩,
    cosineSimilarity_degenerate⟩
  · have hself := cosineSimilarity_smul_self one_pos ha
    simp only [one_mul, List.map_id'] at hself
    exact hself
  · exact fun c hc => cosineSimilarity_smul_self hc ha

theorem cosineSimilarity_parallel : cosineSimilarity .exact [1, 2] [3, 6] = 1 := by
  have hmultiple := ((cosineSimilarity_similarity [1, 2] []).2.2.1
    ⟨1, List.mem_cons_self, one_ne_zero⟩).2 3 three_pos
  have hmap : ([1, 2] : List ℝ).map (3 * ·) = [3, 6] := by norm_num
  rwa [hmap] at hmultiple

end Range

end OpenSoar
