/-
# `OpenSoar.Lib.Leading` — the first few elements of a selection

The first `n` elements of a list that meet a condition are those that meet it and before which
fewer than `n` do (`mem_take_filter`); `rank` is the number of them.  Selecting again within the
first few adds a bound on the first rank (`mem_take_filter_take`).

The first `n` elements of two selections from one list are the same list just when each lies
within the other selection (`take_eq_take_iff`).
-/
import Mathlib.Data.List.Nodup

namespace OpenSoar.Leading

universe u

variable {α : Type u} [DecidableEq α]

/-- How many elements before `x` meet the condition. -/
def rank (xs : List α) (p : α → Bool) (x : α) : Nat := (xs.takeWhile (fun y => y ≠ x)).countP p

theorem rank_cons_self (x : α) (xs : List α) (p : α → Bool) : rank (x :: xs) p x = 0 := by
  rw [rank, List.takeWhile_cons_of_neg (by simp)]
  rfl

theorem rank_cons_pos {x y : α} (h : y ≠ x) {p : α → Bool} (hp : p y = true) (xs : List α) :
    rank (y :: xs) p x = rank xs p x + 1 := by
  rw [rank, List.takeWhile_cons_of_pos (by simpa using h), List.countP_cons_of_pos hp]
  rfl

theorem rank_cons_neg {x y : α} (h : y ≠ x) {p : α → Bool} (hp : ¬ p y = true) (xs : List α) :
    rank (y :: xs) p x = rank xs p x := by
  rw [rank, List.takeWhile_cons_of_pos (by simpa using h), List.countP_cons_of_neg hp]
  rfl

/-- **The first few of a selection, by rank.** -/
theorem mem_take_filter {xs : List α} (hxs : xs.Nodup) {p : α → Bool} {n : Nat} {x : α} :
    x ∈ (xs.filter p).take n ↔ x ∈ xs ∧ p x = true ∧ rank xs p x < n := by
  induction xs generalizing n with
  | nil =>
      rw [List.filter_nil, List.take_nil]
      exact ⟨fun h => absurd h List.not_mem_nil, fun h => absurd h.1 List.not_mem_nil⟩
  | cons y xs ih =>
      obtain ⟨hy, hrest⟩ := List.nodup_cons.mp hxs
      by_cases hp : p y = true
      · rw [List.filter_cons_of_pos hp]
        cases n with
        | zero =>
            rw [List.take_zero]
            exact ⟨fun h => absurd h List.not_mem_nil, fun h => absurd h.2.2 (Nat.not_lt_zero _)⟩
        | succ n =>
            rw [List.take_succ_cons, List.mem_cons, List.mem_cons, ih hrest]
            by_cases hx : y = x
            · subst hx
              rw [rank_cons_self]
              exact ⟨fun _ => ⟨Or.inl rfl, hp, Nat.succ_pos n⟩, fun _ => Or.inl rfl⟩
            · rw [rank_cons_pos hx hp]
              constructor
              · rintro (rfl | ⟨hmem, hpx, hlt⟩)
                · exact absurd rfl hx
                · exact ⟨Or.inr hmem, hpx, Nat.succ_lt_succ hlt⟩
              · rintro ⟨hmem, hpx, hlt⟩
                exact Or.inr ⟨hmem.resolve_left (Ne.symm hx), hpx, Nat.lt_of_succ_lt_succ hlt⟩
      · rw [List.filter_cons_of_neg hp, ih hrest, List.mem_cons]
        by_cases hx : y = x
        · subst hx
          exact ⟨fun h => absurd h.1 hy, fun h => absurd h.2.1 hp⟩
        · rw [rank_cons_neg hx hp]
          constructor
          · rintro ⟨hmem, hrest⟩
            exact ⟨Or.inr hmem, hrest⟩
          · rintro ⟨hmem, hrest⟩
            exact ⟨hmem.resolve_left (Ne.symm hx), hrest⟩

/-- Ranks within a selection. -/
theorem rank_filter {xs : List α} {p q : α → Bool} {x : α} (hp : p x = true) :
    rank (xs.filter p) q x = rank xs (fun y => p y && q y) x := by
  induction xs with
  | nil => rfl
  | cons y xs ih =>
      by_cases hx : y = x
      · subst hx
        rw [List.filter_cons_of_pos hp, rank_cons_self, rank_cons_self]
      · by_cases hpy : p y = true
        · rw [List.filter_cons_of_pos hpy]
          by_cases hqy : q y = true
          · rw [rank_cons_pos hx hqy, rank_cons_pos hx (by rw [hpy, hqy]; rfl), ih]
          · rw [rank_cons_neg hx hqy, rank_cons_neg hx (by rw [hpy]; exact hqy), ih]
        · rw [List.filter_cons_of_neg hpy, rank_cons_neg hx (by simp [hpy]), ih]

/-- Ranks within the first few. -/
theorem rank_take {xs : List α} {p : α → Bool} {x : α} {k : Nat} (h : x ∈ xs.take k) :
    rank (xs.take k) p x = rank xs p x := by
  induction xs generalizing k with
  | nil => rw [List.take_nil]
  | cons y xs ih =>
      cases k with
      | zero => exact absurd h List.not_mem_nil
      | succ k =>
          rw [List.take_succ_cons] at h ⊢
          by_cases hx : y = x
          · subst hx
            rw [rank_cons_self, rank_cons_self]
          · have hrest := (List.mem_cons.mp h).resolve_left (Ne.symm hx)
            by_cases hp : p y = true
            · rw [rank_cons_pos hx hp, rank_cons_pos hx hp, ih hrest]
            · rw [rank_cons_neg hx hp, rank_cons_neg hx hp, ih hrest]

/-- **A selection among the first few of a selection, by rank.** -/
theorem mem_take_filter_take {xs : List α} (hxs : xs.Nodup) {p q : α → Bool} {k n : Nat}
    {x : α} : x ∈ (((xs.filter p).take k).filter q).take n ↔
      x ∈ xs ∧ (p x = true ∧ rank xs p x < k) ∧ q x = true ∧
        rank xs (fun y => p y && q y) x < n := by
  have hpage : ((xs.filter p).take k).Nodup := (hxs.filter p).sublist (List.take_sublist k _)
  rw [mem_take_filter hpage]
  constructor
  · rintro ⟨hmem, hq, hlt⟩
    obtain ⟨hstored, hp, hrank⟩ := (mem_take_filter hxs).mp hmem
    rw [rank_take hmem, rank_filter hp] at hlt
    exact ⟨hstored, ⟨hp, hrank⟩, hq, hlt⟩
  · rintro ⟨hstored, ⟨hp, hrank⟩, hq, hlt⟩
    have hmem := (mem_take_filter hxs).mpr ⟨hstored, hp, hrank⟩
    rw [← rank_filter hp, ← rank_take hmem] at hlt
    exact ⟨hmem, hq, hlt⟩

omit [DecidableEq α] in
/-- **When two selections begin alike.** -/
theorem take_eq_take_iff {xs : List α} (hxs : xs.Nodup) {X Y : List α} (hX : X.Sublist xs)
    (hY : Y.Sublist xs) (n : Nat) :
    X.take n = Y.take n ↔ (∀ x ∈ X.take n, x ∈ Y) ∧ (∀ y ∈ Y.take n, y ∈ X) := by
  constructor
  · intro h
    refine ⟨fun x hx => ?_, fun y hy => ?_⟩
    · exact List.mem_of_mem_take (h ▸ hx)
    · exact List.mem_of_mem_take (h ▸ hy)
  induction xs generalizing X Y n with
  | nil =>
      rw [List.sublist_nil.mp hX, List.sublist_nil.mp hY]
      exact fun _ => rfl
  | cons a xs ih =>
      obtain ⟨ha, hrest⟩ := List.nodup_cons.mp hxs
      rintro ⟨hXY, hYX⟩
      cases n with
      | zero => rfl
      | succ n =>
          cases hX with
          | cons _ hX =>
              cases hY with
              | cons _ hY => exact ih hrest hX hY (n + 1) ⟨hXY, hYX⟩
              | cons_cons _ hY =>
                  rw [List.take_succ_cons] at hYX
                  exact absurd (hX.subset (hYX a List.mem_cons_self)) ha
          | cons_cons _ hX =>
              rename_i X
              cases hY with
              | cons _ hY =>
                  rw [List.take_succ_cons] at hXY
                  exact absurd (hY.subset (hXY a List.mem_cons_self)) ha
              | cons_cons _ hY =>
                  rename_i Y
                  rw [List.take_succ_cons] at hXY hYX ⊢
                  rw [List.take_succ_cons]
                  refine congrArg (List.cons a) (ih hrest hX hY n ⟨?_, ?_⟩)
                  · intro x hx
                    have hne : x ≠ a := by
                      rintro rfl
                      exact ha (hX.subset (List.mem_of_mem_take hx))
                    exact (List.mem_cons.mp (hXY x (List.mem_cons_of_mem a hx))).resolve_left hne
                  · intro y hy
                    have hne : y ≠ a := by
                      rintro rfl
                      exact ha (hY.subset (List.mem_of_mem_take hy))
                    exact (List.mem_cons.mp (hYX y (List.mem_cons_of_mem a hy))).resolve_left hne

end OpenSoar.Leading
