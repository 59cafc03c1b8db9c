/-
# `OpenSoar.Lib.TopK` — the first few by a key coarser than the value

The elements of a list have a value, and a key that never falls as the value rises, but may be one
for several values (the rounded value, say).  `topK` sorts by the key, from high to low and
otherwise in the order of the list, and keeps the first `k`.

`mem_topK` says who makes the cut, by the `standing` in the list that was sorted, and
`best_topK_iff` when the first `k` by the key are the first `k` by the value.
-/
import Mathlib.Data.List.Sort
import OpenSoar.Lib.Leading

namespace OpenSoar.TopK

open List

universe u v w

/-! ## Before and after -/

section Before

variable {α : Type u} {x y : α} {xs : List α}

theorem before_or (hx : x ∈ xs) (hy : y ∈ xs) (hne : x ≠ y) : [x, y] <+ xs ∨ [y, x] <+ xs := by
  induction xs with
  | nil => cases hx
  | cons z xs ih =>
      rcases List.mem_cons.mp hx with rfl | hin
      · exact Or.inl ((List.singleton_sublist.mpr (List.mem_of_ne_of_mem hne.symm hy)).cons_cons x)
      · rcases List.mem_cons.mp hy with rfl | hin'
        · exact Or.inr ((List.singleton_sublist.mpr hin).cons_cons y)
        · exact (ih hin hin').imp (Sublist.cons z) (Sublist.cons z)

theorem before_asymm (hxs : xs.Nodup) (h : [x, y] <+ xs) : ¬ [y, x] <+ xs := by
  induction xs with
  | nil => cases h
  | cons z xs ih =>
      obtain ⟨hz, hrest⟩ := List.nodup_cons.mp hxs
      intro h'
      rcases List.sublist_cons_iff.mp h with hin | ⟨_, heq, htail⟩
      · rcases List.sublist_cons_iff.mp h' with hin' | ⟨_, heq', -⟩
        · exact ih hrest hin hin'
        · cases heq'
          exact hz (hin.subset (List.mem_cons_of_mem _ List.mem_cons_self))
      · cases heq
        rcases List.sublist_cons_iff.mp h' with hin' | ⟨_, heq', -⟩
        · exact hz (hin'.subset (List.mem_cons_of_mem _ List.mem_cons_self))
        · cases heq'
          exact hz (htail.subset List.mem_cons_self)

theorem ne_of_before (hxs : xs.Nodup) (h : [x, y] <+ xs) : x ≠ y := by
  rintro rfl
  exact before_asymm hxs h h

theorem mem_left (h : [x, y] <+ xs) : x ∈ xs := h.subset List.mem_cons_self

theorem mem_right (h : [x, y] <+ xs) : y ∈ xs :=
  h.subset (List.mem_cons_of_mem _ List.mem_cons_self)

/-- What comes before one of the first few is one of them. -/
theorem mem_take_of_before (hxs : xs.Nodup) (h : [x, y] <+ xs) {k : Nat} (hy : y ∈ xs.take k) :
    x ∈ xs.take k := by
  by_contra hx
  have hlate : x ∈ xs.drop k := by
    have hmem := mem_left h
    rw [← List.take_append_drop k xs, List.mem_append] at hmem
    exact hmem.resolve_left hx
  have hback : [y] ++ [x] <+ xs.take k ++ xs.drop k :=
    (List.singleton_sublist.mpr hy).append (List.singleton_sublist.mpr hlate)
  rw [List.take_append_drop] at hback
  exact before_asymm hxs h hback

variable [DecidableEq α]

theorem mem_takeWhile_ne (hxs : xs.Nodup) (hx : x ∈ xs) :
    y ∈ xs.takeWhile (fun z => z ≠ x) ↔ [y, x] <+ xs := by
  induction xs with
  | nil => cases hx
  | cons z xs ih =>
      obtain ⟨hz, hrest⟩ := List.nodup_cons.mp hxs
      rw [List.sublist_cons_iff]
      by_cases hzx : z = x
      · subst hzx
        rw [List.takeWhile_cons_of_neg (by simp)]
        refine iff_of_false List.not_mem_nil ?_
        rintro (hin | ⟨_, heq, htail⟩)
        · exact hz (mem_right hin)
        · cases heq
          exact hz (htail.subset List.mem_cons_self)
      · rw [List.takeWhile_cons_of_pos (by simpa using hzx), List.mem_cons,
          ih hrest ((List.mem_cons.mp hx).resolve_left (Ne.symm hzx))]
        constructor
        · rintro (rfl | hin)
          · exact Or.inr ⟨[x], rfl, List.singleton_sublist.mpr
              ((List.mem_cons.mp hx).resolve_left (Ne.symm hzx))⟩
          · exact Or.inl hin
        · rintro (hin | ⟨_, heq, -⟩)
          · exact Or.inr hin
          · cases heq
            exact Or.inl rfl

end Before

/-! ## The order -/

section Key

variable {α : Type u} {γ : Type w} [LinearOrder γ] {key : α → γ} {x y : α} {xs : List α}
  {k : Nat}

/-- From high keys to low ones, and otherwise in the order of the list. -/
def byKey (key : α → γ) (xs : List α) : List α := xs.insertionSort (fun x y => key y ≤ key x)

def topK (key : α → γ) (k : Nat) (xs : List α) : List α := (byKey key xs).take k

theorem mem_byKey : x ∈ byKey key xs ↔ x ∈ xs := List.mem_insertionSort _

theorem nodup_byKey (hxs : xs.Nodup) : (byKey key xs).Nodup :=
  (List.perm_insertionSort _ xs).nodup_iff.mpr hxs

theorem topK_sublist : topK key k xs <+ byKey key xs := List.take_sublist k _

theorem mem_of_mem_topK (h : x ∈ topK key k xs) : x ∈ xs := mem_byKey.mp (List.mem_of_mem_take h)

theorem length_topK : (topK key k xs).length = min k xs.length := by
  rw [topK, List.length_take, byKey, List.length_insertionSort]

theorem sorted_byKey (key : α → γ) (xs : List α) :
    (byKey key xs).Pairwise (fun x y => key y ≤ key x) := by
  have htotal : Std.Total (fun x y : α => key y ≤ key x) := ⟨fun x y => le_total (key y) (key x)⟩
  have htrans : IsTrans α (fun x y => key y ≤ key x) := ⟨fun _ _ _ hxy hyz => le_trans hyz hxy⟩
  exact List.pairwise_insertionSort _ xs

theorem key_le_of_before (h : [x, y] <+ byKey key xs) : key y ≤ key x :=
  List.pairwise_iff_forall_sublist.mp (sorted_byKey key xs) h

/-- **Who comes before whom.** -/
theorem before_byKey (hxs : xs.Nodup) : [x, y] <+ byKey key xs ↔
    x ∈ xs ∧ y ∈ xs ∧ (key y < key x ∨ key x = key y ∧ [x, y] <+ xs) := by
  have hbyKey := @nodup_byKey _ _ _ key _ hxs
  constructor
  · intro h
    have hx := mem_byKey.mp (mem_left h)
    have hy := mem_byKey.mp (mem_right h)
    refine ⟨hx, hy, ?_⟩
    rcases (key_le_of_before h).lt_or_eq with hlt | heq
    · exact Or.inl hlt
    · refine Or.inr ⟨heq.symm, (before_or hx hy (ne_of_before hbyKey h)).resolve_right ?_⟩
      intro hback
      exact before_asymm hbyKey h (List.pair_sublist_insertionSort heq.symm.le hback)
  · rintro ⟨hx, hy, hlt | ⟨heq, hbefore⟩⟩
    · have hne : x ≠ y := by
        rintro rfl
        exact lt_irrefl _ hlt
      refine (before_or (mem_byKey.mpr hx) (mem_byKey.mpr hy) hne).resolve_right ?_
      intro hback
      exact not_le_of_gt hlt (key_le_of_before hback)
    · exact List.pair_sublist_insertionSort heq.symm.le hbefore

variable [DecidableEq α]

/-- How many elements come before `x`: those of a higher key, and those of its key that the list
has first. -/
def standing (key : α → γ) (xs : List α) (x : α) : Nat :=
  xs.countP (fun y => key x < key y) + Leading.rank xs (fun y => key y = key x) x

theorem rank_byKey (hxs : xs.Nodup) (hx : x ∈ xs) :
    Leading.rank (byKey key xs) (fun _ => true) x = standing key xs x := by
  have hbyKey := @nodup_byKey _ _ _ key _ hxs
  have hsame : (byKey key xs).takeWhile (fun y => y ≠ x) ~
      xs.filter (fun y => key x < key y) ++
        (xs.takeWhile (fun y => y ≠ x)).filter (fun y => key y = key x) := by
    have hnodup : (xs.filter (fun y => key x < key y) ++
        (xs.takeWhile (fun y => y ≠ x)).filter (fun y => key y = key x)).Nodup := by
      refine (hxs.filter _).append ((hxs.sublist (List.takeWhile_sublist _)).filter _) ?_
      intro y hhigher hsame
      have hlt : key x < key y := of_decide_eq_true (List.mem_filter.mp hhigher).2
      have heq : key y = key x := of_decide_eq_true (List.mem_filter.mp hsame).2
      exact hlt.ne heq.symm
    refine (List.perm_ext_iff_of_nodup (hbyKey.sublist (List.takeWhile_sublist _)) hnodup).mpr ?_
    intro y
    rw [mem_takeWhile_ne hbyKey (mem_byKey.mpr hx), before_byKey hxs, List.mem_append,
      List.mem_filter, List.mem_filter, mem_takeWhile_ne hxs hx, decide_eq_true_eq,
      decide_eq_true_eq]
    constructor
    · rintro ⟨hy, -, hlt | ⟨heq, hbefore⟩⟩
      · exact Or.inl ⟨hy, hlt⟩
      · exact Or.inr ⟨hbefore, heq⟩
    · rintro (⟨hy, hlt⟩ | ⟨hbefore, heq⟩)
      · exact ⟨hy, hx, Or.inl hlt⟩
      · exact ⟨mem_left hbefore, hx, Or.inr ⟨heq, hbefore⟩⟩
  rw [Leading.rank, List.countP_true, hsame.length_eq, List.length_append, standing, Leading.rank,
    List.countP_eq_length_filter, List.countP_eq_length_filter]

/-- **Who makes the cut.** -/
theorem mem_topK (hxs : xs.Nodup) : x ∈ topK key k xs ↔ x ∈ xs ∧ standing key xs x < k := by
  have hall : (byKey key xs).filter (fun _ => true) = byKey key xs := List.filter_true _
  have hbyKey := @nodup_byKey _ _ _ key _ hxs
  have hcut := @Leading.mem_take_filter _ _ _ hbyKey (fun _ => true) k x
  rw [hall, mem_byKey] at hcut
  rw [topK, hcut]
  constructor
  · rintro ⟨hx, -, hlt⟩
    rw [rank_byKey hxs hx] at hlt
    exact ⟨hx, hlt⟩
  · rintro ⟨hx, hlt⟩
    refine ⟨hx, rfl, ?_⟩
    rw [rank_byKey hxs hx]
    exact hlt

end Key

/-! ## The best -/

section Best

variable {α : Type u} {β : Type v} {γ : Type w} [LinearOrder β] [LinearOrder γ] {value : α → β}
  {key : α → γ} {x y : α} {xs ys : List α} {k : Nat}

/-- The `k` elements of the highest values, from high to low. -/
structure Best (value : α → β) (k : Nat) (xs ys : List α) : Prop where
  subset : ys ⊆ xs
  length : ys.length = min k xs.length
  descending : ys.Pairwise (fun x y => value y ≤ value x)
  omitted : ∀ y ∈ xs, y ∉ ys → ∀ x ∈ ys, value y ≤ value x

/-- The order of the list does not matter. -/
theorem best_perm {xs' : List α} (h : xs ~ xs') : Best value k xs ys ↔ Best value k xs' ys := by
  constructor
  · intro hbest
    exact ⟨fun x hx => h.mem_iff.mp (hbest.subset hx), h.length_eq ▸ hbest.length,
      hbest.descending, fun y hy => hbest.omitted y (h.mem_iff.mpr hy)⟩
  · intro hbest
    exact ⟨fun x hx => h.mem_iff.mpr (hbest.subset hx), h.length_eq.symm ▸ hbest.length,
      hbest.descending, fun y hy => hbest.omitted y (h.mem_iff.mp hy)⟩

variable [DecidableEq α]

/-- **When the first few by the key are the best.**  An element that makes the cut has no higher
value of its key after it in the list. -/
theorem best_topK_iff (hxs : xs.Nodup) (hkey : ∀ x y, value x ≤ value y → key x ≤ key y) :
    Best value k xs (topK key k xs) ↔
      ∀ x y, [x, y] <+ xs → key x = key y → value x < value y → k ≤ standing key xs x := by
  have hbyKey := @nodup_byKey _ _ _ key _ hxs
  constructor
  · intro hbest x y hbefore heq hlt
    by_contra hcut
    have hx : x ∈ topK key k xs := (mem_topK hxs).mpr ⟨mem_left hbefore, not_le.mp hcut⟩
    by_cases hy : y ∈ topK key k xs
    · have hsorted : [x, y] <+ byKey key xs :=
        List.pair_sublist_insertionSort heq.symm.le hbefore
      have hwithin := (before_or hx hy (ne_of_before hxs hbefore)).resolve_right
        (fun hback => before_asymm hbyKey hsorted (hback.trans topK_sublist))
      have hle := List.pairwise_pair.mp (hbest.descending.sublist hwithin)
      exact not_le_of_gt hlt hle
    · exact not_le_of_gt hlt (hbest.omitted y (mem_right hbefore) hy x hx)
  · intro hnone
    have hvalue {x y : α} (hx : x ∈ topK key k xs) (h : [x, y] <+ byKey key xs) :
        value y ≤ value x := by
      by_contra hlt
      obtain ⟨-, -, hlower | ⟨heq, hbefore⟩⟩ := (before_byKey hxs).mp h
      · exact not_le_of_gt hlower (hkey x y (not_le.mp hlt).le)
      · exact not_le_of_gt ((mem_topK hxs).mp hx).2 (hnone x y hbefore heq (not_le.mp hlt))
    refine ⟨fun _ => mem_of_mem_topK, length_topK, ?_, ?_⟩
    · exact List.pairwise_iff_forall_sublist.mpr
        (fun h => hvalue (mem_left h) (h.trans topK_sublist))
    · intro y hy hcut x hx
      have hne : x ≠ y := by
        rintro rfl
        exact hcut hx
      refine hvalue hx ((before_or (mem_byKey.mpr (mem_of_mem_topK hx)) (mem_byKey.mpr hy)
        hne).resolve_right ?_)
      intro hback
      exact hcut (mem_take_of_before hbyKey hback hx)

end Best

end OpenSoar.TopK
