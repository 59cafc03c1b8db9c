/-
# `OpenSoar.Lib.Scan` — all matches of a pattern, from left to right

A pattern that looks one element back is a function of the element before a position and of the
list from there on (`matchAt`).  `scan` looks for it as `re.finditer` does: after a match it goes
on behind the elements that the match covers.  `sites` is every position at which it matches,
those within another match among them.

A pattern that begins with an element of a kind that it does not have further on matches nowhere
within another match, so for it the two are the same (`scan_eq_sites`).  The positions of the
sites ascend (`sites_ascend`), which gives the first occurrence of what is found
(`first_lt_of_idxOf_lt`).  Where the matches in a list do not look at what comes behind it, the
sites of the whole are those of its two parts (`sites_append`).
-/
import Mathlib.Data.List.Pairwise
import Mathlib.Order.Bounds.Basic

namespace OpenSoar.Scan

universe u v w

section Sites

variable {α : Type u} {β : Type v} (matchAt : Option α → List α → Option β) (width : β → Nat)

/-- The matches that do not overlap; the number counts the elements of a match that are still to
be passed. -/
def scan : Option α → Nat → List α → List β
  | _, _, [] => []
  | _, k + 1, x :: xs => scan (some x) k xs
  | before, 0, x :: xs =>
      match matchAt before (x :: xs) with
      | some b => b :: scan (some x) (width b) xs
      | none => scan (some x) 0 xs

/-- The matches that do not overlap, with their positions, from `n` on. -/
def scanSites : Option α → Nat → Nat → List α → List (Nat × β)
  | _, _, _, [] => []
  | _, n, k + 1, x :: xs => scanSites (some x) (n + 1) k xs
  | before, n, 0, x :: xs =>
      match matchAt before (x :: xs) with
      | some b => (n, b) :: scanSites (some x) (n + 1) (width b) xs
      | none => scanSites (some x) (n + 1) 0 xs

/-- All positions of a match, from `n` on. -/
def sites : Option α → Nat → List α → List (Nat × β)
  | _, _, [] => []
  | before, n, x :: xs =>
      ((matchAt before (x :: xs)).map (fun b => (n, b))).toList ++ sites (some x) (n + 1) xs

variable {matchAt width}

/-- **No match is passed over.**  A match begins with an opener, and covers no other. -/
theorem scan_eq_sites {opener : α → Prop}
    (hopens : ∀ before x xs b, matchAt before (x :: xs) = some b → opener x)
    (hinside : ∀ before x xs b, matchAt before (x :: xs) = some b →
      ∀ y ∈ xs.take (width b), ¬ opener y)
    (xs : List α) (before : Option α) (k n : Nat) (hk : ∀ y ∈ xs.take k, ¬ opener y) :
    scan matchAt width before k xs = (sites matchAt before n xs).map Prod.snd := by
  induction xs generalizing before k n with
  | nil => rfl
  | cons x xs ih =>
      cases k with
      | succ k =>
          rw [List.take_succ_cons] at hk
          have hnone : matchAt before (x :: xs) = none := by
            rw [Option.eq_none_iff_forall_ne_some]
            intro b hb
            exact hk x List.mem_cons_self (hopens before x xs b hb)
          rw [scan, sites, hnone]
          exact ih (some x) k (n + 1) (fun y hy => hk y (List.mem_cons_of_mem x hy))
      | zero =>
          rw [scan, sites]
          cases hmatch : matchAt before (x :: xs) with
          | none => exact ih (some x) 0 (n + 1) (fun y hy => absurd hy List.not_mem_nil)
          | some b =>
              exact congrArg (List.cons b)
                (ih (some x) (width b) (n + 1) (hinside before x xs b hmatch))

/-- The same, with the positions. -/
theorem scanSites_eq_sites {opener : α → Prop}
    (hopens : ∀ before x xs b, matchAt before (x :: xs) = some b → opener x)
    (hinside : ∀ before x xs b, matchAt before (x :: xs) = some b →
      ∀ y ∈ xs.take (width b), ¬ opener y)
    (xs : List α) (before : Option α) (n k : Nat) (hk : ∀ y ∈ xs.take k, ¬ opener y) :
    scanSites matchAt width before n k xs = sites matchAt before n xs := by
  induction xs generalizing before n k with
  | nil => rfl
  | cons x xs ih =>
      cases k with
      | succ k =>
          rw [List.take_succ_cons] at hk
          have hnone : matchAt before (x :: xs) = none := by
            rw [Option.eq_none_iff_forall_ne_some]
            intro b hb
            exact hk x List.mem_cons_self (hopens before x xs b hb)
          rw [scanSites, sites, hnone]
          exact ih (some x) (n + 1) k (fun y hy => hk y (List.mem_cons_of_mem x hy))
      | zero =>
          rw [scanSites, sites]
          cases hmatch : matchAt before (x :: xs) with
          | none => exact ih (some x) (n + 1) 0 (fun y hy => absurd hy List.not_mem_nil)
          | some b =>
              exact congrArg (List.cons (n, b))
                (ih (some x) (n + 1) (width b) (hinside before x xs b hmatch))

theorem mem_sites {xs : List α} {before : Option α} {n i : Nat} {b : β} :
    (i, b) ∈ sites matchAt before n xs ↔ ∃ front x back, xs = front ++ x :: back ∧
      i = n + front.length ∧ matchAt (front.getLast?.or before) (x :: back) = some b := by
  induction xs generalizing before n with
  | nil =>
      refine ⟨fun h => absurd h List.not_mem_nil, ?_⟩
      rintro ⟨front, x, back, hxs, -⟩
      exact absurd hxs.symm (List.append_ne_nil_of_right_ne_nil front (List.cons_ne_nil x back))
  | cons x xs ih =>
      rw [sites, List.mem_append, ih, Option.mem_toList, Option.map_eq_some_iff]
      constructor
      · rintro (⟨b', hmatch, hsite⟩ | ⟨front, y, back, rfl, rfl, hmatch⟩)
        · cases hsite
          exact ⟨[], x, xs, rfl, rfl, hmatch⟩
        · refine ⟨x :: front, y, back, rfl, ?_, ?_⟩
          · rw [List.length_cons]
            omega
          · rw [List.getLast?_cons]
            cases hlast : front.getLast? with
            | none => rwa [hlast] at hmatch
            | some z => rwa [hlast] at hmatch
      · rintro ⟨front, y, back, hxs, rfl, hmatch⟩
        cases front with
        | nil =>
            cases hxs
            exact Or.inl ⟨b, hmatch, rfl⟩
        | cons z front =>
            cases hxs
            refine Or.inr ⟨front, y, back, rfl, ?_, ?_⟩
            · rw [List.length_cons]
              omega
            · rw [List.getLast?_cons] at hmatch
              cases hlast : front.getLast? with
              | none => rwa [hlast] at hmatch
              | some w => rwa [hlast] at hmatch

theorem le_of_mem_sites {xs : List α} {before : Option α} {n : Nat} {site : Nat × β}
    (h : site ∈ sites matchAt before n xs) : n ≤ site.1 := by
  obtain ⟨front, x, back, -, hi, -⟩ := mem_sites.mp h
  exact hi ▸ Nat.le_add_right n front.length

theorem sites_ascend (xs : List α) (before : Option α) (n : Nat) :
    (sites matchAt before n xs).Pairwise (fun a b => a.1 < b.1) := by
  induction xs generalizing before n with
  | nil => exact List.Pairwise.nil
  | cons x xs ih =>
      rw [sites, List.pairwise_append]
      refine ⟨?_, ih (some x) (n + 1), ?_⟩
      · cases matchAt before (x :: xs) with
        | none => exact List.Pairwise.nil
        | some b => exact List.pairwise_singleton _ _
      · intro a ha b hb
        obtain ⟨c, -, rfl⟩ := Option.map_eq_some_iff.mp (Option.mem_toList.mp ha)
        exact le_of_mem_sites hb

end Sites

/-! ## Lists put together -/

section Append

variable {α : Type u} {β : Type v} {matchAt : Option α → List α → Option β}

/-- The positions, counted from another number. -/
theorem sites_add (xs : List α) (before : Option α) (n k : Nat) :
    sites matchAt before (n + k) xs =
      (sites matchAt before n xs).map (fun site => (site.1 + k, site.2)) := by
  induction xs generalizing before n with
  | nil => rfl
  | cons x xs ih =>
      have hnext : n + k + 1 = n + 1 + k := Nat.add_right_comm n k 1
      rw [sites, sites, List.map_append, hnext, ih]
      cases matchAt before (x :: xs) <;> rfl

/-- What comes before the list matters to a match at its head only. -/
theorem sites_congr_before {before before' : Option α} {xs : List α}
    (h : matchAt before xs = matchAt before' xs) (n : Nat) :
    sites matchAt before n xs = sites matchAt before' n xs := by
  cases xs with
  | nil => rfl
  | cons x xs => rw [sites, sites, h]

/-- The element before what comes behind a list. -/
theorem getLast?_cons_or (x : α) (xs : List α) (before : Option α) :
    (x :: xs).getLast?.or before = xs.getLast?.or (some x) := by
  rw [List.getLast?_cons]
  cases xs.getLast? <;> rfl

/-- **The sites of two lists**, where no match in the first looks at the second. -/
theorem sites_append {ys : List α}
    (hends : ∀ before x xs, matchAt before (x :: (xs ++ ys)) = matchAt before (x :: xs))
    (xs : List α) (before : Option α) (n : Nat) :
    sites matchAt before n (xs ++ ys) =
      sites matchAt before n xs ++ sites matchAt (xs.getLast?.or before) (n + xs.length) ys := by
  induction xs generalizing before n with
  | nil => rfl
  | cons x xs ih =>
      rw [List.cons_append, sites, sites, hends, ih, List.append_assoc, getLast?_cons_or,
        List.length_cons, Nat.add_comm xs.length, Nat.add_assoc]

/-- Elements at which nothing matches are passed. -/
theorem sites_skip {xs : List α} (hnone : ∀ before, ∀ x ∈ xs, ∀ back,
      matchAt before (x :: back) = none) (ys : List α) (before : Option α) (n : Nat) :
    sites matchAt before n (xs ++ ys) =
      sites matchAt (xs.getLast?.or before) (n + xs.length) ys := by
  induction xs generalizing before n with
  | nil => rfl
  | cons x xs ih =>
      rw [List.cons_append, sites, hnone before x List.mem_cons_self,
        ih (fun before y hy => hnone before y (List.mem_cons_of_mem x hy)), getLast?_cons_or,
        List.length_cons, Nat.add_comm xs.length, Nat.add_assoc]
      rfl

end Append

/-! ## First occurrences -/

section First

variable {τ : Type w} [DecidableEq τ] {ps : List (Nat × τ)}

/-- A label occurs first at the position of its first entry. -/
theorem exists_isLeast (hps : ps.Pairwise (fun a b => a.1 < b.1)) {t : τ}
    (ht : t ∈ ps.map Prod.snd) :
    ∃ h : (ps.map Prod.snd).idxOf t < ps.length,
      IsLeast {i | (i, t) ∈ ps} ps[(ps.map Prod.snd).idxOf t].1 := by
  have hlt : (ps.map Prod.snd).idxOf t < ps.length := by
    rw [← List.length_map (f := Prod.snd)]
    exact List.idxOf_lt_length_of_mem ht
  have hlabel : ps[(ps.map Prod.snd).idxOf t].2 = t := by
    have hget := List.getElem_idxOf (List.idxOf_lt_length_of_mem ht)
    rwa [List.getElem_map] at hget
  refine ⟨hlt, ?_, ?_⟩
  · show (_, t) ∈ ps
    have hmem := List.getElem_mem hlt
    rwa [show ps[(ps.map Prod.snd).idxOf t] = (ps[(ps.map Prod.snd).idxOf t].1, t) from
      Prod.ext rfl hlabel] at hmem
  · intro i hi
    obtain ⟨k, hk, hget⟩ := List.getElem_of_mem (show (i, t) ∈ ps from hi)
    have hle : (ps.map Prod.snd).idxOf t ≤ k := by
      by_contra hbefore
      have hother := List.not_of_lt_findIdx (p := (· == t)) (Nat.lt_of_not_le hbefore)
      rw [List.getElem_map, hget, beq_self_eq_true] at hother
      cases hother
    rcases Nat.lt_or_eq_of_le hle with hlt' | heq
    · have hless := List.pairwise_iff_getElem.mp hps _ k hlt hk hlt'
      rw [hget] at hless
      exact Nat.le_of_lt hless
    · simp only [heq, hget, le_refl]

/-- **The order of first entries is the order of first occurrences.** -/
theorem first_lt_of_idxOf_lt (hps : ps.Pairwise (fun a b => a.1 < b.1)) {t t' : τ}
    (ht : t ∈ ps.map Prod.snd) (ht' : t' ∈ ps.map Prod.snd)
    (hlt : (ps.map Prod.snd).idxOf t < (ps.map Prod.snd).idxOf t') :
    ∃ i j, IsLeast {i | (i, t) ∈ ps} i ∧ IsLeast {j | (j, t') ∈ ps} j ∧ i < j := by
  obtain ⟨h, hleast⟩ := exists_isLeast hps ht
  obtain ⟨h', hleast'⟩ := exists_isLeast hps ht'
  exact ⟨_, _, hleast, hleast', List.pairwise_iff_getElem.mp hps _ _ h h' hlt⟩

end First

end OpenSoar.Scan
