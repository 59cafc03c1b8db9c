/-
# `OpenSoar.Lib.Table` — a table of rows under a primary key

A relational table, as the rows it holds in insertion order together with
the fact that no two of them share their key.  The invariant is a field, so a
table with two rows under one key cannot be written down; an operation that
could break it (`insert?`) checks, and one that rewrites a row in place (`set`)
keeps the list of keys as it is.

Nothing here knows what a row is: `key` reads the primary key off a row of
any type.
-/
import Mathlib.Data.List.Nodup

namespace OpenSoar

universe u v w

/-- The rows of a table, in insertion order, no two under the same key. -/
structure Table {ι : Type u} {α : Type v} (key : α → ι) where
  rows : List α
  nodup : (rows.map key).Nodup

namespace Table

variable {ι : Type u} {α : Type v} {key : α → ι}

@[ext] theorem ext {t t' : Table key} (h : t.rows = t'.rows) : t = t' := by
  cases t; cases t'; cases h; rfl

/-- The table with no rows. -/
def empty : Table key := ⟨[], List.nodup_nil⟩

/-- Every row replaced by one under the same key, perhaps of another type. -/
def map {β : Type w} {key' : β → ι} (f : α → β) (hkey : ∀ a, key' (f a) = key a)
    (t : Table key) : Table key' where
  rows := t.rows.map f
  nodup := by
    have hkeys : key' ∘ f = key := funext hkey
    rw [List.map_map, hkeys]
    exact t.nodup

/-- The rows that meet a condition rewritten, under the keys they have. -/
def update (p : α → Bool) (f : α → α) (hkey : ∀ a, key (f a) = key a) (t : Table key) :
    Table key :=
  t.map (fun a => if p a then f a else a) (fun a => by
    show key (if p a then f a else a) = key a
    split
    · exact hkey a
    · rfl)

/-- The rows that meet a condition. -/
def filter (p : α → Bool) (t : Table key) : Table key where
  rows := t.rows.filter p
  nodup := t.nodup.sublist (List.filter_sublist.map key)

variable [DecidableEq ι]

/-- The row under a key, when there is one. -/
def find? (t : Table key) (i : ι) : Option α :=
  t.rows.find? (fun a => decide (key a = i))

/-- Rewrite the row whose key is `key a`; a table without that row is kept. -/
def set (t : Table key) (a : α) : Table key where
  rows := t.rows.map (fun b => if key b = key a then a else b)
  nodup := by
    have hkeys : (t.rows.map (fun b => if key b = key a then a else b)).map key
        = t.rows.map key := by
      rw [List.map_map]
      refine List.map_congr_left (fun b _ => ?_)
      by_cases h : key b = key a <;> simp [h]
    rw [hkeys]; exact t.nodup

/-- Add a row; refused when its key is taken. -/
def insert? (t : Table key) (a : α) : Option (Table key) :=
  if h : key a ∈ t.rows.map key then none
  else some ⟨t.rows ++ [a], by
    rw [List.map_append, List.nodup_append]
    refine ⟨t.nodup, List.nodup_singleton _, ?_⟩
    intro i hi j hj hij
    rw [List.map_singleton, List.mem_singleton] at hj
    exact h (hj ▸ hij ▸ hi)⟩

/-! ## Looking a row up -/

theorem find?_key {t : Table key} {i : ι} {a : α} (h : t.find? i = some a) : key a = i := by
  simpa using List.find?_some h

theorem mem_of_find? {t : Table key} {i : ι} {a : α} (h : t.find? i = some a) : a ∈ t.rows :=
  List.mem_of_find?_eq_some h

/-- A stored row is the one its own key finds. -/
theorem find?_of_mem {t : Table key} {a : α} (h : a ∈ t.rows) : t.find? (key a) = some a := by
  have hsome : (t.find? (key a)).isSome := by
    simp only [find?, List.find?_isSome, decide_eq_true_eq]
    exact ⟨a, h, rfl⟩
  obtain ⟨b, hb⟩ := Option.isSome_iff_exists.mp hsome
  rw [hb, List.inj_on_of_nodup_map t.nodup (mem_of_find? hb) h (find?_key hb)]

theorem find?_eq_none_iff {t : Table key} {i : ι} :
    t.find? i = none ↔ ∀ a ∈ t.rows, key a ≠ i := by
  simp [find?, List.find?_eq_none]

/-! ## Rewriting a row -/

@[simp] theorem rows_set (t : Table key) (a : α) :
    (t.set a).rows = t.rows.map (fun b => if key b = key a then a else b) := rfl

theorem find?_set_self {t : Table key} {a b : α} (h : t.find? (key a) = some b) :
    (t.set a).find? (key a) = some a := by
  have hmem : a ∈ (t.set a).rows :=
    List.mem_map.mpr ⟨b, mem_of_find? h, by simp [find?_key h]⟩
  exact find?_of_mem hmem

theorem find?_set_ne {t : Table key} {a : α} {i : ι} (h : i ≠ key a) :
    (t.set a).find? i = t.find? i := by
  simp only [find?, rows_set]
  induction t.rows with
  | nil => rfl
  | cons b rows ih =>
      rw [List.map_cons, List.find?_cons, List.find?_cons, ih]
      by_cases hb : key b = key a
      · have hbi : key b ≠ i := fun e => h (e.symm.trans hb)
        rw [if_pos hb, decide_eq_false (Ne.symm h), decide_eq_false hbi]
      · rw [if_neg hb]

/-- One lookup law for a rewrite: the rewritten row under its key, every other
row as it was. -/
theorem find?_set (t : Table key) (a : α) (i : ι) :
    (t.set a).find? i = if i = key a then (t.find? i).map (fun _ => a) else t.find? i := by
  by_cases h : i = key a
  · subst h
    rw [if_pos rfl]
    cases hf : t.find? (key a) with
    | some b => exact find?_set_self hf
    | none =>
        rw [find?_eq_none_iff] at hf
        have hid : (t.set a).rows = t.rows := by
          rw [rows_set]
          exact (List.map_congr_left (fun b hb => if_neg (hf b hb))).trans (List.map_id _)
        rw [Option.map_none, find?_eq_none_iff, hid]
        exact hf
  · rw [if_neg h, find?_set_ne h]

/-- The rows after a stored row is rewritten: the new one, and those under other keys. -/
theorem mem_set {t : Table key} {a b c : α} (h : t.find? (key a) = some c) :
    b ∈ (t.set a).rows ↔ b = a ∨ b ∈ t.rows ∧ key b ≠ key a := by
  rw [rows_set, List.mem_map]
  constructor
  · rintro ⟨d, hd, hb⟩
    by_cases hkey : key d = key a
    · rw [if_pos hkey] at hb
      exact Or.inl hb.symm
    · rw [if_neg hkey] at hb
      exact Or.inr (hb ▸ ⟨hd, hkey⟩)
  · rintro (rfl | ⟨hb, hkey⟩)
    · exact ⟨c, mem_of_find? h, if_pos (find?_key h)⟩
    · exact ⟨b, hb, if_neg hkey⟩

/-- A stored row rewritten by itself. -/
theorem set_stored {t : Table key} {a : α} (h : t.find? (key a) = some a) : t.set a = t := by
  refine ext ?_
  rw [rows_set]
  refine (List.map_congr_left (fun b hb => ?_)).trans (List.map_id _)
  by_cases hkey : key b = key a
  · rw [if_pos hkey]
    exact (List.inj_on_of_nodup_map t.nodup hb (mem_of_find? h) hkey).symm
  · rw [if_neg hkey]
    rfl

/-! ## Adding a row -/

theorem insert?_some {t t' : Table key} {a : α} (h : t.insert? a = some t') :
    t.find? (key a) = none ∧ t'.rows = t.rows ++ [a] := by
  unfold insert? at h
  split at h
  · exact absurd h (by simp)
  · rename_i hnew
    refine ⟨?_, by rw [← Option.some.inj h]⟩
    rw [find?_eq_none_iff]
    intro b hb hkey
    exact hnew (hkey ▸ List.mem_map_of_mem hb)

/-- A key that is taken cannot. -/
theorem insert?_taken {t : Table key} {a b : α} (h : t.find? (key a) = some b) :
    t.insert? a = none :=
  dif_pos (List.mem_map.mpr ⟨b, mem_of_find? h, find?_key h⟩)

/-- A fresh key can be inserted. -/
theorem insert?_of_find? {t : Table key} {a : α} (h : t.find? (key a) = none) :
    ∃ t', t.insert? a = some t' := by
  have hnew : key a ∉ t.rows.map key := by
    intro hmem
    obtain ⟨b, hb, hkey⟩ := List.mem_map.mp hmem
    exact find?_eq_none_iff.mp h b hb hkey
  exact ⟨_, dif_neg hnew⟩

theorem find?_insert {t t' : Table key} {a : α} (h : t.insert? a = some t') (i : ι) :
    t'.find? i = if i = key a then some a else t.find? i := by
  obtain ⟨hnone, hrows⟩ := insert?_some h
  by_cases hi : i = key a
  · subst hi
    rw [if_pos rfl]
    exact find?_of_mem (by rw [hrows]; simp)
  · rw [if_neg hi]
    simp only [find?, hrows, List.find?_append]
    simp [Ne.symm hi]

/-! ## All rows at once -/

theorem find?_map {β : Type w} {key' : β → ι} (f : α → β) (hkey : ∀ a, key' (f a) = key a)
    (t : Table key) (i : ι) : (t.map f hkey).find? i = (t.find? i).map f := by
  simp only [find?, map, List.find?_map, Function.comp_def, hkey]

theorem find?_update (p : α → Bool) (f : α → α) (hkey : ∀ a, key (f a) = key a) (t : Table key)
    (i : ι) : (t.update p f hkey).find? i = (t.find? i).map (fun a => if p a then f a else a) :=
  find?_map _ _ t i

/-- A key finds what it found before, if the row is still there. -/
theorem find?_filter (p : α → Bool) (t : Table key) (i : ι) :
    (t.filter p).find? i = (t.find? i).filter p := by
  cases hfind : t.find? i with
  | none =>
      rw [Option.filter_none, find?_eq_none_iff]
      intro a ha
      exact find?_eq_none_iff.mp hfind a (List.mem_of_mem_filter ha)
  | some a =>
      have hkey : key a = i := find?_key hfind
      cases hp : p a with
      | true =>
          rw [Option.filter_some_pos hp, ← hkey]
          exact find?_of_mem (List.mem_filter.mpr ⟨mem_of_find? hfind, hp⟩)
      | false =>
          rw [Option.filter_some_neg hp, find?_eq_none_iff]
          intro b hb hb'
          obtain ⟨hmem, hpb⟩ := List.mem_filter.mp hb
          have hsame : b = a :=
            List.inj_on_of_nodup_map t.nodup hmem (mem_of_find? hfind) (hb'.trans hkey.symm)
          rw [hsame, hp] at hpb
          cases hpb

end Table

end OpenSoar
