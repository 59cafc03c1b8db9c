/-
# `OpenSoar.Lib.Distinct` — one element per key, in the order of first occurrence

The loop that walks a list, remembers the keys it has met and keeps an element
only under a new key (`distinctOn`).  Beside what it keeps, the file has the law
for a list made of blocks, one for each element of a list of labels: the loop
keeps the blocks of the labels that are met for the first time, whole
(`distinctOn_flatMap`), so the result is in some order exactly when the blocks
are, each in itself and any two in the order of their labels
(`pairwise_distinctOn_flatMap`).
-/
import Mathlib.Data.List.Nodup
import Mathlib.Data.List.Induction

namespace OpenSoar

universe u v w

variable {α : Type u} {κ : Type v} [DecidableEq κ] (key : α → κ)

/-- One turn of the loop. -/
def keepFirst (kept : List α) (a : α) : List α :=
  if key a ∈ kept.map key then kept else kept ++ [a]

/-- The first element under each key. -/
def distinctOn (xs : List α) : List α := xs.foldl (keepFirst key) []

theorem keepFirst_seen {kept : List α} {a : α} (h : key a ∈ kept.map key) :
    keepFirst key kept a = kept := if_pos h

theorem keepFirst_new {kept : List α} {a : α} (h : key a ∉ kept.map key) :
    keepFirst key kept a = kept ++ [a] := if_neg h

@[simp] theorem distinctOn_nil : distinctOn key [] = [] := rfl

theorem distinctOn_append (xs ys : List α) :
    distinctOn key (xs ++ ys) = ys.foldl (keepFirst key) (distinctOn key xs) :=
  List.foldl_append

/-! ## What the loop keeps -/

theorem nodup_keepFirst {kept : List α} (h : (kept.map key).Nodup) (a : α) :
    ((keepFirst key kept a).map key).Nodup := by
  by_cases hseen : key a ∈ kept.map key
  · rwa [keepFirst_seen key hseen]
  · rw [keepFirst_new key hseen, List.map_append, List.map_singleton, ← List.concat_eq_append]
    exact h.concat hseen

/-- No key twice. -/
theorem nodup_distinctOn (xs : List α) : ((distinctOn key xs).map key).Nodup := by
  induction xs using List.reverseRecOn with
  | nil => exact List.nodup_nil
  | append_singleton xs a ih =>
      rw [distinctOn_append]
      exact nodup_keepFirst key ih a

theorem mem_of_mem_distinctOn {xs : List α} {a : α} (h : a ∈ distinctOn key xs) : a ∈ xs := by
  induction xs using List.reverseRecOn with
  | nil => exact h
  | append_singleton xs b ih =>
      rw [distinctOn_append, List.foldl_cons, List.foldl_nil] at h
      by_cases hseen : key b ∈ (distinctOn key xs).map key
      · rw [keepFirst_seen key hseen] at h
        exact List.mem_append_left _ (ih h)
      · rw [keepFirst_new key hseen] at h
        rcases List.mem_append.mp h with h | h
        · exact List.mem_append_left _ (ih h)
        · exact List.mem_append_right _ h

/-- Every key that occurs is kept under. -/
theorem key_mem_distinctOn {xs : List α} {a : α} (h : a ∈ xs) :
    key a ∈ (distinctOn key xs).map key := by
  induction xs using List.reverseRecOn with
  | nil => cases h
  | append_singleton xs b ih =>
      rw [distinctOn_append, List.foldl_cons, List.foldl_nil]
      by_cases hseen : key b ∈ (distinctOn key xs).map key
      · rw [keepFirst_seen key hseen]
        rcases List.mem_append.mp h with h | h
        · exact ih h
        · rwa [List.mem_singleton.mp h]
      · rw [keepFirst_new key hseen, List.map_append, List.mem_append]
        rcases List.mem_append.mp h with h | h
        · exact Or.inl (ih h)
        · rw [List.mem_singleton.mp h]
          exact Or.inr (List.mem_singleton_self _)

/-- Where a key belongs to one element only, the loop loses nothing. -/
theorem mem_distinctOn_iff {xs : List α} (hinj : ∀ a ∈ xs, ∀ b ∈ xs, key a = key b → a = b)
    {a : α} : a ∈ distinctOn key xs ↔ a ∈ xs := by
  refine ⟨mem_of_mem_distinctOn key, ?_⟩
  intro h
  obtain ⟨b, hb, hkey⟩ := List.mem_map.mp (key_mem_distinctOn key h)
  rw [← hinj b (mem_of_mem_distinctOn key hb) a h hkey]
  exact hb

/-! ## Whole blocks -/

/-- A block of known keys adds nothing. -/
theorem foldl_keepFirst_seen {xs kept : List α} (h : ∀ a ∈ xs, key a ∈ kept.map key) :
    xs.foldl (keepFirst key) kept = kept := by
  induction xs with
  | nil => rfl
  | cons a xs ih =>
      rw [List.foldl_cons, keepFirst_seen key (h a List.mem_cons_self)]
      exact ih (fun b hb => h b (List.mem_cons_of_mem _ hb))

/-- A block of new keys, no two of them the same, is kept whole. -/
theorem foldl_keepFirst_new {xs kept : List α} (hnodup : (xs.map key).Nodup)
    (hnew : ∀ a ∈ xs, key a ∉ kept.map key) : xs.foldl (keepFirst key) kept = kept ++ xs := by
  induction xs generalizing kept with
  | nil => exact (List.append_nil kept).symm
  | cons a xs ih =>
      obtain ⟨ha, hxs⟩ := List.nodup_cons.mp hnodup
      have hrest : ∀ b ∈ xs, key b ∉ (kept ++ [a]).map key := by
        intro b hb hmem
        rw [List.map_append, List.mem_append, List.map_singleton, List.mem_singleton] at hmem
        rcases hmem with hmem | heq
        · exact hnew b (List.mem_cons_of_mem _ hb) hmem
        · exact ha (heq ▸ List.mem_map_of_mem hb)
      rw [List.foldl_cons, keepFirst_new key (hnew a List.mem_cons_self), ih hxs hrest,
        List.append_assoc, List.singleton_append]

/-- Without a repeated key the loop changes nothing. -/
theorem distinctOn_of_nodup {xs : List α} (h : (xs.map key).Nodup) : distinctOn key xs = xs :=
  foldl_keepFirst_new key h (fun _ _ => List.not_mem_nil)

/-- Two lists without a common key. -/
theorem distinctOn_append_disjoint {xs ys : List α} (h : ∀ b ∈ ys, ∀ a ∈ xs, key a ≠ key b) :
    distinctOn key (xs ++ ys) = distinctOn key xs ++ distinctOn key ys := by
  induction ys using List.reverseRecOn with
  | nil => rw [List.append_nil, distinctOn_nil, List.append_nil]
  | append_singleton ys b ih =>
      have hold : ∀ b ∈ ys, ∀ a ∈ xs, key a ≠ key b :=
        fun b hb => h b (List.mem_append_left _ hb)
      rw [← List.append_assoc, distinctOn_append, ih hold, distinctOn_append, List.foldl_cons,
        List.foldl_nil, List.foldl_cons, List.foldl_nil]
      have hxs : key b ∉ (distinctOn key xs).map key := by
        intro hmem
        obtain ⟨a, ha, hkey⟩ := List.mem_map.mp hmem
        exact h b (List.mem_append_right _ (List.mem_singleton_self b)) a
          (mem_of_mem_distinctOn key ha) hkey
      by_cases hseen : key b ∈ (distinctOn key ys).map key
      · have hboth : key b ∈ (distinctOn key xs ++ distinctOn key ys).map key := by
          rw [List.map_append]
          exact List.mem_append_right _ hseen
        rw [keepFirst_seen key hseen, keepFirst_seen key hboth]
      · have hnone : key b ∉ (distinctOn key xs ++ distinctOn key ys).map key := by
          rw [List.map_append, List.mem_append]
          exact not_or.mpr ⟨hxs, hseen⟩
        rw [keepFirst_new key hseen, keepFirst_new key hnone, List.append_assoc]

section Blocks

variable {τ : Type w} [DecidableEq τ] {block : τ → List α} {ts : List τ}

/-- The blocks of the labels met for the first time. -/
theorem distinctOn_flatMap (hnodup : ∀ t, ((block t).map key).Nodup)
    (hdisjoint : ∀ t t' a b, a ∈ block t → b ∈ block t' → key a = key b → t = t') :
    distinctOn key (ts.flatMap block) = (distinctOn id ts).flatMap block := by
  induction ts using List.reverseRecOn with
  | nil => rfl
  | append_singleton ts t ih =>
      rw [List.flatMap_append, List.flatMap_singleton, distinctOn_append, distinctOn_append, ih,
        List.foldl_cons, List.foldl_nil]
      by_cases ht : t ∈ distinctOn id ts
      · have hseen : ∀ a ∈ block t, key a ∈ ((distinctOn id ts).flatMap block).map key :=
          fun a ha => List.mem_map_of_mem (List.mem_flatMap.mpr ⟨t, ht, ha⟩)
        rw [foldl_keepFirst_seen key hseen, keepFirst_seen id (by rwa [List.map_id])]
      · have hnew : ∀ a ∈ block t, key a ∉ ((distinctOn id ts).flatMap block).map key := by
          intro a ha hmem
          obtain ⟨b, hb, hkey⟩ := List.mem_map.mp hmem
          obtain ⟨t', ht', hb⟩ := List.mem_flatMap.mp hb
          exact ht (hdisjoint t' t b a hb ha hkey ▸ ht')
        rw [foldl_keepFirst_new key (hnodup t) hnew,
          keepFirst_new id (by rwa [List.map_id]), List.flatMap_append,
          List.flatMap_singleton]

theorem mem_distinctOn_id {t : τ} : t ∈ distinctOn id ts ↔ t ∈ ts :=
  mem_distinctOn_iff id (fun _ _ _ _ h => h)

/-- A relation along the distinct labels, read off the positions in the list. -/
theorem pairwise_distinctOn_iff {S : τ → τ → Prop} :
    (distinctOn id ts).Pairwise S ↔
      ∀ t ∈ ts, ∀ t' ∈ ts, ts.idxOf t < ts.idxOf t' → S t t' := by
  induction ts using List.reverseRecOn with
  | nil => simp
  | append_singleton ts s ih =>
      rw [distinctOn_append, List.foldl_cons, List.foldl_nil]
      have hids : ∀ t ∈ ts, (ts ++ [s]).idxOf t = ts.idxOf t :=
        fun t ht => List.idxOf_append_of_mem ht
      by_cases hs : s ∈ ts
      · rw [keepFirst_seen id (by rwa [List.map_id, id, mem_distinctOn_id]), ih]
        have hall : ∀ t, t ∈ ts ++ [s] ↔ t ∈ ts := by
          intro t
          rw [List.mem_append, List.mem_singleton]
          exact ⟨fun h => h.elim id (fun e => e ▸ hs), Or.inl⟩
        constructor
        · intro h t ht t' ht' hlt
          rw [hall] at ht ht'
          rw [hids t ht, hids t' ht'] at hlt
          exact h t ht t' ht' hlt
        · intro h t ht t' ht' hlt
          refine h t ((hall t).mpr ht) t' ((hall t').mpr ht') ?_
          rwa [hids t ht, hids t' ht']
      · have hlast : (ts ++ [s]).idxOf s = ts.length := by
          rw [List.idxOf_append_of_notMem hs, List.idxOf_cons_self, Nat.add_zero]
        have hbefore : ∀ t ∈ ts, (ts ++ [s]).idxOf t < ts.length :=
          fun t ht => by rw [hids t ht]; exact List.idxOf_lt_length_of_mem ht
        rw [keepFirst_new id (by rwa [List.map_id, id, mem_distinctOn_id]),
          List.pairwise_append, ih]
        constructor
        · rintro ⟨hpairs, -, hlasts⟩ t ht t' ht' hlt
          rcases List.mem_append.mp ht with ht | ht
          · rcases List.mem_append.mp ht' with ht' | ht'
            · rw [hids t ht, hids t' ht'] at hlt
              exact hpairs t ht t' ht' hlt
            · exact hlasts t (mem_distinctOn_id.mpr ht) t' ht'
          · rw [List.mem_singleton.mp ht, hlast] at hlt
            rcases List.mem_append.mp ht' with ht' | ht'
            · exact absurd (hbefore t' ht') (by omega)
            · rw [List.mem_singleton.mp ht', hlast] at hlt
              exact absurd hlt (Nat.lt_irrefl _)
        · intro h
          refine ⟨?_, List.pairwise_singleton _ _, ?_⟩
          · intro t ht t' ht' hlt
            refine h t (List.mem_append_left _ ht) t' (List.mem_append_left _ ht') ?_
            rwa [hids t ht, hids t' ht']
          · intro t ht t' ht'
            have ht := mem_distinctOn_id.mp ht
            refine h t (List.mem_append_left _ ht) t' (List.mem_append_right _ ht') ?_
            rw [List.mem_singleton.mp ht', hlast]
            exact hbefore t ht

/-- **The order of a list of blocks.**  Each block is in order, so what is left to
say is how the elements of two blocks compare. -/
theorem pairwise_distinctOn_flatMap {R : α → α → Prop}
    (hnodup : ∀ t, ((block t).map key).Nodup)
    (hdisjoint : ∀ t t' a b, a ∈ block t → b ∈ block t' → key a = key b → t = t')
    (hblock : ∀ t, (block t).Pairwise R) :
    (distinctOn key (ts.flatMap block)).Pairwise R ↔
      ∀ t ∈ ts, ∀ t' ∈ ts, ts.idxOf t < ts.idxOf t' →
        ∀ a ∈ block t, ∀ b ∈ block t', R a b := by
  rw [distinctOn_flatMap key hnodup hdisjoint, List.pairwise_flatMap,
    and_iff_right (fun t _ => hblock t)]
  exact pairwise_distinctOn_iff

end Blocks

end OpenSoar
