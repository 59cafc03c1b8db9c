/-
# `OpenSoar.Lib.Tally` — stores that count what arrives again

Items under ids of their own, each with a key or without one, and with a count.  What arrives
under a key that an item has is counted on that item; anything else that arrives becomes an item
that counts one (`Tallies`).  Items may go, and what is not an arrival leaves the others alone.

In every run from an empty store no two items have one key, and each item counts the arrivals of
its key from its creation on (`run_tally`).
-/
import OpenSoar.Lib.Run

namespace OpenSoar.Tally

universe u v w x y

/-- What a store keeps of an item. -/
structure Item (κ : Type y) where
  key : Option κ
  count : Nat

/-- One operation on the items.  The last argument is what arrives: nothing, something without a
key, or something under a key. -/
inductive Tallies {ι : Type x} {κ : Type y} (items items' : ι → Option (Item κ)) :
    Option (Option κ) → Prop
  | quiet : (∀ i, items' i = items i ∨ items' i = none) → Tallies items items' none
  | created (i : ι) (key : Option κ) : items i = none →
      (∀ j item, items j = some item → key.isSome → item.key ≠ key) →
      items' i = some ⟨key, 1⟩ → (∀ j, j ≠ i → items' j = items j) →
      Tallies items items' (some key)
  | again (i : ι) (key : κ) (count : Nat) : items i = some ⟨some key, count⟩ →
      items' i = some ⟨some key, count + 1⟩ → (∀ j, j ≠ i → items' j = items j) →
      Tallies items items' (some (some key))

/-- No two items have one key. -/
def OneEach {ι : Type x} {κ : Type y} (items : ι → Option (Item κ)) : Prop :=
  ∀ i j item item', items i = some item → items j = some item' → item.key.isSome →
    item.key = item'.key → i = j

section System

variable {σ : Type u} {ο : Type v} {ε : Type w} {ι : Type x} {κ : Type y} [DecidableEq κ]
  (items : σ → ι → Option (Item κ)) (arrival : ο → Option (Option κ))

/-- How many of the operations bring something under the key. -/
def arrivals (key : Option κ) (taken : List (Accepted σ ο)) : Nat :=
  taken.countP (fun e => key.isSome && decide (arrival e.op = some key))

/-- The item was created in the course of the operations, has been there since, and counts what has
arrived under its key. -/
def AccountsFor (past : List (Accepted σ ο)) (i : ι) (item : Item κ) : Prop :=
  ∃ before creation since, past = before ++ creation :: since ∧
    items creation.before i = none ∧ arrival creation.op = some item.key ∧
    (∀ e ∈ creation :: since, ∃ item', items e.after i = some item' ∧ item'.key = item.key) ∧
    item.count = 1 + arrivals arrival item.key since

/-- The invariant of the runs. -/
structure ExactCounts (past : List (Accepted σ ο)) (s : σ) : Prop where
  oneEach : OneEach (items s)
  accounts : ∀ i item, items s i = some item → AccountsFor items arrival past i item

variable {items arrival} {past : List (Accepted σ ο)} {s s' : σ} {o : ο}

omit [DecidableEq κ] in
theorem OneEach.tallies {before after : ι → Option (Item κ)} {arrived : Option (Option κ)}
    (h : OneEach before) (hstep : Tallies before after arrived) : OneEach after := by
  intro i j item item' hi hj hsome hkeys
  cases hstep with
  | quiet hkept =>
      rcases hkept i with hsame | hnone
      · rcases hkept j with hsame' | hnone
        · exact h i j item item' (hsame.symm.trans hi) (hsame'.symm.trans hj) hsome hkeys
        · cases hnone.symm.trans hj
      · cases hnone.symm.trans hi
  | created new key habsent hfresh hnew hothers =>
      by_cases hin : i = new
      · by_cases hjn : j = new
        · exact hin.trans hjn.symm
        · subst hin
          cases hnew.symm.trans hi
          exact absurd hkeys.symm (hfresh j item' ((hothers j hjn).symm.trans hj) hsome)
      · by_cases hjn : j = new
        · subst hjn
          cases hnew.symm.trans hj
          rw [hkeys] at hsome
          exact absurd hkeys (hfresh i item ((hothers i hin).symm.trans hi) hsome)
        · exact h i j item item' ((hothers i hin).symm.trans hi) ((hothers j hjn).symm.trans hj)
            hsome hkeys
  | again counted key count hbefore hafter hothers =>
      -- the item that is counted on had its key before
      have hold : ∀ k x, after k = some x → ∃ y, before k = some y ∧ y.key = x.key := by
        intro k x hk
        by_cases hkc : k = counted
        · subst hkc
          cases hafter.symm.trans hk
          exact ⟨_, hbefore, rfl⟩
        · exact ⟨x, (hothers k hkc).symm.trans hk, rfl⟩
      obtain ⟨y, hy, hykey⟩ := hold i item hi
      obtain ⟨y', hy', hykey'⟩ := hold j item' hj
      refine h i j y y' hy hy' (by rw [hykey]; exact hsome) ?_
      rw [hykey, hykey', hkeys]

theorem arrivals_append_one (key : Option κ) (e : Accepted σ ο) :
    arrivals arrival key (past ++ [e]) = arrivals arrival key past +
      if key.isSome ∧ arrival e.op = some key then 1 else 0 := by
  rw [arrivals, List.countP_append, List.countP_singleton]
  simp only [Bool.and_eq_true, decide_eq_true_eq, arrivals]

/-- An item that is still there after an operation, with what has arrived under its key added. -/
theorem AccountsFor.step {i : ι} {item item' : Item κ} (h : AccountsFor items arrival past i item)
    (hafter : items s' i = some item') (hkey : item'.key = item.key)
    (hcount : item'.count = item.count +
      if item.key.isSome ∧ arrival o = some item.key then 1 else 0) :
    AccountsFor items arrival (past ++ [⟨s, o, s'⟩]) i item' := by
  obtain ⟨before, creation, since, rfl, habsent, harrived, hstays, hexact⟩ := h
  refine ⟨before, creation, since ++ [⟨s, o, s'⟩], by simp, habsent, ?_, ?_, ?_⟩
  · rw [hkey]
    exact harrived
  · intro e he
    rw [← List.cons_append] at he
    rcases List.mem_append.mp he with he | he
    · obtain ⟨x, hx, hxkey⟩ := hstays e he
      exact ⟨x, hx, hxkey.trans hkey.symm⟩
    · rw [List.mem_singleton.mp he]
      exact ⟨item', hafter, rfl⟩
  · rw [hcount, hexact, hkey, arrivals_append_one, Nat.add_assoc]

theorem AccountsFor.created {i : ι} {key : Option κ} (habsent : items s i = none)
    (harrival : arrival o = some key) (hnew : items s' i = some ⟨key, 1⟩) :
    AccountsFor items arrival (past ++ [⟨s, o, s'⟩]) i ⟨key, 1⟩ := by
  refine ⟨past, ⟨s, o, s'⟩, [], rfl, habsent, harrival, ?_, rfl⟩
  intro e he
  rw [List.mem_singleton.mp he]
  exact ⟨_, hnew, rfl⟩

/-- Every operation that tallies keeps the counts exact. -/
theorem ExactCounts.step (h : ExactCounts items arrival past s)
    (hstep : Tallies (items s) (items s') (arrival o)) :
    ExactCounts items arrival (past ++ [⟨s, o, s'⟩]) s' := by
  refine ⟨h.oneEach.tallies hstep, ?_⟩
  intro i item hi
  generalize harrival : arrival o = arrived at hstep
  cases hstep with
  | quiet hkept =>
      rcases hkept i with hsame | hnone
      · refine (h.accounts i item (hsame.symm.trans hi)).step hi rfl ?_
        rw [harrival, if_neg (fun hc => by cases hc.2)]
        rfl
      · cases hnone.symm.trans hi
  | created new key habsent hfresh hnew hothers =>
      by_cases hin : i = new
      · subst hin
        cases hnew.symm.trans hi
        exact .created habsent harrival hnew
      · have hold := (hothers i hin).symm.trans hi
        refine (h.accounts i item hold).step hi rfl ?_
        rw [harrival, if_neg]
        · rfl
        · rintro ⟨hsome, hkey⟩
          have hkeys := Option.some.inj hkey
          exact hfresh i item hold (by rw [hkeys]; exact hsome) hkeys.symm
  | again counted key count hbefore hafter hothers =>
      by_cases hic : i = counted
      · subst hic
        cases hafter.symm.trans hi
        refine (h.accounts i _ hbefore).step hi rfl ?_
        rw [harrival, if_pos ⟨rfl, rfl⟩]
      · have hold := (hothers i hic).symm.trans hi
        refine (h.accounts i item hold).step hi rfl ?_
        rw [harrival, if_neg]
        · rfl
        · rintro ⟨hsome, hkey⟩
          -- the key has one item, and that is the one that is counted on
          exact hic (h.oneEach i counted item _ hold hbefore hsome (Option.some.inj hkey).symm)

/-- **Counts are exact.**  From an empty store, in every run whose accepted operations tally. -/
theorem run_tally {step : σ → ο → Except ε σ}
    (hstep : ∀ s o s', step s o = .ok s' → Tallies (items s) (items s') (arrival o))
    (hempty : ∀ i, items s i = none) (ops : List ο) :
    ExactCounts items arrival (trace step s ops) (run step s ops) := by
  have hstart : ExactCounts items arrival [] s := by
    refine ⟨?_, ?_⟩
    · intro i j item item' hi
      cases (hempty i).symm.trans hi
    · intro i item hi
      cases (hempty i).symm.trans hi
  exact run_history step (I := ExactCounts items arrival)
    (fun past s o s' h hok => h.step (hstep s o s' hok)) ops hstart

end System

end OpenSoar.Tally
