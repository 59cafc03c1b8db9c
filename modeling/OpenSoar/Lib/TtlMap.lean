/-
# `OpenSoar.Lib.TtlMap` — a map whose entries expire

A store of values under keys, where each entry is set for some time to live.  Stores differ
in the least time they give an entry and in whether it is still there at the very instant of
its expiry: that is a `Lifetime`, and everything here holds for each of them.

`peek` is what a store holds under a key at a time, `get` reads it and drops the entry it
finds expired.  Dropping it is not seen by any later read (`peek_get`); setting and deleting
touch one key (`peek_set_of_ne`, `peek_delete_of_ne`); and an entry that is there later was
there all along (`peek_earlier`).

What two stores of one clock have to agree on is `current`, the entries whose time of expiry is
not past: the others are gone in either, whether they have been dropped or not.
-/
import Mathlib.Data.List.AList

namespace OpenSoar.TtlMap

universe u v

/-- A value, and the time its entry expires. -/
structure Entry (α : Type v) where
  value : α
  expiry : Nat

/-- One entry for each key. -/
abbrev Entries (κ : Type u) (α : Type v) := AList (fun _ : κ => Entry α)

/-- How a store reads the clock: when an entry set for a time to live expires, and whether
an entry is still there. -/
structure Lifetime where
  expiry : (now : Nat) → (ttl : Int) → Nat
  live : (expiry now : Nat) → Bool
  live_earlier : ∀ {expiry now later : Nat}, now ≤ later → live expiry later = true →
    live expiry now = true

variable {κ : Type u} {α : Type v} [DecidableEq κ]

/-- The value under a key at a time. -/
def peek (lifetime : Lifetime) (entries : Entries κ α) (key : κ) (now : Nat) : Option α :=
  (entries.lookup key).bind
    (fun entry => if lifetime.live entry.expiry now then some entry.value else none)

/-- Reads a key; an expired entry is dropped. -/
def get (lifetime : Lifetime) (entries : Entries κ α) (key : κ) (now : Nat) :
    Option α × Entries κ α :=
  match peek lifetime entries key now with
  | some value => (some value, entries)
  | none => (none, entries.erase key)

def set (lifetime : Lifetime) (entries : Entries κ α) (key : κ) (value : α) (ttl : Int)
    (now : Nat) : Entries κ α :=
  entries.insert key ⟨value, lifetime.expiry now ttl⟩

def delete (entries : Entries κ α) (key : κ) : Entries κ α := entries.erase key

/-- Deletes keys one after another. -/
def deleteAll (entries : Entries κ α) (keys : List κ) : Entries κ α := keys.foldl delete entries

/-- The entry under a key whose time of expiry is not past. -/
def current (entries : Entries κ α) (now : Nat) (key : κ) : Option (Entry α) :=
  (entries.lookup key).filter (fun entry => now ≤ entry.expiry)

variable {lifetime : Lifetime} {entries : Entries κ α} {key other : κ} {value : α} {ttl : Int}
  {now later : Nat}

theorem peek_earlier (hle : now ≤ later) (h : peek lifetime entries key later = some value) :
    peek lifetime entries key now = some value := by
  obtain ⟨entry, hentry, hvalue⟩ := Option.bind_eq_some_iff.mp h
  split at hvalue
  next hlive =>
    rw [peek, hentry, Option.bind_some, if_pos (lifetime.live_earlier hle hlive)]
    exact hvalue
  next => cases hvalue

theorem peek_eq_some (h : peek lifetime entries key now = some value) :
    ∃ entry, entries.lookup key = some entry ∧ entry.value = value ∧
      lifetime.live entry.expiry now = true := by
  obtain ⟨entry, hentry, hvalue⟩ := Option.bind_eq_some_iff.mp h
  split at hvalue
  next hlive => exact ⟨entry, hentry, Option.some.inj hvalue, hlive⟩
  next => cases hvalue

theorem peek_of_erase_self : peek lifetime (entries.erase key) key now = none := by
  rw [peek, AList.lookup_erase, Option.bind_none]

theorem peek_of_erase_ne (h : other ≠ key) :
    peek lifetime (entries.erase key) other now = peek lifetime entries other now := by
  rw [peek, AList.lookup_erase_ne h]
  rfl

theorem get_fst : (get lifetime entries key now).1 = peek lifetime entries key now := by
  unfold get
  split
  next h => exact h.symm
  next h => exact h.symm

/-- A read adds no entry. -/
theorem lookup_get {entry : Entry α}
    (h : (get lifetime entries key now).2.lookup other = some entry) :
    entries.lookup other = some entry := by
  unfold get at h
  split at h
  next => exact h
  next =>
    by_cases hkey : other = key
    · subst hkey
      rw [AList.lookup_erase] at h
      cases h
    · rwa [AList.lookup_erase_ne hkey] at h

theorem get_of_some (h : peek lifetime entries key now = some value) :
    get lifetime entries key now = (some value, entries) := by
  rw [get, h]

theorem peek_get_of_ne (h : other ≠ key) :
    peek lifetime (get lifetime entries key now).2 other later =
      peek lifetime entries other later := by
  unfold get
  split
  next => rfl
  next => exact peek_of_erase_ne h

/-- A read leaves every key as it was, at that time and later. -/
theorem peek_get (hle : now ≤ later) :
    peek lifetime (get lifetime entries key now).2 other later =
      peek lifetime entries other later := by
  by_cases hkey : other = key
  · subst hkey
    unfold get
    split
    next => rfl
    next hgone =>
      -- what is not there now is not there later
      cases hlater : peek lifetime entries other later with
      | none => exact peek_of_erase_self
      | some value => cases hgone.symm.trans (peek_earlier hle hlater)
  · exact peek_get_of_ne hkey

theorem peek_set_self :
    peek lifetime (set lifetime entries key value ttl now) key later =
      if lifetime.live (lifetime.expiry now ttl) later then some value else none := by
  rw [peek, set, AList.lookup_insert, Option.bind_some]

theorem peek_set_of_ne (h : other ≠ key) :
    peek lifetime (set lifetime entries key value ttl now) other later =
      peek lifetime entries other later := by
  rw [peek, set, AList.lookup_insert_ne h]
  rfl

theorem peek_delete_self : peek lifetime (delete entries key) key now = none :=
  peek_of_erase_self

theorem peek_delete_of_ne (h : other ≠ key) :
    peek lifetime (delete entries key) other now = peek lifetime entries other now :=
  peek_of_erase_ne h

theorem lookup_deleteAll (keys : List κ) :
    (deleteAll entries keys).lookup key = if key ∈ keys then none else entries.lookup key := by
  induction keys generalizing entries with
  | nil => rfl
  | cons first keys ih =>
      show (deleteAll (delete entries first) keys).lookup key = _
      rw [ih, delete]
      by_cases hkey : key = first
      · subst hkey
        rw [AList.lookup_erase, if_pos List.mem_cons_self, ite_self]
      · rw [AList.lookup_erase_ne hkey]
        simp only [List.mem_cons, hkey, false_or]

/-! ## Entries whose time is not past -/

theorem current_eq_some {entry : Entry α} :
    current entries now key = some entry ↔ entries.lookup key = some entry ∧
      now ≤ entry.expiry := by
  simp [current, Option.filter_eq_some_iff]

theorem current_later (hle : now ≤ later) : current entries later key =
    (current entries now key).filter (fun entry => later ≤ entry.expiry) := by
  rw [current, current, Option.filter_filter]
  congr 1
  funext entry
  simp only [← Bool.decide_and]
  exact decide_eq_decide.mpr ⟨fun h => ⟨Nat.le_trans hle h, h⟩, And.right⟩

theorem current_set (lifetime : Lifetime) (entries : Entries κ α) (key other : κ) (value : α)
    (ttl : Int) (now : Nat) : current (set lifetime entries key value ttl now) now other =
      if other = key then (some ⟨value, lifetime.expiry now ttl⟩ : Option (Entry α)).filter
        (fun entry => now ≤ entry.expiry)
      else current entries now other := by
  rw [current, set]
  split
  · rename_i hkey
    subst hkey
    rw [AList.lookup_insert]
  · rename_i hkey
    rw [AList.lookup_insert_ne hkey]
    rfl

theorem current_deleteAll (entries : Entries κ α) (keys : List κ) (key : κ) (now : Nat) :
    current (deleteAll entries keys) now key = if key ∈ keys then none else current entries now
      key := by
  rw [current, lookup_deleteAll]
  split <;> rfl

theorem current_delete (entries : Entries κ α) (key other : κ) (now : Nat) :
    current (delete entries key) now other = if other = key then none else current entries now
      other := by
  have hone := current_deleteAll entries [key] other now
  simp only [List.mem_singleton] at hone
  exact hone

/-- Reading an entry that is not there drops nothing whose time is not past. -/
theorem current_get
    (hgone : peek lifetime entries key now = none → current entries now key = none) :
    current (get lifetime entries key now).2 now other = current entries now other := by
  unfold get
  split
  next => rfl
  next hnone =>
    show current (delete entries key) now other = _
    rw [current_delete]
    split
    next hkey =>
      subst hkey
      exact (hgone hnone).symm
    next => rfl

end OpenSoar.TtlMap
