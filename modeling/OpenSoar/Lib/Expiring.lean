/-
# `OpenSoar.Lib.Expiring` — keys that expire, set when they are free

A store of keys with a time of expiry each.  `setNx` sets a key that is not live, for some time
to come, and leaves a live one alone; a key is live up to and including its time of expiry.

A key that was set is live until its time is over or it is deleted, so between two successes
for one key that time has passed or a deletion came (`Kept.setNx`, `Kept.delete`).
-/
import Mathlib.Logic.Function.Basic

namespace OpenSoar.Expiring

universe u

/-- The time of expiry of each key that was set. -/
abbrev Keys (κ : Type u) := κ → Option Nat

variable {κ : Type u} [DecidableEq κ]

/-- The key exists at this time. -/
def live (keys : Keys κ) (key : κ) (now : Nat) : Bool :=
  match keys key with
  | none => false
  | some expiry => decide (now ≤ expiry)

/-- `SET key value NX EX ttl`: whether the key was set, and the keys after it. -/
def setNx (keys : Keys κ) (key : κ) (ttl now : Nat) : Bool × Keys κ :=
  if live keys key now then (false, keys)
  else (true, Function.update keys key (some (now + ttl)))

/-- `DEL key`. -/
def delete (keys : Keys κ) (key : κ) : Keys κ := Function.update keys key none

omit [DecidableEq κ] in
theorem live_of_le {keys : Keys κ} {key : κ} {expiry now : Nat} (h : keys key = some expiry)
    (hnow : now ≤ expiry) : live keys key now = true := by
  simp [live, h, hnow]

theorem setNx_live {keys : Keys κ} {key : κ} {ttl now : Nat} (h : live keys key now = true) :
    setNx keys key ttl now = (false, keys) := if_pos h

theorem setNx_free {keys : Keys κ} {key : κ} {ttl now : Nat} (h : live keys key now = false) :
    setNx keys key ttl now = (true, Function.update keys key (some (now + ttl))) := by
  simp [setNx, h]

/-- The key is kept at least until this time. -/
def Kept (keys : Keys κ) (key : κ) (time : Nat) : Prop :=
  ∃ expiry, keys key = some expiry ∧ time ≤ expiry

omit [DecidableEq κ] in
theorem Kept.live {keys : Keys κ} {key : κ} {time now : Nat} (h : Kept keys key time)
    (hnow : now ≤ time) : live keys key now = true := by
  obtain ⟨expiry, hkey, hle⟩ := h
  exact live_of_le hkey (Nat.le_trans hnow hle)

/-- What is kept stays kept, whichever key is set: a key that is set again had expired, and
expires later. -/
theorem Kept.setNx {keys : Keys κ} {key other : κ} {time ttl now : Nat}
    (h : Kept keys key time) (htime : time ≤ now + ttl) :
    Kept (setNx keys other ttl now).2 key time := by
  cases hlive : Expiring.live keys other now with
  | true =>
      rw [setNx_live hlive]
      exact h
  | false =>
      rw [setNx_free hlive]
      by_cases hkey : key = other
      · subst hkey
        exact ⟨now + ttl, Function.update_self _ _ _, htime⟩
      · obtain ⟨expiry, hexpiry, hle⟩ := h
        exact ⟨expiry, (Function.update_of_ne hkey _ _).trans hexpiry, hle⟩

/-- A deleted key can be set at once. -/
theorem setNx_delete (keys : Keys κ) (key : κ) (ttl now : Nat) :
    (setNx (delete keys key) key ttl now).1 = true := by
  have hfree : live (delete keys key) key now = false := by simp [live, delete]
  rw [setNx_free hfree]

/-- The deletion of another key keeps what is kept. -/
theorem Kept.delete {keys : Keys κ} {key other : κ} {time : Nat} (h : Kept keys key time)
    (hother : key ≠ other) : Kept (delete keys other) key time := by
  obtain ⟨expiry, hexpiry, hle⟩ := h
  exact ⟨expiry, (Function.update_of_ne hother _ _).trans hexpiry, hle⟩

/-- A success keeps its key for the whole of its time. -/
theorem kept_of_set {keys : Keys κ} {key : κ} {ttl now : Nat}
    (h : (setNx keys key ttl now).1 = true) :
    Kept (setNx keys key ttl now).2 key (now + ttl) := by
  cases hlive : Expiring.live keys key now with
  | true =>
      rw [setNx_live hlive] at h
      cases h
  | false =>
      rw [setNx_free hlive]
      exact ⟨now + ttl, Function.update_self _ _ _, Nat.le_refl _⟩

/-- A key that is kept until later cannot be set. -/
theorem Kept.not_set {keys : Keys κ} {key : κ} {time ttl now : Nat} (h : Kept keys key time)
    (hnow : now ≤ time) : (Expiring.setNx keys key ttl now).1 = false := by
  rw [setNx_live (h.live hnow)]

end OpenSoar.Expiring
