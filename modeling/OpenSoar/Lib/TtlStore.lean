/-
# `OpenSoar.Lib.TtlStore` — the contract of a store with times to live

What a client may rely on, whatever the store is made of: a value that was set is read until its
time to live is over (`get_set`), reading changes nothing that is read later (`get_frame`), setting
and deleting touch one key, and nothing comes back by itself (`get_later`).

A map whose entries expire (`TtlMap`) is such a store, for every `Lifetime` that keeps an entry
for its whole time to live (`TtlStore.ofLifetime`).
-/
import OpenSoar.Lib.TtlMap

namespace OpenSoar

universe u v w

/-- A store of values under keys, for times to live of so many ticks of its clock each. -/
structure TtlStore (σ : Type u) (κ : Type v) (α : Type w) (ticks : Nat) where
  get : σ → (key : κ) → (now : Nat) → Option α × σ
  set : σ → (key : κ) → (value : α) → (ttl : Int) → (now : Nat) → σ
  delete : σ → (key : κ) → σ
  get_set : ∀ {s : σ} {key : κ} {value : α} {ttl : Int} {now later : Nat}, 0 < ttl → now ≤ later →
    later < now + ttl.toNat * ticks → (get (set s key value ttl now) key later).1 = some value
  set_frame : ∀ {s : σ} {key other : κ} {value : α} {ttl : Int} {now later : Nat}, other ≠ key →
    (get (set s key value ttl now) other later).1 = (get s other later).1
  get_frame : ∀ {s : σ} {key other : κ} {now later : Nat}, now ≤ later →
    (get (get s key now).2 other later).1 = (get s other later).1
  delete_frame : ∀ {s : σ} {key other : κ} {now : Nat}, other ≠ key →
    (get (delete s key) other now).1 = (get s other now).1
  get_later : ∀ {s : σ} {key : κ} {value : α} {now later : Nat}, now ≤ later →
    (get s key later).1 = some value → (get s key now).1 = some value

namespace TtlStore

variable {κ : Type v} {α : Type w} [DecidableEq κ]

/-- The store that a map of expiring entries is. -/
def ofLifetime (lifetime : TtlMap.Lifetime) (ticks : Nat)
    (hlives : ∀ {ttl : Int} {now later : Nat}, 0 < ttl → later < now + ttl.toNat * ticks →
      lifetime.live (lifetime.expiry now ttl) later = true) :
    TtlStore (TtlMap.Entries κ α) κ α ticks where
  get := TtlMap.get lifetime
  set := TtlMap.set lifetime
  delete := TtlMap.delete
  get_set hpos _ hlater := by
    rw [TtlMap.get_fst, TtlMap.peek_set_self, if_pos (hlives hpos hlater)]
  set_frame hne := by
    rw [TtlMap.get_fst, TtlMap.get_fst, TtlMap.peek_set_of_ne hne]
  get_frame hle := by
    rw [TtlMap.get_fst, TtlMap.get_fst, TtlMap.peek_get hle]
  delete_frame hne := by
    rw [TtlMap.get_fst, TtlMap.get_fst, TtlMap.peek_delete_of_ne hne]
  get_later hle h := by
    rw [TtlMap.get_fst] at h ⊢
    exact TtlMap.peek_earlier hle h

end TtlStore

end OpenSoar
