/-
# `OpenSoar.Lib.Reference` — columns that refer to keys

A nullable column that refers to the key of another table, as a function `ref : α → Option ι`
on the rows that have it.  `Refers ref present rows` says that every reference among the
rows is to a key that is there.

When keys are deleted, a declaration says what becomes of the rows that refer to them:

* `ON DELETE CASCADE` (`Refers.cascade`) — they go too;
* `ON DELETE SET NULL` (`Refers.setNull`) — they lose the reference;
* no declaration (`Refers.noAction`) — the deletion is refused if there is one.

In each case the rows that are left refer to what is left (`Remains`).
-/
import Mathlib.Data.List.Basic
import Mathlib.Tactic.Common

namespace OpenSoar

universe u v w

/-- Every reference among the rows is to a key that is present. -/
def Refers {ι : Type u} {α : Type v} (ref : α → Option ι) (present : ι → Prop)
    (rows : List α) : Prop :=
  ∀ row ∈ rows, ∀ i, ref row = some i → present i

instance {ι : Type u} {α : Type v} (ref : α → Option ι) (present : ι → Prop)
    [DecidablePred present] (rows : List α) : Decidable (Refers ref present rows) :=
  decidable_of_iff (∀ row ∈ rows, (ref row).all (fun i => decide (present i)) = true)
    (forall_congr' fun row => forall_congr' fun _ => by
      cases ref row with
      | none => simp
      | some i => simp)

/-- The keys that are left after a deletion. -/
def Remains {ι : Type u} (present : ι → Prop) (deleted : ι → Bool) (i : ι) : Prop :=
  present i ∧ deleted i = false

namespace Refers

variable {ι : Type u} {α : Type v} {β : Type w} {ref : α → Option ι} {present present' : ι → Prop}
  {deleted : ι → Bool} {rows : List α}

theorem mono (h : Refers ref present rows) (hpresent : ∀ i, present i → present' i) :
    Refers ref present' rows :=
  fun row hrow i hi => hpresent i (h row hrow i hi)

/-- Rows that are among others refer to no more. -/
theorem subset {rows' : List α} (h : Refers ref present rows) (hsub : ∀ row ∈ rows', row ∈ rows) :
    Refers ref present rows' :=
  fun row hrow => h row (hsub row hrow)

theorem filter (h : Refers ref present rows) (p : α → Bool) :
    Refers ref present (rows.filter p) :=
  h.subset (fun _ hrow => List.mem_of_mem_filter hrow)

/-- Rows that are rewritten without their reference. -/
theorem map {ref' : β → Option ι} {f : α → β} (h : Refers ref present rows)
    (hf : ∀ row, ref' (f row) = ref row) : Refers ref' present (rows.map f) := by
  intro row hrow i hi
  obtain ⟨old, hold, rfl⟩ := List.mem_map.mp hrow
  exact h old hold i ((hf old).symm.trans hi)

theorem append {rows' : List α} (h : Refers ref present rows) (h' : Refers ref present rows') :
    Refers ref present (rows ++ rows') := by
  intro row hrow
  rcases List.mem_append.mp hrow with hrow | hrow
  · exact h row hrow
  · exact h' row hrow

theorem singleton {row : α} (h : ∀ i, ref row = some i → present i) :
    Refers ref present [row] := by
  intro row' hrow'
  rw [List.mem_singleton.mp hrow']
  exact h

/-- `ON DELETE CASCADE`. -/
theorem cascade (h : Refers ref present rows) :
    Refers ref (Remains present deleted) (rows.filter (fun row => !(ref row).any deleted)) := by
  intro row hrow i hi
  obtain ⟨hmem, hkept⟩ := List.mem_filter.mp hrow
  rw [hi, Option.any_some, Bool.not_eq_true'] at hkept
  exact ⟨h row hmem i hi, hkept⟩

/-- `ON DELETE SET NULL`. -/
theorem setNull (h : Refers ref present rows) (f : α → α) (hnull : ∀ row, ref (f row) = none) :
    Refers ref (Remains present deleted)
      (rows.map (fun row => if (ref row).any deleted then f row else row)) := by
  intro row hrow i hi
  obtain ⟨old, hold, rfl⟩ := List.mem_map.mp hrow
  cases hdeleted : (ref old).any deleted with
  | true =>
      rw [if_pos hdeleted, hnull] at hi
      cases hi
  | false =>
      rw [if_neg (by rw [hdeleted]; exact Bool.false_ne_true)] at hi
      rw [hi, Option.any_some] at hdeleted
      exact ⟨h old hold i hi, hdeleted⟩

/-- Without a declaration: no row refers to a deleted key. -/
theorem noAction (h : Refers ref present rows)
    (hnone : rows.any (fun row => (ref row).any deleted) = false) :
    Refers ref (Remains present deleted) rows := by
  intro row hrow i hi
  refine ⟨h row hrow i hi, ?_⟩
  have hrow := List.any_eq_false.mp hnone row hrow
  rw [hi, Option.any_some, Bool.not_eq_true] at hrow
  exact hrow

end Refers

end OpenSoar
