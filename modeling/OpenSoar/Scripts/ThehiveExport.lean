/-
# `OpenSoar.Scripts.ThehiveExport` — reading a result list page by page

`TheHiveExporter._search` of `scripts/migrate_from_thehive.py`.  The loop asks for ranges of
`page_size` elements until a page is empty or short, or the server refuses.  How a server answers to
a range is a function of its two ends, so the loop takes fuel here; `search_complete` says how much
is enough for a server that holds a list, and that the result is that list.
-/
import Mathlib.Data.List.TakeDrop

namespace OpenSoar

universe u

/-! ## The program -/

/-- The answer to one request: the elements of the range, or another status and the text. -/
inductive SearchResponse (α : Type u) where
  | ok (batch : List α)
  | status (code : Nat) (text : String)

/-- What the server answers to `Range: first-last`. -/
abbrev SearchServer (α : Type u) := (first last : Nat) → SearchResponse α

/-- What `_search` returns, and the status and the text that it prints a warning about. -/
structure SearchResult (α : Type u) where
  results : List α
  warning : Option (Nat × String)

/-- `page_size`. -/
def exportPageSize : Nat := 200

variable {α : Type u}

/-- The loop of `_search`. -/
def searchFrom (server : SearchServer α) :
    (fuel offset : Nat) → (results : List α) → Option (SearchResult α)
  | 0, _, _ => none
  | fuel + 1, offset, results =>
      match server offset (offset + exportPageSize - 1) with
      | .ok batch =>
          if batch.isEmpty then some ⟨results, none⟩
          else if batch.length < exportPageSize then some ⟨results ++ batch, none⟩
          else searchFrom server fuel (offset + exportPageSize) (results ++ batch)
      | .status code text =>
          if code = 416 then some ⟨results, none⟩
          -- only the first 200 characters of the text are printed
          else some ⟨results, some (code, String.ofList (text.toList.take 200))⟩

/-- `_search`. -/
def search (server : SearchServer α) (fuel : Nat) : Option (SearchResult α) :=
  searchFrom server fuel 0 []

/-! ## A server that holds a list -/

/-- A range is answered by its elements, both ends included; one that begins behind the list by
an empty page, or by 416. -/
structure Serves (server : SearchServer α) (held : List α) : Prop where
  within : ∀ first last, first < held.length →
    server first last = .ok ((held.drop first).take (last + 1 - first))
  behind : ∀ first last, held.length ≤ first →
    server first last = .ok [] ∨ ∃ text, server first last = .status 416 text

variable {server : SearchServer α} {held : List α}

/-- The page at an offset within the list. -/
theorem Serves.page (h : Serves server held) {offset : Nat} (hoffset : offset < held.length) :
    server offset (offset + exportPageSize - 1) = .ok ((held.drop offset).take exportPageSize) := by
  have hlength : offset + exportPageSize - 1 + 1 - offset = exportPageSize := by
    rw [exportPageSize]
    omega
  rw [h.within _ _ hoffset, hlength]

/-- **The loop, from a page boundary on.**  What is collected so far is the part of the list before
the offset. -/
theorem searchFrom_complete (h : Serves server held) {fuel offset : Nat}
    (hoffset : offset ≤ held.length) (hfuel : held.length < offset + fuel * exportPageSize) :
    searchFrom server fuel offset (held.take offset) = some ⟨held, none⟩ := by
  induction fuel generalizing offset with
  | zero =>
      rw [Nat.zero_mul, Nat.add_zero] at hfuel
      exact absurd hoffset (Nat.not_le.mpr hfuel)
  | succ fuel ih =>
      rw [searchFrom]
      rcases Nat.lt_or_ge offset held.length with hwithin | hbehind
      · rw [h.page hwithin]
        have hcollected : held.take offset ++ (held.drop offset).take exportPageSize =
            held.take (offset + exportPageSize) := List.take_add.symm
        have hsize : ((held.drop offset).take exportPageSize).length =
            min exportPageSize (held.length - offset) := by
          rw [List.length_take, List.length_drop]
        have hpage : exportPageSize = 200 := rfl
        have hnonempty : ((held.drop offset).take exportPageSize).isEmpty = false := by
          rw [List.isEmpty_eq_false_iff, ← List.length_pos_iff, hsize]
          omega
        dsimp only
        rw [hnonempty, if_neg Bool.false_ne_true, hcollected, hsize]
        split
        · -- a short page is the last one
          rw [List.take_of_length_le (by omega)]
        · refine ih (by omega) ?_
          rw [Nat.succ_mul] at hfuel
          omega
      · have hall : held.take offset = held := List.take_of_length_le hbehind
        rw [hall]
        rcases h.behind offset (offset + exportPageSize - 1) hbehind with hempty | ⟨text, hrefused⟩
        · rw [hempty]
          rfl
        · rw [hrefused]
          rfl

/-- **`_search` returns the list.**  After at most one request more than there are full pages it has
ended, with every element once and in order, and without a warning. -/
theorem search_complete (h : Serves server held) (fuel : Nat)
    (hfuel : held.length / exportPageSize < fuel) :
    search server fuel = some ⟨held, none⟩ := by
  refine searchFrom_complete h (Nat.zero_le _) ?_
  rw [Nat.zero_add]
  exact (Nat.div_lt_iff_lt_mul (by decide)).mp hfuel

/-- A server that refuses the ranges behind its list. -/
def listServer (held : List α) : SearchServer α := fun first last =>
  if first < held.length then .ok ((held.drop first).take (last + 1 - first))
  else .status 416 "Requested Range Not Satisfiable"

theorem serves_listServer (held : List α) : Serves (listServer held) held where
  within _ _ hfirst := if_pos hfirst
  behind _ _ hfirst := Or.inr ⟨_, if_neg (Nat.not_lt.mpr hfirst)⟩

/-- Two full pages, and the third request is refused. -/
theorem search_twoPages :
    search (listServer (List.range 400)) 3 = some ⟨List.range 400, none⟩ :=
  search_complete (serves_listServer _) 3 (by rw [List.length_range]; decide)

end OpenSoar
