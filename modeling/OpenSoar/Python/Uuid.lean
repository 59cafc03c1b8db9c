/-
# `OpenSoar.Python.Uuid` — UUIDs, read and printed as `uuid.UUID` does
-/
import OpenSoar.Python.Text

namespace OpenSoar.Python

abbrev Uuid := BitVec 128

namespace Uuid

/-- `uuid.UUID(text)`: the prefixes, braces and hyphens dropped, thirty-two
characters must remain and read as a number in base 16; `none` is the
`ValueError`. -/
def ofText? (py : PyText) (text : String) : Option Uuid :=
  let bare := removeAll "uuid:".toList 0 (removeAll "urn:".toList 0 text.toList)
  let hex := (stripBy (fun c => c = '\x7b' || c = '\x7d') bare).filter (· ≠ '-')
  if hex.length ≠ 32 then none
  else
    match pyInt py 16 hex with
    | some n => if 0 ≤ n ∧ n < 2 ^ 128 then some (BitVec.ofInt 128 n) else none
    | none => none

/-- `str(uuid)`: thirty-two hex digits in groups of 8, 4, 4, 4 and 12. -/
def toText (u : Uuid) : String :=
  let hex := hexDigits 32 u.toNat
  let group (start len : Nat) := (hex.drop start).take len
  String.ofList (group 0 8 ++ '-' :: group 8 4 ++ '-' :: group 12 4 ++ '-' :: group 16 4
    ++ '-' :: group 20 12)

example : Uuid.ofText? .ascii "\x7b00000000-0000-0000-0000-0000000000Ff\x7d" = some 255 := by
  decide +kernel

example : Uuid.toText 255 = "00000000-0000-0000-0000-0000000000ff" := by decide +kernel

/-! ## Printing is injective -/

/-- The number that hex digits stand for. -/
def hexValue (digits : List Char) : Nat :=
  digits.foldl (fun n c => 16 * n + ((List.range 16).map Nat.digitChar).idxOf c) 0

theorem idxOf_digitChar {d : Nat} (h : d < 16) :
    ((List.range 16).map Nat.digitChar).idxOf (Nat.digitChar d) = d := by
  have hall : ∀ d < 16, ((List.range 16).map Nat.digitChar).idxOf (Nat.digitChar d) = d := by
    decide
  exact hall d h

theorem hexValue_toDigits (n : Nat) : hexValue (Nat.toDigits 16 n) = n := by
  induction n using Nat.strongRecOn with
  | ind n ih =>
      rw [Nat.toDigits_eq_if (by decide)]
      split
      · rename_i hlt
        show 16 * 0 + _ = n
        rw [idxOf_digitChar hlt, Nat.mul_zero, Nat.zero_add]
      · rename_i hle
        have hprev := ih (n / 16) (Nat.div_lt_self (by omega) (by decide))
        rw [hexValue] at hprev
        rw [hexValue, List.foldl_append, hprev]
        show 16 * (n / 16) + _ = n
        rw [idxOf_digitChar (Nat.mod_lt n (by decide))]
        exact Nat.div_add_mod n 16

theorem hexValue_hexDigits (width n : Nat) : hexValue (hexDigits width n) = n := by
  have hzeros : ∀ k, (List.replicate k '0').foldl (fun n c =>
      16 * n + ((List.range 16).map Nat.digitChar).idxOf c) 0 = 0 := by
    intro k
    induction k with
    | zero => rfl
    | succ k ih => exact ih
  rw [hexDigits, hexValue, List.foldl_append, hzeros]
  exact hexValue_toDigits n

theorem mem_toDigits {n : Nat} {c : Char} (h : c ∈ Nat.toDigits 16 n) :
    ∃ d < 16, c = Nat.digitChar d := by
  induction n using Nat.strongRecOn with
  | ind n ih =>
      rw [Nat.toDigits_eq_if (by decide)] at h
      split at h
      · rename_i hlt
        exact ⟨n, hlt, List.mem_singleton.mp h⟩
      · rename_i hle
        rcases List.mem_append.mp h with hprev | hlast
        · exact ih (n / 16) (Nat.div_lt_self (by omega) (by decide)) hprev
        · exact ⟨n % 16, Nat.mod_lt n (by decide), List.mem_singleton.mp hlast⟩

theorem hyphen_not_mem_hexDigits (width n : Nat) : '-' ∉ hexDigits width n := by
  intro h
  rcases List.mem_append.mp h with hzeros | hdigits
  · exact absurd (List.eq_of_mem_replicate hzeros) (by decide)
  · obtain ⟨d, hd, hc⟩ := mem_toDigits hdigits
    have hall : ∀ d < 16, '-' ≠ Nat.digitChar d := by decide
    exact hall d hd hc

theorem length_hexDigits {width n : Nat} (h : n < 16 ^ width) (hpos : 0 < width) :
    (hexDigits width n).length = width := by
  have hle := (Nat.length_toDigits_le_iff (by decide) hpos).mpr h
  rw [hexDigits, List.length_append, List.length_replicate]
  omega

/-- Without its hyphens the text is the thirty-two digits. -/
theorem toText_digits (u : Uuid) :
    u.toText.toList.filter (· ≠ '-') = hexDigits 32 u.toNat := by
  have hlength : (hexDigits 32 u.toNat).length = 32 := length_hexDigits u.isLt (by decide)
  have hkeep (start len : Nat) : (((hexDigits 32 u.toNat).drop start).take len).filter (· ≠ '-')
      = ((hexDigits 32 u.toNat).drop start).take len := by
    refine List.filter_eq_self.mpr (fun c hc => decide_eq_true ?_)
    rintro rfl
    exact hyphen_not_mem_hexDigits 32 u.toNat (List.mem_of_mem_drop (List.mem_of_mem_take hc))
  have hhyphen (cs : List Char) : ('-' :: cs).filter (· ≠ '-') = cs.filter (· ≠ '-') :=
    List.filter_cons_of_neg (by decide)
  rw [toText, String.toList_ofList]
  simp only [List.filter_append, hhyphen, hkeep]
  rw [List.drop_zero, ← List.take_add, ← List.take_add, ← List.take_add, ← List.take_add,
    List.take_of_length_le (Nat.le_of_eq hlength)]

theorem toText_injective {u v : Uuid} (h : u.toText = v.toText) : u = v := by
  have hdigits : hexDigits 32 u.toNat = hexDigits 32 v.toNat := by
    rw [← toText_digits, ← toText_digits, h]
  have hvalue := congrArg hexValue hdigits
  rw [hexValue_hexDigits, hexValue_hexDigits] at hvalue
  exact BitVec.eq_of_toNat_eq hvalue

end Uuid

end OpenSoar.Python
