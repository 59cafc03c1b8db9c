/-
# `OpenSoar.Python.Ascii` — what every interpreter makes of ASCII text

`PyText.OnAscii` says that the tables agree with those of `PyText.ascii` on ASCII text, and which
characters the decimal of a float has.  Then `int` reads an ASCII string as `PyText.ascii` does
(`OnAscii.pyInt`), reads what `str` writes of an integer (`pyInt_repr`), and reads no decimal
(`pyInt_decimal`).
-/
import Mathlib.Tactic.IntervalCases
import OpenSoar.Python.Text

namespace OpenSoar.Python

/-- Every character is an ASCII one. -/
def IsAscii (s : List Char) : Prop := ∀ c ∈ s, c.toNat < 128

instance (s : List Char) : Decidable (IsAscii s) := List.decidableBAll _ s

/-- The characters of a finite float. -/
def decimalChars : List Char := "0123456789.e+-".toList

/-- A decimal point, or an exponent. -/
def IsDecimal (s : List Char) : Prop := (∀ c ∈ s, c ∈ decimalChars) ∧ ('.' ∈ s ∨ 'e' ∈ s)

instance (s : List Char) : Decidable (IsDecimal s) :=
  @instDecidableAnd _ _ (List.decidableBAll _ s) inferInstance

/-- The tables of an interpreter, as far as they concern ASCII text. -/
structure PyText.OnAscii (py : PyText) : Prop where
  isSpace : ∀ c : Char, c.toNat < 128 → py.isSpace c = PyText.ascii.isSpace c
  decimal : ∀ c : Char, c.toNat < 128 → py.decimal c = PyText.ascii.decimal c
  lower : ∀ s, IsAscii s → py.lower s = PyText.ascii.lower s
  floatRepr : ∀ m e, IsDecimal (py.floatRepr (.finite m e))
  infRepr : ∀ negative, py.floatRepr (.inf negative) = (if negative then "-inf" else "inf").toList
  nanRepr : py.floatRepr .nan = "nan".toList

/-! ## `strip` -/

theorem stripBy_eq_self {p : Char → Bool} {s : List Char} (h : ∀ c ∈ s, p c = false) :
    stripBy p s = s := by
  have hdrop : ∀ t : List Char, (∀ c ∈ t, p c = false) → t.dropWhile p = t := by
    intro t ht
    cases t with
    | nil => rfl
    | cons c t => rw [List.dropWhile_cons_of_neg (by simp [ht c List.mem_cons_self])]
  unfold stripBy
  rw [hdrop s h, hdrop s.reverse (fun c hc => h c (List.mem_reverse.mp hc)), List.reverse_reverse]

theorem dropWhile_congr {p q : Char → Bool} {s : List Char} (h : ∀ c ∈ s, p c = q c) :
    s.dropWhile p = s.dropWhile q := by
  induction s with
  | nil => rfl
  | cons c s ih =>
      rw [List.dropWhile_cons, List.dropWhile_cons, h c List.mem_cons_self,
        ih (fun d hd => h d (List.mem_cons_of_mem c hd))]

theorem stripBy_congr {p q : Char → Bool} {s : List Char} (h : ∀ c ∈ s, p c = q c) :
    stripBy p s = stripBy q s := by
  unfold stripBy
  rw [dropWhile_congr h, dropWhile_congr (p := p) (q := q)]
  intro c hc
  exact h c ((List.dropWhile_sublist q).subset (List.mem_reverse.mp hc))

theorem stripBy_subset {p : Char → Bool} {s : List Char} {c : Char} (h : c ∈ stripBy p s) :
    c ∈ s := by
  unfold stripBy at h
  have hrest := (List.dropWhile_sublist p).subset (List.mem_reverse.mp h)
  exact (List.dropWhile_sublist p).subset (List.mem_reverse.mp hrest)

/-- What is no blank stays. -/
theorem mem_stripBy {p : Char → Bool} {s : List Char} {c : Char} (hc : p c = false) (h : c ∈ s) :
    c ∈ stripBy p s := by
  have hdrop : ∀ t : List Char, c ∈ t → c ∈ t.dropWhile p := by
    intro t ht
    rw [← List.takeWhile_append_dropWhile (p := p) (l := t), List.mem_append] at ht
    refine ht.resolve_left (fun htaken => ?_)
    rw [List.all_eq_true.mp List.all_takeWhile c htaken] at hc
    cases hc
  unfold stripBy
  exact List.mem_reverse.mpr (hdrop _ (List.mem_reverse.mpr (hdrop s h)))

/-! ## `int` -/

theorem readDigits_congr {value value' : Char → Option Nat} {base : Nat} {cs : List Char}
    (h : ∀ c ∈ cs, value c = value' c) (acc : Nat) (afterDigit : Bool) :
    readDigits value base acc afterDigit cs = readDigits value' base acc afterDigit cs := by
  induction cs generalizing acc afterDigit with
  | nil => rfl
  | cons c cs ih =>
      have hrest := ih (fun d hd => h d (List.mem_cons_of_mem c hd))
      simp only [readDigits, h c List.mem_cons_self, hrest]

/-- Every character that is read is a digit or an underscore. -/
theorem readDigits_chars {value : Char → Option Nat} {base acc n : Nat} {afterDigit : Bool}
    {cs : List Char} (h : readDigits value base acc afterDigit cs = some n) :
    ∀ c ∈ cs, c = '_' ∨ ∃ d, value c = some d ∧ d < base := by
  induction cs generalizing acc afterDigit with
  | nil => exact fun c hc => absurd hc List.not_mem_nil
  | cons c cs ih =>
      rw [readDigits] at h
      rw [List.forall_mem_cons]
      split_ifs at h with hunderscore hafter
      · exact ⟨Or.inl hunderscore, ih h⟩
      · cases hvalue : value c with
        | none =>
            rw [hvalue] at h
            cases h
        | some d =>
            rw [hvalue] at h
            dsimp only at h
            split_ifs at h with hbase
            exact ⟨Or.inr ⟨d, rfl, hbase⟩, ih h⟩

theorem isDigit_iff {c : Char} : c.isDigit = true ↔ '0' ≤ c ∧ c ≤ '9' := by
  unfold Char.isDigit
  rw [Bool.and_eq_true, decide_eq_true_iff, decide_eq_true_iff]
  exact Iff.rfl

theorem toNat_of_isDigit {c : Char} (h : c.isDigit = true) : 48 ≤ c.toNat ∧ c.toNat ≤ 57 :=
  isDigit_iff.mp h

theorem digitValue_digit {c : Char} (h : c.isDigit = true) :
    digitValue .ascii c = some (c.toNat - '0'.toNat) := by
  have hdecimal : PyText.ascii.decimal c = some (c.toNat - '0'.toNat) :=
    if_pos (isDigit_iff.mp h)
  rw [digitValue, hdecimal]

/-- Decimal digits are read as the number they write. -/
theorem readDigits_digits {cs : List Char} (h : ∀ c ∈ cs, c.isDigit = true) (acc : Nat)
    (afterDigit : Bool) (hne : cs ≠ [] ∨ afterDigit = true) :
    readDigits (digitValue .ascii) 10 acc afterDigit cs = some (Nat.ofDigitChars 10 cs acc) := by
  induction cs generalizing acc afterDigit with
  | nil =>
      rw [readDigits, hne.resolve_left (not_not.mpr rfl), Nat.ofDigitChars_nil]
      rfl
  | cons c cs ih =>
      obtain ⟨hc, hcs⟩ := List.forall_mem_cons.mp h
      have hunderscore : c ≠ '_' := by
        rintro rfl
        exact absurd hc (by decide)
      have hrange := toNat_of_isDigit hc
      have hbase : c.toNat - '0'.toNat < 10 := by
        have hzero : '0'.toNat = 48 := rfl
        omega
      rw [readDigits, if_neg hunderscore, digitValue_digit hc, Nat.ofDigitChars_cons, Nat.mul_comm]
      dsimp only
      rw [if_pos hbase]
      exact ih hcs _ true (Or.inr rfl)

theorem digitValue_ascii {py : PyText} (hpy : py.OnAscii) {c : Char} (h : c.toNat < 128) :
    digitValue py c = digitValue .ascii c := by
  unfold digitValue
  rw [hpy.decimal c h]

theorem readNatural_ten {py : PyText} {s : List Char} : readNatural py 10 s =
    if maxStrDigits < (s.filter (· ≠ '_')).length then none
    else readDigits (digitValue py) 10 0 false s := rfl

/-- `int` of ASCII text. -/
theorem PyText.OnAscii.pyInt {py : PyText} (hpy : py.OnAscii) {s : List Char} (hs : IsAscii s) :
    pyInt py 10 s = pyInt .ascii 10 s := by
  have hstrip : stripBy py.isSpace s = stripBy PyText.ascii.isSpace s :=
    stripBy_congr (fun c hc => hpy.isSpace c (hs c hc))
  have hread : ∀ t : List Char, (∀ c ∈ t, c ∈ stripBy PyText.ascii.isSpace s) →
      readNatural py 10 t = readNatural .ascii 10 t := by
    intro t ht
    rw [readNatural_ten, readNatural_ten,
      readDigits_congr (fun c hc => digitValue_ascii hpy (hs c (stripBy_subset (ht c hc))))]
  unfold OpenSoar.Python.pyInt
  rw [hstrip]
  generalize stripBy PyText.ascii.isSpace s = t at hread ⊢
  split
  · rw [hread _ (fun c hc => List.mem_cons_of_mem _ hc)]
  · rw [hread _ (fun c hc => List.mem_cons_of_mem _ hc)]
  · rw [hread _ (fun c hc => hc)]

/-! ## The characters of numbers -/

theorem digit_mem_decimalChars {c : Char} (h : c.isDigit = true) : c ∈ decimalChars := by
  obtain ⟨hlow, hhigh⟩ := toNat_of_isDigit h
  rw [← Char.ofNat_toNat c]
  generalize c.toNat = n at hlow hhigh
  interval_cases n <;> decide

/-- A check of these characters one by one. -/
theorem forall_decimalChars {p : Char → Bool} (h : decimalChars.all p = true) {s : List Char}
    (hs : ∀ c ∈ s, c ∈ decimalChars) : ∀ c ∈ s, p c = true :=
  fun c hc => List.all_eq_true.mp h c (hs c hc)

section Chars

variable {s : List Char} (h : ∀ c ∈ s, c ∈ decimalChars)
include h

theorem isAscii_of_chars : IsAscii s := by
  intro c hc
  have hall := @forall_decimalChars (fun c => decide (c.toNat < 128)) (by decide) s h
  exact of_decide_eq_true (hall c hc)

theorem strip_of_chars : stripBy PyText.ascii.isSpace s = s := by
  have hall := @forall_decimalChars (fun c => !PyText.ascii.isSpace c) (by decide) s h
  exact stripBy_eq_self (fun c hc => (Bool.not_eq_true' _).mp (hall c hc))

theorem lower_of_chars : PyText.ascii.lower s = s := by
  have hall := @forall_decimalChars (fun c => !decide ('A' ≤ c ∧ c ≤ 'Z')) (by decide) s h
  refine (List.map_congr_left (fun c hc => ?_)).trans (List.map_id s)
  have hlower := hall c hc
  rw [Bool.not_eq_true', decide_eq_false_iff_not] at hlower
  exact if_neg hlower

end Chars

/-! ## Integers -/

theorem readNatural_toDigits {m : Nat} (h : (Nat.toDigits 10 m).length ≤ maxStrDigits) :
    readNatural .ascii 10 (Nat.toDigits 10 m) = some m := by
  have hdigits : ∀ c ∈ Nat.toDigits 10 m, c.isDigit = true :=
    fun c hc => Nat.isDigit_of_mem_toDigits (by decide) (by decide) hc
  have hlength := (List.filter_sublist (p := (· ≠ '_')) (l := Nat.toDigits 10 m)).length_le
  rw [readNatural_ten, if_neg (by omega), readDigits_digits hdigits 0 false
    (Or.inl Nat.toDigits_ne_nil), Nat.ofDigitChars_ten_toDigits]

/-- The text of an integer: digits, after a sign if it is negative. -/
theorem toString_toList (n : Int) : (toString n).toList =
    if 0 ≤ n then Nat.toDigits 10 n.natAbs else '-' :: Nat.toDigits 10 n.natAbs := by
  rw [Int.toString_eq_repr, Int.repr_eq_if]
  split_ifs with h
  · rw [Nat.toList_repr, show n.toNat = n.natAbs by omega]
  · rw [String.toList_append, Nat.toList_repr, show (-n).toNat = n.natAbs by omega]
    rfl

theorem toString_chars (n : Int) : ∀ c ∈ (toString n).toList, c ∈ decimalChars := by
  have hdigits : ∀ c ∈ Nat.toDigits 10 n.natAbs, c ∈ decimalChars := fun c hc =>
    digit_mem_decimalChars (Nat.isDigit_of_mem_toDigits (by decide) (by decide) hc)
  rw [toString_toList]
  split_ifs
  · exact hdigits
  · exact List.forall_mem_cons.mpr ⟨by decide, hdigits⟩

/-- `int` reads what `str` writes, as long as it writes it. -/
theorem pyInt_repr (n : Int) (h : (Nat.toDigits 10 n.natAbs).length ≤ maxStrDigits) :
    pyInt .ascii 10 (toString n).toList = some n := by
  have hread := readNatural_toDigits h
  have hdigits : ∀ c ∈ Nat.toDigits 10 n.natAbs, c.isDigit = true :=
    fun c hc => Nat.isDigit_of_mem_toDigits (by decide) (by decide) hc
  unfold pyInt
  rw [strip_of_chars (toString_chars n), toString_toList]
  split_ifs with hsign
  · -- the first character is a digit, and so no sign
    split
    · rename_i digits heq
      exact absurd (hdigits '-' (heq ▸ List.mem_cons_self)) (by decide)
    · rename_i digits heq
      exact absurd (hdigits '+' (heq ▸ List.mem_cons_self)) (by decide)
    · rw [hread]
      exact congrArg some (Int.natAbs_of_nonneg hsign)
  · simp only [hread]
    exact congrArg some (by omega : -(n.natAbs : Int) = n)

/-! ## Decimals -/

/-- A character that is no digit below ten. -/
theorem readNatural_none {py : PyText} {c : Char} (hc : c ≠ '_')
    (hvalue : ∀ d, digitValue py c = some d → ¬ d < 10) {s : List Char} (h : c ∈ s) :
    readNatural py 10 s = none := by
  rw [readNatural_ten]
  split_ifs
  · rfl
  · rw [Option.eq_none_iff_forall_ne_some]
    intro n hn
    rcases readDigits_chars hn c h with hunderscore | ⟨d, hd, hbase⟩
    · exact hc hunderscore
    · exact hvalue d hd hbase

/-- `int` reads no text with such a character in it, unless it is a sign or blank. -/
theorem pyInt_none {py : PyText} {c : Char} (hminus : c ≠ '-') (hplus : c ≠ '+') (hc : c ≠ '_')
    (hspace : py.isSpace c = false) (hvalue : ∀ d, digitValue py c = some d → ¬ d < 10)
    {s : List Char} (h : c ∈ s) : pyInt py 10 s = none := by
  have hstrip := mem_stripBy hspace h
  have hread : ∀ t : List Char, c ∈ t → readNatural py 10 t = none :=
    fun _ => readNatural_none hc hvalue
  unfold pyInt
  generalize stripBy py.isSpace s = t at hstrip
  split
  · rw [hread _ ((List.mem_cons.mp hstrip).resolve_left hminus)]
    rfl
  · rw [hread _ ((List.mem_cons.mp hstrip).resolve_left hplus)]
    rfl
  · rw [hread _ hstrip]
    rfl

/-- `int` reads no decimal: it stops at the point or at the exponent. -/
theorem pyInt_decimal {s : List Char} (h : IsDecimal s) : pyInt .ascii 10 s = none := by
  rcases h.2 with hdot | hexp
  · exact pyInt_none (by decide) (by decide) (by decide) rfl (by decide) hdot
  · refine pyInt_none (by decide) (by decide) (by decide) rfl ?_ hexp
    intro d hd
    cases hd
    decide

theorem exactDecimal_isDecimal (m e : Int) : IsDecimal (exactDecimal (.finite m e)) := by
  have hdigits : ∀ n : Nat, ∀ c ∈ Nat.toDigits 10 n, c ∈ decimalChars := fun n c hc =>
    digit_mem_decimalChars (Nat.isDigit_of_mem_toDigits (by decide) (by decide) hc)
  constructor
  · intro c hc
    simp only [exactDecimal, List.append_assoc, List.mem_append, List.mem_cons] at hc
    rcases hc with hsign | hwhole | rfl | hshown
    · split_ifs at hsign
      · rw [List.mem_singleton.mp hsign]
        decide
      · exact absurd hsign List.not_mem_nil
    · exact hdigits _ c hwhole
    · decide
    · split_ifs at hshown
      · rw [List.mem_singleton.mp hshown]
        decide
      · have hpadded := List.mem_reverse.mp
          ((List.dropWhile_sublist _).subset (List.mem_reverse.mp hshown))
        rcases List.mem_append.mp hpadded with hzero | hfrac
        · rw [List.eq_of_mem_replicate hzero]
          decide
        · exact hdigits _ c hfrac
  · refine Or.inl ?_
    simp only [exactDecimal, List.mem_append, List.mem_cons, true_or, or_true]

/-- The interpreter of the examples is one. -/
theorem ascii_onAscii : PyText.ascii.OnAscii where
  isSpace _ _ := rfl
  decimal _ _ := rfl
  lower _ _ := rfl
  floatRepr := exactDecimal_isDecimal
  infRepr _ := rfl
  nanRepr := rfl

end OpenSoar.Python
