/-
# `OpenSoar.Python.UuidText` — `uuid.UUID` reads what `str` writes

The identifiers that the program puts into texts (the subject of a token, the arguments of a task,
the links in an answer) come back as the same identifiers, in every interpreter that agrees on
ASCII text (`Uuid.ofText?_toText`).
-/
import OpenSoar.Python.Ascii
import OpenSoar.Python.Uuid

namespace OpenSoar.Python

/-! ## Hexadecimal digits -/

/-- The characters of an identifier's text. -/
def uuidChars : List Char := "0123456789abcdef-".toList

theorem digitChar_mem_uuidChars {d : Nat} (h : d < 16) : Nat.digitChar d ∈ uuidChars := by
  interval_cases d <;> decide

theorem hexDigits_chars (width n : Nat) :
    ∀ c ∈ hexDigits width n, ∃ d < 16, c = Nat.digitChar d := by
  intro c hc
  rcases List.mem_append.mp hc with hzeros | hdigits
  · exact ⟨0, by decide, List.eq_of_mem_replicate hzeros⟩
  · exact Uuid.mem_toDigits hdigits

theorem digitValue_digitChar {py : PyText} (hpy : py.OnAscii) {d : Nat} (h : d < 16) :
    digitValue py (Nat.digitChar d) = some d := by
  have hascii : ∀ d < 16, (Nat.digitChar d).toNat < 128 := by decide
  rw [digitValue_ascii hpy (hascii d h)]
  interval_cases d <;> rfl

theorem readDigits_hex {py : PyText} (hpy : py.OnAscii) {cs : List Char}
    (h : ∀ c ∈ cs, ∃ d < 16, c = Nat.digitChar d) (acc : Nat) (afterDigit : Bool)
    (hne : cs ≠ [] ∨ afterDigit = true) :
    readDigits (digitValue py) 16 acc afterDigit cs =
      some (cs.foldl (fun n c => 16 * n + ((List.range 16).map Nat.digitChar).idxOf c) acc) := by
  induction cs generalizing acc afterDigit with
  | nil =>
      rw [readDigits, hne.resolve_left (not_not.mpr rfl)]
      rfl
  | cons c cs ih =>
      obtain ⟨⟨d, hd, rfl⟩, hcs⟩ := List.forall_mem_cons.mp h
      have hunderscore : ∀ d < 16, Nat.digitChar d ≠ '_' := by decide
      rw [readDigits, if_neg (hunderscore d hd), digitValue_digitChar hpy hd, List.foldl_cons,
        Uuid.idxOf_digitChar hd, Nat.mul_comm acc]
      dsimp only
      rw [if_pos hd]
      exact ih hcs _ true (Or.inr rfl)

/-- In base 16, without a leading `0x`. -/
theorem readNatural_hex {py : PyText} {s : List Char} (h : 'x' ∉ s) (h' : 'X' ∉ s) :
    readNatural py 16 s = readDigits (digitValue py) 16 0 false s := by
  unfold readNatural
  split
  · rename_i second rest _
    have hx : ¬ (second = 'x' ∨ second = 'X') := by
      rintro (rfl | rfl)
      · exact h (List.mem_cons_of_mem _ List.mem_cons_self)
      · exact h' (List.mem_cons_of_mem _ List.mem_cons_self)
    rw [if_neg hx]
  · rename_i heq
    cases heq
  · rfl

/-! ## The round trip -/

theorem removeAll_of_not_mem {c : Char} {sub s : List Char} (h : c ∉ s) :
    removeAll (c :: sub) 0 s = s := by
  induction s with
  | nil => rfl
  | cons d s ih =>
      rw [List.mem_cons, not_or] at h
      have hfirst : (c :: sub).isPrefixOf (d :: s) = false := by
        rw [List.isPrefixOf, beq_eq_false_iff_ne.mpr h.1]
        rfl
      rw [removeAll, hfirst, ih h.2]
      rfl

theorem Uuid.toText_chars (u : Uuid) : ∀ c ∈ u.toText.toList, c ∈ uuidChars := by
  intro c hc
  by_cases hhyphen : c = '-'
  · subst hhyphen
    decide
  · have hdigit : c ∈ hexDigits 32 u.toNat := by
      rw [← Uuid.toText_digits]
      exact List.mem_filter.mpr ⟨hc, decide_eq_true hhyphen⟩
    obtain ⟨d, hd, rfl⟩ := hexDigits_chars 32 u.toNat c hdigit
    exact digitChar_mem_uuidChars hd

/-- **`uuid.UUID(str(u))` is `u`.** -/
theorem Uuid.ofText?_toText {py : PyText} (hpy : py.OnAscii) (u : Uuid) :
    Uuid.ofText? py u.toText = some u := by
  have hchars := u.toText_chars
  have hnot : ∀ c : Char, c ∉ uuidChars → c ∉ u.toText.toList :=
    fun c hc hmem => hc (hchars c hmem)
  have hdigits := hexDigits_chars 32 u.toNat
  have hhex : ∀ p : Char → Bool, (∀ d < 16, p (Nat.digitChar d) = false) →
      ∀ c ∈ hexDigits 32 u.toNat, p c = false := by
    intro p hp c hc
    obtain ⟨d, hd, rfl⟩ := hdigits c hc
    exact hp d hd
  have hspace : ∀ c ∈ hexDigits 32 u.toNat, py.isSpace c = false := by
    refine hhex _ (fun d hd => ?_)
    have hascii : ∀ d < 16, (Nat.digitChar d).toNat < 128 := by decide
    rw [hpy.isSpace _ (hascii d hd)]
    revert d
    decide
  have hpad : (hexDigits 32 u.toNat).length = 32 := length_hexDigits u.isLt (by decide)
  have hne : hexDigits 32 u.toNat ≠ [] := by
    intro hnil
    rw [hnil] at hpad
    cases hpad
  have hnothex : ∀ c : Char, (∀ d < 16, c ≠ Nat.digitChar d) → c ∉ hexDigits 32 u.toNat := by
    intro c hc hmem
    obtain ⟨d, hd, heq⟩ := hdigits c hmem
    exact hc d hd heq
  have hint : pyInt py 16 (hexDigits 32 u.toNat) = some (u.toNat : Int) := by
    have hread : readNatural py 16 (hexDigits 32 u.toNat) = some u.toNat := by
      rw [readNatural_hex (hnothex _ (by decide)) (hnothex _ (by decide)),
        readDigits_hex hpy hdigits 0 false (Or.inl hne)]
      exact congrArg some (hexValue_hexDigits 32 u.toNat)
    unfold pyInt
    rw [stripBy_eq_self hspace]
    split
    · rename_i digits heq
      exact absurd (heq ▸ List.mem_cons_self) (hnothex '-' (by decide))
    · rename_i digits heq
      exact absurd (heq ▸ List.mem_cons_self) (hnothex '+' (by decide))
    · rw [hread]
      rfl
  have hbare : ∀ sub : List Char, removeAll ('u' :: sub) 0 u.toText.toList = u.toText.toList :=
    fun sub => removeAll_of_not_mem (hnot 'u' (by decide))
  have hbraces : stripBy (fun c => c = '\x7b' || c = '\x7d') u.toText.toList = u.toText.toList := by
    refine stripBy_eq_self (fun c hc => ?_)
    rw [Bool.or_eq_false_iff, decide_eq_false_iff_not, decide_eq_false_iff_not]
    exact ⟨fun h => hnot '\x7b' (by decide) (h ▸ hc), fun h => hnot '\x7d' (by decide) (h ▸ hc)⟩
  have hurn : "urn:".toList = 'u' :: "rn:".toList := rfl
  have huuid : "uuid:".toList = 'u' :: "uid:".toList := rfl
  rw [ofText?, hurn, huuid, hbare, hbare, hbraces, toText_digits, if_neg (by omega), hint]
  dsimp only
  have hbound : (0 : Int) ≤ u.toNat ∧ (u.toNat : Int) < 2 ^ 128 :=
    ⟨Int.natCast_nonneg _, by exact_mod_cast u.isLt⟩
  rw [if_pos hbound, BitVec.ofInt_natCast, BitVec.ofNat_toNat]
  exact congrArg some (BitVec.setWidth_eq u)

theorem Uuid.toText_ne_empty {py : PyText} (hpy : py.OnAscii) (u : Uuid) : u.toText ≠ "" := by
  intro hempty
  have hread := Uuid.ofText?_toText hpy u
  rw [hempty] at hread
  cases hread

end OpenSoar.Python
