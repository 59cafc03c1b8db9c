/-
# `OpenSoar.Python.JsonRoundTrip` — what `dumps` writes, `loads` reads

For every value that Python can hold, `loads` reads the text that `dumps` writes as that value
(`loads_dumps`): the keys of each dict differ, no `int` is too long to be written, and each float
is one that its text is read back to (`Held`).

A string is read character by character, each from its escape (`scanUnits_escaped`), and a number
up to what is no part of one (`NumberEnds`).  The text of a value then takes the machine from
where a value may begin to where it has been delivered, inside of any arrays and objects and
whatever follows (`ReadsAs`), which goes through by induction on the values inside of a value.
-/
import Mathlib.Data.List.TakeWhile
import OpenSoar.Python.JsonText

namespace OpenSoar.Python

namespace Json

/-! ## Strings -/

theorem toNat_valid (c : Char) :
    c.toNat < 0xd800 ∨ 0xdfff < c.toNat ∧ c.toNat < 0x110000 := c.valid

theorem codeUnits_lt (c : Char) : ∀ u ∈ codeUnits c, u < 0x10000 := by
  have hc := toNat_valid c
  intro u hu
  unfold codeUnits at hu
  split_ifs at hu with hsmall
  · simp only [List.mem_singleton] at hu
    omega
  · simp only [List.mem_cons, List.not_mem_nil, or_false] at hu
    omega

theorem hexDigit_digitChar {d : Nat} (h : d < 16) : hexDigit? (Nat.digitChar d) = some d := by
  interval_cases d <;> decide

theorem hexUnit_unicodeEscape {u : Nat} (h : u < 0x10000) :
    hexUnit? (Nat.digitChar (u / 4096 % 16)) (Nat.digitChar (u / 256 % 16))
      (Nat.digitChar (u / 16 % 16)) (Nat.digitChar (u % 16)) = some u := by
  have hmod : ∀ n : Nat, hexDigit? (Nat.digitChar (n % 16)) = some (n % 16) :=
    fun n => hexDigit_digitChar (Nat.mod_lt n (by decide))
  simp only [hexUnit?, hmod, Option.bind_eq_bind, Option.bind_some]
  exact congrArg some (by omega)

/-- An escape sequence is one unit. -/
theorem scanUnits_unicodeEscape {u : Nat} (h : u < 0x10000) {rest : List Char} {us : List Nat}
    {n : Nat} (hrest : scanUnits rest = some (us, n)) :
    scanUnits (unicodeEscape u ++ rest) = some (u :: us, n + 6) := by
  have hunit := hexUnit_unicodeEscape h
  rw [unicodeEscape]
  simp only [List.cons_append, List.nil_append]
  rw [scanUnits]
  simp only [Char.reduceEq, if_false, if_true, hunit, hrest]

/-- A character is read as its units, however it is written. -/
theorem scanUnits_escaped (c : Char) {rest : List Char} {us : List Nat} {n : Nat}
    (hrest : scanUnits rest = some (us, n)) :
    scanUnits (escaped c ++ rest) = some (codeUnits c ++ us, n + (escaped c).length) := by
  unfold escaped
  split_ifs with hquote hslash hline hreturn htab hform hback hplain
  · subst hquote
    simp [scanUnits, unescape?, hrest, codeUnits]
  · subst hslash
    simp [scanUnits, unescape?, hrest, codeUnits]
  · subst hline
    simp [scanUnits, unescape?, hrest, codeUnits]
  · subst hreturn
    simp [scanUnits, unescape?, hrest, codeUnits]
  · subst htab
    simp [scanUnits, unescape?, hrest, codeUnits]
  · subst hform
    simp [scanUnits, unescape?, hrest, codeUnits]
  · subst hback
    simp [scanUnits, unescape?, hrest, codeUnits]
  · have hrange : 0x20 ≤ c.toNat ∧ c.toNat ≤ 0x7e := hplain
    have hunits : codeUnits c = [c.toNat] := if_pos (by omega)
    rw [List.singleton_append, scanUnits.eq_def]
    simp only [if_neg hquote, if_neg hslash, if_neg (show ¬ c.toNat < 0x20 by omega), hrest, hunits]
    rfl
  · have hlt := codeUnits_lt c
    unfold codeUnits at hlt ⊢
    split_ifs at hlt ⊢ with hsmall
    · rw [List.flatMap_singleton]
      exact scanUnits_unicodeEscape (hlt _ List.mem_cons_self) hrest
    · rw [List.flatMap_cons, List.flatMap_singleton, List.append_assoc]
      exact scanUnits_unicodeEscape (hlt _ List.mem_cons_self)
        (scanUnits_unicodeEscape (hlt _ (List.mem_cons_of_mem _ List.mem_cons_self)) hrest)

theorem scanUnits_quoted (s rest : List Char) :
    scanUnits (s.flatMap escaped ++ '"' :: rest) =
      some (s.flatMap codeUnits, (s.flatMap escaped).length + 1) := by
  induction s with
  | nil =>
      rw [List.flatMap_nil, List.nil_append, scanUnits.eq_def]
      exact if_pos rfl
  | cons c s ih =>
      rw [List.flatMap_cons, List.append_assoc, scanUnits_escaped c ih, List.flatMap_cons,
        List.length_append]
      congr 2
      omega

theorem joinUnits_cons (c : Char) (us : List Nat) :
    joinUnits (codeUnits c ++ us) = c :: joinUnits us := by
  have hc := toNat_valid c
  unfold codeUnits
  split_ifs with hsmall
  · have hhigh : isHigh c.toNat = false := by
      simp [isHigh]; omega
    have hlow : isLow c.toNat = false := by
      simp [isLow]; omega
    have hchar : unitChar c.toNat = c := by
      simp [unitChar, hhigh, hlow]
    cases us with
    | nil => simp [joinUnits, hchar]
    | cons l us => simp [joinUnits, hchar, hhigh]
  · have hhigh : isHigh (0xd800 + (c.toNat - 0x10000) / 1024) = true := by
      simp [isHigh]; omega
    have hlow : isLow (0xdc00 + (c.toNat - 0x10000) % 1024) = true := by
      simp [isLow]; omega
    have hsum : 0x10000 + (0xd800 + (c.toNat - 0x10000) / 1024 - 0xd800) * 1024 +
        (0xdc00 + (c.toNat - 0x10000) % 1024 - 0xdc00) = c.toNat := by omega
    rw [List.cons_append, List.singleton_append, joinUnits, hhigh, hlow, hsum, Char.ofNat_toNat]
    rfl

theorem joinUnits_codeUnits (s : List Char) : joinUnits (s.flatMap codeUnits) = s := by
  induction s with
  | nil => rfl
  | cons c s ih => rw [List.flatMap_cons, joinUnits_cons, ih]

/-! ## Numbers -/

/-- What follows is not part of a number. -/
def NumberEnds (rest : List Char) : Prop :=
  ∀ c ∈ rest.head?, c.isDigit = false ∧ c ≠ '.' ∧ c ≠ 'e' ∧ c ≠ 'E'

/-- What follows does not begin with a digit. -/
def DigitsEnd (rest : List Char) : Prop := ∀ c ∈ rest.head?, c.isDigit = false

theorem takeWhile_digits {cs rest : List Char} (h : cs.takeWhile Char.isDigit = cs)
    (hrest : DigitsEnd rest) : (cs ++ rest).takeWhile Char.isDigit = cs := by
  have hnone : rest.takeWhile Char.isDigit = [] := by
    cases rest with
    | nil => rfl
    | cons c rest => rw [List.takeWhile_cons_of_neg (by simp [hrest c rfl])]
  rw [List.takeWhile_append, h, if_pos rfl, hnone, List.append_nil]

theorem scanNatural_append {cs rest : List Char} (h : scanNatural cs = some cs)
    (hrest : DigitsEnd rest) : scanNatural (cs ++ rest) = some cs := by
  cases cs with
  | nil => cases h
  | cons c cs =>
      rw [scanNatural] at h
      rw [List.cons_append, scanNatural]
      split_ifs at h ⊢ with hzero hdigit
      · exact h
      · have hcs := (List.cons.inj (Option.some.inj h)).2
        rw [takeWhile_digits hcs hrest]

theorem scanInteger_append {cs rest : List Char} (h : scanInteger cs = some cs)
    (hrest : DigitsEnd rest) : scanInteger (cs ++ rest) = some cs := by
  cases cs with
  | nil => cases h
  | cons c cs =>
      rw [scanInteger] at h
      rw [List.cons_append, scanInteger]
      split_ifs at h ⊢ with hsign
      · obtain ⟨digits, hdigits, heq⟩ := Option.map_eq_some_iff.mp h
        obtain ⟨-, rfl⟩ := List.cons.inj heq
        rw [scanNatural_append hdigits hrest, Option.map_some, hsign]
      · exact scanNatural_append h hrest

theorem scanFraction_append {cs rest : List Char} (h : scanFraction cs = cs)
    (hrest : DigitsEnd rest) (hpoint : cs = [] → rest.head? ≠ some '.') :
    scanFraction (cs ++ rest) = cs := by
  cases cs with
  | nil =>
      cases rest with
      | nil => rfl
      | cons c rest =>
          have hc : c ≠ '.' := fun hc => hpoint rfl (congrArg some hc)
          exact if_neg (fun h => hc h.1)
  | cons c cs =>
      rw [scanFraction] at h
      rw [List.cons_append, scanFraction]
      split_ifs at h with hfrac
      have hcs := (List.cons.inj h).2
      rw [takeWhile_digits hcs hrest, hfrac.1, if_pos ⟨rfl, hcs ▸ hfrac.2⟩]

theorem scanExponent_append {cs rest : List Char} (h : scanExponent cs = cs)
    (hrest : DigitsEnd rest) (hexp : cs = [] → rest.head? ≠ some 'e' ∧ rest.head? ≠ some 'E') :
    scanExponent (cs ++ rest) = cs := by
  cases cs with
  | nil =>
      cases rest with
      | nil => rfl
      | cons c rest =>
          obtain ⟨hlower, hupper⟩ := hexp rfl
          refine if_neg (fun h => ?_)
          rcases h.1 with rfl | rfl
          · exact hlower rfl
          · exact hupper rfl
  | cons e cs =>
      rw [scanExponent] at h
      rw [List.cons_append, scanExponent]
      split_ifs at h with hmatch
      have hcs := (List.cons.inj h).2
      -- the sign is the one that is scanned without what follows
      have hsign : scanSign (cs ++ rest) = scanSign cs := by
        cases cs with
        | nil => exact absurd rfl hmatch.2
        | cons c cs => rfl
      generalize scanSign cs = sign at hcs hsign hmatch
      generalize hdigits : (cs.drop sign.length).takeWhile Char.isDigit = digits at hcs hmatch
      subst hcs
      rw [List.drop_left] at hdigits
      rw [hsign, List.append_assoc, List.drop_left, takeWhile_digits hdigits hrest, if_pos hmatch]

/-- A text that `NUMBER_RE` matches with a fraction or an exponent. -/
def IsFloatText (s : List Char) : Prop :=
  ∃ whole frac exp, s = whole ++ frac ++ exp ∧ scanInteger whole = some whole ∧
    scanFraction frac = frac ∧ scanExponent exp = exp ∧ (frac ≠ [] ∨ exp ≠ [])

variable {readFloat : List Char → PyFloat}

theorem NumberEnds.digitsEnd {rest : List Char} (h : NumberEnds rest) : DigitsEnd rest :=
  fun c hc => (h c hc).1

/-- A fraction begins with a point, an exponent with its letter. -/
theorem scanFraction_head {cs : List Char} (h : scanFraction cs = cs) (hne : cs ≠ []) :
    cs.head? = some '.' := by
  cases cs with
  | nil => exact absurd rfl hne
  | cons c cs =>
      rw [scanFraction] at h
      split_ifs at h with hfrac
      exact congrArg some hfrac.1

theorem scanExponent_head {cs : List Char} (h : scanExponent cs = cs) (hne : cs ≠ []) :
    cs.head? = some 'e' ∨ cs.head? = some 'E' := by
  cases cs with
  | nil => exact absurd rfl hne
  | cons e cs =>
      rw [scanExponent] at h
      split_ifs at h with hexp
      exact hexp.1.imp (congrArg some) (congrArg some)

theorem exponent_end {exp rest : List Char} (hexp : scanExponent exp = exp)
    (hrest : NumberEnds rest) : DigitsEnd (exp ++ rest) ∧ (exp ++ rest).head? ≠ some '.' := by
  by_cases hne : exp = []
  · subst hne
    refine ⟨hrest.digitsEnd, fun h => ?_⟩
    exact (hrest '.' h).2.1 rfl
  · obtain ⟨c, cs, rfl⟩ := List.exists_cons_of_ne_nil hne
    rcases scanExponent_head hexp hne with h | h
    all_goals
      cases Option.some.inj h
      refine ⟨fun c hc => ?_, fun h => absurd (Option.some.inj h) (by decide)⟩
      cases Option.some.inj hc
      decide

theorem scanNumber_float {s rest : List Char} (h : IsFloatText s) (hrest : NumberEnds rest) :
    scanNumber readFloat (s ++ rest) = some (.value (.float (readFloat s)), s.length) := by
  obtain ⟨whole, frac, exp, rfl, hwhole, hfrac, hexp, hne⟩ := h
  obtain ⟨hend, hpoint⟩ := exponent_end hexp hrest
  have hdigits : DigitsEnd (frac ++ (exp ++ rest)) := by
    by_cases hnil : frac = []
    · rw [hnil]
      exact hend
    · obtain ⟨c, cs, rfl⟩ := List.exists_cons_of_ne_nil hnil
      intro c' hc'
      cases Option.some.inj hc'
      cases Option.some.inj (scanFraction_head hfrac hnil)
      decide
  have hlast := scanExponent_append hexp hrest.digitsEnd
    (fun _ => ⟨fun h => (hrest 'e' h).2.2.1 rfl, fun h => (hrest 'E' h).2.2.2 rfl⟩)
  have hsplit : whole ++ frac ++ exp ++ rest = whole ++ (frac ++ (exp ++ rest)) := by
    simp only [List.append_assoc]
  have hdrop :
    (whole ++ (frac ++ (exp ++ rest))).drop (whole.length + frac.length) = exp ++ rest := by
    rw [← List.append_assoc, ← List.length_append, List.drop_left]
  have hsome : ¬ (frac = [] ∧ exp = []) := fun h => hne.elim (· h.1) (· h.2)
  rw [scanNumber, hsplit, scanInteger_append hwhole hdigits]
  simp only [Option.bind_eq_bind, Option.bind_some, List.drop_left,
    scanFraction_append hfrac hend (fun _ => hpoint), hdrop, hlast, if_neg hsome]
  rfl

theorem scanNatural_toDigits (m : Nat) :
    scanNatural (Nat.toDigits 10 m) = some (Nat.toDigits 10 m) := by
  have hdigits : ∀ c ∈ Nat.toDigits 10 m, c.isDigit = true :=
    fun c hc => Nat.isDigit_of_mem_toDigits (by decide) (by decide) hc
  have hhead : m ≠ 0 → (Nat.toDigits 10 m).head? ≠ some '0' := by
    intro hm
    induction m using Nat.strongRecOn with
    | ind m ih =>
        by_cases hsmall : m < 10
        · rw [Nat.toDigits_of_lt_base hsmall]
          interval_cases m
          · exact absurd rfl hm
          all_goals decide
        · rw [Nat.toDigits_of_base_le (by decide) (by omega),
            List.head?_append_of_ne_nil _ Nat.toDigits_ne_nil]
          exact ih (m / 10) (by omega)
            (fun c hc => Nat.isDigit_of_mem_toDigits (by decide) (by decide) hc) (by omega)
  by_cases hm : m = 0
  · subst hm
    rfl
  · cases htext : Nat.toDigits 10 m with
    | nil => exact absurd htext Nat.toDigits_ne_nil
    | cons c cs =>
        rw [htext] at hdigits hhead
        have hc : c ≠ '0' := fun hc => hhead hm (congrArg some hc)
        have hcs : cs.takeWhile Char.isDigit = cs :=
          List.takeWhile_eq_self_iff.mpr (fun d hd => hdigits d (List.mem_cons_of_mem c hd))
        rw [scanNatural, if_neg hc, if_pos (hdigits c List.mem_cons_self), hcs]

theorem scanInteger_toString (n : Int) :
    scanInteger (toString n).toList = some (toString n).toList := by
  have hnatural := scanNatural_toDigits n.natAbs
  rw [toString_toList]
  split_ifs with hsign
  · cases htext : Nat.toDigits 10 n.natAbs with
    | nil => exact absurd htext Nat.toDigits_ne_nil
    | cons c cs =>
        have hc : c ≠ '-' := by
          rintro rfl
          have hdigit := @Nat.isDigit_of_mem_toDigits 10 n.natAbs '-' (by decide) (by decide)
            (htext ▸ List.mem_cons_self)
          exact absurd hdigit (by decide)
        rw [scanInteger, if_neg hc, ← htext, hnatural]
  · rw [scanInteger, if_pos rfl, hnatural, Option.map_some]

theorem scanNumber_int (n : Int) {rest : List Char} (hrest : NumberEnds rest) :
    scanNumber readFloat ((toString n).toList ++ rest) =
      some (.int (toString n).toList, (toString n).toList.length) := by
  have hfrac : scanFraction rest = [] := @scanFraction_append [] rest rfl hrest.digitsEnd
    (fun _ h => (hrest '.' h).2.1 rfl)
  have hexp : scanExponent rest = [] := @scanExponent_append [] rest rfl hrest.digitsEnd
    (fun _ => ⟨fun h => (hrest 'e' h).2.2.1 rfl, fun h => (hrest 'E' h).2.2.2 rfl⟩)
  rw [scanNumber, scanInteger_append (scanInteger_toString n) hrest.digitsEnd]
  simp only [Option.bind_eq_bind, Option.bind_some, List.drop_left, hfrac, List.length_nil,
    Nat.add_zero, hexp]
  rfl

variable {py : PyText}

/-! ## Tokens of what is written -/

theorem lex_skip (cs rest : List Char) :
    lex readFloat cs.length (cs ++ rest) = lex readFloat 0 rest := by
  induction cs with
  | nil => rfl
  | cons c cs ih =>
      rw [List.length_cons, List.cons_append, lex]
      exact ih

theorem lex_token {c : Char} {cs rest : List Char} {token : JsonToken}
    (hspace : isJsonSpace c = false)
    (h : tokenAt readFloat (c :: cs ++ rest) = some (token, (c :: cs).length)) :
    lex readFloat 0 (c :: cs ++ rest) = token :: lex readFloat 0 rest := by
  rw [List.cons_append] at h ⊢
  rw [lex, hspace, h]
  exact congrArg (token :: ·) (lex_skip cs rest)

/-- No word begins like a number. -/
theorem find_words {c : Char} {cs : List Char}
    (h : c.isDigit = true ∨ c = '-' ∧ cs.head? ≠ some 'I') :
    words.find? (fun word => word.1.isPrefixOf (c :: cs)) = none := by
  rcases h with hdigit | ⟨rfl, hhead⟩
  · have hne : ∀ d : Char, d.isDigit = false → d ≠ c := by
      rintro d hd rfl
      exact absurd (hd.symm.trans hdigit) (by decide)
    have hn := hne 'n' (by decide)
    have ht := hne 't' (by decide)
    have hf := hne 'f' (by decide)
    have hN := hne 'N' (by decide)
    have hI := hne 'I' (by decide)
    have hminus := hne '-' (by decide)
    simp [words, List.isPrefixOf, hn, ht, hf, hN, hI, hminus]
  · cases cs with
    | nil => decide
    | cons d cs =>
        have hd : 'I' ≠ d := fun h => hhead (congrArg some h.symm)
        simp [words, List.isPrefixOf, hd]

theorem scanNatural_head {c : Char} {cs : List Char} (h : scanNatural (c :: cs) = some (c :: cs)) :
    c.isDigit = true := by
  rw [scanNatural] at h
  split_ifs at h with hzero hdigit
  · rw [hzero]
    decide
  · exact hdigit

theorem scanInteger_head {c : Char} {cs : List Char} (h : scanInteger (c :: cs) = some (c :: cs)) :
    c.isDigit = true ∨ c = '-' ∧ ∃ d ds, cs = d :: ds ∧ d.isDigit = true := by
  rw [scanInteger] at h
  split_ifs at h with hsign
  · obtain ⟨digits, hdigits, heq⟩ := Option.map_eq_some_iff.mp h
    obtain ⟨-, rfl⟩ := List.cons.inj heq
    cases digits with
    | nil => cases hdigits
    | cons d ds => exact Or.inr ⟨hsign, d, ds, rfl, scanNatural_head hdigits⟩
  · exact Or.inl (scanNatural_head h)

theorem tokenAt_number {c : Char} {cs rest : List Char}
    (h : scanInteger (c :: cs) = some (c :: cs)) :
    tokenAt readFloat (c :: cs ++ rest) = scanNumber readFloat (c :: cs ++ rest) := by
  have hhead := scanInteger_head h
  have hne : ∀ d : Char, d.isDigit = false → d ≠ '-' → c ≠ d := by
    rintro d hd hminus rfl
    rcases hhead with hdigit | ⟨rfl, -⟩
    · exact absurd (hd.symm.trans hdigit) (by decide)
    · exact hminus rfl
  have hwords : words.find? (fun word => word.1.isPrefixOf (c :: (cs ++ rest))) = none := by
    refine find_words (hhead.imp_right ?_)
    rintro ⟨rfl, d, ds, rfl, hd⟩
    refine ⟨rfl, fun h => ?_⟩
    rw [Option.some.inj h] at hd
    exact absurd hd (by decide)
  rw [List.cons_append, tokenAt, if_neg (hne _ (by decide) (by decide)),
    if_neg (hne _ (by decide) (by decide)), if_neg (hne _ (by decide) (by decide)),
    if_neg (hne _ (by decide) (by decide)), if_neg (hne _ (by decide) (by decide)),
    if_neg (hne _ (by decide) (by decide)), if_neg (hne _ (by decide) (by decide)), hwords]

theorem lex_number {whole s rest : List Char} {token : JsonToken}
    (hwhole : scanInteger whole = some whole) (hmore : ∃ more, s = whole ++ more)
    (h : scanNumber readFloat (s ++ rest) = some (token, s.length)) :
    lex readFloat 0 (s ++ rest) = token :: lex readFloat 0 rest := by
  obtain ⟨more, rfl⟩ := hmore
  cases whole with
  | nil => cases hwhole
  | cons c cs =>
      have hspace : isJsonSpace c = false := by
        rcases scanInteger_head hwhole with hdigit | ⟨rfl, -⟩
        · have hrange := toNat_of_isDigit hdigit
          simp only [isJsonSpace, Bool.or_eq_false_iff, beq_eq_false_iff_ne]
          refine ⟨⟨⟨?_, ?_⟩, ?_⟩, ?_⟩ <;> (rintro rfl; exact absurd hdigit (by decide))
        · decide
      have htoken := @tokenAt_number readFloat c cs (more ++ rest) hwhole
      rw [← List.append_assoc, h] at htoken
      exact lex_token hspace htoken

theorem lex_quoted (s rest : List Char) :
    lex readFloat 0 (quoted s ++ rest) = .str s :: lex readFloat 0 rest := by
  have hscan := scanUnits_quoted s rest
  have htoken : tokenAt readFloat (quoted s ++ rest) = some (.str s, (quoted s).length) := by
    rw [quoted, List.cons_append, List.append_assoc, List.singleton_append, tokenAt]
    simp only [Char.reduceEq, if_false, if_true, hscan, Option.map_some, joinUnits_codeUnits,
      List.length_cons, List.length_append, List.length_nil]
  exact lex_token (by decide) htoken

/-! ## Reading back -/

/-- The tokens of a text, read one after another. -/
def readText (readFloat : List Char → PyFloat) (e : Expecting) (text : List Char) :
    Except LoadsError Expecting :=
  (lex readFloat 0 text).foldlM readToken e

/-- A float that is read back from its text. -/
def ReadsBack (py : PyText) (readFloat : List Char → PyFloat) : PyFloat → Prop
  | .finite m e => IsFloatText (py.floatRepr (.finite m e)) ∧
      readFloat (py.floatRepr (.finite m e)) = .finite m e
  | _ => True

mutual
/-- The keys of every dict differ, and every float is read back from its text. -/
def Held (py : PyText) (readFloat : List Char → PyFloat) : Json → Prop
  | .float x => ReadsBack py readFloat x
  | .arr items => HeldItems py readFloat items
  | .obj fields => (fields.map Prod.fst).Nodup ∧ HeldFields py readFloat fields
  | _ => True

def HeldItems (py : PyText) (readFloat : List Char → PyFloat) : List Json → Prop
  | [] => True
  | x :: xs => Held py readFloat x ∧ HeldItems py readFloat xs

def HeldFields (py : PyText) (readFloat : List Char → PyFloat) : List (String × Json) → Prop
  | [] => True
  | (_, v) :: fs => Held py readFloat v ∧ HeldFields py readFloat fs
end

/-- A value may begin, inside of these arrays and objects. -/
def Begins (e : Expecting) (frames : List Frame) : Prop :=
  ∀ t, t ≠ .closeArray → readToken e t = beginValue frames t

theorem begins_value (frames : List Frame) : Begins (.value frames) frames := fun _ _ => rfl

theorem begins_item (frames : List Frame) :
    Begins (.valueOrClose frames) (.array [] :: frames) := by
  intro t ht
  cases t with
  | closeArray => exact absurd rfl ht
  | _ => rfl

theorem readText_token (token : JsonToken) {e e' : Expecting} {text rest : List Char}
    (hlex : lex readFloat 0 text = token :: lex readFloat 0 rest)
    (hstep : readToken e token = .ok e') :
    readText readFloat e text = readText readFloat e' rest := by
  rw [readText, hlex, List.foldlM_cons, hstep]
  rfl

theorem heldItems_iff {items : List Json} :
    HeldItems py readFloat items ↔ ∀ x ∈ items, Held py readFloat x := by
  induction items with
  | nil => simp [HeldItems]
  | cons x xs ih => rw [HeldItems, ih, List.forall_mem_cons]

theorem heldFields_iff {fields : Dict} :
    HeldFields py readFloat fields ↔ ∀ field ∈ fields, Held py readFloat field.2 := by
  induction fields with
  | nil => simp [HeldFields]
  | cons field fs ih => rw [HeldFields, ih, List.forall_mem_cons]

theorem writableItems_iff {items : List Json} :
    writableItems items = true ↔ ∀ x ∈ items, x.writable = true := by
  induction items with
  | nil => simp [writableItems]
  | cons x xs ih => rw [writableItems, Bool.and_eq_true, ih, List.forall_mem_cons]

theorem writableFields_iff {fields : Dict} :
    writableFields fields = true ↔ ∀ field ∈ fields, field.2.writable = true := by
  induction fields with
  | nil => simp [writableFields]
  | cons field fs ih => rw [writableFields, Bool.and_eq_true, ih, List.forall_mem_cons]

/-- Induction on the values inside of a value. -/
@[elab_as_elim]
theorem inductOn {P : Json → Prop} (null : P .null) (bool : ∀ b, P (.bool b))
    (int : ∀ n, P (.int n)) (float : ∀ x, P (.float x)) (str : ∀ s, P (.str s))
    (arr : ∀ items, (∀ x ∈ items, P x) → P (.arr items))
    (obj : ∀ fields : Dict, (∀ field ∈ fields, P field.2) → P (.obj fields)) (v : Json) : P v :=
  @Json.rec P (fun items => ∀ x ∈ items, P x) (fun fields => ∀ field ∈ fields, P field.2)
    (fun field => P field.2) null bool int float str arr obj
    (fun _ h => absurd h List.not_mem_nil) (fun _ _ hx hxs => List.forall_mem_cons.mpr ⟨hx, hxs⟩)
    (fun _ h => absurd h List.not_mem_nil) (fun _ _ hx hxs => List.forall_mem_cons.mpr ⟨hx, hxs⟩)
    (fun _ _ hv => hv) v

theorem numberEnds_cons {c : Char} {rest : List Char}
    (h : c.isDigit = false ∧ c ≠ '.' ∧ c ≠ 'e' ∧ c ≠ 'E') : NumberEnds (c :: rest) := by
  intro c' hc'
  cases hc'
  exact h

/-- The text of a value is read as the value, whatever follows it. -/
def ReadsAs (py : PyText) (readFloat : List Char → PyFloat) (v : Json) : Prop :=
  ∀ (e : Expecting) (frames : List Frame) (rest : List Char), Begins e frames → NumberEnds rest →
    readText readFloat e (v.dumps py ++ rest) = readText readFloat (deliver v frames) rest

theorem readsAs_of_token (token : JsonToken) {v : Json}
    (hlex : ∀ rest, NumberEnds rest →
      lex readFloat 0 (v.dumps py ++ rest) = token :: lex readFloat 0 rest)
    (hclose : token ≠ .closeArray)
    (hbegin : ∀ frames, beginValue frames token = .ok (deliver v frames)) :
    ReadsAs py readFloat v := by
  intro e frames rest he hrest
  exact readText_token token (hlex rest hrest) ((he token hclose).trans (hbegin frames))

theorem dumpsItems_cons (x y : Json) (ys : List Json) :
    dumpsItems py (x :: y :: ys) = x.dumps py ++ (',' :: ' ' :: dumpsItems py (y :: ys)) := rfl

theorem dumpsFields_cons (k : String) (v : Json) (field : String × Json) (fs : Dict) :
    dumpsFields py ((k, v) :: field :: fs) =
      quoted k.toList ++ (':' :: ' ' :: v.dumps py) ++
        (',' :: ' ' :: dumpsFields py (field :: fs)) := rfl

theorem readText_items {items : List Json} (hitems : ∀ x ∈ items, ReadsAs py readFloat x)
    (hne : items ≠ []) (before : List Json) {e : Expecting} {frames : List Frame}
    (he : Begins e (.array before :: frames)) (rest : List Char) :
    readText readFloat e (dumpsItems py items ++ ']' :: rest) =
      readText readFloat (deliver (.arr (before.reverse ++ items)) frames) rest := by
  induction items generalizing before e with
  | nil => exact absurd rfl hne
  | cons x xs ih =>
      obtain ⟨hx, hxs⟩ := List.forall_mem_cons.mp hitems
      cases xs with
      | nil =>
          rw [dumpsItems]
          refine (hx e _ _ he (numberEnds_cons (by decide))).trans ?_
          refine (readText_token .closeArray rfl rfl).trans ?_
          rw [List.reverse_cons]
      | cons y ys =>
          rw [dumpsItems_cons, List.append_assoc]
          refine (hx e _ _ he (numberEnds_cons (by decide))).trans ?_
          refine (readText_token .comma rfl rfl).trans ?_
          refine (ih hxs (List.cons_ne_nil _ _) (x :: before) (begins_value _)).trans ?_
          rw [List.reverse_cons, List.append_assoc]
          rfl

theorem assign_new {fields : Dict} {key : String} {value : Json} (h : key ∉ fields.map Prod.fst) :
    assign fields key value = fields ++ [(key, value)] := by
  refine if_neg (fun hsome => h ?_)
  obtain ⟨field, hfield, hkey⟩ := List.lookup_isSome_iff.mp hsome
  exact List.mem_map.mpr ⟨field, hfield, (beq_iff_eq.mp hkey).symm⟩

theorem readText_fields {fields : Dict} (hfields : ∀ field ∈ fields, ReadsAs py readFloat field.2)
    (hne : fields ≠ []) (before : Dict) (hkeys : ((before ++ fields).map Prod.fst).Nodup)
    {e : Expecting} {frames : List Frame}
    (he : ∀ s, readToken e (.str s) = .ok (.colon before (String.ofList s) frames))
    (rest : List Char) :
    readText readFloat e (dumpsFields py fields ++ '\x7d' :: rest) =
      readText readFloat (deliver (.obj (before ++ fields)) frames) rest := by
  induction fields generalizing before e with
  | nil => exact absurd rfl hne
  | cons field fs ih =>
      obtain ⟨k, v⟩ := field
      obtain ⟨hv, hfs⟩ := List.forall_mem_cons.mp hfields
      have hnew : k ∉ before.map Prod.fst := by
        rw [List.map_append, List.map_cons] at hkeys
        exact fun hk => (List.nodup_append.mp hkeys).2.2 k hk k List.mem_cons_self rfl
      have hkey : ∀ more, readText readFloat e (quoted k.toList ++ (':' :: ' ' :: more)) =
          readText readFloat (.value (.object before k :: frames)) more := by
        intro more
        refine (readText_token (.str _) (lex_quoted _ _) (he _)).trans ?_
        rw [String.ofList_toList]
        exact readText_token .colon rfl rfl
      cases fs with
      | nil =>
          rw [dumpsFields, List.append_assoc]
          refine (hkey _).trans ?_
          refine (hv _ _ _ (begins_value _) (numberEnds_cons (by decide))).trans ?_
          refine (readText_token .closeObject rfl rfl).trans ?_
          rw [assign_new hnew]
      | cons next fs =>
          rw [dumpsFields_cons, List.append_assoc, List.append_assoc]
          refine (hkey _).trans ?_
          refine (hv _ _ _ (begins_value _) (numberEnds_cons (by decide))).trans ?_
          refine (readText_token .comma rfl rfl).trans ?_
          have hsplit : assign before k v ++ (next :: fs) = before ++ (k, v) :: next :: fs := by
            rw [assign_new hnew, List.append_assoc]
            rfl
          refine (ih hfs (List.cons_ne_nil _ _) (assign before k v) (by rw [hsplit]; exact hkeys)
            (fun _ => rfl)).trans ?_
          rw [hsplit]

/-- Every value that can be held and written is read from its text. -/
theorem readsAs_dumps {v : Json} (hheld : Held py readFloat v) (hwritable : v.writable = true) :
    ReadsAs py readFloat v := by
  induction v using Json.inductOn with
  | null => exact readsAs_of_token (.value .null) (fun _ _ => rfl) (by simp) (fun _ => rfl)
  | bool b =>
      refine readsAs_of_token (.value (.bool b)) (fun _ _ => ?_) (by simp) (fun _ => rfl)
      cases b <;> rfl
  | int n =>
      refine readsAs_of_token (.int (toString n).toList) (fun rest hrest => ?_) (by simp)
        (fun frames => ?_)
      · exact lex_number (scanInteger_toString n) ⟨[], (List.append_nil _).symm⟩
          (scanNumber_int n hrest)
      · rw [beginValue, pyInt_repr n (of_decide_eq_true hwritable)]
  | float x =>
      cases x with
      | nan =>
          exact readsAs_of_token (.value (.float .nan)) (fun _ _ => rfl) (by simp)
            (fun _ => rfl)
      | inf negative =>
          refine readsAs_of_token (.value (.float (.inf negative))) (fun _ _ => ?_)
            (by simp) (fun _ => rfl)
          cases negative <;> rfl
      | finite m e =>
          obtain ⟨htext, hread⟩ := hheld
          refine readsAs_of_token (.value (.float (.finite m e))) (fun rest hrest => ?_)
            (by simp) (fun _ => rfl)
          have hscan := @scanNumber_float readFloat _ _ htext hrest
          obtain ⟨whole, frac, exp, hsplit, hwhole, -⟩ := htext
          rw [hread] at hscan
          exact lex_number hwhole ⟨frac ++ exp, hsplit.trans (List.append_assoc ..)⟩ hscan
  | str s =>
      refine readsAs_of_token (.str s.toList) (fun rest _ => lex_quoted s.toList rest) (by simp)
        (fun frames => ?_)
      rw [beginValue, String.ofList_toList]
  | arr items ih =>
      intro e frames rest he hrest
      have hitems : ∀ x ∈ items, ReadsAs py readFloat x := fun x hx =>
        ih x hx (heldItems_iff.mp hheld x hx) (writableItems_iff.mp hwritable x hx)
      rw [dumps, List.cons_append, List.append_assoc]
      refine (readText_token .openArray rfl (he _ (by simp))).trans ?_
      by_cases hne : items = []
      · subst hne
        exact readText_token .closeArray rfl rfl
      · exact readText_items hitems hne [] (begins_item frames) rest
  | obj fields ih =>
      intro e frames rest he hrest
      have hfields : ∀ field ∈ fields, ReadsAs py readFloat field.2 := fun field hfield =>
        ih field hfield (heldFields_iff.mp hheld.2 field hfield)
          (writableFields_iff.mp hwritable field hfield)
      rw [dumps, List.cons_append, List.append_assoc]
      refine (readText_token .openObject rfl (he _ (by simp))).trans ?_
      by_cases hne : fields = []
      · subst hne
        exact readText_token .closeObject rfl rfl
      · exact readText_fields hfields hne [] hheld.1 (fun _ => rfl) rest

/-- **The round trip.**  What `json.dumps` writes of a value, `json.loads` reads as that value. -/
theorem loads_dumps {v : Json} (hheld : Held py readFloat v) {text : List Char}
    (h : v.dumps? py = some text) : loads readFloat text = .ok v := by
  unfold dumps? at h
  split_ifs at h with hwritable
  cases h
  have hread := readsAs_dumps hheld hwritable (.value []) [] [] (begins_value [])
    (by simp [NumberEnds])
  rw [List.append_nil] at hread
  rw [loads, ← readText, hread]
  rfl

end Json

end OpenSoar.Python
