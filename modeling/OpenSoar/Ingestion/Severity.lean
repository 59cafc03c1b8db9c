/-
# `OpenSoar.Ingestion.Severity` — the severities of numbers

`normalize_severity` reads the text of a value, as a keyword and then as an integer.  An integer
comes out by its size (`normalizeSeverity_int`).  A decimal is neither, and is `medium` as
anything else that is not known (`normalizeSeverity_float`), so the order of numbers is kept
except where a decimal meets an integer on the wrong side of two (`normalizeSeverity_laws`).
-/
import OpenSoar.Ingestion.Normalize
import OpenSoar.Python.Ascii

namespace OpenSoar

open Python

namespace Python

/-- `x <= y` on floats: exact comparison of the values, `nan` with nothing. -/
def PyFloat.le : PyFloat → PyFloat → Bool
  | .finite m e, .finite m' e' =>
      decide (m * 2 ^ (e - min e e').toNat ≤ m' * 2 ^ (e' - min e e').toNat)
  | .inf true, y => decide (y ≠ .nan)
  | x, .inf false => decide (x ≠ .nan)
  | .inf false, _ => false
  | .finite _ _, _ => false
  | .nan, _ => false

/-- Two floats compare, unless one of them is `nan`. -/
theorem PyFloat.le_total {x y : PyFloat} (hx : x ≠ .nan) (hy : y ≠ .nan) :
    x.le y = true ∨ y.le x = true := by
  cases x with
  | nan => exact absurd rfl hx
  | inf negative =>
      cases negative with
      | true => exact Or.inl (decide_eq_true hy)
      | false =>
          refine Or.inr ?_
          cases y with
          | nan => exact absurd rfl hy
          | inf negative => cases negative <;> rfl
          | finite m e => rfl
  | finite m e =>
      cases y with
      | nan => exact absurd rfl hy
      | inf negative =>
          cases negative with
          | true => exact Or.inr rfl
          | false => exact Or.inl rfl
      | finite m' e' =>
          rw [PyFloat.le, PyFloat.le, Int.min_comm e' e, decide_eq_true_iff, decide_eq_true_iff]
          exact Int.le_total _ _

/-- What lies between two finite floats is finite. -/
theorem PyFloat.finite_of_le {x : PyFloat} {m e m' e' : Int}
    (hlow : (PyFloat.finite m e).le x = true) (hhigh : x.le (.finite m' e') = true) :
    ∃ n f, x = .finite n f := by
  cases x with
  | nan => cases hlow
  | inf negative =>
      cases negative with
      | true => cases hlow
      | false => cases hhigh
  | finite n f => exact ⟨n, f, rfl⟩

/-- `x <= y` on numbers. -/
def Json.le (x y : Json) : Bool :=
  match x.number?, y.number? with
  | some x, some y => x.le y
  | _, _ => false

/-- The numbers of a JSON text: the integers with at most as many digits as `int` reads, and
floats. -/
inductive Json.IsNumber : Json → Prop
  | int {n : Int} : (Nat.toDigits 10 n.natAbs).length ≤ maxStrDigits → IsNumber (.int n)
  | float (x : PyFloat) : IsNumber (.float x)

end Python

/-- The severities in their order. -/
def severityLevel (severity : String) : Nat := ["low", "medium", "high", "critical"].idxOf severity

/-- An integer of three or more is not followed by a decimal, nor a decimal by an integer of one or
less. -/
def OnOneScale (x y : Json) : Prop :=
  (∀ n f, x = .int n → y = .float f → n ≤ 2) ∧ ∀ f n, x = .float f → y = .int n → 2 ≤ n

/-- The severity of an integer. -/
def severityOfInt (num : Int) : String :=
  if 4 ≤ num then "critical"
  else if num = 3 then "high"
  else if num = 2 then "medium"
  else "low"

/-- The severity of an ASCII text, stripped and in lower case. -/
def severityOfText (val : List Char) : String :=
  match severityKeywords.find? (fun entry =>
      decide (String.ofList val ∈ entry.2) || decide (String.ofList val = entry.1)) with
  | some (severity, _) => severity
  | none =>
      match pyInt .ascii 10 val with
      | some num => severityOfInt num
      | none => "medium"

/-! ## Texts -/

variable {py : PyText}

theorem normalizeSeverity_of_text (hpy : py.OnAscii) {value : Json}
    (hvalue : value.isNull = false) {s : List Char} (htext : value.pyStr py = s)
    (hs : IsAscii s) (hlower : PyText.ascii.lower s = s)
    (hstrip : stripBy PyText.ascii.isSpace s = s) :
    normalizeSeverity py value = severityOfText s := by
  have hstrip' : stripBy py.isSpace s = s :=
    (stripBy_congr (fun c hc => hpy.isSpace c (hs c hc))).trans hstrip
  unfold normalizeSeverity severityOfText
  dsimp only
  rw [hvalue, htext, hpy.lower s hs, hlower, hstrip', hpy.pyInt hs]
  rfl

/-- The text of a number is its own in lower case and stripped. -/
theorem normalizeSeverity_of_chars (hpy : py.OnAscii) {value : Json}
    (hvalue : value.isNull = false) {s : List Char} (htext : value.pyStr py = s)
    (h : ∀ c ∈ s, c ∈ decimalChars) : normalizeSeverity py value = severityOfText s :=
  normalizeSeverity_of_text hpy hvalue htext (isAscii_of_chars h) (lower_of_chars h)
    (strip_of_chars h)

/-- So is that of the severities, and of the floats that are not finite. -/
theorem normalizeSeverity_of_word (hpy : py.OnAscii) {value : Json}
    (hvalue : value.isNull = false) {word : String}
    (hword : word ∈ ["critical", "high", "medium", "low", "inf", "-inf", "nan"])
    (htext : value.pyStr py = word.toList) :
    normalizeSeverity py value = severityOfText word.toList := by
  have hplain : ∀ word ∈ ["critical", "high", "medium", "low", "inf", "-inf", "nan"],
      IsAscii word.toList ∧ PyText.ascii.lower word.toList = word.toList ∧
        stripBy PyText.ascii.isSpace word.toList = word.toList := by decide
  obtain ⟨hascii, hlower, hstrip⟩ := hplain word hword
  exact normalizeSeverity_of_text hpy hvalue htext hascii hlower hstrip

/-- A keyword that is an integer has the severity of the integer. -/
theorem keyword_int : ∀ entry ∈ severityKeywords, ∀ keyword ∈ entry.1 :: entry.2,
    ∀ num ∈ pyInt .ascii 10 keyword.toList, severityOfInt num = entry.1 := by
  decide

theorem keyword_not_decimal : ∀ entry ∈ severityKeywords, ∀ keyword ∈ entry.1 :: entry.2,
    ¬ IsDecimal keyword.toList := by
  decide

theorem keyword_of_find {val : List Char} {entry : String × List String}
    (h : severityKeywords.find? (fun entry =>
      decide (String.ofList val ∈ entry.2) || decide (String.ofList val = entry.1)) = some entry) :
    entry ∈ severityKeywords ∧ String.ofList val ∈ entry.1 :: entry.2 := by
  refine ⟨List.mem_of_find?_eq_some h, ?_⟩
  have hfound := List.find?_some h
  rw [Bool.or_eq_true, decide_eq_true_iff, decide_eq_true_iff] at hfound
  exact List.mem_cons.mpr hfound.symm

/-- What `int` reads has the severity of the number, be it a keyword or not. -/
theorem severityOfText_int {val : List Char} {num : Int} (h : pyInt .ascii 10 val = some num) :
    severityOfText val = severityOfInt num := by
  unfold severityOfText
  split
  · rename_i severity keywords hfind
    obtain ⟨hentry, hkeyword⟩ := keyword_of_find hfind
    have hnum := keyword_int _ hentry _ hkeyword num
    rw [String.toList_ofList] at hnum
    exact (hnum h).symm
  · rw [h]

theorem severityOfText_decimal {val : List Char} (h : IsDecimal val) :
    severityOfText val = "medium" := by
  unfold severityOfText
  split
  · rename_i severity keywords hfind
    obtain ⟨hentry, hkeyword⟩ := keyword_of_find hfind
    have hno := keyword_not_decimal _ hentry _ hkeyword
    rw [String.toList_ofList] at hno
    exact absurd h hno
  · rw [pyInt_decimal h]

/-! ## Numbers -/

theorem normalizeSeverity_int (hpy : py.OnAscii) {n : Int}
    (h : (Nat.toDigits 10 n.natAbs).length ≤ maxStrDigits) :
    normalizeSeverity py (.int n) = severityOfInt n := by
  have htext : (Json.int n).pyStr py = (toString n).toList := rfl
  rw [normalizeSeverity_of_chars hpy rfl htext (toString_chars n)]
  exact severityOfText_int (pyInt_repr n h)

theorem normalizeSeverity_float (hpy : py.OnAscii) (x : PyFloat) :
    normalizeSeverity py (.float x) = "medium" := by
  have htext : (Json.float x).pyStr py = py.floatRepr x := rfl
  cases x with
  | finite m e =>
      have hdecimal := hpy.floatRepr m e
      rw [normalizeSeverity_of_chars hpy rfl htext hdecimal.1]
      exact severityOfText_decimal hdecimal
  | inf negative =>
      cases negative with
      | true => exact normalizeSeverity_of_word hpy rfl (by decide) (htext.trans (hpy.infRepr true))
      | false =>
          exact normalizeSeverity_of_word hpy rfl (by decide) (htext.trans (hpy.infRepr false))
  | nan => exact normalizeSeverity_of_word hpy rfl (by decide) (htext.trans hpy.nanRepr)

/-- A severity is a keyword of itself. -/
theorem normalizeSeverity_idem (hpy : py.OnAscii) (value : Json) :
    normalizeSeverity py (.str (normalizeSeverity py value)) = normalizeSeverity py value := by
  have hself : ∀ word ∈ ["critical", "high", "medium", "low"],
      severityOfText word.toList = word := by decide
  have hmem := normalizeSeverity_mem py value
  rw [normalizeSeverity_of_word hpy rfl (List.mem_append_left ["inf", "-inf", "nan"] hmem) rfl]
  exact hself _ hmem

/-! ## The order -/

theorem severityLevel_int (n : Int) : severityLevel (severityOfInt n) =
    if 4 ≤ n then 3 else if n = 3 then 2 else if n = 2 then 1 else 0 := by
  unfold severityOfInt
  split_ifs <;> decide

theorem le_int {a b : Int} : Json.le (.int a) (.int b) = true ↔ a ≤ b := by
  have hle : Json.le (.int a) (.int b) = decide (a * 2 ^ 0 ≤ b * 2 ^ 0) := rfl
  rw [hle, decide_eq_true_iff, pow_zero, mul_one, mul_one]

theorem severityLevel_mono {a b : Int} (h : a ≤ b) :
    severityLevel (severityOfInt a) ≤ severityLevel (severityOfInt b) := by
  rw [severityLevel_int, severityLevel_int]
  split_ifs <;> omega

theorem onOneScale_ints (a b : Int) : OnOneScale (.int a) (.int b) :=
  ⟨fun _ _ _ h => (by cases h), fun _ _ h => (by cases h)⟩

theorem onOneScale_floats (x y : PyFloat) : OnOneScale (.float x) (.float y) :=
  ⟨fun _ _ h => (by cases h), fun _ _ _ h => (by cases h)⟩

theorem onOneScale_int_float {a : Int} {y : PyFloat} :
    OnOneScale (.int a) (.float y) ↔ a ≤ 2 := by
  constructor
  · intro h
    exact h.1 a y rfl rfl
  · intro h
    refine ⟨?_, fun _ _ hf => (by cases hf)⟩
    intro n f hn _
    cases hn
    exact h

theorem onOneScale_float_int {x : PyFloat} {b : Int} :
    OnOneScale (.float x) (.int b) ↔ 2 ≤ b := by
  constructor
  · intro h
    exact h.2 x b rfl rfl
  · intro h
    refine ⟨fun _ _ hn => (by cases hn), ?_⟩
    intro f n _ hn
    cases hn
    exact h

/-- **Every value has one of the four severities, which is its own, and numbers have them in their
order** except for a decimal and an integer on the wrong side of two. -/
theorem normalizeSeverity_laws (hpy : py.OnAscii) :
    (∀ value, normalizeSeverity py value ∈ ["critical", "high", "medium", "low"] ∧
      normalizeSeverity py (.str (normalizeSeverity py value)) = normalizeSeverity py value) ∧
    ∀ x y : Json, x.IsNumber → y.IsNumber → x.le y = true →
      (severityLevel (normalizeSeverity py x) ≤ severityLevel (normalizeSeverity py y) ↔
        OnOneScale x y) := by
  have hmedium : severityLevel "medium" = 1 := by decide
  refine ⟨fun value => ⟨normalizeSeverity_mem py value, normalizeSeverity_idem hpy value⟩, ?_⟩
  intro x y hx hy hle
  cases hx with
  | @int a ha =>
      rw [normalizeSeverity_int hpy ha]
      cases hy with
      | @int b hb =>
          rw [normalizeSeverity_int hpy hb]
          exact iff_of_true (severityLevel_mono (le_int.mp hle)) (onOneScale_ints a b)
      | float y =>
          rw [normalizeSeverity_float hpy, hmedium, severityLevel_int, onOneScale_int_float]
          split_ifs <;> omega
  | float x =>
      rw [normalizeSeverity_float hpy, hmedium]
      cases hy with
      | @int b hb =>
          rw [normalizeSeverity_int hpy hb, severityLevel_int, onOneScale_float_int]
          split_ifs <;> omega
      | float y =>
          rw [normalizeSeverity_float hpy, hmedium]
          exact iff_of_true le_rfl (onOneScale_floats x y)

/-- One is low and three is high, and two decimals are on one level. -/
theorem one_below_three :
    severityLevel (normalizeSeverity .ascii (.int 1)) ≤
        severityLevel (normalizeSeverity .ascii (.int 3)) ∧
      severityLevel (normalizeSeverity .ascii (.float (.finite 1 (-1)))) ≤
        severityLevel (normalizeSeverity .ascii (.float (.finite 7 (-1)))) := by
  have hlaws := (normalizeSeverity_laws ascii_onAscii).2
  exact ⟨(hlaws (.int 1) (.int 3) (.int (by decide)) (.int (by decide)) (by decide)).mpr
      (onOneScale_ints 1 3),
    (hlaws (.float (.finite 1 (-1))) (.float (.finite 7 (-1))) (.float _) (.float _)
      (by decide)).mpr (onOneScale_floats _ _)⟩

/-- Three is high and three and a half is medium. -/
theorem three_above_a_decimal : ¬ ∀ (py : PyText), py.OnAscii →
    (∀ value, normalizeSeverity py value ∈ ["critical", "high", "medium", "low"] ∧
      normalizeSeverity py (.str (normalizeSeverity py value)) = normalizeSeverity py value) ∧
    ∀ x y : Json, x.IsNumber → y.IsNumber → x.le y = true →
      severityLevel (normalizeSeverity py x) ≤ severityLevel (normalizeSeverity py y) := by
  intro h
  have hle := (h .ascii ascii_onAscii).2 (.int 3) (.float (.finite 7 (-1))) (.int (by decide))
    (.float _) (by decide)
  rw [normalizeSeverity_int ascii_onAscii (by decide), normalizeSeverity_float ascii_onAscii] at hle
  exact absurd hle (by decide)

end OpenSoar
