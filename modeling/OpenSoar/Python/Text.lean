/-
# `OpenSoar.Python.Text` — the part of Python's `str` the program uses

Text is handled as `List Char` here, where the recursion is, and as `String`
everywhere else.  What depends on the Unicode database, on the printing of a
binary float or on the hash order of a set is a field of `PyText`, so every
statement that mentions one holds whatever the interpreter's tables are; the
algorithms over those tables (`strip`, `int(...)`, `repr`) are written out.

`PyText.ascii` is the interpreter restricted to ASCII text, for runs on
concrete input.
-/
import Mathlib.Algebra.Group.Int.Defs
import Mathlib.Algebra.Group.Nat.Defs
import Mathlib.Data.List.Dedup

namespace OpenSoar.Python

/-- A Python `float`.  A finite one is `mant * 2 ^ exp`, exactly. -/
inductive PyFloat where
  | finite (mant exp : Int)
  | inf (negative : Bool)
  | nan
deriving DecidableEq

namespace PyFloat

/-- `==` on floats: exact comparison of the values, `nan` equal to nothing. -/
def eq : PyFloat → PyFloat → Bool
  | .finite m e, .finite m' e' =>
      m * 2 ^ (e - min e e').toNat == m' * 2 ^ (e' - min e e').toNat
  | .inf s, .inf s' => s == s'
  | _, _ => false

/-- `bool(x)`: zero is the only false float. -/
def truthy : PyFloat → Bool
  | .finite m _ => m != 0
  | _ => true

end PyFloat

/-- What an interpreter's `str` gets from tables: character classes
(`str.isspace`, `str.isdigit`, `unicodedata.decimal`, `str.isprintable`),
`str.lower`, the shortest decimal that reads back as a float, and the order in
which `list(set(xs))` lists the distinct elements of `xs`. -/
structure PyText where
  isSpace : Char → Bool
  isDigit : Char → Bool
  decimal : Char → Option Nat
  isPrintable : Char → Bool
  lower : List Char → List Char
  floatRepr : PyFloat → List Char
  setToList : List String → List String
  setToList_perm : ∀ xs, (setToList xs).Perm xs.dedup

/-! ## Searching and splitting -/

/-- `sub in s`. -/
def contains (sub s : List Char) : Bool := s.tails.any (fun t => sub.isPrefixOf t)

/-- `s.replace(sub, "")` for a non-empty `sub`; the first argument counts the
characters of a match still to be dropped. -/
def removeAll (sub : List Char) : Nat → List Char → List Char
  | _, [] => []
  | k + 1, _ :: cs => removeAll sub k cs
  | 0, c :: cs =>
      if sub.isPrefixOf (c :: cs) then removeAll sub (sub.length - 1) cs
      else c :: removeAll sub 0 cs

/-- `s.strip(chars)`, the characters given by a predicate. -/
def stripBy (p : Char → Bool) (s : List Char) : List Char :=
  ((s.dropWhile p).reverse.dropWhile p).reverse

/-- `s.strip()`. -/
def strip (py : PyText) (s : String) : String := String.ofList (stripBy py.isSpace s.toList)

/-- `s.split(".")`. -/
def splitDots (s : String) : List String := (s.toList.splitOn '.').map String.ofList

/-! ## `int(s, base)` -/

/-- Digits in a base, a single underscore allowed between two of them; the flag
says that the character before was a digit. -/
def readDigits (value : Char → Option Nat) (base : Nat) : Nat → Bool → List Char → Option Nat
  | acc, afterDigit, [] => if afterDigit then some acc else none
  | acc, afterDigit, c :: cs =>
      if c = '_' then
        if afterDigit then readDigits value base acc false cs else none
      else
        match value c with
        | some d => if d < base then readDigits value base (acc * base + d) true cs else none
        | none => none

/-- The value of a digit: a decimal of any script, or an ASCII letter. -/
def digitValue (py : PyText) (c : Char) : Option Nat :=
  match py.decimal c with
  | some d => some d
  | none =>
      if 'a' ≤ c ∧ c ≤ 'z' then some (c.toNat - 'a'.toNat + 10)
      else if 'A' ≤ c ∧ c ≤ 'Z' then some (c.toNat - 'A'.toNat + 10)
      else none

/-- The interpreter's limit on the digits of a decimal conversion. -/
def maxStrDigits : Nat := 4300

/-- The unsigned part of an integer literal: base 16 takes a leading `0x`, base 10
at most `maxStrDigits` digits. -/
def readNatural (py : PyText) (base : Nat) (s : List Char) : Option Nat :=
  match base, s with
  | 16, '0' :: x :: rest =>
      if x = 'x' ∨ x = 'X' then
        match rest with
        | '_' :: digits => readDigits (digitValue py) 16 0 false digits
        | digits => readDigits (digitValue py) 16 0 false digits
      else readDigits (digitValue py) 16 0 false s
  | 10, s =>
      if maxStrDigits < (s.filter (· ≠ '_')).length then none
      else readDigits (digitValue py) 10 0 false s
  | base, s => readDigits (digitValue py) base 0 false s

/-- `int(s, base)`; `none` is the `ValueError`. -/
def pyInt (py : PyText) (base : Nat) (s : List Char) : Option Int :=
  match stripBy py.isSpace s with
  | '-' :: digits => (readNatural py base digits).map (fun n => -(n : Int))
  | '+' :: digits => (readNatural py base digits).map (fun n => (n : Int))
  | digits => (readNatural py base digits).map (fun n => (n : Int))

/-- `s.isdigit()`. -/
def isDigits (py : PyText) (s : List Char) : Bool := !s.isEmpty && s.all py.isDigit

/-! ## `repr(s)` -/

/-- `n` in base 16, at least `width` digits. -/
def hexDigits (width n : Nat) : List Char :=
  let digits := Nat.toDigits 16 n
  List.replicate (width - digits.length) '0' ++ digits

def escapeChar (py : PyText) (quote c : Char) : List Char :=
  if c = quote ∨ c = '\\' then ['\\', c]
  else if c = '\n' then ['\\', 'n']
  else if c = '\r' then ['\\', 'r']
  else if c = '\t' then ['\\', 't']
  else if py.isPrintable c then [c]
  else if c.toNat < 0x100 then '\\' :: 'x' :: hexDigits 2 c.toNat
  else if c.toNat < 0x10000 then '\\' :: 'u' :: hexDigits 4 c.toNat
  else '\\' :: 'U' :: hexDigits 8 c.toNat

/-- `repr` of a string: single quotes unless only those occur in it. -/
def reprStr (py : PyText) (s : List Char) : List Char :=
  let single := Char.ofNat 39
  let quote := if s.contains single && !s.contains '"' then '"' else single
  quote :: (s.flatMap (escapeChar py quote) ++ [quote])

/-! ## The interpreter on ASCII text -/

/-- The decimal expansion of a float, which is also its shortest one while it has
at most fifteen digits and no exponent is printed. -/
def exactDecimal : PyFloat → List Char
  | .nan => "nan".toList
  | .inf negative => (if negative then "-inf" else "inf").toList
  | .finite m e =>
      let sign := if m < 0 then ['-'] else []
      let k := (-e).toNat
      let n := m.natAbs * 2 ^ e.toNat * 5 ^ k
      let frac := Nat.toDigits 10 (n % 10 ^ k)
      let padded := List.replicate (k - frac.length) '0' ++ frac
      let shown := (padded.reverse.dropWhile (· == '0')).reverse
      sign ++ Nat.toDigits 10 (n / 10 ^ k) ++ ('.' :: if shown.isEmpty then ['0'] else shown)

/-- The interpreter on ASCII text; a set lists its elements in the order of their
last occurrence. -/
def PyText.ascii : PyText where
  isSpace c := c = ' ' || ('\t' ≤ c && c ≤ '\r') || (0x1c ≤ c.toNat && c.toNat ≤ 0x1f)
  isDigit c := '0' ≤ c && c ≤ '9'
  decimal c := if '0' ≤ c ∧ c ≤ '9' then some (c.toNat - '0'.toNat) else none
  isPrintable c := ' ' ≤ c && c ≤ '~'
  lower s := s.map (fun c => if 'A' ≤ c ∧ c ≤ 'Z' then Char.ofNat (c.toNat + 32) else c)
  floatRepr := exactDecimal
  setToList := List.dedup
  setToList_perm _ := List.Perm.refl _

end OpenSoar.Python
