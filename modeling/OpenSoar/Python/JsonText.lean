/-
# `OpenSoar.Python.JsonText` — `json.dumps` and `json.loads`

`dumps` writes a value in ASCII, with the separators of `json.dumps`; an `int` of more digits than
`str` writes cannot be written (`dumps?`).  `loads` reads a text in two passes.  `lex` cuts it into
tokens from left to right; as in `re`, the number in its first argument counts the characters of
a token still to be passed.  A machine with a stack of open arrays and objects (`Expecting`)
takes the tokens one by one, so the error that is raised is the first one of the text.

A nesting too deep for the interpreter's stack is not an error here, and half a surrogate pair,
which is no `Char`, is read as the replacement character.
-/
import OpenSoar.Python.Ascii
import OpenSoar.Python.Json

namespace OpenSoar.Python

/-- The exceptions of `json.loads`: the text is no JSON, an integer has too many digits, or the
nesting is too deep. -/
inductive LoadsError where
  | jsonDecodeError
  | valueError
  | recursionError
deriving DecidableEq

namespace Json

/-! ## Writing -/

/-- `\uXXXX`. -/
def unicodeEscape (u : Nat) : List Char :=
  ['\\', 'u', Nat.digitChar (u / 4096 % 16), Nat.digitChar (u / 256 % 16),
    Nat.digitChar (u / 16 % 16), Nat.digitChar (u % 16)]

/-- The UTF-16 code units of a character. -/
def codeUnits (c : Char) : List Nat :=
  if c.toNat < 0x10000 then [c.toNat]
  else [0xd800 + (c.toNat - 0x10000) / 1024, 0xdc00 + (c.toNat - 0x10000) % 1024]

/-- A character of a string, as `ensure_ascii` writes it. -/
def escaped (c : Char) : List Char :=
  if c = '"' then ['\\', '"']
  else if c = '\\' then ['\\', '\\']
  else if c = '\n' then ['\\', 'n']
  else if c = '\r' then ['\\', 'r']
  else if c = '\t' then ['\\', 't']
  else if c = '\x0c' then ['\\', 'f']
  else if c = '\x08' then ['\\', 'b']
  else if ' ' ≤ c ∧ c ≤ '~' then [c]
  else (codeUnits c).flatMap unicodeEscape

def quoted (s : List Char) : List Char := '"' :: (s.flatMap escaped ++ ['"'])

/-- `float.__repr__`, but for the values that JSON has no text for. -/
def floatText (py : PyText) : PyFloat → List Char
  | .nan => "NaN".toList
  | .inf negative => (if negative then "-Infinity" else "Infinity").toList
  | .finite m e => py.floatRepr (.finite m e)

mutual
/-- `json.dumps(value)`. -/
def dumps (py : PyText) : Json → List Char
  | .null => "null".toList
  | .bool b => (if b then "true" else "false").toList
  | .int n => (toString n).toList
  | .float x => floatText py x
  | .str s => quoted s.toList
  | .arr items => '[' :: (dumpsItems py items ++ [']'])
  | .obj fields => '\x7b' :: (dumpsFields py fields ++ ['\x7d'])

def dumpsItems (py : PyText) : List Json → List Char
  | [] => []
  | [x] => dumps py x
  | x :: xs => dumps py x ++ (',' :: ' ' :: dumpsItems py xs)

def dumpsFields (py : PyText) : List (String × Json) → List Char
  | [] => []
  | [(k, v)] => quoted k.toList ++ (':' :: ' ' :: dumps py v)
  | (k, v) :: fs =>
      quoted k.toList ++ (':' :: ' ' :: dumps py v) ++ (',' :: ' ' :: dumpsFields py fs)
end

mutual
/-- `str` writes every `int` of the value. -/
def writable : Json → Bool
  | .int n => (Nat.toDigits 10 n.natAbs).length ≤ maxStrDigits
  | .arr items => writableItems items
  | .obj fields => writableFields fields
  | _ => true

def writableItems : List Json → Bool
  | [] => true
  | x :: xs => x.writable && writableItems xs

def writableFields : List (String × Json) → Bool
  | [] => true
  | (_, v) :: fs => v.writable && writableFields fs
end

/-- `json.dumps(value)`; `none` is the `ValueError` of an `int` that is too long. -/
def dumps? (py : PyText) (value : Json) : Option (List Char) :=
  if value.writable then some (value.dumps py) else none

/-! ## Tokens -/

inductive JsonToken where
  | openArray
  | closeArray
  | openObject
  | closeObject
  | comma
  | colon
  | str (s : List Char)
  | int (digits : List Char)
  | value (v : Json)
  /-- No token begins here. -/
  | bad

def isJsonSpace (c : Char) : Bool := c == ' ' || c == '\t' || c == '\n' || c == '\r'

/-- `0|[1-9][0-9]*`. -/
def scanNatural : List Char → Option (List Char)
  | [] => none
  | c :: cs =>
      if c = '0' then some ['0']
      else if c.isDigit then some (c :: cs.takeWhile Char.isDigit)
      else none

/-- `-?(?:0|[1-9][0-9]*)`. -/
def scanInteger : List Char → Option (List Char)
  | [] => none
  | c :: cs => if c = '-' then (scanNatural cs).map ('-' :: ·) else scanNatural (c :: cs)

/-- `(\.[0-9]+)?`. -/
def scanFraction : List Char → List Char
  | [] => []
  | c :: cs =>
      let digits := cs.takeWhile Char.isDigit
      if c = '.' ∧ digits ≠ [] then '.' :: digits else []

/-- `[-+]?`. -/
def scanSign : List Char → List Char
  | [] => []
  | c :: _ => if c = '+' ∨ c = '-' then [c] else []

/-- `([eE][-+]?[0-9]+)?`. -/
def scanExponent : List Char → List Char
  | [] => []
  | e :: cs =>
      let sign := scanSign cs
      let digits := (cs.drop sign.length).takeWhile Char.isDigit
      if (e = 'e' ∨ e = 'E') ∧ digits ≠ [] then e :: (sign ++ digits) else []

/-- A number, by `NUMBER_RE`. -/
def scanNumber (readFloat : List Char → PyFloat) (cs : List Char) :
    Option (JsonToken × Nat) := do
  let whole ← scanInteger cs
  let frac := scanFraction (cs.drop whole.length)
  let exp := scanExponent (cs.drop (whole.length + frac.length))
  if frac = [] ∧ exp = [] then pure (.int whole, whole.length)
  else
    let text := whole ++ frac ++ exp
    pure (.value (.float (readFloat text)), text.length)

/-- A hexadecimal digit. -/
def hexDigit? (c : Char) : Option Nat :=
  if '0' ≤ c ∧ c ≤ '9' then some (c.toNat - '0'.toNat)
  else if 'a' ≤ c ∧ c ≤ 'f' then some (c.toNat - 'a'.toNat + 10)
  else if 'A' ≤ c ∧ c ≤ 'F' then some (c.toNat - 'A'.toNat + 10)
  else none

/-- Four of them. -/
def hexUnit? (a b c d : Char) : Option Nat := do
  let a ← hexDigit? a
  let b ← hexDigit? b
  let c ← hexDigit? c
  let d ← hexDigit? d
  pure (((a * 16 + b) * 16 + c) * 16 + d)

/-- The character after a backslash, other than `u`. -/
def unescape? (c : Char) : Option Nat :=
  if c = '"' ∨ c = '\\' ∨ c = '/' then some c.toNat
  else if c = 'n' then some 10
  else if c = 'r' then some 13
  else if c = 't' then some 9
  else if c = 'f' then some 12
  else if c = 'b' then some 8
  else none

/-- What stands in a string up to its closing quote, and how many characters that takes. -/
def scanUnits : List Char → Option (List Nat × Nat)
  | [] => none
  | c :: cs =>
      if c = '"' then some ([], 1)
      else if c = '\\' then
        match cs with
        | 'u' :: h₁ :: h₂ :: h₃ :: h₄ :: rest =>
            match hexUnit? h₁ h₂ h₃ h₄, scanUnits rest with
            | some u, some (us, n) => some (u :: us, n + 6)
            | _, _ => none
        | e :: rest =>
            match unescape? e, scanUnits rest with
            | some u, some (us, n) => some (u :: us, n + 2)
            | _, _ => none
        | [] => none
      else if c.toNat < 0x20 then none
      else (scanUnits cs).map (fun p => (c.toNat :: p.1, p.2 + 1))

def isHigh (u : Nat) : Bool := 0xd800 ≤ u && u ≤ 0xdbff

def isLow (u : Nat) : Bool := 0xdc00 ≤ u && u ≤ 0xdfff

/-- A unit that is not half of a pair. -/
def unitChar (u : Nat) : Char := if isHigh u || isLow u then '\uFFFD' else Char.ofNat u

/-- Pairs of units are joined. -/
def joinUnits : List Nat → List Char
  | [] => []
  | [u] => [unitChar u]
  | u :: l :: us =>
      if isHigh u && isLow l then
        Char.ofNat (0x10000 + (u - 0xd800) * 1024 + (l - 0xdc00)) :: joinUnits us
      else unitChar u :: joinUnits (l :: us)

/-- The words, with what they stand for. -/
def words : List (List Char × Json) :=
  [("null".toList, .null), ("true".toList, .bool true), ("false".toList, .bool false),
    ("NaN".toList, .float .nan), ("Infinity".toList, .float (.inf false)),
    ("-Infinity".toList, .float (.inf true))]

/-- The token that begins here, and its length. -/
def tokenAt (readFloat : List Char → PyFloat) : List Char → Option (JsonToken × Nat)
  | [] => none
  | c :: cs =>
      if c = '[' then some (.openArray, 1)
      else if c = ']' then some (.closeArray, 1)
      else if c = '\x7b' then some (.openObject, 1)
      else if c = '\x7d' then some (.closeObject, 1)
      else if c = ',' then some (.comma, 1)
      else if c = ':' then some (.colon, 1)
      else if c = '"' then (scanUnits cs).map (fun p => (.str (joinUnits p.1), p.2 + 1))
      else
        match words.find? (fun word => word.1.isPrefixOf (c :: cs)) with
        | some (word, v) => some (.value v, word.length)
        | none => scanNumber readFloat (c :: cs)

/-- The tokens of a text, up to where none begins. -/
def lex (readFloat : List Char → PyFloat) : Nat → List Char → List JsonToken
  | _, [] => []
  | k + 1, _ :: cs => lex readFloat k cs
  | 0, c :: cs =>
      if isJsonSpace c then lex readFloat 0 cs
      else
        match tokenAt readFloat (c :: cs) with
        | some (token, n) => token :: lex readFloat (n - 1) cs
        | none => [.bad]

/-! ## Reading -/

/-- An array or an object that is open: its items in reverse, or its fields and the key whose
value is being read. -/
inductive Frame where
  | array (items : List Json)
  | object (fields : Dict) (key : String)

/-- What may come next, inside of the open arrays and objects. -/
inductive Expecting where
  | value (frames : List Frame)
  | valueOrClose (frames : List Frame)
  | afterItem (items : List Json) (frames : List Frame)
  | keyOrClose (frames : List Frame)
  | key (fields : Dict) (frames : List Frame)
  | colon (fields : Dict) (key : String) (frames : List Frame)
  | afterField (fields : Dict) (frames : List Frame)
  | done (v : Json)

/-- `fields[key] = value`: a key keeps its place. -/
def assign (fields : Dict) (key : String) (value : Json) : Dict :=
  if (fields.lookup key).isSome then
    fields.map (fun field => if field.1 = key then (key, value) else field)
  else fields ++ [(key, value)]

/-- A value is complete. -/
def deliver (v : Json) : List Frame → Expecting
  | [] => .done v
  | .array items :: frames => .afterItem (v :: items) frames
  | .object fields key :: frames => .afterField (assign fields key v) frames

/-- A value begins. -/
def beginValue (frames : List Frame) : JsonToken → Except LoadsError Expecting
  | .value v => .ok (deliver v frames)
  | .str s => .ok (deliver (.str (String.ofList s)) frames)
  | .int digits =>
      match pyInt .ascii 10 digits with
      | some n => .ok (deliver (.int n) frames)
      | none => .error .valueError
  | .openArray => .ok (.valueOrClose frames)
  | .openObject => .ok (.keyOrClose frames)
  | _ => .error .jsonDecodeError

/-- The next token. -/
def readToken : Expecting → JsonToken → Except LoadsError Expecting
  | .value frames, t => beginValue frames t
  | .valueOrClose frames, .closeArray => .ok (deliver (.arr []) frames)
  | .valueOrClose frames, t => beginValue (.array [] :: frames) t
  | .afterItem items frames, .comma => .ok (.value (.array items :: frames))
  | .afterItem items frames, .closeArray => .ok (deliver (.arr items.reverse) frames)
  | .keyOrClose frames, .closeObject => .ok (deliver (.obj []) frames)
  | .keyOrClose frames, .str s => .ok (.colon [] (String.ofList s) frames)
  | .key fields frames, .str s => .ok (.colon fields (String.ofList s) frames)
  | .colon fields key frames, .colon => .ok (.value (.object fields key :: frames))
  | .afterField fields frames, .comma => .ok (.key fields frames)
  | .afterField fields frames, .closeObject => .ok (deliver (.obj fields) frames)
  | _, _ => .error .jsonDecodeError

/-- `json.loads(text)`. -/
def loads (readFloat : List Char → PyFloat) (text : List Char) : Except LoadsError Json :=
  match (lex readFloat 0 text).foldlM readToken (.value []) with
  | .ok (.done v) => .ok v
  | .ok _ => .error .jsonDecodeError
  | .error e => .error e

end Json

end OpenSoar.Python
