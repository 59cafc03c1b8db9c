/-
# `OpenSoar.Python.Json` — JSON values as Python holds them

What `json.loads` returns and what a JSONB column stores: a dict is a list of
key/value pairs in insertion order (`dict.get` is `List.lookup`), numbers
are `int` or `float`, `True` is also the number one.  `pyEq` is `==`, `truthy` is
`bool(...)`, `pyStr` is `str(...)`.
-/
import OpenSoar.Python.Text

namespace OpenSoar.Python

inductive Json where
  | null
  | bool (b : Bool)
  | int (n : Int)
  | float (x : PyFloat)
  | str (s : String)
  | arr (items : List Json)
  | obj (fields : List (String × Json))

/-- A dict with string keys. -/
abbrev Dict := List (String × Json)

namespace Json

/-- `value is not None`. -/
def isNull : Json → Bool
  | .null => true
  | _ => false

/-- `bool(value)`. -/
def truthy : Json → Bool
  | .null => false
  | .bool b => b
  | .int n => n != 0
  | .float x => x.truthy
  | .str s => s != ""
  | .arr items => !items.isEmpty
  | .obj fields => !fields.isEmpty

/-- The numbers among the values: an `int`, a `float` or a `bool`. -/
def number? : Json → Option PyFloat
  | .bool b => some (.finite (if b then 1 else 0) 0)
  | .int n => some (.finite n 0)
  | .float x => some x
  | _ => none

/-- The strings among the values. -/
def string? : Json → Option String
  | .str s => some s
  | _ => none

/-- A string or `None`, as a column of text holds it. -/
def ofOption : Option String → Json
  | some s => .str s
  | none => .null

mutual
/-- `a == b`: numbers by value whatever their type, dicts whatever their order. -/
def pyEq : Json → Json → Bool
  | .null, .null => true
  | .str s, .str s' => s == s'
  | .arr xs, .arr ys => pyEqItems xs ys
  | .obj fs, .obj gs => fs.length == gs.length && pyEqFields fs gs
  | .bool b, v => pyEqNumber (.finite (if b then 1 else 0) 0) v
  | .int n, v => pyEqNumber (.finite n 0) v
  | .float x, v => pyEqNumber x v
  | _, _ => false

def pyEqNumber (x : PyFloat) (v : Json) : Bool :=
  match v.number? with
  | some y => x.eq y
  | none => false

def pyEqItems : List Json → List Json → Bool
  | [], [] => true
  | x :: xs, y :: ys => pyEq x y && pyEqItems xs ys
  | _, _ => false

/-- Every field of the first dict is in the second, with an equal value. -/
def pyEqFields : List (String × Json) → List (String × Json) → Bool
  | [], _ => true
  | (k, v) :: fs, gs =>
      (match gs.lookup k with
        | some w => pyEq v w
        | none => false) && pyEqFields fs gs
end

/-- `dict.get(key)`, `None` when the key is absent. -/
def get (d : Dict) (key : String) : Json := (d.lookup key).getD .null

mutual
/-- `repr(value)`. -/
def pyRepr (py : PyText) : Json → List Char
  | .null => "None".toList
  | .bool b => (if b then "True" else "False").toList
  | .int n => (toString n).toList
  | .float x => py.floatRepr x
  | .str s => reprStr py s.toList
  | .arr items => '[' :: (reprItems py items ++ [']'])
  | .obj fields => '\x7b' :: (reprFields py fields ++ ['\x7d'])

def reprItems (py : PyText) : List Json → List Char
  | [] => []
  | [x] => pyRepr py x
  | x :: xs => pyRepr py x ++ (',' :: ' ' :: reprItems py xs)

def reprFields (py : PyText) : List (String × Json) → List Char
  | [] => []
  | [(k, v)] => reprStr py k.toList ++ (':' :: ' ' :: pyRepr py v)
  | (k, v) :: fs =>
      reprStr py k.toList ++ (':' :: ' ' :: pyRepr py v) ++ (',' :: ' ' :: reprFields py fs)
end

/-- `str(value)`: a string is itself, anything else its `repr`. -/
def pyStr (py : PyText) : Json → List Char
  | .str s => s.toList
  | v => pyRepr py v

end Json

end OpenSoar.Python
