/-
# `OpenSoar.Python.Dynamic` — operators on values whose type is not known

What a script does with the values of a file that it has loaded: `get` with a default, `or`, loops,
indices, slices, `+=`, and dicts whose keys are such values.  An operator that meets a value of
another type than it needs raises.
-/
import OpenSoar.Python.Json
import OpenSoar.Lib.Run

namespace OpenSoar.Python

/-- The exceptions of the operators. -/
inductive OperatorError where
  | typeError
  | attributeError
  | keyError
  | indexError
deriving DecidableEq

namespace Json

/-- `dict.get(key, default)`. -/
def getD (d : Dict) (key : String) (default : Json) : Json := (d.lookup key).getD default

/-- `value or other`. -/
def orElse (value other : Json) : Json := if value.truthy then value else other

/-- What an f-string makes of a value. -/
def text (py : PyText) (value : Json) : String := String.ofList (value.pyStr py)

/-- `[value]` when the value is there, under a label. -/
def labelled (py : PyText) (label : String) (value : Json) : List Json :=
  if value.truthy then [.str (label ++ value.text py)] else []

/-- The characters of a string, as strings. -/
def characters (s : String) : List Json := s.toList.map (fun c => .str (String.singleton c))

/-- The value as a dict; no other value has its methods. -/
def asDict : Json → Except OperatorError Dict
  | .obj fields => .ok fields
  | _ => .error .attributeError

/-- `for item in value`, and `list(value)`. -/
def elements : Json → Except OperatorError (List Json)
  | .arr items => .ok items
  | .str s => .ok (characters s)
  | .obj fields => .ok (fields.map (fun field => .str field.1))
  | _ => .error .typeError

/-- A loop over dicts. -/
def dicts (value : Json) : Except OperatorError (List Dict) := do
  let items ← value.elements
  items.mapM asDict

/-- `value[0]`. -/
def first : Json → Except OperatorError Json
  | .arr [] => .error .indexError
  | .arr (item :: _) => .ok item
  | .str s =>
      match characters s with
      | [] => .error .indexError
      | c :: _ => .ok c
  | .obj _ => .error .keyError
  | _ => .error .typeError

/-- `value[:n]`. -/
def firstN (n : Nat) : Json → Except OperatorError Json
  | .arr items => .ok (.arr (items.take n))
  | .str s => .ok (.str (String.ofList (s.toList.take n)))
  | .obj _ => .error .keyError
  | _ => .error .typeError

/-- `value += text`; a list takes the characters one by one. -/
def extended (value : Json) (more : String) : Except OperatorError Json :=
  match value with
  | .str s => .ok (.str (s ++ more))
  | .arr items => .ok (.arr (items ++ characters more))
  | _ => .error .typeError

/-! ## Dicts with keys of any type -/

def hashable : Json → Bool
  | .arr _ => false
  | .obj _ => false
  | _ => true

/-- `mapping.get(key)`. -/
def lookupKey {α : Type} (mapping : List (Json × α)) (key : Json) :
    Except OperatorError (Option α) :=
  if key.hashable then .ok ((mapping.find? (fun entry => entry.1.pyEq key)).map Prod.snd)
  else .error .typeError

/-- `mapping[key] = value`. -/
def assignKey {α : Type} (mapping : List (Json × α)) (key : Json) (value : α) :
    Except OperatorError (List (Json × α)) :=
  if key.hashable then .ok ((key, value) :: mapping.filter (fun entry => !entry.1.pyEq key))
  else .error .typeError

theorem lookupKey_nil {α : Type} {key : Json} {found : Option α}
    (h : lookupKey [] key = .ok found) : found = none := by
  unfold lookupKey at h
  split at h
  · cases h
    rfl
  · cases h

end Json

end OpenSoar.Python
