/-
# `OpenSoar.Python.Value` — JSON values with the strings of Python

A `str` is a sequence of code points, and half a surrogate pair is one of them: `json.loads`
makes one of an escape such as `\ud800`, and no encoder can write it.  `PyValue` is `Json` over
these strings, for the places where a text that nobody controls is read and written again.

`renders` says which values a response can hold: no `NaN` and no infinity, no half of a pair, and
not nested deeper than the encoder goes.
-/
import OpenSoar.Python.Json

namespace OpenSoar.Python

/-- The code points of a `str`. -/
abbrev PyStr := List Nat

/-- A literal of the program. -/
def PyStr.ofString (s : String) : PyStr := s.toList.map Char.toNat

/-- UTF-8 has no encoding for half a surrogate pair. -/
def PyStr.encodable (s : PyStr) : Bool := s.all (fun c => !(0xd800 ≤ c && c ≤ 0xdfff))

/-- A `Char` is no half of a pair. -/
theorem PyStr.encodable_ofString (s : String) : (PyStr.ofString s).encodable = true := by
  refine List.all_eq_true.mpr (fun c hc => ?_)
  obtain ⟨ch, -, rfl⟩ := List.mem_map.mp hc
  have hvalid : ch.toNat < 0xd800 ∨ 0xdfff < ch.toNat ∧ ch.toNat < 0x110000 := ch.valid
  simp only [Bool.not_eq_true', Bool.and_eq_false_iff, decide_eq_false_iff_not]
  omega

theorem PyStr.encodable_append (s t : PyStr) :
    (s ++ t).encodable = true ↔ s.encodable = true ∧ t.encodable = true := by
  rw [encodable, List.all_append, Bool.and_eq_true, encodable, encodable]

/-- What `json.loads` returns. -/
inductive PyValue where
  | null
  | bool (b : Bool)
  | int (n : Int)
  | float (x : PyFloat)
  | str (s : PyStr)
  | arr (items : List PyValue)
  | obj (fields : List (PyStr × PyValue))

/-- A dict with string keys. -/
abbrev PyDict := List (PyStr × PyValue)

namespace PyDict

/-- `d.get(key)`, where `none` is a key that is not there. -/
def field (d : PyDict) (key : String) : Option PyValue := d.lookup (PyStr.ofString key)

/-- `d[key] = value`: a key that is there keeps its place. -/
def assign (d : PyDict) (key : String) (value : PyValue) : PyDict :=
  if (d.field key).isSome then
    d.map (fun entry => if entry.1 = PyStr.ofString key then (entry.1, value) else entry)
  else d ++ [(PyStr.ofString key, value)]

theorem field_assign (d : PyDict) (key : String) (value : PyValue) :
    (d.assign key value).field key = some value := by
  rw [assign]
  split
  · rename_i hthere
    rw [field] at hthere ⊢
    induction d with
    | nil => cases hthere
    | cons entry d ih =>
        obtain ⟨k, v⟩ := entry
        rw [List.lookup_cons] at hthere
        rw [List.map_cons]
        by_cases hk : k = PyStr.ofString key
        · rw [if_pos hk, List.lookup_cons, beq_iff_eq.mpr hk.symm]
        · have hne : (PyStr.ofString key == k) = false := beq_eq_false_iff_ne.mpr (Ne.symm hk)
          rw [hne] at hthere
          rw [if_neg hk, List.lookup_cons, hne]
          exact ih hthere
  · rename_i hmissing
    have hnone : d.lookup (PyStr.ofString key) = none := Option.not_isSome_iff_eq_none.mp hmissing
    rw [field, List.lookup_append, hnone, Option.none_or, List.lookup_cons, beq_self_eq_true]

end PyDict

namespace PyValue

/-- The value of a field, `default` when it is not there. -/
def getD (d : PyDict) (key : String) (default : PyValue) : PyValue := (d.field key).getD default

/-- The encoder writes the value, if it goes at most this many levels deep. -/
def renders : Nat → PyValue → Bool
  | 0, _ => false
  | _ + 1, .float x =>
      match x with
      | .finite _ _ => true
      | _ => false
  | _ + 1, .str s => s.encodable
  | n + 1, .arr items => items.all (renders n)
  | n + 1, .obj fields => fields.all (fun entry => entry.1.encodable && renders n entry.2)
  | _ + 1, _ => true

theorem renders_ofString (n : Nat) (s : String) :
    renders (n + 1) (.str (PyStr.ofString s)) = true := PyStr.encodable_ofString s

theorem renders_getD {d : PyDict} {key : String} {default : PyValue} {n : Nat}
    (hdefault : default.renders n = true) :
    (getD d key default).renders n = true ↔ ∀ v, d.field key = some v → v.renders n = true := by
  rw [getD]
  cases d.field key with
  | none =>
      refine ⟨fun _ v hv => ?_, fun _ => hdefault⟩
      cases hv
  | some v => exact ⟨fun h w hw => Option.some.inj hw ▸ h, fun h => h v rfl⟩

/-- To write the dict after an assignment, the value that was there before does not matter. -/
theorem renders_assign {d : PyDict} {key : String} {value : PyValue} {n : Nat}
    (hvalue : value.renders n = true) :
    renders (n + 1) (.obj (d.assign key value)) = true ↔
      renders (n + 1) (.obj (d.filter (fun entry => entry.1 ≠ PyStr.ofString key))) = true := by
  have hkey : (PyStr.ofString key).encodable = true := PyStr.encodable_ofString key
  simp only [renders, List.all_eq_true, Bool.and_eq_true, List.mem_filter, decide_eq_true_eq,
    and_imp]
  rw [PyDict.assign]
  split
  · constructor
    · intro h entry hentry hne
      exact h entry (List.mem_map.mpr ⟨entry, hentry, if_neg hne⟩)
    · intro h entry hentry
      obtain ⟨e, he, rfl⟩ := List.mem_map.mp hentry
      by_cases hk : e.1 = PyStr.ofString key
      · rw [if_pos hk]
        exact ⟨hk ▸ hkey, hvalue⟩
      · rw [if_neg hk]
        exact h e he hk
  · rename_i hmissing
    have hnone : ∀ entry ∈ d, entry.1 ≠ PyStr.ofString key := by
      intro entry hentry hk
      have hfound := List.lookup_eq_none_iff.mp (Option.not_isSome_iff_eq_none.mp hmissing) entry
        hentry
      rw [bne_iff_ne] at hfound
      exact hfound hk.symm
    constructor
    · intro h entry hentry _
      exact h entry (List.mem_append_left _ hentry)
    · intro h entry hentry
      rcases List.mem_append.mp hentry with hold | hnew
      · exact h entry hold (hnone entry hold)
      · cases List.mem_singleton.mp hnew
        exact ⟨hkey, hvalue⟩

mutual
/-- A value whose strings are all text. -/
def ofJson : Json → PyValue
  | .null => .null
  | .bool b => .bool b
  | .int n => .int n
  | .float x => .float x
  | .str s => .str (PyStr.ofString s)
  | .arr items => .arr (ofItems items)
  | .obj fields => .obj (ofFields fields)

def ofItems : List Json → List PyValue
  | [] => []
  | item :: items => ofJson item :: ofItems items

def ofFields : List (String × Json) → PyDict
  | [] => []
  | (key, value) :: fields => (PyStr.ofString key, ofJson value) :: ofFields fields
end

end PyValue

end OpenSoar.Python
