/-
# `OpenSoar.Python.Floats` — the arithmetic the statistics are computed in

What the program computes with `float` is written once, over the operations of a
`FloatOps`: nothing is assumed of them, so a statement for every `FloatOps` holds of binary
floats and of the exact reals alike, and one that needs exact arithmetic names it.

`FloatOps.decimal` computes with rationals, roots to six decimals, for runs on concrete input.
-/
import Mathlib.Data.Rat.Floor

namespace OpenSoar.Python

/-- The operations on numbers of type `F`. -/
structure FloatOps (F : Type) where
  ofInt : Int → F
  add : F → F → F
  sub : F → F → F
  mul : F → F → F
  div : F → F → F
  /-- `math.sqrt`. -/
  sqrt : F → F
  /-- `math.inf`. -/
  inf : F
  isFinite : F → Bool
  eq : F → F → Bool
  lt : F → F → Bool

namespace FloatOps

variable {F : Type} (ops : FloatOps F)

/-- `sum(values)`. -/
def sum (values : List F) : F := values.foldl ops.add (ops.ofInt 0)

/-- `sum(values) / len(values)`. -/
def mean (values : List F) : F := ops.div (ops.sum values) (ops.ofInt values.length)

end FloatOps

/-- Rationals with a point at infinity. -/
def FloatOps.decimal : FloatOps (WithTop ℚ) where
  ofInt n := ((n : ℚ) : WithTop ℚ)
  add x y := x + y
  sub x y :=
    match x, y with
    | some x, some y => some (x - y)
    | _, _ => ⊤
  mul x y :=
    match x, y with
    | some x, some y => some (x * y)
    | _, _ => ⊤
  div x y :=
    match x, y with
    | some x, some y => some (x / y)
    | _, _ => ⊤
  sqrt x :=
    match x with
    | some x => some ((Nat.sqrt (⌊x * 10 ^ 12⌋.toNat) : ℚ) / 10 ^ 6)
    | none => ⊤
  inf := ⊤
  isFinite x := x ≠ ⊤
  eq x y := x = y
  lt x y := x < y

end OpenSoar.Python
