/-
# `OpenSoar.Lib.Simulation` — machines that answer alike

A machine is a function `step : σ → ο → β × σ`: an operation applied in a state gives an answer
and the next state.  `outputs` are the answers to a list of operations.

Two machines answer alike when a relation between their states makes each pair of steps give
one answer and end in related states (`outputs_eq`), also on lists whose operations are only
related (`outputs_alike`).  Where only some operations are answered alike, `Meets` restricts the
rule to the lists in which every operation meets a condition in the state that the first machine
is in.

A step that can raise is followed through its binds: `Related R` says of two computations that
they raise the same, or return values that `R` relates.
-/
import Mathlib.Data.List.Forall2

namespace OpenSoar.Simulation

universe u v w x y

section Outputs

variable {σ : Type u} {ο : Type v} {β : Type w} (step : σ → ο → β × σ)

/-- The answers to a list of operations. -/
def outputs : σ → List ο → List β
  | _, [] => []
  | s, o :: os => (step s o).1 :: outputs (step s o).2 os

/-- Every operation meets `C` in the state it is applied to. -/
def Meets (C : σ → ο → Prop) : σ → List ο → Prop
  | _, [] => True
  | s, o :: os => C s o ∧ Meets C (step s o).2 os

end Outputs

theorem Meets.of_forall {σ : Type u} {ο : Type v} {β : Type w} {step : σ → ο → β × σ}
    {C : σ → ο → Prop} (h : ∀ s o, C s o) : ∀ (os : List ο) (s : σ), Meets step C s os
  | [], _ => trivial
  | o :: os, s => ⟨h s o, of_forall h os _⟩

section Rules

variable {σ : Type u} {τ : Type x} {ο : Type v} {ο' : Type y} {β : Type w} {f : σ → ο → β × σ}

/-- **The simulation rule**, with operations that are related. -/
theorem outputs_alike {g : τ → ο' → β × τ} {R : σ → τ → Prop} {C : σ → ο → Prop}
    {Q : ο → ο' → Prop}
    (hstep : ∀ s t o o', R s t → C s o → Q o o' →
      (f s o).1 = (g t o').1 ∧ R (f s o).2 (g t o').2)
    {os : List ο} {os' : List ο'} (hos : List.Forall₂ Q os os') :
    ∀ (s : σ) (t : τ), R s t → Meets f C s os → outputs f s os = outputs g t os' := by
  induction hos with
  | nil => exact fun _ _ _ _ => rfl
  | @cons o o' os os' ho hos ih =>
      intro s t hR hC
      obtain ⟨hanswer, hnext⟩ := hstep s t o o' hR hC.1 ho
      show (f s o).1 :: outputs f (f s o).2 os = (g t o').1 :: outputs g (g t o').2 os'
      rw [hanswer, ih _ _ hnext hC.2]

/-- The simulation rule, on one list of operations. -/
theorem outputs_eq {g : τ → ο → β × τ} {R : σ → τ → Prop} {C : σ → ο → Prop}
    (hstep : ∀ s t o, R s t → C s o → (f s o).1 = (g t o).1 ∧ R (f s o).2 (g t o).2)
    (os : List ο) (s : σ) (t : τ) (hR : R s t) (hC : Meets f C s os) :
    outputs f s os = outputs g t os := by
  refine outputs_alike (Q := Eq) (fun s t o o' hR hC ho => ?_) (List.forall₂_eq_eq_eq ▸ rfl) s t
    hR hC
  subst ho
  exact hstep s t o hR hC

end Rules

/-! ## Steps that can raise -/

section Raising

variable {ε α α' β β' : Type}

/-- Two computations that raise the same, or return related values. -/
inductive Related (R : α → α' → Prop) : Except ε α → Except ε α' → Prop
  | error (e : ε) : Related R (.error e) (.error e)
  | ok {a : α} {a' : α'} : R a a' → Related R (.ok a) (.ok a')

variable {R : α → α' → Prop} {P : β → β' → Prop}

theorem Related.bind {x : Except ε α} {x' : Except ε α'} {k : α → Except ε β}
    {k' : α' → Except ε β'} (hx : Related R x x') (hk : ∀ a a', R a a' → Related P (k a) (k' a')) :
    Related P (x >>= k) (x' >>= k') := by
  cases hx with
  | error e => exact .error e
  | ok h => exact hk _ _ h

/-- A bind whose first computation is one and the same. -/
theorem Related.bind_same {x : Except ε α} {k : α → Except ε β} {k' : α → Except ε β'}
    (hk : ∀ a, Related P (k a) (k' a)) : Related P (x >>= k) (x >>= k') := by
  cases x with
  | error e => exact .error e
  | ok a => exact hk a

end Raising

end OpenSoar.Simulation
