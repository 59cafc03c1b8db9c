/-
# `OpenSoar.Lib.Waiting` — parties that wait for each other

A circle is a chain of waits that comes back to where it began.  Among finitely many parties, if
each that is stuck waits for one that is stuck, some wait in a circle (`exists_circle`): a system
that breaks its circles comes to a stop only when nobody is stuck.
-/
import Mathlib.Data.Fintype.Card
import Mathlib.Data.List.Chain
import Mathlib.Order.WellFounded

namespace OpenSoar.Waiting

universe u

variable {κ : Type u} {waits : κ → κ → Prop}

/-- The party waits for the first of the others, each of them for the next, and the last of them
for the party. -/
def Circle (waits : κ → κ → Prop) (p : κ) (others : List κ) : Prop :=
  (p :: (others ++ [p])).IsChain waits

instance [DecidableRel waits] (p : κ) (others : List κ) : Decidable (Circle waits p others) :=
  inferInstanceAs (Decidable (List.IsChain _ _))

/-- Who waits for itself through others stands in a circle. -/
theorem circle_of_transGen {p : κ} (h : Relation.TransGen waits p p) :
    ∃ others, Circle waits p others := by
  obtain ⟨q, hpq, hqp⟩ := Relation.TransGen.head'_iff.mp h
  obtain ⟨rest, hchain, hlast⟩ := List.exists_isChain_cons_of_relationReflTransGen hqp
  have hends : (q :: rest).dropLast ++ [p] = q :: rest := by
    rw [← hlast]
    exact List.dropLast_append_getLast (List.cons_ne_nil q rest)
  refine ⟨(q :: rest).dropLast, ?_⟩
  unfold Circle
  rw [hends]
  exact hchain.cons_cons hpq

/-- **A circle of waits.** -/
theorem exists_circle [Finite κ] {stuck : κ → Prop}
    (h : ∀ p, stuck p → ∃ q, stuck q ∧ waits p q) {p : κ} (hp : stuck p) :
    ∃ q others, Circle waits q others := by
  by_contra hno
  -- without a circle the waits are well-founded, and a last one waits for nobody
  let behind : κ → κ → Prop := fun q p => Relation.TransGen waits p q
  have : IsTrans κ behind := ⟨fun _ _ _ hab hbc => hbc.trans hab⟩
  have : Std.Irrefl behind := ⟨fun q hq => hno ⟨q, circle_of_transGen hq⟩⟩
  obtain ⟨last, hlast, hmin⟩ :=
    (Finite.wellFounded_of_trans_of_irrefl behind).has_min {q | stuck q} ⟨p, hp⟩
  obtain ⟨q, hq, hwaits⟩ := h last hlast
  exact hmin q hq (Relation.TransGen.single hwaits)

end OpenSoar.Waiting
