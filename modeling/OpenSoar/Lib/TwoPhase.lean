/-
# `OpenSoar.Lib.TwoPhase` — records that are marked first and swept later

A store holds records under keys.  Some of them are *final*; a first pass marks final
records, a later pass sweeps marked ones, and between the two the records are edited
like any other.  `Fate` is what one operation can do to the record under a key.

The sweep looks at the mark alone.  What it removes is final as long as no operation
takes a marked record out of its final state: `swept_is_final` is that rule, for every
run of a system whose operations are such fates on every key.

A mark may be a stamp that says when it was set.  `Stamped` is what an operation can do to
a record and its stamp; where nothing is stamped at the beginning, what is swept was
archived by an operation of the same run, with the stamp that the sweep has looked at
(`swept_was_archived`).

Nothing here knows what a record is, what marks it or when a mark is old enough.
-/
import OpenSoar.Lib.Run

namespace OpenSoar

universe u v w x y z

namespace TwoPhase

variable {α : Type u} (marked final : α → Prop) (reopens : Prop)

/-- One operation, seen from the record under one key; an edit that takes a marked record
out of its final state `reopens`. -/
inductive Fate : Option α → Option α → Prop
  | absent : Fate none none
  | added {a : α} : ¬ marked a → Fate none (some a)
  | edited {a a' : α} : (marked a' → marked a) → (marked a → final a → final a' ∨ reopens) →
      Fate (some a) (some a')
  | archived {a a' : α} : final a → final a' → Fate (some a) (some a')
  | swept {a : α} : marked a ∨ final a → Fate (some a) none

/-- The record, if there is one, is final when it is marked. -/
def Sound (o : Option α) : Prop := ∀ a, o = some a → marked a → final a

variable {marked final reopens}

/-- A record that the operation leaves alone. -/
theorem Fate.kept (o : Option α) : Fate marked final reopens o o := by
  cases o with
  | none => exact .absent
  | some a => exact .edited id (fun _ hfinal => Or.inl hfinal)

theorem Fate.sound {o o' : Option α} (h : Fate marked final reopens o o')
    (hsound : Sound marked final o) (hkeep : ¬ reopens) : Sound marked final o' := by
  intro b hb hmarked
  cases h with
  | absent => cases hb
  | added hnew =>
      cases hb
      exact absurd hmarked hnew
  | edited hmark hedit =>
      cases hb
      have hbefore := hmark hmarked
      exact (hedit hbefore (hsound _ rfl hbefore)).resolve_right hkeep
  | archived _ hfinal =>
      cases hb
      exact hfinal
  | swept _ => cases hb

theorem Fate.swept_final {a : α} (h : Fate marked final reopens (some a) none)
    (hsound : Sound marked final (some a)) : final a := by
  cases h with
  | swept hgone =>
      rcases hgone with hmarked | hfinal
      · exact hsound a rfl hmarked
      · exact hfinal

section Runs

variable {σ : Type v} {ο : Type w} {ε : Type x} {ι : Type y} {step : σ → ο → Except ε σ}
  (look : σ → ι → Option α) {Reopens : σ → ο → Prop}

/-- **What is swept is final**, in every run none of whose operations reopens. -/
theorem swept_is_final
    (hfate : ∀ s o s', step s o = .ok s' →
      ∀ i, Fate marked final (Reopens s o) (look s i) (look s' i))
    {s : σ} {os : List ο} (hsound : ∀ i, Sound marked final (look s i))
    (hkeep : Along step (fun s o => ¬ Reopens s o) s os) :
    ∀ x ∈ trace step s os, ∀ i a, look x.before i = some a → look x.after i = none → final a := by
  intro x hx i a hbefore hafter
  have hstart : ∀ i, Sound marked final (look x.before i) := by
    refine trace_inv step (I := fun s => ∀ i, Sound marked final (look s i)) ?_ hsound hkeep x hx
    intro s o s' hs hreopens h i
    exact (hfate s o s' h i).sound (hs i) hreopens
  have hfate := hfate x.before x.op x.after (step_of_mem_trace step hx) i
  have hsound := hstart i
  rw [hbefore, hafter] at hfate
  rw [hbefore] at hsound
  exact hfate.swept_final hsound

end Runs

/-! ## Stamps -/

variable {τ : Type z} (stamp : α → Option τ) (archives : α → τ → Prop) (sweeps : τ → Prop)

/-- One operation, seen from the record under one key: only archiving sets a stamp, and a
record goes when its stamp is one to be swept. -/
inductive Stamped : Option α → Option α → Prop
  | absent : Stamped none none
  | added {a : α} : stamp a = none → Stamped none (some a)
  | edited {a a' : α} : stamp a' = stamp a → Stamped (some a) (some a')
  | archived {a a' : α} {t : τ} : archives a t → stamp a' = some t → Stamped (some a) (some a')
  | swept {a : α} {t : τ} : stamp a = some t → sweeps t → Stamped (some a) none
  | atOnce {a : α} {t : τ} : archives a t → sweeps t → Stamped (some a) none

variable {stamp archives sweeps}

theorem Stamped.kept (o : Option α) : Stamped stamp archives sweeps o o := by
  cases o with
  | none => exact .absent
  | some a => exact .edited rfl

section Runs

variable {σ : Type v} {ο : Type w} {ε : Type x} {ι : Type y} {step : σ → ο → Except ε σ}
  (look : σ → ι → Option α) {Archives : ο → α → τ → Prop} {Sweeps : ο → τ → Prop}

/-- One of these operations archived the record under this key with this stamp. -/
def ArchivedIn (look : σ → ι → Option α) (Archives : ο → α → τ → Prop)
    (past : List (Accepted σ ο)) (i : ι) (t : τ) : Prop :=
  ∃ y ∈ past, ∃ b, look y.before i = some b ∧ Archives y.op b t

/-- **What is swept was archived in the same run.** -/
theorem swept_was_archived
    (hfate : ∀ s o s', step s o = .ok s' →
      ∀ i, Stamped stamp (Archives o) (Sweeps o) (look s i) (look s' i))
    {s : σ} {os : List ο} (hstart : ∀ i a, look s i = some a → stamp a = none)
    {before after : List (Accepted σ ο)} {x : Accepted σ ο}
    (h : trace step s os = before ++ x :: after) {i : ι} {a : α}
    (hbefore : look x.before i = some a) (hafter : look x.after i = none) :
    ∃ t, Sweeps x.op t ∧
      ((stamp a = some t ∧ ArchivedIn look Archives before i t) ∨ Archives x.op a t) := by
  have hhistory : ∀ i a t, look x.before i = some a → stamp a = some t →
      ArchivedIn look Archives before i t := by
    refine trace_history step
      (I := fun past s => ∀ i a t, look s i = some a → stamp a = some t →
        ArchivedIn look Archives past i t) ?_ ?_ h
    · intro past s o s' hpast hstep i a' t ha' ht
      have hone := hfate s o s' hstep i
      rw [ha'] at hone
      generalize hlook : look s i = old at hone
      cases hone with
      | added hnew =>
          rw [hnew] at ht
          cases ht
      | edited hsame =>
          rw [hsame] at ht
          obtain ⟨y, hy, hrest⟩ := hpast i _ t hlook ht
          exact ⟨y, List.mem_append_left _ hy, hrest⟩
      | archived harchives hstamp =>
          cases hstamp.symm.trans ht
          exact ⟨_, List.mem_append_right _ (List.mem_singleton.mpr rfl), _, hlook, harchives⟩
    · intro i a t ha ht
      rw [hstart i a ha] at ht
      cases ht
  have hone := hfate x.before x.op x.after
    (step_of_mem_trace step (h ▸ List.mem_append_right _ List.mem_cons_self)) i
  rw [hbefore, hafter] at hone
  cases hone with
  | swept hstamp hsweeps => exact ⟨_, hsweeps, Or.inl ⟨hstamp, hhistory i a _ hbefore hstamp⟩⟩
  | atOnce harchives hsweeps => exact ⟨_, hsweeps, Or.inr harchives⟩

end Runs

end TwoPhase

end OpenSoar
