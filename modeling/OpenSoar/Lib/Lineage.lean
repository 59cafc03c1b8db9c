/-
# `OpenSoar.Lib.Lineage` — marks that tell what belongs together

Records that each belong to an origin and carry a mark.  A new origin is marked with a name drawn
for it, and what comes of an origin later takes its mark over (`Descends`).  As long as no name is
drawn twice, two records carry one mark exactly when they belong to one origin (`Tells`), in every
run (`run_tells`).
-/
import Mathlib.Data.List.Nodup
import Mathlib.Data.Set.Insert
import OpenSoar.Lib.Run

namespace OpenSoar.Lineage

universe u v w x y

/-- What a record tells of itself. -/
structure Tag (κ : Type x) (ν : Type y) where
  origin : κ
  mark : ν

variable {κ : Type x} {ν : Type y} {tags tags' : Set (Tag κ ν)} {drawn : List ν}

/-- The marks tell which records belong together. -/
def Tells (tags : Set (Tag κ ν)) : Prop :=
  ∀ t ∈ tags, ∀ t' ∈ tags, t.mark = t'.mark ↔ t.origin = t'.origin

/-- One operation: what it leaves was there before, but for one origin that it may begin under one
of the names it draws. -/
inductive Descends (tags tags' : Set (Tag κ ν)) (drawn : List ν) : Prop
  | kept : tags' ⊆ tags → Descends tags tags' drawn
  | began (origin : κ) (mark : ν) : mark ∈ drawn → (∀ t ∈ tags, t.origin ≠ origin) →
      tags' ⊆ insert ⟨origin, mark⟩ tags → Descends tags tags' drawn

/-- None of the names is in use. -/
def Unused (names : List ν) (tags : Set (Tag κ ν)) : Prop :=
  ∀ name ∈ names, ∀ t ∈ tags, t.mark ≠ name

theorem Tells.mono (h : Tells tags) (hsub : tags' ⊆ tags) : Tells tags' :=
  fun t ht t' ht' => h t (hsub ht) t' (hsub ht')

/-- A new origin under a new name. -/
theorem Tells.insert {origin : κ} {mark : ν} (h : Tells tags)
    (horigin : ∀ t ∈ tags, t.origin ≠ origin) (hmark : ∀ t ∈ tags, t.mark ≠ mark) :
    Tells (insert ⟨origin, mark⟩ tags) := by
  intro t ht t' ht'
  rcases ht with rfl | ht
  · rcases ht' with rfl | ht'
    · exact iff_of_true rfl rfl
    · exact iff_of_false (fun heq => hmark t' ht' heq.symm) (fun heq => horigin t' ht' heq.symm)
  · rcases ht' with rfl | ht'
    · exact iff_of_false (hmark t ht) (horigin t ht)
    · exact h t ht t' ht'

/-- An operation whose names are not in use. -/
theorem Tells.descends (h : Tells tags) (hunused : Unused drawn tags)
    (hstep : Descends tags tags' drawn) : Tells tags' := by
  cases hstep with
  | kept hsub => exact h.mono hsub
  | began origin mark hdrawn horigin hsub =>
      exact (h.insert horigin (hunused mark hdrawn)).mono hsub

/-- A name that the operation does not draw comes into no use. -/
theorem Unused.descends {names : List ν} (h : Unused names tags)
    (hapart : ∀ name ∈ names, name ∉ drawn) (hstep : Descends tags tags' drawn) :
    Unused names tags' := by
  intro name hname t ht
  cases hstep with
  | kept hsub => exact h name hname t (hsub ht)
  | began origin mark hdrawn horigin hsub =>
      rcases hsub ht with rfl | hold
      · exact fun heq => hapart name hname (heq ▸ hdrawn)
      · exact h name hname t hold

/-- **The run rule.**  In a run that draws no name twice, and none that is in use at its start, the
marks tell what belongs together. -/
theorem run_tells {σ : Type u} {ο : Type v} {ε : Type w} {step : σ → ο → Except ε σ}
    {names : ο → List ν} {tags : σ → Set (Tag κ ν)} {I : σ → Prop}
    (hinv : ∀ s o s', I s → step s o = .ok s' → I s')
    (hstep : ∀ s o s', I s → step s o = .ok s' → Descends (tags s) (tags s') (names o))
    {os : List ο} (hnodup : (os.flatMap names).Nodup) {s : σ} (hs : I s) (htells : Tells (tags s))
    (hunused : Unused (os.flatMap names) (tags s)) : Tells (tags (run step s os)) := by
  induction os generalizing s with
  | nil => exact htells
  | cons o os ih =>
      rw [List.flatMap_cons] at hnodup hunused
      obtain ⟨-, hrest, hdisjoint⟩ := List.nodup_append'.mp hnodup
      have hfirst : Unused (names o) (tags s) :=
        fun name hname => hunused name (List.mem_append_left _ hname)
      have hlater : Unused (os.flatMap names) (tags s) :=
        fun name hname => hunused name (List.mem_append_right _ hname)
      rw [run_cons]
      cases hsuccess : step s o with
      | error e =>
          rw [attempt_error step hsuccess]
          exact ih hrest hs htells hlater
      | ok s' =>
          rw [attempt_ok step hsuccess]
          have hdescends := hstep s o s' hs hsuccess
          exact ih hrest (hinv s o s' hs hsuccess) (htells.descends hfirst hdescends)
            (hlater.descends (fun name hname hdrawn => hdisjoint hdrawn hname) hdescends)

end OpenSoar.Lineage
