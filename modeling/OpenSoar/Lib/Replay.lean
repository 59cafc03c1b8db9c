/-
# `OpenSoar.Lib.Replay` — records rewritten in place, and the logs that tell of it

A record is rewritten by steps `R`, and each step appends entries to a log
(`Rewrites`).  An entry tells how one value of a view of the record becomes the
next; `replay` folds the log over the value the view had at first and fails at an
entry that does not fit the value reached so far.

When every step logs what it does to the view, so does any number of them
(`Rewrites.replay`), whatever invariant the steps need for it.
-/
import Mathlib.Data.List.Basic
import Mathlib.Tactic.Common

namespace OpenSoar

universe u v w

section Replay

variable {τ : Type u} {β : Type v} (f : τ → β → Option τ)

/-- Fold a log over a value; `none` when an entry does not fit. -/
def replay (t : τ) (log : List β) : Option τ := log.foldlM f t

@[simp] theorem replay_nil (t : τ) : replay f t [] = some t := rfl

theorem replay_cons (t : τ) (x : β) (log : List β) :
    replay f t (x :: log) = (f t x).bind (fun t' => replay f t' log) := by
  simp only [replay, List.foldlM_cons]
  rfl

theorem replay_singleton (t : τ) (x : β) : replay f t [x] = f t x := by
  rw [replay_cons]
  cases f t x <;> rfl

theorem replay_append (t : τ) (log log' : List β) :
    replay f t (log ++ log') = (replay f t log).bind (fun t' => replay f t' log') := by
  simp only [replay, List.foldlM_append]
  rfl

theorem replay_append_of_eq {t t' : τ} {log : List β} (h : replay f t log = some t')
    (log' : List β) : replay f t (log ++ log') = replay f t' log' := by
  rw [replay_append, h, Option.bind_some]

/-- Entries that say nothing about the view. -/
theorem replay_ignored {log : List β} (h : ∀ x ∈ log, ∀ t, f t x = some t) (t : τ) :
    replay f t log = some t := by
  induction log with
  | nil => rfl
  | cons x log ih =>
      rw [replay_cons, h x List.mem_cons_self t, Option.bind_some]
      exact ih (fun y hy => h y (List.mem_cons_of_mem x hy))

end Replay

section Rewrites

variable {α : Type u} {β : Type v} (R : α → α → List β → Prop)

/-- Any number of steps, and all that they log. -/
inductive Rewrites (a : α) : α → List β → Prop
  | refl : Rewrites a a []
  | step {a₁ a₂ : α} {log log' : List β} : Rewrites a a₁ log → R a₁ a₂ log' →
      Rewrites a a₂ (log ++ log')

variable {R}

theorem Rewrites.single {a a' : α} {log : List β} (h : R a a' log) : Rewrites R a a' log := by
  have hstep := Rewrites.step (Rewrites.refl (R := R) (a := a)) h
  rwa [List.nil_append] at hstep

theorem Rewrites.trans {a a₁ a₂ : α} {log log' : List β} (h : Rewrites R a a₁ log)
    (h' : Rewrites R a₁ a₂ log') : Rewrites R a a₂ (log ++ log') := by
  induction h' with
  | refl => rwa [List.append_nil]
  | step _ hr ih =>
      rw [← List.append_assoc]
      exact ih.step hr

/-- **The invariant rule for steps.** -/
theorem Rewrites.inv {P : α → Prop} (hstep : ∀ a₁ a₂ log, P a₁ → R a₁ a₂ log → P a₂)
    {a a' : α} {log : List β} (ha : P a) (h : Rewrites R a a' log) : P a' := by
  induction h with
  | refl => exact ha
  | step _ hr ih => exact hstep _ _ _ ih hr

/-- **Steps that log what they do, log it together**: replaying the whole log over the
first view gives the last. -/
theorem Rewrites.replay {τ : Type w} {f : τ → β → Option τ} {view : α → τ} {C : α → Prop}
    (hkeep : ∀ a₁ a₂ log, C a₁ → R a₁ a₂ log → C a₂)
    (hlogs : ∀ a₁ a₂ log, C a₁ → R a₁ a₂ log → replay f (view a₁) log = some (view a₂))
    {a a' : α} {log : List β} (ha : C a) (h : Rewrites R a a' log) :
    OpenSoar.replay f (view a) log = some (view a') := by
  induction h with
  | refl => rfl
  | step hsteps hr ih =>
      have hcond := hsteps.inv hkeep ha
      rw [replay_append_of_eq f ih]
      exact hlogs _ _ _ hcond hr

end Rewrites

end OpenSoar
