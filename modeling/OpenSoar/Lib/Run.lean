/-
# `OpenSoar.Lib.Run` — runs of a system whose operations may fail

A system is a function `step : σ → ο → Except ε σ`: an operation applied in a
state either produces the next state or raises, and an operation that raises
leaves the state as it found it (`attempt`).  A run folds `attempt` over a
list of operations, so a property of the final state of every run is a
property of every reachable state.

Six induction rules carry everything that is proved about runs:

* `run_inv` — an invariant that every successful step keeps holds after every
  run; `Along` restricts the rule to the runs whose operations all meet a
  condition in the state they are applied to;
* `throughout_iff_of_inv` — the condition that operations have to meet for a property to hold
  throughout a run (`throughout_iff` where the property is its own invariant);
* `run_inv_rise` — an invariant with a ghost, the label (for instance the time) of
  the last operation at which a predicate went from false to true;
* `run_inv_clock` — the same for the runs whose labels never go back;
* `run_log_along` — a log that every success appends to is, after a run, what the accepted
  operations (`trace`) appended;
* `trace_history` — an invariant that relates a state to the accepted operations that
  led to it.
-/
import Mathlib.Logic.Basic
import Mathlib.Data.List.Basic
import Mathlib.Data.List.Forall2
import Mathlib.Order.Defs.PartialOrder
import Mathlib.Tactic.Common

namespace OpenSoar

universe u v w x

/-- A bind that succeeds, taken apart. -/
theorem bind_ok {ε : Type u} {α β : Type v} {a : Except ε α} {f : α → Except ε β} {b : β}
    (h : (a >>= f) = .ok b) : ∃ x, a = .ok x ∧ f x = .ok b := by
  cases a with
  | error e => cases h
  | ok x => exact ⟨x, rfl, h⟩

/-- A bind that raises, taken apart. -/
theorem bind_error {ε : Type u} {α β : Type v} {a : Except ε α} {f : α → Except ε β} {e : ε}
    (h : (a >>= f) = .error e) : a = .error e ∨ ∃ x, a = .ok x ∧ f x = .error e := by
  cases a with
  | error e' => cases h; exact Or.inl rfl
  | ok x => exact Or.inr ⟨x, rfl, h⟩

/-- A bind of what returns goes on with its value. -/
theorem bind_of_ok {ε : Type u} {α β : Type v} {a : Except ε α} {f : α → Except ε β} {x : α}
    (h : a = .ok x) : (a >>= f) = f x := by
  rw [h]
  rfl

/-- A bind of what returns, and goes on to return. -/
theorem bind_returns {ε : Type u} {α β : Type v} {a : Except ε α} {f : α → Except ε β} {x : α}
    (h : a = .ok x) (hf : ∃ b, f x = .ok b) : ∃ b, (a >>= f) = .ok b := by
  rw [h]
  exact hf

/-- The computation does not raise. -/
def Returns {ε : Type u} {α : Type v} (a : Except ε α) : Prop := ∃ x, a = .ok x

theorem returns_ok {ε : Type u} {α : Type v} (x : α) : Returns (.ok x : Except ε α) := ⟨x, rfl⟩

theorem not_returns_error {ε : Type u} {α : Type v} (e : ε) :
    ¬ Returns (.error e : Except ε α) := by
  rintro ⟨x, h⟩
  cases h

/-- A computation that does not return raises. -/
theorem not_returns {ε : Type u} {α : Type v} {a : Except ε α} :
    ¬ Returns a ↔ ∃ e, a = .error e := by
  cases a with
  | error e => exact iff_of_true (not_returns_error e) ⟨e, rfl⟩
  | ok x => exact iff_of_false (fun h => h (returns_ok x)) (fun ⟨_, h⟩ => nomatch h)

theorem returns_bind {ε : Type u} {α β : Type v} {a : Except ε α} {f : α → Except ε β} :
    Returns (a >>= f) ↔ ∃ x, a = .ok x ∧ Returns (f x) := by
  constructor
  · rintro ⟨b, h⟩
    obtain ⟨x, ha, hf⟩ := bind_ok h
    exact ⟨x, ha, b, hf⟩
  · rintro ⟨x, ha, hf⟩
    exact bind_returns ha hf

/-- A map that succeeds, taken apart. -/
theorem map_ok {ε : Type u} {α β : Type v} {a : Except ε α} {f : α → β} {b : β}
    (h : a.map f = .ok b) : ∃ x, a = .ok x ∧ f x = b := by
  cases a with
  | error e => cases h
  | ok x => cases h; exact ⟨x, rfl, rfl⟩

/-- A change of the error that succeeds had none. -/
theorem mapError_ok {ε ε' : Type u} {α : Type v} {a : Except ε α} {f : ε → ε'} {b : α}
    (h : a.mapError f = .ok b) : a = .ok b := by
  cases a with
  | error e => cases h
  | ok x => cases h; rfl

/-- What a monadic map returns: for each element, in order, what its call returns. -/
theorem mapM_forall₂ {ε : Type u} {α β : Type v} {f : α → Except ε β} {xs : List α}
    {ys : List β} : xs.mapM f = .ok ys ↔ List.Forall₂ (fun x y => f x = .ok y) xs ys := by
  induction xs generalizing ys with
  | nil =>
      rw [List.forall₂_nil_left_iff]
      exact ⟨fun h => (Except.ok.inj h).symm, fun h => congrArg Except.ok h.symm⟩
  | cons x xs ih =>
      rw [List.mapM_cons, List.forall₂_cons_left_iff]
      constructor
      · intro h
        obtain ⟨y, hy, hrest⟩ := bind_ok h
        obtain ⟨ys', hys, hpure⟩ := bind_ok hrest
        exact ⟨y, ys', hy, ih.mp hys, (Except.ok.inj hpure).symm⟩
      · rintro ⟨y, ys', hy, hys, rfl⟩
        rw [bind_of_ok hy, bind_of_ok (ih.mpr hys)]
        rfl

/-- A monadic fold that succeeds keeps what each of its steps keeps. -/
theorem foldlM_inv {ε : Type u} {α β : Type v} {f : β → α → Except ε β} {P : β → Prop}
    (hstep : ∀ acc a acc', P acc → f acc a = .ok acc' → P acc') {xs : List α} {acc acc' : β}
    (hP : P acc) (h : xs.foldlM f acc = .ok acc') : P acc' := by
  induction xs generalizing acc with
  | nil => cases h; exact hP
  | cons a xs ih =>
      rw [List.foldlM_cons] at h
      obtain ⟨next, hnext, hrest⟩ := bind_ok h
      exact ih (hstep acc a next hP hnext) hrest

/-- A preorder that each step of a monadic fold respects relates its two ends. -/
theorem foldlM_related {ε : Type u} {α β : Type v} {f : β → α → Except ε β} {R : β → β → Prop}
    [IsPreorder β R] (hstep : ∀ acc a acc', f acc a = .ok acc' → R acc acc') {xs : List α}
    {acc acc' : β} (h : xs.foldlM f acc = .ok acc') : R acc acc' :=
  foldlM_inv (P := R acc) (fun _ a _ hacc ha => trans_of R hacc (hstep _ a _ ha))
    (refl_of R acc) h

section Run

variable {σ : Type u} {ο : Type v} {ε : Type w} (step : σ → ο → Except ε σ)

/-- One operation of a run: the state it produces, or the state it was given
when it raises. -/
def attempt (s : σ) (o : ο) : σ :=
  match step s o with
  | .ok s' => s'
  | .error _ => s

/-- The state after a list of operations. -/
def run (s : σ) (os : List ο) : σ := os.foldl (attempt step) s

/-- Every operation of the run meets `C` in the state it is applied to. -/
def Along (C : σ → ο → Prop) : σ → List ο → Prop
  | _, [] => True
  | s, o :: os => C s o ∧ Along C (attempt step s o) os

theorem attempt_ok {s s' : σ} {o : ο} (h : step s o = .ok s') : attempt step s o = s' := by
  simp [attempt, h]

theorem attempt_error {s : σ} {o : ο} {e : ε} (h : step s o = .error e) :
    attempt step s o = s := by
  simp [attempt, h]

theorem ok_attempt {s : σ} {o : ο} (h : (step s o).isOk = true) :
    step s o = .ok (attempt step s o) := by
  cases hstep : step s o with
  | ok s' => rw [attempt_ok step hstep]
  | error e =>
      rw [hstep] at h
      cases h

/-- What holds of the state before, and of the state any success produces, holds
after an attempt. -/
theorem attempt_inv {s : σ} {o : ο} {P : σ → Prop} (hs : P s)
    (hok : ∀ s', step s o = .ok s' → P s') : P (attempt step s o) := by
  cases h : step s o with
  | error e => rw [attempt_error step h]; exact hs
  | ok s' => rw [attempt_ok step h]; exact hok s' h

@[simp] theorem run_cons (s : σ) (o : ο) (os : List ο) :
    run step s (o :: os) = run step (attempt step s o) os := rfl

theorem run_append (s : σ) (os os' : List ο) :
    run step s (os ++ os') = run step (run step s os) os' := List.foldl_append

theorem along_append {C : σ → ο → Prop} {os os' : List ο} {s : σ} :
    Along step C s (os ++ os') ↔ Along step C s os ∧ Along step C (run step s os) os' := by
  induction os generalizing s with
  | nil => exact ⟨fun h => ⟨trivial, h⟩, fun h => h.2⟩
  | cons o os ih =>
      show C s o ∧ Along step C (attempt step s o) (os ++ os') ↔ _
      rw [ih, run_cons, ← and_assoc]
      rfl

/-- **The invariant rule.**  What every successful step keeps, under a condition
on the operation and the state it meets, holds after every run whose operations
meet that condition. -/
theorem run_inv {I : σ → Prop} {C : σ → ο → Prop}
    (hstep : ∀ s o s', I s → C s o → step s o = .ok s' → I s') :
    ∀ (os : List ο) (s : σ), I s → Along step C s os → I (run step s os) := by
  intro os
  induction os with
  | nil => exact fun _ hI _ => hI
  | cons o os ih =>
    intro s hI hC
    exact ih _ (attempt_inv step hI (fun s' h => hstep s o s' hI hC.1 h)) hC.2

/-- The invariant rule for a property that no condition is needed for. -/
theorem run_inv_of_step {I : σ → Prop} (hstep : ∀ s o s', I s → step s o = .ok s' → I s')
    (os : List ο) (s : σ) (hI : I s) : I (run step s os) := by
  have hC : ∀ (os : List ο) (s : σ), Along step (fun _ _ => True) s os := by
    intro os
    induction os with
    | nil => exact fun _ => trivial
    | cons o os ih => exact fun s => ⟨trivial, ih _⟩
  exact run_inv step (C := fun _ _ => True) (fun s o s' hI _ h => hstep s o s' hI h) os s hI
    (hC os s)

/-- A condition that every operation meets in whatever state restricts nothing. -/
theorem along_of_forall {C : σ → ο → Prop} {os : List ο} (h : ∀ o ∈ os, ∀ s, C s o) (s : σ) :
    Along step C s os := by
  induction os generalizing s with
  | nil => trivial
  | cons o os ih =>
      exact ⟨h o List.mem_cons_self s, ih (fun o' ho' => h o' (List.mem_cons_of_mem o ho')) _⟩

/-- **The rule for an operation that occurs.**  `P` before the operation's first
occurrence, `Q` after each of them; the other operations keep both. -/
theorem run_touch {P Q : σ → Prop} {o : ο}
    (hother : ∀ s o', o' ≠ o → (P s → P (attempt step s o')) ∧ (Q s → Q (attempt step s o')))
    (hself : ∀ s, P s ∨ Q s → Q (attempt step s o)) :
    ∀ (os : List ο) (s : σ), P s ∨ Q s →
      (P (run step s os) ∨ Q (run step s os)) ∧ (o ∈ os ∨ Q s → Q (run step s os)) := by
  intro os
  induction os with
  | nil =>
    intro s hs
    refine ⟨hs, ?_⟩
    rintro (ho | hQ)
    · cases ho
    · exact hQ
  | cons o' os ih =>
    intro s hs
    by_cases ho : o' = o
    · subst ho
      have hQ := hself s hs
      obtain ⟨hrest, hdone⟩ := ih (attempt step s o') (Or.inr hQ)
      exact ⟨hrest, fun _ => hdone (Or.inr hQ)⟩
    · obtain ⟨hP, hQ⟩ := hother s o' ho
      obtain ⟨hrest, hdone⟩ := ih (attempt step s o') (hs.imp hP hQ)
      refine ⟨hrest, ?_⟩
      rintro (hmem | hnow)
      · rcases List.mem_cons.mp hmem with heq | hmem
        · exact absurd heq.symm ho
        · exact hdone (Or.inl hmem)
      · exact hdone (Or.inr (hQ hnow))

/-- Two conditions that agree wherever an invariant holds restrict a run alike. -/
theorem along_congr {I : σ → Prop} {C D : σ → ο → Prop}
    (hiff : ∀ s o, I s → (C s o ↔ D s o)) (hstep : ∀ s o, I s → C s o → I (attempt step s o)) :
    ∀ (os : List ο) (s : σ), I s → (Along step C s os ↔ Along step D s os) := by
  intro os
  induction os with
  | nil => exact fun _ _ => Iff.rfl
  | cons o os ih =>
    intro s hI
    constructor
    · rintro ⟨hC, hrest⟩
      exact ⟨(hiff s o hI).mp hC, (ih _ (hstep s o hI hC)).mp hrest⟩
    · rintro ⟨hD, hrest⟩
      have hC := (hiff s o hI).mpr hD
      exact ⟨hC, (ih _ (hstep s o hI hC)).mpr hrest⟩

/-- A condition that implies another wherever an invariant holds implies it along a run. -/
theorem Along.imp {I : σ → Prop} {C D : σ → ο → Prop}
    (hstep : ∀ s o, I s → C s o → I (attempt step s o)) (himp : ∀ s o, I s → C s o → D s o) :
    ∀ (os : List ο) (s : σ), I s → Along step C s os → Along step D s os := by
  intro os
  induction os with
  | nil => exact fun _ _ _ => trivial
  | cons o os ih =>
    intro s hI h
    obtain ⟨hC, hrest⟩ := h
    exact ⟨himp s o hI hC, ih _ (hstep s o hI hC) hrest⟩

/-- **The rule for an exact condition.**  An invariant gives the property, the operations that meet
the condition keep the invariant, and the others lose the property: it holds throughout a run just
when all operations meet the condition. -/
theorem throughout_iff_of_inv {I P : σ → Prop} {C : σ → ο → Prop} (hP : ∀ s, I s → P s)
    (hkeep : ∀ s o s', I s → C s o → step s o = .ok s' → I s')
    (hneed : ∀ s o, I s → P (attempt step s o) → C s o) :
    ∀ (os : List ο) (s : σ), I s →
      ((∀ n, P (run step s (os.take n))) ↔ Along step C s os) := by
  intro os
  induction os with
  | nil =>
    intro s hs
    refine iff_of_true ?_ trivial
    intro n
    rw [List.take_nil]
    exact hP s hs
  | cons o os ih =>
    intro s hs
    have hnext : C s o → I (attempt step s o) := fun hC =>
      attempt_inv step hs (fun s' hstep => hkeep s o s' hs hC hstep)
    constructor
    · intro h
      have hC : C s o := hneed s o hs (h 1)
      exact ⟨hC, (ih _ (hnext hC)).mp (fun n => h (n + 1))⟩
    · rintro ⟨hC, hrest⟩ n
      cases n with
      | zero => exact hP s hs
      | succ n => exact (ih _ (hnext hC)).mpr hrest n

/-- The rule where the property is its own invariant: an operation keeps it just when it meets the
condition. -/
theorem throughout_iff {P : σ → Prop} {C : σ → ο → Prop}
    (hstep : ∀ s o, P s → (P (attempt step s o) ↔ C s o)) :
    ∀ (os : List ο) (s : σ), P s →
      ((∀ n, P (run step s (os.take n))) ↔ Along step C s os) := by
  refine throughout_iff_of_inv step (fun _ hs => hs) ?_ (fun s o hs h => (hstep s o hs).mp h)
  intro s o s' hs hC h
  have hnext : P (attempt step s o) := (hstep s o hs).mpr hC
  rwa [attempt_ok step h] at hnext

/-! ## The accepted operations of a run -/

/-- An operation that succeeded, between the states around it. -/
structure Accepted (σ : Type u) (ο : Type v) where
  before : σ
  op : ο
  after : σ

/-- The operations of a run that succeed, in order. -/
def trace : σ → List ο → List (Accepted σ ο)
  | _, [] => []
  | s, o :: os =>
      match step s o with
      | .ok s' => ⟨s, o, s'⟩ :: trace s' os
      | .error _ => trace s os

theorem trace_cons_ok {s s' : σ} {o : ο} {os : List ο} (h : step s o = .ok s') :
    trace step s (o :: os) = ⟨s, o, s'⟩ :: trace step s' os := by
  simp only [trace, h]

theorem trace_cons_error {s : σ} {o : ο} {os : List ο} {e : ε} (h : step s o = .error e) :
    trace step s (o :: os) = trace step s os := by
  simp only [trace, h]

theorem step_of_mem_trace {os : List ο} {s : σ} {a : Accepted σ ο} (h : a ∈ trace step s os) :
    step a.before a.op = .ok a.after := by
  induction os generalizing s with
  | nil => cases h
  | cons o os ih =>
      cases hstep : step s o with
      | error e =>
          rw [trace_cons_error step hstep] at h
          exact ih h
      | ok s' =>
          rw [trace_cons_ok step hstep] at h
          rcases List.mem_cons.mp h with rfl | h
          · exact hstep
          · exact ih h

/-- An operation that succeeds where it stands in the list is one of them. -/
theorem mem_trace_of_step {os os' : List ο} {s s' : σ} {o : ο}
    (h : step (run step s os) o = .ok s') :
    ⟨run step s os, o, s'⟩ ∈ trace step s (os ++ o :: os') := by
  induction os generalizing s with
  | nil =>
      have hstep : step s o = .ok s' := h
      rw [List.nil_append, trace_cons_ok step hstep]
      exact List.mem_cons_self
  | cons o' os ih =>
      rw [run_cons] at h ⊢
      have hrest := ih h
      rw [List.cons_append]
      cases hstep : step s o' with
      | error e =>
          rw [attempt_error step hstep] at hrest ⊢
          rw [trace_cons_error step hstep]
          exact hrest
      | ok s₁ =>
          rw [attempt_ok step hstep] at hrest ⊢
          rw [trace_cons_ok step hstep]
          exact List.mem_cons_of_mem _ hrest

/-- **The measure rule.**  Where each success makes a measure smaller, a run has no more of them
than the measure at its start. -/
theorem length_trace_le {measure : σ → Nat}
    (hstep : ∀ s o s', step s o = .ok s' → measure s' < measure s) (os : List ο) (s : σ) :
    (trace step s os).length ≤ measure s := by
  induction os generalizing s with
  | nil => exact Nat.zero_le _
  | cons o os ih =>
      cases hs : step s o with
      | error e =>
          rw [trace_cons_error step hs]
          exact ih s
      | ok s' =>
          rw [trace_cons_ok step hs, List.length_cons]
          exact Nat.lt_of_le_of_lt (ih s') (hstep s o s' hs)

/-- A condition on every operation is one on the accepted ones. -/
theorem Along.accepted {C : σ → ο → Prop} {os : List ο} {s : σ} (h : Along step C s os) :
    ∀ a ∈ trace step s os, C a.before a.op := by
  induction os generalizing s with
  | nil =>
      intro a ha
      cases ha
  | cons o os ih =>
      obtain ⟨hC, hrest⟩ := h
      intro a ha
      cases hstep : step s o with
      | error e =>
          rw [trace_cons_error step hstep] at ha
          rw [attempt_error step hstep] at hrest
          exact ih hrest a ha
      | ok s' =>
          rw [trace_cons_ok step hstep] at ha
          rw [attempt_ok step hstep] at hrest
          rcases List.mem_cons.mp ha with rfl | ha
          · exact hC
          · exact ih hrest a ha

/-- What every successful step keeps, under a condition, holds where each accepted
operation of such a run starts. -/
theorem trace_inv {I : σ → Prop} {C : σ → ο → Prop}
    (hstep : ∀ s o s', I s → C s o → step s o = .ok s' → I s') {os : List ο} {s : σ}
    (hI : I s) (h : Along step C s os) : ∀ a ∈ trace step s os, I a.before := by
  induction os generalizing s with
  | nil =>
      intro a ha
      cases ha
  | cons o os ih =>
      obtain ⟨hC, hrest⟩ := h
      intro a ha
      cases hs : step s o with
      | error e =>
          rw [trace_cons_error step hs] at ha
          rw [attempt_error step hs] at hrest
          exact ih hI hrest a ha
      | ok s' =>
          rw [trace_cons_ok step hs] at ha
          rw [attempt_ok step hs] at hrest
          rcases List.mem_cons.mp ha with rfl | ha
          · exact hI
          · exact ih (hstep s o s' hI hC hs) hrest a ha

/-- **The history rule.**  What relates a state to the operations accepted so far, and is kept
by each one more, holds where each accepted operation starts. -/
theorem trace_history {I : List (Accepted σ ο) → σ → Prop}
    (hstep : ∀ past s o s', I past s → step s o = .ok s' → I (past ++ [⟨s, o, s'⟩]) s')
    {os : List ο} {s : σ} (hI : I [] s) {before after : List (Accepted σ ο)} {a : Accepted σ ο}
    (h : trace step s os = before ++ a :: after) : I before a.before := by
  suffices hpast : ∀ (os : List ο) (s : σ) (past before : List (Accepted σ ο)), I past s →
      trace step s os = before ++ a :: after → I (past ++ before) a.before from
    hpast os s [] before hI h
  intro os
  induction os with
  | nil =>
      intro s past before _ h
      cases before <;> cases h
  | cons o os ih =>
      intro s past before hI h
      cases hs : step s o with
      | error e =>
          rw [trace_cons_error step hs] at h
          exact ih s past before hI h
      | ok s' =>
          rw [trace_cons_ok step hs] at h
          cases before with
          | nil =>
              cases h
              rw [List.append_nil]
              exact hI
          | cons first before =>
              obtain ⟨rfl, hrest⟩ := List.cons.inj h
              have hnext := ih s' (past ++ [⟨s, o, s'⟩]) before (hstep past s o s' hI hs) hrest
              rwa [List.append_assoc] at hnext

/-- The history rule for the state that a run ends in. -/
theorem run_history {I : List (Accepted σ ο) → σ → Prop}
    (hstep : ∀ past s o s', I past s → step s o = .ok s' → I (past ++ [⟨s, o, s'⟩]) s')
    (os : List ο) {s : σ} {past : List (Accepted σ ο)} (hI : I past s) :
    I (past ++ trace step s os) (run step s os) := by
  induction os generalizing s past with
  | nil =>
      rw [trace, List.append_nil]
      exact hI
  | cons o os ih =>
      rw [run_cons]
      cases hs : step s o with
      | error e =>
          rw [attempt_error step hs, trace_cons_error step hs]
          exact ih hI
      | ok s' =>
          rw [attempt_ok step hs, trace_cons_ok step hs, List.append_cons]
          exact ih (hstep past s o s' hI hs)

/-- **The log rule.**  A log that every success appends to, under a condition on the
operation and the state it meets, is after a run what the accepted operations appended. -/
theorem run_log_along {γ : Type x} (log : σ → List γ) (out : Accepted σ ο → List γ)
    {C : σ → ο → Prop}
    (hstep : ∀ s o s', C s o → step s o = .ok s' → log s' = log s ++ out ⟨s, o, s'⟩) (os : List ο)
    (s : σ) (h : Along step C s os) :
    log (run step s os) = log s ++ (trace step s os).flatMap out := by
  induction os generalizing s with
  | nil => exact (List.append_nil _).symm
  | cons o os ih =>
      obtain ⟨hC, hrest⟩ := h
      cases hs : step s o with
      | error e =>
          rw [attempt_error step hs] at hrest
          rw [run_cons, attempt_error step hs, trace_cons_error step hs]
          exact ih s hrest
      | ok s' =>
          rw [attempt_ok step hs] at hrest
          rw [run_cons, attempt_ok step hs, trace_cons_ok step hs, List.flatMap_cons, ih s' hrest,
            hstep s o s' hC hs, List.append_assoc]

/-- The log rule for a log that no condition is needed for. -/
theorem run_log {γ : Type x} (log : σ → List γ) (out : Accepted σ ο → List γ)
    (hstep : ∀ s o s', step s o = .ok s' → log s' = log s ++ out ⟨s, o, s'⟩) (os : List ο)
    (s : σ) : log (run step s os) = log s ++ (trace step s os).flatMap out :=
  run_log_along step log out (C := fun _ _ => True) (fun s o s' _ h => hstep s o s' h) os s
    (along_of_forall step (fun _ _ _ => trivial) s)

/-! ## The last rising edge of a predicate -/

variable {τ : Type x} (P : σ → Bool) (label : ο → τ)

/-- The label of the last operation of a run at which `P` went from false to
true, or `last` when there is none. -/
def lastRise : σ → List ο → Option τ → Option τ
  | _, [], last => last
  | s, o :: os, last =>
      lastRise (attempt step s o) os
        (if !P s && P (attempt step s o) then some (label o) else last)

/-- **The invariant rule with a clock.**  `I` relates a state to the label of the
last rising edge of `P`; a step that raises is neither a change of state nor an
edge. -/
theorem run_inv_rise {I : σ → Option τ → Prop} {C : σ → ο → Prop}
    (hstep : ∀ s o s' last, I s last → C s o → step s o = .ok s' →
      I s' (if !P s && P s' then some (label o) else last)) :
    ∀ (os : List ο) (s : σ) (last : Option τ), I s last → Along step C s os →
      I (run step s os) (lastRise step P label s os last) := by
  intro os
  induction os with
  | nil => exact fun _ _ hI _ => hI
  | cons o os ih =>
    intro s last hI hC
    refine ih (attempt step s o) _ ?_ hC.2
    cases h : step s o with
    | error e =>
      have hedge : (!P s && P (attempt step s o)) = false := by
        rw [attempt_error step h]; cases P s <;> rfl
      rw [hedge, attempt_error step h]
      exact hI
    | ok s' =>
      rw [attempt_ok step h]
      exact hstep s o s' last hI hC.1 h

/-- **The invariant rule with a clock that never goes back.**  The last edge is not later than
the operation that is applied. -/
theorem run_inv_clock [Preorder τ] {I : σ → Option τ → Prop} {C : σ → ο → Prop}
    (hstep : ∀ s o s' last, I s last → (∀ t, last = some t → t ≤ label o) → C s o →
      step s o = .ok s' → I s' (if !P s && P s' then some (label o) else last)) :
    ∀ (os : List ο) (s : σ) (last : Option τ), I s last →
      os.Pairwise (fun o o' => label o ≤ label o') →
      (∀ o ∈ os, ∀ t, last = some t → t ≤ label o) → Along step C s os →
      I (run step s os) (lastRise step P label s os last) := by
  intro os
  induction os with
  | nil => exact fun _ _ hI _ _ _ => hI
  | cons o os ih =>
    intro s last hI horder hlast hC
    obtain ⟨hlater, horder⟩ := List.pairwise_cons.mp horder
    refine ih (attempt step s o) _ ?_ horder ?_ hC.2
    · cases h : step s o with
      | error e =>
        have hedge : (!P s && P (attempt step s o)) = false := by
          rw [attempt_error step h]; cases P s <;> rfl
        rw [hedge, attempt_error step h]
        exact hI
      | ok s' =>
        rw [attempt_ok step h]
        exact hstep s o s' last hI (hlast o List.mem_cons_self) hC.1 h
    · intro o' ho' t ht
      split at ht
      · cases ht
        exact hlater o' ho'
      · exact hlast o' (List.mem_cons_of_mem o ho') t ht

end Run

end OpenSoar
