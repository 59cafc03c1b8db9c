/-
# `OpenSoar.Lib.Guarded` — sessions that load, check, write and commit

Any number of sessions work on one committed store.  Each of them loads what it is about to
change, checks whether it may, prepares its write from what it has loaded and commits it, in
four steps with those of the other sessions in between.  Every statement sees the store as it
is committed at that moment (READ COMMITTED), so what the check reads need not be what the load
has read, and neither needs to be so any more when the write is committed.  A write waits for
the pending writes that lock the rows it changes (`excludes`), but a check of other rows than
these locks nothing.

What a session has loaded and checked is still so in the store it commits to when no other
session has committed in between (`Consistent.current`).  For such commits it is enough that
the uninterrupted transaction keeps an invariant of the store (`store_inv_of_undisturbed`); for
any commits the invariant lasts just as long as each of them keeps it
(`store_throughout_iff`).  `committers` reads off a history who has committed, and in which order.
-/
import OpenSoar.Lib.Run

namespace OpenSoar.Guarded

universe u v w x y z

/-- A transaction, by session: what it loads, what its check makes of that and of the store, the
write it prepares, and what committing the write does to the store. -/
structure Transaction (κ : Type u) (σ : Type v) (ρ : Type w) (χ : Type x) (ω : Type y)
    (ε : Type z) where
  load : κ → σ → Except ε ρ
  check : κ → ρ → σ → Except ε χ
  write : κ → ρ → χ → Except ε ω
  commit : ω → σ → Except ε σ
  excludes : ω → ω → Bool

/-- Where a session stands. -/
inductive Phase (ρ : Type w) (χ : Type x) (ω : Type y) (ε : Type z) where
  | waiting
  | loaded (r : ρ)
  | checked (r : ρ) (c : χ)
  | written (r : ρ) (c : χ) (write : ω)
  | committed
  | failed (e : ε)

/-- The committed store, the sessions, the writes that hold their locks, how many sessions have
committed, and how many of them had when a session loaded. -/
structure Sys (κ : Type u) (σ : Type v) (ρ : Type w) (χ : Type x) (ω : Type y)
    (ε : Type z) where
  store : σ
  phase : κ → Phase ρ χ ω ε
  pending : List (κ × ω)
  commits : Nat
  loadedAt : κ → Nat

inductive Act where
  | load | check | write | commit
deriving DecidableEq

variable {κ : Type u} {σ : Type v} {ρ : Type w} {χ : Type x} {ω : Type y} {ε : Type z}

/-- The system before any session has started. -/
def Sys.start (store : σ) : Sys κ σ ρ χ ω ε := ⟨store, fun _ => .waiting, [], 0, fun _ => 0⟩

variable [DecidableEq κ]

def Sys.setPhase (s : Sys κ σ ρ χ ω ε) (k : κ) (p : Phase ρ χ ω ε) : Sys κ σ ρ χ ω ε :=
  { s with phase := Function.update s.phase k p }

/-- Give up the locks of a session. -/
def Sys.release (s : Sys κ σ ρ χ ω ε) (k : κ) : Sys κ σ ρ χ ω ε :=
  { s with pending := s.pending.filter (fun p => p.1 ≠ k) }

variable (T : Transaction κ σ ρ χ ω ε)

/-- One step of one session; `.error` when it is not that session's turn to take this step, or
it waits for a lock.  A session whose statement fails is `failed` and takes no further step. -/
def step (s : Sys κ σ ρ χ ω ε) : κ × Act → Except Unit (Sys κ σ ρ χ ω ε)
  | (k, .load) =>
      match s.phase k with
      | .waiting =>
          match T.load k s.store with
          | .ok r => .ok { s.setPhase k (.loaded r) with
              loadedAt := Function.update s.loadedAt k s.commits }
          | .error e => .ok (s.setPhase k (.failed e))
      | _ => .error ()
  | (k, .check) =>
      match s.phase k with
      | .loaded r =>
          match T.check k r s.store with
          | .ok c => .ok (s.setPhase k (.checked r c))
          | .error e => .ok (s.setPhase k (.failed e))
      | _ => .error ()
  | (k, .write) =>
      match s.phase k with
      | .checked r c =>
          match T.write k r c with
          | .ok write =>
              if s.pending.any (fun p => T.excludes p.2 write) then .error ()
              else .ok { s.setPhase k (.written r c write) with
                pending := s.pending ++ [(k, write)] }
          | .error e => .ok (s.setPhase k (.failed e))
      | _ => .error ()
  | (k, .commit) =>
      match s.phase k with
      | .written _ _ write =>
          match T.commit write s.store with
          | .ok store => .ok { (s.release k).setPhase k .committed with
              store := store, commits := s.commits + 1 }
          | .error e => .ok ((s.release k).setPhase k (.failed e))
      | _ => .error ()

/-- All that a step can do: the phase its session enters and why, and what becomes of the store
and of the session's `loadedAt`. -/
inductive Stepped (s : Sys κ σ ρ χ ω ε) (k : κ) : Act → Sys κ σ ρ χ ω ε → Prop
  | loaded {s' : Sys κ σ ρ χ ω ε} (r : ρ) : T.load k s.store = .ok r →
      s'.phase = Function.update s.phase k (.loaded r) → s'.store = s.store →
      s'.commits = s.commits → s'.loadedAt = Function.update s.loadedAt k s.commits →
      Stepped s k .load s'
  | checked {s' : Sys κ σ ρ χ ω ε} (r : ρ) (c : χ) : s.phase k = .loaded r →
      T.check k r s.store = .ok c → s'.phase = Function.update s.phase k (.checked r c) →
      s'.store = s.store → s'.commits = s.commits → s'.loadedAt = s.loadedAt →
      Stepped s k .check s'
  | written {s' : Sys κ σ ρ χ ω ε} (r : ρ) (c : χ) (write : ω) : s.phase k = .checked r c →
      T.write k r c = .ok write → s'.phase = Function.update s.phase k (.written r c write) →
      s'.store = s.store → s'.commits = s.commits → s'.loadedAt = s.loadedAt →
      Stepped s k .write s'
  | committed {s' : Sys κ σ ρ χ ω ε} (r : ρ) (c : χ) (write : ω) :
      s.phase k = .written r c write → T.commit write s.store = .ok s'.store →
      s'.phase = Function.update s.phase k .committed → s'.commits = s.commits + 1 →
      s'.loadedAt = s.loadedAt → Stepped s k .commit s'
  | failed {s' : Sys κ σ ρ χ ω ε} {act : Act} (e : ε) :
      s'.phase = Function.update s.phase k (.failed e) → s'.store = s.store →
      s'.commits = s.commits → s'.loadedAt = s.loadedAt → Stepped s k act s'

variable {T}

theorem stepped_of_step {s s' : Sys κ σ ρ χ ω ε} {k : κ} {act : Act}
    (h : step T s (k, act) = .ok s') : Stepped T s k act s' := by
  cases act with
  | load =>
      simp only [step] at h
      split at h
      · split at h
        · rename_i r hload
          cases h
          exact .loaded r hload rfl rfl rfl rfl
        · rename_i e _
          cases h
          exact .failed e rfl rfl rfl rfl
      · cases h
  | check =>
      simp only [step] at h
      split at h
      · rename_i r hphase
        split at h
        · rename_i c hcheck
          cases h
          exact .checked r c hphase hcheck rfl rfl rfl rfl
        · rename_i e _
          cases h
          exact .failed e rfl rfl rfl rfl
      · cases h
  | write =>
      simp only [step] at h
      split at h
      · rename_i r c hphase
        split at h
        · rename_i write hwrite
          split at h
          · cases h
          · cases h
            exact .written r c write hphase hwrite rfl rfl rfl rfl
        · rename_i e _
          cases h
          exact .failed e rfl rfl rfl rfl
      · cases h
  | commit =>
      simp only [step] at h
      split at h
      · rename_i r c write hphase
        split at h
        · rename_i store hcommit
          cases h
          exact .committed r c write hphase hcommit rfl rfl rfl
        · rename_i e _
          cases h
          exact .failed e rfl rfl rfl rfl
      · cases h

/-- A session that has committed takes no further step. -/
theorem not_committed_of_step {s s' : Sys κ σ ρ χ ω ε} {k : κ} {act : Act}
    (h : step T s (k, act) = .ok s') : s.phase k ≠ .committed := by
  intro hphase
  cases act <;> simp only [step, hphase] at h <;> cases h

/-! ## Who has committed, and in which order -/

/-- The session has committed. -/
def Phase.isCommitted : Phase ρ χ ω ε → Bool
  | .committed => true
  | _ => false

theorem Phase.isCommitted_eq_false {p : Phase ρ χ ω ε} (h : p ≠ .committed) :
    p.isCommitted = false := by
  cases p with
  | committed => exact absurd rfl h
  | _ => rfl

/-- The sessions that have committed, in the order of their commits: those whose step left them
committed. -/
def committers (past : List (Accepted (Sys κ σ ρ χ ω ε) (κ × Act))) : List κ :=
  (past.filter (fun accepted => (accepted.after.phase accepted.op.1).isCommitted)).map
    (fun accepted => accepted.op.1)

omit [DecidableEq κ] in
theorem committers_concat (past : List (Accepted (Sys κ σ ρ χ ω ε) (κ × Act)))
    (s s' : Sys κ σ ρ χ ω ε) (k : κ) (act : Act) :
    committers (past ++ [⟨s, (k, act), s'⟩]) =
      committers past ++ if (s'.phase k).isCommitted then [k] else [] := by
  rw [committers, List.filter_append, List.map_append, List.filter_singleton]
  cases (s'.phase k).isCommitted <;> rfl

/-! ## What a step does to the store -/

variable (T)

/-- The step is a commit that goes through. -/
def CommitsAs (s : Sys κ σ ρ χ ω ε) (e : κ × Act) (write : ω) (store : σ) : Prop :=
  e.2 = .commit ∧ (∃ r c, s.phase e.1 = .written r c write) ∧
    T.commit write s.store = .ok store

variable {T}

theorem CommitsAs.store_attempt {s : Sys κ σ ρ χ ω ε} {e : κ × Act} {write : ω} {store : σ}
    (h : CommitsAs T s e write store) : (attempt (step T) s e).store = store := by
  obtain ⟨k, act⟩ := e
  obtain ⟨rfl, ⟨r, c, hphase⟩, hcommit⟩ := h
  have hstep : step T s (k, .commit) = .ok { (s.release k).setPhase k .committed with
      store := store, commits := s.commits + 1 } := by
    simp only [step, hphase, hcommit]
  rw [attempt_ok _ hstep]

/-- Only a commit changes the store. -/
theorem store_attempt (s : Sys κ σ ρ χ ω ε) (e : κ × Act) :
    (attempt (step T) s e).store = s.store ∨
      ∃ write, CommitsAs T s e write (attempt (step T) s e).store := by
  obtain ⟨k, act⟩ := e
  cases hstep : step T s (k, act) with
  | error e => exact Or.inl (by rw [attempt_error _ hstep])
  | ok s' =>
      rw [attempt_ok _ hstep]
      cases stepped_of_step hstep with
      | committed r c write hphase hcommit _ _ _ =>
          exact Or.inr ⟨write, rfl, ⟨r, c, hphase⟩, hcommit⟩
      | loaded r _ _ hstore _ _ => exact Or.inl hstore
      | checked r c _ _ _ hstore _ _ => exact Or.inl hstore
      | written r c write _ _ _ hstore _ _ => exact Or.inl hstore
      | failed e _ hstore _ _ => exact Or.inl hstore

/-- **The exact condition of an invariant of the store.**  It holds throughout a run just when
every commit that goes through meets the condition under which a commit keeps it. -/
theorem store_throughout_iff {I : σ → Prop} {C : ω → σ → Prop}
    (hcommit : ∀ write store store', I store → T.commit write store = .ok store' →
      (I store' ↔ C write store)) {store : σ} (hstore : I store) (es : List (κ × Act)) :
    (∀ n, I (run (step T) (Sys.start store) (es.take n)).store) ↔
      Along (step T) (fun s e => ∀ write store', CommitsAs T s e write store' → C write s.store)
        (Sys.start store) es := by
  refine throughout_iff (step T) (P := fun s => I s.store) ?_ es (Sys.start store) hstore
  intro s e hI
  constructor
  · intro hnext write store' hcommits
    rw [hcommits.store_attempt] at hnext
    exact (hcommit write s.store store' hI hcommits.2.2).mp hnext
  · intro h
    rcases store_attempt s e with hsame | ⟨write, hcommits⟩
    · rw [hsame]
      exact hI
    · exact (hcommit write s.store _ hI hcommits.2.2).mpr (h write _ hcommits)

/-! ## Undisturbed commits -/

variable (T)

/-- What a session has loaded and checked it would load and check again, as long as nobody has
committed since. -/
def Phase.Current (k : κ) (store : σ) : Phase ρ χ ω ε → Prop
  | .loaded r => T.load k store = .ok r
  | .checked r c => T.load k store = .ok r ∧ T.check k r store = .ok c
  | .written r c write => T.load k store = .ok r ∧ T.check k r store = .ok c ∧
      T.write k r c = .ok write
  | _ => True

structure Consistent (s : Sys κ σ ρ χ ω ε) : Prop where
  loadedAt_le : ∀ k, s.loadedAt k ≤ s.commits
  current : ∀ k, s.loadedAt k = s.commits → (s.phase k).Current T k s.store

variable {T}

omit [DecidableEq κ] in
theorem consistent_start (store : σ) : Consistent T (Sys.start store) where
  loadedAt_le := by intro k; exact Nat.le_refl 0
  current := by intro k _; trivial

/-- A step that keeps the store leaves the other sessions as consistent as they were. -/
theorem Consistent.of_phase {s s' : Sys κ σ ρ χ ω ε} {k : κ} {p : Phase ρ χ ω ε}
    (h : Consistent T s) (hphase : s'.phase = Function.update s.phase k p)
    (hstore : s'.store = s.store) (hcommits : s'.commits = s.commits)
    (hloadedAt : ∀ j, j ≠ k → s'.loadedAt j = s.loadedAt j)
    (hle : s'.loadedAt k ≤ s.commits)
    (hcurrent : s'.loadedAt k = s.commits → p.Current T k s.store) : Consistent T s' := by
  refine ⟨?_, ?_⟩
  · intro j
    rw [hcommits]
    by_cases hjk : j = k
    · exact hjk ▸ hle
    · rw [hloadedAt j hjk]
      exact h.loadedAt_le j
  · intro j hnow
    rw [hcommits] at hnow
    rw [hstore, hphase]
    by_cases hjk : j = k
    · subst hjk
      rw [Function.update_self]
      exact hcurrent hnow
    · rw [Function.update_of_ne hjk]
      rw [hloadedAt j hjk] at hnow
      exact h.current j hnow

theorem consistent_step {s s' : Sys κ σ ρ χ ω ε} {k : κ} {act : Act} (h : Consistent T s)
    (hs : Stepped T s k act s') : Consistent T s' := by
  cases hs with
  | loaded r hload hphase hstore hcommits hloadedAt =>
      refine h.of_phase hphase hstore hcommits ?_ ?_ (fun _ => hload)
      · intro j hjk
        rw [hloadedAt, Function.update_of_ne hjk]
      · exact Nat.le_of_eq (by rw [hloadedAt, Function.update_self])
  | checked r c hbefore hcheck hphase hstore hcommits hloadedAt =>
      refine h.of_phase hphase hstore hcommits ?_ ?_ ?_
      · exact fun j _ => congrFun hloadedAt j
      · rw [hloadedAt]
        exact h.loadedAt_le k
      · intro hnow
        rw [hloadedAt] at hnow
        have hload := h.current k hnow
        rw [hbefore] at hload
        exact ⟨hload, hcheck⟩
  | written r c write hbefore hwrite hphase hstore hcommits hloadedAt =>
      refine h.of_phase hphase hstore hcommits ?_ ?_ ?_
      · exact fun j _ => congrFun hloadedAt j
      · rw [hloadedAt]
        exact h.loadedAt_le k
      · intro hnow
        rw [hloadedAt] at hnow
        have hchecked := h.current k hnow
        rw [hbefore] at hchecked
        exact ⟨hchecked.1, hchecked.2, hwrite⟩
  | failed e hphase hstore hcommits hloadedAt =>
      refine h.of_phase hphase hstore hcommits ?_ ?_ (fun _ => trivial)
      · exact fun j _ => congrFun hloadedAt j
      · rw [hloadedAt]
        exact h.loadedAt_le k
  | committed r c write hbefore hcommit hphase hcommits hloadedAt =>
      refine ⟨?_, ?_⟩
      · intro j
        rw [hloadedAt, hcommits]
        exact Nat.le_succ_of_le (h.loadedAt_le j)
      · -- whoever had loaded had done so before this commit
        intro j hnow
        have hle := h.loadedAt_le j
        rw [hloadedAt, hcommits] at hnow
        omega

/-- **The rule for undisturbed commits.**  An invariant of the store that the uninterrupted
transactions keep holds after a run whose commits are undisturbed, or keep it for a reason of
their own. -/
theorem store_inv_of_undisturbed {I : σ → Prop} (Harmless : ω → σ → Prop)
    (hserial : ∀ k store r c write store', I store → T.load k store = .ok r →
      T.check k r store = .ok c → T.write k r c = .ok write →
      T.commit write store = .ok store' → I store')
    (hharmless : ∀ write store store', I store → T.commit write store = .ok store' →
      Harmless write store → I store')
    {store : σ} (hstore : I store) {es : List (κ × Act)}
    (h : Along (step T) (fun s e => ∀ write store', CommitsAs T s e write store' →
      s.loadedAt e.1 = s.commits ∨ Harmless write s.store) (Sys.start store) es) :
    I (run (step T) (Sys.start store) es).store := by
  have hinv := run_inv (step T) (I := fun s => Consistent T s ∧ I s.store) ?_ es
    (Sys.start store) ⟨consistent_start store, hstore⟩ h
  · exact hinv.2
  · rintro s ⟨k, act⟩ s' ⟨hcons, hI⟩ hquiet hstep
    have hs := stepped_of_step hstep
    refine ⟨consistent_step hcons hs, ?_⟩
    cases hs with
    | loaded r _ _ hstore' _ _ => exact hstore' ▸ hI
    | checked r c _ _ _ hstore' _ _ => exact hstore' ▸ hI
    | written r c write _ _ _ hstore' _ _ => exact hstore' ▸ hI
    | failed e _ hstore' _ _ => exact hstore' ▸ hI
    | committed r c write hbefore hcommit _ _ _ =>
        rcases hquiet write s'.store ⟨rfl, ⟨r, c, hbefore⟩, hcommit⟩ with hnow | hfree
        · have hcurrent := hcons.current k hnow
          rw [hbefore] at hcurrent
          exact hserial k s.store r c write s'.store hI hcurrent.1 hcurrent.2.1 hcurrent.2.2
            hcommit
        · exact hharmless write s.store s'.store hI hcommit hfree

end OpenSoar.Guarded
