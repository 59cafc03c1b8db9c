/-
# `OpenSoar.Lib.ReadCommitted` — sessions that read, write and commit

Any number of sessions work on one committed store.  Each of them reads from
the store, prepares a write from what it read, and commits the write; between
these three steps the other sessions may take steps of their own.  A read sees
the store as it is committed at that moment and nothing of the writes that
are still pending (READ COMMITTED).  A session whose write would hit a row that
another pending write has locked has to wait: `excludes` says which pending
writes do that.

Nothing makes a session look again before it commits, so its write may rest on
a read that is out of date.  A commit is `Undisturbed` when no other session has
committed since the session's own read.  The first fact to take away is
`serial_of_undisturbed`: an undisturbed commit leaves the store exactly as if the
whole transaction had run at that moment without interruption, so a run whose
commits are all undisturbed is serial (`store_eq_serial`).

Where only some of the other sessions can spoil what a session has checked, its
rivals, `standing_step` asks for less: a check stands until a rival has committed.
What holds of the store whatever the sessions do is a matter of the single commit
(`store_inv`).
-/
import OpenSoar.Lib.Run

namespace OpenSoar.ReadCommitted

universe u v w x y

/-- A transaction, by session: what it reads, the write it prepares from that, and
what committing the write does to the store. -/
structure Transaction (κ : Type u) (σ : Type v) (ρ : Type w) (ω : Type x) (ε : Type y) where
  read : κ → σ → Except ε ρ
  write : κ → ρ → Except ε ω
  commit : ω → σ → Except ε σ
  excludes : ω → ω → Bool

/-- Where a session stands. -/
inductive Phase (ρ : Type w) (ω : Type x) (ε : Type y) where
  | waiting
  | hasRead (r : ρ)
  | hasWritten (r : ρ) (write : ω)
  | committed
  | failed (e : ε)

/-- What a session that has not finished has read. -/
def Phase.readValue? {ρ : Type w} {ω : Type x} {ε : Type y} : Phase ρ ω ε → Option ρ
  | .hasRead r => some r
  | .hasWritten r _ => some r
  | _ => none

/-- The committed store, the sessions, the writes that hold their locks, the
sessions that have committed, in the order of their commits, and how many of
them had when a session read. -/
structure Sys (κ : Type u) (σ : Type v) (ρ : Type w) (ω : Type x) (ε : Type y) where
  store : σ
  phase : κ → Phase ρ ω ε
  pending : List (κ × ω)
  committed : List κ
  readAt : κ → Nat

inductive Act where
  | read | write | commit
deriving DecidableEq

variable {κ : Type u} {σ : Type v} {ρ : Type w} {ω : Type x} {ε : Type y}

/-- The system before any session has started. -/
def Sys.start (store : σ) : Sys κ σ ρ ω ε := ⟨store, fun _ => .waiting, [], [], fun _ => 0⟩

variable [DecidableEq κ]

def Sys.setPhase (s : Sys κ σ ρ ω ε) (k : κ) (p : Phase ρ ω ε) : Sys κ σ ρ ω ε :=
  { s with phase := Function.update s.phase k p }

/-- Give up the locks of a session. -/
def Sys.release (s : Sys κ σ ρ ω ε) (k : κ) : Sys κ σ ρ ω ε :=
  { s with pending := s.pending.filter (fun p => p.1 ≠ k) }

@[simp] theorem Sys.setPhase_self (s : Sys κ σ ρ ω ε) (k : κ) (p : Phase ρ ω ε) :
    (s.setPhase k p).phase k = p := Function.update_self ..

theorem Sys.setPhase_ne (s : Sys κ σ ρ ω ε) {k j : κ} (p : Phase ρ ω ε) (h : j ≠ k) :
    (s.setPhase k p).phase j = s.phase j := Function.update_of_ne h ..

variable (T : Transaction κ σ ρ ω ε)

/-- One step of one session; `.error` when it is not that session's turn to take this
step, or it waits for a lock.  A session whose statement fails is `failed` and takes
no further step. -/
def step (s : Sys κ σ ρ ω ε) : κ × Act → Except Unit (Sys κ σ ρ ω ε)
  | (k, .read) =>
      match s.phase k with
      | .waiting =>
          match T.read k s.store with
          | .ok r => .ok { s.setPhase k (.hasRead r) with
              readAt := Function.update s.readAt k s.committed.length }
          | .error e => .ok (s.setPhase k (.failed e))
      | _ => .error ()
  | (k, .write) =>
      match s.phase k with
      | .hasRead r =>
          match T.write k r with
          | .ok write =>
              if s.pending.any (fun p => T.excludes p.2 write) then .error ()
              else .ok { s.setPhase k (.hasWritten r write) with
                pending := s.pending ++ [(k, write)] }
          | .error e => .ok (s.setPhase k (.failed e))
      | _ => .error ()
  | (k, .commit) =>
      match s.phase k with
      | .hasWritten _ write =>
          match T.commit write s.store with
          | .ok store => .ok { (s.release k).setPhase k .committed with
              store := store, committed := s.committed ++ [k] }
          | .error e => .ok ((s.release k).setPhase k (.failed e))
      | _ => .error ()

/-- All that a step can do, by the session that takes it. -/
inductive Stepped (s : Sys κ σ ρ ω ε) (k : κ) : Act → Sys κ σ ρ ω ε → Prop
  | read {s' : Sys κ σ ρ ω ε} (r : ρ) : s.phase k = .waiting → T.read k s.store = .ok r →
      s'.phase = (s.setPhase k (.hasRead r)).phase → s'.store = s.store →
      s'.committed = s.committed → s'.readAt = Function.update s.readAt k s.committed.length →
      Stepped s k .read s'
  | written {s' : Sys κ σ ρ ω ε} (r : ρ) (write : ω) : s.phase k = .hasRead r →
      T.write k r = .ok write → s'.phase = (s.setPhase k (.hasWritten r write)).phase →
      s'.store = s.store → s'.committed = s.committed → s'.readAt = s.readAt →
      Stepped s k .write s'
  | committed {s' : Sys κ σ ρ ω ε} (r : ρ) (write : ω) : s.phase k = .hasWritten r write →
      T.commit write s.store = .ok s'.store → s'.phase = (s.setPhase k .committed).phase →
      s'.committed = s.committed ++ [k] → s'.readAt = s.readAt → Stepped s k .commit s'
  | failed {s' : Sys κ σ ρ ω ε} {act : Act} (e : ε) :
      (T.read k s.store = .error e ∨ (∃ r, s.phase k = .hasRead r ∧ T.write k r = .error e) ∨
        ∃ r write, s.phase k = .hasWritten r write ∧ T.commit write s.store = .error e) →
      s'.phase = (s.setPhase k (.failed e)).phase → s'.store = s.store →
      s'.committed = s.committed → s'.readAt = s.readAt → Stepped s k act s'

variable {T}

theorem stepped_of_step {s s' : Sys κ σ ρ ω ε} {k : κ} {act : Act}
    (h : step T s (k, act) = .ok s') : Stepped T s k act s' := by
  cases act with
  | read =>
      simp only [step] at h
      split at h
      · rename_i hphase
        split at h
        · rename_i r hread
          cases h
          exact .read r hphase hread rfl rfl rfl rfl
        · rename_i e hread
          cases h
          exact .failed e (Or.inl hread) rfl rfl rfl rfl
      · cases h
  | write =>
      simp only [step] at h
      split at h
      · rename_i r hphase
        split at h
        · rename_i write hwrite
          split at h
          · cases h
          · cases h
            exact .written r write hphase hwrite rfl rfl rfl rfl
        · rename_i e hwrite
          cases h
          exact .failed e (Or.inr (Or.inl ⟨r, hphase, hwrite⟩)) rfl rfl rfl rfl
      · cases h
  | commit =>
      simp only [step] at h
      split at h
      · rename_i r write hphase
        split at h
        · rename_i store hcommit
          cases h
          exact .committed r write hphase hcommit rfl rfl rfl
        · rename_i e hcommit
          cases h
          exact .failed e (Or.inr (Or.inr ⟨r, write, hphase, hcommit⟩)) rfl rfl rfl rfl
      · cases h

/-! ## What a step changes -/

/-- The other sessions stay where they are. -/
theorem Stepped.other {s s' : Sys κ σ ρ ω ε} {k j : κ} {act : Act} (hs : Stepped T s k act s')
    (hjk : j ≠ k) : s'.phase j = s.phase j ∧ s'.readAt j = s.readAt j := by
  cases hs with
  | read r _ _ hphase _ _ hreadAt =>
      exact ⟨by rw [hphase, Sys.setPhase_ne s _ hjk], by rw [hreadAt, Function.update_of_ne hjk]⟩
  | written r write _ _ hphase _ _ hreadAt =>
      exact ⟨by rw [hphase, Sys.setPhase_ne s _ hjk], by rw [hreadAt]⟩
  | committed r write _ _ hphase _ hreadAt =>
      exact ⟨by rw [hphase, Sys.setPhase_ne s _ hjk], by rw [hreadAt]⟩
  | failed e _ hphase _ _ hreadAt =>
      exact ⟨by rw [hphase, Sys.setPhase_ne s _ hjk], by rw [hreadAt]⟩

/-- What a session remembers after a step it remembered before, or has read with this step. -/
theorem Stepped.remembered {s s' : Sys κ σ ρ ω ε} {k j : κ} {act : Act} {r : ρ}
    (hs : Stepped T s k act s') (hj : (s'.phase j).readValue? = some r) :
    ((s.phase j).readValue? = some r ∧ s'.readAt j = s.readAt j) ∨
      (T.read j s.store = .ok r ∧ s'.store = s.store ∧ s'.committed = s.committed ∧
        s'.readAt j = s.committed.length) := by
  by_cases hjk : j = k
  · subst hjk
    cases hs with
    | read r' _ hread hphase hstore hcommitted hreadAt =>
        rw [hphase, Sys.setPhase_self] at hj
        cases hj
        exact Or.inr ⟨hread, hstore, hcommitted, by rw [hreadAt, Function.update_self]⟩
    | written r' write hread _ hphase _ _ hreadAt =>
        rw [hphase, Sys.setPhase_self] at hj
        rw [hread, hreadAt]
        exact Or.inl ⟨hj, rfl⟩
    | committed r' write _ _ hphase _ _ =>
        rw [hphase, Sys.setPhase_self] at hj
        cases hj
    | failed e _ hphase _ _ _ =>
        rw [hphase, Sys.setPhase_self] at hj
        cases hj
  · obtain ⟨hphase, hreadAt⟩ := hs.other hjk
    rw [hphase] at hj
    exact Or.inl ⟨hj, hreadAt⟩

/-- Whoever has a write pending had it before, or has prepared it with this step. -/
theorem Stepped.pending_write {s s' : Sys κ σ ρ ω ε} {k j : κ} {act : Act} {r : ρ} {write : ω}
    (hs : Stepped T s k act s') (hj : s'.phase j = .hasWritten r write) :
    s.phase j = .hasWritten r write ∨ T.write j r = .ok write := by
  by_cases hjk : j = k
  · subst hjk
    cases hs with
    | read r' _ _ hphase _ _ _ =>
        rw [hphase, Sys.setPhase_self] at hj
        cases hj
    | written r' write' _ hwrite hphase _ _ _ =>
        rw [hphase, Sys.setPhase_self] at hj
        cases hj
        exact Or.inr hwrite
    | committed r' write' _ _ hphase _ _ =>
        rw [hphase, Sys.setPhase_self] at hj
        cases hj
    | failed e _ hphase _ _ _ =>
        rw [hphase, Sys.setPhase_self] at hj
        cases hj
  · rw [(hs.other hjk).1] at hj
    exact Or.inl hj

/-- Whoever has failed had failed before, or one of its statements has failed now. -/
theorem Stepped.failure {s s' : Sys κ σ ρ ω ε} {k j : κ} {act : Act} {e : ε}
    (hs : Stepped T s k act s') (hj : s'.phase j = .failed e) :
    s.phase j = .failed e ∨ T.read j s.store = .error e ∨ (∃ r, T.write j r = .error e) ∨
      ∃ write, T.commit write s.store = .error e := by
  by_cases hjk : j = k
  · subst hjk
    cases hs with
    | read r' _ _ hphase _ _ _ =>
        rw [hphase, Sys.setPhase_self] at hj
        cases hj
    | written r' write' _ _ hphase _ _ _ =>
        rw [hphase, Sys.setPhase_self] at hj
        cases hj
    | committed r' write' _ _ hphase _ _ =>
        rw [hphase, Sys.setPhase_self] at hj
        cases hj
    | failed e' hfailed hphase _ _ _ =>
        rw [hphase, Sys.setPhase_self] at hj
        cases hj
        rcases hfailed with hread | ⟨r, -, hwrite⟩ | ⟨r, write, -, hcommit⟩
        · exact Or.inr (Or.inl hread)
        · exact Or.inr (Or.inr (Or.inl ⟨r, hwrite⟩))
        · exact Or.inr (Or.inr (Or.inr ⟨write, hcommit⟩))
  · rw [(hs.other hjk).1] at hj
    exact Or.inl hj

/-- Only a commit changes the store. -/
theorem Stepped.store_cases {s s' : Sys κ σ ρ ω ε} {k : κ} {act : Act}
    (hs : Stepped T s k act s') :
    (s'.store = s.store ∧ s'.committed = s.committed) ∨
      ∃ r write, act = .commit ∧ s.phase k = .hasWritten r write ∧
        T.commit write s.store = .ok s'.store ∧ s'.committed = s.committed ++ [k] := by
  cases hs with
  | read r _ _ _ hstore hcommitted _ => exact Or.inl ⟨hstore, hcommitted⟩
  | written r write _ _ _ hstore hcommitted _ => exact Or.inl ⟨hstore, hcommitted⟩
  | committed r write hphase hcommit _ hcommitted _ =>
      exact Or.inr ⟨r, write, rfl, hphase, hcommit, hcommitted⟩
  | failed e _ _ hstore hcommitted _ => exact Or.inl ⟨hstore, hcommitted⟩

theorem Stepped.committed_length_le {s s' : Sys κ σ ρ ω ε} {k : κ} {act : Act}
    (hs : Stepped T s k act s') : s.committed.length ≤ s'.committed.length := by
  rcases hs.store_cases with ⟨-, hsame⟩ | ⟨_, _, -, -, -, hmore⟩
  · exact Nat.le_of_eq (by rw [hsame])
  · rw [hmore, List.length_append]
    exact Nat.le_add_right _ _

/-! ## What a session remembers -/

variable (T)

/-- Every pending write was prepared from the read its session remembers, and as
long as nobody has committed since that read, reading again gives it again. -/
structure Consistent (s : Sys κ σ ρ ω ε) : Prop where
  prepared : ∀ k r write, s.phase k = .hasWritten r write → T.write k r = .ok write
  readAt_le : ∀ k r, (s.phase k).readValue? = some r → s.readAt k ≤ s.committed.length
  current : ∀ k r, (s.phase k).readValue? = some r → s.readAt k = s.committed.length →
    T.read k s.store = .ok r

variable {T}

omit [DecidableEq κ] in
theorem consistent_start (store : σ) : Consistent T (Sys.start store) where
  prepared := by intro k r write h; cases h
  readAt_le := by intro k r h; cases h
  current := by intro k r h; cases h

theorem consistent_step {s s' : Sys κ σ ρ ω ε} {k : κ} {act : Act} (h : Consistent T s)
    (hs : Stepped T s k act s') : Consistent T s' := by
  refine ⟨?_, ?_, ?_⟩
  · intro j r write hj
    rcases hs.pending_write hj with hbefore | hwrite
    · exact h.prepared j r write hbefore
    · exact hwrite
  · intro j r hj
    rcases hs.remembered hj with ⟨hbefore, hreadAt⟩ | ⟨-, -, -, hreadAt⟩
    · rw [hreadAt]
      exact Nat.le_trans (h.readAt_le j r hbefore) hs.committed_length_le
    · rw [hreadAt]
      exact hs.committed_length_le
  · intro j r hj hnow
    rcases hs.remembered hj with ⟨hbefore, hreadAt⟩ | ⟨hread, hstore, -, -⟩
    · rw [hreadAt] at hnow
      rcases hs.store_cases with ⟨hstore, hsame⟩ | ⟨_, _, -, -, -, hmore⟩
      · rw [hstore]
        rw [hsame] at hnow
        exact h.current j r hbefore hnow
      · -- every session that still remembers a read made it before this commit
        have hle := h.readAt_le j r hbefore
        rw [hmore, List.length_append, List.length_singleton] at hnow
        omega
    · rw [hstore]
      exact hread

/-- **The rule for a store that sessions share.**  An invariant of the store holds in every run
when each commit keeps it, given what is true of all that sessions read while it holds. -/
theorem store_inv {I : σ → Prop} {P : κ → ρ → Prop}
    (hread : ∀ k store r, I store → T.read k store = .ok r → P k r)
    (hcommit : ∀ k r write store store', P k r → T.write k r = .ok write → I store →
      T.commit write store = .ok store' → I store')
    {store : σ} (hstore : I store) (es : List (κ × Act)) :
    I (run (step T) (Sys.start store) es).store := by
  have hinv := run_inv_of_step (step T)
    (I := fun s => Consistent T s ∧ I s.store ∧
      ∀ k r, (s.phase k).readValue? = some r → P k r) ?_ es (Sys.start store)
    ⟨consistent_start store, hstore, fun _ _ h => by cases h⟩
  · exact hinv.2.1
  · rintro s ⟨k, act⟩ s' ⟨hcons, hI, hP⟩ hstep
    have hs := stepped_of_step hstep
    refine ⟨consistent_step hcons hs, ?_, ?_⟩
    · rcases hs.store_cases with ⟨hsame, -⟩ | ⟨r, write, -, hphase, hcommitted, -⟩
      · rw [hsame]
        exact hI
      · have hvalue : (s.phase k).readValue? = some r := by rw [hphase]; rfl
        exact hcommit k r write _ _ (hP k r hvalue) (hcons.prepared k r write hphase) hI hcommitted
    · intro j r hj
      rcases hs.remembered hj with ⟨hbefore, -⟩ | ⟨hnow, -⟩
      · exact hP j r hbefore
      · exact hread j s.store r hI hnow

/-! ## Undisturbed commits -/

variable (T)

/-- When this is a commit that goes through, no session has committed since the
committing session read. -/
def Undisturbed (s : Sys κ σ ρ ω ε) (e : κ × Act) : Prop :=
  e.2 = .commit → ∀ r write store, s.phase e.1 = .hasWritten r write →
    T.commit write s.store = .ok store → s.readAt e.1 = s.committed.length

/-- The whole transaction in one go. -/
def serial (store : σ) (k : κ) : Except ε σ :=
  match T.read k store with
  | .error e => .error e
  | .ok r =>
      match T.write k r with
      | .error e => .error e
      | .ok write => T.commit write store

variable {T}

omit [DecidableEq κ] in
/-- **An undisturbed commit is the uninterrupted transaction.** -/
theorem serial_of_undisturbed {s : Sys κ σ ρ ω ε} {k : κ} {r : ρ} {write : ω} {store : σ}
    (h : Consistent T s) (hphase : s.phase k = .hasWritten r write)
    (hcommit : T.commit write s.store = .ok store) (hnow : s.readAt k = s.committed.length) :
    serial T s.store k = .ok store := by
  have hread : T.read k s.store = .ok r := h.current k r (by rw [hphase]; rfl) hnow
  simp only [serial, hread, h.prepared k r write hphase]
  exact hcommit

/-- **A run whose commits are all undisturbed is serial**: its store is what the
committed sessions produce one after another, each uninterrupted, in the order of
their commits. -/
theorem store_eq_serial {store : σ} {es : List (κ × Act)}
    (h : Along (step T) (Undisturbed T) (Sys.start store) es) :
    (run (step T) (Sys.start store) es).committed.foldlM (serial T) store
      = .ok (run (step T) (Sys.start store) es).store := by
  have hinv : Consistent T (run (step T) (Sys.start store) es) ∧
      (run (step T) (Sys.start store) es).committed.foldlM (serial T) store
        = .ok (run (step T) (Sys.start store) es).store := by
    refine run_inv (step T) (C := Undisturbed T)
      (I := fun s => Consistent T s ∧ s.committed.foldlM (serial T) store = .ok s.store)
      ?_ es _ ⟨consistent_start store, rfl⟩ h
    rintro s ⟨k, act⟩ s' ⟨hcons, hserial⟩ hundisturbed hs
    have hstepped := stepped_of_step hs
    refine ⟨consistent_step hcons hstepped, ?_⟩
    cases hstepped with
    | committed r write hphase hcommit _ hcommitted _ =>
        have hnow := hundisturbed rfl r write s'.store hphase hcommit
        rw [hcommitted, List.foldlM_append, hserial]
        show (List.foldlM (serial T) s.store [k] : Except ε σ) = _
        rw [List.foldlM_cons, serial_of_undisturbed hcons hphase hcommit hnow]
        rfl
    | read r _ _ _ hstore hcommitted _ => rw [hstore, hcommitted, hserial]
    | written r write _ _ _ hstore hcommitted _ => rw [hstore, hcommitted, hserial]
    | failed e _ _ hstore hcommitted _ => rw [hstore, hcommitted, hserial]
  exact hinv.2

/-! ## What a step does to the store -/

variable (T)

/-- The step is a commit that goes through. -/
def CommitsAs (s : Sys κ σ ρ ω ε) (e : κ × Act) (r : ρ) (write : ω) (store : σ) : Prop :=
  e.2 = .commit ∧ s.phase e.1 = .hasWritten r write ∧ T.commit write s.store = .ok store

variable {T}

theorem CommitsAs.store_attempt {s : Sys κ σ ρ ω ε} {e : κ × Act} {r : ρ} {write : ω} {store : σ}
    (h : CommitsAs T s e r write store) : (attempt (step T) s e).store = store := by
  obtain ⟨k, act⟩ := e
  obtain ⟨hact, hphase, hcommit⟩ := h
  simp only at hact hphase
  subst hact
  have hstep : step T s (k, .commit) = .ok { (s.release k).setPhase k .committed with
      store := store, committed := s.committed ++ [k] } := by
    simp only [step, hphase, hcommit]
  rw [attempt_ok _ hstep]

/-- Only a commit changes the store. -/
theorem store_attempt (s : Sys κ σ ρ ω ε) (e : κ × Act) :
    (attempt (step T) s e).store = s.store ∨
      ∃ r write, CommitsAs T s e r write (attempt (step T) s e).store := by
  obtain ⟨k, act⟩ := e
  cases hstep : step T s (k, act) with
  | error e => exact Or.inl (by rw [attempt_error _ hstep])
  | ok s' =>
      rw [attempt_ok _ hstep]
      rcases (stepped_of_step hstep).store_cases with
        ⟨hsame, -⟩ | ⟨r, write, hact, hphase, hcommit, -⟩
      · exact Or.inl hsame
      · exact Or.inr ⟨r, write, hact, hphase, hcommit⟩

/-! ## What a session has checked -/

/-- The sessions that have committed since a session read. -/
def Sys.since (s : Sys κ σ ρ ω ε) (k : κ) : List κ := s.committed.drop (s.readAt k)

variable (T)

/-- What a session made sure of when it read still holds, or a rival of the session has
committed in the meantime. -/
structure Standing (Stands : κ → ρ → σ → Prop) (Rival : κ → κ → Prop)
    (s : Sys κ σ ρ ω ε) : Prop where
  consistent : Consistent T s
  origin : ∀ k r, (s.phase k).readValue? = some r → ∃ store, T.read k store = .ok r
  stands : ∀ k r, (s.phase k).readValue? = some r →
    Stands k r s.store ∨ ∃ j ∈ s.since k, Rival k j

variable {T} {Stands : κ → ρ → σ → Prop} {Rival : κ → κ → Prop}

omit [DecidableEq κ] in
theorem standing_start (store : σ) : Standing T Stands Rival (Sys.start store) where
  consistent := consistent_start store
  origin := by intro k r h; cases h
  stands := by intro k r h; cases h

/-- **A check stands until a rival commits**: the commit of a session that is no rival leaves
alone what another has checked. -/
theorem standing_step {s s' : Sys κ σ ρ ω ε} {k : κ} {act : Act}
    (hcheck : ∀ k store r, T.read k store = .ok r → Stands k r store)
    (hkeep : ∀ k j r rj write store₀ store store', ¬ Rival k j → T.read j store₀ = .ok rj →
      T.write j rj = .ok write → T.commit write store = .ok store' → Stands k r store →
      Stands k r store')
    (h : Standing T Stands Rival s) (hs : Stepped T s k act s') : Standing T Stands Rival s' := by
  refine ⟨consistent_step h.consistent hs, ?_, ?_⟩
  · intro j r hj
    rcases hs.remembered hj with ⟨hbefore, -⟩ | ⟨hread, -⟩
    · exact h.origin j r hbefore
    · exact ⟨s.store, hread⟩
  · intro j r hj
    rcases hs.remembered hj with ⟨hbefore, hreadAt⟩ | ⟨hread, hstore, -, -⟩
    · rcases hs.store_cases with ⟨hstore, hsame⟩ | ⟨rk, write, -, hphase, hcommit, hmore⟩
      · rw [Sys.since, hstore, hsame, hreadAt]
        exact h.stands j r hbefore
      · have hsince : s'.since j = s.since j ++ [k] := by
          rw [Sys.since, hmore, hreadAt,
            List.drop_append_of_le_length (h.consistent.readAt_le j r hbefore), Sys.since]
        rw [hsince]
        rcases h.stands j r hbefore with hstands | ⟨rival, hrival, hj'⟩
        · by_cases hk : Rival j k
          · exact Or.inr ⟨k, List.mem_append_right _ (List.mem_singleton_self k), hk⟩
          · obtain ⟨store₀, hread⟩ := h.origin k rk (by rw [hphase]; rfl)
            exact Or.inl (hkeep j k r rk write store₀ s.store s'.store hk hread
              (h.consistent.prepared k rk write hphase) hcommit hstands)
        · exact Or.inr ⟨rival, List.mem_append_left _ hrival, hj'⟩
    · rw [hstore]
      exact Or.inl (hcheck j s.store r hread)

end OpenSoar.ReadCommitted
