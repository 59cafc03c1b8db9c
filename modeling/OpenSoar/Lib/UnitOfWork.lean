/-
# `OpenSoar.Lib.UnitOfWork` — a session whose statements may be refused

A session collects writes (`add`) and sends them ahead of the next statement (`flush`),
so a write that the store does not accept fails where it is sent, not where it is made.
A refused statement spoils the transaction: no later statement of it is executed, its
commit included.  An exception does not, and can be caught (`recover`); what it leaves
in the session stays there.

A session is `Doomed` when a statement has been refused or a collected write will be.
Nothing undoes that, and a commit succeeds exactly when the session is not doomed
(`commit_ok`, `commit_refused`).  `Within` is the rule for everything that a computation
does to its session bit by bit: a preorder that each part respects is respected by the
whole.
-/
import Mathlib.Data.List.Basic
import Mathlib.Order.Defs.Unbundled

namespace OpenSoar.UnitOfWork

universe u v w x y z

/-- What the world outside sees of a session: the messages it publishes and its commits. -/
inductive Effect (σ : Type v) (μ : Type x) where
  | published (message : μ)
  | committed (store : σ)

/-- A session in the middle of its transaction: what the transaction has made of the
store, the writes it has collected, whether a statement has been refused, and what the
world outside has seen. -/
structure Session (σ : Type v) (ω : Type w) (μ : Type x) where
  store : σ
  pending : List ω
  refused : Bool
  effects : List (Effect σ μ)

/-- A session that has just been opened. -/
def Session.opened {σ : Type v} {ω : Type w} {μ : Type x} (store : σ) : Session σ ω μ :=
  ⟨store, [], false, []⟩

/-- Which writes a store accepts, what they make of it, and the exception of a refused
statement. -/
structure Writes (ε : Type u) (σ : Type v) (ω : Type w) where
  accepts : ω → Bool
  apply : ω → σ → σ
  refusal : ε

/-- A computation in a session: how it ends, and the session it leaves in either case. -/
def Work (ε : Type u) (σ : Type v) (ω : Type w) (μ : Type x) (α : Type y) :=
  Session σ ω μ → Except ε α × Session σ ω μ

/-- What becomes of a statement: it is answered or refused, or an exception of the
program's own comes before it or after it. -/
inductive Fate (ε : Type u) where
  | answered
  | refused
  | raisesBefore (e : ε)
  | raisesAfter (e : ε)

variable {ε : Type u} {σ : Type v} {ω : Type w} {μ : Type x} {α : Type y} {β : Type z}

namespace Work

def ret (a : α) : Work ε σ ω μ α := fun s => (.ok a, s)

def raise (e : ε) : Work ε σ ω μ α := fun s => (.error e, s)

/-- One computation after another; an exception skips the second. -/
def andThen (m : Work ε σ ω μ α) (k : α → Work ε σ ω μ β) : Work ε σ ω μ β := fun s =>
  match m s with
  | (.ok a, s') => k a s'
  | (.error e, s') => (.error e, s')

/-- `try: ... except`; the handler goes on in the session as the exception left it. -/
def recover (m : Work ε σ ω μ α) (handler : ε → Work ε σ ω μ α) : Work ε σ ω μ α := fun s =>
  match m s with
  | (.ok a, s') => (.ok a, s')
  | (.error e, s') => handler e s'

instance : Monad (Work ε σ ω μ) where
  pure := ret
  bind := andThen

/-- A result computed outside the session. -/
def lift : Except ε α → Work ε σ ω μ α
  | .ok a => ret a
  | .error e => raise e

/-- Collect a write. -/
def add (write : ω) : Work ε σ ω μ Unit := fun s =>
  (.ok (), { s with pending := s.pending ++ [write] })

/-- Publish a message. -/
def publish (message : μ) : Work ε σ ω μ Unit := fun s =>
  (.ok (), { s with effects := s.effects ++ [.published message] })

end Work

namespace Work

theorem bind_def {α β : Type y} (m : Work ε σ ω μ α) (k : α → Work ε σ ω μ β) :
    (m >>= k) = andThen m k := rfl

theorem andThen_ok {m : Work ε σ ω μ α} {k : α → Work ε σ ω μ β} {s s' : Session σ ω μ} {a : α}
    (h : m s = (.ok a, s')) : andThen m k s = k a s' := by
  simp only [andThen, h]

theorem andThen_error {m : Work ε σ ω μ α} {k : α → Work ε σ ω μ β} {s s' : Session σ ω μ} {e : ε}
    (h : m s = (.error e, s')) : andThen m k s = (.error e, s') := by
  simp only [andThen, h]

/-- A computation after another that returns: the first one did. -/
theorem of_andThen_ok {m : Work ε σ ω μ α} {k : α → Work ε σ ω μ β} {s s'' : Session σ ω μ} {b : β}
    (h : andThen m k s = (.ok b, s'')) : ∃ a s', m s = (.ok a, s') ∧ k a s' = (.ok b, s'') := by
  unfold andThen at h
  split at h
  · rename_i a s' hm
    exact ⟨a, s', hm, h⟩
  · cases h

theorem andThen_assoc {γ : Type z} (m : Work ε σ ω μ α) (k : α → Work ε σ ω μ β)
    (l : β → Work ε σ ω μ γ) : andThen (andThen m k) l = andThen m (fun a => andThen (k a) l) := by
  funext s
  cases h : m s with
  | mk r s' =>
      cases r with
      | ok a => simp only [andThen, h]
      | error e => simp only [andThen, h]

theorem recover_ok {m : Work ε σ ω μ α} {handler : ε → Work ε σ ω μ α} {s s' : Session σ ω μ}
    {a : α} (h : m s = (.ok a, s')) : recover m handler s = (.ok a, s') := by
  simp only [recover, h]

theorem recover_error {m : Work ε σ ω μ α} {handler : ε → Work ε σ ω μ α} {s s' : Session σ ω μ}
    {e : ε} (h : m s = (.error e, s')) : recover m handler s = handler e s' := by
  simp only [recover, h]

end Work

variable (W : Writes ε σ ω)

/-- The session after the collected writes have been sent and accepted. -/
def Session.flushed (s : Session σ ω μ) : Session σ ω μ :=
  { s with
    store := s.pending.foldl (fun store write => W.apply write store) s.store
    pending := [] }

namespace Work

/-- Send the collected writes. -/
def flush : Work ε σ ω μ Unit := fun s =>
  if s.refused then (.error W.refusal, s)
  else if s.pending.all W.accepts then (.ok (), s.flushed W)
  else (.error W.refusal, { s with refused := true })

/-- A statement on the store, after the collected writes; one that fails is refused. -/
def execute (f : σ → Except ε (α × σ)) : Work ε σ ω μ α :=
  andThen (flush W) (fun _ s =>
    match f s.store with
    | .ok (a, store) => (.ok a, { s with store := store })
    | .error e => (.error e, { s with refused := true }))

/-- A statement that reads. -/
def query (read : σ → α) : Work ε σ ω μ α := execute W (fun store => .ok (read store, store))

/-- A statement that is refused. -/
def refuse : Work ε σ ω μ α := execute W (fun _ => .error W.refusal)

/-- A statement that reads, and what becomes of it. -/
def statement (fate : Fate ε) (read : σ → α) : Work ε σ ω μ α :=
  match fate with
  | .answered => query W read
  | .refused => refuse W
  | .raisesBefore e => raise e
  | .raisesAfter e => andThen (query W read) (fun _ => raise e)

/-- Make the store durable. -/
def commit : Work ε σ ω μ Unit :=
  andThen (flush W) (fun _ s => (.ok (), { s with effects := s.effects ++ [.committed s.store] }))

end Work

/-! ## Sessions that cannot commit any more -/

/-- A statement has been refused, or a collected write is going to be. -/
def Doomed (s : Session σ ω μ) : Prop :=
  s.refused = true ∨ ∃ write ∈ s.pending, W.accepts write = false

variable {W}

theorem not_doomed_iff {s : Session σ ω μ} :
    ¬ Doomed W s ↔ s.refused = false ∧ s.pending.all W.accepts = true := by
  simp [Doomed, not_or, List.all_eq_true]

theorem not_doomed_opened (store : σ) : ¬ Doomed W (Session.opened (ω := ω) (μ := μ) store) := by
  simp [Doomed, Session.opened]

theorem flush_ok {s : Session σ ω μ} (h : ¬ Doomed W s) :
    Work.flush W s = (.ok (), s.flushed W) := by
  obtain ⟨hrefused, hpending⟩ := not_doomed_iff.mp h
  simp [Work.flush, hrefused, hpending]

theorem flush_refused {s : Session σ ω μ} (h : Doomed W s) :
    Work.flush W s = (.error W.refusal, { s with refused := true }) := by
  unfold Work.flush
  split
  · rename_i hrefused
    rw [← hrefused]
  · split
    · rename_i hrefused hpending
      exact absurd h (not_doomed_iff.mpr ⟨by simpa using hrefused, hpending⟩)
    · rfl

theorem not_doomed_flushed {s : Session σ ω μ} (h : ¬ Doomed W s) : ¬ Doomed W (s.flushed W) := by
  obtain ⟨hrefused, -⟩ := not_doomed_iff.mp h
  exact not_doomed_iff.mpr ⟨hrefused, rfl⟩

theorem doomed_of_refused (s : Session σ ω μ) : Doomed W { s with refused := true } := Or.inl rfl

/-- A statement meets a doomed session. -/
theorem Work.execute_doomed {f : σ → Except ε (α × σ)} {s : Session σ ω μ} (h : Doomed W s) :
    Work.execute W f s = (.error W.refusal, { s with refused := true }) := by
  simp only [Work.execute, Work.andThen, flush_refused h]

theorem Work.execute_ok {f : σ → Except ε (α × σ)} {s : Session σ ω μ} (h : ¬ Doomed W s) {a : α}
    {store : σ} (hf : f (s.flushed W).store = .ok (a, store)) :
    Work.execute W f s = (.ok a, { s.flushed W with store := store }) := by
  simp only [Work.execute, Work.andThen, flush_ok h, hf]

theorem Work.execute_error {f : σ → Except ε (α × σ)} {s : Session σ ω μ} (h : ¬ Doomed W s) {e : ε}
    (hf : f (s.flushed W).store = .error e) :
    Work.execute W f s = (.error e, { s.flushed W with refused := true }) := by
  simp only [Work.execute, Work.andThen, flush_ok h, hf]

/-- A statement that returns was executed, in a session that was not doomed. -/
theorem Work.of_execute_ok {f : σ → Except ε (α × σ)} {s s' : Session σ ω μ} {a : α}
    (h : Work.execute W f s = (.ok a, s')) :
    ¬ Doomed W s ∧ ∃ store, f (s.flushed W).store = .ok (a, store) ∧
      s' = { s.flushed W with store := store } := by
  by_cases hs : Doomed W s
  · rw [Work.execute_doomed hs] at h
    cases h
  · refine ⟨hs, ?_⟩
    cases hf : f (s.flushed W).store with
    | ok result =>
        obtain ⟨b, store⟩ := result
        rw [Work.execute_ok hs hf] at h
        cases h
        exact ⟨store, rfl, rfl⟩
    | error e =>
        rw [Work.execute_error hs hf] at h
        cases h

theorem query_ok {read : σ → α} {s : Session σ ω μ} (h : ¬ Doomed W s) :
    Work.query W read s = (.ok (read (s.flushed W).store), s.flushed W) :=
  Work.execute_ok h rfl

theorem refuse_eq {s : Session σ ω μ} (h : ¬ Doomed W s) :
    (Work.refuse W s : Except ε α × Session σ ω μ) =
      (.error W.refusal, { s.flushed W with refused := true }) :=
  Work.execute_error h rfl

/-- A statement of a doomed session raises what the transaction does, unless an exception comes
before it. -/
theorem statement_doomed {fate : Fate ε} {read : σ → α} {s : Session σ ω μ} (hs : Doomed W s)
    (hfate : ∀ e, fate ≠ .raisesBefore e) :
    Work.statement W fate read s = (.error W.refusal, { s with refused := true }) := by
  cases fate with
  | answered => rw [Work.statement, Work.query, Work.execute_doomed hs]
  | refused => rw [Work.statement, Work.refuse, Work.execute_doomed hs]
  | raisesBefore e => exact absurd rfl (hfate e)
  | raisesAfter e => exact Work.andThen_error (Work.execute_doomed hs)

/-- A statement that returns was answered, in a session that is not doomed. -/
theorem statement_ok {fate : Fate ε} {read : σ → α} {s s' : Session σ ω μ} {a : α}
    (h : Work.statement W fate read s = (.ok a, s')) :
    ¬ Doomed W s ∧ fate = .answered ∧ s' = s.flushed W := by
  have hs : ¬ Doomed W s := by
    intro hs
    by_cases hbefore : ∃ e, fate = .raisesBefore e
    · obtain ⟨e, rfl⟩ := hbefore
      cases h
    · rw [statement_doomed hs (fun e he => hbefore ⟨e, he⟩)] at h
      cases h
  refine ⟨hs, ?_⟩
  cases fate with
  | answered =>
      rw [Work.statement, query_ok hs] at h
      cases h
      exact ⟨rfl, rfl⟩
  | refused =>
      rw [Work.statement, refuse_eq hs] at h
      cases h
  | raisesBefore e => cases h
  | raisesAfter e =>
      obtain ⟨_, _, -, h⟩ := Work.of_andThen_ok h
      cases h

theorem commit_ok {s : Session σ ω μ} (h : ¬ Doomed W s) :
    Work.commit W s = (.ok (), { s.flushed W with
      effects := s.effects ++ [.committed (s.flushed W).store] }) := by
  simp only [Work.commit, Work.andThen, flush_ok h]
  rfl

/-- A commit that returns: the collected writes are in the store. -/
theorem Work.of_commit_ok {s s' : Session σ ω μ} (h : Work.commit W s = (.ok (), s')) :
    ¬ Doomed W s ∧ s'.store = (s.flushed W).store := by
  obtain ⟨_, _, hflush, h⟩ := Work.of_andThen_ok h
  by_cases hs : Doomed W s
  · rw [flush_refused hs] at hflush
    cases hflush
  · rw [flush_ok hs] at hflush
    cases hflush
    cases h
    exact ⟨hs, rfl⟩

theorem commit_refused {s : Session σ ω μ} (h : Doomed W s) :
    Work.commit W s = (.error W.refusal, { s with refused := true }) := by
  simp only [Work.commit, Work.andThen, flush_refused h]

/-! ## Where doom comes from -/

theorem doomed_query {read : σ → α} {s : Session σ ω μ} :
    Doomed W (Work.query W read s).2 ↔ Doomed W s := by
  constructor
  · intro hafter
    by_contra h
    rw [query_ok h] at hafter
    exact not_doomed_flushed h hafter
  · intro h
    rw [Work.query, Work.execute_doomed h]
    exact doomed_of_refused s

theorem doomed_refuse (s : Session σ ω μ) :
    Doomed W (Work.refuse W s : Except ε α × Session σ ω μ).2 := by
  by_cases h : Doomed W s
  · rw [Work.refuse, Work.execute_doomed h]
    exact doomed_of_refused s
  · rw [refuse_eq h]
    exact doomed_of_refused _

theorem doomed_add {write : ω} {s : Session σ ω μ} :
    Doomed W (Work.add (ε := ε) write s).2 ↔ Doomed W s ∨ W.accepts write = false := by
  simp only [Doomed, Work.add, List.mem_append, List.mem_singleton]
  constructor
  · rintro (h | ⟨w, hw | rfl, hno⟩)
    · exact Or.inl (Or.inl h)
    · exact Or.inl (Or.inr ⟨w, hw, hno⟩)
    · exact Or.inr hno
  · rintro ((h | ⟨w, hw, hno⟩) | hno)
    · exact Or.inl h
    · exact Or.inr ⟨w, Or.inl hw, hno⟩
    · exact Or.inr ⟨write, Or.inr rfl, hno⟩

/-! ## What a computation keeps, part by part -/

/-- A computation takes a session only to sessions that it is related to. -/
def Work.Within (R : Session σ ω μ → Session σ ω μ → Prop) (m : Work ε σ ω μ α) : Prop :=
  ∀ s, R s (m s).2

section Within

variable {R : Session σ ω μ → Session σ ω μ → Prop} [IsPreorder (Session σ ω μ) R]

theorem within_ret (a : α) : Work.Within R (Work.ret a : Work ε σ ω μ α) :=
  fun s => refl_of R s

theorem within_raise (e : ε) :
    Work.Within R (Work.raise e : Work ε σ ω μ α) := fun s => refl_of R s

theorem within_andThen {m : Work ε σ ω μ α} {k : α → Work ε σ ω μ β}
    (hm : Work.Within R m) (hk : ∀ a, Work.Within R (k a)) :
    Work.Within R (Work.andThen m k) := by
  intro s
  have hfirst := hm s
  unfold Work.andThen
  split
  · rename_i a s' h
    rw [h] at hfirst
    exact trans_of R hfirst (hk a s')
  · rename_i e s' h
    rw [h] at hfirst
    exact hfirst

theorem within_recover {m : Work ε σ ω μ α} {handler : ε → Work ε σ ω μ α}
    (hm : Work.Within R m) (hh : ∀ e, Work.Within R (handler e)) :
    Work.Within R (Work.recover m handler) := by
  intro s
  have hfirst := hm s
  unfold Work.recover
  split
  · rename_i a s' h
    rw [h] at hfirst
    exact hfirst
  · rename_i e s' h
    rw [h] at hfirst
    exact trans_of R hfirst (hh e s')

/-- A statement sends the collected writes or leaves the session refused. -/
theorem within_statement (hflushed : ∀ s, ¬ Doomed W s → R s (s.flushed W))
    (hrefused : ∀ s, R s { s with refused := true }) (fate : Fate ε) (read : σ → α) :
    Work.Within R (Work.statement W fate read : Work ε σ ω μ α) := by
  have hquery : Work.Within R (Work.query W read : Work ε σ ω μ α) := by
    intro s
    by_cases h : Doomed W s
    · rw [Work.query, Work.execute_doomed h]
      exact hrefused s
    · rw [query_ok h]
      exact hflushed s h
  cases fate with
  | answered => exact hquery
  | refused =>
      intro s
      by_cases h : Doomed W s
      · simp only [Work.statement, Work.refuse, Work.execute_doomed h]
        exact hrefused s
      · rw [Work.statement, refuse_eq h]
        exact trans_of R (hflushed s h) (hrefused _)
  | raisesBefore e => exact within_raise e
  | raisesAfter e => exact within_andThen hquery (fun _ => within_raise e)

end Within

/-- A computation that neither dooms its session nor could save it. -/
def Work.Quiet (W : Writes ε σ ω) (m : Work ε σ ω μ α) : Prop :=
  Work.Within (fun s s' => Doomed W s' ↔ Doomed W s) m

instance : IsPreorder (Session σ ω μ) (fun s s' => Doomed W s' ↔ Doomed W s) where
  refl _ := Iff.rfl
  trans _ _ _ h h' := h'.trans h

theorem quiet_publish (message : μ) :
    Work.Quiet W (Work.publish message : Work ε σ ω μ Unit) := fun _ => Iff.rfl

/-- A computation that the world outside sees nothing of. -/
def Work.Silent (m : Work ε σ ω μ α) : Prop :=
  Work.Within (fun s s' => s'.effects = s.effects) m

instance : IsPreorder (Session σ ω μ) (fun s s' => s'.effects = s.effects) where
  refl _ := rfl
  trans _ _ _ h h' := h'.trans h

theorem silent_statement (fate : Fate ε) (read : σ → α) :
    Work.Silent (Work.statement W fate read : Work ε σ ω μ α) :=
  within_statement (R := fun s s' => s'.effects = s.effects) (fun _ _ => rfl)
    (fun _ => rfl) fate read

theorem silent_add (write : ω) : Work.Silent (Work.add write : Work ε σ ω μ Unit) := fun _ => rfl

/-- What follows a computation quietly leaves its verdict. -/
theorem doomed_andThen {m : Work ε σ ω μ α} {k : α → Work ε σ ω μ β}
    (hk : ∀ a, Work.Quiet W (k a)) {s : Session σ ω μ} :
    Doomed W (Work.andThen m k s).2 ↔ Doomed W (m s).2 := by
  unfold Work.andThen
  split
  · rename_i a s' h
    rw [h]
    exact hk a s'
  · rename_i e s' h
    rw [h]

theorem doomed_recover {m : Work ε σ ω μ α} {handler : ε → Work ε σ ω μ α}
    (hh : ∀ e, Work.Quiet W (handler e)) {s : Session σ ω μ} :
    Doomed W (Work.recover m handler s).2 ↔ Doomed W (m s).2 := by
  unfold Work.recover
  split
  · rename_i a s' h
    rw [h]
  · rename_i e s' h
    rw [h]
    exact hh e s'

/-- A statement dooms its session by being refused, and in no other way. -/
theorem doomed_statement {fate : Fate ε} {read : σ → α} {s : Session σ ω μ} :
    Doomed W (Work.statement W fate read s).2 ↔ Doomed W s ∨ fate = .refused := by
  cases fate with
  | answered =>
      rw [Work.statement, doomed_query]
      simp
  | refused => exact iff_of_true (doomed_refuse s) (Or.inr rfl)
  | raisesBefore e =>
      show Doomed W s ↔ _
      simp
  | raisesAfter e =>
      have hquiet : ∀ a : α, Work.Quiet W (Work.raise e : Work ε σ ω μ α) := fun _ => within_raise e
      rw [Work.statement, doomed_andThen hquiet, doomed_query]
      simp

end OpenSoar.UnitOfWork
