/-
# `OpenSoar.Lib.Outbox` — messages that name rows of an open transaction

Processes publish messages and commit; consumers take a message and read the row it names
among those that are committed.  A process is given by what the world sees of it, in order
(`Effect`); its steps, those of the other processes and the consumers' come in any order,
and a message may be taken any number of times.

Some messages are strict: a consumer must find the row.  A consumer of any other message
may miss it, provided the process does not commit later.  `Keeps` says that of a history,
and `Grounded` says of a process's effects that every message it publishes names a row that
is committed by then (or is not strict, and no commit follows).  The two agree: a grounded
process is safe in every interleaving, and any other has an interleaving that harms it
(`safe_iff_grounded`).
-/
import OpenSoar.Lib.Run
import OpenSoar.Lib.UnitOfWork

namespace OpenSoar.Outbox

open OpenSoar.UnitOfWork

universe u v w x

/-- What a commit makes visible, the row a message names, and which messages must find it. -/
structure Naming (σ : Type u) (μ : Type v) (ρ : Type w) where
  rows : σ → List ρ
  row : μ → Option ρ
  strict : μ → Bool

/-- One entry of the history: a consumer took a message of a process and found its row or
did not, or a process committed. -/
inductive Event (κ : Type x) (μ : Type v) where
  | took (process : κ) (message : μ) (found : Bool)
  | committed (process : κ)

/-- The rows that anyone can read, what each process that has begun still has to do, the
published messages with the process that published them, and the history. -/
structure Sys (κ : Type x) (σ : Type u) (μ : Type v) (ρ : Type w) where
  visible : List ρ
  todo : κ → Option (List (Effect σ μ))
  queue : List (κ × μ)
  history : List (Event κ μ)

/-- A process begins on a snapshot, with the effects it is going to have; a process has its
next effect; a consumer takes the message at a position of the queue, which stays there. -/
inductive Move (κ : Type x) (σ : Type u) (μ : Type v) where
  | begin (process : κ) (snapshot : σ) (effects : List (Effect σ μ))
  | advance (process : κ)
  | take (position : Nat)

variable {κ : Type x} {σ : Type u} {μ : Type v} {ρ : Type w}

/-- Before any process has begun. -/
def Sys.start (visible : List ρ) : Sys κ σ μ ρ := ⟨visible, fun _ => none, [], []⟩

/-! ## Histories and effects -/

/-- The consumers of a process's messages come to no harm: a message that has missed its row
is not strict, and the process has not committed after that. -/
structure Keeps (N : Naming σ μ ρ) (k : κ) (history : List (Event κ μ)) : Prop where
  strict : ∀ message, .took k message false ∈ history → N.strict message = false
  later : history.Pairwise
    (fun event event' => ∀ message, event = .took k message false → event' ≠ .committed k)

variable {N : Naming σ μ ρ}

theorem keeps_nil (k : κ) : Keeps N k [] :=
  ⟨fun _ h => absurd h List.not_mem_nil, List.Pairwise.nil⟩

theorem keeps_took {k j : κ} {history : List (Event κ μ)} {message : μ} {found : Bool}
    (h : Keeps N k history) (hmiss : j = k → found = false → N.strict message = false) :
    Keeps N k (history ++ [.took j message found]) := by
  refine ⟨?_, ?_⟩
  · intro m hm
    rcases List.mem_append.mp hm with hm | hm
    · exact h.strict m hm
    · cases List.mem_singleton.mp hm
      exact hmiss rfl rfl
  · refine List.pairwise_append.mpr ⟨h.later, List.pairwise_singleton _ _, ?_⟩
    intro event _ event' hevent' m _ hcommitted
    cases (List.mem_singleton.mp hevent').symm.trans hcommitted

theorem keeps_committed {k j : κ} {history : List (Event κ μ)} (h : Keeps N k history)
    (hmissed : j = k → ∀ message, Event.took k message false ∉ history) :
    Keeps N k (history ++ [.committed j]) := by
  refine ⟨?_, ?_⟩
  · intro m hm
    rcases List.mem_append.mp hm with hm | hm
    · exact h.strict m hm
    · cases List.mem_singleton.mp hm
  · refine List.pairwise_append.mpr ⟨h.later, List.pairwise_singleton _ _, ?_⟩
    rintro event hevent event' hevent' m rfl hcommitted
    cases (List.mem_singleton.mp hevent').symm.trans hcommitted
    exact hmissed rfl m hevent

variable [DecidableEq ρ]

/-- The row a message names is among these; a message may name none. -/
def Naming.finds (N : Naming σ μ ρ) (message : μ) (visible : List ρ) : Bool :=
  match N.row message with
  | none => true
  | some row => decide (row ∈ visible)

/-- A message may be published now: its row is committed, or it may be missed and no commit
follows. -/
def MayPublish (N : Naming σ μ ρ) (visible : List ρ) (message : μ) (rest : List (Effect σ μ)) :
    Prop :=
  N.finds message visible = true ∨
    (N.strict message = false ∧ ∀ store, .committed store ∉ rest)

/-- Every message is published when it may be, from the rows that are visible on. -/
def Grounded (N : Naming σ μ ρ) : List ρ → List (Effect σ μ) → Prop
  | _, [] => True
  | visible, .published message :: rest =>
      MayPublish N visible message rest ∧ Grounded N visible rest
  | visible, .committed store :: rest => Grounded N (visible ++ N.rows store) rest

theorem finds_mono {message : μ} {visible visible' : List ρ} (h : ∀ row ∈ visible, row ∈ visible')
    (hfinds : N.finds message visible = true) : N.finds message visible' = true := by
  unfold Naming.finds at hfinds ⊢
  cases hrow : N.row message with
  | none => rfl
  | some row =>
      simp only [hrow, decide_eq_true_eq] at hfinds ⊢
      exact h row hfinds

theorem MayPublish.later {visible : List ρ} {message : μ} {effect : Effect σ μ}
    {rest : List (Effect σ μ)} (h : MayPublish N visible message (effect :: rest)) :
    MayPublish N visible message rest :=
  h.imp id (fun hmiss => ⟨hmiss.1, fun store hmem => hmiss.2 store (List.mem_cons_of_mem _ hmem)⟩)

/-- A commit follows, so the row is committed already. -/
theorem MayPublish.finds {visible : List ρ} {message : μ} {store : σ} {rest : List (Effect σ μ)}
    (h : MayPublish N visible message (.committed store :: rest)) :
    N.finds message visible = true := by
  rcases h with hfinds | ⟨-, hnone⟩
  · exact hfinds
  · exact absurd List.mem_cons_self (hnone store)

/-- Messages in a row may be published exactly when each of them may be before what follows
them all. -/
theorem grounded_messages {visible : List ρ} {messages : List μ} {rest : List (Effect σ μ)} :
    Grounded N visible (messages.map .published ++ rest) ↔
      (∀ message ∈ messages, MayPublish N visible message rest) ∧ Grounded N visible rest := by
  induction messages with
  | nil => simp
  | cons message messages ih =>
      have hcommits : (∀ store, .committed store ∉ messages.map .published ++ rest) ↔
          ∀ store : σ, .committed store ∉ rest := by
        simp
      show MayPublish N visible message (messages.map .published ++ rest) ∧
        Grounded N visible (messages.map .published ++ rest) ↔ _
      rw [ih, List.forall_mem_cons, and_assoc]
      simp only [MayPublish, hcommits]

/-! ## The moves -/

variable [DecidableEq κ]

/-- One move; `.error` when it is not possible: the process has begun already or has
nothing left to do, its snapshot has rows that are not committed, nothing is at the
position. -/
def step (N : Naming σ μ ρ) (s : Sys κ σ μ ρ) : Move κ σ μ → Except Unit (Sys κ σ μ ρ)
  | .begin k snapshot effects =>
      if s.todo k = none ∧ ∀ row ∈ N.rows snapshot, row ∈ s.visible then
        .ok { s with todo := Function.update s.todo k (some effects) }
      else .error ()
  | .advance k =>
      match s.todo k with
      | some (.published message :: rest) =>
          .ok { s with
            todo := Function.update s.todo k (some rest)
            queue := s.queue ++ [(k, message)] }
      | some (.committed store :: rest) =>
          .ok { s with
            todo := Function.update s.todo k (some rest)
            visible := s.visible ++ N.rows store
            history := s.history ++ [.committed k] }
      | _ => .error ()
  | .take position =>
      match s.queue[position]? with
      | some (k, message) =>
          .ok { s with history := s.history ++ [.took k message (N.finds message s.visible)] }
      | none => .error ()

/-- What a move that is possible does. -/
inductive Stepped (N : Naming σ μ ρ) (s : Sys κ σ μ ρ) : Move κ σ μ → Sys κ σ μ ρ → Prop
  | began (k : κ) (snapshot : σ) (effects : List (Effect σ μ)) : s.todo k = none →
      (∀ row ∈ N.rows snapshot, row ∈ s.visible) →
      Stepped N s (.begin k snapshot effects)
        { s with todo := Function.update s.todo k (some effects) }
  | published (k : κ) (message : μ) (rest : List (Effect σ μ)) :
      s.todo k = some (.published message :: rest) →
      Stepped N s (.advance k) { s with
        todo := Function.update s.todo k (some rest)
        queue := s.queue ++ [(k, message)] }
  | committed (k : κ) (store : σ) (rest : List (Effect σ μ)) :
      s.todo k = some (.committed store :: rest) →
      Stepped N s (.advance k) { s with
        todo := Function.update s.todo k (some rest)
        visible := s.visible ++ N.rows store
        history := s.history ++ [.committed k] }
  | took (position : Nat) (k : κ) (message : μ) : (k, message) ∈ s.queue →
      Stepped N s (.take position)
        { s with history := s.history ++ [.took k message (N.finds message s.visible)] }

theorem stepped_of_step {s s' : Sys κ σ μ ρ} {move : Move κ σ μ} (h : step N s move = .ok s') :
    Stepped N s move s' := by
  cases move with
  | begin k snapshot effects =>
      simp only [step] at h
      split at h
      · rename_i hcan
        cases h
        exact .began k snapshot effects hcan.1 hcan.2
      · cases h
  | advance k =>
      simp only [step] at h
      split at h
      · rename_i message rest htodo
        cases h
        exact .published k message rest htodo
      · rename_i store rest htodo
        cases h
        exact .committed k store rest htodo
      · cases h
  | take position =>
      simp only [step] at h
      split at h
      · rename_i k message hqueue
        cases h
        exact .took position k message (List.mem_of_getElem? hqueue)
      · cases h

/-! ## A grounded process is safe -/

/-- What stays true of a process: before it begins it has published nothing, and once it has
begun there are rows that it knows to be committed, on which the rest of its effects and
the messages in the queue rest. -/
structure Inv (N : Naming σ μ ρ) (k : κ) (s : Sys κ σ μ ρ) : Prop where
  keeps : Keeps N k s.history
  idle : s.todo k = none → (∀ message, (k, message) ∉ s.queue) ∧
    ∀ message, .took k message false ∉ s.history
  underway : ∀ rest, s.todo k = some rest → ∃ known : List ρ, (∀ row ∈ known, row ∈ s.visible) ∧
    Grounded N known rest ∧ (∀ message, (k, message) ∈ s.queue → MayPublish N known message rest) ∧
    ((∃ message, .took k message false ∈ s.history) → ∀ store, .committed store ∉ rest)

omit [DecidableEq κ] in
theorem inv_start (k : κ) (visible : List ρ) : Inv N k (Sys.start visible : Sys κ σ μ ρ) where
  keeps := keeps_nil k
  idle _ := ⟨fun _ h => absurd h List.not_mem_nil, fun _ h => absurd h List.not_mem_nil⟩
  underway _ h := by cases h

theorem inv_began {k j : κ} {s : Sys κ σ μ ρ} {snapshot : σ} {effects : List (Effect σ μ)}
    (hinv : Inv N k s) (hidle : s.todo j = none) (hrows : ∀ row ∈ N.rows snapshot, row ∈ s.visible)
    (hgrounded : j = k → Grounded N (N.rows snapshot) effects) :
    Inv N k { s with todo := Function.update s.todo j (some effects) } := by
  by_cases hj : j = k
  · subst hj
    obtain ⟨hqueue, hhistory⟩ := hinv.idle hidle
    refine ⟨hinv.keeps, fun h => ?_, fun rest h => ?_⟩
    · simp only [Function.update_self] at h
      cases h
    · simp only [Function.update_self] at h
      cases h
      refine ⟨N.rows snapshot, hrows, hgrounded rfl, ?_, ?_⟩
      · exact fun message hmem => absurd hmem (hqueue message)
      · rintro ⟨message, hmem⟩
        exact absurd hmem (hhistory message)
  · have hsame : Function.update s.todo j (some effects) k = s.todo k :=
      Function.update_of_ne (fun h => hj h.symm) _ _
    exact ⟨hinv.keeps, fun h => hinv.idle (hsame.symm.trans h),
      fun rest h => hinv.underway rest (hsame.symm.trans h)⟩

theorem inv_published {k j : κ} {s : Sys κ σ μ ρ} {message : μ} {rest : List (Effect σ μ)}
    (hinv : Inv N k s) (htodo : s.todo j = some (.published message :: rest)) :
    Inv N k { s with
      todo := Function.update s.todo j (some rest), queue := s.queue ++ [(j, message)] } := by
  by_cases hj : j = k
  · subst hj
    refine ⟨hinv.keeps, fun h => ?_, fun rest' h => ?_⟩
    · simp only [Function.update_self] at h
      cases h
    · simp only [Function.update_self] at h
      cases h
      obtain ⟨known, hknown, hgrounded, hqueue, hmissed⟩ := hinv.underway _ htodo
      refine ⟨known, hknown, hgrounded.2, ?_, ?_⟩
      · intro m hm
        rcases List.mem_append.mp hm with hm | hm
        · exact (hqueue m hm).later
        · cases List.mem_singleton.mp hm
          exact hgrounded.1
      · exact fun hmiss store hmem => hmissed hmiss store (List.mem_cons_of_mem _ hmem)
  · have hsame : Function.update s.todo j (some rest) k = s.todo k :=
      Function.update_of_ne (fun h => hj h.symm) _ _
    have hold : ∀ m, (k, m) ∈ s.queue ++ [(j, message)] → (k, m) ∈ s.queue := by
      intro m hm
      rcases List.mem_append.mp hm with hm | hm
      · exact hm
      · cases List.mem_singleton.mp hm
        exact absurd rfl hj
    refine ⟨hinv.keeps, fun h => ?_, fun rest' h => ?_⟩
    · obtain ⟨hqueue, hhistory⟩ := hinv.idle (hsame.symm.trans h)
      exact ⟨fun m hm => hqueue m (hold m hm), hhistory⟩
    · obtain ⟨known, hknown, hgrounded, hqueue, hmissed⟩ := hinv.underway rest' (hsame.symm.trans h)
      exact ⟨known, hknown, hgrounded, fun m hm => hqueue m (hold m hm), hmissed⟩

theorem inv_committed {k j : κ} {s : Sys κ σ μ ρ} {store : σ} {rest : List (Effect σ μ)}
    (hinv : Inv N k s) (htodo : s.todo j = some (.committed store :: rest)) :
    Inv N k { s with
      todo := Function.update s.todo j (some rest)
      visible := s.visible ++ N.rows store
      history := s.history ++ [.committed j] } := by
  have hold : ∀ m, Event.took k m false ∈ s.history ++ [.committed j] →
      Event.took k m false ∈ s.history := by
    intro m hm
    rcases List.mem_append.mp hm with hm | hm
    · exact hm
    · cases List.mem_singleton.mp hm
  by_cases hj : j = k
  · subst hj
    obtain ⟨known, hknown, hgrounded, hqueue, hmissed⟩ := hinv.underway _ htodo
    -- a commit is still to come, so nothing has been missed
    have hnone : ∀ m, Event.took j m false ∉ s.history :=
      fun m hm => hmissed ⟨m, hm⟩ store List.mem_cons_self
    refine ⟨keeps_committed hinv.keeps (fun _ => hnone), fun h => ?_, fun rest' h => ?_⟩
    · simp only [Function.update_self] at h
      cases h
    · simp only [Function.update_self] at h
      cases h
      refine ⟨known ++ N.rows store, ?_, hgrounded, ?_, ?_⟩
      · intro row hrow
        rcases List.mem_append.mp hrow with hrow | hrow
        · exact List.mem_append_left _ (hknown row hrow)
        · exact List.mem_append_right _ hrow
      · exact fun m hm => Or.inl
          (finds_mono (fun row hrow => List.mem_append_left _ hrow) (hqueue m hm).finds)
      · rintro ⟨m, hm⟩
        exact absurd (hold m hm) (hnone m)
  · have hsame : Function.update s.todo j (some rest) k = s.todo k :=
      Function.update_of_ne (fun h => hj h.symm) _ _
    refine ⟨keeps_committed hinv.keeps (fun h => absurd h hj), fun h => ?_, fun rest' h => ?_⟩
    · obtain ⟨hqueue, hhistory⟩ := hinv.idle (hsame.symm.trans h)
      exact ⟨hqueue, fun m hm => hhistory m (hold m hm)⟩
    · obtain ⟨known, hknown, hgrounded, hqueue, hmissed⟩ := hinv.underway rest' (hsame.symm.trans h)
      refine ⟨known, fun row hrow => List.mem_append_left _ (hknown row hrow), hgrounded,
        hqueue, ?_⟩
      rintro ⟨m, hm⟩
      exact hmissed ⟨m, hold m hm⟩

theorem inv_took {k j : κ} {s : Sys κ σ μ ρ} {message : μ} (hinv : Inv N k s)
    (hqueued : (j, message) ∈ s.queue) :
    Inv N k { s with history := s.history ++ [.took j message (N.finds message s.visible)] } := by
  by_cases hj : j = k
  · subst hj
    cases htodo : s.todo j with
    | none => exact absurd hqueued ((hinv.idle htodo).1 message)
    | some rest =>
        obtain ⟨known, hknown, hgrounded, hqueue, hmissed⟩ := hinv.underway _ htodo
        -- a miss now means that the message may be missed for good
        have hmiss : N.finds message s.visible = false →
            N.strict message = false ∧ ∀ store, .committed store ∉ rest := by
          intro hno
          rcases hqueue message hqueued with hfinds | hmay
          · rw [finds_mono hknown hfinds] at hno
            cases hno
          · exact hmay
        refine ⟨keeps_took hinv.keeps (fun _ hno => (hmiss hno).1), fun h => ?_, fun rest' h => ?_⟩
        · rw [htodo] at h
          cases h
        · rw [htodo] at h
          cases h
          refine ⟨known, hknown, hgrounded, hqueue, ?_⟩
          rintro ⟨m, hm⟩
          rcases List.mem_append.mp hm with hm | hm
          · exact hmissed ⟨m, hm⟩
          · obtain ⟨-, -, hno⟩ := Event.took.inj (List.mem_singleton.mp hm)
            exact (hmiss hno.symm).2
  · have hold : ∀ m, Event.took k m false ∈
        s.history ++ [.took j message (N.finds message s.visible)] →
        Event.took k m false ∈ s.history := by
      intro m hm
      rcases List.mem_append.mp hm with hm | hm
      · exact hm
      · obtain ⟨hk, -⟩ := Event.took.inj (List.mem_singleton.mp hm)
        exact absurd hk.symm hj
    refine ⟨keeps_took hinv.keeps (fun h => absurd h hj), fun h => ?_, fun rest h => ?_⟩
    · obtain ⟨hqueue, hhistory⟩ := hinv.idle h
      exact ⟨hqueue, fun m hm => hhistory m (hold m hm)⟩
    · obtain ⟨known, hknown, hgrounded, hqueue, hmissed⟩ := hinv.underway rest h
      refine ⟨known, hknown, hgrounded, hqueue, ?_⟩
      rintro ⟨m, hm⟩
      exact hmissed ⟨m, hold m hm⟩

/-- A move begins a process on these terms, or is not the beginning of that process. -/
def Begins (k : κ) (snapshot : σ) (effects : List (Effect σ μ)) (move : Move κ σ μ) : Prop :=
  ∀ snapshot' effects', move = .begin k snapshot' effects' →
    snapshot' = snapshot ∧ effects' = effects

/-- In every interleaving with any other processes and consumers, the messages of a process
that begins on this snapshot and has these effects do no harm. -/
def Safe (N : Naming σ μ ρ) (k : κ) (snapshot : σ) (effects : List (Effect σ μ)) : Prop :=
  ∀ visible moves, (∀ move ∈ moves, Begins k snapshot effects move) →
    Keeps N k (run (step N) (Sys.start visible) moves).history

theorem inv_step {k : κ} {snapshot : σ} {effects : List (Effect σ μ)} {s s' : Sys κ σ μ ρ}
    {move : Move κ σ μ} (hgrounded : Grounded N (N.rows snapshot) effects) (hinv : Inv N k s)
    (hbegins : Begins k snapshot effects move) (h : step N s move = .ok s') : Inv N k s' := by
  cases stepped_of_step h with
  | began j snapshot' effects' hidle hrows =>
      refine inv_began hinv hidle hrows ?_
      rintro rfl
      obtain ⟨rfl, rfl⟩ := hbegins snapshot' effects' rfl
      exact hgrounded
  | published j message rest htodo => exact inv_published hinv htodo
  | committed j store rest htodo => exact inv_committed hinv htodo
  | took position j message hqueued => exact inv_took hinv hqueued

/-- A grounded process is safe in every interleaving. -/
theorem keeps_of_grounded {k : κ} {snapshot : σ} {effects : List (Effect σ μ)}
    (hgrounded : Grounded N (N.rows snapshot) effects) {visible : List ρ}
    {moves : List (Move κ σ μ)} (hbegins : ∀ move ∈ moves, Begins k snapshot effects move) :
    Keeps N k (run (step N) (Sys.start visible) moves).history :=
  (run_inv (step N) (I := Inv N k) (C := fun _ => Begins k snapshot effects)
    (fun _ _ _ hinv hbegin h => inv_step hgrounded hinv hbegin h) moves _ (inv_start k visible)
    (along_of_forall (step N) (fun move hmove _ => hbegins move hmove) _)).keeps

/-! ## A process that is not grounded can be harmed -/

theorem advance_published {k : κ} {s : Sys κ σ μ ρ} {message : μ} {rest : List (Effect σ μ)}
    (h : s.todo k = some (.published message :: rest)) :
    attempt (step N) s (.advance k) = { s with
      todo := Function.update s.todo k (some rest), queue := s.queue ++ [(k, message)] } := by
  simp only [attempt, step, h]

theorem advance_committed {k : κ} {s : Sys κ σ μ ρ} {store : σ} {rest : List (Effect σ μ)}
    (h : s.todo k = some (.committed store :: rest)) :
    attempt (step N) s (.advance k) = { s with
      todo := Function.update s.todo k (some rest)
      visible := s.visible ++ N.rows store
      history := s.history ++ [.committed k] } := by
  simp only [attempt, step, h]

/-- A process that still commits, after one of its messages was missed, commits too late. -/
theorem harm_of_missed {k : κ} {message : μ} {store : σ} (rest : List (Effect σ μ)) :
    ∀ s : Sys κ σ μ ρ, s.todo k = some rest → .committed store ∈ rest →
      .took k message false ∈ s.history →
      ∃ n, ¬ Keeps N k (run (step N) s (List.replicate n (.advance k))).history := by
  induction rest with
  | nil =>
      intro s _ hmem
      cases hmem
  | cons effect rest ih =>
      intro s htodo hmem hmissed
      cases effect with
      | published other =>
          have hrest : .committed store ∈ rest := by
            rcases List.mem_cons.mp hmem with h | h
            · cases h
            · exact h
          obtain ⟨n, hn⟩ := ih (attempt (step N) s (.advance k))
            (by rw [advance_published htodo]; exact Function.update_self _ _ _) hrest
            (by rw [advance_published htodo]; exact hmissed)
          exact ⟨n + 1, hn⟩
      | committed store' =>
          refine ⟨1, fun hkeeps => ?_⟩
          have hhistory : (run (step N) s (List.replicate 1 (.advance k))).history =
              s.history ++ [.committed k] := by
            show (attempt (step N) s (.advance k)).history = _
            rw [advance_committed htodo]
          have hlater := hkeeps.later
          rw [hhistory, List.pairwise_append] at hlater
          exact hlater.2.2 _ hmissed _ (List.mem_singleton.mpr rfl) message rfl rfl

/-- A harm that is possible after the process has advanced is possible before. -/
theorem harm_of_advance {k : κ} {s : Sys κ σ μ ρ}
    (h : ∃ moves, (∀ move ∈ moves, ∀ snapshot effects, move ≠ .begin k snapshot effects) ∧
      ¬ Keeps N k (run (step N) (attempt (step N) s (.advance k)) moves).history) :
    ∃ moves, (∀ move ∈ moves, ∀ snapshot effects, move ≠ .begin k snapshot effects) ∧
      ¬ Keeps N k (run (step N) s moves).history := by
  obtain ⟨moves, hno, hharm⟩ := h
  refine ⟨.advance k :: moves, ?_, hharm⟩
  rintro move (_ | ⟨_, hmem⟩)
  · exact fun _ _ h => by cases h
  · exact hno move hmem

/-- A message that may not be published yet is taken at once. -/
theorem harm_of_message {k : κ} {message : μ} {rest : List (Effect σ μ)} {s : Sys κ σ μ ρ}
    (htodo : s.todo k = some (.published message :: rest))
    (hbad : ¬ MayPublish N s.visible message rest) :
    ∃ moves, (∀ move ∈ moves, ∀ snapshot effects, move ≠ .begin k snapshot effects) ∧
      ¬ Keeps N k (run (step N) s moves).history := by
  have hadvance : ∀ snapshot effects, (.advance k : Move κ σ μ) ≠ .begin k snapshot effects :=
    fun _ _ h => by cases h
  obtain ⟨hfinds, hharm⟩ : N.finds message s.visible = false ∧
      (N.strict message = true ∨ ∃ store, .committed store ∈ rest) := by
    unfold MayPublish at hbad
    push Not at hbad
    refine ⟨Bool.eq_false_iff.mpr hbad.1, ?_⟩
    cases hstrict : N.strict message with
    | true => exact Or.inl rfl
    | false => exact Or.inr (hbad.2 hstrict)
  have htaken : run (step N) s [.advance k, .take s.queue.length] = { s with
      todo := Function.update s.todo k (some rest)
      queue := s.queue ++ [(k, message)]
      history := s.history ++ [.took k message false] } := by
    rw [run_cons, advance_published htodo]
    show attempt (step N) _ (.take s.queue.length) = _
    simp only [attempt, step, List.getElem?_concat_length, hfinds]
  have hmissed : .took k message false ∈
      (run (step N) s [.advance k, .take s.queue.length]).history := by
    rw [htaken]
    exact List.mem_append_right _ (List.mem_singleton.mpr rfl)
  have hmoves : ∀ move ∈ [.advance k, .take s.queue.length], ∀ snapshot effects,
      (move : Move κ σ μ) ≠ .begin k snapshot effects := by
    rintro move (_ | ⟨_, _ | ⟨_, hmem⟩⟩)
    · exact hadvance
    · exact fun _ _ h => by cases h
    · cases hmem
  rcases hharm with hstrict | ⟨store, hcommits⟩
  · refine ⟨_, hmoves, fun hkeeps => ?_⟩
    rw [hkeeps.strict message hmissed] at hstrict
    cases hstrict
  · obtain ⟨n, hn⟩ := harm_of_missed rest _
      (by rw [htaken]; exact Function.update_self _ _ _) hcommits hmissed
    refine ⟨[.advance k, .take s.queue.length] ++ List.replicate n (.advance k), ?_,
      by rw [run_append]; exact hn⟩
    intro move hmem
    rcases List.mem_append.mp hmem with hmem | hmem
    · exact hmoves move hmem
    · rw [(List.mem_replicate.mp hmem).2]
      exact hadvance

/-- From the first message that may not be published yet, a consumer that is quick harms the
process. -/
theorem harm_of_not_grounded {k : κ} (rest : List (Effect σ μ)) :
    ∀ s : Sys κ σ μ ρ, s.todo k = some rest → ¬ Grounded N s.visible rest →
      ∃ moves, (∀ move ∈ moves, ∀ snapshot effects, move ≠ .begin k snapshot effects) ∧
        ¬ Keeps N k (run (step N) s moves).history := by
  induction rest with
  | nil =>
      intro s _ hnot
      exact absurd trivial hnot
  | cons effect rest ih =>
      intro s htodo hnot
      cases effect with
      | committed store =>
          have hnext := advance_committed (N := N) htodo
          refine harm_of_advance (ih _ ?_ ?_)
          · rw [hnext]
            exact Function.update_self _ _ _
          · rw [hnext]
            exact hnot
      | published message =>
          by_cases hmay : MayPublish N s.visible message rest
          · have hnext := advance_published (N := N) htodo
            refine harm_of_advance (ih _ ?_ ?_)
            · rw [hnext]
              exact Function.update_self _ _ _
            · rw [hnext]
              exact fun hrest => hnot ⟨hmay, hrest⟩
          · exact harm_of_message htodo hmay

/-- **A process is safe exactly when it is grounded:** each of its messages is published when
it may be. -/
theorem safe_iff_grounded (N : Naming σ μ ρ) (k : κ) (snapshot : σ) (effects : List (Effect σ μ)) :
    Safe N k snapshot effects ↔ Grounded N (N.rows snapshot) effects := by
  constructor
  · intro hsafe
    by_contra hnot
    obtain ⟨s, hs⟩ : ∃ s : Sys κ σ μ ρ, s = { (Sys.start (N.rows snapshot) : Sys κ σ μ ρ) with
        todo := Function.update (fun _ => none) k (some effects) } := ⟨_, rfl⟩
    have hbegun : attempt (step N) (Sys.start (N.rows snapshot) : Sys κ σ μ ρ)
        (.begin k snapshot effects) = s := by
      simp [attempt, step, Sys.start, hs]
    have htodo : s.todo k = some effects := by
      simp [hs]
    obtain ⟨moves, hno, hharm⟩ := harm_of_not_grounded effects s htodo (by rw [hs]; exact hnot)
    rw [← hbegun] at hharm
    refine hharm (hsafe (N.rows snapshot) (.begin k snapshot effects :: moves) ?_)
    intro move hmem
    rcases List.mem_cons.mp hmem with rfl | hmem
    · intro snapshot' effects' h
      cases h
      exact ⟨rfl, rfl⟩
    · exact fun snapshot' effects' h => absurd h (hno move hmem snapshot' effects')
  · intro hgrounded visible moves hbegins
    exact keeps_of_grounded hgrounded hbegins

end OpenSoar.Outbox
