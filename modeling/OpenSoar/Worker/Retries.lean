/-
# `OpenSoar.Worker.Retries` — a sequence task together with its retries

`execute_playbook_sequence_task` with `max_retries=3`: an attempt that ends with an `Exception`
is published again as a whole, three times at most.  Runs commit one by one, so an attempt
that raises after some of its playbooks has invoked those, and the next attempt begins with
the first name again.

Every attempt meets a world of its own (`AttemptEnv`): the registry that the worker loads, the
database as the others have left it, and what becomes of each statement.
-/
import OpenSoar.Core.Runs
import OpenSoar.Worker.Tasks

namespace OpenSoar

open Python Retry

/-- What one attempt meets; `call` is what the run at a position meets. -/
structure AttemptEnv (α : Type) where
  registry : PlaybookRegistry
  newId : String → Uuid
  syncCommit : Except Raised Unit
  sequenceId : Uuid
  call : Nat → RunCall α
  context : ProcessContext
  db : Db
  publishRetry : Except Raised Unit

/-- `max_retries`. -/
def maxRetries : Nat := 3

variable {α : Type}

/-- The loop of `_execute_sequence` from a position on: the playbooks whose functions it
invokes, and how it ends. -/
def runFrom (env : AttemptEnv α) (alertId : Option Uuid) (total : Nat) :
    (position : Nat) → (names : List String) → ProcessContext → Db →
      List String × Except Escaped Unit
  | _, [], _, _ => ([], .ok ())
  | position, name :: names, context, db =>
      match env.registry.find? name with
      | none => ([], .error (.exception (notInRegistry name)))
      | some pb =>
          let out := executeRun pb.name
            ⟨alertId, none, some env.sequenceId, some position, some total⟩ (env.call position)
            context db
          let here := if out.invoked then [name] else []
          match out.answer with
          | .error e => (here, .error e)
          | .ok _ =>
              let rest := runFrom env alertId total (position + 1) names out.context out.db
              (here ++ rest.1, rest.2)

/-- `_execute_sequence`. -/
def attemptSequence (env : AttemptEnv α) (names : List String) (alertId : Option Uuid) :
    List String × Except Escaped Unit :=
  match syncToDb env.newId env.registry env.db with
  | .error e => ([], .error (.exception e))
  | .ok synced =>
      match env.syncCommit with
      | .error e => ([], .error (.exception e))
      | .ok _ => runFrom env alertId names.length 1 names env.context synced

/-- The task, with the number of its retry: `self.retry` publishes the next attempt, or raises
the exception when the retries are used up. -/
def sequenceAttempt (env : Nat → AttemptEnv α) (names : List String) (alertId : Option Uuid)
    (retry : Nat) (log : List (List String)) :
    Verdict (Except Escaped Unit) × List (List String) :=
  let ran := attemptSequence (env retry) names alertId
  match ran.2 with
  | .ok _ => (.stop (.ok ()), log ++ [ran.1])
  | .error (.exit reason) => (.stop (.error (.exit reason)), log ++ [ran.1])
  | .error (.exception e) =>
      if retry < maxRetries then
        match (env retry).publishRetry with
        | .ok _ => (.again, log ++ [ran.1])
        | .error refused => (.stop (.error (.exception refused)), log ++ [ran.1])
      else (.stop (.error (.exception e)), log ++ [ran.1])

/-- One delivery with the retries it schedules: the playbooks invoked, attempt by attempt. -/
def deliverSequence (env : Nat → AttemptEnv α) (names : List String) (alertId : Option Uuid) :
    List (List String) :=
  (attempts (sequenceAttempt env names alertId) (maxRetries + 1) 0 []).2

/-! ## One attempt -/

theorem invoked_of_answer {name : String} {request : RunRequest} {call : RunCall α}
    {context : ProcessContext} {db : Db} {run : RunRow α}
    (h : (executeRun name request call context db).answer = .ok run) :
    (executeRun name request call context db).invoked = true := by
  unfold executeRun at h ⊢
  split
  · rename_i hprepared
    simp only [hprepared] at h
    cases h
  · cases call.commit <;> rfl

/-- An attempt invokes its playbooks from the first name on, in order. -/
theorem runFrom_prefix (env : AttemptEnv α) (alertId : Option Uuid) (total position : Nat)
    (names : List String) (context : ProcessContext) (db : Db) :
    (runFrom env alertId total position names context db).1 <+: names := by
  induction names generalizing position context db with
  | nil => exact List.prefix_refl _
  | cons name names ih =>
      simp only [runFrom]
      split
      · exact List.nil_prefix
      · rename_i pb _
        split
        · split
          · exact List.cons_prefix_cons.mpr ⟨rfl, List.nil_prefix⟩
          · exact List.nil_prefix
        · rename_i run hanswer
          rw [if_pos (invoked_of_answer hanswer)]
          exact List.cons_prefix_cons.mpr ⟨rfl, ih _ _ _⟩

theorem attemptSequence_prefix (env : AttemptEnv α) (names : List String)
    (alertId : Option Uuid) : (attemptSequence env names alertId).1 <+: names := by
  unfold attemptSequence
  split
  · exact List.nil_prefix
  · split
    · exact List.nil_prefix
    · exact runFrom_prefix env alertId _ _ names _ _

/-! ## A delivery -/

/-- What a delivery and its retries do. -/
structure Delivered (env : Nat → AttemptEnv α) (names : List String) (alertId : Option Uuid)
    (log : List (List String)) : Prop where
  bounded : log.length ≤ maxRetries + 1
  attempts : log = (List.range log.length).map (fun n => (attemptSequence (env n) names alertId).1)
  retried : ∀ n, n + 1 < log.length →
    ∃ e, (attemptSequence (env n) names alertId).2 = .error (.exception e)

theorem sequenceAttempt_log (env : Nat → AttemptEnv α) (names : List String)
    (alertId : Option Uuid) (n : Nat) (log : List (List String)) :
    (sequenceAttempt env names alertId n log).2 =
      log ++ [(attemptSequence (env n) names alertId).1] := by
  simp only [sequenceAttempt]
  split
  · rfl
  · rfl
  · split
    · split <;> rfl
    · rfl

theorem sequenceAttempt_again {env : Nat → AttemptEnv α} {names : List String}
    {alertId : Option Uuid} {n : Nat} {log log' : List (List String)}
    (h : sequenceAttempt env names alertId n log = (.again, log')) :
    ∃ e, (attemptSequence (env n) names alertId).2 = .error (.exception e) := by
  simp only [sequenceAttempt] at h
  split at h
  · cases h
  · cases h
  · rename_i e he
    exact ⟨e, he⟩

/-- So many attempts, each but the last ended by an exception. -/
theorem delivered_of_attempts {env : Nat → AttemptEnv α} {names : List String}
    {alertId : Option Uuid} {count : Nat} (hcount : count ≤ maxRetries + 1)
    (hfailed : ∀ n, n + 1 < count →
      ∃ e, (attemptSequence (env n) names alertId).2 = .error (.exception e)) :
    Delivered env names alertId
      ((List.range count).map (fun n => (attemptSequence (env n) names alertId).1)) := by
  have hlength : ((List.range count).map
      (fun n => (attemptSequence (env n) names alertId).1)).length = count := by
    rw [List.length_map, List.length_range]
  refine ⟨?_, ?_, ?_⟩
  · rw [hlength]
    exact hcount
  · rw [hlength]
  · rw [hlength]
    exact hfailed

theorem delivered (env : Nat → AttemptEnv α) (names : List String) (alertId : Option Uuid) :
    Delivered env names alertId (deliverSequence env names alertId) := by
  have hsnoc : ∀ n, (List.range (n + 1)).map (fun m => (attemptSequence (env m) names alertId).1) =
      (List.range n).map (fun m => (attemptSequence (env m) names alertId).1) ++
        [(attemptSequence (env n) names alertId).1] := by
    intro n
    rw [List.range_succ, List.map_append, List.map_singleton]
  have hends : Ends
      (fun n log => log = (List.range n).map (fun m => (attemptSequence (env m) names alertId).1) ∧
        ∀ m, m < n → ∃ e, (attemptSequence (env m) names alertId).2 = .error (.exception e))
      (fun n _ log => log = (List.range (n + 1)).map
          (fun m => (attemptSequence (env m) names alertId).1) ∧
        ∀ m, m < n → ∃ e, (attemptSequence (env m) names alertId).2 = .error (.exception e))
      0 (maxRetries + 1)
      (attempts (sequenceAttempt env names alertId) (maxRetries + 1) 0 []) := by
    refine attempts_rule (maxRetries + 1) ?_ ?_ _ 0 _ (by omega) ?_
    · rintro n log log' - ⟨rfl, hfailed⟩ hbody
      refine ⟨?_, fun m hm => ?_⟩
      · rw [hsnoc, ← sequenceAttempt_log env names alertId n, hbody]
      · rcases Nat.lt_succ_iff_lt_or_eq.mp hm with hm | rfl
        · exact hfailed m hm
        · exact sequenceAttempt_again hbody
    · rintro n log log' result - ⟨rfl, hfailed⟩ hbody
      refine ⟨?_, hfailed⟩
      rw [hsnoc, ← sequenceAttempt_log env names alertId n, hbody]
    · exact ⟨rfl, fun m hm => by omega⟩
  unfold deliverSequence
  generalize attempts (sequenceAttempt env names alertId) (maxRetries + 1) 0 [] = out at hends
  cases hends with
  | stopped k result log _ hlt h =>
      obtain ⟨rfl, hfailed⟩ := h
      exact delivered_of_attempts (by omega) (fun n hn => hfailed n (by omega))
  | exhausted log h =>
      obtain ⟨rfl, hfailed⟩ := h
      exact delivered_of_attempts (by omega) (fun n hn => hfailed n (by omega))

/-! ## How often a playbook is invoked -/

section Prefixes

variable {names : List String} {log : List (List String)}

/-- No attempt invokes a playbook twice, so none is invoked more often than there are attempts
that invoke anything. -/
theorem count_flatten_le (hnodup : names.Nodup) (hlog : ∀ invoked ∈ log, invoked <+: names)
    (name : String) : log.flatten.count name ≤ log.countP (fun invoked => !invoked.isEmpty) := by
  induction log with
  | nil => exact le_rfl
  | cons invoked log ih =>
      have hrest := ih (fun l hl => hlog l (List.mem_cons_of_mem _ hl))
      have hone : invoked.count name ≤ 1 :=
        List.nodup_iff_count_le_one.mp ((hlog invoked List.mem_cons_self).sublist.nodup hnodup) name
      rw [List.flatten_cons, List.count_append, List.countP_cons]
      cases invoked with
      | nil =>
          simp only [List.count_nil, List.isEmpty_nil, Bool.not_true, Bool.false_eq_true, if_false]
          omega
      | cons first more =>
          simp only [List.isEmpty_cons, Bool.not_false, if_true]
          omega

/-- Every attempt that invokes anything invokes the first playbook. -/
theorem count_flatten_first {first : String} {others : List String}
    (hnodup : (first :: others).Nodup) (hlog : ∀ invoked ∈ log, invoked <+: first :: others) :
    log.flatten.count first = log.countP (fun invoked => !invoked.isEmpty) := by
  induction log with
  | nil => rfl
  | cons invoked log ih =>
      have hrest := ih (fun l hl => hlog l (List.mem_cons_of_mem _ hl))
      have hparts := hlog invoked List.mem_cons_self
      rw [List.flatten_cons, List.count_append, List.countP_cons, hrest]
      cases invoked with
      | nil => simp
      | cons name more =>
          obtain ⟨rfl, hmore⟩ := List.cons_prefix_cons.mp hparts
          have hnone : more.count name = 0 :=
            List.count_eq_zero.mpr (fun h => (List.nodup_cons.mp hnodup).1 (hmore.subset h))
          simp only [List.count_cons_self, hnone, List.isEmpty_cons, Bool.not_false, if_true]
          omega

end Prefixes

/-- What holds of a delivery and its retries: the attempts are four at most, each but the last
raised an `Exception`, none invokes a playbook twice, and no playbook is invoked twice in all
exactly when no two attempts invoke anything. -/
structure InvokedAtMost (env : Nat → AttemptEnv α) (names : List String) (alertId : Option Uuid) :
    Prop where
  delivered : Delivered env names alertId (deliverSequence env names alertId)
  perAttempt : ∀ invoked ∈ deliverSequence env names alertId,
    invoked <+: names ∧ ∀ name, invoked.count name ≤ 1
  inAll : ∀ name, (deliverSequence env names alertId).flatten.count name ≤ maxRetries + 1
  once_iff : (∀ name, (deliverSequence env names alertId).flatten.count name ≤ 1) ↔
    (deliverSequence env names alertId).countP (fun invoked => !invoked.isEmpty) ≤ 1

/-- **How often a sequence task invokes its playbooks**, with all the retries it schedules. -/
theorem sequence_invokes_at_most (env : Nat → AttemptEnv α) (names : List String)
    (alertId : Option Uuid) (hnodup : names.Nodup) : InvokedAtMost env names alertId := by
  have hdelivered := delivered env names alertId
  have hparts : ∀ invoked ∈ deliverSequence env names alertId, invoked <+: names := by
    intro invoked hinvoked
    rw [hdelivered.attempts] at hinvoked
    obtain ⟨n, -, rfl⟩ := List.mem_map.mp hinvoked
    exact attemptSequence_prefix (env n) names alertId
  refine ⟨hdelivered, fun invoked hinvoked => ⟨hparts invoked hinvoked, fun name => ?_⟩,
    fun name => ?_, ?_, ?_⟩
  · exact List.nodup_iff_count_le_one.mp
      ((hparts invoked hinvoked).sublist.nodup hnodup) name
  · calc (deliverSequence env names alertId).flatten.count name
        ≤ (deliverSequence env names alertId).countP (fun invoked => !invoked.isEmpty) :=
          count_flatten_le hnodup hparts name
      _ ≤ (deliverSequence env names alertId).length := List.countP_le_length
      _ ≤ maxRetries + 1 := hdelivered.bounded
  · intro honce
    cases names with
    | nil =>
        -- without names nothing is invoked
        have hnone :
          (deliverSequence env [] alertId).countP (fun invoked => !invoked.isEmpty) = 0 := by
          refine List.countP_eq_zero.mpr (fun invoked hinvoked => ?_)
          rw [List.prefix_nil.mp (hparts invoked hinvoked)]
          simp
        omega
    | cons first others =>
        rw [← count_flatten_first hnodup hparts]
        exact honce first
  · intro hone name
    exact le_trans (count_flatten_le hnodup hparts name) hone

/-- A worker that knows only the first of two playbooks. -/
def halfRegistered : AttemptEnv Nat where
  registry := ⟨[samplePlaybook "isolate_host" "webhook" 10], List.nodup_singleton _⟩
  newId := fun _ => 4
  syncCommit := .ok ()
  sequenceId := 8
  call := fun _ => quietCall (.returned 1)
  context := ⟨none, none⟩
  db := isolateDb
  publishRetry := .ok ()

theorem deliverSequence_halfRegistered :
    deliverSequence (fun _ => halfRegistered) ["isolate_host", "notify_owner"] none =
      List.replicate 4 ["isolate_host"] := by
  decide +kernel

/-- A name that is missing from the worker's registry has the playbook before it executed four
times. -/
theorem isolation_is_repeated_by_retries :
    ¬ ∀ (env : Nat → AttemptEnv Nat) (names : List String) (alertId : Option Uuid), names.Nodup →
      ∀ name ∈ names, (deliverSequence env names alertId).flatten.count name ≤ 1 := by
  intro hclaim
  have honce := hclaim (fun _ => halfRegistered) ["isolate_host", "notify_owner"] none (by decide)
    "isolate_host" List.mem_cons_self
  rw [deliverSequence_halfRegistered] at honce
  simp [List.replicate] at honce

/-- The first attempt meets that worker, the next one a database that is down, and the last a
worker that knows both playbooks. -/
def recovering : Nat → AttemptEnv Nat
  | 0 => halfRegistered
  | 1 => { halfRegistered with syncCommit := .error (.runtimeError "connection refused") }
  | _ =>
      { halfRegistered with
        registry :=
          { rows := [samplePlaybook "isolate_host" "webhook" 10,
              samplePlaybook "notify_owner" "webhook" 20]
            nodup := by decide }
        newId := fun name => if name = "notify_owner" then 5 else 4 }

theorem recovering_is_invoked_at_most :
    InvokedAtMost recovering ["isolate_host", "notify_owner"] none ∧
      deliverSequence recovering ["isolate_host", "notify_owner"] none =
        [["isolate_host"], [], ["isolate_host", "notify_owner"]] :=
  ⟨sequence_invokes_at_most recovering ["isolate_host", "notify_owner"] none (by decide),
    by decide +kernel⟩

end OpenSoar
