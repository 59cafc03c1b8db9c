/-
# `OpenSoar.Worker.TraceSystem` — tasks that execute playbooks beside everything else

The store, the rows of `playbook_runs` and `action_results`, and the tasks that write them: a task
begins a run, its playbook records actions, commits and sets the correlation id of its context as
it likes, and the run ends, while other tasks and operations on the store come between.  A delivery
of a Celery task starts out with an empty context.

A run that nothing comes between is `executeRun` (`execute_finish_eq_executeRun`).
-/
import Mathlib.Logic.Function.Basic
import OpenSoar.Core.Runs
import OpenSoar.Retention.Ingested

namespace OpenSoar

open Python

variable {α : Type}

/-! ## Rows and sessions -/

/-- A row of `action_results`. -/
structure ActionResultRow (α : Type) extends ActionRecord α where
  id : Uuid
  runId : Uuid
  correlationId : Option Uuid

/-- `record_action`, as `execute` defines it for a run. -/
def RunRow.recordAction (run : RunRow α) (id : Uuid) (entry : ActionRecord α) :
    ActionResultRow α where
  toActionRecord := entry
  id := id
  runId := run.id
  correlationId := run.correlationId

/-- A task in the middle of `execute`: the row of its run, what it has recorded since its last
commit, and `cid_token`. -/
structure OpenRun (α : Type) where
  task : Nat
  run : RunRow α
  call : RunCall α
  actions : List (ActionResultRow α)
  cidToken : Option Uuid

/-- The row at the end of `execute`. -/
def OpenRun.finished (session : OpenRun α) (ended : FunctionEnd α) : RunRow α :=
  { session.run.ended session.call.isDict ended with
    finishedAt := some session.call.finishedAt }

/-- The store with the runs and action results that are committed, the sessions of the tasks, and
the context of each task. -/
structure TraceSystem (α : Type) where
  store : Store
  runs : List (RunRow α)
  actions : List (ActionResultRow α)
  sessions : List (OpenRun α)
  contexts : Nat → ProcessContext

namespace TraceSystem

def start (store : Store) : TraceSystem α where
  store := store
  runs := []
  actions := []
  sessions := []
  contexts := fun _ => ⟨none, none⟩

/-- The rows of runs that are inserted, committed or not. -/
def rows (s : TraceSystem α) : List (RunRow α) := s.runs ++ s.sessions.map OpenRun.run

/-- The store as a delete finds it: an insert that is not committed locks its alert. -/
def locked (s : TraceSystem α) : Store := { s.store with runs := s.rows.map RunRow.summary }

def session? (s : TraceSystem α) (task : Nat) : Option (OpenRun α) :=
  s.sessions.find? (fun session => session.task == task)

/-- The sessions of the other tasks. -/
def others (s : TraceSystem α) (task : Nat) : List (OpenRun α) :=
  s.sessions.filter (fun session => session.task != task)

/-- A commit: the row of the run as it is now, and what was recorded. -/
def committed (s : TraceSystem α) (run : RunRow α) (actions : List (ActionResultRow α)) :
    TraceSystem α :=
  { s with
    runs := s.runs.filter (fun row => row.id != run.id) ++ [run]
    actions := s.actions ++ actions }

end TraceSystem

/-! ## Steps -/

inductive TraceOp (α : Type) where
  /-- An operation on the store. -/
  | store (op : StoreOp)
  /-- The playbooks are synchronised or changed. -/
  | playbooks (table : PlaybookTable)
  /-- `execute`, up to the call of the playbook's function. -/
  | execute (task : Nat) (name : String) (request : RunRequest) (call : RunCall α)
  /-- An action calls the recorder of its execution context. -/
  | recordAction (task : Nat) (id : Uuid) (entry : ActionRecord α)
  /-- The function sets the context variable. -/
  | setCorrelationId (task : Nat) (cid : Option Uuid)
  /-- The function commits. -/
  | commit (task : Nat)
  /-- The function ends, and `execute` with it. -/
  | finish (task : Nat) (ended : FunctionEnd α)
  /-- The worker dies, and the task is delivered again. -/
  | crash (task : Nat)

/-- What `uuid4` gives for correlation ids. -/
def TraceOp.drawn : TraceOp α → List Uuid
  | .store op => (op.ingest.map WebhookCall.correlationId).toList
  | .execute _ _ _ call => [call.newCorrelationId]
  | _ => []

inductive TraceRefused where
  | store (e : RetentionRaised)
  | run (e : Raised)
  | notExecuting
  | executing

def traceStep (py : PyText) (app : App) (s : TraceSystem α) :
    TraceOp α → Except TraceRefused (TraceSystem α)
  | .store op =>
      ((storeStep py app s.locked op).map (fun store => { s with store := store })).mapError .store
  | .playbooks table => .ok { s with store := { s.store with playbooks := table } }
  | .execute task name request call =>
      match s.session? task with
      | some _ => .error .executing
      | none =>
          match prepareRun name request call (s.contexts task) s.store.db with
          | .error e => .error (.run e)
          | .ok (run, _) =>
              if s.rows.any (fun row => row.id == run.id) then
                .error (.run (.refusedByDatabase
                  "duplicate key value violates unique constraint pk_playbook_runs"))
              else .ok { s with
                sessions := s.sessions ++ [⟨task, run, call, [], (s.contexts task).correlationId⟩]
                contexts := Function.update s.contexts task (call.context run) }
  | .recordAction task id entry =>
      match s.session? task with
      | none => .error .notExecuting
      | some session => .ok { s with
          sessions := s.others task ++
            [{ session with actions := session.actions ++ [session.run.recordAction id entry] }] }
  | .setCorrelationId task cid =>
      match s.session? task with
      | none => .error .notExecuting
      | some _ => .ok { s with
          contexts := Function.update s.contexts task
            { s.contexts task with correlationId := cid } }
  | .commit task =>
      match s.session? task with
      | none => .error .notExecuting
      | some session => .ok { s.committed session.run session.actions with
          sessions := s.others task ++ [{ session with actions := [] }] }
  | .finish task ended =>
      match s.session? task with
      | none => .error .notExecuting
      | some session =>
          let left : TraceSystem α := { s with
            sessions := s.others task
            contexts := Function.update s.contexts task ⟨none, session.cidToken⟩ }
          match session.call.commit with
          | .ok _ => .ok (left.committed (session.finished ended) session.actions)
          | .error _ => .ok left
  | .crash task => .ok { s with
      sessions := s.others task
      contexts := Function.update s.contexts task ⟨none, none⟩ }

/-! ## Sessions -/

namespace TraceSystem

variable {s : TraceSystem α} {task : Nat} {session : OpenRun α}

theorem session?_mem (h : s.session? task = some session) :
    session ∈ s.sessions ∧ session.task = task := by
  have hfound : s.sessions.find? (fun session => session.task == task) = some session := h
  have htask := List.find?_some hfound
  exact ⟨List.mem_of_find?_eq_some hfound, beq_iff_eq.mp htask⟩

/-- A task that begins a run has a session. -/
theorem session?_append (h : s.session? task = none) (hsession : session.task = task) :
    (s.sessions ++ [session]).find? (fun session => session.task == task) = some session := by
  rw [List.find?_append]
  have hnone : s.sessions.find? (fun session => session.task == task) = none := h
  rw [hnone, Option.none_or, List.find?_singleton, hsession, beq_self_eq_true]
  rfl

end TraceSystem

/-- **A run that nothing comes between is `executeRun`**: the rows it leaves and the context are
those. -/
theorem execute_finish_eq_executeRun {py : PyText} {app : App} {s : TraceSystem α} {task : Nat}
    {name : String} {request : RunRequest} {call : RunCall α} {run : RunRow α}
    {alert : Option Alert} (hidle : s.session? task = none)
    (hprepared : prepareRun name request call (s.contexts task) s.store.db = .ok (run, alert))
    (hnew : s.rows.any (fun row => row.id == run.id) = false) (hcommit : call.commit = .ok ())
    (hcommits : call.commits = 0) :
    let out := executeRun name request call (s.contexts task) s.store.db
    let s' := OpenSoar.run (traceStep py app) s [.execute task name request call,
      .finish task (call.functionEnd request run alert s.store.db)]
    s'.runs = s.runs ++ out.committed ∧ s'.contexts task = out.context := by
  obtain ⟨finished, hfinished, hout⟩ := executeRun_prepared hprepared hcommit
  obtain ⟨begun, hbegun⟩ : ∃ begun : TraceSystem α, begun = { s with
      sessions := s.sessions ++ [⟨task, run, call, [], (s.contexts task).correlationId⟩]
      contexts := Function.update s.contexts task (call.context run) } := ⟨_, rfl⟩
  have hexecute : traceStep py app s (.execute task name request call) = .ok begun := by
    simp only [traceStep, hidle, hprepared, hnew, hbegun]
    rfl
  have hsession : begun.session? task =
      some ⟨task, run, call, [], (s.contexts task).correlationId⟩ := by
    rw [hbegun]
    exact TraceSystem.session?_append hidle rfl
  have hfresh : s.runs.filter (fun row => row.id != run.id) = s.runs := by
    refine List.filter_eq_self.mpr (fun row hrow => ?_)
    have hne := List.any_eq_false.mp hnew row (List.mem_append_left _ hrow)
    rw [bne, Bool.eq_false_iff.mpr hne]
    rfl
  have hid : finished.id = run.id := by
    rw [hfinished]
    cases call.functionEnd request run alert s.store.db <;> rfl
  have hfinish : traceStep py app begun
      (.finish task (call.functionEnd request run alert s.store.db)) = .ok
        (({ begun with
          sessions := begun.others task
          contexts := Function.update begun.contexts task
            ⟨none, (s.contexts task).correlationId⟩ } : TraceSystem α).committed finished []) := by
    simp only [traceStep, hsession, hcommit, OpenRun.finished, hfinished]
  intro out s'
  have hs' : s' = ({ begun with
      sessions := begun.others task
      contexts := Function.update begun.contexts task
        ⟨none, (s.contexts task).correlationId⟩ } : TraceSystem α).committed finished [] := by
    simp only [s', run_cons, attempt_ok _ hexecute, attempt_ok _ hfinish]
    rfl
  have hcommitted : out.committed = [finished] := by
    rw [show out = _ from hout, hcommits]
    rfl
  constructor
  · rw [hcommitted, hs']
    simp only [TraceSystem.committed, hid, hbegun, hfresh]
  · rw [hs', show out = _ from hout]
    exact Function.update_self _ _ _

end OpenSoar
