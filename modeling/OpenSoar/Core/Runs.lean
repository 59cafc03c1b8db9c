/-
# `OpenSoar.Core.Runs` — one run of one playbook, with its row and its context

`PlaybookExecutor.execute` once more, with what `Core.Executor` leaves out: the row of the run
from its insert to the last commit, the process's context variables, and the ways a
function can end, an exit of the process (`SystemExit`, `KeyboardInterrupt`) included.  The
`finally` sets the end of the run and commits whatever status was reached.

`execute` is what is left when the function does not exit (`executeRun_refines`).  A run ends in
a terminal status exactly when the function does not exit (`run_ends_terminal_iff`).
-/
import OpenSoar.Core.Decorators
import OpenSoar.Core.Executor

namespace OpenSoar

open Python

/-- `playbook_runs.status`, as far as `execute` sets it. -/
inductive RunStatus where
  | running
  | success
  | cancelled
  | failed
  deriving DecidableEq

/-- A row of `playbook_runs`. -/
structure RunRow (α : Type) where
  id : Uuid
  playbookId : Uuid
  alertId : Option Uuid
  sequenceId : Option Uuid
  sequencePosition : Option Nat
  sequenceTotal : Option Nat
  status : RunStatus
  startedAt : Option Timestamp
  finishedAt : Option Timestamp
  error : Option String
  result : Option (OutputData α)
  correlationId : Option Uuid

/-- The context variables of the process: `_execution_context` and `correlation_id_ctx`. -/
structure ProcessContext where
  execution : Option ExecutionContext
  correlationId : Option Uuid

/-- The arguments of `execute` besides the playbook. -/
structure RunRequest where
  alertId : Option Uuid
  manualInput : Option Dict
  sequenceId : Option Uuid
  sequencePosition : Option Nat
  sequenceTotal : Option Nat

/-- `input_data`. -/
inductive PlaybookInput where
  | alert (alert : Alert)
  | data (data : Dict)

/-- How a playbook's function ends: with a value, by a cancellation, with an `Exception`, or
with another `BaseException`. -/
inductive FunctionEnd (α : Type) where
  | returned (value : α)
  | cancelled
  | raised (error : String)
  | exited (reason : String)

/-- What a run meets: the identifiers it draws and the times it reads; how the insert of the
run and the last commit end; the answers of the recorder's flushes; and the function, by how
it ends, what it leaves in the database and the context, and how often it commits. -/
structure RunCall (α : Type) where
  runId : Uuid
  newCorrelationId : Uuid
  startedAt : Timestamp
  finishedAt : Timestamp
  insert : Except Raised Unit
  recorder : Recorder
  function : PlaybookInput → ProcessContext → Db → FunctionEnd α × Db × ProcessContext
  commits : Nat
  commit : Except Raised Unit
  isDict : α → Bool

/-- An exception that leaves `execute`. -/
inductive Escaped where
  | exception (e : Raised)
  | exit (reason : String)

/-- What a call of `execute` leaves: its answer, the row object, the rows committed in the
course of it, the context variables, the database, and whether the function was invoked. -/
structure RunOutcome (α : Type) where
  answer : Except Escaped (RunRow α)
  run : Option (RunRow α)
  committed : List (RunRow α)
  context : ProcessContext
  db : Db
  invoked : Bool

variable {α : Type}

/-- `alert or manual_input or {}`. -/
def inputData (alert : Option Alert) (manualInput : Option Dict) : PlaybookInput :=
  match alert with
  | some alert => .alert alert
  | none => .data (manualInput.getD [])

/-- The alert's correlation id, that of the context, or a new one. -/
def resolveCorrelationId (alert : Option Alert) (context : ProcessContext) (fresh : Uuid) : Uuid :=
  ((alert.bind (·.correlationId)).or context.correlationId).getD fresh

/-- What comes before the `try`: the playbook's row, the alert and the insert of the run. -/
def prepareRun (name : String) (request : RunRequest) (call : RunCall α)
    (context : ProcessContext) (db : Db) : Except Raised (RunRow α × Option Alert) :=
  match db.playbooks.named? name with
  | none => .error (.valueError ("Playbook '" ++ name ++ "' not found in database"))
  | some row =>
      let alert := request.alertId.bind db.alerts.find?
      if request.alertId.isSome ∧ alert.isNone then
        .error (.refusedByDatabase "insert on table playbook_runs violates foreign key constraint")
      else
        call.insert.map (fun _ => ({
          id := call.runId
          playbookId := row.id
          alertId := request.alertId
          sequenceId := request.sequenceId
          sequencePosition := request.sequencePosition
          sequenceTotal := request.sequenceTotal
          status := .running
          startedAt := some call.startedAt
          finishedAt := none
          error := none
          result := none
          correlationId := some (resolveCorrelationId alert context call.newCorrelationId) },
            alert))

/-- The context in which the function runs. -/
def RunCall.context (call : RunCall α) (run : RunRow α) : ProcessContext where
  execution := some {
    runId := run.id
    alertId := run.alertId
    recordAction := some call.recorder
    correlationId := run.correlationId }
  correlationId := run.correlationId

/-- What the `try` and its `except` clauses make of the row. -/
def RunRow.ended (run : RunRow α) (isDict : α → Bool) : FunctionEnd α → RunRow α
  | .returned value => { run with status := .success, result := some (outputData isDict value) }
  | .cancelled => { run with status := .cancelled }
  | .raised error => { run with status := .failed, error := some error }
  | .exited _ => run

/-- `execute`.  The `finally` clears the execution context, gives the correlation id back the
value it had, and commits; an exit goes on after that, and a commit that fails takes its
place. -/
def executeRun (name : String) (request : RunRequest) (call : RunCall α)
    (context : ProcessContext) (db : Db) : RunOutcome α :=
  match prepareRun name request call context db with
  | .error e => ⟨.error (.exception e), none, [], context, db, false⟩
  | .ok (run, alert) =>
      let (ended, db', left) :=
        call.function (inputData alert request.manualInput) (call.context run) db
      let finished := { run.ended call.isDict ended with finishedAt := some call.finishedAt }
      let restored := { left with execution := none, correlationId := context.correlationId }
      let early := List.replicate call.commits run
      match call.commit with
      | .error e => ⟨.error (.exception e), some finished, early, restored, db', true⟩
      | .ok _ =>
          let answer : Except Escaped (RunRow α) :=
            match ended with
            | .exited reason => .error (.exit reason)
            | _ => .ok finished
          ⟨answer, some finished, early ++ [finished], restored, db', true⟩

/-! ## The run as `Core.Executor` has it -/

/-- The part of a row that `PlaybookRun` has. -/
def RunRow.summary (run : RunRow α) : PlaybookRun where
  playbookId := run.playbookId
  alertId := run.alertId
  status :=
    match run.status with
    | .running => .lit "running"
    | .success => .lit "success"
    | .cancelled => .lit "cancelled"
    | .failed => .lit "failed"
  error := run.error
  sequencePosition := run.sequencePosition
  sequenceTotal := run.sequenceTotal

/-- The ends that `execute` knows. -/
def FunctionEnd.outcome : FunctionEnd α → Option PlaybookOutcome
  | .returned _ => some .success
  | .cancelled => some .cancelled
  | .raised error => some (.failed error)
  | .exited _ => none

/-- How the function of a run that was prepared ends. -/
def RunCall.functionEnd (call : RunCall α) (request : RunRequest) (run : RunRow α)
    (alert : Option Alert) (db : Db) : FunctionEnd α :=
  (call.function (inputData alert request.manualInput) (call.context run) db).1

/-- A run that was prepared, in one equation. -/
theorem executeRun_prepared {name : String} {request : RunRequest} {call : RunCall α}
    {context : ProcessContext} {db : Db} {run : RunRow α} {alert : Option Alert}
    (h : prepareRun name request call context db = .ok (run, alert))
    (hcommit : call.commit = .ok ()) :
    ∃ finished, finished = { run.ended call.isDict (call.functionEnd request run alert db) with
        finishedAt := some call.finishedAt } ∧
      executeRun name request call context db = {
        answer :=
          match call.functionEnd request run alert db with
          | .exited reason => .error (.exit reason)
          | _ => .ok finished
        run := some finished
        committed := List.replicate call.commits run ++ [finished]
        context := ⟨none, context.correlationId⟩
        db := (call.function (inputData alert request.manualInput) (call.context run) db).2.1
        invoked := true } := by
  refine ⟨_, rfl, ?_⟩
  simp only [executeRun, h, hcommit]
  rfl

/-- What a run is when its function is invoked. -/
structure Prepared (name : String) (request : RunRequest) (db : Db) (run : RunRow α)
    (alert : Option Alert) : Prop where
  playbook : ∃ row, db.playbooks.named? name = some row ∧ run.playbookId = row.id
  alert : alert = request.alertId.bind db.alerts.find?
  alertId : run.alertId = request.alertId
  position : run.sequencePosition = request.sequencePosition
  total : run.sequenceTotal = request.sequenceTotal
  running : run.status = .running
  unfinished : run.finishedAt = none
  unfailed : run.error = none

theorem prepareRun_ok {name : String} {request : RunRequest} {call : RunCall α}
    {context : ProcessContext} {db : Db} {run : RunRow α} {alert : Option Alert}
    (h : prepareRun name request call context db = .ok (run, alert)) :
    Prepared name request db run alert := by
  unfold prepareRun at h
  cases hrow : db.playbooks.named? name with
  | none =>
      simp only [hrow] at h
      cases h
  | some row =>
      simp only [hrow] at h
      split at h
      · cases h
      · obtain ⟨_, -, h⟩ := map_ok h
        cases h
        exact ⟨⟨row, hrow, rfl⟩, rfl, rfl, rfl, rfl, rfl, rfl, rfl⟩

/-- The answer as `execute` gives it; an exit is none. -/
def RunOutcome.plain (out : RunOutcome α) : Option (Except Raised (Db × PlaybookRun)) :=
  match out.answer with
  | .ok run => some (.ok (out.db, run.summary))
  | .error (.exception e) => some (.error e)
  | .error (.exit _) => none

/-- **The run refines `execute`.**  Where the function ends in any way but an exit, and a
playbook's `func` says the same of it and of the last commit, both have the same answer and
leave the same database. -/
theorem executeRun_refines {pb : RegisteredPlaybook} {alertId sequenceId : Option Uuid}
    {position total : Nat} {call : RunCall α} {context left : ProcessContext} {db db' : Db}
    {ended : FunctionEnd α} {outcome : PlaybookOutcome} (hinsert : call.insert = .ok ())
    (hended : ended.outcome = some outcome)
    (hfunction : ∀ run : RunRow α, call.function (inputData (alertId.bind db.alerts.find?) none)
      (call.context run) db = (ended, db', left))
    (hfunc : pb.func alertId (alertId.bind db.alerts.find?) db =
      call.commit.map (fun _ => (db', outcome))) :
    (executeRun pb.name ⟨alertId, none, sequenceId, some position, some total⟩ call context
      db).plain =
      some (execute pb alertId (some (position, total)) db) := by
  cases hrow : db.playbooks.named? pb.name with
  | none =>
      simp only [executeRun, execute, prepareRun, hrow]
      rfl
  | some row =>
      by_cases hmissing : alertId.isSome ∧ (alertId.bind db.alerts.find?).isNone
      · simp only [executeRun, execute, prepareRun, hrow, if_pos hmissing]
        rfl
      · obtain ⟨run, hprepared⟩ : ∃ run : RunRow α, prepareRun pb.name
            ⟨alertId, none, sequenceId, some position, some total⟩ call context db =
              .ok (run, alertId.bind db.alerts.find?) := by
          simp only [prepareRun, hrow, if_neg hmissing, hinsert]
          exact ⟨_, rfl⟩
        obtain ⟨⟨row', hrow', hplaybook⟩, -, halert, hposition, htotal, -, -, herror⟩ :=
          prepareRun_ok hprepared
        cases hrow.symm.trans hrow'
        simp only [executeRun, execute, hprepared, hrow, if_neg hmissing, hfunction, hfunc]
        cases call.commit with
        | error e => rfl
        | ok u =>
            cases ended <;> cases hended <;>
              simp [RunOutcome.plain, Except.map, RunRow.ended, RunRow.summary,
                PlaybookOutcome.status, PlaybookOutcome.error, *]

/-! ## Terminal runs -/

/-- A run that has ended as runs should: it is finished in a terminal status, `success` exactly
when the function returned, nothing else was ever committed as finished, and the context
variables are as they were found. -/
structure EndsTerminal (before : ProcessContext) (ended : FunctionEnd α) (out : RunOutcome α) :
    Prop where
  terminal : ∃ run, out.run = some run ∧ out.committed.getLast? = some run ∧
    run.finishedAt ≠ none ∧ run.status ∈ [RunStatus.success, .failed, .cancelled] ∧
    (run.status = .success ↔ ∃ value, ended = .returned value)
  consistent : ∀ run ∈ out.committed, run.finishedAt ≠ none → run.status ≠ .running
  cleared : out.context.execution = none
  restored : out.context.correlationId = before.correlationId

/-- The status that a function's end leaves a run in. -/
theorem status_ended {run : RunRow α} (isDict : α → Bool) (ended : FunctionEnd α)
    (hrunning : run.status = .running) :
    ((∃ reason, ended = .exited reason) ∧ (run.ended isDict ended).status = .running) ∨
      ((∀ reason, ended ≠ .exited reason) ∧
        (run.ended isDict ended).status ∈ [RunStatus.success, .failed, .cancelled] ∧
        ((run.ended isDict ended).status = .success ↔ ∃ value, ended = .returned value)) := by
  cases ended with
  | returned value => exact Or.inr ⟨by simp, by simp [RunRow.ended], by simp [RunRow.ended]⟩
  | cancelled => exact Or.inr ⟨by simp, by simp [RunRow.ended], by simp [RunRow.ended]⟩
  | raised error => exact Or.inr ⟨by simp, by simp [RunRow.ended], by simp [RunRow.ended]⟩
  | exited reason => exact Or.inl ⟨⟨reason, rfl⟩, hrunning⟩

/-- **When a run ends in a terminal status.**  With its last commit successful, a run whose
function was invoked ends as it should if and only if the function did not exit with a
`BaseException` other than a cancellation. -/
theorem run_ends_terminal_iff {name : String} {request : RunRequest} {call : RunCall α}
    {context : ProcessContext} {db : Db} {run : RunRow α} {alert : Option Alert}
    (hprepared : prepareRun name request call context db = .ok (run, alert))
    (hcommit : call.commit = .ok ()) :
    EndsTerminal context (call.functionEnd request run alert db)
        (executeRun name request call context db) ↔
      ∀ reason, call.functionEnd request run alert db ≠ .exited reason := by
  have hrunning := (prepareRun_ok hprepared).running
  have hunfinished := (prepareRun_ok hprepared).unfinished
  obtain ⟨finished, hfinished, hrun⟩ := executeRun_prepared hprepared hcommit
  have hstatus : finished.status =
      (run.ended call.isDict (call.functionEnd request run alert db)).status := by
    rw [hfinished]
  have hend : finished.finishedAt = some call.finishedAt := by
    rw [hfinished]
  have hlast : (List.replicate call.commits run ++ [finished]).getLast? = some finished := by
    simp
  rw [hrun]
  rcases status_ended call.isDict (call.functionEnd request run alert db) hrunning with
    ⟨⟨reason, hexit⟩, hstill⟩ | ⟨hno, hterminal, hsuccess⟩
  · constructor
    · intro h
      refine absurd (hstatus.trans hstill) (h.consistent finished ?_ ?_)
      · exact List.mem_append_right _ (List.mem_singleton.mpr rfl)
      · rw [hend]
        simp
    · intro h
      exact absurd hexit (h reason)
  · refine iff_of_true ⟨⟨finished, rfl, hlast, ?_, ?_, ?_⟩, ?_, rfl, rfl⟩ hno
    · rw [hend]
      simp
    · rw [hstatus]
      exact hterminal
    · rw [hstatus]
      exact hsuccess
    · intro committed hmem hend'
      rcases List.mem_append.mp hmem with hearly | hfinal
      · -- what the function itself commits is not finished yet
        rw [(List.mem_replicate.mp hearly).2] at hend'
        exact absurd hunfinished hend'
      · rw [List.mem_singleton.mp hfinal, hstatus]
        intro hstill
        rw [hstill] at hterminal
        simp at hterminal

/-- The row of a playbook that isolates a host. -/
def isolateHost : PlaybookDefinition where
  id := 3
  name := .lit "isolate_host"
  description := none
  partner := none
  tenantId := none
  modulePath := .lit "playbooks.sample"
  functionName := .lit "isolate_host"
  triggerType := none
  triggerConfig := []
  enabled := true
  executionOrder := 1000

def isolateDb : Db := { Db.empty with
  playbooks := ⟨⟨[isolateHost], List.nodup_singleton _⟩, List.nodup_singleton _⟩ }

/-- A run without an alert, whose function ends in this way and whose statements succeed. -/
def quietCall (ended : FunctionEnd Nat) : RunCall Nat where
  runId := 5
  newCorrelationId := 6
  startedAt := 10
  finishedAt := 20
  insert := .ok ()
  recorder := fun _ => .ok ()
  function := fun _ context db => (ended, db, context)
  commits := 0
  commit := .ok ()
  isDict := fun _ => false

def manualRun : RunRequest := ⟨none, none, none, none, none⟩

theorem prepareRun_quiet (ended : FunctionEnd Nat) :
    ∃ run, prepareRun "isolate_host" manualRun (quietCall ended) ⟨none, none⟩ isolateDb =
      .ok (run, none) := ⟨_, rfl⟩

/-- A worker that is shut down in the middle of a playbook leaves its run `running`, and
finished. -/
theorem exited_run_is_not_terminal :
    ¬ ∀ (name : String) (request : RunRequest) (call : RunCall Nat) (context : ProcessContext)
        (db : Db) (run : RunRow Nat) (alert : Option Alert),
      prepareRun name request call context db = .ok (run, alert) → call.commit = .ok () →
      EndsTerminal context (call.functionEnd request run alert db)
        (executeRun name request call context db) := by
  intro hclaim
  obtain ⟨run, hprepared⟩ := prepareRun_quiet (.exited "SystemExit")
  obtain ⟨left, hrun, -, -, hterminal, -⟩ :=
    (hclaim _ _ _ _ _ run none hprepared rfl).terminal
  have hstill : (executeRun "isolate_host" manualRun (quietCall (.exited "SystemExit")) ⟨none, none⟩
      isolateDb).run.map (·.status) = some .running := rfl
  rw [hrun] at hstill
  have hstatus : left.status = .running := Option.some.inj hstill
  rw [hstatus] at hterminal
  simp at hterminal

/-- A playbook that returns. -/
theorem returned_run_is_terminal :
    ∃ run, prepareRun "isolate_host" manualRun (quietCall (.returned 1)) ⟨none, none⟩ isolateDb =
        .ok (run, none) ∧
      EndsTerminal ⟨none, none⟩ (.returned 1)
        (executeRun "isolate_host" manualRun (quietCall (.returned 1)) ⟨none, none⟩ isolateDb) := by
  obtain ⟨run, hprepared⟩ := prepareRun_quiet (.returned 1)
  refine ⟨run, hprepared, ?_⟩
  exact (run_ends_terminal_iff hprepared rfl).mpr (fun reason h => by cases h)

end OpenSoar
