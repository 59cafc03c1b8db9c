/-
# `OpenSoar.Worker.Tasks` — what the worker does with a task

`worker/tasks.py`.  A task names playbooks and perhaps an alert.  The worker looks
each name up in the registry of its own process, syncs that registry to the
database and executes the playbooks one after another.  Every run commits on its
own, so a task that raises half way leaves the runs before it in place; the result
here carries them beside the exception.

The playbooks that a sequence executes are a first part of the list it was given, in
the order of the list (`executeSequence_names`), and so the order in which an
alert's playbooks run is the order in which they were matched.
-/
import OpenSoar.Core.Executor
import OpenSoar.Core.Triggers

namespace OpenSoar

open Python

/-- The arguments of `execute_playbook` and of `execute_playbook_sequence`. -/
inductive Task where
  | playbook (name : String) (alertId : Option Uuid)
  | sequence (names : List String) (alertId : Option Uuid)

/-- The playbooks a task is about. -/
def Task.names : Task → List String
  | .playbook name _ => [name]
  | .sequence names _ => names

/-- The alert a task binds. -/
def Task.alertId : Task → Option Uuid
  | .playbook _ alertId => alertId
  | .sequence _ alertId => alertId

/-- One entry of `results`. -/
structure Executed where
  playbookName : String
  run : PlaybookRun

/-- The database a task leaves, the runs it recorded and what it raised. -/
structure TaskResult where
  db : Db
  results : List Executed
  raised : Option Raised

def notInRegistry (name : String) : Raised :=
  .valueError ("Playbook '" ++ name ++ "' not found in registry")

/-- The loop of `_execute_sequence`, from a position on. -/
def executeFrom (registry : PlaybookRegistry) (alertId : Option Uuid) (total : Nat) :
    (position : Nat) → (names : List String) → Db → TaskResult
  | _, [], db => ⟨db, [], none⟩
  | position, name :: names, db =>
      match registry.find? name with
      | none => ⟨db, [], some (notInRegistry name)⟩
      | some pb =>
          match execute pb alertId (some (position, total)) db with
          | .error e => ⟨db, [], some e⟩
          | .ok (db', playbookRun) =>
              let rest := executeFrom registry alertId total (position + 1) names db'
              { rest with results := ⟨name, playbookRun⟩ :: rest.results }

/-- `_execute_sequence`. -/
def executeSequence (newId : String → Uuid) (registry : PlaybookRegistry) (names : List String)
    (alertId : Option Uuid) (db : Db) : TaskResult :=
  match syncToDb newId registry db with
  | .error e => ⟨db, [], some e⟩
  | .ok synced => executeFrom registry alertId names.length 1 names synced

/-- `_execute`. -/
def executePlaybook (newId : String → Uuid) (registry : PlaybookRegistry) (name : String)
    (alertId : Option Uuid) (db : Db) : TaskResult :=
  match registry.find? name with
  | none => ⟨db, [], some (notInRegistry name)⟩
  | some pb =>
      match syncToDb newId registry db with
      | .error e => ⟨db, [], some e⟩
      | .ok synced =>
          match execute pb alertId none synced with
          | .error e => ⟨synced, [], some e⟩
          | .ok (db', playbookRun) => ⟨db', [⟨name, playbookRun⟩], none⟩

/-- A worker with some registry runs a task. -/
def Task.perform (newId : String → Uuid) (registry : PlaybookRegistry) :
    Task → Db → TaskResult
  | .playbook name alertId => executePlaybook newId registry name alertId
  | .sequence names alertId => executeSequence newId registry names alertId

/-! ## What a task executes -/

theorem executeFrom_names (registry : PlaybookRegistry) (alertId : Option Uuid)
    (total position : Nat) (names : List String) (db : Db) :
    (executeFrom registry alertId total position names db).results.map (·.playbookName) <+:
        names ∧
      ((executeFrom registry alertId total position names db).raised = none →
        (executeFrom registry alertId total position names db).results.map (·.playbookName) =
          names) := by
  induction names generalizing position db with
  | nil => exact ⟨List.prefix_refl _, fun _ => rfl⟩
  | cons name names ih =>
      simp only [executeFrom]
      split
      · exact ⟨List.nil_prefix, fun h => nomatch h⟩
      · split
        · exact ⟨List.nil_prefix, fun h => nomatch h⟩
        · rename_i db' playbookRun _
          obtain ⟨hfirst, hall⟩ := ih (position + 1) db'
          refine ⟨List.cons_prefix_cons.mpr ⟨rfl, hfirst⟩, ?_⟩
          intro hraised
          rw [List.map_cons, hall hraised]

/-- **A sequence runs in the order it was given.**  The names executed are a prefix
of the task's, and all of them when nothing is raised. -/
theorem executeSequence_names (newId : String → Uuid) (registry : PlaybookRegistry)
    (names : List String) (alertId : Option Uuid) (db : Db) :
    (executeSequence newId registry names alertId db).results.map (·.playbookName) <+: names ∧
      ((executeSequence newId registry names alertId db).raised = none →
        (executeSequence newId registry names alertId db).results.map (·.playbookName) =
          names) := by
  simp only [executeSequence]
  split
  · exact ⟨List.nil_prefix, fun h => nomatch h⟩
  · exact executeFrom_names registry alertId names.length 1 names _

/-- **When an alert's playbooks run in ascending order.**  The matched list is sorted
by order and name exactly when no eligible playbook sorts before one whose trigger
type comes earlier; a worker executes a first part of that list as it stands, and the
whole of it when nothing is raised. -/
theorem playbooks_run_in_order_iff (registry : PlaybookRegistry) (source : String)
    (alertData : Dict) :
    (SortedByOrder (triggerMatch registry source alertData) ↔
        OrderFollowsTriggers registry source alertData) ∧
      ∀ (newId : String → Uuid) (worker : PlaybookRegistry) (alertId : Option Uuid) (db : Db),
        let names := (triggerMatch registry source alertData).map (·.name)
        let result := executeSequence newId worker names alertId db
        result.results.map (·.playbookName) <+: names ∧
          (result.raised = none → result.results.map (·.playbookName) = names) :=
  ⟨sorted_triggerMatch_iff registry source alertData,
    fun newId worker alertId db => executeSequence_names newId worker _ alertId db⟩

/-- A playbook registered with a trigger and an order, and nothing else to say. -/
def samplePlaybook (name trigger : String) (order : Int) : RegisteredPlaybook where
  name := name
  trigger := some trigger
  conditions := []
  description := ""
  enabled := true
  order := order
  priority := "default"
  functionName := name
  func _ _ db := .ok (db, .success)
  module := "playbooks.sample"

/-- Preparation is to run for every alert, ahead of the restart that an Elastic alert
asks for. -/
def preparationAndRestart : PlaybookRegistry where
  rows := [samplePlaybook "prepare_docker_recovery" "webhook" 10,
    samplePlaybook "restart_docker_service" "elastic" 20]
  nodup := by decide

/-- An Elastic alert restarts before it prepares. -/
theorem restart_runs_before_preparation :
    (triggerMatch preparationAndRestart "elastic" [("severity", .str "high")]).map (·.name) =
        ["restart_docker_service", "prepare_docker_recovery"] ∧
      ¬ SortedByOrder (triggerMatch preparationAndRestart "elastic"
        [("severity", .str "high")]) := by
  decide +kernel

theorem executeFrom_alertId {registry : PlaybookRegistry} {alertId : Option Uuid}
    {total position : Nat} {names : List String} {db : Db} {entry : Executed}
    (h : entry ∈ (executeFrom registry alertId total position names db).results) :
    entry.run.alertId = alertId := by
  induction names generalizing position db with
  | nil => cases h
  | cons name names ih =>
      simp only [executeFrom] at h
      split at h
      · cases h
      · split at h
        · cases h
        · rename_i hrun
          rcases List.mem_cons.mp h with rfl | h
          · exact (execute_ok hrun).1
          · exact ih h

/-- What a task executes is what it names, on the alert it binds. -/
theorem Task.perform_results {newId : String → Uuid} {registry : PlaybookRegistry} {task : Task}
    {db : Db} {entry : Executed} (h : entry ∈ (task.perform newId registry db).results) :
    entry.playbookName ∈ task.names ∧ entry.run.alertId = task.alertId := by
  cases task with
  | playbook name alertId =>
      simp only [Task.perform, executePlaybook] at h
      split at h
      · exact absurd h List.not_mem_nil
      · split at h
        · exact absurd h List.not_mem_nil
        · split at h
          · exact absurd h List.not_mem_nil
          · rename_i hrun
            rw [List.mem_singleton.mp h]
            exact ⟨List.mem_singleton_self _, (execute_ok hrun).1⟩
  | sequence names alertId =>
      refine ⟨?_, ?_⟩
      · exact (executeSequence_names newId registry names alertId db).1.subset
          (List.mem_map_of_mem h)
      · simp only [Task.perform, executeSequence] at h
        split at h
        · exact absurd h List.not_mem_nil
        · exact executeFrom_alertId h

end OpenSoar
