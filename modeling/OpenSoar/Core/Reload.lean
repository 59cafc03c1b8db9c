/-
# `OpenSoar.Core.Reload` — reloading playbooks, and the processes that execute them

`POST /playbooks/reload` clears and reloads the registry of the API process.  Playbooks are
executed by workers, each a process of its own, whose tasks call `discover`: a file whose
module the worker has imported before is not read again, and one that is imported is not read
either while there is bytecode with its size and the second of its last change.

A deployment is the disk, the API's process, the workers' processes and a log of the functions
that executions started with.  An execution is `covered` when a reload has succeeded since the
last edit.  `reload_reaches_execution_iff` says which covered executions run what is on disk.
-/
import OpenSoar.Core.Imports

namespace OpenSoar

open Python

/-- A task of a worker that looks a playbook up: the function it starts with, or none when the
lookup fails or discovering raises, and the sources at that time. -/
structure StartedExecution where
  name : String
  function : Option RegisteredPlaybook
  sources : Sources
  covered : Bool

structure ReloadSystem where
  disk : Disk
  reloaded : Bool
  api : Interpreter
  workers : Nat → Interpreter
  started : List StartedExecution

/-- The edits of the sources, which leave the bytecode where it is, and its removal; the reloads,
which fail when the sync does; the starts of workers and their tasks, each of one playbook or of
a sequence. -/
inductive ReloadEvent where
  | edit (sources : Sources)
  | removeBytecode (path : String)
  | reload (synced : Bool)
  | workerStarts (worker : Nat) (modules : List String) (writable : String → Bool)
  | task (worker : Nat) (names : List String)

/-- What a task of these names starts with. -/
def startedWith (result : Discovery) (name : String) : Option RegisteredPlaybook :=
  match result.raised with
  | none => result.process.registry.find? name
  | some _ => none

def reloadStep (dirs : List String) (s : ReloadSystem) :
    ReloadEvent → Except Unit ReloadSystem
  | .edit sources => .ok { s with disk := { s.disk with sources := sources }, reloaded := false }
  | .removeBytecode path =>
      .ok { s with disk := { s.disk with bytecode := Function.update s.disk.bytecode path none } }
  | .reload synced =>
      let result := clearAndReload dirs s.disk s.api
      .ok { s with
        disk := result.disk
        api := result.process
        reloaded := s.reloaded || (result.raised.isNone && synced) }
  | .workerStarts worker modules writable =>
      .ok { s with workers := Function.update s.workers worker (.fresh modules writable) }
  | .task worker names =>
      let result := discover dirs s.disk (s.workers worker)
      .ok { s with
        disk := result.disk
        workers := Function.update s.workers worker result.process
        started := s.started ++ names.map (fun name =>
          ⟨name, startedWith result name, s.disk.sources, s.reloaded⟩) }

/-- The function is one that the text of a file on the disk declares. -/
def OnDisk (dirs : List String) (sources : Sources) (pb : RegisteredPlaybook) : Prop :=
  ∃ entry ∈ scan dirs sources, ∃ code, entry.2.source.compiled = .ok code ∧ pb ∈ code.declares

/-- What is looked up is a function on the disk, and nothing only when the disk has none of the
name. -/
def FromDisk (dirs : List String) (sources : Sources) (name : String) :
    Option RegisteredPlaybook → Prop
  | some pb => OnDisk dirs sources pb
  | none => ∀ pb, OnDisk dirs sources pb → pb.name ≠ name

/-- Every covered execution started with what was on disk. -/
def ReloadReaches (dirs : List String) (s : ReloadSystem) : Prop :=
  ∀ execution ∈ s.started, execution.covered = true →
    FromDisk dirs execution.sources execution.name execution.function

/-- A worker is up to date with a playbook when the code of the files it has not imported yet, which
is that in `__pycache__` where it is valid, raises nothing that is not caught, and the last playbook
of the name that this code declares is on disk; or it declares none, and the function that
the worker holds already is. -/
def UpToDate (dirs : List String) (disk : Disk) (p : Interpreter) (name : String) : Prop :=
  let unread := scan dirs disk.sources
  ((∀ code ∈ executedCode p.modules disk.bytecode unread, code.Contained) ∧
    ((p.attached = true ∧ ∃ pb, pb.name = name ∧ OnDisk dirs disk.sources pb ∧
        LastUnderName (executedPlaybooks p.modules disk.bytecode unread) pb) ∨
      ((p.attached = true →
          ∀ pb ∈ executedPlaybooks p.modules disk.bytecode unread, pb.name ≠ name) ∧
        FromDisk dirs disk.sources name (p.registry.find? name)))) ∨
  ((¬ ∀ code ∈ executedCode p.modules disk.bytecode unread, code.Contained) ∧
    FromDisk dirs disk.sources name none)

/-- The covered tasks are of playbooks their worker is up to date with. -/
def TasksUpToDate (dirs : List String) (s : ReloadSystem) : ReloadEvent → Prop
  | .task worker names =>
      s.reloaded = true → ∀ name ∈ names, UpToDate dirs s.disk (s.workers worker) name
  | _ => True

/-! ## What a task starts with -/

section Tasks

variable {dirs : List String} {disk : Disk} {p : Interpreter} {name : String}

/-- **One task.** -/
theorem fromDisk_startedWith_iff :
    FromDisk dirs disk.sources name (startedWith (discover dirs disk p) name) ↔
      UpToDate dirs disk p name := by
  unfold UpToDate
  by_cases hcontained : ∀ code ∈ executedCode p.modules disk.bytecode (scan dirs disk.sources),
      code.Contained
  · have hstarted : startedWith (discover dirs disk p) name =
        (discover dirs disk p).process.registry.find? name := by
      unfold startedWith
      rw [(discover_completes_iff dirs disk p).mpr hcontained]
    rw [hstarted, find?_of_completes hcontained, found_iff (P := FromDisk dirs disk.sources name)]
    exact ((or_iff_left (fun h => h.1 hcontained)).trans (and_iff_right hcontained)).symm
  · obtain ⟨e, he⟩ := Option.ne_none_iff_exists'.mp
      (mt (discover_completes_iff dirs disk p).mp hcontained)
    have hstarted : startedWith (discover dirs disk p) name = none := by
      unfold startedWith
      rw [he]
    rw [hstarted, or_iff_right (fun h => hcontained h.1), and_iff_right hcontained]

/-- Without stale bytecode a worker that has yet to import every file of a playbook is up to date
with it. -/
theorem upToDate_of_current (hcurrent : ∀ entry ∈ scan dirs disk.sources,
      importedCode disk.bytecode entry.2.source = execModule entry.2.source.compiled)
    (hcontained : ∀ code ∈ executedCode p.modules disk.bytecode (scan dirs disk.sources),
      code.Contained) (hattached : p.attached = true)
    (hunread : ∃ pb ∈ executedPlaybooks p.modules disk.bytecode (scan dirs disk.sources),
      pb.name = name) : UpToDate dirs disk p name := by
  refine Or.inl ⟨hcontained, Or.inl ⟨hattached, ?_⟩⟩
  cases hlast : lastNamed name
      (executedPlaybooks p.modules disk.bytecode (scan dirs disk.sources)) with
  | none =>
      obtain ⟨pb, hpb, hname⟩ := hunread
      exact absurd hname (lastNamed_eq_none.mp hlast pb hpb)
  | some last =>
      obtain ⟨hmem, rfl⟩ := of_lastNamed hlast
      refine ⟨last, rfl, ?_, lastNamed_iff.mp hlast⟩
      obtain ⟨code, hcode, hdeclares⟩ := List.mem_flatMap.mp hmem
      obtain ⟨file, hfile, rfl⟩ := List.mem_map.mp hcode
      obtain ⟨module, hentry⟩ := mem_of_firstUnder hfile
      rw [hcurrent _ hentry] at hdeclares
      refine ⟨(module, file), hentry, ?_⟩
      cases hcompiled : file.source.compiled with
      | error e =>
          rw [hcompiled] at hdeclares
          cases hdeclares
      | ok code =>
          rw [hcompiled] at hdeclares
          exact ⟨code, rfl, hdeclares⟩

end Tasks

/-! ## Runs -/

section Runs

variable {dirs : List String} {s : ReloadSystem}

/-- An event adds to the log only what its tasks start with. -/
theorem reloadReaches_step (event : ReloadEvent) (h : ReloadReaches dirs s) :
    ReloadReaches dirs (attempt (reloadStep dirs) s event) ↔ TasksUpToDate dirs s event := by
  cases event with
  | edit sources => exact iff_of_true h trivial
  | removeBytecode path => exact iff_of_true h trivial
  | reload synced => exact iff_of_true h trivial
  | workerStarts worker modules writable => exact iff_of_true h trivial
  | task worker names =>
      constructor
      · intro hnext hreloaded name hname
        refine fromDisk_startedWith_iff.mp (hnext ⟨name,
          startedWith (discover dirs s.disk (s.workers worker)) name, s.disk.sources, s.reloaded⟩ ?_
          hreloaded)
        exact List.mem_append_right _ (List.mem_map_of_mem hname)
      · intro hcurrent execution hexecution hcovered
        rcases List.mem_append.mp hexecution with hmem | hmem
        · exact h execution hmem hcovered
        · obtain ⟨name, hname, rfl⟩ := List.mem_map.mp hmem
          exact fromDisk_startedWith_iff.mpr (hcurrent hcovered name hname)

/-- The log only grows. -/
theorem started_step (event : ReloadEvent) (s : ReloadSystem) :
    ∃ more, (attempt (reloadStep dirs) s event).started = s.started ++ more := by
  cases event with
  | edit sources => exact ⟨[], (List.append_nil _).symm⟩
  | removeBytecode path => exact ⟨[], (List.append_nil _).symm⟩
  | reload synced => exact ⟨[], (List.append_nil _).symm⟩
  | workerStarts worker modules writable => exact ⟨[], (List.append_nil _).symm⟩
  | task worker names => exact ⟨_, rfl⟩

theorem started_run (events : List ReloadEvent) (s : ReloadSystem) :
    ∀ execution ∈ s.started, execution ∈ (run (reloadStep dirs) s events).started := by
  induction events generalizing s with
  | nil => exact fun _ h => h
  | cons event events ih =>
      intro execution h
      obtain ⟨more, hmore⟩ := started_step event s
      refine ih (attempt (reloadStep dirs) s event) execution ?_
      rw [hmore]
      exact List.mem_append_left _ h

theorem reloadReaches_run (events : List ReloadEvent) (s : ReloadSystem)
    (h : ReloadReaches dirs s) :
    ReloadReaches dirs (run (reloadStep dirs) s events) ↔
      Along (reloadStep dirs) (TasksUpToDate dirs) s events := by
  induction events generalizing s with
  | nil => exact iff_of_true h trivial
  | cons event events ih =>
      have hstep := reloadReaches_step event h
      constructor
      · intro hrun
        have hnext : ReloadReaches dirs (attempt (reloadStep dirs) s event) := by
          intro execution hexecution
          exact hrun execution (started_run events _ execution hexecution)
        exact ⟨hstep.mp hnext, (ih _ hnext).mp hrun⟩
      · rintro ⟨hnow, hrest⟩
        exact (ih _ (hstep.mpr hnow)).mpr hrest

/-- The system before anything happened. -/
def ReloadSystem.initial (disk : Disk) (modules : List String) (writable : String → Bool) :
    ReloadSystem :=
  ⟨disk, false, .fresh modules writable, fun _ => .fresh modules writable, []⟩

/-- **When a reload reaches execution.**  Over every run of edits, reloads, workers that start and
tasks, each execution after a successful reload with no later edit starts with what is on disk
if and only if each task is of playbooks that its worker is up to date with. -/
theorem reload_reaches_execution_iff (dirs : List String) (disk : Disk) (modules : List String)
    (writable : String → Bool) (events : List ReloadEvent) :
    ReloadReaches dirs (run (reloadStep dirs) (.initial disk modules writable) events) ↔
      Along (reloadStep dirs) (TasksUpToDate dirs) (.initial disk modules writable) events :=
  reloadReaches_run events _ (fun _ h => absurd h List.not_mem_nil)

end Runs

/-! ## Two edits that do not reach execution -/

/-- A playbook whose text is its description. -/
def containPlaybook (text : String) : RegisteredPlaybook where
  name := "contain"
  trigger := none
  conditions := []
  description := text
  enabled := true
  order := 1000
  priority := "default"
  functionName := "contain"
  func := fun _ _ db => .ok (db, .success)
  module := "playbooks.contain"

/-- The file that declares it, changed at this second. -/
def containFile (mtime : Int) (text : String) : PlaybookFile where
  parts := ["contain.py"]
  source := {
    bytecodePath := "playbooks/__pycache__/contain.cpython-312.pyc"
    mtime := mtime
    size := 200 + text.length
    compiled := .ok ⟨[containPlaybook text], none⟩ }

theorem containFile_nodup (mtime : Int) (text : String) :
    ([containFile mtime text].map (fun file => file.source.bytecodePath)).Nodup :=
  List.nodup_singleton _

/-- A directory with that file. -/
def versioned (mtime : Int) (text : String) : Sources :=
  .inDirectory "playbooks" [containFile mtime text] (containFile_nodup mtime text)

/-- The worker has executed the playbook before the edit. -/
def editedAfterExecution : List ReloadEvent :=
  [.task 0 ["contain"], .edit (versioned 60 "new"), .reload true, .task 0 ["contain"]]

/-- An edit of the same size in the second of the last one: a worker that has imported nothing
executes after it what was compiled before. -/
def editedWithinTheSecond : List ReloadEvent :=
  [.task 0 ["contain"], .edit (versioned 0 "new"), .reload true, .task 1 ["contain"]]

/-- The texts on a disk. -/
def textsOn (sources : Sources) : List String :=
  (scan ["playbooks"] sources).flatMap (fun entry =>
    (execModule entry.2.source.compiled).declares.map (·.description))

/-- The deployment that both runs begin with. -/
def oldDeployment : ReloadSystem :=
  .initial ⟨versioned 0 "old", fun _ => none⟩ [decoratorsModule] (fun _ => true)

/-- What the executions of a run started with, and the texts that were on disk. -/
def startedTexts (events : List ReloadEvent) : List (Bool × Option String × List String) :=
  (run (reloadStep ["playbooks"]) oldDeployment events).started.map
    (fun e => (e.covered, e.function.map (·.description), textsOn e.sources))

/-- An execution of the old text after the reload. -/
theorem not_reloadReaches {events : List ReloadEvent}
    (h : (true, some "old", ["new"]) ∈ startedTexts events) :
    ¬ ReloadReaches ["playbooks"] (run (reloadStep ["playbooks"]) oldDeployment events) := by
  intro hreaches
  obtain ⟨execution, hmem, heq⟩ := List.mem_map.mp h
  obtain ⟨hcovered, heq⟩ := Prod.mk.inj heq
  obtain ⟨hfunction, htexts⟩ := Prod.mk.inj heq
  obtain ⟨pb, hpb, hold⟩ := Option.map_eq_some_iff.mp hfunction
  have hdisk := hreaches execution hmem hcovered
  rw [hpb] at hdisk
  obtain ⟨entry, hentry, code, hcode, hdeclares⟩ := hdisk
  have htext : pb.description ∈ textsOn execution.sources := by
    refine List.mem_flatMap.mpr ⟨entry, hentry, List.mem_map_of_mem ?_⟩
    rwa [hcode]
  rw [htexts, hold] at htext
  revert htext
  decide

/-- The reloads succeed, and the old text is executed: by the worker that had imported it, and by
one that finds its bytecode. -/
theorem reload_misses_worker :
    ¬ ReloadReaches ["playbooks"]
        (run (reloadStep ["playbooks"]) oldDeployment editedAfterExecution) ∧
      ¬ ReloadReaches ["playbooks"]
        (run (reloadStep ["playbooks"]) oldDeployment editedWithinTheSecond) :=
  ⟨not_reloadReaches (by decide +kernel), not_reloadReaches (by decide +kernel)⟩

end OpenSoar
