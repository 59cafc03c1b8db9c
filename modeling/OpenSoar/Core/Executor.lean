/-
# `OpenSoar.Core.Executor` — one run of one playbook

`PlaybookExecutor.execute` of `core/executor.py`: find the playbook's row, insert a
run, call the playbook's function, record how it ended.  A function that fails or is
cancelled is recorded on the run and raises nothing; what does raise is a playbook
without a row and a statement the database refuses.
-/
import OpenSoar.Core.Registry

namespace OpenSoar

open Python

/-- `run.status`. -/
def PlaybookOutcome.status : PlaybookOutcome → Varchar 20
  | .success => .lit "success"
  | .cancelled => .lit "cancelled"
  | .failed _ => .lit "failed"

/-- `run.error`. -/
def PlaybookOutcome.error : PlaybookOutcome → Option String
  | .failed error => some error
  | _ => none

/-- `execute`; `sequence` is the position in a sequence and its length. -/
def execute (pb : RegisteredPlaybook) (alertId : Option Uuid) (sequence : Option (Nat × Nat))
    (db : Db) : Except Raised (Db × PlaybookRun) :=
  match db.playbooks.named? pb.name with
  | none => .error (.valueError ("Playbook '" ++ pb.name ++ "' not found in database"))
  | some row =>
      let alert := alertId.bind db.alerts.find?
      if alertId.isSome ∧ alert.isNone then
        .error (.refusedByDatabase "insert on table playbook_runs violates foreign key constraint")
      else
        match pb.func alertId alert db with
        | .error e => .error e
        | .ok (db', outcome) => .ok (db', {
            playbookId := row.id
            alertId := alertId
            status := outcome.status
            error := outcome.error
            sequencePosition := sequence.map Prod.fst
            sequenceTotal := sequence.map Prod.snd })

/-- What a run that was recorded says of the call. -/
theorem execute_ok {pb : RegisteredPlaybook} {alertId : Option Uuid}
    {sequence : Option (Nat × Nat)} {db db' : Db} {playbookRun : PlaybookRun}
    (h : execute pb alertId sequence db = .ok (db', playbookRun)) :
    playbookRun.alertId = alertId ∧
      ∃ row, db.playbooks.named? pb.name = some row ∧ playbookRun.playbookId = row.id := by
  unfold execute at h
  cases hrow : db.playbooks.named? pb.name with
  | none => simp only [hrow] at h; cases h
  | some row =>
      simp only [hrow] at h
      split at h
      · cases h
      · split at h
        · cases h
        · cases h
          exact ⟨rfl, row, rfl, rfl⟩

end OpenSoar
