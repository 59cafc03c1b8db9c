/-
# `OpenSoar.Api.Playbooks` — managing playbooks and running one by hand

`update_playbook`, `run_playbook` and `reload_playbooks` of `api/playbooks.py`.  Only
`run_playbook` compares the tenant of a playbook with the tenant of an alert; none of
them reads the flag `enabled` that `update_playbook` writes.
-/
import OpenSoar.Api.Alerts
import OpenSoar.Worker.Tasks

namespace OpenSoar

open Python

def playbookNotFound : Raised := .httpException 404 "Playbook not found"

/-! ## `PATCH /playbooks/{playbook_id}` -/

structure PlaybookUpdate where
  enabled : Field Bool
  partner : Field String
  tenantId : Field Uuid

/-- `setattr(pb, field, value)` for each field given. -/
def PlaybookUpdate.apply (update : PlaybookUpdate) (pb : PlaybookDefinition) :
    Except Raised PlaybookDefinition := do
  let enabled ← match update.enabled with
    | none => .ok pb.enabled
    | some none => .error (.refusedByDatabase "null value violates not-null constraint")
    | some (some enabled) => .ok enabled
  let partner ← update.partner.assignNullable pb.partner
  pure { pb with
    enabled := enabled
    partner := partner
    tenantId := update.tenantId.getD pb.tenantId }

/-- `update_playbook`: the validators see the row as it is to become. -/
def updatePlaybook (app : App) (playbookId : Uuid) (update : PlaybookUpdate)
    (caller : Option Analyst) (db : Db) : Except Raised Db := do
  let analyst ← requirePermission .playbooksManage caller
  let pb ← orRaise (db.playbooks.find? playbookId) playbookNotFound
  let updated ← update.apply pb
  enforceTenantAccess app (.playbook updated) "update" (some analyst)
  let playbooks ← PlaybookTable.checked (db.playbooks.set updated)
  pure { db with playbooks := playbooks }

/-- The name of a playbook is not for a request to change, so the constraint on it holds. -/
theorem PlaybookTable.checked_returns {playbooks : PlaybookTable}
    {pb updated : PlaybookDefinition} (hpb : playbooks.find? pb.id = some pb)
    (hid : updated.id = pb.id) (hname : updated.name = pb.name) :
    Returns (checked (playbooks.set updated)) := by
  have hnames : (playbooks.set updated).rows.map (·.name.val)
      = playbooks.rows.map (·.name.val) := by
    rw [Table.rows_set, List.map_map]
    refine List.map_congr_left (fun row hrow => ?_)
    show (if row.id = updated.id then updated else row).name.val = row.name.val
    split
    · rename_i hsame
      have hfound : playbooks.find? row.id = some row := Table.find?_of_mem hrow
      rw [hsame, hid, hpb] at hfound
      cases hfound
      rw [hname]
    · rfl
  exact ⟨⟨playbooks.set updated, by rw [hnames]; exact playbooks.uniqueNames⟩,
    dif_pos (by rw [hnames]; exact playbooks.uniqueNames)⟩

/-! ## `POST /playbooks/{playbook_id}/run` -/

structure PlaybookRunRequest where
  alertId : Option Uuid

/-- The alert a run is to be bound to: it exists, the caller may read it, and unless
the caller is an admin it is of the playbook's partner. -/
def checkRunAlert (app : App) (analyst : Analyst) (definition : PlaybookDefinition) (db : Db) :
    (alertId : Option Uuid) → Except Raised Unit
  | none => .ok ()
  | some alertId => do
      let alert ← orRaise (db.alerts.find? alertId) alertNotFound
      enforceTenantAccess app (.alert alert) "read" (some analyst)
      if analyst.role.val ≠ "admin" ∧ definition.partner ≠ alert.partner then
        .error (.httpException 403 "Playbook tenant scope does not match alert")
      else .ok ()

/-- `run_playbook`: the task it publishes. -/
def runPlaybook (app : App) (registry : PlaybookRegistry) (playbookId : Uuid)
    (runRequest : Option PlaybookRunRequest) (caller : Option Analyst) (db : Db) :
    Except Raised Task := do
  let analyst ← requirePermission .playbooksExecute caller
  let definition ← orRaise (db.playbooks.find? playbookId) playbookNotFound
  enforceTenantAccess app (.playbook definition) "run" (some analyst)
  let _ ← orRaise (registry.find? definition.name.val)
    (.httpException 404 "Playbook not loaded in registry")
  let alertId := runRequest.bind (·.alertId)
  checkRunAlert app analyst definition db alertId
  pure (.playbook definition.name.val alertId)

/-! ## `POST /playbooks/reload` -/

/-- `reload_playbooks`: the new registry, and the synced database or what the sync
raised.  The registry is replaced before the sync. -/
def reloadPlaybooks (newId : String → Uuid) (declared : List RegisteredPlaybook)
    (caller : Option Analyst) (db : Db) :
    Except Raised (PlaybookRegistry × Except Raised Db) := do
  let _ ← requirePermission .playbooksManage caller
  let registry := PlaybookRegistry.clearAndReload declared
  pure (registry, syncToDb newId registry db)

/-! ## What a manual run has passed -/

/-- Everything an accepted `run_playbook` found. -/
structure RunAccepted (playbookId : Uuid) (runRequest : Option PlaybookRunRequest)
    (analyst : Analyst) (db : Db) (task : Task) (definition : PlaybookDefinition) : Prop where
  found : db.playbooks.find? playbookId = some definition
  task_eq : task = .playbook definition.name.val (runRequest.bind (·.alertId))
  scope : ∀ alertId, task.alertId = some alertId → ∃ alert,
    db.alerts.find? alertId = some alert ∧
      (analyst.role.val = "admin" ∨ definition.partner = alert.partner)

theorem checkRunAlert_ok {app : App} {analyst : Analyst} {definition : PlaybookDefinition}
    {db : Db} {alertId : Uuid}
    (h : checkRunAlert app analyst definition db (some alertId) = .ok ()) :
    ∃ alert, db.alerts.find? alertId = some alert ∧
      (analyst.role.val = "admin" ∨ definition.partner = alert.partner) := by
  obtain ⟨alert, hfind, h⟩ := bind_ok h
  obtain ⟨-, -, h⟩ := bind_ok h
  refine ⟨alert, orRaise_ok hfind, ?_⟩
  split at h
  · cases h
  · rename_i hscope
    by_contra hneither
    exact hscope (not_or.mp hneither)

theorem runPlaybook_ok {app : App} {registry : PlaybookRegistry} {playbookId : Uuid}
    {runRequest : Option PlaybookRunRequest} {caller : Option Analyst} {db : Db} {task : Task}
    (h : runPlaybook app registry playbookId runRequest caller db = .ok task) :
    ∃ analyst definition, caller = some analyst ∧
      RunAccepted playbookId runRequest analyst db task definition := by
  obtain ⟨analyst, hcaller, h⟩ := bind_ok h
  obtain ⟨definition, hfind, h⟩ := bind_ok h
  obtain ⟨-, -, h⟩ := bind_ok h
  obtain ⟨-, -, h⟩ := bind_ok h
  obtain ⟨_, hcheck, h⟩ := bind_ok h
  cases h
  refine ⟨analyst, definition, (requirePermission_ok hcaller).1, orRaise_ok hfind, rfl, ?_⟩
  intro alertId hbound
  have hbound : runRequest.bind (·.alertId) = some alertId := hbound
  rw [hbound] at hcheck
  exact checkRunAlert_ok hcheck

end OpenSoar
