/-
# `OpenSoar.Dispatch.Enabled` — whether a disabled playbook stays idle

`PATCH /playbooks/{playbook_id}` writes the flag `enabled` of a playbook's row.  No
route to execution reads it: the match reads the flag of the registered playbook,
which the decorator leaves true, and the other two routes read none.  So a disabled
playbook stays idle exactly as long as no request selects it
(`disabled_playbooks_stay_idle`).
-/
import OpenSoar.Dispatch.System

namespace OpenSoar

open Python

/-- No task of the request is about a playbook that was disabled when it came in. -/
def EnabledWhenRequested (d : Dispatched) : Prop :=
  ∀ row ∈ d.request.before.db.playbooks.rows, row.enabled = false →
    row.name.val ∉ d.task.names

/-- A request selects no playbook whose row is disabled. -/
def SelectsEnabled (py : PyText) (platform : Platform) (event : PlatformEvent) : Prop :=
  ∀ row ∈ platform.db.playbooks.rows, row.enabled = false →
    ¬ Selects py platform event row.name.val

/-- An accepted request dispatches enabled playbooks only, exactly when it selects such
playbooks only. -/
theorem enabledWhenRequested_iff {py : PyText} {app : App}
    {request : Accepted Platform PlatformEvent}
    (h : platformStep py app request.before request.op = .ok request.after) :
    (∀ task ∈ published request, EnabledWhenRequested ⟨request, task⟩) ↔
      SelectsEnabled py request.before request.op := by
  obtain ⟨results, hstepped⟩ := stepped_published h
  constructor
  · intro hall row hrow hdisabled hselects
    obtain ⟨task, htask, hname⟩ :=
      mem_publishedNames.mp ((hstepped.publishedNames_iff row.name.val).mpr hselects)
    exact hall task htask row hrow hdisabled hname
  · intro hselects task htask row hrow hdisabled hname
    exact hselects row hrow hdisabled
      ((hstepped.publishedNames_iff row.name.val).mp (mem_publishedNames.mpr ⟨task, htask, hname⟩))

/-- **When disabled playbooks stay idle.**  Over a run whose requests select enabled
playbooks only, nothing disabled is enqueued or executed; and a run that keeps to
this has accepted no other request. -/
theorem disabled_playbooks_stay_idle (py : PyText) (app : App) (db : Db)
    (registry : PlaybookRegistry) (events : List PlatformEvent) :
    (Along (platformStep py app) (SelectsEnabled py) (.start db registry) events →
        OnlyDispatches py app (.start db registry) events EnabledWhenRequested) ∧
      (OnlyDispatches py app (.start db registry) events EnabledWhenRequested →
        ∀ request ∈ trace (platformStep py app) (.start db registry) events,
          SelectsEnabled py request.before request.op) :=
  onlyDispatches_of_step (fun _ h => enabledWhenRequested_iff h) db registry events

/-! ## One playbook, disabled by an administrator -/

/-- A process with one playbook that every webhook triggers. -/
def restartOnly : PlaybookRegistry where
  rows := [samplePlaybook "restart_docker_service" "webhook" 20]
  nodup := by decide

def disable : PlaybookUpdate := ⟨some (some false), none, none⟩

/-- The playbook is synced and disabled; an alert comes in. -/
def disabledThenAlert : List PlatformEvent :=
  [.sync (fun _ => 5) restartOnly, .updatePlaybook 5 disable (some administrator),
   .receiveAlert ⟨[("title", .str "Container down")], 1, 11⟩]

/-- The alert enqueues the playbook that was disabled before it came. -/
theorem disabled_playbook_is_enqueued :
    ¬ OnlyDispatches .ascii .core (.start .empty restartOnly) disabledThenAlert
      EnabledWhenRequested := by
  intro hclaim
  have hany : (dispatches .ascii .core (.start .empty restartOnly) disabledThenAlert).any
      (fun d => d.request.before.db.playbooks.rows.any
        (fun row => !row.enabled && decide (row.name.val ∈ d.task.names))) = true := by
    decide +kernel
  obtain ⟨d, hd, hrow⟩ := List.any_eq_true.mp hany
  obtain ⟨row, hrow, hboth⟩ := List.any_eq_true.mp hrow
  obtain ⟨hdisabled, hname⟩ := (Bool.and_eq_true _ _).mp hboth
  exact hclaim.enqueued d hd row hrow (by simpa using hdisabled) (of_decide_eq_true hname)

/-- A platform on which no playbook is disabled. -/
theorem selectsEnabled_of_all {py : PyText} {platform : Platform} {event : PlatformEvent}
    (h : platform.db.playbooks.rows.all (·.enabled) = true) :
    SelectsEnabled py platform event := by
  intro row hrow hdisabled
  have henabled := List.all_eq_true.mp h row hrow
  rw [hdisabled] at henabled
  cases henabled

/-- An alert for which no playbook is eligible that is disabled. -/
theorem selectsEnabled_of_alert {py : PyText} {platform : Platform} {request : WebhookRequest}
    (h : ∀ n, normalizeAlert py request.payload "webhook" = .ok n →
      ∀ row ∈ platform.db.playbooks.rows, row.enabled = false →
        ∀ pb ∈ platform.registry.rows, pb.name = row.name.val → ¬ Eligible n.source n.toDict pb) :
    SelectsEnabled py platform (.receiveAlert request) := by
  intro row hrow hdisabled hselects
  generalize hname : row.name.val = name at hselects
  cases hselects with
  | webhook n pb htriggered =>
      cases htriggered with
      | alert _ _ _ hn hpb heligible => exact h n hn row hrow hdisabled pb hpb hname.symm heligible

/-- Both playbooks are synced, and the one for Elastic alerts is disabled. -/
def restartDisabled : List PlatformEvent :=
  [.sync (fun name => if name = "restart_docker_service" then 5 else 6) preparationAndRestart,
   .updatePlaybook 5 disable (some administrator)]

/-- Then an alert of another source comes in, and a worker takes its task. -/
def alertWorked : List PlatformEvent :=
  [.receiveAlert ⟨[("title", .str "Container down")], 1, 11⟩,
   .work 0 (fun _ => 31) preparationAndRestart]

/-- The alert runs the playbook that is enabled, and the disabled one stays idle. -/
theorem disabled_playbook_stays_idle :
    let start := Platform.start .empty preparationAndRestart
    let later := run (platformStep .ascii .core) start restartDisabled
    (later.db.playbooks.rows.map (fun row => (row.name.val, row.enabled)) =
        [("prepare_docker_recovery", true), ("restart_docker_service", false)]) ∧
      OnlyDispatches .ascii .core start (restartDisabled ++ alertWorked) EnabledWhenRequested ∧
      (dispatches .ascii .core start (restartDisabled ++ alertWorked)).map (·.task.names) =
        [["prepare_docker_recovery"]] := by
  intro start later
  have hrows : ∀ row ∈ later.db.playbooks.rows, row.enabled = false →
      row.name.val = "restart_docker_service" := by decide +kernel
  have hregistry : ∀ pb ∈ later.registry.rows, pb.name = "restart_docker_service" →
      pb.trigger = some "elastic" := by decide +kernel
  have hsource : (normalizeAlert .ascii [("title", .str "Container down")] "webhook").map
      (·.source) = .ok "webhook" := by decide +kernel
  refine ⟨by decide +kernel, (disabled_playbooks_stay_idle .ascii .core .empty
    preparationAndRestart (restartDisabled ++ alertWorked)).1 ⟨?_, ?_, ?_, ?_, trivial⟩,
    by decide +kernel⟩
  · exact selectsEnabled_of_all (by decide +kernel)
  · exact selectsEnabled_of_all (by decide +kernel)
  · show SelectsEnabled .ascii later _
    refine selectsEnabled_of_alert (fun n hn row hrow hdisabled pb hpb hname heligible => ?_)
    rw [show normalizeAlert .ascii [("title", .str "Container down")] "webhook" = .ok n from hn]
      at hsource
    have htrigger := heligible.trigger
    -- the playbook that is disabled is for alerts of another source
    rw [hregistry pb hpb (hname.trans (hrows row hrow hdisabled)),
      show n.source = "webhook" from Except.ok.inj hsource] at htrigger
    revert htrigger
    decide
  · intro row _ _ hselects
    generalize row.name.val = name at hselects
    obtain ⟨n, pb, ⟨⟩⟩ := hselects

end OpenSoar
