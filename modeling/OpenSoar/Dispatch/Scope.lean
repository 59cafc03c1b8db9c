/-
# `OpenSoar.Dispatch.Scope` — whose alerts a tenant's playbook runs on

A playbook's row may carry a partner.  `run_playbook` refuses to bind it to another
partner's alert unless the caller is an admin; the two webhooks match playbooks
against the alert's payload alone and never load the rows.  So a playbook keeps to its
tenant's alerts exactly as long as no webhook makes a playbook of another partner
eligible (`playbooks_keep_to_tenant`); manual runs need no condition.
-/
import OpenSoar.Dispatch.System

namespace OpenSoar

open Python

/-- A manual run that an admin asks for. -/
def byAdmin : PlatformEvent → Bool
  | .runPlaybook _ _ (some analyst) => decide (analyst.role.val = "admin")
  | _ => false

/-- The task binds no alert outside the partner of a playbook it is about. -/
def WithinTenant (d : Dispatched) : Prop :=
  byAdmin d.request.op = false → ∀ alertId alert, d.task.alertId = some alertId →
    d.request.after.db.alerts.find? alertId = some alert →
    ∀ row ∈ d.request.before.db.playbooks.rows, row.name.val ∈ d.task.names →
    ∀ partner, row.partner = some partner → alert.partner = some partner

/-- Every playbook that a webhook makes eligible has no partner, or the one of the alert
that the payload ends up on. -/
def TriggersInScope (py : PyText) (platform : Platform) (event : PlatformEvent) : Prop :=
  ∀ n pb, Triggered py platform event n pb →
    ∀ row ∈ platform.db.playbooks.rows, row.name.val = pb.name →
    ∀ partner, row.partner = some partner → boundPartner platform.db n = some partner.val

/-! ## The alert a task binds -/

/-- A task that binds an alert is a webhook's, for what its payload triggers, or a manual
run's, which has been checked. -/
inductive BoundTask (py : PyText) (platform : Platform) (event : PlatformEvent) (task : Task)
    (alert : Alert) : Prop
  | webhook (n : NormalizedAlert) : alert.partner.map (·.val) = boundPartner platform.db n →
      (∀ name, name ∈ task.names ↔ ∃ pb, Triggered py platform event n pb ∧ pb.name = name) →
      BoundTask py platform event task alert
  | manual (playbookId : Uuid) (runRequest : Option PlaybookRunRequest) (analyst : Analyst)
      (definition : PlaybookDefinition) :
        event = .runPlaybook playbookId runRequest (some analyst) →
      definition ∈ platform.db.playbooks.rows → task.names = [definition.name.val] →
      (analyst.role.val = "admin" ∨ definition.partner = alert.partner) →
      BoundTask py platform event task alert

theorem mem_names_sequenceTasks {pbs : List RegisteredPlaybook} {alertId : Uuid} {task : Task}
    (h : task ∈ sequenceTasks pbs alertId) (name : String) :
    name ∈ task.names ↔ ∃ pb ∈ pbs, pb.name = name := by
  simp only [sequenceTasks] at h
  split at h
  · cases h
  · rw [List.mem_singleton.mp h]
    exact List.mem_map

theorem Stepped.boundTask {py : PyText} {platform platform' : Platform} {event : PlatformEvent}
    {tasks : List Task} {results : List Executed}
    (h : Stepped py platform platform' event tasks results) {task : Task} (htask : task ∈ tasks)
    {alertId : Uuid} (hbound : task.alertId = some alertId) :
    ∃ alert, platform'.db.alerts.find? alertId = some alert ∧
      BoundTask py platform event task alert := by
  cases h with
  | synced | reloaded | updated | worked => exact absurd htask List.not_mem_nil
  | received request n alert hn hreceived =>
      rw [alertId_of_sequenceTasks htask] at hbound
      cases hbound
      refine ⟨alert, hreceived.stored, .webhook n hreceived.partner (fun name => ?_)⟩
      simp only [mem_names_sequenceTasks htask, triggered_alert_iff hn]
  | receivedElastic request n alert hn hreceived =>
      rw [alertId_of_sequenceTasks htask] at hbound
      cases hbound
      refine ⟨alert, hreceived.stored, .webhook n hreceived.partner (fun name => ?_)⟩
      simp only [mem_names_sequenceTasks htask, triggered_elastic_iff hn]
  | incident incidentId data caller =>
      obtain ⟨row, -, rfl⟩ := List.mem_map.mp htask
      cases hbound
  | ran playbookId runRequest analyst definition ran haccepted hdb =>
      rw [List.mem_singleton.mp htask] at hbound ⊢
      obtain ⟨alert, hfind, hscope⟩ := haccepted.scope alertId hbound
      refine ⟨alert, by rw [hdb]; exact hfind, .manual playbookId runRequest analyst definition rfl
        (Table.mem_of_find? haccepted.found) ?_ hscope⟩
      rw [haccepted.task_eq]
      rfl

theorem Triggered.byAdmin_eq_false {py : PyText} {platform : Platform} {event : PlatformEvent}
    {n : NormalizedAlert} {pb : RegisteredPlaybook} (h : Triggered py platform event n pb) :
    byAdmin event = false := by
  cases h <;> rfl

/-- What a webhook triggers is enqueued on its alert. -/
theorem Stepped.enqueues_triggered {py : PyText} {platform platform' : Platform}
    {event : PlatformEvent} {tasks : List Task} {results : List Executed}
    (h : Stepped py platform platform' event tasks results) {n : NormalizedAlert}
    {pb : RegisteredPlaybook} (htriggered : Triggered py platform event n pb) :
    ∃ task ∈ tasks, pb.name ∈ task.names ∧ ∃ alertId alert, task.alertId = some alertId ∧
      platform'.db.alerts.find? alertId = some alert ∧
      alert.partner.map (·.val) = boundPartner platform.db n := by
  have hname := (h.publishedNames_iff pb.name).mpr (.webhook n pb htriggered)
  obtain ⟨task, htask, hname⟩ := mem_publishedNames.mp hname
  refine ⟨task, htask, hname, ?_⟩
  cases htriggered with
  | alert request _ _ hn hrow heligible =>
      cases h with
      | received _ n' alert hn' hreceived =>
          rw [hn] at hn'
          cases hn'
          exact ⟨alert.id, alert, alertId_of_sequenceTasks htask, hreceived.stored,
            hreceived.partner⟩
  | elastic request _ _ hn hrow heligible =>
      cases h with
      | receivedElastic _ n' alert hn' hreceived =>
          rw [hn] at hn'
          cases hn'
          exact ⟨alert.id, alert, alertId_of_sequenceTasks htask, hreceived.stored,
            hreceived.partner⟩

/-- An accepted request keeps its tasks within their tenants, exactly when what it
triggers is in scope. -/
theorem withinTenant_iff {py : PyText} {app : App} {request : Accepted Platform PlatformEvent}
    (h : platformStep py app request.before request.op = .ok request.after) :
    (∀ task ∈ published request, WithinTenant ⟨request, task⟩) ↔
      TriggersInScope py request.before request.op := by
  obtain ⟨results, hstepped⟩ := stepped_published h
  constructor
  · intro hall n pb htriggered row hrow hname partner hpartner
    obtain ⟨task, htask, htaskName, alertId, alert, hbound, hfind, halert⟩ :=
      hstepped.enqueues_triggered htriggered
    have hsame := hall task htask htriggered.byAdmin_eq_false alertId alert hbound hfind row hrow
      (hname ▸ htaskName) partner hpartner
    rw [← halert, hsame, Option.map_some]
  · intro hscope task htask hadmin alertId alert hbound hfind row hrow hname partner hpartner
    obtain ⟨alert', hfind', hboundTask⟩ := hstepped.boundTask htask hbound
    have hfind : request.after.db.alerts.find? alertId = some alert := hfind
    rw [hfind] at hfind'
    cases hfind'
    cases hboundTask with
    | webhook n halert hnames =>
        obtain ⟨pb, htriggered, hpb⟩ := (hnames row.name.val).mp hname
        have hsame := hscope n pb htriggered row hrow hpb.symm partner hpartner
        obtain ⟨stored, hstored, hval⟩ := Option.map_eq_some_iff.mp (halert.trans hsame)
        rw [hstored, Varchar.ext_val hval]
    | manual playbookId runRequest analyst definition hevent hdefinition hnames hchecked =>
        have hrowEq : row = definition :=
          PlaybookTable.eq_of_name hrow hdefinition (List.mem_singleton.mp (hnames ▸ hname))
        rcases hchecked with hrole | hsame
        · have hadmin : byAdmin request.op = false := hadmin
          rw [hevent, byAdmin, decide_eq_true hrole] at hadmin
          cases hadmin
        · rw [← hsame, ← hrowEq, hpartner]

/-- **When playbooks keep to their tenant.**  Over a run whose webhooks trigger nothing
out of scope, no playbook of a partner is enqueued or executed on an alert that is not
that partner's, whoever asks for manual runs, admins apart; and a run that keeps to
this has accepted no other webhook. -/
theorem playbooks_keep_to_tenant (py : PyText) (app : App) (db : Db)
    (registry : PlaybookRegistry) (events : List PlatformEvent) :
    (Along (platformStep py app) (TriggersInScope py) (.start db registry) events →
        OnlyDispatches py app (.start db registry) events WithinTenant) ∧
      (OnlyDispatches py app (.start db registry) events WithinTenant →
        ∀ request ∈ trace (platformStep py app) (.start db registry) events,
          TriggersInScope py request.before request.op) :=
  onlyDispatches_of_step (fun _ h => withinTenant_iff h) db registry events

/-! ## A playbook of one partner, an alert of another -/

/-- A process with one playbook that every webhook triggers. -/
def isolateOnly : PlaybookRegistry where
  rows := [samplePlaybook "isolate_host" "webhook" 10]
  nodup := by decide

/-- The playbook is synced and given to the partner `acme`; an alert of some partner
comes in. -/
def acmePlaybookThenAlert (partner : String) : List PlatformEvent :=
  [.sync (fun _ => 5) isolateOnly,
   .updatePlaybook 5 ⟨none, some (some "acme"), none⟩ (some administrator),
   .receiveAlert ⟨[("title", .str "Beaconing"), ("partner", .str partner)], 1, 11⟩]

/-- The playbook of `acme` is enqueued on the alert of `globex`. -/
theorem playbook_crosses_tenants :
    ¬ OnlyDispatches .ascii .core (.start .empty isolateOnly) (acmePlaybookThenAlert "globex")
      WithinTenant := by
  intro hclaim
  have hany : (dispatches .ascii .core (.start .empty isolateOnly)
      (acmePlaybookThenAlert "globex")).any (fun d =>
        !byAdmin d.request.op
          && (decide (d.task.alertId = some 1)
          && (d.request.after.db.alerts.find? 1).any
              (fun alert => decide (alert.partner.map (·.val) = some "globex"))
          && d.request.before.db.playbooks.rows.any (fun row =>
              decide (row.name.val ∈ d.task.names)
                && decide (row.partner.map (·.val) = some "acme")))) = true := by
    decide +kernel
  simp only [List.any_eq_true, Option.any_eq_true, Bool.and_eq_true, Bool.not_eq_true',
    decide_eq_true_eq] at hany
  obtain ⟨d, hd, hadmin, ⟨hbound, alert, hfind, hglobex⟩, row, hrow, hname, hacme⟩ := hany
  obtain ⟨partner, hpartner, hval⟩ := Option.map_eq_some_iff.mp hacme
  have hsame := hclaim.enqueued d hd hadmin 1 alert hbound hfind row hrow hname partner hpartner
  rw [hsame, Option.map_some, hval] at hglobex
  exact absurd (Option.some.inj hglobex) (by decide)

/-- On an alert of its own partner the playbook runs within its tenant. -/
theorem playbooks_keep_to_tenant_on_own_alert :
    OnlyDispatches .ascii .core (.start .empty isolateOnly) (acmePlaybookThenAlert "acme")
        WithinTenant ∧
      (dispatches .ascii .core (.start .empty isolateOnly) (acmePlaybookThenAlert "acme")).map
        (·.task.names) = [["isolate_host"]] := by
  refine ⟨(playbooks_keep_to_tenant .ascii .core .empty isolateOnly
    (acmePlaybookThenAlert "acme")).1 ⟨?_, ?_, ?_, trivial⟩, by decide +kernel⟩
  · rintro n pb ⟨⟩
  · rintro n pb ⟨⟩
  · intro n pb htriggered row hrow _ partner hpartner
    have hn : normalizeAlert .ascii [("title", .str "Beaconing"), ("partner", .str "acme")]
        "webhook" = .ok n := by
      cases htriggered with
      | alert _ _ _ hn _ _ => exact hn
    have hrows : (attempt (platformStep .ascii .core) (attempt (platformStep .ascii .core)
        (.start .empty isolateOnly) (.sync (fun _ => 5) isolateOnly))
        (.updatePlaybook 5 ⟨none, some (some "acme"), none⟩
          (some administrator))).db.playbooks.rows.all
          (fun row => decide (row.partner.map (·.val) = some "acme")) = true := by
      decide +kernel
    have hacme := of_decide_eq_true (List.all_eq_true.mp hrows row hrow)
    rw [hpartner, Option.map_some] at hacme
    have hbound : (normalizeAlert .ascii
        [("title", .str "Beaconing"), ("partner", .str "acme")] "webhook").map
        (boundPartner (attempt (platformStep .ascii .core) (attempt (platformStep .ascii .core)
          (.start .empty isolateOnly) (.sync (fun _ => 5) isolateOnly))
          (.updatePlaybook 5 ⟨none, some (some "acme"), none⟩ (some administrator))).db)
          = .ok (some "acme") := by
      decide +kernel
    rw [hn] at hbound
    exact (Except.ok.inj hbound).trans hacme.symm

end OpenSoar
