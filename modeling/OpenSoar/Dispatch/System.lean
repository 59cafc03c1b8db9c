/-
# `OpenSoar.Dispatch.System` — every way a playbook comes to run, as one system

The platform is the database, the registry of the API process, the tasks published
to the broker so far and the runs the workers have recorded.  An event is a request
of `api/webhooks.py`, `api/playbooks.py` or `api/incidents.py`, a sync of some
process's registry, or a worker performing a task.  The broker may deliver a task
late, in any order and more than once (the tasks retry), so a worker performs any
task that was ever published, with whatever registry its process has.

`Selects` says which playbooks a request is about, by the selections the code makes
and none of its refusals.  What an accepted event can do is said once, in `Stepped`:
it publishes tasks for exactly the playbooks it selects
(`Stepped.publishedNames_iff`), and what a worker executes was published before.
-/
import OpenSoar.Api.Webhooks
import OpenSoar.Api.Playbooks
import OpenSoar.Api.Incidents

namespace OpenSoar

open Python

structure Platform where
  db : Db
  registry : PlaybookRegistry
  broker : List Task
  executed : List Executed

/-- A platform before its first request. -/
def Platform.start (db : Db) (registry : PlaybookRegistry) : Platform := ⟨db, registry, [], []⟩

inductive PlatformEvent where
  | sync (newId : String → Uuid) (registry : PlaybookRegistry)
  | reloadPlaybooks (newId : String → Uuid) (declared : List RegisteredPlaybook)
      (caller : Option Analyst)
  | updatePlaybook (playbookId : Uuid) (update : PlaybookUpdate) (caller : Option Analyst)
  | receiveAlert (request : WebhookRequest)
  | receiveElasticAlert (request : WebhookRequest)
  | createIncident (incidentId : Uuid) (data : IncidentCreate) (caller : Option Analyst)
  | runPlaybook (playbookId : Uuid) (runRequest : Option PlaybookRunRequest)
      (caller : Option Analyst)
  | work (index : Nat) (newId : String → Uuid) (worker : PlaybookRegistry)

/-- The database after a request, and the tasks it published. -/
def Platform.commit (platform : Platform) (db : Db) (tasks : List Task) : Platform :=
  { platform with db := db, broker := platform.broker ++ tasks }

/-- One event on the platform; one that raises changes nothing. -/
def platformStep (py : PyText) (app : App) (platform : Platform) :
    PlatformEvent → Except Raised Platform
  | .sync newId registry =>
      (syncToDb newId registry platform.db).map (fun db => platform.commit db [])
  | .reloadPlaybooks newId declared caller =>
      match reloadPlaybooks newId declared caller platform.db with
      | .error e => .error e
      | .ok (registry, .ok db) => .ok { platform.commit db [] with registry := registry }
      -- the sync raises, and the process keeps the registry it has just reloaded
      | .ok (registry, .error _) => .ok { platform.commit platform.db [] with registry := registry }
  | .updatePlaybook playbookId update caller =>
      (updatePlaybook app playbookId update caller platform.db).map
        (fun db => platform.commit db [])
  | .receiveAlert request =>
      (receiveAlert py platform.registry request platform.db).map
        (fun answer => platform.commit answer.1 answer.2.2)
  | .receiveElasticAlert request =>
      (receiveElasticAlert py platform.registry request platform.db).map
        (fun answer => platform.commit answer.1 answer.2.2)
  | .createIncident incidentId data caller =>
      (createIncident py app incidentId data caller platform.db).map
        (fun answer => platform.commit answer.1 answer.2)
  | .runPlaybook playbookId runRequest caller =>
      (runPlaybook app platform.registry playbookId runRequest caller platform.db).map
        (fun task => platform.commit platform.db [task])
  | .work index newId worker =>
      (orRaise platform.broker[index]? (.runtimeError "no such task")).map (fun task =>
        let result := task.perform newId worker platform.db
        { platform.commit result.db [] with executed := platform.executed ++ result.results })

/-! ## What a request is about -/

/-- A webhook's payload makes a registered playbook eligible. -/
inductive Triggered (py : PyText) (platform : Platform) :
    PlatformEvent → NormalizedAlert → RegisteredPlaybook → Prop
  | alert (request : WebhookRequest) (n : NormalizedAlert) (pb : RegisteredPlaybook) :
      normalizeAlert py request.payload "webhook" = .ok n → pb ∈ platform.registry.rows →
      Eligible n.source n.toDict pb → Triggered py platform (.receiveAlert request) n pb
  | elastic (request : WebhookRequest) (n : NormalizedAlert) (pb : RegisteredPlaybook) :
      normalizeAlert py request.payload "elastic" = .ok n → pb ∈ platform.registry.rows →
      Eligible "elastic" n.toDict pb → Triggered py platform (.receiveElasticAlert request) n pb

/-- The playbooks a request selects, by name. -/
inductive Selects (py : PyText) (platform : Platform) : PlatformEvent → String → Prop
  | webhook {event : PlatformEvent} (n : NormalizedAlert) (pb : RegisteredPlaybook) :
      Triggered py platform event n pb → Selects py platform event pb.name
  | template (incidentId : Uuid) (data : IncidentCreate) (caller : Option Analyst)
      (template : IncidentTemplate) (raw : String) (row : PlaybookDefinition) :
      data.templateId.bind platform.db.incidentTemplates.find? = some template →
      raw ∈ template.playbookIds → Uuid.ofText? py raw = some row.id →
      row ∈ platform.db.playbooks.rows →
      Selects py platform (.createIncident incidentId data caller) row.name.val
  | manual (playbookId : Uuid) (runRequest : Option PlaybookRunRequest)
      (caller : Option Analyst) (row : PlaybookDefinition) :
      platform.db.playbooks.find? playbookId = some row →
      Selects py platform (.runPlaybook playbookId runRequest caller) row.name.val

/-! ## What an accepted event does -/

/-- The tasks an accepted event publishes and the runs it records. -/
inductive Stepped (py : PyText) (platform platform' : Platform) :
    PlatformEvent → List Task → List Executed → Prop
  | synced (newId : String → Uuid) (registry : PlaybookRegistry) :
      Stepped py platform platform' (.sync newId registry) [] []
  | reloaded (newId : String → Uuid) (declared : List RegisteredPlaybook)
      (caller : Option Analyst) :
      Stepped py platform platform' (.reloadPlaybooks newId declared caller) [] []
  | updated (playbookId : Uuid) (update : PlaybookUpdate) (caller : Option Analyst) :
      Stepped py platform platform' (.updatePlaybook playbookId update caller) [] []
  | received (request : WebhookRequest) (n : NormalizedAlert) (alert : Alert) :
      normalizeAlert py request.payload "webhook" = .ok n →
      Received n platform.db platform'.db alert →
      Stepped py platform platform' (.receiveAlert request)
        (sequenceTasks (triggerMatch platform.registry n.source n.toDict) alert.id) []
  | receivedElastic (request : WebhookRequest) (n : NormalizedAlert) (alert : Alert) :
      normalizeAlert py request.payload "elastic" = .ok n →
      Received n platform.db platform'.db alert →
      Stepped py platform platform' (.receiveElasticAlert request)
        (sequenceTasks (triggerMatch platform.registry "elastic" n.toDict) alert.id) []
  | incident (incidentId : Uuid) (data : IncidentCreate) (caller : Option Analyst) :
      Stepped py platform platform' (.createIncident incidentId data caller)
        (((data.templateId.bind platform.db.incidentTemplates.find?).toList.flatMap
          (templatePlaybooks py · platform.db)).map (fun pb => .playbook pb.name.val none)) []
  | ran (playbookId : Uuid) (runRequest : Option PlaybookRunRequest) (analyst : Analyst)
      (definition : PlaybookDefinition) (task : Task) :
      RunAccepted playbookId runRequest analyst platform.db task definition →
      platform'.db = platform.db →
      Stepped py platform platform' (.runPlaybook playbookId runRequest (some analyst)) [task] []
  | worked (index : Nat) (newId : String → Uuid) (worker : PlaybookRegistry) (task : Task) :
      platform.broker[index]? = some task →
      Stepped py platform platform' (.work index newId worker) []
        (task.perform newId worker platform.db).results

theorem platformStep_ok {py : PyText} {app : App} {platform platform' : Platform}
    {event : PlatformEvent} (h : platformStep py app platform event = .ok platform') :
    ∃ tasks results, Stepped py platform platform' event tasks results ∧
      platform'.broker = platform.broker ++ tasks ∧
      platform'.executed = platform.executed ++ results := by
  cases event with
  | sync newId registry =>
      obtain ⟨db, -, rfl⟩ := map_ok h
      exact ⟨[], [], .synced newId registry, rfl, (List.append_nil _).symm⟩
  | reloadPlaybooks newId declared caller =>
      refine ⟨[], [], .reloaded newId declared caller, ?_⟩
      simp only [platformStep] at h
      split at h
      · cases h
      · cases h
        exact ⟨rfl, (List.append_nil _).symm⟩
      · cases h
        exact ⟨rfl, (List.append_nil _).symm⟩
  | updatePlaybook playbookId update caller =>
      obtain ⟨db, -, rfl⟩ := map_ok h
      exact ⟨[], [], .updated playbookId update caller, rfl, (List.append_nil _).symm⟩
  | receiveAlert request =>
      obtain ⟨⟨db, alert, tasks⟩, hreceive, rfl⟩ := map_ok h
      obtain ⟨n, hn, hreceived, rfl⟩ := receiveAlert_ok hreceive
      exact ⟨_, [], .received request n alert hn hreceived, rfl, (List.append_nil _).symm⟩
  | receiveElasticAlert request =>
      obtain ⟨⟨db, alert, tasks⟩, hreceive, rfl⟩ := map_ok h
      obtain ⟨n, hn, hreceived, rfl⟩ := receive_ok hreceive
      exact ⟨_, [], .receivedElastic request n alert hn hreceived, rfl, (List.append_nil _).symm⟩
  | createIncident incidentId data caller =>
      obtain ⟨⟨db, tasks⟩, hcreate, rfl⟩ := map_ok h
      rw [createIncident_ok hcreate]
      exact ⟨_, [], .incident incidentId data caller, rfl, (List.append_nil _).symm⟩
  | runPlaybook playbookId runRequest caller =>
      obtain ⟨task, hrun, rfl⟩ := map_ok h
      obtain ⟨analyst, definition, rfl, haccepted⟩ := runPlaybook_ok hrun
      exact ⟨[task], [], .ran playbookId runRequest analyst definition task haccepted rfl, rfl,
        (List.append_nil _).symm⟩
  | work index newId worker =>
      obtain ⟨task, htask, rfl⟩ := map_ok h
      exact ⟨[], _, .worked index newId worker task (orRaise_ok htask), rfl, rfl⟩

theorem mem_publishedNames {tasks : List Task} {name : String} :
    name ∈ publishedNames tasks ↔ ∃ task ∈ tasks, name ∈ task.names := List.mem_flatMap

theorem mem_publishedNames_sequenceTasks {pbs : List RegisteredPlaybook} {alertId : Uuid}
    {name : String} :
    name ∈ publishedNames (sequenceTasks pbs alertId) ↔ ∃ pb ∈ pbs, pb.name = name := by
  rw [publishedNames_sequenceTasks, List.mem_map]

theorem triggered_alert_iff {py : PyText} {platform : Platform} {request : WebhookRequest}
    {n : NormalizedAlert} (hn : normalizeAlert py request.payload "webhook" = .ok n)
    {pb : RegisteredPlaybook} :
    Triggered py platform (.receiveAlert request) n pb ↔
      pb ∈ triggerMatch platform.registry n.source n.toDict := by
  rw [mem_triggerMatch]
  constructor
  · intro h
    cases h with
    | alert _ _ _ _ hrow heligible => exact ⟨hrow, heligible⟩
  · rintro ⟨hrow, heligible⟩
    exact .alert request n pb hn hrow heligible

theorem triggered_elastic_iff {py : PyText} {platform : Platform} {request : WebhookRequest}
    {n : NormalizedAlert} (hn : normalizeAlert py request.payload "elastic" = .ok n)
    {pb : RegisteredPlaybook} :
    Triggered py platform (.receiveElasticAlert request) n pb ↔
      pb ∈ triggerMatch platform.registry "elastic" n.toDict := by
  rw [mem_triggerMatch]
  constructor
  · intro h
    cases h with
    | elastic _ _ _ _ hrow heligible => exact ⟨hrow, heligible⟩
  · rintro ⟨hrow, heligible⟩
    exact .elastic request n pb hn hrow heligible

/-- **An accepted event publishes exactly what it selects.** -/
theorem Stepped.publishedNames_iff {py : PyText} {platform platform' : Platform}
    {event : PlatformEvent} {tasks : List Task} {results : List Executed}
    (h : Stepped py platform platform' event tasks results) (name : String) :
    name ∈ publishedNames tasks ↔ Selects py platform event name := by
  cases h with
  | synced | reloaded | updated | worked =>
      refine ⟨fun hmem => absurd hmem List.not_mem_nil, ?_⟩
      rintro ⟨n, pb, ⟨⟩⟩
  | received request n alert hn hreceived =>
      rw [mem_publishedNames_sequenceTasks]
      constructor
      · rintro ⟨pb, hpb, rfl⟩
        exact .webhook n pb ((triggered_alert_iff hn).mpr hpb)
      · rintro ⟨n', pb, htriggered⟩
        have hn' : n' = n := by
          cases htriggered with
          | alert _ _ _ hn' _ _ => exact Except.ok.inj (hn'.symm.trans hn)
        subst hn'
        exact ⟨pb, (triggered_alert_iff hn).mp htriggered, rfl⟩
  | receivedElastic request n alert hn hreceived =>
      rw [mem_publishedNames_sequenceTasks]
      constructor
      · rintro ⟨pb, hpb, rfl⟩
        exact .webhook n pb ((triggered_elastic_iff hn).mpr hpb)
      · rintro ⟨n', pb, htriggered⟩
        have hn' : n' = n := by
          cases htriggered with
          | elastic _ _ _ hn' _ _ => exact Except.ok.inj (hn'.symm.trans hn)
        subst hn'
        exact ⟨pb, (triggered_elastic_iff hn).mp htriggered, rfl⟩
  | incident incidentId data caller =>
      simp only [mem_publishedNames, List.mem_map, List.mem_flatMap, Option.mem_toList]
      constructor
      · rintro ⟨task, ⟨row, ⟨template, htemplate, hrow⟩, rfl⟩, hname⟩
        obtain ⟨hrow, raw, hraw, hid⟩ := mem_templatePlaybooks.mp hrow
        rw [List.mem_singleton.mp hname]
        exact .template incidentId data caller template raw row htemplate hraw hid hrow
      · intro hselects
        cases hselects with
        | webhook n pb htriggered => cases htriggered
        | template _ _ _ template raw row htemplate hraw hid hrow =>
            exact ⟨.playbook row.name.val none, ⟨row, ⟨template, htemplate,
              mem_templatePlaybooks.mpr ⟨hrow, raw, hraw, hid⟩⟩, rfl⟩, List.mem_singleton_self _⟩
  | ran playbookId runRequest analyst definition task haccepted hdb =>
      have hnames : publishedNames [task] = [definition.name.val] := by
        rw [haccepted.task_eq]; rfl
      rw [hnames, List.mem_singleton]
      constructor
      · rintro rfl
        exact .manual playbookId runRequest (some analyst) definition haccepted.found
      · intro hselects
        cases hselects with
        | webhook n pb htriggered => cases htriggered
        | manual _ _ _ row hrow =>
            rw [haccepted.found] at hrow
            cases hrow
            rfl

/-- What a worker executes was published, on the alert it was published for. -/
theorem Stepped.executes_published {py : PyText} {platform platform' : Platform}
    {event : PlatformEvent} {tasks : List Task} {results : List Executed}
    (h : Stepped py platform platform' event tasks results) {entry : Executed}
    (hentry : entry ∈ results) :
    ∃ task ∈ platform.broker, entry.playbookName ∈ task.names ∧
      entry.run.alertId = task.alertId := by
  cases h with
  | worked index newId worker task htask =>
      exact ⟨task, List.mem_of_getElem? htask, Task.perform_results hentry⟩
  | synced | reloaded | updated | received | receivedElastic | incident | ran =>
      exact absurd hentry List.not_mem_nil

/-! ## Runs -/

/-- A task and the request that published it. -/
structure Dispatched where
  request : Accepted Platform PlatformEvent
  task : Task

/-- What a request added to the broker. -/
def published (request : Accepted Platform PlatformEvent) : List Task :=
  request.after.broker.drop request.before.broker.length

/-- The tasks that the requests of a run publish. -/
def dispatches (py : PyText) (app : App) (platform : Platform) (events : List PlatformEvent) :
    List Dispatched :=
  (trace (platformStep py app) platform events).flatMap
    (fun request => (published request).map (fun task => ⟨request, task⟩))

/-- Whatever a run enqueues is dispatched as `Q` says, and whatever its workers execute
was so enqueued. -/
structure OnlyDispatches (py : PyText) (app : App) (platform : Platform)
    (events : List PlatformEvent) (Q : Dispatched → Prop) : Prop where
  enqueued : ∀ d ∈ dispatches py app platform events, Q d
  executed : ∀ entry ∈ (run (platformStep py app) platform events).executed,
    ∃ d ∈ dispatches py app platform events, Q d ∧ entry.playbookName ∈ d.task.names ∧
      entry.run.alertId = d.task.alertId

theorem mem_dispatches {py : PyText} {app : App} {platform : Platform}
    {events : List PlatformEvent} {d : Dispatched} :
    d ∈ dispatches py app platform events ↔
      d.request ∈ trace (platformStep py app) platform events ∧ d.task ∈ published d.request := by
  simp only [dispatches, List.mem_flatMap, List.mem_map]
  constructor
  · rintro ⟨request, hrequest, task, htask, rfl⟩
    exact ⟨hrequest, htask⟩
  · rintro ⟨hrequest, htask⟩
    exact ⟨d.request, hrequest, d.task, htask, rfl⟩

theorem stepped_published {py : PyText} {app : App} {request : Accepted Platform PlatformEvent}
    (h : platformStep py app request.before request.op = .ok request.after) :
    ∃ results, Stepped py request.before request.after request.op (published request) results := by
  obtain ⟨tasks, results, hstepped, hbroker, -⟩ := platformStep_ok h
  have htasks : published request = tasks := by rw [published, hbroker, List.drop_left]
  exact ⟨results, htasks ▸ hstepped⟩

/-- The broker holds what the run dispatched. -/
theorem broker_run (py : PyText) (app : App) (platform : Platform)
    (events : List PlatformEvent) :
    (run (platformStep py app) platform events).broker =
      platform.broker ++ (dispatches py app platform events).map (·.task) := by
  have hstep : ∀ before event after, platformStep py app before event = .ok after →
      after.broker = before.broker ++ published ⟨before, event, after⟩ := by
    intro before event after h
    obtain ⟨tasks, results, -, hbroker, -⟩ := platformStep_ok h
    rw [published, hbroker, List.drop_left]
  rw [run_log (platformStep py app) Platform.broker published hstep, dispatches, List.map_flatMap]
  simp only [List.map_map, Function.comp_def, List.map_id']

/-- Every recorded run is of a task in the broker. -/
def Traceable (platform : Platform) : Prop :=
  ∀ entry ∈ platform.executed, ∃ task ∈ platform.broker, entry.playbookName ∈ task.names ∧
    entry.run.alertId = task.alertId

theorem traceable_step {py : PyText} {app : App} {platform platform' : Platform}
    {event : PlatformEvent} (hI : Traceable platform)
    (h : platformStep py app platform event = .ok platform') : Traceable platform' := by
  obtain ⟨tasks, results, hstepped, hbroker, hexecuted⟩ := platformStep_ok h
  intro entry hentry
  rw [hexecuted, List.mem_append] at hentry
  rw [hbroker]
  rcases hentry with hentry | hentry
  · obtain ⟨task, htask, hof⟩ := hI entry hentry
    exact ⟨task, List.mem_append_left _ htask, hof⟩
  · obtain ⟨task, htask, hof⟩ := hstepped.executes_published hentry
    exact ⟨task, List.mem_append_left _ htask, hof⟩

/-- **Nothing is executed that no request dispatched**, so a run dispatches as `Q` says
when each of its requests does. -/
theorem onlyDispatches_of_enqueued {py : PyText} {app : App} {db : Db}
    {registry : PlaybookRegistry} {events : List PlatformEvent} {Q : Dispatched → Prop}
    (h : ∀ d ∈ dispatches py app (.start db registry) events, Q d) :
    OnlyDispatches py app (.start db registry) events Q := by
  refine ⟨h, ?_⟩
  intro entry hentry
  have hI : Traceable (run (platformStep py app) (.start db registry) events) :=
    run_inv_of_step _ (fun _ _ _ hI hstep => traceable_step hI hstep) events _
      (fun _ hmem => absurd hmem List.not_mem_nil)
  obtain ⟨task, htask, hof⟩ := hI entry hentry
  rw [broker_run] at htask
  obtain ⟨d, hd, rfl⟩ := List.mem_map.mp htask
  exact ⟨d, hd, h d hd, hof⟩

/-- **The dispatch rule.**  Where an accepted request dispatches as `Q` says exactly when
it meets `C`, so does a run: over requests that all meet `C` it keeps to `Q`, and
a run that keeps to `Q` has accepted no other request. -/
theorem onlyDispatches_of_step {py : PyText} {app : App} {Q : Dispatched → Prop}
    {C : Platform → PlatformEvent → Prop}
    (hstep : ∀ request, platformStep py app request.before request.op = .ok request.after →
      ((∀ task ∈ published request, Q ⟨request, task⟩) ↔ C request.before request.op))
    (db : Db) (registry : PlaybookRegistry) (events : List PlatformEvent) :
    (Along (platformStep py app) C (.start db registry) events →
        OnlyDispatches py app (.start db registry) events Q) ∧
      (OnlyDispatches py app (.start db registry) events Q →
        ∀ request ∈ trace (platformStep py app) (.start db registry) events,
          C request.before request.op) := by
  constructor
  · intro halong
    refine onlyDispatches_of_enqueued ?_
    intro d hd
    obtain ⟨hrequest, htask⟩ := mem_dispatches.mp hd
    have hall := (hstep d.request (step_of_mem_trace _ hrequest)).mpr
      (halong.accepted _ _ hrequest)
    exact hall d.task htask
  · intro honly request hrequest
    refine (hstep request (step_of_mem_trace _ hrequest)).mp ?_
    intro task htask
    exact honly.enqueued ⟨request, task⟩ (mem_dispatches.mpr ⟨hrequest, htask⟩)

end OpenSoar
