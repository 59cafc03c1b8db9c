/-
# `OpenSoar.Dispatch.Ahead` — tasks that reach a worker before their rows are committed

A webhook request publishes its tasks and commits last.  A worker reads committed rows, and
the broker does not wait: `Outbox.Safe` is about every interleaving of one request with the
workers and with whatever else commits.

A sequence task must find its alert.  An enrichment task that misses its observable ends
with the status `missing`, which does no harm unless the ingest commits later.  A request
that adds an alert is safe only when it publishes nothing (`never_ahead_iff`); one that
updates an alert names a row that everyone can read.
-/
import OpenSoar.Api.Ingest
import OpenSoar.Lib.Outbox
import OpenSoar.Worker.Scheduling

namespace OpenSoar

open Python UnitOfWork Outbox

/-- A row that a task names. -/
inductive RowRef where
  | alert (id : Uuid)
  | observable (id : Uuid)
  deriving DecidableEq

/-- The rows of a store that tasks name. -/
def IngestStore.refs (store : IngestStore) : List RowRef :=
  store.db.alerts.rows.map (fun a => .alert a.id) ++
    store.observables.map (fun o => .observable o.id)

/-- The row that the worker reads first. -/
def Message.ref : Message → Option RowRef
  | .playbooks task => task.alertId.map .alert
  | .enrich task => some (.observable task.observableId)

/-- The tasks of an ingest, for consumers that read committed rows. -/
def ingestNaming : Naming IngestStore Message RowRef where
  rows := IngestStore.refs
  row := Message.ref
  strict
    | .playbooks _ => true
    | .enrich _ => false

/-- What a request does, for the world outside. -/
def requestEffects (py : PyText) (env : EnrichmentEnv) (source : String)
    (matchSource : Alert → String) (registry : PlaybookRegistry) (request : WebhookRequest)
    (store : IngestStore) : List (Effect IngestStore Message) :=
  (receiveIn py env source matchSource registry request (.opened store)).2.effects

/-- The request inserts the alert. -/
def AddsAlert (py : PyText) (source : String) (request : WebhookRequest) (db : Db)
    (alert : Alert) : Prop :=
  (∃ db', processWebhook py ⟨request.payload, source, request.alertId, request.correlationId⟩ db =
    .ok (db', alert)) ∧ db.alerts.find? alert.id = none

/-! ## The effects of a request -/

section Effects

variable {py : PyText} (env : EnrichmentEnv) {source : String} (matchSource : Alert → String)
  (registry : PlaybookRegistry) {request : WebhookRequest} {store : IngestStore}

/-- A request that is not accepted publishes nothing. -/
theorem effects_of_refused {e : Raised}
    (h : processWebhook py ⟨request.payload, source, request.alertId, request.correlationId⟩
      store.db = .error e) :
    requestEffects py env source matchSource registry request store = [] := by
  obtain ⟨call, hcall⟩ : ∃ call : WebhookCall,
      call = ⟨request.payload, source, request.alertId, request.correlationId⟩ := ⟨_, rfl⟩
  have hsilent : ∃ e' s', processWebhookIn py env call (.opened store) = (.error e', s') ∧
      s'.effects = [] := by
    rw [← hcall] at h
    unfold processWebhook at h
    have hfresh := not_doomed_opened (W := observableWrites) (μ := Message) store
    simp only [processWebhookIn, Work.bind_def]
    cases hread : webhookRead py call store.db with
    | error e' =>
        refine ⟨e', _, Work.andThen_error (Work.execute_error hfresh ?_), rfl⟩
        show (webhookRead py call store.db).map _ = _
        rw [hread]
        rfl
    | ok found =>
        rw [Work.andThen_ok (execute_read hread)]
        cases hwrite : webhookWrite call found with
        | error e' => exact ⟨e', _, Work.andThen_error rfl, rfl⟩
        | ok write =>
            cases hcommit : write.commit store.db with
            | ok db' =>
                simp only [hread, hwrite, hcommit] at h
                cases h
            | error e' =>
                refine ⟨e', _, (Work.andThen_ok (m := Work.ret write) rfl).trans
                  (Work.andThen_error (Work.execute_error hfresh ?_)), rfl⟩
                show (write.commit store.db).map _ = _
                rw [hcommit]
                rfl
  obtain ⟨e', s', herror, heffects⟩ := hsilent
  subst hcall
  have hrun : receiveIn py env source matchSource registry request (.opened store) =
      (.error e', s') := Work.andThen_error herror
  rw [requestEffects, hrun]
  exact heffects

/-- The tasks that a request for a new alert publishes, and whether it commits after them. -/
theorem effects_of_created {db' : Db} {alert : Alert}
    (h : processWebhook py ⟨request.payload, source, request.alertId, request.correlationId⟩
      store.db = .ok (db', alert)) (hnew : store.db.alerts.find? alert.id = none) :
    ∃ (sent : List Message) (commits : List (Effect IngestStore Message)),
      requestEffects py env source matchSource registry request store =
        (sent ++ (sequenceTasks (triggerMatch registry (matchSource alert) alert.normalized)
          alert.id).map Message.playbooks).map .published ++ commits ∧
      (NothingRefused env store.observables (iterObservableCandidates alert.iocs) →
        (∃ durable, commits = [.committed durable]) ∧
        ∀ message, message ∈ sent ↔ ∃ c, message = .enrich (enrichTask alert
            (newObservable env alert c)) ∧
          Scheduled env store.observables (iterObservableCandidates alert.iocs) c) ∧
      (¬ NothingRefused env store.observables (iterObservableCandidates alert.iocs) →
        commits = [] ∧ ∀ message ∈ sent, ∃ task, message = .enrich task) := by
  have hreceived := receive_of_processed matchSource registry h
  obtain ⟨s, henrich, hrun⟩ := receiveIn_created env store hreceived hnew
  have hdoomed := doomed_iff_of_created henrich
  have hwithin := autoEnrich_within env alert (.opened { store with db := db' })
  rw [henrich] at hwithin
  obtain ⟨hfails, hcommits⟩ := publishAndCommit_ends
    (triggerMatch registry (matchSource alert) alert.normalized) alert s
  rw [← hrun] at hfails hcommits
  by_cases hgood : NothingRefused env store.observables (iterObservableCandidates alert.iocs)
  · have hs : ¬ Doomed observableWrites s := fun hd => hdoomed.mp hd hgood
    obtain ⟨sent, hsent, hmem⟩ := autoEnrich_publishes henrich (not_doomed_opened _) hs
      (fun c _ => rfl)
    obtain ⟨s', hok, heffects⟩ := hcommits hs
    refine ⟨sent.map (fun obs => .enrich (enrichTask alert obs)),
      [.committed (s.flushed observableWrites).store], ?_, fun _ => ⟨⟨_, rfl⟩, fun message => ?_⟩,
      fun hno => absurd hgood hno⟩
    · rw [requestEffects, hok, heffects, hsent]
      simp [Session.opened, Function.comp_def]
    · constructor
      · intro hmessage
        obtain ⟨obs, hobs, rfl⟩ := List.mem_map.mp hmessage
        obtain ⟨c, rfl, hc⟩ := (hmem obs).mp hobs
        exact ⟨c, rfl, hc⟩
      · rintro ⟨c, rfl, hc⟩
        exact List.mem_map_of_mem (f := fun obs => Message.enrich (enrichTask alert obs))
          ((hmem _).mpr ⟨c, rfl, hc⟩)
  · obtain ⟨tasks, htasks⟩ := hwithin.published
    obtain ⟨s', herror, heffects⟩ := hfails (hdoomed.mpr hgood)
    refine ⟨tasks.map .enrich, [], ?_, fun h => absurd h hgood, fun _ => ⟨rfl, ?_⟩⟩
    · rw [requestEffects, herror, heffects, htasks]
      simp [Session.opened, Function.comp_def]
    · intro message hmessage
      obtain ⟨task, -, rfl⟩ := List.mem_map.mp hmessage
      exact ⟨task, rfl⟩

/-- A request that updates an alert publishes its sequence task and commits. -/
theorem effects_of_duplicate {db' : Db} {alert stored : Alert}
    (h : processWebhook py ⟨request.payload, source, request.alertId, request.correlationId⟩
      store.db = .ok (db', alert)) (hstored : store.db.alerts.find? alert.id = some stored) :
    ∃ durable, requestEffects py env source matchSource registry request store =
      ((sequenceTasks (triggerMatch registry (matchSource alert) alert.normalized)
        alert.id).map Message.playbooks).map .published ++ [.committed durable] := by
  obtain ⟨write, halert, hcommit, hout⟩ := processWebhookIn_ok env h
  cases write with
  | insert added =>
      -- an insert under the identifier of a stored row is refused
      cases halert
      have hrefused : store.db.alerts.insert? added = none := Table.insert?_taken hstored
      simp only [WebhookWrite.commit, hrefused] at hcommit
      cases hcommit
  | update updated setsCorrelationId =>
      cases halert
      have hfresh := not_doomed_opened (W := observableWrites) (μ := Message)
        { store with db := db' }
      obtain ⟨s', hok, heffects⟩ := (publishAndCommit_ends
        (triggerMatch registry (matchSource updated) updated.normalized) updated
        (.opened { store with db := db' })).2 hfresh
      refine ⟨(Session.flushed observableWrites
        (.opened { store with db := db' } : IngestSession)).store, ?_⟩
      have hrun : receiveIn py env source matchSource registry request (.opened store) =
          publishAndCommit (triggerMatch registry (matchSource updated) updated.normalized) updated
            (.opened { store with db := db' }) := Work.andThen_ok hout
      rw [requestEffects, hrun, hok, heffects]
      simp [Session.opened, Function.comp_def]
      rfl

end Effects

/-! ## Which requests are safe -/

theorem finds_playbooks {task : Task} {alertId : Uuid} {store : IngestStore}
    (h : task.alertId = some alertId) :
    ingestNaming.finds (.playbooks task) store.refs = true ↔
      store.db.alerts.find? alertId ≠ none := by
  have hrow : ingestNaming.row (.playbooks task) = some (.alert alertId) := by
    show task.alertId.map _ = _
    rw [h]
    rfl
  simp only [Naming.finds, hrow, decide_eq_true_eq, IngestStore.refs, List.mem_append]
  rw [Ne, Table.find?_eq_none_iff]
  simp

theorem finds_enrich {task : EnrichTask} {store : IngestStore} :
    ingestNaming.finds (.enrich task) store.refs = true ↔
      ∃ o ∈ store.observables, o.id = task.observableId := by
  have hrow : ingestNaming.row (.enrich task) = some (.observable task.observableId) := rfl
  simp [Naming.finds, hrow, IngestStore.refs]

theorem sequenceTasks_eq_nil {pbs : List RegisteredPlaybook} (alertId : Uuid) :
    sequenceTasks pbs alertId = [] ↔ pbs = [] := by
  cases pbs <;> simp [sequenceTasks]

section Requests

variable {py : PyText} (env : EnrichmentEnv) {source : String} (matchSource : Alert → String)
  (registry : PlaybookRegistry) {request : WebhookRequest} {store : IngestStore}

theorem AddsAlert.eq {db db' : Db} {alert alert' : Alert}
    (h : processWebhook py ⟨request.payload, source, request.alertId, request.correlationId⟩ db =
      .ok (db', alert)) (hadds : AddsAlert py source request db alert') : alert' = alert := by
  obtain ⟨⟨db'', h'⟩, -⟩ := hadds
  cases h.symm.trans h'
  rfl

/-- A sequence task about an alert that is not committed may not be published. -/
theorem not_mayPublish_playbooks {task : Task} {alertId : Uuid}
    {rest : List (Effect IngestStore Message)} (h : task.alertId = some alertId)
    (hnew : store.db.alerts.find? alertId = none) :
    ¬ MayPublish ingestNaming store.refs (.playbooks task) rest := by
  rintro (hfinds | ⟨hstrict, -⟩)
  · exact (finds_playbooks h).mp hfinds hnew
  · cases hstrict

/-- A request for a new alert is grounded when it publishes nothing, the tasks of an
enrichment that will not be committed apart. -/
theorem grounded_of_created {db' : Db} {alert : Alert}
    (h : processWebhook py ⟨request.payload, source, request.alertId, request.correlationId⟩
      store.db = .ok (db', alert)) (hnew : store.db.alerts.find? alert.id = none)
    (hfresh : ∀ c, ∀ o ∈ store.observables, o.id ≠ env.observableId c) :
    Grounded ingestNaming store.refs
        (requestEffects py env source matchSource registry request store) ↔
      triggerMatch registry (matchSource alert) alert.normalized = [] ∧
        (NothingRefused env store.observables (iterObservableCandidates alert.iocs) →
          ∀ c, ¬ Scheduled env store.observables (iterObservableCandidates alert.iocs) c) := by
  obtain ⟨sent, commits, heffects, hcommitted, hlost⟩ :=
    effects_of_created env matchSource registry h hnew
  rw [heffects, grounded_messages, ← sequenceTasks_eq_nil alert.id]
  have hsequence : (∀ task ∈ sequenceTasks (triggerMatch registry (matchSource alert)
      alert.normalized) alert.id, MayPublish ingestNaming store.refs (.playbooks task) commits) ↔
      sequenceTasks (triggerMatch registry (matchSource alert) alert.normalized) alert.id = [] := by
    constructor
    · intro hall
      refine List.eq_nil_iff_forall_not_mem.mpr (fun task htask => ?_)
      exact not_mayPublish_playbooks (alertId_of_sequenceTasks htask) hnew (hall task htask)
    · intro hnil task htask
      rw [hnil] at htask
      cases htask
  have hsplit : (∀ message ∈ sent ++ (sequenceTasks (triggerMatch registry (matchSource alert)
      alert.normalized) alert.id).map Message.playbooks,
        MayPublish ingestNaming store.refs message commits) ↔
      (∀ message ∈ sent, MayPublish ingestNaming store.refs message commits) ∧
        sequenceTasks (triggerMatch registry (matchSource alert) alert.normalized) alert.id =
          [] := by
    rw [List.forall_mem_append, List.forall_mem_map, hsequence]
  rw [hsplit]
  by_cases hgood : NothingRefused env store.observables (iterObservableCandidates alert.iocs)
  · obtain ⟨⟨durable, rfl⟩, hmem⟩ := hcommitted hgood
    constructor
    · rintro ⟨⟨hsent, hnil⟩, -⟩
      refine ⟨hnil, fun _ c hc => ?_⟩
      have hfinds := (hsent _ ((hmem _).mpr ⟨c, rfl, hc⟩)).finds
      obtain ⟨o, ho, hid⟩ := finds_enrich.mp hfinds
      exact hfresh c o ho hid
    · rintro ⟨hnil, hnone⟩
      refine ⟨⟨fun message hmessage => ?_, hnil⟩, trivial⟩
      obtain ⟨c, -, hc⟩ := (hmem message).mp hmessage
      exact absurd hc (hnone hgood c)
  · obtain ⟨rfl, hmem⟩ := hlost hgood
    constructor
    · rintro ⟨⟨-, hnil⟩, -⟩
      exact ⟨hnil, fun h => absurd h hgood⟩
    · rintro ⟨hnil, -⟩
      refine ⟨⟨fun message hmessage => ?_, hnil⟩, trivial⟩
      -- an enrichment whose ingest is not committed may miss its observable
      obtain ⟨task, rfl⟩ := hmem message hmessage
      exact Or.inr ⟨rfl, fun _ => List.not_mem_nil⟩

theorem grounded_of_duplicate {db' : Db} {alert stored : Alert}
    (h : processWebhook py ⟨request.payload, source, request.alertId, request.correlationId⟩
      store.db = .ok (db', alert)) (hstored : store.db.alerts.find? alert.id = some stored) :
    Grounded ingestNaming store.refs
      (requestEffects py env source matchSource registry request store) := by
  obtain ⟨durable, heffects⟩ :=
    effects_of_duplicate env matchSource registry h hstored
  rw [heffects, grounded_messages]
  refine ⟨?_, trivial⟩
  intro message hmessage
  obtain ⟨task, htask, rfl⟩ := List.mem_map.mp hmessage
  refine Or.inl ((finds_playbooks (alertId_of_sequenceTasks htask)).mpr ?_)
  rw [hstored]
  simp

end Requests

/-- **When no task of a request runs ahead of its row.**  In every interleaving with the
workers, with other requests and with anything else that commits, the request's sequence
task finds its alert, and no enrichment task of it misses an observable that the request
commits later, if and only if the request adds no alert, or one that matches no playbook
and of which no committed observable is enqueued for enrichment. -/
theorem never_ahead_iff {κ : Type} [DecidableEq κ] (k : κ) (py : PyText) (env : EnrichmentEnv)
    (source : String) (matchSource : Alert → String) (registry : PlaybookRegistry)
    (request : WebhookRequest) (store : IngestStore)
    (hfresh : ∀ c, ∀ o ∈ store.observables, o.id ≠ env.observableId c) :
    Safe ingestNaming k store (requestEffects py env source matchSource registry request store) ↔
      ∀ alert, AddsAlert py source request store.db alert →
        triggerMatch registry (matchSource alert) alert.normalized = [] ∧
          (NothingRefused env store.observables (iterObservableCandidates alert.iocs) →
            ∀ c, ¬ Scheduled env store.observables (iterObservableCandidates alert.iocs) c) := by
  rw [safe_iff_grounded]
  cases hprocess : processWebhook py
      ⟨request.payload, source, request.alertId, request.correlationId⟩ store.db with
  | error e =>
      rw [effects_of_refused env matchSource registry hprocess]
      refine iff_of_true trivial ?_
      rintro alert ⟨⟨db', h⟩, -⟩
      cases hprocess.symm.trans h
  | ok out =>
      obtain ⟨db', alert⟩ := out
      cases hfind : store.db.alerts.find? alert.id with
      | some stored =>
          refine iff_of_true (grounded_of_duplicate env matchSource registry hprocess hfind) ?_
          intro alert' hadds
          cases hadds.eq hprocess
          cases hfind.symm.trans hadds.2
      | none =>
          have hgrounded : Grounded ingestNaming (ingestNaming.rows store)
              (requestEffects py env source matchSource registry request store) ↔ _ :=
            grounded_of_created env matchSource registry hprocess hfind hfresh
          rw [hgrounded]
          constructor
          · intro h alert' hadds
            cases hadds.eq hprocess
            exact h
          · intro h
            exact h alert ⟨⟨db', hprocess⟩, hfind⟩

/-- The enrichment of an ordinary hash, in a world where everything is answered, is taken up
by a worker that is quick, and the observable is committed after that. -/
theorem enrichment_overtakes_its_ingest :
    ¬ Safe ingestNaming 0 ⟨.empty, []⟩ (requestEffects .ascii quietWorld "webhook"
      (fun alert => alert.source.val) .empty (fileHash (hashOf 64)) ⟨.empty, []⟩) := by
  rw [safe_iff_grounded]
  obtain ⟨value, hvalue, hlength, hlisted⟩ : ∃ value, value = hashOf 64 ∧ value.length = 64 ∧
      iterObservableCandidates (some [("hashes", .arr [.str value])]) = [("hash", value)] :=
    ⟨hashOf 64, rfl, length_hashOf 64, candidates_of_hash (by omega)⟩
  rw [← hvalue]
  obtain ⟨db', alert, tasks, hok, hiocs⟩ := receive_fileHash value
  have hprocess : processWebhook .ascii ⟨(fileHash value).payload, "webhook", 1, 2⟩ .empty =
      .ok (db', alert) := receive_processed (show receive .ascii "webhook"
        (fun alert => alert.source.val) .empty (fileHash value) .empty =
          .ok (db', alert, tasks) from hok)
  have hcandidates : iterObservableCandidates alert.iocs = [("hash", value)] := by
    rw [hiocs, hlisted]
  have hpasses : ∀ c ∈ [("hash", value)], Passes quietWorld [] c :=
    fun c _ => ⟨rfl, by simp [matching]⟩
  intro hgrounded
  have hcreated := (grounded_of_created quietWorld (fun alert => alert.source.val) .empty hprocess
    rfl (fun _ o ho => absurd ho List.not_mem_nil)).mp hgrounded
  rw [hcandidates] at hcreated
  refine hcreated.2 ?_ ("hash", value) ?_
  · refine ⟨fun _ _ => by simp [quietWorld], ?_, fun _ _ => by simp [quietWorld],
      fun _ _ _ _ _ => by simp [quietWorld]⟩
    rintro c ⟨before, after, hsplit, -⟩ - -
    have hc : c ∈ [("hash", value)] := by
      rw [hsplit]
      simp
    rw [List.mem_singleton.mp hc]
    show value.length ≤ 1000
    omega
  · exact ⟨List.mem_singleton.mpr rfl, rfl, hpasses, rfl, .noSources rfl rfl, rfl, rfl⟩

/-- A malware alert with an identifier of its source. -/
def malwareCase (alertId : Uuid) : WebhookRequest where
  payload := [("id", .str "case-7"), ("title", .str "Malware found"), ("file_hash", .str "d41d8c")]
  alertId := alertId
  correlationId := 2

/-- The alert has come in once, and its hash has been enriched. -/
def caseReceived : IngestStore where
  db := (processWebhook .ascii ⟨(malwareCase 1).payload, "webhook", 1, 2⟩ .empty).toOption.elim
    .empty Prod.fst
  observables := [⟨9, .lit "hash", .lit "d41d8c", none, .lit "enriched", none, some 1, none⟩]

/-- It comes in again: the request publishes the sequence of its playbook and commits, and the
worker finds the alert. -/
theorem duplicate_is_never_ahead :
    Safe ingestNaming 0 caseReceived (requestEffects .ascii quietWorld "webhook"
        (fun alert => alert.source.val) preparationAndRestart (malwareCase 3) caseReceived) ∧
      (requestEffects .ascii quietWorld "webhook" (fun alert => alert.source.val)
        preparationAndRestart (malwareCase 3) caseReceived).map
          (fun effect => match effect with
            | .published (.playbooks task) => some task.names
            | _ => none) = [some ["prepare_docker_recovery"], none] := by
  refine ⟨(never_ahead_iff 0 .ascii quietWorld "webhook" (fun alert => alert.source.val)
    preparationAndRestart (malwareCase 3) caseReceived ?_).mpr ?_, by decide +kernel⟩
  · intro c o ho
    rw [List.mem_singleton.mp ho]
    show (9 : Uuid) ≠ 7
    decide
  · -- the alert that the request is about is stored
    have hstored : (processWebhook .ascii ⟨(malwareCase 3).payload, "webhook", 3, 2⟩
        caseReceived.db).map (fun out => (caseReceived.db.alerts.find? out.2.id).isSome) =
          .ok true := by decide +kernel
    rintro alert ⟨⟨db', h⟩, hnew⟩
    rw [show processWebhook .ascii ⟨(malwareCase 3).payload, "webhook", 3, 2⟩ caseReceived.db =
      .ok (db', alert) from h] at hstored
    have hfound : (caseReceived.db.alerts.find? alert.id).isSome = true := Except.ok.inj hstored
    rw [hnew] at hfound
    cases hfound

end OpenSoar
