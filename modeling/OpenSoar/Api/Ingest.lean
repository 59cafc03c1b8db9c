/-
# `OpenSoar.Api.Ingest` — a webhook request as the one transaction it is

`receive_alert` and `receive_elastic_alert` once more, with the enrichment inside and the
commit at the end.  Storing the alert, the enrichment's statements and the commit share one
session; the enrichment's exceptions are swallowed at three levels, what it did to the
session is not.  A request that `receive` accepts therefore succeeds exactly when no
statement of the enrichment is refused (`ingest_succeeds_iff`).
-/
import OpenSoar.Api.Webhooks
import OpenSoar.Ingestion.Columns
import OpenSoar.Worker.Enrichment

namespace OpenSoar

open Python UnitOfWork

/-- `process_webhook` in its session; a stored alert is enriched, a duplicate is not. -/
def processWebhookIn (py : PyText) (env : EnrichmentEnv) (call : WebhookCall) :
    IngestWork Alert := do
  let found ← Work.execute observableWrites
    (fun store => (webhookRead py call store.db).map (fun found => (found, store)))
  let write ← Work.lift (webhookWrite call found)
  Work.execute observableWrites
    (fun store => (write.commit store.db).map (fun db => ((), { store with db := db })))
  match write with
  | .insert alert => do
      autoEnrich env alert
      pure alert
  | .update alert _ => pure alert

/-- `if matches: execute_playbook_sequence_task.delay(...)`, then the commit. -/
def publishAndCommit (pbs : List RegisteredPlaybook) (alert : Alert) :
    IngestWork (Alert × List String) := do
  if !pbs.isEmpty then
    Work.publish (.playbooks (.sequence (pbs.map (·.name)) (some alert.id)))
  Work.commit observableWrites
  pure (alert, pbs.map (·.name))

/-- Either endpoint. -/
def receiveIn (py : PyText) (env : EnrichmentEnv) (source : String)
    (matchSource : Alert → String) (registry : PlaybookRegistry) (request : WebhookRequest) :
    IngestWork (Alert × List String) := do
  let alert ← processWebhookIn py env
    ⟨request.payload, source, request.alertId, request.correlationId⟩
  publishAndCommit (triggerMatch registry (matchSource alert) alert.normalized) alert

/-- The request answers with the alert, and the alert is committed. -/
def Succeeds (alert : Alert) (out : Except Raised (Alert × List String) × IngestSession) : Prop :=
  ∃ names s durable, out = (.ok (alert, names), s) ∧ Effect.committed durable ∈ s.effects ∧
    durable.db.alerts.find? alert.id = some alert

/-! ## The parts of a request -/

/-- A query of the database at the start of a request. -/
theorem execute_read {α : Type} {read : Db → Except Raised α} {store : IngestStore} {a : α}
    (h : read store.db = .ok a) :
    Work.execute observableWrites (fun store : IngestStore =>
        (read store.db).map (fun a => (a, store))) (Session.opened store : IngestSession) =
      (.ok a, .opened store) := by
  refine Work.execute_ok (not_doomed_opened store) ?_
  show (read store.db).map _ = _
  rw [h]
  rfl

/-- A write to the database at the start of a request. -/
theorem execute_write {write : Db → Except Raised Db} {store : IngestStore} {db' : Db}
    (h : write store.db = .ok db') :
    Work.execute observableWrites (fun store : IngestStore =>
        (write store.db).map (fun db => ((), { store with db := db })))
        (Session.opened store : IngestSession) =
      (.ok (), .opened { store with db := db' }) := by
  refine Work.execute_ok (not_doomed_opened store) ?_
  show (write store.db).map _ = _
  rw [h]
  rfl

/-- The statements before the enrichment, where they go well. -/
theorem processWebhookIn_ok {py : PyText} (env : EnrichmentEnv) {call : WebhookCall}
    {store : IngestStore} {db' : Db} {alert : Alert}
    (h : processWebhook py call store.db = .ok (db', alert)) :
    ∃ write : WebhookWrite, write.alert = alert ∧ write.commit store.db = .ok db' ∧
      processWebhookIn py env call (.opened store) =
        (match write with
          | .insert alert => Work.andThen (autoEnrich env alert) (fun _ => Work.ret alert)
          | .update alert _ => Work.ret alert) (.opened { store with db := db' }) := by
  unfold processWebhook at h
  cases hread : webhookRead py call store.db with
  | error e => simp only [hread] at h; cases h
  | ok found =>
      simp only [hread] at h
      cases hwrite : webhookWrite call found with
      | error e => simp only [hwrite] at h; cases h
      | ok write =>
          simp only [hwrite] at h
          cases hcommit : write.commit store.db with
          | error e => simp only [hcommit] at h; cases h
          | ok db =>
              simp only [hcommit] at h
              cases h
              refine ⟨write, rfl, hcommit, ?_⟩
              simp only [processWebhookIn, Work.bind_def]
              rw [Work.andThen_ok (execute_read hread)]
              simp only [hwrite, Work.lift]
              rw [Work.andThen_ok (m := Work.ret write) rfl,
                Work.andThen_ok (execute_write hcommit)]
              cases write with
              | insert alert => rfl
              | update alert setsCorrelationId => rfl

theorem processWebhookIn_created {py : PyText} (env : EnrichmentEnv) {call : WebhookCall}
    {store : IngestStore} {db' : Db} {alert : Alert}
    (h : processWebhook py call store.db = .ok (db', alert))
    (hnew : store.db.alerts.find? alert.id = none) :
    processWebhookIn py env call (.opened store) =
      Work.andThen (autoEnrich env alert) (fun _ => Work.ret alert)
        (.opened { store with db := db' }) := by
  obtain ⟨write, halert, hcommit, hout⟩ := processWebhookIn_ok env h
  cases write with
  | insert stored =>
      cases halert
      exact hout
  | update stored setsCorrelationId =>
      cases halert
      simp only [WebhookWrite.commit, WebhookWrite.alert] at hcommit hnew
      rw [hnew] at hcommit
      cases hcommit

/-- The end of a request: whether it commits depends on the session alone, and on no
statement of its own. -/
theorem publishAndCommit_ends (pbs : List RegisteredPlaybook) (alert : Alert) (s : IngestSession) :
    (Doomed observableWrites s → ∃ s', publishAndCommit pbs alert s =
        (.error transactionRefused, s') ∧
      s'.effects = s.effects ++
        (sequenceTasks pbs alert.id).map (fun task => .published (.playbooks task))) ∧
    (¬ Doomed observableWrites s → ∃ s', publishAndCommit pbs alert s =
        (.ok (alert, pbs.map (·.name)), s') ∧
      s'.effects = s.effects ++
        (sequenceTasks pbs alert.id).map (fun task => .published (.playbooks task)) ++
          [.committed (s.flushed observableWrites).store]) := by
  cases pbs with
  | nil =>
      constructor
      · intro h
        exact ⟨_, Work.andThen_error (commit_refused h), (List.append_nil _).symm⟩
      · intro h
        exact ⟨_, Work.andThen_ok (commit_ok h), by simp [sequenceTasks]⟩
  | cons pb rest =>
      -- a published task leaves the session as doomed as it was
      obtain ⟨s', hpublish⟩ : ∃ s', (Work.publish (.playbooks
          (.sequence ((pb :: rest).map (·.name)) (some alert.id))) : IngestWork Unit) s =
            (.ok (), s') := ⟨_, rfl⟩
      cases hpublish
      constructor
      · intro h
        exact ⟨_, Work.andThen_error (commit_refused h), rfl⟩
      · intro h
        exact ⟨_, Work.andThen_ok (commit_ok h), by simp [sequenceTasks]; rfl⟩

theorem receive_processed {py : PyText} {source : String} {matchSource : Alert → String}
    {registry : PlaybookRegistry} {request : WebhookRequest} {db db' : Db} {alert : Alert}
    {tasks : List Task}
    (h : receive py source matchSource registry request db = .ok (db', alert, tasks)) :
    processWebhook py ⟨request.payload, source, request.alertId, request.correlationId⟩ db =
      .ok (db', alert) := by
  unfold receive at h
  split at h
  · cases h
  · rename_i hprocess
    cases h
    exact hprocess

theorem receive_of_processed {py : PyText} {source : String} (matchSource : Alert → String)
    (registry : PlaybookRegistry) {request : WebhookRequest} {db db' : Db} {alert : Alert}
    (h : processWebhook py ⟨request.payload, source, request.alertId, request.correlationId⟩ db =
      .ok (db', alert)) :
    receive py source matchSource registry request db = .ok (db', alert,
      sequenceTasks (triggerMatch registry (matchSource alert) alert.normalized) alert.id) := by
  simp only [receive, h]

/-- A request for an alert that is new: the enrichment of the stored alert, which returns
whatever it meets, and then the end. -/
theorem receiveIn_created {py : PyText} (env : EnrichmentEnv) {source : String}
    {matchSource : Alert → String} {registry : PlaybookRegistry} {request : WebhookRequest}
    (store : IngestStore) {db' : Db} {alert : Alert} {tasks : List Task}
    (h : receive py source matchSource registry request store.db = .ok (db', alert, tasks))
    (hnew : store.db.alerts.find? alert.id = none) :
    ∃ s, autoEnrich env alert (.opened { store with db := db' }) = (.ok (), s) ∧
      receiveIn py env source matchSource registry request (.opened store) =
        publishAndCommit (triggerMatch registry (matchSource alert) alert.normalized) alert s := by
  obtain ⟨s, henrich⟩ := autoEnrich_returns env alert (.opened { store with db := db' })
  refine ⟨s, henrich, ?_⟩
  have hprocess : processWebhookIn py env
      ⟨request.payload, source, request.alertId, request.correlationId⟩ (.opened store) =
        (.ok alert, s) := by
    rw [processWebhookIn_created env (receive_processed h) hnew]
    exact Work.andThen_ok henrich
  exact Work.andThen_ok hprocess

/-- Whether a request for a new alert ends doomed is decided by its enrichment. -/
theorem doomed_iff_of_created {env : EnrichmentEnv} {store : IngestStore} {db' : Db}
    {alert : Alert} {s : IngestSession}
    (h : autoEnrich env alert (.opened { store with db := db' }) = (.ok (), s)) :
    Doomed observableWrites s ↔
      ¬ NothingRefused env store.observables (iterObservableCandidates alert.iocs) := by
  have hdoomed := doomed_autoEnrich env store.observables alert
    (.opened { store with db := db' }) (not_doomed_opened _) (fun c _ => rfl)
  rw [h] at hdoomed
  exact hdoomed

/-- The end of a request succeeds in the sessions that can still commit. -/
theorem succeeds_iff_not_doomed (pbs : List RegisteredPlaybook) {alert : Alert}
    {s : IngestSession} (hstored : s.store.db.alerts.find? alert.id = some alert) :
    Succeeds alert (publishAndCommit pbs alert s) ↔ ¬ Doomed observableWrites s := by
  obtain ⟨hfails, hcommits⟩ := publishAndCommit_ends pbs alert s
  constructor
  · rintro ⟨names, s', durable, hok, -⟩ hdoomed
    obtain ⟨s'', hfailed, -⟩ := hfails hdoomed
    rw [hfailed] at hok
    cases hok
  · intro hgood
    obtain ⟨s', hok, heffects⟩ := hcommits hgood
    refine ⟨_, s', (s.flushed observableWrites).store, hok, ?_, ?_⟩
    · rw [heffects]
      simp
    · rw [(enriching_flushed s hgood).db]
      exact hstored

/-- **When enrichment does not block an ingest.**  A request whose own statements go well,
for an alert that is new, answers with the alert and commits it if and only if no statement
that the enrichment comes to is refused: whatever else fails in there is without
consequence, and a refusal never is. -/
theorem ingest_succeeds_iff {py : PyText} {env : EnrichmentEnv} {source : String}
    {matchSource : Alert → String} {registry : PlaybookRegistry} {request : WebhookRequest}
    {store : IngestStore} {db' : Db} {alert : Alert} {tasks : List Task}
    (h : receive py source matchSource registry request store.db = .ok (db', alert, tasks))
    (hnew : store.db.alerts.find? alert.id = none) :
    Succeeds alert (receiveIn py env source matchSource registry request (.opened store)) ↔
      NothingRefused env store.observables (iterObservableCandidates alert.iocs) := by
  obtain ⟨n, _, hreceived, _⟩ := receive_ok h
  obtain ⟨s, henrich, hrun⟩ := receiveIn_created env store h hnew
  have hwithin := autoEnrich_within env alert (.opened { store with db := db' })
  rw [henrich] at hwithin
  have hstored : s.store.db.alerts.find? alert.id = some alert := by
    rw [hwithin.db]
    exact hreceived.stored
  rw [hrun, succeeds_iff_not_doomed _ hstored, doomed_iff_of_created henrich, not_not]

/-- Every statement is answered and nothing is configured to enrich with. -/
def quietWorld : EnrichmentEnv where
  lookup _ := .answered
  observableId _ := 7
  flush := .answered
  enqueue _ := {
    sourcesFate := .answered
    sources := []
    cache := .value ()
    cached _ := .value false
    skipMetric := .value ()
    markInflight := .ok true
    delay := .value ()
    clearInflight := .ok () }

/-- A payload that names the hash of a file. -/
def fileHash (value : String) : WebhookRequest where
  payload := [("title", .str "Malware found"), ("file_hash", .str value)]
  alertId := 1
  correlationId := 2

/-- Such a request is accepted into an empty database, and the hash is an indicator. -/
theorem receive_fileHash (value : String) :
    ∃ db' alert tasks,
      receiveAlert .ascii .empty (fileHash value) .empty = .ok (db', alert, tasks) ∧
        alert.iocs = some [("hashes", .arr [.str value])] := by
  obtain ⟨call, hcall⟩ : ∃ call : WebhookCall, call = ⟨(fileHash value).payload, "webhook", 1, 2⟩ :=
    ⟨_, rfl⟩
  obtain ⟨n, hn, hfits, hlookup, hiocs⟩ : ∃ n, normalizeAlert .ascii call.payload call.source =
      .ok n ∧ n.FitsColumns ∧ lookupDuplicate .empty n = .ok none ∧
        n.iocs = [("hashes", .arr [.str value])] := by
    subst hcall
    refine ⟨_, rfl, ?_, rfl, rfl⟩
    refine ⟨?_, Or.inl rfl, ?_, Or.inl rfl, Or.inl rfl, Or.inl rfl, Or.inl rfl, ⟨[], rfl⟩,
      Or.inl rfl⟩
    · show "webhook".length ≤ 50
      decide
    · show (String.ofList "Malware found".toList).length ≤ 500
      decide
  obtain ⟨alert, halert⟩ := hfits.newAlert (normalizeAlert_severity hn) call
  obtain ⟨db', hprocess⟩ := processWebhook_stores hn hlookup halert rfl
  subst hcall
  exact ⟨db', alert, _, receive_of_processed (fun alert => alert.source.val) .empty hprocess,
    (newAlert_iocs halert).trans (congrArg some hiocs)⟩

/-- A hash of some length. -/
def hashOf (n : Nat) : String := String.ofList (List.replicate n 'a')

theorem length_hashOf (n : Nat) : (hashOf n).length = n := by
  rw [hashOf, String.length_ofList, List.length_replicate]

theorem candidates_of_hash {n : Nat} (hn : 0 < n) :
    iterObservableCandidates (some [("hashes", .arr [.str (hashOf n)])]) =
      [("hash", hashOf n)] := by
  have hne : hashOf n ≠ "" := by
    intro h
    have hlength := length_hashOf n
    rw [h] at hlength
    have hempty : "".length = 0 := rfl
    omega
  simp [iterObservableCandidates, candidatesUnder, observableType, Json.string?, hne, distinctOn,
    keepFirst, Option.filter]

/-- An indicator of 1001 characters, one longer than its column, takes the alert with it. -/
theorem long_hash_loses_the_alert :
    ¬ ∀ (env : EnrichmentEnv) (request : WebhookRequest) (store : IngestStore) (db' : Db)
        (alert : Alert) (tasks : List Task),
      receiveAlert .ascii .empty request store.db = .ok (db', alert, tasks) →
      store.db.alerts.find? alert.id = none →
      Succeeds alert (receiveIn .ascii env "webhook" (fun alert => alert.source.val) .empty request
        (.opened store)) := by
  intro hclaim
  obtain ⟨value, hlength, hcandidates⟩ : ∃ value : String, value.length = 1001 ∧
      iterObservableCandidates (some [("hashes", .arr [.str value])]) = [("hash", value)] :=
    ⟨hashOf 1001, length_hashOf 1001, candidates_of_hash (by omega)⟩
  obtain ⟨db', alert, tasks, hok, hiocs⟩ := receive_fileHash value
  have hsucceeds := hclaim quietWorld (fileHash value) ⟨.empty, []⟩ db' alert tasks hok rfl
  obtain ⟨s, henrich, hrun⟩ := receiveIn_created quietWorld ⟨.empty, []⟩ hok rfl
  have hdoomed : Doomed observableWrites s := by
    rw [doomed_iff_of_created henrich, hiocs, hcandidates]
    intro h
    have hfits := h.values ("hash", value) ⟨[], [], rfl, by simp⟩ ⟨rfl, by simp [matching]⟩ rfl
    simp only [hlength] at hfits
    omega
  obtain ⟨names, s', durable, hanswer, -⟩ := hsucceeds
  obtain ⟨s'', hfailed, -⟩ := (publishAndCommit_ends (triggerMatch .empty alert.source.val
    alert.normalized) alert s).1 hdoomed
  rw [hrun] at hanswer
  cases hanswer.symm.trans hfailed

/-- The same payload with the hash of a file as it is. -/
theorem ordinary_hash_is_ingested :
    ∃ db' alert tasks, receiveAlert .ascii .empty (fileHash (hashOf 64)) .empty =
        .ok (db', alert, tasks) ∧
      Succeeds alert (receiveIn .ascii quietWorld "webhook" (fun alert => alert.source.val) .empty
        (fileHash (hashOf 64)) (.opened ⟨.empty, []⟩)) := by
  obtain ⟨db', alert, tasks, hok, hiocs⟩ := receive_fileHash (hashOf 64)
  refine ⟨db', alert, tasks, hok, ?_⟩
  refine (@ingest_succeeds_iff .ascii quietWorld "webhook" (fun alert => alert.source.val) .empty
    (fileHash (hashOf 64)) ⟨.empty, []⟩ db' alert tasks hok rfl).mpr ?_
  rw [hiocs, candidates_of_hash (by omega)]
  have hlength := length_hashOf 64
  refine ⟨fun _ _ => by simp [quietWorld], ?_, fun _ _ => by simp [quietWorld],
    fun _ _ _ _ _ => by simp [quietWorld]⟩
  rintro c ⟨before, after, hsplit, -⟩ - -
  have hc : c ∈ [("hash", hashOf 64)] := by
    rw [hsplit]
    simp
  rw [List.mem_singleton.mp hc, hlength]
  omega

end OpenSoar
