/-
# `OpenSoar.Api.Webhooks` — an alert comes in and its playbooks are enqueued

`receive_alert` and `receive_elastic_alert` of `api/webhooks.py`: store the alert,
match it against the process's registry, publish one sequence task for what was
matched, commit.  The two differ in the source they ingest under and in the source
they match with.

The API key in front of both is not modelled: the requests here are the ones it
lets through.
-/
import OpenSoar.Ingestion.Webhook
import OpenSoar.Worker.Tasks

namespace OpenSoar

open Python

/-- A webhook request, with the identifiers drawn while it is handled. -/
structure WebhookRequest where
  payload : Dict
  alertId : Uuid
  correlationId : Uuid

/-- `if matches: execute_playbook_sequence_task.delay(...)`. -/
def sequenceTasks (pbs : List RegisteredPlaybook) (alertId : Uuid) : List Task :=
  if pbs.isEmpty then [] else [.sequence (pbs.map (·.name)) (some alertId)]

/-- Either endpoint: the database, the alert and the tasks published. -/
def receive (py : PyText) (source : String) (matchSource : Alert → String)
    (registry : PlaybookRegistry) (request : WebhookRequest) (db : Db) :
    Except Raised (Db × Alert × List Task) :=
  match processWebhook py ⟨request.payload, source, request.alertId, request.correlationId⟩ db with
  | .error e => .error e
  | .ok (db', alert) =>
      let pbs := triggerMatch registry (matchSource alert) alert.normalized
      .ok (db', alert, sequenceTasks pbs alert.id)

/-- `receive_alert`. -/
def receiveAlert (py : PyText) : PlaybookRegistry → WebhookRequest → Db →
    Except Raised (Db × Alert × List Task) :=
  receive py "webhook" (fun alert => alert.source.val)

/-- `receive_elastic_alert`. -/
def receiveElasticAlert (py : PyText) : PlaybookRegistry → WebhookRequest → Db →
    Except Raised (Db × Alert × List Task) :=
  receive py "elastic" (fun _ => "elastic")

/-- The partner of the alert a normalised payload ends up on: of the stored one that
it duplicates, or the one it names itself. -/
def boundPartner (db : Db) (n : NormalizedAlert) : Option String :=
  match lookupDuplicate db n with
  | .ok (some existing) => existing.partner.map (·.val)
  | _ => n.partner.string?

/-! ## What is published -/

/-- The names a list of tasks is about. -/
def publishedNames (tasks : List Task) : List String := tasks.flatMap Task.names

theorem publishedNames_sequenceTasks (pbs : List RegisteredPlaybook) (alertId : Uuid) :
    publishedNames (sequenceTasks pbs alertId) = pbs.map (·.name) := by
  cases pbs with
  | nil => rfl
  | cons pb pbs => exact List.append_nil _

theorem alertId_of_sequenceTasks {pbs : List RegisteredPlaybook} {alertId : Uuid} {task : Task}
    (h : task ∈ sequenceTasks pbs alertId) : task.alertId = some alertId := by
  simp only [sequenceTasks] at h
  split at h
  · cases h
  · rw [List.mem_singleton.mp h]; rfl

theorem newAlert_normalized {call : WebhookCall} {n : NormalizedAlert} {alert : Alert}
    (h : newAlert call n = .ok alert) : alert.normalized = n.toDict := by
  unfold newAlert at h
  iterate 11 obtain ⟨_, -, h⟩ := bind_ok h
  cases h
  rfl

/-- What an accepted webhook leaves behind: the alert is stored, with the payload it was
matched by, and the playbooks are untouched. -/
structure Received (n : NormalizedAlert) (db db' : Db) (alert : Alert) : Prop where
  stored : db'.alerts.find? alert.id = some alert
  playbooks : db'.playbooks = db.playbooks
  normalized : alert.normalized = n.toDict
  source : alert.source.val = n.source
  partner : alert.partner.map (·.val) = boundPartner db n

theorem varcharColumn_val {n : Nat} {value : Json} {v : Option (Varchar n)}
    (h : varcharColumn n value = .ok v) :
    v.map (·.val) = value.string? := by
  cases value with
  | null => cases h; rfl
  | str s => exact varcharColumn_str h
  | _ => cases h

theorem Ingested.received {call : WebhookCall} {n : NormalizedAlert} {db db' : Db}
    {alert : Alert} (h : Ingested call n db db' alert) : Received n db db' alert := by
  cases h with
  | created hlookup hnew _ _ hfind hdb =>
      obtain ⟨-, hsource, -, -, -, -, -, hpartner, -⟩ := newAlert_ok hnew
      refine ⟨by rw [hfind, if_pos rfl], by rw [hdb], newAlert_normalized hnew, hsource, ?_⟩
      rw [varcharColumn_val hpartner, boundPartner, hlookup]
  | duplicate existing hlookup hfind halert hdb =>
      subst halert
      obtain ⟨sourceId, -, hrows⟩ := lookupDuplicate_some hlookup
      have hkey := (mem_alertsUnder.mp (hrows ▸ List.mem_singleton_self existing)).2
      have hstored : (db.commitAlert (registerDuplicate call n existing) []).alerts.find?
          existing.id = some (registerDuplicate call n existing) :=
        Db.find?_commitAlert_self hfind rfl
      refine ⟨by rw [hdb]; exact hstored, by rw [hdb]; rfl, rfl, hkey.1, ?_⟩
      rw [boundPartner, hlookup]
      rfl

theorem receive_ok {py : PyText} {source : String} {matchSource : Alert → String}
    {registry : PlaybookRegistry} {request : WebhookRequest} {db db' : Db} {alert : Alert}
    {tasks : List Task}
    (h : receive py source matchSource registry request db = .ok (db', alert, tasks)) :
    ∃ n, normalizeAlert py request.payload source = .ok n ∧ Received n db db' alert ∧
      tasks = sequenceTasks (triggerMatch registry (matchSource alert) n.toDict) alert.id := by
  unfold receive at h
  split at h
  · cases h
  · rename_i hprocess
    cases h
    obtain ⟨n, hn, hingested⟩ := processWebhook_ok hprocess
    have hreceived := hingested.received
    exact ⟨n, hn, hreceived, by rw [hreceived.normalized]⟩

theorem receiveAlert_ok {py : PyText} {registry : PlaybookRegistry} {request : WebhookRequest}
    {db db' : Db} {alert : Alert} {tasks : List Task}
    (h : receiveAlert py registry request db = .ok (db', alert, tasks)) :
    ∃ n, normalizeAlert py request.payload "webhook" = .ok n ∧ Received n db db' alert ∧
      tasks = sequenceTasks (triggerMatch registry n.source n.toDict) alert.id := by
  obtain ⟨n, hn, hreceived, htasks⟩ := receive_ok h
  exact ⟨n, hn, hreceived, by rw [htasks, hreceived.source]⟩

end OpenSoar
