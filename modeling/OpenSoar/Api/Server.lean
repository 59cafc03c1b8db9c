/-
# `OpenSoar.Api.Server` — everything that the API process and its database hold

The requests modelled elsewhere work on the part of the database that they read and write: a
`Db`, a `Store`, a `LinkDb` or the list of the observables.  A `Server` holds all tables with
all their columns, among them the primary keys of activities and links and the mentions of a
comment, with the registry, the broker and the cache.  Each of the parts is a projection of it,
and `absorb` takes over what a request has made of one.

A request that adds activities at the end and leaves the links alone leaves in the server exactly
its own store (`store_absorb`).
-/
import OpenSoar.Api.Links
import OpenSoar.Api.Playbooks
import OpenSoar.Api.Enrichments
import OpenSoar.Api.Invalidation
import OpenSoar.Retention.References

namespace OpenSoar

open Python

/-- `activities`, with the primary key and the columns that a comment writes. -/
structure ActivityEntry extends ActivityRow where
  id : Uuid
  mentions : Option (List String)
  updatedAt : Timestamp

def ActivityEntry.key (entry : ActivityEntry) : Uuid := entry.id

structure Server where
  alerts : Table AlertRow.key
  incidents : Table IncidentRow.key
  activities : Table ActivityEntry.key
  analysts : Table Analyst.id
  playbooks : PlaybookTable
  incidentTemplates : Table IncidentTemplate.id
  runs : List PlaybookRun
  observables : List Observable
  links : Table LinkRow.id
  registry : PlaybookRegistry
  broker : List Task
  cache : CacheEntries

/-- The server of an empty database. -/
def Server.empty : Server :=
  ⟨.empty, .empty, .empty, .empty, .empty, .empty, [], [], .empty, .empty, [], ∅⟩

/-! ## The parts that requests work on -/

def Server.store (s : Server) : Store where
  alerts := s.alerts
  incidents := s.incidents
  activities := s.activities.rows.map ActivityEntry.toActivityRow
  analysts := s.analysts
  playbooks := s.playbooks
  incidentTemplates := s.incidentTemplates
  runs := s.runs
  observables := s.observables
  incidentAlerts := s.links.rows.map LinkRow.toIncidentAlert

def Server.linkDb (s : Server) : LinkDb := { s.store.db with links := s.links }

def duplicateActivity : Raised :=
  .refusedByDatabase "duplicate key value violates unique constraint pk_activities"

/-- The table with one more activity. -/
def addActivity (activities : Table ActivityEntry.key) (entry : ActivityEntry) :
    Except Raised (Table ActivityEntry.key) :=
  orRaise (activities.insert? entry) duplicateActivity

/-- The columns that only comments set are left at their defaults. -/
def ActivityRow.entry (row : ActivityRow) (id : Uuid) : ActivityEntry :=
  { row with id := id, mentions := none, updatedAt := row.createdAt }

/-- The server after a request that has made its store `store`; the activities it has added get
the keys `newId`. -/
def Server.absorb (s : Server) (newId : Nat → Uuid) (store : Store) : Except Raised Server := do
  let added := store.activities.drop s.activities.rows.length
  let activities ← (added.zipIdx.map (fun row => row.1.entry (newId row.2))).foldlM addActivity
    s.activities
  pure { s with
    alerts := store.alerts
    incidents := store.incidents
    activities := activities
    analysts := store.analysts
    playbooks := store.playbooks
    incidentTemplates := store.incidentTemplates
    runs := store.runs
    observables := store.observables }

/-- The server after a request that has made its database `db`. -/
def Server.absorbDb (s : Server) (now : Timestamp) (newId : Nat → Uuid) (db : Db) :
    Except Raised Server :=
  s.absorb newId (s.store.absorb now db)

/-! ## Nothing is lost -/

theorem foldlM_addActivity {entries : List ActivityEntry} {table table' : Table ActivityEntry.key}
    (h : entries.foldlM addActivity table = .ok table') : table'.rows = table.rows ++ entries := by
  induction entries generalizing table with
  | nil =>
      cases h
      exact (List.append_nil _).symm
  | cons entry entries ih =>
      rw [List.foldlM_cons] at h
      obtain ⟨next, hnext, hrest⟩ := bind_ok h
      obtain ⟨-, hrows⟩ := Table.insert?_some (orRaise_ok hnext)
      rw [ih hrest, hrows, List.append_assoc]
      rfl

/-- The server holds exactly the store that the request has made. -/
theorem Server.store_absorb {s s' : Server} {newId : Nat → Uuid} {store : Store}
    {added : List ActivityRow} (hactivities : store.activities = s.store.activities ++ added)
    (hlinks : store.incidentAlerts = s.store.incidentAlerts)
    (h : s.absorb newId store = .ok s') : s'.store = store := by
  obtain ⟨activities, hfold, h⟩ := bind_ok h
  cases h
  have hrows := foldlM_addActivity hfold
  have hlength : s.activities.rows.length = s.store.activities.length :=
    (List.length_map _).symm
  rw [hactivities, hlength, List.drop_left] at hrows
  have hsame : activities.rows.map ActivityEntry.toActivityRow = store.activities := by
    rw [hrows, List.map_append, List.map_map, hactivities]
    show s.store.activities ++ added.zipIdx.map Prod.fst = _
    rw [List.zipIdx_map_fst]
  cases store
  simp only [store] at hsame hlinks ⊢
  rw [hsame, hlinks]

/-! ## Requests on the parts -/

/-- `delete_alert`, with the cascades of the activities and the links. -/
def Server.deleteAlert (app : App) (alertId : Uuid) (caller : Option Analyst) (s : Server) :
    Except RetentionRaised Server := do
  let store ← OpenSoar.deleteAlert app alertId caller s.store
  pure { s with
    alerts := store.alerts
    observables := store.observables
    activities := s.activities.filter (fun row => row.alertId ≠ some alertId)
    links := s.links.filter (fun link => link.alertId ≠ alertId) }

/-- `link_alert`, `unlink_alert` and `create_or_link_incident_for_alert`, nobody in between. -/
def Server.link (py : PyText) (app : App) (now : Timestamp) (newId : Nat → Uuid) (call : LinkCall)
    (s : Server) : Except Raised Server := do
  let found ← call.read py app s.linkDb
  let db ← (call.write found).commit s.linkDb
  let s' ← s.absorbDb now newId db.toDb
  pure { s' with links := db.links }

/-- `add_enrichment`. -/
def Server.addEnrichment (app : App) (observableId : Uuid) (data : EnrichmentCreate)
    (caller : Option Analyst) (s : Server) : Except Raised Server := do
  let obs ← observableForUpdate app observableId caller s.observables
  pure { s with observables := (OpenSoar.addEnrichment data obs).commit s.observables }

/-- `invalidate_observable_enrichment`. -/
def Server.invalidateEnrichment (app : App) (observableId : Uuid) (source : String)
    (caller : Option Analyst) (s : Server) : Except Raised Server := do
  let (store, cache, _) ←
    invalidateObservableEnrichment app observableId source caller s.store s.cache
  pure { s with observables := store.observables, cache := cache }

/-- `reload_playbooks`: when the sync raises, the registry has been replaced all the same. -/
def Server.reloadPlaybooks (newId : String → Uuid) (declared : List RegisteredPlaybook)
    (caller : Option Analyst) (s : Server) : Except Raised Server := do
  match ← OpenSoar.reloadPlaybooks newId declared caller s.store.db with
  | (registry, .ok db) => pure { s with registry := registry, playbooks := db.playbooks }
  | (registry, .error _) => pure { s with registry := registry }

/-- `update_playbook`. -/
def Server.updatePlaybook (app : App) (playbookId : Uuid) (update : PlaybookUpdate)
    (caller : Option Analyst) (s : Server) : Except Raised Server := do
  let db ← OpenSoar.updatePlaybook app playbookId update caller s.store.db
  pure { s with playbooks := db.playbooks }

/-- `run_playbook`. -/
def Server.runPlaybook (app : App) (playbookId : Uuid) (runRequest : Option PlaybookRunRequest)
    (caller : Option Analyst) (s : Server) : Except Raised Server := do
  let task ← OpenSoar.runPlaybook app s.registry playbookId runRequest caller s.store.db
  pure { s with broker := s.broker ++ [task] }

/-- `create_incident`. -/
def Server.createIncident (py : PyText) (app : App) (now : Timestamp) (newId : Nat → Uuid)
    (incidentId : Uuid) (data : IncidentCreate) (caller : Option Analyst) (s : Server) :
    Except Raised Server := do
  let (db, tasks) ← OpenSoar.createIncident py app incidentId data caller s.store.db
  let s' ← s.absorbDb now newId db
  pure { s' with broker := s.broker ++ tasks }

end OpenSoar
