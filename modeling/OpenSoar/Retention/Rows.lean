/-
# `OpenSoar.Retention.Rows` — the tables with the columns that retention reads

`created_at` and `archived_at` of alerts, incidents and activities, `closed_at` and the
assignment of incidents, and the tables that refer to alerts and incidents.  The
requests modelled elsewhere know none of these columns: they work on the `Db` that a
`Store` projects to (`Store.db`), and the store takes over what they make of it
(`Store.absorb`).  A row that was there keeps its other columns; a new one is created
at the time of the request and not archived.

The projection loses nothing that a request does: an operation that only adds
activities at the end leaves in the store exactly its own database (`db_absorb`).
-/
import OpenSoar.Api.Incidents
import OpenSoar.Lifecycle.System

namespace OpenSoar

open Python

/-! ## Rows -/

structure AlertRow extends Alert where
  createdAt : Timestamp
  archivedAt : Option Timestamp

def AlertRow.key (row : AlertRow) : Uuid := row.id

theorem AlertRow.id_toAlert (row : AlertRow) : row.toAlert.id = row.key := rfl

structure IncidentRow extends Incident where
  assignedTo : Option Uuid
  assignedUsername : Option (Varchar 100)
  closedAt : Option Timestamp
  createdAt : Timestamp
  archivedAt : Option Timestamp

def IncidentRow.key (row : IncidentRow) : Uuid := row.id

theorem IncidentRow.id_toIncident (row : IncidentRow) : row.toIncident.id = row.key := rfl

structure ActivityRow extends Activity where
  createdAt : Timestamp
  archivedAt : Option Timestamp

/-- `incident_alerts`. -/
structure IncidentAlert where
  incidentId : Uuid
  alertId : Uuid

/-- The committed database, the rows that refer to alerts and incidents included. -/
structure Store where
  alerts : Table AlertRow.key
  incidents : Table IncidentRow.key
  activities : List ActivityRow
  analysts : Table Analyst.id
  playbooks : PlaybookTable
  incidentTemplates : Table IncidentTemplate.id
  runs : List PlaybookRun
  observables : List Observable
  incidentAlerts : List IncidentAlert

/-- A store with empty tables. -/
def Store.empty : Store := ⟨.empty, .empty, [], .empty, .empty, .empty, [], [], []⟩

/-! ## The database a request works on -/

def Store.db (s : Store) : Db where
  alerts := s.alerts.map AlertRow.toAlert AlertRow.id_toAlert
  activities := s.activities.map ActivityRow.toActivity
  analysts := s.analysts
  playbooks := s.playbooks
  incidents := s.incidents.map IncidentRow.toIncident IncidentRow.id_toIncident
  incidentTemplates := s.incidentTemplates

/-- The full row of an alert that a request leaves behind. -/
def Store.alertRow (s : Store) (now : Timestamp) (alert : Alert) : AlertRow :=
  match s.alerts.find? alert.id with
  | some row => { row with toAlert := alert }
  | none => { toAlert := alert, createdAt := now, archivedAt := none }

/-- The full row of an incident that a request leaves behind. -/
def Store.incidentRow (s : Store) (now : Timestamp) (incident : Incident) : IncidentRow :=
  match s.incidents.find? incident.id with
  | some row => { row with toIncident := incident }
  | none =>
      { toIncident := incident
        assignedTo := none
        assignedUsername := none
        closedAt := none
        createdAt := now
        archivedAt := none }

/-- The row of an activity that is appended. -/
def newActivity (now : Timestamp) (activity : Activity) : ActivityRow :=
  { toActivity := activity, createdAt := now, archivedAt := none }

theorem Store.toAlert_alertRow (s : Store) (now : Timestamp) (alert : Alert) :
    (s.alertRow now alert).toAlert = alert := by
  simp only [alertRow]
  split <;> rfl

theorem Store.toIncident_incidentRow (s : Store) (now : Timestamp) (incident : Incident) :
    (s.incidentRow now incident).toIncident = incident := by
  simp only [incidentRow]
  split <;> rfl

theorem Store.key_alertRow (s : Store) (now : Timestamp) (alert : Alert) :
    (s.alertRow now alert).key = alert.id :=
  congrArg Alert.id (s.toAlert_alertRow now alert)

theorem Store.key_incidentRow (s : Store) (now : Timestamp) (incident : Incident) :
    (s.incidentRow now incident).key = incident.id :=
  congrArg Incident.id (s.toIncident_incidentRow now incident)

/-- The store after a request that made its database `db`. -/
def Store.absorb (s : Store) (now : Timestamp) (db : Db) : Store :=
  { s with
    alerts := db.alerts.map (s.alertRow now) (s.key_alertRow now)
    incidents := db.incidents.map (s.incidentRow now) (s.key_incidentRow now)
    activities := s.activities ++
      (db.activities.drop s.activities.length).map (newActivity now)
    analysts := db.analysts
    playbooks := db.playbooks
    incidentTemplates := db.incidentTemplates }

/-- A request on the database, in the store. -/
def Store.lift (now : Timestamp) (request : Db → Except Raised Db) (s : Store) :
    Except Raised Store :=
  (request s.db).map (s.absorb now)

/-! ## Nothing is lost -/

theorem Store.find?_db_alerts (s : Store) (i : Uuid) :
    s.db.alerts.find? i = (s.alerts.find? i).map AlertRow.toAlert :=
  Table.find?_map AlertRow.toAlert AlertRow.id_toAlert s.alerts i

theorem Store.find?_db_incidents (s : Store) (i : Uuid) :
    s.db.incidents.find? i = (s.incidents.find? i).map IncidentRow.toIncident :=
  Table.find?_map IncidentRow.toIncident IncidentRow.id_toIncident s.incidents i

theorem Store.find?_absorb_alerts (s : Store) (now : Timestamp) (db : Db) (i : Uuid) :
    (s.absorb now db).alerts.find? i = (db.alerts.find? i).map (s.alertRow now) :=
  Table.find?_map (s.alertRow now) (s.key_alertRow now) db.alerts i

theorem Store.find?_absorb_incidents (s : Store) (now : Timestamp) (db : Db) (i : Uuid) :
    (s.absorb now db).incidents.find? i = (db.incidents.find? i).map (s.incidentRow now) :=
  Table.find?_map (s.incidentRow now) (s.key_incidentRow now) db.incidents i

/-- The row of an alert that was stored keeps the columns the request does not know. -/
theorem Store.alertRow_stored {s : Store} {row : AlertRow} {alert : Alert} {now : Timestamp}
    (h : s.alerts.find? alert.id = some row) :
    s.alertRow now alert = { row with toAlert := alert } := by
  simp only [alertRow, h]

theorem Store.absorb_alert_stored {s : Store} {now : Timestamp} {db : Db} {i : Uuid}
    {row : AlertRow} {alert : Alert} (hrow : s.alerts.find? i = some row)
    (h : db.alerts.find? i = some alert) :
    (s.absorb now db).alerts.find? i = some { row with toAlert := alert } := by
  have hid : alert.id = i := Table.find?_key h
  subst hid
  rw [find?_absorb_alerts, h, Option.map_some, alertRow_stored hrow]

/-- A request that adds an alert creates its row now, and not archived. -/
theorem Store.absorb_alert_new {s : Store} {now : Timestamp} {db : Db} {i : Uuid}
    {row : AlertRow} (hnew : s.alerts.find? i = none)
    (h : (s.absorb now db).alerts.find? i = some row) :
    db.alerts.find? i = some row.toAlert ∧ row.createdAt = now ∧ row.archivedAt = none := by
  rw [find?_absorb_alerts] at h
  obtain ⟨alert, halert, rfl⟩ := Option.map_eq_some_iff.mp h
  have hid : alert.id = i := Table.find?_key halert
  subst hid
  refine ⟨by rw [toAlert_alertRow, halert], ?_, ?_⟩ <;> simp only [alertRow, hnew]

theorem Store.incidentRow_stored {s : Store} {row : IncidentRow} {incident : Incident}
    {now : Timestamp} (h : s.incidents.find? incident.id = some row) :
    s.incidentRow now incident = { row with toIncident := incident } := by
  simp only [incidentRow, h]

theorem Store.absorb_incident_stored {s : Store} {now : Timestamp} {db : Db} {i : Uuid}
    {row : IncidentRow} {incident : Incident} (hrow : s.incidents.find? i = some row)
    (h : db.incidents.find? i = some incident) :
    (s.absorb now db).incidents.find? i = some { row with toIncident := incident } := by
  have hid : incident.id = i := Table.find?_key h
  subst hid
  rw [find?_absorb_incidents, h, Option.map_some, incidentRow_stored hrow]

theorem Store.absorb_incident_new {s : Store} {now : Timestamp} {db : Db} {i : Uuid}
    {row : IncidentRow} (hnew : s.incidents.find? i = none)
    (h : (s.absorb now db).incidents.find? i = some row) :
    db.incidents.find? i = some row.toIncident ∧ row.closedAt = none ∧ row.createdAt = now ∧
      row.archivedAt = none := by
  rw [find?_absorb_incidents] at h
  obtain ⟨incident, hincident, rfl⟩ := Option.map_eq_some_iff.mp h
  have hid : incident.id = i := Table.find?_key hincident
  subst hid
  refine ⟨by rw [toIncident_incidentRow, hincident], ?_, ?_, ?_⟩ <;>
    simp only [incidentRow, hnew]

attribute [ext] Db

/-- The store holds exactly the database the request has made. -/
theorem Store.db_absorb {s : Store} {now : Timestamp} {db : Db} {added : List Activity}
    (h : db.activities = s.db.activities ++ added) : (s.absorb now db).db = db := by
  have halerts : (s.absorb now db).db.alerts = db.alerts := by
    refine Table.ext ?_
    show (db.alerts.rows.map (s.alertRow now)).map AlertRow.toAlert = db.alerts.rows
    rw [List.map_map]
    exact (List.map_congr_left (fun alert _ => s.toAlert_alertRow now alert)).trans
      (List.map_id _)
  have hincidents : (s.absorb now db).db.incidents = db.incidents := by
    refine Table.ext ?_
    show (db.incidents.rows.map (s.incidentRow now)).map IncidentRow.toIncident
      = db.incidents.rows
    rw [List.map_map]
    exact (List.map_congr_left (fun incident _ => s.toIncident_incidentRow now incident)).trans
      (List.map_id _)
  have hactivities : (s.absorb now db).db.activities = db.activities := by
    have hlength : s.activities.length = s.db.activities.length :=
      (List.length_map _).symm
    show (s.activities ++ (db.activities.drop s.activities.length).map (newActivity now)).map
      ActivityRow.toActivity = db.activities
    rw [List.map_append, List.map_map, hlength, h, List.drop_left]
    show s.db.activities ++ added.map id = s.db.activities ++ added
    rw [List.map_id]
  exact Db.ext halerts hactivities rfl rfl hincidents rfl

theorem Store.lift_ok {now : Timestamp} {request : Db → Except Raised Db} {s s' : Store}
    (h : s.lift now request = .ok s') :
    ∃ db, request s.db = .ok db ∧ s' = s.absorb now db := by
  obtain ⟨db, hdb, rfl⟩ := map_ok h
  exact ⟨db, hdb, rfl⟩

end OpenSoar
