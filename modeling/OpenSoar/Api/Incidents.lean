/-
# `OpenSoar.Api.Incidents` — creating an incident, from a template or without one

`create_incident` of `api/incidents.py`.  A template gives the severity and the tags
the request leaves out, and once the incident is committed each playbook it lists is
enqueued, without an alert: identifiers that do not parse and playbooks that no longer
exist are passed over.
-/
import OpenSoar.Api.Alerts
import OpenSoar.Worker.Tasks

namespace OpenSoar

open Python

structure IncidentCreate where
  title : String
  description : Option String
  severity : Option String
  tags : Option (List String)
  templateId : Option Uuid

/-- The activity that `create_incident` appends. -/
def incidentCreated (incident : Incident) (template : Option IncidentTemplate)
    (analyst : Analyst) : Activity where
  alertId := none
  incidentId := some incident.id
  analystId := some analyst.id
  analystUsername := some analyst.username
  action := .lit "incident_created"
  detail := some ("Incident created: " ++ incident.title.val)
  metadataJson := some (("incident_title", .str incident.title.val) ::
    match template with
    | some template =>
        [("template_id", .str template.id.toText), ("template_name", .str template.name.val)]
    | none => [])

/-- The template a request names, when the caller may read it. -/
def loadTemplate (app : App) (analyst : Analyst) (db : Db) :
    (templateId : Option Uuid) → Except Raised (Option IncidentTemplate)
  | none => .ok none
  | some templateId => do
      let template ← orRaise (db.incidentTemplates.find? templateId)
        (.httpException 400 "Incident template not found")
      enforceTenantAccess app (.incidentTemplate template) "read" (some analyst)
      pure (some template)

/-- The row of the new incident. -/
def newIncident (incidentId : Uuid) (data : IncidentCreate)
    (template : Option IncidentTemplate) : Except Raised Incident := do
  let title ← column 500 data.title
  let severity ← column 20 (data.severity.getD
    (match template with
      | some template => template.defaultSeverity.val
      | none => "medium"))
  pure {
    id := incidentId
    title := title
    description := data.description
    severity := severity
    status := .lit "open"
    tags := data.tags <|> template.map (·.defaultTags) }

/-- The rows `_trigger_template_playbooks` dispatches, in the order of the list. -/
def templatePlaybooks (py : PyText) (template : IncidentTemplate) (db : Db) :
    List PlaybookDefinition :=
  (template.playbookIds.filterMap (Uuid.ofText? py)).filterMap db.playbooks.find?

/-- `create_incident`: the database and the tasks published. -/
def createIncident (py : PyText) (app : App) (incidentId : Uuid) (data : IncidentCreate)
    (caller : Option Analyst) (db : Db) : Except Raised (Db × List Task) := do
  let analyst ← requirePermission .incidentsCreate caller
  let template ← loadTemplate app analyst db data.templateId
  let incident ← newIncident incidentId data template
  let incidents ← orRaise (db.incidents.insert? incident)
    (.refusedByDatabase "duplicate key value violates unique constraint pk_incidents")
  let db' := { db with
    incidents := incidents
    activities := db.activities ++ [incidentCreated incident template analyst] }
  let pbs := match template with
    | some template => templatePlaybooks py template db'
    | none => []
  pure (db', pbs.map (fun pb => .playbook pb.name.val none))

/-! ## What a template dispatches -/

theorem mem_templatePlaybooks {py : PyText} {template : IncidentTemplate} {db : Db}
    {row : PlaybookDefinition} :
    row ∈ templatePlaybooks py template db ↔
      row ∈ db.playbooks.rows ∧ ∃ raw ∈ template.playbookIds,
        Uuid.ofText? py raw = some row.id := by
  simp only [templatePlaybooks, List.mem_filterMap]
  constructor
  · rintro ⟨id, ⟨raw, hraw, hid⟩, hfind⟩
    have hkey : row.id = id := Table.find?_key hfind
    exact ⟨Table.mem_of_find? hfind, raw, hraw, hkey ▸ hid⟩
  · rintro ⟨hrow, raw, hraw, hid⟩
    exact ⟨row.id, ⟨raw, hraw, hid⟩, Table.find?_of_mem hrow⟩

theorem loadTemplate_ok {app : App} {analyst : Analyst} {db : Db} {templateId : Option Uuid}
    {template : Option IncidentTemplate}
    (h : loadTemplate app analyst db templateId = .ok template) :
    template = templateId.bind db.incidentTemplates.find? := by
  cases templateId with
  | none => cases h; rfl
  | some templateId =>
      obtain ⟨found, hfind, h⟩ := bind_ok h
      obtain ⟨-, -, h⟩ := bind_ok h
      cases h
      exact (orRaise_ok hfind).symm

/-- The rows an accepted request leaves: a new incident, and one more activity. -/
theorem createIncident_rows {py : PyText} {app : App} {incidentId : Uuid}
    {data : IncidentCreate} {caller : Option Analyst} {db db' : Db} {tasks : List Task}
    (h : createIncident py app incidentId data caller db = .ok (db', tasks)) :
    ∃ incident activity, incident.id = incidentId ∧ incident.status.val = "open" ∧
      db.incidents.insert? incident = some db'.incidents ∧
      db'.alerts = db.alerts ∧ db'.activities = db.activities ++ [activity] := by
  obtain ⟨analyst, -, h⟩ := bind_ok h
  obtain ⟨template, -, h⟩ := bind_ok h
  obtain ⟨incident, hincident, h⟩ := bind_ok h
  obtain ⟨incidents, hinsert, h⟩ := bind_ok h
  cases h
  obtain ⟨title, -, hincident⟩ := bind_ok hincident
  obtain ⟨severity, -, hincident⟩ := bind_ok hincident
  cases hincident
  exact ⟨_, _, rfl, rfl, orRaise_ok hinsert, rfl, rfl⟩

/-- The tasks an accepted request publishes, whatever else it writes. -/
theorem createIncident_ok {py : PyText} {app : App} {incidentId : Uuid} {data : IncidentCreate}
    {caller : Option Analyst} {db db' : Db} {tasks : List Task}
    (h : createIncident py app incidentId data caller db = .ok (db', tasks)) :
    tasks = ((data.templateId.bind db.incidentTemplates.find?).toList.flatMap
      (templatePlaybooks py · db)).map (fun pb => .playbook pb.name.val none) := by
  obtain ⟨analyst, -, h⟩ := bind_ok h
  obtain ⟨template, hload, h⟩ := bind_ok h
  obtain ⟨incident, -, h⟩ := bind_ok h
  obtain ⟨incidents, -, h⟩ := bind_ok h
  cases h
  rw [← loadTemplate_ok hload]
  cases template with
  | none => rfl
  | some template => rw [Option.toList_some, List.flatMap_singleton]; rfl

end OpenSoar
