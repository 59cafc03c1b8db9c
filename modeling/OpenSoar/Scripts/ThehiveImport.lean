/-
# `OpenSoar.Scripts.ThehiveImport` — importing a TheHive export over the API

`OpenSOARImporter`: alerts go to the webhook, cases become incidents, artifacts and observables are
posted one by one, and at the end each alert that names a case is linked to its incident.  What
belongs together is found by two maps, from TheHive's identifiers to those of the answers.

The answer to an alert has an `alert_id` and no `id`, which is what the script reads.  So the map of
the alerts stays empty: no link is ever requested and no artifact posted with its alert.  The
incident of an observable is never put into its body, and the status of a case is put into a field
that the schema does not have.  None of this is an error to anybody.
`thehive_import_preserves_structure_iff` says which exports come through all the same.
-/
import OpenSoar.Api.Bodies

namespace OpenSoar

open Python

/-! ## Payloads -/

/-- `alerts.json` and `cases.json`; a missing file is as good as an empty one. -/
structure ThehiveExport where
  alerts : List Dict
  cases : List Dict

/-- `SEVERITY_MAP`. -/
def severityMap : List (Json × String) :=
  [(.int 1, "low"), (.int 2, "medium"), (.int 3, "high"), (.int 4, "critical")]

/-- `TLP_MAP`. -/
def tlpMap : List (Json × String) :=
  [(.int 0, "white"), (.int 1, "green"), (.int 2, "amber"), (.int 3, "red")]

/-- `th_obj.get("id") or th_obj.get("_id", "")`. -/
def thId (thObj : Dict) : Json :=
  (Json.get thObj "id").orElse (Json.getD thObj "_id" (.str ""))

/-- `_map_severity`. -/
def mapSeverity (thSeverity : Json) : Except OperatorError String := do
  let severity ← Json.lookupKey severityMap thSeverity
  pure (severity.getD "medium")

/-- The tag of a traffic light, when it is a colour of `TLP_MAP`. -/
def lightTag (label : String) (light : Json) : Except OperatorError (List Json) :=
  if light.isNull then pure []
  else do
    let colour ← Json.lookupKey tlpMap light
    pure (colour.toList.map (fun colour => .str (label ++ colour)))

/-- `_build_tags`. -/
def buildTags (py : PyText) (thObj : Dict) : Except OperatorError (List Json) := do
  let tags ← (Json.getD thObj "tags" (.arr [])).elements
  let tlp ← lightTag "tlp:" (Json.get thObj "tlp")
  let pap ← lightTag "pap:" (Json.get thObj "pap")
  pure (tags ++ tlp ++ pap ++ Json.labelled py "thehive-type:" (Json.get thObj "type")
    ++ [.str "migrated:thehive"])

/-- The payload of an alert, with its artifacts. -/
def alertPayload (py : PyText) (thAlert : Dict) : Except OperatorError (Dict × List Dict) := do
  let severity ← mapSeverity (Json.getD thAlert "severity" (.int 2))
  let tags ← buildTags py thAlert
  let artifacts ← (Json.getD thAlert "artifacts" (.arr [])).dicts
  let iocs := (artifacts.map (fun artifact => Json.get artifact "data")).filter Json.truthy
  pure ([("title", Json.getD thAlert "title" (.str "Untitled Alert")),
      ("description", Json.getD thAlert "description" (.str "")),
      ("severity", .str severity),
      ("source", Json.getD thAlert "source" (.str "thehive-migration")),
      ("source_id", Json.getD thAlert "sourceRef" (thId thAlert)),
      ("tags", .arr tags),
      ("raw_payload", .obj thAlert)]
    ++ (if iocs.isEmpty then [] else [("iocs", .arr iocs)]), artifacts)

/-- The case is open, as the script reads its status. -/
def IsOpen (thCase : Dict) : Prop :=
  (Json.getD thCase "status" (.str "Open")).pyEq (.str "Open") = true

instance (thCase : Dict) : Decidable (IsOpen thCase) := inferInstanceAs (Decidable (_ = _))

/-- The payload of a case. -/
def casePayload (py : PyText) (thCase : Dict) : Except OperatorError Dict := do
  let summary := Json.get thCase "summary"
  let written := Json.getD thCase "description" (.str "")
  let description ←
    if summary.truthy then
      written.extended ("\n\n---\n**Resolution Summary:** " ++ summary.text py)
    else pure written
  let tags ← buildTags py thCase
  let severity ← mapSeverity (Json.getD thCase "severity" (.int 2))
  let owner := Json.get thCase "owner"
  pure ([("title", Json.getD thCase "title" (.str "Untitled Incident")),
      ("description", description),
      ("severity", .str severity),
      ("status", .str (if IsOpen thCase then "open" else "closed")),
      ("tags", .arr (tags
        ++ Json.labelled py "thehive-case:" (Json.getD thCase "caseId" (.str ""))
        ++ Json.labelled py "resolution:" (Json.get thCase "resolutionStatus")
        ++ Json.labelled py "impact:" (Json.get thCase "impactStatus")))]
    ++ if owner.truthy then [("assigned_username", owner)] else [])

/-- The start of an artifact's message, as a tag. -/
def contextTag (py : PyText) (message : Json) : Except OperatorError (List Json) :=
  if message.truthy then
    (message.firstN 100).map (fun start => [.str ("context:" ++ start.text py)])
  else pure []

/-- The payload of an artifact or observable. -/
def observablePayload (py : PyText) (thArtifact : Dict) (alertId : Json) :
    Except OperatorError Dict := do
  let tags ← (Json.getD thArtifact "tags" (.arr [])).elements
  let context ← contextTag py (Json.get thArtifact "message")
  let tlp ← lightTag "tlp:" (Json.get thArtifact "tlp")
  pure ([("type", Json.getD thArtifact "dataType" (.str "other")),
      ("value", Json.get thArtifact "data"),
      ("source", .str "thehive-migration"),
      ("tags", .arr (tags ++ context
        ++ (if (Json.get thArtifact "ioc").truthy then [.str "ioc:true"] else [])
        ++ (if (Json.get thArtifact "sighted").truthy then [.str "sighted:true"] else [])
        ++ tlp ++ [.str "migrated:thehive"]))]
    ++ if alertId.truthy then [("alert_id", alertId)] else [])

/-- Whether the first taxonomy of a Cortex report is malicious. -/
def reportMalicious (report : Dict) : Except OperatorError Bool := do
  let summary ← (Json.getD report "summary" (.obj [])).asDict
  if (Json.get summary "taxonomies").truthy then
    let taxonomy ← (Json.get summary "taxonomies").first
    let fields ← taxonomy.asDict
    pure ((Json.get fields "level").pyEq (.str "malicious"))
  else pure false

/-! ## The importer -/

structure ImportStats where
  alerts : Nat
  incidents : Nat
  observables : Nat
  links : Nat
  errors : Nat

/-- The importer and the server it talks to.  `sent` counts the requests; `alerts` and `cases` are
not the script's own: what the server has accepted, with the keys of the rows. -/
structure Importer where
  server : Server
  sent : Nat
  stats : ImportStats
  alertMap : List (Json × Json)
  incidentMap : List (Json × Json)
  alerts : List (Dict × Uuid)
  cases : List (Dict × Uuid)

def Importer.start (server : Server) : Importer :=
  ⟨server, 0, ⟨0, 0, 0, 0, 0⟩, [], [], [], []⟩

/-- One more request, after which the server is this one. -/
def Importer.request (s : Importer) (server : Server) : Importer :=
  { s with server := server, sent := s.sent + 1 }

/-- A refused request for an alert or a case, which is counted. -/
def Importer.refused (s : Importer) (server : Server) : Importer :=
  { s.request server with stats := { s.stats with errors := s.stats.errors + 1 } }

def Importer.acceptedAlert (s : Importer) (server : Server) (alertMap : List (Json × Json))
    (thAlert : Dict) (alertId : Uuid) : Importer :=
  { s.request server with
    stats := { s.stats with alerts := s.stats.alerts + 1 }
    alertMap := alertMap
    alerts := s.alerts ++ [(thAlert, alertId)] }

def Importer.acceptedCase (s : Importer) (server : Server) (incidentMap : List (Json × Json))
    (thCase : Dict) (incidentId : Uuid) : Importer :=
  { s.request server with
    stats := { s.stats with incidents := s.stats.incidents + 1 }
    incidentMap := incidentMap
    cases := s.cases ++ [(thCase, incidentId)] }

/-- `if os_id: mapping[th_id] = os_id`. -/
def recordId (mapping : List (Json × Json)) (thObj : Dict) (osId : Json) :
    Except OperatorError (List (Json × Json)) :=
  if osId.truthy then Json.assignKey mapping (thId thObj) osId else pure mapping

section Script

variable (py : PyText) (app : App) (caller : Option Analyst) (env : Nat → RequestEnv)

/-- A Cortex report, posted as an enrichment. -/
def importReport (obsId : Json) (s : Importer) (entry : String × Json) :
    Except OperatorError Importer := do
  let report ← entry.2.asDict
  let malicious ← reportMalicious report
  let enrichment : Dict := [("source", .str ("cortex:" ++ entry.1)), ("data", .obj report),
    ("malicious", .bool malicious)]
  match s.server.postEnrichment py app (obsId.text py) enrichment caller with
  | .error _ => pure (s.request s.server)
  | .ok server => pure (s.request server)

/-- The Cortex reports of an artifact, where the answer to it has an id. -/
def importReports (obsId : Json) (thArtifact : Dict) (s : Importer) :
    Except OperatorError Importer :=
  if obsId.truthy then do
    let reports ← (Json.getD thArtifact "reports" (.obj [])).asDict
    reports.foldlM (importReport py app caller obsId) s
  else pure s

/-- `_import_observable`. -/
def importObservable (s : Importer) (thArtifact : Dict) (alertId _incidentId : Json) :
    Except OperatorError Importer :=
  if !(Json.get thArtifact "data").truthy then pure s
  else do
    let payload ← observablePayload py thArtifact alertId
    match s.server.postObservable py app (env s.sent) payload caller with
    | .error _ => pure (s.request s.server)
    | .ok (server, obs) =>
        importReports py app caller (Json.get (observableResponse obs) "id") thArtifact
          { s.request server with
            stats := { s.stats with observables := s.stats.observables + 1 } }

/-- One turn of `import_alerts`. -/
def importAlert (s : Importer) (thAlert : Dict) : Except OperatorError Importer := do
  let (payload, artifacts) ← alertPayload py thAlert
  match s.server.receiveAlert py (env s.sent) payload with
  | (.error _, server) => pure (s.refused server)
  | (.ok (alert, names), server) =>
      let osId := Json.get (webhookResponse alert names) "id"
      let alertMap ← recordId s.alertMap thAlert osId
      artifacts.foldlM (fun s artifact => importObservable py app caller env s artifact osId .null)
        (s.acceptedAlert server alertMap thAlert alert.id)

/-- The loop over the logs of the tasks, which does nothing. -/
def passOverLogs (task : Dict) : Except OperatorError Unit := do
  let _ ← (Json.getD task "_logs" (.arr [])).elements
  pure ()

/-- One turn of `import_cases`. -/
def importCase (s : Importer) (thCase : Dict) : Except OperatorError Importer := do
  let payload ← casePayload py thCase
  match s.server.postIncident py app (env s.sent) payload caller with
  | .error _ => pure (s.refused s.server)
  | .ok (server, incident) =>
      let osId := Json.get (incidentResponse server incident) "id"
      let incidentMap ← recordId s.incidentMap thCase osId
      let observables ← (Json.getD thCase "_observables" (.arr [])).dicts
      let s' ← observables.foldlM
        (fun s obs => importObservable py app caller env s obs .null osId)
        (s.acceptedCase server incidentMap thCase incident.key)
      let tasks ← (Json.getD thCase "_tasks" (.arr [])).dicts
      tasks.forM passOverLogs
      pure s'

/-- The inner turn of `link_alerts_to_incidents`. -/
def linkAlert (thCaseId osIncidentId : Json) (s : Importer) (thAlert : Dict) :
    Except OperatorError Importer :=
  if !(Json.get thAlert "case").pyEq thCaseId then pure s
  else do
    let osAlertId ← Json.lookupKey s.alertMap (thId thAlert)
    if !(osAlertId.getD .null).truthy then pure s
    else
      match s.server.postLink py app (env s.sent) (osIncidentId.text py)
          [("alert_id", osAlertId.getD .null)] caller with
      | .error _ => pure (s.request s.server)
      | .ok server => pure { s.request server with
          stats := { s.stats with links := s.stats.links + 1 } }

/-- The outer turn of `link_alerts_to_incidents`. -/
def linkCase (alerts : List Dict) (s : Importer) (thCase : Dict) :
    Except OperatorError Importer := do
  let osIncidentId ← Json.lookupKey s.incidentMap (thId thCase)
  if !(osIncidentId.getD .null).truthy then pure s
  else alerts.foldlM (linkAlert py app caller env (thId thCase) (osIncidentId.getD .null)) s

/-- `import_all`. -/
def Importer.importAll (thExport : ThehiveExport) (s : Importer) :
    Except OperatorError Importer := do
  let s ← thExport.alerts.foldlM (importAlert py app caller env) s
  let s ← thExport.cases.foldlM (importCase py app caller env) s
  thExport.cases.foldlM (linkCase py app caller env thExport.alerts) s

end Script

/-! ## What an import is to preserve -/

/-- The alert names the case, as `link_alerts_to_incidents` compares them. -/
def NamesCase (thAlert thCase : Dict) : Prop :=
  (Json.get thAlert "case").pyEq (thId thCase) = true

/-- The artifacts of an alert, or the observables of a case. -/
def membersOf (thObj : Dict) (key : String) : List Dict :=
  match (Json.getD thObj key (.arr [])).dicts with
  | .ok members => members
  | .error _ => []

def HasData (thArtifact : Dict) : Prop := (Json.get thArtifact "data").truthy = true

instance (thArtifact : Dict) : Decidable (HasData thArtifact) := inferInstanceAs (Decidable (_ = _))

/-- The artifact has this type and value. -/
def RecordedAs (thArtifact : Dict) (pair : String × String) : Prop :=
  Json.getD thArtifact "dataType" (.str "other") = .str pair.1 ∧
    Json.get thArtifact "data" = .str pair.2

/-- Each artifact with data has an observable that is attached to the alert. -/
def ArtifactsAttached (observables : List Observable) (thAlert : Dict) (alertId : Uuid) : Prop :=
  ∀ artifact ∈ membersOf thAlert "artifacts", HasData artifact →
    ∃ pair, RecordedAs artifact pair ∧ HasObservable observables pair alertId

/-- The structure of the export, in the database of the server. -/
structure PreservesStructure (s : Importer) : Prop where
  links : ∀ a ∈ s.alerts, ∀ c ∈ s.cases, NamesCase a.1 c.1 →
    ∃ link ∈ s.server.links.rows, link.pair = (c.2, a.2)
  caseObservables : ∀ c ∈ s.cases, ∀ obs ∈ membersOf c.1 "_observables", HasData obs →
    ∃ o ∈ s.server.observables, RecordedAs obs o.pair ∧ o.incidentId = some c.2
  artifacts : ∀ a ∈ s.alerts, ArtifactsAttached s.server.observables a.1 a.2
  statuses : ∀ c ∈ s.cases, ∃ incident, s.server.incidents.find? c.2 = some incident ∧
    (incident.status.val = "closed" ↔ ¬ IsOpen c.1)

/-- The foreign keys of links and observables to incidents. -/
structure Server.ForeignKeys (s : Server) : Prop where
  links : ∀ link ∈ s.links.rows, (s.incidents.find? link.incidentId).isSome = true
  observables : ∀ o ∈ s.observables, ∀ i, o.incidentId = some i →
    (s.incidents.find? i).isSome = true

/-- The server itself attaches each artifact with data when it ingests the alert: it has found
the value elsewhere in the payload. -/
def AttachedByIngest (py : PyText) (env : Nat → RequestEnv) (s : Importer) (thAlert : Dict) :
    Prop :=
  ∀ payload artifacts alert names, alertPayload py thAlert = .ok (payload, artifacts) →
    (s.server.receiveAlert py (env s.sent) payload).1 = .ok (alert, names) →
    ArtifactsAttached (s.server.receiveAlert py (env s.sent) payload).2.observables thAlert alert.id

/-- There is nothing in the export that the script would have to carry over itself. -/
structure NothingToCarry (py : PyText) (app : App) (caller : Option Analyst)
    (env : Nat → RequestEnv) (thExport : ThehiveExport) (server : Server) : Prop where
  cases : ∀ thAlert ∈ thExport.alerts, ∀ thCase ∈ thExport.cases, ¬ NamesCase thAlert thCase
  caseObservables : ∀ thCase ∈ thExport.cases, ∀ obs ∈ membersOf thCase "_observables",
    ¬ HasData obs
  artifacts : Along (importAlert py app caller env) (AttachedByIngest py env) (.start server)
    thExport.alerts
  statuses : ∀ thCase ∈ thExport.cases, IsOpen thCase

/-! ## One request after another -/

/-- From one importer to the next: the server keeps what it has, and the map of the alerts, what
has been accepted, the links and the errors are the same. -/
structure Importer.Posts (s s' : Importer) : Prop where
  server : s.server.Keeps s'.server
  alertMap : s'.alertMap = s.alertMap
  alerts : s'.alerts = s.alerts
  cases : s'.cases = s.cases
  links : s'.stats.links = s.stats.links
  errors : s'.stats.errors = s.stats.errors

instance : IsPreorder Importer Importer.Posts where
  refl s := ⟨refl_of Server.Keeps s.server, rfl, rfl, rfl, rfl, rfl⟩
  trans _ _ _ h h' := ⟨trans_of Server.Keeps h.server h'.server, h'.alertMap.trans h.alertMap,
    h'.alerts.trans h.alerts, h'.cases.trans h.cases, h'.links.trans h.links,
    h'.errors.trans h.errors⟩

section Steps

variable {py : PyText} {app : App} {caller : Option Analyst} {env : Nat → RequestEnv}
variable {s s' : Importer}

theorem importReport_posts {obsId : Json} {entry : String × Json}
    (h : importReport py app caller obsId s entry = .ok s') : s.Posts s' := by
  obtain ⟨report, -, h⟩ := bind_ok h
  obtain ⟨malicious, -, h⟩ := bind_ok h
  dsimp only at h
  split at h
  · cases h
    exact ⟨refl_of Server.Keeps s.server, rfl, rfl, rfl, rfl, rfl⟩
  · rename_i server hposted
    cases h
    exact ⟨Server.postEnrichment_keeps hposted, rfl, rfl, rfl, rfl, rfl⟩

/-- What the body of an artifact leaves out. -/
theorem observablePayload_fields {thArtifact payload : Dict} {alertId : Json}
    (h : observablePayload py thArtifact alertId = .ok payload) (halert : alertId.truthy = false) :
    payload.lookup "alert_id" = none ∧ payload.lookup "incident_id" = none := by
  obtain ⟨tags, -, h⟩ := bind_ok h
  obtain ⟨context, -, h⟩ := bind_ok h
  obtain ⟨tlp, -, h⟩ := bind_ok h
  cases h
  rw [halert]
  exact ⟨rfl, rfl⟩

theorem importReports_posts {obsId : Json} {thArtifact : Dict}
    (h : importReports py app caller obsId thArtifact s = .ok s') : s.Posts s' := by
  unfold importReports at h
  split at h
  · obtain ⟨reports, -, h⟩ := bind_ok h
    exact foldlM_related (R := Importer.Posts) (fun _ _ _ => importReport_posts) h
  · cases h
    exact refl_of Importer.Posts s

/-- An artifact that is posted without its alert. -/
theorem importObservable_posts {thArtifact : Dict} {alertId incidentId : Json}
    (h : importObservable py app caller env s thArtifact alertId incidentId = .ok s')
    (halert : alertId.truthy = false) : s.Posts s' := by
  unfold importObservable at h
  split at h
  · cases h
    exact refl_of Importer.Posts s
  · obtain ⟨payload, hpayload, h⟩ := bind_ok h
    obtain ⟨hnoAlert, hnoIncident⟩ := observablePayload_fields hpayload halert
    split at h
    · cases h
      exact ⟨refl_of Server.Keeps s.server, rfl, rfl, rfl, rfl, rfl⟩
    · rename_i server obs hposted
      have hrequest : s.Posts { s.request server with
          stats := { s.stats with observables := s.stats.observables + 1 } } :=
        ⟨Server.postObservable_keeps hposted hnoAlert hnoIncident, rfl, rfl, rfl, rfl, rfl⟩
      exact trans_of Importer.Posts hrequest (importReports_posts h)

theorem importObservables_posts {artifacts : List Dict} {alertId incidentId : Json}
    (h : artifacts.foldlM (fun s artifact =>
      importObservable py app caller env s artifact alertId incidentId) s = .ok s')
    (halert : alertId.truthy = false) : s.Posts s' :=
  foldlM_related (R := Importer.Posts) (fun _ _ _ hone => importObservable_posts hone halert) h

/-- **One alert.**  It is refused, or stored and answered; its artifacts are posted without it, and
it does not get into the map. -/
theorem importAlert_cases {thAlert : Dict}
    (h : importAlert py app caller env s thAlert = .ok s') :
    ∃ payload artifacts, alertPayload py thAlert = .ok (payload, artifacts) ∧
      (s' = s.refused (s.server.receiveAlert py (env s.sent) payload).2 ∨
        ∃ alert names, (s.server.receiveAlert py (env s.sent) payload).1 = .ok (alert, names) ∧
          (s.acceptedAlert (s.server.receiveAlert py (env s.sent) payload).2 s.alertMap thAlert
            alert.id).Posts s') := by
  obtain ⟨⟨payload, artifacts⟩, hpayload, h⟩ := bind_ok h
  refine ⟨payload, artifacts, hpayload, ?_⟩
  dsimp only at h
  split at h
  · rename_i e server hreceived
    cases h
    rw [hreceived]
    exact Or.inl rfl
  · rename_i alert names server hreceived
    rw [hreceived]
    -- what the script looks for under `id` is there under `alert_id`
    have hnoId : Json.get (webhookResponse alert names) "id" = .null := rfl
    obtain ⟨alertMap, hmap, h⟩ := bind_ok h
    rw [hnoId] at hmap h
    cases hmap
    exact Or.inr ⟨alert, names, rfl, importObservables_posts h rfl⟩

/-- **One case.** -/
theorem importCase_cases {thCase : Dict} (h : importCase py app caller env s thCase = .ok s') :
    s' = s.refused s.server ∨
      ∃ payload server incident incidentMap,
        s.server.postIncident py app (env s.sent) payload caller = .ok (server, incident) ∧
          (s.acceptedCase server incidentMap thCase incident.key).Posts s' := by
  obtain ⟨payload, -, h⟩ := bind_ok h
  split at h
  · cases h
    exact Or.inl rfl
  · rename_i server incident hposted
    obtain ⟨incidentMap, -, h⟩ := bind_ok h
    obtain ⟨observables, -, h⟩ := bind_ok h
    obtain ⟨t, hobservables, h⟩ := bind_ok h
    obtain ⟨tasks, -, h⟩ := bind_ok h
    obtain ⟨⟨⟩, -, h⟩ := bind_ok h
    cases h
    exact Or.inr ⟨payload, server, incident, incidentMap, hposted,
      importObservables_posts hobservables rfl⟩

/-- A link is requested for an alert of the map only. -/
theorem linkAlert_idle {thCaseId osIncidentId : Json} {thAlert : Dict} (hmap : s.alertMap = [])
    (h : linkAlert py app caller env thCaseId osIncidentId s thAlert = .ok s') : s' = s := by
  unfold linkAlert at h
  split at h
  · cases h
    rfl
  · obtain ⟨osAlertId, hlookup, h⟩ := bind_ok h
    rw [hmap] at hlookup
    rw [Json.lookupKey_nil hlookup] at h
    cases h
    rfl

theorem linkCase_idle {alerts : List Dict} {thCase : Dict} (hmap : s.alertMap = [])
    (h : linkCase py app caller env alerts s thCase = .ok s') : s' = s := by
  obtain ⟨osIncidentId, -, h⟩ := bind_ok h
  split at h
  · cases h
    rfl
  · have hstep : ∀ (t : Importer) (thAlert : Dict) (t' : Importer), t = s →
        linkAlert py app caller env (thId thCase) (osIncidentId.getD .null) t thAlert = .ok t' →
        t' = s := by
      rintro t thAlert t' rfl hstep
      exact linkAlert_idle hmap hstep
    exact foldlM_inv (P := fun t => t = s) hstep rfl h

end Steps

/-! ## Whole imports -/

/-- From one importer to a later one: the server keeps what it has, the map of the alerts and the
links are the same, and errors are not forgotten. -/
structure Importer.Precedes (s s' : Importer) : Prop where
  server : s.server.Keeps s'.server
  alertMap : s'.alertMap = s.alertMap
  links : s'.stats.links = s.stats.links
  errors : s.stats.errors ≤ s'.stats.errors

instance : IsPreorder Importer Importer.Precedes where
  refl s := ⟨refl_of Server.Keeps s.server, rfl, rfl, Nat.le_refl _⟩
  trans _ _ _ h h' := ⟨trans_of Server.Keeps h.server h'.server, h'.alertMap.trans h.alertMap,
    h'.links.trans h.links, Nat.le_trans h.errors h'.errors⟩

/-- The cases that the server has accepted: their incidents are open, and nothing refers to
them. -/
structure Importer.Bare (s : Importer) : Prop where
  foreignKeys : s.server.ForeignKeys
  isOpen : ∀ c ∈ s.cases, ∃ incident, s.server.incidents.find? c.2 = some incident ∧
    incident.status.val = "open"
  links : ∀ c ∈ s.cases, ∀ link ∈ s.server.links.rows, link.incidentId ≠ c.2
  observables : ∀ c ∈ s.cases, ∀ o ∈ s.server.observables, o.incidentId ≠ some c.2

section Runs

variable {py : PyText} {app : App} {caller : Option Analyst} {env : Nat → RequestEnv}
variable {s s' : Importer}

theorem Server.ForeignKeys.keeps {t t' : Server} (h : t.ForeignKeys) (hkeeps : t.Keeps t') :
    t'.ForeignKeys := by
  have hstored : ∀ i, (t.incidents.find? i).isSome = true →
    (t'.incidents.find? i).isSome = true := by
    intro i hi
    obtain ⟨row, hrow⟩ := Option.isSome_iff_exists.mp hi
    rw [hkeeps.incidents i row hrow]
    rfl
  constructor
  · intro link hlink
    rw [hkeeps.links] at hlink
    exact hstored _ (h.links link hlink)
  · intro o ho i hi
    obtain ⟨o', ho', hi'⟩ := hkeeps.references o ho i hi
    exact hstored i (h.observables o' ho' i hi')

/-- What the server keeps leaves the cases bare. -/
theorem Importer.Bare.keeps (h : s.Bare) (hkeeps : s.server.Keeps s'.server)
    (hcases : s'.cases = s.cases) : s'.Bare := by
  refine ⟨h.foreignKeys.keeps hkeeps, ?_, ?_, ?_⟩
  · intro c hc
    rw [hcases] at hc
    obtain ⟨incident, hincident, hstatus⟩ := h.isOpen c hc
    exact ⟨incident, hkeeps.incidents _ _ hincident, hstatus⟩
  · intro c hc link hlink
    rw [hcases] at hc
    rw [hkeeps.links] at hlink
    exact h.links c hc link hlink
  · intro c hc o ho hincident
    rw [hcases] at hc
    obtain ⟨o', ho', hincident'⟩ := hkeeps.references o ho _ hincident
    exact h.observables c hc o' ho' hincident'

/-- A new incident is open and bare. -/
theorem Importer.Bare.acceptedCase (h : s.Bare) {payload : Dict} {request : RequestEnv}
    {server : Server} {incident : IncidentRow} (incidentMap : List (Json × Json)) (thCase : Dict)
    (hposted : s.server.postIncident py app request payload caller = .ok (server, incident)) :
    (s.acceptedCase server incidentMap thCase incident.key).Bare := by
  obtain ⟨hkeeps, hnew, hstored, hstatus⟩ := Server.postIncident_spec hposted
  have hold : ({ s with server := server } : Importer).Bare := h.keeps hkeeps rfl
  have hunknown : ∀ i, (s.server.incidents.find? i).isSome = true → i ≠ incident.key := by
    rintro _ hi rfl
    rw [hnew] at hi
    cases hi
  refine ⟨hold.foreignKeys, ?_, ?_, ?_⟩
  · intro c hc
    rcases List.mem_append.mp hc with hc | hc
    · exact hold.isOpen c hc
    · rw [List.mem_singleton.mp hc]
      exact ⟨incident, hstored, hstatus⟩
  · intro c hc link hlink
    rcases List.mem_append.mp hc with hc | hc
    · exact hold.links c hc link hlink
    · rw [List.mem_singleton.mp hc]
      have hlink : link ∈ s.server.links.rows := hkeeps.links ▸ hlink
      exact hunknown _ (h.foreignKeys.links link hlink)
  · intro c hc o ho hincident
    rcases List.mem_append.mp hc with hc | hc
    · exact hold.observables c hc o ho hincident
    · rw [List.mem_singleton.mp hc] at hincident
      obtain ⟨o', ho', hincident'⟩ := hkeeps.references o ho _ hincident
      exact hunknown _ (h.foreignKeys.observables o' ho' _ hincident') rfl

theorem Importer.Posts.precedes (h : s.Posts s') : s.Precedes s' :=
  ⟨h.server, h.alertMap, h.links, Nat.le_of_eq h.errors.symm⟩

theorem importAlert_precedes {thAlert : Dict}
    (h : importAlert py app caller env s thAlert = .ok s') : s.Precedes s' := by
  obtain ⟨payload, artifacts, -, hcases⟩ := importAlert_cases h
  have hkeeps := (Server.receiveAlert_spec py (env s.sent) payload s.server).1
  rcases hcases with rfl | ⟨alert, names, -, hposts⟩
  · exact ⟨hkeeps, rfl, rfl, Nat.le_succ _⟩
  · refine trans_of Importer.Precedes ?_ hposts.precedes
    exact ⟨hkeeps, rfl, rfl, Nat.le_refl _⟩

theorem importCase_precedes {thCase : Dict}
    (h : importCase py app caller env s thCase = .ok s') : s.Precedes s' := by
  rcases importCase_cases h with rfl | ⟨payload, server, incident, incidentMap, hposted, hposts⟩
  · exact ⟨refl_of Server.Keeps s.server, rfl, rfl, Nat.le_succ _⟩
  · refine trans_of Importer.Precedes ?_ hposts.precedes
    exact ⟨(Server.postIncident_spec hposted).1, rfl, rfl, Nat.le_refl _⟩

theorem importAlerts_precedes {alerts : List Dict}
    (h : alerts.foldlM (importAlert py app caller env) s = .ok s') : s.Precedes s' :=
  foldlM_related (R := Importer.Precedes) (fun _ _ _ => importAlert_precedes) h

theorem importCases_precedes {cases : List Dict}
    (h : cases.foldlM (importCase py app caller env) s = .ok s') : s.Precedes s' :=
  foldlM_related (R := Importer.Precedes) (fun _ _ _ => importCase_precedes) h

/-- The observables of a stored alert stay as they are. -/
theorem artifactsAttached_keeps {t t' : Server} (hkeeps : t.Keeps t') {alertId : Uuid}
    (hstored : (t.alerts.find? alertId).isSome = true) (thAlert : Dict) :
    ArtifactsAttached t'.observables thAlert alertId ↔
      ArtifactsAttached t.observables thAlert alertId := by
  refine forall_congr' (fun artifact => forall_congr' (fun _ => forall_congr' (fun _ => ?_)))
  exact exists_congr (fun pair => and_congr_right (fun _ => hkeeps.attached pair alertId hstored))

/-- **The alerts.**  When none is refused, each of them is stored, and the artifacts are attached
to their alerts at the end exactly when each ingest has attached them itself. -/
theorem importAlerts_spec {alerts : List Dict}
    (h : alerts.foldlM (importAlert py app caller env) s = .ok s')
    (herrors : s'.stats.errors = s.stats.errors) :
    ∃ imported, s'.alerts = s.alerts ++ imported ∧ imported.map Prod.fst = alerts ∧
      s'.cases = s.cases ∧ (∀ a ∈ imported, (s'.server.alerts.find? a.2).isSome = true) ∧
      ((∀ a ∈ imported, ArtifactsAttached s'.server.observables a.1 a.2) ↔
        Along (importAlert py app caller env) (AttachedByIngest py env) s alerts) := by
  induction alerts generalizing s with
  | nil =>
      cases h
      exact ⟨[], (List.append_nil _).symm, rfl, rfl, by simp, iff_of_true (by simp) trivial⟩
  | cons thAlert alerts ih =>
      rw [List.foldlM_cons] at h
      obtain ⟨s₁, hone, hrest⟩ := bind_ok h
      have hlater := importAlerts_precedes hrest
      obtain ⟨payload, artifacts, hpayload, hcases⟩ := importAlert_cases hone
      rcases hcases with rfl | ⟨alert, names, hanswer, hposts⟩
      · -- the alert is refused, and the error stays counted
        have hcounted : s.stats.errors + 1 ≤ s'.stats.errors := hlater.errors
        omega
      · have hsame : s₁.stats.errors = s.stats.errors := hposts.errors
        obtain ⟨imported, halerts, hfst, hcases, hstored, hiff⟩ := ih hrest (by rw [herrors, hsame])
        have hkeeps := (Server.receiveAlert_spec py (env s.sent) payload s.server).1
        have hfirst := (Server.receiveAlert_spec py (env s.sent) payload s.server).2 _ _ hanswer
        have hafter := trans_of Server.Keeps hposts.server hlater.server
        refine ⟨(thAlert, alert.id) :: imported, ?_, ?_, ?_, ?_, ?_⟩
        · rw [halerts, hposts.alerts]
          exact List.append_assoc _ _ _
        · rw [List.map_cons, hfst]
        · rw [hcases, hposts.cases]
          rfl
        · intro a ha
          rcases List.mem_cons.mp ha with rfl | ha
          · exact hafter.alerts _ hfirst
          · exact hstored a ha
        · have hhead : AttachedByIngest py env s thAlert ↔
              ArtifactsAttached s'.server.observables thAlert alert.id := by
            rw [artifactsAttached_keeps hafter hfirst]
            constructor
            · intro hattached
              exact hattached payload artifacts alert names hpayload hanswer
            · intro hattached payload' artifacts' alert' names' hpayload' hanswer'
              cases hpayload.symm.trans hpayload'
              cases hanswer.symm.trans hanswer'
              exact hattached
          show _ ↔ AttachedByIngest py env s thAlert ∧
            Along _ _ (attempt (importAlert py app caller env) s thAlert) alerts
          rw [attempt_ok _ hone, ← hiff, hhead]
          exact List.forall_mem_cons

/-- **The cases.**  When none is refused, each of them has an incident, which is open and bare. -/
theorem importCases_spec {cases : List Dict}
    (h : cases.foldlM (importCase py app caller env) s = .ok s')
    (herrors : s'.stats.errors = s.stats.errors) (hs : s.Bare) :
    s'.Bare ∧ s'.alerts = s.alerts ∧ s'.cases.map Prod.fst = s.cases.map Prod.fst ++ cases := by
  induction cases generalizing s with
  | nil =>
      cases h
      exact ⟨hs, rfl, (List.append_nil _).symm⟩
  | cons thCase cases ih =>
      rw [List.foldlM_cons] at h
      obtain ⟨s₁, hone, hrest⟩ := bind_ok h
      have hlater := importCases_precedes hrest
      rcases importCase_cases hone with rfl
        | ⟨payload, server, incident, incidentMap, hposted, hposts⟩
      · have hcounted : s.stats.errors + 1 ≤ s'.stats.errors := hlater.errors
        omega
      · have hsame : s₁.stats.errors = s.stats.errors := hposts.errors
        have hs₁ : s₁.Bare :=
          (hs.acceptedCase incidentMap thCase hposted).keeps hposts.server hposts.cases
        obtain ⟨hbare, halerts, hcases⟩ := ih hrest (by rw [herrors, hsame]) hs₁
        refine ⟨hbare, halerts.trans hposts.alerts, ?_⟩
        rw [hcases, hposts.cases]
        show (s.cases ++ [(thCase, incident.key)]).map Prod.fst ++ cases = _
        rw [List.map_append, List.append_assoc]
        rfl

theorem linkCases_idle {alerts cases : List Dict} (hmap : s.alertMap = [])
    (h : cases.foldlM (linkCase py app caller env alerts) s = .ok s') : s' = s := by
  have hstep : ∀ (t : Importer) (thCase : Dict) (t' : Importer), t = s →
      linkCase py app caller env alerts t thCase = .ok t' → t' = s := by
    rintro t thCase t' rfl hstep
    exact linkCase_idle hmap hstep
  exact foldlM_inv (P := fun t => t = s) hstep rfl h

variable {server : Server} {thExport : ThehiveExport}

/-- The three parts of an import; the third does nothing. -/
theorem importAll_parts
    (h : Importer.importAll py app caller env thExport (.start server) = .ok s) :
    ∃ s₁, thExport.alerts.foldlM (importAlert py app caller env) (.start server) = .ok s₁ ∧
      thExport.cases.foldlM (importCase py app caller env) s₁ = .ok s ∧
      (Importer.start server).Precedes s₁ ∧ s₁.Precedes s := by
  obtain ⟨s₁, halerts, h⟩ := bind_ok h
  obtain ⟨s₂, hcases, hlinks⟩ := bind_ok h
  have hbefore := importAlerts_precedes halerts
  have hafter := importCases_precedes hcases
  have hmap : s₂.alertMap = [] := hafter.alertMap.trans hbefore.alertMap
  have hidle := linkCases_idle hmap hlinks
  subst hidle
  exact ⟨s₁, halerts, hcases, hbefore, hafter⟩

/-- **No link is made.**  Whatever the server answers, the script requests no link and counts
none. -/
theorem import_makes_no_links
    (h : Importer.importAll py app caller env thExport (.start server) = .ok s) :
    s.stats.links = 0 ∧ s.server.links = server.links := by
  obtain ⟨s₁, -, -, hbefore, hafter⟩ := importAll_parts h
  exact ⟨hafter.links.trans hbefore.links, hafter.server.links.trans hbefore.server.links⟩

/-- An import without errors, as a whole. -/
theorem importAll_spec (hserver : server.ForeignKeys)
    (h : Importer.importAll py app caller env thExport (.start server) = .ok s)
    (haccepted : s.stats.errors = 0) :
    s.Bare ∧ s.alerts.map Prod.fst = thExport.alerts ∧ s.cases.map Prod.fst = thExport.cases ∧
      ((∀ a ∈ s.alerts, ArtifactsAttached s.server.observables a.1 a.2) ↔
        Along (importAlert py app caller env) (AttachedByIngest py env) (.start server)
          thExport.alerts) := by
  obtain ⟨s₁, halerts, hcases, hbefore, hafter⟩ := importAll_parts h
  have hnone : s₁.stats.errors = 0 := Nat.le_zero.mp (haccepted ▸ hafter.errors)
  obtain ⟨imported, hadded, hfst, hnoCases, hstored, hiff⟩ := importAlerts_spec halerts hnone
  have hstart : (Importer.start server).Bare := ⟨hserver, nofun, nofun, nofun⟩
  obtain ⟨hbare, hsame, hincidents⟩ := importCases_spec hcases (haccepted.trans hnone.symm)
    (hstart.keeps hbefore.server hnoCases)
  have himported : s.alerts = imported := hsame.trans hadded
  refine ⟨hbare, by rw [himported, hfst], by rw [hincidents, hnoCases]; rfl, ?_⟩
  rw [himported, ← hiff]
  exact forall_congr' (fun a => forall_congr' (fun ha =>
    artifactsAttached_keeps hafter.server (hstored a ha) a.1))

theorem exists_imported {imported : List (Dict × Uuid)} {originals : List Dict}
    (h : imported.map Prod.fst = originals) {thObj : Dict} (hmem : thObj ∈ originals) :
    ∃ i, (thObj, i) ∈ imported := by
  rw [← h] at hmem
  obtain ⟨⟨_, i⟩, hi, rfl⟩ := List.mem_map.mp hmem
  exact ⟨i, hi⟩

/-- **What comes through.**  After an import in which no alert and no case was refused, the
structure of the export is in the database exactly when there was nothing to carry over: no alert
names a case, no case has an observable with data, every case is open, and the artifacts with data
are those that the server attaches to its alerts by itself. -/
theorem thehive_import_preserves_structure_iff (hserver : server.ForeignKeys)
    (h : Importer.importAll py app caller env thExport (.start server) = .ok s)
    (haccepted : s.stats.errors = 0) :
    PreservesStructure s ↔ NothingToCarry py app caller env thExport server := by
  obtain ⟨hbare, halerts, hcases, hartifacts⟩ := importAll_spec hserver h haccepted
  constructor
  · intro hpreserved
    refine ⟨?_, ?_, hartifacts.mp hpreserved.artifacts, ?_⟩
    · intro thAlert halert thCase hcase hnames
      obtain ⟨alertId, ha⟩ := exists_imported halerts halert
      obtain ⟨incidentId, hc⟩ := exists_imported hcases hcase
      obtain ⟨link, hlink, hpair⟩ := hpreserved.links _ ha _ hc hnames
      exact hbare.links _ hc link hlink (congrArg Prod.fst hpair)
    · intro thCase hcase obs hobs hdata
      obtain ⟨incidentId, hc⟩ := exists_imported hcases hcase
      obtain ⟨o, ho, -, hincident⟩ := hpreserved.caseObservables _ hc obs hobs hdata
      exact hbare.observables _ hc o ho hincident
    · intro thCase hcase
      obtain ⟨incidentId, hc⟩ := exists_imported hcases hcase
      obtain ⟨incident, hincident, hopen⟩ := hbare.isOpen _ hc
      obtain ⟨incident', hincident', hclosed⟩ := hpreserved.statuses _ hc
      cases hincident.symm.trans hincident'
      by_contra hnot
      exact absurd (hopen.symm.trans (hclosed.mpr hnot)) (by decide)
  · intro hnothing
    have halert : ∀ a ∈ s.alerts, a.1 ∈ thExport.alerts := fun a ha =>
      halerts ▸ List.mem_map_of_mem ha
    have hcase : ∀ c ∈ s.cases, c.1 ∈ thExport.cases := fun c hc =>
      hcases ▸ List.mem_map_of_mem hc
    refine ⟨?_, ?_, hartifacts.mpr hnothing.artifacts, ?_⟩
    · intro a ha c hc hnames
      exact absurd hnames (hnothing.cases _ (halert a ha) _ (hcase c hc))
    · intro c hc obs hobs hdata
      exact absurd hdata (hnothing.caseObservables _ (hcase c hc) obs hobs)
    · intro c hc
      obtain ⟨incident, hincident, hopen⟩ := hbare.isOpen c hc
      refine ⟨incident, hincident, iff_of_false ?_ ?_⟩
      · rw [hopen]
        decide
      · exact not_not.mpr (hnothing.statuses _ (hcase c hc))

end Runs

/-! ## Two imports into an empty database -/

/-- Each request draws a hundred identifiers of its own. -/
def quietRequests (n : Nat) : RequestEnv := ⟨0, fun k => 100 * (n + 1) + k, quietWorld⟩

/-- An alert whose description is the address in its one artifact. -/
def beaconAlert : Dict :=
  [("id", .str "alert-1"), ("title", .str "Beacon"), ("description", .str "203.0.113.7"),
   ("artifacts", .arr [.obj [("dataType", .str "ip"), ("data", .str "203.0.113.7")]])]

/-- An alert of a case. -/
def mailAlert : Dict :=
  [("id", .str "alert-2"), ("title", .str "Suspicious mail"), ("case", .str "case-1")]

def phishingCase : Dict :=
  [("id", .str "case-1"), ("title", .str "Phishing"), ("status", .str "Open")]

/-- An import of one alert and the case, by an administrator. -/
def importOf (thAlert : Dict) : Except OperatorError Importer :=
  Importer.importAll .ascii .core (some administrator) quietRequests ⟨[thAlert], [phishingCase]⟩
    (.start .empty)

/-- An import that counts no error, from what it comes to. -/
theorem importOf_accepted (thAlert : Dict)
    (h : (importOf thAlert).toOption.map (fun s => s.stats.errors) = some 0) :
    ∃ s, importOf thAlert = .ok s ∧ s.stats.errors = 0 := by
  cases hrun : importOf thAlert with
  | ok s =>
      rw [hrun] at h
      exact ⟨s, rfl, Option.some.inj h⟩
  | error e =>
      rw [hrun] at h
      cases h

theorem foreignKeys_empty : Server.empty.ForeignKeys := ⟨nofun, nofun⟩

theorem thehive_import_preserves_structure_iff_beacon :
    ∃ s, importOf beaconAlert = .ok s ∧ PreservesStructure s := by
  obtain ⟨s, h, herrors⟩ := importOf_accepted beaconAlert (by decide +kernel)
  refine ⟨s, h, (thehive_import_preserves_structure_iff foreignKeys_empty h herrors).mpr ?_⟩
  refine ⟨?_, ?_, ⟨?_, trivial⟩, ?_⟩
  · intro thAlert halert thCase hcase
    rw [List.mem_singleton.mp halert, List.mem_singleton.mp hcase]
    show ¬ Json.pyEq _ _ = true
    decide +kernel
  · intro thCase hcase obs hobs
    rw [List.mem_singleton.mp hcase] at hobs
    cases hobs
  · -- the walk over the payload has found the address under `description`
    have hingest : (alertPayload .ascii beaconAlert).toOption.map (fun result =>
        let out := Server.empty.receiveAlert .ascii (quietRequests 0) result.1
        (out.1.toOption.map (fun answer => answer.1.id),
          out.2.observables.map (fun o => (o.pair, o.alertId)))) =
        some (some 100, [(("ip", "203.0.113.7"), some 100)]) := by
      decide +kernel
    intro payload artifacts alert names hpayload hanswer
    rw [hpayload] at hingest
    have hout := Option.some.inj hingest
    obtain ⟨halert, hrows⟩ := Prod.mk.inj hout
    have hanswer : (Server.empty.receiveAlert .ascii (quietRequests 0) payload).1 =
        .ok (alert, names) := hanswer
    rw [hanswer] at halert
    have halert : alert.id = 100 := Option.some.inj halert
    intro artifact hartifact _
    have hartifact : artifact ∈ [[("dataType", Json.str "ip"), ("data", Json.str "203.0.113.7")]] :=
      hartifact
    rw [List.mem_singleton.mp hartifact]
    refine ⟨("ip", "203.0.113.7"), ⟨rfl, rfl⟩, ?_⟩
    obtain ⟨o, ho, hsame⟩ := List.mem_map.mp (hrows ▸ List.mem_singleton_self _)
    obtain ⟨hpair, hattached⟩ := Prod.mk.inj hsame
    exact ⟨o, ho, hpair, by rw [hattached, halert]⟩
  · intro thCase hcase
    rw [List.mem_singleton.mp hcase]
    decide +kernel

/-- An alert and its case arrive, without an error and without their link. -/
theorem alert_of_a_case_is_not_linked :
    ¬ ∀ (thExport : ThehiveExport) (server : Server) (s : Importer), server.ForeignKeys →
      Importer.importAll .ascii .core (some administrator) quietRequests thExport (.start server)
        = .ok s →
      s.stats.errors = 0 → PreservesStructure s := by
  intro hclaim
  obtain ⟨s, h, herrors⟩ := importOf_accepted mailAlert (by decide +kernel)
  have hpreserved := hclaim ⟨[mailAlert], [phishingCase]⟩ .empty s foreignKeys_empty h herrors
  obtain ⟨-, halerts, hcases, -⟩ := importAll_spec foreignKeys_empty h herrors
  obtain ⟨alertId, ha⟩ := exists_imported halerts (List.mem_singleton_self mailAlert)
  obtain ⟨incidentId, hc⟩ := exists_imported hcases (List.mem_singleton_self phishingCase)
  have hnames : NamesCase mailAlert phishingCase := by
    show Json.pyEq _ _ = true
    decide +kernel
  obtain ⟨link, hlink, -⟩ := hpreserved.links _ ha _ hc hnames
  rw [(import_makes_no_links h).2] at hlink
  cases hlink

end OpenSoar
