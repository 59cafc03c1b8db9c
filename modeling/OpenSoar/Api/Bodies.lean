/-
# `OpenSoar.Api.Bodies` — five endpoints as a client of the API meets them

`receive_alert`, `create_incident`, `create_observable`, `add_enrichment` and `link_alert`, from the
body of a request to the body of its answer.  A schema reads the fields that it declares and passes
over all others, on the way in as on the way out, so a field that a client writes under a name of
its own is lost without an error, and one that it looks for under a name of its own is not there.

None of the first four links an alert to an incident or touches a stored incident; of the
observables of a stored alert they take none away and add none (`Server.Keeps`).
-/
import OpenSoar.Api.Server
import OpenSoar.Python.Datetime
import OpenSoar.Python.Dynamic
import OpenSoar.Worker.Attachment

namespace OpenSoar

open Python UnitOfWork

/-- What a request meets while the server handles it: the time, the identifiers drawn, and what an
enrichment comes to. -/
structure RequestEnv where
  now : Timestamp
  newId : Nat → Uuid
  enrichment : EnrichmentEnv

/-! ## The bodies of requests -/

def invalidField (field message : String) : Raised :=
  .httpException 422 (field ++ ": " ++ message)

/-- A field declared as `str`. -/
def requiredStr (body : Dict) (field : String) : Except Raised String :=
  match body.lookup field with
  | none => .error (invalidField field "Field required")
  | some (.str s) => .ok s
  | some _ => .error (invalidField field "Input should be a valid string")

/-- A field declared as `str | None = None`. -/
def optionalStr (body : Dict) (field : String) : Except Raised (Option String) :=
  match Json.get body field with
  | .null => .ok none
  | .str s => .ok (some s)
  | _ => .error (invalidField field "Input should be a valid string")

/-- A field declared as `list[str] | None = None`. -/
def optionalStrs (body : Dict) (field : String) : Except Raised (Option (List String)) :=
  match Json.get body field with
  | .null => .ok none
  | .arr items =>
      match items.mapM Json.string? with
      | some strings => .ok (some strings)
      | none => .error (invalidField field "Input should be a valid string")
  | _ => .error (invalidField field "Input should be a valid list")

/-- A UUID in a path. -/
def pathUuid (py : PyText) (field text : String) : Except Raised Uuid :=
  orRaise (Uuid.ofText? py text) (invalidField field "Input should be a valid UUID")

/-- A field declared as `uuid.UUID | None = None`. -/
def optionalUuidField (py : PyText) (body : Dict) (field : String) :
    Except Raised (Option Uuid) := do
  match ← optionalStr body field with
  | none => pure none
  | some text => (pathUuid py field text).map some

/-- `IncidentCreate`. -/
def IncidentCreate.ofBody (py : PyText) (body : Dict) : Except Raised IncidentCreate := do
  let title ← requiredStr body "title"
  let description ← optionalStr body "description"
  let severity ← optionalStr body "severity"
  let tags ← optionalStrs body "tags"
  let templateId ← optionalUuidField py body "template_id"
  pure ⟨title, description, severity, tags, templateId⟩

/-- `ObservableCreate`. -/
def ObservableCreate.ofBody (body : Dict) : Except Raised ObservableCreate := do
  let type ← requiredStr body "type"
  let value ← requiredStr body "value"
  let source ← optionalStr body "source"
  let alertId ← optionalStr body "alert_id"
  let incidentId ← optionalStr body "incident_id"
  pure ⟨type, value, source, alertId, incidentId⟩

/-- `EnrichmentCreate`, of the booleans and numbers of JSON. -/
def EnrichmentCreate.ofBody (body : Dict) : Except Raised EnrichmentCreate := do
  let source ← requiredStr body "source"
  let data ←
    match body.lookup "data" with
    | none => .error (invalidField "data" "Field required")
    | some (.obj fields) => .ok fields
    | some _ => .error (invalidField "data" "Input should be a valid dictionary")
  let malicious ←
    match Json.getD body "malicious" (.bool false) with
    | .bool b => .ok b
    | _ => .error (invalidField "malicious" "Input should be a valid boolean")
  let score ←
    match Json.get body "score" with
    | .null => .ok none
    | value =>
        match value.number? with
        | some x => .ok (some x)
        | none => .error (invalidField "score" "Input should be a valid number")
  pure ⟨source, data, malicious, score⟩

/-! ## The bodies of answers -/

/-- `WebhookResponse`. -/
def webhookResponse (alert : Alert) (names : List String) : Dict :=
  [("alert_id", .str alert.id.toText),
   ("correlation_id", .ofOption (alert.correlationId.map Uuid.toText)),
   ("title", .str alert.title.val), ("severity", .str alert.severity.val),
   ("playbooks_triggered", .arr (names.map .str)),
   ("message", .str ("Alert ingested. " ++ toString names.length ++ " playbook(s) triggered."))]

/-- `_incident_response`. -/
def incidentResponse (s : Server) (incident : IncidentRow) : Dict :=
  [("id", .str incident.id.toText), ("title", .str incident.title.val),
   ("description", .ofOption incident.description), ("severity", .str incident.severity.val),
   ("status", .str incident.status.val),
   ("assigned_to", .ofOption (incident.assignedTo.map Uuid.toText)),
   ("assigned_username", .ofOption (incident.assignedUsername.map (·.val))),
   ("tags", (incident.tags.map (fun tags => Json.arr (tags.map .str))).getD .null),
   ("alert_count", .int (s.linkDb.alertCount incident.id)),
   ("closed_at", .ofOption (incident.closedAt.map isoformat)),
   ("created_at", .str (isoformat incident.createdAt))]

/-- `ObservableResponse`. -/
def observableResponse (obs : Observable) : Dict :=
  [("id", .str obs.id.toText), ("type", .str obs.type.val), ("value", .str obs.value.val),
   ("source", .ofOption (obs.source.map (·.val))),
   ("enrichment_status", .str obs.enrichmentStatus.val),
   ("enrichments", (obs.enrichments.map Json.arr).getD .null)]

/-! ## The endpoints -/

/-- The server with the observables that a request has made, checked against the primary key. -/
def Server.withObservables (s : Server) (observables : List Observable) : Except Raised Server :=
  if (observables.map (·.id)).Nodup then .ok { s with observables := observables }
  else .error (.refusedByDatabase
    "duplicate key value violates unique constraint pk_observables")

/-- The tasks that a session has published for playbooks. -/
def playbookTasks (effects : List (Effect IngestStore Message)) : List Task :=
  effects.filterMap (fun
    | .published (.playbooks task) => some task
    | _ => none)

/-- The server after a session of an ingest has committed this store. -/
def Server.ingested (env : RequestEnv) (store : IngestStore) (s : Server) :
    Except Raised Server := do
  let s' ← s.absorbDb env.now (fun n => env.newId (n + 2)) store.db
  s'.withObservables store.observables

/-- `receive_alert`: its answer, and the server; what it has published stays published when its
commit is refused. -/
def Server.receiveAlert (py : PyText) (env : RequestEnv) (payload : Dict) (s : Server) :
    Except Raised (Alert × List String) × Server :=
  match receiveIn py env.enrichment "webhook" (fun alert => alert.source.val) s.registry
      ⟨payload, env.newId 0, env.newId 1⟩ (.opened ⟨s.store.db, s.observables⟩) with
  | (.error e, session) =>
      (.error e, { s with broker := s.broker ++ playbookTasks session.effects })
  | (.ok answer, session) =>
      let published := { s with broker := s.broker ++ playbookTasks session.effects }
      match published.ingested env session.store with
      | .error e => (.error e, published)
      | .ok s' => (.ok answer, s')

/-- `create_incident`. -/
def Server.postIncident (py : PyText) (app : App) (env : RequestEnv) (body : Dict)
    (caller : Option Analyst) (s : Server) : Except Raised (Server × IncidentRow) := do
  let data ← IncidentCreate.ofBody py body
  let s' ← s.createIncident py app env.now (fun n => env.newId (n + 1)) (env.newId 0) data caller
  let incident ← orRaise (s'.incidents.find? (env.newId 0))
    (.runtimeError "Could not refresh instance")
  pure (s', incident)

/-- `create_observable`. -/
def Server.postObservable (py : PyText) (app : App) (env : RequestEnv) (body : Dict)
    (caller : Option Analyst) (s : Server) : Except Raised (Server × Observable) := do
  let data ← ObservableCreate.ofBody body
  let (store, obs) ← createObservable py app (env.newId 0) data caller s.store
  let s' ← s.withObservables store.observables
  pure (s', obs)

/-- `add_enrichment`. -/
def Server.postEnrichment (py : PyText) (app : App) (observableId : String) (body : Dict)
    (caller : Option Analyst) (s : Server) : Except Raised Server := do
  let observableUuid ← pathUuid py "observable_id" observableId
  let data ← EnrichmentCreate.ofBody body
  s.addEnrichment app observableUuid data caller

/-- `link_alert`. -/
def Server.postLink (py : PyText) (app : App) (env : RequestEnv) (incidentId : String)
    (body : Dict) (caller : Option Analyst) (s : Server) : Except Raised Server := do
  let incidentUuid ← pathUuid py "incident_id" incidentId
  let alertId ← requiredStr body "alert_id"
  s.link py app env.now (fun n => env.newId (n + 2))
    ⟨.linkAlert incidentUuid alertId, caller, env.newId 0, env.newId 1⟩

/-! ## What they leave alone -/

/-- From one server to the next: the links are the same, the alerts are stored and the incidents
are as they were, no incident has got an observable, and the stored alerts have the observables
they had. -/
structure Server.Keeps (s s' : Server) : Prop where
  links : s'.links = s.links
  alerts : ∀ i, (s.alerts.find? i).isSome = true → (s'.alerts.find? i).isSome = true
  incidents : ∀ i row, s.incidents.find? i = some row → s'.incidents.find? i = some row
  references : ∀ o ∈ s'.observables, ∀ i, o.incidentId = some i →
    ∃ o' ∈ s.observables, o'.incidentId = some i
  attached : ∀ pair i, (s.alerts.find? i).isSome = true →
    (HasObservable s'.observables pair i ↔ HasObservable s.observables pair i)

theorem Server.Keeps.of_observables {s s' : Server} (hlinks : s'.links = s.links)
    (halerts : s'.alerts = s.alerts) (hincidents : s'.incidents = s.incidents)
    (hreferences : ∀ o ∈ s'.observables, ∀ i, o.incidentId = some i →
      ∃ o' ∈ s.observables, o'.incidentId = some i)
    (hattached : ∀ pair i, HasObservable s'.observables pair i ↔
      HasObservable s.observables pair i) :
    s.Keeps s' := by
  refine ⟨hlinks, ?_, ?_, hreferences, fun pair i _ => hattached pair i⟩
  · rw [halerts]
    exact fun _ h => h
  · rw [hincidents]
    exact fun _ _ h => h

theorem Server.Keeps.same {s s' : Server} (hlinks : s'.links = s.links)
    (halerts : s'.alerts = s.alerts) (hincidents : s'.incidents = s.incidents)
    (hobservables : s'.observables = s.observables) : s.Keeps s' := by
  refine .of_observables hlinks halerts hincidents ?_ ?_
  · rw [hobservables]
    exact fun o ho _ h => ⟨o, ho, h⟩
  · rw [hobservables]
    exact fun _ _ => Iff.rfl

instance : IsPreorder Server Server.Keeps where
  refl _ := .same rfl rfl rfl rfl
  trans s t u h h' := by
    refine ⟨h'.links.trans h.links, fun i hi => h'.alerts i (h.alerts i hi),
      fun i row hrow => h'.incidents i row (h.incidents i row hrow), ?_, ?_⟩
    · intro o ho i hi
      obtain ⟨o', ho', hi'⟩ := h'.references o ho i hi
      exact h.references o' ho' i hi'
    · intro pair i hi
      exact (h'.attached pair i (h.alerts i hi)).trans (h.attached pair i hi)

section Endpoints

variable {py : PyText} {app : App} {env : RequestEnv} {body : Dict} {caller : Option Analyst}
variable {s s' : Server}

theorem Server.withObservables_ok {observables : List Observable}
    (h : s.withObservables observables = .ok s') :
    (observables.map (·.id)).Nodup ∧ s' = { s with observables := observables } := by
  unfold withObservables at h
  split at h
  · rename_i hnodup
    cases h
    exact ⟨hnodup, rfl⟩
  · cases h

/-- What a server takes over from a database, and what it does not. -/
theorem Server.absorbDb_ok {now : Timestamp} {newId : Nat → Uuid} {db : Db}
    (h : s.absorbDb now newId db = .ok s') :
    s'.alerts = (s.store.absorb now db).alerts ∧
      s'.incidents = (s.store.absorb now db).incidents ∧ s'.links = s.links ∧
      s'.observables = s.observables := by
  obtain ⟨activities, -, h⟩ := bind_ok h
  cases h
  exact ⟨rfl, rfl, rfl, rfl⟩

/-- A stored row survives a database that still has the incident as it was. -/
theorem Server.absorbDb_incident {now : Timestamp} {newId : Nat → Uuid} {db : Db}
    (h : s.absorbDb now newId db = .ok s') {i : Uuid} {row : IncidentRow}
    (hrow : s.incidents.find? i = some row)
    (hkept : db.incidents.find? i = s.store.db.incidents.find? i) :
    s'.incidents.find? i = some row := by
  obtain ⟨-, hincidents, -⟩ := absorbDb_ok h
  have hstored : s.store.incidents.find? i = some row := hrow
  rw [Store.find?_db_incidents, hstored] at hkept
  rw [hincidents]
  exact Store.absorb_incident_stored hstored hkept

/-- An alert that the database has is in the server. -/
theorem Server.absorbDb_alert {now : Timestamp} {newId : Nat → Uuid} {db : Db}
    (h : s.absorbDb now newId db = .ok s') {i : Uuid}
    (halert : (db.alerts.find? i).isSome = true) : (s'.alerts.find? i).isSome = true := by
  rw [(absorbDb_ok h).1, Store.find?_absorb_alerts, Option.isSome_map]
  exact halert

theorem Ingested.keeps {call : WebhookCall} {n : NormalizedAlert} {db db' : Db} {alert : Alert}
    (h : Ingested call n db db' alert) : db'.incidents = db.incidents ∧
      ∀ i, (db.alerts.find? i).isSome = true → (db'.alerts.find? i).isSome = true := by
  cases h with
  | created _ _ _ _ hfind hdb =>
      refine ⟨by rw [hdb], fun i hi => ?_⟩
      rw [hfind]
      split
      · rfl
      · exact hi
  | duplicate existing _ _ _ hdb =>
      rw [hdb]
      refine ⟨rfl, fun i hi => ?_⟩
      show ((db.alerts.set alert).find? i).isSome = true
      rw [Table.find?_set]
      split
      · rw [Option.isSome_map]
        exact hi
      · exact hi

/-- **`receive_alert`.**  Accepted or refused, it keeps what is there; an alert that it answers
with is stored. -/
theorem Server.receiveAlert_spec (py : PyText) (env : RequestEnv) (payload : Dict) (s : Server) :
    s.Keeps (s.receiveAlert py env payload).2 ∧
      ∀ alert names, (s.receiveAlert py env payload).1 = .ok (alert, names) →
        ((s.receiveAlert py env payload).2.alerts.find? alert.id).isSome = true := by
  unfold receiveAlert
  split
  · refine ⟨.same rfl rfl rfl rfl, ?_⟩
    intro _ _ hanswer
    cases hanswer
  · rename_i answer session hreceived
    obtain ⟨alert, names⟩ := answer
    dsimp only
    split
    · refine ⟨.same rfl rfl rfl rfl, ?_⟩
      intro _ _ hanswer
      cases hanswer
    · rename_i s' hingested
      obtain ⟨db', hprocess, hdb, hkeeps⟩ := receiveIn_ok hreceived
      obtain ⟨n, -, hprocessed⟩ := processWebhook_ok hprocess
      obtain ⟨hincidents, halerts⟩ := hprocessed.keeps
      obtain ⟨t, habsorb, hobservables⟩ := bind_ok hingested
      obtain ⟨hnodup, rfl⟩ := withObservables_ok hobservables
      obtain ⟨-, -, hlinks, -⟩ := absorbDb_ok habsorb
      have hkeeps := hkeeps hnodup
      rw [hdb] at habsorb
      have hstored : ∀ i, (s.alerts.find? i).isSome = true →
          (s.store.db.alerts.find? i).isSome = true := by
        intro i hi
        rw [Store.find?_db_alerts, Option.isSome_map]
        exact hi
      refine ⟨⟨hlinks, ?_, ?_, hkeeps.incidents, ?_⟩, ?_⟩
      · exact fun i hi => absorbDb_alert habsorb (halerts i (hstored i hi))
      · intro i row hrow
        exact absorbDb_incident habsorb hrow (by rw [hincidents]; rfl)
      · exact fun pair i hi => hkeeps.attached pair i (hstored i hi)
      · intro alert' names' hanswer
        cases hanswer
        refine absorbDb_alert habsorb ?_
        rw [hprocessed.received.stored]
        rfl

/-- **`create_incident`.**  Besides, the incident is new and open. -/
theorem Server.postIncident_spec {incident : IncidentRow}
    (h : s.postIncident py app env body caller = .ok (s', incident)) :
    s.Keeps s' ∧ s.incidents.find? incident.key = none ∧
      s'.incidents.find? incident.key = some incident ∧ incident.status.val = "open" := by
  obtain ⟨data, -, h⟩ := bind_ok h
  obtain ⟨t, hcreate, h⟩ := bind_ok h
  obtain ⟨found, hfound, h⟩ := bind_ok h
  cases h
  have hfound := orRaise_ok hfound
  have hkey : incident.key = env.newId 0 := Table.find?_key hfound
  obtain ⟨⟨db, tasks⟩, hcreated, hcreate⟩ := bind_ok hcreate
  obtain ⟨t, habsorb, hcreate⟩ := bind_ok hcreate
  cases hcreate
  -- the one thing that the request writes beside its activity is a row under a new key
  obtain ⟨inserted, activity, hid, hopen, hinsert, halerts, -⟩ := createIncident_rows hcreated
  obtain ⟨hnew, -⟩ := Table.insert?_some hinsert
  have hfind := Table.find?_insert hinsert
  rw [Store.find?_db_incidents, hid, Option.map_eq_none_iff] at hnew
  have hnew : s.incidents.find? (env.newId 0) = none := hnew
  obtain ⟨-, hincidents, hlinks, hobservables⟩ := absorbDb_ok habsorb
  refine ⟨⟨hlinks, ?_, ?_, ?_, ?_⟩, by rw [hkey]; exact hnew, by rw [hkey]; exact hfound, ?_⟩
  · intro i hi
    refine absorbDb_alert habsorb ?_
    rw [halerts, Store.find?_db_alerts, Option.isSome_map]
    exact hi
  · intro i row hrow
    refine absorbDb_incident habsorb hrow ?_
    rw [hfind, if_neg]
    intro hi
    rw [hi, hid, hnew] at hrow
    cases hrow
  · show ∀ o ∈ t.observables, _
    rw [hobservables]
    exact fun o ho _ hi => ⟨o, ho, hi⟩
  · intro pair i _
    show HasObservable t.observables pair i ↔ _
    rw [hobservables]
  · rw [hincidents, Store.find?_absorb_incidents, hfind, if_pos hid.symm, Option.map_some] at hfound
    cases hfound
    show (s.store.incidentRow env.now inserted).toIncident.status.val = "open"
    rw [Store.toIncident_incidentRow]
    exact hopen

/-- An observable that is given neither an alert nor an incident is created with neither. -/
theorem createObservable_unattached {observableId : Uuid} {data : ObservableCreate}
    {store store' : Store} {row : Observable}
    (h : createObservable py app observableId data caller store = .ok (store', row))
    (halert : data.alertId = none) (hincident : data.incidentId = none) :
    store'.observables = store.observables ∨
      (row.alertId = none ∧ row.incidentId = none ∧
        store'.observables = store.observables ++ [row]) := by
  obtain ⟨analyst, -, h⟩ := bind_ok h
  obtain ⟨found, -, h⟩ := bind_ok h
  cases found with
  | some obs =>
      cases h
      exact Or.inl rfl
  | none =>
      obtain ⟨alertId, halertId, h⟩ := bind_ok h
      obtain ⟨incidentId, hincidentId, h⟩ := bind_ok h
      obtain ⟨⟨⟩, -, h⟩ := bind_ok h
      obtain ⟨row', hrow, h⟩ := bind_ok h
      cases h
      rw [halert] at halertId
      rw [hincident] at hincidentId
      cases halertId
      cases hincidentId
      obtain ⟨type, -, hrow⟩ := bind_ok hrow
      obtain ⟨value, -, hrow⟩ := bind_ok hrow
      obtain ⟨source, -, hrow⟩ := bind_ok hrow
      cases hrow
      exact Or.inr ⟨rfl, rfl, rfl⟩

theorem optionalStr_absent {field : String} {value : Option String}
    (h : optionalStr body field = .ok value) (habsent : body.lookup field = none) :
    value = none := by
  rw [optionalStr, Json.get, habsent] at h
  cases h
  rfl

/-- **`create_observable`.**  A body that names neither an alert nor an incident. -/
theorem Server.postObservable_keeps {obs : Observable}
    (h : s.postObservable py app env body caller = .ok (s', obs))
    (halert : body.lookup "alert_id" = none) (hincident : body.lookup "incident_id" = none) :
    s.Keeps s' := by
  obtain ⟨data, hdata, h⟩ := bind_ok h
  obtain ⟨⟨store, row⟩, hcreate, h⟩ := bind_ok h
  obtain ⟨t, hobservables, h⟩ := bind_ok h
  cases h
  obtain ⟨-, rfl⟩ := withObservables_ok hobservables
  obtain ⟨hnoAlert, hnoIncident⟩ : data.alertId = none ∧ data.incidentId = none := by
    obtain ⟨type, -, hdata⟩ := bind_ok hdata
    obtain ⟨value, -, hdata⟩ := bind_ok hdata
    obtain ⟨source, -, hdata⟩ := bind_ok hdata
    obtain ⟨alertId, halertId, hdata⟩ := bind_ok hdata
    obtain ⟨incidentId, hincidentId, hdata⟩ := bind_ok hdata
    cases hdata
    exact ⟨optionalStr_absent halertId halert, optionalStr_absent hincidentId hincident⟩
  rcases createObservable_unattached hcreate hnoAlert hnoIncident with
    hsame | ⟨hrowAlert, hrowIncident, hadded⟩
  · exact .same rfl rfl rfl hsame
  · have hadded : store.observables = s.observables ++ [obs] := hadded
    refine .of_observables rfl rfl rfl ?_ ?_
    · intro o ho i hi
      rw [hadded, List.mem_append, List.mem_singleton] at ho
      rcases ho with ho | rfl
      · exact ⟨o, ho, hi⟩
      · rw [hrowIncident] at hi
        cases hi
    · intro pair i
      constructor
      · rintro ⟨o, ho, hpair, hi⟩
        rw [hadded, List.mem_append, List.mem_singleton] at ho
        rcases ho with ho | rfl
        · exact ⟨o, ho, hpair, hi⟩
        · rw [hrowAlert] at hi
          cases hi
      · rintro ⟨o, ho, hpair, hi⟩
        refine ⟨o, ?_, hpair, hi⟩
        rw [hadded]
        exact List.mem_append_left _ ho

/-- **`add_enrichment`.** -/
theorem Server.postEnrichment_keeps {observableId : String}
    (h : s.postEnrichment py app observableId body caller = .ok s') : s.Keeps s' := by
  obtain ⟨observableUuid, -, h⟩ := bind_ok h
  obtain ⟨data, -, h⟩ := bind_ok h
  obtain ⟨obs, -, h⟩ := bind_ok h
  cases h
  have hrow : ∀ o : Observable, ∀ o', o' = (if o.id = (OpenSoar.addEnrichment data obs).observableId
      then (OpenSoar.addEnrichment data obs).apply o else o) →
      o'.pair = o.pair ∧ o'.alertId = o.alertId ∧ o'.incidentId = o.incidentId := by
    rintro o _ rfl
    split
    · exact ⟨rfl, rfl, rfl⟩
    · exact ⟨rfl, rfl, rfl⟩
  refine .of_observables rfl rfl rfl ?_ ?_
  · intro o ho i hi
    obtain ⟨old, hold, hupdated⟩ := List.mem_map.mp ho
    obtain ⟨-, -, hincident⟩ := hrow old o hupdated.symm
    exact ⟨old, hold, hincident.symm.trans hi⟩
  · intro pair i
    constructor
    · rintro ⟨o, ho, hpair, hi⟩
      obtain ⟨old, hold, hupdated⟩ := List.mem_map.mp ho
      obtain ⟨hsame, halert, -⟩ := hrow old o hupdated.symm
      exact ⟨old, hold, hsame.symm.trans hpair, halert.symm.trans hi⟩
    · rintro ⟨o, ho, hpair, hi⟩
      obtain ⟨hsame, halert, -⟩ := hrow o _ rfl
      exact ⟨_, List.mem_map_of_mem ho, hsame.trans hpair, halert.trans hi⟩

end Endpoints

end OpenSoar
