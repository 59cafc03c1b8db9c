/-
# `OpenSoar.Api.Links` — concurrent writers of the links between incidents and alerts

`link_alert` and `unlink_alert` of `api/incidents.py`, `create_or_link_incident_for_alert` of
`api/alerts.py`.  Each looks for a link of its pair, inserts or deletes one, and commits.  The
table has a primary key and two foreign keys, and no constraint on the pair.

The lookups take at most one row for granted.  A request that has checked its pair and commits
after another one has linked it adds a second row, and from then on the pair can be neither
linked nor unlinked (`twice_linked_stays`).  The pairs stay unique in exactly the runs in which
each link is committed while its check still holds, and so in the runs in which no two requests
for one pair overlap (`links_unique_iff`).
-/
import OpenSoar.Api.Observables
import OpenSoar.Lib.ReadCommitted

namespace OpenSoar

open Python ReadCommitted

/-! ## The rows -/

/-- `incident_alerts`, with the primary key. -/
structure LinkRow extends IncidentAlert where
  id : Uuid

def LinkRow.pair (link : LinkRow) : Uuid × Uuid := (link.incidentId, link.alertId)

/-- The database with the table of the links. -/
structure LinkDb extends Db where
  links : Table LinkRow.id

/-- `select(IncidentAlert).where(...)` by incident and alert. -/
def LinkDb.linksOf (db : LinkDb) (pair : Uuid × Uuid) : List LinkRow :=
  db.links.rows.filter (fun link => link.pair = pair)

/-- The alerts that the links of an incident name. -/
def LinkDb.linkedAlerts (db : LinkDb) (incidentId : Uuid) : List Uuid :=
  (db.links.rows.filter (fun link => link.incidentId = incidentId)).map (·.alertId)

/-- `alert_count` of `_incident_response`. -/
def LinkDb.alertCount (db : LinkDb) (incidentId : Uuid) : Nat :=
  (db.links.rows.filter (fun link => link.incidentId = incidentId)).length

/-! ## The requests -/

structure AlertIncidentRequest where
  incidentId : Option String := none
  title : Option String := none
  description : Option String := none
  severity : String := "medium"
  tags : Option (List String) := none

/-- `validate_request`, answered with a 422. -/
def AlertIncidentRequest.validateRequest (py : PyText) (data : AlertIncidentRequest) :
    Except Raised Unit :=
  let hasIncidentId := (truthy data.incidentId).isSome
  let hasTitle := (truthy (data.title.map (strip py))).isSome
  if hasIncidentId = hasTitle then
    .error (.httpException 422
      "Provide either incident_id to link an existing incident or title to create a new one.")
  else .ok ()

inductive LinkOp where
  | linkAlert (incidentId : Uuid) (alertId : String)
  | createOrLinkIncidentForAlert (alertId : Uuid) (data : AlertIncidentRequest)
  | unlinkAlert (incidentId alertId : Uuid)

/-- A request, with the identifiers its new rows would get. -/
structure LinkCall where
  op : LinkOp
  caller : Option Analyst
  linkId : Uuid
  newIncidentId : Uuid

/-- What a request holds once it has looked. -/
inductive LinkFound where
  | toLink (analyst : Analyst) (incident : Incident) (alert : Alert)
  | toIncident (analyst : Analyst) (incident : Incident) (created : Bool) (alert : Alert)
  | toUnlink (analyst : Analyst) (link : LinkRow) (incident : Option Incident)
      (alert : Option Alert)

/-- The pair that is to be linked. -/
def LinkFound.pair? : LinkFound → Option (Uuid × Uuid)
  | .toLink _ incident alert => some (incident.id, alert.id)
  | .toIncident _ incident _ alert => some (incident.id, alert.id)
  | .toUnlink _ _ _ _ => none

inductive LinkWrite where
  | insert (link : LinkRow) (created : Option Incident) (activities : List Activity)
  | delete (linkId : Uuid) (activities : List Activity)

/-! ## What they read -/

def badUuid : Raised := .valueError "badly formed hexadecimal UUID string"

def duplicateIncident : Raised :=
  .refusedByDatabase "duplicate key value violates unique constraint pk_incidents"

/-- The check before a link is added. -/
def LinkDb.checkUnlinked (db : LinkDb) (pair : Uuid × Uuid) : Except Raised Unit := do
  match ← scalarOneOrNone (db.linksOf pair) with
  | some _ => .error (.httpException 409 "Alert already linked to this incident")
  | none => pure ()

/-- `link_alert`, up to the check. -/
def linkAlertRead (py : PyText) (app : App) (incidentId : Uuid) (alertId : String)
    (caller : Option Analyst) (db : LinkDb) : Except Raised LinkFound := do
  let analyst ← requirePermission .incidentsUpdate caller
  let incident ← orRaise (db.incidents.find? incidentId) (.httpException 404 "Incident not found")
  enforceTenantAccess app (.incident incident) "update" (some analyst)
  let alertUuid ← orRaise (Uuid.ofText? py alertId) badUuid
  let alert ← orRaise (db.alerts.find? alertUuid) (.httpException 404 "Alert not found")
  enforceTenantAccess app (.alert alert) "read" (some analyst)
  db.checkUnlinked (incidentId, alertUuid)
  pure (.toLink analyst incident alert)

/-- The incident that `create_or_link_incident_for_alert` finds, or flushes; the flag is
`created_new_incident`. -/
def incidentToLink (py : PyText) (app : App) (data : AlertIncidentRequest)
    (newIncidentId : Uuid) (analyst : Analyst) (db : LinkDb) :
    Except Raised (Incident × Bool) :=
  match truthy data.incidentId with
  | some text => do
      let _ ← requirePermission .incidentsUpdate (some analyst)
      let incidentId ← orRaise (Uuid.ofText? py text) badUuid
      let incident ← orRaise (db.incidents.find? incidentId)
        (.httpException 404 "Incident not found")
      enforceTenantAccess app (.incident incident) "update" (some analyst)
      pure (incident, false)
  | none => do
      let _ ← requirePermission .incidentsCreate (some analyst)
      let incident ← newIncident newIncidentId
        { title := strip py (data.title.getD "")
          description := data.description
          severity := some data.severity
          tags := data.tags
          templateId := none } none
      let _ ← orRaise (db.incidents.insert? incident) duplicateIncident
      pure (incident, true)

/-- `create_or_link_incident_for_alert`, up to the check. -/
def createOrLinkRead (py : PyText) (app : App) (alertId : Uuid) (data : AlertIncidentRequest)
    (newIncidentId : Uuid) (caller : Option Analyst) (db : LinkDb) :
    Except Raised LinkFound := do
  let analyst ← orRaise caller (.httpException 401 "Authentication required")
  data.validateRequest py
  let alert ← orRaise (db.alerts.find? alertId) (.httpException 404 "Alert not found")
  enforceTenantAccess app (.alert alert) "read" (some analyst)
  let (incident, created) ← incidentToLink py app data newIncidentId analyst db
  db.checkUnlinked (incident.id, alertId)
  pure (.toIncident analyst incident created alert)

/-- `unlink_alert`, up to the activity. -/
def unlinkAlertRead (app : App) (incidentId alertId : Uuid) (caller : Option Analyst)
    (db : LinkDb) : Except Raised LinkFound := do
  let analyst ← requirePermission .incidentsUpdate caller
  let found ← scalarOneOrNone (db.linksOf (incidentId, alertId))
  let link ← orRaise found (.httpException 404 "Link not found")
  enforceTenantAccess app (.incidentAlert link.incidentId link.alertId) "update" (some analyst)
  pure (.toUnlink analyst link (db.incidents.find? incidentId) (db.alerts.find? alertId))

def LinkCall.read (py : PyText) (app : App) (call : LinkCall) (db : LinkDb) :
    Except Raised LinkFound :=
  match call.op with
  | .linkAlert incidentId alertId => linkAlertRead py app incidentId alertId call.caller db
  | .createOrLinkIncidentForAlert alertId data =>
      createOrLinkRead py app alertId data call.newIncidentId call.caller db
  | .unlinkAlert incidentId alertId => unlinkAlertRead app incidentId alertId call.caller db

/-! ## What they write -/

/-- `alert_linked` and `alert_unlinked`. -/
def linkActivity (analyst : Analyst) (incidentId : Uuid) (alert : Alert) (action : Varchar 50)
    (verb : String) : Activity :=
  { incidentActivity analyst incidentId action (verb ++ " alert " ++ alert.title.val)
      [("alert_id", .str alert.id.toText), ("alert_title", .str alert.title.val)] with
    alertId := some alert.id }

def incidentLinked (analyst : Analyst) (incident : Incident) (created : Bool) (alert : Alert) :
    Activity :=
  { incidentActivity analyst incident.id (.lit "incident_linked")
      ((if created then "Created and linked incident " else "Linked to incident ")
        ++ incident.title.val)
      [("incident_id", .str incident.id.toText), ("incident_title", .str incident.title.val),
       ("created_new_incident", .bool created)] with
    alertId := some alert.id }

/-- What a request adds to its session before it commits. -/
def LinkCall.write (call : LinkCall) : LinkFound → LinkWrite
  | .toLink analyst incident alert =>
      .insert ⟨⟨incident.id, alert.id⟩, call.linkId⟩ none
        [linkActivity analyst incident.id alert (.lit "alert_linked") "Linked"]
  | .toIncident analyst incident created alert =>
      .insert ⟨⟨incident.id, alert.id⟩, call.linkId⟩ (if created then some incident else none)
        ((if created then [incidentCreated incident none analyst] else [])
          ++ [incidentLinked analyst incident created alert])
  | .toUnlink analyst link (some incident) (some alert) =>
      .delete link.id
        [linkActivity analyst incident.id alert (.lit "alert_unlinked") "Unlinked"]
  | .toUnlink _ link _ _ => .delete link.id []

/-- The incidents with the one that a request has flushed. -/
def Db.withCreated (db : Db) (created : Option Incident) : Except Raised (Table Incident.id) :=
  match created with
  | some incident => orRaise (db.incidents.insert? incident) duplicateIncident
  | none => .ok db.incidents

/-- The constraints are those that `IncidentAlert` declares; a delete of a row that is gone
deletes nothing. -/
def LinkWrite.commit : LinkWrite → LinkDb → Except Raised LinkDb
  | .insert link created activities, db => do
      let incidents ← db.withCreated created
      let _ ← orRaise (incidents.find? link.incidentId) (.refusedByDatabase
        ("insert on table incident_alerts violates foreign key constraint " ++
          "fk_incident_alerts_incident_id_incidents"))
      let _ ← orRaise (db.alerts.find? link.alertId) (.refusedByDatabase
        ("insert on table incident_alerts violates foreign key constraint " ++
          "fk_incident_alerts_alert_id_alerts"))
      let links ← orRaise (db.links.insert? link) (.refusedByDatabase
        "duplicate key value violates unique constraint pk_incident_alerts")
      pure { db with
        incidents := incidents, links := links, activities := db.activities ++ activities }
  | .delete linkId activities, db => .ok { db with
      links := db.links.filter (fun link => link.id ≠ linkId)
      activities := db.activities ++ activities }

/-- Two writes of one row wait for each other. -/
def LinkWrite.locks : LinkWrite → LinkWrite → Bool
  | .insert a _ _, .insert b _ _ => decide (a.id = b.id)
  | .delete a _, .delete b _ => decide (a = b)
  | _, _ => false

/-- The three requests as transactions. -/
def linkTransaction (py : PyText) (app : App) {κ : Type} (call : κ → LinkCall) :
    Transaction κ LinkDb LinkFound LinkWrite Raised where
  read k db := (call k).read py app db
  write k found := .ok ((call k).write found)
  commit := LinkWrite.commit
  excludes := LinkWrite.locks

abbrev LinkSys (κ : Type) := Sys κ LinkDb LinkFound LinkWrite Raised

/-! ## What is to be kept -/

/-- No pair has two rows: every lookup of a pair has an answer, and every alert of an incident
is counted once. -/
structure LinksUnique (db : LinkDb) : Prop where
  rows : ∀ pair, (db.linksOf pair).length ≤ 1
  lookups : ∀ pair, Returns (scalarOneOrNone (db.linksOf pair))
  counts : ∀ incidentId, db.alertCount incidentId = (db.linkedAlerts incidentId).dedup.length

/-- The pair that a request is to link. -/
def LinkCall.pair? (py : PyText) (call : LinkCall) : Option (Uuid × Uuid) :=
  match call.op with
  | .linkAlert incidentId alertId => (Uuid.ofText? py alertId).map (fun a => (incidentId, a))
  | .createOrLinkIncidentForAlert alertId data =>
      match truthy data.incidentId with
      | some text => (Uuid.ofText? py text).map (fun i => (i, alertId))
      | none => some (call.newIncidentId, alertId)
  | .unlinkAlert _ _ => none

/-- Both requests link the same pair. -/
def SamePair (py : PyText) {κ : Type} (call : κ → LinkCall) (k j : κ) : Prop :=
  ∃ pair, (call k).pair? py = some pair ∧ (call j).pair? py = some pair

section Conditions

variable (py : PyText) (app : App) {κ : Type} [DecidableEq κ] (call : κ → LinkCall)

/-- A link that is committed is one whose check would pass again at this moment. -/
def StillUnlinked (s : LinkSys κ) (e : κ × Act) : Prop :=
  ∀ found (link : LinkRow) created activities store,
    CommitsAs (linkTransaction py app call) s e found (.insert link created activities) store →
    s.store.checkUnlinked link.pair = .ok ()

/-- Nobody has committed a link of the pair since the committing session checked it. -/
def NoRival (s : LinkSys κ) (e : κ × Act) : Prop :=
  e.2 = .commit → ∀ j ∈ s.since e.1, ¬ SamePair py call e.1 j

end Conditions

/-! ## The rows of a pair -/

section Rows

variable {db db' : LinkDb}

/-- The check passes where the pair has no row. -/
theorem checkUnlinked_ok {pair : Uuid × Uuid} :
    db.checkUnlinked pair = .ok () ↔ db.linksOf pair = [] := by
  rw [LinkDb.checkUnlinked]
  match db.linksOf pair with
  | [] => exact iff_of_true rfl rfl
  | [link] => exact iff_of_false (fun h => nomatch h) (fun h => nomatch h)
  | _ :: _ :: _ => exact iff_of_false (fun h => nomatch h) (fun h => nomatch h)

theorem length_linksOf (pair : Uuid × Uuid) :
    (db.linksOf pair).length = (db.links.rows.map LinkRow.pair).count pair := by
  rw [LinkDb.linksOf, ← List.countP_eq_length_filter, List.count, List.countP_map]
  refine List.countP_congr (fun link _ => ?_)
  simp

/-- The alerts of an incident are those of its pairs. -/
theorem linkedAlerts_nodup (h : (db.links.rows.map LinkRow.pair).Nodup) (incidentId : Uuid) :
    (db.linkedAlerts incidentId).Nodup := by
  have hrows : ((db.links.rows.filter (fun link => link.incidentId = incidentId)).map
      LinkRow.pair).Nodup := h.sublist (List.filter_sublist.map LinkRow.pair)
  rw [LinkDb.linkedAlerts, List.nodup_map_iff_inj_on hrows.of_map]
  intro link hlink other hother halert
  have hincident : link.incidentId = other.incidentId := by
    have hl := (List.mem_filter.mp hlink).2
    have ho := (List.mem_filter.mp hother).2
    rw [decide_eq_true_eq] at hl ho
    exact hl.trans ho.symm
  exact List.inj_on_of_nodup_map hrows hlink hother (Prod.ext hincident halert)

/-- The pairs are unique when no two rows have the same one. -/
theorem linksUnique_iff : LinksUnique db ↔ (db.links.rows.map LinkRow.pair).Nodup := by
  constructor
  · intro h
    rw [List.nodup_iff_count_le_one]
    intro pair
    rw [← length_linksOf]
    exact h.rows pair
  · intro h
    have hrows : ∀ pair, (db.linksOf pair).length ≤ 1 := by
      intro pair
      rw [length_linksOf]
      exact List.nodup_iff_count_le_one.mp h pair
    refine ⟨hrows, ?_, ?_⟩
    · intro pair
      by_contra hfails
      obtain ⟨e, he⟩ := not_returns.mp hfails
      exact absurd (hrows pair) (Nat.not_le_of_lt (scalarOneOrNone_error he).2)
    · intro incidentId
      rw [(linkedAlerts_nodup h incidentId).dedup, LinkDb.linkedAlerts, List.length_map]
      rfl

/-! ## What a commit does to them -/

theorem insert_links {link : LinkRow} {created : Option Incident} {activities : List Activity}
    (h : (LinkWrite.insert link created activities).commit db = .ok db') :
    db'.links.rows = db.links.rows ++ [link] := by
  obtain ⟨incidents, -, h⟩ := bind_ok h
  obtain ⟨incident, -, h⟩ := bind_ok h
  obtain ⟨alert, -, h⟩ := bind_ok h
  obtain ⟨links, hlinks, h⟩ := bind_ok h
  cases h
  exact (Table.insert?_some (orRaise_ok hlinks)).2

theorem linksOf_insert {link : LinkRow} {created : Option Incident} {activities : List Activity}
    (h : (LinkWrite.insert link created activities).commit db = .ok db') (pair : Uuid × Uuid) :
    db'.linksOf pair = db.linksOf pair ++ (if link.pair = pair then [link] else []) := by
  rw [LinkDb.linksOf, insert_links h, List.filter_append, List.filter_singleton,
    LinkDb.linksOf]
  by_cases hpair : link.pair = pair
  · rw [decide_eq_true hpair, if_pos hpair]
    rfl
  · rw [decide_eq_false hpair, if_neg hpair]
    rfl

theorem linksOf_delete {linkId : Uuid} {activities : List Activity}
    (h : (LinkWrite.delete linkId activities).commit db = .ok db') (pair : Uuid × Uuid) :
    db'.linksOf pair = (db.linksOf pair).filter (fun link => link.id ≠ linkId) := by
  cases h
  show (db.links.rows.filter _).filter _ = (db.links.rows.filter _).filter _
  rw [List.filter_comm]

/-- **A new link keeps the pairs unique exactly when its pair has none.** -/
theorem linksUnique_insert {link : LinkRow} {created : Option Incident}
    {activities : List Activity} (hdb : LinksUnique db)
    (h : (LinkWrite.insert link created activities).commit db = .ok db') :
    LinksUnique db' ↔ db.linksOf link.pair = [] := by
  constructor
  · intro hafter
    have hlength := hafter.rows link.pair
    rw [linksOf_insert h, if_pos rfl, List.length_append, List.length_singleton] at hlength
    exact List.length_eq_zero_iff.mp (by omega)
  · intro hnone
    rw [linksUnique_iff, insert_links h, List.map_append, List.map_singleton]
    have hnew : link.pair ∉ db.links.rows.map LinkRow.pair := by
      rw [← List.count_eq_zero, ← length_linksOf, hnone]
      rfl
    exact List.Nodup.append (linksUnique_iff.mp hdb) (List.nodup_singleton _)
      (List.disjoint_singleton.mpr hnew)

theorem linksUnique_delete {linkId : Uuid} {activities : List Activity} (hdb : LinksUnique db)
    (h : (LinkWrite.delete linkId activities).commit db = .ok db') : LinksUnique db' := by
  cases h
  rw [linksUnique_iff] at hdb ⊢
  exact hdb.sublist (List.filter_sublist.map LinkRow.pair)

end Rows

/-! ## What a request knows when it has looked -/

section Read

variable {py : PyText} {app : App} {db : LinkDb} {found : LinkFound}

/-- What a request has made sure of: its pair has no row, or the row it is to delete is the
only one. -/
structure Looked (py : PyText) (call : LinkCall) (db : LinkDb) (found : LinkFound) : Prop where
  pair : found.pair? = call.pair? py
  unlinked : ∀ pair, call.pair? py = some pair → db.linksOf pair = []
  linked : ∀ analyst link incident alert, found = .toUnlink analyst link incident alert →
    db.linksOf link.pair = [link]

/-- A request that is about to add a link. -/
theorem Looked.of_unlinked {call : LinkCall} {pair : Uuid × Uuid}
    (hfound : found.pair? = some pair) (hcall : call.pair? py = some pair)
    (hnone : db.linksOf pair = []) : Looked py call db found where
  pair := hfound.trans hcall.symm
  unlinked := by
    intro other hother
    cases hcall.symm.trans hother
    exact hnone
  linked := by
    rintro analyst link incident alert rfl
    cases hfound

theorem linkAlertRead_ok {incidentId : Uuid} {alertId : String} {caller : Option Analyst}
    (h : linkAlertRead py app incidentId alertId caller db = .ok found) :
    ∃ alertUuid, Uuid.ofText? py alertId = some alertUuid ∧
      found.pair? = some (incidentId, alertUuid) ∧ db.linksOf (incidentId, alertUuid) = [] := by
  obtain ⟨analyst, -, h⟩ := bind_ok h
  obtain ⟨incident, hincident, h⟩ := bind_ok h
  obtain ⟨⟨⟩, -, h⟩ := bind_ok h
  obtain ⟨alertUuid, hparsed, h⟩ := bind_ok h
  obtain ⟨alert, halert, h⟩ := bind_ok h
  obtain ⟨⟨⟩, -, h⟩ := bind_ok h
  obtain ⟨⟨⟩, hcheck, h⟩ := bind_ok h
  cases h
  refine ⟨alertUuid, orRaise_ok hparsed, ?_, checkUnlinked_ok.mp hcheck⟩
  have hincidentId : incident.id = incidentId := Table.find?_key (orRaise_ok hincident)
  have halertId : alert.id = alertUuid := Table.find?_key (orRaise_ok halert)
  rw [LinkFound.pair?, hincidentId, halertId]

/-- The incident is the one that the body names, or a new one. -/
theorem incidentToLink_ok {data : AlertIncidentRequest} {newIncidentId : Uuid}
    {analyst : Analyst} {incident : Incident} {created : Bool}
    (h : incidentToLink py app data newIncidentId analyst db = .ok (incident, created)) :
    (match truthy data.incidentId with
      | some text => Uuid.ofText? py text
      | none => some newIncidentId) = some incident.id := by
  simp only [incidentToLink] at h
  split at h
  · obtain ⟨permitted, -, h⟩ := bind_ok h
    obtain ⟨incidentId, hparsed, h⟩ := bind_ok h
    obtain ⟨found, hfound, h⟩ := bind_ok h
    obtain ⟨⟨⟩, -, h⟩ := bind_ok h
    cases h
    have hid : incident.id = incidentId := Table.find?_key (orRaise_ok hfound)
    rw [hid]
    exact orRaise_ok hparsed
  · obtain ⟨permitted, -, h⟩ := bind_ok h
    obtain ⟨row, hrow, h⟩ := bind_ok h
    obtain ⟨incidents, -, h⟩ := bind_ok h
    cases h
    obtain ⟨title, -, hrow⟩ := bind_ok hrow
    obtain ⟨severity, -, hrow⟩ := bind_ok hrow
    cases hrow
    rfl

theorem createOrLinkRead_ok {alertId newIncidentId : Uuid} {data : AlertIncidentRequest}
    {caller : Option Analyst}
    (h : createOrLinkRead py app alertId data newIncidentId caller db = .ok found) :
    ∃ incidentId, (match truthy data.incidentId with
        | some text => Uuid.ofText? py text
        | none => some newIncidentId) = some incidentId ∧
      found.pair? = some (incidentId, alertId) ∧ db.linksOf (incidentId, alertId) = [] := by
  obtain ⟨analyst, -, h⟩ := bind_ok h
  obtain ⟨⟨⟩, -, h⟩ := bind_ok h
  obtain ⟨alert, halert, h⟩ := bind_ok h
  obtain ⟨⟨⟩, -, h⟩ := bind_ok h
  obtain ⟨⟨incident, created⟩, hincident, h⟩ := bind_ok h
  obtain ⟨⟨⟩, hcheck, h⟩ := bind_ok h
  cases h
  have halertId : alert.id = alertId := Table.find?_key (orRaise_ok halert)
  refine ⟨incident.id, incidentToLink_ok hincident, ?_, checkUnlinked_ok.mp hcheck⟩
  rw [LinkFound.pair?, halertId]

theorem unlinkAlertRead_ok {incidentId alertId : Uuid} {caller : Option Analyst}
    (h : unlinkAlertRead app incidentId alertId caller db = .ok found) :
    ∃ analyst link incident alert, found = .toUnlink analyst link incident alert ∧
      db.linksOf link.pair = [link] := by
  obtain ⟨analyst, -, h⟩ := bind_ok h
  obtain ⟨result, hrows, h⟩ := bind_ok h
  obtain ⟨link, hlink, h⟩ := bind_ok h
  obtain ⟨⟨⟩, -, h⟩ := bind_ok h
  cases h
  have hone : db.linksOf (incidentId, alertId) = [link] := by
    rw [scalarOneOrNone_ok hrows, orRaise_ok hlink]
    rfl
  have hpair : link.pair = (incidentId, alertId) := by
    have hmem : link ∈ db.linksOf (incidentId, alertId) := by
      rw [hone]
      exact List.mem_singleton_self link
    simpa using (List.mem_filter.mp hmem).2
  exact ⟨_, _, _, _, rfl, by rw [hpair, hone]⟩

/-- **What every request has made sure of when it has looked.** -/
theorem LinkCall.looked {call : LinkCall} (h : call.read py app db = .ok found) :
    Looked py call db found := by
  obtain ⟨op, caller, linkId, newIncidentId⟩ := call
  cases op with
  | linkAlert incidentId alertId =>
      obtain ⟨alertUuid, hparsed, hfound, hnone⟩ := linkAlertRead_ok h
      refine .of_unlinked hfound ?_ hnone
      simp only [LinkCall.pair?, hparsed, Option.map_some]
  | createOrLinkIncidentForAlert alertId data =>
      obtain ⟨incidentId, hincident, hfound, hnone⟩ := createOrLinkRead_ok h
      refine .of_unlinked hfound ?_ hnone
      simp only [LinkCall.pair?]
      split at hincident
      · rw [hincident]
        rfl
      · cases hincident
        rfl
  | unlinkAlert incidentId alertId =>
      obtain ⟨analyst, link, incident, alert, rfl, hone⟩ := unlinkAlertRead_ok h
      refine ⟨rfl, ?_, ?_⟩
      · intro pair hpair
        cases hpair
      · rintro _ _ _ _ ⟨⟩
        exact hone

/-- A request writes a link of the pair that it looked for, or deletes the row it found. -/
theorem LinkCall.write_cases (call : LinkCall) (found : LinkFound) :
    (∃ link created activities, call.write found = .insert link created activities ∧
        found.pair? = some link.pair) ∨
      ∃ analyst link incident alert activities,
        found = .toUnlink analyst link incident alert ∧
        call.write found = .delete link.id activities := by
  cases found with
  | toLink analyst incident alert => exact Or.inl ⟨_, _, _, rfl, rfl⟩
  | toIncident analyst incident created alert => exact Or.inl ⟨_, _, _, rfl, rfl⟩
  | toUnlink analyst link incident alert =>
      refine Or.inr ⟨analyst, link, incident, alert, ?_⟩
      cases incident with
      | none => exact ⟨_, rfl, rfl⟩
      | some incident =>
          cases alert with
          | none => exact ⟨_, rfl, rfl⟩
          | some alert => exact ⟨_, rfl, rfl⟩

theorem LinkCall.pair_of_insert {call : LinkCall} {link : LinkRow} {created : Option Incident}
    {activities : List Activity} (h : call.write found = .insert link created activities) :
    found.pair? = some link.pair := by
  rcases call.write_cases found with
    ⟨link', created', activities', hwrite, hpair⟩ | ⟨_, _, _, _, _, -, hwrite⟩
  · cases h.symm.trans hwrite
    exact hpair
  · cases h.symm.trans hwrite

end Read

/-! ## Runs -/

section Run

variable {py : PyText} {app : App} {κ : Type} [DecidableEq κ] {call : κ → LinkCall}

/-- A step keeps the pairs unique exactly when it adds no link whose check would fail now. -/
theorem stillUnlinked_iff {s : LinkSys κ} (hs : LinksUnique s.store) (e : κ × Act) :
    LinksUnique (attempt (step (linkTransaction py app call)) s e).store ↔
      StillUnlinked py app call s e := by
  constructor
  · intro hafter found link created activities store hcommits
    rw [hcommits.store_attempt] at hafter
    exact checkUnlinked_ok.mpr ((linksUnique_insert hs hcommits.2.2).mp hafter)
  · intro hstill
    rcases store_attempt (T := linkTransaction py app call) s e with
      hsame | ⟨found, write, hcommits⟩
    · rw [hsame]
      exact hs
    · cases write with
      | insert link created activities =>
          have hnone := checkUnlinked_ok.mp (hstill found link created activities _ hcommits)
          exact (linksUnique_insert hs hcommits.2.2).mpr hnone
      | delete linkId activities => exact linksUnique_delete hs hcommits.2.2

/-- The pair that a session is to link has no row. -/
def PairUnlinked (py : PyText) (call : κ → LinkCall) (k : κ) (_ : LinkFound) (db : LinkDb) :
    Prop :=
  ∀ pair, (call k).pair? py = some pair → db.linksOf pair = []

omit [DecidableEq κ] in
/-- Another session's commit adds no row under the pair, unless it links the same pair. -/
theorem pairUnlinked_commit {k j : κ} {found foundByOther : LinkFound} {write : LinkWrite}
    {db₀ db db' : LinkDb} (hrival : ¬ SamePair py call k j)
    (hread : (call j).read py app db₀ = .ok foundByOther)
    (hwrite : (call j).write foundByOther = write) (hcommit : write.commit db = .ok db')
    (h : PairUnlinked py call k found db) : PairUnlinked py call k found db' := by
  intro pair hpair
  cases write with
  | insert link created activities =>
      have hother : (call j).pair? py = some link.pair :=
        ((call j).looked hread).pair.symm.trans (LinkCall.pair_of_insert hwrite)
      have hne : link.pair ≠ pair := by
        rintro rfl
        exact hrival ⟨_, hpair, hother⟩
      rw [linksOf_insert hcommit, if_neg hne, List.append_nil]
      exact h pair hpair
  | delete linkId activities =>
      rw [linksOf_delete hcommit, h pair hpair, List.filter_nil]

/-- Every session that is under way has checked its pair, and the check stands until another
session links the pair. -/
abbrev LinkStanding (py : PyText) (app : App) (call : κ → LinkCall) (s : LinkSys κ) : Prop :=
  Standing (linkTransaction py app call) (PairUnlinked py call) (SamePair py call) s

theorem linkStanding_attempt {s : LinkSys κ} (h : LinkStanding py app call s) (e : κ × Act) :
    LinkStanding py app call (attempt (step (linkTransaction py app call)) s e) := by
  refine attempt_inv _ h (fun s' hs => ?_)
  refine standing_step ?_ ?_ h (stepped_of_step hs)
  · intro k db found hread
    exact ((call k).looked hread).unlinked
  · intro k j found foundByOther write db₀ db db' hrival hread hwrite hcommit hunlinked
    exact pairUnlinked_commit hrival hread (Except.ok.inj hwrite) hcommit hunlinked

omit [DecidableEq κ] in
/-- Where no rival has committed since the check, the check would pass again. -/
theorem stillUnlinked_of_noRival {s : LinkSys κ} (h : LinkStanding py app call s)
    {e : κ × Act} (hrival : NoRival py call s e) : StillUnlinked py app call s e := by
  intro found link created activities store hcommits
  obtain ⟨hact, hphase, -⟩ := hcommits
  have hvalue : (s.phase e.1).readValue? = some found := by rw [hphase]; rfl
  obtain ⟨db₀, hread⟩ := h.origin e.1 found hvalue
  have hwrite : (call e.1).write found = .insert link created activities :=
    Except.ok.inj (h.consistent.prepared e.1 found _ hphase)
  have hpair : (call e.1).pair? py = some link.pair :=
    ((call e.1).looked hread).pair.symm.trans (LinkCall.pair_of_insert hwrite)
  rcases h.stands e.1 found hvalue with hstands | ⟨j, hj, hsame⟩
  · exact checkUnlinked_ok.mpr (hstands link.pair hpair)
  · exact absurd hsame (hrival hact j hj)

/-- **The pairs are unique throughout exactly the runs in which every link is committed while its
check would still pass**, for any number of sessions and any order of their steps; and so they
are when no request commits a link of a pair between another one's check and commit. -/
theorem links_unique_iff {db : LinkDb} (hdb : LinksUnique db) (es : List (κ × Act)) :
    (Along (step (linkTransaction py app call))
        (fun s e => LinksUnique (attempt (step (linkTransaction py app call)) s e).store)
        (Sys.start db) es ↔
      Along (step (linkTransaction py app call)) (StillUnlinked py app call) (Sys.start db) es) ∧
    (Along (step (linkTransaction py app call)) (NoRival py call) (Sys.start db) es →
      Along (step (linkTransaction py app call))
        (fun s e => LinksUnique (attempt (step (linkTransaction py app call)) s e).store)
        (Sys.start db) es) := by
  have hiff : ∀ (es : List (κ × Act)), Along (step (linkTransaction py app call))
        (fun s e => LinksUnique (attempt (step (linkTransaction py app call)) s e).store)
        (Sys.start db) es ↔
      Along (step (linkTransaction py app call)) (StillUnlinked py app call)
        (Sys.start db) es := by
    intro es
    refine along_congr _ (I := fun s => LinksUnique s.store)
      (fun s e hs => stillUnlinked_iff hs e) ?_ es _ hdb
    exact fun _ _ _ hafter => hafter
  refine ⟨hiff es, fun hrival => (hiff es).mpr ?_⟩
  refine Along.imp _ (I := LinkStanding py app call) ?_ ?_ es _ (standing_start db) hrival
  · exact fun s e h _ => linkStanding_attempt h e
  · exact fun s e h hrival => stillUnlinked_of_noRival h hrival

omit [DecidableEq κ] in
/-- A request that has looked where the pair has two rows is not about this pair. -/
theorem looked_elsewhere {call : LinkCall} {db : LinkDb} {found : LinkFound} {pair : Uuid × Uuid}
    (htwo : 2 ≤ (db.linksOf pair).length) (h : Looked py call db found) :
    found.pair? ≠ some pair ∧
      ∀ analyst link incident alert, found = .toUnlink analyst link incident alert →
        ∀ row ∈ db.linksOf pair, row.id ≠ link.id := by
  constructor
  · intro hpair
    rw [h.unlinked pair (h.pair ▸ hpair)] at htwo
    exact absurd htwo (by decide)
  · intro analyst link incident alert hfound row hrow hid
    have hone := h.linked analyst link incident alert hfound
    have hlink : link ∈ db.linksOf link.pair := by
      rw [hone]
      exact List.mem_singleton_self link
    obtain ⟨hmem, hpair⟩ := List.mem_filter.mp hrow
    -- the rows are under different pairs, and the primary key tells them apart
    have hsame : row = link :=
      List.inj_on_of_nodup_map db.links.nodup hmem (List.mem_filter.mp hlink).1 hid
    rw [decide_eq_true_eq, hsame] at hpair
    rw [← hpair, hone] at htwo
    exact absurd htwo (Nat.not_succ_le_self 1)

/-- **A pair with two rows stays as it is**: in every run its rows are neither deleted nor added
to. -/
theorem twice_linked_stays {db : LinkDb} {pair : Uuid × Uuid}
    (htwo : 2 ≤ (db.linksOf pair).length) (es : List (κ × Act)) :
    (run (step (linkTransaction py app call)) (Sys.start db) es).store.linksOf pair
      = db.linksOf pair := by
  refine store_inv (T := linkTransaction py app call)
    (I := fun db' => db'.linksOf pair = db.linksOf pair)
    (P := fun _ found => found.pair? ≠ some pair ∧
      ∀ analyst link incident alert, found = .toUnlink analyst link incident alert →
        ∀ row ∈ db.linksOf pair, row.id ≠ link.id) ?_ ?_ rfl es
  · intro k db' found hrows hread
    rw [← hrows] at htwo ⊢
    exact looked_elsewhere htwo ((call k).looked hread)
  · intro k found write db' db'' hfound hwrite hrows hcommit
    cases Except.ok.inj hwrite
    rcases (call k).write_cases found with
      ⟨link, created, activities, hinsert, hpair⟩ |
      ⟨analyst, link, incident, alert, activities, hunlink, hdelete⟩
    · have hne : link.pair ≠ pair := fun heq => hfound.1 (hpair.trans (congrArg some heq))
      rw [hinsert] at hcommit
      rw [linksOf_insert hcommit, if_neg hne, List.append_nil, hrows]
    · have hothers := hfound.2 analyst link incident alert hunlink
      rw [hdelete] at hcommit
      rw [linksOf_delete hcommit, hrows]
      exact List.filter_eq_self.mpr (fun row hrow => decide_eq_true (hothers row hrow))

end Run

/-! ## One alert, linked twice -/

def openCase : LinkDb :=
  { Db.empty with
    alerts := ⟨[acmeBeacon], by decide⟩
    incidents := ⟨[(openIncident 1).toIncident], by decide⟩
    links := .empty }

/-- Any number of requests link the alert to the incident, each with an identifier of its own. -/
def linkBeacon (k : Nat) : LinkCall :=
  ⟨.linkAlert 1 "00000000-0000-0000-0000-000000000001", some administrator, BitVec.ofNat 128 k,
    BitVec.ofNat 128 k⟩

theorem linksUnique_openCase : LinksUnique openCase := linksUnique_iff.mpr List.nodup_nil

/-- The second request finds the link of the first. -/
theorem links_unique_one_after_another :
    Along (step (linkTransaction .ascii .core linkBeacon))
      (fun s e => LinksUnique (attempt (step (linkTransaction .ascii .core linkBeacon)) s e).store)
      (Sys.start openCase) [(0, .read), (0, .write), (0, .commit), (1, .read)] := by
  refine (@links_unique_iff .ascii .core Nat _ linkBeacon openCase linksUnique_openCase _).2
    ⟨?_, ?_, ?_, ?_, trivial⟩
  · intro hact
    cases hact
  · intro hact
    cases hact
  · intro _ j hj
    cases hj
  · intro hact
    cases hact

/-- Both requests look before either commits, and the incident has the alert twice. -/
theorem overlapping_requests_link_twice :
    ¬ ∀ (call : Nat → LinkCall) (db : LinkDb) (es : List (Nat × Act)), LinksUnique db →
      LinksUnique (run (step (linkTransaction .ascii .core call)) (Sys.start db) es).store := by
  intro hclaim
  have hone := (hclaim linkBeacon openCase
    [(0, .read), (1, .read), (0, .write), (1, .write), (0, .commit), (1, .commit)]
    linksUnique_openCase).rows (1, 1)
  have htwo : ((run (step (linkTransaction .ascii .core linkBeacon)) (Sys.start openCase)
      [(0, .read), (1, .read), (0, .write), (1, .write), (0, .commit),
        (1, .commit)]).store.linksOf (1, 1)).length = 2 := by decide +kernel
  rw [htwo] at hone
  exact absurd hone (by decide)

end OpenSoar
