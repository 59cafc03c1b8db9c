/-
# `OpenSoar.Api.Activities` — comments, and actions that are recorded

`add_comment` and `edit_comment` of `api/activities.py`, their counterparts for incidents in
`api/incidents.py`, and `execute_action` of `api/actions.py`.  The requests about incidents ask
for the permission to update them; the others only for an analyst who is logged in.

An edit appends the text it replaces to the list under `edit_history`.  A list that is there
already is appended to in place, in the object that was loaded and not copied, and a flush writes
a JSON column only when what is assigned to it differs from that object: it does not then, and
the column is not written (`flushedMetadata`).
-/
import OpenSoar.Api.Server
import OpenSoar.Comments.Mentions
import OpenSoar.Python.Datetime

namespace OpenSoar

open Python

/-! ## Adding a comment -/

/-- `Activity(action="comment", ...)`. -/
def newComment (now : Timestamp) (commentId : Uuid) (alertId incidentId : Option Uuid)
    (analyst : Analyst) (comment : String) (mentions : List ResolvedMention) : ActivityEntry where
  id := commentId
  alertId := alertId
  incidentId := incidentId
  analystId := some analyst.id
  analystUsername := some analyst.username
  action := .lit "comment"
  detail := some comment
  metadataJson := none
  mentions := some (mentions.map (·.username))
  createdAt := now
  archivedAt := none
  updatedAt := now

/-- A comment on an alert or an incident that the analyst may update. -/
def Server.comment (text : MentionText) (app : App) (now : Timestamp) (commentId : Uuid)
    (alertId incidentId : Option Uuid) (comment : String) (analyst : Analyst) (s : Server) :
    Except Raised Server := do
  let resolved ← resolveCommentMentions text app s.analysts.rows comment (some analyst)
  let activities ← addActivity s.activities
    (newComment now commentId alertId incidentId analyst comment resolved)
  pure { s with activities := activities }

/-- `require_analyst`. -/
def requireAnalyst (caller : Option Analyst) : Except Raised Analyst :=
  orRaise caller (.httpException 401 "Authentication required")

/-- The alert that `add_comment` and `edit_comment` load. -/
def alertToComment (app : App) (alertId : Uuid) (analyst : Analyst) (s : Server) :
    Except Raised Unit := do
  let alert ← orRaise (s.alerts.find? alertId) alertNotFound
  enforceTenantAccess app (.alert alert.toAlert) "update" (some analyst)

/-- The incident that `add_incident_comment` and `edit_incident_comment` load. -/
def incidentToComment (app : App) (incidentId : Uuid) (analyst : Analyst) (s : Server) :
    Except Raised Unit := do
  let incident ← orRaise (s.incidents.find? incidentId) (.httpException 404 "Incident not found")
  enforceTenantAccess app (.incident incident.toIncident) "update" (some analyst)

/-- `add_comment`. -/
def addComment (text : MentionText) (app : App) (now : Timestamp) (commentId alertId : Uuid)
    (comment : String) (caller : Option Analyst) (s : Server) : Except Raised Server := do
  let analyst ← requireAnalyst caller
  alertToComment app alertId analyst s
  s.comment text app now commentId (some alertId) none comment analyst

/-- `add_incident_comment`. -/
def addIncidentComment (text : MentionText) (app : App) (now : Timestamp)
    (commentId incidentId : Uuid) (comment : String) (caller : Option Analyst) (s : Server) :
    Except Raised Server := do
  let analyst ← requirePermission .incidentsUpdate caller
  incidentToComment app incidentId analyst s
  s.comment text app now commentId none (some incidentId) comment analyst

/-! ## Editing a comment -/

/-- `(activity.metadata_json or {}).get("edit_history", [])`; only a list can be appended to,
anything else is an `AttributeError`. -/
def editHistory (metadata : Option Dict) : Except Raised (List Json) :=
  match (metadata.getD []).lookup "edit_history" with
  | none => .ok []
  | some (.arr items) => .ok items
  | some _ => .error (.runtimeError "object has no attribute 'append'")

/-- The entry for the text that is replaced. -/
def ActivityEntry.edit (activity : ActivityEntry) : Json :=
  .obj [("text", Json.ofOption activity.detail),
    ("edited_at", .str (isoformat activity.updatedAt))]

/-- What a flush sets the column to, if it does: `{**metadata, "edit_history": history}`, unless
that equals the object that was loaded. -/
def flushedMetadata (metadata : Option Dict) (history : List Json) : Option Dict :=
  let loaded := metadata.getD []
  -- a list that was loaded has been appended to in place, so the two dicts hold the same objects
  if (loaded.lookup "edit_history").isSome then none
  else some (loaded ++ [("edit_history", .arr history)])

/-- The row after an edit; `onupdate` stamps it when there is a column to write. -/
def ActivityEntry.edited (activity : ActivityEntry) (now : Timestamp) (history : List Json)
    (comment : String) (mentions : List String) : ActivityEntry :=
  let metadata := flushedMetadata activity.metadataJson history
  let written := metadata.isSome || decide (activity.detail ≠ some comment)
    || decide (activity.mentions ≠ some mentions)
  { activity with
    metadataJson := metadata <|> activity.metadataJson
    detail := some comment
    mentions := some mentions
    updatedAt := if written then now else activity.updatedAt }

/-- The edit of a comment that is on the alert or the incident of the request. -/
def Server.editComment (text : MentionText) (app : App) (now : Timestamp) (commentId : Uuid)
    (isOn : ActivityEntry → Bool) (comment : String) (analyst : Analyst) (s : Server) :
    Except Raised Server := do
  let activity ← orRaise ((s.activities.find? commentId).filter (fun activity =>
    isOn activity && activity.action.val = "comment")) (.httpException 404 "Comment not found")
  if activity.analystId ≠ some analyst.id then
    .error (.httpException 403 "Can only edit your own comments")
  else do
    let history ← editHistory activity.metadataJson
    let resolved ← resolveCommentMentions text app s.analysts.rows comment (some analyst)
    pure { s with
      activities := s.activities.set (activity.edited now (history ++ [activity.edit]) comment
        (resolved.map (·.username))) }

/-- `edit_comment`. -/
def editComment (text : MentionText) (app : App) (now : Timestamp) (alertId commentId : Uuid)
    (comment : String) (caller : Option Analyst) (s : Server) : Except Raised Server := do
  let analyst ← requireAnalyst caller
  alertToComment app alertId analyst s
  s.editComment text app now commentId (fun activity => activity.alertId = some alertId) comment
    analyst

/-- `edit_incident_comment`. -/
def editIncidentComment (text : MentionText) (app : App) (now : Timestamp)
    (incidentId commentId : Uuid) (comment : String) (caller : Option Analyst) (s : Server) :
    Except Raised Server := do
  let analyst ← requirePermission .incidentsUpdate caller
  incidentToComment app incidentId analyst s
  s.editComment text app now commentId (fun activity => activity.incidentId = some incidentId)
    comment analyst

/-! ## `POST /actions/execute` -/

structure ActionExecuteRequest where
  actionName : String
  iocType : String
  iocValue : String
  alertId : Option String

structure ActionExecuteResponse where
  actionName : String
  iocValue : String
  status : String
  result : Option Dict
  error : Option String

/-- The names in `AVAILABLE_ACTIONS`. -/
def availableActions : List String :=
  ["virustotal_lookup", "abuseipdb_check", "whois_lookup", "dns_resolve"]

/-- The response, by what `_run_action` returned or raised. -/
def ActionExecuteRequest.response (body : ActionExecuteRequest) (ran : Except String Dict) :
    ActionExecuteResponse :=
  match ran with
  | .ok result => ⟨body.actionName, body.iocValue, "success", some result, none⟩
  | .error e => ⟨body.actionName, body.iocValue, "failed", none, some e⟩

/-- `Activity(action="manual_action", ...)`. -/
def manualAction (now : Timestamp) (activityId alertId : Uuid) (analyst : Analyst)
    (body : ActionExecuteRequest) (answer : ActionExecuteResponse) : ActivityEntry where
  id := activityId
  alertId := some alertId
  incidentId := none
  analystId := some analyst.id
  analystUsername := some analyst.username
  action := .lit "manual_action"
  detail := some s!"Executed {body.actionName} on {body.iocType}: {body.iocValue}"
  metadataJson := some
    [("action_name", .str body.actionName), ("ioc_type", .str body.iocType),
      ("ioc_value", .str body.iocValue), ("status", .str answer.status),
      ("result", answer.result.elim .null .obj)]
  mentions := none
  createdAt := now
  archivedAt := none
  updatedAt := now

/-- The alert that an action is scoped to. -/
def alertOfAction (py : PyText) (app : App) (raw : String) (analyst : Analyst) (s : Server) :
    Except Raised Uuid := do
  let alertId ← orRaise (Uuid.ofText? py raw) badUuid
  let alert ← orRaise (s.alerts.find? alertId) alertNotFound
  enforceTenantAccess app (.alert alert.toAlert) "execute_action" (some analyst)
  pure alertId

/-- `execute_action`; `ran` is what the integration returned or raised. -/
def executeAction (py : PyText) (app : App) (now : Timestamp) (activityId : Uuid)
    (body : ActionExecuteRequest) (ran : Except String Dict) (caller : Option Analyst)
    (s : Server) : Except Raised (Server × ActionExecuteResponse) := do
  let analyst ← requireAnalyst caller
  if body.actionName ∉ availableActions then
    pure (s, ⟨body.actionName, body.iocValue, "failed", none,
      some s!"Unknown action: {body.actionName}"⟩)
  else
    match truthy body.alertId with
    | none => pure (s, body.response ran)
    | some raw => do
        let alertId ← alertOfAction py app raw analyst s
        let answer := body.response ran
        let activities ← addActivity s.activities
          (manualAction now activityId alertId analyst body answer)
        pure ({ s with activities := activities }, answer)

end OpenSoar
