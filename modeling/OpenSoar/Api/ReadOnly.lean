/-
# `OpenSoar.Api.ReadOnly` — what an analyst who may only read can change

Every endpoint on alerts, comments, incidents, observables, playbooks and actions, as one step of
the server.  An endpoint that changes anything asks for a permission that is no `*:read`, with
three exceptions (`apiStep_granted`): `add_comment`, `edit_comment` and `execute_action` let every
analyst in, so a viewer adds and rewrites activities.  `read_only_changes_nothing_iff` says which
sequences of requests leave everything as it was.
-/
import OpenSoar.Api.Activities

namespace OpenSoar

open Python

/-! ## The endpoints -/

/-- The `GET` endpoints.  Their handlers execute `SELECT` statements only, and publish nothing. -/
inductive ReadEndpoint where
  | listAlerts | getAlert | getAlertRuns | getAlertIncidents | listAlertActivities
  | incidentSuggestions | listIncidents | getIncident | listIncidentAlerts
  | listIncidentObservables | listIncidentActivities | listIncidentTimeline
  | listObservables | getObservable
  | listPlaybooks | getPlaybook | listRuns | getRun
  | listAvailableActions

inductive ApiOp where
  | read (endpoint : ReadEndpoint)
  | updateAlert (alertId : Uuid) (update : AlertUpdate)
  | claimAlert (alertId : Uuid)
  | bulkUpdateAlerts (body : BulkAlertUpdate)
  | deleteAlert (alertId : Uuid)
  | createOrLinkIncidentForAlert (alertId : Uuid) (data : AlertIncidentRequest)
  | addComment (alertId : Uuid) (comment : String)
  | editComment (alertId commentId : Uuid) (comment : String)
  | createIncident (data : IncidentCreate)
  | updateIncident (incidentId : Uuid) (update : IncidentUpdate)
  | linkAlert (incidentId : Uuid) (alertId : String)
  | unlinkAlert (incidentId alertId : Uuid)
  | createIncidentObservable (incidentId : Uuid) (data : ObservableCreate)
  | addIncidentComment (incidentId : Uuid) (comment : String)
  | editIncidentComment (incidentId commentId : Uuid) (comment : String)
  | createObservable (data : ObservableCreate)
  | addEnrichment (observableId : Uuid) (data : EnrichmentCreate)
  | invalidateObservableEnrichment (observableId : Uuid) (source : String)
  | reloadPlaybooks (newId : String → Uuid) (declared : List RegisteredPlaybook)
  | updatePlaybook (playbookId : Uuid) (update : PlaybookUpdate)
  | runPlaybook (playbookId : Uuid) (runRequest : Option PlaybookRunRequest)
  | executeAction (body : ActionExecuteRequest) (ran : Except String Dict)

/-- A request, with the keys of the row that it is about to add and of its activities. -/
structure ApiRequest where
  now : Timestamp
  rowId : Uuid
  newId : Nat → Uuid
  op : ApiOp

/-- A handler that works on the database and answers with something. -/
def Server.onDb {α : Type} (request : ApiRequest) (handler : Db → Except Raised (Db × α))
    (s : Server) : Except Raised Server := do
  let (db, _) ← handler s.store.db
  s.absorbDb request.now request.newId db

/-- A handler that works on the store and answers with something. -/
def Server.onStore {α : Type} (request : ApiRequest)
    (handler : Store → Except Raised (Store × α)) (s : Server) : Except Raised Server := do
  let (store, _) ← handler s.store
  s.absorb request.newId store

/-- A request that writes a link. -/
def ApiRequest.linkCall (request : ApiRequest) (op : LinkOp) (caller : Option Analyst) :
    LinkCall where
  op := op
  caller := caller
  linkId := request.newId 0
  newIncidentId := request.rowId

/-- One request of the caller. -/
def apiStep (text : MentionText) (app : App) (caller : Option Analyst) (s : Server)
    (request : ApiRequest) : Except RetentionRaised Server :=
  let py := text.toPyText
  let now := request.now
  let link (op : LinkOp) : Except Raised Server :=
    s.link py app now (fun k => request.newId (k + 1)) (request.linkCall op caller)
  match request.op with
  | .read _ => .ok s
  | .updateAlert alertId update =>
      (s.onDb request (updateAlert py app now alertId update caller)).mapError .request
  | .claimAlert alertId => (s.onDb request (claimAlert app alertId caller)).mapError .request
  | .bulkUpdateAlerts body =>
      (s.onDb request (bulkUpdateAlerts app now body caller)).mapError .request
  | .deleteAlert alertId => s.deleteAlert app alertId caller
  | .createOrLinkIncidentForAlert alertId data =>
      (link (.createOrLinkIncidentForAlert alertId data)).mapError .request
  | .addComment alertId comment =>
      (addComment text app now request.rowId alertId comment caller s).mapError .request
  | .editComment alertId commentId comment =>
      (editComment text app now alertId commentId comment caller s).mapError .request
  | .createIncident data =>
      (s.createIncident py app now request.newId request.rowId data caller).mapError .request
  | .updateIncident incidentId update =>
      (s.onStore request (updateIncident py app now incidentId update caller)).mapError .request
  | .linkAlert incidentId alertId => (link (.linkAlert incidentId alertId)).mapError .request
  | .unlinkAlert incidentId alertId => (link (.unlinkAlert incidentId alertId)).mapError .request
  | .createIncidentObservable incidentId data =>
      (s.onStore request (createIncidentObservable app now request.rowId incidentId data
        caller)).mapError .request
  | .addIncidentComment incidentId comment =>
      (addIncidentComment text app now request.rowId incidentId comment caller s).mapError .request
  | .editIncidentComment incidentId commentId comment =>
      (editIncidentComment text app now incidentId commentId comment caller s).mapError .request
  | .createObservable data =>
      (s.onStore request (createObservable py app request.rowId data caller)).mapError .request
  | .addEnrichment observableId data =>
      (s.addEnrichment app observableId data caller).mapError .request
  | .invalidateObservableEnrichment observableId source =>
      (s.invalidateEnrichment app observableId source caller).mapError .request
  | .reloadPlaybooks newId declared => (s.reloadPlaybooks newId declared caller).mapError .request
  | .updatePlaybook playbookId update =>
      (s.updatePlaybook app playbookId update caller).mapError .request
  | .runPlaybook playbookId runRequest =>
      (s.runPlaybook app playbookId runRequest caller).mapError .request
  | .executeAction body ran =>
      ((executeAction py app now request.rowId body ran caller s).map Prod.fst).mapError .request

/-! ## Which endpoints ask for a permission -/

/-- A `*:read`. -/
def Permission.isRead (permission : Permission) : Bool :=
  ":read".toList.isSuffixOf permission.text.toList

/-- The role grants nothing but `*:read`. -/
def ReadOnlyRole (role : String) : Prop :=
  ∀ permission, hasPermission role permission = true → permission.isRead = true

/-- The caller has a permission to write. -/
def MayWrite (caller : Option Analyst) : Prop :=
  ∃ permission analyst, permission.isRead = false ∧
    requirePermission permission caller = .ok analyst

/-- The endpoints that ask for no permission, or for one to read. -/
def ApiOp.isOpen : ApiOp → Bool
  | .read _ => true
  | .addComment _ _ => true
  | .editComment _ _ _ => true
  | .executeAction _ _ => true
  | _ => false

theorem not_mayWrite {analyst : Analyst} (h : ReadOnlyRole analyst.role.val) :
    ¬ MayWrite (some analyst) := by
  rintro ⟨permission, analyst', hwrite, hgranted⟩
  obtain ⟨hcaller, hpermission⟩ := requirePermission_ok hgranted
  cases hcaller
  rw [h permission hpermission] at hwrite
  cases hwrite

/-- A handler that begins with a check and returns has passed the check. -/
theorem mayWrite_of_ok {α : Type} {permission : Permission} {caller : Option Analyst}
    {handler : Analyst → Except Raised α} {answer : α}
    (h : (requirePermission permission caller >>= handler) = .ok answer)
    (hwrite : permission.isRead = false) : MayWrite caller := by
  obtain ⟨analyst, hgranted, -⟩ := bind_ok h
  exact ⟨permission, analyst, hwrite, hgranted⟩

theorem onDb_ok {α : Type} {s s' : Server} {request : ApiRequest}
    {handler : Db → Except Raised (Db × α)}
    (h : (s.onDb request handler).mapError RetentionRaised.request = .ok s') :
    ∃ answer, handler s.store.db = .ok answer := by
  obtain ⟨answer, hanswer, -⟩ := bind_ok (mapError_ok h)
  exact ⟨answer, hanswer⟩

theorem onStore_ok {α : Type} {s s' : Server} {request : ApiRequest}
    {handler : Store → Except Raised (Store × α)}
    (h : (s.onStore request handler).mapError RetentionRaised.request = .ok s') :
    ∃ answer, handler s.store = .ok answer := by
  obtain ⟨answer, hanswer, -⟩ := bind_ok (mapError_ok h)
  exact ⟨answer, hanswer⟩

/-- The check of `create_or_link_incident_for_alert` depends on the body. -/
theorem mayWrite_of_incidentToLink {py : PyText} {app : App} {data : AlertIncidentRequest}
    {newIncidentId : Uuid} {analyst : Analyst} {db : LinkDb} {answer : Incident × Bool}
    (h : incidentToLink py app data newIncidentId analyst db = .ok answer) :
    MayWrite (some analyst) := by
  simp only [incidentToLink] at h
  split at h
  · exact mayWrite_of_ok h rfl
  · exact mayWrite_of_ok h rfl

theorem mayWrite_of_link {py : PyText} {app : App} {now : Timestamp} {newId : Nat → Uuid}
    {call : LinkCall} {s s' : Server}
    (h : (s.link py app now newId call).mapError RetentionRaised.request = .ok s') :
    MayWrite call.caller := by
  obtain ⟨found, hread, -⟩ := bind_ok (mapError_ok h)
  rw [LinkCall.read] at hread
  split at hread
  · exact mayWrite_of_ok hread rfl
  · obtain ⟨analyst, hcaller, hread⟩ := bind_ok hread
    obtain ⟨-, -, hread⟩ := bind_ok hread
    obtain ⟨alert, -, hread⟩ := bind_ok hread
    obtain ⟨-, -, hread⟩ := bind_ok hread
    obtain ⟨answer, hincident, -⟩ := bind_ok hread
    rw [orRaise_ok hcaller]
    exact mayWrite_of_incidentToLink hincident
  · exact mayWrite_of_ok hread rfl

/-- **Every other endpoint asks for a permission to write.** -/
theorem apiStep_granted {text : MentionText} {app : App} {caller : Option Analyst}
    {s s' : Server} {request : ApiRequest} (h : apiStep text app caller s request = .ok s')
    (hclosed : request.op.isOpen = false) : MayWrite caller := by
  obtain ⟨now, rowId, newId, op⟩ := request
  cases op with
  | read endpoint => cases hclosed
  | addComment alertId comment => cases hclosed
  | editComment alertId commentId comment => cases hclosed
  | executeAction body ran => cases hclosed
  | updateAlert alertId update =>
      obtain ⟨answer, h⟩ := onDb_ok h
      exact mayWrite_of_ok h rfl
  | claimAlert alertId =>
      obtain ⟨answer, h⟩ := onDb_ok h
      exact mayWrite_of_ok h rfl
  | bulkUpdateAlerts body =>
      obtain ⟨answer, h⟩ := onDb_ok h
      exact mayWrite_of_ok h rfl
  | deleteAlert alertId =>
      obtain ⟨store, hdelete, -⟩ := bind_ok h
      obtain ⟨analyst, hgranted, -⟩ := bind_ok hdelete
      exact ⟨.alertsDelete, analyst, rfl, mapError_ok hgranted⟩
  | createOrLinkIncidentForAlert alertId data => exact mayWrite_of_link h
  | linkAlert incidentId alertId => exact mayWrite_of_link h
  | unlinkAlert incidentId alertId => exact mayWrite_of_link h
  | createIncident data =>
      obtain ⟨answer, hcreate, -⟩ := bind_ok (mapError_ok h)
      exact mayWrite_of_ok hcreate rfl
  | updateIncident incidentId update =>
      obtain ⟨answer, h⟩ := onStore_ok h
      exact mayWrite_of_ok h rfl
  | createIncidentObservable incidentId data =>
      obtain ⟨answer, h⟩ := onStore_ok h
      exact mayWrite_of_ok h rfl
  | createObservable data =>
      obtain ⟨answer, h⟩ := onStore_ok h
      exact mayWrite_of_ok h rfl
  | addIncidentComment incidentId comment => exact mayWrite_of_ok (mapError_ok h) rfl
  | editIncidentComment incidentId commentId comment => exact mayWrite_of_ok (mapError_ok h) rfl
  | addEnrichment observableId data =>
      obtain ⟨obs, hload, -⟩ := bind_ok (mapError_ok h)
      exact mayWrite_of_ok hload rfl
  | invalidateObservableEnrichment observableId source =>
      obtain ⟨answer, hinvalidate, -⟩ := bind_ok (mapError_ok h)
      exact mayWrite_of_ok hinvalidate rfl
  | reloadPlaybooks newId declared =>
      obtain ⟨answer, hreload, -⟩ := bind_ok (mapError_ok h)
      exact mayWrite_of_ok hreload rfl
  | updatePlaybook playbookId update =>
      obtain ⟨db, hupdate, -⟩ := bind_ok (mapError_ok h)
      exact mayWrite_of_ok hupdate rfl
  | runPlaybook playbookId runRequest =>
      obtain ⟨task, hrun, -⟩ := bind_ok (mapError_ok h)
      exact mayWrite_of_ok hrun rfl

/-! ## What the other three write -/

/-- The comment of the analyst that `edit_comment` loads. -/
structure ActivityEntry.IsOwnComment (activity : ActivityEntry) (alertId : Uuid)
    (analyst : Analyst) : Prop where
  alert : activity.alertId = some alertId
  action : activity.action.val = "comment"
  author : activity.analystId = some analyst.id

/-- An edit to this text, with these mentions, has a column to write. -/
def ActivityEntry.ChangedBy (activity : ActivityEntry) (comment : String)
    (mentions : List String) : Prop :=
  (activity.metadataJson.getD []).lookup "edit_history" = none ∨
    activity.detail ≠ some comment ∨ activity.mentions ≠ some mentions

/-- The request is one of the three that ask for no permission, passes their checks and has a row
to write. -/
def Writes (text : MentionText) (app : App) (analyst : Analyst) (s : Server)
    (request : ApiRequest) : Prop :=
  match request.op with
  | .addComment alertId comment =>
      alertToComment app alertId analyst s = .ok () ∧
        Returns (resolveCommentMentions text app s.analysts.rows comment (some analyst)) ∧
        s.activities.find? request.rowId = none
  | .editComment alertId commentId comment =>
      alertToComment app alertId analyst s = .ok () ∧ ∃ activity resolved,
        s.activities.find? commentId = some activity ∧ activity.IsOwnComment alertId analyst ∧
        Returns (editHistory activity.metadataJson) ∧
        resolveCommentMentions text app s.analysts.rows comment (some analyst) = .ok resolved ∧
        activity.ChangedBy comment (resolved.map (·.username))
  | .executeAction body _ =>
      body.actionName ∈ availableActions ∧ ∃ raw, truthy body.alertId = some raw ∧
        Returns (alertOfAction text.toPyText app raw analyst s) ∧
        s.activities.find? request.rowId = none
  | _ => False

section Comments

variable {text : MentionText} {app : App} {now : Timestamp} {analyst : Analyst} {s s' : Server}

theorem addActivity_ok {activities activities' : Table ActivityEntry.key} {entry : ActivityEntry}
    (h : addActivity activities entry = .ok activities') :
    activities.find? entry.id = none ∧ activities' ≠ activities := by
  obtain ⟨hnew, hrows⟩ := Table.insert?_some (orRaise_ok h)
  refine ⟨hnew, ?_⟩
  rintro rfl
  have hlength := congrArg List.length hrows
  rw [List.length_append, List.length_singleton] at hlength
  omega

theorem addActivity_returns {activities : Table ActivityEntry.key} (entry : ActivityEntry)
    (h : activities.find? entry.id = none) : Returns (addActivity activities entry) := by
  obtain ⟨activities', hinsert⟩ := Table.insert?_of_find? h
  exact ⟨activities', by rw [addActivity, hinsert]; rfl⟩

/-- An edit that has nothing to write leaves the row as it is. -/
theorem edited_eq {activity : ActivityEntry} {history : List Json} {comment : String}
    {mentions : List String} (h : ¬ activity.ChangedBy comment mentions) :
    activity.edited now history comment mentions = activity := by
  obtain ⟨hhistory, hrest⟩ := not_or.mp h
  obtain ⟨hdetail, hmentions⟩ := not_or.mp hrest
  have hdetail := not_not.mp hdetail
  have hmentions := not_not.mp hmentions
  have hkept : flushedMetadata activity.metadataJson history = none := by
    rw [flushedMetadata, if_pos (Option.isSome_iff_ne_none.mpr hhistory)]
  simp only [ActivityEntry.edited, hkept, hdetail, hmentions, ne_eq, not_true_eq_false,
    decide_false, Option.isSome_none, Bool.or_self, Bool.false_eq_true, if_false]
  rw [← hdetail, ← hmentions]
  rfl

/-- An edit that has something to write does not. -/
theorem edited_ne {activity : ActivityEntry} {history : List Json} {comment : String}
    {mentions : List String} (h : activity.ChangedBy comment mentions) :
    activity.edited now history comment mentions ≠ activity := by
  intro hsame
  rcases h with hhistory | hdetail | hmentions
  · have hmetadata := congrArg (fun row => row.metadataJson) hsame
    have hwritten : flushedMetadata activity.metadataJson history
        = some ((activity.metadataJson.getD []) ++ [("edit_history", .arr history)]) := by
      rw [flushedMetadata, hhistory]
      rfl
    simp only [ActivityEntry.edited, hwritten] at hmetadata
    have hmetadata : some ((activity.metadataJson.getD []) ++ [("edit_history", .arr history)])
        = activity.metadataJson := hmetadata
    have hlength := congrArg (fun d => (Option.getD d []).length) hmetadata
    simp only [Option.getD_some, List.length_append, List.length_singleton] at hlength
    omega
  · exact hdetail (congrArg (fun row => row.detail) hsame).symm
  · exact hmentions (congrArg (fun row => row.mentions) hsame).symm

theorem requireAnalyst_some (analyst : Analyst) : requireAnalyst (some analyst) = .ok analyst :=
  rfl

/-- A comment that goes through adds a row. -/
theorem comment_ok {commentId : Uuid} {alertId incidentId : Option Uuid} {comment : String}
    (h : s.comment text app now commentId alertId incidentId comment analyst = .ok s') :
    Returns (resolveCommentMentions text app s.analysts.rows comment (some analyst)) ∧
      s.activities.find? commentId = none ∧ s'.activities ≠ s.activities := by
  obtain ⟨resolved, hresolved, h⟩ := bind_ok h
  obtain ⟨activities, hadd, h⟩ := bind_ok h
  cases h
  obtain ⟨hnew, hmore⟩ := addActivity_ok hadd
  exact ⟨⟨resolved, hresolved⟩, hnew, hmore⟩

theorem comment_returns (now : Timestamp) {commentId : Uuid} (alertId incidentId : Option Uuid)
    {comment : String}
    (hresolved : Returns (resolveCommentMentions text app s.analysts.rows comment (some analyst)))
    (hnew : s.activities.find? commentId = none) :
    Returns (s.comment text app now commentId alertId incidentId comment analyst) := by
  obtain ⟨resolved, hresolved⟩ := hresolved
  obtain ⟨activities, hadd⟩ := addActivity_returns
    (newComment now commentId alertId incidentId analyst comment resolved) hnew
  refine ⟨{ s with activities := activities }, ?_⟩
  rw [Server.comment, bind_of_ok hresolved, bind_of_ok hadd]
  rfl

/-- What an edit that goes through has found, and the row it leaves. -/
theorem editComment_found {commentId : Uuid} {isOn : ActivityEntry → Bool} {comment : String}
    (h : s.editComment text app now commentId isOn comment analyst = .ok s') :
    ∃ activity history resolved, s.activities.find? commentId = some activity ∧
      (isOn activity = true ∧ activity.action.val = "comment" ∧
        activity.analystId = some analyst.id) ∧
      editHistory activity.metadataJson = .ok history ∧
      resolveCommentMentions text app s.analysts.rows comment (some analyst) = .ok resolved ∧
      s' = { s with activities := s.activities.set (activity.edited now
        (history ++ [activity.edit]) comment (resolved.map (·.username))) } := by
  obtain ⟨activity, hfound, h⟩ := bind_ok h
  obtain ⟨hfound, hcomment⟩ := Option.filter_eq_some_iff.mp (orRaise_ok hfound)
  obtain ⟨hon, haction⟩ := (Bool.and_eq_true _ _).mp hcomment
  split at h
  · cases h
  · rename_i hauthor
    obtain ⟨history, hhistory, h⟩ := bind_ok h
    obtain ⟨resolved, hresolved, h⟩ := bind_ok h
    cases h
    exact ⟨activity, history, resolved, hfound,
      ⟨hon, of_decide_eq_true haction, not_not.mp hauthor⟩, hhistory, hresolved, rfl⟩

theorem editComment_ok {alertId commentId : Uuid} {comment : String}
    (h : s.editComment text app now commentId (fun activity => activity.alertId = some alertId)
      comment analyst = .ok s') :
    ∃ activity history resolved, s.activities.find? commentId = some activity ∧
      activity.IsOwnComment alertId analyst ∧ editHistory activity.metadataJson = .ok history ∧
      resolveCommentMentions text app s.analysts.rows comment (some analyst) = .ok resolved ∧
      s' = { s with activities := s.activities.set (activity.edited now
        (history ++ [activity.edit]) comment (resolved.map (·.username))) } := by
  obtain ⟨activity, history, resolved, hfound, ⟨hon, haction, hauthor⟩, hrest⟩ :=
    editComment_found h
  exact ⟨activity, history, resolved, hfound, ⟨of_decide_eq_true hon, haction, hauthor⟩, hrest⟩

theorem editComment_returns (now : Timestamp) {alertId commentId : Uuid} {comment : String}
    {activity : ActivityEntry} (hfound : s.activities.find? commentId = some activity)
    (hown : activity.IsOwnComment alertId analyst)
    (hhistory : Returns (editHistory activity.metadataJson))
    (hresolved : Returns (resolveCommentMentions text app s.analysts.rows comment (some analyst))) :
    Returns (s.editComment text app now commentId (fun activity => activity.alertId = some alertId)
      comment analyst) := by
  obtain ⟨history, hhistory⟩ := hhistory
  obtain ⟨resolved, hresolved⟩ := hresolved
  have hload : orRaise ((s.activities.find? commentId).filter (fun activity =>
      decide (activity.alertId = some alertId) && decide (activity.action.val = "comment")))
      (.httpException 404 "Comment not found") = .ok activity := by
    rw [hfound, Option.filter_some_pos]
    · rfl
    · rw [hown.alert, hown.action]
      simp only [decide_true, Bool.and_self]
  rw [Server.editComment, bind_of_ok hload, if_neg (not_not.mpr hown.author), bind_of_ok hhistory,
    bind_of_ok hresolved]
  exact ⟨_, rfl⟩

/-- The table changes just when the row does. -/
theorem set_edited {activity : ActivityEntry} {commentId : Uuid} {history : List Json}
    {comment : String} {mentions : List String}
    (hfound : s.activities.find? commentId = some activity) :
    s.activities.set (activity.edited now history comment mentions) = s.activities ↔
      activity.edited now history comment mentions = activity := by
  have hkey : activity.key = commentId := Table.find?_key hfound
  have hkey' : (activity.edited now history comment mentions).key = commentId := hkey
  constructor
  · intro hsame
    have hafter := Table.find?_set_self (hkey' ▸ hfound)
    rw [hsame, hkey', hfound] at hafter
    exact (Option.some.inj hafter).symm
  · intro hsame
    rw [hsame]
    exact Table.set_stored (hkey ▸ hfound)

/-- An action that goes through adds a row, or leaves the server as it is. -/
theorem executeAction_ok {py : PyText} {activityId : Uuid} {body : ActionExecuteRequest}
    {ran : Except String Dict} {answer : Server × ActionExecuteResponse}
    (h : executeAction py app now activityId body ran (some analyst) s = .ok answer) :
    answer.1 = s ∨ (body.actionName ∈ availableActions ∧ ∃ raw,
      truthy body.alertId = some raw ∧ Returns (alertOfAction py app raw analyst s) ∧
      s.activities.find? activityId = none) := by
  obtain ⟨analyst', hcaller, h⟩ := bind_ok h
  cases hcaller
  split at h
  · cases h
    exact Or.inl rfl
  · rename_i hknown
    split at h
    · cases h
      exact Or.inl rfl
    · rename_i raw hraw
      obtain ⟨alertId, halert, h⟩ := bind_ok h
      obtain ⟨activities, hadd, h⟩ := bind_ok h
      exact Or.inr ⟨not_not.mp hknown, raw, hraw, ⟨alertId, halert⟩, (addActivity_ok hadd).1⟩

theorem executeAction_writes (now : Timestamp) {py : PyText} {activityId : Uuid}
    {body : ActionExecuteRequest} {raw : String} (ran : Except String Dict)
    (hknown : body.actionName ∈ availableActions)
    (hraw : truthy body.alertId = some raw)
    (halert : Returns (alertOfAction py app raw analyst s))
    (hnew : s.activities.find? activityId = none) :
    ∃ answer, executeAction py app now activityId body ran (some analyst) s = .ok answer ∧
      answer.1.activities ≠ s.activities := by
  obtain ⟨alertId, halert⟩ := halert
  obtain ⟨activities, hadd⟩ := addActivity_returns
    (manualAction now activityId alertId analyst body (body.response ran)) hnew
  refine ⟨({ s with activities := activities }, body.response ran), ?_, (addActivity_ok hadd).2⟩
  show (if body.actionName ∉ availableActions then _ else _) = _
  rw [if_neg (not_not.mpr hknown), hraw]
  dsimp only
  rw [bind_of_ok halert, bind_of_ok hadd]
  rfl

end Comments

/-! ## What a sequence of requests changes -/

/-- The tables hold the same rows, and nothing more has been published. -/
structure Unchanged (s s' : Server) : Prop where
  alerts : s'.alerts = s.alerts
  incidents : s'.incidents = s.incidents
  observables : s'.observables = s.observables
  links : s'.links = s.links
  playbooks : s'.playbooks = s.playbooks
  activities : s'.activities = s.activities
  broker : s'.broker = s.broker

section ReadOnly

variable (text : MentionText) (app : App) {analyst : Analyst}

/-- A request that writes nothing leaves the server as it is. -/
theorem attempt_of_not_writes (hrole : ReadOnlyRole analyst.role.val) {s : Server}
    {request : ApiRequest} (hquiet : ¬ Writes text app analyst s request) :
    attempt (apiStep text app (some analyst)) s request = s := by
  refine attempt_inv _ (P := fun s' => s' = s) rfl ?_
  intro s' h
  cases hopen : request.op.isOpen with
  | false => exact absurd (apiStep_granted h hopen) (not_mayWrite hrole)
  | true =>
      obtain ⟨now, rowId, newId, op⟩ := request
      cases op with
      | read endpoint =>
          cases h
          rfl
      | addComment alertId comment =>
          obtain ⟨analyst', hcaller, h⟩ := bind_ok (mapError_ok h)
          cases hcaller
          obtain ⟨⟨⟩, halert, h⟩ := bind_ok h
          obtain ⟨hresolved, hnew, -⟩ := comment_ok h
          exact absurd ⟨halert, hresolved, hnew⟩ hquiet
      | editComment alertId commentId comment =>
          obtain ⟨analyst', hcaller, h⟩ := bind_ok (mapError_ok h)
          cases hcaller
          obtain ⟨⟨⟩, halert, h⟩ := bind_ok h
          obtain ⟨activity, history, resolved, hfound, hown, hhistory, hresolved, rfl⟩ :=
            editComment_ok h
          have hsame : ¬ activity.ChangedBy comment (resolved.map (·.username)) := by
            intro hchanged
            exact hquiet ⟨halert, activity, resolved, hfound, hown, ⟨history, hhistory⟩,
              hresolved, hchanged⟩
          rw [(set_edited hfound).mpr (edited_eq hsame)]
      | executeAction body ran =>
          obtain ⟨answer, hrun, rfl⟩ := map_ok (mapError_ok h)
          exact (executeAction_ok hrun).resolve_right hquiet
      | _ => cases hopen

/-- A request that writes changes the table of the activities. -/
theorem activities_attempt_ne {s : Server} {request : ApiRequest}
    (hwrites : Writes text app analyst s request) :
    (attempt (apiStep text app (some analyst)) s request).activities ≠ s.activities := by
  obtain ⟨now, rowId, newId, op⟩ := request
  cases op with
  | addComment alertId comment =>
      obtain ⟨halert, hresolved, hnew⟩ := hwrites
      obtain ⟨s', h⟩ := comment_returns now (some alertId) none hresolved hnew
      have hstep : apiStep text app (some analyst) s
          ⟨now, rowId, newId, .addComment alertId comment⟩ = .ok s' := by
        show Except.mapError _ (addComment text app now rowId alertId comment (some analyst) s) = _
        rw [addComment, bind_of_ok (requireAnalyst_some analyst), bind_of_ok halert, h]
        rfl
      rw [attempt_ok _ hstep]
      exact (comment_ok h).2.2
  | editComment alertId commentId comment =>
      obtain ⟨halert, activity, resolved, hfound, hown, hhistory, hresolved, hchanged⟩ := hwrites
      obtain ⟨s', h⟩ := editComment_returns now hfound hown hhistory ⟨resolved, hresolved⟩
      have hstep : apiStep text app (some analyst) s
          ⟨now, rowId, newId, .editComment alertId commentId comment⟩ = .ok s' := by
        show Except.mapError _ (editComment text app now alertId commentId comment (some analyst) s)
          = _
        rw [editComment, bind_of_ok (requireAnalyst_some analyst), bind_of_ok halert, h]
        rfl
      rw [attempt_ok _ hstep]
      obtain ⟨activity', history, resolved', hfound', -, -, hresolved', rfl⟩ := editComment_ok h
      cases hfound.symm.trans hfound'
      cases hresolved.symm.trans hresolved'
      intro hsame
      exact edited_ne hchanged ((set_edited hfound).mp hsame)
  | executeAction body ran =>
      obtain ⟨hknown, raw, hraw, halert, hnew⟩ := hwrites
      obtain ⟨answer, h, hmore⟩ := executeAction_writes now ran hknown hraw halert hnew
      have hstep : apiStep text app (some analyst) s
          ⟨now, rowId, newId, .executeAction body ran⟩ = .ok answer.1 := by
        show Except.mapError _ (Except.map Prod.fst
          (executeAction text.toPyText app now rowId body ran (some analyst) s)) = _
        rw [h]
        rfl
      rw [attempt_ok _ hstep]
      exact hmore
  | _ => exact hwrites.elim

/-- **What an analyst who may only read changes.**  Every sequence of the analyst's requests, to
whatever endpoints, leaves all rows and the broker as they were throughout, if and only if none of
them is a comment, an edit of an own comment or an action on an alert that passes the checks of
its handler and has a row to write. -/
theorem read_only_changes_nothing_iff (hrole : ReadOnlyRole analyst.role.val) (s : Server)
    (requests : List ApiRequest) :
    (∀ n, Unchanged s (run (apiStep text app (some analyst)) s (requests.take n))) ↔
      Along (apiStep text app (some analyst))
        (fun s request => ¬ Writes text app analyst s request) s requests := by
  refine throughout_iff _ (P := Unchanged s) ?_ requests s ⟨rfl, rfl, rfl, rfl, rfl, rfl, rfl⟩
  intro now request hnow
  constructor
  · intro hnext hwrites
    exact activities_attempt_ne text app hwrites (hnext.activities.trans hnow.activities.symm)
  · intro hquiet
    rw [attempt_of_not_writes text app hrole hquiet]
    exact hnow

end ReadOnly

/-! ## A viewer -/

def viewer : Analyst :=
  ⟨8, .lit "vera", .lit "Vera", true, .lit "viewer"⟩

theorem readOnlyRole_viewer : ReadOnlyRole viewer.role.val := by
  intro permission
  cases permission <;> decide

/-- One alert, which the viewer may look at. -/
def beaconServer : Server :=
  { Server.empty with
    alerts := ⟨[{ acmeBeacon with createdAt := 0, archivedAt := none }], by decide⟩
    analysts := ⟨[viewer], by decide⟩ }

def requestOf (op : ApiOp) : ApiRequest := ⟨0, 5, fun k => 6 + k, op⟩

/-- The viewer comments on the alert. -/
theorem viewer_comments :
    ¬ ∀ text app analyst s requests, ReadOnlyRole analyst.role.val →
      Unchanged s (run (apiStep text app (some analyst)) s requests) := by
  intro h
  have hsame := h .ascii .core viewer beaconServer [requestOf (.addComment 1 "seen")]
    readOnlyRole_viewer
  have hlength := congrArg (fun table => table.rows.length) hsame.activities
  revert hlength
  decide +kernel

/-- Looking at the alert, updating it and resolving a domain. -/
def threeRequests : List ApiRequest :=
  [requestOf (.read .getAlert), requestOf (.updateAlert 1 .none),
    requestOf (.executeAction ⟨"dns_resolve", "domains", "example.com", none⟩ (.ok []))]

theorem read_only_changes_nothing_iff_three_requests :
    Unchanged beaconServer
      (run (apiStep .ascii .core (some viewer)) beaconServer threeRequests) := by
  refine (read_only_changes_nothing_iff .ascii .core readOnlyRole_viewer beaconServer
    threeRequests).mpr ?_ 3
  refine ⟨id, id, ?_, trivial⟩
  rintro ⟨-, raw, hraw, -⟩
  cases hraw

end OpenSoar
