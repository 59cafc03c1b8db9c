/-
# `OpenSoar.Comments.Notifications` — who is told that a comment mentions them

`notifications.py`, and the calls of `dispatch_mention_notifications` in `api/activities.py` and
`api/incidents.py`.  A new comment notifies everyone it mentions, an edit only those whom the
version before it did not mention; the hooks that plugins have registered get one notification
after the other.

`notified_at_rising_edges` is about whole runs of API requests: what has been dispatched about a
comment to a username are its rising edges, the requests after which a version of the comment
mentions the username and before which none did.  `dispatch_complete_iff` is about one dispatch:
an exception of a hook is logged, and keeps no other hook from its notifications.  What a hook
registers or removes counts from the next notification on.
-/
import OpenSoar.Api.EditHistory

namespace OpenSoar

open Python

/-! ## The notifications of a request -/

structure MentionNotification where
  recipientUsername : String
  recipientId : Uuid
  actorUsername : String
  resourceType : String
  resourceId : String
  commentId : String
  commentText : String

/-- What `_notify_mentions` dispatches. -/
def mentionNotifications (actor : Analyst) (resourceType : String) (resourceId commentId : Uuid)
    (comment : String) (mentions : List ResolvedMention) : List MentionNotification :=
  mentions.map (fun m =>
    { recipientUsername := m.username
      recipientId := m.analystId
      actorUsername := actor.username.val
      resourceType := resourceType
      resourceId := resourceId.toText
      commentId := commentId.toText
      commentText := comment })

/-- `new_mentions` of an edit: those whom the version before it did not mention. -/
def newMentions (previous : Option (List String)) (resolved : List ResolvedMention) :
    List ResolvedMention :=
  resolved.filter (fun m => decide (m.username ∉ previous.getD []))

section Requests

variable (text : MentionText) (app : App) (s : Server)

/-- The notifications of a new comment. -/
def addedNotifications (actor : Option Analyst) (resourceType : String)
    (resourceId commentId : Uuid) (comment : String) :
    Except Raised (List MentionNotification) := do
  let actor ← requireAnalyst actor
  let resolved ← resolveCommentMentions text app s.analysts.rows comment (some actor)
  pure (mentionNotifications actor resourceType resourceId commentId comment resolved)

/-- The notifications of an edit, from the version that it replaces. -/
def editedNotifications (actor : Option Analyst) (resourceType : String)
    (resourceId commentId : Uuid) (comment : String) :
    Except Raised (List MentionNotification) := do
  let actor ← requireAnalyst actor
  let resolved ← resolveCommentMentions text app s.analysts.rows comment (some actor)
  let previous := (s.activities.find? commentId).bind ActivityEntry.mentions
  pure (mentionNotifications actor resourceType resourceId commentId comment
    (newMentions previous resolved))

/-- What a request that goes through dispatches, seen from the server that it meets. -/
def requestNotifications (caller : Option Analyst) (request : ApiRequest) :
    Except Raised (List MentionNotification) :=
  match request.op with
  | .addComment alertId comment =>
      addedNotifications text app s caller "alert" alertId request.rowId comment
  | .addIncidentComment incidentId comment =>
      addedNotifications text app s caller "incident" incidentId request.rowId comment
  | .editComment alertId commentId comment =>
      editedNotifications text app s caller "alert" alertId commentId comment
  | .editIncidentComment incidentId commentId comment =>
      editedNotifications text app s caller "incident" incidentId commentId comment
  | _ => .ok []

end Requests

/-- The server, and the notifications that have been dispatched. -/
structure NotifyingServer where
  server : Server
  dispatched : List MentionNotification

structure NotifyingRequest where
  caller : Option Analyst
  request : ApiRequest

/-- One request; the notifications follow its commit. -/
def notifyingStep (text : MentionText) (app : App) (s : NotifyingServer)
    (call : NotifyingRequest) : Except RetentionRaised NotifyingServer := do
  let server ← apiStep text app call.caller s.server call.request
  let sent ← (requestNotifications text app s.server call.caller call.request).mapError .request
  pure ⟨server, s.dispatched ++ sent⟩

/-! ## Mentions of a comment -/

/-- The version of the comment that is there mentions the username. -/
def Server.mentions (s : Server) (commentId : Uuid) (username : String) : Bool :=
  ((s.activities.find? commentId).bind ActivityEntry.mentions).any (fun usernames =>
    decide (username ∈ usernames))

/-- The notification is about the comment, and to the username. -/
def MentionNotification.isFor (commentId : Uuid) (username : String)
    (notification : MentionNotification) : Bool :=
  decide (notification.commentId = commentId.toText ∧ notification.recipientUsername = username)

/-- How many of the notifications are about the comment and to the username. -/
def countFor (commentId : Uuid) (username : String) (sent : List MentionNotification) : Nat :=
  sent.countP (MentionNotification.isFor commentId username)

section Resolved

variable {text : MentionText} {app : App}

/-- The usernames that the loop resolves are some of the tokens, in their order. -/
theorem foldlM_resolveMention_usernames {candidates : List Analyst} {caller : Option Analyst}
    {tokens : List String} {resolved resolved' : List ResolvedMention}
    (h : tokens.foldlM (resolveMention text app candidates caller) resolved = .ok resolved') :
    ∃ kept, kept.Sublist tokens ∧
      resolved'.map ResolvedMention.username = resolved.map ResolvedMention.username ++ kept := by
  induction tokens generalizing resolved with
  | nil =>
      cases h
      exact ⟨[], List.Sublist.refl [], (List.append_nil _).symm⟩
  | cons token tokens ih =>
      rw [List.foldlM_cons] at h
      obtain ⟨next, hnext, hrest⟩ := bind_ok h
      obtain ⟨kept, hkept, hnames⟩ := ih hrest
      rw [resolveMention] at hnext
      split at hnext
      · cases hnext
        exact ⟨kept, hkept.cons token, hnames⟩
      · rename_i target htarget
        split at hnext
        · cases hnext
          have hname : target.lowered text = token :=
            of_decide_eq_true (List.mem_filter.mp (List.mem_of_getLast? htarget)).2
          refine ⟨token :: kept, hkept.cons_cons token, ?_⟩
          rw [hnames, List.map_append, List.append_assoc, ← hname]
          rfl
        · cases hnext
          exact ⟨kept, hkept.cons token, hnames⟩
        · cases hnext

/-- Nobody is mentioned twice. -/
theorem nodup_resolved {analysts : List Analyst} {comment : String} {caller : Option Analyst}
    {resolved : List ResolvedMention}
    (h : resolveCommentMentions text app analysts comment caller = .ok resolved) :
    (resolved.map ResolvedMention.username).Nodup := by
  obtain ⟨kept, hkept, hnames⟩ := foldlM_resolveMention_usernames h
  rw [hnames]
  have hdistinct := nodup_distinctOn id ((parseMentionTokens text comment).map
    (fun u => String.ofList (text.lower u.toList)))
  rw [List.map_id] at hdistinct
  exact hdistinct.sublist hkept

end Resolved

/-! ## One request -/

section Counts

variable {commentId : Uuid} {username : String}

theorem mentions_eq_true_iff {s : Server} :
    s.mentions commentId username = true ↔ ∃ row usernames,
      s.activities.find? commentId = some row ∧ row.mentions = some usernames ∧
        username ∈ usernames := by
  simp only [Server.mentions, Option.any_eq_true, Option.bind_eq_some_iff, decide_eq_true_eq]
  constructor
  · rintro ⟨usernames, ⟨row, hrow, hmentions⟩, hmem⟩
    exact ⟨row, usernames, hrow, hmentions, hmem⟩
  · rintro ⟨row, usernames, hrow, hmentions, hmem⟩
    exact ⟨usernames, ⟨row, hrow, hmentions⟩, hmem⟩

/-- How often a username that is resolved once is notified. -/
theorem countFor_mentionNotifications {actor : Analyst} {resourceType comment : String}
    {resourceId other : Uuid} {mentions : List ResolvedMention}
    (hnodup : (mentions.map ResolvedMention.username).Nodup) :
    countFor commentId username
        (mentionNotifications actor resourceType resourceId other comment mentions) =
      if other = commentId ∧ username ∈ mentions.map ResolvedMention.username then 1 else 0 := by
  rw [countFor, mentionNotifications, List.countP_map]
  by_cases hid : other = commentId
  · have hcount : mentions.countP (fun m => decide (m.username = username)) =
        (mentions.map ResolvedMention.username).count username := by
      rw [List.count, List.countP_map]
      exact List.countP_congr (fun m _ => by simp)
    rw [List.countP_congr (q := fun m => decide (m.username = username)), hcount, hnodup.count]
    · simp only [hid, true_and]
    · intro m _
      simp [MentionNotification.isFor, hid]
  · have htext : other.toText ≠ commentId.toText := fun h => hid (Uuid.toText_injective h)
    rw [if_neg (fun h => hid h.1)]
    refine List.countP_eq_zero.mpr (fun m _ => ?_)
    simp [MentionNotification.isFor, htext]

/-- No comment mentions anyone that it did not mention before. -/
def Quiet (s s' : Server) : Prop :=
  ∀ commentId username, s'.mentions commentId username = true →
    s.mentions commentId username = true

theorem quiet_of_eq {s s' : Server} (h : s'.activities = s.activities) : Quiet s s' := by
  intro commentId username hmentions
  rwa [Server.mentions, h] at hmentions

/-- Rows that mention nobody are added. -/
theorem quiet_of_added {s s' : Server} {added : List ActivityEntry}
    (h : s'.activities.rows = s.activities.rows ++ added)
    (hadded : ∀ row ∈ added, row.mentions = none) : Quiet s s' := by
  intro commentId username hmentions
  obtain ⟨row, usernames, hrow, hsome, hmem⟩ := mentions_eq_true_iff.mp hmentions
  have hin := Table.mem_of_find? hrow
  rw [h, List.mem_append] at hin
  rcases hin with hold | hnew
  · have hkey : row.key = commentId := Table.find?_key hrow
    exact mentions_eq_true_iff.mpr
      ⟨row, usernames, hkey ▸ Table.find?_of_mem hold, hsome, hmem⟩
  · rw [hadded row hnew] at hsome
    cases hsome

theorem absorb_quiet {s s' : Server} {newId : Nat → Uuid} {store : Store}
    (h : s.absorb newId store = .ok s') : Quiet s s' := by
  obtain ⟨activities, hfold, h⟩ := bind_ok h
  cases h
  refine quiet_of_added (foldlM_addActivity hfold) (fun row hrow => ?_)
  obtain ⟨numbered, -, rfl⟩ := List.mem_map.mp hrow
  rfl

theorem onDb_quiet {α : Type} {s s' : Server} {request : ApiRequest}
    {handler : Db → Except Raised (Db × α)}
    (h : (s.onDb request handler).mapError RetentionRaised.request = .ok s') : Quiet s s' := by
  obtain ⟨answer, -, h⟩ := bind_ok (mapError_ok h)
  exact absorb_quiet h

theorem onStore_quiet {α : Type} {s s' : Server} {request : ApiRequest}
    {handler : Store → Except Raised (Store × α)}
    (h : (s.onStore request handler).mapError RetentionRaised.request = .ok s') :
    Quiet s s' := by
  obtain ⟨answer, -, h⟩ := bind_ok (mapError_ok h)
  exact absorb_quiet h

theorem link_quiet {py : PyText} {app : App} {now : Timestamp} {newId : Nat → Uuid}
    {call : LinkCall} {s s' : Server}
    (h : (s.link py app now newId call).mapError RetentionRaised.request = .ok s') :
    Quiet s s' := by
  obtain ⟨found, -, h⟩ := bind_ok (mapError_ok h)
  obtain ⟨db, -, h⟩ := bind_ok h
  obtain ⟨after, hafter, h⟩ := bind_ok h
  cases h
  have hquiet : Quiet s after := absorb_quiet hafter
  exact fun commentId username hmentions => hquiet commentId username hmentions

theorem executeAction_quiet {py : PyText} {app : App} {now : Timestamp} {activityId : Uuid}
    {body : ActionExecuteRequest} {ran : Except String Dict} {caller : Option Analyst}
    {s : Server} {answer : Server × ActionExecuteResponse}
    (h : executeAction py app now activityId body ran caller s = .ok answer) :
    Quiet s answer.1 := by
  obtain ⟨analyst, -, h⟩ := bind_ok h
  split at h
  · cases h
    exact quiet_of_eq rfl
  · split at h
    · cases h
      exact quiet_of_eq rfl
    · obtain ⟨alertId, -, h⟩ := bind_ok h
      obtain ⟨activities, hadd, h⟩ := bind_ok h
      cases h
      refine quiet_of_added (Table.insert?_some (orRaise_ok hadd)).2 (fun row hrow => ?_)
      rw [List.mem_singleton.mp hrow]
      rfl

/-- The version after the request mentions the username, and the one before it did not. -/
def RisingEdge (s s' : Server) (commentId : Uuid) (username : String) : Prop :=
  s.mentions commentId username = false ∧ s'.mentions commentId username = true

instance (s s' : Server) : Decidable (RisingEdge s s' commentId username) :=
  inferInstanceAs (Decidable (_ ∧ _))

theorem Quiet.no_edge {s s' : Server} (h : Quiet s s') :
    ¬ RisingEdge s s' commentId username := by
  rintro ⟨hbefore, hafter⟩
  rw [h commentId username hafter] at hbefore
  cases hbefore

/-- A new comment: its rising edges are its mentions. -/
theorem risingEdge_added {s : Server} {entry : ActivityEntry}
    {activities : Table ActivityEntry.key} {usernames : List String}
    (h : addActivity s.activities entry = .ok activities)
    (hmentions : entry.mentions = some usernames) :
    RisingEdge s { s with activities := activities } commentId username ↔
      entry.key = commentId ∧ username ∈ usernames := by
  have hinsert := orRaise_ok h
  have hafter : ({ s with activities := activities } : Server).mentions commentId username =
      if commentId = entry.key then decide (username ∈ usernames)
      else s.mentions commentId username := by
    show ((activities.find? commentId).bind ActivityEntry.mentions).any _ = _
    rw [Table.find?_insert hinsert]
    by_cases hid : commentId = entry.key
    · rw [if_pos hid, if_pos hid, Option.bind_some, hmentions]
      rfl
    · rw [if_neg hid, if_neg hid]
      rfl
  rw [RisingEdge, hafter]
  by_cases hid : commentId = entry.key
  · have hbefore : s.mentions commentId username = false := by
      rw [Server.mentions, hid, (Table.insert?_some hinsert).1]
      rfl
    rw [if_pos hid, decide_eq_true_iff]
    exact ⟨fun hedge => ⟨hid.symm, hedge.2⟩, fun hedge => ⟨hbefore, hedge.2⟩⟩
  · rw [if_neg hid]
    refine iff_of_false ?_ (fun h => hid h.1.symm)
    rintro ⟨hfalse, htrue⟩
    rw [htrue] at hfalse
    cases hfalse

/-- An edited comment: its rising edges are the mentions that the version before it lacks. -/
theorem risingEdge_edited {s : Server} {activity : ActivityEntry} (edited : ActivityEntry)
    {usernames : List String} (hrow : s.activities.find? activity.key = some activity)
    (hkey : edited.key = activity.key)
    (hmentions : edited.mentions = some usernames) :
    RisingEdge s { s with activities := s.activities.set edited } commentId username ↔
      activity.key = commentId ∧ username ∈ usernames ∧
        username ∉ activity.mentions.getD [] := by
  have hbefore : s.mentions activity.key username =
      decide (username ∈ activity.mentions.getD []) := by
    rw [Server.mentions, hrow, Option.bind_some]
    cases activity.mentions with
    | none => exact (decide_eq_false List.not_mem_nil).symm
    | some previous => rfl
  by_cases hid : activity.key = commentId
  · subst hid
    have hafter : ({ s with activities := s.activities.set edited } : Server).mentions
        activity.key username = decide (username ∈ usernames) := by
      show (((s.activities.set edited).find? activity.key).bind ActivityEntry.mentions).any _ = _
      rw [← hkey, Table.find?_set_self (hkey ▸ hrow), Option.bind_some, hmentions]
      rfl
    rw [RisingEdge, hafter, hbefore, decide_eq_true_iff, decide_eq_false_iff_not]
    exact ⟨fun h => ⟨rfl, h.2, h.1⟩, fun h => ⟨h.2.2, h.2.1⟩⟩
  · have hafter : ({ s with activities := s.activities.set edited } : Server).mentions
        commentId username = s.mentions commentId username := by
      show (((s.activities.set edited).find? commentId).bind ActivityEntry.mentions).any _ = _
      rw [Table.find?_set_ne (fun h => hid (hkey.symm.trans h.symm))]
      rfl
    rw [RisingEdge, hafter]
    refine iff_of_false ?_ (fun h => hid h.1)
    rintro ⟨hfalse, htrue⟩
    rw [htrue] at hfalse
    cases hfalse

end Counts

section Step

variable {text : MentionText} {app : App} {s s' : Server} {commentId : Uuid} {username : String}

/-- A new comment notifies those whom it mentions. -/
theorem comment_counts {now : Timestamp} {added : Uuid} {alertId incidentId : Option Uuid}
    {comment resourceType : String} {resourceId : Uuid} {analyst : Analyst}
    {caller : Option Analyst} {sent : List MentionNotification}
    (h : s.comment text app now added alertId incidentId comment analyst = .ok s')
    (hcaller : caller = some analyst)
    (hsent : addedNotifications text app s caller resourceType resourceId added comment =
      .ok sent) :
    countFor commentId username sent = if RisingEdge s s' commentId username then 1 else 0 := by
  subst hcaller
  obtain ⟨resolved, hresolved, h⟩ := bind_ok h
  obtain ⟨activities, hadd, h⟩ := bind_ok h
  cases h
  obtain ⟨actor, hactor, hsent⟩ := bind_ok hsent
  cases hactor
  obtain ⟨resolved', hresolved', hsent⟩ := bind_ok hsent
  cases hresolved.symm.trans hresolved'
  cases hsent
  rw [countFor_mentionNotifications (nodup_resolved hresolved)]
  exact if_congr (risingEdge_added hadd rfl).symm rfl rfl

/-- An edit notifies those whom the version before it did not mention. -/
theorem edit_counts {now : Timestamp} {edited : Uuid} {isOn : ActivityEntry → Bool}
    {comment resourceType : String} {resourceId : Uuid} {analyst : Analyst}
    {caller : Option Analyst} {sent : List MentionNotification}
    (h : s.editComment text app now edited isOn comment analyst = .ok s')
    (hcaller : caller = some analyst)
    (hsent : editedNotifications text app s caller resourceType resourceId edited comment =
      .ok sent) :
    countFor commentId username sent = if RisingEdge s s' commentId username then 1 else 0 := by
  subst hcaller
  obtain ⟨activity, history, resolved, hfound, -, -, hresolved, rfl⟩ := editComment_found h
  have hkey : activity.key = edited := Table.find?_key hfound
  subst hkey
  obtain ⟨actor, hactor, hsent⟩ := bind_ok hsent
  cases hactor
  obtain ⟨resolved', hresolved', hsent⟩ := bind_ok hsent
  cases hresolved.symm.trans hresolved'
  cases hsent
  have hnodup := nodup_resolved hresolved
  have hnew : ((newMentions activity.mentions resolved).map ResolvedMention.username).Nodup :=
    hnodup.sublist (List.filter_sublist.map _)
  rw [hfound, Option.bind_some, countFor_mentionNotifications hnew]
  have hedge := @risingEdge_edited commentId username s activity
    (activity.edited now (history ++ [activity.edit]) comment (resolved.map (·.username)))
    (resolved.map (·.username)) hfound rfl rfl
  refine if_congr (Iff.trans ?_ hedge.symm) rfl rfl
  refine and_congr_right (fun _ => ?_)
  simp only [newMentions, List.mem_map, List.mem_filter, decide_eq_true_eq]
  constructor
  · rintro ⟨m, ⟨hm, hnot⟩, rfl⟩
    exact ⟨⟨m, hm, rfl⟩, hnot⟩
  · rintro ⟨⟨m, hm, rfl⟩, hnot⟩
    exact ⟨m, ⟨hm, hnot⟩, rfl⟩

/-- **One request** notifies about a comment at its rising edges, and only then. -/
theorem request_counts {caller : Option Analyst} {request : ApiRequest}
    {sent : List MentionNotification} (h : apiStep text app caller s request = .ok s')
    (hsent : requestNotifications text app s caller request = .ok sent) :
    countFor commentId username sent = if RisingEdge s s' commentId username then 1 else 0 := by
  have hquiet : Quiet s s' → sent = [] →
      countFor commentId username sent = if RisingEdge s s' commentId username then 1 else 0 := by
    rintro hquiet rfl
    rw [if_neg hquiet.no_edge]
    rfl
  obtain ⟨now, rowId, newId, op⟩ := request
  cases op with
  | read endpoint =>
      cases h
      cases hsent
      exact hquiet (quiet_of_eq rfl) rfl
  | updateAlert alertId update =>
      cases hsent
      exact hquiet (onDb_quiet h) rfl
  | claimAlert alertId =>
      cases hsent
      exact hquiet (onDb_quiet h) rfl
  | bulkUpdateAlerts body =>
      cases hsent
      exact hquiet (onDb_quiet h) rfl
  | deleteAlert alertId =>
      obtain ⟨store, -, h⟩ := bind_ok h
      cases h
      cases hsent
      refine hquiet (fun commentId username hmentions => ?_) rfl
      obtain ⟨row, usernames, hrow, hsome, hmem⟩ := mentions_eq_true_iff.mp hmentions
      have hfiltered := (Table.find?_filter _ s.activities commentId).symm.trans hrow
      exact mentions_eq_true_iff.mpr
        ⟨row, usernames, (Option.filter_eq_some_iff.mp hfiltered).1, hsome, hmem⟩
  | createOrLinkIncidentForAlert alertId data =>
      cases hsent
      exact hquiet (link_quiet h) rfl
  | addComment alertId comment =>
      obtain ⟨analyst, hanalyst, h⟩ := bind_ok (mapError_ok h)
      obtain ⟨-, -, h⟩ := bind_ok h
      exact comment_counts h (orRaise_ok hanalyst) hsent
  | editComment alertId edited comment =>
      obtain ⟨analyst, hanalyst, h⟩ := bind_ok (mapError_ok h)
      obtain ⟨-, -, h⟩ := bind_ok h
      exact edit_counts h (orRaise_ok hanalyst) hsent
  | createIncident data =>
      obtain ⟨answer, -, h⟩ := bind_ok (mapError_ok h)
      obtain ⟨after, hafter, h⟩ := bind_ok h
      cases h
      cases hsent
      have hadded : Quiet s after := absorb_quiet hafter
      exact hquiet (fun commentId username hmentions => hadded commentId username hmentions) rfl
  | updateIncident incidentId update =>
      cases hsent
      exact hquiet (onStore_quiet h) rfl
  | linkAlert incidentId alertId =>
      cases hsent
      exact hquiet (link_quiet h) rfl
  | unlinkAlert incidentId alertId =>
      cases hsent
      exact hquiet (link_quiet h) rfl
  | createIncidentObservable incidentId data =>
      cases hsent
      exact hquiet (onStore_quiet h) rfl
  | addIncidentComment incidentId comment =>
      obtain ⟨analyst, hanalyst, h⟩ := bind_ok (mapError_ok h)
      obtain ⟨-, -, h⟩ := bind_ok h
      exact comment_counts h ((requirePermission_ok hanalyst).1) hsent
  | editIncidentComment incidentId edited comment =>
      obtain ⟨analyst, hanalyst, h⟩ := bind_ok (mapError_ok h)
      obtain ⟨-, -, h⟩ := bind_ok h
      exact edit_counts h ((requirePermission_ok hanalyst).1) hsent
  | createObservable data =>
      cases hsent
      exact hquiet (onStore_quiet h) rfl
  | addEnrichment observableId data =>
      obtain ⟨obs, -, h⟩ := bind_ok (mapError_ok h)
      cases h
      cases hsent
      exact hquiet (quiet_of_eq rfl) rfl
  | invalidateObservableEnrichment observableId source =>
      obtain ⟨answer, -, h⟩ := bind_ok (mapError_ok h)
      cases h
      cases hsent
      exact hquiet (quiet_of_eq rfl) rfl
  | reloadPlaybooks newId declared =>
      obtain ⟨⟨registry, db⟩, -, h⟩ := bind_ok (mapError_ok h)
      cases hsent
      refine hquiet (quiet_of_eq ?_) rfl
      cases db with
      | ok db => cases h; rfl
      | error e => cases h; rfl
  | updatePlaybook playbookId update =>
      obtain ⟨db, -, h⟩ := bind_ok (mapError_ok h)
      cases h
      cases hsent
      exact hquiet (quiet_of_eq rfl) rfl
  | runPlaybook playbookId runRequest =>
      obtain ⟨task, -, h⟩ := bind_ok (mapError_ok h)
      cases h
      cases hsent
      exact hquiet (quiet_of_eq rfl) rfl
  | executeAction body ran =>
      obtain ⟨answer, hrun, rfl⟩ := map_ok (mapError_ok h)
      cases hsent
      exact hquiet (executeAction_quiet hrun) rfl

end Step

/-! ## Runs -/

section Runs

variable {text : MentionText} {app : App}

/-- A request that goes through dispatches its notifications. -/
theorem requestNotifications_ok {caller : Option Analyst} {request : ApiRequest} {s s' : Server}
    (h : apiStep text app caller s request = .ok s') :
    ∃ sent, requestNotifications text app s caller request = .ok sent := by
  have hadded : ∀ {analyst resourceType resourceId added comment alertId incidentId},
      caller = some analyst →
      s.comment text app request.now added alertId incidentId comment analyst = .ok s' →
      ∃ sent, addedNotifications text app s caller resourceType resourceId added comment =
        .ok sent := by
    rintro analyst resourceType resourceId added comment alertId incidentId rfl h
    obtain ⟨resolved, hresolved, -⟩ := bind_ok h
    exact ⟨_, (bind_of_ok rfl).trans (bind_of_ok hresolved)⟩
  have hedited : ∀ {analyst resourceType resourceId edited comment isOn},
      caller = some analyst →
      s.editComment text app request.now edited isOn comment analyst = .ok s' →
      ∃ sent, editedNotifications text app s caller resourceType resourceId edited comment =
        .ok sent := by
    rintro analyst resourceType resourceId edited comment isOn rfl h
    obtain ⟨activity, history, resolved, -, -, -, hresolved, -⟩ := editComment_found h
    exact ⟨_, (bind_of_ok rfl).trans (bind_of_ok hresolved)⟩
  obtain ⟨now, rowId, newId, op⟩ := request
  cases op with
  | addComment alertId comment =>
      obtain ⟨analyst, hanalyst, h⟩ := bind_ok (mapError_ok h)
      obtain ⟨-, -, h⟩ := bind_ok h
      exact hadded (orRaise_ok hanalyst) h
  | addIncidentComment incidentId comment =>
      obtain ⟨analyst, hanalyst, h⟩ := bind_ok (mapError_ok h)
      obtain ⟨-, -, h⟩ := bind_ok h
      exact hadded (requirePermission_ok hanalyst).1 h
  | editComment alertId edited comment =>
      obtain ⟨analyst, hanalyst, h⟩ := bind_ok (mapError_ok h)
      obtain ⟨-, -, h⟩ := bind_ok h
      exact hedited (orRaise_ok hanalyst) h
  | editIncidentComment incidentId edited comment =>
      obtain ⟨analyst, hanalyst, h⟩ := bind_ok (mapError_ok h)
      obtain ⟨-, -, h⟩ := bind_ok h
      exact hedited (requirePermission_ok hanalyst).1 h
  | _ => exact ⟨[], rfl⟩

/-- The notifications do not stand in the way of a request. -/
theorem notifyingStep_of_apiStep {s : NotifyingServer} {call : NotifyingRequest}
    {server : Server} (h : apiStep text app call.caller s.server call.request = .ok server) :
    ∃ sent, notifyingStep text app s call = .ok ⟨server, s.dispatched ++ sent⟩ := by
  obtain ⟨sent, hsent⟩ := requestNotifications_ok h
  refine ⟨sent, (bind_of_ok h).trans ?_⟩
  rw [hsent]
  rfl

/-- The rising edges of a run: the requests that went through, and after which a version of the
comment mentions the username, but not before. -/
def risingEdges (text : MentionText) (app : App) (s : NotifyingServer)
    (calls : List NotifyingRequest) (commentId : Uuid) (username : String) :
    List (Accepted NotifyingServer NotifyingRequest) :=
  (trace (notifyingStep text app) s calls).filter (fun accepted =>
    decide (RisingEdge accepted.before.server accepted.after.server commentId username))

/-- **Who is notified.**  Over every run of API requests, the notifications about a comment to a
username are as many as its rising edges: one for the first version that mentions it, and one for
each that mentions it again after a version that does not. -/
theorem notified_at_rising_edges (text : MentionText) (app : App) (s : NotifyingServer)
    (calls : List NotifyingRequest) (commentId : Uuid) (username : String) :
    countFor commentId username (run (notifyingStep text app) s calls).dispatched =
      countFor commentId username s.dispatched +
        (risingEdges text app s calls commentId username).length := by
  rw [risingEdges]
  induction calls generalizing s with
  | nil => rfl
  | cons call calls ih =>
      rw [run_cons, ih]
      cases hstep : notifyingStep text app s call with
      | error e => rw [attempt_error _ hstep, trace_cons_error _ hstep]
      | ok s' =>
          rw [attempt_ok _ hstep, trace_cons_ok _ hstep, List.filter_cons]
          obtain ⟨server, hserver, hrest⟩ := bind_ok hstep
          obtain ⟨sent, hsent, hrest⟩ := bind_ok hrest
          cases hrest
          have hcount := @request_counts text app s.server server commentId username _ _ _ hserver
            (mapError_ok hsent)
          rw [countFor, List.countP_append, ← countFor, ← countFor, hcount]
          simp only [decide_eq_true_eq]
          split
          · rw [List.length_cons]
            omega
          · rfl

end Runs

/-! ## Hooks -/

/-- What a hook raises: an `Exception`, which is logged, or something else. -/
inductive HookRaised where
  | exception
  | baseException
deriving DecidableEq

/-- A dispatch under way: `_hooks`, the calls that have been made, and whether something has been
raised that is no `Exception`. -/
structure Dispatching (ι : Type) where
  hooks : List ι
  calls : List (ι × MentionNotification)
  escaped : Bool

section Dispatch

variable {ι : Type}

/-- What a call makes of `_hooks`, and what it raises. -/
abbrev HookCall (ι : Type) : Type :=
  ι → MentionNotification → List ι → List ι × Option HookRaised

variable (call : HookCall ι)

/-- One hook, in the inner loop. -/
def callHook (d : Dispatching ι) (called : ι × MentionNotification) : Dispatching ι :=
  if d.escaped then d
  else
    { hooks := (call called.1 called.2 d.hooks).1
      calls := d.calls ++ [called]
      escaped := decide ((call called.1 called.2 d.hooks).2 = some .baseException) }

/-- `dispatch_mention_notifications`: the inner loop is over a copy of `_hooks`. -/
def dispatchMentionNotifications (notifications : List MentionNotification)
    (d : Dispatching ι) : Dispatching ι :=
  notifications.foldl (fun d notification =>
    (d.hooks.map (fun hook => (hook, notification))).foldl (callHook call) d) d

variable {call}

theorem foldl_callHook_escaped {d : Dispatching ι} (h : d.escaped = true)
    (calls : List (ι × MentionNotification)) : calls.foldl (callHook call) d = d := by
  induction calls with
  | nil => rfl
  | cons called calls ih =>
      rw [List.foldl_cons, callHook, if_pos h]
      exact ih

/-! ### The calls that are to be made -/

/-- One notification, for every hook of the copy. -/
def turn (notification : MentionNotification) (hooks : List ι) : List (ι × MentionNotification) :=
  hooks.map (fun hook => (hook, notification))

variable (call) in
/-- What calls leave of the registry. -/
def hooksAfter (calls : List (ι × MentionNotification)) (hooks : List ι) : List ι :=
  calls.foldl (fun hooks called => (call called.1 called.2 hooks).1) hooks

variable (call) in
/-- Every notification, for every hook that is registered when its turn begins. -/
def allCalls : List MentionNotification → List ι → List (ι × MentionNotification)
  | [], _ => []
  | notification :: notifications, hooks =>
      turn notification hooks ++
        allCalls notifications (hooksAfter call (turn notification hooks) hooks)

variable (call) in
/-- The calls, each with the registry that it meets. -/
def withRegistry : List (ι × MentionNotification) → List ι →
    List ((ι × MentionNotification) × List ι)
  | [], _ => []
  | called :: calls, hooks =>
      (called, hooks) :: withRegistry calls (call called.1 called.2 hooks).1

/-- The call raises something that is no `Exception`. -/
def Escapes (call : HookCall ι) (met : (ι × MentionNotification) × List ι) : Prop :=
  (call met.1.1 met.1.2 met.2).2 = some .baseException

instance (call : HookCall ι) : DecidablePred (Escapes call) :=
  fun _ => inferInstanceAs (Decidable (_ = _))

/-- Calls after which nothing has escaped have left the registry as they leave it. -/
theorem foldl_callHook_hooks {calls : List (ι × MentionNotification)} {d : Dispatching ι}
    (h : (calls.foldl (callHook call) d).escaped = false) :
    (calls.foldl (callHook call) d).hooks = hooksAfter call calls d.hooks := by
  induction calls generalizing d with
  | nil => rfl
  | cons called calls ih =>
      rw [List.foldl_cons] at h ⊢
      cases hescaped : d.escaped with
      | true =>
          have hsame : callHook call d called = d := if_pos hescaped
          rw [hsame, foldl_callHook_escaped hescaped, hescaped] at h
          cases h
      | false =>
          rw [ih h, callHook, if_neg (by simp [hescaped])]
          rfl

theorem dispatch_eq_foldl (notifications : List MentionNotification) (d : Dispatching ι) :
    dispatchMentionNotifications call notifications d =
      (allCalls call notifications d.hooks).foldl (callHook call) d := by
  induction notifications generalizing d with
  | nil => rfl
  | cons notification notifications ih =>
      have hnext := ih ((turn notification d.hooks).foldl (callHook call) d)
      rw [allCalls, List.foldl_append]
      cases hescaped : ((turn notification d.hooks).foldl (callHook call) d).escaped with
      | true =>
          -- what is left to be called plays no role
          rw [foldl_callHook_escaped hescaped] at hnext ⊢
          exact hnext
      | false =>
          rw [foldl_callHook_hooks hescaped] at hnext
          exact hnext

theorem calls_complete_iff (calls : List (ι × MentionNotification)) {d : Dispatching ι}
    (h : d.escaped = false) :
    (calls.foldl (callHook call) d).calls = d.calls ++ calls ↔
      ∀ met ∈ (withRegistry call calls d.hooks).dropLast, ¬ Escapes call met := by
  induction calls generalizing d with
  | nil => simp [withRegistry]
  | cons called calls ih =>
      have hcall : callHook call d called =
          { hooks := (call called.1 called.2 d.hooks).1
            calls := d.calls ++ [called]
            escaped := decide (Escapes call (called, d.hooks)) } := by
        rw [callHook, h, if_neg (by decide)]
        rfl
      rw [List.foldl_cons, hcall]
      cases calls with
      | nil => simp [withRegistry]
      | cons next rest =>
          rw [withRegistry, withRegistry, List.append_cons d.calls called (next :: rest),
            List.dropLast_cons_cons, List.forall_mem_cons]
          by_cases hraises : Escapes call (called, d.hooks)
          · rw [foldl_callHook_escaped (decide_eq_true hraises)]
            refine iff_of_false (fun hsame => ?_) (fun hall => hall.1 hraises)
            exact List.cons_ne_nil next rest (List.self_eq_append_right.mp hsame)
          · rw [ih (decide_eq_false hraises)]
            exact ⟨fun hall => ⟨hraises, hall⟩, fun hall => hall.2⟩

/-! ### Hooks that leave the registry alone -/

def KeepsHooks (call : HookCall ι) : Prop :=
  ∀ hook notification hooks, (call hook notification hooks).1 = hooks

theorem KeepsHooks.hooksAfter_eq (hkeeps : KeepsHooks call)
    (calls : List (ι × MentionNotification)) (hooks : List ι) :
    hooksAfter call calls hooks = hooks := by
  induction calls with
  | nil => rfl
  | cons called calls ih =>
      rw [hooksAfter, List.foldl_cons, hkeeps]
      exact ih

/-- Everybody is called for everything. -/
theorem KeepsHooks.allCalls_eq (hkeeps : KeepsHooks call)
    (notifications : List MentionNotification) (hooks : List ι) :
    allCalls call notifications hooks =
      notifications.flatMap (fun notification => turn notification hooks) := by
  induction notifications with
  | nil => rfl
  | cons notification notifications ih =>
      rw [allCalls, hkeeps.hooksAfter_eq, ih, List.flatMap_cons]

theorem KeepsHooks.withRegistry_eq (hkeeps : KeepsHooks call)
    (calls : List (ι × MentionNotification)) (hooks : List ι) :
    withRegistry call calls hooks = calls.map (fun called => (called, hooks)) := by
  induction calls with
  | nil => rfl
  | cons called calls ih =>
      rw [withRegistry, hkeeps, ih, List.map_cons]

/-! ### Who is called -/

/-- **Who is called.**  Every hook that is registered when the turn of a notification begins is
called for it, in order, exactly when no call but the last raises something else than an
`Exception`: an `Exception` changes nothing for the others.  Where the hooks leave the registry
alone, these are all hooks for all notifications, and each meets the registry as it was. -/
theorem dispatch_complete_iff (call : HookCall ι) (hooks : List ι)
    (notifications : List MentionNotification) :
    ((dispatchMentionNotifications call notifications ⟨hooks, [], false⟩).calls =
        allCalls call notifications hooks ↔
      ∀ met ∈ (withRegistry call (allCalls call notifications hooks) hooks).dropLast,
        ¬ Escapes call met) ∧
    (KeepsHooks call →
      allCalls call notifications hooks =
          notifications.flatMap (fun notification => turn notification hooks) ∧
        ∀ calls, withRegistry call calls hooks = calls.map (fun called => (called, hooks))) := by
  refine ⟨?_, fun hkeeps => ⟨hkeeps.allCalls_eq notifications hooks, fun calls =>
    hkeeps.withRegistry_eq calls hooks⟩⟩
  rw [dispatch_eq_foldl]
  exact calls_complete_iff _ rfl

end Dispatch

/-! ## Hooks that come and go -/

/-- The hook 0 raises an exception and has the hook 2 take the place of the hook 1. -/
def secondReplaced : HookCall Nat :=
  fun hook _ hooks => if hook = 0 then ([0, 2], some .exception) else (hooks, none)

def mentionOfBo (commentText : String) : MentionNotification where
  recipientUsername := "bo"
  recipientId := 2
  actorUsername := "ana"
  resourceType := "alert"
  resourceId := Uuid.toText 1
  commentId := Uuid.toText 5
  commentText := commentText

/-- The hook that has been removed still gets the notification under way, and the one that takes
its place those that follow. -/
theorem hooks_called_in_turn :
    (dispatchMentionNotifications secondReplaced [mentionOfBo "@bo", mentionOfBo "@bo?"]
        ⟨[0, 1], [], false⟩).calls =
      [(0, mentionOfBo "@bo"), (1, mentionOfBo "@bo"),
        (0, mentionOfBo "@bo?"), (2, mentionOfBo "@bo?")] := by
  exact (dispatch_complete_iff secondReplaced [0, 1]
    [mentionOfBo "@bo", mentionOfBo "@bo?"]).1.mpr (by decide)

end OpenSoar
