/-
# `OpenSoar.Api.EditHistory` — the previous texts of a comment

`edit_comment` and `edit_incident_comment` append the text that an edit replaces to the list under
`edit_history` ("Store previous version in edit history").  The first edit finds no metadata, and
the dict that it assigns is written.  Every later one finds the list that the first has left,
appends to it in the object that was loaded, and assigns a dict that equals it: nothing is
written (`flushedMetadata`), and the text is lost.

A comment's life (`CommentLife`) is the request that adds it and then, in any order, requests of
anybody to any endpoint and whatever the workers do to the table.  No request rewrites the row
but an edit (`apiStep_row`), so `edit_history` has one entry however often the comment is edited
(`OneEntry`), and it is complete after the first edit only (`history_complete_iff`).
-/
import OpenSoar.Api.ReadOnly

namespace OpenSoar

open Python

/-! ## What the history of a comment should hold -/

/-- The text of an entry of `edit_history`. -/
def entryText : Json → Option Json
  | .obj entry => entry.lookup "text"
  | _ => none

/-- `edit_history` is the list of the texts before the last one, in order, and `detail` is the
last. -/
structure ActivityEntry.HistoryComplete (activity : ActivityEntry) (versions : List String) :
    Prop where
  history : (editHistory activity.metadataJson).map (fun entries => entries.map entryText)
    = .ok (versions.dropLast.map (fun version => some (.str version)))
  detail : activity.detail = versions.getLast?

/-- The text of the comment that the request adds. -/
def ApiOp.addedComment : ApiOp → Option String
  | .addComment _ comment => some comment
  | .addIncidentComment _ comment => some comment
  | _ => none

/-- The text that the request sets for the comment. -/
def ApiOp.editOf (commentId : Uuid) : ApiOp → Option String
  | .editComment _ edited comment => if edited = commentId then some comment else none
  | .editIncidentComment _ edited comment => if edited = commentId then some comment else none
  | _ => none

/-- What else happens to the table: the workers add activities, archive them and delete them. -/
def KeepsTexts (s s' : Server) : Prop :=
  ∀ id row row', s.activities.find? id = some row → s'.activities.find? id = some row' →
    row'.detail = row.detail ∧ row'.metadataJson = row.metadataJson

/-- The server when a comment that began as `first` has been edited to each of the texts in turn,
and is still there. -/
inductive CommentLife (text : MentionText) (app : App) (commentId : Uuid) (first : String) :
    List String → Server → Prop
  | added {s s' : Server} {caller : Option Analyst} {request : ApiRequest} :
      request.rowId = commentId → request.op.addedComment = some first →
      apiStep text app caller s request = .ok s' → CommentLife text app commentId first [] s'
  | request {texts : List String} {s s' : Server} {caller : Option Analyst}
      {request : ApiRequest} :
      CommentLife text app commentId first texts s →
      apiStep text app caller s request = .ok s' →
      (s'.activities.find? commentId).isSome →
      CommentLife text app commentId first (texts ++ (request.op.editOf commentId).toList) s'
  | elsewhere {texts : List String} {s s' : Server} :
      CommentLife text app commentId first texts s → KeepsTexts s s' →
      (s'.activities.find? commentId).isSome → CommentLife text app commentId first texts s'

/-! ## What a request does to the row of a comment -/

/-- Rows have only been added. -/
def AddsActivities (s s' : Server) : Prop :=
  ∃ added, s'.activities.rows = s.activities.rows ++ added

theorem addsActivities_of_eq {s s' : Server} (h : s'.activities = s.activities) :
    AddsActivities s s' := by
  refine ⟨[], ?_⟩
  rw [h, List.append_nil]

theorem AddsActivities.find? {s s' : Server} {id : Uuid} {row : ActivityEntry}
    (h : AddsActivities s s') (hrow : s.activities.find? id = some row) :
    s'.activities.find? id = some row := by
  obtain ⟨added, hrows⟩ := h
  have hkey : row.key = id := Table.find?_key hrow
  have hmem : row ∈ s'.activities.rows := by
    rw [hrows]
    exact List.mem_append_left added (Table.mem_of_find? hrow)
  rw [← hkey]
  exact Table.find?_of_mem hmem

theorem absorb_adds {s s' : Server} {newId : Nat → Uuid} {store : Store}
    (h : s.absorb newId store = .ok s') : AddsActivities s s' := by
  obtain ⟨activities, hfold, h⟩ := bind_ok h
  cases h
  exact ⟨_, foldlM_addActivity hfold⟩

theorem onDb_adds {α : Type} {s s' : Server} {request : ApiRequest}
    {handler : Db → Except Raised (Db × α)}
    (h : (s.onDb request handler).mapError RetentionRaised.request = .ok s') :
    AddsActivities s s' := by
  obtain ⟨answer, -, h⟩ := bind_ok (mapError_ok h)
  exact absorb_adds h

theorem onStore_adds {α : Type} {s s' : Server} {request : ApiRequest}
    {handler : Store → Except Raised (Store × α)}
    (h : (s.onStore request handler).mapError RetentionRaised.request = .ok s') :
    AddsActivities s s' := by
  obtain ⟨answer, -, h⟩ := bind_ok (mapError_ok h)
  exact absorb_adds h

theorem link_adds {py : PyText} {app : App} {now : Timestamp} {newId : Nat → Uuid}
    {call : LinkCall} {s s' : Server}
    (h : (s.link py app now newId call).mapError RetentionRaised.request = .ok s') :
    AddsActivities s s' := by
  obtain ⟨found, -, h⟩ := bind_ok (mapError_ok h)
  obtain ⟨db, -, h⟩ := bind_ok h
  obtain ⟨after, hafter, h⟩ := bind_ok h
  cases h
  obtain ⟨added, hrows⟩ := absorb_adds hafter
  exact ⟨added, hrows⟩

theorem addActivity_adds {s : Server} {entry : ActivityEntry}
    {activities : Table ActivityEntry.key} (h : addActivity s.activities entry = .ok activities) :
    AddsActivities s { s with activities := activities } :=
  ⟨[entry], (Table.insert?_some (orRaise_ok h)).2⟩

/-- The row of the comment, after an edit of a comment that is `edited`. -/
theorem editComment_row {text : MentionText} {app : App} {now : Timestamp}
    {commentId edited : Uuid} {isOn : ActivityEntry → Bool} {comment : String}
    {analyst : Analyst} {s s' : Server} {row row' : ActivityEntry}
    (h : s.editComment text app now edited isOn comment analyst = .ok s')
    (hrow : s.activities.find? commentId = some row)
    (hrow' : s'.activities.find? commentId = some row') :
    if edited = commentId then ∃ history mentions, editHistory row.metadataJson = .ok history ∧
      row' = row.edited now (history ++ [row.edit]) comment mentions
    else row' = row := by
  obtain ⟨activity, history, resolved, hfound, -, hhistory, -, rfl⟩ := editComment_found h
  have hkey : activity.key = edited := Table.find?_key hfound
  split
  case isTrue hsame =>
    subst hsame
    cases hfound.symm.trans hrow
    have hset := Table.find?_set_self
      (a := row.edited now (history ++ [row.edit]) comment (resolved.map (·.username)))
      (hkey.symm ▸ hrow)
    exact ⟨history, resolved.map (·.username), hhistory,
      Option.some.inj (hrow'.symm.trans (hkey ▸ hset))⟩
  case isFalse hother =>
    have hset := Table.find?_set_ne (t := s.activities) (i := commentId)
      (a := activity.edited now (history ++ [activity.edit]) comment (resolved.map (·.username)))
      (fun hid => hother (hkey.symm.trans hid.symm))
    exact Option.some.inj (hrow'.symm.trans (hset.trans hrow))

theorem executeAction_adds {py : PyText} {app : App} {now : Timestamp} {activityId : Uuid}
    {body : ActionExecuteRequest} {ran : Except String Dict} {caller : Option Analyst}
    {s : Server} {answer : Server × ActionExecuteResponse}
    (h : executeAction py app now activityId body ran caller s = .ok answer) :
    AddsActivities s answer.1 := by
  obtain ⟨analyst, -, h⟩ := bind_ok h
  split at h
  · cases h
    exact addsActivities_of_eq rfl
  · split at h
    · cases h
      exact addsActivities_of_eq rfl
    · obtain ⟨alertId, -, h⟩ := bind_ok h
      obtain ⟨activities, hadd, h⟩ := bind_ok h
      cases h
      exact addActivity_adds hadd

/-- **What a request makes of the row of a comment**, if the row is still there: what an edit makes
of it, and nothing otherwise. -/
theorem apiStep_row {text : MentionText} {app : App} {caller : Option Analyst} {s s' : Server}
    {request : ApiRequest} {commentId : Uuid} {row row' : ActivityEntry}
    (h : apiStep text app caller s request = .ok s')
    (hrow : s.activities.find? commentId = some row)
    (hrow' : s'.activities.find? commentId = some row') :
    (request.op.editOf commentId = none ∧ row' = row) ∨
      ∃ comment history mentions, request.op.editOf commentId = some comment ∧
        editHistory row.metadataJson = .ok history ∧
        row' = row.edited request.now (history ++ [row.edit]) comment mentions := by
  have hkept : AddsActivities s s' → row' = row := fun hadds =>
    Option.some.inj (hrow'.symm.trans (hadds.find? hrow))
  have hsame : s'.activities = s.activities → row' = row := fun hactivities =>
    hkept (addsActivities_of_eq hactivities)
  have hedit {edited : Uuid} {isOn : ActivityEntry → Bool} {comment : String} {analyst : Analyst}
      (hedited : s.editComment text app request.now edited isOn comment analyst = .ok s')
      (hop : request.op.editOf commentId = if edited = commentId then some comment else none) :
      (request.op.editOf commentId = none ∧ row' = row) ∨
        ∃ comment history mentions, request.op.editOf commentId = some comment ∧
          editHistory row.metadataJson = .ok history ∧
          row' = row.edited request.now (history ++ [row.edit]) comment mentions := by
    have hafter := editComment_row hedited hrow hrow'
    split at hafter
    · rename_i hid
      obtain ⟨history, mentions, hhistory, hafter⟩ := hafter
      exact Or.inr ⟨comment, history, mentions, hop.trans (if_pos hid), hhistory, hafter⟩
    · rename_i hid
      exact Or.inl ⟨hop.trans (if_neg hid), hafter⟩
  obtain ⟨now, rowId, newId, op⟩ := request
  cases op with
  | read endpoint =>
      cases h
      exact Or.inl ⟨rfl, hsame rfl⟩
  | updateAlert alertId update => exact Or.inl ⟨rfl, hkept (onDb_adds h)⟩
  | claimAlert alertId => exact Or.inl ⟨rfl, hkept (onDb_adds h)⟩
  | bulkUpdateAlerts body => exact Or.inl ⟨rfl, hkept (onDb_adds h)⟩
  | deleteAlert alertId =>
      obtain ⟨store, -, h⟩ := bind_ok h
      cases h
      refine Or.inl ⟨rfl, ?_⟩
      have hfiltered := (Table.find?_filter _ s.activities commentId).symm.trans hrow'
      rw [hrow] at hfiltered
      exact (Option.some.inj (Option.filter_eq_some_iff.mp hfiltered).1).symm
  | createOrLinkIncidentForAlert alertId data => exact Or.inl ⟨rfl, hkept (link_adds h)⟩
  | addComment alertId comment =>
      obtain ⟨analyst, -, h⟩ := bind_ok (mapError_ok h)
      obtain ⟨-, -, h⟩ := bind_ok h
      obtain ⟨resolved, -, h⟩ := bind_ok h
      obtain ⟨activities, hadd, h⟩ := bind_ok h
      cases h
      exact Or.inl ⟨rfl, hkept (addActivity_adds hadd)⟩
  | editComment alertId edited comment =>
      obtain ⟨analyst, -, h⟩ := bind_ok (mapError_ok h)
      obtain ⟨-, -, h⟩ := bind_ok h
      exact hedit h rfl
  | createIncident data =>
      obtain ⟨answer, -, h⟩ := bind_ok (mapError_ok h)
      obtain ⟨after, hafter, h⟩ := bind_ok h
      cases h
      obtain ⟨added, hrows⟩ := absorb_adds hafter
      exact Or.inl ⟨rfl, hkept ⟨added, hrows⟩⟩
  | updateIncident incidentId update => exact Or.inl ⟨rfl, hkept (onStore_adds h)⟩
  | linkAlert incidentId alertId => exact Or.inl ⟨rfl, hkept (link_adds h)⟩
  | unlinkAlert incidentId alertId => exact Or.inl ⟨rfl, hkept (link_adds h)⟩
  | createIncidentObservable incidentId data => exact Or.inl ⟨rfl, hkept (onStore_adds h)⟩
  | addIncidentComment incidentId comment =>
      obtain ⟨analyst, -, h⟩ := bind_ok (mapError_ok h)
      obtain ⟨-, -, h⟩ := bind_ok h
      obtain ⟨resolved, -, h⟩ := bind_ok h
      obtain ⟨activities, hadd, h⟩ := bind_ok h
      cases h
      exact Or.inl ⟨rfl, hkept (addActivity_adds hadd)⟩
  | editIncidentComment incidentId edited comment =>
      obtain ⟨analyst, -, h⟩ := bind_ok (mapError_ok h)
      obtain ⟨-, -, h⟩ := bind_ok h
      exact hedit h rfl
  | createObservable data => exact Or.inl ⟨rfl, hkept (onStore_adds h)⟩
  | addEnrichment observableId data =>
      obtain ⟨obs, -, h⟩ := bind_ok (mapError_ok h)
      cases h
      exact Or.inl ⟨rfl, hsame rfl⟩
  | invalidateObservableEnrichment observableId source =>
      obtain ⟨answer, -, h⟩ := bind_ok (mapError_ok h)
      cases h
      exact Or.inl ⟨rfl, hsame rfl⟩
  | reloadPlaybooks newId declared =>
      obtain ⟨⟨registry, db⟩, -, h⟩ := bind_ok (mapError_ok h)
      refine Or.inl ⟨rfl, hsame ?_⟩
      cases db with
      | ok db => cases h; rfl
      | error e => cases h; rfl
  | updatePlaybook playbookId update =>
      obtain ⟨db, -, h⟩ := bind_ok (mapError_ok h)
      cases h
      exact Or.inl ⟨rfl, hsame rfl⟩
  | runPlaybook playbookId runRequest =>
      obtain ⟨task, -, h⟩ := bind_ok (mapError_ok h)
      cases h
      exact Or.inl ⟨rfl, hsame rfl⟩
  | executeAction body ran =>
      obtain ⟨answer, hrun, rfl⟩ := map_ok (mapError_ok h)
      exact Or.inl ⟨rfl, hkept (executeAction_adds hrun)⟩

/-! ## The history holds the first text, and no other -/

/-- The columns of a comment that began as `first` and has been edited to each of the texts. -/
inductive OneEntry (first : String) : List String → ActivityEntry → Prop
  | unedited {row : ActivityEntry} : row.metadataJson = none → row.detail = some first →
      OneEntry first [] row
  | edited {texts : List String} {latest : String} {editedAt : Json} {row : ActivityEntry} :
      row.metadataJson = some
        [("edit_history", .arr [.obj [("text", .str first), ("edited_at", editedAt)]])] →
      row.detail = some latest → OneEntry first (texts ++ [latest]) row

theorem oneEntry_congr {first : String} {texts : List String} {row row' : ActivityEntry}
    (h : OneEntry first texts row) (hdetail : row'.detail = row.detail)
    (hmetadata : row'.metadataJson = row.metadataJson) : OneEntry first texts row' := by
  cases h with
  | unedited hnone hfirst => exact .unedited (hmetadata.trans hnone) (hdetail.trans hfirst)
  | edited hsome hlatest => exact .edited (hmetadata.trans hsome) (hdetail.trans hlatest)

/-- An edit writes the list when there is none, and leaves the one that is there. -/
theorem oneEntry_edited {first : String} {texts : List String} {row : ActivityEntry}
    (h : OneEntry first texts row) {now : Timestamp} {history : List Json} {comment : String}
    {mentions : List String} (hhistory : editHistory row.metadataJson = .ok history) :
    OneEntry first (texts ++ [comment])
      (row.edited now (history ++ [row.edit]) comment mentions) := by
  cases h with
  | unedited hnone hfirst =>
      rw [hnone] at hhistory
      cases hhistory
      refine @OneEntry.edited first [] comment (.str (isoformat row.updatedAt)) _ ?_ rfl
      simp only [ActivityEntry.edited, ActivityEntry.edit, hnone, hfirst]
      rfl
  | @edited texts latest editedAt _ hsome hlatest =>
      refine @OneEntry.edited first (texts ++ [latest]) comment editedAt _ ?_ rfl
      simp only [ActivityEntry.edited, hsome]
      rfl

/-- A comment that has been added has no metadata. -/
theorem oneEntry_of_comment {text : MentionText} {app : App} {now : Timestamp} {commentId : Uuid}
    {alertId incidentId : Option Uuid} {comment : String} {analyst : Analyst} {s s' : Server}
    (h : s.comment text app now commentId alertId incidentId comment analyst = .ok s') :
    ∃ row, s'.activities.find? commentId = some row ∧ OneEntry comment [] row := by
  obtain ⟨resolved, -, h⟩ := bind_ok h
  obtain ⟨activities, hadd, h⟩ := bind_ok h
  cases h
  refine ⟨newComment now commentId alertId incidentId analyst comment resolved, ?_,
    .unedited rfl rfl⟩
  exact (Table.find?_insert (orRaise_ok hadd) commentId).trans (if_pos rfl)

theorem oneEntry_of_added {text : MentionText} {app : App} {caller : Option Analyst}
    {s s' : Server} {request : ApiRequest} {commentId : Uuid} {first : String}
    (hid : request.rowId = commentId) (hadded : request.op.addedComment = some first)
    (h : apiStep text app caller s request = .ok s') :
    ∃ row, s'.activities.find? commentId = some row ∧ OneEntry first [] row := by
  subst hid
  obtain ⟨now, rowId, newId, op⟩ := request
  cases op with
  | addComment alertId comment =>
      cases hadded
      obtain ⟨analyst, -, h⟩ := bind_ok (mapError_ok h)
      obtain ⟨-, -, h⟩ := bind_ok h
      exact oneEntry_of_comment h
  | addIncidentComment incidentId comment =>
      cases hadded
      obtain ⟨analyst, -, h⟩ := bind_ok (mapError_ok h)
      obtain ⟨-, -, h⟩ := bind_ok h
      exact oneEntry_of_comment h
  | _ => cases hadded

/-- **However often a comment is edited, its history has one entry at most.** -/
theorem oneEntry_of_life {text : MentionText} {app : App} {commentId : Uuid} {first : String}
    {texts : List String} {s : Server} (h : CommentLife text app commentId first texts s) :
    ∃ row, s.activities.find? commentId = some row ∧ OneEntry first texts row := by
  induction h with
  | added hid hadded hstep => exact oneEntry_of_added hid hadded hstep
  | @request texts s s' caller request _ hstep hthere ih =>
      obtain ⟨row, hrow, hone⟩ := ih
      obtain ⟨row', hrow'⟩ := Option.isSome_iff_exists.mp hthere
      refine ⟨row', hrow', ?_⟩
      obtain ⟨hop, rfl⟩ | ⟨comment, history, mentions, hop, hhistory, rfl⟩ :=
        apiStep_row hstep hrow hrow'
      · rw [hop]
        exact (List.append_nil texts).symm ▸ hone
      · rw [hop]
        exact oneEntry_edited hone hhistory
  | elsewhere _ hkeeps hthere ih =>
      obtain ⟨row, hrow, hone⟩ := ih
      obtain ⟨row', hrow'⟩ := Option.isSome_iff_exists.mp hthere
      obtain ⟨hdetail, hmetadata⟩ := hkeeps commentId row row' hrow hrow'
      exact ⟨row', hrow', oneEntry_congr hone hdetail hmetadata⟩

/-- **When the history of a comment is complete.**  After one edit or more, whoever else has
sent requests meanwhile, `edit_history` lists the previous texts and `detail` is the latest, if and
only if there has been one edit. -/
theorem history_complete_iff {text : MentionText} {app : App} {commentId : Uuid} {first : String}
    {texts : List String} {s : Server} {row : ActivityEntry}
    (hlife : CommentLife text app commentId first texts s)
    (hrow : s.activities.find? commentId = some row) (hedited : texts ≠ []) :
    row.HistoryComplete (first :: texts) ↔ texts.length = 1 := by
  obtain ⟨row', hrow', hone⟩ := oneEntry_of_life hlife
  cases hrow.symm.trans hrow'
  cases hone with
  | unedited hnone hfirst => exact absurd rfl hedited
  | @edited texts latest editedAt _ hsome hlatest =>
      have hentries : (editHistory row.metadataJson).map (fun entries => entries.map entryText)
          = .ok [some (.str first)] := by
        rw [hsome]
        rfl
      have hprevious : (first :: (texts ++ [latest])).dropLast = first :: texts := by
        rw [← List.cons_append, List.dropLast_concat]
      have hlast : (first :: (texts ++ [latest])).getLast? = some latest := by
        rw [← List.cons_append, List.getLast?_concat]
      constructor
      · intro hcomplete
        have hhistory := hcomplete.history
        rw [hentries, hprevious] at hhistory
        have hlength := congrArg List.length (Except.ok.inj hhistory)
        rw [List.length_map, List.length_singleton, List.length_cons] at hlength
        rw [List.length_append, List.length_singleton]
        omega
      · intro honce
        rw [List.length_append, List.length_singleton] at honce
        have hnone : texts = [] := List.length_eq_zero_iff.mp (by omega)
        refine ⟨?_, hlatest.trans hlast.symm⟩
        rw [hentries, hprevious, hnone]
        rfl

/-! ## Two edits -/

/-- The server after a request of the viewer. -/
def viewerSends (s : Server) (op : ApiOp) : Server :=
  attempt (apiStep .ascii .core (some viewer)) s (requestOf op)

/-- The viewer comments on the alert, and edits the comment. -/
def editedOnce : Server :=
  viewerSends (viewerSends beaconServer (.addComment 1 "seen")) (.editComment 1 5 "benign")

def editedTwice : Server := viewerSends editedOnce (.editComment 1 5 "malicious")

theorem life_viewerSends {texts : List String} {s : Server} (op : ApiOp)
    (hlife : CommentLife .ascii .core 5 "seen" texts s)
    (hok : (apiStep .ascii .core (some viewer) s (requestOf op)).isOk = true)
    (hthere : ((viewerSends s op).activities.find? 5).isSome = true) :
    CommentLife .ascii .core 5 "seen" (texts ++ (op.editOf 5).toList) (viewerSends s op) :=
  .request hlife (ok_attempt _ hok) hthere

theorem life_editedOnce : CommentLife .ascii .core 5 "seen" ["benign"] editedOnce := by
  have hadded : CommentLife .ascii .core 5 "seen" []
      (viewerSends beaconServer (.addComment 1 "seen")) :=
    .added rfl rfl (ok_attempt (apiStep .ascii .core (some viewer))
      (o := requestOf (.addComment 1 "seen")) (by decide +kernel))
  exact life_viewerSends (.editComment 1 5 "benign") hadded (by decide +kernel)
    (by decide +kernel)

theorem life_editedTwice :
    CommentLife .ascii .core 5 "seen" ["benign", "malicious"] editedTwice :=
  life_viewerSends (.editComment 1 5 "malicious") life_editedOnce (by decide +kernel)
    (by decide +kernel)

/-- The history after the second edit lists one text. -/
theorem entries_editedTwice :
    (editedTwice.activities.find? 5).map (fun row =>
      (editHistory row.metadataJson).toOption.map List.length) = some (some 1) := by
  decide +kernel

/-- The text that the second edit replaces is not in the history. -/
theorem second_edit_lost :
    ¬ ∀ text app commentId first texts s row, CommentLife text app commentId first texts s →
      s.activities.find? commentId = some row → texts ≠ [] →
      row.HistoryComplete (first :: texts) := by
  intro h
  obtain ⟨row, hrow, -⟩ := oneEntry_of_life life_editedTwice
  have hhistory := (h _ _ _ _ _ _ row life_editedTwice hrow (List.cons_ne_nil _ _)).history
  have hone := entries_editedTwice
  rw [hrow, Option.map_some] at hone
  cases hentries : editHistory row.metadataJson with
  | error e =>
      rw [hentries] at hhistory
      cases hhistory
  | ok entries =>
      rw [hentries] at hhistory hone
      have hlength : entries.length = 1 := Option.some.inj (Option.some.inj hone)
      have htexts := congrArg List.length (Except.ok.inj hhistory)
      rw [List.length_map, hlength] at htexts
      cases htexts

theorem history_complete_editedOnce :
    ∃ row, editedOnce.activities.find? 5 = some row ∧ row.HistoryComplete ["seen", "benign"] := by
  obtain ⟨row, hrow, -⟩ := oneEntry_of_life life_editedOnce
  exact ⟨row, hrow, (history_complete_iff life_editedOnce hrow (List.cons_ne_nil _ _)).mpr rfl⟩

end OpenSoar
