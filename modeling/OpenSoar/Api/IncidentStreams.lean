/-
# `OpenSoar.Api.IncidentStreams` — what the streams of an incident show

`list_incident_activities` and `list_incident_timeline` of `api/incidents.py`.  Each selects
activities by a disjunction of its own: the first takes those of the incident that are about no
alert and those about an alert that the incident has referred to and the caller may see, the
second those of the incident and those about a linked alert that the caller may see.

Neither asks for the other foreign key.  `streams_confined_iff` says exactly which activities
have to be there for a stream to show, or to count, one of an alert or an incident that the
caller may not see.
-/
import OpenSoar.Api.Observables
import OpenSoar.Lib.TopK

namespace OpenSoar

open Python

/-! ## What the validators show -/

/-- The alert is in the list that the validators leave to the caller. -/
def alertVisible (app : App) (caller : Option Analyst) (s : Store) (alertId : Uuid) : Bool :=
  (s.alerts.find? alertId).any (fun row =>
    applyTenantAccessQuery app (.alert row.toAlert) "list" caller)

/-- The incident is in the list that the validators leave to the caller. -/
def incidentVisible (app : App) (caller : Option Analyst) (s : Store) (incidentId : Uuid) :
    Bool :=
  (s.incidents.find? incidentId).any (fun row =>
    applyTenantAccessQuery app (.incident row.toIncident) "list" caller)

/-- The activity is about no alert and no incident that the caller may not see. -/
def activityVisible (app : App) (caller : Option Analyst) (s : Store) (activity : ActivityRow) :
    Bool :=
  activity.alertId.all (alertVisible app caller s) &&
    activity.incidentId.all (incidentVisible app caller s)

/-- A query for the ids of alerts, narrowed by the validators. -/
def visibleAlertIds (app : App) (caller : Option Analyst) (s : Store) (ids : List Uuid) :
    List Uuid :=
  (s.alerts.rows.filter (fun row => decide (row.key ∈ ids) &&
    applyTenantAccessQuery app (.alert row.toAlert) "list" caller)).map AlertRow.key

/-! ## Pages -/

/-- How the database orders rows by `created_at DESC`: rows of one time come in any order. -/
structure NewestFirst where
  sort : List ActivityRow → List ActivityRow
  perm : ∀ rows, (sort rows).Perm rows
  sorted : ∀ rows, (sort rows).Pairwise (fun a b => b.createdAt ≤ a.createdAt)

/-- `limit`, which the route bounds above only. -/
abbrev PageLimit := { limit : Int // limit ≤ 200 }

structure ActivityList where
  activities : List ActivityRow
  total : Nat

/-- `offset(offset).limit(limit)` of what a condition selects, and the count of it. -/
def page (order : NewestFirst) (limit : PageLimit) (offset : Nat) (selected : List ActivityRow) :
    Except Raised ActivityList :=
  if limit.val < 0 then .error (.refusedByDatabase "LIMIT must not be negative")
  else .ok ⟨((order.sort selected).drop offset).take limit.val.toNat, selected.length⟩

/-- The incident of the path, when the caller may read it. -/
def readIncident (app : App) (incidentId : Uuid) (caller : Option Analyst) (s : Store) :
    Except Raised IncidentRow := do
  let incident ← orRaise (s.incidents.find? incidentId) (.httpException 404 "Incident not found")
  enforceTenantAccess app (.incident incident.toIncident) "read" caller
  pure incident

/-! ## `GET /incidents/{incident_id}/activities` -/

/-- `select(Activity.alert_id)` of the incident, without the nulls. -/
def referencedAlertIds (s : Store) (incidentId : Uuid) : List Uuid :=
  ((s.activities.filter (fun activity => activity.incidentId = some incidentId)).filterMap
    (fun activity => activity.alertId)).dedup

/-- `base_where`. -/
def streamed (app : App) (caller : Option Analyst) (s : Store) (incidentId : Uuid)
    (activity : ActivityRow) : Bool :=
  decide (activity.incidentId = some incidentId ∧ activity.alertId = none) ||
    activity.alertId.any (fun alertId =>
      decide (alertId ∈ visibleAlertIds app caller s (referencedAlertIds s incidentId)))

/-- `list_incident_activities`. -/
def listIncidentActivities (app : App) (order : NewestFirst) (incidentId : Uuid)
    (limit : PageLimit) (offset : Nat) (caller : Option Analyst) (s : Store) :
    Except Raised ActivityList := do
  let _ ← readIncident app incidentId caller s
  page order limit offset (s.activities.filter (streamed app caller s incidentId))

/-! ## `GET /incidents/{incident_id}/timeline` -/

/-- `event_type`. -/
inductive EventType where
  | all | alert | incident | comment
deriving DecidableEq

structure TimelineEvent where
  source : String
  activity : ActivityRow

structure TimelineList where
  events : List TimelineEvent
  total : Nat

/-- `"alert" if activity.alert_id is not None else "incident"`. -/
def timelineEvent (activity : ActivityRow) : TimelineEvent where
  source := if activity.alertId.isSome then "alert" else "incident"
  activity := activity

/-- The alerts that are linked to the incident. -/
def linkedAlertIds (s : Store) (incidentId : Uuid) : List Uuid :=
  (s.incidentAlerts.filter (fun link => link.incidentId = incidentId)).map
    IncidentAlert.alertId

/-- The clause that an event type adds. -/
def EventType.selects (incidentId : Uuid) (activity : ActivityRow) : EventType → Bool
  | .all => true
  | .alert => activity.alertId.isSome
  | .incident => decide (activity.incidentId = some incidentId ∧ activity.alertId = none)
  | .comment => decide (activity.action.val = "comment")

/-- `base_where` and the clause. -/
def merged (app : App) (caller : Option Analyst) (s : Store) (incidentId : Uuid)
    (eventType : EventType) (activity : ActivityRow) : Bool :=
  (decide (activity.incidentId = some incidentId) ||
    activity.alertId.any (fun alertId =>
      decide (alertId ∈ visibleAlertIds app caller s (linkedAlertIds s incidentId)))) &&
  eventType.selects incidentId activity

/-- `list_incident_timeline`. -/
def listIncidentTimeline (app : App) (order : NewestFirst) (incidentId : Uuid)
    (eventType : EventType) (limit : PageLimit) (offset : Nat) (caller : Option Analyst)
    (s : Store) : Except Raised TimelineList := do
  let _ ← readIncident app incidentId caller s
  let events ← page order limit offset
    (s.activities.filter (merged app caller s incidentId eventType))
  pure ⟨events.activities.map timelineEvent, events.total⟩

/-! ## What is selected -/

section Visible

variable {app : App} {caller : Option Analyst} {s : Store} {incidentId : Uuid}
variable {activity : ActivityRow}

theorem mem_visibleAlertIds {ids : List Uuid} {alertId : Uuid} :
    alertId ∈ visibleAlertIds app caller s ids ↔
      alertId ∈ ids ∧ alertVisible app caller s alertId = true := by
  simp only [visibleAlertIds, List.mem_map, List.mem_filter, Bool.and_eq_true, decide_eq_true_eq]
  constructor
  · rintro ⟨row, ⟨hrow, hid, hkept⟩, rfl⟩
    refine ⟨hid, ?_⟩
    rw [alertVisible, Table.find?_of_mem hrow]
    exact hkept
  · rintro ⟨hid, hvisible⟩
    obtain ⟨row, hrow, hkept⟩ := (Option.any_eq_true _ _).mp hvisible
    have hkey : row.key = alertId := Table.find?_key hrow
    exact ⟨row, ⟨Table.mem_of_find? hrow, hkey ▸ hid, hkept⟩, hkey⟩

theorem streamed_iff : streamed app caller s incidentId activity = true ↔
    (activity.incidentId = some incidentId ∧ activity.alertId = none) ∨
      ∃ alertId, activity.alertId = some alertId ∧ alertId ∈ referencedAlertIds s incidentId ∧
        alertVisible app caller s alertId = true := by
  simp only [streamed, Bool.or_eq_true, decide_eq_true_eq, Option.any_eq_true,
    mem_visibleAlertIds]

theorem merged_iff {eventType : EventType} :
    merged app caller s incidentId eventType activity = true ↔
      (activity.incidentId = some incidentId ∨
        ∃ alertId, activity.alertId = some alertId ∧ alertId ∈ linkedAlertIds s incidentId ∧
          alertVisible app caller s alertId = true) ∧
        eventType.selects incidentId activity = true := by
  simp only [merged, Bool.and_eq_true, Bool.or_eq_true, decide_eq_true_eq, Option.any_eq_true,
    mem_visibleAlertIds]

theorem activityVisible_iff : activityVisible app caller s activity = true ↔
    (∀ alertId, activity.alertId = some alertId → alertVisible app caller s alertId = true) ∧
      ∀ incidentId, activity.incidentId = some incidentId →
        incidentVisible app caller s incidentId = true := by
  simp only [activityVisible, Bool.and_eq_true, Option.all_eq_true]

end Visible

/-! ## When a stream is confined -/

/-- What is shown is allowed, and nothing else of what was selected is counted. -/
def Confined (allowed : ActivityRow → Bool) (selected shown : List ActivityRow) (total : Nat) :
    Prop :=
  (∀ activity ∈ shown, allowed activity = true) ∧ total = (selected.filter allowed).length

/-- No activity about an alert that the stream takes in belongs to a hidden incident. -/
def StreamSafe (app : App) (caller : Option Analyst) (s : Store) (incidentId : Uuid) : Prop :=
  ∀ activity ∈ s.activities, ∀ alertId, activity.alertId = some alertId →
    alertId ∈ referencedAlertIds s incidentId → alertVisible app caller s alertId = true →
    ∀ other, activity.incidentId = some other → incidentVisible app caller s other = true

/-- Of the activities that the event type asks for, none of the incident's own is about a hidden
alert, and none about a linked alert that the caller may see belongs to a hidden incident. -/
def TimelineSafe (app : App) (caller : Option Analyst) (s : Store) (incidentId : Uuid)
    (eventType : EventType) : Prop :=
  ∀ activity ∈ s.activities, eventType.selects incidentId activity = true →
    (activity.incidentId = some incidentId →
      ∀ alertId, activity.alertId = some alertId → alertVisible app caller s alertId = true) ∧
    ∀ alertId, activity.alertId = some alertId → alertId ∈ linkedAlertIds s incidentId →
      alertVisible app caller s alertId = true →
      ∀ other, activity.incidentId = some other → incidentVisible app caller s other = true

/-- A page and its count are confined when everything that is selected is allowed. -/
theorem page_confined_iff {order : NewestFirst} {limit : PageLimit} {offset : Nat}
    {allowed : ActivityRow → Bool} {selected : List ActivityRow} :
    (∀ result, page order limit offset selected = .ok result →
        Confined allowed selected result.activities result.total) ↔
      (0 ≤ limit.val → ∀ activity ∈ selected, allowed activity = true) := by
  by_cases hlimit : limit.val < 0
  · have hrefused : page order limit offset selected = .error _ := if_pos hlimit
    refine iff_of_true (fun result hresult => ?_) (fun h => absurd hlimit (not_lt.mpr h))
    cases hrefused.symm.trans hresult
  · have hanswer : page order limit offset selected = .ok _ := if_neg hlimit
    constructor
    · intro h _ activity hmem
      have htotal := (h _ hanswer).2
      exact List.length_filter_eq_length_iff.mp htotal.symm activity hmem
    · intro h result hresult
      cases hanswer.symm.trans hresult
      have hall := h (not_lt.mp hlimit)
      refine ⟨fun activity hmem => hall activity ?_, ?_⟩
      · exact (order.perm selected).mem_iff.mp (List.mem_of_mem_drop (List.mem_of_mem_take hmem))
      · rw [List.filter_eq_self.mpr hall]

section Streams

variable {app : App} {caller : Option Analyst} {s : Store} {incidentId : Uuid}

/-- What the stream selects is visible when it is safe. -/
theorem streamed_visible_iff (hvisible : incidentVisible app caller s incidentId = true) :
    (∀ activity ∈ s.activities.filter (streamed app caller s incidentId),
        activityVisible app caller s activity = true) ↔
      StreamSafe app caller s incidentId := by
  simp only [List.mem_filter, streamed_iff, activityVisible_iff]
  constructor
  · intro h activity hmem alertId halert hreferenced hseen
    exact (h activity ⟨hmem, Or.inr ⟨alertId, halert, hreferenced, hseen⟩⟩).2
  · rintro h activity ⟨hmem, ⟨hincident, hnone⟩ | ⟨alertId, halert, hreferenced, hseen⟩⟩
    · refine ⟨fun alertId halert => (nomatch hnone.symm.trans halert), fun other hother => ?_⟩
      cases hincident.symm.trans hother
      exact hvisible
    · refine ⟨fun other hother => ?_, h activity hmem alertId halert hreferenced hseen⟩
      cases halert.symm.trans hother
      exact hseen

/-- What the timeline selects is visible when it is safe. -/
theorem merged_visible_iff {eventType : EventType}
    (hvisible : incidentVisible app caller s incidentId = true) :
    (∀ activity ∈ s.activities.filter (merged app caller s incidentId eventType),
        activityVisible app caller s activity = true) ↔
      TimelineSafe app caller s incidentId eventType := by
  simp only [List.mem_filter, merged_iff, activityVisible_iff]
  constructor
  · intro h activity hmem hselects
    constructor
    · intro hincident
      exact (h activity ⟨hmem, Or.inl hincident, hselects⟩).1
    · intro alertId halert hlinked hseen
      exact (h activity ⟨hmem, Or.inr ⟨alertId, halert, hlinked, hseen⟩, hselects⟩).2
  · rintro h activity ⟨hmem, hincident | ⟨alertId, halert, hlinked, hseen⟩, hselects⟩
    · refine ⟨(h activity hmem hselects).1 hincident, fun other hother => ?_⟩
      cases hincident.symm.trans hother
      exact hvisible
    · refine ⟨fun other hother => ?_, (h activity hmem hselects).2 alertId halert hlinked hseen⟩
      cases halert.symm.trans hother
      exact hseen

theorem readIncident_ok {incident : IncidentRow}
    (hfind : s.incidents.find? incidentId = some incident)
    (hread : enforceTenantAccess app (.incident incident.toIncident) "read" caller = .ok ()) :
    readIncident app incidentId caller s = .ok incident := by
  rw [readIncident, hfind]
  exact bind_of_ok hread

/-- **What the streams leak.**  For an incident that the caller may see, both streams show and
count visible activities only, at every limit and offset, exactly when they are safe. -/
theorem streams_confined_iff {incident : IncidentRow}
    (hfind : s.incidents.find? incidentId = some incident)
    (hread : enforceTenantAccess app (.incident incident.toIncident) "read" caller = .ok ())
    (hvisible : incidentVisible app caller s incidentId = true) (order : NewestFirst)
    (limit : PageLimit) (offset : Nat) (eventType : EventType) :
    ((∀ result, listIncidentActivities app order incidentId limit offset caller s = .ok result →
        Confined (activityVisible app caller s)
          (s.activities.filter (streamed app caller s incidentId))
          result.activities result.total) ↔
      (0 ≤ limit.val → StreamSafe app caller s incidentId)) ∧
    ((∀ result,
        listIncidentTimeline app order incidentId eventType limit offset caller s = .ok result →
        Confined (activityVisible app caller s)
          (s.activities.filter (merged app caller s incidentId eventType))
          (result.events.map TimelineEvent.activity) result.total) ↔
      (0 ≤ limit.val → TimelineSafe app caller s incidentId eventType)) := by
  have hincident := readIncident_ok hfind hread
  constructor
  · rw [← streamed_visible_iff hvisible, ← @page_confined_iff order limit offset,
      listIncidentActivities, bind_of_ok hincident]
  · rw [← merged_visible_iff hvisible, ← @page_confined_iff order limit offset,
      listIncidentTimeline, bind_of_ok hincident]
    constructor
    · intro h result hresult
      have hconfined := h _ (bind_of_ok hresult)
      rwa [List.map_map, show TimelineEvent.activity ∘ timelineEvent = id from rfl,
        List.map_id] at hconfined
    · intro h result hresult
      obtain ⟨listed, hlisted, hevents⟩ := bind_ok hresult
      cases hevents
      rw [List.map_map, show TimelineEvent.activity ∘ timelineEvent = id from rfl, List.map_id]
      exact h listed hlisted

end Streams

/-! ## Two tenants -/

/-- Rows of one time in the order of the table. -/
def NewestFirst.stable : NewestFirst where
  sort rows := rows.insertionSort (fun a b => b.createdAt ≤ a.createdAt)
  perm rows := List.perm_insertionSort _ rows
  sorted rows := TopK.sorted_byKey ActivityRow.createdAt rows

/-- A tenant with the alerts of one partner, and the first incident. -/
def acmeShows (resource : Resource) : Bool :=
  match resource with
  | .alert row => decide (row.partner.map (·.val) = some "acme")
  | .incident row => decide (row.id = 1)
  | _ => true

def acmeTenant : App :=
  ⟨[{ check := fun resource _ _ =>
        if acmeShows resource then .ok () else .error (.httpException 403 "Tenant access denied")
      keeps := fun resource _ _ => acmeShows resource }]⟩

/-- An entry in the trail of an alert, of an incident, or of both. -/
def entry (alertId incidentId : Option Uuid) : ActivityRow where
  alertId := alertId
  incidentId := incidentId
  analystId := none
  analystUsername := none
  action := .lit "comment"
  detail := none
  metadataJson := none
  createdAt := 0
  archivedAt := none

/-- The alerts and the incidents of two tenants; the first alert is linked to the first
incident. -/
def sharedTrail (activities : List ActivityRow) : Store :=
  { Store.empty with
    alerts := ⟨[⟨acmeBeacon, 0, none⟩, ⟨globexBeacon, 0, none⟩], by decide⟩
    incidents := twoIncidents.incidents
    activities := activities
    incidentAlerts := [⟨1, 1⟩] }

def fifty : PageLimit := ⟨50, by decide⟩

theorem streams_of_one_tenant :
    Confined (activityVisible acmeTenant none (sharedTrail [entry (some 1) (some 1)]))
        [entry (some 1) (some 1)] [entry (some 1) (some 1)] 1 ∧
      Confined (activityVisible acmeTenant none (sharedTrail [entry (some 1) (some 1)]))
        [entry (some 1) (some 1)] [entry (some 1) (some 1)] 1 := by
  have hfind : (sharedTrail [entry (some 1) (some 1)]).incidents.find? 1 = some (openIncident 1) :=
    rfl
  have hseen : ∀ other, (some 1 : Option Uuid) = some other →
      incidentVisible acmeTenant none (sharedTrail [entry (some 1) (some 1)]) other = true := by
    rintro _ ⟨⟩
    rfl
  obtain ⟨hstream, htimeline⟩ := @streams_confined_iff acmeTenant none _ _ _ hfind
    rfl rfl .stable fifty 0 .all
  refine ⟨hstream.mpr (fun _ => ?_) _ rfl, htimeline.mpr (fun _ => ?_) _ rfl⟩
  · intro activity hmem alertId _ _ _
    rw [List.mem_singleton.mp hmem]
    exact hseen
  · intro activity hmem _
    rw [List.mem_singleton.mp hmem]
    refine ⟨fun _ alertId halert => ?_, fun alertId _ _ _ => hseen⟩
    cases halert
    rfl

/-- The activities of an incident show those of another tenant's incident that one of its alerts
is linked to as well, and its timeline shows those about another tenant's alert. -/
theorem streams_leak :
    (¬ ∀ (app : App) (caller : Option Analyst) (s : Store) (incidentId : Uuid)
        (incident : IncidentRow) (order : NewestFirst) (limit : PageLimit) (offset : Nat)
        (result : ActivityList), s.incidents.find? incidentId = some incident →
        enforceTenantAccess app (.incident incident.toIncident) "read" caller = .ok () →
        incidentVisible app caller s incidentId = true →
        listIncidentActivities app order incidentId limit offset caller s = .ok result →
        Confined (activityVisible app caller s)
          (s.activities.filter (streamed app caller s incidentId))
          result.activities result.total) ∧
      ¬ ∀ (app : App) (caller : Option Analyst) (s : Store) (incidentId : Uuid)
        (incident : IncidentRow) (order : NewestFirst) (eventType : EventType)
        (limit : PageLimit) (offset : Nat) (result : TimelineList),
        s.incidents.find? incidentId = some incident →
        enforceTenantAccess app (.incident incident.toIncident) "read" caller = .ok () →
        incidentVisible app caller s incidentId = true →
        listIncidentTimeline app order incidentId eventType limit offset caller s = .ok result →
        Confined (activityVisible app caller s)
          (s.activities.filter (merged app caller s incidentId eventType))
          (result.events.map TimelineEvent.activity) result.total := by
  constructor
  · intro h
    have hcount : (2 : Nat) = 1 := (h acmeTenant none
      (sharedTrail [entry (some 1) (some 1), entry (some 1) (some 2)]) 1 (openIncident 1) .stable
      fifty 0 _ rfl rfl rfl rfl).2
    cases hcount
  · intro h
    have hcount : (1 : Nat) = 0 := (h acmeTenant none (sharedTrail [entry (some 2) (some 1)]) 1
      (openIncident 1) .stable .all fifty 0 _ rfl rfl rfl rfl).2
    cases hcount

end OpenSoar
