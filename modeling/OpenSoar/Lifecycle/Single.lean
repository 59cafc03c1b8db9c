/-
# `OpenSoar.Lifecycle.Single` — the single requests behind a bulk request

`bulk_update_alerts` does again, in a loop of its own, what `update_alert` and
`claim_alert` do to one alert.  `singleRequest` is the request for one listed alert
that makes the same change, and `Alert.triage` the six columns in which the two are
to be compared.  The one fact to take away is `run_singleRequests`: making the
request again, or making it for other alerts, changes nothing about an alert in
these columns.
-/
import OpenSoar.Lifecycle.System

namespace OpenSoar

open Python

/-- What triage decides about an alert. -/
structure Triage where
  status : Varchar 20
  severity : Varchar 20
  determination : Varchar 30
  resolvedAt : Option Timestamp
  assignedTo : Option Uuid
  assignedUsername : Option (Varchar 100)
deriving DecidableEq

def Alert.triage (alert : Alert) : Triage :=
  ⟨alert.status, alert.severity, alert.determination, alert.resolvedAt, alert.assignedTo,
    alert.assignedUsername⟩

/-- The row of an alert, in these columns. -/
def Db.triage (db : Db) (i : Uuid) : Option Triage := (db.alerts.find? i).map Alert.triage

/-! ## The single requests -/

/-- `PATCH` with `status = "resolved"`, and the determination and the reason that the
bulk request gives. -/
def BulkAlertUpdate.resolveRequest (body : BulkAlertUpdate) : AlertUpdate :=
  { AlertUpdate.none with
    status := some (some "resolved")
    determination := Field.given body.determination
    resolveReason := Field.given body.resolveReason }

/-- `PATCH` with the severity of the bulk request. -/
def BulkAlertUpdate.severityRequest (body : BulkAlertUpdate) : AlertUpdate :=
  { AlertUpdate.none with severity := some body.severity }

/-- The single-alert request for the change a bulk request makes; an action that no
such request makes is rejected. -/
def singleRequest (py : PyText) (app : App) (now : Timestamp) (analyst : Analyst)
    (body : BulkAlertUpdate) (i : Uuid) (db : Db) : Except Raised (Db × Alert) :=
  if body.action = "resolve" then
    updateAlert py app now i body.resolveRequest (some analyst) db
  else if body.action = "assign" then claimAlert app i (some analyst) db
  else if body.action = "change_severity" then
    updateAlert py app now i body.severityRequest (some analyst) db
  else .error (.valueError ("Unknown action: " ++ body.action))

/-- The single requests made one after another. -/
def singleStep (py : PyText) (app : App) (now : Timestamp) (analyst : Analyst)
    (body : BulkAlertUpdate) (db : Db) (i : Uuid) : Except Raised Db :=
  (singleRequest py app now analyst body i db).map Prod.fst

theorem Field.given_join (value : Option String) : (Field.given value).join = value := by
  cases value <;> rfl

/-- What a single request makes of the row it changes. -/
inductive SingleChanged (now : Timestamp) (analyst : Analyst) (body : BulkAlertUpdate)
    (alert alert' : Alert) : Prop
  | resolved : body.action = "resolve" →
      (truthy body.determination).getD alert.determination.val ≠ "unknown" →
      alert'.status.val = "resolved" →
      alert'.severity = alert.severity →
      alert'.determination.val = body.determination.getD alert.determination.val →
      alert'.resolvedAt = some (alert.resolvedAt.getD now) →
      alert'.assignedTo = alert.assignedTo →
      alert'.assignedUsername = alert.assignedUsername → SingleChanged now analyst body alert alert'
  | claimed : body.action = "assign" → alert' = (claimRow analyst alert).1 →
      SingleChanged now analyst body alert alert'
  | severity : body.action = "change_severity" → some alert'.severity.val = body.severity →
      alert'.status = alert.status → alert'.determination = alert.determination →
      alert'.resolvedAt = alert.resolvedAt → alert'.assignedTo = alert.assignedTo →
      alert'.assignedUsername = alert.assignedUsername → SingleChanged now analyst body alert alert'

/-- What a single request for a resolution did. -/
theorem SingleChanged.of_resolve {now : Timestamp} {analyst : Analyst} {body : BulkAlertUpdate}
    {a a' : Alert} (h : SingleChanged now analyst body a a') (haction : body.action = "resolve") :
    a'.status.val = "resolved" ∧ a'.severity = a.severity ∧
      a'.determination.val = body.determination.getD a.determination.val ∧
      a'.resolvedAt = some (a.resolvedAt.getD now) ∧ a'.assignedTo = a.assignedTo ∧
      a'.assignedUsername = a.assignedUsername := by
  cases h with
  | resolved _ _ hstatus hseverity hdet hstamp hto hname =>
      exact ⟨hstatus, hseverity, hdet, hstamp, hto, hname⟩
  | claimed hother _ => exact absurd (haction.symm.trans hother) (by decide)
  | severity hother _ _ _ _ _ _ => exact absurd (haction.symm.trans hother) (by decide)

/-- What a single request for an assignment did. -/
theorem SingleChanged.of_assign {now : Timestamp} {analyst : Analyst} {body : BulkAlertUpdate}
    {a a' : Alert} (h : SingleChanged now analyst body a a') (haction : body.action = "assign") :
    a' = (claimRow analyst a).1 := by
  cases h with
  | claimed _ hrow => exact hrow
  | resolved hother _ _ _ _ _ _ _ => exact absurd (haction.symm.trans hother) (by decide)
  | severity hother _ _ _ _ _ _ => exact absurd (haction.symm.trans hother) (by decide)

/-- What a single request for another severity did. -/
theorem SingleChanged.of_severity {now : Timestamp} {analyst : Analyst} {body : BulkAlertUpdate}
    {a a' : Alert} (h : SingleChanged now analyst body a a')
    (haction : body.action = "change_severity") :
    some a'.severity.val = body.severity ∧ a'.status = a.status ∧
      a'.determination = a.determination ∧ a'.resolvedAt = a.resolvedAt ∧
      a'.assignedTo = a.assignedTo ∧ a'.assignedUsername = a.assignedUsername := by
  cases h with
  | severity _ hgiven hstatus hdet hstamp hto hname =>
      exact ⟨hgiven, hstatus, hdet, hstamp, hto, hname⟩
  | resolved hother _ _ _ _ _ _ _ => exact absurd (haction.symm.trans hother) (by decide)
  | claimed hother _ => exact absurd (haction.symm.trans hother) (by decide)

theorem resolveRequest_changed {py : PyText} {now : Timestamp} {analyst : Analyst}
    {body : BulkAlertUpdate} {a a' : Alert} {log : List Activity}
    (h : Updated py now analyst body.resolveRequest a a' log) (haction : body.action = "resolve") :
    SingleChanged now analyst body a a' := by
  obtain ⟨hassignedTo, husername⟩ := h.assigned rfl
  have hknown := (validateUpdate_ok h.valid).2 rfl
  rw [show body.resolveRequest.determination.join = body.determination from
    Field.given_join body.determination] at hknown
  refine .resolved haction hknown (column_val h.status) ?_ (Field.assign_given h.determination) ?_
    hassignedTo husername
  · exact (Except.ok.inj h.severity).symm
  · have hstamp := h.resolvedAt
    cases hbefore : a.resolvedAt with
    | none => rw [hbefore, if_pos ⟨rfl, rfl⟩] at hstamp; exact hstamp
    | some t =>
        rw [hbefore, if_neg (fun hcond => by cases hcond.2)] at hstamp
        exact hstamp

theorem severityRequest_changed {py : PyText} {now : Timestamp} {analyst : Analyst}
    {body : BulkAlertUpdate} {a a' : Alert} {log : List Activity}
    (h : Updated py now analyst body.severityRequest a a' log)
    (haction : body.action = "change_severity") : SingleChanged now analyst body a a' := by
  obtain ⟨hassignedTo, husername⟩ := h.assigned rfl
  have hstamp := h.resolvedAt
  rw [if_neg (fun hcond => by cases hcond.1)] at hstamp
  refine .severity haction ?_ (Except.ok.inj h.status).symm
    (Except.ok.inj h.determination).symm hstamp hassignedTo husername
  rcases Field.assign_ok h.severity with ⟨hnone, -⟩ | ⟨severity, hgiven, hval⟩
  · cases hnone
  · rw [hval]
    exact (Option.some.inj hgiven).symm

/-- An accepted single request changes the row of its alert and no other. -/
theorem singleRequest_ok {py : PyText} {app : App} {now : Timestamp} {analyst : Analyst}
    {body : BulkAlertUpdate} {i : Uuid} {db db' : Db} {a' : Alert}
    (h : singleRequest py app now analyst body i db = .ok (db', a')) :
    (∃ a, db.alerts.find? i = some a ∧ db'.alerts.find? i = some a' ∧
      SingleChanged now analyst body a a' ∧
      (enforceTenantAccess app (.alert a) "update" (some analyst) = .ok () ∨
        enforceTenantAccess app (.alert a) "claim" (some analyst) = .ok ())) ∧
    (∀ j, j ≠ i → db'.alerts.find? j = db.alerts.find? j) ∧ db'.analysts = db.analysts := by
  simp only [singleRequest] at h
  have hload : ∃ alert alert' activities, db.alerts.find? i = some alert ∧
      db' = db.commitAlert alert' activities ∧ alert' = a' ∧ alert'.id = alert.id ∧
      SingleChanged now analyst body alert alert' ∧
      (enforceTenantAccess app (.alert alert) "update" (some analyst) = .ok () ∨
        enforceTenantAccess app (.alert alert) "claim" (some analyst) = .ok ()) := by
    split at h
    · rename_i haction
      obtain ⟨_, alert, activities, ⟨⟩, hfind, hallowed, hupdated, hdb⟩ := updateAlert_ok h
      exact ⟨alert, a', activities, hfind, hdb, rfl, hupdated.id,
        resolveRequest_changed hupdated haction, Or.inl hallowed⟩
    split at h
    · rename_i haction
      obtain ⟨_, alert, activities, ⟨⟩, hfind, hallowed, hclaim, hdb⟩ := claimAlert_ok h
      have hid := (claimRow_takenOn analyst alert).id
      rw [← hclaim] at hid
      exact ⟨alert, a', activities, hfind, hdb, rfl, hid, .claimed haction (by rw [← hclaim]),
        Or.inr hallowed⟩
    split at h
    · rename_i haction
      obtain ⟨_, alert, activities, ⟨⟩, hfind, hallowed, hupdated, hdb⟩ := updateAlert_ok h
      exact ⟨alert, a', activities, hfind, hdb, rfl, hupdated.id,
        severityRequest_changed hupdated haction, Or.inl hallowed⟩
    · cases h
  obtain ⟨alert, alert', activities, hfind, rfl, rfl, hid, hchanged, hallowed⟩ := hload
  have hkey : alert.id = i := Table.find?_key hfind
  subst hkey
  refine ⟨⟨alert, hfind, Db.find?_commitAlert_self hfind hid, hchanged, hallowed⟩, ?_, rfl⟩
  intro j hj
  exact Db.find?_commitAlert_ne (fun heq => hj (heq.trans hid))

/-- A single request made again leaves these columns as they are. -/
theorem SingleChanged.again {now : Timestamp} {analyst : Analyst} {body : BulkAlertUpdate}
    {a a' b b' : Alert} (h : SingleChanged now analyst body a a') (hb : b.triage = a'.triage)
    (h' : SingleChanged now analyst body b b') : b'.triage = b.triage := by
  obtain ⟨hstatus, hseverity, hdet, hstamp, hto, hname⟩ := Triage.mk.inj hb
  cases h' with
  | resolved haction _ hstatus' hseverity' hdet' hstamp' hto' hname' =>
      obtain ⟨hresolved, -, hgiven, hstamped, -, -⟩ := h.of_resolve haction
      have hstatusEq : b'.status = b.status :=
        Varchar.ext_val (by rw [hstatus', hstatus, hresolved])
      have hdetEq : b'.determination = b.determination := by
        refine Varchar.ext_val ?_
        rw [hdet', hdet, hgiven]
        cases body.determination <;> rfl
      have hstampEq : b'.resolvedAt = b.resolvedAt := by
        rw [hstamp', hstamp, hstamped]
        rfl
      simp only [Alert.triage, hstatusEq, hseverity', hdetEq, hstampEq, hto', hname']
  | claimed haction hrow =>
      have hrow₁ := h.of_assign haction
      subst hrow hrow₁
      have hnew : b.status.val ≠ "new" := by
        rw [hstatus, (claimRow_takenOn analyst a).status]
        split
        · decide
        · assumption
      have hto₁ : b.assignedTo = some analyst.id := by
        rw [hto]
        simp only [claimRow]
        split <;> rfl
      have hname₁ : b.assignedUsername = some analyst.username := by
        rw [hname]
        simp only [claimRow]
        split <;> rfl
      simp only [claimRow, if_neg hnew, Alert.triage, hto₁, hname₁]
  | severity haction hgiven hstatus' hdet' hstamp' hto' hname' =>
      obtain ⟨hgiven₁, -, -, -, -, -⟩ := h.of_severity haction
      have hseverityEq : b'.severity = b.severity := by
        refine Varchar.ext_val (Option.some.inj ?_)
        rw [hgiven, hseverity, hgiven₁]
      simp only [Alert.triage, hstatus', hseverityEq, hdet', hstamp', hto', hname']

/-- A single request reads nothing but its alert's row, and the analysts. -/
theorem singleRequest_congr (py : PyText) (app : App) (now : Timestamp) (analyst : Analyst)
    (body : BulkAlertUpdate) {i : Uuid} {db s : Db}
    (hrow : s.alerts.find? i = db.alerts.find? i) (hanalysts : s.analysts = db.analysts) :
    (singleRequest py app now analyst body i s).map Prod.snd
      = (singleRequest py app now analyst body i db).map Prod.snd := by
  have hwith : ∀ f : Alert → Except Raised (Alert × List Activity),
      (s.withAlert i alertNotFound f).map Prod.snd
        = (db.withAlert i alertNotFound f).map Prod.snd := by
    intro f
    simp only [Db.withAlert, hrow]
    cases db.alerts.find? i with
    | none => rfl
    | some a =>
        cases hf : f a with
        | error e => simp only [hf]
        | ok result => simp only [hf]; rfl
  simp only [singleRequest, updateAlert, claimAlert, hanalysts]
  cases requirePermission .alertsUpdate (some analyst) with
  | error e => rfl
  | ok caller =>
      split
      · exact hwith _
      split
      · exact hwith _
      split
      · exact hwith _
      · rfl

/-- The single requests, made for a list of alerts, leave each of them as one request
for it does. -/
theorem run_singleRequests {py : PyText} {app : App} {now : Timestamp} {analyst : Analyst}
    {body : BulkAlertUpdate} {ids : List Uuid} {i : Uuid} {db : Db} (hi : i ∈ ids) :
    (∀ e, singleRequest py app now analyst body i db = .error e →
      (run (singleStep py app now analyst body) db ids).triage i = db.triage i) ∧
    ∀ db₁ a₁, singleRequest py app now analyst body i db = .ok (db₁, a₁) →
      (run (singleStep py app now analyst body) db ids).triage i = some a₁.triage := by
  have hother : ∀ s j, j ≠ i →
      (attempt (singleStep py app now analyst body) s j).alerts.find? i = s.alerts.find? i ∧
        (attempt (singleStep py app now analyst body) s j).analysts = s.analysts := by
    intro s j hj
    refine attempt_inv (singleStep py app now analyst body)
      (P := fun s' => s'.alerts.find? i = s.alerts.find? i ∧ s'.analysts = s.analysts)
      ⟨rfl, rfl⟩ ?_
    intro s' hs
    obtain ⟨result, hresult, rfl⟩ := map_ok hs
    obtain ⟨-, hframe, hanalysts⟩ := singleRequest_ok hresult
    exact ⟨hframe i (Ne.symm hj), hanalysts⟩
  constructor
  · intro e herror
    have hsame := (run_touch (singleStep py app now analyst body) (o := i)
      (P := fun s => s.alerts.find? i = db.alerts.find? i ∧ s.analysts = db.analysts)
      (Q := fun s => s.alerts.find? i = db.alerts.find? i ∧ s.analysts = db.analysts)
      ?_ ?_ ids db (Or.inl ⟨rfl, rfl⟩)).2 (Or.inl hi)
    · simp only [Db.triage, hsame.1]
    · intro s j hj
      obtain ⟨hrow, hanalysts⟩ := hother s j hj
      rw [hrow, hanalysts]
      exact ⟨id, id⟩
    · rintro s hs
      rw [or_self] at hs
      have hcongr := singleRequest_congr py app now analyst body hs.1 hs.2
      rw [herror] at hcongr
      cases hrequest : singleRequest py app now analyst body i s with
      | error e' =>
          have hstep : singleStep py app now analyst body s i = .error e' := by
            simp only [singleStep, hrequest]; rfl
          rw [attempt_error _ hstep]
          exact hs
      | ok result =>
          rw [hrequest] at hcongr
          cases hcongr
  · intro db₁ a₁ haccepted
    have hdone := (run_touch (singleStep py app now analyst body) (o := i)
      (P := fun s => s.alerts.find? i = db.alerts.find? i ∧ s.analysts = db.analysts)
      (Q := fun s => s.triage i = some a₁.triage)
      ?_ ?_ ids db (Or.inl ⟨rfl, rfl⟩)).2 (Or.inl hi)
    · exact hdone
    · intro s j hj
      obtain ⟨hrow, hanalysts⟩ := hother s j hj
      simp only [Db.triage, hrow, hanalysts]
      exact ⟨id, id⟩
    · rintro s (hs | hs)
      · have hcongr := singleRequest_congr py app now analyst body hs.1 hs.2
        rw [haccepted] at hcongr
        obtain ⟨result, hresult, hsnd⟩ := map_ok hcongr
        have hstep : singleStep py app now analyst body s i = .ok result.1 := by
          simp only [singleStep, hresult]; rfl
        obtain ⟨⟨_, -, hfind, -, -⟩, -, -⟩ := singleRequest_ok hresult
        have hsnd' : result.2 = a₁ := hsnd
        rw [attempt_ok _ hstep]
        simp only [Db.triage, hfind, hsnd', Option.map_some]
      · refine attempt_inv (singleStep py app now analyst body)
          (P := fun s => s.triage i = some a₁.triage) hs ?_
        intro s' hstep
        obtain ⟨result, hresult, rfl⟩ := map_ok hstep
        obtain ⟨⟨b, hb, hfind, hagain, -⟩, -, -⟩ := singleRequest_ok hresult
        obtain ⟨⟨_, -, -, hfirst, -⟩, -, -⟩ := singleRequest_ok haccepted
        have htriage : b.triage = a₁.triage := by
          simp only [Db.triage, hb, Option.map_some] at hs
          exact Option.some.inj hs
        simp only [Db.triage, hfind, Option.map_some]
        exact congrArg some ((hfirst.again htriage hagain).trans htriage)

end OpenSoar
