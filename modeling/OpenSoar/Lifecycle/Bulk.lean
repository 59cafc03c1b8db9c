/-
# `OpenSoar.Lifecycle.Bulk` — a bulk request against the single requests it stands for

The bulk loop and the single requests part ways by design in one place: an alert
that is resolved already is skipped by a bulk resolution, while a `PATCH` would write
its determination again.  Apart from the skipped alerts, every listed alert ends as
its single requests would leave it, and the loop counts it as failed exactly when the
single request is rejected (`bulk_agrees_with_single`).

`bulkLoop_touch` carries the argument: of all passes of the loop only those for an id
matter to its row, the first of them decides, and the others keep what it did.
-/
import OpenSoar.Lifecycle.Single

namespace OpenSoar

open Python

/-! ## The bulk loop -/

def BulkOutcome.isFailed : BulkOutcome → Bool
  | .failed _ => true
  | _ => false

/-- The row of the id a pass is at, after the pass. -/
def BulkOutcome.rowAfter (row : Option Alert) : BulkOutcome → Option Alert
  | .updated alert _ => some alert
  | _ => row

/-- The ids at whose pass the loop counts a failure, in the order of the passes. -/
def bulkFailedIds (app : App) (now : Timestamp) (analyst : Analyst) (body : BulkAlertUpdate)
    (loaded : Uuid → Bool) : Db × BulkOperationResult → List Uuid → List Uuid
  | _, [] => []
  | state, aid :: aids =>
      match bulkOutcome app now analyst body loaded state.1 aid with
      | .error _ => []
      | .ok outcome =>
          (if outcome.isFailed then [aid] else [])
            ++ bulkFailedIds app now analyst body loaded (outcome.count state) aids

theorem bulkStep_ok {app : App} {now : Timestamp} {analyst : Analyst} {body : BulkAlertUpdate}
    {loaded : Uuid → Bool} {state state' : Db × BulkOperationResult} {aid : Uuid}
    (h : bulkStep app now analyst body loaded state aid = .ok state') :
    ∃ outcome, bulkOutcome app now analyst body loaded state.1 aid = .ok outcome ∧
      outcome.count state = state' :=
  map_ok h

/-- The counter and the list of errors are those of the failed ids. -/
theorem bulkFailedIds_length {app : App} {now : Timestamp} {analyst : Analyst}
    {body : BulkAlertUpdate} {loaded : Uuid → Bool} :
    ∀ (aids : List Uuid) {state state' : Db × BulkOperationResult},
      aids.foldlM (bulkStep app now analyst body loaded) state = .ok state' →
      state'.2.failed = state.2.failed
          + (bulkFailedIds app now analyst body loaded state aids).length ∧
        state'.2.errors.length = state.2.errors.length
          + (bulkFailedIds app now analyst body loaded state aids).length := by
  intro aids
  induction aids with
  | nil =>
    intro state state' h
    cases h
    exact ⟨rfl, rfl⟩
  | cons aid aids ih =>
    intro state state' h
    rw [List.foldlM_cons] at h
    obtain ⟨mid, hstep, hrest⟩ := bind_ok h
    obtain ⟨outcome, houtcome, rfl⟩ := bulkStep_ok hstep
    obtain ⟨hfailed, herrors⟩ := ih hrest
    simp only [bulkFailedIds, houtcome]
    rw [hfailed, herrors, List.length_append]
    cases outcome with
    | updated alert activities => simp [BulkOutcome.count, BulkOutcome.isFailed]
    | skipped => simp [BulkOutcome.count, BulkOutcome.isFailed]
    | failed error =>
      simp only [BulkOutcome.count, BulkOutcome.isFailed, BulkOperationResult.fail,
        List.length_append, List.length_singleton, if_true]
      omega

/-- A pass changes at most the row of its own id. -/
theorem count_row {app : App} {now : Timestamp} {analyst : Analyst} {body : BulkAlertUpdate}
    {loaded : Uuid → Bool} {state : Db × BulkOperationResult} {aid : Uuid}
    {outcome : BulkOutcome}
    (h : bulkOutcome app now analyst body loaded state.1 aid = .ok outcome) (i : Uuid) :
    (outcome.count state).1.alerts.find? i =
      if i = aid then outcome.rowAfter (state.1.alerts.find? aid)
      else state.1.alerts.find? i := by
  cases outcome with
  | failed error =>
      simp only [BulkOutcome.count, BulkOutcome.rowAfter]
      split
      · rename_i heq; rw [heq]
      · rfl
  | skipped =>
      simp only [BulkOutcome.count, BulkOutcome.rowAfter]
      split
      · rename_i heq; rw [heq]
      · rfl
  | updated alert' activities =>
      rcases bulkOutcome_cases h with ⟨error, herror⟩ | ⟨alert, hfind, hrow⟩
      · cases herror
      · have hkey : alert.id = aid := Table.find?_key hfind
        subst hkey
        obtain ⟨hid, -⟩ := (bulkRow_updated hrow).rowFunction
        simp only [BulkOutcome.count, BulkOutcome.rowAfter]
        split
        · rename_i heq
          rw [heq]
          exact Db.find?_commitAlert_self hfind hid
        · rename_i hne
          exact Db.find?_commitAlert_ne (fun heq => hne (heq.trans hid))

/-- The bulk loop, seen from one id: `P` is its row before its first pass and `Q` its
row after each of them, and every pass fails or none does. -/
theorem bulkLoop_touch {app : App} {now : Timestamp} {analyst : Analyst}
    {body : BulkAlertUpdate} {loaded : Uuid → Bool} {i : Uuid} {P Q : Option Alert → Prop}
    (fails : Bool)
    (hpass : ∀ db outcome, P (db.alerts.find? i) ∨ Q (db.alerts.find? i) →
      bulkOutcome app now analyst body loaded db i = .ok outcome →
      outcome.isFailed = fails ∧ Q (outcome.rowAfter (db.alerts.find? i))) :
    ∀ (aids : List Uuid) {state state' : Db × BulkOperationResult},
      aids.foldlM (bulkStep app now analyst body loaded) state = .ok state' →
      P (state.1.alerts.find? i) ∨ Q (state.1.alerts.find? i) →
      (i ∈ aids ∨ Q (state.1.alerts.find? i) → Q (state'.1.alerts.find? i)) ∧
        (i ∈ bulkFailedIds app now analyst body loaded state aids ↔ i ∈ aids ∧ fails = true) := by
  intro aids
  induction aids with
  | nil =>
    intro state state' h hs
    cases h
    refine ⟨?_, ?_⟩
    · rintro (hmem | hQ)
      · cases hmem
      · exact hQ
    · simp [bulkFailedIds]
  | cons aid aids ih =>
    intro state state' h hs
    rw [List.foldlM_cons] at h
    obtain ⟨mid, hstep, hrest⟩ := bind_ok h
    obtain ⟨outcome, houtcome, rfl⟩ := bulkStep_ok hstep
    have hrow := count_row houtcome i
    simp only [bulkFailedIds, houtcome, List.mem_append]
    by_cases haid : i = aid
    · subst haid
      obtain ⟨hfails, hQ⟩ := hpass state.1 outcome hs houtcome
      rw [if_pos rfl] at hrow
      rw [← hrow] at hQ
      obtain ⟨hdone, hfailed⟩ := ih hrest (Or.inr hQ)
      refine ⟨fun _ => hdone (Or.inr hQ), ?_⟩
      rw [hfailed, hfails]
      cases fails <;> simp
    · rw [if_neg haid] at hrow
      rw [← hrow] at hs
      obtain ⟨hdone, hfailed⟩ := ih hrest hs
      rw [hrow] at hdone
      refine ⟨?_, ?_⟩
      · rintro (hmem | hQ)
        · rcases List.mem_cons.mp hmem with heq | hmem
          · exact absurd heq haid
          · exact hdone (Or.inl hmem)
        · exact hdone (Or.inr hQ)
      · rw [hfailed]
        have hnot : i ∉ (if outcome.isFailed then [aid] else []) := by
          split
          · simpa using haid
          · exact List.not_mem_nil
        simp only [hnot, false_or, List.mem_cons, haid]

/-! ## One alert, both ways -/

/-- The alerts a bulk request of this analyst can see. -/
def visible (app : App) (analyst : Analyst) (alert : Alert) : Bool :=
  applyTenantAccessQuery app (.alert alert) "bulk_update" (some analyst)

/-- The registered validators decide by the tenant of an alert, whichever of the three
actions they are asked about and whether they guard an access or narrow a query. -/
structure DecidesByTenant (app : App) (analyst : Analyst) : Prop where
  update : ∀ a, enforceTenantAccess app (.alert a) "update" (some analyst) = .ok () ↔
    visible app analyst a = true
  claim : ∀ a, enforceTenantAccess app (.alert a) "claim" (some analyst) = .ok () ↔
    visible app analyst a = true
  bulkUpdate : ∀ a, enforceTenantAccess app (.alert a) "bulk_update" (some analyst) = .ok () ↔
    visible app analyst a = true
  tenant : ∀ a a', a'.id = a.id → a'.partner = a.partner →
    visible app analyst a' = visible app analyst a

theorem decidesByTenant_core (analyst : Analyst) : DecidesByTenant .core analyst where
  update _ := ⟨fun _ => rfl, fun _ => rfl⟩
  claim _ := ⟨fun _ => rfl, fun _ => rfl⟩
  bulkUpdate _ := ⟨fun _ => rfl, fun _ => rfl⟩
  tenant _ _ _ _ := rfl

/-- The alert is skipped by a bulk resolution: it is resolved already. -/
def Skipped (body : BulkAlertUpdate) (alert : Alert) : Prop :=
  body.action = "resolve" ∧ alert.status.val = "resolved"

/-- Only a bulk resolution skips, and only a resolved alert. -/
theorem bulkRow_skipped {now : Timestamp} {analyst : Analyst} {body : BulkAlertUpdate}
    {a : Alert} (h : bulkRow now analyst body a = .ok .skipped) : Skipped body a := by
  simp only [bulkRow] at h
  split at h
  · rename_i haction
    simp only [bulkResolve] at h
    split at h
    · rename_i hresolved
      exact ⟨haction, hresolved⟩
    · split at h
      · cases h
      · obtain ⟨_, -, h⟩ := bind_ok h
        obtain ⟨_, -, h⟩ := bind_ok h
        cases h
  · split at h
    · cases h
    · split at h
      · obtain ⟨_, -, h⟩ := bind_ok h
        cases h
      · cases h

/-- A pass on a row fails for want of a determination, of a severity or of an action. -/
theorem bulkRow_failed {now : Timestamp} {analyst : Analyst} {body : BulkAlertUpdate}
    {a : Alert} {error : String} (h : bulkRow now analyst body a = .ok (.failed error)) :
    ¬ Skipped body a ∧
      (body.action = "resolve" →
        (truthy body.determination).getD a.determination.val = "unknown") ∧
      body.action ≠ "assign" ∧
      (body.action = "change_severity" → truthy body.severity = none) := by
  simp only [bulkRow] at h
  split at h
  · rename_i haction
    simp only [bulkResolve] at h
    split at h
    · cases h
    · rename_i hopen
      split at h
      · rename_i hunknown
        refine ⟨?_, fun _ => hunknown, ?_, ?_⟩
        · intro hskipped
          exact hopen hskipped.2
        · rw [haction]
          decide
        · intro hother
          exact absurd (haction.symm.trans hother) (by decide)
      · obtain ⟨_, -, h⟩ := bind_ok h
        obtain ⟨_, -, h⟩ := bind_ok h
        cases h
  · rename_i hresolve
    split at h
    · cases h
    · rename_i hassign
      refine ⟨fun hskipped => hresolve hskipped.1, fun hother => absurd hother hresolve,
        hassign, ?_⟩
      intro hseverity
      rw [if_pos hseverity] at h
      cases hgiven : truthy body.severity with
      | none => rfl
      | some severity =>
        rw [hgiven] at h
        obtain ⟨_, -, h⟩ := bind_ok h
        cases h

theorem bulkChanged_partner {now : Timestamp} {analyst : Analyst} {body : BulkAlertUpdate}
    {a a' : Alert} {log : List Activity} (h : BulkChanged now analyst body a a' log) :
    a'.partner = a.partner := by
  cases h with
  | resolved _ _ _ _ _ _ _ _ hrow => rw [hrow]
  | assigned _ hrow => cases hrow; rfl
  | severity _ _ _ _ hrow =>
      obtain ⟨_, -, rfl⟩ := hrow
      rfl

theorem bulkChanged_not_skipped {now : Timestamp} {analyst : Analyst} {body : BulkAlertUpdate}
    {a a' : Alert} {log : List Activity} (h : BulkChanged now analyst body a a' log) :
    ¬ Skipped body a := by
  rintro ⟨haction, hresolved⟩
  cases h with
  | resolved _ _ _ _ hopen _ _ _ _ => exact hopen hresolved
  | assigned hother _ => exact absurd (haction.symm.trans hother) (by decide)
  | severity _ _ hother _ _ => exact absurd (haction.symm.trans hother) (by decide)

/-- A pass over a row that an earlier pass has changed leaves these columns alone. -/
theorem bulkRow_again {now : Timestamp} {analyst : Analyst} {body : BulkAlertUpdate}
    {a a' b : Alert} {log : List Activity} {outcome : BulkOutcome}
    (h : BulkChanged now analyst body a a' log) (hb : b.triage = a'.triage)
    (hrow : bulkRow now analyst body b = .ok outcome) :
    outcome.isFailed = false ∧ ∃ b', outcome.rowAfter (some b) = some b' ∧
      b'.triage = b.triage ∧ b'.id = b.id ∧ b'.partner = b.partner := by
  obtain ⟨hstatus, hseverity, hdet, hstamp, hto, hname⟩ := Triage.mk.inj hb
  cases h with
  | resolved _ _ _ haction _ _ _ _ hresolved =>
      subst hresolved
      have hskip : bulkRow now analyst body b = .ok .skipped := by
        rw [bulkRow, if_pos haction, bulkResolve, if_pos (by rw [hstatus])]
      cases hskip.symm.trans hrow
      exact ⟨rfl, b, rfl, rfl, rfl, rfl⟩
  | assigned haction hassigned =>
      have hassign : bulkRow now analyst body b = .ok (bulkAssign analyst b) := by
        rw [bulkRow, if_neg (by rw [haction]; decide), if_pos haction]
      cases hassign.symm.trans hrow
      refine ⟨rfl, _, rfl, ?_, rfl, rfl⟩
      have htaken := (bulkAssign_takenOn hassigned).status
      cases hassigned
      have hnew : b.status.val ≠ "new" := by
        rw [hstatus, htaken]
        split
        · decide
        · assumption
      simp only [Alert.triage, if_neg hnew, hto, hname]
  | severity new _ haction hgiven hchanged =>
      obtain ⟨severity, rfl, rfl⟩ := hchanged
      have hchange : bulkRow now analyst body b
          = bulkChangeSeverity analyst severity.val b := by
        rw [bulkRow, if_neg (by rw [haction]; decide), if_neg (by rw [haction]; decide),
          if_pos haction, hgiven]
      rw [hchange, bulkChangeSeverity, column_of_fits] at hrow
      cases hrow
      refine ⟨rfl, _, rfl, ?_, rfl, rfl⟩
      have hsame : b.severity = severity := hseverity
      simp only [Alert.triage, hsame]

/-- A value that is not the empty string is given or is not. -/
theorem truthy_getD_of_ne {value : Option String} {old : String} (h : value ≠ some "") :
    (truthy value).getD old = value.getD old := by
  cases value with
  | none => rfl
  | some v =>
      have hv : v ≠ "" := fun hempty => h (congrArg some hempty)
      rw [truthy_eq_some.mpr ⟨rfl, hv⟩]

/-- A valid determination fits its column. -/
theorem validDetermination_fits {d : String} (h : d ∈ validDeterminations) : d.length ≤ 30 := by
  simp only [validDeterminations, List.mem_cons, List.not_mem_nil, or_false] at h
  rcases h with rfl | rfl | rfl | rfl <;> decide

/-- A `PATCH` that passes its checks, assigns no one and whose values fit is accepted. -/
theorem updateRow_of_fields {py : PyText} {update : AlertUpdate} {a : Alert}
    (analysts : Table Analyst.id) (now : Timestamp) (analyst : Analyst)
    (hguard : validateUpdate py update a = .ok ()) (hassign : update.assignedTo = none)
    (hfields : ∃ updated, setFields update a = .ok updated) :
    ∃ result, updateRow py analysts now analyst update a = .ok result := by
  obtain ⟨updated, hfields⟩ := hfields
  simp only [updateRow, hguard, hassign, assignField]
  show ∃ result, (setFields update a >>= _) = .ok result
  rw [hfields]
  exact ⟨_, rfl⟩

/-- The `PATCH` that resolves is accepted where the bulk request resolves. -/
theorem updateRow_resolveRequest (py : PyText) (analysts : Table Analyst.id) (now : Timestamp)
    (analyst : Analyst) {body : BulkAlertUpdate} {a : Alert} {reason : Option (Varchar 255)}
    (hvalid : ∀ d, body.determination = some d → d ∈ validDeterminations)
    (hknown : (truthy body.determination).getD a.determination.val ≠ "unknown")
    (hreason : (Field.given (truthy body.resolveReason)).assignNullable a.resolveReason
      = .ok reason) :
    ∃ result, updateRow py analysts now analyst body.resolveRequest a = .ok result := by
  have hjoin : body.resolveRequest.determination.join = body.determination :=
    Field.given_join body.determination
  have hguard : validateUpdate py body.resolveRequest a = .ok () := by
    simp only [validateUpdate, hjoin]
    rw [if_neg, if_neg]
    · exact fun hcond => hknown hcond.2
    · cases htruthy : truthy body.determination with
      | none => simp
      | some d =>
          have hd := hvalid d (truthy_eq_some.mp htruthy).1
          simpa using hd
  have hreason' : ∃ reason', (Field.given body.resolveReason).assignNullable a.resolveReason
      = .ok reason' := by
    cases hgiven : body.resolveReason with
    | none => exact ⟨_, rfl⟩
    | some r =>
        by_cases hempty : r = ""
        · subst hempty
          exact ⟨_, rfl⟩
        · have htruthy : truthy body.resolveReason = some r := truthy_eq_some.mpr ⟨hgiven, hempty⟩
          rw [htruthy] at hreason
          exact ⟨reason, hreason⟩
  have hdet' : ∃ d', (Field.given body.determination).assign a.determination = .ok d' := by
    cases hgiven : body.determination with
    | none => exact ⟨_, rfl⟩
    | some d => exact ⟨_, column_ok (validDetermination_fits (hvalid d hgiven))⟩
  obtain ⟨reason', hreason'⟩ := hreason'
  obtain ⟨d', hdet'⟩ := hdet'
  refine updateRow_of_fields analysts now analyst hguard rfl ?_
  simp only [setFields, BulkAlertUpdate.resolveRequest, AlertUpdate.none, hreason', hdet']
  exact ⟨_, rfl⟩

/-- The `PATCH` of the severity is accepted where its value fits. -/
theorem updateRow_severityRequest (py : PyText) (analysts : Table Analyst.id) (now : Timestamp)
    (analyst : Analyst) {body : BulkAlertUpdate} {a : Alert} {severity : Varchar 20}
    (hgiven : body.severity = some severity.val) :
    ∃ result, updateRow py analysts now analyst body.severityRequest a = .ok result := by
  refine updateRow_of_fields analysts now analyst rfl rfl ?_
  have hcolumn : (body.severityRequest.severity).assign a.severity = .ok severity := by
    simp only [BulkAlertUpdate.severityRequest, hgiven]
    exact column_of_fits severity
  simp only [setFields, hcolumn]
  exact ⟨_, rfl⟩

/-- A load that finds its alert, and whose row function succeeds on it, is accepted. -/
theorem withAlert_of_row {db : Db} {i : Uuid} {missing : Raised}
    {f : Alert → Except Raised (Alert × List Activity)} {a : Alert}
    {result : Alert × List Activity} (hfind : db.alerts.find? i = some a)
    (hrow : f a = .ok result) :
    db.withAlert i missing f = .ok (db.commitAlert result.1 result.2, result.1) := by
  simp only [Db.withAlert, hfind, hrow]

section Agreement

variable {py : PyText} {app : App} {now : Timestamp} {analyst : Analyst}
  {body : BulkAlertUpdate} {db : Db} {i : Uuid} {a : Alert}

/-- A `PATCH` is accepted when its row function is. -/
theorem updateAlert_of_row {update : AlertUpdate} {result : Alert × List Activity}
    (hanalyst : requirePermission .alertsUpdate (some analyst) = .ok analyst)
    (hupdate : enforceTenantAccess app (.alert a) "update" (some analyst) = .ok ())
    (hfind : db.alerts.find? i = some a)
    (hrow : updateRow py db.analysts now analyst update a = .ok result) :
    updateAlert py app now i update (some analyst) db
      = .ok (db.commitAlert result.1 result.2, result.1) := by
  simp only [updateAlert, hanalyst]
  refine withAlert_of_row hfind ?_
  simp only [hupdate]
  exact hrow

/-- Where the bulk request resolves, the `PATCH` does. -/
theorem singleRequest_of_resolved (py : PyText) {reason : Option (Varchar 255)}
    {determination : Varchar 30}
    (hanalyst : requirePermission .alertsUpdate (some analyst) = .ok analyst)
    (hupdate : enforceTenantAccess app (.alert a) "update" (some analyst) = .ok ())
    (hfind : db.alerts.find? i = some a) (haction : body.action = "resolve")
    (hknown : (truthy body.determination).getD a.determination.val ≠ "unknown")
    (hreason : (Field.given (truthy body.resolveReason)).assignNullable a.resolveReason
      = .ok reason)
    (hdet : determination.val = (truthy body.determination).getD a.determination.val)
    (hvalid : ∀ d, body.determination = some d → d ∈ validDeterminations)
    (hstamp : a.resolvedAt = none) :
    ∃ db₁ a₁, singleRequest py app now analyst body i db = .ok (db₁, a₁) ∧
      a₁.triage = ⟨.lit "resolved", a.severity, determination, some now, a.assignedTo,
        a.assignedUsername⟩ := by
  obtain ⟨result, hrow⟩ := updateRow_resolveRequest py db.analysts now analyst hvalid hknown
    hreason
  have haccepted : singleRequest py app now analyst body i db
      = .ok (db.commitAlert result.1 result.2, result.1) := by
    rw [singleRequest, if_pos haction]
    exact updateAlert_of_row hanalyst hupdate hfind hrow
  refine ⟨_, _, haccepted, ?_⟩
  obtain ⟨⟨row, hrow', -, hchanged, -⟩, -, -⟩ := singleRequest_ok haccepted
  cases hfind.symm.trans hrow'
  obtain ⟨hstatus, hseverity, hdet', hstamped, hto, hname⟩ := hchanged.of_resolve haction
  have hstatusEq : result.1.status = .lit "resolved" := Varchar.ext_val hstatus
  have hdetEq : result.1.determination = determination := by
    refine Varchar.ext_val ?_
    rw [hdet', hdet]
    refine (truthy_getD_of_ne ?_).symm
    intro hempty
    exact absurd (hvalid "" hempty) (by decide)
  rw [hstamp] at hstamped
  simp only [Alert.triage, hstatusEq, hseverity, hdetEq, hstamped, hto, hname]
  rfl

/-- Where the bulk request assigns, the claim does. -/
theorem singleRequest_of_assigned (py : PyText) {a' : Alert} {log : List Activity}
    (hanalyst : requirePermission .alertsUpdate (some analyst) = .ok analyst)
    (hclaim : enforceTenantAccess app (.alert a) "claim" (some analyst) = .ok ())
    (hfind : db.alerts.find? i = some a) (haction : body.action = "assign")
    (h : bulkAssign analyst a = .updated a' log) :
    ∃ db₁ a₁, singleRequest py app now analyst body i db = .ok (db₁, a₁) ∧
      a₁.triage = a'.triage := by
  have haccepted : singleRequest py app now analyst body i db
      = .ok (db.commitAlert (claimRow analyst a).1 (claimRow analyst a).2,
          (claimRow analyst a).1) := by
    rw [singleRequest, if_neg (by rw [haction]; decide), if_pos haction]
    simp only [claimAlert, hanalyst]
    refine withAlert_of_row hfind ?_
    simp only [hclaim]
    rfl
  refine ⟨_, _, haccepted, ?_⟩
  cases h
  simp only [claimRow]
  split
  · rename_i hnew
    simp only [Alert.triage]
  · simp only [Alert.triage]

/-- Where the bulk request changes the severity, the `PATCH` does. -/
theorem singleRequest_of_severity (py : PyText) {severity : Varchar 20}
    (hanalyst : requirePermission .alertsUpdate (some analyst) = .ok analyst)
    (hupdate : enforceTenantAccess app (.alert a) "update" (some analyst) = .ok ())
    (hfind : db.alerts.find? i = some a) (haction : body.action = "change_severity")
    (hgiven : body.severity = some severity.val) :
    ∃ db₁ a₁, singleRequest py app now analyst body i db = .ok (db₁, a₁) ∧
      a₁.triage = { a.triage with severity } := by
  obtain ⟨result, hrow⟩ := updateRow_severityRequest py db.analysts now analyst hgiven
  have haccepted : singleRequest py app now analyst body i db
      = .ok (db.commitAlert result.1 result.2, result.1) := by
    rw [singleRequest, if_neg (by rw [haction]; decide), if_neg (by rw [haction]; decide),
      if_pos haction]
    exact updateAlert_of_row hanalyst hupdate hfind hrow
  refine ⟨_, _, haccepted, ?_⟩
  obtain ⟨⟨row, hrow', -, hchanged, -⟩, -, -⟩ := singleRequest_ok haccepted
  cases hfind.symm.trans hrow'
  obtain ⟨hgiven', hstatus, hdet, hstamped, hto, hname⟩ := hchanged.of_severity haction
  have hseverityEq : result.1.severity = severity :=
    Varchar.ext_val (Option.some.inj (hgiven'.trans hgiven))
  simp only [Alert.triage, hstatus, hseverityEq, hdet, hstamped, hto, hname]

/-- Where the bulk request changes an alert, the single request is accepted and comes to
the same. -/
theorem singleRequest_of_changed (py : PyText) {a' : Alert} {log : List Activity}
    (hanalyst : requirePermission .alertsUpdate (some analyst) = .ok analyst)
    (htenant : DecidesByTenant app analyst) (hvisible : visible app analyst a = true)
    (hfind : db.alerts.find? i = some a) (h : BulkChanged now analyst body a a' log)
    (hvalid : body.action = "resolve" →
      ∀ d, body.determination = some d → d ∈ validDeterminations)
    (hstamp : body.action = "resolve" → a.resolvedAt = none) :
    ∃ db₁ a₁, singleRequest py app now analyst body i db = .ok (db₁, a₁) ∧
      a₁.triage = a'.triage := by
  have hupdate := (htenant.update a).mpr hvisible
  cases h with
  | resolved _ reason determination haction hopen hknown hreason hdet hresolved =>
    subst hresolved
    exact singleRequest_of_resolved (a := a) py hanalyst hupdate hfind haction hknown hreason
      hdet (hvalid haction) (hstamp haction)
  | assigned haction hassigned =>
    exact singleRequest_of_assigned py hanalyst ((htenant.claim a).mpr hvisible) hfind haction
      hassigned.symm
  | severity new _ haction hgiven hchanged =>
    obtain ⟨severity, rfl, rfl⟩ := hchanged
    exact singleRequest_of_severity py hanalyst hupdate hfind haction (truthy_eq_some.mp hgiven).1

/-- Where the bulk request fails on the row of an alert, so does the single request. -/
theorem singleRequest_of_failed (hfind : db.alerts.find? i = some a)
    (hunknown : body.action = "resolve" →
      (truthy body.determination).getD a.determination.val = "unknown")
    (hassign : body.action ≠ "assign")
    (hnone : body.action = "change_severity" → truthy body.severity = none)
    (hseverity : body.action = "change_severity" → body.severity ≠ some "")
    (result : Db × Alert) :
    singleRequest py app now analyst body i db ≠ .ok result := by
  intro haccepted
  obtain ⟨⟨row, hrow, -, hchanged, -⟩, -, -⟩ := singleRequest_ok haccepted
  cases hfind.symm.trans hrow
  cases hchanged with
  | resolved haction hknown _ _ _ _ _ _ => exact hknown (hunknown haction)
  | claimed haction _ => exact hassign haction
  | severity haction hgiven _ _ _ _ _ =>
      have hempty := hnone haction
      have hgiven' := hseverity haction
      rw [← hgiven] at hempty hgiven'
      have htruthy : truthy (some result.2.severity.val) = some result.2.severity.val :=
        truthy_eq_some.mpr ⟨rfl, fun h => hgiven' (congrArg some h)⟩
      rw [htruthy] at hempty
      cases hempty

/-- The bulk request agrees with the single requests on an alert: it counts a failure
exactly when the single request is rejected, the row is then as it was, and in any
case it is, in the columns compared, what the single requests make of it when they
are made one after another for the listed alerts. -/
structure AgreesOn (py : PyText) (app : App) (now : Timestamp) (analyst : Analyst)
    (body : BulkAlertUpdate) (db db' : Db) (failedIds : List Uuid) (i : Uuid) : Prop where
  reported : i ∈ failedIds ↔ ∃ e, singleRequest py app now analyst body i db = .error e
  unchanged : i ∈ failedIds → db'.alerts.find? i = db.alerts.find? i
  triage : db'.triage i
    = (run (singleStep py app now analyst body) db body.alertIds).triage i

theorem agreesOn_of_rejected {db' : Db} {failedIds : List Uuid} (hi : i ∈ body.alertIds)
    (hfailed : i ∈ failedIds) (hsame : db'.alerts.find? i = db.alerts.find? i)
    (hrejected : ∀ result, singleRequest py app now analyst body i db ≠ .ok result) :
    AgreesOn py app now analyst body db db' failedIds i := by
  obtain ⟨e, he⟩ : ∃ e, singleRequest py app now analyst body i db = .error e := by
    cases hrequest : singleRequest py app now analyst body i db with
    | error e => exact ⟨e, rfl⟩
    | ok result => exact absurd hrequest (hrejected result)
  refine ⟨⟨fun _ => ⟨e, he⟩, fun _ => hfailed⟩, fun _ => hsame, ?_⟩
  rw [(run_singleRequests hi).1 e he, Db.triage, Db.triage, hsame]

theorem agreesOn_of_accepted {db' db₁ : Db} {b a₁ : Alert} {failedIds : List Uuid}
    (hi : i ∈ body.alertIds) (hnot : i ∉ failedIds) (hfind : db'.alerts.find? i = some b)
    (haccepted : singleRequest py app now analyst body i db = .ok (db₁, a₁))
    (htriage : b.triage = a₁.triage) :
    AgreesOn py app now analyst body db db' failedIds i := by
  refine ⟨⟨fun hfailed => absurd hfailed hnot, ?_⟩, fun hfailed => absurd hfailed hnot, ?_⟩
  · rintro ⟨e, he⟩
    rw [haccepted] at he
    cases he
  · rw [(run_singleRequests hi).2 db₁ a₁ haccepted, Db.triage, hfind, Option.map_some, htriage]

/-- An alert that the bulk request does not load fails at every pass. -/
theorem bulkOutcome_of_hidden (app : App) (now : Timestamp) (analyst : Analyst)
    (body : BulkAlertUpdate) (db : Db) {loaded : Uuid → Bool} (hloaded : loaded i = false) :
    ∃ error, bulkOutcome app now analyst body loaded db i = .ok (.failed error) := by
  simp only [bulkOutcome, hloaded]
  exact ⟨_, rfl⟩

/-- A pass for an alert that is loaded and visible is the action on its row. -/
theorem bulkOutcome_of_visible {loaded : Uuid → Bool} (htenant : DecidesByTenant app analyst)
    (hloaded : loaded i = true) (hfind : db.alerts.find? i = some a)
    (hvisible : visible app analyst a = true) :
    bulkOutcome app now analyst body loaded db i = bulkRow now analyst body a := by
  simp only [bulkOutcome, hloaded, if_true, hfind, (htenant.bulkUpdate a).mpr hvisible]

/-- The alerts the single requests do not reach are those the bulk request does not
load. -/
theorem singleRequest_of_hidden (htenant : DecidesByTenant app analyst)
    (hloaded : bulkLoaded app analyst db i = false) (result : Db × Alert) :
    singleRequest py app now analyst body i db ≠ .ok result := by
  intro haccepted
  obtain ⟨⟨row, hrow, -, -, hallowed⟩, -, -⟩ := singleRequest_ok haccepted
  have hvisible : visible app analyst row = true := by
    rcases hallowed with hallowed | hallowed
    · exact (htenant.update row).mp hallowed
    · exact (htenant.claim row).mp hallowed
  simp only [bulkLoaded, hrow, Option.any_some] at hloaded
  exact absurd (hvisible.symm.trans hloaded) (by decide)

/-! ### What the loop leaves of one alert -/

section Loop

variable {db' : Db} {result : BulkOperationResult}

/-- Every pass for an alert that is not loaded fails, and its row stays. -/
theorem bulkLoop_hidden
    (hloop : body.alertIds.foldlM (bulkStep app now analyst body (bulkLoaded app analyst db))
      (db, ⟨0, 0, []⟩) = .ok (db', result))
    (hi : i ∈ body.alertIds) (hloaded : bulkLoaded app analyst db i = false) :
    db'.alerts.find? i = db.alerts.find? i ∧
      i ∈ bulkFailedIds app now analyst body (bulkLoaded app analyst db) (db, ⟨0, 0, []⟩)
        body.alertIds := by
  have htouch := bulkLoop_touch (i := i) (P := (· = db.alerts.find? i))
    (Q := (· = db.alerts.find? i)) true ?_ body.alertIds hloop (Or.inl rfl)
  · exact ⟨htouch.1 (Or.inl hi), htouch.2.mpr ⟨hi, rfl⟩⟩
  · intro s outcome hs houtcome
    rw [or_self] at hs
    obtain ⟨error, herror⟩ := bulkOutcome_of_hidden app now analyst body s hloaded
    cases herror.symm.trans houtcome
    exact ⟨rfl, hs⟩

variable (htenant : DecidesByTenant app analyst) (hfind : db.alerts.find? i = some a)
  (hvisible : visible app analyst a = true)

include htenant hfind hvisible

/-- Whatever the loop has made of a visible alert, a pass for it is the action on the
row it has come to. -/
theorem bulkOutcome_of_reached {s : Db} {b : Alert} (hb : s.alerts.find? i = some b)
    (hid : b.id = a.id) (hpartner : b.partner = a.partner) :
    bulkOutcome app now analyst body (bulkLoaded app analyst db) s i
      = bulkRow now analyst body b := by
  have hloaded : bulkLoaded app analyst db i = true := by
    simp only [bulkLoaded, hfind, Option.any_some]
    exact hvisible
  exact bulkOutcome_of_visible htenant hloaded hb
    ((htenant.tenant a b hid hpartner).trans hvisible)

variable (hloop : body.alertIds.foldlM
    (bulkStep app now analyst body (bulkLoaded app analyst db)) (db, ⟨0, 0, []⟩)
      = .ok (db', result))
  (hi : i ∈ body.alertIds)

include hloop hi

/-- The first pass has an outcome: an error of the database would have ended the
request. -/
theorem bulkLoop_outcome : ∃ outcome, bulkRow now analyst body a = .ok outcome := by
  cases hrow : bulkRow now analyst body a with
  | ok outcome => exact ⟨outcome, rfl⟩
  | error e =>
      have htouch := bulkLoop_touch (i := i) (P := (· = some a)) (Q := fun _ => False)
        true ?_ body.alertIds hloop (Or.inl hfind)
      · exact absurd (htouch.1 (Or.inl hi)) not_false
      · rintro s outcome (hs | hs) houtcome
        · rw [bulkOutcome_of_reached htenant hfind hvisible hs rfl rfl] at houtcome
          cases hrow.symm.trans houtcome
        · exact absurd hs not_false

/-- An outcome that keeps the row is that of every pass. -/
theorem bulkLoop_kept {outcome : BulkOutcome} (hrow : bulkRow now analyst body a = .ok outcome)
    (hkept : outcome.rowAfter (some a) = some a) :
    db'.alerts.find? i = some a ∧
      (i ∈ bulkFailedIds app now analyst body (bulkLoaded app analyst db) (db, ⟨0, 0, []⟩)
        body.alertIds ↔ outcome.isFailed = true) := by
  have htouch := bulkLoop_touch (i := i) (P := (· = some a)) (Q := (· = some a))
    outcome.isFailed ?_ body.alertIds hloop (Or.inl hfind)
  · refine ⟨htouch.1 (Or.inl hi), htouch.2.trans ?_⟩
    exact ⟨fun hboth => hboth.2, fun hfails => ⟨hi, hfails⟩⟩
  · intro s outcome' hs houtcome
    rw [or_self] at hs
    rw [bulkOutcome_of_reached htenant hfind hvisible hs rfl rfl] at houtcome
    cases hrow.symm.trans houtcome
    rw [hs]
    exact ⟨rfl, hkept⟩

/-- A row changed at the first pass is kept in these columns by the others, and no pass
fails. -/
theorem bulkLoop_changed {a' : Alert} {log : List Activity}
    (hrow : bulkRow now analyst body a = .ok (.updated a' log))
    (hchanged : BulkChanged now analyst body a a' log) :
    (∃ b, db'.alerts.find? i = some b ∧ b.triage = a'.triage) ∧
      i ∉ bulkFailedIds app now analyst body (bulkLoaded app analyst db) (db, ⟨0, 0, []⟩)
        body.alertIds := by
  have htouch := bulkLoop_touch (i := i) (P := (· = some a))
    (Q := fun row => ∃ b, row = some b ∧ b.triage = a'.triage ∧ b.id = a.id ∧
      b.partner = a.partner) false ?_ body.alertIds hloop (Or.inl hfind)
  · obtain ⟨b, hb, htriage, -, -⟩ := htouch.1 (Or.inl hi)
    exact ⟨⟨b, hb, htriage⟩, fun hmem => Bool.false_ne_true (htouch.2.mp hmem).2⟩
  · rintro s outcome (hs | ⟨b, hb, htriage, hid, hpartner⟩) houtcome
    · rw [bulkOutcome_of_reached htenant hfind hvisible hs rfl rfl] at houtcome
      cases hrow.symm.trans houtcome
      exact ⟨rfl, a', rfl, rfl, hchanged.rowFunction.1, bulkChanged_partner hchanged⟩
    · rw [bulkOutcome_of_reached htenant hfind hvisible hb hid hpartner] at houtcome
      obtain ⟨hfails, b', hafter, htriage', hid', hpartner'⟩ :=
        bulkRow_again hchanged htriage houtcome
      rw [hb]
      exact ⟨hfails, b', hafter, htriage'.trans htriage, hid'.trans hid,
        hpartner'.trans hpartner⟩

end Loop

end Agreement

/-- **A bulk request agrees with the single requests it stands for**, on every listed
alert that is not skipped; a skipped alert is neither changed nor counted. -/
theorem bulk_agrees_with_single (py : PyText) {app : App} {now : Timestamp}
    {analyst : Analyst} {body : BulkAlertUpdate} {db db' : Db} {result : BulkOperationResult}
    (htenant : DecidesByTenant app analyst)
    (h : bulkUpdateAlerts app now body (some analyst) db = .ok (db', result))
    (hvalid : body.action = "resolve" →
      ∀ d, body.determination = some d → d ∈ validDeterminations)
    (hseverity : body.action = "change_severity" → body.severity ≠ some "") :
    ∃ failedIds, failedIds = bulkFailedIds app now analyst body (bulkLoaded app analyst db)
        (db, ⟨0, 0, []⟩) body.alertIds ∧
      result.failed = failedIds.length ∧ result.errors.length = failedIds.length ∧
      ∀ i ∈ body.alertIds,
        (∀ a, db.alerts.find? i = some a → visible app analyst a = true → Skipped body a →
          i ∉ failedIds ∧ db'.alerts.find? i = some a) ∧
        ((∀ a, db.alerts.find? i = some a → visible app analyst a = true →
            ¬ Skipped body a ∧ (body.action = "resolve" → a.resolvedAt = none)) →
          AgreesOn py app now analyst body db db' failedIds i) := by
  obtain ⟨_, hanalyst, hloop⟩ := bind_ok h
  obtain ⟨heq, -⟩ := requirePermission_ok hanalyst
  cases heq
  obtain ⟨hfailed, herrors⟩ := bulkFailedIds_length body.alertIds hloop
  refine ⟨_, rfl, by rw [hfailed, Nat.zero_add], by rw [herrors]; exact Nat.zero_add _, ?_⟩
  intro i hi
  cases hloaded : bulkLoaded app analyst db i with
  | false =>
    -- not stored, or of a tenant out of reach
    obtain ⟨hsame, hreported⟩ := bulkLoop_hidden hloop hi hloaded
    constructor
    · intro a hfind hvisible _
      simp only [bulkLoaded, hfind, Option.any_some] at hloaded
      exact absurd (hvisible.symm.trans hloaded) (by decide)
    · intro _
      exact agreesOn_of_rejected hi hreported hsame (singleRequest_of_hidden htenant hloaded)
  | true =>
    obtain ⟨a, hfind, hvisible⟩ : ∃ a, db.alerts.find? i = some a ∧
        visible app analyst a = true := by
      simp only [bulkLoaded, Option.any_eq_true] at hloaded
      exact hloaded
    obtain ⟨outcome, hrow⟩ := bulkLoop_outcome htenant hfind hvisible hloop hi
    cases outcome with
    | updated a' log =>
      have hchanged := bulkRow_updated hrow
      obtain ⟨⟨b, hb, htriage⟩, hnot⟩ :=
        bulkLoop_changed htenant hfind hvisible hloop hi hrow hchanged
      constructor
      · intro c hc _ hskipped
        cases hfind.symm.trans hc
        exact absurd hskipped (bulkChanged_not_skipped hchanged)
      · intro hagree
        obtain ⟨db₁, a₁, haccepted, hsame⟩ := singleRequest_of_changed py hanalyst
          htenant hvisible hfind hchanged hvalid (hagree a hfind hvisible).2
        exact agreesOn_of_accepted hi hnot hb haccepted (htriage.trans hsame.symm)
    | skipped =>
      obtain ⟨hsame, hreported⟩ := bulkLoop_kept htenant hfind hvisible hloop hi hrow rfl
      constructor
      · intro b hb _ _
        cases hfind.symm.trans hb
        exact ⟨fun hmem => Bool.false_ne_true (hreported.mp hmem), hsame⟩
      · intro hagree
        exact absurd (bulkRow_skipped hrow) (hagree a hfind hvisible).1
    | failed error =>
      obtain ⟨hnot, hunknown, hassign, hnone⟩ := bulkRow_failed hrow
      obtain ⟨hsame, hreported⟩ := bulkLoop_kept htenant hfind hvisible hloop hi hrow rfl
      constructor
      · intro b hb _ hskipped
        cases hfind.symm.trans hb
        exact absurd hskipped hnot
      · intro _
        exact agreesOn_of_rejected hi (hreported.mpr rfl) (hsame.trans hfind.symm)
          (singleRequest_of_failed hfind hunknown hassign hnone hseverity)

/-! ## The alert that is resolved already -/

/-- The database after one ingest, and after the resolution of its alert. -/
def newAlertDb : Db :=
  match processWebhook .ascii loginFailure .empty with
  | .ok (db, _) => db
  | .error _ => .empty

def resolvedAlertDb : Db :=
  run (alertStep .ascii .core) newAlertDb
    [⟨100, .resolveCurrentAlert (some 1) ⟨"benign", none, none, none, none, none⟩⟩]

def resolveAsMalicious : BulkAlertUpdate := ⟨[1], "resolve", none, some "malicious", none, none⟩

/-- A bulk resolution leaves the determination of a resolved alert, a `PATCH` replaces
it. -/
theorem bulk_resolution_skips_resolved :
    ¬ ∀ (body : BulkAlertUpdate) (db db' : Db) (result : BulkOperationResult) (i : Uuid),
      bulkUpdateAlerts .core 200 body (some administrator) db = .ok (db', result) →
      i ∈ body.alertIds →
      AgreesOn .ascii .core 200 administrator body db db'
        (bulkFailedIds .core 200 administrator body (bulkLoaded .core administrator db)
          (db, ⟨0, 0, []⟩) body.alertIds) i := by
  intro hclaim
  have hresult : (bulkUpdateAlerts .core 200 resolveAsMalicious (some administrator)
      resolvedAlertDb).map (fun p => (p.1.triage 1).map (·.determination.val))
      = .ok (some "benign") := by decide +kernel
  have hsingle : ((run (singleStep .ascii .core 200 administrator resolveAsMalicious)
      resolvedAlertDb [1]).triage 1).map (·.determination.val) = some "malicious" := by
    decide +kernel
  obtain ⟨⟨db', result⟩, hok, hbulk⟩ := map_ok hresult
  have hagrees := hclaim resolveAsMalicious resolvedAlertDb db' result 1 hok (by decide)
  have hsame := congrArg (Option.map (fun t : Triage => t.determination.val)) hagrees.triage
  have hnames : some "benign" = some "malicious" := hbulk.symm.trans (hsame.trans hsingle)
  exact absurd hnames (by decide)

theorem bulk_agrees_with_single_on_new_alert :
    ∃ db' result, bulkUpdateAlerts .core 200 resolveAsMalicious (some administrator) newAlertDb
        = .ok (db', result) ∧
      AgreesOn .ascii .core 200 administrator resolveAsMalicious newAlertDb db'
        (bulkFailedIds .core 200 administrator resolveAsMalicious
          (bulkLoaded .core administrator newAlertDb) (newAlertDb, ⟨0, 0, []⟩) [1]) 1 := by
  obtain ⟨⟨db', result⟩, hok⟩ : ∃ p, bulkUpdateAlerts .core 200 resolveAsMalicious
      (some administrator) newAlertDb = .ok p := ⟨_, rfl⟩
  have hnew : (newAlertDb.triage 1).map (fun t => (t.status.val, t.resolvedAt))
      = some ("new", none) := by decide +kernel
  obtain ⟨failedIds, rfl, -, -, hagrees⟩ := bulk_agrees_with_single .ascii
    (decidesByTenant_core administrator) hok
    (fun _ d hd => by cases hd; decide) (fun _ => by decide)
  refine ⟨db', result, hok, (hagrees 1 (by decide)).2 (fun a hfind _ => ?_)⟩
  simp only [Db.triage, hfind, Option.map_some] at hnew
  obtain ⟨hstatus, hstamp⟩ := Prod.mk.inj (Option.some.inj hnew)
  refine ⟨fun hskipped => ?_, fun _ => hstamp⟩
  have hnames : "resolved" = "new" := hskipped.2.symm.trans hstatus
  exact absurd hnames (by decide)

end OpenSoar
