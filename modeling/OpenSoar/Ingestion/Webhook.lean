/-
# `OpenSoar.Ingestion.Webhook` — storing an ingested alert

`ingestion/webhook.py`.  `process_webhook` normalises the payload, looks for a
stored alert under the same `(source, source_id)`, and then either counts a
duplicate on that row or inserts a new one.  The three things it does to the
database are three functions here (`webhookRead`, `webhookWrite`,
`WebhookWrite.commit`), because other sessions can come between them;
`processWebhook` is the three in one go.

The observables the function materialises afterwards are not part of an alert's
row and are left out.
-/
import OpenSoar.Ingestion.Normalize

namespace OpenSoar

open Python

/-- One call of `process_webhook`, with the identifiers it draws (`uuid.uuid4`, for
the row and for the correlation). -/
structure WebhookCall where
  payload : Dict
  source : String
  alertId : Uuid
  correlationId : Uuid

/-! ## Values on their way into the columns -/

def wrongType : Raised := .refusedByDatabase "invalid input for query argument: expected str"

/-- A JSON value assigned to a nullable `VARCHAR(n)` column. -/
def varcharColumn (n : Nat) : Json → Except Raised (Option (Varchar n))
  | .null => .ok none
  | .str s => (column n s).map some
  | _ => .error wrongType

/-- A JSON value assigned to a nullable `TEXT` column. -/
def textColumn : Json → Except Raised (Option String)
  | .null => .ok none
  | .str s => .ok (some s)
  | _ => .error wrongType

/-- An element of a `VARCHAR[]` column. -/
def arrayElement : Json → Except Raised (Option String)
  | .null => .ok none
  | .str s => .ok (some s)
  | _ => .error wrongType

/-- A JSON value assigned to a nullable `VARCHAR[]` column. -/
def arrayColumn : Json → Except Raised (Option (List (Option String)))
  | .null => .ok none
  | .arr items => (items.mapM arrayElement).map some
  | _ => .error wrongType

theorem varcharColumn_str {n : Nat} {s : String} {v : Option (Varchar n)}
    (h : varcharColumn n (.str s) = .ok v) : v.map (·.val) = some s := by
  obtain ⟨w, hw, rfl⟩ := map_ok h
  rw [Option.map_some, column_val hw]

/-! ## Deduplication -/

/-- The alert is stored under this source and source id. -/
def Alert.HasKey (alert : Alert) (source sourceId : String) : Prop :=
  alert.source.val = source ∧ alert.sourceId.map (·.val) = some sourceId

instance (alert : Alert) (source sourceId : String) : Decidable (alert.HasKey source sourceId) :=
  inferInstanceAs (Decidable (_ ∧ _))

/-- The rows `select(Alert).where(source, source_id)` returns. -/
def Db.alertsUnder (db : Db) (source sourceId : String) : List Alert :=
  db.alerts.rows.filter (fun alert => alert.HasKey source sourceId)

/-- `if source_id: ... scalar_one_or_none()`: no lookup without a source id, and
none or one row, or `MultipleResultsFound`. -/
def lookupDuplicate (db : Db) (n : NormalizedAlert) : Except Raised (Option Alert) :=
  if n.sourceId.truthy then
    match n.sourceId with
    | .str sourceId =>
        match db.alertsUnder n.source sourceId with
        | [] => .ok none
        | [existing] => .ok (some existing)
        | _ => .error .multipleResultsFound
    | _ => .error wrongType
  else .ok none

/-- The new row: `status` is `new`, the determination and the count are the column
defaults, every other column comes from the normalised payload. -/
def newAlert (call : WebhookCall) (n : NormalizedAlert) : Except Raised Alert := do
  let source ← column 50 n.source
  let sourceId ← varcharColumn 255 n.sourceId
  let title ← column 500 n.title
  let description ← textColumn n.description
  let severity ← column 20 n.severity
  let sourceIp ← varcharColumn 45 n.sourceIp
  let destIp ← varcharColumn 45 n.destIp
  let hostname ← varcharColumn 255 n.hostname
  let ruleName ← column 500 n.title
  let tags ← arrayColumn n.tags
  let partner ← varcharColumn 100 n.partner
  pure {
    id := call.alertId
    source := source
    sourceId := sourceId
    title := title
    description := description
    severity := severity
    status := .lit "new"
    rawPayload := call.payload
    normalized := n.toDict
    correlationId := some call.correlationId
    sourceIp := sourceIp
    destIp := destIp
    hostname := hostname
    ruleName := some ruleName
    iocs := some n.iocs
    tags := tags
    partner := partner
    determination := .lit "unknown"
    resolvedAt := none
    resolveReason := none
    assignedTo := none
    assignedUsername := none
    duplicateCount := 1 }

/-- The stored row with one more duplicate on it: the count, the two payload columns
and, where it is still blank, the correlation id. -/
def registerDuplicate (call : WebhookCall) (n : NormalizedAlert) (existing : Alert) : Alert :=
  { existing with
    duplicateCount := existing.duplicateCount + 1
    rawPayload := call.payload
    normalized := n.toDict
    correlationId := some (existing.correlationId.getD call.correlationId) }

/-- The statement `process_webhook` flushes: an `INSERT`, or an `UPDATE` of the
columns that changed on the row it read. -/
inductive WebhookWrite where
  | insert (alert : Alert)
  | update (alert : Alert) (setsCorrelationId : Bool)

/-- The alert the call returns. -/
def WebhookWrite.alert : WebhookWrite → Alert
  | .insert alert => alert
  | .update alert _ => alert

/-- What committing the statement does to the database as it then is. -/
def WebhookWrite.commit : WebhookWrite → Db → Except Raised Db
  | .insert alert, db =>
      match db.alerts.insert? alert with
      | some alerts => .ok { db with alerts := alerts }
      | none => .error (.refusedByDatabase
          "duplicate key value violates unique constraint pk_alerts")
  | .update alert setsCorrelationId, db =>
      match db.alerts.find? alert.id with
      | some current =>
          .ok (db.commitAlert
            { current with
              duplicateCount := alert.duplicateCount
              rawPayload := alert.rawPayload
              normalized := alert.normalized
              correlationId := if setsCorrelationId then alert.correlationId
                else current.correlationId } [])
      | none => .error (.refusedByDatabase "UPDATE statement matched no row")

/-- Normalise and look the key up. -/
def webhookRead (py : PyText) (call : WebhookCall) (db : Db) :
    Except Raised (NormalizedAlert × Option Alert) :=
  match normalizeAlert py call.payload call.source with
  | .error e => .error e
  | .ok n =>
      match lookupDuplicate db n with
      | .error e => .error e
      | .ok existing => .ok (n, existing)

/-- The statement for what was read. -/
def webhookWrite (call : WebhookCall) :
    NormalizedAlert × Option Alert → Except Raised WebhookWrite
  | (n, some existing) =>
      .ok (.update (registerDuplicate call n existing) existing.correlationId.isNone)
  | (n, none) => (newAlert call n).map .insert

/-- `process_webhook`, undisturbed: the database and the alert it returns. -/
def processWebhook (py : PyText) (call : WebhookCall) (db : Db) : Except Raised (Db × Alert) :=
  match webhookRead py call db with
  | .error e => .error e
  | .ok found =>
      match webhookWrite call found with
      | .error e => .error e
      | .ok write =>
          match write.commit db with
          | .error e => .error e
          | .ok db' => .ok (db', write.alert)

/-! ## What a call does -/

theorem mem_alertsUnder {db : Db} {source sourceId : String} {alert : Alert} :
    alert ∈ db.alertsUnder source sourceId ↔
      alert ∈ db.alerts.rows ∧ alert.HasKey source sourceId := by
  simp [Db.alertsUnder]

/-- A duplicate is found only under a non-empty string id, and is then the only row
under its key. -/
theorem lookupDuplicate_some {db : Db} {n : NormalizedAlert} {existing : Alert}
    (h : lookupDuplicate db n = .ok (some existing)) :
    ∃ sourceId, n.sourceId = .str sourceId ∧ db.alertsUnder n.source sourceId = [existing] := by
  unfold lookupDuplicate at h
  split at h
  · split at h
    · rename_i sourceId hid
      split at h
      · cases h
      · rename_i a hrows
        cases h
        exact ⟨sourceId, hid, hrows⟩
      · cases h
    · cases h
  · cases h

theorem lookupDuplicate_none {db : Db} {n : NormalizedAlert}
    (h : lookupDuplicate db n = .ok none) :
    n.sourceId.truthy = false ∨
      ∃ sourceId, n.sourceId = .str sourceId ∧ db.alertsUnder n.source sourceId = [] := by
  unfold lookupDuplicate at h
  split at h
  · split at h
    · rename_i sourceId hid
      split at h
      · rename_i hrows
        exact Or.inr ⟨sourceId, hid, hrows⟩
      · cases h
      · cases h
    · cases h
  · rename_i hfalsy
    exact Or.inl (by simpa using hfalsy)

/-- Committing a duplicate on the row it was read from stores the row that the call
returns. -/
theorem commit_registerDuplicate {db : Db} {call : WebhookCall} {n : NormalizedAlert}
    {existing : Alert} (h : db.alerts.find? existing.id = some existing) :
    (WebhookWrite.update (registerDuplicate call n existing) existing.correlationId.isNone).commit
      db = .ok (db.commitAlert (registerDuplicate call n existing) []) := by
  have hid : (registerDuplicate call n existing).id = existing.id := rfl
  simp only [WebhookWrite.commit, hid, h]
  congr 2
  cases hc : existing.correlationId <;> simp [registerDuplicate, hc]

/-- How a successful call ends: a new row, or one more duplicate on a stored one. -/
inductive Ingested (call : WebhookCall) (n : NormalizedAlert) (db db' : Db) (alert : Alert) : Prop
  | created : lookupDuplicate db n = .ok none → newAlert call n = .ok alert →
      db.alerts.find? alert.id = none → db'.alerts.rows = db.alerts.rows ++ [alert] →
      (∀ i, db'.alerts.find? i = if i = alert.id then some alert else db.alerts.find? i) →
      db' = { db with alerts := db'.alerts } → Ingested call n db db' alert
  | duplicate (existing : Alert) : lookupDuplicate db n = .ok (some existing) →
      db.alerts.find? existing.id = some existing →
      alert = registerDuplicate call n existing → db' = db.commitAlert alert [] →
      Ingested call n db db' alert

theorem processWebhook_ok {py : PyText} {call : WebhookCall} {db db' : Db} {alert : Alert}
    (h : processWebhook py call db = .ok (db', alert)) :
    ∃ n, normalizeAlert py call.payload call.source = .ok n ∧ Ingested call n db db' alert := by
  unfold processWebhook webhookRead at h
  cases hn : normalizeAlert py call.payload call.source with
  | error e => simp only [hn] at h; cases h
  | ok n =>
      refine ⟨n, rfl, ?_⟩
      simp only [hn] at h
      cases hl : lookupDuplicate db n with
      | error e => simp only [hl] at h; cases h
      | ok found =>
          simp only [hl] at h
          cases found with
          | some existing =>
              obtain ⟨sourceId, -, hrows⟩ := lookupDuplicate_some hl
              have hmem : existing ∈ db.alerts.rows :=
                (mem_alertsUnder.mp (hrows ▸ List.mem_singleton_self existing)).1
              have hfind := Table.find?_of_mem hmem
              simp only [webhookWrite, commit_registerDuplicate hfind] at h
              cases h
              exact .duplicate existing hl hfind rfl rfl
          | none =>
              simp only [webhookWrite] at h
              cases ha : newAlert call n with
              | error e => rw [ha] at h; cases h
              | ok a =>
                  simp only [ha, Except.map, WebhookWrite.commit] at h
                  cases hi : db.alerts.insert? a with
                  | none => rw [hi] at h; cases h
                  | some alerts =>
                      simp only [hi] at h
                      cases h
                      obtain ⟨hnew, hrows⟩ := Table.insert?_some hi
                      exact .created hl ha hnew hrows (Table.find?_insert hi) rfl

/-- A call that finds no duplicate and whose row fits and has a fresh id is accepted. -/
theorem processWebhook_stores {py : PyText} {call : WebhookCall} {db : Db} {n : NormalizedAlert}
    {alert : Alert} (hn : normalizeAlert py call.payload call.source = .ok n)
    (hlookup : lookupDuplicate db n = .ok none) (halert : newAlert call n = .ok alert)
    (hid : db.alerts.find? alert.id = none) :
    ∃ db', processWebhook py call db = .ok (db', alert) := by
  have hread : webhookRead py call db = .ok (n, none) := by
    simp only [webhookRead, hn, hlookup]
  have hwrite : webhookWrite call (n, none) = .ok (.insert alert) := by
    simp only [webhookWrite, halert, Except.map]
  obtain ⟨alerts, hinsert⟩ := Table.insert?_of_find? hid
  exact ⟨{ db with alerts := alerts }, by
    simp only [processWebhook, hread, hwrite, WebhookWrite.commit, hinsert, WebhookWrite.alert]⟩

theorem newAlert_iocs {call : WebhookCall} {n : NormalizedAlert} {alert : Alert}
    (h : newAlert call n = .ok alert) : alert.iocs = some n.iocs := by
  unfold newAlert at h
  iterate 11 obtain ⟨_, -, h⟩ := bind_ok h
  cases h
  rfl

/-- What `newAlert` fixes, whatever the payload. -/
theorem newAlert_ok {call : WebhookCall} {n : NormalizedAlert} {alert : Alert}
    (h : newAlert call n = .ok alert) :
    alert.id = call.alertId ∧ alert.source.val = n.source ∧
      varcharColumn 255 n.sourceId = .ok alert.sourceId ∧
      alert.severity.val = n.severity ∧ alert.status.val = "new" ∧
      alert.determination.val = "unknown" ∧ alert.resolvedAt = none ∧
      varcharColumn 100 n.partner = .ok alert.partner ∧ alert.duplicateCount = 1 := by
  unfold newAlert at h
  obtain ⟨source, hsource, h⟩ := bind_ok h
  obtain ⟨sourceId, hsourceId, h⟩ := bind_ok h
  obtain ⟨title, -, h⟩ := bind_ok h
  obtain ⟨description, -, h⟩ := bind_ok h
  obtain ⟨severity, hseverity, h⟩ := bind_ok h
  obtain ⟨sourceIp, -, h⟩ := bind_ok h
  obtain ⟨destIp, -, h⟩ := bind_ok h
  obtain ⟨hostname, -, h⟩ := bind_ok h
  obtain ⟨ruleName, -, h⟩ := bind_ok h
  obtain ⟨tags, -, h⟩ := bind_ok h
  obtain ⟨partner, hpartner, h⟩ := bind_ok h
  cases h
  exact ⟨rfl, column_val hsource, hsourceId, column_val hseverity, rfl, rfl, rfl, hpartner, rfl⟩

end OpenSoar
