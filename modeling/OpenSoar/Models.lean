/-
# `OpenSoar.Models` — the rows, the columns and the database

The tables under `src/opensoar/models`, each as a record of the columns the
modelled functions read or write.  A `VARCHAR(n)` column is a type of its own
(`Varchar n`), so a stored row cannot hold an over-length value; assigning a
longer string is where the database refuses the statement (`column`).  `NOT
NULL` is a plain field, a nullable column an `Option`.  The strings of requests
and rows hold no U+0000, which the database refuses in every column.

An operation on the database is a function into `Except Raised`: an HTTP
error, an exception of the language or a statement the database refuses.  Its
`.error` says nothing of a new state, since the transaction is rolled back.
-/
import OpenSoar.Lib.Table
import OpenSoar.Lib.Run
import OpenSoar.Python.Json
import OpenSoar.Python.Uuid

namespace OpenSoar

open Python

/-- `datetime` values with a time zone, as microseconds of one clock. -/
abbrev Timestamp := Nat

/-- What can leave a request or a playbook helper other than its result. -/
inductive Raised where
  | httpException (statusCode : Nat) (detail : String)
  | valueError (message : String)
  | runtimeError (message : String)
  | multipleResultsFound
  | refusedByDatabase (reason : String)
deriving DecidableEq

/-- `str(e)`. -/
def Raised.text : Raised → String
  | .httpException statusCode detail => s!"{statusCode}: {detail}"
  | .valueError message => message
  | .runtimeError message => message
  | .multipleResultsFound => "Multiple rows were found when one or none was required"
  | .refusedByDatabase reason => reason

/-- `if not found: raise ...`. -/
def orRaise {α : Type} (found : Option α) (missing : Raised) : Except Raised α :=
  match found with
  | some a => .ok a
  | none => .error missing

theorem orRaise_ok {α : Type} {found : Option α} {missing : Raised} {a : α}
    (h : orRaise found missing = .ok a) : found = some a := by
  cases found with
  | none => cases h
  | some a => cases h; rfl

/-! ## Columns -/

/-- A value of a `VARCHAR(n)` column. -/
structure Varchar (n : Nat) where
  val : String
  fits : val.length ≤ n
deriving DecidableEq

/-- A literal that fits. -/
abbrev Varchar.lit {n : Nat} (s : String)
    (h : decide (s.length ≤ n) = true := by exact Eq.refl true) : Varchar n :=
  ⟨s, of_decide_eq_true h⟩

theorem Varchar.ext_val {n : Nat} {v w : Varchar n} (h : v.val = w.val) : v = w := by
  cases v; cases w; cases h; rfl

/-- A string on its way into a `VARCHAR(n)` column. -/
def column (n : Nat) (s : String) : Except Raised (Varchar n) :=
  if h : s.length ≤ n then .ok ⟨s, h⟩
  else .error (.refusedByDatabase s!"value too long for type character varying({n})")

theorem column_val {n : Nat} {s : String} {v : Varchar n} (h : column n s = .ok v) :
    v.val = s := by
  unfold column at h
  split at h
  · cases h; rfl
  · cases h

theorem column_error {n : Nat} {s : String} {e : Raised} (h : column n s = .error e) :
    ∃ reason, e = .refusedByDatabase reason := by
  unfold column at h
  split at h
  · cases h
  · cases h
    exact ⟨_, rfl⟩

theorem column_of_fits {n : Nat} (v : Varchar n) : column n v.val = .ok v := by
  simp [column, v.fits]

theorem column_ok {n : Nat} {s : String} (h : s.length ≤ n) : column n s = .ok ⟨s, h⟩ :=
  column_of_fits ⟨s, h⟩

/-- The non-empty strings: `value` where the program writes `if value` or
`value or ...`. -/
def truthy (value : Option String) : Option String := value.filter (· ≠ "")

theorem truthy_eq_some {value : Option String} {s : String} :
    truthy value = some s ↔ value = some s ∧ s ≠ "" := by
  simp only [truthy, Option.filter_eq_some_iff, decide_eq_true_eq]

/-! ## The tables -/

/-- `alerts`. -/
structure Alert where
  id : Uuid
  source : Varchar 50
  sourceId : Option (Varchar 255)
  title : Varchar 500
  description : Option String
  severity : Varchar 20
  status : Varchar 20
  rawPayload : Dict
  normalized : Dict
  correlationId : Option Uuid
  sourceIp : Option (Varchar 45)
  destIp : Option (Varchar 45)
  hostname : Option (Varchar 255)
  ruleName : Option (Varchar 500)
  iocs : Option Dict
  tags : Option (List (Option String))
  partner : Option (Varchar 100)
  determination : Varchar 30
  resolvedAt : Option Timestamp
  resolveReason : Option (Varchar 255)
  assignedTo : Option Uuid
  assignedUsername : Option (Varchar 100)
  duplicateCount : Nat

/-- `activities`: the audit trail, in commit order. -/
structure Activity where
  alertId : Option Uuid
  incidentId : Option Uuid
  analystId : Option Uuid
  analystUsername : Option (Varchar 100)
  action : Varchar 50
  detail : Option String
  metadataJson : Option Dict

/-- `analysts`. -/
structure Analyst where
  id : Uuid
  username : Varchar 100
  displayName : Varchar 255
  isActive : Bool
  role : Varchar 50

/-- `playbook_definitions`. -/
structure PlaybookDefinition where
  id : Uuid
  name : Varchar 255
  description : Option String
  partner : Option (Varchar 100)
  tenantId : Option Uuid
  modulePath : Varchar 500
  functionName : Varchar 255
  triggerType : Option (Varchar 50)
  triggerConfig : Dict
  enabled : Bool
  executionOrder : Int

/-- The rows of `playbook_definitions`: the name is unique beside the id. -/
structure PlaybookTable extends Table PlaybookDefinition.id where
  uniqueNames : (rows.map (·.name.val)).Nodup

def PlaybookTable.empty : PlaybookTable := ⟨.empty, List.nodup_nil⟩

/-- The rows a statement leaves behind, checked against the unique constraint on the
name. -/
def PlaybookTable.checked (table : Table PlaybookDefinition.id) :
    Except Raised PlaybookTable :=
  if h : (table.rows.map (·.name.val)).Nodup then .ok ⟨table, h⟩
  else .error (.refusedByDatabase
    "duplicate key value violates unique constraint playbook_definitions_name_key")

/-- `select(PlaybookDefinition).where(name).scalar_one_or_none()`. -/
def PlaybookTable.named? (table : PlaybookTable) (name : String) : Option PlaybookDefinition :=
  table.rows.find? (fun row => row.name.val = name)

theorem PlaybookTable.checked_ok {table : Table PlaybookDefinition.id} {table' : PlaybookTable}
    (h : checked table = .ok table') : table'.toTable = table := by
  simp only [checked] at h
  split at h
  · cases h; rfl
  · cases h

theorem PlaybookTable.named?_some {table : PlaybookTable} {name : String}
    {row : PlaybookDefinition} (h : table.named? name = some row) :
    row ∈ table.rows ∧ row.name.val = name :=
  ⟨List.mem_of_find?_eq_some h, by simpa using List.find?_some h⟩

/-- Two rows of one name are one row. -/
theorem PlaybookTable.eq_of_name {table : PlaybookTable} {row row' : PlaybookDefinition}
    (h : row ∈ table.rows) (h' : row' ∈ table.rows) (hname : row.name.val = row'.name.val) :
    row = row' :=
  List.inj_on_of_nodup_map table.uniqueNames h h' hname

/-- `incidents`. -/
structure Incident where
  id : Uuid
  title : Varchar 500
  description : Option String
  severity : Varchar 20
  status : Varchar 20
  tags : Option (List String)

/-- `incident_templates`. -/
structure IncidentTemplate where
  id : Uuid
  name : Varchar 255
  defaultSeverity : Varchar 20
  defaultTags : List String
  playbookIds : List String
  tenantId : Option Uuid

/-- `playbook_runs`. -/
structure PlaybookRun where
  playbookId : Uuid
  alertId : Option Uuid
  status : Varchar 20
  error : Option String
  sequencePosition : Option Nat
  sequenceTotal : Option Nat

/-- `observables`. -/
structure Observable where
  id : Uuid
  type : Varchar 50
  value : Varchar 1000
  source : Option (Varchar 100)
  enrichmentStatus : Varchar 20
  enrichments : Option (List Json)
  alertId : Option Uuid
  incidentId : Option Uuid

/-- An observable as the program holds it, before its columns are checked or after: what was
not set is `none`. -/
structure ObservableObject where
  id : Option Uuid
  type : String
  value : String
  source : Option String
  enrichmentStatus : Option String
  enrichments : Option (List Json)
  alertId : Option Uuid
  incidentId : Option Uuid

def Observable.object (o : Observable) : ObservableObject where
  id := some o.id
  type := o.type.val
  value := o.value.val
  source := o.source.map (·.val)
  enrichmentStatus := some o.enrichmentStatus.val
  enrichments := o.enrichments
  alertId := o.alertId
  incidentId := o.incidentId

/-- `integration_instances`: a connector with its configuration, for one tenant or for
all of them. -/
structure IntegrationInstance where
  id : Uuid
  integrationType : Varchar 100
  partner : Option (Varchar 100)
  config : Dict
  enabled : Bool

/-- A row of `integration_instances` with the columns that a management request reads and
writes.  `config` is `none` where the column holds the JSON `null`. -/
structure IntegrationRow where
  id : Uuid
  integrationType : Varchar 100
  name : Varchar 255
  partner : Option (Varchar 100)
  tenantId : Option Uuid
  config : Option Dict
  enabled : Bool

/-- An integration as a request holds it, before its columns are checked. -/
structure IntegrationObject where
  id : Uuid
  integrationType : Varchar 100
  name : Option String
  partner : Option String
  tenantId : Option Uuid
  config : Option Dict
  enabled : Option Bool

/-- The committed database, the playbook runs apart. -/
structure Db where
  alerts : Table Alert.id
  activities : List Activity
  analysts : Table Analyst.id
  playbooks : PlaybookTable
  incidents : Table Incident.id
  incidentTemplates : Table IncidentTemplate.id

/-- A database with empty tables. -/
def Db.empty : Db := ⟨.empty, [], .empty, .empty, .empty, .empty⟩

/-! ## One alert's row and its audit trail -/

/-- The alert's own activities, in commit order. -/
def Db.activitiesOf (db : Db) (alertId : Uuid) : List Activity :=
  db.activities.filter (fun activity => activity.alertId = some alertId)

/-- Commit a rewritten alert together with the activities added beside it. -/
def Db.commitAlert (db : Db) (alert : Alert) (activities : List Activity) : Db :=
  { db with alerts := db.alerts.set alert, activities := db.activities ++ activities }

/-- Load an alert, compute its new row and its activities, commit both.  `f`
returns the row with the identity it was given (`RowFunction`). -/
def Db.withAlert (db : Db) (alertId : Uuid) (missing : Raised)
    (f : Alert → Except Raised (Alert × List Activity)) : Except Raised (Db × Alert) :=
  match db.alerts.find? alertId with
  | none => .error missing
  | some alert =>
      match f alert with
      | .error e => .error e
      | .ok (alert', activities) => .ok (db.commitAlert alert' activities, alert')

/-- `f` rewrites a row in place: the primary key stays and the activities it adds
are about that row. -/
def RowFunction (f : Alert → Except Raised (Alert × List Activity)) : Prop :=
  ∀ alert alert' activities, f alert = .ok (alert', activities) →
    alert'.id = alert.id ∧ ∀ activity ∈ activities, activity.alertId = some alert.id

theorem Db.withAlert_ok {db db' : Db} {alertId : Uuid} {missing : Raised}
    {f : Alert → Except Raised (Alert × List Activity)} {alert' : Alert}
    (h : db.withAlert alertId missing f = .ok (db', alert')) :
    ∃ alert activities, db.alerts.find? alertId = some alert ∧
      f alert = .ok (alert', activities) ∧ db' = db.commitAlert alert' activities := by
  unfold Db.withAlert at h
  cases hfind : db.alerts.find? alertId with
  | none => rw [hfind] at h; cases h
  | some alert =>
      rw [hfind] at h
      cases hf : f alert with
      | error e => simp only [hf] at h; cases h
      | ok result =>
          simp only [hf] at h
          cases h
          exact ⟨alert, result.2, rfl, hf, rfl⟩

theorem Db.find?_commitAlert_self {db : Db} {alert alert' : Alert} {activities : List Activity}
    (hfind : db.alerts.find? alert.id = some alert) (hid : alert'.id = alert.id) :
    (db.commitAlert alert' activities).alerts.find? alert.id = some alert' := by
  rw [← hid] at hfind ⊢
  exact Table.find?_set_self hfind

theorem Db.find?_commitAlert_ne {db : Db} {alert' : Alert} {activities : List Activity}
    {i : Uuid} (h : i ≠ alert'.id) :
    (db.commitAlert alert' activities).alerts.find? i = db.alerts.find? i :=
  Table.find?_set_ne h

theorem Db.activitiesOf_commitAlert_self {db : Db} {alert' : Alert}
    {activities : List Activity} {i : Uuid}
    (h : ∀ activity ∈ activities, activity.alertId = some i) :
    (db.commitAlert alert' activities).activitiesOf i = db.activitiesOf i ++ activities := by
  have hall : activities.filter (fun activity => activity.alertId = some i) = activities :=
    List.filter_eq_self.mpr (fun activity hmem => by simp [h activity hmem])
  simp only [activitiesOf, commitAlert, List.filter_append, hall]

theorem Db.activitiesOf_commitAlert_ne {db : Db} {alert' : Alert}
    {activities : List Activity} {i j : Uuid} (hij : i ≠ j)
    (h : ∀ activity ∈ activities, activity.alertId = some j) :
    (db.commitAlert alert' activities).activitiesOf i = db.activitiesOf i := by
  have hnone : activities.filter (fun activity => activity.alertId = some i) = [] := by
    refine List.filter_eq_nil_iff.mpr (fun activity hmem => ?_)
    simp [h activity hmem, hij.symm]
  simp only [activitiesOf, commitAlert, List.filter_append, hnone, List.append_nil]

/-- A commit of one alert, seen from any stored alert: it is another one and keeps
its row and its trail, or it is this one. -/
theorem Db.commitAlert_row {db : Db} {alert alert' : Alert} {activities : List Activity}
    (hfind : db.alerts.find? alert.id = some alert) (hid : alert'.id = alert.id)
    (hacts : ∀ activity ∈ activities, activity.alertId = some alert.id) {i : Uuid} {a : Alert}
    (ha : db.alerts.find? i = some a) :
    (i ≠ alert.id ∧ (db.commitAlert alert' activities).alerts.find? i = some a ∧
        (db.commitAlert alert' activities).activitiesOf i = db.activitiesOf i) ∨
      (i = alert.id ∧ a = alert ∧
        (db.commitAlert alert' activities).alerts.find? i = some alert' ∧
        (db.commitAlert alert' activities).activitiesOf i = db.activitiesOf i ++ activities) := by
  by_cases hi : i = alert.id
  · subst hi
    rw [hfind] at ha
    exact Or.inr ⟨rfl, (Option.some.inj ha).symm, find?_commitAlert_self hfind hid,
      activitiesOf_commitAlert_self hacts⟩
  · have hi' : i ≠ alert'.id := fun e => hi (e.trans hid)
    exact Or.inl ⟨hi, (find?_commitAlert_ne hi').trans ha,
      activitiesOf_commitAlert_ne hi hacts⟩

/-- `withAlert`, seen from any stored alert. -/
theorem Db.withAlert_row {db db' : Db} {alertId : Uuid} {missing : Raised}
    {f : Alert → Except Raised (Alert × List Activity)} {alert' : Alert} (hf : RowFunction f)
    (h : db.withAlert alertId missing f = .ok (db', alert')) {i : Uuid} {a : Alert}
    (ha : db.alerts.find? i = some a) :
    (i ≠ alertId ∧ db'.alerts.find? i = some a ∧ db'.activitiesOf i = db.activitiesOf i) ∨
      (i = alertId ∧ ∃ activities, f a = .ok (alert', activities) ∧
        db'.alerts.find? i = some alert' ∧
        db'.activitiesOf i = db.activitiesOf i ++ activities) := by
  obtain ⟨alert, activities, hfind, hrow, rfl⟩ := withAlert_ok h
  have hkey : alert.id = alertId := Table.find?_key hfind
  subst hkey
  obtain ⟨hid, hacts⟩ := hf alert alert' activities hrow
  rcases commitAlert_row hfind hid hacts ha with ⟨hne, hsame⟩ | ⟨heq, rfl, hrest⟩
  · exact Or.inl ⟨hne, hsame⟩
  · exact Or.inr ⟨heq, activities, hrow, hrest⟩

end OpenSoar
