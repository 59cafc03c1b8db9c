/-
# `OpenSoar.Core.Registry` — the playbooks a process knows, and their database rows

`core/decorators.py` and `core/registry.py`.  A process keeps a dict from names to
registered playbooks, filled by importing the playbook files; a database row of
`playbook_definitions` mirrors each of them (`syncToDb`).  The two carry a flag
`enabled` each: the sync writes the row's from the playbook's only when it adds
the row, and what an operator has set on an existing row it keeps
(`syncToDb_keeps`).

A playbook's function is arbitrary code with a session at hand, so it is a field
of the playbook here: whatever it makes of the database, and how it ends.
-/
import Mathlib.Data.Prod.Lex
import Mathlib.Data.String.Basic
import Mathlib.Data.List.Sort
import OpenSoar.Models

namespace OpenSoar

open Python

/-! ## Registered playbooks -/

/-- `PlaybookMeta`.  The conditions are JSON, as the column they are synced to. -/
structure PlaybookMeta where
  name : String
  trigger : Option String
  conditions : Dict
  description : String
  enabled : Bool
  order : Int
  priority : String

/-- How a playbook's function ends. -/
inductive PlaybookOutcome where
  | success
  | cancelled
  | failed (error : String)

/-- `RegisteredPlaybook`; `func.__name__` is `functionName`.  The function gets the
alert (none for a run without one) and the id it is bound to; an error is the
refusal of its writes when they are committed. -/
structure RegisteredPlaybook extends PlaybookMeta where
  functionName : String
  func : (alertId : Option Uuid) → Option Alert → Db → Except Raised (Db × PlaybookOutcome)
  module : String

/-- `dict[str, RegisteredPlaybook]`, each playbook under its own name. -/
abbrev PlaybookRegistry := Table (fun pb : RegisteredPlaybook => pb.name)

/-- `_PLAYBOOK_REGISTRY[meta.name] = ...`: a known name keeps its place. -/
def PlaybookRegistry.register (registry : PlaybookRegistry) (pb : RegisteredPlaybook) :
    PlaybookRegistry :=
  match registry.insert? pb with
  | some registry' => registry'
  | none => registry.set pb

/-- `discover`: the playbooks that the imported files declare, in order. -/
def PlaybookRegistry.discover (registry : PlaybookRegistry) (declared : List RegisteredPlaybook) :
    PlaybookRegistry :=
  declared.foldl register registry

/-- `clear_and_reload`. -/
def PlaybookRegistry.clearAndReload (declared : List RegisteredPlaybook) : PlaybookRegistry :=
  discover .empty declared

/-! ## Playbooks for a trigger -/

/-- `x in items`. -/
def isIn (x : Json) (items : List Json) : Bool := items.any (fun item => x.pyEq item)

/-- `_condition_value_matches`. -/
def conditionValueMatches (expected actual : Json) : Bool :=
  if actual.isNull then false
  else
    match actual, expected with
    | .arr items, .arr allowed => items.any (fun item => isIn item allowed)
    | .arr items, expected => isIn expected items
    | actual, .arr allowed => isIn actual allowed
    | actual, expected => actual.pyEq expected

/-- `_conditions_match`: a field that the alert data lacks is `None`. -/
def conditionsMatch (conditions alertData : Dict) : Bool :=
  if conditions.isEmpty then true
  else conditions.all (fun condition =>
    conditionValueMatches condition.2 (Json.get alertData condition.1))

/-- The key playbooks are sorted by: the order, then the name. -/
def RegisteredPlaybook.sortKey (pb : RegisteredPlaybook) : ℤ ×ₗ String := toLex (pb.order, pb.name)

/-- `get_playbooks_for_trigger`. -/
def PlaybookRegistry.getPlaybooksForTrigger (registry : PlaybookRegistry) (triggerType : String)
    (alertData : Dict) : List RegisteredPlaybook :=
  (registry.rows.filter (fun pb =>
      pb.enabled && decide (pb.trigger = some triggerType)
        && conditionsMatch pb.conditions alertData)).insertionSort
    (fun pb pb' => pb.sortKey ≤ pb'.sortKey)

/-- What one condition asks of the alert's value: it is there, and
lists on either side are matched by their elements. -/
inductive ConditionHolds : (expected actual : Json) → Prop
  | share {allowed items : List Json} (item expected : Json) : item ∈ items →
      expected ∈ allowed → item.pyEq expected = true → ConditionHolds (.arr allowed) (.arr items)
  | contains {expected : Json} {items : List Json} (item : Json) :
      (∀ allowed, expected ≠ .arr allowed) → item ∈ items → expected.pyEq item = true →
      ConditionHolds expected (.arr items)
  | oneOf {allowed : List Json} {actual : Json} (expected : Json) : actual ≠ .null →
      (∀ items, actual ≠ .arr items) → expected ∈ allowed → actual.pyEq expected = true →
      ConditionHolds (.arr allowed) actual
  | equal {expected actual : Json} : actual ≠ .null → (∀ items, actual ≠ .arr items) →
      (∀ allowed, expected ≠ .arr allowed) → actual.pyEq expected = true →
      ConditionHolds expected actual

theorem isIn_iff {x : Json} {items : List Json} :
    isIn x items = true ↔ ∃ item ∈ items, x.pyEq item = true := List.any_eq_true

theorem conditionValueMatches_iff {expected actual : Json} :
    conditionValueMatches expected actual = true ↔ ConditionHolds expected actual := by
  constructor
  · intro h
    unfold conditionValueMatches at h
    split at h
    · cases h
    · rename_i hnull
      have hnull : actual ≠ .null := fun e => hnull (e ▸ rfl)
      split at h
      · obtain ⟨item, hitem, h⟩ := List.any_eq_true.mp h
        obtain ⟨e, he, heq⟩ := isIn_iff.mp h
        exact .share item e hitem he heq
      · rename_i hexpected
        obtain ⟨item, hitem, heq⟩ := isIn_iff.mp h
        exact .contains item hexpected hitem heq
      · rename_i hactual
        obtain ⟨e, he, heq⟩ := isIn_iff.mp h
        exact .oneOf e hnull hactual he heq
      · rename_i hitems hallowed _
        exact .equal hnull hitems hallowed h
  · intro h
    cases h with
    | share item e hitem he heq =>
        exact List.any_eq_true.mpr ⟨item, hitem, isIn_iff.mpr ⟨e, he, heq⟩⟩
    | contains item hexpected hitem heq =>
        cases expected with
        | arr allowed => exact absurd rfl (hexpected allowed)
        | _ => exact isIn_iff.mpr ⟨item, hitem, heq⟩
    | oneOf e hnull hactual he heq =>
        cases actual with
        | null => exact absurd rfl hnull
        | arr items => exact absurd rfl (hactual items)
        | _ => exact isIn_iff.mpr ⟨e, he, heq⟩
    | equal hnull hactual hexpected heq =>
        cases actual with
        | null => exact absurd rfl hnull
        | arr items => exact absurd rfl (hactual items)
        | _ =>
            cases expected with
            | arr allowed => exact absurd rfl (hexpected allowed)
            | _ => exact heq

theorem conditionsMatch_iff {conditions alertData : Dict} :
    conditionsMatch conditions alertData = true ↔
      ∀ key expected, (key, expected) ∈ conditions →
        ConditionHolds expected (Json.get alertData key) := by
  have hall : conditionsMatch conditions alertData = conditions.all (fun condition =>
      conditionValueMatches condition.2 (Json.get alertData condition.1)) := by
    cases conditions <;> rfl
  rw [hall, List.all_eq_true]
  constructor
  · intro h key expected hmem
    exact conditionValueMatches_iff.mp (h (key, expected) hmem)
  · rintro h ⟨key, expected⟩ hmem
    exact conditionValueMatches_iff.mpr (h key expected hmem)

theorem mem_getPlaybooksForTrigger {registry : PlaybookRegistry} {triggerType : String}
    {alertData : Dict} {pb : RegisteredPlaybook} :
    pb ∈ registry.getPlaybooksForTrigger triggerType alertData ↔
      pb ∈ registry.rows ∧ pb.enabled = true ∧ pb.trigger = some triggerType ∧
        ∀ key expected, (key, expected) ∈ pb.conditions →
          ConditionHolds expected (Json.get alertData key) := by
  simp only [PlaybookRegistry.getPlaybooksForTrigger, List.mem_insertionSort, List.mem_filter,
    Bool.and_eq_true, decide_eq_true_eq, conditionsMatch_iff, and_assoc]

/-- Sorted by order and name. -/
theorem pairwise_getPlaybooksForTrigger (registry : PlaybookRegistry) (triggerType : String)
    (alertData : Dict) :
    (registry.getPlaybooksForTrigger triggerType alertData).Pairwise
      (fun pb pb' => pb.sortKey ≤ pb'.sortKey) :=
  List.pairwise_insertionSort _ _

/-- No name twice. -/
theorem nodup_getPlaybooksForTrigger (registry : PlaybookRegistry) (triggerType : String)
    (alertData : Dict) :
    ((registry.getPlaybooksForTrigger triggerType alertData).map (·.name)).Nodup := by
  have hperm := (List.perm_insertionSort (fun pb pb' : RegisteredPlaybook =>
    pb.sortKey ≤ pb'.sortKey) (registry.rows.filter (fun pb =>
      pb.enabled && decide (pb.trigger = some triggerType)
        && conditionsMatch pb.conditions alertData))).map (·.name)
  exact hperm.nodup_iff.mpr (registry.nodup.sublist (List.filter_sublist.map _))

/-! ## Registry and database -/

/-- An `INTEGER` column. -/
def integerColumn (n : Int) : Except Raised Int :=
  if -2 ^ 31 ≤ n ∧ n < 2 ^ 31 then .ok n else .error (.refusedByDatabase "integer out of range")

/-- The row of a playbook that has one: `enabled` and the tenant columns are not
among those written. -/
def updateDefinition (pb : RegisteredPlaybook) (existing : PlaybookDefinition) :
    Except Raised PlaybookDefinition := do
  let modulePath ← column 500 pb.module
  let functionName ← column 255 pb.functionName
  let triggerType ← pb.trigger.mapM (column 50)
  let executionOrder ← integerColumn pb.order
  pure { existing with
    modulePath := modulePath
    functionName := functionName
    triggerType := triggerType
    triggerConfig := pb.conditions
    description := some pb.description
    executionOrder := executionOrder }

/-- The row of a playbook that has none yet. -/
def newDefinition (id : Uuid) (pb : RegisteredPlaybook) : Except Raised PlaybookDefinition := do
  let name ← column 255 pb.name
  let modulePath ← column 500 pb.module
  let functionName ← column 255 pb.functionName
  let triggerType ← pb.trigger.mapM (column 50)
  let executionOrder ← integerColumn pb.order
  pure {
    id := id
    name := name
    description := some pb.description
    partner := none
    tenantId := none
    modulePath := modulePath
    functionName := functionName
    triggerType := triggerType
    triggerConfig := pb.conditions
    enabled := pb.enabled
    executionOrder := executionOrder }

/-- One turn of the loop in `sync_to_db`; `newId` draws the id of a new row. -/
def syncPlaybook (newId : String → Uuid) (playbooks : PlaybookTable) (pb : RegisteredPlaybook) :
    Except Raised PlaybookTable :=
  match playbooks.named? pb.name with
  | some existing =>
      match updateDefinition pb existing with
      | .ok row => PlaybookTable.checked (playbooks.set row)
      | .error e => .error e
  | none =>
      match newDefinition (newId pb.name) pb with
      | .ok row =>
          match playbooks.insert? row with
          | some table => PlaybookTable.checked table
          | none => .error (.refusedByDatabase
              "duplicate key value violates unique constraint pk_playbook_definitions")
      | .error e => .error e

/-- `sync_to_db`. -/
def syncToDb (newId : String → Uuid) (registry : PlaybookRegistry) (db : Db) :
    Except Raised Db :=
  (registry.rows.foldlM (syncPlaybook newId) db.playbooks).map
    (fun playbooks => { db with playbooks := playbooks })

/-- Two versions of a row that agree on what an operator decides. -/
structure SameDecisions (row row' : PlaybookDefinition) : Prop where
  id : row'.id = row.id
  name : row'.name = row.name
  enabled : row'.enabled = row.enabled
  partner : row'.partner = row.partner
  tenantId : row'.tenantId = row.tenantId

theorem SameDecisions.refl (row : PlaybookDefinition) : SameDecisions row row :=
  ⟨rfl, rfl, rfl, rfl, rfl⟩

theorem SameDecisions.trans {row row' row'' : PlaybookDefinition} (h : SameDecisions row row')
    (h' : SameDecisions row' row'') : SameDecisions row row'' :=
  ⟨h'.id.trans h.id, h'.name.trans h.name, h'.enabled.trans h.enabled,
    h'.partner.trans h.partner, h'.tenantId.trans h.tenantId⟩

theorem updateDefinition_ok {pb : RegisteredPlaybook} {existing row : PlaybookDefinition}
    (h : updateDefinition pb existing = .ok row) : SameDecisions existing row := by
  unfold updateDefinition at h
  obtain ⟨modulePath, -, h⟩ := bind_ok h
  obtain ⟨functionName, -, h⟩ := bind_ok h
  obtain ⟨triggerType, -, h⟩ := bind_ok h
  obtain ⟨executionOrder, -, h⟩ := bind_ok h
  cases h
  exact ⟨rfl, rfl, rfl, rfl, rfl⟩

/-- A turn of the loop keeps every stored row's decisions. -/
theorem syncPlaybook_keeps {newId : String → Uuid} {playbooks playbooks' : PlaybookTable}
    {pb : RegisteredPlaybook} (h : syncPlaybook newId playbooks pb = .ok playbooks')
    {id : Uuid} {row : PlaybookDefinition} (hrow : playbooks.find? id = some row) :
    ∃ row', playbooks'.find? id = some row' ∧ SameDecisions row row' := by
  unfold syncPlaybook at h
  cases hnamed : playbooks.named? pb.name with
  | some existing =>
      simp only [hnamed] at h
      cases hupdate : updateDefinition pb existing with
      | error e => simp only [hupdate] at h; cases h
      | ok updated =>
          simp only [hupdate] at h
          have hsame := updateDefinition_ok hupdate
          rw [PlaybookTable.checked_ok h, Table.find?_set]
          by_cases hid : id = updated.id
          · have hexisting : playbooks.find? id = some existing := by
              rw [hid, hsame.id]
              exact Table.find?_of_mem (PlaybookTable.named?_some hnamed).1
            rw [hexisting] at hrow
            cases hrow
            exact ⟨updated, by rw [if_pos hid, hexisting, Option.map_some], hsame⟩
          · exact ⟨row, by rw [if_neg hid, hrow], .refl row⟩
  | none =>
      simp only [hnamed] at h
      cases hnew : newDefinition (newId pb.name) pb with
      | error e => simp only [hnew] at h; cases h
      | ok added =>
          simp only [hnew] at h
          cases hinsert : playbooks.insert? added with
          | none => simp only [hinsert] at h; cases h
          | some table =>
              simp only [hinsert] at h
              have hfresh := (Table.insert?_some hinsert).1
              have hne : id ≠ added.id := by
                rintro rfl
                rw [hfresh] at hrow
                cases hrow
              refine ⟨row, ?_, .refl row⟩
              rw [PlaybookTable.checked_ok h, Table.find?_insert hinsert, if_neg hne, hrow]

/-- **A sync keeps what operators decide.**  Every stored row keeps its name, its
`enabled` flag and its tenant, whatever the registry holds. -/
theorem syncToDb_keeps {newId : String → Uuid} {registry : PlaybookRegistry} {db db' : Db}
    (h : syncToDb newId registry db = .ok db') {id : Uuid} {row : PlaybookDefinition}
    (hrow : db.playbooks.find? id = some row) :
    ∃ row', db'.playbooks.find? id = some row' ∧ SameDecisions row row' := by
  obtain ⟨playbooks, hfold, rfl⟩ := map_ok h
  refine foldlM_inv (P := fun t => ∃ row', t.find? id = some row' ∧ SameDecisions row row')
    ?_ ⟨row, hrow, .refl row⟩ hfold
  rintro before pb after ⟨row', hrow', hsame⟩ hstep
  obtain ⟨row'', hrow'', hsame'⟩ := syncPlaybook_keeps hstep hrow'
  exact ⟨row'', hrow'', hsame.trans hsame'⟩

end OpenSoar
