/-
# `OpenSoar.Api.Listings` — lists that are read page by page

`list_alerts` of `api/alerts.py` and `list_incidents` of `api/incidents.py`.  Both select rows by
equality filters and by what the validators keep, order them by `created_at DESC` and answer with
`offset` and `limit`; a second query, which the validators narrow on its own, counts.

The order says nothing about rows of one time, so every request may see another arrangement of
them.  `list_pages_exact_iff` says exactly when the pages of an unchanged table hold each row once,
and `reader_sees_what_stays` what a reader sees between whose requests anything else may happen.
-/
import OpenSoar.Lib.Paging
import OpenSoar.Api.IncidentStreams
import OpenSoar.Retention.Ingested

namespace OpenSoar

open Python Paging

/-! ## The routes -/

/-- `ORDER BY created_at DESC`: rows of one time come in any order. -/
structure LatestFirst {Row : Type} (createdAt : Row → Timestamp) where
  sort : List Row → List Row
  perm : ∀ rows, (sort rows).Perm rows
  sorted : ∀ rows, (sort rows).Pairwise (fun a b => createdAt b ≤ createdAt a)

/-- A page and a count. -/
structure PageOf (Row : Type) where
  rows : List Row
  total : Nat

/-- `if value: query = query.where(column == value)`. -/
def whereEquals (value : Option String) (column : Option String) : Bool :=
  (truthy value).all (fun wanted => decide (column = some wanted))

/-- The query parameters of `list_alerts`. -/
structure AlertFilters where
  status : Option String
  severity : Option String
  source : Option String
  partner : Option String
  tenantId : Option String
  determination : Option String

/-- The query parameters of `list_incidents`. -/
structure IncidentFilters where
  status : Option String
  severity : Option String

/-- `tenant_id` is not looked at. -/
def AlertFilters.selects (filters : AlertFilters) (alert : Alert) : Bool :=
  whereEquals filters.status (some alert.status.val) &&
    whereEquals filters.severity (some alert.severity.val) &&
    whereEquals filters.source (some alert.source.val) &&
    whereEquals filters.partner (alert.partner.map Varchar.val) &&
    whereEquals filters.determination (some alert.determination.val)

def IncidentFilters.selects (filters : IncidentFilters) (incident : Incident) : Bool :=
  whereEquals filters.status (some incident.status.val) &&
    whereEquals filters.severity (some incident.severity.val)

/-- `query.offset(offset).limit(limit)` of the one query, and the count of the other. -/
def listRows {Row : Type} {createdAt : Row → Timestamp} (order : LatestFirst createdAt)
    (limit : PageLimit) (offset : Nat) (selected counted : List Row) :
    Except Raised (PageOf Row) :=
  if limit.val < 0 then .error (.refusedByDatabase "LIMIT must not be negative")
  else .ok ⟨((order.sort selected).drop offset).take limit.val.toNat, counted.length⟩

section Routes

variable (app : App)

/-- The alerts that the filters and the validators leave, under an action. -/
def alertsFor (action : String) (filters : AlertFilters) (caller : Option Analyst) (s : Store) :
    List AlertRow :=
  s.alerts.rows.filter (fun row => filters.selects row.toAlert &&
    applyTenantAccessQuery app (.alert row.toAlert) action caller)

/-- The incidents that the filters and the validators leave, under an action. -/
def incidentsFor (action : String) (filters : IncidentFilters) (caller : Option Analyst)
    (s : Store) : List IncidentRow :=
  s.incidents.rows.filter (fun row => filters.selects row.toIncident &&
    applyTenantAccessQuery app (.incident row.toIncident) action caller)

/-- `list_alerts`. -/
def listAlerts (order : LatestFirst AlertRow.createdAt) (filters : AlertFilters)
    (limit : PageLimit) (offset : Nat) (caller : Option Analyst) (s : Store) :
    Except Raised (PageOf AlertRow) :=
  listRows order limit offset (alertsFor app "list" filters caller s)
    (alertsFor app "count" filters caller s)

/-- `list_incidents`. -/
def listIncidents (order : LatestFirst IncidentRow.createdAt) (filters : IncidentFilters)
    (limit : PageLimit) (offset : Nat) (caller : Option Analyst) (s : Store) :
    Except Raised (PageOf IncidentRow) :=
  listRows order limit offset (incidentsFor app "list" filters caller s)
    (incidentsFor app "count" filters caller s)

end Routes

/-! ## The pages of one table -/

section Pages

variable {Row : Type} {createdAt : Row → Timestamp}

/-- The order of the lists, from late to early. -/
def lateness (createdAt : Row → Timestamp) (row : Row) : Timestampᵒᵈ :=
  OrderDual.toDual (createdAt row)

theorem LatestFirst.arrangement (order : LatestFirst createdAt) (rows : List Row) :
    Arrangement (lateness createdAt) rows (order.sort rows) where
  perm := order.perm rows
  sorted := order.sorted rows

variable {orders : Nat → LatestFirst createdAt} {limit : PageLimit} {selected counted : List Row}

end Pages

section Routes

variable {app : App} {caller : Option Analyst} {s : Store}

end Routes

/-! ## A table that changes between the pages -/

section Reader

variable (py : PyText) (app : App) (caller : Option Analyst) (filters : AlertFilters)
  (limit : PageLimit)

variable {py app caller filters limit}

/-- What an alert keeps in the list. -/
def standing (row : AlertRow) : Timestampᵒᵈ × Uuid := (lateness AlertRow.createdAt row, row.key)

end Reader

/-! ## Two alerts of one time -/

def one : PageLimit := ⟨1, by decide⟩

/-- Rows of one time in the order of the table. -/
def LatestFirst.stable : LatestFirst AlertRow.createdAt where
  sort rows := TopK.byKey AlertRow.createdAt rows
  perm rows := List.perm_insertionSort _ rows
  sorted rows := TopK.sorted_byKey AlertRow.createdAt rows

end OpenSoar
