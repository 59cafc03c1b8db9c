/-
# `OpenSoar.Api.Integrations` — who may rewrite the tenant of a row

`update_integration` of `api/integrations.py`, beside the `update_playbook` that mirrors it.
Both assign the fields of the body first and ask the validators afterwards, so the partner and
the tenant that the validators see are those of the body, where it gives them.

A validator that goes by the caller and the scope of the resource is a predicate on scopes, and
the two requests are decided on the scope that the body leaves (`updateIntegration_returns`,
`updatePlaybook_returns`).  `update_authorised_iff` says for which bodies that decides the row
as it was stored, too.
-/
import OpenSoar.Api.Playbooks

namespace OpenSoar

open Python

def integrationNotFound : Raised := .httpException 404 "Integration not found"

/-! ## `PATCH /integrations/{integration_id}` -/

def IntegrationRow.object (row : IntegrationRow) : IntegrationObject where
  id := row.id
  integrationType := row.integrationType
  name := some row.name.val
  partner := row.partner.map (·.val)
  tenantId := row.tenantId
  config := row.config
  enabled := some row.enabled

/-- The row that a commit writes, when every column takes its value. -/
def IntegrationObject.row (integration : IntegrationObject) : Except Raised IntegrationRow := do
  let nameGiven ← orRaise integration.name
    (.refusedByDatabase "null value violates not-null constraint")
  let name ← column 255 nameGiven
  let partner ← (Field.given integration.partner).assignNullable none
  let enabled ← orRaise integration.enabled
    (.refusedByDatabase "null value violates not-null constraint")
  pure { id := integration.id
         integrationType := integration.integrationType
         name := name
         partner := partner
         tenantId := integration.tenantId
         config := integration.config
         enabled := enabled }

structure IntegrationUpdate where
  name : Field String
  partner : Field String
  tenantId : Field Uuid
  config : Field Dict
  enabled : Field Bool

/-- `setattr(integration, field, value)` for each field given. -/
def IntegrationUpdate.assign (update : IntegrationUpdate) (integration : IntegrationObject) :
    IntegrationObject :=
  { integration with
    name := update.name.getD integration.name
    partner := update.partner.getD integration.partner
    tenantId := update.tenantId.getD integration.tenantId
    config := update.config.getD integration.config
    enabled := update.enabled.getD integration.enabled }

/-- `update_integration`. -/
def updateIntegration (app : App) (integrationId : Uuid) (update : IntegrationUpdate)
    (caller : Option Analyst) (integrations : Table IntegrationRow.id) :
    Except Raised (Table IntegrationRow.id) := do
  let analyst ← requirePermission .integrationsManage caller
  let integration ← orRaise (integrations.find? integrationId) integrationNotFound
  let updated := update.assign integration.object
  enforceTenantAccess app (.integration updated) "update" (some analyst)
  let row ← updated.row
  pure (integrations.set row)

/-! ## Scopes -/

/-- What ties a resource to a tenant. -/
@[ext] structure Scope where
  partner : Option String
  tenantId : Option Uuid
deriving DecidableEq

/-- `getattr(resource, "partner", None)` and `getattr(resource, "tenant_id", None)`. -/
def Resource.scope : Resource → Scope
  | .alert row => ⟨row.partner.map (·.val), none⟩
  | .playbook definition => ⟨definition.partner.map (·.val), definition.tenantId⟩
  | .incidentTemplate template => ⟨none, template.tenantId⟩
  | .incident _ => ⟨none, none⟩
  | .observable _ => ⟨none, none⟩
  | .integration held => ⟨held.partner, held.tenantId⟩
  | .incidentAlert _ _ => ⟨none, none⟩
  | .analyst _ => ⟨none, none⟩

/-- The registered validators go by the scope of a resource: they let the caller have those
with a permitted scope, and no others. -/
def DecideByScope (app : App) (caller : Option Analyst) (permitted : Scope → Prop) : Prop :=
  ∀ resource action,
    enforceTenantAccess app resource action caller = .ok () ↔ permitted resource.scope

/-- The scope that a body leaves a row with. -/
def rewritten (partner : Field String) (tenantId : Field Uuid) (stored : Scope) : Scope where
  partner := partner.getD stored.partner
  tenantId := tenantId.getD stored.tenantId

/-! ## When an update goes through -/

/-- Every column takes what the body gives for it. -/
def IntegrationUpdate.Fits (update : IntegrationUpdate) : Prop :=
  update.name.NotNull ∧ update.name.Fits 255 ∧ update.partner.Fits 100 ∧ update.enabled.NotNull

def PlaybookUpdate.Fits (update : PlaybookUpdate) : Prop :=
  update.enabled.NotNull ∧ update.partner.Fits 100

section Requests

variable {app : App} {caller : Option Analyst} {permitted : Scope → Prop}

/-- A column that is not nullable has a value unless the body gives `null` for it. -/
theorem Field.getD_some {α : Type} {field : Field α} {old : α} :
    (∃ given, field.getD (some old) = some given) ↔ field.NotNull := by
  rcases field with - | - | value
  · exact iff_of_true ⟨_, rfl⟩ nofun
  · exact iff_of_false (fun ⟨_, h⟩ => nomatch h) (fun h => h rfl)
  · exact iff_of_true ⟨_, rfl⟩ nofun

theorem Field.getD_fits {n : Nat} {field : Field String} {old : Varchar n} :
    (∃ given, field.getD (some old.val) = some given ∧ given.length ≤ n) ↔
      field.NotNull ∧ field.Fits n := by
  rcases field with - | - | value
  · exact iff_of_true ⟨_, rfl, old.fits⟩ ⟨nofun, nofun⟩
  · exact iff_of_false (fun ⟨_, h, _⟩ => nomatch h) (fun h => h.1 rfl)
  · refine ⟨fun ⟨given, hgiven, hfits⟩ => ⟨nofun, ?_⟩, fun h => ⟨value, rfl, h.2 value rfl⟩⟩
    rintro _ ⟨⟩
    cases hgiven
    exact hfits

/-- A nullable column takes back what it held. -/
theorem Field.given_getD_fits {n : Nat} {field : Field String} {old : Option (Varchar n)} :
    (Field.given (field.getD (old.map (·.val)))).Fits n ↔ field.Fits n := by
  rcases field with - | - | value
  · refine iff_of_true (fun value hvalue => ?_) nofun
    cases old with
    | none => cases hvalue
    | some stored =>
        cases hvalue
        exact stored.fits
  · exact iff_of_true nofun nofun
  · exact Iff.rfl

theorem IntegrationUpdate.row_returns {update : IntegrationUpdate} {row : IntegrationRow} :
    Returns (update.assign row.object).row ↔ update.Fits := by
  obtain ⟨name, partner, tenantId, config, enabled⟩ := update
  simp only [IntegrationObject.row, returns_bind]
  constructor
  · rintro ⟨given, hgiven, stored, hstored, rest, hrest, flag, hflag, -⟩
    obtain ⟨hnull, hfits⟩ := (@Field.getD_fits 255 name row.name).mp
      ⟨given, orRaise_ok hgiven, column_returns.mp ⟨_, hstored⟩⟩
    exact ⟨hnull, hfits,
      Field.given_getD_fits.mp (Field.assignNullable_returns.mp ⟨rest, hrest⟩),
      (@Field.getD_some Bool enabled row.enabled).mp ⟨flag, orRaise_ok hflag⟩⟩
  · rintro ⟨hnull, hfits, hrest, hflag⟩
    obtain ⟨given, hgiven, hlength⟩ := (@Field.getD_fits 255 name row.name).mpr ⟨hnull, hfits⟩
    obtain ⟨rest, hassigned⟩ := (@Field.assignNullable_returns _ _ none).mpr
      ((@Field.given_getD_fits 100 partner row.partner).mpr hrest)
    obtain ⟨flag, hgivenFlag⟩ := (@Field.getD_some Bool enabled row.enabled).mpr hflag
    have hgiven' : (IntegrationUpdate.assign ⟨name, partner, tenantId, config, enabled⟩
        row.object).name = some given := hgiven
    have hflag' : (IntegrationUpdate.assign ⟨name, partner, tenantId, config, enabled⟩
        row.object).enabled = some flag := hgivenFlag
    exact ⟨given, by rw [hgiven']; rfl, ⟨given, hlength⟩, column_ok hlength, rest, hassigned,
      flag, by rw [hflag']; rfl, returns_ok _⟩

/-- An integration is updated by a caller with the permission, when the scope the body leaves
it with is permitted and its columns take the values. -/
theorem updateIntegration_returns (hscope : DecideByScope app caller permitted)
    {integrations : Table IntegrationRow.id} {row : IntegrationRow}
    (hrow : integrations.find? row.id = some row) (update : IntegrationUpdate) :
    Returns (updateIntegration app row.id update caller integrations) ↔
      Returns (requirePermission .integrationsManage caller) ∧
        permitted (rewritten update.partner update.tenantId
          (Resource.integration row.object).scope) ∧ update.Fits := by
  simp only [updateIntegration, returns_bind]
  constructor
  · rintro ⟨analyst, hanalyst, found, hfound, _, hallowed, new, hnew, -⟩
    have hsame : row = found := Option.some.inj (hrow.symm.trans (orRaise_ok hfound))
    subst hsame
    rw [← (requirePermission_ok hanalyst).1] at hallowed
    exact ⟨⟨analyst, hanalyst⟩, (hscope _ _).mp hallowed,
      IntegrationUpdate.row_returns.mp ⟨new, hnew⟩⟩
  · rintro ⟨⟨analyst, hanalyst⟩, hallowed, hfits⟩
    obtain ⟨new, hnew⟩ := IntegrationUpdate.row_returns.mpr hfits
    have henforced := (hscope (.integration (update.assign row.object)) "update").mpr hallowed
    rw [(requirePermission_ok hanalyst).1] at henforced
    exact ⟨analyst, hanalyst, row, by rw [hrow]; rfl, (), henforced, new, hnew, returns_ok _⟩

/-- What `setattr` makes of a playbook. -/
theorem PlaybookUpdate.apply_eq_ok {update : PlaybookUpdate} {pb updated : PlaybookDefinition} :
    update.apply pb = .ok updated ↔ update.enabled.NotNull ∧ ∃ partner,
      update.partner.assignNullable pb.partner = .ok partner ∧
        { pb with
          enabled := update.enabled.join.getD pb.enabled
          partner := partner
          tenantId := update.tenantId.getD pb.tenantId } = updated := by
  obtain ⟨enabled, partner, tenantId⟩ := update
  rcases enabled with - | - | value
  · constructor
    · intro h
      obtain ⟨_, ⟨⟩, h⟩ := bind_ok h
      obtain ⟨new, hnew, h⟩ := bind_ok h
      exact ⟨nofun, new, hnew, Except.ok.inj h⟩
    · rintro ⟨-, new, hnew, rfl⟩
      exact bind_of_ok hnew
  · exact iff_of_false nofun (fun h => h.1 rfl)
  · constructor
    · intro h
      obtain ⟨_, ⟨⟩, h⟩ := bind_ok h
      obtain ⟨new, hnew, h⟩ := bind_ok h
      exact ⟨nofun, new, hnew, Except.ok.inj h⟩
    · rintro ⟨-, new, hnew, rfl⟩
      exact bind_of_ok hnew

/-- The playbook keeps its identity and its name, and has the scope of the body. -/
theorem PlaybookUpdate.apply_ok {update : PlaybookUpdate} {pb updated : PlaybookDefinition}
    (h : update.apply pb = .ok updated) :
    updated.id = pb.id ∧ updated.name = pb.name ∧
      (Resource.playbook updated).scope =
        rewritten update.partner update.tenantId (Resource.playbook pb).scope := by
  obtain ⟨-, partner, hpartner, rfl⟩ := PlaybookUpdate.apply_eq_ok.mp h
  exact ⟨rfl, rfl, Scope.ext (Field.assignNullable_val hpartner) rfl⟩

theorem PlaybookUpdate.apply_returns {update : PlaybookUpdate} {pb : PlaybookDefinition} :
    Returns (update.apply pb) ↔ update.Fits := by
  constructor
  · rintro ⟨updated, h⟩
    obtain ⟨hnull, partner, hpartner, -⟩ := PlaybookUpdate.apply_eq_ok.mp h
    exact ⟨hnull, Field.assignNullable_returns.mp ⟨partner, hpartner⟩⟩
  · rintro ⟨hnull, hfits⟩
    obtain ⟨partner, hpartner⟩ := (@Field.assignNullable_returns _ _ pb.partner).mpr hfits
    exact ⟨_, PlaybookUpdate.apply_eq_ok.mpr ⟨hnull, partner, hpartner, rfl⟩⟩

/-- The same for a playbook. -/
theorem updatePlaybook_returns (hscope : DecideByScope app caller permitted) {db : Db}
    {pb : PlaybookDefinition} (hpb : db.playbooks.find? pb.id = some pb)
    (update : PlaybookUpdate) :
    Returns (updatePlaybook app pb.id update caller db) ↔
      Returns (requirePermission .playbooksManage caller) ∧
        permitted (rewritten update.partner update.tenantId (Resource.playbook pb).scope) ∧
          update.Fits := by
  simp only [updatePlaybook, returns_bind]
  constructor
  · rintro ⟨analyst, hanalyst, found, hfound, updated, hupdated, _, hallowed, -⟩
    have hsame : pb = found := Option.some.inj (hpb.symm.trans (orRaise_ok hfound))
    subst hsame
    rw [← (requirePermission_ok hanalyst).1] at hallowed
    have hpermitted := (hscope _ _).mp hallowed
    rw [(PlaybookUpdate.apply_ok hupdated).2.2] at hpermitted
    exact ⟨⟨analyst, hanalyst⟩, hpermitted, PlaybookUpdate.apply_returns.mp ⟨updated, hupdated⟩⟩
  · rintro ⟨⟨analyst, hanalyst⟩, hallowed, hfits⟩
    obtain ⟨updated, hupdated⟩ := (@PlaybookUpdate.apply_returns _ pb).mpr hfits
    obtain ⟨hid, hname, hnew⟩ := PlaybookUpdate.apply_ok hupdated
    rw [← hnew] at hallowed
    have henforced := (hscope (.playbook updated) "update").mpr hallowed
    rw [(requirePermission_ok hanalyst).1] at henforced
    obtain ⟨playbooks, hchecked⟩ := PlaybookTable.checked_returns hpb hid hname
    exact ⟨analyst, hanalyst, pb, by rw [hpb]; rfl, updated, hupdated, (), henforced, playbooks,
      hchecked, returns_ok _⟩

/-- **Which updates are decided on the stored row.**  A request that can only succeed for a
caller who may have the row as it was stored is one whose body leaves a scope that opens
nothing more: where the caller may manage such rows, the columns take the values and the scope
of the body is permitted, the stored scope is permitted too. -/
theorem update_authorised_iff (hscope : DecideByScope app caller permitted)
    {integrations : Table IntegrationRow.id} {row : IntegrationRow}
    (hrow : integrations.find? row.id = some row) (update : IntegrationUpdate)
    {db : Db} {pb : PlaybookDefinition} (hpb : db.playbooks.find? pb.id = some pb)
    (change : PlaybookUpdate) :
    ((Returns (updateIntegration app row.id update caller integrations) →
        permitted (Resource.integration row.object).scope) ↔
      (Returns (requirePermission .integrationsManage caller) → update.Fits →
        permitted (rewritten update.partner update.tenantId
          (Resource.integration row.object).scope) →
        permitted (Resource.integration row.object).scope)) ∧
    ((Returns (updatePlaybook app pb.id change caller db) →
        permitted (Resource.playbook pb).scope) ↔
      (Returns (requirePermission .playbooksManage caller) → change.Fits →
        permitted (rewritten change.partner change.tenantId (Resource.playbook pb).scope) →
        permitted (Resource.playbook pb).scope)) := by
  rw [updateIntegration_returns hscope hrow, updatePlaybook_returns hscope hpb]
  constructor
  · constructor
    · intro h hcaller hfits hnew
      exact h ⟨hcaller, hnew, hfits⟩
    · rintro h ⟨hcaller, hnew, hfits⟩
      exact h hcaller hfits hnew
  · constructor
    · intro h hcaller hfits hnew
      exact h ⟨hcaller, hnew, hfits⟩
    · rintro h ⟨hcaller, hnew, hfits⟩
      exact h hcaller hfits hnew

end Requests

/-! ## A caller of one partner -/

/-- A validator of one partner's callers. -/
def acmeOnly : TenantValidator where
  check resource _ _ :=
    if resource.scope.partner = some "acme" then .ok ()
    else .error (.httpException 403 "Tenant access denied")
  keeps resource _ _ := decide (resource.scope.partner = some "acme")

def acmeApp : App := ⟨[acmeOnly]⟩

theorem decideByScope_acme (caller : Option Analyst) :
    DecideByScope acmeApp caller (fun scope => scope.partner = some "acme") := by
  intro resource action
  show enforceTenantAccess acmeApp resource action caller = .ok () ↔
    resource.scope.partner = some "acme"
  have hchecked : enforceTenantAccess acmeApp resource action caller =
      ((if resource.scope.partner = some "acme" then .ok ()
        else .error (.httpException 403 "Tenant access denied") : Except Raised Unit) >>=
          fun _ => .ok ()) := rfl
  rw [hchecked]
  by_cases hacme : resource.scope.partner = some "acme"
  · rw [if_pos hacme]
    exact iff_of_true rfl hacme
  · rw [if_neg hacme]
    exact iff_of_false nofun hacme

/-- Another partner's integration, and its playbook. -/
def globexIntegration : IntegrationRow where
  id := 1
  integrationType := .lit "slack"
  name := .lit "on call"
  partner := some (.lit "globex")
  tenantId := none
  config := some []
  enabled := true

def globexIntegrations : Table IntegrationRow.id := ⟨[globexIntegration], List.nodup_singleton _⟩

def globexPlaybook : PlaybookDefinition where
  id := 2
  name := .lit "isolate host"
  description := none
  partner := some (.lit "globex")
  tenantId := none
  modulePath := .lit "playbooks.isolate"
  functionName := .lit "isolate"
  triggerType := none
  triggerConfig := []
  enabled := true
  executionOrder := 1000

def globexDb : Db :=
  { Db.empty with
    playbooks := ⟨⟨[globexPlaybook], List.nodup_singleton _⟩, List.nodup_singleton _⟩ }

/-- A body that switches a row off and leaves its tenant. -/
def switchOff : IntegrationUpdate := ⟨none, none, none, none, some (some false)⟩

def switchPlaybookOff : PlaybookUpdate := ⟨some (some false), none, none⟩

/-- One that makes the row the caller's own. -/
def takeOver : IntegrationUpdate := ⟨none, some (some "acme"), none, none, none⟩

def takePlaybookOver : PlaybookUpdate := ⟨none, some (some "acme"), none⟩

theorem globex_rows_are_refused :
    ¬ Returns (updateIntegration acmeApp globexIntegration.id switchOff (some administrator)
        globexIntegrations) ∧
      ¬ Returns (updatePlaybook acmeApp globexPlaybook.id switchPlaybookOff (some administrator)
        globexDb) := by
  have hrow : globexIntegrations.find? globexIntegration.id = some globexIntegration := rfl
  have hpb : globexDb.playbooks.find? globexPlaybook.id = some globexPlaybook := rfl
  have h := update_authorised_iff (decideByScope_acme (some administrator)) hrow switchOff hpb
    switchPlaybookOff
  have hother : ¬ (some "globex" : Option String) = some "acme" := by decide
  exact ⟨fun hreturns => hother (h.1.mpr (fun _ _ hnew => hnew) hreturns),
    fun hreturns => hother (h.2.mpr (fun _ _ hnew => hnew) hreturns)⟩

/-- A body that rewrites the partner has the validator look at the row it would make. -/
theorem foreign_rows_are_taken_over :
    (¬ ∀ (app : App) (caller : Option Analyst) (permitted : Scope → Prop)
        (integrations : Table IntegrationRow.id) (row : IntegrationRow)
        (update : IntegrationUpdate), DecideByScope app caller permitted →
        integrations.find? row.id = some row →
        Returns (updateIntegration app row.id update caller integrations) →
        permitted (Resource.integration row.object).scope) ∧
      ¬ ∀ (app : App) (caller : Option Analyst) (permitted : Scope → Prop) (db : Db)
        (pb : PlaybookDefinition) (update : PlaybookUpdate), DecideByScope app caller permitted →
        db.playbooks.find? pb.id = some pb →
        Returns (updatePlaybook app pb.id update caller db) →
        permitted (Resource.playbook pb).scope := by
  have hacme := decideByScope_acme (some administrator)
  have hother : ¬ (some "globex" : Option String) = some "acme" := by decide
  have hfits : Field.Fits 100 (some (some "acme")) := by
    rintro _ ⟨⟩
    decide
  constructor
  · intro h
    have hreturns : Returns (updateIntegration acmeApp globexIntegration.id takeOver
        (some administrator) globexIntegrations) :=
      (updateIntegration_returns hacme rfl takeOver).mpr
        ⟨returns_ok administrator, rfl, nofun, nofun, hfits, nofun⟩
    exact hother (h acmeApp _ _ globexIntegrations globexIntegration takeOver hacme rfl hreturns)
  · intro h
    have hreturns : Returns (updatePlaybook acmeApp globexPlaybook.id takePlaybookOver
        (some administrator) globexDb) :=
      (updatePlaybook_returns hacme rfl takePlaybookOver).mpr
        ⟨returns_ok administrator, rfl, nofun, hfits⟩
    exact hother (h acmeApp _ _ globexDb globexPlaybook takePlaybookOver hacme rfl hreturns)

end OpenSoar
