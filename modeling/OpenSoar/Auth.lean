/-
# `OpenSoar.Auth` — permissions of a role, and the tenant hooks

`auth/rbac.py` maps roles to permissions and turns a missing one into a 401 or a
403.  `plugins.py` keeps a list of tenant-access validators registered by
optional packages; the program calls each of them before it hands out a
resource (`enforceTenantAccess`) and lets each of them narrow a query
(`applyTenantAccessQuery`).  The validators themselves are not part of the
repository: `App` carries whatever list is registered.
-/
import OpenSoar.Models

namespace OpenSoar

/-! ## Roles -/

inductive Permission where
  | alertsRead | alertsUpdate | alertsDelete
  | incidentsRead | incidentsCreate | incidentsUpdate
  | playbooksRead | playbooksManage | playbooksExecute
  | integrationsRead | integrationsManage
  | observablesRead | observablesManage
  | aiUse
  | analystsManage | apiKeysManage | settingsManage | retentionManage
deriving DecidableEq

/-- The value of the `StrEnum` member. -/
def Permission.text : Permission → String
  | .alertsRead => "alerts:read"
  | .alertsUpdate => "alerts:update"
  | .alertsDelete => "alerts:delete"
  | .incidentsRead => "incidents:read"
  | .incidentsCreate => "incidents:create"
  | .incidentsUpdate => "incidents:update"
  | .playbooksRead => "playbooks:read"
  | .playbooksManage => "playbooks:manage"
  | .playbooksExecute => "playbooks:execute"
  | .integrationsRead => "integrations:read"
  | .integrationsManage => "integrations:manage"
  | .observablesRead => "observables:read"
  | .observablesManage => "observables:manage"
  | .aiUse => "ai:use"
  | .analystsManage => "analysts:manage"
  | .apiKeysManage => "api_keys:manage"
  | .settingsManage => "settings:manage"
  | .retentionManage => "retention:manage"

def analystPermissions : List Permission :=
  [.alertsRead, .alertsUpdate, .alertsDelete, .incidentsRead, .incidentsCreate,
   .incidentsUpdate, .playbooksRead, .playbooksExecute, .integrationsRead,
   .observablesRead, .observablesManage, .aiUse]

def viewerPermissions : List Permission :=
  [.alertsRead, .incidentsRead, .playbooksRead, .integrationsRead, .observablesRead]

def tenantAdminPermissions : List Permission :=
  [.alertsRead, .alertsUpdate, .alertsDelete, .incidentsRead, .incidentsCreate,
   .incidentsUpdate, .playbooksRead, .playbooksManage, .playbooksExecute,
   .integrationsRead, .integrationsManage, .observablesRead, .observablesManage, .aiUse]

def playbookAuthorPermissions : List Permission :=
  [.alertsRead, .incidentsRead, .playbooksRead, .playbooksManage, .playbooksExecute,
   .integrationsRead, .observablesRead]

/-- `has_permission`: an admin has every permission, an unlisted role none. -/
def hasPermission (role : String) (permission : Permission) : Bool :=
  if role = "admin" then true
  else if role = "analyst" then decide (permission ∈ analystPermissions)
  else if role = "viewer" then decide (permission ∈ viewerPermissions)
  else if role = "tenant_admin" then decide (permission ∈ tenantAdminPermissions)
  else if role = "playbook_author" then decide (permission ∈ playbookAuthorPermissions)
  else false

/-- `require_permission`: the analyst behind the request, when allowed. -/
def requirePermission (permission : Permission) (caller : Option Analyst) :
    Except Raised Analyst :=
  match caller with
  | none => .error (.httpException 401 "Authentication required")
  | some analyst =>
      if hasPermission analyst.role.val permission then .ok analyst
      else .error (.httpException 403
        ("Permission denied: requires " ++ permission.text))

theorem requirePermission_ok {permission : Permission} {caller : Option Analyst}
    {analyst : Analyst} (h : requirePermission permission caller = .ok analyst) :
    caller = some analyst ∧ hasPermission analyst.role.val permission = true := by
  cases caller with
  | none => cases h
  | some a =>
      simp only [requirePermission] at h
      split at h
      · cases h; exact ⟨rfl, ‹_›⟩
      · cases h

/-- An answer that lays the fault on the request. -/
def Raised.IsClientError : Raised → Prop
  | .httpException statusCode _ => 400 ≤ statusCode ∧ statusCode < 500
  | _ => False

theorem requirePermission_error {permission : Permission} {caller : Option Analyst} {e : Raised}
    (h : requirePermission permission caller = .error e) : e.IsClientError := by
  cases caller with
  | none => cases h; exact ⟨by decide, by decide⟩
  | some analyst =>
      simp only [requirePermission] at h
      split at h
      · cases h
      · cases h; exact ⟨by decide, by decide⟩

/-- An administrator, for runs on concrete input. -/
def administrator : Analyst :=
  ⟨7, .lit "admin", .lit "Administrator", true, .lit "admin"⟩

/-! ## Tenant hooks -/

/-- What a validator is asked about. -/
inductive Resource where
  | alert (alert : Alert)
  | playbook (definition : PlaybookDefinition)
  | incidentTemplate (template : IncidentTemplate)
  | incident (incident : Incident)
  | observable (observable : ObservableObject)
  | integration (integration : IntegrationObject)
  | incidentAlert (incidentId alertId : Python.Uuid)
  | analyst (analyst : Analyst)

/-- The `resource_type` argument. -/
def Resource.resourceType : Resource → String
  | .alert _ => "alert"
  | .playbook _ => "playbook"
  | .incidentTemplate _ => "incident_template"
  | .incident _ => "incident"
  | .observable _ => "observable"
  | .integration _ => "integration"
  | .incidentAlert _ _ => "incident_alert"
  | .analyst _ => "analyst"

/-- A registered validator: it refuses an access by raising, and narrows a query
to the rows it keeps. -/
structure TenantValidator where
  check : Resource → (action : String) → Option Analyst → Except Raised Unit
  keeps : Resource → (action : String) → Option Analyst → Bool

/-- `app.state`, as far as it is read here. -/
structure App where
  tenantAccessValidators : List TenantValidator

/-- `enforce_tenant_access`: the first validator that raises decides. -/
def enforceTenantAccess (app : App) (resource : Resource) (action : String)
    (analyst : Option Analyst) : Except Raised Unit :=
  app.tenantAccessValidators.foldlM (fun _ validator => validator.check resource action analyst) ()

/-- `apply_tenant_access_query`, on the rows a query selects. -/
def applyTenantAccessQuery (app : App) (resource : Resource) (action : String)
    (analyst : Option Analyst) : Bool :=
  app.tenantAccessValidators.all (fun validator => validator.keeps resource action analyst)

/-- The application with no optional package installed. -/
def App.core : App := ⟨[]⟩

/-- The registered validators refuse with an answer, and raise nothing else. -/
def RefusesWithAnswer (app : App) : Prop :=
  ∀ resource action analyst e,
    enforceTenantAccess app resource action analyst = .error e → e.IsClientError

theorem refusesWithAnswer_core : RefusesWithAnswer .core := by
  intro resource action analyst e h
  cases h

end OpenSoar
