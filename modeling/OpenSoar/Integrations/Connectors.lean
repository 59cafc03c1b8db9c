/-
# `OpenSoar.Integrations.Connectors` — the connectors that look observables up

The classes under `integrations/virustotal`, `integrations/abuseipdb` and
`integrations/greynoise`.  Each of their methods is one request to the service behind
`EnrichmentCache.get_or_fetch`, so a method is the key it looks under and the request it
sends (`Lookup`).  The keys are the methods' own: those of VirusTotal, and of GreyNoise's
`gnql`, are made of the bare value, the others of the value with an age or a prefix.

The services, and the client library that talks to them, answer as they please; what they
are asked is recorded in `requests`.
-/
import OpenSoar.Integrations.Cache

namespace OpenSoar

open Python TtlMap

/-- The exceptions of a connector, by the classes that an `except` tells apart:
`asyncio.TimeoutError` is an `OSError`, `json.JSONDecodeError` a `ValueError`. -/
inductive ConnectorError where
  | osError
  | valueError
  | typeError
  | keyError
  | attributeError
  | runtimeError
  | other
deriving DecidableEq

/-! ## Lookups -/

/-- A request, sent with the credentials of an integration. -/
structure Request where
  integration : IntegrationInstance
  path : String
  params : List (String × String)

/-- A method called with its arguments: the entry it looks for, and what it asks the
service without one. -/
structure Lookup where
  source : String
  obsType : String
  value : String
  path : String
  params : List (String × String)

def Lookup.key (lookup : Lookup) : String := buildKey lookup.source lookup.obsType lookup.value

namespace VirusTotal

def lookupIp (ip : String) : Lookup := ⟨"virustotal", "ip", ip, "/ip_addresses/" ++ ip, []⟩

def lookupHash (fileHash : String) : Lookup :=
  ⟨"virustotal", "hash", fileHash, "/files/" ++ fileHash, []⟩

def lookupDomain (domain : String) : Lookup :=
  ⟨"virustotal", "domain", domain, "/domains/" ++ domain, []⟩

end VirusTotal

/-- `AbuseIPDBIntegration.check_ip`: the age is folded into the value of the key. -/
def AbuseIpDb.checkIp (ip : String) (maxAgeDays : Int) : Lookup :=
  ⟨"abuseipdb", "ip", ip ++ "|maxAgeInDays=" ++ toString maxAgeDays, "/check",
    [("ipAddress", ip), ("maxAgeInDays", toString maxAgeDays)]⟩

namespace GreyNoise

def quickLookup (ip : String) : Lookup :=
  ⟨"greynoise", "ip", "quick:" ++ ip, "/v2/noise/quick/" ++ ip, []⟩

def context (ip : String) : Lookup :=
  ⟨"greynoise", "ip", "context:" ++ ip, "/v2/noise/context/" ++ ip, []⟩

def riot (ip : String) : Lookup := ⟨"greynoise", "ip", "riot:" ++ ip, "/v2/riot/" ++ ip, []⟩

def gnql (query : String) : Lookup :=
  ⟨"greynoise", "gnql", query, "/v2/experimental/gnql", [("query", query)]⟩

end GreyNoise

/-! ## The classes -/

inductive ConnectorClass where
  | virusTotal
  | abuseIpDb
  | greyNoise
deriving DecidableEq

/-- `integration_type`. -/
def ConnectorClass.integrationType : ConnectorClass → String
  | .virusTotal => "virustotal"
  | .abuseIpDb => "abuseipdb"
  | .greyNoise => "greynoise"

/-- The caching methods, with the arguments other than the value. -/
inductive ConnectorMethod where
  | lookupIp
  | lookupHash
  | lookupDomain
  | checkIp (maxAgeDays : Int)
  | quickLookup
  | context
  | riot
  | gnql

def ConnectorMethod.cls : ConnectorMethod → ConnectorClass
  | .lookupIp | .lookupHash | .lookupDomain => .virusTotal
  | .checkIp _ => .abuseIpDb
  | .quickLookup | .context | .riot | .gnql => .greyNoise

/-- The method called for a value. -/
def ConnectorMethod.lookup (method : ConnectorMethod) (value : String) : Lookup :=
  match method with
  | .lookupIp => VirusTotal.lookupIp value
  | .lookupHash => VirusTotal.lookupHash value
  | .lookupDomain => VirusTotal.lookupDomain value
  | .checkIp maxAgeDays => AbuseIpDb.checkIp value maxAgeDays
  | .quickLookup => GreyNoise.quickLookup value
  | .context => GreyNoise.context value
  | .riot => GreyNoise.riot value
  | .gnql => GreyNoise.gnql value

theorem lookup_source (method : ConnectorMethod) (value : String) :
    (method.lookup value).source = method.cls.integrationType := by
  cases method with
  | lookupIp => rfl
  | lookupHash => rfl
  | lookupDomain => rfl
  | checkIp _ => rfl
  | quickLookup => rfl
  | context => rfl
  | riot => rfl
  | gnql => rfl

theorem integrationType_colon (cls : ConnectorClass) : ':' ∉ cls.integrationType.toList := by
  cases cls with
  | virusTotal => decide
  | abuseIpDb => decide
  | greyNoise => decide

/-- `getattr(connector, name)` where `hasattr(connector, name)`, for the names that the
enrichment asks for; an age that is not given is 90 days. -/
def ConnectorClass.method? (cls : ConnectorClass) (name : String) : Option ConnectorMethod :=
  match cls, name with
  | .virusTotal, "lookup_ip" => some .lookupIp
  | .virusTotal, "lookup_hash" => some .lookupHash
  | .virusTotal, "lookup_domain" => some .lookupDomain
  | .abuseIpDb, "check_ip" => some (.checkIp 90)
  | _, _ => none

/-- `_validate_config`, the same in the three classes. -/
def validateConfig (config : Dict) : Except ConnectorError Unit :=
  if (config.lookup "api_key").isSome then .ok () else .error .valueError

/-- `IntegrationLoader.get_connector` after `discover_builtin`, for the types that the
enrichment queries for. -/
def getConnector (typeName : String) : Option ConnectorClass :=
  if typeName = "virustotal" then some .virusTotal
  else if typeName = "abuseipdb" then some .abuseIpDb
  else if typeName = "greynoise" then some .greyNoise
  else none

/-! ## A call -/

/-- The cache's backend and settings, and what the client library and the services do: a
service may answer by all it was asked before. -/
structure ConnectorEnv where
  backend : Lifetime
  settings : CacheSettings
  connect : IntegrationInstance → Except ConnectorError Unit
  respond : (earlier : List Request) → Request → Fetched ConnectorError
  disconnect : IntegrationInstance → Except ConnectorError Unit

/-- What the connectors act on. -/
structure Outside where
  entries : CacheEntries
  now : Timestamp
  requests : List Request

def Lookup.request (lookup : Lookup) (integration : IntegrationInstance) : Request :=
  ⟨integration, lookup.path, lookup.params⟩

/-- The call of `get_or_fetch` in a method. -/
def Lookup.outcome (lookup : Lookup) (env : ConnectorEnv) (integration : IntegrationInstance)
    (o : Outside) : FetchOutcome ConnectorError :=
  EnrichmentCache.getOrFetch env.backend env.settings lookup.source lookup.obsType lookup.value
    (env.respond o.requests (lookup.request integration))
    (some (env.settings.defaultTtlFor lookup.source)) o.now o.entries

/-- The state a method leaves. -/
def Lookup.after (lookup : Lookup) (env : ConnectorEnv) (integration : IntegrationInstance)
    (o : Outside) : Outside where
  entries := (lookup.outcome env integration o).entries
  now := (lookup.outcome env integration o).now
  requests :=
    if (lookup.outcome env integration o).fetched then
      o.requests ++ [lookup.request integration]
    else o.requests

section Lookup

variable {lookup : Lookup} {env : ConnectorEnv} {integration : IntegrationInstance} {o : Outside}
  {key : String} {later : Timestamp}

theorem outcome_of_fresh {cached : Json}
    (h : decoded (peek env.backend o.entries lookup.key o.now) = some cached) :
    lookup.outcome env integration o = ⟨.ok cached, false, o.entries, o.now⟩ :=
  getOrFetch_of_fresh h

theorem outcome_of_answer {payload : Json} (h : ¬ Fresh env.backend o.entries lookup.key o.now)
    (hanswer : (env.respond o.requests (lookup.request integration)).result = .ok payload) :
    lookup.outcome env integration o =
      ⟨.ok payload, true,
        TtlMap.set env.backend (TtlMap.get env.backend o.entries lookup.key o.now).2 lookup.key
          (some payload) (env.settings.defaultTtlFor lookup.source)
          (o.now + (env.respond o.requests (lookup.request integration)).took),
        o.now + (env.respond o.requests (lookup.request integration)).took⟩ :=
  getOrFetch_of_answer h hanswer

theorem outcome_of_failure {e : ConnectorError}
    (h : ¬ Fresh env.backend o.entries lookup.key o.now)
    (hfailure : (env.respond o.requests (lookup.request integration)).result = .error e) :
    lookup.outcome env integration o =
      ⟨.error e, true, (TtlMap.get env.backend o.entries lookup.key o.now).2,
        o.now + (env.respond o.requests (lookup.request integration)).took⟩ :=
  getOrFetch_of_failure h hfailure

/-- A method looks, and stores, under its own key only. -/
theorem peek_after_of_ne (h : key ≠ lookup.key) :
    peek env.backend (lookup.after env integration o).entries key later =
      peek env.backend o.entries key later := by
  rw [Lookup.after]
  by_cases hfresh : Fresh env.backend o.entries lookup.key o.now
  · obtain ⟨cached, hcached⟩ := Option.isSome_iff_exists.mp hfresh
    rw [outcome_of_fresh hcached]
  · cases hresult : (env.respond o.requests (lookup.request integration)).result with
    | error e =>
        rw [outcome_of_failure hfresh hresult]
        exact peek_get_of_ne h
    | ok payload =>
        rw [outcome_of_answer hfresh hresult]
        exact (peek_set_of_ne h).trans (peek_get_of_ne h)

/-- Without a fresh entry the service is asked. -/
theorem requests_after_of_stale (h : ¬ Fresh env.backend o.entries lookup.key o.now) :
    (lookup.after env integration o).requests = o.requests ++ [lookup.request integration] := by
  rw [Lookup.after]
  refine if_pos ?_
  cases hresult : (env.respond o.requests (lookup.request integration)).result with
  | error e => rw [outcome_of_failure h hresult]
  | ok payload => rw [outcome_of_answer h hresult]

theorem now_after : o.now ≤ (lookup.after env integration o).now := by
  rw [Lookup.after]
  by_cases hfresh : Fresh env.backend o.entries lookup.key o.now
  · obtain ⟨cached, hcached⟩ := Option.isSome_iff_exists.mp hfresh
    rw [outcome_of_fresh hcached]
  · cases hresult : (env.respond o.requests (lookup.request integration)).result with
    | error e =>
        rw [outcome_of_failure hfresh hresult]
        exact Nat.le_add_right _ _
    | ok payload =>
        rw [outcome_of_answer hfresh hresult]
        exact Nat.le_add_right _ _

end Lookup

end OpenSoar
