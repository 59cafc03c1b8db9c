/-
# `OpenSoar.Ai.Endpoints` — what the AI endpoints make of a model's answer

`triage_alert`, `auto_resolve`, `correlate_alerts` and `recommend_action` of `api/ai.py`.  Each
checks the caller and the alerts, asks the model, reads its text as JSON and picks fields out of
the value.  The text is any `str`; what the interpreter makes of it (`json.loads`, `float`, `str`)
is an `AiRuntime`, and of the prompt only the alerts matter that it is about.

A handler returns a dict (`triageAlert`, ...), which FastAPI then encodes (`AiRuntime.respond`).
-/
import OpenSoar.Api.Activities
import OpenSoar.Ingestion.Severity
import OpenSoar.Python.JsonText
import OpenSoar.Python.Value

namespace OpenSoar

open Python

/-! ## The interpreter, the model and the exceptions -/

/-- The interpreter, and the encoder of the responses. -/
structure AiRuntime where
  /-- `json.loads`. -/
  loads : PyStr → Except LoadsError PyValue
  /-- `str.isspace` of a code point. -/
  isSpace : Nat → Bool
  /-- `str(value)` of what is no string. -/
  repr : PyValue → PyStr
  /-- `float(text)`. -/
  floatOfText : PyStr → Option PyFloat
  /-- `float(n)`, if it is in range. -/
  floatOfInt : Int → Option PyFloat
  /-- `x / y`. -/
  div : PyFloat → PyFloat → PyFloat
  /-- A `float` field with bounds accepts `nan`. -/
  acceptsNan : Bool
  /-- How many levels of the value of a field the encoder goes down. -/
  levels : Nat

/-- `LLMResponse`. -/
structure LlmResponse where
  content : PyStr
  model : PyStr
  usage : PyDict

/-- What `client.complete` returns or raises. -/
structure LlmClient where
  complete : Except Raised LlmResponse

/-- What leaves a handler instead of a response. -/
inductive AiRaised where
  | request (e : Raised)
  | loads (e : LoadsError)
  | attributeError
  | typeError
  | overflowError
  | validationError
  | unencodable
deriving DecidableEq

/-- A literal. -/
def textValue (s : String) : PyValue := .str (PyStr.ofString s)

namespace AiRuntime

variable (rt : AiRuntime)

/-- FastAPI encodes what the handler has returned. -/
def respond (answer : PyDict) : Except AiRaised PyDict :=
  if answer.all (fun entry => entry.2.renders rt.levels) then .ok answer else .error .unencodable

/-- `json.loads(content)`, with the handler's value for a `JSONDecodeError`. -/
def loadsOr (content : PyStr) (fallback : PyValue) : Except AiRaised PyValue :=
  match rt.loads content with
  | .ok value => .ok value
  | .error .jsonDecodeError => .ok fallback
  | .error e => .error (.loads e)

/-- `str(value)`. -/
def str : PyValue → PyStr
  | .str s => s
  | v => rt.repr v

/-- `s.strip()`. -/
def strip (s : PyStr) : PyStr :=
  ((s.dropWhile rt.isSpace).reverse.dropWhile rt.isSpace).reverse

end AiRuntime

/-- `value.get(key, default)`; only a dict has the method. -/
def getField (value : PyValue) (key : String) (default : PyValue) : Except AiRaised PyValue :=
  match value with
  | .obj d => .ok (PyValue.getD d key default)
  | _ => .error .attributeError

/-! ## Which alerts the model is asked about -/

def aiNotConfigured : Raised := .httpException 503
  "AI features not configured. Set ANTHROPIC_API_KEY, OPENAI_API_KEY, or OLLAMA_URL."

def aiNotConfiguredShort : Raised := .httpException 503 "AI features not configured."

/-- The alert that `triage_alert` and `recommend_action` load. -/
def alertToAsk (py : PyText) (app : App) (action : String) (badId : Raised) (raw : String)
    (analyst : Analyst) (s : Server) : Except Raised Unit := do
  let alertId ← orRaise (Uuid.ofText? py raw) badId
  let alert ← orRaise (s.alerts.find? alertId) alertNotFound
  enforceTenantAccess app (.alert alert.toAlert) action (some analyst)

/-- One turn of the loop over the requested ids: an alert that is not there, or that the caller
may not see, is left out. -/
def addAccessible (py : PyText) (app : App) (action : String) (analyst : Analyst) (s : Server)
    (alerts : List Uuid) (raw : String) : Except Raised (List Uuid) := do
  let alertId ← orRaise (Uuid.ofText? py raw) badUuid
  match s.alerts.find? alertId with
  | none => pure alerts
  | some alert =>
      match enforceTenantAccess app (.alert alert.toAlert) action (some analyst) with
      | .ok () => pure (alerts ++ [alert.id])
      | .error (.httpException _ _) => pure alerts
      | .error e => .error e

/-- The ids in `alerts_data`. -/
def accessibleAlerts (py : PyText) (app : App) (action : String) (alertIds : List String)
    (analyst : Analyst) (s : Server) : Except Raised (List Uuid) :=
  alertIds.foldlM (addAccessible py app action analyst s) []

/-- An exception of the checks, or of the client. -/
def inRequest {α : Type} (checked : Except Raised α) : Except AiRaised α :=
  checked.mapError .request

/-! ## `POST /ai/triage` -/

/-- The value for a text that is no JSON. -/
def triageFallback (content : PyStr) : PyValue :=
  .obj [(PyStr.ofString "severity", textValue "unknown"),
    (PyStr.ofString "determination", textValue "unknown"),
    (PyStr.ofString "confidence", .float (.finite 0 0)),
    (PyStr.ofString "reasoning", .str content)]

/-- What `triage_alert` returns for the answer of the model. -/
def triageAnswer (rt : AiRuntime) (response : LlmResponse) : Except AiRaised PyDict := do
  let triage ← rt.loadsOr response.content (triageFallback response.content)
  let severity ← getField triage "severity" (textValue "unknown")
  let determination ← getField triage "determination" (textValue "unknown")
  let confidence ← getField triage "confidence" (.float (.finite 0 0))
  let reasoning ← getField triage "reasoning" (textValue "")
  pure [(PyStr.ofString "severity", severity), (PyStr.ofString "determination", determination),
    (PyStr.ofString "confidence", confidence), (PyStr.ofString "reasoning", reasoning),
    (PyStr.ofString "model", .str response.model), (PyStr.ofString "usage", .obj response.usage)]

/-- `triage_alert`. -/
def triageAlert (rt : AiRuntime) (py : PyText) (app : App) (client : Option LlmClient)
    (alertId : String) (caller : Option Analyst) (s : Server) : Except AiRaised PyDict := do
  let analyst ← inRequest (requireAnalyst caller)
  let client ← inRequest (orRaise client aiNotConfigured)
  inRequest (alertToAsk py app "ai_triage" badUuid alertId analyst s)
  let response ← inRequest client.complete
  triageAnswer rt response

/-! ## `POST /ai/auto-resolve` -/

/-- The results for a text that is no JSON. -/
def failedResults (n : Nat) : List PyValue :=
  (List.range n).map (fun i => .obj [(PyStr.ofString "alert_index", .int i),
    (PyStr.ofString "should_resolve", .bool false),
    (PyStr.ofString "confidence", .float (.finite 0 0)),
    (PyStr.ofString "reasoning", textValue "Failed to parse LLM response")])

/-- The results in what `json.loads` returns. -/
def resultsOf : PyValue → PyValue
  | .arr items => .arr items
  | .obj d => (PyDict.field d "results").getD (.arr [.obj d])
  | _ => .arr []

/-- `r.get("alert_index", 0)`, as far as it is an `int`; a `bool` is one. -/
def indexOf (r : PyDict) : Option Int :=
  match PyValue.getD r "alert_index" (.int 0) with
  | .int n => some n
  | .bool b => some (if b then 1 else 0)
  | _ => none

/-- The alert at the index. -/
def alertAt (alerts : List Uuid) (idx : Int) : Option Uuid :=
  if 0 ≤ idx then alerts[idx.toNat]? else none

/-- `alert_id`, as the handler writes it. -/
def idValue (alertId : Uuid) : PyValue := textValue alertId.toText

/-- One turn of the loop that maps `alert_index` back to `alert_id`. -/
def withAlertId (alerts : List Uuid) : PyValue → PyValue
  | .obj r =>
      match (indexOf r).bind (alertAt alerts) with
      | some alertId => .obj (PyDict.assign r "alert_id" (idValue alertId))
      | none => .obj r
  | v => v

/-- The loop: only the items of a list can be dicts, and not every value can be looped over. -/
def mapAlertIds (alerts : List Uuid) : PyValue → Except AiRaised PyValue
  | .arr items => .ok (.arr (items.map (withAlertId alerts)))
  | .obj d => .ok (.obj d)
  | .str s => .ok (.str s)
  | _ => .error .typeError

/-- What `auto_resolve` returns for the answer of the model. -/
def autoResolveAnswer (rt : AiRuntime) (alerts : List Uuid) (response : LlmResponse) :
    Except AiRaised PyDict := do
  -- the handler's own results are a list, and are no different for being read as one
  let parsed ← rt.loadsOr response.content (.arr (failedResults alerts.length))
  let results ← mapAlertIds alerts (resultsOf parsed)
  pure [(PyStr.ofString "results", results), (PyStr.ofString "model", .str response.model)]

/-- `auto_resolve`. -/
def autoResolve (rt : AiRuntime) (py : PyText) (app : App) (client : Option LlmClient)
    (alertIds : List String) (caller : Option Analyst) (s : Server) :
    Except AiRaised PyDict := do
  let analyst ← inRequest (requireAnalyst caller)
  let client ← inRequest (orRaise client aiNotConfiguredShort)
  let alerts ← inRequest (accessibleAlerts py app "ai_auto_resolve" alertIds analyst s)
  if alerts = [] then pure [(PyStr.ofString "results", .arr [])]
  else do
    let response ← inRequest client.complete
    autoResolveAnswer rt alerts response

/-! ## `POST /ai/correlate` -/

/-- What `correlate_alerts` returns for the answer of the model. -/
def correlateAnswer (rt : AiRuntime) (response : LlmResponse) : Except AiRaised PyDict := do
  let result ← rt.loadsOr response.content (.obj [(PyStr.ofString "groups", .arr [])])
  let groups ← getField result "groups" (.arr [])
  pure [(PyStr.ofString "groups", groups), (PyStr.ofString "model", .str response.model)]

/-- `correlate_alerts`. -/
def correlateAlerts (rt : AiRuntime) (py : PyText) (app : App) (client : Option LlmClient)
    (alertIds : List String) (caller : Option Analyst) (s : Server) :
    Except AiRaised PyDict := do
  let analyst ← inRequest (requireAnalyst caller)
  let client ← inRequest (orRaise client aiNotConfiguredShort)
  let alerts ← inRequest (accessibleAlerts py app "ai_correlate" alertIds analyst s)
  if alerts.length < 2 then pure [(PyStr.ofString "groups", .arr [])]
  else do
    let response ← inRequest client.complete
    correlateAnswer rt response

/-! ## `POST /ai/recommend` -/

/-- `ALLOWED_ACTIONS`. -/
def allowedActions : List String := ["isolate", "block", "enrich", "escalate", "resolve"]

/-- `raw_action in ALLOWED_ACTIONS`: a value that cannot be hashed is in no set. -/
def inAllowedActions : PyValue → Except AiRaised Bool
  | .str s => .ok (decide (s ∈ allowedActions.map PyStr.ofString))
  | .arr _ => .error .typeError
  | .obj _ => .error .typeError
  | _ => .ok false

/-- What `float(raw)` raises. -/
inductive FloatError where
  | typeError
  | valueError
  | overflowError
deriving DecidableEq

/-- `float(raw)`. -/
def floatOf (rt : AiRuntime) : PyValue → Except FloatError PyFloat
  | .float x => .ok x
  | .bool b => .ok (.finite (if b then 1 else 0) 0)
  | .int n =>
      match rt.floatOfInt n with
      | some x => .ok x
      | none => .error .overflowError
  | .str s =>
      match rt.floatOfText s with
      | some x => .ok x
      | none => .error .valueError
  | _ => .error .typeError

/-- `x > y`. -/
def exceeds (x y : PyFloat) : Bool := y.le x && !x.le y

/-- The number of an integer literal. -/
def floatLiteral (n : Int) : PyFloat := .finite n 0

/-- The value of a percentage. -/
def unscaled (rt : AiRuntime) (value : PyFloat) : PyFloat :=
  if exceeds value (floatLiteral 2) && value.le (floatLiteral 100) then
    rt.div value (floatLiteral 100)
  else value

/-- `_normalize_confidence`. -/
def normalizeConfidence (rt : AiRuntime) (raw : PyValue) : Except AiRaised PyFloat :=
  match floatOf rt raw with
  | .error .overflowError => .error .overflowError
  | .error _ => .ok (floatLiteral 0)
  | .ok value =>
      let value := unscaled rt value
      if exceeds (floatLiteral 0) value then .ok (floatLiteral 0)
      else if exceeds value (floatLiteral 1) then .ok (floatLiteral 1)
      else .ok value

/-- The text without the fence around it. -/
def unfenced (rt : AiRuntime) (content : PyStr) : PyStr :=
  let content := rt.strip content
  let tick := PyStr.ofString "`"
  if (PyStr.ofString "```").isPrefixOf content then
    let bare := ((content.dropWhile (· ∈ tick)).reverse.dropWhile (· ∈ tick)).reverse
    if (PyStr.ofString "json").isPrefixOf bare then rt.strip (bare.drop 4) else bare
  else content

/-- `AiRecommendation(...)`: the confidence must be in its bounds. -/
def aiRecommendation (rt : AiRuntime) (action : PyStr) (confidence : PyFloat)
    (reasoning : PyStr) : Except AiRaised PyDict :=
  let accepted :=
    if confidence = .nan then rt.acceptsNan
    else (floatLiteral 0).le confidence && confidence.le (floatLiteral 1)
  if accepted then
    .ok [(PyStr.ofString "action", .str action), (PyStr.ofString "confidence", .float confidence),
      (PyStr.ofString "reasoning", .str reasoning)]
  else .error .validationError

/-- What `recommend_action` returns for a value that `json.loads` has read. -/
def recommendParsed (rt : AiRuntime) (parsed : PyValue) : Except AiRaised PyDict := do
  let fields : PyDict :=
    match parsed with
    | .obj d => d
    | _ => []
  let rawAction := PyValue.getD fields "action" .null
  let allowed ← inAllowedActions rawAction
  let action := if allowed then rt.str rawAction else PyStr.ofString "escalate"
  let confidence ← normalizeConfidence rt (PyValue.getD fields "confidence" (.float (.finite 0 0)))
  let given := rt.strip (rt.str (PyValue.getD fields "reasoning" (textValue "")))
  let reasoning :=
    if given = [] then PyStr.ofString "No reasoning provided by the model." else given
  aiRecommendation rt action confidence
    (if allowed then reasoning
     else PyStr.ofString "Model returned unsupported action '" ++ rt.str rawAction ++
      PyStr.ofString "'; defaulting to escalate. " ++ reasoning)

/-- What `recommend_action` returns for the answer of the model. -/
def recommendAnswer (rt : AiRuntime) (response : LlmResponse) : Except AiRaised PyDict :=
  match rt.loads (unfenced rt response.content) with
  | .ok parsed => recommendParsed rt parsed
  | .error .jsonDecodeError =>
      aiRecommendation rt (PyStr.ofString "escalate") (floatLiteral 0)
        (PyStr.ofString "Could not parse LLM response: " ++ response.content.take 500)
  | .error e => .error (.loads e)

/-- `recommend_action`. -/
def recommendAction (rt : AiRuntime) (py : PyText) (app : App) (client : Option LlmClient)
    (alertId : String) (caller : Option Analyst) (s : Server) : Except AiRaised PyDict := do
  let analyst ← inRequest (requirePermission .aiUse caller)
  let client ← inRequest (orRaise client aiNotConfigured)
  inRequest (alertToAsk py app "ai_recommend" (.httpException 400 "Invalid alert_id") alertId
    analyst s)
  let response ← inRequest client.complete
  recommendAnswer rt response

/-! ## ASCII text -/

/-- The interpreter on ASCII text without decimals, for runs on concrete input. -/
def AiRuntime.ascii : AiRuntime where
  loads content := (Json.loads (fun _ => .nan) (content.map Char.ofNat)).map PyValue.ofJson
  isSpace c := PyText.ascii.isSpace (Char.ofNat c)
  repr
    | .null => PyStr.ofString "None"
    | .bool b => PyStr.ofString (if b then "True" else "False")
    | .int n => PyStr.ofString (toString n)
    | _ => PyStr.ofString "..."
  floatOfText _ := none
  floatOfInt n := if n.natAbs < 2 ^ 53 then some (.finite n 0) else none
  div
    | .finite m e, .finite m' e' => .finite (m * 2 ^ 64 / m') (e - e' - 64)
    | _, _ => .nan
  acceptsNan := true
  levels := 100

/-- The id of the first alert, as a request names it. -/
theorem ofText_beacon : Uuid.ofText? .ascii (Uuid.toText 1) = some 1 := by decide +kernel

end OpenSoar
