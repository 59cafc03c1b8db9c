/-
# `OpenSoar.Ingestion.Normalize` — from a webhook payload to an alert's fields

`ingestion/normalize.py`.  `extractField` tries dotted paths in order and returns
the first value that is not `None`; `normalizeSeverity` maps keywords and integers
to the four severities; `extractIocs` walks the payload eleven levels deep and
sorts its strings by the name of the key they stand under.

`looksLikeIp` can raise: `str.isdigit` holds of characters `int` does not read
(superscripts), so the whole normalisation is a function into `Except`.
-/
import OpenSoar.Models

namespace OpenSoar

open Python

/-! ## Severity -/

/-- `SEVERITY_KEYWORDS`, in the order of the dict. -/
def severityKeywords : List (String × List String) :=
  [("critical", ["critical", "crit"]),
   ("high", ["high", "3", "error"]),
   ("medium", ["medium", "med", "2", "warning", "warn"]),
   ("low", ["low", "1", "info", "informational"])]

/-- `normalize_severity`. -/
def normalizeSeverity (py : PyText) (value : Json) : String :=
  if value.isNull then "medium"
  else
    let val := stripBy py.isSpace (py.lower (value.pyStr py))
    match severityKeywords.find? (fun entry =>
        decide (String.ofList val ∈ entry.2) || decide (String.ofList val = entry.1)) with
    | some (severity, _) => severity
    | none =>
        match pyInt py 10 val with
        | some num =>
            if 4 ≤ num then "critical"
            else if num = 3 then "high"
            else if num = 2 then "medium"
            else "low"
        | none => "medium"

/-! ## Fields -/

/-- Follow the parts of a path through nested dicts; `None` as soon as one of them
is missing or the value is not a dict. -/
def followPath : Json → List String → Json
  | current, [] => current
  | .obj fields, part :: parts => followPath (Json.get fields part) parts
  | _, _ :: _ => .null

/-- `extract_field`: the first path whose value is not `None`, else the default. -/
def extractField (payload : Dict) (fieldPaths : List String) (default : Json) : Json :=
  match fieldPaths.find? (fun path => !(followPath (.obj payload) (splitDots path)).isNull) with
  | some path => followPath (.obj payload) (splitDots path)
  | none => default

/-! ## Indicators of compromise -/

/-- The octets of a dotted quad: each of them digits, at most 255.  `int` raises on
a digit it does not read. -/
def octetsOk (py : PyText) : List (List Char) → Except Raised Bool
  | [] => .ok true
  | p :: ps =>
      if isDigits py p then
        match pyInt py 10 p with
        | none => .error (.valueError
            ("invalid literal for int() with base 10: " ++ String.ofList (reprStr py p)))
        | some n => if 0 ≤ n ∧ n ≤ 255 then octetsOk py ps else .ok false
      else .ok false

/-- `_looks_like_ip`. -/
def looksLikeIp (py : PyText) (value : String) : Except Raised Bool :=
  let parts := value.toList.splitOn '.'
  if parts.length ≠ 4 then .ok false else octetsOk py parts

/-- The four lists `extract_iocs` fills. -/
structure Iocs where
  ips : List String
  domains : List String
  hashes : List String
  urls : List String

/-- One string under a key: the class of the key decides, in this order. -/
def addIoc (py : PyText) (key val : String) (iocs : Iocs) : Except Raised Iocs := do
  let k := py.lower key.toList
  let v := val.toList
  let isIp ← if contains "ip".toList k then looksLikeIp py val else pure false
  if isIp then
    pure { iocs with ips := iocs.ips ++ [val] }
  else if contains "hash".toList k || ["md5", "sha1", "sha256"].contains (String.ofList k) then
    pure { iocs with hashes := iocs.hashes ++ [val] }
  else if contains "domain".toList k || contains "host".toList k then
    if v.contains '.' then
      if ← looksLikeIp py val then pure iocs
      else pure { iocs with domains := iocs.domains ++ [val] }
    else pure iocs
  else if contains "url".toList k
      && ("http://".toList.isPrefixOf v || "https://".toList.isPrefixOf v) then
    pure { iocs with urls := iocs.urls ++ [val] }
  else pure iocs

mutual
/-- `_walk`: dicts and lists are entered, at most ten levels below the root. -/
def walk (py : PyText) (depth : Nat) : Json → Iocs → Except Raised Iocs
  | .obj fields, iocs => if 10 < depth then .ok iocs else walkFields py depth fields iocs
  | .arr items, iocs => if 10 < depth then .ok iocs else walkItems py depth items iocs
  | _, iocs => .ok iocs

def walkFields (py : PyText) (depth : Nat) : List (String × Json) → Iocs → Except Raised Iocs
  | [], iocs => .ok iocs
  | (key, .str val) :: fields, iocs =>
      match addIoc py key val iocs with
      | .error e => .error e
      | .ok iocs' => walkFields py depth fields iocs'
  | (_, val) :: fields, iocs =>
      match walk py (depth + 1) val iocs with
      | .error e => .error e
      | .ok iocs' => walkFields py depth fields iocs'

def walkItems (py : PyText) (depth : Nat) : List Json → Iocs → Except Raised Iocs
  | [], iocs => .ok iocs
  | item :: items, iocs =>
      match walk py (depth + 1) item iocs with
      | .error e => .error e
      | .ok iocs' => walkItems py depth items iocs'
end

/-- A non-empty list of indicators, without repetitions. -/
def iocEntry (py : PyText) (name : String) (values : List String) : Dict :=
  if values.isEmpty then [] else [(name, .arr ((py.setToList values).map .str))]

/-- `extract_iocs`. -/
def extractIocs (py : PyText) (payload : Dict) : Except Raised Dict := do
  let iocs ← walk py 0 (.obj payload) ⟨[], [], [], []⟩
  pure (iocEntry py "ips" iocs.ips ++ iocEntry py "domains" iocs.domains
    ++ iocEntry py "hashes" iocs.hashes ++ iocEntry py "urls" iocs.urls)

/-! ## The normalised alert -/

/-- What `normalize_alert` returns: a dict whose `source`, `title`, `severity` and
`rule_name` are strings and whose other fields are whatever the payload holds
under the first of their paths. -/
structure NormalizedAlert where
  source : String
  sourceId : Json
  title : String
  description : Json
  severity : String
  sourceIp : Json
  destIp : Json
  hostname : Json
  iocs : Dict
  tags : Json
  partner : Json

/-- The dict itself, as it is stored and matched against. -/
def NormalizedAlert.toDict (n : NormalizedAlert) : Dict :=
  [("source", .str n.source), ("source_id", n.sourceId), ("title", .str n.title),
   ("description", n.description), ("severity", .str n.severity), ("status", .str "new"),
   ("source_ip", n.sourceIp), ("dest_ip", n.destIp), ("hostname", n.hostname),
   ("rule_name", .str n.title), ("iocs", .obj n.iocs), ("tags", n.tags),
   ("partner", n.partner)]

/-- Whether a value is one of some strings. -/
def isOneOf (value : Json) (names : List String) : Bool :=
  names.any (fun name => value.pyEq (.str name))

/-- The severity the payload states, or the one its event context suggests. -/
def rawSeverity (payload : Dict) : Json :=
  let stated := extractField payload
    ["severity", "rule.severity", "alert.severity", "signal.rule.severity", "level",
     "priority"] .null
  if !stated.isNull then stated
  else
    let eventCategory := extractField payload ["event.category"] (.str "")
    let eventOutcome := extractField payload ["event.outcome"] (.str "")
    let processName := extractField payload ["process.name"] (.str "")
    if isOneOf processName ["nc", "ncat", "bash", "sh", "powershell", "cmd"] then .str "high"
    else if isOneOf eventOutcome ["failure"] && isOneOf eventCategory ["authentication"] then
      .str "medium"
    else if isOneOf eventCategory ["process"] then .str "medium"
    else if isOneOf eventCategory ["file"] then .str "medium"
    else .null

/-- `normalize_alert`. -/
def normalizeAlert (py : PyText) (payload : Dict) (source : String) :
    Except Raised NormalizedAlert := do
  let title := extractField payload
    ["rule_name", "rule.name", "alert.rule.name", "title", "name", "signal.rule.name",
     "message"] (.str "Untitled Alert")
  let severity := normalizeSeverity py (rawSeverity payload)
  let alertSource :=
    match extractField payload ["source"] (.str source) with
    | .str s => s
    | _ => source
  let iocs ← extractIocs py payload
  pure {
    source := alertSource
    sourceId := extractField payload ["source_id", "id", "_id", "alert_id", "signal.id"] .null
    title := String.ofList (title.pyStr py)
    description := extractField payload
      ["description", "message", "rule.description", "alert.description"] .null
    severity := severity
    sourceIp := extractField payload
      ["source_ip", "source.ip", "src_ip", "client.ip", "signal.source.ip"] .null
    destIp := extractField payload
      ["dest_ip", "destination.ip", "dst_ip", "server.ip", "signal.destination.ip"] .null
    hostname := extractField payload
      ["hostname", "host.name", "agent.name", "computer_name", "signal.host.name"] .null
    iocs := iocs
    tags := extractField payload ["tags", "rule.tags"] (.arr [])
    partner := extractField payload ["partner", "tenant", "customer", "organization"] .null }

/-- Every severity that comes out is one of the four. -/
theorem normalizeSeverity_mem (py : PyText) (value : Json) :
    normalizeSeverity py value ∈ ["critical", "high", "medium", "low"] := by
  unfold normalizeSeverity
  split
  · simp
  · dsimp only
    split
    · rename_i severity keywords hfound
      have hmem := List.mem_of_find?_eq_some hfound
      simp only [severityKeywords, List.mem_cons, List.not_mem_nil, or_false,
        Prod.mk.injEq] at hmem
      rcases hmem with ⟨rfl, _⟩ | ⟨rfl, _⟩ | ⟨rfl, _⟩ | ⟨rfl, _⟩ <;> simp
    · split
      · split_ifs <;> simp
      · simp

end OpenSoar
