/-
# `OpenSoar.Ingestion.Vendors` — the normalisers of the integrations

`normalize_elastic_alert`, `normalize_splunk_notable` and `normalize_msdefender_alert` look for the
alert in a wrapper before they read its fields.  Splunk's takes the wrapper for a dict after a
test, Defender's reads it with `extract_field`, which takes anything, and Elastic's calls its
`get`.  All search their part of the payload for indicators, which raises where a digit is none
that `int` reads.  Nothing else raises (`normalizers_return_iff`).
-/
import OpenSoar.Ingestion.Columns
import OpenSoar.Python.Dynamic

namespace OpenSoar

open Python

/-- What a normaliser raises. -/
inductive NormalizeError where
  | operator (error : OperatorError)
  | raised (error : Raised)

/-- The dict that a normaliser of an integration returns, its `status` and `rule_name` aside: they
are `"new"` and the title. -/
structure VendorAlert where
  source : String
  sourceId : Json
  title : String
  description : Json
  severity : String
  sourceIp : Json
  destIp : Json
  hostname : Json
  iocs : Dict
  tags : Json

/-- `extract_iocs`, of any value. -/
def extractIocsFrom (py : PyText) (value : Json) : Except Raised Dict := do
  let iocs ← walk py 0 value ⟨[], [], [], []⟩
  pure (iocEntry py "ips" iocs.ips ++ iocEntry py "domains" iocs.domains
    ++ iocEntry py "hashes" iocs.hashes ++ iocEntry py "urls" iocs.urls)

/-- `extract_field`, of any value: no path leads into one that is not a dict. -/
def extractFieldFrom (value : Json) (fieldPaths : List String) (default : Json) : Json :=
  match value with
  | .obj fields => extractField fields fieldPaths default
  | _ => default

/-- `normalize_elastic_alert`. -/
def normalizeElasticAlert (py : PyText) (payload : Dict) : Except NormalizeError VendorAlert := do
  let signal ← (Json.getD payload "signal" (.obj payload)).asDict.mapError .operator
  let rule ← (Json.getD signal "rule" (Json.getD payload "rule" (.obj []))).asDict.mapError
    .operator
  let title := (Json.get rule "name").orElse
    ((extractField payload ["kibana.alert.rule.name", "rule_name"] .null).orElse
      (.str "Elastic Alert"))
  let severity := normalizeSeverity py ((Json.get rule "severity").orElse
    (extractField payload ["kibana.alert.severity", "signal.rule.severity"] .null))
  let iocs ← (extractIocsFrom py (.obj payload)).mapError .raised
  pure {
    source := "elastic"
    sourceId := extractField payload ["_id", "kibana.alert.uuid", "signal.id"] .null
    title := title.text py
    description := Json.get rule "description"
    severity := severity
    sourceIp := extractField payload
      ["source.ip", "signal.source.ip", "kibana.alert.original_event.source.ip"] .null
    destIp := extractField payload ["destination.ip", "signal.destination.ip"] .null
    hostname := extractField payload ["host.name", "agent.name", "signal.host.name"] .null
    iocs := iocs
    tags := Json.getD rule "tags" (.arr []) }

/-- The event of a Splunk payload: the dict under `result`, or the payload. -/
def splunkResult (payload : Dict) : Dict :=
  match Json.get payload "result" with
  | .obj fields => fields
  | _ => payload

/-- `normalize_splunk_notable`. -/
def normalizeSplunkNotable (py : PyText) (payload : Dict) :
    Except NormalizeError VendorAlert := do
  let result := splunkResult payload
  let title := (extractField result ["rule_name", "signature", "search_name"] .null).orElse
    ((extractField payload ["search_name"] .null).orElse (.str "Splunk Notable"))
  let rawSeverity := extractField result ["severity", "urgency", "priority"] .null
  let iocs ← (extractIocsFrom py (.obj result)).mapError .raised
  pure {
    source := "splunk"
    sourceId := extractField result ["event_id", "event_hash", "_cd", "sid"] .null
    title := title.text py
    description := extractField result ["description", "_raw"] .null
    severity := normalizeSeverity py rawSeverity
    sourceIp := extractField result ["src_ip", "src", "source_ip"] .null
    destIp := extractField result ["dest_ip", "dest", "destination_ip"] .null
    hostname := extractField result ["host", "hostname", "dvc"] .null
    iocs := iocs
    tags :=
      match Json.get result "tag" with
      | .arr tags => .arr tags
      | _ => .arr [] }

/-- `if value and value not in tags: tags.append(str(value))`. -/
def withTag (py : PyText) (tags : List Json) (value : Json) : List Json :=
  if value.truthy && !tags.any (fun tag => tag.pyEq value) then tags ++ [.str (value.text py)]
  else tags

/-- The alert of a Defender payload: whatever is under `alert`, or the payload. -/
def defenderAlert (payload : Dict) : Json := Json.getD payload "alert" (.obj payload)

/-- `normalize_msdefender_alert`. -/
def normalizeMsdefenderAlert (py : PyText) (payload : Dict) :
    Except NormalizeError VendorAlert := do
  let alert := defenderAlert payload
  let title := (extractFieldFrom alert ["title", "alertDisplayName", "threatName"] .null).orElse
    (.str "Microsoft Defender Alert")
  let tagsRaw := extractFieldFrom alert ["tags"] (.arr [])
  let tags :=
    match tagsRaw with
    | .arr tags => tags
    | _ => []
  let tags := withTag py tags (extractFieldFrom alert ["category"] .null)
  let tags := withTag py tags (extractFieldFrom alert ["detectionSource"] .null)
  let iocs ← (extractIocsFrom py alert).mapError .raised
  pure {
    source := "msdefender"
    sourceId := extractFieldFrom alert ["id", "alertId", "incidentId"] .null
    title := title.text py
    description := extractFieldFrom alert ["description", "alertDescription"] .null
    severity := normalizeSeverity py (extractFieldFrom alert ["severity"] .null)
    sourceIp := extractFieldFrom alert ["sourceIp", "lastSeenIpAddress", "ipAddress"] .null
    destIp := extractFieldFrom alert ["destinationIp"] .null
    hostname := extractFieldFrom alert
      ["computerDnsName", "machineDnsName", "deviceName", "machineId"] .null
    iocs := iocs
    tags := .arr tags }

/-! ## When they return -/

variable {py : PyText} {payload : Dict}

theorem returns_mapError {ε ε' α : Type} {a : Except ε α} {f : ε → ε'} :
    Returns (a.mapError f) ↔ Returns a := by
  cases a with
  | error e => exact iff_of_false (not_returns_error _) (not_returns_error _)
  | ok x => exact iff_of_true (returns_ok x) (returns_ok x)

/-- A bind whose second part always returns. -/
theorem returns_bind_pure {ε α β : Type} {a : Except ε α} {f : α → β} :
    Returns (a >>= fun x => pure (f x)) ↔ Returns a := by
  rw [returns_bind]
  constructor
  · rintro ⟨x, ha, -⟩
    exact ⟨x, ha⟩
  · rintro ⟨x, ha⟩
    exact ⟨x, ha, returns_ok (f x)⟩

theorem returns_extractIocsFrom {value : Json} :
    Returns (extractIocsFrom py value) ↔ ¬ RaisesBelow py 0 value := by
  unfold extractIocsFrom
  rw [returns_bind_pure, ← walk_error 0 value ⟨[], [], [], []⟩, ← not_returns, not_not]

/-- A normaliser that has come to its search returns where the search does. -/
theorem returns_search {value : Json} {alert : Dict → VendorAlert} :
    Returns ((extractIocsFrom py value).mapError NormalizeError.raised >>=
      fun iocs => pure (alert iocs)) ↔ ¬ RaisesBelow py 0 value := by
  rw [returns_bind_pure, returns_mapError, returns_extractIocsFrom]

/-- `value.get`. -/
theorem asDict_ok {value : Json} {fields : Dict} :
    value.asDict = .ok fields ↔ value = .obj fields := by
  constructor
  · intro h
    cases value with
    | obj fields' =>
        cases h
        rfl
    | null | bool _ | int _ | float _ | str _ | arr _ => cases h
  · rintro rfl
    rfl

theorem returns_elastic : Returns (normalizeElasticAlert py payload) ↔
    (∃ signal rule, Json.getD payload "signal" (.obj payload) = .obj signal ∧
      Json.getD signal "rule" (Json.getD payload "rule" (.obj [])) = .obj rule) ∧
    ¬ RaisesBelow py 0 (.obj payload) := by
  unfold normalizeElasticAlert
  rw [returns_bind]
  constructor
  · rintro ⟨signal, hsignal, hrest⟩
    obtain ⟨rule, hrule, hiocs⟩ := returns_bind.mp hrest
    exact ⟨⟨signal, rule, asDict_ok.mp (mapError_ok hsignal), asDict_ok.mp (mapError_ok hrule)⟩,
      returns_search.mp hiocs⟩
  · rintro ⟨⟨signal, rule, hsignal, hrule⟩, hraises⟩
    exact ⟨signal, by rw [hsignal]; rfl, returns_bind.mpr ⟨rule, by rw [hrule]; rfl,
      returns_search.mpr hraises⟩⟩

theorem returns_splunk : Returns (normalizeSplunkNotable py payload) ↔
    ¬ RaisesBelow py 0 (.obj (splunkResult payload)) :=
  returns_search

theorem returns_msdefender : Returns (normalizeMsdefenderAlert py payload) ↔
    ¬ RaisesBelow py 0 (defenderAlert payload) :=
  returns_search

/-- **When the normalisers return.**  All need strings that the search for indicators can read;
`normalize_elastic_alert` also needs a dict under `signal`, and under `rule` in it, where there is
anything. -/
theorem normalizers_return_iff (py : PyText) (payload : Dict) :
    (∀ source, Returns (normalizeAlert py payload source) ↔
      ¬ RaisesBelow py 0 (.obj payload)) ∧
    (Returns (normalizeElasticAlert py payload) ↔
      (∃ signal rule, Json.getD payload "signal" (.obj payload) = .obj signal ∧
        Json.getD signal "rule" (Json.getD payload "rule" (.obj [])) = .obj rule) ∧
      ¬ RaisesBelow py 0 (.obj payload)) ∧
    (Returns (normalizeSplunkNotable py payload) ↔
      ¬ RaisesBelow py 0 (.obj (splunkResult payload))) ∧
    (Returns (normalizeMsdefenderAlert py payload) ↔
      ¬ RaisesBelow py 0 (defenderAlert payload)) :=
  ⟨fun _ => normalizeAlert_ok_iff, returns_elastic, returns_splunk, returns_msdefender⟩

/-- `{"signal": null}` raises in `normalize_elastic_alert`. -/
theorem null_signal_raises : ¬ ∀ (py : PyText) (payload : Dict) (source : String),
    Returns (normalizeAlert py payload source) ∧ Returns (normalizeElasticAlert py payload) ∧
      Returns (normalizeSplunkNotable py payload) ∧
      Returns (normalizeMsdefenderAlert py payload) := by
  intro h
  obtain ⟨-, ⟨alert, helastic⟩, -, -⟩ := h .ascii [("signal", .null)] "webhook"
  cases helastic

end OpenSoar
