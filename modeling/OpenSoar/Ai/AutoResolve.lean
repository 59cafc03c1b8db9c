/-
# `OpenSoar.Ai.AutoResolve` — which alert a verdict is about

`auto_resolve` puts the id of an alert into each result of the model, by the index that the result
names in the list of the alerts that the caller may see.  A result that names none counts as one
about the first alert, JSON's `true` and `false` count as 1 and 0, and an `alert_id` that the
model has written itself is only replaced, never removed.  `attributed_iff` says which results
come out right, and `verdicts_attributed_iff` that of the whole response.
-/
import OpenSoar.Ai.Endpoints
import OpenSoar.Api.ReadOnly
import OpenSoar.Python.JsonRoundTrip

namespace OpenSoar

open Python

/-! ## What a result should carry -/

/-- The `alert_id` of a result; `null` is none. -/
def carriedId (r : PyDict) : Option PyValue :=
  match PyDict.field r "alert_id" with
  | some .null => none
  | found => found

/-- The result `r'` of the response carries at most the id of the alert at the index that the
result `r` of the model names, an explicit integer. -/
def Attributed (alerts : List Uuid) (r r' : PyDict) : Prop :=
  ∀ v, carriedId r' = some v → ∃ idx alertId,
    PyDict.field r "alert_index" = some (.int idx) ∧ alertAt alerts idx = some alertId ∧
      v = idValue alertId

/-- The results of a response. -/
def responseResults (answer : PyDict) : List PyValue :=
  match PyDict.field answer "results" with
  | some (.arr items) => items
  | _ => []

/-- Every result of the response is attributed as the model's result in its place says. -/
def RightlyAttributed (alerts : List Uuid) (results : List PyDict) (answer : PyDict) : Prop :=
  ∀ (k : Nat) (r' : PyDict), (responseResults answer)[k]? = some (.obj r') →
    ∃ r, results[k]? = some r ∧ Attributed alerts r r'

/-- The result names an alert by an integer; or it names something that is no index of an alert,
and carries no id of its own. -/
def SafeResult (alerts : List Uuid) (r : PyDict) : Prop :=
  (∃ idx, PyDict.field r "alert_index" = some (.int idx) ∧ (alertAt alerts idx).isSome = true) ∨
    ((indexOf r).bind (alertAt alerts) = none ∧ carriedId r = none)

/-! ## One result -/

section Result

variable {alerts : List Uuid} {r : PyDict}

theorem indexOf_int {idx : Int} (h : PyDict.field r "alert_index" = some (.int idx)) :
    indexOf r = some idx := by
  rw [indexOf, PyValue.getD, h]
  rfl

theorem withAlertId_some {alertId : Uuid}
    (h : (indexOf r).bind (alertAt alerts) = some alertId) :
    withAlertId alerts (.obj r) = .obj (r.assign "alert_id" (idValue alertId)) := by
  rw [withAlertId, h]

theorem withAlertId_none (h : (indexOf r).bind (alertAt alerts) = none) :
    withAlertId alerts (.obj r) = .obj r := by
  rw [withAlertId, h]

theorem carriedId_assign (alertId : Uuid) :
    carriedId (r.assign "alert_id" (idValue alertId)) = some (idValue alertId) := by
  rw [carriedId, PyDict.field_assign]
  rfl

/-- **Which results come out right.** -/
theorem attributed_iff :
    (∀ r', withAlertId alerts (.obj r) = .obj r' → Attributed alerts r r') ↔
      SafeResult alerts r := by
  cases hfound : (indexOf r).bind (alertAt alerts) with
  | some alertId =>
      rw [withAlertId_some hfound]
      constructor
      · intro h
        obtain ⟨idx, alertId', hindex, hat, -⟩ := h _ rfl _ (carriedId_assign alertId)
        exact Or.inl ⟨idx, hindex, Option.isSome_iff_exists.mpr ⟨alertId', hat⟩⟩
      · rintro (⟨idx, hindex, hsome⟩ | ⟨hnone, -⟩) r' hr' v hv
        · cases hr'
          rw [carriedId_assign] at hv
          rw [indexOf_int hindex] at hfound
          exact ⟨idx, alertId, hindex, hfound, (Option.some.inj hv).symm⟩
        · rw [hfound] at hnone
          cases hnone
  | none =>
      have hnowhere {idx : Int} {alertId : Uuid}
          (hindex : PyDict.field r "alert_index" = some (.int idx))
          (hat : alertAt alerts idx = some alertId) : False := by
        rw [indexOf_int hindex] at hfound
        exact Option.some_ne_none alertId (hat.symm.trans hfound)
      rw [withAlertId_none hfound]
      constructor
      · intro h
        refine Or.inr ⟨hfound, Option.eq_none_iff_forall_ne_some.mpr ?_⟩
        intro v hv
        obtain ⟨idx, alertId, hindex, hat, -⟩ := h r rfl v hv
        exact hnowhere hindex hat
      · rintro (⟨idx, hindex, hsome⟩ | ⟨-, hnone⟩) r' hr' v hv
        · obtain ⟨alertId, hat⟩ := Option.isSome_iff_exists.mp hsome
          exact absurd (hnowhere hindex hat) id
        · cases hr'
          rw [hnone] at hv
          cases hv

end Result

/-! ## The response -/

section Response

variable (rt : AiRuntime) (py : PyText) (app : App) {client : LlmClient}
  {response : LlmResponse} {alertIds : List String} {analyst : Analyst} {s : Server}
  {alerts : List Uuid} {results : List PyDict}

/-- The handler, once it knows which alerts the caller may see. -/
theorem autoResolve_eq
    (haccess : accessibleAlerts py app "ai_auto_resolve" alertIds analyst s = .ok alerts) :
    autoResolve rt py app (some client) alertIds (some analyst) s
      = if alerts = [] then .ok [(PyStr.ofString "results", .arr [])]
        else inRequest client.complete >>= autoResolveAnswer rt alerts := by
  show (inRequest (accessibleAlerts py app "ai_auto_resolve" alertIds analyst s) >>= fun alerts =>
    if alerts = [] then pure [(PyStr.ofString "results", .arr [])]
    else inRequest client.complete >>= autoResolveAnswer rt alerts) = _
  rw [haccess]
  rfl

theorem autoResolve_results (hclient : client.complete = .ok response)
    (haccess : accessibleAlerts py app "ai_auto_resolve" alertIds analyst s = .ok alerts)
    (hsome : alerts ≠ []) (hread : rt.loads response.content = .ok (.arr (results.map .obj))) :
    autoResolve rt py app (some client) alertIds (some analyst) s
      = .ok [(PyStr.ofString "results", .arr ((results.map .obj).map (withAlertId alerts))),
          (PyStr.ofString "model", .str response.model)] := by
  rw [autoResolve_eq rt py app haccess, if_neg hsome, hclient]
  show autoResolveAnswer rt alerts response = _
  rw [autoResolveAnswer, AiRuntime.loadsOr, hread]
  rfl

/-- **Which verdicts are attributed to the right alert.**  For every list of requested ids and
every list of result objects that the model returns, the results of the response carry the ids of
the alerts that they name, and no others, if and only if the caller may see none of the alerts or
each result is safe. -/
theorem verdicts_attributed_iff (hclient : client.complete = .ok response)
    (haccess : accessibleAlerts py app "ai_auto_resolve" alertIds analyst s = .ok alerts)
    (hread : rt.loads response.content = .ok (.arr (results.map .obj))) :
    ∃ answer, autoResolve rt py app (some client) alertIds (some analyst) s = .ok answer ∧
      (RightlyAttributed alerts results answer ↔
        alerts = [] ∨ ∀ r ∈ results, SafeResult alerts r) := by
  by_cases hnone : alerts = []
  · subst hnone
    refine ⟨_, (autoResolve_eq rt py app haccess).trans (if_pos rfl), ?_⟩
    constructor
    · exact fun _ => Or.inl rfl
    · intro _ k r' hr'
      cases hr'
  · refine ⟨_, autoResolve_results rt py app hclient haccess hnone hread, ?_⟩
    have hresults : responseResults
        [(PyStr.ofString "results", .arr ((results.map .obj).map (withAlertId alerts))),
          (PyStr.ofString "model", .str response.model)]
        = results.map (fun r => withAlertId alerts (.obj r)) := by
      rw [responseResults, PyDict.field, List.lookup_cons, beq_self_eq_true]
      exact List.map_map
    rw [RightlyAttributed, hresults]
    constructor
    · intro h
      refine Or.inr (fun r hr => attributed_iff.mp (fun r' hr' => ?_))
      obtain ⟨k, hk⟩ := List.getElem?_of_mem hr
      obtain ⟨r₀, hr₀, hattributed⟩ := h k r' (by rw [List.getElem?_map, hk, Option.map_some, hr'])
      cases hk.symm.trans hr₀
      exact hattributed
    · rintro (hempty | hsafe) k r' hr'
      · exact absurd hempty hnone
      · rw [List.getElem?_map] at hr'
        obtain ⟨r, hr, hmapped⟩ := Option.map_eq_some_iff.mp hr'
        exact ⟨r, hr, attributed_iff.mpr (hsafe r (List.mem_of_getElem? hr)) r' hmapped⟩

end Response

/-! ## Verdicts about one alert and about two -/

/-- A model that answers with this text. -/
def modelSays (content : String) : LlmClient :=
  ⟨.ok ⟨PyStr.ofString content, PyStr.ofString "llama3", []⟩⟩

/-- A verdict that names no alert. -/
def namesNone : PyDict := [(PyStr.ofString "should_resolve", .bool true)]

/-- A verdict about the second alert. -/
def namesSecond : PyDict :=
  [(PyStr.ofString "alert_index", .int 1), (PyStr.ofString "should_resolve", .bool true)]

/-- A verdict about an alert that was not asked about. -/
def namesOther : PyDict := [(PyStr.ofString "alert_index", .int 7)]

def saysNone : LlmClient := modelSays "[\x7b\"should_resolve\": true\x7d]"

def saysSecond : LlmClient :=
  modelSays "[\x7b\"alert_index\": 1, \"should_resolve\": true\x7d, \x7b\"alert_index\": 7\x7d]"

/-- What `json.dumps` has written, the reader reads. -/
theorem ascii_loads {content : PyStr} {v : Json} (hheld : Json.Held .ascii (fun _ => .nan) v)
    (htext : v.dumps? .ascii = some (content.map Char.ofNat)) :
    AiRuntime.ascii.loads content = .ok (.ofJson v) := by
  show (Json.loads (fun _ => .nan) (content.map Char.ofNat)).map PyValue.ofJson = _
  rw [Json.loads_dumps hheld htext]
  rfl

theorem loads_namesNone :
    AiRuntime.ascii.loads (PyStr.ofString "[\x7b\"should_resolve\": true\x7d]")
      = .ok (.arr ([namesNone].map .obj)) := by
  have hheld : Json.Held .ascii (fun _ => .nan) (.arr [.obj [("should_resolve", .bool true)]]) :=
    ⟨⟨List.nodup_singleton _, trivial, trivial⟩, trivial⟩
  exact ascii_loads hheld rfl

theorem loads_namesSecond :
    AiRuntime.ascii.loads (PyStr.ofString
        "[\x7b\"alert_index\": 1, \"should_resolve\": true\x7d, \x7b\"alert_index\": 7\x7d]")
      = .ok (.arr ([namesSecond, namesOther].map .obj)) := by
  have hheld : Json.Held .ascii (fun _ => .nan)
      (.arr [.obj [("alert_index", .int 1), ("should_resolve", .bool true)],
        .obj [("alert_index", .int 7)]]) :=
    ⟨⟨by decide, trivial, trivial, trivial⟩, ⟨List.nodup_singleton _, trivial, trivial⟩, trivial⟩
  exact ascii_loads hheld rfl

/-- Without validators everyone may see an alert. -/
theorem addAccessible_core {raw : String} {i : Uuid} {s : Server} {alert : AlertRow}
    (hid : Uuid.ofText? .ascii raw = some i) (hfind : s.alerts.find? i = some alert)
    (action : String) (caller : Analyst) (alerts : List Uuid) :
    addAccessible .ascii .core action caller s alerts raw = .ok (alerts ++ [alert.id]) := by
  rw [addAccessible, hid]
  refine (bind_of_ok rfl).trans ?_
  rw [hfind]
  rfl

theorem addAccessible_beacon (action : String) (caller : Analyst) (alerts : List Uuid) :
    addAccessible .ascii .core action caller beaconServer alerts (Uuid.toText 1)
      = .ok (alerts ++ [1]) := by
  rw [addAccessible_core ofText_beacon (show beaconServer.alerts.find? 1 = some _ from rfl)]
  rfl

theorem accessible_beacon (action : String) (caller : Analyst) :
    accessibleAlerts .ascii .core action [Uuid.toText 1] caller beaconServer = .ok [1] := by
  rw [accessibleAlerts, List.foldlM_cons, addAccessible_beacon]
  rfl

/-- One alert, and a verdict that names none: it is attributed to that alert. -/
theorem verdict_misattributed :
    ∃ answer, autoResolve .ascii .ascii .core (some saysNone) [Uuid.toText 1] (some viewer)
        beaconServer = .ok answer ∧
      AiRuntime.ascii.loads (PyStr.ofString "[\x7b\"should_resolve\": true\x7d]")
        = .ok (.arr ([namesNone].map .obj)) ∧
      PyDict.field namesNone "alert_index" = none ∧
      ¬ RightlyAttributed [1] [namesNone] answer := by
  refine ⟨_, autoResolve_results .ascii .ascii .core rfl (accessible_beacon _ _)
    (List.cons_ne_nil _ _) loads_namesNone, loads_namesNone, rfl, ?_⟩
  intro h
  have hnamed : (indexOf namesNone).bind (alertAt [1]) = some 1 := by decide
  obtain ⟨r, hr, hattributed⟩ := h 0 (namesNone.assign "alert_id" (idValue 1))
    (congrArg some (withAlertId_some hnamed))
  cases hr
  obtain ⟨idx, _, hindex, -⟩ := hattributed _ (carriedId_assign 1)
  exact Option.some_ne_none _ (hindex.symm.trans rfl)

theorem nodup_twoBeacons :
    ([⟨acmeBeacon, 0, none⟩, ⟨globexBeacon, 0, none⟩].map AlertRow.key).Nodup := by
  decide

/-- Two alerts. -/
def twoBeacons : Server :=
  { beaconServer with
    alerts := ⟨[⟨acmeBeacon, 0, none⟩, ⟨globexBeacon, 0, none⟩], nodup_twoBeacons⟩ }

theorem accessible_two (action : String) (caller : Analyst) :
    accessibleAlerts .ascii .core action [Uuid.toText 1, Uuid.toText 2] caller twoBeacons =
      .ok [1, 2] := by
  have hsecond : Uuid.ofText? .ascii (Uuid.toText 2) = some 2 := by decide +kernel
  rw [accessibleAlerts, List.foldlM_cons, addAccessible_core ofText_beacon rfl]
  refine (bind_of_ok rfl).trans ?_
  rw [List.foldlM_cons, addAccessible_core hsecond rfl]
  rfl

/-- Two alerts, a verdict about the alert at index 1, and one about an alert that is not there. -/
theorem verdicts_attributed_second :
    ∃ answer, autoResolve .ascii .ascii .core (some saysSecond) [Uuid.toText 1, Uuid.toText 2]
        (some viewer) twoBeacons = .ok answer ∧
      RightlyAttributed [1, 2] [namesSecond, namesOther] answer := by
  have hclient : saysSecond.complete = .ok ⟨_, _, []⟩ := rfl
  obtain ⟨answer, hanswer, hiff⟩ := verdicts_attributed_iff .ascii .ascii .core hclient
    (accessible_two _ _) loads_namesSecond
  refine ⟨answer, hanswer, hiff.mpr (Or.inr (fun r hr => ?_))⟩
  rcases List.mem_cons.mp hr with rfl | hr
  · exact Or.inl ⟨1, rfl, rfl⟩
  · cases List.mem_singleton.mp hr
    exact Or.inr ⟨rfl, rfl⟩

end OpenSoar
