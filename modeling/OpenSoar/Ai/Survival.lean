/-
# `OpenSoar.Ai.Survival` — the AI endpoints under any answer of the model

The four endpoints guard `json.loads` against a `JSONDecodeError` and against nothing else.  A
text that is JSON of another shape goes on to code that wants an object, a hashable action, a
confidence that is a number, or a response that the encoder can write.

`Survives` says what a response ought to be, `Fits` which texts lead to it, and `survives_iff`
that these are the texts.
-/
import OpenSoar.Ai.AutoResolve

namespace OpenSoar

open Python

/-! ## What the endpoints rely on -/

/-- The documented behaviour of the interpreter. -/
structure AiRuntime.Documented (rt : AiRuntime) : Prop where
  /-- `repr` escapes what cannot be encoded. -/
  repr : ∀ v, (rt.repr v).encodable = true
  /-- Half a surrogate pair is no whitespace. -/
  isSpace : ∀ c, rt.isSpace c = true → PyStr.encodable [c] = true
  /-- A percentage is a number. -/
  div : ∀ x, exceeds x (floatLiteral 2) = true → x.le (floatLiteral 100) = true →
    rt.div x (floatLiteral 100) ≠ .nan
  /-- The encoder goes down to the fields of a list of objects. -/
  levels : 3 ≤ rt.levels

/-! ## What a response ought to be -/

/-- A field that is text, if it is there. -/
def textField (d : PyDict) (key : String) : Bool :=
  match PyDict.field d key with
  | none => true
  | some (.str _) => true
  | _ => false

/-- A field that is a number, if it is there. -/
def numberField (d : PyDict) (key : String) : Bool :=
  match PyDict.field d key with
  | none => true
  | some (.int _) => true
  | some (.float _) => true
  | _ => false

/-- A field that is a list, if it is there. -/
def listField (d : PyDict) (key : String) : Bool :=
  match PyDict.field d key with
  | none => true
  | some (.arr _) => true
  | _ => false

/-- The shape that the triage prompt asks for. -/
def triageShape (d : PyDict) : Bool :=
  textField d "severity" && textField d "determination" && numberField d "confidence" &&
    textField d "reasoning"

/-- The defaults of a triage. -/
def triageDefaults (content : PyStr) : PyDict :=
  [(PyStr.ofString "severity", textValue "unknown"),
    (PyStr.ofString "determination", textValue "unknown"),
    (PyStr.ofString "confidence", .float (.finite 0 0)),
    (PyStr.ofString "reasoning", .str content)]

/-- The response to a triage, with these fields. -/
def triageResponse (response : LlmResponse) (d : PyDict) : PyDict :=
  [(PyStr.ofString "severity", PyValue.getD d "severity" (textValue "unknown")),
    (PyStr.ofString "determination", PyValue.getD d "determination" (textValue "unknown")),
    (PyStr.ofString "confidence", PyValue.getD d "confidence" (.float (.finite 0 0))),
    (PyStr.ofString "reasoning", PyValue.getD d "reasoning" (textValue "")),
    (PyStr.ofString "model", .str response.model), (PyStr.ofString "usage", .obj response.usage)]

/-- The object in the text if it is one of this shape, else the defaults. -/
def shapedOr (shape : PyDict → Bool) (defaults : PyDict) : Except LoadsError PyValue → PyDict
  | .ok (.obj d) => if shape d then d else defaults
  | _ => defaults

/-- The response that a triage ought to have. -/
def intendedTriage (rt : AiRuntime) (response : LlmResponse) : PyDict :=
  triageResponse response
    (shapedOr triageShape (triageDefaults response.content) (rt.loads response.content))

/-- The response that a correlation ought to have. -/
def intendedCorrelation (rt : AiRuntime) (response : LlmResponse) : PyDict :=
  [(PyStr.ofString "groups",
      PyValue.getD (shapedOr (listField · "groups") [] (rt.loads response.content)) "groups"
        (.arr [])),
    (PyStr.ofString "model", .str response.model)]

/-- A word of the vocabulary, else `escalate`. -/
def vocabularyAction : PyValue → PyStr
  | .str s =>
      if (allowedActions.map PyStr.ofString).contains s then s else PyStr.ofString "escalate"
  | _ => PyStr.ofString "escalate"

/-- The action in the text, which names none if it is no object. -/
def intendedAction (rt : AiRuntime) (content : PyStr) : PyStr :=
  match rt.loads (unfenced rt content) with
  | .ok (.obj d) => vocabularyAction (PyValue.getD d "action" .null)
  | _ => PyStr.ofString "escalate"

/-- A confidence in [0, 1]. -/
def InUnit (x : PyFloat) : Prop :=
  (floatLiteral 0).le x = true ∧ x.le (floatLiteral 1) = true

/-- The endpoints, with what a request names. -/
inductive AiEndpoint where
  | triageAlert (alertId : String)
  | autoResolve (alertIds : List String)
  | correlateAlerts (alertIds : List String)
  | recommendAction (alertId : String)

/-- What the handler returns, or raises, to this caller. -/
def AiEndpoint.answer (rt : AiRuntime) (py : PyText) (app : App) (client : LlmClient)
    (caller : Analyst) (s : Server) : AiEndpoint → Except AiRaised PyDict
  | .triageAlert alertId => OpenSoar.triageAlert rt py app (some client) alertId (some caller) s
  | .autoResolve alertIds => OpenSoar.autoResolve rt py app (some client) alertIds (some caller) s
  | .correlateAlerts alertIds =>
      OpenSoar.correlateAlerts rt py app (some client) alertIds (some caller) s
  | .recommendAction alertId =>
      OpenSoar.recommendAction rt py app (some client) alertId (some caller) s

/-- The handler asks the model: the checks pass, and the caller may see alerts enough. -/
inductive AiEndpoint.Asks (py : PyText) (app : App) (caller : Analyst) (s : Server) :
    AiEndpoint → List Uuid → Prop
  | triageAlert {alertId : String} :
      alertToAsk py app "ai_triage" badUuid alertId caller s = .ok () →
      Asks py app caller s (.triageAlert alertId) []
  | autoResolve {alertIds : List String} {alerts : List Uuid} :
      accessibleAlerts py app "ai_auto_resolve" alertIds caller s = .ok alerts → alerts ≠ [] →
      Asks py app caller s (.autoResolve alertIds) alerts
  | correlateAlerts {alertIds : List String} {alerts : List Uuid} :
      accessibleAlerts py app "ai_correlate" alertIds caller s = .ok alerts → 2 ≤ alerts.length →
      Asks py app caller s (.correlateAlerts alertIds) alerts
  | recommendAction {alertId : String} :
      requirePermission .aiUse (some caller) = .ok caller →
      alertToAsk py app "ai_recommend" (.httpException 400 "Invalid alert_id") alertId caller s
        = .ok () →
      Asks py app caller s (.recommendAction alertId) []

/-- A well-formed response: the intended triage or groups, a list of results, or the intended
action with a confidence in [0, 1]. -/
def AiEndpoint.Survives (rt : AiRuntime) (response : LlmResponse)
    (answer : Except AiRaised PyDict) :
    AiEndpoint → Prop
  | .triageAlert _ => answer = .ok (intendedTriage rt response)
  | .autoResolve _ => ∃ items, answer =
      .ok [(PyStr.ofString "results", .arr items), (PyStr.ofString "model", .str response.model)]
  | .correlateAlerts _ => answer = .ok (intendedCorrelation rt response)
  | .recommendAction _ => ∃ confidence reasoning, InUnit confidence ∧ answer =
      .ok [(PyStr.ofString "action", .str (intendedAction rt response.content)),
        (PyStr.ofString "confidence", .float confidence),
        (PyStr.ofString "reasoning", .str reasoning)]

/-! ## Which texts fit -/

/-- The field can be written, if it is there. -/
def Writable (rt : AiRuntime) (d : PyDict) (key : String) : Prop :=
  ∀ v, PyDict.field d key = some v → v.renders rt.levels = true

/-- A triage: no JSON, or an object of the shape. -/
def FitsTriage (rt : AiRuntime) (response : LlmResponse) : Prop :=
  match rt.loads response.content with
  | .ok (.obj d) => triageShape d = true ∧ Writable rt d "severity" ∧
      Writable rt d "determination" ∧ Writable rt d "confidence" ∧ Writable rt d "reasoning"
  | .ok _ => False
  | .error e => e = .jsonDecodeError ∧ response.content.encodable = true

/-- A result without the `alert_id` that the handler writes over. -/
def unidentified (alerts : List Uuid) : PyValue → PyValue
  | .obj r =>
      match (indexOf r).bind (alertAt alerts) with
      | some _ => .obj (r.filter (fun entry => entry.1 ≠ PyStr.ofString "alert_id"))
      | none => .obj r
  | v => v

/-- The results of an object: itself, or the list that it holds. -/
def FitsResults (rt : AiRuntime) (alerts : List Uuid) : PyValue → Prop
  | .arr items => (PyValue.arr (items.map (unidentified alerts))).renders rt.levels = true
  | _ => False

/-- A list of results, or what it is made of. -/
def FitsAutoResolve (rt : AiRuntime) (alerts : List Uuid) (response : LlmResponse) : Prop :=
  match rt.loads response.content with
  | .ok parsed => FitsResults rt alerts (resultsOf parsed)
  | .error e => e = .jsonDecodeError

/-- A correlation: no JSON, or an object whose groups are a list. -/
def FitsCorrelation (rt : AiRuntime) (response : LlmResponse) : Prop :=
  match rt.loads response.content with
  | .ok (.obj d) => listField d "groups" = true ∧ Writable rt d "groups"
  | .ok _ => False
  | .error e => e = .jsonDecodeError

/-- The action can be looked up in the vocabulary, and quoted. -/
def FitsAction (rt : AiRuntime) : PyValue → Prop
  | .arr _ => False
  | .obj _ => False
  | v => (rt.str v).encodable = true

/-- The confidence is a number in range that is not `nan`, or no number at all. -/
def FitsConfidence (rt : AiRuntime) (raw : PyValue) : Prop :=
  floatOf rt raw ≠ .error .overflowError ∧ floatOf rt raw ≠ .ok .nan

/-- A recommendation: no JSON, no object, or an object with fields that fit. -/
def FitsRecommendation (rt : AiRuntime) (content : PyStr) : Prop :=
  match rt.loads (unfenced rt content) with
  | .ok (.obj d) => FitsAction rt (PyValue.getD d "action" .null) ∧
      FitsConfidence rt (PyValue.getD d "confidence" (.float (.finite 0 0))) ∧
      (rt.str (PyValue.getD d "reasoning" (textValue ""))).encodable = true
  | .ok _ => True
  | .error e => e = .jsonDecodeError ∧ PyStr.encodable (content.take 500) = true

/-- The texts for which the endpoint has a well-formed response.  Where the response repeats what
the provider says about the model, that can be written too. -/
def AiEndpoint.Fits (rt : AiRuntime) (alerts : List Uuid) (response : LlmResponse) :
    AiEndpoint → Prop
  | .triageAlert _ => FitsTriage rt response ∧ response.model.encodable = true ∧
      (PyValue.obj response.usage).renders rt.levels = true
  | .autoResolve _ => FitsAutoResolve rt alerts response ∧ response.model.encodable = true
  | .correlateAlerts _ => FitsCorrelation rt response ∧ response.model.encodable = true
  | .recommendAction _ => FitsRecommendation rt response.content

/-! ## The encoder -/

section Encoder

variable {rt : AiRuntime} {answer answer' : PyDict}

theorem respond_ok : rt.respond answer = .ok answer' ↔
    answer' = answer ∧ ∀ entry ∈ answer, entry.2.renders rt.levels = true := by
  rw [AiRuntime.respond]
  split
  · rename_i hall
    refine ⟨fun h => ⟨(Except.ok.inj h).symm, List.all_eq_true.mp hall⟩, fun h => ?_⟩
    rw [h.1]
  · rename_i hsome
    refine ⟨fun h => ?_, fun h => absurd (List.all_eq_true.mpr h.2) hsome⟩
    cases h

theorem levels_renders (hdoc : rt.Documented) {v : PyValue} (h : ∀ n, v.renders (n + 3) = true) :
    v.renders rt.levels = true := by
  obtain ⟨n, hn⟩ := Nat.exists_eq_add_of_le hdoc.levels
  rw [hn, Nat.add_comm]
  exact h n

theorem text_renders (hdoc : rt.Documented) (s : PyStr) :
    (PyValue.str s).renders rt.levels = s.encodable := by
  obtain ⟨n, hn⟩ := Nat.exists_eq_add_of_le hdoc.levels
  rw [hn, Nat.add_comm]
  rfl

theorem float_renders (hdoc : rt.Documented) (x : PyFloat) :
    (PyValue.float x).renders rt.levels = true ↔ ∃ m e, x = .finite m e := by
  obtain ⟨n, hn⟩ := Nat.exists_eq_add_of_le hdoc.levels
  rw [hn, Nat.add_comm]
  cases x with
  | finite m e => exact ⟨fun _ => ⟨m, e, rfl⟩, fun _ => rfl⟩
  | nan =>
      constructor
      · intro h
        cases h
      · rintro ⟨_, _, h⟩
        cases h
  | inf negative =>
      constructor
      · intro h
        cases h
      · rintro ⟨_, _, h⟩
        cases h

end Encoder

/-! ## Triage -/

section Triage

variable {rt : AiRuntime} {response : LlmResponse} {d : PyDict}

theorem loadsOr_ok {content : PyStr} {fallback v : PyValue} (h : rt.loads content = .ok v) :
    rt.loadsOr content fallback = .ok v := by
  rw [AiRuntime.loadsOr, h]

theorem loadsOr_decode {content : PyStr} {fallback : PyValue}
    (h : rt.loads content = .error .jsonDecodeError) :
    rt.loadsOr content fallback = .ok fallback := by
  rw [AiRuntime.loadsOr, h]

theorem loadsOr_error {content : PyStr} {fallback : PyValue} {e : LoadsError}
    (h : rt.loads content = .error e) (hne : e ≠ .jsonDecodeError) :
    rt.loadsOr content fallback = .error (.loads e) := by
  rw [AiRuntime.loadsOr, h]
  cases e with
  | jsonDecodeError => exact absurd rfl hne
  | valueError => rfl
  | recursionError => rfl

/-- A field that is read with a default is not there, or holds what is read. -/
theorem field_of_getD {key : String} {default v : PyValue} (h : PyValue.getD d key default = v) :
    PyDict.field d key = none ∨ PyDict.field d key = some v := by
  rw [PyValue.getD] at h
  cases hfield : PyDict.field d key with
  | none => exact Or.inl rfl
  | some v' =>
      rw [hfield, Option.getD_some] at h
      exact Or.inr (congrArg some h)

theorem textField_of_getD {key : String} {default : PyValue} {s : PyStr}
    (h : PyValue.getD d key default = .str s) : textField d key = true := by
  rcases field_of_getD h with hfield | hfield <;> rw [textField, hfield]

theorem numberField_of_getD {key : String} {default : PyValue} {x : PyFloat}
    (h : PyValue.getD d key default = .float x) : numberField d key = true := by
  rcases field_of_getD h with hfield | hfield <;> rw [numberField, hfield]

theorem listField_of_getD {key : String} {default : PyValue} {items : List PyValue}
    (h : PyValue.getD d key default = .arr items) : listField d key = true := by
  rcases field_of_getD h with hfield | hfield <;> rw [listField, hfield]

/-- Only an object of the shape has the response of the defaults. -/
theorem triageShape_of_defaults
    (h : triageResponse response (triageDefaults response.content) = triageResponse response d) :
    triageShape d = true := by
  simp only [triageResponse, List.cons.injEq, Prod.mk.injEq, true_and] at h
  obtain ⟨hseverity, hdetermination, hconfidence, hreasoning, -⟩ := h
  rw [triageShape, textField_of_getD hseverity.symm, textField_of_getD hdetermination.symm,
    numberField_of_getD hconfidence.symm, textField_of_getD hreasoning.symm]
  rfl

theorem triageAnswer_obj
    (h : rt.loadsOr response.content (triageFallback response.content) = .ok (.obj d)) :
    triageAnswer rt response = .ok (triageResponse response d) := by
  rw [triageAnswer, h]
  rfl

theorem respond_triage (hdoc : rt.Documented) {answer : PyDict} :
    rt.respond (triageResponse response d) = .ok answer ↔ answer = triageResponse response d ∧
      (Writable rt d "severity" ∧ Writable rt d "determination" ∧ Writable rt d "confidence" ∧
        Writable rt d "reasoning") ∧
      response.model.encodable = true ∧ (PyValue.obj response.usage).renders rt.levels = true := by
  have hunknown : (textValue "unknown").renders rt.levels = true :=
    (text_renders hdoc _).trans (PyStr.encodable_ofString _)
  have hempty : (textValue "").renders rt.levels = true :=
    (text_renders hdoc _).trans (PyStr.encodable_ofString _)
  have hzero : (PyValue.float (.finite 0 0)).renders rt.levels = true :=
    (float_renders hdoc _).mpr ⟨0, 0, rfl⟩
  rw [respond_ok, triageResponse]
  simp only [List.forall_mem_cons, PyValue.renders_getD hunknown, PyValue.renders_getD hzero,
    PyValue.renders_getD hempty, text_renders hdoc, Writable, List.not_mem_nil, false_implies,
    implies_true, and_true, and_assoc]

theorem respond_triageDefaults (hdoc : rt.Documented) {answer : PyDict} :
    rt.respond (triageResponse response (triageDefaults response.content)) = .ok answer ↔
      answer = triageResponse response (triageDefaults response.content) ∧
      response.content.encodable = true ∧ response.model.encodable = true ∧
        (PyValue.obj response.usage).renders rt.levels = true := by
  have hunknown : (textValue "unknown").renders rt.levels = true :=
    (text_renders hdoc _).trans (PyStr.encodable_ofString _)
  have hseverity : PyDict.field (triageDefaults response.content) "severity"
      = some (textValue "unknown") := rfl
  have hdetermination : PyDict.field (triageDefaults response.content) "determination"
      = some (textValue "unknown") := rfl
  have hconfidence : PyDict.field (triageDefaults response.content) "confidence"
      = some (.float (.finite 0 0)) := rfl
  have hreasoning : PyDict.field (triageDefaults response.content) "reasoning"
      = some (.str response.content) := rfl
  rw [respond_triage hdoc, Writable, Writable, Writable, Writable, hseverity, hdetermination,
    hconfidence, hreasoning]
  simp only [Option.some.injEq, forall_eq', hunknown, text_renders hdoc, float_renders hdoc,
    PyFloat.finite.injEq, exists_and_left, exists_eq', and_true, true_and]

theorem triage_survives_iff (hdoc : rt.Documented) :
    (triageAnswer rt response >>= rt.respond) = .ok (intendedTriage rt response) ↔
      FitsTriage rt response ∧ response.model.encodable = true ∧
        (PyValue.obj response.usage).renders rt.levels = true := by
  cases hloads : rt.loads response.content with
  | ok v =>
      cases v with
      | obj d =>
          rw [bind_of_ok (triageAnswer_obj (loadsOr_ok hloads)), respond_triage hdoc,
            intendedTriage, FitsTriage, hloads, shapedOr]
          by_cases hshape : triageShape d = true
          · simp only [hshape, if_true, true_and, and_assoc]
          · simp only [if_neg hshape]
            constructor
            · intro h
              exact absurd (triageShape_of_defaults h.1) hshape
            · intro h
              exact absurd h.1.1 hshape
      | _ =>
          rw [triageAnswer, loadsOr_ok hloads, FitsTriage, hloads]
          refine ⟨fun h => ?_, fun h => h.1.elim⟩
          cases h
  | error e =>
      rw [FitsTriage, hloads]
      by_cases hdecode : e = .jsonDecodeError
      · subst hdecode
        have hobj := triageAnswer_obj (d := triageDefaults response.content) (loadsOr_decode hloads)
        have hintended : intendedTriage rt response
            = triageResponse response (triageDefaults response.content) := by
          rw [intendedTriage, hloads]
          rfl
        rw [bind_of_ok hobj, hintended, respond_triageDefaults hdoc]
        simp only [true_and]
      · rw [triageAnswer, loadsOr_error hloads hdecode]
        refine ⟨fun h => ?_, fun h => absurd h.1.1 hdecode⟩
        cases h

end Triage

/-! ## Auto-resolve -/

section AutoResolve

variable {rt : AiRuntime} {response : LlmResponse} {alerts : List Uuid}

/-- The response to the results that are looped over. -/
def resultsResponse (response : LlmResponse) (results : PyValue) : PyDict :=
  [(PyStr.ofString "results", results), (PyStr.ofString "model", .str response.model)]

/-- To write a result, the `alert_id` that was there before does not matter. -/
theorem withAlertId_renders (n : Nat) (item : PyValue) :
    (withAlertId alerts item).renders (n + 2) = true ↔
      (unidentified alerts item).renders (n + 2) = true := by
  cases item with
  | obj r =>
      cases hindex : (indexOf r).bind (alertAt alerts) with
      | none => rw [withAlertId, unidentified, hindex]
      | some alertId =>
          rw [withAlertId, unidentified, hindex]
          exact PyValue.renders_assign (PyValue.renders_ofString n _)
  | _ => rfl

theorem unidentified_renders {n : Nat} {item : PyValue} (h : item.renders n = true) :
    (unidentified alerts item).renders n = true := by
  cases item with
  | obj r =>
      cases hindex : (indexOf r).bind (alertAt alerts) with
      | none => rwa [unidentified, hindex]
      | some alertId =>
          rw [unidentified, hindex]
          cases n with
          | zero => cases h
          | succ n =>
              rw [PyValue.renders, List.all_eq_true] at h ⊢
              intro entry hentry
              exact h entry (List.mem_filter.mp hentry).1
  | _ => exact h

theorem results_renders (hdoc : rt.Documented) (items : List PyValue) :
    (PyValue.arr (items.map (withAlertId alerts))).renders rt.levels = true ↔
      (PyValue.arr (items.map (unidentified alerts))).renders rt.levels = true := by
  obtain ⟨n, hn⟩ := Nat.exists_eq_add_of_le hdoc.levels
  rw [hn, Nat.add_comm]
  simp only [PyValue.renders, List.all_map, List.all_eq_true, Function.comp_apply,
    withAlertId_renders]

/-- The results that the handler writes itself can be written. -/
theorem fitsResults_failed (hdoc : rt.Documented) (k : Nat) :
    FitsResults rt alerts (.arr (failedResults k)) := by
  refine levels_renders hdoc (fun n => List.all_eq_true.mpr (fun item hitem => ?_))
  obtain ⟨result, hresult, rfl⟩ := List.mem_map.mp hitem
  obtain ⟨i, -, rfl⟩ := List.mem_map.mp hresult
  refine unidentified_renders ?_
  have hkey (key : String) : (PyStr.ofString key).encodable = true := PyStr.encodable_ofString key
  simp only [PyValue.renders, textValue, List.all_cons, List.all_nil, hkey, Bool.and_self]

theorem respond_results (hdoc : rt.Documented) {results : PyValue} {answer : PyDict} :
    rt.respond (resultsResponse response results) = .ok answer ↔
      answer = resultsResponse response results ∧ results.renders rt.levels = true ∧
        response.model.encodable = true := by
  rw [respond_ok, resultsResponse]
  simp only [List.forall_mem_cons, text_renders hdoc, List.not_mem_nil, false_implies,
    implies_true, and_true]

theorem mapped_survives_iff (hdoc : rt.Documented) (results : PyValue) :
    (∃ items, ((mapAlertIds alerts results >>= fun results =>
        pure (resultsResponse response results)) >>= rt.respond)
          = .ok (resultsResponse response (.arr items))) ↔
      FitsResults rt alerts results ∧ response.model.encodable = true := by
  have hnever {results' : PyValue} (hmap : mapAlertIds alerts results = .ok results')
      (hno : ∀ items, results' ≠ .arr items) :
      ¬ ∃ items, ((mapAlertIds alerts results >>= fun results =>
        pure (resultsResponse response results)) >>= rt.respond)
          = .ok (resultsResponse response (.arr items)) := by
    rintro ⟨items, hanswer⟩
    rw [hmap] at hanswer
    have hsame := ((respond_results hdoc).mp hanswer).1
    simp only [resultsResponse, List.cons.injEq, Prod.mk.injEq, true_and] at hsame
    exact hno items hsame.1.symm
  cases results with
  | arr items =>
      show (∃ items', rt.respond (resultsResponse response (.arr (items.map (withAlertId alerts))))
        = .ok (resultsResponse response (.arr items'))) ↔ _
      simp only [respond_results hdoc, results_renders hdoc, FitsResults]
      constructor
      · rintro ⟨_, -, hfits⟩
        exact hfits
      · exact fun hfits => ⟨_, rfl, hfits⟩
  | obj d => exact iff_of_false (hnever rfl (fun _ h => by cases h)) (fun h => h.1)
  | str s => exact iff_of_false (hnever rfl (fun _ h => by cases h)) (fun h => h.1)
  | _ =>
      refine iff_of_false ?_ (fun h => h.1)
      rintro ⟨items, hanswer⟩
      cases hanswer

theorem autoResolve_survives_iff (hdoc : rt.Documented) :
    (∃ items, (autoResolveAnswer rt alerts response >>= rt.respond)
        = .ok (resultsResponse response (.arr items))) ↔
      FitsAutoResolve rt alerts response ∧ response.model.encodable = true := by
  cases hloads : rt.loads response.content with
  | ok parsed =>
      rw [autoResolveAnswer, loadsOr_ok hloads, FitsAutoResolve, hloads]
      exact mapped_survives_iff hdoc (resultsOf parsed)
  | error e =>
      rw [FitsAutoResolve, hloads]
      by_cases hdecode : e = .jsonDecodeError
      · subst hdecode
        rw [autoResolveAnswer, loadsOr_decode hloads]
        refine (mapped_survives_iff hdoc (.arr (failedResults alerts.length))).trans ?_
        exact and_congr_left (fun _ => iff_of_true (fitsResults_failed hdoc _) rfl)
      · rw [autoResolveAnswer, loadsOr_error hloads hdecode]
        refine iff_of_false ?_ (fun h => hdecode h.1)
        rintro ⟨items, hanswer⟩
        cases hanswer

end AutoResolve

/-! ## Correlation -/

section Correlation

variable {rt : AiRuntime} {response : LlmResponse} {d : PyDict}

/-- The response to the groups in this object. -/
def groupsResponse (response : LlmResponse) (d : PyDict) : PyDict :=
  [(PyStr.ofString "groups", PyValue.getD d "groups" (.arr [])),
    (PyStr.ofString "model", .str response.model)]

theorem correlateAnswer_obj
    (h : rt.loadsOr response.content (.obj [(PyStr.ofString "groups", .arr [])]) = .ok (.obj d)) :
    correlateAnswer rt response = .ok (groupsResponse response d) := by
  rw [correlateAnswer, h]
  rfl

theorem respond_groups (hdoc : rt.Documented) {answer : PyDict} :
    rt.respond (groupsResponse response d) = .ok answer ↔ answer = groupsResponse response d ∧
      Writable rt d "groups" ∧ response.model.encodable = true := by
  have hempty : (PyValue.arr []).renders rt.levels = true := levels_renders hdoc (fun _ => rfl)
  rw [respond_ok, groupsResponse]
  simp only [List.forall_mem_cons, PyValue.renders_getD hempty, text_renders hdoc, Writable,
    List.not_mem_nil, false_implies, implies_true, and_true]

theorem correlation_survives_iff (hdoc : rt.Documented) :
    (correlateAnswer rt response >>= rt.respond) = .ok (intendedCorrelation rt response) ↔
      FitsCorrelation rt response ∧ response.model.encodable = true := by
  cases hloads : rt.loads response.content with
  | ok v =>
      cases v with
      | obj d =>
          have hintended : intendedCorrelation rt response
              = groupsResponse response (if listField d "groups" then d else []) := by
            rw [intendedCorrelation, hloads]
            rfl
          rw [bind_of_ok (correlateAnswer_obj (loadsOr_ok hloads)), respond_groups hdoc, hintended,
            FitsCorrelation, hloads]
          by_cases hshape : listField d "groups" = true
          · simp only [hshape, if_true, true_and]
          · refine iff_of_false (fun h => hshape ?_) (fun h => hshape h.1.1)
            have hsame := h.1
            rw [if_neg hshape] at hsame
            simp only [groupsResponse, List.cons.injEq, Prod.mk.injEq, true_and] at hsame
            exact listField_of_getD hsame.1.symm
      | _ =>
          rw [correlateAnswer, loadsOr_ok hloads, FitsCorrelation, hloads]
          refine iff_of_false (fun h => ?_) (fun h => h.1)
          cases h
  | error e =>
      rw [FitsCorrelation, hloads]
      by_cases hdecode : e = .jsonDecodeError
      · subst hdecode
        have hobj := correlateAnswer_obj (loadsOr_decode hloads)
        have hintended : intendedCorrelation rt response
            = groupsResponse response [(PyStr.ofString "groups", .arr [])] := by
          rw [intendedCorrelation, hloads]
          rfl
        have hgroups : PyDict.field [(PyStr.ofString "groups", PyValue.arr [])] "groups"
            = some (.arr []) := rfl
        have hempty : (PyValue.arr []).renders rt.levels = true :=
          levels_renders hdoc (fun _ => rfl)
        rw [bind_of_ok hobj, respond_groups hdoc, hintended, Writable, hgroups]
        simp only [Option.some.injEq, forall_eq', hempty, true_and]
      · rw [correlateAnswer, loadsOr_error hloads hdecode]
        refine iff_of_false (fun h => ?_) (fun h => hdecode h.1)
        cases h

end Correlation

/-! ## Recommendation -/

section Recommendation

variable {rt : AiRuntime}

theorem unscaled_ne_nan (hdoc : rt.Documented) {x : PyFloat} (hx : x ≠ .nan) :
    unscaled rt x ≠ .nan := by
  rw [unscaled]
  split
  · rename_i hpercent
    obtain ⟨hlow, hhigh⟩ := Bool.and_eq_true_iff.mp hpercent
    exact hdoc.div x hlow hhigh
  · exact hx

/-- What is at most a bound, by `not exceeds`. -/
theorem le_of_not_exceeds {x y : PyFloat} (hx : x ≠ .nan) (hy : y ≠ .nan)
    (h : exceeds x y ≠ true) : x.le y = true := by
  rcases PyFloat.le_total hx hy with hle | hle
  · exact hle
  · rw [exceeds, hle, Bool.true_and] at h
    cases hxy : x.le y with
    | true => rfl
    | false =>
        rw [hxy] at h
        exact absurd rfl h

theorem normalizeConfidence_fits (hdoc : rt.Documented) {raw : PyValue}
    (h : FitsConfidence rt raw) : ∃ x, normalizeConfidence rt raw = .ok x ∧ InUnit x := by
  have hzero : InUnit (floatLiteral 0) := ⟨by decide, by decide⟩
  have hone : InUnit (floatLiteral 1) := ⟨by decide, by decide⟩
  rw [normalizeConfidence]
  cases hfloat : floatOf rt raw with
  | error e =>
      cases e with
      | overflowError => exact absurd hfloat h.1
      | typeError => exact ⟨_, rfl, hzero⟩
      | valueError => exact ⟨_, rfl, hzero⟩
  | ok x =>
      have hx : x ≠ .nan := by
        intro hnan
        exact h.2 (hnan ▸ hfloat)
      have hy := unscaled_ne_nan hdoc hx
      simp only
      split
      · exact ⟨_, rfl, hzero⟩
      · rename_i hlow
        split
        · exact ⟨_, rfl, hone⟩
        · rename_i hhigh
          have hlit (n : Int) : floatLiteral n ≠ .nan := by
            intro hnan
            cases hnan
          exact ⟨_, rfl, le_of_not_exceeds (hlit 0) hy hlow, le_of_not_exceeds hy (hlit 1) hhigh⟩

/-- Otherwise it raises, or returns `nan`. -/
theorem normalizeConfidence_unfit {raw : PyValue} (h : ¬ FitsConfidence rt raw) :
    normalizeConfidence rt raw = .error .overflowError ∨ normalizeConfidence rt raw = .ok .nan := by
  rw [FitsConfidence, not_and_or, not_not, not_not] at h
  rw [normalizeConfidence]
  rcases h with hoverflow | hnan
  · rw [hoverflow]
    exact Or.inl rfl
  · rw [hnan]
    exact Or.inr rfl

/-- `AiRecommendation` with a confidence in its bounds is encoded if its texts can be. -/
theorem respond_recommendation (hdoc : rt.Documented) {action reasoning : PyStr} {x : PyFloat}
    (hx : InUnit x) {answer : PyDict} :
    (aiRecommendation rt action x reasoning >>= rt.respond) = .ok answer ↔
      answer = [(PyStr.ofString "action", .str action), (PyStr.ofString "confidence", .float x),
        (PyStr.ofString "reasoning", .str reasoning)] ∧
      action.encodable = true ∧ reasoning.encodable = true := by
  obtain ⟨m, e, rfl⟩ := PyFloat.finite_of_le hx.1 hx.2
  have hfinite : (PyValue.float (.finite m e)).renders rt.levels = true :=
    (float_renders hdoc _).mpr ⟨m, e, rfl⟩
  have haccepted : aiRecommendation rt action (.finite m e) reasoning
      = .ok [(PyStr.ofString "action", .str action),
        (PyStr.ofString "confidence", .float (.finite m e)),
        (PyStr.ofString "reasoning", .str reasoning)] := by
    rw [aiRecommendation, hx.1, hx.2]
    rfl
  rw [bind_of_ok haccepted, respond_ok]
  simp only [List.forall_mem_cons, text_renders hdoc, hfinite, List.not_mem_nil, false_implies,
    implies_true, and_true, true_and]

/-- `nan` is either rejected by the model or by the encoder. -/
theorem respond_nan (hdoc : rt.Documented) {action reasoning : PyStr} {answer : PyDict} :
    (aiRecommendation rt action .nan reasoning >>= rt.respond) ≠ .ok answer := by
  intro h
  obtain ⟨fields, hfields, hrespond⟩ := bind_ok h
  rw [aiRecommendation, if_pos rfl] at hfields
  cases haccepts : rt.acceptsNan with
  | false =>
      rw [haccepts] at hfields
      cases hfields
  | true =>
      rw [haccepts] at hfields
      cases hfields
      have hnan := (respond_ok.mp hrespond).2 (PyStr.ofString "confidence", .float .nan)
        (List.mem_cons_of_mem _ List.mem_cons_self)
      obtain ⟨_, _, hfinite⟩ := (float_renders hdoc _).mp hnan
      cases hfinite

theorem all_dropWhile {α : Type} {p q : α → Bool} (h : ∀ c, p c = true → q c = true)
    (s : List α) : (s.dropWhile p).all q = s.all q := by
  induction s with
  | nil => rfl
  | cons c s ih =>
      rw [List.dropWhile_cons, List.all_cons]
      split
      · rename_i hc
        rw [ih, h c hc, Bool.true_and]
      · rw [List.all_cons]

theorem strip_encodable (hdoc : rt.Documented) (s : PyStr) :
    (rt.strip s).encodable = s.encodable := by
  have hspace (c : Nat) (hc : rt.isSpace c = true) : (!(0xd800 ≤ c && c ≤ 0xdfff)) = true := by
    have hencodable := hdoc.isSpace c hc
    rwa [PyStr.encodable, List.all_cons, List.all_nil, Bool.and_true] at hencodable
  rw [AiRuntime.strip, PyStr.encodable, List.all_reverse, all_dropWhile hspace, List.all_reverse,
    all_dropWhile hspace, PyStr.encodable]

/-- The lookup in the vocabulary: it raises, or the action is as intended. -/
theorem inAllowedActions_cases (a : PyValue) :
    (inAllowedActions a = .error .typeError ∧ ¬ FitsAction rt a) ∨
      ∃ allowed, inAllowedActions a = .ok allowed ∧
        (if allowed then rt.str a else PyStr.ofString "escalate") = vocabularyAction a ∧
        (FitsAction rt a ↔ (rt.str a).encodable = true) := by
  cases a with
  | arr items => exact Or.inl ⟨rfl, id⟩
  | obj d => exact Or.inl ⟨rfl, id⟩
  | str s =>
      refine Or.inr ⟨_, rfl, ?_, Iff.rfl⟩
      rw [vocabularyAction, List.contains_eq_mem]
      rfl
  | _ => exact Or.inr ⟨false, rfl, rfl, Iff.rfl⟩

theorem vocabularyAction_mem (a : PyValue) :
    vocabularyAction a ∈ allowedActions.map PyStr.ofString := by
  have hescalate : PyStr.ofString "escalate" ∈ allowedActions.map PyStr.ofString :=
    List.mem_map_of_mem (by decide)
  cases a with
  | str s =>
      rw [vocabularyAction]
      split
      · rename_i hmem
        exact List.contains_iff_mem.mp hmem
      · exact hescalate
  | _ => exact hescalate

theorem vocabularyAction_encodable (a : PyValue) : (vocabularyAction a).encodable = true := by
  obtain ⟨word, -, hword⟩ := List.mem_map.mp (vocabularyAction_mem a)
  rw [← hword]
  exact PyStr.encodable_ofString word

/-- The reasoning that is stripped, or the text for a reasoning that is not there. -/
theorem given_encodable (hdoc : rt.Documented) (v : PyValue) :
    (if rt.strip (rt.str v) = [] then PyStr.ofString "No reasoning provided by the model."
      else rt.strip (rt.str v)).encodable = (rt.str v).encodable := by
  split
  · rename_i hempty
    rw [PyStr.encodable_ofString, ← strip_encodable hdoc, hempty]
    rfl
  · exact strip_encodable hdoc _

/-- The reasoning of a recommendation: an unsupported action is quoted in it. -/
theorem reasoning_encodable (hdoc : rt.Documented) {a v : PyValue} {allowed : Bool}
    (haction : (if allowed then rt.str a else PyStr.ofString "escalate") = vocabularyAction a) :
    PyStr.encodable
        (if allowed then
          (if rt.strip (rt.str v) = [] then PyStr.ofString "No reasoning provided by the model."
            else rt.strip (rt.str v))
        else PyStr.ofString "Model returned unsupported action '" ++ rt.str a ++
          PyStr.ofString "'; defaulting to escalate. " ++
          (if rt.strip (rt.str v) = [] then PyStr.ofString "No reasoning provided by the model."
            else rt.strip (rt.str v))) = true ↔
      (rt.str a).encodable = true ∧ (rt.str v).encodable = true := by
  cases allowed with
  | true =>
      have hword : (rt.str a).encodable = true := by
        rw [if_pos rfl] at haction
        rw [haction]
        exact vocabularyAction_encodable a
      rw [if_pos rfl, given_encodable hdoc, hword]
      simp only [true_and]
  | false =>
      rw [if_neg Bool.false_ne_true, PyStr.encodable_append, PyStr.encodable_append,
        PyStr.encodable_append, given_encodable hdoc, PyStr.encodable_ofString,
        PyStr.encodable_ofString]
      simp only [true_and, and_true]

theorem parsed_survives_iff (hdoc : rt.Documented) (d : PyDict) :
    (∃ confidence reasoning, InUnit confidence ∧ (recommendParsed rt (.obj d) >>= rt.respond)
      = .ok [(PyStr.ofString "action", .str (vocabularyAction (PyValue.getD d "action" .null))),
          (PyStr.ofString "confidence", .float confidence),
          (PyStr.ofString "reasoning", .str reasoning)]) ↔
      FitsAction rt (PyValue.getD d "action" .null) ∧
        FitsConfidence rt (PyValue.getD d "confidence" (.float (.finite 0 0))) ∧
        (rt.str (PyValue.getD d "reasoning" (textValue ""))).encodable = true := by
  rcases @inAllowedActions_cases rt (PyValue.getD d "action" .null) with
    ⟨herror, hunfit⟩ | ⟨allowed, hallowed, haction, hfits⟩
  · refine iff_of_false ?_ (fun h => hunfit h.1)
    rintro ⟨confidence, reasoning, -, h⟩
    rw [recommendParsed, herror] at h
    cases h
  · rw [recommendParsed, bind_of_ok hallowed, haction, hfits]
    by_cases hconfidence : FitsConfidence rt (PyValue.getD d "confidence" (.float (.finite 0 0)))
    · obtain ⟨x, hx, hunit⟩ := normalizeConfidence_fits hdoc hconfidence
      rw [bind_of_ok hx]
      constructor
      · rintro ⟨_, _, -, h⟩
        obtain ⟨haction', hreasoning⟩ := (reasoning_encodable hdoc haction).mp
          ((respond_recommendation hdoc hunit).mp h).2.2
        exact ⟨haction', hconfidence, hreasoning⟩
      · rintro ⟨haction', -, hreasoning⟩
        exact ⟨x, _, hunit, (respond_recommendation hdoc hunit).mpr
          ⟨rfl, vocabularyAction_encodable _,
            (reasoning_encodable hdoc haction).mpr ⟨haction', hreasoning⟩⟩⟩
    · refine iff_of_false ?_ (fun h => hconfidence h.2.1)
      rintro ⟨confidence, reasoning, -, h⟩
      rcases normalizeConfidence_unfit hconfidence with hraises | hnan
      · rw [hraises] at h
        cases h
      · rw [bind_of_ok hnan] at h
        exact respond_nan hdoc h

theorem recommendation_survives_iff (hdoc : rt.Documented) {response : LlmResponse} :
    (∃ confidence reasoning, InUnit confidence ∧ (recommendAnswer rt response >>= rt.respond)
      = .ok [(PyStr.ofString "action", .str (intendedAction rt response.content)),
          (PyStr.ofString "confidence", .float confidence),
          (PyStr.ofString "reasoning", .str reasoning)]) ↔
      FitsRecommendation rt response.content := by
  rw [recommendAnswer, FitsRecommendation, intendedAction]
  cases hloads : rt.loads (unfenced rt response.content) with
  | ok v =>
      cases v with
      | obj d => exact parsed_survives_iff hdoc d
      | _ =>
          -- a value that is no object counts as one without fields
          refine iff_of_true ((parsed_survives_iff hdoc []).mpr ⟨hdoc.repr _, ⟨?_, ?_⟩, ?_⟩) trivial
          · intro h
            cases h
          · intro h
            cases h
          · exact PyStr.encodable_ofString ""
  | error e =>
      by_cases hdecode : e = .jsonDecodeError
      · subst hdecode
        have hzero : InUnit (floatLiteral 0) := ⟨by decide, by decide⟩
        constructor
        · rintro ⟨_, _, -, h⟩
          have hencodable := ((respond_recommendation hdoc hzero).mp h).2.2
          exact ⟨rfl, ((PyStr.encodable_append _ _).mp hencodable).2⟩
        · rintro ⟨-, hcontent⟩
          exact ⟨floatLiteral 0, _, hzero, (respond_recommendation hdoc hzero).mpr
            ⟨rfl, PyStr.encodable_ofString _,
              (PyStr.encodable_append _ _).mpr ⟨PyStr.encodable_ofString _, hcontent⟩⟩⟩
      · refine iff_of_false ?_ (fun h => hdecode h.1)
        rintro ⟨_, _, -, h⟩
        cases e with
        | jsonDecodeError => exact hdecode rfl
        | valueError => cases h
        | recursionError => cases h

end Recommendation

/-! ## The endpoints -/

/-- What the endpoint makes of the model's answer about these alerts. -/
def AiEndpoint.made (rt : AiRuntime) (alerts : List Uuid) (response : LlmResponse) :
    AiEndpoint → Except AiRaised PyDict
  | .triageAlert _ => triageAnswer rt response
  | .autoResolve _ => autoResolveAnswer rt alerts response
  | .correlateAlerts _ => correlateAnswer rt response
  | .recommendAction _ => recommendAnswer rt response

section Endpoints

variable {rt : AiRuntime} {py : PyText} {app : App} {client : LlmClient} {caller : Analyst}
  {s : Server} {e : AiEndpoint} {alerts : List Uuid} {response : LlmResponse}

theorem inRequest_ok {α : Type} {checked : Except Raised α} {x : α} (h : checked = .ok x) :
    inRequest checked = .ok x := by
  rw [h]
  rfl

theorem AiEndpoint.Asks.answer_eq (hasks : e.Asks py app caller s alerts)
    (hclient : client.complete = .ok response) :
    e.answer rt py app client caller s = e.made rt alerts response := by
  have hcaller : inRequest (requireAnalyst (some caller)) = .ok caller := rfl
  have hconfigured : inRequest (orRaise (some client) aiNotConfigured) = .ok client := rfl
  have hconfiguredShort : inRequest (orRaise (some client) aiNotConfiguredShort) = .ok client := rfl
  have hcomplete : inRequest client.complete = .ok response := inRequest_ok hclient
  cases hasks with
  | triageAlert halert =>
      rw [answer, OpenSoar.triageAlert, bind_of_ok hcaller, bind_of_ok hconfigured,
        inRequest_ok halert]
      exact bind_of_ok hcomplete
  | autoResolve haccess hsome =>
      rw [answer, autoResolve_eq rt py app haccess, if_neg hsome]
      exact bind_of_ok hcomplete
  | correlateAlerts haccess htwo =>
      rw [answer, OpenSoar.correlateAlerts, bind_of_ok hcaller, bind_of_ok hconfiguredShort,
        bind_of_ok (inRequest_ok haccess), if_neg (Nat.not_lt.mpr htwo)]
      exact bind_of_ok hcomplete
  | recommendAction hpermission halert =>
      rw [answer, OpenSoar.recommendAction, bind_of_ok (inRequest_ok hpermission),
        bind_of_ok hconfigured, inRequest_ok halert]
      exact bind_of_ok hcomplete

/-- **Which answers of a model the endpoints survive.**  Whatever text the model returns to an
endpoint that asks it, the response is well formed if and only if the text fits. -/
theorem survives_iff (hdoc : rt.Documented) (hasks : e.Asks py app caller s alerts)
    (hclient : client.complete = .ok response) :
    e.Survives rt response (e.answer rt py app client caller s >>= rt.respond) ↔
      e.Fits rt alerts response := by
  rw [hasks.answer_eq hclient]
  cases e with
  | triageAlert alertId => exact triage_survives_iff hdoc
  | autoResolve alertIds => exact autoResolve_survives_iff hdoc
  | correlateAlerts alertIds => exact correlation_survives_iff hdoc
  | recommendAction alertId => exact recommendation_survives_iff hdoc

end Endpoints

/-! ## ASCII text -/

theorem ascii_documented : AiRuntime.ascii.Documented where
  repr v := by
    cases v with
    | bool b => cases b <;> exact PyStr.encodable_ofString _
    | _ => exact PyStr.encodable_ofString _
  isSpace c hc := by
    by_cases hvalid : c.isValidChar
    · simp only [PyStr.encodable, List.all_cons, List.all_nil, Bool.and_true, Bool.not_eq_true',
        Bool.and_eq_false_iff, decide_eq_false_iff_not]
      rcases hvalid with h | h <;> omega
    · have hnull : Char.ofNat c = Char.ofNat 0 := by
        rw [Char.ofNat, dif_neg hvalid]
        rfl
      change PyText.ascii.isSpace (Char.ofNat c) = true at hc
      rw [hnull] at hc
      exact absurd hc (by decide)
  div x hlow hhigh := by
    obtain ⟨m, e, rfl⟩ := PyFloat.finite_of_le (Bool.and_eq_true_iff.mp hlow).1 hhigh
    intro h
    cases h
  levels := by decide

/-- What `modelSays` returns. -/
def said (content : String) : LlmResponse :=
  ⟨PyStr.ofString content, PyStr.ofString "llama3", []⟩

/-- The endpoint asks a model that answers with this text, and has no well-formed response. -/
def FailsOn (e : AiEndpoint) (content : String) : Prop :=
  (∃ alerts, e.Asks .ascii .core administrator beaconServer alerts) ∧
    ¬ e.Survives .ascii (said content)
      (e.answer .ascii .ascii .core (modelSays content) administrator beaconServer >>=
        AiRuntime.ascii.respond)

/-- The endpoint asks a model that answers with this text, and has a well-formed response. -/
def SurvivesOn (e : AiEndpoint) (content : String) : Prop :=
  (∃ alerts, e.Asks .ascii .core administrator beaconServer alerts) ∧
    e.Survives .ascii (said content)
      (e.answer .ascii .ascii .core (modelSays content) administrator beaconServer >>=
        AiRuntime.ascii.respond)

theorem alertToAsk_beacon (action : String) (badId : Raised) :
    alertToAsk .ascii .core action badId (Uuid.toText 1) administrator beaconServer = .ok () := by
  rw [alertToAsk, ofText_beacon]
  rfl

theorem accessible_twice (action : String) :
    accessibleAlerts .ascii .core action [Uuid.toText 1, Uuid.toText 1] administrator beaconServer
      = .ok [1, 1] := by
  rw [accessibleAlerts, List.foldlM_cons, addAccessible_beacon]
  show ([Uuid.toText 1].foldlM (addAccessible .ascii .core action administrator beaconServer) [1])
    = _
  rw [List.foldlM_cons, addAccessible_beacon]
  rfl

theorem not_survives_error {rt : AiRuntime} {response : LlmResponse} (e : AiEndpoint)
    (raised : AiRaised) : ¬ e.Survives rt response (.error raised) := by
  intro h
  cases e with
  | triageAlert alertId => cases h
  | autoResolve alertIds =>
      obtain ⟨_, h⟩ := h
      cases h
  | correlateAlerts alertIds => cases h
  | recommendAction alertId =>
      obtain ⟨_, _, -, h⟩ := h
      cases h

theorem failsOn {e : AiEndpoint} {alerts : List Uuid} {content : String} {raised : AiRaised}
    (hasks : e.Asks .ascii .core administrator beaconServer alerts)
    (hmade : e.made .ascii alerts (said content) = .error raised) : FailsOn e content := by
  refine ⟨⟨alerts, hasks⟩, ?_⟩
  have hclient : (modelSays content).complete = .ok (said content) := rfl
  rw [hasks.answer_eq hclient, hmade]
  exact not_survives_error e raised

theorem loads_emptyArray : AiRuntime.ascii.loads (PyStr.ofString "[]") = .ok (.arr []) := by
  have hheld : Json.Held .ascii (fun _ => .nan) (.arr []) := trivial
  exact ascii_loads hheld rfl

theorem loads_nullResults :
    AiRuntime.ascii.loads (PyStr.ofString "\x7b\"results\": null\x7d")
      = .ok (.obj [(PyStr.ofString "results", .null)]) := by
  have hheld : Json.Held .ascii (fun _ => .nan) (.obj [("results", .null)]) :=
    ⟨List.nodup_singleton _, trivial, trivial⟩
  exact ascii_loads hheld rfl

theorem loads_listAction :
    AiRuntime.ascii.loads (PyStr.ofString "\x7b\"action\": []\x7d")
      = .ok (.obj [(PyStr.ofString "action", .arr [])]) := by
  have hheld : Json.Held .ascii (fun _ => .nan) (.obj [("action", .arr [])]) :=
    ⟨List.nodup_singleton _, trivial, trivial⟩
  exact ascii_loads hheld rfl

/-- Each endpoint raises on a text that is JSON. -/
theorem answers_not_survived :
    FailsOn (.triageAlert (Uuid.toText 1)) "[]" ∧
      FailsOn (.autoResolve [Uuid.toText 1]) "\x7b\"results\": null\x7d" ∧
      FailsOn (.correlateAlerts [Uuid.toText 1, Uuid.toText 1]) "[]" ∧
      FailsOn (.recommendAction (Uuid.toText 1)) "\x7b\"action\": []\x7d" := by
  refine ⟨?_, ?_, ?_, ?_⟩
  · refine @failsOn _ _ _ .attributeError (.triageAlert (alertToAsk_beacon _ _)) ?_
    show triageAnswer .ascii (said "[]") = _
    rw [triageAnswer, said, loadsOr_ok loads_emptyArray]
    rfl
  · refine @failsOn _ _ _ .typeError
      (.autoResolve (accessible_beacon _ _) (List.cons_ne_nil _ _)) ?_
    show autoResolveAnswer .ascii [1] (said "\x7b\"results\": null\x7d") = _
    rw [autoResolveAnswer, said, loadsOr_ok loads_nullResults]
    rfl
  · refine @failsOn _ _ _ .attributeError (.correlateAlerts (accessible_twice _) (by decide)) ?_
    show correlateAnswer .ascii (said "[]") = _
    rw [correlateAnswer, said, loadsOr_ok loads_emptyArray]
    rfl
  · refine @failsOn _ _ _ .typeError (.recommendAction rfl (alertToAsk_beacon _ _)) ?_
    have hbare : unfenced .ascii (PyStr.ofString "\x7b\"action\": []\x7d")
        = PyStr.ofString "\x7b\"action\": []\x7d" := by
      decide +kernel
    show recommendAnswer .ascii (said "\x7b\"action\": []\x7d") = _
    rw [recommendAnswer, said, hbare, loads_listAction]
    rfl

/-- A triage, a verdict, two related alerts and a recommendation, as the prompts ask for them. -/
def triageText : String :=
  "\x7b\"severity\": \"high\", \"confidence\": 1, \"reasoning\": \"beacon\"\x7d"

def verdictText : String :=
  "\x7b\"results\": [\x7b\"alert_index\": 0, \"should_resolve\": true\x7d]\x7d"

def groupsText : String := "\x7b\"groups\": [[0, 1]]\x7d"

def recommendationText : String :=
  "\x7b\"action\": \"isolate\", \"confidence\": 1, \"reasoning\": \"beacon\"\x7d"

theorem loads_triage :
    AiRuntime.ascii.loads (PyStr.ofString triageText) = .ok (.obj
      [(PyStr.ofString "severity", textValue "high"), (PyStr.ofString "confidence", .int 1),
        (PyStr.ofString "reasoning", textValue "beacon")]) := by
  have hheld : Json.Held .ascii (fun _ => .nan) (.obj [("severity", .str "high"),
      ("confidence", .int 1), ("reasoning", .str "beacon")]) :=
    ⟨by decide, trivial, trivial, trivial, trivial⟩
  exact ascii_loads hheld rfl

theorem loads_verdict :
    AiRuntime.ascii.loads (PyStr.ofString verdictText) = .ok (.obj
      [(PyStr.ofString "results", .arr [.obj
        [(PyStr.ofString "alert_index", .int 0),
          (PyStr.ofString "should_resolve", .bool true)]])]) := by
  have hheld : Json.Held .ascii (fun _ => .nan) (.obj [("results",
      .arr [.obj [("alert_index", .int 0), ("should_resolve", .bool true)]])]) :=
    ⟨List.nodup_singleton _, ⟨⟨by decide, trivial, trivial, trivial⟩, trivial⟩, trivial⟩
  exact ascii_loads hheld rfl

theorem loads_groups :
    AiRuntime.ascii.loads (PyStr.ofString groupsText) = .ok (.obj
      [(PyStr.ofString "groups", .arr [.arr [.int 0, .int 1]])]) := by
  have hheld : Json.Held .ascii (fun _ => .nan) (.obj [("groups",
      .arr [.arr [.int 0, .int 1]])]) :=
    ⟨List.nodup_singleton _, ⟨⟨trivial, trivial, trivial⟩, trivial⟩, trivial⟩
  exact ascii_loads hheld rfl

theorem loads_recommendation :
    AiRuntime.ascii.loads (PyStr.ofString recommendationText) = .ok (.obj
      [(PyStr.ofString "action", textValue "isolate"), (PyStr.ofString "confidence", .int 1),
        (PyStr.ofString "reasoning", textValue "beacon")]) := by
  have hheld : Json.Held .ascii (fun _ => .nan) (.obj [("action", .str "isolate"),
      ("confidence", .int 1), ("reasoning", .str "beacon")]) :=
    ⟨by decide, trivial, trivial, trivial, trivial⟩
  exact ascii_loads hheld rfl

/-- Each endpoint survives an object with the fields that it asks for. -/
theorem answers_survived :
    SurvivesOn (.triageAlert (Uuid.toText 1)) triageText ∧
      SurvivesOn (.autoResolve [Uuid.toText 1]) verdictText ∧
      SurvivesOn (.correlateAlerts [Uuid.toText 1, Uuid.toText 1]) groupsText ∧
      SurvivesOn (.recommendAction (Uuid.toText 1)) recommendationText := by
  have hclient : ∀ content, (modelSays content).complete = .ok (said content) := fun _ => rfl
  have hmodel : ∀ content, (said content).model.encodable = true :=
    fun _ => PyStr.encodable_ofString "llama3"
  refine ⟨⟨⟨[], ?_⟩, ?_⟩, ⟨⟨[1], ?_⟩, ?_⟩, ⟨⟨[1, 1], ?_⟩, ?_⟩, ⟨⟨[], ?_⟩, ?_⟩⟩
  · exact .triageAlert (alertToAsk_beacon _ _)
  · refine (survives_iff ascii_documented (.triageAlert (alertToAsk_beacon _ _))
      (hclient _)).mpr ⟨?_, hmodel _, rfl⟩
    rw [FitsTriage, said, loads_triage]
    refine ⟨by decide +kernel, ?_, ?_, ?_, ?_⟩ <;>
      · intro v hv
        cases hv
        all_goals decide +kernel
  · exact .autoResolve (accessible_beacon _ _) (List.cons_ne_nil _ _)
  · refine (survives_iff ascii_documented
      (.autoResolve (accessible_beacon _ _) (List.cons_ne_nil _ _)) (hclient _)).mpr
        ⟨?_, hmodel _⟩
    rw [FitsAutoResolve, said, loads_verdict]
    show (PyValue.arr _).renders _ = true
    decide +kernel
  · exact .correlateAlerts (accessible_twice _) (by decide)
  · refine (survives_iff ascii_documented (.correlateAlerts (accessible_twice _) (by decide))
      (hclient _)).mpr ⟨?_, hmodel _⟩
    rw [FitsCorrelation, said, loads_groups]
    refine ⟨rfl, ?_⟩
    intro v hv
    cases hv
    decide +kernel
  · exact .recommendAction rfl (alertToAsk_beacon _ _)
  · refine (survives_iff ascii_documented (.recommendAction rfl (alertToAsk_beacon _ _))
      (hclient _)).mpr ?_
    have hbare : unfenced .ascii (PyStr.ofString recommendationText) =
        PyStr.ofString recommendationText := by
      decide +kernel
    show FitsRecommendation .ascii (PyStr.ofString recommendationText)
    rw [FitsRecommendation, hbare, loads_recommendation]
    refine ⟨PyStr.encodable_ofString "isolate", ⟨?_, ?_⟩, PyStr.encodable_ofString "beacon"⟩ <;>
      · intro h
        cases h

end OpenSoar
