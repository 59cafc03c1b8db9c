/-
# `OpenSoar.Worker.Isolation` — what an exception of a connector stops

`_lookup_with_instance` has a handler for each call of a connector, `_run_enrichment` one for the
whole dispatch, and `enrich_observable_task` a last one that catches everything and writes
nothing.  Each lists classes.  An exception that leaves the first ones ends the loop over the
integrations, and one that also leaves the second leaves the observable as it was, so failures are
isolated exactly where none leaves the first, or only that of the last integration does, after
which there is nothing to store (`failuresIsolated_iff`).

Here an exception is any; `Worker.Credentials` has the classes that the connectors raise, and
`dispatchFrom_calls` says that its dispatch is this one.
-/
import OpenSoar.Api.Enrichments
import OpenSoar.Core.Imports
import OpenSoar.Worker.Credentials

namespace OpenSoar

open Python

/-- `isinstance(e, classes)`. -/
def PyException.isInstance (e : PyException) (classes : List String) : Bool :=
  e.classes.any (fun c => classes.contains c)

/-! ## The handlers -/

/-- The classes caught around the constructor. -/
def configErrors : List String := ["ValueError", "TypeError", "KeyError", "AttributeError"]

/-- The classes caught around `connect`. -/
def connectErrors : List String := ["OSError", "ValueError", "RuntimeError", "TimeoutError"]

/-- The classes caught around the lookup. -/
def lookupErrors : List String :=
  ["OSError", "ValueError", "RuntimeError", "TimeoutError", "JSONDecodeError"]

/-- The classes caught around `disconnect`. -/
def disconnectErrors : List String := ["OSError", "RuntimeError"]

/-- The classes caught around the dispatch. -/
def dispatchErrors : List String :=
  ["SQLAlchemyError", "OSError", "RuntimeError", "ValueError", "TimeoutError"]

/-! ## The task -/

/-- What the calls of a connector come to; there is no lookup where the connector has no method
for the type of the observable. -/
structure ConnectorRun where
  construct : Except PyException Unit
  connect : Except PyException Unit
  lookup : Option (Except PyException Json)
  disconnect : Except PyException Unit

/-- The body of the lookup's `try` with its handler. -/
def ConnectorRun.tried (run : ConnectorRun) (integration : IntegrationInstance) :
    Except PyException (Option Json) :=
  match run.lookup with
  | none => .ok none
  | some (.ok data) =>
      .ok (if data.isNull then none else some (enrichmentEntry integration data))
  | some (.error e) => if e.isInstance lookupErrors then .ok none else .error e

/-- `_lookup_with_instance`. -/
def lookupWith (integration : IntegrationInstance) (run : ConnectorRun) :
    Except PyException (Option Json) :=
  match run.construct with
  | .error e => if e.isInstance configErrors then .ok none else .error e
  | .ok _ =>
      match run.connect with
      | .error e => if e.isInstance connectErrors then .ok none else .error e
      | .ok _ =>
          match run.disconnect with
          | .ok _ => run.tried integration
          | .error e => if e.isInstance disconnectErrors then run.tried integration else .error e

/-- An integration, and what its connector does. -/
abbrev ConnectorCall := IntegrationInstance × ConnectorRun

/-- The loop of `_dispatch_enrichments`: the entries, and the integrations that were tried. -/
def dispatchCalls : List ConnectorCall →
    Except PyException (List Json) × List IntegrationInstance
  | [] => (.ok [], [])
  | (integration, run) :: rest =>
      match getConnector integration.integrationType.val with
      | none => dispatchCalls rest
      | some _ =>
          match lookupWith integration run with
          | .error e => (.error e, [integration])
          | .ok entry =>
              match dispatchCalls rest with
              | (.error e, tried) => (.error e, integration :: tried)
              | (.ok entries, tried) => (.ok (entry.toList ++ entries), integration :: tried)

/-- The query over a table of integrations, with what their connectors do. -/
def enrichmentCalls (alerts : Table Alert.id) (rows : List ConnectorCall) (obs : Observable) :
    List ConnectorCall :=
  let query := rows.filter (fun call => decide (Enriches call.1))
  match partnerOf alerts obs with
  | some partner => query.filter (fun call => servesPartner partner call.1)
  | none => query

/-- The row that `_run_enrichment` leaves; an exception that it lets through is swallowed by the
task. -/
def enrichedRow (obs : Observable) : Except PyException (List Json) → Observable
  | .ok newEntries =>
      { obs with
        enrichments := some (obs.entries ++ newEntries)
        enrichmentStatus := .lit "complete" }
  | .error e =>
      if e.isInstance dispatchErrors then
        { obs with enrichmentStatus := .lit "failed" }
      else obs

/-- What a task leaves behind. -/
structure TaskEnd where
  tried : List IntegrationInstance
  row : Observable

/-- `enrich_observable_task`. -/
def enrichObservableTask (alerts : Table Alert.id) (rows : List ConnectorCall)
    (obs : Observable) : TaskEnd :=
  let (answer, tried) := dispatchCalls (enrichmentCalls alerts rows obs)
  ⟨tried, enrichedRow obs answer⟩

/-! ## What is to hold, and when -/

/-- The entry of an integration, where it has one. -/
def entryOf (call : ConnectorCall) : Option Json := (lookupWith call.1 call.2).toOption.join

/-- Every integration is tried, their entries are stored, and the observable is not left
pending. -/
structure FailuresIsolated (alerts : Table Alert.id) (rows : List ConnectorCall)
    (obs : Observable) : Prop where
  tried : (enrichObservableTask alerts rows obs).tried =
    (enrichmentCalls alerts rows obs).map Prod.fst
  stored : (enrichObservableTask alerts rows obs).row.entries =
    obs.entries ++ (enrichmentCalls alerts rows obs).filterMap entryOf
  settled : (enrichObservableTask alerts rows obs).row.enrichmentStatus.val ∈
    ["complete", "failed"]

/-- Closing the connector raises nothing, or what is passed over. -/
def ConnectorRun.Closes (run : ConnectorRun) : Prop :=
  ∀ e, run.disconnect = .error e → e.isInstance disconnectErrors = true

/-- An exception that no handler of its call lists. -/
inductive ConnectorRun.Escapes (run : ConnectorRun) : PyException → Prop
  | construct {e : PyException} : run.construct = .error e → e.isInstance configErrors = false →
      run.Escapes e
  | connect {e : PyException} : run.construct = .ok () → run.connect = .error e →
      e.isInstance connectErrors = false → run.Escapes e
  | lookup {e : PyException} : run.construct = .ok () → run.connect = .ok () →
      run.lookup = some (.error e) → e.isInstance lookupErrors = false → run.Closes →
      run.Escapes e
  | disconnect {e : PyException} : run.construct = .ok () → run.connect = .ok () →
      run.disconnect = .error e → e.isInstance disconnectErrors = false → run.Escapes e

/-- The connector answers. -/
structure ConnectorRun.Answers (run : ConnectorRun) (data : Json) : Prop where
  construct : run.construct = .ok ()
  connect : run.connect = .ok ()
  lookup : run.lookup = some (.ok data)
  data : data.isNull = false
  closes : run.Closes

/-- The connectors up to here raise nothing that escapes, and have no answer. -/
def AllSilent (calls : List ConnectorCall) : Prop :=
  ∀ call ∈ calls, (∀ e, ¬ call.2.Escapes e) ∧ ∀ data, ¬ call.2.Answers data

/-- No exception escapes, or that of the last connector does, the others being silent, and it is
one that the dispatch expects or the observable was not pending. -/
def FailuresContained (alerts : Table Alert.id) (rows : List ConnectorCall) (obs : Observable) :
    Prop :=
  (∀ call ∈ enrichmentCalls alerts rows obs, ∀ e, ¬ call.2.Escapes e) ∨
  ∃ before last e, enrichmentCalls alerts rows obs = before ++ [last] ∧ AllSilent before ∧
    last.2.Escapes e ∧ (e.isInstance dispatchErrors = true ∨
      obs.enrichmentStatus.val ∈ ["complete", "failed"])

/-! ## One integration -/

section Lookup

variable {integration : IntegrationInstance} {run : ConnectorRun} {e : PyException}

theorem tried_error : run.tried integration = .error e ↔
    run.lookup = some (.error e) ∧ e.isInstance lookupErrors = false := by
  unfold ConnectorRun.tried
  split
  · rename_i hlookup
    rw [hlookup]
    exact iff_of_false (by rintro ⟨⟩) (by rintro ⟨h, -⟩; cases h)
  · rename_i data hlookup
    rw [hlookup]
    exact iff_of_false (by rintro ⟨⟩) (by rintro ⟨h, -⟩; cases h)
  · rename_i e' hlookup
    rw [hlookup]
    split_ifs with hcaught
    · refine iff_of_false (by rintro ⟨⟩) ?_
      rintro ⟨h, hescapes⟩
      cases h
      exact Bool.eq_false_iff.mp hescapes hcaught
    · constructor
      · rintro ⟨⟩
        exact ⟨rfl, Bool.eq_false_iff.mpr hcaught⟩
      · rintro ⟨h, -⟩
        cases h
        rfl

theorem tried_entry {entry : Json} : run.tried integration = .ok (some entry) ↔
    ∃ data, run.lookup = some (.ok data) ∧ data.isNull = false ∧
      entry = enrichmentEntry integration data := by
  unfold ConnectorRun.tried
  split
  · rename_i hlookup
    rw [hlookup]
    exact iff_of_false (by rintro ⟨⟩) (by rintro ⟨data, h, -⟩; cases h)
  · rename_i data hlookup
    rw [hlookup]
    split_ifs with hnull
    · refine iff_of_false (by rintro ⟨⟩) ?_
      rintro ⟨data, h, hdata, -⟩
      cases h
      exact Bool.eq_false_iff.mp hdata hnull
    · constructor
      · rintro ⟨⟩
        exact ⟨data, rfl, Bool.eq_false_iff.mpr hnull, rfl⟩
      · rintro ⟨data, h, -, rfl⟩
        cases h
        rfl
  · rename_i e' hlookup
    rw [hlookup]
    refine iff_of_false ?_ (by rintro ⟨data, h, -⟩; cases h)
    split_ifs <;> rintro ⟨⟩

/-- A connector that is built and connected: what its lookup and its end come to. -/
theorem lookupWith_connected (hconstruct : run.construct = .ok ())
    (hconnect : run.connect = .ok ()) :
    (run.Closes → lookupWith integration run = run.tried integration) ∧
    ∀ e, run.disconnect = .error e → e.isInstance disconnectErrors = false →
      lookupWith integration run = .error e := by
  unfold lookupWith
  rw [hconstruct, hconnect]
  dsimp only
  constructor
  · intro hcloses
    split
    · rfl
    · rename_i e hdisconnect
      exact if_pos (hcloses e hdisconnect)
  · intro e hdisconnect hescapes
    rw [hdisconnect]
    exact if_neg (Bool.eq_false_iff.mp hescapes)

/-- Either closing raises nothing that matters, or what it raises escapes. -/
theorem closes_or (run : ConnectorRun) : run.Closes ∨
    ∃ e, run.disconnect = .error e ∧ e.isInstance disconnectErrors = false := by
  by_cases hcloses : run.Closes
  · exact Or.inl hcloses
  · unfold ConnectorRun.Closes at hcloses
    push Not at hcloses
    obtain ⟨e, hdisconnect, hescapes⟩ := hcloses
    exact Or.inr ⟨e, hdisconnect, Bool.eq_false_iff.mpr hescapes⟩

/-- The exceptions of a lookup are those that escape. -/
theorem lookupWith_error : lookupWith integration run = .error e ↔ run.Escapes e := by
  constructor
  · intro h
    cases hconstruct : run.construct with
    | error e' =>
        rw [lookupWith, hconstruct] at h
        dsimp only at h
        split_ifs at h with hcaught
        cases h
        exact .construct hconstruct (Bool.eq_false_iff.mpr hcaught)
    | ok _ =>
        cases hconnect : run.connect with
        | error e' =>
            rw [lookupWith, hconstruct, hconnect] at h
            dsimp only at h
            split_ifs at h with hcaught
            cases h
            exact .connect hconstruct hconnect (Bool.eq_false_iff.mpr hcaught)
        | ok _ =>
            have hconnected := @lookupWith_connected integration run hconstruct hconnect
            rcases closes_or run with hcloses | ⟨e', hdisconnect, hescapes⟩
            · rw [hconnected.1 hcloses, tried_error] at h
              exact .lookup hconstruct hconnect h.1 h.2 hcloses
            · rw [hconnected.2 e' hdisconnect hescapes] at h
              cases h
              exact .disconnect hconstruct hconnect hdisconnect hescapes
  · intro h
    cases h with
    | construct hconstruct hescapes =>
        rw [lookupWith, hconstruct]
        exact if_neg (Bool.eq_false_iff.mp hescapes)
    | connect hconstruct hconnect hescapes =>
        rw [lookupWith, hconstruct, hconnect]
        exact if_neg (Bool.eq_false_iff.mp hescapes)
    | lookup hconstruct hconnect hlookup hescapes hcloses =>
        rw [(lookupWith_connected hconstruct hconnect).1 hcloses]
        exact tried_error.mpr ⟨hlookup, hescapes⟩
    | disconnect hconstruct hconnect hdisconnect hescapes =>
        exact (lookupWith_connected hconstruct hconnect).2 e hdisconnect hescapes

/-- The entries of a lookup are the answers. -/
theorem lookupWith_entry {entry : Json} : lookupWith integration run = .ok (some entry) ↔
    ∃ data, run.Answers data ∧ entry = enrichmentEntry integration data := by
  constructor
  · intro h
    cases hconstruct : run.construct with
    | error e' =>
        rw [lookupWith, hconstruct] at h
        dsimp only at h
        split_ifs at h
        cases h
    | ok _ =>
        cases hconnect : run.connect with
        | error e' =>
            rw [lookupWith, hconstruct, hconnect] at h
            dsimp only at h
            split_ifs at h
            cases h
        | ok _ =>
            have hconnected := @lookupWith_connected integration run hconstruct hconnect
            rcases closes_or run with hcloses | ⟨e', hdisconnect, hescapes⟩
            · rw [hconnected.1 hcloses, tried_entry] at h
              obtain ⟨data, hlookup, hdata, rfl⟩ := h
              exact ⟨data, ⟨hconstruct, hconnect, hlookup, hdata, hcloses⟩, rfl⟩
            · rw [hconnected.2 e' hdisconnect hescapes] at h
              cases h
  · rintro ⟨data, hanswers, rfl⟩
    rw [(lookupWith_connected hanswers.construct hanswers.connect).1 hanswers.closes]
    exact tried_entry.mpr ⟨data, hanswers.lookup, hanswers.data, rfl⟩

end Lookup

theorem entryOf_eq_none {call : ConnectorCall} :
    entryOf call = none ↔ ∀ data, ¬ call.2.Answers data := by
  rw [Option.eq_none_iff_forall_ne_some]
  have hsome : ∀ entry, entryOf call = some entry ↔
      lookupWith call.1 call.2 = .ok (some entry) := by
    intro entry
    unfold entryOf
    cases lookupWith call.1 call.2 with
    | error e => exact iff_of_false (by rintro ⟨⟩) (by rintro ⟨⟩)
    | ok found => exact ⟨fun h => congrArg Except.ok h, fun h => Except.ok.inj h⟩
  constructor
  · intro h data hanswers
    exact h _ ((hsome _).mpr (lookupWith_entry.mpr ⟨data, hanswers, rfl⟩))
  · intro h entry hentry
    obtain ⟨data, hanswers, -⟩ := lookupWith_entry.mp ((hsome entry).mp hentry)
    exact h data hanswers

/-! ## The dispatch -/

section Dispatch

variable {calls : List ConnectorCall}

/-- The loader knows the connectors that the query asks for. -/
theorem getConnector_of_enriches {integration : IntegrationInstance} (h : Enriches integration) :
    ∃ cls, getConnector integration.integrationType.val = some cls := by
  have htype := h.2
  simp only [List.mem_cons, List.not_mem_nil, or_false] at htype
  rcases htype with htype | htype
  · exact ⟨.virusTotal, by rw [htype]; rfl⟩
  · exact ⟨.abuseIpDb, by rw [htype]; rfl⟩

theorem enriches_of_call {alerts : Table Alert.id} {rows : List ConnectorCall} {obs : Observable}
    {call : ConnectorCall} (h : call ∈ enrichmentCalls alerts rows obs) : Enriches call.1 := by
  unfold enrichmentCalls at h
  split at h
  · exact of_decide_eq_true (List.mem_filter.mp (List.mem_filter.mp h).1).2
  · exact of_decide_eq_true (List.mem_filter.mp h).2

/-- The query is that of `enrichmentInstances`. -/
theorem enrichmentCalls_map (alerts : Table Alert.id) (rows : List ConnectorCall)
    (obs : Observable) : (enrichmentCalls alerts rows obs).map Prod.fst =
      enrichmentInstances alerts (rows.map Prod.fst) obs := by
  unfold enrichmentCalls enrichmentInstances
  dsimp only
  cases partnerOf alerts obs with
  | some partner =>
      dsimp only
      rw [List.filter_map, List.filter_map]
      rfl
  | none =>
      dsimp only
      rw [List.filter_map]
      rfl

/-- Where nothing escapes, every connector is tried and every entry is there. -/
theorem dispatchCalls_of_contained (hknown : ∀ call ∈ calls, Enriches call.1)
    (h : ∀ call ∈ calls, ∀ e, ¬ call.2.Escapes e) :
    dispatchCalls calls = (.ok (calls.filterMap entryOf), calls.map Prod.fst) := by
  induction calls with
  | nil => rfl
  | cons call rest ih =>
      obtain ⟨hcall, hrest⟩ := List.forall_mem_cons.mp h
      obtain ⟨htype, hothers⟩ := List.forall_mem_cons.mp hknown
      obtain ⟨cls, hcls⟩ := getConnector_of_enriches htype
      obtain ⟨integration, run⟩ := call
      cases hlookup : lookupWith integration run with
      | error e => exact absurd (lookupWith_error.mp hlookup) (hcall e)
      | ok entry =>
          have hentry : entryOf (integration, run) = entry := by
            rw [entryOf, hlookup]
            rfl
          rw [dispatchCalls, hcls, hlookup, ih hothers hrest, List.filterMap_cons, hentry]
          cases entry <;> rfl

/-- The first exception that escapes ends the dispatch. -/
theorem dispatchCalls_of_escape {before after : List ConnectorCall} {call : ConnectorCall}
    {e : PyException} (hknown : ∀ c ∈ before ++ call :: after, Enriches c.1)
    (hbefore : ∀ c ∈ before, ∀ e, ¬ c.2.Escapes e) (he : call.2.Escapes e) :
    dispatchCalls (before ++ call :: after) = (.error e, before.map Prod.fst ++ [call.1]) := by
  induction before with
  | nil =>
      obtain ⟨cls, hcls⟩ := getConnector_of_enriches (hknown call List.mem_cons_self)
      obtain ⟨integration, run⟩ := call
      rw [List.nil_append, dispatchCalls, hcls, lookupWith_error.mpr he]
      rfl
  | cons first before ih =>
      obtain ⟨hfirst, hrest⟩ := List.forall_mem_cons.mp hbefore
      obtain ⟨htype, hothers⟩ := List.forall_mem_cons.mp hknown
      obtain ⟨cls, hcls⟩ := getConnector_of_enriches htype
      obtain ⟨integration, run⟩ := first
      cases hlookup : lookupWith integration run with
      | error e => exact absurd (lookupWith_error.mp hlookup) (hfirst e)
      | ok entry =>
          rw [List.cons_append, dispatchCalls, hcls, hlookup, ih hothers hrest]
          rfl

/-- Nothing escapes, or there is a first connector from which something does. -/
theorem first_escape (calls : List ConnectorCall) : (∀ call ∈ calls, ∀ e, ¬ call.2.Escapes e) ∨
    ∃ before call after e, calls = before ++ call :: after ∧
      (∀ c ∈ before, ∀ e, ¬ c.2.Escapes e) ∧ call.2.Escapes e := by
  induction calls with
  | nil => exact Or.inl (fun call hmem => absurd hmem List.not_mem_nil)
  | cons call rest ih =>
      by_cases hcall : ∃ e, call.2.Escapes e
      · obtain ⟨e, he⟩ := hcall
        exact Or.inr ⟨[], call, rest, e, rfl, fun c hc => absurd hc List.not_mem_nil, he⟩
      · rw [not_exists] at hcall
        rcases ih with hnone | ⟨before, first, after, e, rfl, hbefore, he⟩
        · exact Or.inl (List.forall_mem_cons.mpr ⟨hcall, hnone⟩)
        · exact Or.inr ⟨call :: before, first, after, e, rfl,
            List.forall_mem_cons.mpr ⟨hcall, hbefore⟩, he⟩

end Dispatch

/-! ## Isolation -/

section Isolation

variable {alerts : Table Alert.id} {rows : List ConnectorCall} {obs : Observable}

theorem entries_failed (e : PyException) : (enrichedRow obs (.error e)).entries = obs.entries := by
  rw [enrichedRow]
  split_ifs <;> rfl

theorem settled_failed {e : PyException} :
    (enrichedRow obs (.error e)).enrichmentStatus.val ∈ ["complete", "failed"] ↔
      e.isInstance dispatchErrors = true ∨ obs.enrichmentStatus.val ∈ ["complete", "failed"] := by
  rw [enrichedRow]
  split_ifs with hcaught
  · exact iff_of_true (List.mem_cons_of_mem _ List.mem_cons_self) (Or.inl hcaught)
  · exact (or_iff_right hcaught).symm

theorem enrichObservableTask_eq {answer : Except PyException (List Json)}
    {tried : List IntegrationInstance}
    (h : dispatchCalls (enrichmentCalls alerts rows obs) = (answer, tried)) :
    enrichObservableTask alerts rows obs = ⟨tried, enrichedRow obs answer⟩ := by
  rw [enrichObservableTask, h]

theorem filterMap_entryOf_nil {calls : List ConnectorCall} :
    calls.filterMap entryOf = [] ↔ ∀ call ∈ calls, ∀ data, ¬ call.2.Answers data := by
  rw [List.filterMap_eq_nil_iff]
  exact forall₂_congr (fun call _ => entryOf_eq_none)

/-- A connector whose exception escapes has no entry. -/
theorem entryOf_of_escapes {call : ConnectorCall} {e : PyException} (h : call.2.Escapes e) :
    entryOf call = none := by
  rw [entryOf, lookupWith_error.mpr h]
  rfl

/-- **Failures are isolated exactly where they are contained.** -/
theorem failuresIsolated_iff (alerts : Table Alert.id) (rows : List ConnectorCall)
    (obs : Observable) :
    FailuresIsolated alerts rows obs ↔ FailuresContained alerts rows obs := by
  have hknown : ∀ call ∈ enrichmentCalls alerts rows obs, Enriches call.1 :=
    fun call => enriches_of_call
  constructor
  · rintro ⟨htried, hstored, hsettled⟩
    rcases first_escape (enrichmentCalls alerts rows obs) with
      hnone | ⟨before, call, after, e, hcalls, hbefore, he⟩
    · exact Or.inl hnone
    · have hdispatch := dispatchCalls_of_escape (hcalls ▸ hknown) hbefore he
      rw [← hcalls] at hdispatch
      rw [enrichObservableTask_eq hdispatch] at htried hstored hsettled
      -- all have been tried, so it is the last
      have hafter : after = [] := by
        rw [hcalls, List.map_append, List.map_cons] at htried
        have hlength := congrArg List.length htried
        simp only [List.length_append, List.length_cons, List.length_nil, List.length_map]
          at hlength
        exact List.eq_nil_of_length_eq_zero (by omega)
      subst hafter
      rw [entries_failed, hcalls] at hstored
      have hnone := filterMap_entryOf_nil.mp (List.self_eq_append_right.mp hstored)
      refine Or.inr ⟨before, call, e, hcalls, ?_, he, settled_failed.mp hsettled⟩
      exact fun c hc => ⟨hbefore c hc, hnone c (List.mem_append_left _ hc)⟩
  · rintro (hnone | ⟨before, last, e, hcalls, hsilent, he, hsettles⟩)
    · have hdispatch := dispatchCalls_of_contained hknown hnone
      constructor <;> rw [enrichObservableTask_eq hdispatch]
      · rfl
      · exact List.mem_cons_self
    · have hdispatch := dispatchCalls_of_escape (hcalls ▸ hknown) (fun c hc => (hsilent c hc).1) he
      rw [← hcalls] at hdispatch
      have hentries : (enrichmentCalls alerts rows obs).filterMap entryOf = [] := by
        rw [hcalls, List.filterMap_append, filterMap_entryOf_nil.mpr (fun c hc => (hsilent c hc).2),
          List.filterMap_cons, entryOf_of_escapes he]
        rfl
      constructor <;> rw [enrichObservableTask_eq hdispatch]
      · rw [hcalls, List.map_append]
        rfl
      · rw [hentries, List.append_nil]
        exact entries_failed e
      · exact settled_failed.mpr hsettles

end Isolation

/-! ## An answer that is not JSON -/

def sharedAbuseIpDb : IntegrationInstance :=
  ⟨2, .lit "abuseipdb", none, [("api_key", .str "key")], true⟩

/-- `resp.json()` of a page of HTML. -/
def notJson : ConnectorRun where
  construct := .ok ()
  connect := .ok ()
  lookup := some (.error ⟨["ContentTypeError", "ClientResponseError", "ClientError", "Exception"]⟩)
  disconnect := .ok ()

def knownAddress : ConnectorRun where
  construct := .ok ()
  connect := .ok ()
  lookup := some (.ok (.obj [("abuseConfidenceScore", .int 90)]))
  disconnect := .ok ()

/-- The second integration is not asked, and the observable stays pending. -/
theorem html_answer_ends_the_dispatch :
    ¬ ∀ (alerts : Table Alert.id) (rows : List ConnectorCall) (obs : Observable),
      FailuresIsolated alerts rows obs := by
  intro h
  have hsettled := (h .empty [(acmeVirusTotal, notJson), (sharedAbuseIpDb, knownAddress)]
    unattached).settled
  exact absurd hsettled (by decide)

/-! ## The connectors of the repository -/

/-- An exception of the class. -/
def ConnectorError.exception : ConnectorError → PyException
  | .osError => ⟨["OSError", "Exception"]⟩
  | .valueError => ⟨["ValueError", "Exception"]⟩
  | .typeError => ⟨["TypeError", "Exception"]⟩
  | .keyError => ⟨["KeyError", "LookupError", "Exception"]⟩
  | .attributeError => ⟨["AttributeError", "Exception"]⟩
  | .runtimeError => ⟨["RuntimeError", "Exception"]⟩
  | .other => ⟨["Exception"]⟩

/-- The handlers agree. -/
theorem exception_isInstance (e : ConnectorError) :
    e.exception.isInstance configErrors = e.skipsConfig ∧
    e.exception.isInstance connectErrors = e.skipsLookup ∧
    e.exception.isInstance lookupErrors = e.skipsLookup ∧
    e.exception.isInstance disconnectErrors = e.skipsDisconnect ∧
    e.exception.isInstance dispatchErrors = e.failsRun := by
  cases e <;> decide

section Connectors

variable (env : ConnectorEnv) (obs : Observable)

/-- What a connector of the repository does when its turn comes. -/
def runOf (cls : ConnectorClass) (integration : IntegrationInstance) (o : Outside) :
    ConnectorRun where
  construct := (validateConfig integration.config).mapError ConnectorError.exception
  connect := (env.connect integration).mapError ConnectorError.exception
  lookup := (invokeLookup cls obs.type.val obs.value.val).map (fun lookup =>
    (lookup.outcome env integration o).result.mapError ConnectorError.exception)
  disconnect := (env.disconnect integration).mapError ConnectorError.exception

/-- The calls of a dispatch; an integration without a connector has none. -/
def callsFrom : List IntegrationInstance → Outside → List ConnectorCall
  | [], _ => []
  | integration :: rest, o =>
      match getConnector integration.integrationType.val with
      | none => callsFrom rest o
      | some cls => (integration, runOf env obs cls integration o) ::
          callsFrom rest (enrichmentTurn env obs integration o).2

variable {env obs} {integration : IntegrationInstance} {o : Outside}

theorem tryLookup_run {cls : ConnectorClass} :
    (tryLookup env cls integration obs o).1.mapError ConnectorError.exception =
      (runOf env obs cls integration o).tried integration := by
  unfold tryLookup ConnectorRun.tried runOf
  cases invokeLookup cls obs.type.val obs.value.val with
  | none => rfl
  | some lookup =>
      rw [Option.map_some]
      dsimp only
      cases hresult : (lookup.outcome env integration o).result with
      | ok data => rfl
      | error e =>
          dsimp only [Except.mapError]
          rw [(exception_isInstance e).2.2.1]
          split_ifs <;> rfl

theorem lookupWithInstance_run {cls : ConnectorClass} :
    (lookupWithInstance env cls integration obs o).1.mapError ConnectorError.exception =
      lookupWith integration (runOf env obs cls integration o) := by
  have htried := @tryLookup_run env obs integration o cls
  have hrun : (runOf env obs cls integration o).construct =
        (validateConfig integration.config).mapError ConnectorError.exception ∧
      (runOf env obs cls integration o).connect =
        (env.connect integration).mapError ConnectorError.exception ∧
      (runOf env obs cls integration o).disconnect =
        (env.disconnect integration).mapError ConnectorError.exception := ⟨rfl, rfl, rfl⟩
  unfold lookupWithInstance lookupWith
  rw [hrun.1, hrun.2.1, hrun.2.2]
  cases validateConfig integration.config with
  | error e =>
      dsimp only [Except.mapError]
      rw [(exception_isInstance e).1]
      split_ifs <;> rfl
  | ok _ =>
      cases env.connect integration with
      | error e =>
          dsimp only [Except.mapError]
          rw [(exception_isInstance e).2.1]
          split_ifs <;> rfl
      | ok _ =>
          cases env.disconnect integration with
          | ok _ => exact htried
          | error e =>
              dsimp only [Except.mapError, closing]
              rw [(exception_isInstance e).2.2.2.1]
              split_ifs
              · exact htried
              · rfl

/-- **The dispatch of the repository's connectors is this one.** -/
theorem dispatchFrom_calls (integrations : List IntegrationInstance) (o : Outside) :
    (dispatchFrom env obs integrations o).1.mapError ConnectorError.exception =
      (dispatchCalls (callsFrom env obs integrations o)).1 := by
  induction integrations generalizing o with
  | nil => rfl
  | cons integration rest ih =>
      unfold dispatchFrom callsFrom
      cases hcls : getConnector integration.integrationType.val with
      | none =>
          have hturn : enrichmentTurn env obs integration o = (.ok none, o) := by
            rw [enrichmentTurn, hcls]
          rw [hturn]
          dsimp only
          rw [← ih o]
          rcases dispatchFrom env obs rest o with ⟨e | entries, o'⟩ <;> rfl
      | some cls =>
          have hturn : enrichmentTurn env obs integration o =
              lookupWithInstance env cls integration obs o := by
            rw [enrichmentTurn, hcls]
          have hlookup := @lookupWithInstance_run env obs integration o cls
          dsimp only
          rw [dispatchCalls, hcls, ← hlookup, hturn]
          rcases hend : lookupWithInstance env cls integration obs o with ⟨e | entry, o'⟩
          · rfl
          · dsimp only [Except.mapError]
            have hrest := ih o'
            rcases hcalls : dispatchCalls (callsFrom env obs rest o') with ⟨answer, tried⟩
            rw [hcalls] at hrest
            rcases hdispatch : dispatchFrom env obs rest o' with ⟨e | entries, o''⟩
            · rw [hdispatch] at hrest
              cases hrest
              rfl
            · rw [hdispatch] at hrest
              cases hrest
              rfl

end Connectors

/-- The row that is left is the one that the session of the task writes. -/
theorem enrichedRow_run (obs : Observable) (answer : Except ConnectorError (List Json)) :
    enrichedRow obs (answer.mapError ConnectorError.exception) =
      match runEnrichment answer obs with
      | .ok write => write.apply obs
      | .error _ => obs := by
  have hstatus : ∀ status, (obs.restates status).getD obs.enrichmentStatus = status := by
    intro status
    unfold Observable.restates
    split_ifs with hsame
    · exact hsame
    · rfl
  cases answer with
  | ok newEntries =>
      have hentries : (obs.rewrites (obs.entries ++ newEntries)).elim obs.enrichments some =
          some (obs.entries ++ newEntries) := by
        rcases rewrites_cases obs (obs.entries ++ newEntries) with hwritten | ⟨hnone, hold, hsame⟩
        · rw [hwritten]
          rfl
        · rw [List.length_append, Nat.add_eq_left, List.length_eq_zero_iff] at hsame
          rw [hnone, hsame, List.append_nil]
          exact hold
      dsimp only [runEnrichment, EnrichmentWrite.apply]
      rw [hentries, hstatus]
      rfl
  | error e =>
      dsimp only [runEnrichment, Except.mapError, enrichedRow]
      rw [(exception_isInstance e).2.2.2.2]
      split_ifs
      · dsimp only [EnrichmentWrite.apply]
        rw [hstatus]
        rfl
      · rfl

end OpenSoar
