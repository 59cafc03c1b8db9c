/-
# `OpenSoar.Ai.Coherence` — where the vectors of a comparison come from

The cache keeps the embedding of an alert under the id of the alert alone, so a request may compare
vectors of another model, or of a text that the alert no longer has.  A run of the system is any
sequence of requests, updates of alerts and changes of the settings.

`vectors_produced` says what holds in every run: each vector is what a provider has computed for
that alert, with the client configured and from the text current at the time of the call, in this
request or in an earlier one whose entry has not expired.  Where neither has changed since, the
vector is `Coherent`.
-/
import OpenSoar.Ai.TopCandidates
import OpenSoar.Lib.Run

namespace OpenSoar

open Python TtlMap

/-! ## The system -/

/-- Answers whose floats are read back from their texts. -/
structure HeldAnswers (json : JsonModule) where
  answer : Uuid → EmbeddingAnswer PyFloat
  held : ∀ alertId response, (answer alertId).result = .ok response →
    ∀ x ∈ response.vector, Json.ReadsBack json.text json.readFloat x

/-- The server, its settings and the cached embeddings. -/
structure DedupSystem where
  server : Server
  settings : EmbeddingSettings PyFloat
  embeddings : EmbeddingState PyFloat

inductive DedupOp (json : JsonModule) where
  | deduplicate (answers : HeldAnswers json) (body : DeduplicateRequest PyFloat)
      (caller : Option Analyst)
  /-- Whatever the other endpoints, the ingestion and the worker make of the alerts. -/
  | updateAlerts (alerts : Table AlertRow.key)
  | configure (settings : EmbeddingSettings PyFloat)
  | wait (ticks : Nat)

/-- The program, with its JSON module and a cache backend. -/
structure DedupProgram where
  json : JsonModule
  rt : AiRuntime
  backend : Lifetime
  py : PyText
  app : App
  order : NewestAlerts
  ops : ScoreOps PyFloat

namespace DedupProgram

variable (p : DedupProgram)

def env : EmbeddingEnv PyFloat := ⟨p.json, jsonCodec p.json p.rt, p.backend⟩

/-- Every operation goes through: a request that raises leaves the cache as it is by then. -/
def step (sys : DedupSystem) : DedupOp p.json → Except Empty DedupSystem
  | .deduplicate answers body caller => .ok { sys with
      embeddings := (deduplicateAlert p.ops p.env p.py p.app p.order sys.settings answers.answer
        body caller sys.server sys.embeddings).2 }
  | .updateAlerts alerts => .ok { sys with server := { sys.server with alerts } }
  | .configure settings => .ok { sys with settings }
  | .wait ticks => .ok { sys with
      embeddings := { sys.embeddings with now := sys.embeddings.now + ticks } }

/-- The vectors that the loop over the candidates obtains, also when it ends by an exception. -/
def obtained (ttl : Int) (client : EmbeddingClient) (answers : Uuid → EmbeddingAnswer PyFloat) :
    List AlertRow → EmbeddingState PyFloat → List (AlertRow × List PyFloat)
  | [], _ => []
  | row :: rows, st =>
      match getOrComputeEmbedding p.env ttl client row.toAlert (answers row.key) st with
      | (.ok vector, st) => (row, vector) :: obtained ttl client answers rows st
      | (.error e, st) => if e.isSkipped then obtained ttl client answers rows st else []

/-- The vectors that an operation compares: that of the target, and those of the candidates. -/
def vectorsOf (sys : DedupSystem) : DedupOp p.json → List (AlertRow × List PyFloat)
  | .deduplicate answers body caller =>
      match dedupChecks p.py p.app sys.settings body caller sys.server with
      | .error _ => []
      | .ok granted =>
          let ttl := sys.settings.aiEmbeddingCacheTtl
          match getOrComputeEmbedding p.env ttl granted.client granted.target.toAlert
            (answers.answer granted.target.key) sys.embeddings with
          | (.error _, _) => []
          | (.ok vector, st) => (granted.target, vector) ::
              p.obtained ttl granted.client answers.answer
                (dedupCorpus p.app p.order granted.analyst granted.target sys.server) st
  | _ => []

theorem obtained_of_ok {ttl : Int} {client : EmbeddingClient}
    {answers : Uuid → EmbeddingAnswer PyFloat} {rows : List AlertRow}
    {st : EmbeddingState PyFloat} {vectors : List (AlertRow × List PyFloat)}
    (h : (embedCandidates p.env ttl client answers rows st).1 = .ok vectors) :
    p.obtained ttl client answers rows st = vectors := by
  induction rows generalizing st vectors with
  | nil =>
      cases h
      rfl
  | cons row rows ih =>
      rw [embedCandidates] at h
      rw [obtained]
      cases hout : getOrComputeEmbedding p.env ttl client row.toAlert (answers row.key) st with
      | mk out st₁ =>
          rw [hout] at h
          cases out with
          | ok vector =>
              obtain ⟨rest, hrest, rfl⟩ := map_ok h
              exact congrArg _ (ih hrest)
          | error e =>
              dsimp only at h ⊢
              split at h
              · rename_i hskipped
                rw [if_pos hskipped]
                exact ih h
              · cases h

/-- A request that compares vectors compares these. -/
theorem vectorsOf_of_ok {sys : DedupSystem} {answers : HeldAnswers p.json}
    {body : DeduplicateRequest PyFloat} {caller : Option Analyst} {granted : DedupGranted}
    {compared : Compared PyFloat}
    (hchecks : dedupChecks p.py p.app sys.settings body caller sys.server = .ok granted)
    (h : (compareAlerts p.env p.app p.order sys.settings answers.answer granted sys.server
      sys.embeddings).1 = .ok compared) :
    p.vectorsOf sys (.deduplicate answers body caller) =
      (granted.target, compared.target) :: compared.candidates := by
  rw [compareAlerts, embedAll] at h
  rw [vectorsOf, hchecks]
  dsimp only
  cases hout : getOrComputeEmbedding p.env sys.settings.aiEmbeddingCacheTtl granted.client
      granted.target.toAlert (answers.answer granted.target.key) sys.embeddings with
  | mk out st =>
      rw [hout] at h
      cases out with
      | error e => cases h
      | ok vector =>
          obtain ⟨candidates, hcandidates, rfl⟩ := map_ok h
          exact congrArg _ (obtained_of_ok p hcandidates)

/-- No operation fails. -/
theorem step_ok (sys : DedupSystem) (op : DedupOp p.json) : ∃ sys', p.step sys op = .ok sys' := by
  cases op <;> exact ⟨_, rfl⟩

/-- A request changes neither the settings nor the server. -/
theorem deduplicate_kept {p : DedupProgram} {sys sys' : DedupSystem} {answers : HeldAnswers p.json}
    {body : DeduplicateRequest PyFloat} {caller : Option Analyst}
    (h : p.step sys (.deduplicate answers body caller) = .ok sys') :
    sys'.settings = sys.settings ∧ sys'.server = sys.server := by
  cases h
  exact ⟨rfl, rfl⟩

/-! ## What a vector was computed from -/

/-- The provider and the model that are configured. -/
def modelOf (sys : DedupSystem) : Option (String × String) :=
  (getEmbeddingClient sys.settings p.py).map (fun client => (client.provider, client.model))

/-- The text of the alert. -/
def textOf (sys : DedupSystem) (alertId : Uuid) : Option (Except EmbeddingRaised String) :=
  (sys.server.alerts.find? alertId).map (fun row => alertText p.json row.toAlert)

/-- The call was made with the client that is configured, from the text that the alert has. -/
structure Current (sys : DedupSystem) (call : ProviderCall PyFloat) : Prop where
  client : getEmbeddingClient sys.settings p.py = some call.client
  text : p.textOf sys call.alertId = some (.ok call.text)

/-- The calls that are new in this state. -/
def newCalls (sys : DedupSystem) (st : EmbeddingState PyFloat) : List (ProviderCall PyFloat) :=
  st.calls.drop sys.embeddings.calls.length

/-- The operation has made the call. -/
structure Made (a : Accepted DedupSystem (DedupOp p.json)) (call : ProviderCall PyFloat) :
    Prop where
  new : call ∈ newCalls a.before a.after.embeddings
  current : p.Current a.before call

/-- A call so far has produced the vector, with the model that is configured in the request and
from the text that the alert has. -/
def Coherent (a : Accepted DedupSystem (DedupOp p.json)) (row : AlertRow)
    (vector : List PyFloat) : Prop :=
  ∃ call ∈ a.after.embeddings.calls, call.vector = vector ∧
    p.modelOf a.before = some (call.client.provider, call.client.model) ∧
    p.textOf a.before row.key = some (.ok call.text)

end DedupProgram

/-! ## The texts of the cache -/

section Texts

variable {json : JsonModule} {rt : AiRuntime}

theorem floatsOf_map (vector : List PyFloat) :
    floatsOf rt (vector.map .float) = .ok vector := by
  rw [floatsOf]
  induction vector with
  | nil => rfl
  | cons x vector ih =>
      rw [List.map_cons, List.mapM_cons, ih]
      rfl

/-- What was written is read back, but for a vector without numbers. -/
theorem jsonCodec_loads {vector : List PyFloat} {model : String} {text : List Char}
    (hheld : ∀ x ∈ vector, Json.ReadsBack json.text json.readFloat x)
    (h : (jsonCodec json rt).dumps vector model = some text) :
    (jsonCodec json rt).loads text = .ok (if vector = [] then none else some vector) := by
  have hkeys : ["vector", "model"].Nodup := by decide
  have hpayload : Json.Held json.text json.readFloat
      (.obj [("vector", .arr (vector.map .float)), ("model", .str model)]) := by
    refine ⟨hkeys, Json.heldItems_iff.mpr (fun item hitem => ?_), trivial, trivial⟩
    obtain ⟨x, hx, rfl⟩ := List.mem_map.mp hitem
    exact hheld x hx
  simp only [jsonCodec]
  rw [Json.loads_dumps hpayload h]
  cases vector with
  | nil => rfl
  | cons x vector =>
      show cachedFloats rt ((x :: vector).map .float) = _
      rw [cachedFloats, floatsOf_map]
      rfl

end Texts

/-! ## One request -/

theorem embeddingCacheKey_inj {alertId other : Uuid}
    (h : embeddingCacheKey alertId = embeddingCacheKey other) : alertId = other := by
  have hlist := congrArg String.toList h
  rw [embeddingCacheKey, embeddingCacheKey, String.toList_append, String.toList_append] at hlist
  exact Uuid.toText_injective (String.toList_inj.mp (List.append_cancel_left hlist))

namespace DedupProgram

variable {p : DedupProgram} {sys : DedupSystem} {old : ProviderCall PyFloat → Nat → Prop}
  {client : EmbeddingClient} {row : AlertRow} {answer : EmbeddingAnswer PyFloat}
  {st st' : EmbeddingState PyFloat}

/-- A cached vector is of a call whose entry this is: of an old call, or of a new one. -/
def Backed (p : DedupProgram) (sys : DedupSystem) (old : ProviderCall PyFloat → Nat → Prop)
    (st : EmbeddingState PyFloat) (alertId : Uuid) (vector : List PyFloat) (expiry : Nat) : Prop :=
  ∃ call : ProviderCall PyFloat, call.alertId = alertId ∧ call.vector = vector ∧
    (old call expiry ∨ call ∈ newCalls sys st ∧
      ∃ stored, sys.embeddings.now ≤ stored ∧ stored ≤ st.now ∧
        expiry = p.backend.expiry stored sys.settings.aiEmbeddingCacheTtl)

/-- Within a request: the new calls are of the client that is configured, for alerts as they are,
and each cached vector is of the call whose entry it is. -/
structure Within (p : DedupProgram) (sys : DedupSystem) (old : ProviderCall PyFloat → Nat → Prop)
    (st : EmbeddingState PyFloat) : Prop where
  calls : ∃ new, st.calls = sys.embeddings.calls ++ new ∧ ∀ call ∈ new, p.Current sys call
  now : sys.embeddings.now ≤ st.now
  cached : ∀ alertId entry vector, st.entries.lookup (embeddingCacheKey alertId) = some entry →
    p.env.codec.loads entry.value = .ok (some vector) →
    p.Backed sys old st alertId vector entry.expiry

/-- The vector is of a new call for the alert, or of an old one whose entry is not expired. -/
def Produced (p : DedupProgram) (sys : DedupSystem) (old : ProviderCall PyFloat → Nat → Prop)
    (st : EmbeddingState PyFloat) (alertId : Uuid) (vector : List PyFloat) : Prop :=
  ∃ call : ProviderCall PyFloat, call.alertId = alertId ∧ call.vector = vector ∧
    (call ∈ newCalls sys st ∨
      ∃ expiry, old call expiry ∧ p.backend.live expiry sys.embeddings.now = true)

theorem newCalls_eq {new : List (ProviderCall PyFloat)}
    (h : st.calls = sys.embeddings.calls ++ new) : newCalls sys st = new := by
  rw [newCalls, h, List.drop_left]

theorem newCalls_subset (h : st.calls <+: st'.calls) : newCalls sys st ⊆ newCalls sys st' :=
  (h.drop _).subset

/-- A call that is made now is new. -/
theorem Within.mem_newCalls (h : p.Within sys old st) {call : ProviderCall PyFloat}
    (hcalls : st'.calls = st.calls ++ [call]) : call ∈ newCalls sys st' := by
  obtain ⟨new, hnew, -⟩ := h.calls
  rw [hnew, List.append_assoc] at hcalls
  rw [newCalls_eq hcalls]
  exact List.mem_append_right new List.mem_cons_self

theorem Backed.mono {alertId : Uuid} {vector : List PyFloat} {expiry : Nat}
    (h : p.Backed sys old st alertId vector expiry) (hcalls : st.calls <+: st'.calls)
    (hnow : st.now ≤ st'.now) : p.Backed sys old st' alertId vector expiry := by
  obtain ⟨call, halert, hvector, hold | ⟨hnew, stored, hafter, hbefore, hexpiry⟩⟩ := h
  · exact ⟨call, halert, hvector, Or.inl hold⟩
  · exact ⟨call, halert, hvector, Or.inr ⟨newCalls_subset hcalls hnew, stored, hafter,
      Nat.le_trans hbefore hnow, hexpiry⟩⟩

theorem Produced.mono {alertId : Uuid} {vector : List PyFloat}
    (h : p.Produced sys old st alertId vector) (hcalls : st.calls <+: st'.calls) :
    p.Produced sys old st' alertId vector := by
  obtain ⟨call, halert, hvector, hsource⟩ := h
  exact ⟨call, halert, hvector, hsource.imp_left (fun hnew => newCalls_subset hcalls hnew)⟩

/-! ### The steps of a request -/

theorem Within.later (h : p.Within sys old st) (took : Nat) :
    p.Within sys old { st with now := st.now + took } where
  calls := h.calls
  now := Nat.le_trans h.now (Nat.le_add_right _ _)
  cached alertId entry vector hentry hloads :=
    (h.cached alertId entry vector hentry hloads).mono (List.prefix_refl _) (Nat.le_add_right _ _)

theorem cachedEmbedding_calls (alertId : Uuid) :
    (cachedEmbedding p.env alertId st).2.calls = st.calls := rfl

theorem Within.cachedEmbedding (h : p.Within sys old st) (alertId : Uuid) :
    p.Within sys old (OpenSoar.cachedEmbedding p.env alertId st).2 where
  calls := h.calls
  now := h.now
  cached other entry vector hentry hloads := h.cached other entry vector (lookup_get hentry) hloads

theorem Within.produced_cached (h : p.Within sys old st) {alertId : Uuid} {vector : List PyFloat}
    (hcached : (OpenSoar.cachedEmbedding p.env alertId st).1 = .ok (some vector)) :
    p.Produced sys old st alertId vector := by
  change ((TtlMap.get p.backend st.entries (embeddingCacheKey alertId) st.now).1).elim (.ok none)
    p.env.codec.loads = .ok (some vector) at hcached
  rw [TtlMap.get_fst] at hcached
  cases hpeek : peek p.backend st.entries (embeddingCacheKey alertId) st.now with
  | none =>
      rw [hpeek] at hcached
      cases hcached
  | some raw =>
      rw [hpeek] at hcached
      obtain ⟨entry, hentry, rfl, hlive⟩ := peek_eq_some hpeek
      obtain ⟨call, halert, hvector, hold | ⟨hnew, -⟩⟩ :=
        h.cached alertId entry vector hentry hcached
      · exact ⟨call, halert, hvector,
          Or.inr ⟨entry.expiry, hold, p.backend.live_earlier h.now hlive⟩⟩
      · exact ⟨call, halert, hvector, Or.inl hnew⟩

section Store

variable {ttl : Int} {alertId other : Uuid} {text : String} {response : EmbeddingResponse PyFloat}

theorem storeEmbedding_calls :
    (storeEmbedding p.env ttl client alertId text response st).calls =
      st.calls ++ [⟨alertId, client, text, response.vector⟩] := by
  rw [storeEmbedding]
  split <;> rfl

theorem storeEmbedding_now :
    (storeEmbedding p.env ttl client alertId text response st).now = st.now := by
  rw [storeEmbedding]
  split <;> rfl

/-- What is cached after a call: what was there, or under the key of the alert the response. -/
theorem storeEmbedding_lookup {entry : Entry (List Char)}
    (h : (storeEmbedding p.env ttl client alertId text response st).entries.lookup
      (embeddingCacheKey other) = some entry) :
    st.entries.lookup (embeddingCacheKey other) = some entry ∨
      other = alertId ∧ p.env.codec.dumps response.vector response.model = some entry.value ∧
        entry.expiry = p.backend.expiry st.now ttl := by
  rw [storeEmbedding] at h
  split at h
  next => exact Or.inl h
  next encoded hdumps =>
    by_cases hkey : embeddingCacheKey other = embeddingCacheKey alertId
    · cases embeddingCacheKey_inj hkey
      rw [TtlMap.set, AList.lookup_insert] at h
      cases h
      exact Or.inr ⟨rfl, hdumps, rfl⟩
    · rw [TtlMap.set, AList.lookup_insert_ne hkey] at h
      exact Or.inl h

theorem Within.storeEmbedding (h : p.Within sys old st)
    (hcurrent : p.Current sys ⟨alertId, client, text, response.vector⟩)
    (hheld : ∀ x ∈ response.vector, Json.ReadsBack p.json.text p.json.readFloat x) :
    p.Within sys old (OpenSoar.storeEmbedding p.env sys.settings.aiEmbeddingCacheTtl client alertId
      text response st) := by
  have hcalls := @storeEmbedding_calls p client st sys.settings.aiEmbeddingCacheTtl alertId text
    response
  have hnow := @storeEmbedding_now p client st sys.settings.aiEmbeddingCacheTtl alertId text
    response
  obtain ⟨new, hnew, hall⟩ := h.calls
  refine ⟨⟨new ++ [⟨alertId, client, text, response.vector⟩], ?_, ?_⟩, ?_, ?_⟩
  · rw [hcalls, hnew, List.append_assoc]
  · intro call hcall
    rcases List.mem_append.mp hcall with hin | hlast
    · exact hall call hin
    · cases List.mem_singleton.mp hlast
      exact hcurrent
  · rw [hnow]
    exact h.now
  · intro other entry vector hentry hloads
    rcases storeEmbedding_lookup hentry with hkept | ⟨rfl, hdumps, hexpiry⟩
    · exact (h.cached other entry vector hkept hloads).mono ⟨_, hcalls.symm⟩ hnow.ge
    · have hread := (jsonCodec_loads hheld hdumps).symm.trans hloads
      have hvector : response.vector = vector := by
        split at hread
        · cases hread
        · exact Option.some.inj (Except.ok.inj hread)
      exact ⟨⟨other, client, text, response.vector⟩, rfl, hvector,
        Or.inr ⟨h.mem_newCalls hcalls, st.now, h.now, hnow.ge, hexpiry⟩⟩

end Store

/-- The answer holds floats that are read back. -/
def HeldAnswer (p : DedupProgram) (answer : EmbeddingAnswer PyFloat) : Prop :=
  ∀ response, answer.result = .ok response →
    ∀ x ∈ response.vector, Json.ReadsBack p.json.text p.json.readFloat x

theorem embed_result {response : EmbeddingResponse PyFloat}
    (h : (client.embed answer).result = .ok response) : answer.result = .ok response := by
  rw [EmbeddingClient.embed] at h
  split at h
  · exact h
  · split at h <;> cases h

/-- What a function on the way to a vector comes to: the state is still within the request, the
calls so far stay, and a vector that is returned has been produced. -/
structure Obtains (p : DedupProgram) (sys : DedupSystem) (old : ProviderCall PyFloat → Nat → Prop)
    (alertId : Uuid) (st : EmbeddingState PyFloat)
    (out : Except EmbeddingRaised (List PyFloat) × EmbeddingState PyFloat) : Prop where
  within : p.Within sys old out.2
  calls : st.calls <+: out.2.calls
  produced : ∀ vector, out.1 = .ok vector → p.Produced sys old out.2 alertId vector

theorem obtains_error {alertId : Uuid} {e : EmbeddingRaised} (h : p.Within sys old st')
    (hcalls : st.calls <+: st'.calls) : p.Obtains sys old alertId st (.error e, st') where
  within := h
  calls := hcalls
  produced vector hvector := by cases hvector

theorem Within.computeEmbedding (h : p.Within sys old st)
    (hclient : getEmbeddingClient sys.settings p.py = some client)
    (hrow : sys.server.alerts.find? row.id = some row) (hheld : p.HeldAnswer answer) :
    p.Obtains sys old row.id st (OpenSoar.computeEmbedding p.env
      sys.settings.aiEmbeddingCacheTtl client row.toAlert answer st) := by
  rw [OpenSoar.computeEmbedding]
  cases htext : alertText p.env.json row.toAlert with
  | error e => exact obtains_error h (List.prefix_refl _)
  | ok text =>
      have hlater := h.later (client.embed answer).took
      dsimp only
      cases hresult : (client.embed answer).result with
      | error e => exact obtains_error hlater (List.prefix_refl _)
      | ok response =>
          have hcurrent : p.Current sys ⟨row.id, client, text, response.vector⟩ := by
            refine ⟨hclient, ?_⟩
            rw [textOf, hrow]
            exact congrArg some htext
          have hstored := hlater.storeEmbedding hcurrent (hheld response (embed_result hresult))
          have hcalls := @storeEmbedding_calls p client
            { st with now := st.now + (client.embed answer).took }
            sys.settings.aiEmbeddingCacheTtl row.id text response
          refine ⟨hstored, ⟨_, hcalls.symm⟩, fun vector hvector => ?_⟩
          cases hvector
          exact ⟨⟨row.id, client, text, response.vector⟩, rfl, rfl,
            Or.inl (hlater.mem_newCalls hcalls)⟩

/-- **One alert.** -/
theorem Within.getOrComputeEmbedding (h : p.Within sys old st)
    (hclient : getEmbeddingClient sys.settings p.py = some client)
    (hrow : sys.server.alerts.find? row.id = some row) (hheld : p.HeldAnswer answer) :
    p.Obtains sys old row.id st (OpenSoar.getOrComputeEmbedding p.env
      sys.settings.aiEmbeddingCacheTtl client row.toAlert answer st) := by
  have hread := h.cachedEmbedding row.id
  have hsame := @cachedEmbedding_calls p st row.id
  have hcached := fun vector => @Within.produced_cached p sys old st h row.id vector
  rw [OpenSoar.getOrComputeEmbedding]
  cases hfound : OpenSoar.cachedEmbedding p.env row.id st with
  | mk found st₁ =>
      rw [hfound] at hread hsame hcached
      have hprefix : st.calls <+: st₁.calls := hsame ▸ List.prefix_refl _
      cases found with
      | error e => exact obtains_error hread hprefix
      | ok found =>
          cases found with
          | none =>
              obtain ⟨hwithin, hcalls, hproduced⟩ := hread.computeEmbedding hclient hrow hheld
              exact ⟨hwithin, hprefix.trans hcalls, hproduced⟩
          | some vector =>
              refine ⟨hread, hprefix, fun vector' hvector => ?_⟩
              cases hvector
              exact (hcached vector rfl).mono hprefix

/-! ### The loop over the candidates -/

/-- What the functions on the way to all vectors of a request come to. -/
structure ObtainsAll (p : DedupProgram) (sys : DedupSystem)
    (old : ProviderCall PyFloat → Nat → Prop) (st : EmbeddingState PyFloat)
    (vectors : List (AlertRow × List PyFloat)) (st' : EmbeddingState PyFloat) : Prop where
  within : p.Within sys old st'
  calls : st.calls <+: st'.calls
  produced : ∀ row vector, (row, vector) ∈ vectors → p.Produced sys old st' row.id vector

theorem obtainsAll_nil (h : p.Within sys old st) : p.ObtainsAll sys old st [] st where
  within := h
  calls := List.prefix_refl _
  produced row vector hmem := by cases hmem

theorem Obtains.cons {vector : List PyFloat} {vectors : List (AlertRow × List PyFloat)}
    {st₁ : EmbeddingState PyFloat} (hone : p.Obtains sys old row.id st (.ok vector, st₁))
    (hrest : p.ObtainsAll sys old st₁ vectors st') :
    p.ObtainsAll sys old st ((row, vector) :: vectors) st' where
  within := hrest.within
  calls := hone.calls.trans hrest.calls
  produced row' vector' hmem := by
    rcases List.mem_cons.mp hmem with heq | hmem
    · cases heq
      exact (hone.produced vector rfl).mono hrest.calls
    · exact hrest.produced row' vector' hmem

theorem Within.embedCandidates {answers : Uuid → EmbeddingAnswer PyFloat}
    (hclient : getEmbeddingClient sys.settings p.py = some client)
    (hheld : ∀ alertId, p.HeldAnswer (answers alertId)) {rows : List AlertRow}
    (h : p.Within sys old st)
    (hrows : ∀ row ∈ rows, sys.server.alerts.find? row.id = some row) :
    p.ObtainsAll sys old st
      (p.obtained sys.settings.aiEmbeddingCacheTtl client answers rows st)
      (OpenSoar.embedCandidates p.env sys.settings.aiEmbeddingCacheTtl client answers rows
        st).2 := by
  induction rows generalizing st with
  | nil => exact obtainsAll_nil h
  | cons row rows ih =>
      have hone := h.getOrComputeEmbedding hclient (hrows row List.mem_cons_self) (hheld row.key)
      have hrest := fun row hrow => hrows row (List.mem_cons_of_mem _ hrow)
      rw [obtained, OpenSoar.embedCandidates]
      cases hout : OpenSoar.getOrComputeEmbedding p.env sys.settings.aiEmbeddingCacheTtl client
          row.toAlert (answers row.key) st with
      | mk out st₁ =>
          rw [hout] at hone
          cases out with
          | ok vector => exact hone.cons (ih hone.within hrest)
          | error e =>
              dsimp only
              split
              · obtain ⟨hwithin, hcalls, hproduced⟩ := ih hone.within hrest
                exact ⟨hwithin, hone.calls.trans hcalls, hproduced⟩
              · exact ⟨hone.within, hone.calls, (obtainsAll_nil hone.within).produced⟩

/-! ### One operation -/

theorem dedupChecks_ok {body : DeduplicateRequest PyFloat} {caller : Option Analyst}
    {granted : DedupGranted}
    (h : dedupChecks p.py p.app sys.settings body caller sys.server = .ok granted) :
    getEmbeddingClient sys.settings p.py = some granted.client ∧
      granted.target ∈ sys.server.alerts.rows := by
  obtain ⟨analyst, -, h⟩ := bind_ok h
  obtain ⟨client, hclient, h⟩ := bind_ok h
  obtain ⟨alertId, -, h⟩ := bind_ok h
  obtain ⟨target, htarget, h⟩ := bind_ok h
  obtain ⟨-, -, h⟩ := bind_ok h
  cases h
  exact ⟨orRaise_ok hclient, Table.mem_of_find? (orRaise_ok htarget)⟩

theorem mem_dedupCorpus {analyst : Analyst} {target : AlertRow} {s : Server}
    (h : row ∈ dedupCorpus p.app p.order analyst target s) : row ∈ s.alerts.rows := by
  have hvisible := (p.order.perm _).mem_iff.mp (List.mem_of_mem_take h)
  exact List.mem_of_mem_filter hvisible

/-- **The step rule.**  An operation that starts within the cache ends within it, and the vectors
that it compares have been produced. -/
theorem Within.step {op : DedupOp p.json} {sys' : DedupSystem}
    (h : p.Within sys old sys.embeddings) (hstep : p.step sys op = .ok sys') :
    p.ObtainsAll sys old sys.embeddings (p.vectorsOf sys op) sys'.embeddings := by
  cases op with
  | updateAlerts alerts =>
      cases hstep
      exact obtainsAll_nil h
  | configure settings =>
      cases hstep
      exact obtainsAll_nil h
  | wait ticks =>
      cases hstep
      exact ⟨h.later ticks, List.prefix_refl _, (obtainsAll_nil h).produced⟩
  | deduplicate answers body caller =>
      cases hstep
      rw [vectorsOf, deduplicateAlert]
      cases hchecks : dedupChecks p.py p.app sys.settings body caller sys.server with
      | error e => exact obtainsAll_nil h
      | ok granted =>
          obtain ⟨hclient, htarget⟩ := dedupChecks_ok hchecks
          have hheld (alertId : Uuid) : p.HeldAnswer (answers.answer alertId) :=
            answers.held alertId
          have hone := h.getOrComputeEmbedding hclient (Table.find?_of_mem htarget)
            (hheld granted.target.key)
          dsimp only
          rw [compareAlerts, embedAll]
          cases hout : OpenSoar.getOrComputeEmbedding p.env sys.settings.aiEmbeddingCacheTtl
              granted.client granted.target.toAlert (answers.answer granted.target.key)
              sys.embeddings with
          | mk out st₁ =>
              rw [hout] at hone
              cases out with
              | error e => exact ⟨hone.within, hone.calls, (obtainsAll_nil hone.within).produced⟩
              | ok vector =>
                  have hcorpus : ∀ row ∈ dedupCorpus p.app p.order granted.analyst granted.target
                      sys.server, sys.server.alerts.find? row.id = some row :=
                    fun row hrow => Table.find?_of_mem (mem_dedupCorpus hrow)
                  exact hone.cons (hone.within.embedCandidates hclient hheld hcorpus)

/-! ## A run -/

variable {start : DedupSystem} {ops : List (DedupOp p.json)}
  {past after : List (Accepted DedupSystem (DedupOp p.json))}
  {a : Accepted DedupSystem (DedupOp p.json)}

/-- An entry with this expiry was set for the call by a past operation that has made it. -/
def Stored (p : DedupProgram) (past : List (Accepted DedupSystem (DedupOp p.json)))
    (call : ProviderCall PyFloat) (expiry : Nat) : Prop :=
  ∃ b ∈ past, p.Made b call ∧
    ∃ stored, b.before.embeddings.now ≤ stored ∧ stored ≤ b.after.embeddings.now ∧
      expiry = p.backend.expiry stored b.before.settings.aiEmbeddingCacheTtl

/-- What relates the cache to the operations so far: their calls are kept, and each cached vector
is of one of them. -/
structure History (p : DedupProgram) (past : List (Accepted DedupSystem (DedupOp p.json)))
    (sys : DedupSystem) : Prop where
  calls : ∀ b ∈ past, b.after.embeddings.calls <+: sys.embeddings.calls
  cached : ∀ alertId entry vector,
    sys.embeddings.entries.lookup (embeddingCacheKey alertId) = some entry →
    p.env.codec.loads entry.value = .ok (some vector) →
    ∃ call : ProviderCall PyFloat, call.alertId = alertId ∧ call.vector = vector ∧
      p.Stored past call entry.expiry

theorem Stored.mono {past' : List (Accepted DedupSystem (DedupOp p.json))}
    {call : ProviderCall PyFloat} {expiry : Nat} (h : p.Stored past call expiry)
    (hsub : past ⊆ past') : p.Stored past' call expiry := by
  obtain ⟨b, hb, hstored⟩ := h
  exact ⟨b, hsub hb, hstored⟩

theorem History.within (h : p.History past sys) :
    p.Within sys (p.Stored past) sys.embeddings where
  calls := ⟨[], (List.append_nil _).symm, fun call hcall => by cases hcall⟩
  now := Nat.le_refl _
  cached alertId entry vector hentry hloads := by
    obtain ⟨call, halert, hvector, hstored⟩ := h.cached alertId entry vector hentry hloads
    exact ⟨call, halert, hvector, Or.inl hstored⟩

theorem History.step {op : DedupOp p.json} {sys' : DedupSystem} (h : p.History past sys)
    (hstep : p.step sys op = .ok sys') : p.History (past ++ [⟨sys, op, sys'⟩]) sys' := by
  obtain ⟨hwithin, hprefix, -⟩ := h.within.step hstep
  obtain ⟨new, hnew, hcurrent⟩ := hwithin.calls
  refine ⟨fun b hb => ?_, fun alertId entry vector hentry hloads => ?_⟩
  · rcases List.mem_append.mp hb with hb | hlast
    · exact (h.calls b hb).trans hprefix
    · cases List.mem_singleton.mp hlast
      exact List.prefix_refl _
  · obtain ⟨call, halert, hvector, hold | ⟨hcall, stored, hfrom, hto, hexpiry⟩⟩ :=
      hwithin.cached alertId entry vector hentry hloads
    · exact ⟨call, halert, hvector, hold.mono (List.subset_append_left _ _)⟩
    · refine ⟨call, halert, hvector, ⟨sys, op, sys'⟩,
        List.mem_append_right _ List.mem_cons_self, ⟨hcall, ?_⟩, stored, hfrom, hto, hexpiry⟩
      exact hcurrent call (newCalls_eq hnew ▸ hcall)

theorem history_start (hempty : start.embeddings.entries = ∅) : p.History [] start where
  calls b hb := by cases hb
  cached alertId entry vector hentry := by
    rw [hempty, AList.lookup_empty] at hentry
    cases hentry

/-- A vector that was produced from what is current is coherent. -/
theorem Made.coherent {b : Accepted DedupSystem (DedupOp p.json)} {call : ProviderCall PyFloat}
    {vector : List PyFloat} (h : p.Made b call)
    (hcalls : b.after.embeddings.calls <+: a.after.embeddings.calls)
    (halert : call.alertId = row.key) (hvector : call.vector = vector)
    (hmodel : p.modelOf b.before = p.modelOf a.before)
    (htext : p.textOf b.before row.key = p.textOf a.before row.key) :
    p.Coherent a row vector := by
  refine ⟨call, hcalls.subset (List.mem_of_mem_drop h.new), hvector, ?_, ?_⟩
  · rw [← hmodel, modelOf, h.current.client]
    rfl
  · rw [← htext, ← halert]
    exact h.current.text

/-- A vector that a request of a run compares was computed for that alert. -/
theorem vector_made {vector : List PyFloat} (hempty : start.embeddings.entries = ∅)
    (htrace : trace p.step start ops = past ++ a :: after)
    (hcompared : (row, vector) ∈ p.vectorsOf a.before a.op) :
    ∃ b call, p.Made b call ∧ call.alertId = row.key ∧ call.vector = vector ∧
      (b = a ∨ b ∈ past ∧ ∃ stored, b.before.embeddings.now ≤ stored ∧
        stored ≤ b.after.embeddings.now ∧
        p.backend.live (p.backend.expiry stored b.before.settings.aiEmbeddingCacheTtl)
          a.before.embeddings.now = true) ∧
      (p.modelOf b.before = p.modelOf a.before →
        p.textOf b.before row.key = p.textOf a.before row.key → p.Coherent a row vector) := by
  have hhistory : p.History past a.before :=
    trace_history p.step (fun _ _ _ _ h hstep => h.step hstep) (history_start hempty) htrace
  have ha : a ∈ trace p.step start ops := htrace ▸ List.mem_append_right _ List.mem_cons_self
  have hstep : p.step a.before a.op = .ok a.after := step_of_mem_trace p.step ha
  obtain ⟨hwithin, hprefix, hproduced⟩ := hhistory.within.step hstep
  obtain ⟨call, halert, hvector, hnew | ⟨expiry, hstored, hlive⟩⟩ := hproduced row vector hcompared
  · obtain ⟨new, hcalls, hcurrent⟩ := hwithin.calls
    have hmade : p.Made a call := ⟨hnew, hcurrent call (newCalls_eq hcalls ▸ hnew)⟩
    exact ⟨a, call, hmade, halert, hvector, Or.inl rfl,
      hmade.coherent (List.prefix_refl _) halert hvector⟩
  · obtain ⟨b, hb, hmade, stored, hfrom, hto, rfl⟩ := hstored
    exact ⟨b, call, hmade, halert, hvector, Or.inr ⟨hb, stored, hfrom, hto, hlive⟩,
      hmade.coherent ((hhistory.calls b hb).trans hprefix) halert hvector⟩

/-- **Where vectors are from.**  In every run, a vector that a request compares was computed by a
provider for that alert, with the client configured and from the text current at the time, in this
request or in an earlier one whose entry has not expired; where neither has changed since, it is
coherent.  A request that gets to its comparison compares these vectors and no others. -/
theorem vectors_produced (hempty : start.embeddings.entries = ∅)
    (htrace : trace p.step start ops = past ++ a :: after) :
    (∀ row vector, (row, vector) ∈ p.vectorsOf a.before a.op →
      ∃ b call, p.Made b call ∧ call.alertId = row.key ∧ call.vector = vector ∧
        (b = a ∨ b ∈ past ∧ ∃ stored, b.before.embeddings.now ≤ stored ∧
          stored ≤ b.after.embeddings.now ∧
          p.backend.live (p.backend.expiry stored b.before.settings.aiEmbeddingCacheTtl)
            a.before.embeddings.now = true) ∧
        (p.modelOf b.before = p.modelOf a.before →
          p.textOf b.before row.key = p.textOf a.before row.key → p.Coherent a row vector)) ∧
    ∀ answers body caller granted compared, a.op = .deduplicate answers body caller →
      dedupChecks p.py p.app a.before.settings body caller a.before.server = .ok granted →
      (compareAlerts p.env p.app p.order a.before.settings answers.answer granted a.before.server
        a.before.embeddings).1 = .ok compared →
      p.vectorsOf a.before a.op = (granted.target, compared.target) :: compared.candidates := by
  refine ⟨fun row vector hcompared => vector_made hempty htrace hcompared, ?_⟩
  intro answers body caller granted compared hop hchecks hcompared
  rw [hop]
  exact p.vectorsOf_of_ok hchecks hcompared

/-! ## Cached vectors of another model and of another text -/

/-- A request of the run compares a vector that is not coherent. -/
def ComparesIncoherent (p : DedupProgram) (start : DedupSystem) (ops : List (DedupOp p.json)) :
    Prop :=
  ∃ past a after row vector, trace p.step start ops = past ++ a :: after ∧
    (row, vector) ∈ p.vectorsOf a.before a.op ∧ ¬ p.Coherent a row vector

/-- No call so far was made with the model of the request. -/
theorem not_coherent_of_model {vector : List PyFloat}
    (h : ∀ call ∈ a.after.embeddings.calls,
      p.modelOf a.before ≠ some (call.client.provider, call.client.model)) :
    ¬ p.Coherent a row vector := by
  rintro ⟨call, hcall, -, hmodel, -⟩
  exact h call hcall hmodel

/-- No call so far was made from the text that the alert has. -/
theorem not_coherent_of_text {vector : List PyFloat}
    (h : ∀ call ∈ a.after.embeddings.calls, p.textOf a.before row.key ≠ some (.ok call.text)) :
    ¬ p.Coherent a row vector := by
  rintro ⟨call, hcall, -, -, htext⟩
  exact h call hcall htext

end DedupProgram

/-- The number 1.0, and no other. -/
def oneJson : JsonModule := ⟨.ascii, fun _ => .finite 1 0⟩

/-- Scores of vectors that hold one 1.0 each. -/
def oneOps : ScoreOps PyFloat where
  zero := .finite 0 0
  add x y := if x = .finite 0 0 then y else x
  mul x _ := x
  div x _ := x
  sqrt x := x
  eq := PyFloat.eq
  lt _ _ := false
  ge _ _ := true
  round4 x := x

def beaconProgram : DedupProgram :=
  ⟨oneJson, .ascii, inMemoryCacheBackend, .ascii, .core, .stable, oneOps⟩

theorem readsBack_one : Json.ReadsBack .ascii (fun _ => .finite 1 0) (.finite 1 0) := by
  refine ⟨⟨['1'], ['.', '0'], [], ?_⟩, rfl⟩
  decide +kernel

/-- The provider answers 1.0 about every alert. -/
def answersOne : HeldAnswers beaconProgram.json where
  answer _ := ⟨.ok ⟨[.finite 1 0], "text-embedding-3-small"⟩, 1⟩
  held alertId response hresponse x hx := by
    cases hresponse
    cases List.mem_singleton.mp hx
    exact readsBack_one

def openaiSettings (model : String) : EmbeddingSettings PyFloat where
  aiEmbeddingProvider := none
  aiEmbeddingModel := some model
  openaiApiKey := some "sk"
  ollamaUrl := none
  anthropicApiKey := none
  aiDedupThreshold := .finite 1 (-1)
  aiEmbeddingCacheTtl := 604800

def uncachedBeacons : DedupSystem :=
  ⟨threeBeacons, openaiSettings "text-embedding-3-small", ⟨0, ∅, []⟩⟩

def duplicatesOfFirst : DedupOp beaconProgram.json :=
  .deduplicate answersOne ⟨Uuid.toText 1, none, ⟨1, one_le_limit⟩⟩ (some administrator)

/-- Two requests, and another model in between. -/
def modelSwitch : List (DedupOp beaconProgram.json) :=
  [duplicatesOfFirst, .configure (openaiSettings "text-embedding-3-large"), duplicatesOfFirst]

/-- The first alert with a tag. -/
def taggedFirst : AlertRow := { beaconAt 1 0 with tags := some [some "exfiltration"] }

theorem nodup_tagged : ([taggedFirst, beaconAt 2 2, beaconAt 3 1].map AlertRow.key).Nodup := by
  decide

/-- Two requests, and a tag on the first alert in between. -/
def tagAdded : List (DedupOp beaconProgram.json) :=
  [duplicatesOfFirst, .updateAlerts ⟨[taggedFirst, beaconAt 2 2, beaconAt 3 1], nodup_tagged⟩,
    duplicatesOfFirst]

section Third

variable {p : DedupProgram} {start s₁ s₂ s₃ : DedupSystem} {o₁ o₂ o₃ : DedupOp p.json}

theorem trace_third (h₁ : p.step start o₁ = .ok s₁) (h₂ : p.step s₁ o₂ = .ok s₂)
    (h₃ : p.step s₂ o₃ = .ok s₃) : trace p.step start [o₁, o₂, o₃] =
      [⟨start, o₁, s₁⟩, ⟨s₁, o₂, s₂⟩] ++ ⟨s₂, o₃, s₃⟩ :: [] := by
  rw [trace_cons_ok p.step h₁, trace_cons_ok p.step h₂, trace_cons_ok p.step h₃]
  rfl

theorem comparesIncoherent_third {row : AlertRow} {vector : List PyFloat}
    (h₁ : p.step start o₁ = .ok s₁) (h₂ : p.step s₁ o₂ = .ok s₂) (h₃ : p.step s₂ o₃ = .ok s₃)
    (hcompared : (row, vector) ∈ p.vectorsOf s₂ o₃) (hnot : ¬ p.Coherent ⟨s₂, o₃, s₃⟩ row vector) :
    p.ComparesIncoherent start [o₁, o₂, o₃] :=
  ⟨_, _, _, row, vector, trace_third h₁ h₂ h₃, hcompared, hnot⟩

theorem run_third (h₁ : p.step start o₁ = .ok s₁) (h₂ : p.step s₁ o₂ = .ok s₂)
    (h₃ : p.step s₂ o₃ = .ok s₃) :
    run p.step start [o₁, o₂] = s₂ ∧ run p.step start [o₁, o₂, o₃] = s₃ := by
  simp only [run_cons, attempt_ok p.step h₁, attempt_ok p.step h₂, attempt_ok p.step h₃]
  exact ⟨rfl, rfl⟩

end Third

/-- What the second request of each run compares is from the calls of the first. -/
theorem cached_vectors_incoherent :
    uncachedBeacons.embeddings.entries = ∅ ∧
      beaconProgram.ComparesIncoherent uncachedBeacons modelSwitch ∧
      beaconProgram.ComparesIncoherent uncachedBeacons tagAdded := by
  have hsecond : ∃ compared ∈ beaconProgram.vectorsOf
      (run beaconProgram.step uncachedBeacons (modelSwitch.take 2)) duplicatesOfFirst,
      compared.1.key = 1 := by
    decide +kernel
  have hafter : ∃ compared ∈ beaconProgram.vectorsOf
      (run beaconProgram.step uncachedBeacons (tagAdded.take 2)) duplicatesOfFirst,
      compared.1.key = 1 := by
    decide +kernel
  refine ⟨rfl, ?_, ?_⟩
  · obtain ⟨⟨row, vector⟩, hcompared, -⟩ := hsecond
    refine comparesIncoherent_third rfl rfl rfl hcompared (DedupProgram.not_coherent_of_model ?_)
    decide +kernel
  · obtain ⟨⟨row, vector⟩, hcompared, hkey⟩ := hafter
    refine comparesIncoherent_third rfl rfl rfl hcompared (DedupProgram.not_coherent_of_text ?_)
    rw [show row.key = 1 from hkey]
    decide +kernel

/-- Two requests, an hour apart. -/
def askedAgain : List (DedupOp beaconProgram.json) :=
  [duplicatesOfFirst, .wait (3600 * microsecondsPerSecond), duplicatesOfFirst]

/-- The second request makes no call: it serves what the first has cached, and nothing has changed
since. -/
theorem cached_vectors_coherent :
    ∃ a ∈ trace beaconProgram.step uncachedBeacons askedAgain,
      DedupProgram.newCalls a.before a.after.embeddings = [] ∧
      ∃ row vector, (row, vector) ∈ beaconProgram.vectorsOf a.before a.op ∧
        beaconProgram.Coherent a row vector := by
  have hnone : DedupProgram.newCalls
      (run beaconProgram.step uncachedBeacons (askedAgain.take 2))
      (run beaconProgram.step uncachedBeacons askedAgain).embeddings = [] :=
    List.eq_nil_of_length_eq_zero (by decide +kernel)
  have hfirst : ∃ compared ∈ beaconProgram.vectorsOf
      (run beaconProgram.step uncachedBeacons (askedAgain.take 2)) duplicatesOfFirst,
      compared.1.key = 1 := by
    decide +kernel
  obtain ⟨s₁, h₁⟩ := beaconProgram.step_ok uncachedBeacons duplicatesOfFirst
  obtain ⟨s₂, h₂⟩ := beaconProgram.step_ok s₁ (.wait (3600 * microsecondsPerSecond))
  obtain ⟨s₃, h₃⟩ := beaconProgram.step_ok s₂ duplicatesOfFirst
  have hbefore : run beaconProgram.step uncachedBeacons (askedAgain.take 2) = s₂ :=
    (run_third h₁ h₂ h₃).1
  have hafter : run beaconProgram.step uncachedBeacons askedAgain = s₃ := (run_third h₁ h₂ h₃).2
  rw [hbefore] at hfirst
  rw [hbefore, hafter] at hnone
  obtain ⟨⟨row, vector⟩, hcompared, -⟩ := hfirst
  have htrace := trace_third h₁ h₂ h₃
  obtain ⟨b, call, -, -, -, hfrom, hcoherent⟩ :=
    (DedupProgram.vectors_produced rfl htrace).1 _ _ hcompared
  have hkept₁ := DedupProgram.deduplicate_kept h₁
  have hkept₂ : s₂.settings = s₁.settings ∧ s₂.server = s₁.server := by
    cases h₂
    exact ⟨rfl, rfl⟩
  have hunchanged : b.before.settings = s₂.settings ∧ b.before.server = s₂.server := by
    rcases hfrom with rfl | ⟨hpast, -⟩
    · exact ⟨rfl, rfl⟩
    · rcases List.mem_cons.mp hpast with rfl | hpast
      · exact ⟨(hkept₂.1.trans hkept₁.1).symm, (hkept₂.2.trans hkept₁.2).symm⟩
      · rw [List.mem_singleton.mp hpast]
        exact ⟨hkept₂.1.symm, hkept₂.2.symm⟩
  refine ⟨⟨s₂, duplicatesOfFirst, s₃⟩, ?_, hnone, row, vector, hcompared, hcoherent ?_ ?_⟩
  · rw [askedAgain, htrace]
    exact List.mem_append_right _ List.mem_cons_self
  · rw [DedupProgram.modelOf, hunchanged.1]
    rfl
  · rw [DedupProgram.textOf, hunchanged.2]
    rfl

end OpenSoar
