/-
# `OpenSoar.Ai.Deduplicate` — near-duplicates by the similarity of embeddings

`ai/embeddings.py` and `api/ai_dedup.py`.  `deduplicate_alert` compares the embedding of one alert
with those of the newest other alerts that the caller may see.  An embedding is a list of numbers
that a provider computes from a text; it is kept as a JSON text in the cache, under the id of the
alert, for a time to live.

Embeddings are over any type `F` of numbers: the operations on scores are a `ScoreOps`, and a
`VectorCodec` writes and reads the cached texts (`jsonCodec` for floats).  What a provider answers
about an alert, and after how long, is an `EmbeddingAnswer`; its calls that return are recorded
(`ProviderCall`).
-/
import OpenSoar.Ai.Endpoints
import OpenSoar.Ai.Similarity
import OpenSoar.Integrations.Memo

namespace OpenSoar

open Python TtlMap

/-! ## Providers -/

/-- The settings that an embedding depends on. -/
structure EmbeddingSettings (F : Type) where
  aiEmbeddingProvider : Option String
  aiEmbeddingModel : Option String
  openaiApiKey : Option String
  ollamaUrl : Option String
  anthropicApiKey : Option String
  aiDedupThreshold : F
  aiEmbeddingCacheTtl : Int

/-- `EmbeddingClient`. -/
structure EmbeddingClient where
  provider : String
  model : String
  apiKey : String
  baseUrl : String
deriving DecidableEq

/-- `EmbeddingResponse`. -/
structure EmbeddingResponse (F : Type) where
  vector : List F
  model : String

/-- What leaves `_get_or_compute_embedding`, by its class: the loop over the candidates skips one
that raises one of the first three (a `NotImplementedError` is a `RuntimeError`). -/
inductive EmbeddingRaised where
  | osError
  | runtimeError
  | valueError
  | other
deriving DecidableEq

def EmbeddingRaised.isSkipped : EmbeddingRaised → Bool
  | .other => false
  | _ => true

/-- What the provider answers, and how long it takes. -/
structure EmbeddingAnswer (F : Type) where
  result : Except EmbeddingRaised (EmbeddingResponse F)
  took : Nat

/-- `value or default`. -/
def orDefault (value : Option String) (default : String) : String :=
  match value with
  | none => default
  | some text => if text = "" then default else text

/-- The client with its credentials, if they are there. -/
def withCredentials (credentials : Option String) (client : String → EmbeddingClient) :
    Option EmbeddingClient :=
  if orDefault credentials "" = "" then none else some (client (orDefault credentials ""))

section Client

variable {F : Type} (settings : EmbeddingSettings F)

def openaiClient : Option EmbeddingClient :=
  withCredentials settings.openaiApiKey (fun key =>
    ⟨"openai", orDefault settings.aiEmbeddingModel "text-embedding-3-small", key, ""⟩)

def ollamaClient : Option EmbeddingClient :=
  withCredentials settings.ollamaUrl (fun url =>
    ⟨"ollama", orDefault settings.aiEmbeddingModel "nomic-embed-text", "", url⟩)

def anthropicClient : Option EmbeddingClient :=
  withCredentials settings.anthropicApiKey (fun key =>
    ⟨"anthropic", orDefault settings.aiEmbeddingModel "voyage-3", key, ""⟩)

/-- `get_embedding_client`. -/
def getEmbeddingClient (py : PyText) : Option EmbeddingClient :=
  let provider := py.lower (orDefault settings.aiEmbeddingProvider "").toList
  if provider = "openai".toList then openaiClient settings
  else if provider = "ollama".toList then ollamaClient settings
  else if provider = "anthropic".toList then anthropicClient settings
  else (openaiClient settings).or (ollamaClient settings)

end Client

/-- `embed`: two of the providers are called, after some time they answer. -/
def EmbeddingClient.embed {F : Type} (client : EmbeddingClient) (answer : EmbeddingAnswer F) :
    EmbeddingAnswer F :=
  if client.provider = "openai" ∨ client.provider = "ollama" then answer
  else if client.provider = "anthropic" then ⟨.error .runtimeError, 0⟩
  else ⟨.error .valueError, 0⟩

/-! ## The text of an alert -/

/-- `', '.join(alert.tags)`, where a tag that is `None` is a `TypeError`. -/
def joinTags (tags : Option (List (Option String))) : Except EmbeddingRaised String :=
  match (tags.getD []).mapM id with
  | some tags => .ok (", ".intercalate tags)
  | none => .error .other

/-- `json.dumps(alert.iocs, default=str)`, if there are any. -/
def dumpIocs (json : JsonModule) (iocs : Option Dict) : Except EmbeddingRaised String :=
  match iocs.getD [] with
  | [] => .ok ""
  | fields =>
      match (Json.obj fields).dumps? json.text with
      | some text => .ok (String.ofList text)
      | none => .error .valueError

/-- `_alert_text`: a part whose value is empty is left out, also one that is not even begun. -/
def alertText (json : JsonModule) (alert : Alert) : Except EmbeddingRaised String := do
  let tags ← joinTags alert.tags
  let iocs ← dumpIocs json alert.iocs
  let parts := [("Title", alert.title.val), ("Severity", alert.severity.val),
    ("Rule", (alert.ruleName.map Varchar.val).getD ""), ("Source", alert.source.val),
    ("Hostname", (alert.hostname.map Varchar.val).getD ""),
    ("Source IP", (alert.sourceIp.map Varchar.val).getD ""),
    ("Destination IP", (alert.destIp.map Varchar.val).getD ""),
    ("Description", alert.description.getD ""), ("Tags", tags), ("IOCs", iocs)]
  pure ("\n".intercalate
    ((parts.filter (fun part => part.2 ≠ "")).map (fun part => part.1 ++ ": " ++ part.2)))

/-! ## The cache -/

def embeddingCacheKeyPrefix : String := "opensoar:ai_embedding:"

/-- `_cache_key`. -/
def embeddingCacheKey (alertId : Uuid) : String := embeddingCacheKeyPrefix ++ alertId.toText

/-- The texts of the cached payloads. -/
structure VectorCodec (F : Type) where
  /-- `json.dumps({"vector": vector, "model": model})`, if it does not raise. -/
  dumps : List F → String → Option (List Char)
  /-- The vector in a cached text, if it holds one; or an exception that is not caught. -/
  loads : List Char → Except EmbeddingRaised (Option (List F))

/-- `[float(v) for v in vector]`. -/
def floatsOf (rt : AiRuntime) (items : List Json) : Except FloatError (List PyFloat) :=
  items.mapM (fun item => floatOf rt (.ofJson item))

/-- The floats in a cached list: an `OverflowError` is not caught. -/
def cachedFloats (rt : AiRuntime) (items : List Json) :
    Except EmbeddingRaised (Option (List PyFloat)) :=
  match floatsOf rt items with
  | .ok vector => .ok (some vector)
  | .error .overflowError => .error .other
  | .error _ => .ok none

/-- The vector in a cached payload; a list has no `get`. -/
def payloadVector (rt : AiRuntime) : Json → Except EmbeddingRaised (Option (List PyFloat))
  | .obj payload =>
      match payload.lookup "vector" with
      | some (.arr (item :: items)) => cachedFloats rt (item :: items)
      | _ => .ok none
  | _ => .error .other

/-- The codec of the program. -/
def jsonCodec (json : JsonModule) (rt : AiRuntime) : VectorCodec PyFloat where
  dumps vector model :=
    (Json.obj [("vector", .arr (vector.map .float)), ("model", .str model)]).dumps? json.text
  loads raw :=
    match Json.loads json.readFloat raw with
    | .ok payload => payloadVector rt payload
    | .error .recursionError => .error .runtimeError
    | .error _ => .ok none

/-- A call of a provider that has returned. -/
structure ProviderCall (F : Type) where
  alertId : Uuid
  client : EmbeddingClient
  text : String
  vector : List F

/-- The clock, the cached texts, and the calls so far. -/
structure EmbeddingState (F : Type) where
  now : Timestamp
  entries : Entries String (List Char)
  calls : List (ProviderCall F)

/-- The JSON module, the cached texts and the cache backend. -/
structure EmbeddingEnv (F : Type) where
  json : JsonModule
  codec : VectorCodec F
  backend : Lifetime

section Embedding

variable {F : Type} (env : EmbeddingEnv F) (ttl : Int) (client : EmbeddingClient)

/-- What the cached text under the key of the alert holds. -/
def cachedEmbedding (alertId : Uuid) (st : EmbeddingState F) :
    Except EmbeddingRaised (Option (List F)) × EmbeddingState F :=
  let (raw, entries) := TtlMap.get env.backend st.entries (embeddingCacheKey alertId) st.now
  (raw.elim (.ok none) env.codec.loads, { st with entries })

/-- A response is recorded, and cached if it can be written. -/
def storeEmbedding (alertId : Uuid) (text : String) (response : EmbeddingResponse F)
    (st : EmbeddingState F) : EmbeddingState F :=
  let calls := st.calls ++ [⟨alertId, client, text, response.vector⟩]
  match env.codec.dumps response.vector response.model with
  | none => { st with calls }
  | some encoded => { st with
      calls
      entries := TtlMap.set env.backend st.entries (embeddingCacheKey alertId) encoded ttl st.now }

/-- The embedding of the alert as it is now. -/
def computeEmbedding (alert : Alert) (answer : EmbeddingAnswer F) (st : EmbeddingState F) :
    Except EmbeddingRaised (List F) × EmbeddingState F :=
  match alertText env.json alert with
  | .error e => (.error e, st)
  | .ok text =>
      let answer := client.embed answer
      let st := { st with now := st.now + answer.took }
      match answer.result with
      | .error e => (.error e, st)
      | .ok response =>
          (.ok response.vector, storeEmbedding env ttl client alert.id text response st)

/-- `_get_or_compute_embedding`. -/
def getOrComputeEmbedding (alert : Alert) (answer : EmbeddingAnswer F) (st : EmbeddingState F) :
    Except EmbeddingRaised (List F) × EmbeddingState F :=
  match cachedEmbedding env alert.id st with
  | (.error e, st) => (.error e, st)
  | (.ok (some vector), st) => (.ok vector, st)
  | (.ok none, st) => computeEmbedding env ttl client alert answer st

/-- The embeddings of the candidates, without those that are skipped. -/
def embedCandidates (answers : Uuid → EmbeddingAnswer F) :
    List AlertRow → EmbeddingState F →
      Except EmbeddingRaised (List (AlertRow × List F)) × EmbeddingState F
  | [], st => (.ok [], st)
  | row :: rows, st =>
      match getOrComputeEmbedding env ttl client row.toAlert (answers row.key) st with
      | (.ok vector, st) =>
          let (rest, st) := embedCandidates answers rows st
          (rest.map (fun rest => (row, vector) :: rest), st)
      | (.error e, st) =>
          if e.isSkipped then embedCandidates answers rows st else (.error e, st)

/-- The vectors that a request compares. -/
structure Compared (F : Type) where
  target : List F
  candidates : List (AlertRow × List F)

/-- The embedding of the target, and then those of the candidates. -/
def embedAll (answers : Uuid → EmbeddingAnswer F) (target : AlertRow) (corpus : List AlertRow)
    (st : EmbeddingState F) : Except EmbeddingRaised (Compared F) × EmbeddingState F :=
  match getOrComputeEmbedding env ttl client target.toAlert (answers target.key) st with
  | (.error e, st) => (.error e, st)
  | (.ok vector, st) =>
      let (candidates, st) := embedCandidates env ttl client answers corpus st
      (candidates.map (Compared.mk vector), st)

end Embedding

/-! ## `POST /ai/deduplicate` -/

/-- How the database orders alerts by `created_at DESC`: alerts of one time come in any order. -/
structure NewestAlerts where
  sort : List AlertRow → List AlertRow
  perm : ∀ rows, (sort rows).Perm rows
  sorted : ∀ rows, (sort rows).Pairwise (fun a b => b.createdAt ≤ a.createdAt)

/-- `DeduplicateRequest`. -/
structure DeduplicateRequest (F : Type) where
  alertId : String
  threshold : Option F
  limit : { limit : Nat // 1 ≤ limit ∧ limit ≤ 50 }

/-- An entry of `candidates`. -/
structure DedupCandidate (F : Type) where
  alertId : Uuid
  similarity : F
  title : Varchar 500
  severity : Varchar 20

structure DedupResponse (F : Type) where
  alertId : Uuid
  threshold : F
  provider : String
  model : String
  candidates : List (DedupCandidate F)

/-- What leaves the handler instead of a response. -/
inductive DedupRaised where
  | request (e : Raised)
  | embedding (e : EmbeddingRaised)
deriving DecidableEq

/-- `DEDUP_CORPUS_LIMIT`. -/
def dedupCorpusLimit : Nat := 500

/-- What the checks come to: the caller, the client and the alert of the request. -/
structure DedupGranted where
  analyst : Analyst
  client : EmbeddingClient
  target : AlertRow

/-- The checks of a request. -/
def dedupChecks {F : Type} (py : PyText) (app : App) (settings : EmbeddingSettings F)
    (body : DeduplicateRequest F) (caller : Option Analyst) (s : Server) :
    Except Raised DedupGranted := do
  let analyst ← requirePermission .aiUse caller
  let client ← orRaise (getEmbeddingClient settings py) (.httpException 503
    ("Semantic deduplication is not configured. Set AI_EMBEDDING_PROVIDER along with " ++
      "OPENAI_API_KEY or OLLAMA_URL."))
  let alertId ← orRaise (Uuid.ofText? py body.alertId) (.httpException 400 "Invalid alert_id")
  let target ← orRaise (s.alerts.find? alertId) alertNotFound
  enforceTenantAccess app (.alert target.toAlert) "ai_deduplicate" (some analyst)
  pure ⟨analyst, client, target⟩

/-- The other alerts that the caller may see. -/
def visibleOthers (app : App) (analyst : Analyst) (target : AlertRow) (s : Server) :
    List AlertRow :=
  s.alerts.rows.filter (fun row => decide (row.key ≠ target.key) &&
    applyTenantAccessQuery app (.alert row.toAlert) "ai_deduplicate_corpus" (some analyst))

/-- The newest of them. -/
def dedupCorpus (app : App) (order : NewestAlerts) (analyst : Analyst) (target : AlertRow)
    (s : Server) : List AlertRow :=
  (order.sort (visibleOthers app analyst target s)).take dedupCorpusLimit

section Scores

variable {F : Type} (ops : ScoreOps F)

/-- The candidates whose score is at least the threshold, each with its rounded score. -/
def scoredCandidates (threshold : F) (compared : Compared F) : List (DedupCandidate F) :=
  compared.candidates.filterMap (fun (row, vector) =>
    let score := cosineSimilarity ops compared.target vector
    if ops.ge score threshold then
      some ⟨row.key, ops.round4 score, row.title, row.severity⟩
    else none)

/-- `scored.sort(key=..., reverse=True)` and the cut; the sort keeps the order of equal keys. -/
def rankedCandidates (limit : Nat) (scored : List (DedupCandidate F)) : List (DedupCandidate F) :=
  (scored.insertionSort (fun a b => ops.lt a.similarity b.similarity = false)).take limit

end Scores

section Handler

variable {F : Type} (ops : ScoreOps F) (env : EmbeddingEnv F) (py : PyText) (app : App)
  (order : NewestAlerts) (settings : EmbeddingSettings F)

/-- The response to what was compared. -/
def dedupResponse (body : DeduplicateRequest F) (granted : DedupGranted) (compared : Compared F) :
    DedupResponse F :=
  let threshold := body.threshold.getD settings.aiDedupThreshold
  ⟨granted.target.key, threshold, granted.client.provider, granted.client.model,
    rankedCandidates ops body.limit.val (scoredCandidates ops threshold compared)⟩

/-- The vectors that a granted request compares. -/
def compareAlerts (answers : Uuid → EmbeddingAnswer F) (granted : DedupGranted) (s : Server)
    (st : EmbeddingState F) : Except EmbeddingRaised (Compared F) × EmbeddingState F :=
  embedAll env settings.aiEmbeddingCacheTtl granted.client answers granted.target
    (dedupCorpus app order granted.analyst granted.target s) st

/-- `deduplicate_alert`. -/
def deduplicateAlert (answers : Uuid → EmbeddingAnswer F) (body : DeduplicateRequest F)
    (caller : Option Analyst) (s : Server) (st : EmbeddingState F) :
    Except DedupRaised (DedupResponse F) × EmbeddingState F :=
  match dedupChecks py app settings body caller s with
  | .error e => (.error (.request e), st)
  | .ok granted =>
      let (compared, st) := compareAlerts env app order settings answers granted s st
      ((compared.mapError .embedding).map (dedupResponse ops settings body granted), st)

end Handler

end OpenSoar
