/-
# `OpenSoar.Integrations.Answers` — which responses the connectors keep

A method of a connector asks its service for JSON and returns what `resp.json()` reads, whatever
the status of the response; `get_or_fetch` stores what the fetcher returns.  The body of an error
response is therefore stored like any other, and handed out until it expires.

A run is a list of calls, each with the answer that the service would give to it now
(`LookupCall`).  The state records the exchanges, the answers that were asked for.  What a lookup
is served from the cache is the body of an exchange for the same query, as long as no two values
of the run share a digest (`Kept`), so everything stored and served is the body of a success
exactly when no error response that was received has a body that reads as JSON
(`successesOnly_iff`).
-/
import Mathlib.Data.List.Induction
import OpenSoar.Integrations.Connectors
import OpenSoar.Python.Ascii

namespace OpenSoar

open Python TtlMap

/-! ## Answers -/

/-- What a request comes to: the status of a response and what `resp.json()` makes of its body,
or an exception of the client library. -/
inductive UpstreamAnswer where
  | response (status : Nat) (json : Except ConnectorError Json)
  | failed (e : ConnectorError)

/-- A 2xx response. -/
def UpstreamAnswer.IsSuccess : UpstreamAnswer → Prop
  | .response status _ => 200 ≤ status ∧ status ≤ 299
  | .failed _ => False

instance (answer : UpstreamAnswer) : Decidable answer.IsSuccess :=
  match answer with
  | .response status _ => inferInstanceAs (Decidable (200 ≤ status ∧ status ≤ 299))
  | .failed _ => inferInstanceAs (Decidable False)

/-- `_fetch`, the same in every method: the body is returned whatever the status. -/
def UpstreamAnswer.fetch : UpstreamAnswer → Except ConnectorError Json
  | .response _ json => json
  | .failed e => .error e

/-- What makes a query: the service, the path and the parameters. -/
def Lookup.query (lookup : Lookup) : String × String × List (String × String) :=
  (lookup.source, lookup.path, lookup.params)

/-! ## Runs of lookups -/

/-- A method called with a value, some time after the call before, and what the service answers
if it is asked. -/
structure LookupCall where
  method : ConnectorMethod
  value : String
  wait : Nat
  answer : UpstreamAnswer
  took : Nat

def LookupCall.lookup (call : LookupCall) : Lookup := call.method.lookup call.value

/-- A query that a service was asked, and its answer. -/
structure Exchange where
  lookup : Lookup
  answer : UpstreamAnswer

/-- The cache and its settings, which all connectors share. -/
structure SharedCache where
  backend : Lifetime
  settings : CacheSettings

structure LookupState where
  entries : CacheEntries
  now : Timestamp
  exchanges : List Exchange

/-- The call of `get_or_fetch` in a method. -/
def LookupCall.outcome (cache : SharedCache) (call : LookupCall) (s : LookupState) :
    FetchOutcome ConnectorError :=
  EnrichmentCache.getOrFetch cache.backend cache.settings call.lookup.source call.lookup.obsType
    call.lookup.value ⟨call.answer.fetch, call.took⟩
    (some (cache.settings.defaultTtlFor call.lookup.source)) (s.now + call.wait) s.entries

/-- The state a call leaves. -/
def LookupCall.after (cache : SharedCache) (call : LookupCall) (s : LookupState) :
    LookupState where
  entries := (call.outcome cache s).entries
  now := (call.outcome cache s).now
  exchanges :=
    if (call.outcome cache s).fetched then s.exchanges ++ [⟨call.lookup, call.answer⟩]
    else s.exchanges

/-- The state after a list of calls, from an empty cache. -/
def runLookups (cache : SharedCache) (calls : List LookupCall) : LookupState :=
  calls.foldl (fun s call => call.after cache s) ⟨∅, 0, []⟩

theorem runLookups_concat {cache : SharedCache} {calls : List LookupCall} {call : LookupCall} :
    runLookups cache (calls ++ [call]) = call.after cache (runLookups cache calls) :=
  List.foldl_concat ..

/-- It is the outcome of `Connectors`, where the environment answers as the call says. -/
theorem outcome_eq_lookup {cache : SharedCache} {call : LookupCall} {s : LookupState}
    {env : ConnectorEnv} {integration : IntegrationInstance} {o : Outside}
    (hbackend : env.backend = cache.backend) (hsettings : env.settings = cache.settings)
    (hentries : o.entries = s.entries) (hnow : o.now = s.now + call.wait)
    (hrespond : env.respond o.requests (call.lookup.request integration) =
      ⟨call.answer.fetch, call.took⟩) :
    call.lookup.outcome env integration o = call.outcome cache s := by
  rw [Lookup.outcome, LookupCall.outcome, hbackend, hsettings, hentries, hnow, hrespond]

/-- The body of a response is under a key, expired or not. -/
def Stored (s : LookupState) (key : String) (body : Json) : Prop :=
  (s.entries.lookup key).map Entry.value = some (some body)

/-- Nothing but the bodies of successes is served, or stored, in a run. -/
structure SuccessesOnly (cache : SharedCache) (calls : List LookupCall) : Prop where
  served : ∀ before call rest, calls = before ++ call :: rest →
    ∀ value, (call.outcome cache (runLookups cache before)).fetched = false →
      (call.outcome cache (runLookups cache before)).result = .ok value →
      ∃ exchange ∈ (runLookups cache before).exchanges,
        exchange.lookup.query = call.lookup.query ∧ exchange.answer.IsSuccess ∧
          exchange.answer.fetch = .ok value
  stored : ∀ before call rest, calls = before ++ call :: rest →
    ∀ body, (call.outcome cache (runLookups cache before)).fetched = true →
      ¬ call.answer.IsSuccess → call.answer.fetch = .ok body →
      ¬ Stored (call.after cache (runLookups cache before)) call.lookup.key body

/-- No two values that are looked up share the digest in their keys. -/
def DigestsDiffer (calls : List LookupCall) : Prop :=
  ∀ call ∈ calls, ∀ other ∈ calls,
    digest call.lookup.value = digest other.lookup.value →
      call.lookup.value = other.lookup.value

/-- No error response that was received has a body that reads as JSON. -/
def ErrorsUnread (cache : SharedCache) (calls : List LookupCall) : Prop :=
  ∀ exchange ∈ (runLookups cache calls).exchanges,
    ¬ exchange.answer.IsSuccess → ∀ body, exchange.answer.fetch ≠ .ok body

/-! ## What a key tells -/

theorem integrationType_inj {cls cls' : ConnectorClass}
    (h : cls.integrationType = cls'.integrationType) : cls = cls' := by
  cases cls <;> cases cls' <;> first | rfl | exact absurd h (by decide)

theorem no_colon_in_source (method : ConnectorMethod) (value : String) :
    ':' ∉ (method.lookup value).source.toList := by
  rw [lookup_source]
  exact integrationType_colon method.cls

theorem query_virusTotal {method method' : ConnectorMethod} {value value' : String}
    (hcls : method.cls = .virusTotal) (hcls' : method'.cls = .virusTotal)
    (htype : (method.lookup value).obsType = (method'.lookup value').obsType)
    (hvalue : (method.lookup value).value = (method'.lookup value').value) :
    (method.lookup value).query = (method'.lookup value').query := by
  cases method <;> cases hcls <;> cases method' <;> cases hcls' <;>
    simp [ConnectorMethod.lookup, VirusTotal.lookupIp, VirusTotal.lookupHash,
      VirusTotal.lookupDomain] at htype hvalue <;> rw [hvalue]

/-- The age in a value is what stands after its last bar. -/
theorem query_checkIp {ip ip' : String} {age age' : Int}
    (h : (AbuseIpDb.checkIp ip age).value = (AbuseIpDb.checkIp ip' age').value) :
    (AbuseIpDb.checkIp ip age).query = (AbuseIpDb.checkIp ip' age').query := by
  have hbar : ∀ n : Int, '|' ∉ (toString n).toList.reverse ++ "maxAgeInDays=".toList.reverse := by
    intro n hmem
    rcases List.mem_append.mp hmem with hn | hname
    · exact absurd (toString_chars n '|' (List.mem_reverse.mp hn)) (by decide)
    · exact absurd hname (by decide)
  have hsplit : ∀ (n : Int) (s : String),
      (toString n).toList.reverse ++ ("|maxAgeInDays=".toList.reverse ++ s.toList.reverse) =
        ((toString n).toList.reverse ++ "maxAgeInDays=".toList.reverse) ++
          '|' :: s.toList.reverse := by
    intro n s
    rw [List.append_assoc]
    rfl
  have hlist := congrArg (fun s => s.toList.reverse) h
  simp only [AbuseIpDb.checkIp, String.toList_append, List.reverse_append] at hlist
  rw [hsplit, hsplit] at hlist
  obtain ⟨hage, hip⟩ := append_separator_inj (hbar age) (hbar age') hlist
  have hip' := String.toList_inj.mp (List.reverse_injective hip)
  have hage' := String.toList_inj.mp (List.reverse_injective (List.append_cancel_right hage))
  rw [Lookup.query, Lookup.query, AbuseIpDb.checkIp, AbuseIpDb.checkIp, hip', hage']

/-- The prefixes of the values differ in their first letters. -/
theorem query_greyNoise {method method' : ConnectorMethod} {value value' : String}
    (hcls : method.cls = .greyNoise) (hcls' : method'.cls = .greyNoise)
    (htype : (method.lookup value).obsType = (method'.lookup value').obsType)
    (hvalue : (method.lookup value).value = (method'.lookup value').value) :
    (method.lookup value).query = (method'.lookup value').query := by
  have hlist := congrArg String.toList hvalue
  cases method <;> cases hcls <;> cases method' <;> cases hcls' <;>
    simp [ConnectorMethod.lookup, GreyNoise.quickLookup, GreyNoise.context, GreyNoise.riot,
      GreyNoise.gnql] at htype hlist <;> rw [String.toList_inj.mp hlist]

/-- The source, the type and the value of a key tell the query. -/
theorem query_eq {method method' : ConnectorMethod} {value value' : String}
    (hsource : (method.lookup value).source = (method'.lookup value').source)
    (htype : (method.lookup value).obsType = (method'.lookup value').obsType)
    (hvalue : (method.lookup value).value = (method'.lookup value').value) :
    (method.lookup value).query = (method'.lookup value').query := by
  rw [lookup_source, lookup_source] at hsource
  have hcls := integrationType_inj hsource
  cases h : method.cls with
  | virusTotal => exact query_virusTotal h (hcls.symm.trans h) htype hvalue
  | abuseIpDb =>
      cases method with
      | checkIp age =>
          cases method' with
          | checkIp age' => exact query_checkIp hvalue
          | _ => cases hcls
      | _ => cases h
  | greyNoise => exact query_greyNoise h (hcls.symm.trans h) htype hvalue

/-- Where no digests collide, a key tells the query. -/
theorem query_of_key {calls : List LookupCall} (hdigests : DigestsDiffer calls)
    {call other : LookupCall} (hcall : call ∈ calls) (hother : other ∈ calls)
    (h : call.lookup.key = other.lookup.key) : call.lookup.query = other.lookup.query := by
  obtain ⟨hsource, htype, hdigest⟩ :=
    (buildKey_inj (no_colon_in_source _ _) (no_colon_in_source _ _)).mp h
  exact query_eq hsource htype (hdigests call hcall other hother hdigest)

/-! ## What one call does -/

section Call

variable {cache : SharedCache} {call : LookupCall} {s : LookupState} {key : String} {body : Json}

theorem stored_of_decoded {now : Timestamp} {value : Json}
    (h : decoded (peek cache.backend s.entries key now) = some value) : Stored s key value := by
  obtain ⟨entry, hentry, hlive⟩ := Option.bind_eq_some_iff.mp (decoded_eq_some h)
  split at hlive
  next => rw [Stored, hentry, Option.map_some, Option.some.inj hlive]
  next => cases hlive

/-- The three courses of a call: a hit, an answer that is stored, and an exception. -/
theorem outcome_cases (cache : SharedCache) (call : LookupCall) (s : LookupState) :
    (∃ value, Stored s call.lookup.key value ∧
      call.outcome cache s = ⟨.ok value, false, s.entries, s.now + call.wait⟩) ∨
    (∃ body, call.answer.fetch = .ok body ∧
      call.outcome cache s = ⟨.ok body, true,
        EnrichmentCache.set cache.backend call.lookup.source call.lookup.obsType
          call.lookup.value body (cache.settings.defaultTtlFor call.lookup.source)
          (s.now + call.wait + call.took)
          (TtlMap.get cache.backend s.entries call.lookup.key (s.now + call.wait)).2,
        s.now + call.wait + call.took⟩) ∨
    (∃ e, call.answer.fetch = .error e ∧
      call.outcome cache s = ⟨.error e, true,
        (TtlMap.get cache.backend s.entries call.lookup.key (s.now + call.wait)).2,
        s.now + call.wait + call.took⟩) := by
  by_cases hfresh : Fresh cache.backend s.entries call.lookup.key (s.now + call.wait)
  · obtain ⟨value, hvalue⟩ := Option.isSome_iff_exists.mp hfresh
    exact Or.inl ⟨value, stored_of_decoded hvalue, getOrFetch_of_fresh hvalue⟩
  · refine Or.inr ?_
    cases hfetch : call.answer.fetch with
    | ok body => exact Or.inl ⟨body, rfl, getOrFetch_of_answer hfresh hfetch⟩
    | error e => exact Or.inr ⟨e, rfl, getOrFetch_of_failure hfresh hfetch⟩

/-- A call stores the body that it was answered, under its key. -/
theorem stored_after (h : Stored (call.after cache s) key body) :
    Stored s key body ∨
      (call.outcome cache s).fetched = true ∧ key = call.lookup.key ∧
        call.answer.fetch = .ok body := by
  have hget : ∀ {now : Timestamp} {key : String},
      ((TtlMap.get cache.backend s.entries call.lookup.key now).2.lookup key).map Entry.value =
        some (some body) → Stored s key body := by
    intro now key hstored
    unfold TtlMap.get at hstored
    split at hstored
    next => exact hstored
    next =>
      by_cases hkey : key = call.lookup.key
      · subst hkey
        rw [AList.lookup_erase] at hstored
        cases hstored
      · rwa [AList.lookup_erase_ne hkey] at hstored
  unfold Stored LookupCall.after at h
  rcases outcome_cases cache call s with ⟨value, -, hout⟩ | ⟨answer, hfetch, hout⟩ | ⟨e, -, hout⟩
  · rw [hout] at h
    exact Or.inl h
  · rw [hout] at h ⊢
    by_cases hkey : key = call.lookup.key
    · subst hkey
      rw [EnrichmentCache.set, TtlMap.set, ← Lookup.key, AList.lookup_insert] at h
      cases h
      exact Or.inr ⟨rfl, rfl, hfetch⟩
    · rw [EnrichmentCache.set, TtlMap.set, ← Lookup.key, AList.lookup_insert_ne hkey] at h
      exact Or.inl (hget h)
  · rw [hout] at h
    exact Or.inl (hget h)

/-- Whatever the status of the response. -/
theorem stored_of_fetched (hfetched : (call.outcome cache s).fetched = true)
    (hfetch : call.answer.fetch = .ok body) :
    Stored (call.after cache s) call.lookup.key body := by
  unfold Stored LookupCall.after
  rcases outcome_cases cache call s with ⟨value, -, hout⟩ | ⟨answer, hanswer, hout⟩ | ⟨e, herror, -⟩
  · rw [hout] at hfetched
    cases hfetched
  · rw [hout, EnrichmentCache.set, TtlMap.set, ← Lookup.key, AList.lookup_insert]
    cases hfetch.symm.trans hanswer
    rfl
  · cases hfetch.symm.trans herror

/-- What is served was stored. -/
theorem stored_of_served {value : Json} (hfetched : (call.outcome cache s).fetched = false)
    (hresult : (call.outcome cache s).result = .ok value) : Stored s call.lookup.key value := by
  rcases outcome_cases cache call s with ⟨served, hstored, hout⟩ | ⟨answer, -, hout⟩ | ⟨e, -, hout⟩
  · rw [hout] at hresult
    cases hresult
    exact hstored
  · rw [hout] at hfetched
    cases hfetched
  · rw [hout] at hfetched
    cases hfetched

end Call

/-! ## Runs -/

section Lookups

variable {cache : SharedCache} {calls : List LookupCall}

/-- The exchanges of a run are the answers of the calls that asked. -/
theorem mem_exchanges {exchange : Exchange} :
    exchange ∈ (runLookups cache calls).exchanges ↔
      ∃ before call rest, calls = before ++ call :: rest ∧
        (call.outcome cache (runLookups cache before)).fetched = true ∧
        exchange = ⟨call.lookup, call.answer⟩ := by
  induction calls using List.reverseRecOn with
  | nil =>
      refine iff_of_false List.not_mem_nil ?_
      rintro ⟨before, call, rest, hsplit, -⟩
      exact absurd hsplit.symm (List.append_ne_nil_of_right_ne_nil before (List.cons_ne_nil _ _))
  | append_singleton calls last ih =>
      have hlast : exchange ∈ (runLookups cache (calls ++ [last])).exchanges ↔
          exchange ∈ (runLookups cache calls).exchanges ∨
            (last.outcome cache (runLookups cache calls)).fetched = true ∧
              exchange = ⟨last.lookup, last.answer⟩ := by
        rw [runLookups_concat, LookupCall.after]
        dsimp only
        split
        next h => simp [h]
        next h => simp [h]
      rw [hlast, ih]
      constructor
      · rintro (⟨before, call, rest, rfl, hfetched, rfl⟩ | ⟨hfetched, rfl⟩)
        · exact ⟨before, call, rest ++ [last], by simp, hfetched, rfl⟩
        · exact ⟨calls, last, [], rfl, hfetched, rfl⟩
      · rintro ⟨before, call, rest, hsplit, hfetched, rfl⟩
        -- the call that asked is the last one or one before it
        rcases List.eq_nil_or_concat rest with rfl | ⟨rest, final, rfl⟩
        · obtain ⟨rfl, hcall⟩ := List.append_inj' hsplit rfl
          cases hcall
          exact Or.inr ⟨hfetched, rfl⟩
        · rw [List.concat_eq_append, ← List.cons_append, ← List.append_assoc] at hsplit
          obtain ⟨rfl, -⟩ := List.append_inj' hsplit rfl
          exact Or.inl ⟨before, call, rest, rfl, hfetched, rfl⟩

/-- Every text in the cache is the body of an exchange for its key. -/
theorem exchange_of_stored {key : String} {body : Json}
    (h : Stored (runLookups cache calls) key body) :
    ∃ exchange ∈ (runLookups cache calls).exchanges,
      exchange.lookup.key = key ∧ exchange.answer.fetch = .ok body := by
  induction calls using List.reverseRecOn with
  | nil => cases h
  | append_singleton calls last ih =>
      rw [runLookups_concat] at h
      rcases stored_after h with hbefore | ⟨hfetched, rfl, hfetch⟩
      · obtain ⟨exchange, hmem, hexchange⟩ := ih hbefore
        obtain ⟨before, call, rest, rfl, hasked⟩ := mem_exchanges.mp hmem
        exact ⟨exchange, mem_exchanges.mpr ⟨before, call, rest ++ [last], by simp, hasked⟩,
          hexchange⟩
      · exact ⟨_, mem_exchanges.mpr ⟨calls, last, [], rfl, hfetched, rfl⟩, rfl, hfetch⟩

/-- **Which runs serve and store successes only.**  For every sequence of lookups of the three
connectors, and every answer of the services: those that receive no error response with a body
that reads as JSON. -/
theorem successesOnly_iff (hdigests : DigestsDiffer calls) :
    SuccessesOnly cache calls ↔ ErrorsUnread cache calls := by
  constructor
  · intro honly exchange hmem herror body hbody
    obtain ⟨before, call, rest, hsplit, hfetched, rfl⟩ := mem_exchanges.mp hmem
    exact honly.stored before call rest hsplit body hfetched herror hbody
      (stored_of_fetched hfetched hbody)
  · intro herrors
    constructor
    · intro before call rest hsplit value hfetched hresult
      obtain ⟨exchange, hmem, hkey, hbody⟩ :=
        exchange_of_stored (stored_of_served hfetched hresult)
      obtain ⟨earlier, asked, later, hearlier, hasked, rfl⟩ := mem_exchanges.mp hmem
      have hquery : asked.lookup.query = call.lookup.query :=
        query_of_key hdigests (by simp [hsplit, hearlier]) (by simp [hsplit]) hkey
      refine ⟨_, hmem, hquery, ?_, hbody⟩
      by_contra herror
      refine herrors _ (mem_exchanges.mpr ⟨earlier, asked, later ++ call :: rest, ?_, hasked, rfl⟩)
        herror value hbody
      rw [hsplit, hearlier, List.append_assoc, List.cons_append]
    · intro before call rest hsplit body hfetched herror hbody
      exact absurd hbody
        (herrors _ (mem_exchanges.mpr ⟨before, call, rest, hsplit, hfetched, rfl⟩) herror body)

end Lookups

/-! ## A rate limit, kept, and a page of a gateway, not -/

/-- The in-memory cache, with the settings as they are shipped. -/
def shippedCache : SharedCache := ⟨inMemoryCacheBackend, .shipped⟩

/-- A lookup that meets the rate limit of VirusTotal. -/
def rateLimited : LookupCall where
  method := .lookupIp
  value := "8.8.8.8"
  wait := 0
  answer := .response 429 (.ok (.obj [("error", .str "QuotaExceededError")]))
  took := 0

/-- The same lookup an hour later. -/
def anHourLater : LookupCall := { rateLimited with wait := 3600 * microsecondsPerSecond }

/-- The error is served in place of a verdict. -/
theorem rateLimit_served : ¬ SuccessesOnly shippedCache [rateLimited, anHourLater] := by
  intro honly
  have hstale : ¬ Fresh inMemoryCacheBackend ∅ rateLimited.lookup.key (0 + 0) := by
    intro h
    cases h
  have hfirst : rateLimited.outcome shippedCache ⟨∅, 0, []⟩ = _ :=
    getOrFetch_of_answer hstale rfl
  have hserved : decoded (peek inMemoryCacheBackend (runLookups shippedCache [rateLimited]).entries
      anHourLater.lookup.key (0 + 0 + 0 + 3600 * microsecondsPerSecond)) =
        some (.obj [("error", .str "QuotaExceededError")]) := by
    show decoded (peek _ (rateLimited.outcome shippedCache ⟨∅, 0, []⟩).entries _ _) = _
    rw [hfirst]
    exact congrArg decoded (peek_set_self.trans (if_pos (by decide)))
  have hagain : anHourLater.outcome shippedCache (runLookups shippedCache [rateLimited]) = _ :=
    getOrFetch_of_fresh hserved
  obtain ⟨exchange, hmem, -, hsuccess, -⟩ :=
    honly.served [rateLimited] anHourLater [] rfl _ (by rw [hagain]) (by rw [hagain])
  obtain ⟨before, call, rest, hsplit, -, rfl⟩ := mem_exchanges.mp hmem
  have hcall : call ∈ [rateLimited] := hsplit ▸ List.mem_append_right before List.mem_cons_self
  rw [List.mem_singleton.mp hcall] at hsuccess
  exact absurd hsuccess (by decide)

/-- A lookup that meets the error page of a gateway, which is no JSON. -/
def gatewayDown : LookupCall := { rateLimited with answer := .response 502 (.error .other) }

/-- A lookup that is answered. -/
def answered : LookupCall :=
  { rateLimited with answer := .response 200 (.ok (.obj [("data", .obj [])])) }

theorem answered_after_gateway : DigestsDiffer [gatewayDown, answered, answered] ∧
    SuccessesOnly shippedCache [gatewayDown, answered, answered] := by
  have hvalue : ∀ call ∈ [gatewayDown, answered, answered], call.lookup.value = "8.8.8.8" := by
    intro call hcall
    simp only [List.mem_cons, List.not_mem_nil, or_false] at hcall
    rcases hcall with rfl | rfl | rfl <;> rfl
  have hanswer : ∀ call ∈ [gatewayDown, answered, answered],
      ¬ call.answer.IsSuccess → call.answer.fetch = .error .other := by
    intro call hcall herror
    simp only [List.mem_cons, List.not_mem_nil, or_false] at hcall
    rcases hcall with rfl | rfl | rfl
    · rfl
    · exact absurd ⟨by decide, by decide⟩ herror
    · exact absurd ⟨by decide, by decide⟩ herror
  have hdigests : DigestsDiffer [gatewayDown, answered, answered] :=
    fun call hcall other hother _ => (hvalue call hcall).trans (hvalue other hother).symm
  refine ⟨hdigests, (successesOnly_iff hdigests).mpr ?_⟩
  intro exchange hmem herror body hbody
  obtain ⟨before, call, rest, hsplit, -, rfl⟩ := mem_exchanges.mp hmem
  have hcall : call ∈ [gatewayDown, answered, answered] :=
    hsplit ▸ List.mem_append_right before List.mem_cons_self
  cases hbody.symm.trans (hanswer call hcall herror)

end OpenSoar
