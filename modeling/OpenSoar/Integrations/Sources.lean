/-
# `OpenSoar.Integrations.Sources` — the cache keys of a source

`build_key` joins the source, the type and a digest of the value by colons, and
`invalidate_source` deletes what begins with the source and a colon.  A source that goes on
where another one has its colon shares keys with it, and is deleted with it: the keys tell the
sources apart, and an invalidation is exact, precisely where no source in use is another one
followed by a colon and anything (`buildKey_injOn_iff`, `inMemory_exact_iff`).

Redis takes the beginning for a pattern, so there an invalidation is exact when the pattern
also means what it says (`redis_exact_iff`), which it does for a source without `*`, `?`, `[`
and backslash.
-/
import Mathlib.Data.Set.Function
import Mathlib.Data.Set.Prod
import OpenSoar.Integrations.Backends

namespace OpenSoar

open Python TtlMap Glob

/-- A call of `EnrichmentCache` that goes to its backend, or whole seconds that go by. -/
inductive CacheRequest where
  | get (source obsType value : String)
  | set (source obsType value text : String) (ttlSeconds : Int)
  | invalidate (source obsType value : String)
  | invalidateSource (source : String)
  | advance (seconds : Nat)

/-- What the backend is asked. -/
def CacheRequest.op : CacheRequest → CacheOp
  | .get source obsType value => .get (buildKey source obsType value)
  | .set source obsType value text ttlSeconds =>
      .set (buildKey source obsType value) text ttlSeconds
  | .invalidate source obsType value => .delete (buildKey source obsType value)
  | .invalidateSource source => .deletePrefix (sourcePrefix source)
  | .advance seconds => .advance seconds

/-- The call is about a source in use. -/
def CacheRequest.About (sources : Set String) : CacheRequest → Prop
  | .get source _ _ => source ∈ sources
  | .set source _ _ _ _ => source ∈ sources
  | .invalidate source _ _ => source ∈ sources
  | .invalidateSource source => source ∈ sources
  | .advance _ => True

/-- The store after some calls. -/
def storeAfter (step : BackendState → CacheOp → CacheAnswer × BackendState)
    (requests : List CacheRequest) : BackendState :=
  requests.foldl (fun s request => (step s request.op).2) .empty

/-- After any calls about the sources in use, `invalidate_source` leaves no entry of its source
and every entry of the other sources. -/
def InvalidatesExactly (backend : Lifetime)
    (step : BackendState → CacheOp → CacheAnswer × BackendState) (sources : Set String) : Prop :=
  ∀ requests : List CacheRequest, (∀ request ∈ requests, request.About sources) →
    ∀ source ∈ sources, ∀ other ∈ sources, ∀ obsType value : String,
      peek backend
        (step (storeAfter step requests) (CacheRequest.invalidateSource source).op).2.entries
          (buildKey other obsType value) (storeAfter step requests).now =
        if other = source then none
        else peek backend (storeAfter step requests).entries (buildKey other obsType value)
          (storeAfter step requests).now

/-- No source is another one followed by a colon. -/
def SourcesApart (sources : Set String) : Prop :=
  ∀ source ∈ sources, ∀ rest : String, source ++ ":" ++ rest ∉ sources

/-- On the keys of the sources in use, the pattern of each of them means its beginning. -/
def PatternsLiteral (sources : Set String) : Prop :=
  ∀ source ∈ sources, ∀ other ∈ sources, ∀ obsType value : String,
    scanMatches (sourcePrefix source) (buildKey other obsType value) =
      startsWith (sourcePrefix source) (buildKey other obsType value)

/-! ## Keys -/

section Keys

variable {source other obsType value : String} {sources values : Set String}

/-- A key, from behind what all keys begin with. -/
theorem buildKey_toList : (buildKey source obsType value).toList = cacheKeyPrefix.toList ++
    (source.toList ++ ':' :: (obsType.toList ++ ':' :: digest value)) := by
  simp [buildKey, String.toList_append]

theorem sourcePrefix_toList : (sourcePrefix source).toList =
    cacheKeyPrefix.toList ++ (source.toList ++ [':']) := by
  simp [sourcePrefix, String.toList_append]

/-- No source is itself with a colon and more behind it. -/
theorem append_colon_ne (source rest : String) : source ++ ":" ++ rest ≠ source := by
  intro heq
  have hlength := congrArg String.length heq
  have hcolon : ":".length = 1 := rfl
  simp only [String.length_append] at hlength
  omega

/-- A source in use that goes on where another one ends. -/
theorem SourcesApart.not_longer (h : SourcesApart sources) (hsource : source ∈ sources)
    (hother : other ∈ sources) {more : List Char}
    (hmore : other.toList = source.toList ++ ':' :: more) :
    False := by
  refine h source hsource (String.ofList more) ?_
  have heq : source ++ ":" ++ String.ofList more = other := by
    rw [← String.toList_inj, hmore]
    simp [String.toList_append]
  rw [heq]
  exact hother

/-- Sources without colons are apart. -/
theorem sourcesApart_of_no_colon (h : ∀ source ∈ sources, ':' ∉ source.toList) :
    SourcesApart sources := by
  intro source _ rest hlonger
  exact h _ hlonger (by simp [String.toList_append])

/-- Where the sources are apart, a key shows its source. -/
theorem SourcesApart.source_eq (h : SourcesApart sources) (hsource : source ∈ sources)
    (hother : other ∈ sources) {rest rest' : List Char}
    (hsame : source.toList ++ ':' :: rest = other.toList ++ ':' :: rest') :
    source = other ∧ rest = rest' := by
  rcases append_separator_cases hsame with ⟨heq, hrest⟩ | ⟨more, hmore, -⟩ | ⟨more, hmore, -⟩
  · exact ⟨String.toList_inj.mp heq, hrest⟩
  · exact (h.not_longer hsource hother hmore).elim
  · exact (h.not_longer hother hsource hmore).elim

/-- A key begins with what `invalidate_source` looks for. -/
theorem startsWith_sourcePrefix :
    startsWith (sourcePrefix source) (buildKey other obsType value) = true ↔
    ∃ rest, source.toList ++ ':' :: rest =
      other.toList ++ ':' :: (obsType.toList ++ ':' :: digest value) := by
  rw [startsWith, List.isPrefixOf_iff_prefix, buildKey_toList, sourcePrefix_toList,
    List.prefix_append_right_inj]
  constructor
  · rintro ⟨rest, hrest⟩
    exact ⟨rest, by rw [← hrest, List.append_assoc, List.singleton_append]⟩
  · rintro ⟨rest, hrest⟩
    exact ⟨rest, by rw [List.append_assoc, List.singleton_append, hrest]⟩

/-- A source that goes on after the colon of another one can have the keys of it. -/
theorem buildKey_shared (source rest obsType value : String) :
    buildKey source (rest ++ ":" ++ obsType) value = buildKey (source ++ ":" ++ rest) obsType
      value := by
  rw [← String.toList_inj, buildKey_toList, buildKey_toList]
  simp [String.toList_append]

/-- The type and the digest of a key whose source is known. -/
theorem rest_inj {obsType' value' : String}
    (h : obsType.toList ++ ':' :: digest value = obsType'.toList ++ ':' :: digest value') :
    obsType = obsType' ∧ digest value = digest value' := by
  -- the digests have one length, so the types end at the same place
  obtain ⟨htype, hdigest⟩ := List.append_inj' h (by simp only [List.length_cons, length_digest])
  exact ⟨String.toList_inj.mp htype, (List.cons.inj hdigest).2⟩

/-- **The keys of the cache** are told apart by their sources, types and values exactly where the
sources are apart, for values that have different digests. -/
theorem buildKey_injOn_iff (hvalues : values.Nonempty) (hdigest : Set.InjOn digest values) :
    Set.InjOn (fun entry : String × String × String => buildKey entry.1 entry.2.1 entry.2.2)
        (sources ×ˢ Set.univ ×ˢ values) ↔ SourcesApart sources := by
  constructor
  · intro hinj source hsource rest hlonger
    obtain ⟨value, hvalue⟩ := hvalues
    have hsame : (source, rest ++ ":" ++ "ip", value) = (source ++ ":" ++ rest, "ip", value) := by
      refine hinj ⟨hsource, trivial, hvalue⟩ ⟨hlonger, trivial, hvalue⟩ ?_
      show buildKey source (rest ++ ":" ++ "ip") value = buildKey (source ++ ":" ++ rest) "ip" value
      exact buildKey_shared source rest "ip" value
    exact append_colon_ne source rest (congrArg Prod.fst hsame).symm
  · rintro hapart ⟨source, obsType, value⟩ ⟨hsource, -, hvalue⟩ ⟨source', obsType', value'⟩
      ⟨hsource', -, hvalue'⟩ hkey
    have hlist := congrArg String.toList hkey
    simp only [buildKey_toList, List.append_cancel_left_eq] at hlist
    obtain ⟨hsources, hrest⟩ := hapart.source_eq hsource hsource' hlist
    obtain ⟨htypes, hdigests⟩ := rest_inj hrest
    exact Prod.ext hsources (Prod.ext htypes (hdigest hvalue hvalue' hdigests))

/-- A test that passes the keys of its source and no others tells the sources apart: one that
goes on after the colon of another one shares a key with it. -/
theorem sourcesApart_of_exact {covers : String → String → Bool}
    (h : ∀ source ∈ sources, ∀ other ∈ sources, ∀ obsType value : String,
      covers (sourcePrefix source) (buildKey other obsType value) = true ↔ other = source) :
    SourcesApart sources := by
  intro source hsource rest hlonger
  have hown := (h source hsource source hsource (rest ++ ":" ++ "ip") "").mpr rfl
  rw [buildKey_shared] at hown
  exact append_colon_ne source rest ((h source hsource _ hlonger "ip" "").mp hown)

/-- Sources that are apart begin no key of each other. -/
theorem startsWith_exact_iff :
    (∀ source ∈ sources, ∀ other ∈ sources, ∀ obsType value : String,
      startsWith (sourcePrefix source) (buildKey other obsType value) = true ↔ other = source) ↔
      SourcesApart sources := by
  refine ⟨sourcesApart_of_exact, ?_⟩
  intro hapart source hsource other hother obsType value
  rw [startsWith_sourcePrefix]
  constructor
  · rintro ⟨rest, hrest⟩
    exact (hapart.source_eq hsource hother hrest).1.symm
  · rintro rfl
    exact ⟨_, rfl⟩

end Keys

/-! ## Invalidation -/

section Invalidation

variable {backend : Lifetime} {matching : String → BackendState → List String}
  {covers : String → String → Bool} {sources : Set String}

/-- A store deletes by a test on keys: after `delete_prefix` the keys that pass it are gone. -/
def DeletesBy (backend : Lifetime) (matching : String → BackendState → List String)
    (covers : String → String → Bool) : Prop :=
  ∀ (s : BackendState) (start key : String),
    peek backend (backendStep backend matching s (.deletePrefix start)).2.entries key s.now =
      if covers start key = true then none else peek backend s.entries key s.now

theorem peek_deletePrefix (s : BackendState) (start key : String) :
    peek backend (backendStep backend matching s (.deletePrefix start)).2.entries key s.now =
      if key ∈ matching start s then none else peek backend s.entries key s.now := by
  show peek backend (deleteAll s.entries (matching start s)) key s.now = _
  unfold peek
  rw [lookup_deleteAll]
  split <;> rfl

theorem inMemory_deletesBy : DeletesBy inMemoryCacheBackend inMemoryMatching startsWith := by
  intro s start key
  rw [peek_deletePrefix, inMemoryMatching]
  by_cases hkey : key ∈ s.entries.keys
  · simp only [List.mem_filter, hkey, true_and]
  · -- a key that is not there is not there after the call either
    have hnone : peek inMemoryCacheBackend s.entries key s.now = none := by
      rw [peek, AList.lookup_eq_none.mpr (fun hmem => hkey (AList.mem_keys.mp hmem)),
        Option.bind_none]
    rw [hnone, ite_self, ite_self]

theorem redis_deletesBy : DeletesBy redisCacheBackend redisMatching scanMatches := by
  intro s start key
  rw [peek_deletePrefix, redisMatching]
  cases hpeek : peek redisCacheBackend s.entries key s.now with
  | none => rw [ite_self, ite_self]
  | some value =>
      obtain ⟨entry, hentry, -⟩ := peek_eq_some hpeek
      have hkey : key ∈ s.entries.keys := by
        rw [← AList.mem_keys, ← AList.lookup_isSome, hentry]
        rfl
      simp only [List.mem_filter, hkey, hpeek, Option.isSome_some, Bool.true_and, true_and]

/-- An invalidation is exact when the test passes the keys of the source and no others. -/
theorem invalidatesExactly_iff (hdeletes : DeletesBy backend matching covers)
    (hlive : backend.live (backend.expiry 0 1) 0 = true) :
    InvalidatesExactly backend (backendStep backend matching) sources ↔
      ∀ source ∈ sources, ∀ other ∈ sources, ∀ obsType value : String,
        covers (sourcePrefix source) (buildKey other obsType value) = true ↔ other = source := by
  constructor
  · intro hexact source hsource other hother obsType value
    -- an entry of the other source, set for a second, is there to be deleted or left
    have hone :=
      hexact [.set other obsType value "report" 1] (by simpa [CacheRequest.About] using hother)
      source hsource other hother obsType value
    rw [CacheRequest.op, hdeletes] at hone
    have hthere : peek backend
        (storeAfter (backendStep backend matching) [.set other obsType value "report" 1]).entries
        (buildKey other obsType value) 0 = some "report" := by
      show peek backend (TtlMap.set backend ∅ (buildKey other obsType value) "report" 1 0) _ 0 = _
      rw [peek_set_self, if_pos hlive]
    have hnow : (storeAfter (backendStep backend matching)
        [.set other obsType value "report" 1]).now = 0 := rfl
    rw [hnow, hthere] at hone
    by_cases hcovers : covers (sourcePrefix source) (buildKey other obsType value) = true
    · refine iff_of_true hcovers ?_
      by_contra hne
      rw [if_pos hcovers, if_neg hne] at hone
      cases hone
    · refine iff_of_false hcovers ?_
      intro heq
      rw [if_neg hcovers, if_pos heq] at hone
      cases hone
  · intro hcovers requests _ source hsource other hother obsType value
    rw [CacheRequest.op, hdeletes]
    simp only [hcovers source hsource other hother obsType value]

/-- **In memory** an invalidation is exact where the sources are apart. -/
theorem inMemory_exact_iff :
    InvalidatesExactly inMemoryCacheBackend inMemoryStep sources ↔ SourcesApart sources := by
  rw [← startsWith_exact_iff]
  exact invalidatesExactly_iff inMemory_deletesBy rfl

/-- **In Redis** it is where, besides, their patterns mean what they say. -/
theorem redis_exact_iff : InvalidatesExactly redisCacheBackend redisStep sources ↔
    SourcesApart sources ∧ PatternsLiteral sources := by
  have hexact : InvalidatesExactly redisCacheBackend redisStep sources ↔ _ :=
    invalidatesExactly_iff redis_deletesBy rfl
  rw [hexact]
  constructor
  · intro hmatches
    have hapart : SourcesApart sources := sourcesApart_of_exact hmatches
    refine ⟨hapart, fun source hsource other hother obsType value => ?_⟩
    rw [Bool.eq_iff_iff, hmatches source hsource other hother,
      startsWith_exact_iff.mpr hapart source hsource other hother]
  · rintro ⟨hapart, hliteral⟩ source hsource other hother obsType value
    rw [hliteral source hsource other hother]
    exact startsWith_exact_iff.mpr hapart source hsource other hother obsType value

/-- Sources without a byte that opens a token. -/
theorem patternsLiteral_of_plain (h : ∀ source ∈ sources, ∀ c ∈ utf8 source, Plain c) :
    PatternsLiteral sources :=
  fun source hsource other _ obsType value =>
    scanMatches_sourcePrefix (h source hsource) (buildKey other obsType value)

end Invalidation

end OpenSoar
