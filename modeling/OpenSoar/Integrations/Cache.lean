/-
# `OpenSoar.Integrations.Cache` — the enrichment cache

`integrations/cache.py`: a facade over a store of texts with a time to live, in memory or in
Redis.  The key of an entry is made of the source, the type and a digest of the value, so two
keys of one source are equal exactly when the types and the digests are (`buildKey_inj`).

A cached text is kept as what `json.loads` reads from it, `none` where it is no JSON.  The
facade hands out a value that is there, can be read and is not `null` (`Fresh`): anything
else is a miss, also to `should_enrich`.
-/
import OpenSoar.Lib.TtlMap
import OpenSoar.Models
import OpenSoar.Python.Hashlib

namespace OpenSoar

open Python TtlMap

/-! ## The backends -/

def microsecondsPerSecond : Nat := 1000000

/-- `InMemoryCacheBackend`: an entry is gone at the instant it expires. -/
def inMemoryCacheBackend : Lifetime where
  expiry now ttlSeconds := now + (max 0 ttlSeconds).toNat * microsecondsPerSecond
  live expiry now := decide (now < expiry)
  live_earlier := by
    intro expiry now later hle hlive
    exact decide_eq_true (Nat.lt_of_le_of_lt hle (of_decide_eq_true hlive))

/-- `RedisCacheBackend`: `SET` with `EX`, of one second at least. -/
def redisCacheBackend : Lifetime where
  expiry now ttlSeconds := now + (max 1 ttlSeconds).toNat * microsecondsPerSecond
  live expiry now := decide (now ≤ expiry)
  live_earlier := by
    intro expiry now later hle hlive
    exact decide_eq_true (Nat.le_trans hle (of_decide_eq_true hlive))

/-- What `json.loads` reads from a text. -/
abbrev CachedText := Option Json

abbrev CacheEntries := Entries String CachedText

/-! ## `EnrichmentCache` -/

/-- The `enrichment_cache_ttl_*` settings, in seconds. -/
structure CacheSettings where
  virustotal : Int
  abuseipdb : Int
  greynoise : Int
  shodan : Int
  default : Int

/-- The settings as they are shipped. -/
def CacheSettings.shipped : CacheSettings :=
  ⟨24 * 3600, 12 * 3600, 6 * 3600, 24 * 3600, 3600⟩

/-- `default_ttl_for`. -/
def CacheSettings.defaultTtlFor (settings : CacheSettings) (source : String) : Int :=
  if source = "virustotal" then settings.virustotal
  else if source = "abuseipdb" then settings.abuseipdb
  else if source = "greynoise" then settings.greynoise
  else if source = "shodan" then settings.shodan
  else settings.default

def cacheKeyPrefix : String := "opensoar:enrichment:"

/-- The value in a key, of any length, as 32 characters. -/
def digest (value : String) : List Char := (sha256 value).take 32

/-- `build_key`. -/
def buildKey (source obsType value : String) : String :=
  cacheKeyPrefix ++ source ++ ":" ++ obsType ++ ":" ++ String.ofList (digest value)

/-- What `get` returns for the text in the backend; `none` is `None`, and so is JSON's
`null`. -/
def decoded (raw : Option CachedText) : Option Json :=
  match raw with
  | some (some value) => if value.isNull then none else some value
  | _ => none

namespace EnrichmentCache

def get (backend : Lifetime) (source obsType value : String) (now : Timestamp)
    (entries : CacheEntries) : Option Json × CacheEntries :=
  let (raw, entries') := TtlMap.get backend entries (buildKey source obsType value) now
  (decoded raw, entries')

def set (backend : Lifetime) (source obsType value : String) (payload : Json) (ttlSeconds : Int)
    (now : Timestamp) (entries : CacheEntries) : CacheEntries :=
  TtlMap.set backend entries (buildKey source obsType value) (some payload) ttlSeconds now

/-- It answers with the number of keys, found or not. -/
def invalidate (source obsType value : String) (entries : CacheEntries) : Nat × CacheEntries :=
  (1, TtlMap.delete entries (buildKey source obsType value))

end EnrichmentCache

/-- What a fetcher comes back with, and how long it takes. -/
structure Fetched (ε : Type) where
  result : Except ε Json
  took : Nat

/-- What `get_or_fetch` comes to: its result, whether it called the fetcher, the entries and
the time. -/
structure FetchOutcome (ε : Type) where
  result : Except ε Json
  fetched : Bool
  entries : CacheEntries
  now : Timestamp

/-- `get_or_fetch`. -/
def EnrichmentCache.getOrFetch {ε : Type} (backend : Lifetime) (settings : CacheSettings)
    (source obsType value : String) (fetcher : Fetched ε) (ttlSeconds : Option Int)
    (now : Timestamp) (entries : CacheEntries) : FetchOutcome ε :=
  match EnrichmentCache.get backend source obsType value now entries with
  | (some cached, entries') => ⟨.ok cached, false, entries', now⟩
  | (none, entries') =>
      match fetcher.result with
      | .error e => ⟨.error e, true, entries', now + fetcher.took⟩
      | .ok result =>
          let ttl := ttlSeconds.getD (settings.defaultTtlFor source)
          ⟨.ok result, true,
            EnrichmentCache.set backend source obsType value result ttl
              (now + fetcher.took) entries',
            now + fetcher.took⟩

/-! ## Fresh entries -/

/-- There is a value to be had under a key. -/
def Fresh (backend : Lifetime) (entries : CacheEntries) (key : String) (now : Timestamp) : Prop :=
  (decoded (peek backend entries key now)).isSome = true

instance {backend : Lifetime} {entries : CacheEntries} {key : String} {now : Timestamp} :
    Decidable (Fresh backend entries key now) := inferInstanceAs (Decidable (_ = true))

section Fresh

variable {backend : Lifetime} {settings : CacheSettings} {source obsType value : String}
  {ttlSeconds : Option Int} {entries : CacheEntries} {key : String} {now later : Timestamp}
  {ε : Type} {fetcher : Fetched ε}

theorem Fresh.earlier (h : Fresh backend entries key later) (hle : now ≤ later) :
    Fresh backend entries key now := by
  unfold Fresh at h ⊢
  cases hlater : peek backend entries key later with
  | none =>
      rw [hlater] at h
      cases h
  | some raw =>
      rw [hlater] at h
      rw [peek_earlier hle hlater]
      exact h

/-- What is handed out is what the text says. -/
theorem decoded_eq_some {raw : Option CachedText} {cached : Json} (h : decoded raw = some cached) :
    raw = some (some cached) := by
  unfold decoded at h
  split at h
  next value =>
    split at h
    next => cases h
    next =>
      cases h
      rfl
  next => cases h

theorem EnrichmentCache.get_fst :
    (EnrichmentCache.get backend source obsType value now entries).1 =
      decoded (peek backend entries (buildKey source obsType value) now) := by
  simp only [EnrichmentCache.get, TtlMap.get_fst]

/-- A fresh entry is handed out, and nothing else happens. -/
theorem getOrFetch_of_fresh {cached : Json}
    (h : decoded (peek backend entries (buildKey source obsType value) now) = some cached) :
    EnrichmentCache.getOrFetch backend settings source obsType value fetcher ttlSeconds now
      entries =
      ⟨.ok cached, false, entries, now⟩ := by
  have hraw := decoded_eq_some h
  have hget : EnrichmentCache.get backend source obsType value now entries =
      (some cached, entries) := by
    simp only [EnrichmentCache.get, TtlMap.get_of_some hraw]
    rw [← hraw, h]
  rw [EnrichmentCache.getOrFetch, hget]

theorem EnrichmentCache.get_of_stale
    (h : ¬ Fresh backend entries (buildKey source obsType value) now) :
    EnrichmentCache.get backend source obsType value now entries =
      (none, (TtlMap.get backend entries (buildKey source obsType value) now).2) := by
  simp only [EnrichmentCache.get, TtlMap.get_fst]
  rw [Option.not_isSome_iff_eq_none.mp h]

/-- Without one the fetcher is called, and its answer is stored. -/
theorem getOrFetch_of_answer {payload : Json}
    (h : ¬ Fresh backend entries (buildKey source obsType value) now)
    (hanswer : fetcher.result = .ok payload) :
    EnrichmentCache.getOrFetch backend settings source obsType value fetcher ttlSeconds now
      entries =
      ⟨.ok payload, true,
        EnrichmentCache.set backend source obsType value payload
          (ttlSeconds.getD (settings.defaultTtlFor source)) (now + fetcher.took)
          (TtlMap.get backend entries (buildKey source obsType value) now).2,
        now + fetcher.took⟩ := by
  simp only [EnrichmentCache.getOrFetch, EnrichmentCache.get_of_stale h, hanswer]

/-- Its failure is not. -/
theorem getOrFetch_of_failure {e : ε}
    (h : ¬ Fresh backend entries (buildKey source obsType value) now)
    (hfailure : fetcher.result = .error e) :
    EnrichmentCache.getOrFetch backend settings source obsType value fetcher ttlSeconds now
      entries =
      ⟨.error e, true, (TtlMap.get backend entries (buildKey source obsType value) now).2,
        now + fetcher.took⟩ := by
  simp only [EnrichmentCache.getOrFetch, EnrichmentCache.get_of_stale h, hfailure]

end Fresh

/-! ## Keys -/

theorem length_digest (value : String) : (digest value).length = 32 := by
  rw [digest, List.length_take, length_sha256]
  rfl

/-- Two texts parted at a separator: at one place, or at two, with the rest of the first part and
the second one between them. -/
theorem append_separator_cases {α : Type} {c : α} {before before' after after' : List α}
    (h : before ++ c :: after = before' ++ c :: after') :
    (before = before' ∧ after = after') ∨
      (∃ more, before' = before ++ c :: more ∧ after = more ++ c :: after') ∨
        ∃ more, before = before' ++ c :: more ∧ after' = more ++ c :: after := by
  rcases List.append_eq_append_iff.mp h with ⟨more, hmore, hrest⟩ | ⟨more, hmore, hrest⟩
  · cases more with
    | nil =>
        obtain ⟨-, hafter⟩ := List.cons.inj hrest
        exact Or.inl ⟨by rw [hmore, List.append_nil], hafter⟩
    | cons x more =>
        obtain ⟨rfl, hafter⟩ := List.cons.inj hrest
        exact Or.inr (Or.inl ⟨more, hmore, hafter⟩)
  · cases more with
    | nil =>
        obtain ⟨-, hafter⟩ := List.cons.inj hrest
        exact Or.inl ⟨by rw [hmore, List.append_nil], hafter.symm⟩
    | cons x more =>
        obtain ⟨rfl, hafter⟩ := List.cons.inj hrest
        exact Or.inr (Or.inr ⟨more, hmore, hafter⟩)

/-- What stands before the first separator, and what stands after it. -/
theorem append_separator_inj {α : Type} {c : α} {before before' after after' : List α}
    (hbefore : c ∉ before) (hbefore' : c ∉ before')
    (h : before ++ c :: after = before' ++ c :: after') : before = before' ∧ after = after' := by
  -- the longer part would hold the separator
  rcases append_separator_cases h with hsame | ⟨more, hmore, -⟩ | ⟨more, hmore, -⟩
  · exact hsame
  · exact absurd (by simp [hmore]) hbefore'
  · exact absurd (by simp [hmore]) hbefore

/-- A key shows its source, up to the first colon, its type and its digest. -/
theorem buildKey_inj {source source' obsType obsType' value value' : String}
    (hsource : ':' ∉ source.toList) (hsource' : ':' ∉ source'.toList) :
    buildKey source obsType value = buildKey source' obsType' value' ↔
      source = source' ∧ obsType = obsType' ∧ digest value = digest value' := by
  constructor
  · intro h
    have hlist := congrArg String.toList h
    simp only [buildKey, String.toList_append, String.toList_ofList, List.append_assoc,
      List.append_cancel_left_eq] at hlist
    obtain ⟨hs, hafter⟩ := append_separator_inj hsource hsource' hlist
    have hrest : obsType.toList ++ (":".toList ++ digest value) =
        obsType'.toList ++ (":".toList ++ digest value') := hafter
    -- the digests have one length, so the types end at the same place
    obtain ⟨ht, hdigest⟩ :=
      List.append_inj' hrest (by simp only [List.length_append, length_digest])
    exact ⟨String.toList_inj.mp hs, String.toList_inj.mp ht, List.append_cancel_left hdigest⟩
  · rintro ⟨rfl, rfl, hdigest⟩
    rw [buildKey, buildKey, hdigest]

end OpenSoar
