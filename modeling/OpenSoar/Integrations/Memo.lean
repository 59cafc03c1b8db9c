/-
# `OpenSoar.Integrations.Memo` — what `get_or_fetch` remembers

`EnrichmentCache` over any backend, with the texts that it keeps there: `set` writes a value with
`json.dumps`, and does nothing where that raises a `ValueError`; `get` reads the text back with
`json.loads`.  Its `None` for a text that is not there is also what it returns for the text of
`null`, and `get_or_fetch` takes either for a miss.

So a value is remembered until its time to live is over, whatever is done with the other keys,
exactly when it is not `null` and holds no `int` too long to be written (`memoises_iff`).  Over
the backends of the repository this cache is that of `Integrations.Cache`, whose entries are
what `json.loads` reads (`getOrFetch_simulates`).
-/
import OpenSoar.Integrations.Cache
import OpenSoar.Lib.TtlStore
import OpenSoar.Python.JsonRoundTrip

namespace OpenSoar

open Python TtlMap

universe u

/-! ## Backends -/

/-- `CacheBackend`: texts under keys, for times to live in seconds. -/
abbrev CacheBackend (σ : Type u) := TtlStore σ String (List Char) microsecondsPerSecond

/-- `InMemoryCacheBackend`, with its texts. -/
def inMemoryTexts : CacheBackend (Entries String (List Char)) :=
  .ofLifetime inMemoryCacheBackend microsecondsPerSecond (by
    intro ttl now later hpos hlater
    refine decide_eq_true (Nat.lt_of_lt_of_le hlater (Nat.add_le_add_left ?_ now))
    exact Nat.mul_le_mul_right _ (Int.toNat_le_toNat (le_max_right 0 ttl)))

/-- `RedisCacheBackend`, with its texts. -/
def redisTexts : CacheBackend (Entries String (List Char)) :=
  .ofLifetime redisCacheBackend microsecondsPerSecond (by
    intro ttl now later hpos hlater
    refine decide_eq_true (Nat.le_of_lt (Nat.lt_of_lt_of_le hlater (Nat.add_le_add_left ?_ now)))
    exact Nat.mul_le_mul_right _ (Int.toNat_le_toNat (le_max_right 1 ttl)))

/-! ## The facade -/

/-- The interpreter that writes and reads JSON. -/
structure JsonModule where
  text : PyText
  readFloat : List Char → PyFloat

/-- What leaves `get_or_fetch`: an exception of `json.loads` that is no `JSONDecodeError`, or the
fetcher's. -/
inductive CacheRaised (ε : Type) where
  | loads (e : LoadsError)
  | fetcher (e : ε)

/-- What `json.loads` returns, where `None` is JSON's `null`. -/
def noneIfNull (value : Json) : Option Json := if value.isNull then none else some value

/-- What `get` returns for the text in the backend. -/
def decodedText (json : JsonModule) : Option (List Char) → Except LoadsError (Option Json)
  | none => .ok none
  | some raw =>
      match Json.loads json.readFloat raw with
      | .ok value => .ok (noneIfNull value)
      | .error .jsonDecodeError => .ok none
      | .error e => .error e

namespace TextCache

section

variable {σ : Type u} (json : JsonModule) (backend : CacheBackend σ)

/-- `EnrichmentCache.get`. -/
def get (source obsType value : String) (now : Timestamp) (s : σ) :
    Except LoadsError (Option Json) × σ :=
  let (raw, s') := backend.get s (buildKey source obsType value) now
  (decodedText json raw, s')

/-- `EnrichmentCache.set`. -/
def set (source obsType value : String) (payload : Json) (ttlSeconds : Int) (now : Timestamp)
    (s : σ) : σ :=
  match payload.dumps? json.text with
  | none => s
  | some encoded => backend.set s (buildKey source obsType value) encoded ttlSeconds now

/-- `EnrichmentCache.invalidate`. -/
def invalidate (source obsType value : String) (s : σ) : σ :=
  backend.delete s (buildKey source obsType value)

end

end TextCache

/-- What `get_or_fetch` comes to. -/
structure TextOutcome (σ : Type u) (ε : Type) where
  result : Except (CacheRaised ε) Json
  fetched : Bool
  state : σ
  now : Timestamp

/-- `EnrichmentCache.get_or_fetch`. -/
def TextCache.getOrFetch {σ : Type u} {ε : Type} (json : JsonModule) (backend : CacheBackend σ)
    (settings : CacheSettings) (source obsType value : String) (fetcher : Fetched ε)
    (ttlSeconds : Option Int) (now : Timestamp) (s : σ) : TextOutcome σ ε :=
  let got := TextCache.get json backend source obsType value now s
  match got.1 with
  | .error e => ⟨.error (.loads e), false, got.2, now⟩
  | .ok (some cached) => ⟨.ok cached, false, got.2, now⟩
  | .ok none =>
      match fetcher.result with
      | .error e => ⟨.error (.fetcher e), true, got.2, now + fetcher.took⟩
      | .ok result =>
          let ttl := ttlSeconds.getD (settings.defaultTtlFor source)
          ⟨.ok result, true,
            TextCache.set json backend source obsType value result ttl (now + fetcher.took) got.2,
            now + fetcher.took⟩

/-! ## The cache of `Integrations.Cache` -/

/-- The entries of the one cache are what `json.loads` reads from the texts of the other. -/
structure ReadsTexts (json : JsonModule) (texts : Entries String (List Char))
    (entries : CacheEntries) : Prop where
  lookup : ∀ key, entries.lookup key = (texts.lookup key).map (fun entry =>
    ⟨(Json.loads json.readFloat entry.value).toOption, entry.expiry⟩)
  readable : ∀ key entry, texts.lookup key = some entry → ∀ e,
    Json.loads json.readFloat entry.value = .error e → e = .jsonDecodeError

section Simulation

variable {json : JsonModule} {texts : Entries String (List Char)} {entries : CacheEntries}
  {lifetime : Lifetime} {key : String} {now : Timestamp}

theorem ReadsTexts.peek (h : ReadsTexts json texts entries) :
    peek lifetime entries key now = (peek lifetime texts key now).map
      (fun raw => (Json.loads json.readFloat raw).toOption) := by
  rw [TtlMap.peek, TtlMap.peek, h.lookup]
  cases texts.lookup key with
  | none => rfl
  | some entry =>
      rw [Option.map_some, Option.bind_some, Option.bind_some]
      dsimp only
      split <;> rfl

/-- What the one `get` decodes, the other does. -/
theorem ReadsTexts.decoded (h : ReadsTexts json texts entries) :
    decodedText json (TtlMap.peek lifetime texts key now) =
      .ok (decoded (TtlMap.peek lifetime entries key now)) := by
  rw [h.peek]
  cases hraw : TtlMap.peek lifetime texts key now with
  | none => rfl
  | some raw =>
      obtain ⟨entry, hentry, hlive⟩ := Option.bind_eq_some_iff.mp hraw
      have hvalue : entry.value = raw := by
        split at hlive
        · exact Option.some.inj hlive
        · cases hlive
      rw [decodedText, Option.map_some]
      cases hloads : Json.loads json.readFloat raw with
      | ok v => rfl
      | error e =>
          cases h.readable key entry hentry e (hvalue ▸ hloads)
          rfl

theorem ReadsTexts.erase (h : ReadsTexts json texts entries) (key : String) :
    ReadsTexts json (texts.erase key) (entries.erase key) := by
  constructor
  · intro other
    by_cases hkey : other = key
    · subst hkey
      rw [AList.lookup_erase, AList.lookup_erase, Option.map_none]
    · rw [AList.lookup_erase_ne hkey, AList.lookup_erase_ne hkey, h.lookup]
  · intro other entry hentry
    by_cases hkey : other = key
    · subst hkey
      rw [AList.lookup_erase] at hentry
      cases hentry
    · rw [AList.lookup_erase_ne hkey] at hentry
      exact h.readable other entry hentry

theorem ReadsTexts.get (h : ReadsTexts json texts entries) :
    ReadsTexts json (TtlMap.get lifetime texts key now).2
      (TtlMap.get lifetime entries key now).2 := by
  unfold TtlMap.get
  rw [h.peek]
  cases TtlMap.peek lifetime texts key now with
  | none => exact h.erase key
  | some raw => exact h

theorem ReadsTexts.set (h : ReadsTexts json texts entries) {v : Json} {encoded : List Char}
    (hloads : Json.loads json.readFloat encoded = .ok v) {ttl : Int} :
    ReadsTexts json (TtlMap.set lifetime texts key encoded ttl now)
      (TtlMap.set lifetime entries key (some v) ttl now) := by
  constructor
  · intro other
    by_cases hkey : other = key
    · subst hkey
      rw [TtlMap.set, TtlMap.set, AList.lookup_insert, AList.lookup_insert, Option.map_some, hloads]
      rfl
    · rw [TtlMap.set, TtlMap.set, AList.lookup_insert_ne hkey, AList.lookup_insert_ne hkey,
        h.lookup]
  · intro other entry hentry e he
    by_cases hkey : other = key
    · subst hkey
      rw [TtlMap.set, AList.lookup_insert] at hentry
      cases hentry
      cases hloads.symm.trans he
    · rw [TtlMap.set, AList.lookup_insert_ne hkey] at hentry
      exact h.readable other entry hentry e he

/-- `get_or_fetch` on the texts is `get_or_fetch` on what is read from them, as long as what the
fetcher returns can be written. -/
theorem getOrFetch_simulates {ε : Type} {settings : CacheSettings} {source obsType value : String}
    {fetcher : Fetched ε} {ttlSeconds : Option Int}
    {hlives : ∀ {ttl : Int} {now later : Nat}, 0 < ttl →
      later < now + ttl.toNat * microsecondsPerSecond →
      lifetime.live (lifetime.expiry now ttl) later = true}
    (h : ReadsTexts json texts entries)
    (hfetch : ∀ v, fetcher.result = .ok v → v.Held json.text json.readFloat ∧ v.writable = true) :
    let out := TextCache.getOrFetch json (.ofLifetime lifetime microsecondsPerSecond hlives)
      settings
      source obsType value fetcher ttlSeconds now texts
    let read := EnrichmentCache.getOrFetch lifetime settings source obsType value fetcher ttlSeconds
      now entries
    out.result = read.result.mapError .fetcher ∧ out.fetched = read.fetched ∧ out.now = read.now ∧
      ReadsTexts json out.state read.entries := by
  have hdecoded := @ReadsTexts.decoded _ _ _ lifetime (buildKey source obsType value) now h
  have hget := @ReadsTexts.get _ _ _ lifetime (buildKey source obsType value) now h
  unfold TextCache.getOrFetch TextCache.get EnrichmentCache.getOrFetch EnrichmentCache.get
  simp only [TtlStore.ofLifetime, TtlMap.get_fst, hdecoded]
  cases decoded (TtlMap.peek lifetime entries (buildKey source obsType value) now) with
  | some cached => exact ⟨rfl, rfl, rfl, hget⟩
  | none =>
      cases hresult : fetcher.result with
      | error e => exact ⟨rfl, rfl, rfl, hget⟩
      | ok v =>
          obtain ⟨hheld, hwritable⟩ := hfetch v hresult
          have hsome : v.dumps? json.text = some (v.dumps json.text) := by
            rw [Json.dumps?, if_pos hwritable]
          refine ⟨rfl, rfl, rfl, ?_⟩
          simp only [TextCache.set, hsome]
          exact hget.set (Json.loads_dumps hheld hsome)

end Simulation

/-! ## Two calls for one key -/

inductive CacheAction (ε : Type) where
  | get
  | set (payload : Json) (ttlSeconds : Int)
  | invalidate
  | getOrFetch (fetcher : Fetched ε) (ttlSeconds : Option Int)

/-- A call of the cache, some time after the one before. -/
structure CacheCall (ε : Type) where
  wait : Nat
  source : String
  obsType : String
  value : String
  action : CacheAction ε

def CacheCall.key {ε : Type} (call : CacheCall ε) : String :=
  buildKey call.source call.obsType call.value

/-- The time and the state after a call. -/
def CacheCall.after {σ : Type u} {ε : Type} (json : JsonModule) (backend : CacheBackend σ)
    (settings : CacheSettings) (call : CacheCall ε) (t : Timestamp × σ) : Timestamp × σ :=
  let now := t.1 + call.wait
  match call.action with
  | .get => (now, (TextCache.get json backend call.source call.obsType call.value now t.2).2)
  | .set payload ttlSeconds =>
      (now, TextCache.set json backend call.source call.obsType call.value payload ttlSeconds
        now t.2)
  | .invalidate => (now, TextCache.invalidate backend call.source call.obsType call.value t.2)
  | .getOrFetch fetcher ttlSeconds =>
      let out := TextCache.getOrFetch json backend settings call.source call.obsType call.value
        fetcher ttlSeconds now t.2
      (out.now, out.state)

/-- A call of `get_or_fetch`, other calls of the cache after it, and a second one for its key. -/
structure TwoCalls (σ : Type u) (ε : Type) where
  source : String
  obsType : String
  value : String
  fetcher : Fetched ε
  ttlSeconds : Option Int
  now : Timestamp
  state : σ
  between : List (CacheCall ε)
  wait : Nat
  fetcherAgain : Fetched ε
  ttlSecondsAgain : Option Int

namespace TwoCalls

variable {σ : Type u} {ε : Type} (json : JsonModule) (backend : CacheBackend σ)
  (settings : CacheSettings) (calls : TwoCalls σ ε)

def key : String := buildKey calls.source calls.obsType calls.value

def first : TextOutcome σ ε :=
  TextCache.getOrFetch json backend settings calls.source calls.obsType calls.value calls.fetcher
    calls.ttlSeconds calls.now calls.state

/-- The time and the state that the second call finds. -/
def found : Timestamp × σ :=
  let t := calls.between.foldl (fun t call => call.after json backend settings t)
    ((calls.first json backend settings).now, (calls.first json backend settings).state)
  (t.1 + calls.wait, t.2)

def second : TextOutcome σ ε :=
  TextCache.getOrFetch json backend settings calls.source calls.obsType calls.value
    calls.fetcherAgain calls.ttlSecondsAgain (calls.found json backend settings).1
    (calls.found json backend settings).2

/-- The first call returns the value, and the second one too, without its fetcher. -/
def Memoised (v : Json) : Prop :=
  (calls.first json backend settings).result = .ok v ∧
    (calls.second json backend settings).result = .ok v ∧
    (calls.second json backend settings).fetched = false

/-- The first call finds nothing under its key. -/
def Misses : Prop :=
  (TextCache.get json backend calls.source calls.obsType calls.value calls.now calls.state).1 =
    .ok none

/-- The time to live that the first call sets. -/
def ttl : Int := calls.ttlSeconds.getD (settings.defaultTtlFor calls.source)

end TwoCalls

section

variable {σ : Type u} {ε : Type} {json : JsonModule} {backend : CacheBackend σ}
  {settings : CacheSettings} {source obsType value key : String} {now later : Timestamp} {s : σ}
  {fetcher : Fetched ε} {ttlSeconds : Option Int}

theorem TextCache.get_fst : (TextCache.get json backend source obsType value now s).1 =
    decodedText json (backend.get s (buildKey source obsType value) now).1 := rfl

/-- Without a value to be had the fetcher is called. -/
theorem getOrFetch_of_miss
    (h : decodedText json (backend.get s (buildKey source obsType value) now).1 = .ok none) :
    (TextCache.getOrFetch json backend settings source obsType value fetcher ttlSeconds now
      s).fetched
      = true := by
  unfold TextCache.getOrFetch TextCache.get
  dsimp only
  rw [h]
  dsimp only
  split <;> rfl

theorem getOrFetch_of_hit {v : Json}
    (h : decodedText json (backend.get s (buildKey source obsType value) now).1 = .ok (some v)) :
    TextCache.getOrFetch json backend settings source obsType value fetcher ttlSeconds now s =
      ⟨.ok v, false, (backend.get s (buildKey source obsType value) now).2, now⟩ := by
  unfold TextCache.getOrFetch TextCache.get
  dsimp only
  rw [h]

theorem getOrFetch_of_fetch {v : Json}
    (h : decodedText json (backend.get s (buildKey source obsType value) now).1 = .ok none)
    (hfetch : fetcher.result = .ok v) :
    TextCache.getOrFetch json backend settings source obsType value fetcher ttlSeconds now s =
      ⟨.ok v, true,
        TextCache.set json backend source obsType value v
          (ttlSeconds.getD (settings.defaultTtlFor source)) (now + fetcher.took)
          (backend.get s (buildKey source obsType value) now).2, now + fetcher.took⟩ := by
  unfold TextCache.getOrFetch TextCache.get
  dsimp only
  rw [h]
  dsimp only
  rw [hfetch]

/-! ## The other keys -/

theorem set_frame (h : key ≠ buildKey source obsType value) {payload : Json} {ttl : Int} :
    (backend.get (TextCache.set json backend source obsType value payload ttl now s) key later).1 =
      (backend.get s key later).1 := by
  unfold TextCache.set
  split
  · rfl
  · exact backend.set_frame h

theorem getOrFetch_frame (h : key ≠ buildKey source obsType value) :
    now ≤ (TextCache.getOrFetch json backend settings source obsType value fetcher ttlSeconds now
      s).now ∧
      ∀ later, (TextCache.getOrFetch json backend settings source obsType value fetcher ttlSeconds
        now s).now ≤ later →
        (backend.get (TextCache.getOrFetch json backend settings source obsType value fetcher
          ttlSeconds now s).state key later).1 = (backend.get s key later).1 := by
  unfold TextCache.getOrFetch TextCache.get
  dsimp only
  split
  · exact ⟨Nat.le_refl now, fun _ hle => backend.get_frame hle⟩
  · exact ⟨Nat.le_refl now, fun _ hle => backend.get_frame hle⟩
  · split
    · refine ⟨Nat.le_add_right now _, fun _ hle => ?_⟩
      exact backend.get_frame (Nat.le_trans (Nat.le_add_right now _) hle)
    · refine ⟨Nat.le_add_right now _, fun _ hle => ?_⟩
      exact (set_frame h).trans (backend.get_frame (Nat.le_trans (Nat.le_add_right now _) hle))

/-- A call for another key takes time, and nothing else. -/
theorem after_frame {call : CacheCall ε} (h : key ≠ call.key) (t : Timestamp × σ) :
    t.1 ≤ (call.after json backend settings t).1 ∧
      ∀ later, (call.after json backend settings t).1 ≤ later →
        (backend.get (call.after json backend settings t).2 key later).1 =
          (backend.get t.2 key later).1 := by
  have hwait : t.1 ≤ t.1 + call.wait := Nat.le_add_right _ _
  unfold CacheCall.after
  dsimp only
  split
  · exact ⟨hwait, fun _ hle => backend.get_frame hle⟩
  · exact ⟨hwait, fun _ _ => set_frame h⟩
  · exact ⟨hwait, fun _ _ => backend.delete_frame h⟩
  · obtain ⟨htime, hframe⟩ := getOrFetch_frame h
    exact ⟨Nat.le_trans hwait htime, hframe⟩

theorem calls_frame {calls : List (CacheCall ε)} (h : ∀ call ∈ calls, key ≠ call.key)
    (t : Timestamp × σ) :
    t.1 ≤ (calls.foldl (fun t call => call.after json backend settings t) t).1 ∧
      ∀ later, (calls.foldl (fun t call => call.after json backend settings t) t).1 ≤ later →
        (backend.get (calls.foldl (fun t call => call.after json backend settings t) t).2 key
          later).1 =
          (backend.get t.2 key later).1 := by
  induction calls generalizing t with
  | nil => exact ⟨Nat.le_refl _, fun _ _ => rfl⟩
  | cons call calls ih =>
      obtain ⟨hcall, hcalls⟩ := List.forall_mem_cons.mp h
      obtain ⟨htime, hframe⟩ := after_frame hcall t
      obtain ⟨htimes, hframes⟩ := ih hcalls (call.after json backend settings t)
      refine ⟨Nat.le_trans htime htimes, fun later hlater => ?_⟩
      exact (hframes later hlater).trans (hframe later (Nat.le_trans htimes hlater))

/-! ## What is remembered -/

theorem decodedText_dumps {v : Json} {encoded : List Char}
    (hheld : v.Held json.text json.readFloat) (h : v.dumps? json.text = some encoded) :
    decodedText json (some encoded) = .ok (noneIfNull v) := by
  rw [decodedText, Json.loads_dumps hheld h]

/-- What reads as absent still does later. -/
theorem decodedText_later (hle : now ≤ later)
    (h : decodedText json (backend.get s key now).1 = .ok none) :
    decodedText json (backend.get s key later).1 = .ok none := by
  cases hlater : (backend.get s key later).1 with
  | none => rfl
  | some raw => rwa [backend.get_later hle hlater] at h

/-- The second call finds under its key what the first one left there. -/
theorem found_frame {calls : TwoCalls σ ε}
    (hothers : ∀ call ∈ calls.between, calls.key ≠ call.key) :
    (calls.first json backend settings).now ≤ (calls.found json backend settings).1 ∧
      (backend.get (calls.found json backend settings).2 calls.key
        (calls.found json backend settings).1).1 =
      (backend.get (calls.first json backend settings).state calls.key
        (calls.found json backend settings).1).1 := by
  obtain ⟨htime, hframe⟩ := @calls_frame _ _ json backend settings calls.key _ hothers
    ((calls.first json backend settings).now, (calls.first json backend settings).state)
  exact ⟨Nat.le_trans htime (Nat.le_add_right _ _), hframe _ (Nat.le_add_right _ _)⟩

end

/-- **What `get_or_fetch` memoises.**  For every backend that keeps the contract, and whatever
other keys are read, set, fetched and invalidated in between: every value but `null`, and but one
with an `int` that is too long to be written. -/
theorem memoises_iff {σ : Type u} {ε : Type} (json : JsonModule) (backend : CacheBackend σ)
    (settings : CacheSettings) (calls : TwoCalls σ ε) {v : Json}
    (hfetch : calls.fetcher.result = .ok v) (hheld : v.Held json.text json.readFloat)
    (hmisses : calls.Misses json backend) (httl : 0 < calls.ttl settings)
    (hothers : ∀ call ∈ calls.between, calls.key ≠ call.key)
    (hintime : (calls.found json backend settings).1 <
      (calls.first json backend settings).now + (calls.ttl settings).toNat *
        microsecondsPerSecond) :
    calls.Memoised json backend settings v ↔ v.isNull = false ∧ v.writable = true := by
  have hfirst : calls.first json backend settings = _ := getOrFetch_of_fetch hmisses hfetch
  obtain ⟨hlater, hfound⟩ := @found_frame _ _ json backend settings _ hothers
  have hmissed : decodedText json (backend.get (calls.found json backend settings).2 calls.key
      (calls.found json backend settings).1).1 = .ok none →
        ¬ calls.Memoised json backend settings v := fun h hmemoised =>
    Bool.false_ne_true (hmemoised.2.2.symm.trans (getOrFetch_of_miss h))
  cases hwritable : v.writable with
  | false =>
      refine iff_of_false (hmissed ?_) (fun h => Bool.false_ne_true h.2)
      -- nothing was stored, and nothing has come since
      have hnone : v.dumps? json.text = none := by
        rw [Json.dumps?, if_neg (by rw [hwritable]; decide)]
      have hstate : (calls.first json backend settings).state =
          (backend.get calls.state calls.key calls.now).2 := by
        rw [hfirst]
        simp only [TextCache.set, hnone]
        rfl
      have hle : calls.now ≤ (calls.found json backend settings).1 := by
        rw [hfirst] at hlater
        exact Nat.le_trans (Nat.le_add_right _ _) hlater
      rw [hfound, hstate, backend.get_frame hle]
      exact decodedText_later hle hmisses
  | true =>
      have hsome : v.dumps? json.text = some (v.dumps json.text) := by
        rw [Json.dumps?, if_pos hwritable]
      have hstate : (calls.first json backend settings).state =
          backend.set (backend.get calls.state calls.key calls.now).2 calls.key
            (v.dumps json.text) (calls.ttl settings) (calls.first json backend settings).now := by
        rw [hfirst]
        simp only [TextCache.set, hsome]
        rfl
      have htext := decodedText_dumps hheld hsome
      rw [← backend.get_set httl hlater hintime, ← hstate, ← hfound] at htext
      cases hnull : v.isNull with
      | true =>
          rw [noneIfNull, if_pos hnull] at htext
          exact iff_of_false (hmissed htext) (fun h => Bool.false_ne_true h.1.symm)
      | false =>
          rw [noneIfNull, if_neg (by rw [hnull]; decide)] at htext
          have hsecond : calls.second json backend settings = _ := getOrFetch_of_hit htext
          refine iff_of_true ⟨?_, ?_, ?_⟩ ⟨rfl, rfl⟩
          · rw [hfirst]
          · rw [hsecond]
          · rw [hsecond]

/-- JSON on ASCII text. -/
def asciiJson : JsonModule := ⟨.ascii, fun _ => .nan⟩

/-- Two calls an hour apart for a value that VirusTotal returns, with an entry of AbuseIPDB
invalidated in between. -/
def anHourApart (v : Json) : TwoCalls (Entries String (List Char)) Empty where
  source := "virustotal"
  obsType := "ip"
  value := "8.8.8.8"
  fetcher := ⟨.ok v, 0⟩
  ttlSeconds := none
  now := 0
  state := ∅
  between := [⟨0, "abuseipdb", "ip", "8.8.8.8", .invalidate⟩]
  wait := 3600 * microsecondsPerSecond
  fetcherAgain := ⟨.ok (.str "asked again"), 0⟩
  ttlSecondsAgain := none

theorem anHourApart_others (v : Json) :
    ∀ call ∈ (anHourApart v).between, (anHourApart v).key ≠ call.key := by
  intro call hcall hkey
  rw [List.mem_singleton.mp hcall] at hkey
  have hcolon : ':' ∉ "virustotal".toList ∧ ':' ∉ "abuseipdb".toList := by decide
  have hsource : "virustotal" = "abuseipdb" := ((buildKey_inj hcolon.1 hcolon.2).mp hkey).1
  exact absurd hsource (by decide)

theorem anHourApart_misses (v : Json) :
    (anHourApart v).Misses asciiJson inMemoryTexts ∧ (anHourApart v).Misses asciiJson redisTexts :=
  ⟨rfl, rfl⟩

/-- An hour after the first call its entry is there, in whichever backend. -/
theorem anHourApart_intime {v : Json} {backend : CacheBackend (Entries String (List Char))}
    (hfound : ((anHourApart v).found asciiJson backend .shipped).1 =
      ((anHourApart v).first asciiJson backend .shipped).now + 3600 * microsecondsPerSecond) :
    ((anHourApart v).found asciiJson backend .shipped).1 <
      ((anHourApart v).first asciiJson backend .shipped).now +
        ((anHourApart v).ttl .shipped).toNat * microsecondsPerSecond := by
  have hday : 3600 * microsecondsPerSecond < (24 * 3600 : Int).toNat * microsecondsPerSecond := by
    decide
  rw [hfound]
  exact Nat.add_lt_add_left hday _

theorem verdict_memoised :
    (anHourApart (.obj [("malicious", .int 0)])).Memoised asciiJson inMemoryTexts .shipped
        (.obj [("malicious", .int 0)]) ∧
      (anHourApart (.obj [("malicious", .int 0)])).Memoised asciiJson redisTexts .shipped
        (.obj [("malicious", .int 0)]) := by
  have hheld : (Json.obj [("malicious", .int 0)]).Held asciiJson.text asciiJson.readFloat := by
    simp [Json.Held, Json.HeldFields]
  constructor
  · exact (memoises_iff asciiJson inMemoryTexts .shipped _ rfl hheld (anHourApart_misses _).1
      (by decide) (anHourApart_others _) (anHourApart_intime rfl)).mpr ⟨rfl, by decide⟩
  · exact (memoises_iff asciiJson redisTexts .shipped _ rfl hheld (anHourApart_misses _).2
      (by decide) (anHourApart_others _) (anHourApart_intime rfl)).mpr ⟨rfl, by decide⟩

/-- A service that answers `null` is asked again. -/
theorem null_fetched_again :
    ¬ (anHourApart .null).Memoised asciiJson inMemoryTexts .shipped .null := by
  intro hmemoised
  obtain ⟨hlater, hfound⟩ := @found_frame _ _ asciiJson inMemoryTexts .shipped _
    (anHourApart_others .null)
  have hstate : ((anHourApart .null).first asciiJson inMemoryTexts .shipped).state =
      inMemoryTexts.set ∅ (anHourApart .null).key "null".toList ((anHourApart .null).ttl .shipped)
        ((anHourApart .null).first asciiJson inMemoryTexts .shipped).now := rfl
  rw [hstate, inMemoryTexts.get_set (by decide) hlater (anHourApart_intime rfl)] at hfound
  have hmiss : decodedText asciiJson _ = .ok none := congrArg (decodedText asciiJson) hfound
  exact Bool.false_ne_true (hmemoised.2.2.symm.trans (getOrFetch_of_miss hmiss))

end OpenSoar
