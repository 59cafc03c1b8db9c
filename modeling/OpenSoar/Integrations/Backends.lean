/-
# `OpenSoar.Integrations.Backends` — the two stores behind the cache

`InMemoryCacheBackend` and `RedisCacheBackend` of `integrations/cache.py`, operation by
operation.  Redis answers `SET` with `EX`, `GET`, `DEL` and `SCAN` with `MATCH`, which names
each key of its table once; an expired key is no more in it.

The two do not answer alike: a time to live below a second is none in memory and a second in
Redis, an entry is gone at its time of expiry in memory and after it in Redis, and
`delete_prefix` counts expired entries in memory and takes its prefix for a pattern in Redis.
Everywhere else they do (`backends_agree`).
-/
import OpenSoar.Integrations.Cache
import OpenSoar.Lib.Glob
import OpenSoar.Lib.Simulation

namespace OpenSoar

open Python TtlMap Glob Simulation

/-- A call of a `CacheBackend`, or whole seconds that go by. -/
inductive CacheOp where
  | get (key : String)
  | set (key value : String) (ttlSeconds : Int)
  | delete (key : String)
  | deletePrefix (start : String)
  | advance (seconds : Nat)

/-- What a call returns. -/
inductive CacheAnswer where
  | done
  | found (value : Option String)
  | deleted (count : Nat)
  deriving DecidableEq

/-- A store and the time. -/
structure BackendState where
  entries : Entries String String
  now : Timestamp

def BackendState.empty : BackendState := ⟨∅, 0⟩

def BackendState.with (s : BackendState) (entries : Entries String String) : BackendState :=
  { s with entries := entries }

/-- What the two backends do alike, up to the time to live and what `delete_prefix` finds. -/
def backendStep (backend : Lifetime) (matching : String → BackendState → List String)
    (s : BackendState) : CacheOp → CacheAnswer × BackendState
  | .get key =>
      let (value, entries) := TtlMap.get backend s.entries key s.now
      (.found value, s.with entries)
  | .set key value ttlSeconds =>
      (.done, s.with (TtlMap.set backend s.entries key value ttlSeconds s.now))
  | .delete key => (.done, s.with (TtlMap.delete s.entries key))
  | .deletePrefix start =>
      (.deleted (matching start s).length, s.with (deleteAll s.entries (matching start s)))
  | .advance seconds => (.done, { s with now := s.now + seconds * microsecondsPerSecond })

/-- `key.startswith(start)`. -/
def startsWith (start key : String) : Bool := start.toList.isPrefixOf key.toList

/-- `[k for k in self._store if k.startswith(prefix)]`. -/
def inMemoryMatching (start : String) (s : BackendState) : List String :=
  s.entries.keys.filter (startsWith start)

/-- The key matches the pattern `prefix*`. -/
def scanMatches (start key : String) : Bool := globMatch (utf8 start ++ [42]) (utf8 key)

/-- `scan_iter(match=...)`. -/
def redisMatching (start : String) (s : BackendState) : List String :=
  s.entries.keys.filter
    (fun key => (peek redisCacheBackend s.entries key s.now).isSome && scanMatches start key)

/-- `InMemoryCacheBackend`. -/
def inMemoryStep : BackendState → CacheOp → CacheAnswer × BackendState :=
  backendStep inMemoryCacheBackend inMemoryMatching

/-- `RedisCacheBackend`. -/
def redisStep : BackendState → CacheOp → CacheAnswer × BackendState :=
  backendStep redisCacheBackend redisMatching

/-- An operation that both backends answer alike: a time to live of a second or more, no read at
the instant of an expiry, and no `delete_prefix` while an entry under the prefix is past its
expiry and not dropped, or when the pattern is about other keys than the prefix. -/
def Comparable (s : BackendState) : CacheOp → Prop
  | .get key => ∀ entry, s.entries.lookup key = some entry → entry.expiry ≠ s.now
  | .set _ _ ttlSeconds => 1 ≤ ttlSeconds
  | .deletePrefix start => ∀ key entry, s.entries.lookup key = some entry →
      (startsWith start key = true → s.now ≤ entry.expiry) ∧
        (s.now ≤ entry.expiry → scanMatches start key = startsWith start key)
  | _ => True

/-! ## Prefixes and patterns -/

/-- A text is a prefix when its bytes are. -/
theorem utf8_prefix_iff {start key : String} :
    utf8 start <+: utf8 key ↔ startsWith start key = true := by
  rw [startsWith, List.isPrefixOf_iff_prefix]
  constructor
  · rintro ⟨rest, hrest⟩
    refine List.isPrefix_of_utf8Encode_append_eq_utf8Encode rest.toByteArray ?_
    rw [List.utf8Encode, List.utf8Encode, ← List.toByteArray_append]
    exact congrArg List.toByteArray hrest
  · rintro ⟨rest, hrest⟩
    refine ⟨rest.flatMap String.utf8EncodeChar, ?_⟩
    rw [utf8, utf8, ← List.flatMap_append, hrest]

/-- Without a byte that opens a token, the pattern means the prefix. -/
theorem scanMatches_plain {start : String} (hplain : ∀ c ∈ utf8 start, Plain c) (key : String) :
    scanMatches start key = startsWith start key := by
  rw [Bool.eq_iff_iff, scanMatches, globMatch_plain hplain, utf8_prefix_iff]

/-- `source_prefix`. -/
def sourcePrefix (source : String) : String := cacheKeyPrefix ++ source ++ ":"

/-- `invalidate_source` of a plain source finds the keys of that source. -/
theorem scanMatches_sourcePrefix {source : String} (hplain : ∀ c ∈ utf8 source, Plain c)
    (key : String) :
    scanMatches (sourcePrefix source) key = startsWith (sourcePrefix source) key := by
  refine scanMatches_plain (fun c hc => ?_) key
  simp only [sourcePrefix, utf8, String.toList_append, List.flatMap_append, List.mem_append] at hc
  rcases hc with (hhead | hsource) | hcolon
  · have hbytes : ∀ c ∈ utf8 cacheKeyPrefix, Plain c := by decide +kernel
    exact hbytes c hhead
  · exact hplain c hsource
  · have hbytes : ∀ c ∈ utf8 ":", Plain c := by decide +kernel
    exact hbytes c hcolon

/-! ## The simulation -/

/-- At one time, the same entries whose time is not past. -/
structure Agree (s t : BackendState) : Prop where
  now : s.now = t.now
  current : ∀ key, current s.entries s.now key = current t.entries s.now key

section Agree

variable {s t : BackendState} {key start : String}

theorem redis_peek (entries : Entries String String) (key : String) (now : Nat) :
    peek redisCacheBackend entries key now = (current entries now key).map (·.value) := by
  rw [peek, TtlMap.current]
  cases entries.lookup key with
  | none => rfl
  | some entry =>
      simp only [Option.bind_some, redisCacheBackend, decide_eq_true_eq, Option.filter_some]
      split <;> rfl

/-- Away from the instant of its expiry an entry is there in memory when it is in Redis. -/
theorem inMemory_peek {entries : Entries String String} {now : Nat}
    (h : ∀ entry, entries.lookup key = some entry → entry.expiry ≠ now) :
    peek inMemoryCacheBackend entries key now = (current entries now key).map (·.value) := by
  rw [peek, TtlMap.current]
  cases hentry : entries.lookup key with
  | none => rfl
  | some entry =>
      have hne := h entry hentry
      have hiff : now < entry.expiry ↔ now ≤ entry.expiry := by omega
      simp only [Option.bind_some, inMemoryCacheBackend, decide_eq_true_eq, Option.filter_some,
        hiff]
      split <;> rfl

/-- An entry that was set for a second or more expires at one time in both. -/
theorem expiry_eq {now : Nat} {ttlSeconds : Int} (h : 1 ≤ ttlSeconds) :
    inMemoryCacheBackend.expiry now ttlSeconds = redisCacheBackend.expiry now ttlSeconds := by
  have hzero : max 0 ttlSeconds = ttlSeconds := by omega
  have hone : max 1 ttlSeconds = ttlSeconds := by omega
  simp only [inMemoryCacheBackend, redisCacheBackend, hzero, hone]

theorem mem_redisMatching : key ∈ redisMatching start t ↔
    (current t.entries t.now key).isSome = true ∧ scanMatches start key = true := by
  rw [redisMatching, List.mem_filter, Bool.and_eq_true, redis_peek, Option.isSome_map,
    ← AList.mem_keys, and_iff_right_iff_imp]
  rintro ⟨hcurrent, -⟩
  obtain ⟨entry, hentry⟩ := Option.isSome_iff_exists.mp hcurrent
  exact AList.lookup_isSome.mp (by rw [(current_eq_some.mp hentry).1]; rfl)

theorem mem_inMemoryMatching (h : Comparable s (.deletePrefix start)) :
    key ∈ inMemoryMatching start s ↔
      (current s.entries s.now key).isSome = true ∧ scanMatches start key = true := by
  rw [inMemoryMatching, List.mem_filter, ← AList.mem_keys, ← AList.lookup_isSome]
  constructor
  · rintro ⟨hkey, hstart⟩
    obtain ⟨entry, hentry⟩ := Option.isSome_iff_exists.mp hkey
    obtain ⟨hlive, hmatches⟩ := h key entry hentry
    have hcurrent : current s.entries s.now key = some entry :=
      current_eq_some.mpr ⟨hentry, hlive hstart⟩
    exact ⟨by rw [hcurrent]; rfl, (hmatches (hlive hstart)).trans hstart⟩
  · rintro ⟨hcurrent, hmatch⟩
    obtain ⟨entry, hentry⟩ := Option.isSome_iff_exists.mp hcurrent
    obtain ⟨hlookup, hnow⟩ := current_eq_some.mp hentry
    refine ⟨by rw [hlookup]; rfl, ?_⟩
    rw [← (h key entry hlookup).2 hnow]
    exact hmatch

/-- **One operation.**  Stores that agree give one answer, and agree after it. -/
theorem agree_step (hagree : Agree s t) (op : CacheOp) (h : Comparable s op) :
    (inMemoryStep s op).1 = (redisStep t op).1 ∧
      Agree (inMemoryStep s op).2 (redisStep t op).2 := by
  obtain ⟨entries, now⟩ := s
  obtain ⟨entries', now'⟩ := t
  obtain ⟨hnow, hcurrent⟩ := hagree
  simp only at hnow hcurrent
  subst hnow
  cases op with
  | get key =>
      have hmemory : peek inMemoryCacheBackend entries key now = _ := inMemory_peek h
      have hredis := redis_peek entries' key now
      refine ⟨?_, rfl, fun other => ?_⟩
      · show CacheAnswer.found (TtlMap.get inMemoryCacheBackend entries key now).1 =
          CacheAnswer.found (TtlMap.get redisCacheBackend entries' key now).1
        rw [TtlMap.get_fst, TtlMap.get_fst, hmemory, hredis, hcurrent]
      · have hgone : peek inMemoryCacheBackend entries key now = none →
            current entries now key = none := by
          rw [hmemory]
          exact Option.map_eq_none_iff.mp
        have hgone' : peek redisCacheBackend entries' key now = none →
            current entries' now key = none := by
          rw [hredis]
          exact Option.map_eq_none_iff.mp
        exact (current_get hgone).trans ((hcurrent other).trans (current_get hgone').symm)
  | set key value ttlSeconds =>
      refine ⟨show CacheAnswer.done = .done from rfl, show now = now from rfl, fun other => ?_⟩
      have hmemory := current_set inMemoryCacheBackend entries key other value ttlSeconds now
      rw [expiry_eq h, hcurrent] at hmemory
      exact hmemory.trans
        (current_set redisCacheBackend entries' key other value ttlSeconds now).symm
  | delete key =>
      refine ⟨show CacheAnswer.done = .done from rfl, show now = now from rfl, fun other => ?_⟩
      have hmemory := current_delete entries key other now
      rw [hcurrent] at hmemory
      exact hmemory.trans (current_delete entries' key other now).symm
  | deletePrefix start =>
      have hsame : ∀ key, key ∈ inMemoryMatching start ⟨entries, now⟩ ↔
          key ∈ redisMatching start ⟨entries', now⟩ := by
        intro key
        rw [mem_inMemoryMatching h, mem_redisMatching, hcurrent]
      have hperm : (inMemoryMatching start ⟨entries, now⟩).Perm
          (redisMatching start ⟨entries', now⟩) :=
        (List.perm_ext_iff_of_nodup (entries.keys_nodup.filter _)
          (entries'.keys_nodup.filter _)).mpr hsame
      refine ⟨congrArg CacheAnswer.deleted hperm.length_eq, rfl, fun key => ?_⟩
      have hmemory := current_deleteAll entries (inMemoryMatching start ⟨entries, now⟩) key now
      simp only [hsame, hcurrent] at hmemory
      exact hmemory.trans
        (current_deleteAll entries' (redisMatching start ⟨entries', now⟩) key now).symm
  | advance seconds =>
      refine ⟨show CacheAnswer.done = .done from rfl, show _ = _ from rfl, fun key => ?_⟩
      have hlater : now ≤ now + seconds * microsecondsPerSecond := Nat.le_add_right _ _
      have hmemory := @current_later _ _ _ entries key _ _ hlater
      rw [hcurrent] at hmemory
      exact hmemory.trans (current_later hlater).symm

end Agree

/-- **The backends are interchangeable** for every sequence of operations that both answer
alike: whatever the keys, the values and the times to live, they return the same results at
every step. -/
theorem backends_agree {ops : List CacheOp} (h : Meets inMemoryStep Comparable .empty ops) :
    outputs inMemoryStep .empty ops = outputs redisStep .empty ops :=
  outputs_eq (R := Agree) (fun _ _ op hagree hop => agree_step hagree op hop) ops .empty .empty
    ⟨rfl, fun _ => rfl⟩ h

theorem backends_agree_on_one_source :
    outputs inMemoryStep .empty [.set "virustotal:ip:1" "report" 60, .advance 30,
        .get "virustotal:ip:1", .deletePrefix "virustotal:", .get "virustotal:ip:1"] =
      outputs redisStep .empty [.set "virustotal:ip:1" "report" 60, .advance 30,
        .get "virustotal:ip:1", .deletePrefix "virustotal:", .get "virustotal:ip:1"] := by
  refine backends_agree ⟨?_, trivial, ?_, ?_, ?_, trivial⟩
  · show (1 : Int) ≤ 60
    decide
  · intro entry hentry
    cases hentry
    decide +kernel
  · have hplain : ∀ c ∈ utf8 "virustotal:", Plain c := by decide +kernel
    intro key entry hentry
    refine ⟨fun _ => ?_, fun _ => scanMatches_plain hplain key⟩
    by_cases hkey : key = "virustotal:ip:1"
    · subst hkey
      cases hentry
      decide +kernel
    · have hnone : (TtlMap.set inMemoryCacheBackend ∅ "virustotal:ip:1" "report" 60 0 :
          Entries String String).lookup key = none := (AList.lookup_insert_ne hkey).trans rfl
      cases hnone.symm.trans hentry
  · intro entry hentry
    cases hentry

/-- The backends differ after a time to live of zero, in the very second of an expiry, over an
expired entry that nobody has read since, and on a prefix that is a pattern. -/
theorem backends_differ :
    outputs inMemoryStep .empty [.set "key" "report" 0, .get "key"] ≠
        outputs redisStep .empty [.set "key" "report" 0, .get "key"] ∧
      outputs inMemoryStep .empty [.set "key" "report" 1, .advance 1, .get "key"] ≠
        outputs redisStep .empty [.set "key" "report" 1, .advance 1, .get "key"] ∧
      outputs inMemoryStep .empty [.set "key" "report" 1, .advance 2, .deletePrefix "k"] ≠
        outputs redisStep .empty [.set "key" "report" 1, .advance 2, .deletePrefix "k"] ∧
      outputs inMemoryStep .empty [.set "greynoise:ip" "report" 60, .deletePrefix "*:"] ≠
        outputs redisStep .empty [.set "greynoise:ip" "report" 60, .deletePrefix "*:"] := by
  refine ⟨?_, ?_, ?_, ?_⟩
  all_goals decide +kernel

end OpenSoar
