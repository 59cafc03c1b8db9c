/-
# `OpenSoar.Core.Scheduler` — one job in several schedulers that share a Redis

`Scheduler.tick` of `core/scheduler.py`, for one job that is registered in every instance.  Each
instance counts the interval on its own monotonic clock; a due tick names its bucket by the
wall clock and starts the callback when `SET NX EX` creates the bucket's key.

Calls of `tick` go step by step and interleave freely; every step happens at a time of the
common wall clock, in milliseconds, which never goes back.

The key expires on its own.  While the bucket is not over when it does, another instance can
start the job in the same bucket: the job is started once for each bucket exactly when the
interval is no longer than the lock's time (`once_per_bucket_iff`).
-/
import Mathlib.Data.List.Nodup
import OpenSoar.Lib.Expiring
import OpenSoar.Lib.Run

namespace OpenSoar

open Expiring

/-- `DEFAULT_LOCK_TTL_SECONDS`. -/
def defaultLockTtlSeconds : Nat := 60

/-- The answer of a lock to `acquire`: that of Redis, or an exception of the client, with the
command executed or not. -/
inductive LockReply where
  | answered
  | failed (executed : Bool)
  deriving DecidableEq

/-- Where a call of `tick` is. -/
inductive TickPhase where
  | idle
  | ticking (now : Int)
  | acquiring (bucket : Nat)
  | running
  deriving DecidableEq

/-- One job in all schedulers: its interval and the lock's time in seconds; the instance of each
call of `tick`; and what each instance's monotonic clock is ahead of the wall clock, in
milliseconds. -/
structure SchedulerConfig where
  interval : Int
  lockTtl : Int
  instanceOf : Nat → Nat
  offset : Nat → Int

/-- A callback that was started: by which call, for which bucket. -/
structure Start where
  call : Nat
  bucket : Nat
  time : Nat

/-- The time so far, `last_run` of the job in each instance, the calls of `tick`, the keys in
Redis, and the callbacks started. -/
structure SchedulerState where
  clock : Nat
  lastRun : Nat → Int
  phase : Nat → TickPhase
  keys : Keys Nat
  starts : List Start

/-- A step of one call: it begins, looks at the job, asks for the lock, or comes to the end of the
callback. -/
inductive TickStep where
  | begin
  | check
  | acquire (reply : LockReply)
  | finish (succeeded : Bool)

/-- A step of a call, at a time. -/
structure TickMove where
  call : Nat
  now : Nat
  step : TickStep

def SchedulerState.start : SchedulerState :=
  ⟨0, fun _ => 0, fun _ => .idle, fun _ => none, []⟩

variable (config : SchedulerConfig)

/-- `time.monotonic()` in the instance of a call. -/
def SchedulerConfig.monotonic (call now : Nat) : Int := now + config.offset (config.instanceOf call)

/-- `_tick_bucket`: the number of the window; `max(1, int(interval))`. -/
def SchedulerConfig.tickBucket (now : Nat) : Nat := now / 1000 / (max 1 config.interval).toNat

/-- `ex=max(1, int(ttl_seconds))`, in milliseconds. -/
def SchedulerConfig.lockMillis : Nat := (max 1 config.lockTtl).toNat * 1000

/-- `job["last_run"] = time.monotonic()`. -/
def SchedulerState.ran (s : SchedulerState) (call now : Nat) : SchedulerState :=
  { s with lastRun :=
      Function.update s.lastRun (config.instanceOf call) (config.monotonic call now) }

def SchedulerState.enter (s : SchedulerState) (call : Nat) (phase : TickPhase) : SchedulerState :=
  { s with phase := Function.update s.phase call phase }

/-- `tick` when the lock is granted: the callback is started. -/
def SchedulerState.granted (s : SchedulerState) (call bucket now : Nat) : SchedulerState :=
  { s.enter call .running with starts := s.starts ++ [⟨call, bucket, now⟩] }

/-- One step of one call; `.error` when the call is not there, or the time has passed. -/
def tickStep (s : SchedulerState) (move : TickMove) : Except Unit SchedulerState :=
  if move.now < s.clock then .error ()
  else
    let s := { s with clock := move.now }
    match move.step, s.phase move.call with
    | .begin, .idle => .ok (s.enter move.call (.ticking (config.monotonic move.call move.now)))
    | .check, .ticking now =>
        if now - s.lastRun (config.instanceOf move.call) < config.interval * 1000 then
          .ok (s.enter move.call .idle)
        else .ok (s.enter move.call (.acquiring (config.tickBucket move.now)))
    | .acquire .answered, .acquiring bucket =>
        match setNx s.keys bucket config.lockMillis move.now with
        | (true, keys) =>
            .ok (SchedulerState.granted { s with keys := keys } move.call bucket move.now)
        | (false, _) => .ok (SchedulerState.ran config (s.enter move.call .idle) move.call move.now)
    | .acquire (.failed executed), .acquiring bucket =>
        let keys := if executed then (setNx s.keys bucket config.lockMillis move.now).2 else s.keys
        .ok (SchedulerState.ran config ({ s with keys := keys }.enter move.call .idle)
          move.call move.now)
    | .finish true, .running =>
        .ok (SchedulerState.ran config (s.enter move.call .idle) move.call move.now)
    | .finish false, .running => .ok (s.enter move.call .idle)
    | _, _ => .error ()

/-- The command reaches Redis while the bucket that its key names is not over. -/
def Prompt (s : SchedulerState) (move : TickMove) : Prop :=
  ∀ reply bucket, move.step = .acquire reply → s.phase move.call = .acquiring bucket →
    config.tickBucket move.now = bucket

/-- No two callbacks were started for one bucket. -/
def OncePerBucket (s : SchedulerState) : Prop := (s.starts.map (·.bucket)).Nodup

/-! ## What a step does -/

/-- What is left of a step for the keys and the starts. -/
inductive Ticked (s : SchedulerState) (move : TickMove) (s' : SchedulerState) : Prop
  | aside : s'.keys = s.keys → s'.starts = s.starts → Ticked s move s'
  | failed (bucket : Nat) :
      s'.keys = (setNx s.keys bucket config.lockMillis move.now).2 → s'.starts = s.starts →
      Ticked s move s'
  | granted (bucket : Nat) (reply : LockReply) : move.step = .acquire reply →
      s.phase move.call = .acquiring bucket →
      (setNx s.keys bucket config.lockMillis move.now).1 = true →
      s'.keys = (setNx s.keys bucket config.lockMillis move.now).2 →
      s'.starts = s.starts ++ [⟨move.call, bucket, move.now⟩] → Ticked s move s'

variable {config}

theorem tickStep_ok {s s' : SchedulerState} {move : TickMove}
    (h : tickStep config s move = .ok s') :
    s.clock ≤ move.now ∧ s'.clock = move.now ∧ Ticked config s move s' := by
  unfold tickStep at h
  split at h
  · cases h
  · rename_i hclock
    refine ⟨by omega, ?_⟩
    simp only at h
    split at h
    · cases h
      exact ⟨rfl, .aside rfl rfl⟩
    · split at h
      · cases h
        exact ⟨rfl, .aside rfl rfl⟩
      · cases h
        exact ⟨rfl, .aside rfl rfl⟩
    · rename_i bucket hstep hphase
      split at h
      · rename_i keys hset
        cases h
        have hkeys := congrArg Prod.snd hset
        exact ⟨rfl, .granted bucket .answered hstep hphase (congrArg Prod.fst hset) hkeys.symm rfl⟩
      · cases h
        exact ⟨rfl, .aside rfl rfl⟩
    · rename_i executed bucket hstep hphase
      cases h
      cases executed with
      | true => exact ⟨rfl, .failed bucket rfl rfl⟩
      | false => exact ⟨rfl, .aside rfl rfl⟩
    · cases h
      exact ⟨rfl, .aside rfl rfl⟩
    · cases h
      exact ⟨rfl, .aside rfl rfl⟩
    · cases h

/-! ## When the lock outlasts the bucket -/

/-- Two times in one window are less than the window apart. -/
theorem close_of_same_window {window t now : Nat} (hwindow : 0 < window)
    (h : now / 1000 / window = t / 1000 / window) : now < t + window * 1000 := by
  rw [Nat.div_div_eq_div_mul, Nat.div_div_eq_div_mul] at h
  have hpos : 0 < 1000 * window := by omega
  have hnow := Nat.lt_mul_div_succ now hpos
  have ht := Nat.mul_div_le t (1000 * window)
  rw [h, Nat.mul_add] at hnow
  omega

/-- Every start was made in its bucket, and its key is kept for the lock's time. -/
structure SchedulerInv (config : SchedulerConfig) (s : SchedulerState) : Prop where
  inBucket : ∀ start ∈ s.starts, config.tickBucket start.time = start.bucket
  past : ∀ start ∈ s.starts, start.time ≤ s.clock
  kept : ∀ start ∈ s.starts, Kept s.keys start.bucket (start.time + config.lockMillis)
  once : OncePerBucket s

/-- A step that starts nothing keeps the invariant when it keeps the keys of the starts. -/
theorem SchedulerInv.of_starts {s s' : SchedulerState} (hinv : SchedulerInv config s)
    (hclock : s.clock ≤ s'.clock) (hstarts : s'.starts = s.starts)
    (hkept : ∀ start ∈ s.starts, Kept s'.keys start.bucket (start.time + config.lockMillis)) :
    SchedulerInv config s' := by
  refine ⟨?_, ?_, ?_, ?_⟩
  · rw [hstarts]
    exact hinv.inBucket
  · rw [hstarts]
    exact fun start hstart => Nat.le_trans (hinv.past start hstart) hclock
  · rw [hstarts]
    exact hkept
  · rw [OncePerBucket, hstarts]
    exact hinv.once

theorem schedulerInv_step (hshort : config.interval ≤ max 1 config.lockTtl)
    {s s' : SchedulerState} {move : TickMove} (hinv : SchedulerInv config s)
    (hprompt : Prompt config s move) (h : tickStep config s move = .ok s') :
    SchedulerInv config s' := by
  obtain ⟨hclock, hclock', hticked⟩ := tickStep_ok h
  have hpast : ∀ start ∈ s.starts, start.time ≤ move.now :=
    fun start hstart => Nat.le_trans (hinv.past start hstart) hclock
  have hkept : ∀ bucket, ∀ start ∈ s.starts,
      Kept (setNx s.keys bucket config.lockMillis move.now).2 start.bucket
        (start.time + config.lockMillis) := by
    intro bucket start hstart
    refine (hinv.kept start hstart).setNx ?_
    have hle := hpast start hstart
    omega
  cases hticked with
  | aside hkeys hstarts =>
      refine hinv.of_starts (by omega) hstarts ?_
      rw [hkeys]
      exact hinv.kept
  | failed bucket hkeys hstarts =>
      refine hinv.of_starts (by omega) hstarts ?_
      rw [hkeys]
      exact hkept bucket
  | granted bucket reply hstep hphase hset hkeys hstarts =>
      have hbucket : config.tickBucket move.now = bucket := hprompt reply bucket hstep hphase
      -- an earlier start of this bucket would still hold the key
      have hnew : ∀ start ∈ s.starts, start.bucket ≠ bucket := by
        intro start hstart hsame
        have hwindow : move.now / 1000 / (max 1 config.interval).toNat =
            start.time / 1000 / (max 1 config.interval).toNat := by
          have hthen := hinv.inBucket start hstart
          rw [hsame] at hthen
          exact hbucket.trans hthen.symm
        have hclose := close_of_same_window (by omega) hwindow
        have hle : move.now ≤ start.time + config.lockMillis := by
          unfold SchedulerConfig.lockMillis
          omega
        have hkey := hinv.kept start hstart
        rw [hsame] at hkey
        rw [hkey.not_set hle] at hset
        cases hset
      refine ⟨?_, ?_, ?_, ?_⟩
      · rw [hstarts]
        intro start hstart
        rcases List.mem_append.mp hstart with hold | hlast
        · exact hinv.inBucket start hold
        · cases List.mem_singleton.mp hlast
          exact hbucket
      · rw [hstarts, hclock']
        intro start hstart
        rcases List.mem_append.mp hstart with hold | hlast
        · exact hpast start hold
        · cases List.mem_singleton.mp hlast
          exact Nat.le_refl _
      · rw [hstarts, hkeys]
        intro start hstart
        rcases List.mem_append.mp hstart with hold | hlast
        · exact hkept bucket start hold
        · cases List.mem_singleton.mp hlast
          exact kept_of_set hset
      · rw [OncePerBucket, hstarts, List.map_append, List.nodup_append]
        refine ⟨hinv.once, List.nodup_singleton _, ?_⟩
        intro b hb b' hb' hsame
        obtain ⟨start, hstart, rfl⟩ := List.mem_map.mp hb
        rw [List.map_singleton, List.mem_singleton] at hb'
        exact hnew start hstart (hsame.trans hb')

theorem schedulerInv_start (config : SchedulerConfig) : SchedulerInv config .start where
  inBucket _ h := absurd h List.not_mem_nil
  past _ h := absurd h List.not_mem_nil
  kept _ h := absurd h List.not_mem_nil
  once := List.nodup_nil

theorem once_of_short (hshort : config.interval ≤ max 1 config.lockTtl) {moves : List TickMove}
    (hprompt : Along (tickStep config) (Prompt config) .start moves) :
    OncePerBucket (run (tickStep config) .start moves) :=
  (run_inv (tickStep config) (fun _ _ _ hinv hC h => schedulerInv_step hshort hinv hC h) moves _
    (schedulerInv_start config) hprompt).once

/-! ## When it does not -/

/-- A call that goes through without a pause. -/
def promptTick (call now : Nat) : List TickMove :=
  [⟨call, now, .begin⟩, ⟨call, now, .check⟩, ⟨call, now, .acquire .answered⟩]

/-- A due job whose key is free is started. -/
theorem run_promptTick (config : SchedulerConfig) (s : SchedulerState) (call now : Nat)
    (hclock : s.clock ≤ now)
    (hidle : s.phase call = .idle)
    (hdue : config.interval * 1000 ≤
      config.monotonic call now - s.lastRun (config.instanceOf call))
    (hfree : live s.keys (config.tickBucket now) now = false) :
    Along (tickStep config) (Prompt config) s (promptTick call now) ∧
      run (tickStep config) s (promptTick call now) = {
        clock := now
        lastRun := s.lastRun
        phase := Function.update s.phase call .running
        keys := Function.update s.keys (config.tickBucket now) (some (now + config.lockMillis))
        starts := s.starts ++ [⟨call, config.tickBucket now, now⟩] } := by
  have hbegin : attempt (tickStep config) s ⟨call, now, .begin⟩ = { s with
      clock := now
      phase := Function.update s.phase call (.ticking (config.monotonic call now)) } := by
    simp [attempt, tickStep, Nat.not_lt.mpr hclock, hidle, SchedulerState.enter]
  have hcheck : attempt (tickStep config)
      { s with
        clock := now
        phase := Function.update s.phase call (.ticking (config.monotonic call now)) }
      ⟨call, now, .check⟩ = { s with
        clock := now
        phase := Function.update s.phase call (.acquiring (config.tickBucket now)) } := by
    simp [attempt, tickStep, SchedulerState.enter, Int.not_lt.mpr hdue]
  have hgrant : attempt (tickStep config)
      { s with
        clock := now
        phase := Function.update s.phase call (.acquiring (config.tickBucket now)) }
      ⟨call, now, .acquire .answered⟩ = {
        clock := now
        lastRun := s.lastRun
        phase := Function.update s.phase call .running
        keys := Function.update s.keys (config.tickBucket now) (some (now + config.lockMillis))
        starts := s.starts ++ [⟨call, config.tickBucket now, now⟩] } := by
    simp [attempt, tickStep, SchedulerState.enter, SchedulerState.granted, setNx_free hfree]
  refine ⟨⟨?_, ?_, ?_, trivial⟩, ?_⟩
  · intro reply bucket hstep
    cases hstep
  · intro reply bucket hstep
    cases hstep
  · rw [hbegin, hcheck]
    intro reply bucket _ hphase
    simp only [Function.update_self] at hphase
    exact TickPhase.acquiring.inj hphase
  · rw [promptTick, run_cons, hbegin, run_cons, hcheck, run_cons, hgrant]
    rfl

/-- A job in two instances whose clocks agree. -/
def twoInstances (interval : Int) : SchedulerConfig where
  interval := interval
  lockTtl := defaultLockTtlSeconds
  instanceOf := id
  offset := fun _ => 0

/-- The second instance ticks when the first one's key has just expired, in the same bucket. -/
theorem started_twice {interval : Nat} (hlong : defaultLockTtlSeconds < interval) :
    ∃ moves, Along (tickStep (twoInstances interval)) (Prompt (twoInstances interval))
      .start moves ∧
      ¬ OncePerBucket (run (tickStep (twoInstances interval)) .start moves) := by
  have hlong' : 60 < interval := hlong
  have hwindow : (max 1 (interval : Int)).toNat = interval := by omega
  have hfirst : (twoInstances interval).tickBucket (interval * 1000) = 1 := by
    show interval * 1000 / 1000 / (max 1 (interval : Int)).toNat = 1
    rw [hwindow, Nat.mul_div_cancel _ (by omega), Nat.div_self (by omega)]
  have hsecond : (twoInstances interval).tickBucket (interval * 1000 + 60001) = 1 := by
    show (interval * 1000 + 60001) / 1000 / (max 1 (interval : Int)).toNat = 1
    have hseconds : (interval * 1000 + 60001) / 1000 = interval + 60 := by omega
    rw [hwindow, hseconds, Nat.add_div_left _ (by omega), Nat.div_eq_of_lt hlong']
  have hmillis : (twoInstances interval).lockMillis = 60000 := by
    have hseconds : (max 1 (60 : Int)).toNat = 60 := by omega
    show (max 1 (60 : Int)).toNat * 1000 = 60000
    rw [hseconds]
  obtain ⟨hprompt, hrun⟩ := run_promptTick (twoInstances interval) .start 0 (interval * 1000)
    (Nat.zero_le _) rfl
    (by simp [twoInstances, SchedulerConfig.monotonic, SchedulerState.start]) rfl
  obtain ⟨s, hs⟩ : ∃ s, s = run (tickStep (twoInstances interval)) .start
      (promptTick 0 (interval * 1000)) := ⟨_, rfl⟩
  rw [← hs, hfirst, hmillis] at hrun
  obtain ⟨hprompt', hrun'⟩ := run_promptTick (twoInstances interval) s 1 (interval * 1000 + 60001)
    (by rw [hrun]; exact Nat.le_add_right _ _) (by rw [hrun]; rfl)
    (by
      rw [hrun]
      simp only [twoInstances, SchedulerConfig.monotonic, SchedulerState.start]
      omega)
    (by
      rw [hrun, hsecond]
      simp [live])
  refine ⟨promptTick 0 (interval * 1000) ++ promptTick 1 (interval * 1000 + 60001),
    (along_append _).mpr ⟨hprompt, by rw [← hs]; exact hprompt'⟩, ?_⟩
  rw [run_append, ← hs, hrun', hsecond, OncePerBucket, hrun]
  simp [SchedulerState.start]

/-- **When a job is started once for each bucket.**  Over all instances and in every
interleaving of their calls, with commands that reach Redis in the bucket they name, no two
callbacks are started for one bucket if and only if the interval is not longer than the
lock's default time. -/
theorem once_per_bucket_iff (interval : Int) :
    (∀ (instanceOf : Nat → Nat) (offset : Nat → Int) (moves : List TickMove),
      Along (tickStep ⟨interval, defaultLockTtlSeconds, instanceOf, offset⟩)
        (Prompt ⟨interval, defaultLockTtlSeconds, instanceOf, offset⟩) .start moves →
      OncePerBucket
        (run (tickStep ⟨interval, defaultLockTtlSeconds, instanceOf, offset⟩) .start moves)) ↔
      interval ≤ defaultLockTtlSeconds := by
  constructor
  · intro hclaim
    by_contra hlong
    obtain ⟨n, rfl⟩ := Int.eq_ofNat_of_zero_le (show 0 ≤ interval by omega)
    obtain ⟨moves, hprompt, htwice⟩ := started_twice (show defaultLockTtlSeconds < n by omega)
    exact htwice (hclaim id (fun _ => 0) moves hprompt)
  · intro hshort instanceOf offset moves hprompt
    refine once_of_short ?_ hprompt
    show interval ≤ max 1 (defaultLockTtlSeconds : Int)
    omega

/-- A job that is due every five minutes is started twice in one of them. -/
theorem five_minute_job_is_started_twice :
    ¬ ∀ (config : SchedulerConfig) (moves : List TickMove), 1 ≤ config.interval →
      config.lockTtl = defaultLockTtlSeconds →
      Along (tickStep config) (Prompt config) .start moves →
      OncePerBucket (run (tickStep config) .start moves) := by
  intro hclaim
  obtain ⟨moves, hprompt, htwice⟩ := started_twice (show defaultLockTtlSeconds < 300 by decide)
  refine htwice (hclaim _ moves ?_ rfl hprompt)
  show (1 : Int) ≤ 300
  omega

end OpenSoar
