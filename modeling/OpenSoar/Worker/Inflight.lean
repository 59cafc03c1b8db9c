/-
# `OpenSoar.Worker.Inflight` — the in-flight slot of an observable

`_mark_inflight` and `_clear_inflight` of `worker/enrichment.py` over a Redis that is there
throughout: `enqueue_enrichment` claims the slot of a type, a value and a partner, and the task
it publishes clears it on every way out.  A message that is acknowledged late may be delivered
again, so a task is executed any number of times.

Calls and executions go step by step and interleave freely; every step happens at a time of the
common clock, in milliseconds, which never goes back.

`_clear_inflight` deletes the key whoever set it.  A claim excludes every other one until it is
cleared or has expired exactly when no clear comes while the claim of another call is in force
(`exclusive_iff`).
-/
import OpenSoar.Lib.Expiring
import OpenSoar.Lib.Run

namespace OpenSoar

open Expiring

/-- `INFLIGHT_TTL_SECONDS`. -/
def inflightTtlSeconds : Nat := 300

/-- The time of a claim, in milliseconds. -/
def inflightTtl : Nat := inflightTtlSeconds * 1000

/-- What the slot is keyed by. -/
structure InflightSlot where
  type : String
  value : String
  partner : Option String
  deriving DecidableEq

/-- `partner or '-'`. -/
def partnerOrDash : Option String → String
  | none => "-"
  | some partner => if partner = "" then "-" else partner

/-- `_inflight_key`. -/
def InflightSlot.key (slot : InflightSlot) : String :=
  "opensoar:enrich:inflight:" ++ partnerOrDash slot.partner ++ ":" ++ slot.type ++ ":" ++ slot.value

/-- `_mark_inflight`: whether the slot was claimed, and the keys after it. -/
def markInflight (keys : Keys String) (slot : InflightSlot) (now : Nat) : Bool × Keys String :=
  setNx keys slot.key inflightTtl now

/-- `_clear_inflight`. -/
def clearInflight (keys : Keys String) (slot : InflightSlot) : Keys String :=
  delete keys slot.key

/-- How `enrich_observable_task.delay` ends: it returns, or raises an exception that
`enqueue_enrichment` catches or not, with the message published or not. -/
inductive DelayReply where
  | returned
  | raised (caught published : Bool)
  deriving DecidableEq

/-- How `_run_enrichment` returns. -/
inductive EnrichmentExit where
  | missing
  | failed
  | complete
  deriving DecidableEq

/-- Where a call of `enqueue_enrichment`, or an execution of the task of one, is. -/
inductive InflightPhase where
  | idle
  | claimed (slot : InflightSlot)
  | published (slot : InflightSlot)
  | running (call : Nat) (slot : InflightSlot)
  | returned (call : Nat) (slot : InflightSlot)
  | ended
  deriving DecidableEq

/-- A step: `_mark_inflight` and `delay` of a call; an execution that begins, the clear on a way
out of `_run_enrichment`, and the clear in the `except` of the task. -/
inductive InflightStep where
  | mark (slot : InflightSlot)
  | delay (reply : DelayReply)
  | execute (call : Nat)
  | exit (exit : EnrichmentExit)
  | crash
  deriving DecidableEq

/-- A step of a call or an execution, at a time. -/
structure InflightMove where
  actor : Nat
  now : Nat
  step : InflightStep

/-- What happened: a call claimed a slot, or its slot was cleared for it. -/
inductive InflightEvent where
  | claimed (call : Nat) (slot : InflightSlot) (time : Nat)
  | cleared (call : Nat)
  deriving DecidableEq

/-- The time so far, the calls and executions, the keys in Redis, and what happened. -/
structure InflightState where
  clock : Nat
  phase : Nat → InflightPhase
  keys : Keys String
  history : List InflightEvent

def InflightState.start : InflightState := ⟨0, fun _ => .idle, fun _ => none, []⟩

def InflightState.enter (s : InflightState) (actor : Nat) (phase : InflightPhase) :
    InflightState :=
  { s with phase := Function.update s.phase actor phase }

/-- The slot is cleared for a call. -/
def InflightState.clear (s : InflightState) (call : Nat) (slot : InflightSlot) : InflightState :=
  { s with
    keys := clearInflight s.keys slot
    history := s.history ++ [.cleared call] }

/-- The claim of a call on a slot, when it is granted. -/
def InflightState.mark (s : InflightState) (call : Nat) (slot : InflightSlot) (now : Nat) :
    InflightState :=
  match markInflight s.keys slot now with
  | (true, keys) =>
      { s.enter call (.claimed slot) with
        keys := keys
        history := s.history ++ [.claimed call slot now] }
  | (false, _) => s.enter call .ended

/-- The end of `delay`: an exception that is caught has the slot cleared. -/
def InflightState.delay (s : InflightState) (call : Nat) (slot : InflightSlot) :
    DelayReply → InflightState
  | .returned => s.enter call (.published slot)
  | .raised caught published =>
      (if caught then s.clear call slot else s).enter call
        (if published then .published slot else .ended)

/-- One step; `.error` when the actor is not there, or the time has passed. -/
def inflightStep (s : InflightState) (move : InflightMove) : Except Unit InflightState :=
  if move.now < s.clock then .error ()
  else
    let s := { s with clock := move.now }
    match move.step, s.phase move.actor with
    | .mark slot, .idle => .ok (s.mark move.actor slot move.now)
    | .delay reply, .claimed slot => .ok (s.delay move.actor slot reply)
    | .execute call, .idle =>
        match s.phase call with
        | .published slot => .ok (s.enter move.actor (.running call slot))
        | _ => .error ()
    | .exit _, .running call slot =>
        .ok ((s.clear call slot).enter move.actor (.returned call slot))
    | .crash, .running call slot => .ok ((s.clear call slot).enter move.actor .ended)
    | .crash, .returned call slot => .ok ((s.clear call slot).enter move.actor .ended)
    | _, _ => .error ()

/-- The clear that a step makes: for which call, of which slot. -/
def InflightState.clears (s : InflightState) (move : InflightMove) : Option (Nat × InflightSlot) :=
  match move.step, s.phase move.actor with
  | .delay (.raised true _), .claimed slot => some (move.actor, slot)
  | .exit _, .running call slot => some (call, slot)
  | .crash, .running call slot => some (call, slot)
  | .crash, .returned call slot => some (call, slot)
  | _, _ => none

/-- The call claimed the slot at this time, and did not have it cleared since. -/
def HoldsSlot (history : List InflightEvent) (call : Nat) (slot : InflightSlot)
    (time : Nat) : Prop :=
  ∃ before after, history = before ++ .claimed call slot time :: after ∧ .cleared call ∉ after

/-- While a call holds a slot and its time is not over, no `_mark_inflight` of the slot's key
succeeds. -/
def Exclusive (s : InflightState) : Prop :=
  ∀ call slot time, HoldsSlot s.history call slot time →
    ∀ other : InflightSlot, ∀ now, other.key = slot.key → s.clock ≤ now →
      now ≤ time + inflightTtl → (markInflight s.keys other now).1 = false

/-- No other call holds the key that the step clears, unless its time is over. -/
def Harmless (s : InflightState) (move : InflightMove) : Prop :=
  s.clock ≤ move.now → ∀ call slot, s.clears move = some (call, slot) →
    ∀ other slot' time, HoldsSlot s.history other slot' time → other ≠ call →
      slot'.key = slot.key → time + inflightTtl < move.now

/-- A step clears a slot only while the call it is cleared for holds it, and in its time. -/
def InTime (s : InflightState) (move : InflightMove) : Prop :=
  ∀ call slot, s.clears move = some (call, slot) →
    ∃ time, HoldsSlot s.history call slot time ∧ move.now ≤ time + inflightTtl

/-! ## What a step does -/

/-- What is left of a step for the keys and the history. -/
inductive Moved (s : InflightState) (move : InflightMove) (s' : InflightState) : Prop
  | aside : s.clears move = none → s'.keys = s.keys → s'.history = s.history → Moved s move s'
  | claimed (slot : InflightSlot) : s.clears move = none →
      (markInflight s.keys slot move.now).1 = true →
      s'.keys = (markInflight s.keys slot move.now).2 →
      s'.history = s.history ++ [.claimed move.actor slot move.now] → Moved s move s'
  | cleared (call : Nat) (slot : InflightSlot) : s.clears move = some (call, slot) →
      s'.keys = clearInflight s.keys slot → s'.history = s.history ++ [.cleared call] →
      Moved s move s'

theorem inflightStep_ok {s s' : InflightState} {move : InflightMove}
    (h : inflightStep s move = .ok s') :
    s.clock ≤ move.now ∧ s'.clock = move.now ∧ Moved s move s' := by
  obtain ⟨actor, now, step⟩ := move
  unfold inflightStep at h
  split at h
  · cases h
  · rename_i hclock
    refine ⟨Nat.le_of_not_lt hclock, ?_⟩
    simp only at h
    split at h
    · rename_i slot hidle
      cases h
      unfold InflightState.mark
      split
      · rename_i keys hmark
        have hset := congrArg Prod.fst hmark
        have hkeys := congrArg Prod.snd hmark
        exact ⟨rfl, .claimed slot (by simp [InflightState.clears]) hset hkeys.symm rfl⟩
      · exact ⟨rfl, .aside (by simp [InflightState.clears]) rfl rfl⟩
    · rename_i reply slot hclaimed
      cases h
      cases reply with
      | returned => exact ⟨rfl, .aside (by simp [InflightState.clears]) rfl rfl⟩
      | raised caught published =>
          cases caught with
          | false => exact ⟨rfl, .aside (by simp [InflightState.clears]) rfl rfl⟩
          | true =>
              exact ⟨rfl, .cleared actor slot (by simp [InflightState.clears, hclaimed]) rfl rfl⟩
    · split at h
      · cases h
        exact ⟨rfl, .aside (by simp [InflightState.clears]) rfl rfl⟩
      · cases h
    · rename_i call slot hrunning
      cases h
      exact ⟨rfl, .cleared call slot (by simp [InflightState.clears, hrunning]) rfl rfl⟩
    · rename_i call slot hrunning
      cases h
      exact ⟨rfl, .cleared call slot (by simp [InflightState.clears, hrunning]) rfl rfl⟩
    · rename_i call slot hreturned
      cases h
      exact ⟨rfl, .cleared call slot (by simp [InflightState.clears, hreturned]) rfl rfl⟩
    · cases h

/-- A step that clears a slot is there, when its time has come. -/
theorem inflightStep_of_clears {s : InflightState} {move : InflightMove} {call : Nat}
    {slot : InflightSlot} (hclock : s.clock ≤ move.now)
    (h : s.clears move = some (call, slot)) :
    ∃ s', inflightStep s move = .ok s' := by
  unfold InflightState.clears at h
  unfold inflightStep
  rw [if_neg (Nat.not_lt.mpr hclock)]
  split at h
  · rename_i published slot hstep hphase
    simp only [hstep, hphase]
    exact ⟨_, rfl⟩
  · rename_i exit call slot hstep hphase
    simp only [hstep, hphase]
    exact ⟨_, rfl⟩
  · rename_i call slot hstep hphase
    simp only [hstep, hphase]
    exact ⟨_, rfl⟩
  · rename_i call slot hstep hphase
    simp only [hstep, hphase]
    exact ⟨_, rfl⟩
  · cases h

/-- Who holds a slot after one event more. -/
theorem holds_append {history : List InflightEvent} {event : InflightEvent} {call time : Nat}
    {slot : InflightSlot} :
    HoldsSlot (history ++ [event]) call slot time ↔
      (HoldsSlot history call slot time ∧ event ≠ .cleared call) ∨
        event = .claimed call slot time := by
  constructor
  · rintro ⟨before, after, hsplit, hkept⟩
    rcases List.eq_nil_or_concat after with rfl | ⟨rest, last, rfl⟩
    · obtain ⟨-, hlast⟩ := List.append_inj' hsplit rfl
      exact Or.inr (List.singleton_inj.mp hlast)
    · have hsplit' :
        history ++ [event] = (before ++ .claimed call slot time :: rest) ++ [last] := by
        rw [hsplit]
        simp
      obtain ⟨hbefore, hlast⟩ := List.append_inj' hsplit' rfl
      cases hlast
      refine Or.inl ⟨⟨before, rest, hbefore, ?_⟩, ?_⟩
      · exact fun hmem => hkept (by simp [hmem])
      · rintro rfl
        exact hkept (by simp)
  · rintro (⟨⟨before, after, rfl, hkept⟩, hevent⟩ | rfl)
    · refine ⟨before, after ++ [event], by simp, ?_⟩
      simp only [List.mem_append, List.mem_singleton, not_or]
      exact ⟨hkept, fun h => hevent h.symm⟩
    · exact ⟨history, [], rfl, List.not_mem_nil⟩

/-! ## When a claim excludes the others -/

/-- Every slot that is held is kept in Redis for the whole time of its claim, and no two calls
hold one key in their time. -/
structure InflightInv (s : InflightState) : Prop where
  past : ∀ call slot time, HoldsSlot s.history call slot time → time ≤ s.clock
  kept : ∀ call slot time, HoldsSlot s.history call slot time → s.clock ≤ time + inflightTtl →
    Kept s.keys slot.key (time + inflightTtl)
  sole : ∀ call slot time call' slot' time', HoldsSlot s.history call slot time →
    HoldsSlot s.history call' slot' time' → slot.key = slot'.key →
    s.clock ≤ time + inflightTtl → s.clock ≤ time' + inflightTtl → call = call'

theorem inflightInv_start : InflightInv .start where
  past call slot time := by
    rintro ⟨before, after, hsplit, -⟩
    cases before <;> cases hsplit
  kept call slot time := by
    rintro ⟨before, after, hsplit, -⟩
    cases before <;> cases hsplit
  sole call slot time call' slot' time' := by
    rintro ⟨before, after, hsplit, -⟩
    cases before <;> cases hsplit

/-- The key of a slot that is held can be set by no one. -/
theorem InflightInv.exclusive {s : InflightState} (hinv : InflightInv s) : Exclusive s := by
  intro call slot time hholds other now hkey hclock hnow
  have hkept := hinv.kept call slot time hholds (Nat.le_trans hclock hnow)
  show (setNx s.keys other.key inflightTtl now).1 = false
  rw [hkey]
  exact hkept.not_set hnow

/-- Time that goes by keeps what holds of the slots, and so does a step that touches no key. -/
theorem InflightInv.aside {s s' : InflightState} (hinv : InflightInv s)
    (hclock : s.clock ≤ s'.clock) (hkeys : s'.keys = s.keys) (hhistory : s'.history = s.history) :
    InflightInv s' := by
  refine ⟨?_, ?_, ?_⟩
  · rw [hhistory]
    exact fun call slot time hholds => Nat.le_trans (hinv.past call slot time hholds) hclock
  · rw [hhistory, hkeys]
    exact fun call slot time hholds hnow =>
      hinv.kept call slot time hholds (Nat.le_trans hclock hnow)
  · rw [hhistory]
    exact fun call slot time call' slot' time' hholds hholds' hkey hnow hnow' =>
      hinv.sole call slot time call' slot' time' hholds hholds' hkey
        (Nat.le_trans hclock hnow) (Nat.le_trans hclock hnow')

theorem InflightInv.claimed {s s' : InflightState} {call₀ now : Nat} {slot₀ : InflightSlot}
    (hinv : InflightInv s) (hclock : s.clock ≤ now) (hclock' : s'.clock = now)
    (hset : (markInflight s.keys slot₀ now).1 = true)
    (hkeys : s'.keys = (markInflight s.keys slot₀ now).2)
    (hhistory : s'.history = s.history ++ [.claimed call₀ slot₀ now]) : InflightInv s' := by
  -- whoever held the key in its time would have kept it from being set
  have hfree : ∀ call slot time, HoldsSlot s.history call slot time →
      slot.key = slot₀.key → time + inflightTtl < now := by
    intro call slot time hholds hkey
    by_contra hnow
    have hrefused := hinv.exclusive call slot time hholds slot₀ now hkey.symm hclock
      (Nat.le_of_not_lt hnow)
    exact Bool.false_ne_true (hrefused.symm.trans hset)
  refine ⟨?_, ?_, ?_⟩
  · rw [hhistory, hclock']
    intro call slot time hholds
    rcases holds_append.mp hholds with ⟨hold, -⟩ | hnew
    · exact Nat.le_trans (hinv.past call slot time hold) hclock
    · cases hnew
      exact Nat.le_refl _
  · rw [hhistory, hclock', hkeys]
    intro call slot time hholds hnow
    rcases holds_append.mp hholds with ⟨hold, -⟩ | hnew
    · have hpast := hinv.past call slot time hold
      exact (hinv.kept call slot time hold (by omega)).setNx (by omega)
    · cases hnew
      exact kept_of_set hset
  · rw [hhistory, hclock']
    intro call slot time call' slot' time' hholds hholds' hkey hnow hnow'
    rcases holds_append.mp hholds with ⟨hold, -⟩ | hnew
    · rcases holds_append.mp hholds' with ⟨hold', -⟩ | hnew'
      · exact hinv.sole call slot time call' slot' time' hold hold' hkey (by omega) (by omega)
      · cases hnew'
        exact absurd hnow (Nat.not_le.mpr (hfree call slot time hold hkey))
    · cases hnew
      rcases holds_append.mp hholds' with ⟨hold', -⟩ | hnew'
      · exact absurd hnow' (Nat.not_le.mpr (hfree call' slot' time' hold' hkey.symm))
      · cases hnew'
        rfl

/-- A clear of a key that no other call holds in its time. -/
theorem InflightInv.cleared {s s' : InflightState} {call₀ : Nat} {slot₀ : InflightSlot}
    (hinv : InflightInv s) (hclock : s.clock ≤ s'.clock)
    (hkeys : s'.keys = clearInflight s.keys slot₀)
    (hhistory : s'.history = s.history ++ [.cleared call₀])
    (hover : ∀ call slot time, HoldsSlot s.history call slot time → call ≠ call₀ →
      slot.key = slot₀.key → time + inflightTtl < s'.clock) : InflightInv s' := by
  have hold : ∀ {call slot time}, HoldsSlot s'.history call slot time →
      HoldsSlot s.history call slot time ∧ call ≠ call₀ := by
    intro call slot time hholds
    rw [hhistory] at hholds
    rcases holds_append.mp hholds with ⟨hold, hother⟩ | hnew
    · exact ⟨hold, fun hsame => hother (by rw [hsame])⟩
    · cases hnew
  refine ⟨?_, ?_, ?_⟩
  · intro call slot time hholds
    exact Nat.le_trans (hinv.past call slot time (hold hholds).1) hclock
  · rw [hkeys]
    intro call slot time hholds hnow
    obtain ⟨hheld, hcall⟩ := hold hholds
    have hkey : slot.key ≠ slot₀.key := by
      intro hsame
      exact absurd hnow (Nat.not_le.mpr (hover call slot time hheld hcall hsame))
    exact (hinv.kept call slot time hheld (Nat.le_trans hclock hnow)).delete hkey
  · intro call slot time call' slot' time' hholds hholds' hkey hnow hnow'
    exact hinv.sole call slot time call' slot' time' (hold hholds).1 (hold hholds').1 hkey
      (Nat.le_trans hclock hnow) (Nat.le_trans hclock hnow')

theorem inflightInv_step {s s' : InflightState} {move : InflightMove} (hinv : InflightInv s)
    (hharmless : Harmless s move) (h : inflightStep s move = .ok s') : InflightInv s' := by
  obtain ⟨hclock, hclock', hmoved⟩ := inflightStep_ok h
  have hlater : s.clock ≤ s'.clock := by rw [hclock']; exact hclock
  cases hmoved with
  | aside _ hkeys hhistory => exact hinv.aside hlater hkeys hhistory
  | claimed slot₀ _ hset hkeys hhistory => exact hinv.claimed hclock hclock' hset hkeys hhistory
  | cleared call₀ slot₀ hclears hkeys hhistory =>
      refine hinv.cleared hlater hkeys hhistory ?_
      rw [hclock']
      exact hharmless hclock call₀ slot₀ hclears

/-- A clear that leaves the exclusion intact was harmless. -/
theorem harmless_of_exclusive {s : InflightState} {move : InflightMove}
    (h : Exclusive (attempt inflightStep s move)) : Harmless s move := by
  intro hclock call slot hclears other slot' time hholds hother hkey
  by_contra hnow
  obtain ⟨s', hstep⟩ := inflightStep_of_clears hclock hclears
  rw [attempt_ok inflightStep hstep] at h
  obtain ⟨-, hclock', hmoved⟩ := inflightStep_ok hstep
  cases hmoved with
  | aside hnone _ _ => cases hnone.symm.trans hclears
  | claimed _ hnone _ _ _ => cases hnone.symm.trans hclears
  | cleared call' slot₀ hclears' hkeys hhistory =>
      cases hclears'.symm.trans hclears
      have hstill : HoldsSlot s'.history other slot' time := by
        rw [hhistory]
        exact holds_append.mpr (Or.inl ⟨hholds, fun hsame => hother (by cases hsame; rfl)⟩)
      have hrefused := h other slot' time hstill slot move.now hkey.symm (by omega) (by omega)
      rw [hkeys] at hrefused
      exact Bool.false_ne_true (hrefused.symm.trans (setNx_delete _ _ _ _))

/-- **When a claim excludes the others.**  In every interleaving of the calls and of the
executions of their tasks, whichever way these end, a claim keeps every other `_mark_inflight`
of its key from succeeding, throughout the run, until it is cleared for its own call or its time
is over, if and only if each clear comes when no other call holds the key in its time. -/
theorem exclusive_iff (moves : List InflightMove) :
    (∀ n, Exclusive (run inflightStep .start (moves.take n))) ↔
      Along inflightStep Harmless .start moves := by
  refine throughout_iff_of_inv inflightStep (I := InflightInv) ?_ ?_ ?_ moves _ inflightInv_start
  · exact fun s hinv => hinv.exclusive
  · exact fun s move s' hinv hharmless h => inflightInv_step hinv hharmless h
  · exact fun s move _ hexclusive => harmless_of_exclusive hexclusive

/-! ## When tasks are in time -/

/-- A clear within the time of the call's own claim deletes no other call's key. -/
theorem InflightInv.harmless {s : InflightState} {move : InflightMove} (hinv : InflightInv s)
    (hinTime : InTime s move) : Harmless s move := by
  intro hclock call slot hclears other slot' time hholds hother hkey
  by_contra hnow
  obtain ⟨time₀, hown, htime₀⟩ := hinTime call slot hclears
  exact hother (hinv.sole other slot' time call slot time₀ hholds hown hkey (by omega) (by omega))

/-- Claims exclude each other as long as no task, and no failed `delay`, outlives its claim. -/
theorem exclusive_of_inTime {moves : List InflightMove}
    (h : Along inflightStep InTime .start moves) :
    Exclusive (run inflightStep .start moves) :=
  (run_inv inflightStep
    (fun _ _ _ hinv hC hstep => inflightInv_step hinv (hinv.harmless hC) hstep) moves _
    inflightInv_start h).exclusive

/-- A task that takes longer than the time of its claim, and another one for the same observable
that was claimed after it. -/
def slowTask : List InflightMove :=
  let slot : InflightSlot := ⟨"ip", "203.0.113.9", none⟩
  [⟨0, 0, .mark slot⟩, ⟨0, 0, .delay .returned⟩, ⟨1, 10, .execute 0⟩,
    ⟨2, 300001, .mark slot⟩, ⟨2, 300001, .delay .returned⟩, ⟨1, 300002, .exit .complete⟩]

/-- The slow task clears the slot that the second call holds: a third one claims it at once. -/
theorem slow_task_frees_the_next_claim :
    ¬ ∀ moves : List InflightMove, Exclusive (run inflightStep .start moves) := by
  intro hclaim
  have hrefused := hclaim slowTask 2 ⟨"ip", "203.0.113.9", none⟩ 300001
    ⟨[.claimed 0 ⟨"ip", "203.0.113.9", none⟩ 0], [.cleared 0], by decide, by decide⟩
    ⟨"ip", "203.0.113.9", none⟩ 300002 rfl (by decide) (by decide)
  exact absurd hrefused (by decide)

end OpenSoar
