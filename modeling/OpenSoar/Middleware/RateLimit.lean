/-
# `OpenSoar.Middleware.RateLimit` — the rate limiter of the webhook endpoints

`RateLimitMiddleware.dispatch` reads the clock, waits for a lock, drops the times that have
left the window from the bucket of the client's key, and refuses the request when the bucket
is still full.  All requests share the buckets and run on one event loop, which may put any
others between the reading of the clock and the lock; the lock is handed on in the order in
which it was asked for, and nothing is awaited while it is held.

So an event is the arrival of a request, up to the lock, or the next request in line going
through the part under the lock.  `Exact` says of one key what holds after any events: the
requests answered so far were let through exactly when the window of their time had room.
-/
import OpenSoar.Lib.Run
import OpenSoar.Lib.SlidingWindow
import OpenSoar.Python.Text
import Mathlib.Data.Rat.Cast.Order
import Mathlib.Algebra.Order.Ring.Rat

namespace OpenSoar

open Python SlidingWindow

/-- The parts of a request the limiter reads. -/
structure LimitedRequest where
  path : String
  apiKey : Option String
  forwardedFor : Option String
  clientHost : Option String

structure Limits where
  maxRequests : Nat
  windowSeconds : Nat

/-- `_get_client_key`: an empty header counts as none. -/
def getClientKey (py : PyText) (request : LimitedRequest) : String :=
  let apiKey := request.apiKey.getD ""
  let forwarded := request.forwardedFor.getD ""
  if apiKey ≠ "" then "key:" ++ String.ofList (apiKey.toList.take 12)
  else if forwarded ≠ "" then
    "ip:" ++ strip py (String.ofList (forwarded.toList.takeWhile (· ≠ ',')))
  else
    match request.clientHost with
    | some host => "ip:" ++ host
    | none => "ip:unknown"

/-- What a request waits for the lock with. -/
structure Arrival where
  key : String
  now : ℚ

inductive LimiterResponse where
  | callNext
  | tooManyRequests (detail : String) (retryAfter : Nat) (retryAfterHeader : String)
deriving DecidableEq

/-- A request that has been answered. -/
structure Answered where
  arrival : Arrival
  response : LimiterResponse

def Answered.letThrough (answered : Answered) : Bool := answered.response = .callNext

/-- `_buckets`: a key that was never used has an empty bucket. -/
abbrev Buckets := String → List ℚ

structure Limiter where
  buckets : Buckets
  queue : List Arrival
  answers : List Answered

def Limiter.initial : Limiter := ⟨fun _ => [], [], []⟩

inductive LimiterEvent where
  | arrives (request : LimitedRequest) (now : ℚ)
  | acquires

/-- `dispatch` up to the lock; the limiter has no part in requests to other paths. -/
def beforeLock (py : PyText) (request : LimitedRequest) (now : ℚ) : Option Arrival :=
  if "/api/v1/webhooks/".toList.isPrefixOf request.path.toList then
    some ⟨getClientKey py request, now⟩
  else none

def tooManyRequests (limits : Limits) : LimiterResponse :=
  .tooManyRequests "Rate limit exceeded. Try again later." limits.windowSeconds
    (toString limits.windowSeconds)

/-- `dispatch` under the lock. -/
def underLock (limits : Limits) (buckets : Buckets) (arrival : Arrival) :
    LimiterResponse × Buckets :=
  let cutoff := arrival.now - limits.windowSeconds
  let cleaned :=
    Function.update buckets arrival.key ((buckets arrival.key).filter (fun t => cutoff < t))
  if limits.maxRequests ≤ (cleaned arrival.key).length then (tooManyRequests limits, cleaned)
  else
    (.callNext, Function.update cleaned arrival.key (cleaned arrival.key ++ [arrival.now]))

/-- One event; nobody in line is the failure of `acquires`. -/
def limiterStep (py : PyText) (limits : Limits) (s : Limiter) : LimiterEvent → Except Unit Limiter
  | .arrives request now => .ok { s with queue := s.queue ++ (beforeLock py request now).toList }
  | .acquires =>
      match s.queue with
      | [] => .error ()
      | arrival :: queue =>
          let outcome := underLock limits s.buckets arrival
          .ok ⟨outcome.2, queue, s.answers ++ [⟨arrival, outcome.1⟩]⟩

/-- The arrivals among the events, in order. -/
def arrivals (py : PyText) (events : List LimiterEvent) : List Arrival :=
  events.flatMap (fun event =>
    match event with
    | .arrives request now => (beforeLock py request now).toList
    | .acquires => [])

/-- The times of a key's arrivals. -/
def timesOf (key : String) (arrived : List Arrival) : List ℚ :=
  (arrived.filter (fun a => a.key = key)).map Arrival.now

/-- The times of a key's requests that were let through. -/
def letThroughAt (key : String) (answers : List Answered) : List ℚ :=
  timesOf key ((answers.filter Answered.letThrough).map Answered.arrival)

/-- Where the window of a time begins. -/
def Limits.cutoff (limits : Limits) (now : ℚ) : ℚ := now - limits.windowSeconds

/-! ## The part under the lock -/

section UnderLock

variable {limits : Limits} {buckets : Buckets} {arrival : Arrival} {key : String}

theorem underLock_eq (limits : Limits) (buckets : Buckets) (arrival : Arrival) :
    underLock limits buckets arrival =
      let admitted := grant limits.maxRequests (limits.cutoff arrival.now) arrival.now
        (buckets arrival.key)
      (if admitted.1 then .callNext else tooManyRequests limits,
        Function.update buckets arrival.key admitted.2) := by
  unfold underLock grant live Limits.cutoff
  simp only [Function.update_self, Function.update_idem]
  split <;> rfl

theorem underLock_letThrough :
    (⟨arrival, (underLock limits buckets arrival).1⟩ : Answered).letThrough =
      (grant limits.maxRequests (limits.cutoff arrival.now) arrival.now
        (buckets arrival.key)).1 := by
  rw [underLock_eq]
  simp only [Answered.letThrough]
  split
  next h => exact h.symm
  next h => exact (Bool.eq_false_of_not_eq_true h).symm

theorem underLock_bucket :
    (underLock limits buckets arrival).2 arrival.key =
      (grant limits.maxRequests (limits.cutoff arrival.now) arrival.now
        (buckets arrival.key)).2 := by
  rw [underLock_eq]
  exact Function.update_self _ _ _

theorem underLock_other (h : arrival.key ≠ key) :
    (underLock limits buckets arrival).2 key = buckets key := by
  rw [underLock_eq]
  exact Function.update_of_ne h.symm _ _

end UnderLock

/-! ## What a step does -/

section Steps

variable {py : PyText} {limits : Limits} {s s' : Limiter} {key : String}

/-- Everything that has arrived, answered or in line. -/
def Limiter.arrived (s : Limiter) : List Arrival := s.answers.map Answered.arrival ++ s.queue

theorem limiterStep_cases {event : LimiterEvent} (h : limiterStep py limits s event = .ok s') :
    (∃ request now, event = .arrives request now ∧ s'.buckets = s.buckets ∧
      s'.answers = s.answers ∧ s'.queue = s.queue ++ (beforeLock py request now).toList) ∨
    (∃ arrival, event = .acquires ∧ s.queue = arrival :: s'.queue ∧
      s'.buckets = (underLock limits s.buckets arrival).2 ∧
      s'.answers = s.answers ++ [⟨arrival, (underLock limits s.buckets arrival).1⟩]) := by
  cases event with
  | arrives request now =>
      cases h
      exact Or.inl ⟨request, now, rfl, rfl, rfl, rfl⟩
  | acquires =>
      simp only [limiterStep] at h
      split at h
      next => cases h
      next arrival queue hqueue =>
        cases h
        exact Or.inr ⟨arrival, rfl, hqueue, rfl, rfl⟩

/-- The requests are answered in the order of their arrival. -/
theorem attempt_arrived (event : LimiterEvent) :
    (attempt (limiterStep py limits) s event).arrived = s.arrived ++ arrivals py [event] := by
  cases event with
  | arrives request now =>
      simp [attempt, limiterStep, Limiter.arrived, arrivals]
  | acquires =>
      cases hqueue : s.queue with
      | nil => simp [attempt, limiterStep, Limiter.arrived, arrivals, hqueue]
      | cons arrival queue => simp [attempt, limiterStep, Limiter.arrived, arrivals, hqueue]

theorem run_arrived (events : List LimiterEvent) (s : Limiter) :
    (run (limiterStep py limits) s events).arrived = s.arrived ++ arrivals py events := by
  induction events generalizing s with
  | nil => exact (List.append_nil _).symm
  | cons event events ih =>
      rw [run_cons, ih, attempt_arrived, List.append_assoc]
      simp [arrivals]

/-- Whoever is in line is answered as the lock is acquired. -/
theorem queue_acquires (s : Limiter) (n : Nat) :
    (run (limiterStep py limits) s (List.replicate n .acquires)).queue = s.queue.drop n := by
  induction n generalizing s with
  | zero => exact (List.drop_zero).symm
  | succ n ih =>
      rw [List.replicate_succ, run_cons, ih]
      cases hqueue : s.queue with
      | nil => simp [attempt, limiterStep, hqueue]
      | cons arrival queue => simp [attempt, limiterStep, hqueue]

theorem arrivals_acquires (events : List LimiterEvent) (n : Nat) :
    arrivals py (events ++ List.replicate n .acquires) = arrivals py events := by
  have hnone : arrivals py (List.replicate n .acquires) = [] := by
    refine List.flatMap_eq_nil_iff.mpr (fun event hevent => ?_)
    rw [List.eq_of_mem_replicate hevent]
  rw [arrivals, List.flatMap_append]
  exact (congrArg _ hnone).trans (List.append_nil _)

end Steps

/-! ## Exactness -/

/-- The times of a key's arrivals, of those that are answered among them, never go back. -/
def InOrder (key : String) (arrived : List Arrival) : Prop :=
  (timesOf key arrived).Pairwise (· ≤ ·)

/-- The window of an answered request had room for it. -/
def HadRoom (limits : Limits) (before : List Answered) (answered : Answered) : Prop :=
  (window (limits.cutoff answered.arrival.now) answered.arrival.now
    (letThroughAt answered.arrival.key before)).length < limits.maxRequests

/-- What holds of a key after any events. -/
structure Exact (limits : Limits) (key : String) (s : Limiter) : Prop where
  tracked : ∀ last, (∀ t ∈ timesOf key (s.answers.map Answered.arrival), t ≤ last) →
    Tracks limits.cutoff last (s.buckets key) (letThroughAt key s.answers)
  atMost : AtMost limits.cutoff limits.maxRequests (letThroughAt key s.answers)
  decided : ∀ before answered, before ++ [answered] <+: s.answers → answered.arrival.key = key →
    (answered.letThrough = true ↔ HadRoom limits before answered)

section Exactness

variable {py : PyText} {limits : Limits} {s s' : Limiter} {key : String}

theorem timesOf_append (key : String) (arrived arrived' : List Arrival) :
    timesOf key (arrived ++ arrived') = timesOf key arrived ++ timesOf key arrived' := by
  simp [timesOf]

theorem timesOf_self (arrival : Arrival) : timesOf arrival.key [arrival] = [arrival.now] := by
  simp [timesOf]

theorem timesOf_other {arrival : Arrival} (h : arrival.key ≠ key) : timesOf key [arrival] = [] := by
  simp [timesOf, h]

theorem letThroughAt_concat (key : String) (answers : List Answered) (answered : Answered) :
    letThroughAt key (answers ++ [answered]) =
      letThroughAt key answers ++
        (if answered.letThrough then timesOf key [answered.arrival] else []) := by
  unfold letThroughAt
  rw [List.filter_append, List.map_append, timesOf_append]
  cases h : answered.letThrough with
  | false => simp [h, timesOf]
  | true => simp [h]

theorem exact_initial (limits : Limits) (key : String) : Exact limits key .initial where
  tracked last _ := ⟨fun t ht => absurd ht (List.not_mem_nil), fun _ _ => rfl⟩
  atMost := atMost_nil
  decided before answered h := absurd (List.prefix_nil.mp h) (by simp)

/-- An answer to another key leaves a key as it was. -/
theorem Exact.other (h : Exact limits key s) {arrival : Arrival} (hkey : arrival.key ≠ key)
    (hbuckets : s'.buckets = (underLock limits s.buckets arrival).2)
    (hanswers : s'.answers = s.answers ++ [⟨arrival, (underLock limits s.buckets arrival).1⟩]) :
    Exact limits key s' := by
  have hlet : letThroughAt key s'.answers = letThroughAt key s.answers := by
    rw [hanswers, letThroughAt_concat, timesOf_other hkey, ite_self, List.append_nil]
  have hbucket : s'.buckets key = s.buckets key := by
    rw [hbuckets]
    exact underLock_other hkey
  refine ⟨fun last hlast => ?_, ?_, fun before answered hbefore hkey' => ?_⟩
  · rw [hlet, hbucket]
    refine h.tracked last (fun t ht => hlast t ?_)
    rw [hanswers, List.map_append, timesOf_append]
    exact List.mem_append_left _ ht
  · rw [hlet]
    exact h.atMost
  · rw [hanswers] at hbefore
    rcases List.prefix_concat_iff.mp hbefore with heq | hbefore
    · obtain ⟨-, hlast⟩ := List.append_inj' heq rfl
      cases hlast
      exact absurd hkey' hkey
    · exact h.decided before answered hbefore hkey'

theorem monotone_cutoff (limits : Limits) : Monotone limits.cutoff :=
  monotone_sub_width (limits.windowSeconds : ℚ)

/-- An answer to a key, whose earlier requests arrived no later. -/
theorem Exact.answer (h : Exact limits key s) {arrival : Arrival} (hkey : arrival.key = key)
    (hpast : ∀ t ∈ timesOf key (s.answers.map Answered.arrival), t ≤ arrival.now)
    (hbuckets : s'.buckets = (underLock limits s.buckets arrival).2)
    (hanswers : s'.answers = s.answers ++ [⟨arrival, (underLock limits s.buckets arrival).1⟩]) :
    Exact limits key s' := by
  subst hkey
  have htracked := h.tracked arrival.now hpast
  have hgrant := @underLock_letThrough limits s.buckets arrival
  have hdecision : (grant limits.maxRequests (limits.cutoff arrival.now) arrival.now
      (s.buckets arrival.key)).1 = true ↔ (window (limits.cutoff arrival.now) arrival.now
        (letThroughAt arrival.key s.answers)).length < limits.maxRequests :=
    htracked.grant_iff (le_refl arrival.now)
  have hlet : letThroughAt arrival.key s'.answers = letThroughAt arrival.key s.answers ++
      (if (grant limits.maxRequests (limits.cutoff arrival.now) arrival.now
        (s.buckets arrival.key)).1 then [arrival.now] else []) := by
    rw [hanswers, letThroughAt_concat, hgrant, timesOf_self]
  have hbucket : s'.buckets arrival.key = (grant limits.maxRequests (limits.cutoff arrival.now)
      arrival.now (s.buckets arrival.key)).2 := by
    rw [hbuckets]
    exact underLock_bucket
  refine ⟨fun last hlast => ?_, ?_, fun before answered hbefore hkey => ?_⟩
  · rw [hlet, hbucket]
    refine (htracked.grant (monotone_cutoff limits) (le_refl _)).later (hlast arrival.now ?_)
    rw [hanswers, List.map_append, timesOf_append]
    refine List.mem_append_right _ ?_
    rw [List.map_singleton, timesOf_self]
    exact List.mem_singleton_self _
  · rw [hlet]
    split
    next hyes =>
      exact h.atMost.grant (monotone_cutoff limits) htracked.past (hdecision.mp hyes)
    next =>
      rw [List.append_nil]
      exact h.atMost
  · rw [hanswers] at hbefore
    rcases List.prefix_concat_iff.mp hbefore with heq | hbefore
    · obtain ⟨rfl, hlast⟩ := List.append_inj' heq rfl
      cases hlast
      rw [hgrant]
      exact hdecision
    · exact h.decided before answered hbefore hkey

/-- **One event.** -/
theorem Exact.step (h : Exact limits key s) {event : LimiterEvent}
    (horder : InOrder key s.arrived) (hstep : limiterStep py limits s event = .ok s') :
    Exact limits key s' := by
  rcases limiterStep_cases hstep with ⟨request, now, -, hbuckets, hanswers, -⟩ |
    ⟨arrival, -, hqueue, hbuckets, hanswers⟩
  · refine ⟨?_, ?_, ?_⟩
    · rw [hbuckets, hanswers]
      exact h.tracked
    · rw [hanswers]
      exact h.atMost
    · rw [hanswers]
      exact h.decided
  · by_cases hkey : arrival.key = key
    · refine h.answer hkey (fun t ht => ?_) hbuckets hanswers
      unfold InOrder Limiter.arrived at horder
      rw [hqueue, timesOf_append, List.pairwise_append] at horder
      refine horder.2.2 t ht arrival.now ?_
      subst hkey
      simp [timesOf]
    · exact h.other hkey hbuckets hanswers

/-- **Every run** in which the key's requests arrive in order. -/
theorem Exact.run (events : List LimiterEvent) (s : Limiter) (h : Exact limits key s)
    (horder : InOrder key (s.arrived ++ arrivals py events)) :
    Exact limits key (run (limiterStep py limits) s events) := by
  induction events generalizing s with
  | nil => exact h
  | cons event events ih =>
      have hsplit : arrivals py (event :: events) = arrivals py [event] ++ arrivals py events := by
        simp [arrivals]
      rw [hsplit, ← List.append_assoc, ← @attempt_arrived py limits] at horder
      have hnow : InOrder key s.arrived := by
        rw [attempt_arrived] at horder
        unfold InOrder at horder ⊢
        rw [timesOf_append, timesOf_append, List.pairwise_append, List.pairwise_append] at horder
        exact horder.1.1
      exact ih _ (attempt_inv _ h (fun s' hstep => h.step hnow hstep)) horder

/-- **The limiter is an exact sliding window.**  Whatever other requests come in between, a
request of a key whose arrivals never go back in time is let through if and only if fewer than
`maxRequests` of the key's earlier requests were let through in the window of its time, and no
half-open interval of the window's width holds more than that.  Requests are answered in the
order of their arrival, and when the lock has been acquired as often as there are requests in line,
all of them are. -/
theorem rate_limit_exact (py : PyText) (limits : Limits) (key : String)
    (events : List LimiterEvent) (horder : InOrder key (arrivals py events)) :
    let final := OpenSoar.run (limiterStep py limits) .initial events
    (final.answers.map Answered.arrival ++ final.queue = arrivals py events) ∧
    (∀ before answered, before ++ [answered] <+: final.answers → answered.arrival.key = key →
      (answered.response = .callNext ↔
        ((letThroughAt key before).filter (fun t : ℚ =>
          answered.arrival.now - limits.windowSeconds < t ∧ t ≤ answered.arrival.now)).length <
            limits.maxRequests)) ∧
    (∀ start : ℚ, ((letThroughAt key final.answers).filter (fun t : ℚ =>
      start < t ∧ t ≤ start + limits.windowSeconds)).length ≤ limits.maxRequests) ∧
    (∀ start : ℚ, ((letThroughAt key final.answers).filter (fun t : ℚ =>
      start ≤ t ∧ t < start + limits.windowSeconds)).length ≤ limits.maxRequests) ∧
    ∀ n, final.queue.length ≤ n →
      (OpenSoar.run (limiterStep py limits) .initial
        (events ++ List.replicate n .acquires)).answers.map Answered.arrival =
          arrivals py events := by
  intro final
  have hexact : Exact limits key final :=
    Exact.run events .initial (exact_initial limits key) horder
  refine ⟨run_arrived events .initial, fun before answered hbefore hkey => ?_,
    hexact.atMost.openClosed, hexact.atMost.closedOpen, fun n hn => ?_⟩
  · have hdecided := hexact.decided before answered hbefore hkey
    unfold Answered.letThrough HadRoom window Limits.cutoff at hdecided
    rw [hkey, decide_eq_true_eq] at hdecided
    exact hdecided
  · have hanswered := @run_arrived py limits (events ++ List.replicate n .acquires) .initial
    have hempty : (OpenSoar.run (limiterStep py limits) .initial
        (events ++ List.replicate n .acquires)).queue = [] := by
      rw [run_append, queue_acquires, List.drop_of_length_le hn]
    rw [arrivals_acquires, Limiter.arrived, hempty, List.append_nil] at hanswered
    exact hanswered

end Exactness

/-- A request of a sender with a key and one of a sender without, twice under one address. -/
def keyed : LimitedRequest :=
  ⟨"/api/v1/webhooks/alerts", some "soar_0123456789", none, some "10.0.0.1"⟩

def anonymous : LimitedRequest := ⟨"/api/v1/webhooks/alerts", none, some "10.0.0.1, 10.0.0.9", none⟩

/-- One request a minute: the second is refused, the third comes as the first leaves the window. -/
def oneAMinute : List LimiterEvent :=
  [.arrives keyed 0, .acquires, .arrives keyed 30, .arrives anonymous 30, .acquires, .acquires,
    .arrives keyed 60, .acquires]

theorem rate_limit_exact_one_a_minute :
    InOrder "key:soar_0123456" (arrivals .ascii oneAMinute) ∧
    ((run (limiterStep .ascii ⟨1, 60⟩) .initial oneAMinute).answers.map Answered.letThrough =
      [true, false, true, true]) ∧
    ((letThroughAt "key:soar_0123456"
      (run (limiterStep .ascii ⟨1, 60⟩) .initial oneAMinute).answers).filter
        (fun t : ℚ => 0 ≤ t ∧ t < 0 + (⟨1, 60⟩ : Limits).windowSeconds)).length ≤ 1 :=
  have horder : InOrder "key:soar_0123456" (arrivals .ascii oneAMinute) := by
    unfold InOrder
    decide +kernel
  ⟨horder, by decide +kernel,
    (rate_limit_exact .ascii ⟨1, 60⟩ "key:soar_0123456" oneAMinute horder).2.2.2.1 0⟩

end OpenSoar
