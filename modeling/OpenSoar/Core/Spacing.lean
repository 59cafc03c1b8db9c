/-
# `OpenSoar.Core.Spacing` — how far apart the attempts at a job are

The ticks of one `Scheduler`, one after another, over a table that does not change.  A tick reads
the clock once when it begins, and a job is stamped later, after its callback.  So `last_run` is
never before a stamp (`WellSpaced.stamped`), a job that is due is at least its interval behind all
of them, and its callback is started later still.
-/
import Mathlib.Tactic.Linarith
import OpenSoar.Core.Ticks

namespace OpenSoar

/-- A scheduler between two ticks: the table, the readings of the clock so far, and the attempts of
all ticks. -/
structure TickHistory where
  table : JobTable
  reads : Nat
  log : List JobAttempt

/-- `tick`, called when no other is running. -/
def TickHistory.next (world : TickWorld) (resume : Nat → Iterated) (history : TickHistory) :
    TickHistory :=
  let result := tick world resume history.table history.reads
  ⟨result.1.table, result.1.reads, history.log ++ result.1.attempts⟩

/-- One tick after another. -/
def ticks (world : TickWorld) (resume : Nat → Iterated) : Nat → TickHistory → TickHistory
  | 0, history => history
  | n + 1, history => (ticks world resume n history).next world resume

/-- The stamps of a job, in order. -/
def stamps (ref : Nat) (log : List JobAttempt) : List ℚ :=
  (log.filter (fun tried => tried.job == ref)).filterMap JobAttempt.stamped

/-- What does not change of a job. -/
def TickJob.identity (job : TickJob) : String × Nat × Int := (job.name, job.ref, job.interval)

/-- No callback of the job was started within the interval after one of its stamps. -/
def StartsApart (job : TickJob) (log : List JobAttempt) : Prop :=
  log.Pairwise (fun a b => a.job = job.ref → b.job = job.ref →
    ∀ u t : ℚ, a.stamped = some u → b.started = some t → u + job.interval ≤ t)

/-- `last_run` is the last stamp, if there is one, and no earlier than any. -/
structure LastStamped (log : List JobAttempt) (job : TickJob) : Prop where
  bound : ∀ u ∈ stamps job.ref log, u ≤ job.lastRun
  last : ∀ u, (stamps job.ref log).getLast? = some u → job.lastRun = u

/-- What the ticks keep, from the table they started with. -/
structure WellSpaced (world : TickWorld) (start table : JobTable) (reads : Nat)
    (log : List JobAttempt) : Prop where
  same : table.jobs.rows.map TickJob.identity = start.jobs.rows.map TickJob.identity
  past : ∀ tried ∈ log, ∀ u, tried.stamped = some u → ∃ n < reads, u = world.clock n
  stamped : ∀ job ∈ table.jobs.rows, LastStamped log job
  apart : ∀ job ∈ start.jobs.rows, StartsApart job log

variable {world : TickWorld} {log : List JobAttempt} {tried : JobAttempt} {ref : Nat}
  {start table : JobTable} {reads : Nat} {job : TickJob}

/-! ## One attempt -/

theorem mem_stamps {u : ℚ} :
    u ∈ stamps ref log ↔ ∃ tried ∈ log, tried.job = ref ∧ tried.stamped = some u := by
  simp [stamps, and_assoc]

theorem stamps_append (tried : JobAttempt) : stamps ref (log ++ [tried]) =
    stamps ref log ++ if tried.job = ref then tried.stamped.toList else [] := by
  unfold stamps
  rw [List.filter_append, List.filterMap_append, List.filter_singleton]
  by_cases href : tried.job = ref
  · rw [if_pos href, beq_iff_eq.mpr href, Bool.cond_true, List.filterMap_cons]
    cases tried.stamped with
    | none => rfl
    | some u => rfl
  · rw [if_neg href, beq_eq_false_iff_ne.mpr href]
    rfl

/-- A log that grows by no stamp of the job. -/
theorem LastStamped.append (h : LastStamped log job)
    (hnone : tried.job = job.ref → tried.stamped = none) :
    LastStamped (log ++ [tried]) job := by
  have hsame : stamps job.ref (log ++ [tried]) = stamps job.ref log := by
    rw [stamps_append]
    split
    next href => rw [hnone href, Option.toList_none, List.append_nil]
    next => rw [List.append_nil]
  exact ⟨hsame ▸ h.bound, hsame ▸ h.last⟩

/-- A job that is stamped. -/
theorem LastStamped.of_last {u : ℚ} (href : tried.job = job.ref) (hstamped : tried.stamped = some u)
    (hlast : job.lastRun = u) (hpast : ∀ u' ∈ stamps job.ref log, u' ≤ u) :
    LastStamped (log ++ [tried]) job := by
  have hstamps : stamps job.ref (log ++ [tried]) = stamps job.ref log ++ [u] := by
    rw [stamps_append, if_pos href, hstamped, Option.toList_some]
  refine ⟨?_, ?_⟩
  · rw [hstamps, hlast]
    intro u' hu'
    rcases List.mem_append.mp hu' with hold | hnew
    · exact hpast u' hold
    · exact le_of_eq (List.mem_singleton.mp hnew)
  · rw [hstamps, List.getLast?_append, hlast]
    intro u' hu'
    exact Option.some.inj hu'

/-! ## One turn -/

theorem WellSpaced.identity (h : WellSpaced world start table reads log)
    (hjob : job ∈ table.jobs.rows) :
    ∃ first ∈ start.jobs.rows, first.identity = job.identity := by
  have hmem := List.mem_map_of_mem (f := TickJob.identity) hjob
  rw [h.same] at hmem
  exact List.mem_map.mp hmem

theorem identity_stamp {time : ℚ} {tickId : String} :
    (table.stamp ref time tickId).jobs.rows.map TickJob.identity =
      table.jobs.rows.map TickJob.identity := by
  show (List.map _ table.jobs.rows).map TickJob.identity = _
  rw [List.map_map]
  refine List.map_congr_left (fun job _ => ?_)
  rw [Function.comp_apply]
  split
  · rfl
  · rfl

/-- Two jobs with one object are one job from the start. -/
theorem WellSpaced.interval (h : WellSpaced world start table reads log)
    (hjob : job ∈ table.jobs.rows)
    {first : TickJob} (hfirst : first ∈ start.jobs.rows) (href : first.ref = job.ref) :
    first.interval = job.interval := by
  obtain ⟨first', hfirst', hidentity⟩ := h.identity hjob
  have hsame : first'.ref = job.ref := congrArg (fun i => i.2.1) hidentity
  cases JobTable.ref_inj hfirst hfirst' (href.trans hsame.symm)
  exact congrArg (fun i => i.2.2) hidentity

/-- A callback that is started late enough. -/
theorem WellSpaced.apart_append (h : WellSpaced world start table reads log)
    (hjob : job ∈ table.jobs.rows)
    (href : tried.job = job.ref)
    (hstart : ∀ t, tried.started = some t → job.lastRun + job.interval ≤ t) :
    ∀ first ∈ start.jobs.rows, StartsApart first (log ++ [tried]) := by
  intro first hfirst
  refine List.pairwise_append.mpr ⟨h.apart first hfirst, List.pairwise_singleton _ _, ?_⟩
  intro earlier hearlier last hlast hjob' hlast' u t hu ht
  cases List.mem_singleton.mp hlast
  have hsame : first.ref = job.ref := hlast'.symm.trans href
  rw [h.interval hjob hfirst hsame]
  have hbound := (h.stamped job hjob).bound u
    (mem_stamps.mpr ⟨earlier, hearlier, hjob'.trans hsame, hu⟩)
  exact (add_le_add_left hbound _).trans (hstart t ht)

/-- An attempt without a stamp. -/
theorem WellSpaced.unstamped (h : WellSpaced world start table reads log)
    (hjob : job ∈ table.jobs.rows)
    (href : tried.job = job.ref)
    (hstart : ∀ t, tried.started = some t → job.lastRun + job.interval ≤ t)
    (hnone : tried.stamped = none) {reads' : Nat} (hreads : reads ≤ reads') :
    WellSpaced world start table reads' (log ++ [tried]) where
  same := h.same
  past := by
    intro tried' htried' u hu
    rcases List.mem_append.mp htried' with hold | hnew
    · obtain ⟨n, hn, hclock⟩ := h.past tried' hold u hu
      exact ⟨n, Nat.lt_of_lt_of_le hn hreads, hclock⟩
    · rw [List.mem_singleton.mp hnew, hnone] at hu
      cases hu
  stamped job' hjob' := (h.stamped job' hjob').append (fun _ => hnone)
  apart := h.apart_append hjob href hstart

/-- An attempt with one, which is the latest reading so far. -/
theorem WellSpaced.stamp (hclock : Monotone world.clock)
    (h : WellSpaced world start table reads log)
    (hjob : job ∈ table.jobs.rows) (href : tried.job = job.ref)
    (hstart : ∀ t, tried.started = some t → job.lastRun + job.interval ≤ t) {n reads' : Nat}
    (hn : reads ≤ n) (hreads : n < reads') (hstamped : tried.stamped = some (world.clock n))
    (tickId : String) :
    WellSpaced world start (table.stamp job.ref (world.clock n) tickId) reads'
      (log ++ [tried]) where
  same := identity_stamp.trans h.same
  past := by
    intro tried' htried' u hu
    rcases List.mem_append.mp htried' with hold | hnew
    · obtain ⟨m, hm, hclock'⟩ := h.past tried' hold u hu
      exact ⟨m, Nat.lt_trans (Nat.lt_of_lt_of_le hm hn) hreads, hclock'⟩
    · rw [List.mem_singleton.mp hnew, hstamped] at hu
      exact ⟨n, hreads, (Option.some.inj hu).symm⟩
  stamped := by
    intro job' hjob'
    obtain ⟨before, hbefore, rfl⟩ := List.mem_map.mp hjob'
    by_cases hsame : before.ref = job.ref
    · -- all stamps so far were read before
      rw [if_pos (beq_iff_eq.mpr hsame)]
      refine LastStamped.of_last (href.trans hsame.symm) hstamped rfl (fun u hu => ?_)
      obtain ⟨earlier, hearlier, -, hu⟩ := mem_stamps.mp hu
      obtain ⟨m, hm, rfl⟩ := h.past earlier hearlier u hu
      exact hclock (Nat.le_of_lt (Nat.lt_of_lt_of_le hm hn))
    · rw [if_neg (mt beq_iff_eq.mp hsame)]
      exact (h.stamped before hbefore).append
        (fun hown => absurd (hown.symm.trans href) hsame)
  apart := h.apart_append hjob href hstart

/-- **One turn keeps the distance.** -/
theorem WellSpaced.turn (hclock : Monotone world.clock) (hquiet : world.Quiet) {begun : Nat}
    {s : TickState} (h : WellSpaced world start s.table s.reads (log ++ s.attempts))
    (hbegun : begun ≤ s.reads) (hjob : job ∈ s.table.jobs.rows) :
    WellSpaced world start (s.tickJob world (world.clock begun) job).1.table
      (s.tickJob world (world.clock begun) job).1.reads
      (log ++ (s.tickJob world (world.clock begun) job).1.attempts) ∧
      begun ≤ (s.tickJob world (world.clock begun) job).1.reads := by
  have htaken := @TickState.tickJob_taken world (world.clock begun) s job hjob
  have hnone : s.table.edits (awaitedEdits world (world.clock begun) s.reads job) = s.table := by
    rw [awaitedEdits_of_quiet hquiet]
    rfl
  by_cases hdue : job.Due (world.clock begun)
  · obtain ⟨tried, hlogged⟩ := htaken.due hdue
    -- it is due by the time the tick began, and started no earlier
    have hstart : ∀ t, tried.started = some t → job.lastRun + job.interval ≤ t := by
      intro t ht
      have hlate : (job.interval : ℚ) ≤ world.clock begun - job.lastRun := hdue
      have hlater := hclock hbegun
      rw [hlogged.started t ht]
      linarith
    refine ⟨?_, Nat.le_trans hbegun hlogged.reads⟩
    rw [hlogged.attempts, ← List.append_assoc]
    rcases hlogged.table with ⟨hunstamped, htable⟩ | ⟨n, tickId, hn, hreads, hstamped, htable⟩
    · rw [htable, hnone]
      exact h.unstamped hjob hlogged.ref hstart hunstamped hlogged.reads
    · rw [htable, hnone]
      exact h.stamp hclock hjob hlogged.ref hstart hn hreads hstamped tickId
  · obtain ⟨htable, hattempts, hreads⟩ := htaken.idle hdue
    rw [htable, hnone, hattempts, hreads]
    exact ⟨h, hbegun⟩

/-! ## All ticks -/

theorem wellSpaced_nil (world : TickWorld) (table : JobTable) :
    WellSpaced world table table 0 [] where
  same := rfl
  past _ h := absurd h List.not_mem_nil
  stamped _ _ :=
    ⟨fun _ h => absurd h List.not_mem_nil, fun _ h => (Option.some_ne_none _ h.symm).elim⟩
  apart _ _ := List.Pairwise.nil

/-- A tick keeps the distance. -/
theorem WellSpaced.tick (hclock : Monotone world.clock) (hquiet : world.Quiet)
    (h : WellSpaced world start table reads log) (resume : Nat → Iterated) :
    WellSpaced world start (tick world resume table reads).1.table
      (tick world resume table reads).1.reads
      (log ++ (tick world resume table reads).1.attempts) := by
  have hbegin : WellSpaced world start table (reads + 1) (log ++ []) := by
    rw [List.append_nil]
    refine ⟨h.same, fun tried htried u hu => ?_, h.stamped, h.apart⟩
    obtain ⟨n, hn, hu⟩ := h.past tried htried u hu
    exact ⟨n, Nat.lt_succ_of_lt hn, hu⟩
  exact (TickState.tickLoop_inv
    (P := fun s => WellSpaced world start s.table s.reads (log ++ s.attempts) ∧ reads ≤ s.reads)
    (fun s job hjob hs => hs.1.turn hclock hquiet hs.2 hjob) table.names (.begin table reads)
    ⟨hbegin, Nat.le_succ _⟩).1

theorem wellSpaced_ticks (hclock : Monotone world.clock) (hquiet : world.Quiet)
    (resume : Nat → Iterated) (table : JobTable) (n : Nat) :
    let history := ticks world resume n ⟨table, 0, []⟩
    WellSpaced world table history.table history.reads history.log := by
  induction n with
  | zero => exact wellSpaced_nil world table
  | succ n ih => exact ih.tick hclock hquiet resume

/-- **Spacing.**  Over the ticks of a table that does not change, no callback of a job is started
within the interval after the job was stamped; and a tick that begins when the interval after
the last stamp is over tries the job again, unless an earlier job ends the tick with an exception
that is no `Exception`. -/
theorem scheduler_spacing (world : TickWorld) (hclock : Monotone world.clock)
    (hquiet : world.Quiet) (resume : Nat → Iterated) (table : JobTable) (n : Nat) (job : TickJob)
    (hjob : job ∈ table.jobs.rows) :
    let history := ticks world resume n ⟨table, 0, []⟩
    StartsApart job history.log ∧
      ∀ u : ℚ, (stamps job.ref history.log).getLast? = some u →
        u + job.interval ≤ world.clock history.reads →
        let result := tick world resume history.table history.reads
        job.ref ∈ result.1.attempts.map JobAttempt.job ∨
          result.2 = .exited ∧ job.ref ∉ result.1.seen := by
  intro history
  have hspaced : WellSpaced world table history.table history.reads history.log :=
    wellSpaced_ticks hclock hquiet resume table n
  refine ⟨hspaced.apart job hjob, fun u hlast hlate => ?_⟩
  have hidentity : job.identity ∈ history.table.jobs.rows.map TickJob.identity := by
    rw [hspaced.same]
    exact List.mem_map_of_mem hjob
  obtain ⟨now, hnow, hsame⟩ := List.mem_map.mp hidentity
  have href : now.ref = job.ref := congrArg (fun i => i.2.1) hsame
  have hinterval : now.interval = job.interval := congrArg (fun i => i.2.2) hsame
  have hdue : now.Due (world.clock history.reads) := by
    have hrun := (hspaced.stamped now hnow).last u (href ▸ hlast)
    rw [TickJob.Due, hrun, hinterval]
    linarith
  obtain ⟨-, htries⟩ := @TickState.tickLoop_undisturbed world _ _ resume _ _
    (regular_begin history.table history.reads)
    (TickState.undisturbed_of_quiet hquiet history.table.names _)
  rw [← href]
  rcases htries now ⟨hnow, List.not_mem_nil⟩ (List.mem_map_of_mem hnow) hdue with
    htried | hexited | hlost
  · exact Or.inl htried
  · exact Or.inr hexited
  · -- nothing went from the table
    have hafter := (hspaced.tick hclock hquiet resume).same.trans hspaced.same.symm
    have hstill : now.identity ∈
        (tick world resume history.table history.reads).1.table.jobs.rows.map TickJob.identity := by
      rw [hafter]
      exact List.mem_map_of_mem hnow
    obtain ⟨after, hmem, hafter⟩ := List.mem_map.mp hstill
    have hrefs : after.ref = now.ref := congrArg (fun i => i.2.1) hafter
    exact absurd (hrefs ▸ List.mem_map_of_mem hmem) hlost.1.2

/-- Two ticks of a scheduler with one job. -/
def polled : TickHistory := ticks poller (fun _ => .stops) 2 ⟨noJobs.register "poll" 60, 0, []⟩

theorem poller_tries_again :
    StartsApart (noJobs.newJob "poll" 60) polled.log ∧
      0 ∈ (tick poller (fun _ => .stops) polled.table polled.reads).1.attempts.map
        JobAttempt.job := by
  have hclock : Monotone poller.clock := by
    intro n m h
    have hcast : (n : ℚ) ≤ m := Nat.cast_le.mpr h
    show (100 * n : ℚ) ≤ 100 * m
    linarith
  have hmem : noJobs.newJob "poll" 60 ∈ (noJobs.register "poll" 60).jobs.rows :=
    List.mem_singleton_self _
  obtain ⟨hapart, hagain⟩ := scheduler_spacing poller hclock poller_quiet (fun _ => .stops)
    (noJobs.register "poll" 60) 2 (noJobs.newJob "poll" 60) hmem
  refine ⟨hapart, ?_⟩
  have htried := hagain 300 (by decide +kernel) (by decide +kernel)
  exact htried.resolve_right (fun h => absurd h.1 (by decide +kernel))

/-- Ctrl-C while the first job runs for the second time. -/
def interrupted : TickWorld where
  locked := false
  clock := fun n => 100 * (n + 1)
  turn := fun n => ⟨1000, .created, [], [], if n = 6 then .exited else .returned⟩

/-- The second job is due, and is not tried. -/
theorem interrupted_tick_leaves_a_job :
    ¬ ∀ (world : TickWorld), Monotone world.clock → world.Quiet →
      ∀ resume (table : JobTable) (n : Nat), ∀ job ∈ table.jobs.rows,
        let history := ticks world resume n ⟨table, 0, []⟩
        StartsApart job history.log ∧
          ∀ u : ℚ, (stamps job.ref history.log).getLast? = some u →
            u + job.interval ≤ world.clock history.reads →
            job.ref ∈ (tick world resume history.table history.reads).1.attempts.map
              JobAttempt.job := by
  intro hclaim
  have hclock : Monotone interrupted.clock := by
    intro n m h
    have hcast : (n : ℚ) ≤ m := Nat.cast_le.mpr h
    show (100 * (n + 1) : ℚ) ≤ 100 * (m + 1)
    linarith
  have hquiet : interrupted.Quiet := fun _ => ⟨rfl, rfl⟩
  have hmem : ⟨"second", 1, 60, 0, none⟩ ∈
      ((noJobs.register "first" 60).register "second" 60).jobs.rows :=
    List.mem_cons_of_mem _ (List.mem_singleton_self _)
  have hagain := (hclaim interrupted hclock hquiet (fun _ => .stops)
    ((noJobs.register "first" 60).register "second" 60) 1 _ hmem).2 500
    (by decide +kernel) (by decide +kernel)
  exact absurd hagain (by decide +kernel)

end OpenSoar
