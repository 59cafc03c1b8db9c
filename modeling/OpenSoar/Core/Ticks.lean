/-
# `OpenSoar.Core.Ticks` — one `Scheduler` and the calls of its `tick`

`tick` goes over the live table of jobs and awaits, for each job that is due, the lock and then
the callback.  What the rest of the program does meanwhile is given by the awaits: how each ends,
and what is registered and unregistered before it does.

A dictionary that loses or gains an entry while it is iterated over raises at the next step when
its size is another, and may do anything otherwise.  Jobs are objects: a stamp that comes late
goes to the job it was for, not to the one that has taken its name.

A tick is not left early, and tries every due job that is still there when its turn comes, exactly
when nothing is added or deleted at its awaits (`tick_isolates_iff`).  Over the ticks of a table
that does not change, attempts keep their distance (`scheduler_spacing`).
-/
import Mathlib.Algebra.Order.Ring.Rat
import OpenSoar.Lib.Table

namespace OpenSoar

/-- A registered job: `last_run` and `last_tick_id` change, the others do not. -/
structure TickJob where
  name : String
  ref : Nat
  interval : Int
  lastRun : ℚ
  lastTickId : Option String

/-- `self.jobs`: no two of its jobs are one object, and the next object is a new one. -/
structure JobTable where
  jobs : Table TickJob.name
  fresh : Nat
  refs_nodup : (jobs.rows.map TickJob.ref).Nodup
  refs_fresh : ∀ job ∈ jobs.rows, job.ref < fresh

/-- A call of `register` or of `unregister`. -/
inductive TableEdit where
  | register (name : String) (interval : Int)
  | unregister (name : String)

/-- What the client does with `SET NX EX`: the last is an exception that is no `Exception`. -/
inductive SetReply where
  | created
  | kept
  | raised
  | exited

/-- How a callback ends. -/
inductive CallbackEnd where
  | returned
  | raised
  | exited

/-- What happens while a due job has its turn. -/
structure TickTurn where
  wall : Int
  reply : SetReply
  duringLock : List TableEdit
  duringCallback : List TableEdit
  callback : CallbackEnd

/-- What the iterator of a dictionary does next. -/
inductive Iterated where
  | raises
  | stops
  | yields (name : String)

/-- Where a scheduler runs: with a lock or without; what its monotonic clock shows at each
reading, and what happens after each. -/
structure TickWorld where
  locked : Bool
  clock : Nat → ℚ
  turn : Nat → TickTurn

/-- A due job that had its turn: when its callback was started, and when `last_run` was stamped. -/
structure JobAttempt where
  job : Nat
  tickId : String
  started : Option ℚ
  stamped : Option ℚ

/-- A call of `tick`: the table, the readings of the clock so far, whether an entry was added or
deleted since the loop began, the jobs that had their turn, and those of them that were due. -/
structure TickState where
  table : JobTable
  reads : Nat
  changed : Bool
  seen : List Nat
  attempts : List JobAttempt

/-- How `tick` ends. -/
inductive TickEnd where
  | finished
  | dictionaryChanged
  | keyError
  | exited
  deriving DecidableEq

/-! ## The table -/

namespace JobTable

def names (t : JobTable) : List String := t.jobs.rows.map TickJob.name

def refs (t : JobTable) : List Nat := t.jobs.rows.map TickJob.ref

theorem fresh_of_ref {t : JobTable} {ref : Nat} (h : ref ∈ t.refs) : ref < t.fresh := by
  obtain ⟨job, hjob, rfl⟩ := List.mem_map.mp h
  exact t.refs_fresh job hjob

/-- The job that `register` makes. -/
def newJob (t : JobTable) (name : String) (interval : Int) : TickJob :=
  ⟨name, t.fresh, interval, 0, none⟩

/-- `self.jobs[name] = {…}`: a name that is there keeps its place. -/
def registered (t : JobTable) (name : String) (interval : Int) : Table TickJob.name :=
  (t.jobs.insert? (t.newJob name interval)).getD (t.jobs.set (t.newJob name interval))

theorem registered_new {t : JobTable} {name : String} (h : name ∉ t.names) (interval : Int) :
    (t.registered name interval).rows = t.jobs.rows ++ [t.newJob name interval] := by
  have hnone : t.jobs.find? (t.newJob name interval).name = none :=
    Table.find?_eq_none_iff.mpr (fun job hjob hname => h (List.mem_map.mpr ⟨job, hjob, hname⟩))
  obtain ⟨jobs, hjobs⟩ := Table.insert?_of_find? hnone
  rw [registered, hjobs, Option.getD_some]
  exact (Table.insert?_some hjobs).2

theorem registered_old {t : JobTable} {name : String} (h : name ∈ t.names) (interval : Int) :
    t.registered name interval = t.jobs.set (t.newJob name interval) := by
  obtain ⟨job, hjob, hname⟩ := List.mem_map.mp h
  have htaken : t.jobs.find? (t.newJob name interval).name = some job :=
    hname ▸ Table.find?_of_mem hjob
  rw [registered, Table.insert?_taken htaken, Option.getD_none]

theorem mem_registered {t : JobTable} {name : String} {interval : Int} {job : TickJob} :
    job ∈ (t.registered name interval).rows ↔
      job = t.newJob name interval ∨ job ∈ t.jobs.rows ∧ job.name ≠ name := by
  by_cases hname : name ∈ t.names
  · rw [registered_old hname]
    obtain ⟨job', hjob', hname'⟩ := List.mem_map.mp hname
    have htaken : t.jobs.find? (t.newJob name interval).name = some job' :=
      hname' ▸ Table.find?_of_mem hjob'
    exact Table.mem_set htaken
  · have hother : ∀ job ∈ t.jobs.rows, job.name ≠ name :=
      fun job hjob hsame => hname (List.mem_map.mpr ⟨job, hjob, hsame⟩)
    rw [registered_new hname, List.mem_append, List.mem_singleton, or_comm]
    exact or_congr_right ⟨fun h => ⟨h, hother job h⟩, And.left⟩

/-- Two jobs of a table are two objects. -/
theorem ref_inj {t : JobTable} {job job' : TickJob} (h : job ∈ t.jobs.rows)
    (h' : job' ∈ t.jobs.rows) (href : job.ref = job'.ref) : job = job' :=
  List.inj_on_of_nodup_map t.refs_nodup h h' href

def register (t : JobTable) (name : String) (interval : Int) : JobTable where
  jobs := t.registered name interval
  fresh := t.fresh + 1
  refs_nodup := by
    refine List.Nodup.map_on (fun job hjob job' hjob' href => ?_)
      (List.Nodup.of_map _ (t.registered name interval).nodup)
    rcases mem_registered.mp hjob with rfl | ⟨hold, -⟩
    · rcases mem_registered.mp hjob' with rfl | ⟨hold', -⟩
      · rfl
      · exact absurd href (Nat.ne_of_gt (t.refs_fresh job' hold'))
    · rcases mem_registered.mp hjob' with rfl | ⟨hold', -⟩
      · exact absurd href (Nat.ne_of_lt (t.refs_fresh job hold))
      · exact ref_inj hold hold' href
  refs_fresh job hjob := by
    rcases mem_registered.mp hjob with rfl | ⟨hold, -⟩
    · exact Nat.lt_succ_self _
    · exact Nat.lt_succ_of_lt (t.refs_fresh job hold)

/-- `del self.jobs[name]`, if it is there. -/
def unregister (t : JobTable) (name : String) : JobTable where
  jobs := t.jobs.filter (fun job => job.name != name)
  fresh := t.fresh
  refs_nodup := t.refs_nodup.sublist (List.filter_sublist.map _)
  refs_fresh job hjob := t.refs_fresh job (List.mem_of_mem_filter hjob)

def edit (t : JobTable) : TableEdit → JobTable
  | .register name interval => t.register name interval
  | .unregister name => t.unregister name

/-- `job["last_run"] = …; job["last_tick_id"] = …`: nothing is seen of a job that is not in the
table. -/
def stampedRows (t : JobTable) (ref : Nat) (time : ℚ) (tickId : String) : Table TickJob.name :=
  t.jobs.update (fun job => job.ref == ref)
    (fun job => { job with lastRun := time, lastTickId := some tickId }) (fun _ => rfl)

theorem stampedRows_ref {t : JobTable} {ref : Nat} {time : ℚ} {tickId : String} :
    (t.stampedRows ref time tickId).rows.map TickJob.ref = t.refs := by
  show (List.map _ t.jobs.rows).map TickJob.ref = t.jobs.rows.map TickJob.ref
  rw [List.map_map]
  refine List.map_congr_left (fun job _ => ?_)
  rw [Function.comp_apply]
  split
  · rfl
  · rfl

def stamp (t : JobTable) (ref : Nat) (time : ℚ) (tickId : String) : JobTable where
  jobs := t.stampedRows ref time tickId
  fresh := t.fresh
  refs_nodup := by
    rw [stampedRows_ref]
    exact t.refs_nodup
  refs_fresh job hjob := by
    have href := List.mem_map_of_mem (f := TickJob.ref) hjob
    rw [stampedRows_ref] at href
    exact fresh_of_ref href

end JobTable

/-- The call adds an entry to a table of these names, or deletes one. -/
def TableEdit.AddsOrDeletes (names : List String) : TableEdit → Prop
  | .register name _ => name ∉ names
  | .unregister name => name ∈ names

instance (names : List String) : (edit : TableEdit) → Decidable (edit.AddsOrDeletes names)
  | .register name _ => inferInstanceAs (Decidable (name ∉ names))
  | .unregister name => inferInstanceAs (Decidable (name ∈ names))

/-- `elapsed < job["interval"]` does not hold. -/
def TickJob.Due (now : ℚ) (job : TickJob) : Prop := job.interval ≤ now - job.lastRun

instance (now : ℚ) (job : TickJob) : Decidable (job.Due now) :=
  inferInstanceAs (Decidable (_ ≤ _))

/-- `_tick_bucket`: the job is looked up again by its name. -/
def JobTable.tickBucket (t : JobTable) (name : String) (wall : Int) : Option String :=
  (t.jobs.find? name).map (fun job => name ++ ":" ++ toString (wall / max 1 job.interval))

/-- `DistributedLock.acquire`: an `Exception` of the client is a refusal. -/
def acquire : SetReply → Option Bool
  | .created => some true
  | .kept => some false
  | .raised => some false
  | .exited => none

/-! ## A turn -/

namespace TickState

/-- One call from elsewhere, during an await. -/
def edit (s : TickState) (e : TableEdit) : TickState :=
  { s with
    table := s.table.edit e
    changed := s.changed || decide (e.AddsOrDeletes s.table.names) }

def edits (s : TickState) (es : List TableEdit) : TickState := es.foldl edit s

/-- The attempt is over, and `last_run` is as it was. -/
def unstamped (s : TickState) (job : TickJob) (tickId : String) (started : Option ℚ) : TickState :=
  { s with attempts := s.attempts ++ [⟨job.ref, tickId, started, none⟩] }

/-- The attempt is over, and `last_run` is set to the time that the clock shows. -/
def stamped (world : TickWorld) (s : TickState) (job : TickJob) (tickId : String)
    (started : Option ℚ) : TickState :=
  { s with
    table := s.table.stamp job.ref (world.clock s.reads) tickId
    reads := s.reads + 1
    attempts := s.attempts ++ [⟨job.ref, tickId, started, some (world.clock s.reads)⟩] }

/-- The callback of a job: how it ends the tick, if it does. -/
def runCallback (world : TickWorld) (s : TickState) (job : TickJob) (tickId : String)
    (turn : TickTurn) : TickState × Option TickEnd :=
  let started := world.clock s.reads
  let s := { s with reads := s.reads + 1 }.edits turn.duringCallback
  match turn.callback with
  | .returned => (s.stamped world job tickId (some started), none)
  | .raised => (s.unstamped job tickId (some started), none)
  | .exited => (s.unstamped job tickId (some started), some .exited)

/-- A due job: the lock, if there is one, and the callback. -/
def tryJob (world : TickWorld) (s : TickState) (job : TickJob) (tickId : String)
    (turn : TickTurn) : TickState × Option TickEnd :=
  if world.locked then
    let s := s.edits turn.duringLock
    match acquire turn.reply with
    | none => (s.unstamped job tickId none, some .exited)
    | some false => (s.stamped world job tickId none, none)
    | some true => s.runCallback world job tickId turn
  else s.runCallback world job tickId turn

/-- The body of the loop. -/
def tickJob (world : TickWorld) (now : ℚ) (s : TickState) (job : TickJob) :
    TickState × Option TickEnd :=
  let s := { s with seen := s.seen ++ [job.ref] }
  if job.Due now then
    let turn := world.turn s.reads
    match s.table.tickBucket job.name turn.wall with
    | none => (s, some .keyError)
    | some tickId => s.tryJob world job tickId turn
  else (s, none)

/-- The next step of `for name, job in self.jobs.items()`, where `ahead` is the entry in line.
After an entry was added or deleted the language leaves open what it is. -/
def iterate (resume : Nat → Iterated) (size : Nat) (s : TickState) (ahead : Option String) :
    Iterated :=
  if s.table.names.length ≠ size then .raises
  else if s.changed then resume s.seen.length
  else match ahead with
    | some name => .yields name
    | none => .stops

/-- The loop, with the entries that are left. -/
def tickLoop (world : TickWorld) (resume : Nat → Iterated) (size : Nat) (now : ℚ) :
    List String → TickState → TickState × TickEnd
  | [], s =>
      match s.iterate resume size none with
      | .stops => (s, .finished)
      | _ => (s, .dictionaryChanged)
  | name :: names, s =>
      match s.iterate resume size (some name) with
      | .raises => (s, .dictionaryChanged)
      | .stops => (s, .finished)
      | .yields next =>
          match s.table.jobs.find? next with
          | none => (s, .finished)
          | some job =>
              match s.tickJob world now job with
              | (s, none) => tickLoop world resume size now names s
              | (s, some fin) => (s, fin)

/-- The state in which `tick` begins its loop: it has read the clock. -/
def begin (table : JobTable) (reads : Nat) : TickState := ⟨table, reads + 1, false, [], []⟩

end TickState

/-- `tick`. -/
def tick (world : TickWorld) (resume : Nat → Iterated) (table : JobTable) (reads : Nat) :
    TickState × TickEnd :=
  TickState.tickLoop world resume table.names.length (world.clock reads) table.names
    (.begin table reads)

/-! ## What other code does to the table -/

namespace JobTable

variable {t : JobTable} {e : TableEdit} {es : List TableEdit} {job : TickJob} {ref : Nat}

def edits (t : JobTable) (es : List TableEdit) : JobTable := es.foldl edit t

/-- One of the calls adds an entry or deletes one. -/
def changedBy (t : JobTable) : List TableEdit → Bool
  | [] => false
  | e :: es => decide (e.AddsOrDeletes t.names) || (t.edit e).changedBy es

theorem names_edit (h : ¬ e.AddsOrDeletes t.names) : (t.edit e).names = t.names := by
  cases e with
  | register name interval =>
      have hname : name ∈ t.names := not_not.mp h
      show (t.registered name interval).rows.map TickJob.name = t.names
      rw [registered_old hname, Table.rows_set, List.map_map]
      refine List.map_congr_left (fun job _ => ?_)
      rw [Function.comp_apply]
      split
      next hsame => exact hsame.symm
      next => rfl
  | unregister name =>
      show (t.jobs.rows.filter _).map TickJob.name = t.names
      rw [List.filter_eq_self.mpr, names]
      intro job hjob
      rw [bne_iff_ne]
      exact fun hsame => h (List.mem_map.mpr ⟨job, hjob, hsame⟩)

theorem changedBy_eq_false : t.changedBy es = false ↔ ∀ e ∈ es, ¬ e.AddsOrDeletes t.names := by
  induction es generalizing t with
  | nil => exact iff_of_true rfl (fun e he => absurd he List.not_mem_nil)
  | cons e es ih =>
      rw [changedBy, Bool.or_eq_false_iff, decide_eq_false_iff_not, ih, List.forall_mem_cons]
      exact and_congr_right (fun h => by rw [names_edit h])

theorem changedBy_append (es' : List TableEdit) :
    t.changedBy (es ++ es') = (t.changedBy es || (t.edits es).changedBy es') := by
  induction es generalizing t with
  | nil => rfl
  | cons e es ih =>
      rw [List.cons_append, changedBy, changedBy, ih, Bool.or_assoc]
      rfl

theorem names_edits (h : t.changedBy es = false) : (t.edits es).names = t.names := by
  induction es generalizing t with
  | nil => rfl
  | cons e es ih =>
      rw [changedBy, Bool.or_eq_false_iff, decide_eq_false_iff_not] at h
      exact (ih h.2).trans (names_edit h.1)

/-- A job is left as it is, or its place is taken or deleted. -/
theorem mem_edit (h : job ∈ t.jobs.rows) :
    job ∈ (t.edit e).jobs.rows ∨ job.ref ∉ (t.edit e).refs := by
  cases e with
  | register name interval =>
      by_cases hname : job.name = name
      · refine Or.inr (fun href => ?_)
        obtain ⟨job', hjob', hsame⟩ := List.mem_map.mp href
        rcases mem_registered.mp hjob' with rfl | ⟨hold, hother⟩
        · exact absurd hsame (Nat.ne_of_gt (t.refs_fresh job h))
        · exact hother (ref_inj hold h hsame ▸ hname)
      · exact Or.inl (mem_registered.mpr (Or.inr ⟨h, hname⟩))
  | unregister name =>
      by_cases hname : job.name = name
      · refine Or.inr (fun href => ?_)
        obtain ⟨job', hjob', hsame⟩ := List.mem_map.mp href
        obtain ⟨hold, hother⟩ := List.mem_filter.mp hjob'
        rw [ref_inj hold h hsame, bne_iff_ne] at hother
        exact hother hname
      · exact Or.inl (List.mem_filter.mpr ⟨h, bne_iff_ne.mpr hname⟩)

/-- A job that is not there does not come back. -/
theorem lost_edit (hfresh : ref < t.fresh) (h : ref ∉ t.refs) :
    ref < (t.edit e).fresh ∧ ref ∉ (t.edit e).refs := by
  cases e with
  | register name interval =>
      refine ⟨Nat.lt_succ_of_lt hfresh, fun href => ?_⟩
      obtain ⟨job, hjob, rfl⟩ := List.mem_map.mp href
      rcases mem_registered.mp hjob with rfl | ⟨hold, -⟩
      · exact absurd hfresh (Nat.lt_irrefl _)
      · exact h (List.mem_map_of_mem hold)
  | unregister name =>
      refine ⟨hfresh, fun href => h ?_⟩
      obtain ⟨job, hjob, rfl⟩ := List.mem_map.mp href
      exact List.mem_map_of_mem (List.mem_of_mem_filter hjob)

theorem lost_edits (es : List TableEdit) (hfresh : ref < t.fresh) (h : ref ∉ t.refs) :
    ref < (t.edits es).fresh ∧ ref ∉ (t.edits es).refs := by
  induction es generalizing t with
  | nil => exact ⟨hfresh, h⟩
  | cons e es ih =>
      obtain ⟨hfresh', h'⟩ := lost_edit (e := e) hfresh h
      exact ih hfresh' h'

theorem mem_edits (es : List TableEdit) (h : job ∈ t.jobs.rows) :
    job ∈ (t.edits es).jobs.rows ∨
      job.ref < (t.edits es).fresh ∧ job.ref ∉ (t.edits es).refs := by
  induction es generalizing t with
  | nil => exact Or.inl h
  | cons e es ih =>
      rcases mem_edit (e := e) h with hthere | hlost
      · exact ih hthere
      · have hfresh : job.ref < (t.edit e).fresh := by
          cases e with
          | register name interval => exact Nat.lt_succ_of_lt (t.refs_fresh job h)
          | unregister name => exact t.refs_fresh job h
        exact Or.inr (lost_edits (t := t.edit e) es hfresh hlost)

/-! ### A stamp -/

variable {time : ℚ} {tickId : String}

theorem refs_stamp : (t.stamp ref time tickId).refs = t.refs := stampedRows_ref

theorem names_stamp : (t.stamp ref time tickId).names = t.names := by
  show (List.map _ t.jobs.rows).map TickJob.name = t.jobs.rows.map TickJob.name
  rw [List.map_map]
  refine List.map_congr_left (fun job _ => ?_)
  rw [Function.comp_apply]
  split
  · rfl
  · rfl

/-- A stamp is for one job. -/
theorem mem_stamp (h : job ∈ t.jobs.rows) (hother : job.ref ≠ ref) :
    job ∈ (t.stamp ref time tickId).jobs.rows :=
  List.mem_map.mpr ⟨job, h, if_neg (mt beq_iff_eq.mp hother)⟩

end JobTable

/-! ## What a turn does -/

/-- The calls from elsewhere during the awaits of a job's turn. -/
def awaitedEdits (world : TickWorld) (now : ℚ) (reads : Nat) (job : TickJob) : List TableEdit :=
  let turn := world.turn reads
  if job.Due now then
    if world.locked then
      turn.duringLock ++ if acquire turn.reply = some true then turn.duringCallback else []
    else turn.duringCallback
  else []

/-- No exception of a turn is one that is no `Exception`. -/
def TickWorld.NeverExits (world : TickWorld) : Prop :=
  ∀ n, (world.turn n).callback ≠ .exited ∧ (world.turn n).reply ≠ .exited

/-- An entry of the log: the readings of the clock for it, and what it did to the table beside the
calls from elsewhere. -/
structure Logged (world : TickWorld) (es : List TableEdit) (s : TickState) (job : TickJob)
    (s' : TickState) (tried : JobAttempt) : Prop where
  attempts : s'.attempts = s.attempts ++ [tried]
  ref : tried.job = job.ref
  reads : s.reads ≤ s'.reads
  started : ∀ t, tried.started = some t → t = world.clock s.reads
  table : tried.stamped = none ∧ s'.table = s.table.edits es ∨
    ∃ n tickId, s.reads ≤ n ∧ n < s'.reads ∧ tried.stamped = some (world.clock n) ∧
      s'.table = (s.table.edits es).stamp job.ref (world.clock n) tickId

/-- What is left of an attempt at a job. -/
structure Tried (world : TickWorld) (es : List TableEdit) (s : TickState) (job : TickJob)
    (result : TickState × Option TickEnd) : Prop where
  seen : result.1.seen = s.seen
  changed : result.1.changed = (s.changed || s.table.changedBy es)
  logged : ∃ tried, Logged world es s job result.1 tried
  ends : result.2 = none ∨ result.2 = some .exited ∧ ¬ world.NeverExits

/-- What is left of the turn of a job. -/
structure TurnTaken (world : TickWorld) (now : ℚ) (s : TickState) (job : TickJob)
    (result : TickState × Option TickEnd) : Prop where
  seen : result.1.seen = s.seen ++ [job.ref]
  changed : result.1.changed =
    (s.changed || s.table.changedBy (awaitedEdits world now s.reads job))
  idle : ¬ job.Due now → result.1.table = s.table.edits (awaitedEdits world now s.reads job) ∧
    result.1.attempts = s.attempts ∧ result.1.reads = s.reads
  due : job.Due now →
    ∃ tried, Logged world (awaitedEdits world now s.reads job) s job result.1 tried
  ends : result.2 = none ∨ result.2 = some .exited ∧ ¬ world.NeverExits

/-- Nothing is registered or unregistered during the awaits. -/
def TickWorld.Quiet (world : TickWorld) : Prop :=
  ∀ n, (world.turn n).duringLock = [] ∧ (world.turn n).duringCallback = []

theorem awaitedEdits_of_turn {world : TickWorld} {reads : Nat}
    (hlock : (world.turn reads).duringLock = [])
    (hcallback : (world.turn reads).duringCallback = [])
    (now : ℚ) (job : TickJob) : awaitedEdits world now reads job = [] := by
  unfold awaitedEdits
  dsimp only
  rw [hlock, hcallback]
  split
  · split
    · exact ite_self _
    · rfl
  · rfl

theorem awaitedEdits_of_quiet {world : TickWorld} (hquiet : world.Quiet) (now : ℚ) (reads : Nat)
    (job : TickJob) : awaitedEdits world now reads job = [] :=
  awaitedEdits_of_turn (hquiet reads).1 (hquiet reads).2 now job

namespace TickState

variable {world : TickWorld} {now : ℚ} {s : TickState} {job : TickJob} {tickId : String}
  {es es' : List TableEdit} {result : TickState × Option TickEnd}

theorem edits_eq (s : TickState) (es : List TableEdit) : s.edits es =
    { s with table := s.table.edits es, changed := s.changed || s.table.changedBy es } := by
  induction es generalizing s with
  | nil =>
      show s = { s with changed := s.changed || false }
      rw [Bool.or_false]
  | cons e es ih =>
      show (s.edit e).edits es = _
      rw [ih]
      show ({ s with table := _, changed := _ } : TickState) = _
      rw [edit, Bool.or_assoc]
      rfl

/-- An attempt that begins after some calls. -/
theorem tried_edits (h : Tried world es' (s.edits es) job result) :
    Tried world (es ++ es') s job result := by
  have hedits : s.table.edits (es ++ es') = (s.table.edits es).edits es' := List.foldl_append
  obtain ⟨hseen, hchanged, ⟨tried, hlogged⟩, hends⟩ := h
  rw [edits_eq] at hseen hchanged hlogged
  obtain ⟨hattempts, hjob, hreads, hstarted, htable⟩ := hlogged
  refine ⟨hseen, ?_, ⟨tried, hattempts, hjob, hreads, hstarted, ?_⟩, hends⟩
  · rw [hchanged, JobTable.changedBy_append, Bool.or_assoc]
  · rw [hedits]
    exact htable

/-- An attempt that ends without a stamp. -/
theorem logged_unstamped {s' : TickState} {started : Option ℚ}
    (hattempts : s'.attempts = s.attempts ++ [⟨job.ref, tickId, started, none⟩])
    (hreads : s.reads ≤ s'.reads) (hstarted : ∀ t, started = some t → t = world.clock s.reads)
    (htable : s'.table = s.table.edits es) : ∃ tried, Logged world es s job s' tried :=
  ⟨_, hattempts, rfl, hreads, hstarted, Or.inl ⟨rfl, htable⟩⟩

/-- An attempt that ends with one. -/
theorem logged_stamped {s' : TickState} {started : Option ℚ} {n : Nat}
    (hattempts : s'.attempts =
      s.attempts ++ [⟨job.ref, tickId, started, some (world.clock n)⟩])
    (hn : s.reads ≤ n) (hreads : n < s'.reads)
    (hstarted : ∀ t, started = some t → t = world.clock s.reads)
    (htable : s'.table = (s.table.edits es).stamp job.ref (world.clock n) tickId) :
    ∃ tried, Logged world es s job s' tried :=
  ⟨_, hattempts, rfl, Nat.le_trans hn (Nat.le_of_lt hreads), hstarted,
    Or.inr ⟨n, tickId, hn, hreads, rfl, htable⟩⟩

theorem runCallback_tried (n : Nat) : Tried world (world.turn n).duringCallback s job
    (s.runCallback world job tickId (world.turn n)) := by
  have hstarted : ∀ t, some (world.clock s.reads) = some t → t = world.clock s.reads :=
    fun t h => (Option.some.inj h).symm
  unfold runCallback
  simp only [edits_eq]
  cases hend : (world.turn n).callback with
  | returned =>
      exact ⟨rfl, rfl, logged_stamped rfl (Nat.le_succ _) (Nat.lt_succ_self _) hstarted rfl,
        Or.inl rfl⟩
  | raised => exact ⟨rfl, rfl, logged_unstamped rfl (Nat.le_succ _) hstarted rfl, Or.inl rfl⟩
  | exited =>
      exact ⟨rfl, rfl, logged_unstamped rfl (Nat.le_succ _) hstarted rfl,
        Or.inr ⟨rfl, fun hnever => (hnever n).1 hend⟩⟩

theorem tryJob_tried (hdue : job.Due now) (n : Nat) : Tried world (awaitedEdits world now n job) s
    job (s.tryJob world job tickId (world.turn n)) := by
  have hnone : ∀ t, (none : Option ℚ) = some t → t = world.clock s.reads :=
    fun t h => (Option.some_ne_none t h.symm).elim
  unfold tryJob awaitedEdits
  rw [if_pos hdue]
  split
  · refine tried_edits ?_
    have hedits : (s.edits (world.turn n).duringLock).reads = s.reads := by rw [edits_eq]
    cases hreply : (world.turn n).reply with
    | created => exact runCallback_tried n
    | kept =>
        exact ⟨rfl, (Bool.or_false _).symm,
          logged_stamped rfl (Nat.le_refl _) (Nat.lt_succ_self _) (hedits ▸ hnone) rfl, Or.inl rfl⟩
    | raised =>
        exact ⟨rfl, (Bool.or_false _).symm,
          logged_stamped rfl (Nat.le_refl _) (Nat.lt_succ_self _) (hedits ▸ hnone) rfl, Or.inl rfl⟩
    | exited =>
        exact ⟨rfl, (Bool.or_false _).symm,
          logged_unstamped rfl (Nat.le_refl _) (hedits ▸ hnone) rfl,
          Or.inr ⟨rfl, fun hnever => (hnever n).2 hreply⟩⟩
  · exact runCallback_tried n

/-- A job that is in the table takes its turn. -/
theorem tickJob_taken (hjob : job ∈ s.table.jobs.rows) :
    TurnTaken world now s job (s.tickJob world now job) := by
  unfold tickJob
  by_cases hdue : job.Due now
  · obtain ⟨tickId, hid⟩ : ∃ tickId,
        s.table.tickBucket job.name (world.turn s.reads).wall = some tickId := by
      rw [JobTable.tickBucket, Table.find?_of_mem hjob]
      exact ⟨_, rfl⟩
    simp only [if_pos hdue, hid]
    obtain ⟨hseen, hchanged, ⟨tried, hlogged⟩, hends⟩ :=
      @tryJob_tried world now { s with seen := s.seen ++ [job.ref] } job tickId hdue s.reads
    obtain ⟨hattempts, href, hreads, hstarted, htable⟩ := hlogged
    exact ⟨hseen, hchanged, fun h => absurd hdue h,
      fun _ => ⟨tried, hattempts, href, hreads, hstarted, htable⟩, hends⟩
  · simp only [if_neg hdue]
    have hnone : awaitedEdits world now s.reads job = [] := if_neg hdue
    refine ⟨rfl, ?_, fun _ => ⟨?_, rfl, rfl⟩, fun h => absurd h hdue, Or.inl rfl⟩
    · rw [hnone]
      exact (Bool.or_false _).symm
    · rw [hnone]
      rfl

/-- A turn leaves the table that the calls from elsewhere make, but for a stamp. -/
theorem tickJob_table (hjob : job ∈ s.table.jobs.rows) :
    let edited := s.table.edits (awaitedEdits world now s.reads job)
    (s.tickJob world now job).1.table = edited ∨
      ∃ time tickId, (s.tickJob world now job).1.table = edited.stamp job.ref time tickId := by
  have htaken := @tickJob_taken world now s job hjob
  by_cases hdue : job.Due now
  · obtain ⟨tried, hlogged⟩ := htaken.due hdue
    rcases hlogged.table with ⟨-, htable⟩ | ⟨n, tickId, -, -, -, htable⟩
    · exact Or.inl htable
    · exact Or.inr ⟨_, tickId, htable⟩
  · exact Or.inl (htaken.idle hdue).1

/-- The log grows by the jobs that are due. -/
theorem tickJob_attempts (hjob : job ∈ s.table.jobs.rows) :
    ∃ tried, (s.tickJob world now job).1.attempts = s.attempts ++ tried ∧
      (job.Due now → job.ref ∈ tried.map JobAttempt.job) := by
  have htaken := @tickJob_taken world now s job hjob
  by_cases hdue : job.Due now
  · obtain ⟨tried, hlogged⟩ := htaken.due hdue
    exact ⟨[tried], hlogged.attempts, fun _ => List.mem_singleton.mpr hlogged.ref.symm⟩
  · refine ⟨[], ?_, fun h => absurd h hdue⟩
    rw [(htaken.idle hdue).2.1, List.append_nil]

/-- A due job that has its turn is tried. -/
theorem tickJob_tries (hjob : job ∈ s.table.jobs.rows) (hdue : job.Due now) :
    job.ref ∈ (s.tickJob world now job).1.attempts.map JobAttempt.job := by
  obtain ⟨tried, hattempts, htried⟩ := @tickJob_attempts world now s job hjob
  rw [hattempts, List.map_append]
  exact List.mem_append_right _ (htried hdue)

/-! ## What becomes of a job -/

/-- The job is in the table, and has not had its turn. -/
def Ahead (s : TickState) (job : TickJob) : Prop :=
  job ∈ s.table.jobs.rows ∧ job.ref ∉ s.seen

/-- The job went from the table before it had its turn. -/
def Lost (s : TickState) (ref : Nat) : Prop :=
  (ref < s.table.fresh ∧ ref ∉ s.table.refs) ∧ ref ∉ s.seen

theorem lost_turn {ref : Nat} (hjob : job ∈ s.table.jobs.rows) (h : s.Lost ref) :
    (s.tickJob world now job).1.Lost ref := by
  have htaken := @tickJob_taken world now s job hjob
  obtain ⟨⟨hfresh, hrefs⟩, hseen⟩ := h
  refine ⟨?_, ?_⟩
  · have hlost := JobTable.lost_edits (awaitedEdits world now s.reads job) hfresh hrefs
    rcases @tickJob_table world now s job hjob with htable | ⟨time, tickId, htable⟩
    · rwa [htable]
    · rw [htable, JobTable.refs_stamp]
      exact hlost
  · rw [htaken.seen, List.mem_append, List.mem_singleton]
    rintro (hold | hown)
    · exact hseen hold
    · exact hrefs (hown ▸ List.mem_map_of_mem hjob)

/-- The turn of another leaves a job where it is, or sees it go. -/
theorem ahead_turn {other : TickJob} (hjob : other ∈ s.table.jobs.rows) (h : s.Ahead job)
    (hne : job.ref ≠ other.ref) :
    (s.tickJob world now other).1.Ahead job ∨ (s.tickJob world now other).1.Lost job.ref := by
  have htaken := @tickJob_taken world now s other hjob
  have hseen : job.ref ∉ (s.tickJob world now other).1.seen := by
    rw [htaken.seen, List.mem_append, List.mem_singleton]
    exact not_or.mpr ⟨h.2, hne⟩
  rcases JobTable.mem_edits (awaitedEdits world now s.reads other) h.1 with hthere | hlost
  · refine Or.inl ⟨?_, hseen⟩
    rcases @tickJob_table world now s other hjob with htable | ⟨time, tickId, htable⟩
    · rwa [htable]
    · rw [htable]
      exact JobTable.mem_stamp hthere hne
  · refine Or.inr ⟨?_, hseen⟩
    rcases @tickJob_table world now s other hjob with htable | ⟨time, tickId, htable⟩
    · rwa [htable]
    · rw [htable, JobTable.refs_stamp]
      exact hlost

/-! ## The loop -/

variable {resume : Nat → Iterated} {size : Nat} {names : List String}

/-- The loop keeps what the turns keep. -/
theorem tickLoop_inv {P : TickState → Prop}
    (hturn : ∀ s job, job ∈ s.table.jobs.rows → P s → P (s.tickJob world now job).1)
    (names : List String) (s : TickState) (h : P s) :
    P (tickLoop world resume size now names s).1 := by
  induction names generalizing s with
  | nil =>
      unfold tickLoop
      split
      · exact h
      · exact h
  | cons name names ih =>
      unfold tickLoop
      split
      · exact h
      · exact h
      next next _ =>
          cases hfind : s.table.jobs.find? next with
          | none => exact h
          | some job =>
              have hnext := hturn s job (Table.mem_of_find? hfind) h
              dsimp only
              split
              next s' hs' =>
                rw [hs'] at hnext
                exact ih s' hnext
              next s' fin hs' =>
                rw [hs'] at hnext
                exact hnext

theorem tickLoop_lost {ref : Nat} (h : s.Lost ref) :
    (tickLoop world resume size now names s).1.Lost ref :=
  tickLoop_inv (fun _ _ hjob hlost => lost_turn hjob hlost) names s h

/-- What was tried stays tried. -/
theorem tickLoop_tried {ref : Nat} (h : ref ∈ s.attempts.map JobAttempt.job) :
    ref ∈ (tickLoop world resume size now names s).1.attempts.map JobAttempt.job := by
  refine tickLoop_inv (P := fun s => ref ∈ s.attempts.map JobAttempt.job)
    (fun s job hjob hold => ?_) names s h
  obtain ⟨tried, hattempts, -⟩ := @tickJob_attempts world now s job hjob
  rw [hattempts, List.map_append]
  exact List.mem_append_left _ hold

/-- At no await of the turns that are taken is an entry added or deleted. -/
def Undisturbed (world : TickWorld) (now : ℚ) : List String → TickState → Prop
  | [], _ => True
  | name :: names, s => ∀ job, s.table.jobs.find? name = some job →
      (∀ e ∈ awaitedEdits world now s.reads job, ¬ e.AddsOrDeletes s.table.names) ∧
        ((s.tickJob world now job).2 = none →
          Undisturbed world now names (s.tickJob world now job).1)

theorem undisturbed_of_quiet (hquiet : world.Quiet) (names : List String) (s : TickState) :
    Undisturbed world now names s := by
  induction names generalizing s with
  | nil => trivial
  | cons name names ih =>
      intro job _
      refine ⟨?_, fun _ => ih _⟩
      rw [awaitedEdits_of_quiet hquiet]
      exact fun e he => absurd he List.not_mem_nil

/-- The loop goes on as if the table were a list: the names are all there, in order. -/
structure Regular (size : Nat) (names : List String) (s : TickState) : Prop where
  unchanged : s.changed = false
  size : s.table.names.length = size
  nodup : names.Nodup
  there : ∀ name ∈ names, name ∈ s.table.names

theorem Regular.stops (h : Regular size names s) : s.iterate resume size none = .stops := by
  rw [iterate, if_neg (not_not.mpr h.size), h.unchanged]
  rfl

theorem Regular.yields (h : Regular size names s) (name : String) :
    s.iterate resume size (some name) = .yields name := by
  rw [iterate, if_neg (not_not.mpr h.size), h.unchanged]
  rfl

theorem Regular.found {name : String} (h : Regular size (name :: names) s) :
    ∃ job, s.table.jobs.find? name = some job := by
  obtain ⟨job, hjob, rfl⟩ := List.mem_map.mp (h.there name List.mem_cons_self)
  exact ⟨job, Table.find?_of_mem hjob⟩

/-- A turn at which nothing is added or deleted. -/
theorem Regular.turn {name : String} (h : Regular size (name :: names) s)
    (hjob : job ∈ s.table.jobs.rows)
    (hkeeps : ∀ e ∈ awaitedEdits world now s.reads job, ¬ e.AddsOrDeletes s.table.names) :
    Regular size names (s.tickJob world now job).1 := by
  have htaken := @tickJob_taken world now s job hjob
  have hunchanged := JobTable.changedBy_eq_false.mpr hkeeps
  have hnames : (s.tickJob world now job).1.table.names = s.table.names := by
    rcases @tickJob_table world now s job hjob with htable | ⟨time, tickId, htable⟩
    · rw [htable, JobTable.names_edits hunchanged]
    · rw [htable, JobTable.names_stamp, JobTable.names_edits hunchanged]
  refine ⟨?_, ?_, h.nodup.of_cons, fun name hname => ?_⟩
  · rw [htaken.changed, h.unchanged, hunchanged]
    rfl
  · rw [hnames, h.size]
  · rw [hnames]
    exact h.there name (List.mem_cons_of_mem _ hname)

/-- One turn of a loop that goes on as over a list. -/
theorem Regular.loop {name : String} (h : Regular size (name :: names) s)
    (hfind : s.table.jobs.find? name = some job) :
    tickLoop world resume size now (name :: names) s =
      match s.tickJob world now job with
      | (s, none) => tickLoop world resume size now names s
      | (s, some fin) => (s, fin) := by
  rw [tickLoop, h.yields name]
  simp only [hfind]

/-- **An undisturbed loop** comes to its end, unless an exit ends it, and leaves no due job
behind. -/
theorem tickLoop_undisturbed (h : Regular size names s) (hcalm : Undisturbed world now names s) :
    ((tickLoop world resume size now names s).2 = .finished ∨
      (tickLoop world resume size now names s).2 = .exited ∧ ¬ world.NeverExits) ∧
    ∀ job, s.Ahead job → job.name ∈ names → job.Due now →
      job.ref ∈ (tickLoop world resume size now names s).1.attempts.map JobAttempt.job ∨
        ((tickLoop world resume size now names s).2 = .exited ∧
          job.ref ∉ (tickLoop world resume size now names s).1.seen) ∨
        (tickLoop world resume size now names s).1.Lost job.ref := by
  induction names generalizing s with
  | nil =>
      rw [tickLoop, h.stops]
      exact ⟨Or.inl rfl, fun job _ hname => absurd hname List.not_mem_nil⟩
  | cons name names ih =>
      obtain ⟨found, hfind⟩ := h.found
      obtain ⟨hkeeps, hlater⟩ := hcalm found hfind
      have hmem := Table.mem_of_find? hfind
      have htaken := @tickJob_taken world now s found hmem
      have hregular := h.turn hmem hkeeps
      have hahead := @ahead_turn world now s
      rw [h.loop hfind]
      rcases hresult : s.tickJob world now found with ⟨s', fin⟩
      rw [hresult] at hlater htaken hregular
      rcases htaken.ends with hnone | ⟨hexited, hexits⟩
      · obtain rfl : fin = none := hnone
        obtain ⟨hends, hdue⟩ := ih hregular (hlater rfl)
        refine ⟨hends, fun job hahead hname hjobdue => ?_⟩
        by_cases hsame : job.ref = found.ref
        · -- its turn: it is the job that is found under its name
          obtain rfl := JobTable.ref_inj hahead.1 hmem hsame
          have htried := @tickJob_tries world now s job hmem hjobdue
          rw [hresult] at htried
          exact Or.inl (tickLoop_tried htried)
        · have hother : job.name ≠ name := by
            rintro rfl
            have hself := Table.find?_of_mem hahead.1
            rw [hfind] at hself
            exact hsame (congrArg TickJob.ref (Option.some.inj hself)).symm
          have hturn := @ahead_turn world now s job found hmem hahead hsame
          rw [hresult] at hturn
          rcases hturn with hstill | hlost
          · exact hdue job hstill ((List.mem_cons.mp hname).resolve_left hother) hjobdue
          · exact Or.inr (Or.inr (tickLoop_lost hlost))
      · obtain rfl : fin = some .exited := hexited
        refine ⟨Or.inr ⟨rfl, hexits⟩, fun job hahead _ hjobdue => ?_⟩
        by_cases hsame : job.ref = found.ref
        · obtain rfl := JobTable.ref_inj hahead.1 hmem hsame
          have htried := @tickJob_tries world now s job hmem hjobdue
          rw [hresult] at htried
          exact Or.inl htried
        · refine Or.inr (Or.inl ⟨rfl, ?_⟩)
          rw [htaken.seen, List.mem_append, List.mem_singleton]
          exact not_or.mpr ⟨hahead.2, hsame⟩

/-- A loop whose table was changed raises where the language lets it. -/
theorem tickLoop_changed (hchanged : s.changed = true) :
    (tickLoop world (fun _ => .raises) size now names s).2 = .dictionaryChanged := by
  have hraises : ∀ ahead, s.iterate (fun _ => .raises) size ahead = .raises := by
    intro ahead
    unfold iterate
    rw [if_pos hchanged]
    exact ite_self _
  cases names with
  | nil => rw [tickLoop, hraises]
  | cons name names => rw [tickLoop, hraises]

/-- **A disturbed loop** is left early where the language lets it. -/
theorem tickLoop_disturbed (hexits : world.NeverExits) (h : Regular size names s)
    (hdisturbed : ¬ Undisturbed world now names s) :
    (tickLoop world (fun _ => .raises) size now names s).2 = .dictionaryChanged := by
  induction names generalizing s with
  | nil => exact absurd trivial hdisturbed
  | cons name names ih =>
      obtain ⟨found, hfind⟩ := h.found
      have hmem := Table.mem_of_find? hfind
      have htaken := @tickJob_taken world now s found hmem
      have hregular := @Regular.turn world now s found size names name h hmem
      rw [h.loop hfind]
      rcases hresult : s.tickJob world now found with ⟨s', fin⟩
      rw [hresult] at htaken hregular
      obtain rfl : fin = none := htaken.ends.resolve_right (fun hends => hends.2 hexits)
      by_cases hkeeps : ∀ e ∈ awaitedEdits world now s.reads found, ¬ e.AddsOrDeletes s.table.names
      · refine ih (hregular hkeeps) (fun hcalm => hdisturbed ?_)
        intro job hjob
        cases Option.some.inj (hfind.symm.trans hjob)
        rw [hresult]
        exact ⟨hkeeps, fun _ => hcalm⟩
      · refine tickLoop_changed ?_
        have hchanged := Bool.eq_true_of_not_eq_false (mt JobTable.changedBy_eq_false.mp hkeeps)
        rw [htaken.changed, hchanged, Bool.or_true]

end TickState

/-! ## One tick -/

theorem regular_begin (table : JobTable) (reads : Nat) :
    TickState.Regular table.names.length table.names (.begin table reads) where
  unchanged := rfl
  size := rfl
  nodup := table.jobs.nodup
  there _ h := h

/-- The tick comes to its end, and every job that was due when it began was tried, or was not in
the table any more when its turn would have come. -/
def Isolates (world : TickWorld) (resume : Nat → Iterated) (table : JobTable) (reads : Nat) :
    Prop :=
  let result := tick world resume table reads
  result.2 = .finished ∧ ∀ job ∈ table.jobs.rows, job.Due (world.clock reads) →
    job.ref ∈ result.1.attempts.map JobAttempt.job ∨
      job.ref ∉ result.1.table.refs ∧ job.ref ∉ result.1.seen

/-- **When a tick isolates its jobs.**  With callbacks that return or raise an `Exception`, and
whatever an iterator does after the table has changed, if and only if at no await of the tick an
entry is added to the table or deleted from it. -/
theorem tick_isolates_iff (world : TickWorld) (hexits : world.NeverExits) (table : JobTable)
    (reads : Nat) :
    (∀ resume, Isolates world resume table reads) ↔
      TickState.Undisturbed world (world.clock reads) table.names (.begin table reads) := by
  constructor
  · intro hisolates
    by_contra hdisturbed
    have hraised := TickState.tickLoop_disturbed hexits (regular_begin table reads) hdisturbed
    have hfinished := (hisolates (fun _ => .raises)).1
    unfold tick at hfinished
    rw [hraised] at hfinished
    cases hfinished
  · intro hcalm resume
    obtain ⟨hends, hdue⟩ := @TickState.tickLoop_undisturbed world _ _ resume _ _
      (regular_begin table reads) hcalm
    have hfinished := hends.resolve_right (fun h => h.2 hexits)
    refine ⟨hfinished, fun job hjob hjobdue => ?_⟩
    rcases hdue job ⟨hjob, List.not_mem_nil⟩ (List.mem_map_of_mem hjob) hjobdue with
      htried | ⟨hexited, -⟩ | hlost
    · exact Or.inl htried
    · rw [hfinished] at hexited
      cases hexited
    · exact Or.inr ⟨hlost.1.2, hlost.2⟩

def noJobs : JobTable := ⟨Table.empty, 0, List.nodup_nil, fun _ h => absurd h List.not_mem_nil⟩

/-- A callback that does nothing to the table. -/
def poller : TickWorld where
  locked := false
  clock := fun n => 100 * n
  turn := fun _ => ⟨1000, .created, [], [], .returned⟩

theorem poller_quiet : poller.Quiet := fun _ => ⟨rfl, rfl⟩

/-- The first callback registers its own job again, and raises. -/
def impatient : TickWorld where
  locked := false
  clock := fun n => 100 * n
  turn := fun n =>
    if n = 2 then ⟨1000, .created, [], [.register "poll" 30], .raised⟩
    else ⟨1000, .created, [], [], .returned⟩

theorem impatient_neverExits : impatient.NeverExits := by
  intro n
  unfold impatient
  dsimp only
  split
  · exact ⟨(by rintro ⟨⟩), (by rintro ⟨⟩)⟩
  · exact ⟨(by rintro ⟨⟩), (by rintro ⟨⟩)⟩

def twoJobs : JobTable := (noJobs.register "poll" 60).register "sweep" 60

/-- Both jobs are tried, though the callback of the first one fails. -/
theorem impatient_isolates :
    Isolates impatient (fun _ => .raises) twoJobs 1 ∧
      (tick impatient (fun _ => .raises) twoJobs 1).1.attempts.map JobAttempt.started =
        [some 200, some 300] := by
  refine ⟨(tick_isolates_iff impatient impatient_neverExits twoJobs 1).mpr ?_ (fun _ => .raises),
    by decide +kernel⟩
  intro job hjob
  cases hjob
  -- the turn of the second job begins at another reading of the clock
  have hreads : (TickState.tickJob impatient (impatient.clock 1) (.begin twoJobs 1)
      (noJobs.newJob "poll" 60)).1.reads = 3 := by decide +kernel
  refine ⟨by decide +kernel, fun _ job hjob => ⟨fun e he => ?_, fun _ => trivial⟩⟩
  rw [awaitedEdits_of_turn (by rw [hreads]; rfl) (by rw [hreads]; rfl)] at he
  exact absurd he List.not_mem_nil

/-- A callback that takes its own job from the table. -/
def oneShot : TickWorld where
  locked := false
  clock := fun _ => 100
  turn := fun _ => ⟨1000, .created, [], [.unregister "once"], .returned⟩

theorem oneShot_neverExits : oneShot.NeverExits := by
  intro n
  refine ⟨fun h => ?_, fun h => ?_⟩
  · cases h
  · cases h

/-- The tick raises after such a callback has returned. -/
theorem one_shot_job_ends_the_tick :
    ¬ ∀ world : TickWorld, world.NeverExits → ∀ resume table reads,
      Isolates world resume table reads := by
  intro hclaim
  have hfinished := (hclaim oneShot oneShot_neverExits (fun _ => .stops)
    (noJobs.register "once" 60) 0).1
  have hraised : (tick oneShot (fun _ => .stops) (noJobs.register "once" 60) 0).2 =
      .dictionaryChanged := by decide +kernel
  rw [hraised] at hfinished
  cases hfinished

end OpenSoar
