/-
# `OpenSoar.Worker.Routing` — the queue that a task is put on

`worker/routing.py` and `_PlaybookRoutedTask` of `worker/tasks.py`.  A playbook is routed by the
priority that it is registered with, and a sequence of playbooks to the most urgent of their
queues.  The loop that looks for it starts from the default queue, so a sequence of playbooks that
are all of low priority goes to the default queue instead (`routed_iff`).
-/
import OpenSoar.Core.Registry

namespace OpenSoar

open Python

/-! ## The program -/

inductive Queue where
  | high
  | default
  | low
deriving DecidableEq

/-- `_PRIORITY_RANK`. -/
def Queue.rank : Queue → Nat
  | .high => 0
  | .default => 1
  | .low => 2

/-- `queue_for_priority`. -/
def queueForPriority (priority : Option String) : Queue :=
  match priority with
  | some "high" => .high
  | some "low" => .low
  | _ => .default

section Routing

variable (registry : PlaybookRegistry)

/-- `queue_for_playbook`. -/
def queueForPlaybook (playbookName : String) : Queue :=
  match registry.find? playbookName with
  | none => .default
  | some registered => queueForPriority (some registered.priority)

/-- The body of the loop; `best_rank` is the rank of `best`. -/
def moreUrgent (best : Queue) (name : String) : Queue :=
  if (queueForPlaybook registry name).rank < best.rank then queueForPlaybook registry name else best

/-- `highest_priority_queue`. -/
def highestPriorityQueue (playbookNames : List String) : Queue :=
  if playbookNames.isEmpty then .default else playbookNames.foldl (moreUrgent registry) .default

/-- The names in a list of arguments. -/
def namesIn (items : List Json) : List String :=
  items.filterMap (fun item =>
    match item with
    | .str name => some name
    | _ => none)

/-- `_resolve_queue`. -/
def resolveQueue (args : List Json) (priorityOverride : Option String) : Queue :=
  if priorityOverride.isSome then queueForPriority priorityOverride
  else
    match args with
    | .str name :: _ => queueForPlaybook registry name
    | .arr items :: _ => highestPriorityQueue registry (namesIn items)
    | _ => .default

end Routing

/-! ## The most urgent queue -/

/-- No queue of these is more urgent. -/
structure MostUrgent (queues : List Queue) (q : Queue) : Prop where
  mem : q ∈ queues
  least : ∀ q' ∈ queues, q.rank ≤ q'.rank

/-- The sequence is routed as its playbooks are: to the most urgent of their queues, and a single
playbook as it is by itself; in whatever order and however often they are named. -/
structure Routed (registry : PlaybookRegistry) (names : List String) : Prop where
  mostUrgent : MostUrgent (names.map (queueForPlaybook registry))
    (highestPriorityQueue registry names)
  alone : ∀ name, names = [name] →
    highestPriorityQueue registry names = queueForPlaybook registry name
  unordered : ∀ names', (∀ name, name ∈ names' ↔ name ∈ names) →
    highestPriorityQueue registry names' = highestPriorityQueue registry names

theorem Queue.rank_inj {q q' : Queue} (h : q.rank = q'.rank) : q = q' := by
  cases q <;> cases q' <;> first | rfl | cases h

variable {registry : PlaybookRegistry} {names : List String}

/-- One turn of the loop. -/
theorem mostUrgent_moreUrgent (best : Queue) (name : String) :
    MostUrgent [best, queueForPlaybook registry name] (moreUrgent registry best name) := by
  rw [moreUrgent]
  split
  · rename_i hless
    refine ⟨List.mem_cons_of_mem _ List.mem_cons_self, fun q hq => ?_⟩
    rcases List.mem_cons.mp hq with rfl | hq
    · exact hless.le
    · rw [List.mem_singleton.mp hq]
  · rename_i hnot
    refine ⟨List.mem_cons_self, fun q hq => ?_⟩
    rcases List.mem_cons.mp hq with rfl | hq
    · exact le_refl _
    · rw [List.mem_singleton.mp hq]
      exact not_lt.mp hnot

/-- The loop finds the most urgent queue, that with which it starts among them. -/
theorem mostUrgent_foldl (best : Queue) :
    MostUrgent (best :: names.map (queueForPlaybook registry))
      (names.foldl (moreUrgent registry) best) := by
  induction names generalizing best with
  | nil =>
      refine ⟨List.mem_cons_self, fun q hq => ?_⟩
      rw [List.mem_singleton.mp hq]
      exact le_refl _
  | cons name names ih =>
      have hturn := @mostUrgent_moreUrgent registry best name
      have hrest := ih (moreUrgent registry best name)
      rw [List.map_cons, List.foldl_cons]
      refine ⟨?_, fun q hq => ?_⟩
      · rcases List.mem_cons.mp hrest.mem with hfirst | hlater
        · rw [hfirst]
          rcases List.mem_cons.mp hturn.mem with hkept | hnew
          · rw [hkept]
            exact List.mem_cons_self
          · rw [List.mem_singleton.mp hnew]
            exact List.mem_cons_of_mem _ List.mem_cons_self
        · exact List.mem_cons_of_mem _ (List.mem_cons_of_mem _ hlater)
      · have hfirst := hrest.least _ List.mem_cons_self
        rcases List.mem_cons.mp hq with rfl | hq
        · exact hfirst.trans (hturn.least _ List.mem_cons_self)
        · rcases List.mem_cons.mp hq with rfl | hq
          · exact hfirst.trans (hturn.least _ (List.mem_cons_of_mem _ List.mem_cons_self))
          · exact hrest.least q (List.mem_cons_of_mem _ hq)

theorem MostUrgent.unique {queues queues' : List Queue} {q q' : Queue} (h : MostUrgent queues q)
    (h' : MostUrgent queues' q') (hsame : ∀ x, x ∈ queues ↔ x ∈ queues') : q = q' :=
  Queue.rank_inj (Nat.le_antisymm (h.least q' ((hsame q').mpr h'.mem))
    (h'.least q ((hsame q).mp h.mem)))

/-- What the function returns: the most urgent queue of the default one and those of the list. -/
theorem mostUrgent_highestPriorityQueue :
    MostUrgent (.default :: names.map (queueForPlaybook registry))
      (highestPriorityQueue registry names) := by
  rw [highestPriorityQueue]
  split
  · rename_i hempty
    rw [List.isEmpty_iff.mp hempty]
    exact mostUrgent_foldl .default
  · exact mostUrgent_foldl .default

/-- The order of the names and their repetitions play no role. -/
theorem highestPriorityQueue_unordered {names' : List String}
    (h : ∀ name, name ∈ names' ↔ name ∈ names) :
    highestPriorityQueue registry names' = highestPriorityQueue registry names := by
  refine mostUrgent_highestPriorityQueue.unique mostUrgent_highestPriorityQueue (fun q => ?_)
  simp only [List.mem_cons, List.mem_map, h]

/-- A queue other than the low one is the most urgent of the list just when it is with the default
one added. -/
theorem mostUrgent_iff {queues : List Queue} {q : Queue} (h : MostUrgent (.default :: queues) q) :
    MostUrgent queues q ↔ ∃ q' ∈ queues, q' ≠ .low := by
  constructor
  · intro hmost
    refine ⟨q, hmost.mem, ?_⟩
    rintro rfl
    exact absurd (h.least .default List.mem_cons_self) (by decide)
  · rintro ⟨q', hq', hne⟩
    refine ⟨?_, fun x hx => h.least x (List.mem_cons_of_mem _ hx)⟩
    rcases List.mem_cons.mp h.mem with rfl | hmem
    · -- the default queue wins only where it is one of the list
      have hle := h.least q' (List.mem_cons_of_mem _ hq')
      cases q' with
      | high => exact absurd hle (by decide)
      | default => exact hq'
      | low => exact absurd rfl hne
    · exact hmem

/-- **Which sequences are routed rightly.**  All but those whose playbooks are all of low
priority. -/
theorem routed_iff (hnames : names ≠ []) :
    Routed registry names ↔ ∃ name ∈ names, queueForPlaybook registry name ≠ .low := by
  have hmost := @mostUrgent_highestPriorityQueue registry names
  have hiff : MostUrgent (names.map (queueForPlaybook registry))
      (highestPriorityQueue registry names) ↔
        ∃ name ∈ names, queueForPlaybook registry name ≠ .low := by
    rw [mostUrgent_iff hmost]
    simp only [List.mem_map, exists_exists_and_eq_and]
  refine ⟨fun h => hiff.mp h.mostUrgent, fun h => ⟨hiff.mpr h, ?_, ?_⟩⟩
  · rintro name rfl
    exact List.mem_singleton.mp (hiff.mpr h).mem
  · exact fun names' hsame => highestPriorityQueue_unordered hsame

/-- A task for a sequence is put on this queue, one for a playbook on that of the playbook. -/
theorem resolveQueue_names (name : String) (rest : List Json) :
    resolveQueue registry (.arr (names.map .str) :: rest) none =
        highestPriorityQueue registry names ∧
      resolveQueue registry (.str name :: rest) none = queueForPlaybook registry name := by
  have hnames : namesIn (names.map .str) = names := by
    rw [namesIn, List.filterMap_map]
    exact List.filterMap_some
  refine ⟨?_, rfl⟩
  show highestPriorityQueue registry (namesIn (names.map .str)) = _
  rw [hnames]

/-! ## One playbook -/

/-- The registry of one playbook with this priority. -/
def backfillOf (priority : String) : PlaybookRegistry :=
  ⟨[{ name := "backfill"
      trigger := none
      conditions := []
      description := ""
      enabled := true
      order := 1000
      priority
      functionName := "backfill"
      func := fun _ _ db => .ok (db, .success)
      module := "playbooks.backfill" }], List.nodup_singleton _⟩

/-- A playbook of low priority is put on the low queue by itself, and on the default queue as a
sequence. -/
theorem low_sequence_misrouted :
    queueForPlaybook (backfillOf "low") "backfill" = .low ∧
      highestPriorityQueue (backfillOf "low") ["backfill"] = .default ∧
      ¬ Routed (backfillOf "low") ["backfill"] := by
  have hlow : queueForPlaybook (backfillOf "low") "backfill" = .low := by decide
  have hdefault : highestPriorityQueue (backfillOf "low") ["backfill"] = .default := by decide
  refine ⟨hlow, hdefault, fun h => ?_⟩
  have halone := h.alone "backfill" rfl
  rw [hlow, hdefault] at halone
  cases halone

theorem routed_backfill : Routed (backfillOf "high") ["backfill", "unknown"] :=
  (routed_iff (List.cons_ne_nil _ _)).mpr ⟨"unknown", List.mem_cons_of_mem _ List.mem_cons_self,
    by decide⟩

end OpenSoar
