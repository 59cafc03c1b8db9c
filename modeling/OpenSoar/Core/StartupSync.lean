/-
# `OpenSoar.Core.StartupSync` — processes that sync their playbooks at the same time

`sync_to_db` runs at the start of the API and before every playbook task.  For each playbook its
session selects the row of that name, and collects a change: an `INSERT` where there is none, an
`UPDATE` where a column differs.  The change is written before the next `SELECT`, the last one
before the `COMMIT`.

Any number of processes do that at once, statement by statement, under READ COMMITTED.  A
statement waits while another process has written under the same name, or to the same row, and has
not ended; where such waits make a circle the database ends one of the processes.  A name that is
committed by then is refused.

So every sync succeeds, and leaves one row of each of its names, exactly where each value fits its
column, no process writes a new row of a name that has been committed since it looked, and no
circle is broken (`syncs_succeed_iff`).
-/
import Mathlib.Algebra.BigOperators.Fin
import Mathlib.Algebra.Order.BigOperators.Group.Finset
import OpenSoar.Core.Registry
import OpenSoar.Lib.Run
import OpenSoar.Lib.Waiting

namespace OpenSoar

open Python Waiting

/-! ## What a session collects -/

/-- The new row of a playbook, or the row that was read and the playbook that it is set from. -/
inductive DefinitionWrite where
  | insert (id : Uuid) (pb : RegisteredPlaybook)
  | update (existing : PlaybookDefinition) (pb : RegisteredPlaybook)

namespace DefinitionWrite

def playbook : DefinitionWrite → RegisteredPlaybook
  | .insert _ pb => pb
  | .update _ pb => pb

/-- The row, when every value fits its column. -/
def row : DefinitionWrite → Except Raised PlaybookDefinition
  | .insert id pb => newDefinition id pb
  | .update existing pb => updateDefinition pb existing

/-- The name of a new row. -/
def inserted? : DefinitionWrite → Option String
  | .insert _ pb => some pb.name
  | .update _ _ => none

/-- Two statements of which the second one waits for the transaction of the first: for one name in
the unique index, or for the lock of one row. -/
def excludes : DefinitionWrite → DefinitionWrite → Bool
  | .insert _ pb, .insert _ pb' => decide (pb.name = pb'.name)
  | .update row _, .update row' _ => decide (row.id = row'.id)
  | _, _ => false

end DefinitionWrite

/-- None of the attributes that `sync_to_db` assigns changes the row. -/
def isUpToDate (pb : RegisteredPlaybook) (existing : PlaybookDefinition) : Bool :=
  decide (existing.modulePath.val = pb.module)
    && decide (existing.functionName.val = pb.functionName)
    && decide (existing.triggerType.map (·.val) = pb.trigger)
    && (Json.obj existing.triggerConfig).pyEq (.obj pb.conditions)
    && decide (existing.description = some pb.description)
    && decide (existing.executionOrder = pb.order)

/-- The columns in which the row differs from the one that was read, set in a row as it is now. -/
def setChanged (existing row current : PlaybookDefinition) : PlaybookDefinition :=
  { current with
    modulePath := if existing.modulePath.val = row.modulePath.val then current.modulePath
      else row.modulePath
    functionName := if existing.functionName.val = row.functionName.val then current.functionName
      else row.functionName
    triggerType := if existing.triggerType.map (·.val) = row.triggerType.map (·.val) then
        current.triggerType
      else row.triggerType
    triggerConfig := if (Json.obj existing.triggerConfig).pyEq (.obj row.triggerConfig) then
        current.triggerConfig
      else row.triggerConfig
    description := if existing.description = row.description then current.description
      else row.description
    executionOrder := if existing.executionOrder = row.executionOrder then current.executionOrder
      else row.executionOrder }

/-- What a write makes of the committed rows. -/
def DefinitionWrite.apply (write : DefinitionWrite) (rows : List PlaybookDefinition) :
    List PlaybookDefinition :=
  match write, write.row with
  | .insert _ _, .ok row => rows ++ [row]
  | .update existing _, .ok row =>
      rows.map (fun current =>
        if current.id = existing.id then setChanged existing row current else current)
  | _, .error _ => rows

/-! ## The processes -/

/-- Where a process is: the playbooks that it has not looked up, and the change that it has
collected and not written. -/
inductive SyncPhase where
  | running (todo : List RegisteredPlaybook) (pending : Option DefinitionWrite)
  | committed
  | failed (e : Raised)

/-- The next statement of a process, or the end of one that waits for itself through others. -/
inductive SyncMove (κ : Type) where
  | next (p : κ)
  | abort (p : κ) (others : List κ)

/-- The committed rows, the processes, and what they have written and not committed. -/
structure SyncState (κ : Type) where
  rows : List PlaybookDefinition
  phase : κ → SyncPhase
  locks : List (κ × DefinitionWrite)

namespace SyncState

variable {κ : Type}

def start (registry : κ → PlaybookRegistry) (table : PlaybookTable) : SyncState κ :=
  ⟨table.rows, fun p => .running (registry p).rows none, []⟩

/-- The names in the table. -/
def names (s : SyncState κ) : List String := s.rows.map (·.name.val)

variable [DecidableEq κ]

def enter (s : SyncState κ) (p : κ) (phase : SyncPhase) : SyncState κ :=
  { s with phase := Function.update s.phase p phase }

/-- What a process has written. -/
def written (s : SyncState κ) (p : κ) : List DefinitionWrite :=
  (s.locks.filter (fun l => l.1 = p)).map (·.2)

/-- The transaction ends, and with it its locks. -/
def release (s : SyncState κ) (p : κ) : SyncState κ :=
  { s with locks := s.locks.filter (fun l => l.1 ≠ p) }

def fail (s : SyncState κ) (p : κ) (e : Raised) : SyncState κ := (s.release p).enter p (.failed e)

/-- Another process holds what the write needs. -/
def blocks (s : SyncState κ) (p : κ) (write : DefinitionWrite) : Bool :=
  s.locks.any (fun l => decide (l.1 ≠ p) && l.2.excludes write)

/-- The process has come to a statement that waits for the other. -/
def waitsFor (s : SyncState κ) (p q : κ) : Bool :=
  match s.phase p with
  | .running _ (some write) =>
      write.row.isOk && s.locks.any
        (fun l => decide (l.1 = q) && decide (q ≠ p) && l.2.excludes write)
  | _ => false

/-- The unique index has the name of the new row. -/
def refuses (s : SyncState κ) (write : DefinitionWrite) : Bool :=
  write.inserted?.any (fun name => s.names.contains name)

/-- `select(PlaybookDefinition).where(name)`, and the change that it leads to. -/
def collect (s : SyncState κ) (id : Uuid) (pb : RegisteredPlaybook) : Option DefinitionWrite :=
  match s.rows.find? (fun row => row.name.val = pb.name) with
  | some existing => if isUpToDate pb existing then none else some (.update existing pb)
  | none => some (.insert id pb)

end SyncState

/-- The statements that a process has before it, at most, and the end of its transaction. -/
def SyncPhase.work : SyncPhase → Nat
  | .running todo pending => 2 * todo.length + pending.toList.length + 1
  | _ => 0

def SyncState.work {κ : Type} [Fintype κ] (s : SyncState κ) : Nat := ∑ p, (s.phase p).work

def duplicateName : Raised :=
  .refusedByDatabase "duplicate key value violates unique constraint uq_playbook_definitions_name"

def deadlockDetected : Raised := .refusedByDatabase "deadlock detected"

section Step

variable {κ : Type} [DecidableEq κ]

/-- The statement of the collected change; `.error` while it has to wait. -/
def SyncState.flush (s : SyncState κ) (p : κ) (todo : List RegisteredPlaybook)
    (write : DefinitionWrite) : Except Unit (SyncState κ) :=
  match write.row with
  | .error e => .ok (s.fail p e)
  | .ok _ =>
      if s.blocks p write then .error ()
      else if s.refuses write then .ok (s.fail p duplicateName)
      else .ok { s.enter p (.running todo none) with locks := s.locks ++ [(p, write)] }

/-- `session.commit()`. -/
def SyncState.commit (s : SyncState κ) (p : κ) : SyncState κ :=
  { (s.release p).enter p .committed with
    rows := (s.written p).foldl (fun rows write => write.apply rows) s.rows }

/-- One step; `.error` when the process has ended or has to wait, or there is no such circle.
`newId` draws the id of a new row. -/
def syncStep (newId : κ → String → Uuid) (s : SyncState κ) :
    SyncMove κ → Except Unit (SyncState κ)
  | .next p =>
      match s.phase p with
      | .running todo (some write) => s.flush p todo write
      | .running (pb :: todo) none =>
          .ok (s.enter p (.running todo (s.collect (newId p pb.name) pb)))
      | .running [] none => .ok (s.commit p)
      | _ => .error ()
  | .abort p others =>
      if Circle (fun a b => s.waitsFor a b = true) p others then .ok (s.fail p deadlockDetected)
      else .error ()

end Step

/-! ## What success is, and when a step fails nobody -/

section Success

variable {κ : Type} [DecidableEq κ] (newId : κ → String → Uuid) (registry : κ → PlaybookRegistry)

/-- No sync has failed; a process that has committed finds one row of each of its names; and once
no process can take a step, all have committed. -/
structure SyncsSucceed (s : SyncState κ) : Prop where
  noError : ∀ p e, s.phase p ≠ .failed e
  oneRow : ∀ p, s.phase p = .committed → ∀ pb ∈ (registry p).rows, s.names.count pb.name = 1
  completes : (∀ move, syncStep newId s move = .error ()) → ∀ p, s.phase p = .committed

/-- A change is written when its values fit and its name is not committed, unless it has to wait;
and no circle is broken. -/
def SyncState.Admits (s : SyncState κ) : SyncMove κ → Prop
  | .next p => ∀ todo write, s.phase p = .running todo (some write) →
      write.row.isOk = true ∧ (s.blocks p write = true ∨ s.refuses write = false)
  | .abort p others => ¬ Circle (fun a b => s.waitsFor a b = true) p others

end Success

/-! ## What a step does -/

section Stepped

variable {κ : Type} [DecidableEq κ] {newId : κ → String → Uuid} {s s' : SyncState κ}

/-- All that a step can do. -/
inductive Synced (newId : κ → String → Uuid) (s : SyncState κ) : SyncMove κ → SyncState κ → Prop
  | selected (p : κ) (pb : RegisteredPlaybook) (todo : List RegisteredPlaybook) :
      s.phase p = .running (pb :: todo) none →
      Synced newId s (.next p) (s.enter p (.running todo (s.collect (newId p pb.name) pb)))
  | flushed (p : κ) (todo : List RegisteredPlaybook) (write : DefinitionWrite)
      (row : PlaybookDefinition) : s.phase p = .running todo (some write) → write.row = .ok row →
      s.blocks p write = false → s.refuses write = false →
      Synced newId s (.next p)
        { s.enter p (.running todo none) with locks := s.locks ++ [(p, write)] }
  | committed (p : κ) : s.phase p = .running [] none → Synced newId s (.next p) (s.commit p)
  | failed (move : SyncMove κ) (p : κ) (todo : List RegisteredPlaybook) (write : DefinitionWrite)
      (e : Raised) : s.phase p = .running todo (some write) → ¬ s.Admits move →
      Synced newId s move (s.fail p e)

/-- Who waits has a statement to make. -/
theorem running_of_waitsFor {p q : κ} (h : s.waitsFor p q = true) :
    ∃ todo write, s.phase p = .running todo (some write) := by
  unfold SyncState.waitsFor at h
  split at h
  · rename_i todo write hphase
    exact ⟨todo, write, hphase⟩
  · cases h

/-- The first wait of a circle is the process's own. -/
theorem running_of_circle {p : κ} {others : List κ}
    (h : Circle (fun a b => s.waitsFor a b = true) p others) :
    ∃ todo write, s.phase p = .running todo (some write) := by
  cases others with
  | nil => exact running_of_waitsFor (List.isChain_cons_cons.mp h).1
  | cons q rest => exact running_of_waitsFor (List.isChain_cons_cons.mp h).1

theorem synced_of_step {move : SyncMove κ} (h : syncStep newId s move = .ok s') :
    Synced newId s move s' := by
  cases move with
  | next p =>
      simp only [syncStep] at h
      split at h
      · rename_i todo write hphase
        unfold SyncState.flush at h
        split at h
        · rename_i e hrow
          cases h
          refine .failed _ p todo write e hphase ?_
          intro hadmits
          have hok := (hadmits todo write hphase).1
          rw [hrow] at hok
          cases hok
        · rename_i row hrow
          split_ifs at h with hblocks hrefuses
          · cases h
            refine .failed _ p todo write _ hphase ?_
            intro hadmits
            rcases (hadmits todo write hphase).2 with hblocked | hfree
            · exact hblocks hblocked
            · cases hrefuses.symm.trans hfree
          · cases h
            rw [Bool.not_eq_true] at hblocks hrefuses
            exact .flushed p todo write row hphase hrow hblocks hrefuses
      · rename_i pb todo hphase
        cases h
        exact .selected p pb todo hphase
      · rename_i hphase
        cases h
        exact .committed p hphase
      · cases h
  | abort p others =>
      simp only [syncStep] at h
      split_ifs at h with hcircle
      cases h
      obtain ⟨todo, write, hphase⟩ := running_of_circle hcircle
      exact .failed _ p todo write _ hphase (fun hadmits => hadmits hcircle)

/-- One process moves on, and has less to do. -/
theorem Synced.moves {move : SyncMove κ} (h : Synced newId s move s') :
    ∃ p phase, s'.phase = Function.update s.phase p phase ∧ phase.work < (s.phase p).work := by
  cases h with
  | selected p pb todo hphase =>
      refine ⟨p, _, rfl, ?_⟩
      rw [hphase]
      have hpending := (s.collect (newId p pb.name) pb).length_toList_le
      simp only [SyncPhase.work, List.length_cons, Option.toList_none, List.length_nil]
      omega
  | flushed p todo write row hphase _ _ _ =>
      refine ⟨p, _, rfl, ?_⟩
      rw [hphase]
      simp [SyncPhase.work]
  | committed p hphase =>
      refine ⟨p, _, rfl, ?_⟩
      rw [hphase]
      simp [SyncPhase.work]
  | failed move p todo write e hphase _ =>
      refine ⟨p, _, rfl, ?_⟩
      rw [hphase]
      simp [SyncPhase.work]

/-- Every step leaves less to do. -/
theorem work_step [Fintype κ] {move : SyncMove κ} (h : syncStep newId s move = .ok s') :
    s'.work < s.work := by
  obtain ⟨p, phase, hphase, hless⟩ := (synced_of_step h).moves
  unfold SyncState.work
  rw [hphase]
  refine Finset.sum_lt_sum (fun q _ => ?_) ⟨p, Finset.mem_univ p, ?_⟩
  · by_cases hq : q = p
    · subst hq
      rw [Function.update_self]
      exact Nat.le_of_lt hless
    · rw [Function.update_of_ne hq]
  · rw [Function.update_self]
    exact hless

end Stepped

/-! ## Names -/

section Names

theorem newDefinition_name {id : Uuid} {pb : RegisteredPlaybook} {row : PlaybookDefinition}
    (h : newDefinition id pb = .ok row) : row.name.val = pb.name := by
  unfold newDefinition at h
  obtain ⟨name, hname, h⟩ := bind_ok h
  obtain ⟨modulePath, -, h⟩ := bind_ok h
  obtain ⟨functionName, -, h⟩ := bind_ok h
  obtain ⟨triggerType, -, h⟩ := bind_ok h
  obtain ⟨executionOrder, -, h⟩ := bind_ok h
  cases h
  exact column_val hname

/-- A write adds the name of a new row, and changes no other. -/
theorem names_apply {write : DefinitionWrite} (h : write.row.isOk = true)
    (rows : List PlaybookDefinition) : (write.apply rows).map (·.name.val) =
      rows.map (·.name.val) ++ write.inserted?.toList := by
  cases hrow : write.row with
  | error e =>
      rw [hrow] at h
      cases h
  | ok row =>
      cases write with
      | insert id pb =>
          have happly : (DefinitionWrite.insert id pb).apply rows = rows ++ [row] := by
            simp only [DefinitionWrite.apply, hrow]
          rw [happly, List.map_append, List.map_singleton, newDefinition_name hrow]
          rfl
      | update existing pb =>
          have happly : (DefinitionWrite.update existing pb).apply rows = rows.map (fun current =>
              if current.id = existing.id then setChanged existing row current else current) := by
            simp only [DefinitionWrite.apply, hrow]
          have hkeeps : ∀ current : PlaybookDefinition,
              (if current.id = existing.id then setChanged existing row current
                else current).name.val = current.name.val := by
            intro current
            split <;> rfl
          rw [happly, List.map_map]
          simp only [Function.comp_def, hkeeps]
          exact (List.append_nil _).symm

theorem names_foldl_apply {writes : List DefinitionWrite} (h : ∀ w ∈ writes, w.row.isOk = true)
    (rows : List PlaybookDefinition) :
    (writes.foldl (fun rows write => write.apply rows) rows).map (·.name.val) =
      rows.map (·.name.val) ++ writes.filterMap (·.inserted?) := by
  induction writes generalizing rows with
  | nil => exact (List.append_nil _).symm
  | cons write writes ih =>
      rw [List.forall_mem_cons] at h
      rw [List.foldl_cons, ih h.2, names_apply h.1, List.append_assoc]
      cases hinserted : write.inserted? with
      | none => simp [hinserted]
      | some name => simp [hinserted]

end Names

/-! ## What holds along a run -/

section Invariant

variable {κ : Type} [DecidableEq κ] {newId : κ → String → Uuid} {registry : κ → PlaybookRegistry}
  {s s' : SyncState κ}

/-- The names that a process has written new rows of. -/
def SyncState.reserved (s : SyncState κ) (p : κ) : List String :=
  (s.written p).filterMap (·.inserted?)

/-- How far a loop has come: the playbooks behind it have their names in the table, or in the rows
that it has written, which are of no other playbook. -/
def Course (playbooks : List RegisteredPlaybook) (names reserved : List String)
    (todo : List RegisteredPlaybook) (pending : Option DefinitionWrite) : Prop :=
  ∃ past, playbooks = past ++ ((pending.map (·.playbook)).toList ++ todo) ∧
    (∀ pb ∈ past, pb.name ∈ names ∨ pb.name ∈ reserved) ∧ reserved ⊆ past.map (·.name) ∧
    ∀ write, pending = some write → write.inserted? = none → write.playbook.name ∈ names

theorem Course.mono {playbooks todo : List RegisteredPlaybook} {names names' reserved : List String}
    {pending : Option DefinitionWrite} (h : Course playbooks names reserved todo pending)
    (hnames : names ⊆ names') : Course playbooks names' reserved todo pending := by
  obtain ⟨past, hsplit, hpast, hreserved, hpending⟩ := h
  exact ⟨past, hsplit, fun pb hpb => (hpast pb hpb).imp_left (fun h => hnames h), hreserved,
    fun write hwrite hnone => hnames (hpending write hwrite hnone)⟩

/-- Where a process stands: on its course, or at its end with all its names in the table. -/
def Stands (playbooks : List RegisteredPlaybook) (names reserved : List String) : SyncPhase → Prop
  | .running todo pending => Course playbooks names reserved todo pending
  | .committed => ∀ pb ∈ playbooks, pb.name ∈ names
  | .failed _ => False

theorem Stands.mono {playbooks : List RegisteredPlaybook} {names names' reserved : List String}
    {phase : SyncPhase} (h : Stands playbooks names reserved phase) (hnames : names ⊆ names') :
    Stands playbooks names' reserved phase := by
  cases phase with
  | running todo pending => exact Course.mono h hnames
  | committed => exact fun pb hpb => hnames (h pb hpb)
  | failed e => exact h

/-- Every process stands; what is locked fits, and is a running process's; and its new names and
those in the table occur once. -/
structure SyncInv (registry : κ → PlaybookRegistry) (s : SyncState κ) : Prop where
  stands : ∀ p, Stands (registry p).rows s.names (s.reserved p) (s.phase p)
  fits : ∀ l ∈ s.locks, l.2.row.isOk = true
  owner : ∀ l ∈ s.locks, ∃ todo pending, s.phase l.1 = .running todo pending
  unique : (s.names ++ s.locks.filterMap (fun l => l.2.inserted?)).Nodup

theorem SyncInv.course {p : κ} {todo : List RegisteredPlaybook} {pending : Option DefinitionWrite}
    (hinv : SyncInv registry s) (h : s.phase p = .running todo pending) :
    Course (registry p).rows s.names (s.reserved p) todo pending := by
  have hstands := hinv.stands p
  rw [h] at hstands
  exact hstands

theorem syncInv_start (table : PlaybookTable) : SyncInv registry (.start registry table) where
  stands p := ⟨[], rfl, fun pb hpb => absurd hpb List.not_mem_nil, List.nil_subset _,
    fun write hwrite => by cases hwrite⟩
  fits l hl := absurd hl List.not_mem_nil
  owner l hl := absurd hl List.not_mem_nil
  unique := by
    show (table.rows.map (fun row : PlaybookDefinition => row.name.val) ++ []).Nodup
    rw [List.append_nil]
    exact table.uniqueNames

/-- One process moves, and the others stand where they stood. -/
theorem SyncInv.stands_of_move {p : κ} {phase : SyncPhase} (hinv : SyncInv registry s)
    (hphase : s'.phase = Function.update s.phase p phase) (hnames : s.names ⊆ s'.names)
    (hreserved : ∀ q, q ≠ p → s'.reserved q = s.reserved q)
    (hself : Stands (registry p).rows s'.names (s'.reserved p) phase) (q : κ) :
    Stands (registry q).rows s'.names (s'.reserved q) (s'.phase q) := by
  by_cases hq : q = p
  · subst hq
    rw [hphase, Function.update_self]
    exact hself
  · rw [hphase, Function.update_of_ne hq, hreserved q hq]
    exact (hinv.stands q).mono hnames

/-- A lock stays a running process's while that process runs on. -/
theorem SyncInv.owner_of_move {p q : κ} {todo : List RegisteredPlaybook}
    {pending : Option DefinitionWrite} (hinv : SyncInv registry s)
    (hq : q = p ∨ ∃ l ∈ s.locks, l.1 = q) : ∃ todo' pending',
      Function.update s.phase p (.running todo pending) q = .running todo' pending' := by
  by_cases hqp : q = p
  · subst hqp
    exact ⟨todo, pending, Function.update_self ..⟩
  · obtain ⟨l, hl, rfl⟩ := hq.resolve_left hqp
    rw [Function.update_of_ne hqp]
    exact hinv.owner l hl

theorem inserted_eq {write : DefinitionWrite} {name : String} (h : write.inserted? = some name) :
    name = write.playbook.name := by
  cases write with
  | insert id pb => exact (Option.some.inj h).symm
  | update existing pb => cases h

omit [DecidableEq κ] in
/-- What a `SELECT` leads to. -/
theorem collect_cases (s : SyncState κ) (id : Uuid) (pb : RegisteredPlaybook) :
    (s.collect id pb = none ∧ pb.name ∈ s.names) ∨
      ∃ write, s.collect id pb = some write ∧ write.playbook = pb ∧
        (write.inserted? = none → pb.name ∈ s.names) := by
  unfold SyncState.collect
  cases hfind : s.rows.find? (fun row => row.name.val = pb.name) with
  | none => exact Or.inr ⟨_, rfl, rfl, fun h => by cases h⟩
  | some existing =>
      have hname : pb.name ∈ s.names := by
        have heq : existing.name.val = pb.name := by simpa using List.find?_some hfind
        rw [← heq]
        exact List.mem_map_of_mem (List.mem_of_find?_eq_some hfind)
      cases huptodate : isUpToDate pb existing with
      | true => exact Or.inl ⟨by simp [huptodate], hname⟩
      | false => exact Or.inr ⟨.update existing pb, by simp [huptodate], rfl, fun _ => hname⟩

omit [DecidableEq κ] in
/-- A `SELECT` keeps to the course. -/
theorem Course.selected {playbooks todo : List RegisteredPlaybook} {pb : RegisteredPlaybook}
    {reserved : List String} (h : Course playbooks s.names reserved (pb :: todo) none) (id : Uuid) :
    Course playbooks s.names reserved todo (s.collect id pb) := by
  obtain ⟨past, hsplit, hpast, hreserved, -⟩ := h
  rcases collect_cases s id pb with ⟨hnone, hname⟩ | ⟨write, hsome, hpb, hname⟩
  · rw [hnone]
    refine ⟨past ++ [pb], by rw [hsplit]; simp, ?_, ?_, fun write hwrite => by cases hwrite⟩
    · intro pb' hpb'
      rcases List.mem_append.mp hpb' with hold | hnew
      · exact hpast pb' hold
      · rw [List.mem_singleton.mp hnew]
        exact Or.inl hname
    · rw [List.map_append]
      exact List.subset_append_of_subset_left _ hreserved
  · rw [hsome]
    refine ⟨past, by rw [hsplit, Option.map_some, hpb]; rfl, hpast, hreserved, ?_⟩
    intro write' hwrite' hnone
    cases hwrite'
    rw [hpb]
    exact hname hnone

/-- So does a statement that goes through. -/
theorem Course.flushed {playbooks todo : List RegisteredPlaybook} {names reserved : List String}
    {write : DefinitionWrite} (h : Course playbooks names reserved todo (some write)) :
    Course playbooks names (reserved ++ write.inserted?.toList) todo none := by
  obtain ⟨past, hsplit, hpast, hreserved, hpending⟩ := h
  refine ⟨past ++ [write.playbook], by rw [hsplit]; simp, ?_, ?_, fun _ h => by cases h⟩
  · intro pb hpb
    rcases List.mem_append.mp hpb with hold | hnew
    · exact (hpast pb hold).imp_right (List.mem_append_left _)
    · rw [List.mem_singleton.mp hnew]
      cases hname : write.inserted? with
      | none => exact Or.inl (hpending write rfl hname)
      | some name =>
          rw [← inserted_eq hname]
          exact Or.inr (by simp)
  · rw [List.map_append]
    cases hname : write.inserted? with
    | none => simpa using List.subset_append_of_subset_left _ hreserved
    | some name =>
        refine List.append_subset.mpr ⟨List.subset_append_of_subset_left _ hreserved, ?_⟩
        rw [inserted_eq hname]
        exact List.subset_append_right _ _

omit [DecidableEq κ] in
theorem refuses_eq_true {write : DefinitionWrite} : s.refuses write = true ↔
    ∃ name, write.inserted? = some name ∧ name ∈ s.names := by
  unfold SyncState.refuses
  cases write.inserted? with
  | none => simp
  | some name => simp

/-- A process that writes, beside those that have written. -/
theorem reserved_append {p q : κ} {write : DefinitionWrite} {phase : κ → SyncPhase} :
    SyncState.reserved { s with phase := phase, locks := s.locks ++ [(p, write)] } q =
      if q = p then s.reserved q ++ write.inserted?.toList else s.reserved q := by
  unfold SyncState.reserved SyncState.written
  rw [List.filter_append, List.map_append, List.filterMap_append]
  by_cases hq : q = p
  · subst hq
    cases hname : write.inserted? <;> simp [hname]
  · have hpq : p ≠ q := fun h => hq h.symm
    simp [hq, hpq]

theorem reserved_release {p q : κ} {rows : List PlaybookDefinition} {phase : κ → SyncPhase}
    (hq : q ≠ p) : SyncState.reserved { s.release p with rows := rows, phase := phase } q =
      s.reserved q := by
  unfold SyncState.reserved SyncState.written SyncState.release
  rw [List.filter_filter]
  congr 2
  refine List.filter_congr (fun l _ => ?_)
  by_cases hl : l.1 = q
  · simp [hl, hq]
  · simp [hl]

/-- The name of a new row that is neither refused nor waited for is no one's. -/
theorem SyncInv.fresh {p : κ} {todo : List RegisteredPlaybook} {write : DefinitionWrite}
    {name : String} (hinv : SyncInv registry s) (hphase : s.phase p = .running todo (some write))
    (hname : write.inserted? = some name) (hblocks : s.blocks p write = false)
    (hrefuses : s.refuses write = false) :
    name ∉ s.names ++ s.locks.filterMap (fun l => l.2.inserted?) := by
  rw [List.mem_append, not_or]
  constructor
  · intro hmem
    have hrefused := refuses_eq_true.mpr ⟨name, hname, hmem⟩
    cases hrefuses.symm.trans hrefused
  · intro hmem
    obtain ⟨⟨q, other⟩, hlock, hother⟩ := List.mem_filterMap.mp hmem
    by_cases hq : q = p
    · -- the process's own new rows are of playbooks before this one
      subst hq
      obtain ⟨past, hsplit, -, hreserved, -⟩ := hinv.course hphase
      have hpast : name ∈ past.map (·.name) := by
        refine hreserved (List.mem_filterMap.mpr ⟨other, ?_, hother⟩)
        exact List.mem_map.mpr ⟨(q, other), by simp [hlock], rfl⟩
      have hnodup := (registry q).nodup
      rw [hsplit, List.map_append, List.nodup_append] at hnodup
      exact hnodup.2.2 name hpast name (by simp [inserted_eq hname]) rfl
    · have hexcludes : other.excludes write = true := by
        cases other with
        | update existing pb => cases hother
        | insert id pb =>
            cases write with
            | update existing pb' => cases hname
            | insert id' pb' =>
                cases hother
                exact decide_eq_true (Option.some.inj hname).symm
      have hblocked : s.blocks p write = true :=
        List.any_eq_true.mpr ⟨(q, other), hlock, by simp [hq, hexcludes]⟩
      cases hblocks.symm.trans hblocked

theorem SyncInv.selected {p : κ} {pb : RegisteredPlaybook} {todo : List RegisteredPlaybook}
    (hinv : SyncInv registry s) (hphase : s.phase p = .running (pb :: todo) none) (id : Uuid) :
    SyncInv registry (s.enter p (.running todo (s.collect id pb))) := by
  refine ⟨?_, hinv.fits, fun l hl => hinv.owner_of_move (Or.inr ⟨l, hl, rfl⟩), hinv.unique⟩
  refine hinv.stands_of_move rfl (List.Subset.refl _) (fun _ _ => rfl) ?_
  exact (hinv.course hphase).selected id

theorem SyncInv.flushed {p : κ} {todo : List RegisteredPlaybook} {write : DefinitionWrite}
    {row : PlaybookDefinition} (hinv : SyncInv registry s)
    (hphase : s.phase p = .running todo (some write)) (hrow : write.row = .ok row)
    (hblocks : s.blocks p write = false) (hrefuses : s.refuses write = false) :
    SyncInv registry { s.enter p (.running todo none) with locks := s.locks ++ [(p, write)] } := by
  refine ⟨?_, fun l hl => ?_, fun l hl => ?_, ?_⟩
  · refine hinv.stands_of_move rfl (List.Subset.refl _) (fun q hq => ?_) ?_
    · exact reserved_append.trans (if_neg hq)
    · have hown : SyncState.reserved
          { s.enter p (.running todo none) with locks := s.locks ++ [(p, write)] } p =
            s.reserved p ++ write.inserted?.toList := reserved_append.trans (if_pos rfl)
      rw [hown]
      exact (hinv.course hphase).flushed
  · rcases List.mem_append.mp hl with hold | hnew
    · exact hinv.fits l hold
    · rw [List.mem_singleton.mp hnew, hrow]
      rfl
  · refine hinv.owner_of_move ?_
    rcases List.mem_append.mp hl with hold | hnew
    · exact Or.inr ⟨l, hold, rfl⟩
    · exact Or.inl (by rw [List.mem_singleton.mp hnew])
  · -- the new row is of a name that nobody has
    show (s.names ++ (s.locks ++ [(p, write)]).filterMap (fun l => l.2.inserted?)).Nodup
    rw [List.filterMap_append, ← List.append_assoc]
    cases hname : write.inserted? with
    | none =>
        have hnil : [(p, write)].filterMap (fun l => l.2.inserted?) = [] := by simp [hname]
        rw [hnil, List.append_nil]
        exact hinv.unique
    | some name =>
        have hone : [(p, write)].filterMap (fun l => l.2.inserted?) = [name] := by simp [hname]
        rw [hone, ← List.concat_eq_append]
        exact hinv.unique.concat (hinv.fresh hphase hname hblocks hrefuses)

/-- The names after a commit. -/
theorem names_commit {p : κ} (hfits : ∀ l ∈ s.locks, l.2.row.isOk = true) :
    (s.commit p).names = s.names ++ s.reserved p := by
  refine names_foldl_apply (fun write hwrite => ?_) s.rows
  obtain ⟨l, hl, rfl⟩ := List.mem_map.mp hwrite
  exact hfits l (List.mem_of_mem_filter hl)

/-- A commit turns the new names of the process into names of the table. -/
theorem SyncInv.committed {p : κ} (hinv : SyncInv registry s)
    (hphase : s.phase p = .running [] none) : SyncInv registry (s.commit p) := by
  have hnames := names_commit (p := p) hinv.fits
  refine ⟨?_, fun l hl => hinv.fits l (List.mem_of_mem_filter hl), fun l hl => ?_, ?_⟩
  · refine hinv.stands_of_move rfl ?_ (fun q hq => reserved_release hq) ?_
    · rw [hnames]
      exact List.subset_append_left _ _
    · obtain ⟨past, hsplit, hpast, -, -⟩ := hinv.course hphase
      intro pb hpb
      rw [hsplit, Option.map_none, Option.toList_none, List.append_nil, List.append_nil] at hpb
      rw [hnames]
      exact List.mem_append.mpr (hpast pb hpb)
  · obtain ⟨hl, hne⟩ := List.mem_filter.mp hl
    obtain ⟨todo, pending, hrunning⟩ := hinv.owner l hl
    exact ⟨todo, pending, by
      rw [← hrunning]
      exact Function.update_of_ne (of_decide_eq_true hne) ..⟩
  · rw [hnames, List.append_assoc]
    refine (List.Perm.nodup_iff (List.Perm.append_left s.names ?_)).mpr hinv.unique
    -- the locks of the process and those of the others are all
    have hothers : (s.commit p).locks = s.locks.filter (fun l => !decide (l.1 = p)) := by
      show s.locks.filter (fun l => decide (l.1 ≠ p)) = _
      simp only [ne_eq, decide_not]
    have hsplit := (List.filter_append_perm (fun l : κ × DefinitionWrite => decide (l.1 = p))
      s.locks).filterMap (fun l => l.2.inserted?)
    rw [List.filterMap_append, ← hothers] at hsplit
    have hown : s.reserved p = (s.locks.filter (fun l => decide (l.1 = p))).filterMap
        (fun l => l.2.inserted?) := by
      unfold SyncState.reserved SyncState.written
      rw [List.filterMap_map]
      rfl
    rw [hown]
    exact hsplit

theorem syncInv_step {move : SyncMove κ} (hinv : SyncInv registry s) (hadmits : s.Admits move)
    (h : syncStep newId s move = .ok s') : SyncInv registry s' := by
  cases synced_of_step h with
  | selected p pb todo hphase => exact hinv.selected hphase _
  | flushed p todo write row hphase hrow hblocks hrefuses =>
      exact hinv.flushed hphase hrow hblocks hrefuses
  | committed p hphase => exact hinv.committed hphase
  | failed _ p todo write e hphase hrefused => exact absurd hadmits hrefused

/-- A process that cannot go on waits for one that has not ended. -/
theorem SyncInv.waits {p : κ} {todo : List RegisteredPlaybook} {pending : Option DefinitionWrite}
    (hinv : SyncInv registry s) (hphase : s.phase p = .running todo pending)
    (hstuck : syncStep newId s (.next p) = .error ()) :
    ∃ q, (∃ todo pending, s.phase q = .running todo pending) ∧ s.waitsFor p q = true := by
  simp only [syncStep, hphase] at hstuck
  cases pending with
  | none => cases todo <;> cases hstuck
  | some write =>
      simp only [SyncState.flush] at hstuck
      split at hstuck
      · cases hstuck
      · rename_i row hrow
        split_ifs at hstuck with hblocks hrefuses
        obtain ⟨l, hl, hholds⟩ := List.any_eq_true.mp hblocks
        rw [Bool.and_eq_true, decide_eq_true_eq] at hholds
        refine ⟨l.1, hinv.owner l hl, ?_⟩
        simp only [SyncState.waitsFor, hphase, hrow]
        rw [Bool.and_eq_true]
        exact ⟨rfl, List.any_eq_true.mpr ⟨l, hl, by simp [hholds.1, hholds.2]⟩⟩

/-- Where the invariant holds, the syncs succeed. -/
theorem SyncInv.succeed [Finite κ] (hinv : SyncInv registry s) :
    SyncsSucceed newId registry s := by
  have hnoError : ∀ p e, s.phase p ≠ .failed e := by
    intro p e hfailed
    have hstands := hinv.stands p
    rw [hfailed] at hstands
    exact hstands
  refine ⟨hnoError, fun p hcommitted pb hpb => ?_, fun hstuck p => ?_⟩
  · have hstands := hinv.stands p
    rw [hcommitted] at hstands
    exact List.count_eq_one_of_mem (List.nodup_append.mp hinv.unique).1 (hstands pb hpb)
  · cases hphase : s.phase p with
    | committed => rfl
    | failed e => exact absurd hphase (hnoError p e)
    | running todo pending =>
        -- everyone who runs waits for another, so there is a circle, which could be broken
        have hwaits : ∀ q, (∃ todo pending, s.phase q = .running todo pending) →
            ∃ r, (∃ todo pending, s.phase r = .running todo pending) ∧ s.waitsFor q r = true := by
          rintro q ⟨todo, pending, hq⟩
          exact hinv.waits hq (hstuck (.next q))
        obtain ⟨q, others, hcircle⟩ := exists_circle hwaits ⟨todo, pending, hphase⟩
        have habort := hstuck (.abort q others)
        simp only [syncStep, if_pos hcircle] at habort
        cases habort

/-- A step after which the syncs still succeed was admitted. -/
theorem admits_of_succeed {move : SyncMove κ}
    (h : SyncsSucceed newId registry (attempt (syncStep newId) s move)) : s.Admits move := by
  by_contra hrefused
  have hfails : ∃ p e, syncStep newId s move = .ok (s.fail p e) := by
    cases move with
    | next p =>
        simp only [SyncState.Admits] at hrefused
        push Not at hrefused
        obtain ⟨todo, write, hphase, hno⟩ := hrefused
        simp only [syncStep, hphase, SyncState.flush]
        cases hrow : write.row with
        | error e => exact ⟨p, e, rfl⟩
        | ok row =>
            obtain ⟨hblocks, hrefuses⟩ := hno (by rw [hrow]; rfl)
            rw [ne_eq, Bool.not_eq_true] at hblocks
            rw [ne_eq, Bool.not_eq_false] at hrefuses
            exact ⟨p, duplicateName, by simp [hblocks, hrefuses]⟩
    | abort p others =>
        simp only [SyncState.Admits, not_not] at hrefused
        exact ⟨p, deadlockDetected, by simp only [syncStep, if_pos hrefused]⟩
  obtain ⟨p, e, hstep⟩ := hfails
  rw [attempt_ok (syncStep newId) hstep] at h
  exact h.noError p e (Function.update_self ..)

end Invariant

/-- **Syncs at the same time.**  Whatever the registries of the processes, the table they start
from and the order of their statements, all syncs go through without an error and leave one row
of each of their names, throughout the run, if and only if every step of it is admitted; and no
run has more steps than there is work. -/
theorem syncs_succeed_iff {κ : Type} [DecidableEq κ] [Fintype κ] (newId : κ → String → Uuid)
    (registry : κ → PlaybookRegistry) (table : PlaybookTable) (moves : List (SyncMove κ)) :
    ((∀ n, SyncsSucceed newId registry
        (run (syncStep newId) (.start registry table) (moves.take n))) ↔
      Along (syncStep newId) SyncState.Admits (.start registry table) moves) ∧
    (trace (syncStep newId) (.start registry table) moves).length ≤
      (SyncState.start registry table).work := by
  refine ⟨?_, length_trace_le (syncStep newId) (fun _ _ _ h => work_step h) moves _⟩
  refine throughout_iff_of_inv (syncStep newId) (I := SyncInv registry) ?_ ?_ ?_ moves _
    (syncInv_start table)
  · exact fun s hinv => hinv.succeed
  · exact fun s move s' hinv hadmits h => syncInv_step hinv hadmits h
  · exact fun s move _ hsucceed => admits_of_succeed hsucceed

/-! ## Nothing new -/

section UpToDate

variable {κ : Type} [DecidableEq κ] {newId : κ → String → Uuid} {registry : κ → PlaybookRegistry}
  {table : PlaybookTable} {s : SyncState κ}

/-- Nothing has been collected, written or changed. -/
structure Idle (registry : κ → PlaybookRegistry) (table : PlaybookTable) (s : SyncState κ) :
    Prop where
  rows : s.rows = table.rows
  locks : s.locks = []
  phase : ∀ p, (∃ todo, todo ⊆ (registry p).rows ∧ s.phase p = .running todo none) ∨
    s.phase p = .committed

omit [DecidableEq κ] in
theorem Idle.no_pending {p : κ} {todo : List RegisteredPlaybook} {write : DefinitionWrite}
    (h : Idle registry table s) : s.phase p ≠ .running todo (some write) := by
  intro hphase
  rcases h.phase p with ⟨todo', -, hrunning⟩ | hcommitted
  · cases hrunning.symm.trans hphase
  · cases hcommitted.symm.trans hphase

theorem Idle.admits (h : Idle registry table s) (move : SyncMove κ) : s.Admits move := by
  cases move with
  | next p => exact fun todo write hphase => absurd hphase h.no_pending
  | abort p others =>
      intro hcircle
      obtain ⟨todo, write, hphase⟩ := running_of_circle hcircle
      exact h.no_pending hphase

theorem Idle.phase_of_move {p : κ} {phase : SyncPhase} (h : Idle registry table s)
    (hself : (∃ todo, todo ⊆ (registry p).rows ∧ phase = .running todo none) ∨ phase = .committed)
    (q : κ) : (∃ todo, todo ⊆ (registry q).rows ∧
      Function.update s.phase p phase q = .running todo none) ∨
        Function.update s.phase p phase q = .committed := by
  by_cases hq : q = p
  · subst hq
    rw [Function.update_self]
    exact hself
  · rw [Function.update_of_ne hq]
    exact h.phase q

theorem Idle.step (h : Idle registry table s)
    (huptodate : ∀ p, ∀ pb ∈ (registry p).rows,
      ∃ row, table.named? pb.name = some row ∧ isUpToDate pb row = true)
    {move : SyncMove κ} {s' : SyncState κ} (hstep : syncStep newId s move = .ok s') :
    Idle registry table s' := by
  cases synced_of_step hstep with
  | selected p pb todo hphase =>
      refine ⟨h.rows, h.locks, h.phase_of_move ?_⟩
      rcases h.phase p with ⟨todo', hsubset, hrunning⟩ | hcommitted
      · cases hphase.symm.trans hrunning
        obtain ⟨hpb, hrest⟩ := List.cons_subset.mp hsubset
        obtain ⟨row, hrow, hcurrent⟩ := huptodate p pb hpb
        have hfind : s.rows.find? (fun row => row.name.val = pb.name) = some row := by
          rw [h.rows]
          exact hrow
        have hcollect : s.collect (newId p pb.name) pb = none := by
          simp [SyncState.collect, hfind, hcurrent]
        rw [hcollect]
        exact Or.inl ⟨todo, hrest, rfl⟩
      · cases hphase.symm.trans hcommitted
  | flushed p todo write row hphase _ _ _ => exact absurd hphase h.no_pending
  | committed p hphase =>
      refine ⟨?_, ?_, h.phase_of_move (Or.inr rfl)⟩
      · have hnone : s.written p = [] := by
          rw [SyncState.written, h.locks]
          rfl
        show (s.written p).foldl _ s.rows = _
        rw [hnone]
        exact h.rows
      · show s.locks.filter _ = []
        rw [h.locks]
        rfl
  | failed _ p todo write e hphase _ => exact absurd hphase h.no_pending

/-- **Nothing new.**  Processes whose playbooks all have rows that are up to date never fail each
other. -/
theorem upToDate_admits (huptodate : ∀ p, ∀ pb ∈ (registry p).rows,
      ∃ row, table.named? pb.name = some row ∧ isUpToDate pb row = true)
    (moves : List (SyncMove κ)) :
    Along (syncStep newId) SyncState.Admits (.start registry table) moves := by
  refine Along.imp (syncStep newId) (I := Idle registry table) (C := fun _ _ => True) ?_ ?_ moves _
    ?_ (along_of_forall _ (fun _ _ _ => trivial) _)
  · exact fun s move h _ => attempt_inv _ h (fun s' hstep => h.step huptodate hstep)
  · exact fun s move h _ => h.admits move
  · exact ⟨rfl, rfl, fun p => Or.inl ⟨_, List.Subset.refl _, rfl⟩⟩

end UpToDate

/-- A playbook that no table has. -/
def newPlaybook : RegisteredPlaybook where
  name := "triage"
  trigger := some "webhook"
  conditions := []
  description := ""
  enabled := true
  order := 1000
  priority := "default"
  functionName := "triage"
  func _ _ db := .ok (db, .success)
  module := "playbooks.triage"

/-- Two processes look the new playbook up; the first adds its row and commits, and then the
second adds it. -/
theorem second_sync_is_refused : ¬ ∀ (registry : Fin 2 → PlaybookRegistry) (table : PlaybookTable)
    (moves : List (SyncMove (Fin 2))) (n : Nat), SyncsSucceed (fun p _ => p.val) registry
      (run (syncStep (fun p _ => p.val)) (.start registry table) (moves.take n)) := by
  intro h
  have hsucceed := h (fun _ => .clearAndReload [newPlaybook]) .empty
    [.next 0, .next 1, .next 0, .next 0, .next 1] 5
  exact hsucceed.noError 1 duplicateName rfl

end OpenSoar
