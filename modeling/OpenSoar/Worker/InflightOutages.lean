/-
# `OpenSoar.Worker.InflightOutages` — the in-flight slot while Redis comes and goes

`_mark_inflight` and `_clear_inflight` of `worker/enrichment.py` once more, in several worker
processes and over a Redis that need not be there.  A process without a client, or whose command
fails, answers from a dict of its own, `_memory_inflight`; a command that failed may have taken
effect all the same.

A key is then set in several places, in Redis and in each process, and no place knows of the
others.  While a slot is not cleared, a claim is granted exactly when no claim before it has
reached the place that answers it, so one slot is claimed once in Redis and once in each
process at most (`claims_during_outages`).
-/
import Mathlib.Data.List.Nodup
import Mathlib.Data.List.Perm.Subperm
import Mathlib.Data.List.Range
import OpenSoar.Worker.Inflight

namespace OpenSoar

open Expiring

/-- How a call gets on with Redis: `_get_redis_client` returns `None`, or the command is answered,
or it raises an exception that is caught, having taken effect or not. -/
inductive RedisAccess where
  | noClient
  | answered
  | failed (applied : Bool)
  deriving DecidableEq

/-- The command takes effect in Redis. -/
def RedisAccess.applied : RedisAccess → Bool
  | .noClient => false
  | .answered => true
  | .failed applied => applied

inductive InflightOp where
  | mark
  | clear
  deriving DecidableEq

/-- A call of `_mark_inflight` or `_clear_inflight` in a process, at a time. -/
structure InflightCall where
  process : Nat
  access : RedisAccess
  now : Nat
  op : InflightOp
  slot : InflightSlot
  deriving DecidableEq

/-- The keys in Redis, and `_memory_inflight` of each process. -/
structure InflightStores where
  redis : Keys String
  memory : Nat → Keys String

def InflightStores.empty : InflightStores := ⟨fun _ => none, fun _ _ => none⟩

/-- `_memory_inflight` without its stale entries. -/
def withoutStale (memory : Keys String) (now : Nat) : Keys String :=
  fun key => (memory key).filter (fun expires => decide (now < expires))

/-- The fallback of `_mark_inflight`. -/
def markInMemory (memory : Keys String) (slot : InflightSlot) (now : Nat) : Bool × Keys String :=
  let memory := withoutStale memory now
  if (memory slot.key).isSome then (false, memory)
  else (true, Function.update memory slot.key (some (now + inflightTtl)))

/-- `_mark_inflight`: whether the slot was claimed, and the stores after it. -/
def InflightStores.mark (s : InflightStores) (process : Nat) (access : RedisAccess)
    (slot : InflightSlot) (now : Nat) : Bool × InflightStores :=
  let (claimed, redis) := markInflight s.redis slot now
  match access with
  | .answered => (claimed, { s with redis := redis })
  | access =>
      let (claimed, memory) := markInMemory (s.memory process) slot now
      (claimed, ⟨if access.applied then redis else s.redis,
        Function.update s.memory process memory⟩)

/-- `_clear_inflight`: the own entry goes, whatever becomes of the one in Redis. -/
def InflightStores.clear (s : InflightStores) (process : Nat) (access : RedisAccess)
    (slot : InflightSlot) : InflightStores where
  redis := if access.applied then clearInflight s.redis slot else s.redis
  memory := Function.update s.memory process (delete (s.memory process) slot.key)

/-- One call: the answer, when there is one, and the stores after it. -/
def inflightCall (s : InflightStores) (call : InflightCall) : Option Bool × InflightStores :=
  match call.op with
  | .mark =>
      let (claimed, s) := s.mark call.process call.access call.slot call.now
      (some claimed, s)
  | .clear => (none, s.clear call.process call.access call.slot)

/-- The stores after the calls. -/
def afterCalls (s : InflightStores) (calls : List InflightCall) : InflightStores :=
  calls.foldl (fun s call => (inflightCall s call).2) s

/-! ## Places -/

/-- Where a key can be: in Redis, or in the memory of a process. -/
inductive Place where
  | redis
  | memory (process : Nat)
  deriving DecidableEq

/-- The keys of a place. -/
def InflightStores.keysAt (s : InflightStores) : Place → Keys String
  | .redis => s.redis
  | .memory process => s.memory process

/-- Whether a place can give the key away at this time. -/
def Place.gives (place : Place) (keys : Keys String) (key : String) (now : Nat) : Bool :=
  match place with
  | .redis => !live keys key now
  | .memory _ => (withoutStale keys now key).isNone

/-- The keys of a place after a mark that comes to it. -/
def Place.marked (place : Place) (keys : Keys String) (slot : InflightSlot) (now : Nat) :
    Keys String :=
  match place with
  | .redis => (markInflight keys slot now).2
  | .memory _ => (markInMemory keys slot now).2

/-- The place that answers a call. -/
def InflightCall.place (call : InflightCall) : Place :=
  if call.access = .answered then .redis else .memory call.process

/-- The call comes to the place: the place answers it, or it is Redis, where a command has taken
effect whose answer was lost. -/
def InflightCall.ComesTo (call : InflightCall) (place : Place) : Prop :=
  place = call.place ∨ place = .redis ∧ call.access.applied = true

/-- The call asks for the key. -/
def InflightCall.Marks (call : InflightCall) (key : String) : Prop :=
  call.op = .mark ∧ call.slot.key = key

instance (call : InflightCall) (key : String) : Decidable (call.Marks key) :=
  inferInstanceAs (Decidable (_ ∧ _))

/-- A call in the time of one claim that does not clear the key. -/
structure InWindow (key : String) (start : Nat) (call : InflightCall) : Prop where
  after : start ≤ call.now
  before : call.now < start + inflightTtl
  keeps : call.op = .clear → call.slot.key ≠ key

/-- An entry that expires then is over from this time on: Redis keeps a key at the moment of its
expiry, the fallback drops it. -/
def Place.Over (place : Place) (expires start : Nat) : Prop :=
  match place with
  | .redis => expires < start
  | .memory _ => expires ≤ start

/-- The place has no entry for the key that is not over. -/
def KeyFree (place : Place) (keys : Keys String) (key : String) (start : Nat) : Prop :=
  ∀ expires, keys key = some expires → place.Over expires start

/-- The entry for the key outlasts the window. -/
def KeyTaken (keys : Keys String) (key : String) (start : Nat) : Prop :=
  ∃ expires, keys key = some expires ∧ start + inflightTtl ≤ expires

/-- The places that grant a claim of the key, in order. -/
def grants (key : String) : InflightStores → List InflightCall → List Place
  | _, [] => []
  | s, call :: calls =>
      if call.Marks key ∧ (inflightCall s call).1 = some true then
        call.place :: grants key (inflightCall s call).2 calls
      else grants key (inflightCall s call).2 calls

/-! ## What a mark does to a place -/

section Place

variable {place : Place} {keys : Keys String} {key : String} {slot : InflightSlot} {start now : Nat}

theorem gives_of_free (h : KeyFree place keys key start) (hnow : start ≤ now) :
    place.gives keys key now = true := by
  cases hkey : keys key with
  | none => cases place <;> simp [Place.gives, live, withoutStale, hkey]
  | some expires =>
      have hover := h expires hkey
      cases place with
      | redis =>
          have hlt : expires < start := hover
          simp [Place.gives, live, hkey]
          omega
      | memory process =>
          have hle : expires ≤ start := hover
          simp [Place.gives, withoutStale, hkey]
          omega

theorem not_gives_of_taken (h : KeyTaken keys key start) (hnow : now < start + inflightTtl) :
    place.gives keys key now = false := by
  obtain ⟨expires, hkey, hlasts⟩ := h
  cases place with
  | redis =>
      simp [Place.gives, live, hkey]
      omega
  | memory process =>
      simp [Place.gives, withoutStale, hkey]
      omega

/-- A place that gives the key away keeps it for the time of a claim. -/
theorem marked_gives (h : place.gives keys slot.key now = true) :
    place.marked keys slot now slot.key = some (now + inflightTtl) := by
  cases place with
  | redis =>
      have hfree : live keys slot.key now = false := by
        simpa [Place.gives] using h
      show (setNx keys slot.key inflightTtl now).2 slot.key = _
      rw [setNx_free hfree]
      exact Function.update_self _ _ _
  | memory process =>
      have hnone : ¬ (withoutStale keys now slot.key).isSome = true := by
        simpa [Place.gives] using h
      simp only [Place.marked, markInMemory]
      rw [if_neg hnone]
      exact Function.update_self _ _ _

/-- A place that does not give a key away, or is asked for another one, drops it at most. -/
theorem marked_kept (h : slot.key = key → place.gives keys key now = false) :
    place.marked keys slot now key = keys key ∨
      place.marked keys slot now key = withoutStale keys now key := by
  cases place with
  | redis =>
      refine Or.inl ?_
      show (setNx keys slot.key inflightTtl now).2 key = _
      cases hlive : live keys slot.key now with
      | true => rw [setNx_live hlive]
      | false =>
          rw [setNx_free hlive]
          refine Function.update_of_ne (fun hsame => ?_) _ _
          have hgives := h hsame.symm
          rw [hsame] at hgives
          simp [Place.gives, hlive] at hgives
  | memory process =>
      refine Or.inr ?_
      simp only [Place.marked, markInMemory]
      split
      · rfl
      · rename_i hnone
        refine Function.update_of_ne (fun hsame => ?_) _ _
        have hgives := h hsame.symm
        rw [hsame] at hgives
        simp [Place.gives] at hgives
        exact hnone (by simp [hgives])

theorem KeyTaken.withoutStale (h : KeyTaken keys key start) (hnow : now < start + inflightTtl) :
    withoutStale keys now key = keys key := by
  obtain ⟨expires, hkey, hlasts⟩ := h
  simp only [OpenSoar.withoutStale, hkey]
  exact Option.filter_eq_some_iff.mpr ⟨rfl, decide_eq_true (by omega)⟩

/-- What is taken stays taken. -/
theorem KeyTaken.marked (h : KeyTaken keys key start) (hnow : now < start + inflightTtl) :
    KeyTaken (place.marked keys slot now) key start := by
  have hsame : place.marked keys slot now key = keys key := by
    have hrefused : place.gives keys key now = false := not_gives_of_taken h hnow
    rcases marked_kept (fun _ : slot.key = key => hrefused) with hkept | hkept
    · exact hkept
    · exact hkept.trans (h.withoutStale hnow)
  obtain ⟨expires, hkey, hlasts⟩ := h
  exact ⟨expires, hsame.trans hkey, hlasts⟩

theorem KeyFree.marked (h : KeyFree place keys key start) (hkey : slot.key ≠ key) :
    KeyFree place (place.marked keys slot now) key start := by
  intro expires hexpires
  have hother : slot.key = key → place.gives keys key now = false := fun hsame => absurd hsame hkey
  rcases marked_kept hother with hkept | hkept
  · exact h expires (hkept.symm.trans hexpires)
  · have hfilter : (keys key).filter (fun expires => decide (now < expires)) = some expires :=
      hkept.symm.trans hexpires
    exact h expires (Option.filter_eq_some_iff.mp hfilter).1

theorem KeyFree.taken (h : KeyFree place keys slot.key start) (hnow : start ≤ now) :
    KeyTaken (place.marked keys slot now) slot.key start :=
  ⟨now + inflightTtl, marked_gives (gives_of_free h hnow), by omega⟩

end Place

/-! ## What a call does to the places -/

section Call

variable {s : InflightStores} {call : InflightCall} {place : Place} {key : String} {start : Nat}

/-- The keys of a place after a call. -/
inductive PlaceAfter (call : InflightCall) (place : Place) (keys keys' : Keys String) : Prop
  | aside : ¬ (call.op = .mark ∧ call.ComesTo place) → keys' = keys →
      PlaceAfter call place keys keys'
  | marked : call.op = .mark → call.ComesTo place → keys' = place.marked keys call.slot call.now →
      PlaceAfter call place keys keys'
  | cleared : call.op = .clear → keys' = delete keys call.slot.key →
      PlaceAfter call place keys keys'

theorem inflightCall_place (s : InflightStores) (call : InflightCall) (place : Place) :
    PlaceAfter call place (s.keysAt place) ((inflightCall s call).2.keysAt place) := by
  obtain ⟨process, access, now, op, slot⟩ := call
  cases op with
  | clear =>
      cases place with
      | redis =>
          cases happlied : access.applied with
          | true => exact .cleared rfl (if_pos happlied)
          | false => exact .aside (by simp) (if_neg (by rw [happlied]; decide))
      | memory other =>
          by_cases hother : other = process
          · subst hother
            exact .cleared rfl (Function.update_self _ _ _)
          · exact .aside (by simp) (Function.update_of_ne hother _ _)
  | mark =>
      by_cases hanswered : access = .answered
      · subst hanswered
        cases place with
        | redis => exact .marked rfl (Or.inl rfl) rfl
        | memory other => exact .aside (by simp [InflightCall.ComesTo, InflightCall.place]) rfl
      · have hstores : (s.mark process access slot now).2 =
            ⟨if access.applied then (markInflight s.redis slot now).2 else s.redis,
              Function.update s.memory process (markInMemory (s.memory process) slot now).2⟩ := by
          cases access with
          | answered => exact absurd rfl hanswered
          | noClient => rfl
          | failed applied => rfl
        show PlaceAfter _ place _ ((s.mark process access slot now).2.keysAt place)
        rw [hstores]
        cases place with
        | redis =>
            cases happlied : access.applied with
            | true => exact .marked rfl (Or.inr ⟨rfl, happlied⟩) rfl
            | false =>
                refine .aside ?_ rfl
                simp [InflightCall.ComesTo, InflightCall.place, hanswered, happlied]
        | memory other =>
            by_cases hother : other = process
            · subst hother
              refine .marked rfl (Or.inl ?_) (Function.update_self _ _ _)
              simp [InflightCall.place, hanswered]
            · refine .aside ?_ (Function.update_of_ne hother _ _)
              simp [InflightCall.ComesTo, InflightCall.place, hanswered, hother]

/-- The place of a mark answers it. -/
theorem inflightCall_answer (hmark : call.op = .mark) :
    (inflightCall s call).1 =
      some (call.place.gives (s.keysAt call.place) call.slot.key call.now) := by
  obtain ⟨process, access, now, op, slot⟩ := call
  cases hmark
  have hmemory : some (markInMemory (s.memory process) slot now).1 =
      some ((Place.memory process).gives (s.memory process) slot.key now) := by
    simp only [markInMemory, Place.gives]
    cases withoutStale (s.memory process) now slot.key <;> rfl
  cases access with
  | answered =>
      show some (setNx s.redis slot.key inflightTtl now).1 = some (!live s.redis slot.key now)
      cases hlive : live s.redis slot.key now with
      | true => rw [setNx_live hlive]; rfl
      | false => rw [setNx_free hlive]; rfl
  | noClient => exact hmemory
  | failed applied => exact hmemory

/-! ## A window without a clear -/

theorem taken_after (hcall : InWindow key start call) (h : KeyTaken (s.keysAt place) key start) :
    KeyTaken ((inflightCall s call).2.keysAt place) key start := by
  cases inflightCall_place s call place with
  | aside _ hkeys => rw [hkeys]; exact h
  | marked _ _ hkeys => rw [hkeys]; exact h.marked hcall.before
  | cleared hclear hkeys =>
      rw [hkeys]
      obtain ⟨expires, hkey, hlasts⟩ := h
      exact ⟨expires, (Function.update_of_ne (hcall.keeps hclear).symm _ _).trans hkey, hlasts⟩

theorem free_after (hcall : InWindow key start call) (h : KeyFree place (s.keysAt place) key start)
    (haside : ¬ (call.Marks key ∧ call.ComesTo place)) :
    KeyFree place ((inflightCall s call).2.keysAt place) key start := by
  cases inflightCall_place s call place with
  | aside _ hkeys => rw [hkeys]; exact h
  | marked hmark hcomes hkeys =>
      rw [hkeys]
      exact h.marked (fun hkey => haside ⟨⟨hmark, hkey⟩, hcomes⟩)
  | cleared hclear hkeys =>
      rw [hkeys]
      intro expires hexpires
      exact h expires ((Function.update_of_ne (hcall.keeps hclear).symm _ _).symm.trans hexpires)

theorem taken_of_mark (hcall : InWindow key start call)
    (h : KeyFree place (s.keysAt place) key start)
    (hmark : call.Marks key) (hcomes : call.ComesTo place) :
    KeyTaken ((inflightCall s call).2.keysAt place) key start := by
  obtain ⟨hop, rfl⟩ := hmark
  cases inflightCall_place s call place with
  | aside haside _ => exact absurd ⟨hop, hcomes⟩ haside
  | marked _ _ hkeys => rw [hkeys]; exact h.taken hcall.after
  | cleared hclear _ => cases hop.symm.trans hclear

/-- In the window a place is taken when a claim has come to it, and free otherwise. -/
theorem place_after (hfree : ∀ place, KeyFree place (s.keysAt place) key start)
    {calls : List InflightCall} (hcalls : ∀ call ∈ calls, InWindow key start call)
    (place : Place) :
    ((∃ call ∈ calls, call.Marks key ∧ call.ComesTo place) →
      KeyTaken ((afterCalls s calls).keysAt place) key start) ∧
    ((∀ call ∈ calls, ¬ (call.Marks key ∧ call.ComesTo place)) →
      KeyFree place ((afterCalls s calls).keysAt place) key start) := by
  induction calls using List.reverseRecOn with
  | nil => exact ⟨fun ⟨_, hmem, _⟩ => (List.not_mem_nil hmem).elim, fun _ => hfree place⟩
  | append_singleton calls call ih =>
      have hcall := hcalls call (by simp)
      obtain ⟨htaken, hfree'⟩ := ih (fun call hmem => hcalls call (by simp [hmem]))
      have hafter :
        afterCalls s (calls ++ [call]) = (inflightCall (afterCalls s calls) call).2 := by
        simp [afterCalls]
      rw [hafter]
      constructor
      · rintro ⟨other, hmem, hmarks, hcomes⟩
        by_cases hearlier : ∃ call ∈ calls, call.Marks key ∧ call.ComesTo place
        · exact taken_after hcall (htaken hearlier)
        · have hlast : other = call := by
            rcases List.mem_append.mp hmem with hold | hnew
            · exact absurd ⟨other, hold, hmarks, hcomes⟩ hearlier
            · exact List.mem_singleton.mp hnew
          subst hlast
          refine taken_of_mark hcall (hfree' (fun call hmem hboth => ?_)) hmarks hcomes
          exact hearlier ⟨call, hmem, hboth⟩
      · intro hnone
        exact free_after hcall (hfree' (fun call hmem => hnone call (by simp [hmem])))
          (hnone call (by simp))

/-- Which claims are granted: the first that comes to a place. -/
theorem granted_iff (hfree : ∀ place, KeyFree place (s.keysAt place) key start)
    {before : List InflightCall} (hbefore : ∀ call ∈ before, InWindow key start call)
    (hcall : InWindow key start call) (hmarks : call.Marks key) :
    (inflightCall (afterCalls s before) call).1 = some true ↔
      ∀ earlier ∈ before, ¬ (earlier.Marks key ∧ earlier.ComesTo call.place) := by
  obtain ⟨htaken, hstill⟩ := place_after hfree hbefore call.place
  rw [inflightCall_answer hmarks.1, hmarks.2, Option.some_inj]
  constructor
  · intro hgives earlier hmem hboth
    exact Bool.false_ne_true
      ((not_gives_of_taken (htaken ⟨earlier, hmem, hboth⟩) hcall.before).symm.trans hgives)
  · exact fun hnone => gives_of_free (hstill hnone) hcall.after

/-- No place grants two claims of the window. -/
theorem grants_nodup {calls : List InflightCall} (hcalls : ∀ call ∈ calls, InWindow key start call)
    (hplaces : ∀ place, KeyFree place (s.keysAt place) key start ∨
      KeyTaken (s.keysAt place) key start) :
    (grants key s calls).Nodup ∧
      ∀ place ∈ grants key s calls, ¬ KeyTaken (s.keysAt place) key start := by
  induction calls generalizing s with
  | nil => exact ⟨List.nodup_nil, fun _ hmem => (List.not_mem_nil hmem).elim⟩
  | cons call calls ih =>
      have hcall := hcalls call List.mem_cons_self
      have hnext : ∀ place, KeyFree place ((inflightCall s call).2.keysAt place) key start ∨
          KeyTaken ((inflightCall s call).2.keysAt place) key start := by
        intro place
        rcases hplaces place with hfree | htaken
        · by_cases hboth : call.Marks key ∧ call.ComesTo place
          · exact Or.inr (taken_of_mark hcall hfree hboth.1 hboth.2)
          · exact Or.inl (free_after hcall hfree hboth)
        · exact Or.inr (taken_after hcall htaken)
      obtain ⟨hnodup, hrest⟩ :=
        ih (fun call hmem => hcalls call (List.mem_cons_of_mem _ hmem)) hnext
      have hfresh : ∀ place ∈ grants key (inflightCall s call).2 calls,
          ¬ KeyTaken (s.keysAt place) key start :=
        fun place hmem htaken => hrest place hmem (taken_after hcall htaken)
      rw [grants]
      split
      · rename_i hgranted
        obtain ⟨hmarks, hanswer⟩ := hgranted
        have hgives : call.place.gives (s.keysAt call.place) key call.now = true := by
          rw [inflightCall_answer hmarks.1, hmarks.2] at hanswer
          exact Option.some_inj.mp hanswer
        have hnotTaken : ¬ KeyTaken (s.keysAt call.place) key start := fun htaken =>
          Bool.false_ne_true ((not_gives_of_taken htaken hcall.before).symm.trans hgives)
        have hfree := (hplaces call.place).resolve_right hnotTaken
        refine ⟨List.nodup_cons.mpr ⟨fun hmem => ?_, hnodup⟩, ?_⟩
        · exact hrest _ hmem (taken_of_mark hcall hfree hmarks (Or.inl rfl))
        · rintro place (_ | ⟨_, hmem⟩)
          · exact hnotTaken
          · exact hfresh place hmem
      · exact ⟨hnodup, hfresh⟩

theorem place_of_grant {place : Place} {calls : List InflightCall}
    (h : place ∈ grants key s calls) : ∃ call ∈ calls, call.place = place := by
  induction calls generalizing s with
  | nil => exact (List.not_mem_nil h).elim
  | cons call calls ih =>
      rw [grants] at h
      split at h
      · rcases List.mem_cons.mp h with rfl | hmem
        · exact ⟨call, List.mem_cons_self, rfl⟩
        · obtain ⟨other, hother, hplace⟩ := ih hmem
          exact ⟨other, List.mem_cons_of_mem _ hother, hplace⟩
      · obtain ⟨other, hother, hplace⟩ := ih h
        exact ⟨other, List.mem_cons_of_mem _ hother, hplace⟩

end Call

/-- **Claims during outages.**  In every order of calls in any number of processes, through every
outage of Redis, as long as the time of one claim lasts and nobody clears the slot: a claim is
granted exactly when no claim before it came to the place that answers it, so that the slot is
claimed once more than there are processes, at most. -/
theorem claims_during_outages {s : InflightStores} {key : String} {start : Nat}
    (hfree : ∀ place, KeyFree place (s.keysAt place) key start) {calls : List InflightCall}
    (hcalls : ∀ call ∈ calls, InWindow key start call) :
    (∀ before call after, calls = before ++ call :: after → call.Marks key →
      ((inflightCall (afterCalls s before) call).1 = some true ↔
        ∀ earlier ∈ before, ¬ (earlier.Marks key ∧ earlier.ComesTo call.place))) ∧
    ∀ processes, (∀ call ∈ calls, call.process < processes) →
      (grants key s calls).length ≤ processes + 1 := by
  constructor
  · rintro before call after rfl hmarks
    exact granted_iff hfree (fun earlier hmem => hcalls earlier (by simp [hmem]))
      (hcalls call (by simp)) hmarks
  · intro processes hprocesses
    have hnodup := (grants_nodup hcalls (fun place => Or.inl (hfree place))).1
    have hsub : grants key s calls ⊆ .redis :: (List.range processes).map .memory := by
      intro place hmem
      obtain ⟨call, hcall, rfl⟩ := place_of_grant hmem
      unfold InflightCall.place
      split
      · exact List.mem_cons_self
      · exact List.mem_cons_of_mem _ (List.mem_map_of_mem
          (List.mem_range.mpr (hprocesses call hcall)))
    have hlength := (hnodup.subperm hsub).length_le
    simpa using hlength

/-- One process claims the slot of an observable in Redis, another one when Redis has gone, the
first one once more, and again when Redis is back. -/
def claimsOfTwo : List InflightCall :=
  let slot : InflightSlot := ⟨"ip", "203.0.113.9", none⟩
  [⟨0, .answered, 0, .mark, slot⟩, ⟨1, .failed false, 5, .mark, slot⟩,
    ⟨0, .noClient, 9, .mark, slot⟩, ⟨0, .answered, 12, .mark, slot⟩]

/-- Two processes claim one slot three times within its time, and no order of calls has it claimed
more often. -/
theorem claims_of_two_processes :
    (grants (InflightSlot.key ⟨"ip", "203.0.113.9", none⟩) .empty claimsOfTwo).length = 2 + 1 := by
  have hfree : ∀ place : Place, KeyFree place (InflightStores.empty.keysAt place)
      (InflightSlot.key ⟨"ip", "203.0.113.9", none⟩) 0 := by
    intro place expires h
    cases place <;> cases h
  have hcalls : ∀ call ∈ claimsOfTwo,
      InWindow (InflightSlot.key ⟨"ip", "203.0.113.9", none⟩) 0 call := by
    intro call hcall
    have htimes : call.now < 0 + inflightTtl ∧ call.op = .mark := by
      revert call
      decide
    refine ⟨Nat.zero_le _, htimes.1, fun hclear => ?_⟩
    cases htimes.2.symm.trans hclear
  refine Nat.le_antisymm ?_ (by decide)
  exact (claims_during_outages hfree hcalls).2 2 (by decide)

end OpenSoar
