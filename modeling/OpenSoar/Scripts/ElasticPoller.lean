/-
# `OpenSoar.Scripts.ElasticPoller` — the poller that forwards Elasticsearch events

Each poll asks for the events stamped after `last_timestamp`, at most a hundred of them in the
order of their stamps, and sends them one after another.  The cursor moves to the stamp of every
event the loop goes past: one that was sent, and one whose sending raised `URLError`.  Any other
exception ends the page and leaves the cursor where it is.

The search answers with any page that the query allows, so ties may come in any order and fall
to either side of the page's end.  An event is lost once the cursor has reached its stamp before
it was accepted, and it stays lost; `poller_delivers_iff` says when that happens.
-/
import OpenSoar.Lib.Run
import Mathlib.Order.Defs.LinearOrder
import Mathlib.Data.List.Nodup
import Mathlib.Data.String.Basic

namespace OpenSoar

universe u

/-- An event of the index; stamps of one sortable format compare as texts and as dates alike. -/
structure ElasticEvent (τ : Type u) where
  id : String
  timestamp : τ
deriving DecidableEq

/-- What came of `send_to_soar`, and of an exception whether the server took the event. -/
inductive SendOutcome where
  | returned
  | urlError (accepted : Bool)
  | otherException (accepted : Bool)
deriving DecidableEq

def SendOutcome.accepted : SendOutcome → Bool
  | .returned => true
  | .urlError accepted => accepted
  | .otherException accepted => accepted

/-- The exception leaves the loop over the page. -/
def SendOutcome.endsPage : SendOutcome → Bool
  | .otherException _ => true
  | _ => false

/-- The hits of a page, each with what comes of sending it. -/
abbrev Page (τ : Type u) := List (ElasticEvent τ × SendOutcome)

structure Poller (τ : Type u) where
  start : τ
  lastTimestamp : τ
  index : List (ElasticEvent τ)
  accepted : List (ElasticEvent τ)

def Poller.initial {τ : Type u} (start : τ) : Poller τ := ⟨start, start, [], []⟩

/-- An event becomes searchable; a poll finds a page; a poll's search fails. -/
inductive PollerEvent (τ : Type u) where
  | indexed (event : ElasticEvent τ)
  | polled (page : Page τ)
  | searchFailed

section Poller

variable {τ : Type u} [LinearOrder τ]

/-- The hits of the query: `"@timestamp": {"gt": last_timestamp}`. -/
def Poller.hits (s : Poller τ) : List (ElasticEvent τ) :=
  s.index.filter (fun event => s.lastTimestamp < event.timestamp)

/-- A page the search may answer with: hits in the order of their stamps, as many as there are
up to a hundred, and none that comes before is left out. -/
structure IsPage (s : Poller τ) (found : List (ElasticEvent τ)) : Prop where
  hits : ∀ event ∈ found, event ∈ s.hits
  distinct : found.Nodup
  size : found.length = min 100 s.hits.length
  ascending : found.Pairwise (fun event event' => event.timestamp ≤ event'.timestamp)
  earliest : ∀ event ∈ s.hits, event ∉ found → ∀ event' ∈ found, event'.timestamp ≤ event.timestamp

instance (s : Poller τ) (found : List (ElasticEvent τ)) : Decidable (IsPage s found) :=
  decidable_of_iff
    ((∀ event ∈ found, event ∈ s.hits) ∧ found.Nodup ∧ found.length = min 100 s.hits.length ∧
      found.Pairwise (fun event event' => event.timestamp ≤ event'.timestamp) ∧
      ∀ event ∈ s.hits, event ∉ found → ∀ event' ∈ found, event'.timestamp ≤ event.timestamp)
    ⟨fun ⟨h₁, h₂, h₃, h₄, h₅⟩ => ⟨h₁, h₂, h₃, h₄, h₅⟩,
      fun h => ⟨h.hits, h.distinct, h.size, h.ascending, h.earliest⟩⟩

/-- The loop over a page: the cursor and the accepted events after it. -/
def forward : τ → List (ElasticEvent τ) → Page τ → τ × List (ElasticEvent τ)
  | lastTimestamp, accepted, [] => (lastTimestamp, accepted)
  | lastTimestamp, accepted, (event, outcome) :: page =>
      let accepted := if outcome.accepted then accepted ++ [event] else accepted
      if outcome.endsPage then (lastTimestamp, accepted)
      else
        forward (if lastTimestamp < event.timestamp then event.timestamp else lastTimestamp)
          accepted page

/-- One event; an event is indexed once, and a page answers the query. -/
def pollerStep (s : Poller τ) : PollerEvent τ → Except Unit (Poller τ)
  | .indexed event =>
      if event ∈ s.index then .error () else .ok { s with index := s.index ++ [event] }
  | .polled page =>
      if IsPage s (page.map Prod.fst) then
        let sent := forward s.lastTimestamp s.accepted page
        .ok { s with lastTimestamp := sent.1, accepted := sent.2 }
      else .error ()
  | .searchFailed => .ok s

/-- Every event stamped after the start has been accepted, or the next search is for events
before it still. -/
def DeliversAll (s : Poller τ) : Prop :=
  ∀ event ∈ s.index, s.start < event.timestamp →
    event ∈ s.accepted ∨ s.lastTimestamp < event.timestamp

/-- The hits that are sent, to the one that ends the page. -/
def tried : Page τ → Page τ
  | [] => []
  | hit :: page => hit :: if hit.2.endsPage then [] else tried page

/-- The hits the loop goes past. -/
def passed (page : Page τ) : Page τ := page.takeWhile (fun hit => !hit.2.endsPage)

/-! ## The loop over a page -/

omit [LinearOrder τ] in
theorem tried_subset (page : Page τ) : ∀ hit ∈ tried page, hit ∈ page := by
  induction page with
  | nil => exact fun hit h => h
  | cons first page ih =>
      intro hit h
      rcases List.mem_cons.mp h with rfl | h
      · exact List.mem_cons_self
      · split at h
        · cases h
        · exact List.mem_cons_of_mem _ (ih hit h)

omit [LinearOrder τ] in
/-- A hit that is tried is gone past, unless it ends the page. -/
theorem mem_passed_iff {page : Page τ} {hit : ElasticEvent τ × SendOutcome} :
    hit ∈ passed page ↔ hit ∈ tried page ∧ hit.2.endsPage = false := by
  induction page with
  | nil => simp [passed, tried]
  | cons first page ih =>
      unfold passed at ih ⊢
      cases hends : first.2.endsPage with
      | true =>
          rw [List.takeWhile_cons_of_neg (by simp [hends]), tried, if_pos hends]
          refine iff_of_false List.not_mem_nil ?_
          rintro ⟨hmem, hnot⟩
          rw [List.mem_singleton.mp hmem, hends] at hnot
          cases hnot
      | false =>
          rw [List.takeWhile_cons_of_pos (by simp [hends]), tried, hends, if_neg Bool.false_ne_true,
            List.mem_cons, List.mem_cons, ih]
          constructor
          · rintro (rfl | h)
            · exact ⟨Or.inl rfl, hends⟩
            · exact ⟨Or.inr h.1, h.2⟩
          · rintro ⟨rfl | h, hnot⟩
            · exact Or.inl rfl
            · exact Or.inr ⟨h, hnot⟩

/-- The cursor is the latest of where it was and the stamps the loop went past. -/
theorem lt_forward_iff (page : Page τ) (t : τ) (accepted : List (ElasticEvent τ)) (last : τ) :
    (forward last accepted page).1 < t ↔ last < t ∧ ∀ hit ∈ passed page, hit.1.timestamp < t := by
  induction page generalizing last accepted with
  | nil => simp [forward, passed]
  | cons first page ih =>
      obtain ⟨event, outcome⟩ := first
      by_cases hends : outcome.endsPage = true
      · simp [forward, passed, hends]
      · have hpassed : passed ((event, outcome) :: page) = (event, outcome) :: passed page := by
          simp [passed, hends]
        rw [forward, if_neg hends, ih, hpassed, List.forall_mem_cons, ← and_assoc]
        refine and_congr_left (fun _ => ?_)
        split
        next hlt => exact ⟨fun h => ⟨lt_trans hlt h, h⟩, fun h => h.2⟩
        next hle => exact ⟨fun h => ⟨h, lt_of_le_of_lt (not_lt.mp hle) h⟩, fun h => h.1⟩

/-- What is accepted after a page was accepted before, or by one of its sends. -/
theorem mem_forward_iff (page : Page τ) (event : ElasticEvent τ)
    (accepted : List (ElasticEvent τ)) (last : τ) :
    event ∈ (forward last accepted page).2 ↔
      event ∈ accepted ∨ ∃ outcome, (event, outcome) ∈ tried page ∧ outcome.accepted = true := by
  induction page generalizing last accepted with
  | nil => simp [forward, tried]
  | cons first page ih =>
      obtain ⟨first, outcome⟩ := first
      have hfirst : event ∈ (if outcome.accepted then accepted ++ [first] else accepted) ↔
          event ∈ accepted ∨ (event = first ∧ outcome.accepted = true) := by
        split
        next h => simp [h]
        next h => simp [h]
      by_cases hends : outcome.endsPage = true
      · rw [forward, if_pos hends, hfirst, tried, if_pos hends]
        refine or_congr_right ?_
        constructor
        · rintro ⟨rfl, h⟩
          exact ⟨outcome, List.mem_cons_self, h⟩
        · rintro ⟨outcome', hmem, h⟩
          obtain ⟨rfl, rfl⟩ := Prod.mk.inj (List.mem_singleton.mp hmem)
          exact ⟨rfl, h⟩
      · rw [forward, if_neg hends, ih, hfirst, tried, if_neg hends, or_assoc]
        refine or_congr_right ?_
        constructor
        · rintro (⟨rfl, h⟩ | ⟨outcome', hmem, h⟩)
          · exact ⟨outcome, List.mem_cons_self, h⟩
          · exact ⟨outcome', List.mem_cons_of_mem _ hmem, h⟩
        · rintro ⟨outcome', hmem, h⟩
          rcases List.mem_cons.mp hmem with heq | hmem
          · obtain ⟨rfl, rfl⟩ := Prod.mk.inj heq
            exact Or.inl ⟨rfl, h⟩
          · exact Or.inr ⟨outcome', hmem, h⟩

/-- No hit comes before one the loop went past, unless the loop went past it too. -/
theorem IsPage.passed_le {s : Poller τ} {page : Page τ} (h : IsPage s (page.map Prod.fst))
    {hit : ElasticEvent τ × SendOutcome} (hhit : hit ∈ passed page) {event : ElasticEvent τ}
    (hevent : event ∈ s.hits) (hnot : ∀ outcome, (event, outcome) ∉ passed page) :
    hit.1.timestamp ≤ event.timestamp := by
  by_cases hfound : event ∈ page.map Prod.fst
  · have hsplit : page = passed page ++ page.dropWhile (fun hit => !hit.2.endsPage) :=
      List.takeWhile_append_dropWhile.symm
    have hascending := h.ascending
    rw [hsplit, List.map_append, List.pairwise_append] at hascending
    obtain ⟨found, hmem, rfl⟩ := List.mem_map.mp hfound
    rw [hsplit] at hmem
    rcases List.mem_append.mp hmem with hmem | hmem
    · exact absurd hmem (hnot found.2)
    · exact hascending.2.2 _ (List.mem_map_of_mem hhit) _ (List.mem_map_of_mem hmem)
  · have hpage : hit ∈ page := tried_subset page hit (mem_passed_iff.mp hhit).1
    exact h.earliest event hevent hfound hit.1 (List.mem_map_of_mem hpage)

/-- A page holds an event once, and so one outcome of it. -/
theorem IsPage.outcome_unique {s : Poller τ} {page : Page τ} (h : IsPage s (page.map Prod.fst))
    {event : ElasticEvent τ} {outcome outcome' : SendOutcome} (hmem : (event, outcome) ∈ page)
    (hmem' : (event, outcome') ∈ page) : outcome = outcome' := by
  have heq := List.inj_on_of_nodup_map h.distinct hmem hmem' rfl
  exact congrArg Prod.snd heq

/-! ## When an event is left behind -/

/-- An event becomes searchable while the cursor is still before its stamp; and a poll goes past
an event only if it is accepted, now or before, and past a stamp only if no event of that stamp
is left, neither after the page nor behind a send that ended it. -/
def LeavesNoneBehind (s : Poller τ) : PollerEvent τ → Prop
  | .indexed event =>
      event ∉ s.index → s.start < event.timestamp → s.lastTimestamp < event.timestamp
  | .polled page =>
      IsPage s (page.map Prod.fst) → ∀ hit ∈ passed page,
        (hit.2.accepted = true ∨ hit.1 ∈ s.accepted) ∧
        ∀ event ∈ s.index, event.timestamp = hit.1.timestamp →
          event ∈ s.accepted ∨
            ∃ outcome, (event, outcome) ∈ tried page ∧
              (outcome.endsPage = true → outcome.accepted = true)
  | .searchFailed => True

variable {s s' : Poller τ}

theorem mem_hits {event : ElasticEvent τ} :
    event ∈ s.hits ↔ event ∈ s.index ∧ s.lastTimestamp < event.timestamp := by
  simp [Poller.hits]

theorem polled_eq {page : Page τ} (hpage : IsPage s (page.map Prod.fst)) :
    pollerStep s (.polled page) =
      .ok { s with
        lastTimestamp := (forward s.lastTimestamp s.accepted page).1
        accepted := (forward s.lastTimestamp s.accepted page).2 } := by
  simp [pollerStep, hpage]

/-- A poll after which everything is delivered left nothing behind. -/
theorem leavesNoneBehind_of_forward {page : Page τ} (hpage : IsPage s (page.map Prod.fst))
    (hstart : s.start ≤ s.lastTimestamp)
    (h : ∀ event ∈ s.index, s.start < event.timestamp →
      event ∈ (forward s.lastTimestamp s.accepted page).2 ∨
        (forward s.lastTimestamp s.accepted page).1 < event.timestamp) :
    LeavesNoneBehind s (.polled page) := by
  intro _ hit hhit
  obtain ⟨htried, -⟩ := mem_passed_iff.mp hhit
  have hfound : hit.1 ∈ s.index ∧ s.lastTimestamp < hit.1.timestamp :=
    mem_hits.mp (hpage.hits hit.1 (List.mem_map_of_mem (tried_subset page hit htried)))
  -- What has the stamp of a hit the cursor is past is accepted.
  have haccepted : ∀ event ∈ s.index, event.timestamp = hit.1.timestamp →
      event ∈ s.accepted ∨
        ∃ outcome, (event, outcome) ∈ tried page ∧ outcome.accepted = true := by
    intro event hevent hstamp
    have hafter : s.lastTimestamp < event.timestamp := by
      rw [hstamp]
      exact hfound.2
    rcases h event hevent (lt_of_le_of_lt hstart hafter) with hmem | hlt
    · exact (mem_forward_iff page event s.accepted s.lastTimestamp).mp hmem
    · have hpast := (lt_forward_iff page event.timestamp s.accepted s.lastTimestamp).mp hlt
      exact absurd (hpast.2 hit hhit) (by rw [hstamp]; exact lt_irrefl _)
  refine ⟨?_, ?_⟩
  · rcases haccepted hit.1 hfound.1 rfl with hmem | ⟨outcome, hmem, houtcome⟩
    · exact Or.inr hmem
    · have hsame : outcome = hit.2 := hpage.outcome_unique
        (tried_subset page _ hmem) (tried_subset page hit htried)
      rw [hsame] at houtcome
      exact Or.inl houtcome
  · intro event hevent hstamp
    refine (haccepted event hevent hstamp).imp_right ?_
    rintro ⟨outcome, hmem, houtcome⟩
    exact ⟨outcome, hmem, fun _ => houtcome⟩

/-- An event that the cursor goes past, or to, is accepted if the poll leaves nothing behind. -/
theorem accepted_of_passed {page : Page τ} (hpage : IsPage s (page.map Prod.fst))
    (hcond : LeavesNoneBehind s (.polled page)) {event : ElasticEvent τ} (hevent : event ∈ s.hits)
    {hit : ElasticEvent τ × SendOutcome} (hhit : hit ∈ passed page)
    (hle : event.timestamp ≤ hit.1.timestamp) :
    event ∈ s.accepted ∨ ∃ outcome, (event, outcome) ∈ tried page ∧ outcome.accepted = true := by
  by_cases hself : ∃ outcome, (event, outcome) ∈ passed page
  · obtain ⟨outcome, hself⟩ := hself
    rcases (hcond hpage _ hself).1 with houtcome | hmem
    · exact Or.inr ⟨outcome, (mem_passed_iff.mp hself).1, houtcome⟩
    · exact Or.inl hmem
  · have hge := hpage.passed_le hhit hevent (fun outcome hmem => hself ⟨outcome, hmem⟩)
    refine ((hcond hpage hit hhit).2 event (mem_hits.mp hevent).1
      (le_antisymm hle hge)).imp_right ?_
    rintro ⟨outcome, hmem, houtcome⟩
    refine ⟨outcome, hmem, ?_⟩
    cases hends : outcome.endsPage with
    | true => exact houtcome hends
    | false => exact absurd ⟨outcome, mem_passed_iff.mpr ⟨hmem, hends⟩⟩ hself

/-- **One poll.** -/
theorem deliversAll_polled {page : Page τ} (hpage : IsPage s (page.map Prod.fst))
    (hstart : s.start ≤ s.lastTimestamp) (h : DeliversAll s)
    (hstep : pollerStep s (.polled page) = .ok s') :
    DeliversAll s' ↔ LeavesNoneBehind s (.polled page) := by
  rw [polled_eq hpage] at hstep
  cases hstep
  constructor
  · exact leavesNoneBehind_of_forward hpage hstart
  · intro hcond event hevent hlate
    rcases h event hevent hlate with hmem | hafter
    · exact Or.inl ((mem_forward_iff page event _ _).mpr (Or.inl hmem))
    · by_cases hpast : ∃ hit ∈ passed page, event.timestamp ≤ hit.1.timestamp
      · obtain ⟨hit, hhit, hle⟩ := hpast
        exact Or.inl ((mem_forward_iff page event _ _).mpr
          (accepted_of_passed hpage hcond (mem_hits.mpr ⟨hevent, hafter⟩) hhit hle))
      · right
        refine (lt_forward_iff page event.timestamp s.accepted s.lastTimestamp).mpr ⟨hafter, ?_⟩
        intro hit hhit
        exact not_le.mp (fun hle => hpast ⟨hit, hhit, hle⟩)

/-- The cursor is never before the start, and only what is indexed was accepted. -/
structure Poller.Sound (s : Poller τ) : Prop where
  started : s.start ≤ s.lastTimestamp
  accepted : ∀ event ∈ s.accepted, event ∈ s.index

/-- What is accepted after a step is searchable before it, and cannot be a new event. -/
theorem sound_step {o : PollerEvent τ} (h : s.Sound) (hstep : pollerStep s o = .ok s') :
    s'.Sound := by
  cases o with
  | indexed event =>
      simp only [pollerStep] at hstep
      split at hstep
      · cases hstep
      · cases hstep
        exact ⟨h.started, fun event' hmem => List.mem_append_left _ (h.accepted event' hmem)⟩
  | polled page =>
      by_cases hpage : IsPage s (page.map Prod.fst)
      · rw [polled_eq hpage] at hstep
        cases hstep
        refine ⟨le_trans h.started (not_lt.mp ?_), ?_⟩
        · intro hlt
          exact lt_irrefl _ ((lt_forward_iff page s.lastTimestamp s.accepted _).mp hlt).1
        · intro event hmem
          rcases (mem_forward_iff page event _ _).mp hmem with hmem | ⟨outcome, hmem, -⟩
          · exact h.accepted event hmem
          · exact (mem_hits.mp (hpage.hits event
              (List.mem_map_of_mem (tried_subset page _ hmem)))).1
      · simp [pollerStep, hpage] at hstep
  | searchFailed =>
      cases hstep
      exact h

/-- **One step.** -/
theorem deliversAll_step {o : PollerEvent τ} (hsound : s.Sound) (h : DeliversAll s) :
    DeliversAll (attempt pollerStep s o) ↔ LeavesNoneBehind s o := by
  cases o with
  | indexed event =>
      by_cases hnew : event ∈ s.index
      · have hsame : attempt pollerStep s (.indexed event) = s :=
          attempt_error (e := ()) pollerStep (if_pos hnew)
        rw [hsame]
        exact iff_of_true h (fun habsent => absurd hnew habsent)
      · have hnext : attempt pollerStep s (.indexed event) =
            { s with index := s.index ++ [event] } := attempt_ok pollerStep (if_neg hnew)
        rw [hnext]
        constructor
        · intro hall _ hlate
          rcases hall event (List.mem_append_right _ (List.mem_singleton_self _)) hlate with
            hmem | hafter
          · exact absurd (hsound.accepted event hmem) hnew
          · exact hafter
        · intro hcond event' hmem hlate
          rcases List.mem_append.mp hmem with hmem | hmem
          · exact h event' hmem hlate
          · rw [List.mem_singleton.mp hmem] at hlate ⊢
            exact Or.inr (hcond hnew hlate)
  | polled page =>
      by_cases hpage : IsPage s (page.map Prod.fst)
      · have hstep := polled_eq hpage
        rw [attempt_ok pollerStep hstep]
        exact deliversAll_polled hpage hsound.started h hstep
      · have hsame : attempt pollerStep s (.polled page) = s :=
          attempt_error (e := ()) pollerStep (if_neg hpage)
        rw [hsame]
        exact iff_of_true h (fun h => absurd h hpage)
  | searchFailed => exact iff_of_true h trivial

/-- **An event that is lost stays lost.** -/
theorem deliversAll_before {o : PollerEvent τ} (h : DeliversAll (attempt pollerStep s o)) :
    DeliversAll s := by
  intro event hevent hlate
  cases hstep : pollerStep s o with
  | error e =>
      rw [attempt_error pollerStep hstep] at h
      exact h event hevent hlate
  | ok s' =>
      rw [attempt_ok pollerStep hstep] at h
      cases o with
      | indexed new =>
          simp only [pollerStep] at hstep
          split at hstep
          · cases hstep
          · cases hstep
            exact h event (List.mem_append_left _ hevent) hlate
      | polled page =>
          by_cases hpage : IsPage s (page.map Prod.fst)
          · rw [polled_eq hpage] at hstep
            cases hstep
            rcases h event hevent hlate with hmem | hafter
            · rcases (mem_forward_iff page event _ _).mp hmem with hmem | ⟨outcome, hmem, -⟩
              · exact Or.inl hmem
              · exact Or.inr (mem_hits.mp (hpage.hits event
                  (List.mem_map_of_mem (tried_subset page _ hmem)))).2
            · exact Or.inr ((lt_forward_iff page event.timestamp s.accepted _).mp hafter).1
          · simp [pollerStep, hpage] at hstep
      | searchFailed =>
          cases hstep
          exact h event hevent hlate

theorem deliversAll_of_run (os : List (PollerEvent τ)) (s : Poller τ)
    (h : DeliversAll (run pollerStep s os)) : DeliversAll s := by
  induction os generalizing s with
  | nil => exact h
  | cons o os ih => exact deliversAll_before (ih _ h)

theorem deliversAll_run (os : List (PollerEvent τ)) (s : Poller τ) (hsound : s.Sound)
    (h : DeliversAll s) :
    DeliversAll (run pollerStep s os) ↔ Along pollerStep LeavesNoneBehind s os := by
  induction os generalizing s with
  | nil => exact iff_of_true h trivial
  | cons o os ih =>
      have hnext : (attempt pollerStep s o).Sound :=
        attempt_inv pollerStep hsound (fun _ hstep => sound_step hsound hstep)
      have hiff := @deliversAll_step τ _ s o hsound h
      constructor
      · intro hrun
        have hnow := deliversAll_of_run os _ hrun
        exact ⟨hiff.mp hnow, (ih _ hnext hnow).mp hrun⟩
      · rintro ⟨hnow, hrest⟩
        exact (ih _ hnext (hiff.mpr hnow)).mpr hrest

/-- **When the poller delivers at least once.**  Over every run, each event stamped after the
start is accepted or still ahead of the cursor if and only if no step leaves one behind. -/
theorem poller_delivers_iff (start : τ) (events : List (PollerEvent τ)) :
    DeliversAll (run pollerStep (.initial start) events) ↔
      Along pollerStep LeavesNoneBehind (.initial start) events :=
  have hsound : (Poller.initial start).Sound :=
    ⟨le_refl start, fun _ hmem => absurd hmem List.not_mem_nil⟩
  have hdelivers : DeliversAll (Poller.initial start) :=
    fun _ hmem => absurd hmem List.not_mem_nil
  deliversAll_run events _ hsound hdelivers

end Poller

/-- One event, whose sending fails: the cursor moves to its stamp all the same. -/
def sendFails : List (PollerEvent String) :=
  [.indexed ⟨"a", "2026-01-01T00:00:01Z"⟩,
    .polled [(⟨"a", "2026-01-01T00:00:01Z"⟩, .urlError false)]]

/-- Events become searchable in the order of their stamps. -/
def IndexedInOrder (events : List (PollerEvent String)) : Prop :=
  (events.filterMap (fun event =>
    match event with
    | .indexed event => some event.timestamp
    | _ => none)).Pairwise (· ≤ ·)

theorem poller_loses_failed_send :
    ¬ ∀ (start : String) (events : List (PollerEvent String)), IndexedInOrder events →
      DeliversAll (run pollerStep (.initial start) events) := by
  intro h
  have hlost := h "2026-01-01T00:00:00Z" sendFails (by unfold IndexedInOrder; decide +kernel)
  have hfalse := hlost ⟨"a", "2026-01-01T00:00:01Z"⟩ (by decide +kernel) (by decide +kernel)
  revert hfalse
  decide +kernel

end OpenSoar
