/-
# `OpenSoar.Core.Triggers` — which playbooks an alert triggers

`TriggerEngine.match` of `core/triggers.py`.  A playbook may be registered under
the alert's source, under `<source>.alert` or under `webhook`; the three lists are
walked in this order and a name that was met is passed over.

The result is **exact** (`triggerMatch_exact`): the eligible playbooks, each once.
Its order is another matter.  Every list is sorted by `(order, name)`, the lists
are put behind one another, and so the whole is sorted exactly when no playbook
of a later list sorts before one of an earlier list
(`sorted_triggerMatch_iff`).
-/
import OpenSoar.Lib.Distinct
import OpenSoar.Core.Registry

namespace OpenSoar

open Python

/-- `trigger_types`. -/
def triggerTypes (source : String) : List String := [source, source ++ ".alert", "webhook"]

/-- The locals of the loop. -/
structure Matching where
  matched : List RegisteredPlaybook
  seen : List String

/-- The body of the inner loop. -/
def Matching.visit (found : Matching) (pb : RegisteredPlaybook) : Matching :=
  if pb.name ∈ found.seen then found
  else { matched := found.matched ++ [pb], seen := found.seen ++ [pb.name] }

/-- `TriggerEngine.match`. -/
def triggerMatch (registry : PlaybookRegistry) (source : String) (alertData : Dict) :
    List RegisteredPlaybook :=
  ((triggerTypes source).foldl (fun found triggerType =>
    (registry.getPlaybooksForTrigger triggerType alertData).foldl Matching.visit found)
    ⟨[], []⟩).matched

/-- What makes an alert of some source trigger a playbook. -/
structure Eligible (source : String) (alertData : Dict) (pb : RegisteredPlaybook) : Prop where
  enabled : pb.enabled = true
  trigger : pb.trigger = some source ∨ pb.trigger = some (source ++ ".alert") ∨
    pb.trigger = some "webhook"
  conditions : ∀ key expected, (key, expected) ∈ pb.conditions →
    ConditionHolds expected (Json.get alertData key)

/-- In ascending order, then by name. -/
def SortedByOrder (pbs : List RegisteredPlaybook) : Prop :=
  pbs.Pairwise (fun pb pb' => pb.sortKey ≤ pb'.sortKey)

instance (pbs : List RegisteredPlaybook) : Decidable (SortedByOrder pbs) :=
  inferInstanceAs (Decidable (pbs.Pairwise _))

/-- The place of a playbook's trigger among the trigger types. -/
def triggerRank (source : String) (pb : RegisteredPlaybook) : Nat :=
  match pb.trigger with
  | some triggerType => (triggerTypes source).idxOf triggerType
  | none => (triggerTypes source).length

/-- No eligible playbook sorts before one whose trigger type comes earlier. -/
def OrderFollowsTriggers (registry : PlaybookRegistry) (source : String) (alertData : Dict) :
    Prop :=
  ∀ pb ∈ registry.rows, ∀ pb' ∈ registry.rows, Eligible source alertData pb →
    Eligible source alertData pb' → triggerRank source pb < triggerRank source pb' →
    pb.sortKey ≤ pb'.sortKey

/-! ## The loop keeps the first playbook of each name -/

/-- The set `seen` is the names of what was kept. -/
theorem foldl_visit (pbs kept : List RegisteredPlaybook) :
    pbs.foldl Matching.visit ⟨kept, kept.map (·.name)⟩ =
      ⟨pbs.foldl (keepFirst (·.name)) kept,
        (pbs.foldl (keepFirst (·.name)) kept).map (·.name)⟩ := by
  induction pbs generalizing kept with
  | nil => rfl
  | cons pb pbs ih =>
      rw [List.foldl_cons, List.foldl_cons]
      by_cases hseen : pb.name ∈ kept.map (·.name)
      · rw [keepFirst_seen _ hseen, Matching.visit, if_pos hseen, ih]
      · have hnames : kept.map (·.name) ++ [pb.name] = (kept ++ [pb]).map (·.name) := by
          rw [List.map_append, List.map_singleton]
        rw [keepFirst_new _ hseen, Matching.visit, if_neg hseen, hnames, ih]

theorem triggerMatch_eq (registry : PlaybookRegistry) (source : String) (alertData : Dict) :
    triggerMatch registry source alertData =
      distinctOn (·.name) ((triggerTypes source).flatMap
        (fun triggerType => registry.getPlaybooksForTrigger triggerType alertData)) := by
  have hloop := foldl_visit ((triggerTypes source).flatMap
    (fun triggerType => registry.getPlaybooksForTrigger triggerType alertData)) []
  rw [List.foldl_flatMap] at hloop
  exact congrArg Matching.matched hloop

/-! ## What is matched -/

theorem mem_triggerTypes {source triggerType : String} :
    triggerType ∈ triggerTypes source ↔
      triggerType = source ∨ triggerType = source ++ ".alert" ∨ triggerType = "webhook" := by
  simp [triggerTypes]

theorem Eligible.exists_trigger {source : String} {alertData : Dict} {pb : RegisteredPlaybook}
    (h : Eligible source alertData pb) :
    ∃ triggerType ∈ triggerTypes source, pb.trigger = some triggerType := by
  rcases h.trigger with htrigger | htrigger | htrigger
  · exact ⟨_, mem_triggerTypes.mpr (Or.inl rfl), htrigger⟩
  · exact ⟨_, mem_triggerTypes.mpr (Or.inr (Or.inl rfl)), htrigger⟩
  · exact ⟨_, mem_triggerTypes.mpr (Or.inr (Or.inr rfl)), htrigger⟩

/-- A list for one trigger type holds the eligible playbooks of that trigger. -/
theorem mem_getPlaybooksForTrigger_iff {registry : PlaybookRegistry} {source : String}
    {alertData : Dict} {triggerType : String} (htype : triggerType ∈ triggerTypes source)
    {pb : RegisteredPlaybook} :
    pb ∈ registry.getPlaybooksForTrigger triggerType alertData ↔
      pb ∈ registry.rows ∧ Eligible source alertData pb ∧ pb.trigger = some triggerType := by
  rw [mem_getPlaybooksForTrigger]
  constructor
  · rintro ⟨hmem, henabled, htrigger, hconditions⟩
    refine ⟨hmem, ⟨henabled, ?_, hconditions⟩, htrigger⟩
    rcases mem_triggerTypes.mp htype with rfl | rfl | rfl
    · exact Or.inl htrigger
    · exact Or.inr (Or.inl htrigger)
    · exact Or.inr (Or.inr htrigger)
  · rintro ⟨hmem, heligible, htrigger⟩
    exact ⟨hmem, heligible.enabled, htrigger, heligible.conditions⟩

theorem mem_triggerMatch {registry : PlaybookRegistry} {source : String} {alertData : Dict}
    {pb : RegisteredPlaybook} :
    pb ∈ triggerMatch registry source alertData ↔
      pb ∈ registry.rows ∧ Eligible source alertData pb := by
  have hmem : ∀ pb, pb ∈ (triggerTypes source).flatMap
      (fun triggerType => registry.getPlaybooksForTrigger triggerType alertData) ↔
        pb ∈ registry.rows ∧ Eligible source alertData pb := by
    intro pb
    rw [List.mem_flatMap]
    constructor
    · rintro ⟨triggerType, htype, hpb⟩
      obtain ⟨hrow, heligible, -⟩ := (mem_getPlaybooksForTrigger_iff htype).mp hpb
      exact ⟨hrow, heligible⟩
    · rintro ⟨hrow, heligible⟩
      obtain ⟨triggerType, htype, htrigger⟩ := heligible.exists_trigger
      exact ⟨triggerType, htype,
        (mem_getPlaybooksForTrigger_iff htype).mpr ⟨hrow, heligible, htrigger⟩⟩
  -- a name is registered once, so no playbook is passed over for another of its name
  have hinj : ∀ a ∈ (triggerTypes source).flatMap
      (fun triggerType => registry.getPlaybooksForTrigger triggerType alertData),
      ∀ b ∈ (triggerTypes source).flatMap
        (fun triggerType => registry.getPlaybooksForTrigger triggerType alertData),
        a.name = b.name → a = b :=
    fun a ha b hb hname =>
      List.inj_on_of_nodup_map registry.nodup ((hmem a).mp ha).1 ((hmem b).mp hb).1 hname
  rw [triggerMatch_eq, mem_distinctOn_iff _ hinj, hmem]

/-- **Trigger matching is exact.**  No name is matched twice, and the playbooks
matched are the registered ones that the alert makes eligible. -/
theorem triggerMatch_exact (registry : PlaybookRegistry) (source : String) (alertData : Dict) :
    ((triggerMatch registry source alertData).map (·.name)).Nodup ∧
      ∀ pb, pb ∈ triggerMatch registry source alertData ↔
        pb ∈ registry.rows ∧ Eligible source alertData pb := by
  refine ⟨?_, fun pb => mem_triggerMatch⟩
  rw [triggerMatch_eq]
  exact nodup_distinctOn _ _

/-! ## In which order -/

theorem triggerRank_eq {source triggerType : String} {pb : RegisteredPlaybook}
    (h : pb.trigger = some triggerType) :
    triggerRank source pb = (triggerTypes source).idxOf triggerType := by
  simp only [triggerRank, h]

/-- **When the match is sorted as a whole.** -/
theorem sorted_triggerMatch_iff (registry : PlaybookRegistry) (source : String)
    (alertData : Dict) :
    SortedByOrder (triggerMatch registry source alertData) ↔
      OrderFollowsTriggers registry source alertData := by
  have hdisjoint : ∀ triggerType triggerType' pb pb',
      pb ∈ registry.getPlaybooksForTrigger triggerType alertData →
      pb' ∈ registry.getPlaybooksForTrigger triggerType' alertData →
      pb.name = pb'.name → triggerType = triggerType' := by
    intro triggerType triggerType' pb pb' hpb hpb' hname
    obtain ⟨hrow, -, htrigger, -⟩ := mem_getPlaybooksForTrigger.mp hpb
    obtain ⟨hrow', -, htrigger', -⟩ := mem_getPlaybooksForTrigger.mp hpb'
    have hsame : pb = pb' := List.inj_on_of_nodup_map registry.nodup hrow hrow' hname
    rw [hsame, htrigger'] at htrigger
    exact (Option.some.inj htrigger).symm
  rw [SortedByOrder, triggerMatch_eq, pairwise_distinctOn_flatMap _
    (fun _ => nodup_getPlaybooksForTrigger registry _ alertData) hdisjoint
    (fun _ => pairwise_getPlaybooksForTrigger registry _ alertData)]
  constructor
  · intro h pb hrow pb' hrow' heligible heligible' hlt
    obtain ⟨triggerType, htype, htrigger⟩ := heligible.exists_trigger
    obtain ⟨triggerType', htype', htrigger'⟩ := heligible'.exists_trigger
    rw [triggerRank_eq htrigger, triggerRank_eq htrigger'] at hlt
    exact h triggerType htype triggerType' htype' hlt
      pb ((mem_getPlaybooksForTrigger_iff htype).mpr ⟨hrow, heligible, htrigger⟩)
      pb' ((mem_getPlaybooksForTrigger_iff htype').mpr ⟨hrow', heligible', htrigger'⟩)
  · intro h triggerType htype triggerType' htype' hlt pb hpb pb' hpb'
    obtain ⟨hrow, heligible, htrigger⟩ := (mem_getPlaybooksForTrigger_iff htype).mp hpb
    obtain ⟨hrow', heligible', htrigger'⟩ := (mem_getPlaybooksForTrigger_iff htype').mp hpb'
    refine h pb hrow pb' hrow' heligible heligible' ?_
    rwa [triggerRank_eq htrigger, triggerRank_eq htrigger']

end OpenSoar
