/-
# `OpenSoar.Ai.Spikes` — when a count is a spike

In exact arithmetic the test of `count_spike` is about the counts of the baseline alone
(`spikes_iff`): their number, mean and deviation.  A baseline that varies has a finite score, which
is above a threshold only for counts above the mean, and grows with the count.  The score of a
constant baseline is zero for its own value and infinite for every other, the lower ones too
(`count_spike_is_an_increase_iff`).
-/
import OpenSoar.Ai.Signals
import OpenSoar.Python.ExactFloats

namespace OpenSoar

open Python

/-- The baseline of a key as counts: those of its last days, and zeros for the rest. -/
def baselineCounts (history : List ObservedAlert) (baselineDays : Int) (key : AlertKey) :
    List Nat :=
  let counts := lastOf baselineDays ((historyDaily history key).map Prod.snd)
  if counts.isEmpty then []
  else counts ++ List.replicate (baselineDays.toNat - counts.length) 0

/-- A sample of counts. -/
def asSample (counts : List Nat) : List ℝ := counts.map Nat.cast

/-- The score of a count against a baseline. -/
noncomputable def score (counts : List Nat) (count : Nat) : EReal :=
  open Classical in
  if Sample.stdev (asSample counts) = 0 then
    if (count : ℝ) = Sample.mean (asSample counts) then 0 else ⊤
  else (((count - Sample.mean (asSample counts)) / Sample.stdev (asSample counts) : ℝ) : EReal)

/-- The count is above the threshold. -/
def Outlies (threshold : EReal) (counts : List Nat) (count : Nat) : Prop :=
  counts ≠ [] ∧ threshold < score counts count

/-! ## The test in exact arithmetic -/

section Exact

variable {history : List ObservedAlert} {baselineDays : Int} {threshold : EReal} {key : AlertKey}
  {count : Nat} {counts : List Nat}

theorem lastOf_map {α β : Type} (n : Int) (f : α → β) (values : List α) :
    lastOf n (values.map f) = (lastOf n values).map f := by
  unfold lastOf
  rw [List.length_map]
  split
  · exact List.map_drop.symm
  · exact List.map_drop.symm

theorem baselineValues_exact : baselineValues FloatOps.exact history baselineDays key =
    finite (asSample (baselineCounts history baselineDays key)) := by
  have hcast : ∀ days : List (Timestamp × Nat),
      days.map (fun day => FloatOps.exact.ofInt day.2) =
        (days.map Prod.snd).map (fun n => (((n : Nat) : ℝ) : EReal)) := by
    intro days
    rw [List.map_map]
    exact List.map_congr_left (fun day _ => by
      rw [exact_ofInt, Int.cast_natCast, Function.comp_apply])
  unfold baselineValues baselineCounts finite asSample
  dsimp only
  rw [hcast, lastOf_map, List.isEmpty_map]
  split
  · rfl
  · rw [List.map_append, List.map_append, List.map_replicate, List.map_replicate, List.map_map,
      List.length_map, Nat.cast_zero, exact_ofInt, Int.cast_zero]
    rfl

theorem stdev_exact (xs : List ℝ) :
    stdev FloatOps.exact (finite xs) = ((Sample.stdev xs : ℝ) : EReal) := by
  have hlength : (finite xs).length = xs.length := List.length_map _
  have hsquares : (finite xs).map (fun v => FloatOps.exact.mul
      (FloatOps.exact.sub v (FloatOps.exact.mean (finite xs)))
      (FloatOps.exact.sub v (FloatOps.exact.mean (finite xs)))) = finite (Sample.squares xs) := by
    rw [exact_mean, finite, List.map_map, finite, Sample.squares, List.map_map]
    rfl
  unfold stdev Sample.stdev
  rw [hlength, apply_ite Real.toEReal]
  refine if_congr Iff.rfl ?_ ?_
  · rw [exact_ofInt, Int.cast_zero]
  · dsimp only
    rw [hsquares, exact_sum, exact_ofInt, exact_div, exact_sqrt, Int.cast_sub, Int.cast_natCast,
      Int.cast_one]

theorem zscore_exact (counts : List Nat) (count : Nat) :
    zscore FloatOps.exact (FloatOps.exact.ofInt count)
      (FloatOps.exact.mean (finite (asSample counts)))
      (stdev FloatOps.exact (finite (asSample counts))) = score counts count := by
  have hzero : FloatOps.exact.ofInt 0 = 0 := by
    rw [exact_ofInt, Int.cast_zero]
    rfl
  rw [exact_mean, stdev_exact, zscore, hzero, exact_ofInt, Int.cast_natCast, score, exact_sub,
    exact_div]
  simp only [exact_eq, EReal.coe_eq_zero, EReal.coe_eq_coe_iff]
  rfl

theorem spikes_iff : Spikes FloatOps.exact history baselineDays threshold key count ↔
    Outlies threshold (baselineCounts history baselineDays key) count := by
  unfold Spikes Outlies
  dsimp only
  rw [baselineValues_exact, zscore_exact, exact_lt]
  refine and_congr_left' (not_congr ?_)
  rw [finite, asSample, List.map_eq_nil_iff, List.map_eq_nil_iff]

/-! ## Constant and varying baselines -/

theorem mem_asSample {x : ℝ} : x ∈ asSample counts ↔ ∃ d ∈ counts, (d : ℝ) = x := List.mem_map

theorem asSample_of_const {v : Nat} (h : ∀ d ∈ counts, d = v) :
    ∀ x ∈ asSample counts, x = (v : ℝ) := by
  intro x hx
  obtain ⟨d, hd, rfl⟩ := mem_asSample.mp hx
  rw [h d hd]

theorem mean_asSample_of_const {v : Nat} (hne : counts ≠ []) (h : ∀ d ∈ counts, d = v) :
    Sample.mean (asSample counts) = v :=
  Sample.mean_of_const (fun hnil => hne (List.map_eq_nil_iff.mp hnil)) (asSample_of_const h)

/-- A count against a constant baseline. -/
theorem score_of_const {v : Nat} (hne : counts ≠ []) (h : ∀ d ∈ counts, d = v) :
    score counts count = if count = v then 0 else ⊤ := by
  rw [score, if_pos (Sample.stdev_of_const (asSample_of_const h)), mean_asSample_of_const hne h]
  exact if_congr Nat.cast_inj rfl rfl

/-- A sample is constant, or it has a deviation. -/
theorem const_or_varies (counts : List Nat) :
    (∃ v, ∀ d ∈ counts, d = v) ∨ 0 < Sample.stdev (asSample counts) := by
  by_cases hzero : Sample.stdev (asSample counts) = 0
  · left
    have hmean := Sample.stdev_eq_zero_iff.mp hzero
    cases counts with
    | nil => exact ⟨0, fun d hd => absurd hd List.not_mem_nil⟩
    | cons v counts =>
        refine ⟨v, fun d hd => Nat.cast_injective (R := ℝ) ?_⟩
        rw [hmean d (mem_asSample.mpr ⟨d, hd, rfl⟩),
          hmean v (mem_asSample.mpr ⟨v, List.mem_cons_self, rfl⟩)]
  · exact Or.inr (lt_of_le_of_ne Sample.stdev_nonneg (Ne.symm hzero))

/-- A varying baseline: the score is finite. -/
theorem score_of_varies (h : 0 < Sample.stdev (asSample counts)) : score counts count =
    (((count - Sample.mean (asSample counts)) / Sample.stdev (asSample counts) : ℝ) : EReal) :=
  if_neg (ne_of_gt h)

theorem mean_lt_of_varies (hthreshold : 0 ≤ threshold)
    (h : 0 < Sample.stdev (asSample counts)) (hspike : Outlies threshold counts count) :
    Sample.mean (asSample counts) < count := by
  have hpos := lt_of_le_of_lt hthreshold hspike.2
  rw [score_of_varies h, EReal.coe_pos, div_pos_iff_of_pos_right h] at hpos
  exact sub_pos.mp hpos

theorem Outlies.more (h : 0 < Sample.stdev (asSample counts))
    (hspike : Outlies threshold counts count) {count' : Nat} (hmore : count < count') :
    Outlies threshold counts count' := by
  refine ⟨hspike.1, lt_of_lt_of_le hspike.2 ?_⟩
  rw [score_of_varies h, score_of_varies h, EReal.coe_le_coe_iff]
  have hcast : (count : ℝ) ≤ count' := Nat.cast_le.mpr (Nat.le_of_lt hmore)
  exact div_le_div_of_nonneg_right (sub_le_sub_right hcast _) (le_of_lt h)

/-- Against a constant baseline every other count is a spike. -/
theorem outlies_of_const {v : Nat} (hthreshold : 0 ≤ threshold) (hne : counts ≠ [])
    (h : ∀ d ∈ counts, d = v) : Outlies threshold counts count ↔ count ≠ v ∧ threshold ≠ ⊤ := by
  rw [Outlies, score_of_const hne h, and_iff_right hne]
  by_cases hsame : count = v
  · rw [if_pos hsame]
    exact iff_of_false (not_lt_of_ge hthreshold) (fun hother => hother.1 hsame)
  · rw [if_neg hsame, lt_top_iff_ne_top]
    exact (and_iff_right hsame).symm

/-! ## The signals -/

theorem mem_spikeKeys {py : PyText} {current : List ObservedAlert} :
    ("count_spike", key) ∈ signalKeys
        (computeAnomalySignals py .exact history current threshold baselineDays) ↔
      key ∈ current.map ObservedAlert.key ∧
        Outlies threshold (baselineCounts history baselineDays key) (countOf key current) := by
  rw [mem_signalKeys]
  constructor
  · rintro (⟨alert, -, -, hkey⟩ | ⟨bucket, alert, -, hkey⟩ | ⟨key', hkey', hspikes, hkey⟩)
    · exact absurd (congrArg Prod.fst hkey) (by simp)
    · exact absurd (congrArg Prod.fst hkey) (by simp)
    · cases hkey
      exact ⟨hkey', spikes_iff.mp hspikes⟩
  · rintro ⟨hkey, hspikes⟩
    exact Or.inr (Or.inr ⟨key, hkey, spikes_iff.mpr hspikes, rfl⟩)

theorem countOf_pos {alerts : List ObservedAlert} :
    0 < countOf key alerts ↔ key ∈ alerts.map ObservedAlert.key := by
  rw [countOf, List.length_pos_iff_exists_mem, List.mem_map]
  refine exists_congr (fun alert => ?_)
  rw [List.mem_filter, decide_eq_true_iff]

end Exact

/-- **When a spike is an increase.**  A key is reported only for a count above the mean of its
baseline, and then for every list with more alerts of it, if and only if no current key has fewer
alerts than each day of a constant baseline, or the threshold is infinite. -/
theorem count_spike_is_an_increase_iff (py : PyText) (history current : List ObservedAlert)
    (threshold : EReal) (hthreshold : 0 ≤ threshold) (baselineDays : Int) :
    (∀ key, ("count_spike", key) ∈ signalKeys
          (computeAnomalySignals py .exact history current threshold baselineDays) →
        FloatOps.exact.mean (baselineValues .exact history baselineDays key) <
            FloatOps.exact.ofInt (countOf key current) ∧
          ∀ current', countOf key current < countOf key current' →
            ("count_spike", key) ∈ signalKeys
              (computeAnomalySignals py .exact history current' threshold baselineDays)) ↔
      threshold = ⊤ ∨ ∀ key ∈ current.map ObservedAlert.key, ∀ v,
        baselineCounts history baselineDays key ≠ [] →
          (∀ d ∈ baselineCounts history baselineDays key, d = v) → v ≤ countOf key current := by
  simp only [mem_spikeKeys, baselineValues_exact, exact_mean, exact_ofInt, EReal.coe_lt_coe_iff,
    Int.cast_natCast]
  constructor
  · intro hclaim
    by_cases htop : threshold = ⊤
    · exact Or.inl htop
    · refine Or.inr (fun key hkey v hne hconst => ?_)
      by_contra hfewer
      have hother : countOf key current ≠ v := by omega
      have hspike := (outlies_of_const hthreshold hne hconst).mpr ⟨hother, htop⟩
      have hmean := (hclaim key ⟨hkey, hspike⟩).1
      rw [mean_asSample_of_const hne hconst, Nat.cast_lt] at hmean
      exact hfewer (Nat.le_of_lt hmean)
  · rintro hcond key ⟨hkey, hspike⟩
    have hfinite : threshold ≠ ⊤ := ne_top_of_lt hspike.2
    have hmore : ∀ current', countOf key current < countOf key current' →
        key ∈ current'.map ObservedAlert.key :=
      fun current' hlt => countOf_pos.mp (Nat.zero_lt_of_lt hlt)
    rcases const_or_varies (baselineCounts history baselineDays key) with ⟨v, hconst⟩ | hvaries
    · -- the count differs from a constant baseline, and is not below it
      have hother := ((outlies_of_const hthreshold hspike.1 hconst).mp hspike).1
      have hle := (hcond.resolve_left hfinite) key hkey v hspike.1 hconst
      have habove : v < countOf key current := by omega
      refine ⟨?_, fun current' hlt => ⟨hmore current' hlt, ?_⟩⟩
      · rw [mean_asSample_of_const hspike.1 hconst, Nat.cast_lt]
        exact habove
      · exact (outlies_of_const hthreshold hspike.1 hconst).mpr ⟨by omega, hfinite⟩
    · exact ⟨mean_lt_of_varies hthreshold hvaries hspike,
        fun current' hlt => ⟨hmore current' hlt, hspike.more hvaries hlt⟩⟩

/-! ## A quiet day of a steady rule -/

/-- An alert of one rule and one address. -/
def lowAlert (createdAt : Timestamp) : ObservedAlert := bruteForce createdAt (.lit "low")

/-- Two alerts on each of the seven days before. -/
def steadyWeek : List ObservedAlert :=
  (List.range 7).flatMap (fun day => [lowAlert (atTime day 9 0), lowAlert (atTime day 17 0)])

theorem steadyWeek_const : ∀ d ∈ baselineCounts steadyWeek 7 (lowAlert 0).key, d = 2 := by
  decide +kernel

theorem steadyWeek_ne_nil : baselineCounts steadyWeek 7 (lowAlert 0).key ≠ [] := by
  decide +kernel

/-- After such a week every other number of alerts is reported. -/
theorem spike_after_steadyWeek (py : PyText) {current : List ObservedAlert}
    (hkey : (lowAlert 0).key ∈ current.map ObservedAlert.key)
    (hother : countOf (lowAlert 0).key current ≠ 2) :
    ("count_spike", (lowAlert 0).key) ∈ signalKeys
      (computeAnomalySignals py .exact steadyWeek current ((3 : ℝ) : EReal) 7) := by
  have hthreshold : 0 ≤ ((3 : ℝ) : EReal) := EReal.coe_nonneg.mpr (by norm_num)
  exact mem_spikeKeys.mpr ⟨hkey, (outlies_of_const hthreshold steadyWeek_ne_nil
    steadyWeek_const).mpr ⟨hother, EReal.coe_ne_top 3⟩⟩

/-- Three alerts on the next day. -/
def busyDay : List ObservedAlert :=
  [lowAlert (atTime 7 9 0), lowAlert (atTime 7 10 0), lowAlert (atTime 7 11 0)]

theorem busy_day_is_an_increase :
    FloatOps.exact.mean (baselineValues .exact steadyWeek 7 (lowAlert 0).key) <
      FloatOps.exact.ofInt (countOf (lowAlert 0).key busyDay) := by
  have hthreshold : 0 ≤ ((3 : ℝ) : EReal) := EReal.coe_nonneg.mpr (by norm_num)
  have hcond : ∀ key ∈ busyDay.map ObservedAlert.key, ∀ v,
      baselineCounts steadyWeek 7 key ≠ [] →
        (∀ d ∈ baselineCounts steadyWeek 7 key, d = v) → v ≤ countOf key busyDay := by
    intro key hkey v hne hconst
    have hsame : key = (lowAlert 0).key := by
      have hall : ∀ key ∈ busyDay.map ObservedAlert.key, key = (lowAlert 0).key := by decide
      exact hall key hkey
    subst hsame
    obtain ⟨d, hd⟩ := List.exists_mem_of_ne_nil _ hne
    rw [← hconst d hd, steadyWeek_const d hd]
    decide
  exact ((count_spike_is_an_increase_iff .ascii steadyWeek busyDay ((3 : ℝ) : EReal) hthreshold
    7).mpr (Or.inr hcond) (lowAlert 0).key
      (spike_after_steadyWeek .ascii (by decide) (by decide))).1

/-- One alert on the next day. -/
def quietDay : List ObservedAlert := [lowAlert (atTime 7 9 0)]

/-- It is reported as a spike. -/
theorem quiet_day_is_a_spike :
    ¬ ∀ (py : PyText) (history current : List ObservedAlert) (threshold : EReal), 0 ≤ threshold →
      ∀ baselineDays : Int, 1 ≤ baselineDays →
      ∀ key, ("count_spike", key) ∈ signalKeys
          (computeAnomalySignals py .exact history current threshold baselineDays) →
        FloatOps.exact.mean (baselineValues .exact history baselineDays key) <
            FloatOps.exact.ofInt (countOf key current) ∧
          ∀ current', countOf key current < countOf key current' →
            ("count_spike", key) ∈ signalKeys
              (computeAnomalySignals py .exact history current' threshold baselineDays) := by
  intro hclaim
  have hthreshold : 0 ≤ ((3 : ℝ) : EReal) := EReal.coe_nonneg.mpr (by norm_num)
  have hmean := (hclaim .ascii steadyWeek quietDay ((3 : ℝ) : EReal) hthreshold 7 (by decide)
    (lowAlert 0).key (spike_after_steadyWeek .ascii (by decide) (by decide))).1
  have hone : countOf (lowAlert 0).key quietDay = 1 := by decide
  rw [baselineValues_exact, exact_mean, exact_ofInt, EReal.coe_lt_coe_iff,
    mean_asSample_of_const steadyWeek_ne_nil steadyWeek_const, hone] at hmean
  norm_num at hmean

end OpenSoar
