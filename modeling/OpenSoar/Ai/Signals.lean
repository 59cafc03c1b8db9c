/-
# `OpenSoar.Ai.Signals` — which keys the signals have

Each heuristic of `compute_anomaly_signals` walks a list and carries something along: the addresses
seen so far, the highest rank of a rule so far, the signals emitted so far.  The file says what is
left of each walk as a set of keys (`mem_signalKeys`), in terms of the two lists alone: the current
alerts with a new address, the alerts that raise the highest rank of their rule when they come
(`records`), and the keys whose count passes the test against their baseline (`Spikes`).

So a new address is reported, and reported once (`first_seen_exactly_once`).
-/
import OpenSoar.Ai.Anomaly
import OpenSoar.Lib.Distinct

namespace OpenSoar

open Python

section Keys

variable {F : Type} {py : PyText} {ops : FloatOps F} {signals : List (AnomalySignal F)}
  {k : AnomalyKey}

def signalKeys (signals : List (AnomalySignal F)) : List AnomalyKey :=
  signals.map AnomalySignal.key

theorem mem_emit {signal : AnomalySignal F} :
    k ∈ signalKeys (emit signals signal) ↔ k ∈ signalKeys signals ∨ k = signal.key := by
  unfold emit
  split
  next hseen => exact ⟨Or.inl, fun h => h.elim id (fun hkey => hkey ▸ hseen)⟩
  next => rw [signalKeys, List.map_append, List.mem_append, List.map_singleton, List.mem_singleton,
    signalKeys]

theorem nodup_emit {signal : AnomalySignal F} (h : (signalKeys signals).Nodup) :
    (signalKeys (emit signals signal)).Nodup := by
  unfold emit
  split
  next => exact h
  next hnew =>
    rw [signalKeys, List.map_append, List.map_singleton, ← List.concat_eq_append]
    exact h.concat hnew

/-! ## Counting -/

section Counting

variable {κ : Type} [DecidableEq κ]

/-- A key that is counted goes up, a new one comes to the end. -/
theorem countOne_map {keys : List κ} (hnodup : keys.Nodup) (count : κ → Nat) (key : κ) :
    countOne (keys.map (fun key' => (key', count key'))) key =
      if key ∈ keys then keys.map (fun key' => (key', count key' + if key = key' then 1 else 0))
      else keys.map (fun key' => (key', count key')) ++ [(key, 1)] := by
  induction keys with
  | nil => rfl
  | cons key' keys ih =>
      obtain ⟨hnew, hkeys⟩ := List.nodup_cons.mp hnodup
      rw [List.map_cons, countOne]
      by_cases hsame : key' = key
      · subst hsame
        have hothers : keys.map (fun key => (key, count key + if key' = key then 1 else 0)) =
            keys.map (fun key => (key, count key)) := by
          refine List.map_congr_left (fun key hkey => ?_)
          have hother : key' ≠ key := by
            rintro rfl
            exact hnew hkey
          rw [if_neg hother, Nat.add_zero]
        rw [if_pos rfl, if_pos List.mem_cons_self, List.map_cons, hothers, if_pos rfl]
      · rw [if_neg hsame, ih hkeys]
        by_cases hmem : key ∈ keys
        · rw [if_pos hmem, if_pos (List.mem_cons_of_mem _ hmem), List.map_cons,
            if_neg (Ne.symm hsame), Nat.add_zero]
        · have hnone : key ∉ key' :: keys := by
            intro h
            rcases List.mem_cons.mp h with h | h
            · exact hsame h.symm
            · exact hmem h
          rw [if_neg hmem, if_neg hnone]
          rfl

/-- How often a value occurs. -/
def timesIn (values : List κ) (value : κ) : Nat :=
  (values.filter (fun value' => value' = value)).length

theorem timesIn_append (values values' : List κ) (value : κ) :
    timesIn (values ++ values') value = timesIn values value + timesIn values' value := by
  rw [timesIn, List.filter_append, List.length_append, timesIn, timesIn]

theorem timesIn_singleton (value value' : κ) :
    timesIn [value] value' = if value = value' then 1 else 0 := by
  unfold timesIn
  by_cases hsame : value = value'
  · simp [hsame]
  · simp [hsame]

/-- The values in the order in which they are met first, each with its count. -/
theorem countEach_eq (values : List κ) : countEach values =
    (distinctOn id values).map (fun value => (value, timesIn values value)) := by
  induction values using List.reverseRecOn with
  | nil => rfl
  | append_singleton values value ih =>
      have hnodup : (distinctOn id values).Nodup := by
        have h := nodup_distinctOn id values
        rwa [List.map_id] at h
      have hstep : countEach (values ++ [value]) = countOne (countEach values) value := by
        rw [countEach, List.foldl_append]
        rfl
      have hcount : ∀ value', timesIn (values ++ [value]) value' =
          timesIn values value' + if value = value' then 1 else 0 :=
        fun value' => by rw [timesIn_append, timesIn_singleton]
      rw [hstep, ih, countOne_map hnodup, distinctOn_append, List.foldl_cons, List.foldl_nil]
      simp only [hcount]
      by_cases hseen : value ∈ distinctOn id values
      · rw [if_pos hseen, keepFirst_seen id (by rwa [List.map_id])]
      · rw [if_neg hseen, keepFirst_new id (by rwa [List.map_id]), List.map_append,
          List.map_singleton, if_pos rfl]
        have hnone : timesIn values value = 0 := by
          rw [timesIn, List.length_eq_zero_iff, List.filter_eq_nil_iff]
          intro value' hvalue' hsame
          exact hseen (mem_distinctOn_id.mpr (of_decide_eq_true hsame ▸ hvalue'))
        rw [hnone]
        congr 1
        refine List.map_congr_left (fun value' hvalue' => ?_)
        have hother : value ≠ value' := by
          rintro rfl
          exact hseen hvalue'
        rw [if_neg hother, Nat.add_zero]

theorem mem_countEach {values : List κ} {value : κ} {n : Nat} :
    (value, n) ∈ countEach values ↔ value ∈ values ∧ n = timesIn values value := by
  rw [countEach_eq, List.mem_map]
  constructor
  · rintro ⟨value', hvalue', heq⟩
    cases heq
    exact ⟨mem_distinctOn_id.mp hvalue', rfl⟩
  · rintro ⟨hvalue, rfl⟩
    exact ⟨value, mem_distinctOn_id.mpr hvalue, rfl⟩

end Counting

/-! ## First-seen addresses -/

/-- The alert has an address, and one that was not seen under its rule. -/
def NewIp (seenIps : List AlertKey) (alert : ObservedAlert) : Prop :=
  (∃ sourceIp, alert.sourceIp = some sourceIp ∧ sourceIp.val ≠ "") ∧ alert.key ∉ seenIps

theorem firstSeenStep_of_new {acc : List (AnomalySignal F) × List AlertKey}
    {alert : ObservedAlert} (h : NewIp acc.2 alert) : firstSeenStep ops acc alert =
      (emit acc.1 ⟨"first_seen_ip", alert.partner, alert.ruleName, alert.sourceIp, ops.ofInt 1,
        .firstSeen alert.severity⟩, alert.key :: acc.2) := by
  obtain ⟨⟨sourceIp, hip, hne⟩, hnew⟩ := h
  unfold firstSeenStep
  simp only [hip, if_neg hne, if_neg hnew]

theorem firstSeenStep_of_not_new {acc : List (AnomalySignal F) × List AlertKey}
    {alert : ObservedAlert} (h : ¬ NewIp acc.2 alert) : firstSeenStep ops acc alert = acc := by
  unfold firstSeenStep
  cases hip : alert.sourceIp with
  | none => rfl
  | some sourceIp =>
      dsimp only
      by_cases hempty : sourceIp.val = ""
      · rw [if_pos hempty]
      · by_cases hseen : alert.key ∈ acc.2
        · rw [if_neg hempty, if_pos hseen]
        · exact absurd ⟨⟨sourceIp, hip, hempty⟩, hseen⟩ h

/-- The walk reports the alerts with an address that was new when it began. -/
theorem mem_firstSeen (current : List ObservedAlert)
    (acc : List (AnomalySignal F) × List AlertKey) :
    k ∈ signalKeys (current.foldl (firstSeenStep ops) acc).1 ↔ k ∈ signalKeys acc.1 ∨
      ∃ alert ∈ current, NewIp acc.2 alert ∧ k = ("first_seen_ip", alert.key) := by
  induction current generalizing acc with
  | nil => simp
  | cons alert current ih =>
      rw [List.foldl_cons, ih]
      by_cases hnew : NewIp acc.2 alert
      · rw [firstSeenStep_of_new hnew, mem_emit]
        constructor
        · rintro ((hold | rfl) | ⟨later, hlater, ⟨hip, hkey⟩, rfl⟩)
          · exact Or.inl hold
          · exact Or.inr ⟨alert, List.mem_cons_self, hnew, rfl⟩
          · exact Or.inr ⟨later, List.mem_cons_of_mem _ hlater,
              ⟨hip, fun h => hkey (List.mem_cons_of_mem _ h)⟩, rfl⟩
        · rintro (hold | ⟨later, hlater, ⟨hip, hkey⟩, rfl⟩)
          · exact Or.inl (Or.inl hold)
          · by_cases hsame : later.key = alert.key
            · exact Or.inl (Or.inr (congrArg (Prod.mk "first_seen_ip") hsame))
            · rcases List.mem_cons.mp hlater with rfl | hlater
              · exact absurd rfl hsame
              · refine Or.inr ⟨later, hlater, ⟨hip, fun h => ?_⟩, rfl⟩
                exact (List.mem_cons.mp h).elim hsame hkey
      · rw [firstSeenStep_of_not_new hnew]
        refine or_congr_right ?_
        constructor
        · rintro ⟨later, hlater, hrest⟩
          exact ⟨later, List.mem_cons_of_mem _ hlater, hrest⟩
        · rintro ⟨later, hlater, hlaterNew, hkey⟩
          rcases List.mem_cons.mp hlater with rfl | hlater
          · exact absurd hlaterNew hnew
          · exact ⟨later, hlater, hlaterNew, hkey⟩

/-! ## Severities -/

def rankOf (py : PyText) (alert : ObservedAlert) : Int := severityRank py alert.severity.val

/-- The alerts that raise the highest rank so far when they come; the first one of all sets it. -/
def records (py : PyText) : Option Int → List ObservedAlert → List ObservedAlert
  | _, [] => []
  | none, alert :: alerts => records py (some (rankOf py alert)) alerts
  | some highest, alert :: alerts =>
      if highest < rankOf py alert then alert :: records py (some (rankOf py alert)) alerts
      else records py (some highest) alerts

def inBucket (bucket : RuleBucket) (alerts : List ObservedAlert) : List ObservedAlert :=
  alerts.filter (fun alert => alert.bucket = bucket)

/-- The highest rank of a rule in the history. -/
def topRank (py : PyText) (history : List ObservedAlert) (bucket : RuleBucket) : Option Int :=
  ((inBucket bucket history).map (rankOf py)).max?

theorem newSeverityStep_other {acc : List (AnomalySignal F) × MaxSeverity}
    {alert : ObservedAlert} {bucket : RuleBucket} (h : alert.bucket ≠ bucket) :
    (newSeverityStep py ops acc alert).2 bucket = acc.2 bucket := by
  unfold newSeverityStep
  dsimp only
  split
  next => exact Function.update_of_ne (Ne.symm h) _ _
  next =>
    split
    · exact Function.update_of_ne (Ne.symm h) _ _
    · rfl

theorem inBucket_cons_self (alert : ObservedAlert) (alerts : List ObservedAlert) :
    inBucket alert.bucket (alert :: alerts) = alert :: inBucket alert.bucket alerts :=
  List.filter_cons_of_pos (decide_eq_true rfl)

theorem inBucket_cons_other {alert : ObservedAlert} {bucket : RuleBucket}
    (h : alert.bucket ≠ bucket) (alerts : List ObservedAlert) :
    inBucket bucket (alert :: alerts) = inBucket bucket alerts :=
  List.filter_cons_of_neg (by simpa using h)

/-- The alert raises the highest rank so far of its rule. -/
def Raises (py : PyText) (maxSeverity : MaxSeverity) (alert : ObservedAlert) : Prop :=
  ∃ highest, (maxSeverity alert.bucket).map Prod.fst = some highest ∧ highest < rankOf py alert

/-- What one alert does: its report, and the highest rank of its rule. -/
theorem newSeverityStep_cases (py : PyText) (ops : FloatOps F)
    (acc : List (AnomalySignal F) × MaxSeverity) (alert : ObservedAlert) :
    let next := newSeverityStep py ops acc alert
    (acc.2 alert.bucket = none ∧ next.1 = acc.1 ∧
      (next.2 alert.bucket).map Prod.fst = some (rankOf py alert)) ∨
    (Raises py acc.2 alert ∧
      (∃ signal : AnomalySignal F, signal.key = ("new_severity", alert.key) ∧
        next.1 = emit acc.1 signal) ∧
      (next.2 alert.bucket).map Prod.fst = some (rankOf py alert)) ∨
    (acc.2 alert.bucket ≠ none ∧ ¬ Raises py acc.2 alert ∧ next = acc) := by
  unfold newSeverityStep
  cases hprevious : acc.2 alert.bucket with
  | none =>
      refine Or.inl ⟨rfl, ?_, ?_⟩
      · simp only [hprevious]
      · simp only [hprevious, Function.update_self]
        rfl
  | some previous =>
      obtain ⟨highest, label⟩ := previous
      right
      by_cases hraises : highest < rankOf py alert
      · have hrank : (severityRank py alert.severity.val : Int) > highest := hraises
        refine Or.inl ⟨⟨highest, by rw [hprevious]; rfl, hraises⟩, ?_, ?_⟩
        · simp only [hprevious, if_pos hrank]
          exact ⟨_, rfl, rfl⟩
        · simp only [hprevious, if_pos hrank, Function.update_self]
          rfl
      · refine Or.inr ⟨Option.some_ne_none _, ?_, ?_⟩
        · rintro ⟨highest', hhighest, hlt⟩
          rw [hprevious] at hhighest
          cases hhighest
          exact hraises hlt
        · simp only [hprevious]
          exact if_neg hraises

theorem mem_newSeverityStep {acc : List (AnomalySignal F) × MaxSeverity} {alert : ObservedAlert} :
    k ∈ signalKeys (newSeverityStep py ops acc alert).1 ↔
      k ∈ signalKeys acc.1 ∨ Raises py acc.2 alert ∧ k = ("new_severity", alert.key) := by
  rcases newSeverityStep_cases py ops acc alert with
    ⟨hnone, hsame, -⟩ | ⟨hraises, ⟨signal, hkey, hemit⟩, -⟩ | ⟨-, hraises, hsame⟩
  · rw [hsame]
    refine (or_iff_left ?_).symm
    rintro ⟨⟨highest, hhighest, -⟩, -⟩
    rw [hnone] at hhighest
    cases hhighest
  · rw [hemit, mem_emit, hkey, and_iff_right hraises]
  · rw [hsame]
    exact (or_iff_left (fun h => hraises h.1)).symm

theorem mem_records_cons {acc : List (AnomalySignal F) × MaxSeverity}
    {alert other : ObservedAlert} {bucket : RuleBucket} {current : List ObservedAlert} :
    other ∈ records py ((acc.2 bucket).map Prod.fst) (inBucket bucket (alert :: current)) ↔
      (Raises py acc.2 alert ∧ bucket = alert.bucket ∧ other = alert) ∨
        other ∈ records py (((newSeverityStep py ops acc alert).2 bucket).map Prod.fst)
          (inBucket bucket current) := by
  by_cases hbucket : alert.bucket = bucket
  · subst hbucket
    rw [inBucket_cons_self]
    rcases newSeverityStep_cases py ops acc alert with
      ⟨hnone, -, htop⟩ | ⟨hraises, -, htop⟩ | ⟨hsome, hraises, hsame⟩
    · have hnot : ¬ Raises py acc.2 alert := by
        rintro ⟨highest, hhighest, -⟩
        rw [hnone] at hhighest
        cases hhighest
      rw [hnone, htop, or_iff_right (fun h => hnot h.1)]
      rfl
    · obtain ⟨highest, hhighest, hlt⟩ := id hraises
      rw [hhighest, htop, records, if_pos hlt, List.mem_cons, and_iff_right hraises,
        and_iff_right rfl]
    · rw [hsame, or_iff_right (fun h => hraises h.1)]
      obtain ⟨previous, hprevious⟩ := Option.ne_none_iff_exists'.mp hsome
      have hkept : ¬ previous.1 < rankOf py alert :=
        fun hlt => hraises ⟨previous.1, by rw [hprevious]; rfl, hlt⟩
      rw [hprevious, Option.map_some, records, if_neg hkept]
  · rw [inBucket_cons_other hbucket, newSeverityStep_other hbucket,
      or_iff_right (fun h => hbucket h.2.1.symm)]

/-- The walk reports, in each bucket, the alerts that raise the highest rank. -/
theorem mem_newSeverity (current : List ObservedAlert)
    (acc : List (AnomalySignal F) × MaxSeverity) :
    k ∈ signalKeys (current.foldl (newSeverityStep py ops) acc).1 ↔ k ∈ signalKeys acc.1 ∨
      ∃ bucket, ∃ alert ∈ records py ((acc.2 bucket).map Prod.fst) (inBucket bucket current),
        k = ("new_severity", alert.key) := by
  induction current generalizing acc with
  | nil =>
      have hnone : ∀ bucket highest, records py highest (inBucket bucket []) = [] := by
        intro bucket highest
        cases highest with
        | none => rfl
        | some highest => rfl
      simp [hnone]
  | cons alert current ih =>
      rw [List.foldl_cons, ih, mem_newSeverityStep, or_assoc]
      refine or_congr_right ?_
      constructor
      · rintro (⟨hraises, rfl⟩ | ⟨bucket, other, hother, rfl⟩)
        · exact ⟨alert.bucket, alert,
            (@mem_records_cons F py ops acc _ _ _ _).mpr (Or.inl ⟨hraises, rfl, rfl⟩), rfl⟩
        · exact ⟨bucket, other, mem_records_cons.mpr (Or.inr hother), rfl⟩
      · rintro ⟨bucket, other, hother, rfl⟩
        rcases (@mem_records_cons F py ops acc _ _ _ _).mp hother with ⟨hraises, -, rfl⟩ | hother
        · exact Or.inl ⟨hraises, rfl⟩
        · exact Or.inr ⟨bucket, other, hother, rfl⟩

/-- One alert of the history. -/
theorem historySeverity_fst (py : PyText) (maxSeverity : MaxSeverity) (alert : ObservedAlert)
    (bucket : RuleBucket) : (historySeverity py maxSeverity alert bucket).map Prod.fst =
      if alert.bucket = bucket then
        some (max (((maxSeverity bucket).map Prod.fst).getD (-1)) (rankOf py alert))
      else (maxSeverity bucket).map Prod.fst := by
  have hrank : (severityRank py alert.severity.val : Int) = rankOf py alert := rfl
  unfold historySeverity
  rw [hrank]
  by_cases hbucket : alert.bucket = bucket
  · subst hbucket
    rw [if_pos rfl]
    cases hprevious : maxSeverity alert.bucket with
    | none =>
        have hpos : 0 ≤ rankOf py alert := Int.natCast_nonneg _
        have hhigher : rankOf py alert > -1 := by omega
        rw [Option.getD_none, if_pos hhigher, Function.update_self, Option.map_some,
          Option.map_none, Option.getD_none, max_eq_right (Int.le_of_lt hhigher)]
    | some previous =>
        rw [Option.getD_some, Option.map_some, Option.getD_some]
        split
        next hhigher =>
          rw [Function.update_self, Option.map_some, max_eq_right (Int.le_of_lt hhigher)]
        next hlower => rw [hprevious, Option.map_some, max_eq_left (Int.not_lt.mp hlower)]
  · rw [if_neg hbucket]
    split
    · rw [Function.update_of_ne (Ne.symm hbucket)]
    · rfl

/-- A maximum that is kept while a list is walked. -/
theorem foldl_max_some (ranks : List Int) (highest : Int) :
    ranks.foldl (fun m rank => some (max (m.getD (-1)) rank)) (some highest) =
      some (ranks.foldl max highest) := by
  induction ranks generalizing highest with
  | nil => rfl
  | cons rank ranks ih => exact ih (max highest rank)

theorem history_foldl (py : PyText) (history : List ObservedAlert) (maxSeverity : MaxSeverity)
    (bucket : RuleBucket) :
    (history.foldl (historySeverity py) maxSeverity bucket).map Prod.fst =
      ((inBucket bucket history).map (rankOf py)).foldl
        (fun m rank => some (max (m.getD (-1)) rank)) ((maxSeverity bucket).map Prod.fst) := by
  induction history generalizing maxSeverity with
  | nil => rfl
  | cons alert history ih =>
      rw [List.foldl_cons, ih, historySeverity_fst]
      by_cases hbucket : alert.bucket = bucket
      · subst hbucket
        rw [if_pos rfl, inBucket_cons_self]
        rfl
      · rw [if_neg hbucket, inBucket_cons_other hbucket]

/-- The history leaves the highest rank of each rule. -/
theorem history_topRank (py : PyText) (history : List ObservedAlert) (bucket : RuleBucket) :
    (history.foldl (historySeverity py) (fun _ => none) bucket).map Prod.fst =
      topRank py history bucket := by
  rw [history_foldl, topRank, Option.map_none]
  cases hranks : (inBucket bucket history).map (rankOf py) with
  | nil => rfl
  | cons rank ranks =>
      have hmem : rank ∈ (inBucket bucket history).map (rankOf py) :=
        hranks ▸ List.mem_cons_self
      obtain ⟨alert, -, rfl⟩ := List.mem_map.mp hmem
      have hpos : 0 ≤ rankOf py alert := Int.natCast_nonneg _
      rw [List.foldl_cons, Option.getD_none, max_eq_right (by omega), foldl_max_some,
        List.max?_cons']

/-! ## Counts -/

/-- The count of a key passes the test against its baseline. -/
def Spikes (ops : FloatOps F) (history : List ObservedAlert) (baselineDays : Int) (threshold : F)
    (key : AlertKey) (count : Nat) : Prop :=
  let values := baselineValues ops history baselineDays key
  values ≠ [] ∧
    ops.lt threshold (zscore ops (ops.ofInt count) (ops.mean values) (stdev ops values)) = true

theorem mem_countSpikeStep {history : List ObservedAlert} {baselineDays : Int} {threshold : F}
    {counted : AlertKey × Nat} :
    k ∈ signalKeys (countSpikeStep ops history baselineDays threshold signals counted) ↔
      k ∈ signalKeys signals ∨
        Spikes ops history baselineDays threshold counted.1 counted.2 ∧
          k = ("count_spike", counted.1) := by
  unfold countSpikeStep Spikes
  dsimp only
  by_cases hempty : baselineValues ops history baselineDays counted.1 = []
  · rw [hempty]
    exact (or_iff_left (fun h => h.1.1 rfl)).symm
  · have hvalues : (baselineValues ops history baselineDays counted.1).isEmpty = false := by
      simpa using hempty
    rw [hvalues, if_neg Bool.false_ne_true]
    split
    next hlt =>
      rw [mem_emit, and_iff_right ⟨hempty, hlt⟩]
      rfl
    next hlt => exact (or_iff_left (fun h => hlt h.1.2)).symm

theorem mem_countSpikes {history : List ObservedAlert} {baselineDays : Int} {threshold : F}
    (counts : List (AlertKey × Nat)) (signals : List (AnomalySignal F)) :
    k ∈ signalKeys (counts.foldl (countSpikeStep ops history baselineDays threshold) signals) ↔
      k ∈ signalKeys signals ∨ ∃ counted ∈ counts,
        Spikes ops history baselineDays threshold counted.1 counted.2 ∧
          k = ("count_spike", counted.1) := by
  induction counts generalizing signals with
  | nil => simp
  | cons counted counts ih =>
      rw [List.foldl_cons, ih, mem_countSpikeStep, or_assoc]
      simp only [List.mem_cons, or_and_right, exists_or, exists_eq_left]

/-! ## All signals -/

/-- How many alerts have a key. -/
def countOf (key : AlertKey) (alerts : List ObservedAlert) : Nat :=
  (alerts.filter (fun alert => alert.key = key)).length

theorem mem_counts {key : AlertKey} {n : Nat} {alerts : List ObservedAlert} :
    (key, n) ∈ countEach (alerts.map ObservedAlert.key) ↔
      key ∈ alerts.map ObservedAlert.key ∧ n = countOf key alerts := by
  rw [mem_countEach, timesIn, List.filter_map, List.length_map]
  rfl

/-- **The keys of the signals.** -/
theorem mem_signalKeys {history current : List ObservedAlert} {threshold : F}
    {baselineDays : Int} :
    k ∈ signalKeys (computeAnomalySignals py ops history current threshold baselineDays) ↔
      (∃ alert ∈ current, NewIp (history.map ObservedAlert.key) alert ∧
        k = ("first_seen_ip", alert.key)) ∨
      (∃ bucket, ∃ alert ∈ records py (topRank py history bucket) (inBucket bucket current),
        k = ("new_severity", alert.key)) ∨
      ∃ key ∈ current.map ObservedAlert.key,
        Spikes ops history baselineDays threshold key (countOf key current) ∧
          k = ("count_spike", key) := by
  unfold computeAnomalySignals
  dsimp only
  rw [mem_countSpikes, mem_newSeverity, mem_firstSeen, or_assoc]
  have hnone : k ∉ signalKeys ([] : List (AnomalySignal F)) := List.not_mem_nil
  rw [or_iff_right hnone]
  simp only [history_topRank]
  refine or_congr_right (or_congr_right ?_)
  constructor
  · rintro ⟨⟨key, n⟩, hcounted, hspikes, rfl⟩
    obtain ⟨hkey, rfl⟩ := mem_counts.mp hcounted
    exact ⟨key, hkey, hspikes, rfl⟩
  · rintro ⟨key, hkey, hspikes, rfl⟩
    exact ⟨(key, countOf key current), mem_counts.mpr ⟨hkey, rfl⟩, hspikes, rfl⟩

/-! ## No key twice -/

theorem nodup_firstSeenStep {acc : List (AnomalySignal F) × List AlertKey} (alert : ObservedAlert)
    (h : (signalKeys acc.1).Nodup) : (signalKeys (firstSeenStep ops acc alert).1).Nodup := by
  by_cases hnew : NewIp acc.2 alert
  · rw [firstSeenStep_of_new hnew]
    exact nodup_emit h
  · rwa [firstSeenStep_of_not_new hnew]

theorem nodup_newSeverityStep {acc : List (AnomalySignal F) × MaxSeverity}
    (alert : ObservedAlert) (h : (signalKeys acc.1).Nodup) :
    (signalKeys (newSeverityStep py ops acc alert).1).Nodup := by
  rcases newSeverityStep_cases py ops acc alert with
    ⟨-, hsame, -⟩ | ⟨-, ⟨signal, -, hemit⟩, -⟩ | ⟨-, -, hsame⟩
  · rwa [hsame]
  · rw [hemit]
    exact nodup_emit h
  · rwa [hsame]

theorem nodup_countSpikeStep {history : List ObservedAlert} {baselineDays : Int} {threshold : F}
    (counted : AlertKey × Nat) (h : (signalKeys signals).Nodup) :
    (signalKeys (countSpikeStep ops history baselineDays threshold signals counted)).Nodup := by
  unfold countSpikeStep
  dsimp only
  split
  · exact h
  · split
    · exact nodup_emit h
    · exact h

theorem nodup_signalKeys (history current : List ObservedAlert) (threshold : F)
    (baselineDays : Int) :
    (signalKeys (computeAnomalySignals py ops history current threshold baselineDays)).Nodup := by
  have hfirst : (signalKeys
      (current.foldl (firstSeenStep ops) ([], history.map ObservedAlert.key)).1).Nodup :=
    List.foldlRecOn (motive := fun acc : List (AnomalySignal F) × List AlertKey =>
      (signalKeys acc.1).Nodup) current (firstSeenStep ops) List.nodup_nil
      (fun _ h alert _ => nodup_firstSeenStep alert h)
  have hsecond : ∀ maxSeverity, (signalKeys (current.foldl (newSeverityStep py ops)
      ((current.foldl (firstSeenStep ops) ([], history.map ObservedAlert.key)).1,
        maxSeverity)).1).Nodup :=
    fun maxSeverity => List.foldlRecOn (motive := fun acc : List (AnomalySignal F) × MaxSeverity =>
      (signalKeys acc.1).Nodup) current (newSeverityStep py ops) hfirst
      (fun _ h alert _ => nodup_newSeverityStep alert h)
  exact List.foldlRecOn (motive := fun signals : List (AnomalySignal F) =>
    (signalKeys signals).Nodup) _ _ (hsecond _)
    (fun _ h counted _ => nodup_countSpikeStep counted h)

/-- **First-seen addresses are reported exactly once.**  No two signals have the same key, and an
address is reported as new under a partner and a rule if and only if it is there, a current alert
has the three, and no alert of the history does. -/
theorem first_seen_exactly_once (py : PyText) (ops : FloatOps F)
    (history current : List ObservedAlert) (threshold : F) (baselineDays : Int) :
    (signalKeys (computeAnomalySignals py ops history current threshold baselineDays)).Nodup ∧
      ∀ partner ruleName sourceIp, ("first_seen_ip", partner, ruleName, sourceIp) ∈
          signalKeys (computeAnomalySignals py ops history current threshold baselineDays) ↔
        (∃ ip, sourceIp = some ip ∧ ip.val ≠ "") ∧
          (∃ alert ∈ current, alert.key = (partner, ruleName, sourceIp)) ∧
          ¬ ∃ alert ∈ history, alert.key = (partner, ruleName, sourceIp) := by
  refine ⟨nodup_signalKeys history current threshold baselineDays,
    fun partner ruleName sourceIp => ?_⟩
  rw [mem_signalKeys]
  constructor
  · rintro (⟨alert, hmem, ⟨⟨ip, hip, hne⟩, hnew⟩, hkey⟩ | ⟨bucket, alert, -, hkey⟩
      | ⟨key, -, -, hkey⟩)
    · have hsame : alert.key = (partner, ruleName, sourceIp) := (congrArg Prod.snd hkey).symm
      have hsource : sourceIp = alert.sourceIp := congrArg (fun key => key.2.2) hsame.symm
      refine ⟨⟨ip, hsource.trans hip, hne⟩, ⟨alert, hmem, hsame⟩, ?_⟩
      rintro ⟨earlier, hearlier, hearlierKey⟩
      exact hnew (List.mem_map.mpr ⟨earlier, hearlier, hearlierKey.trans hsame.symm⟩)
    · exact absurd (congrArg Prod.fst hkey) (by simp)
    · exact absurd (congrArg Prod.fst hkey) (by simp)
  · rintro ⟨⟨ip, hip, hne⟩, ⟨alert, hmem, hsame⟩, hnever⟩
    have hsource : alert.sourceIp = some ip :=
      (congrArg (fun key => key.2.2) hsame).trans hip
    refine Or.inl ⟨alert, hmem, ⟨⟨ip, hsource, hne⟩, fun h => hnever ?_⟩, ?_⟩
    · obtain ⟨earlier, hearlier, hkey⟩ := List.mem_map.mp h
      exact ⟨earlier, hearlier, hkey.trans hsame⟩
    · rw [hsame]

end Keys

end OpenSoar
