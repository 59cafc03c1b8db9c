/-
# `OpenSoar.Ai.Order` — the order of the alerts

The docstring of `compute_anomaly_signals` takes both lists "in any order".  The addresses do, and a
history with no more days than the baseline.  What the order decides is which of several rising
severities is met first, the first severity of a rule without history, and which days of a longer
history are the last `baseline_days` of the dictionary.

Each of these can be arranged: any choice of days for the baseline (`exists_baseline`), and any
alert at the front of the current ones.  So the keys of the signals are those of the two sets
of alerts exactly when none of the three makes a difference (`keys_any_order_iff`).
-/
import OpenSoar.Ai.Spikes

namespace OpenSoar

open Python

/-! ## Counting in another order -/

section Counting

variable {κ : Type} [DecidableEq κ] {xs ys : List κ}

theorem timesIn_eq_zero {value : κ} (h : value ∉ xs) : timesIn xs value = 0 := by
  rw [timesIn, List.length_eq_zero_iff, List.filter_eq_nil_iff]
  intro value' hvalue' hsame
  exact h (of_decide_eq_true hsame ▸ hvalue')

theorem timesIn_perm (h : xs.Perm ys) (value : κ) : timesIn xs value = timesIn ys value :=
  (h.filter _).length_eq

theorem timesIn_filter {p : κ → Bool} {value : κ} (h : p value = true) :
    timesIn (xs.filter p) value = timesIn xs value := by
  rw [timesIn, timesIn, List.filter_filter]
  refine congrArg List.length (List.filter_congr (fun value' _ => ?_))
  by_cases hsame : value' = value
  · rw [hsame, h, Bool.and_true]
  · rw [decide_eq_false hsame, Bool.false_and]

theorem fst_countEach (xs : List κ) : (countEach xs).map Prod.fst = distinctOn id xs := by
  rw [countEach_eq, List.map_map]
  exact List.map_id _

theorem nodup_fst_countEach (xs : List κ) : ((countEach xs).map Prod.fst).Nodup := by
  rw [fst_countEach, ← List.map_id (distinctOn id xs)]
  exact nodup_distinctOn id xs

theorem nodup_countEach (xs : List κ) : (countEach xs).Nodup :=
  (nodup_fst_countEach xs).of_map _

theorem countEach_perm (h : xs.Perm ys) : (countEach xs).Perm (countEach ys) := by
  refine (List.perm_ext_iff_of_nodup (nodup_countEach xs) (nodup_countEach ys)).mpr ?_
  rintro ⟨value, n⟩
  rw [mem_countEach, mem_countEach, h.mem_iff, timesIn_perm h]

/-- Values that two lists do not share are counted one list after the other. -/
theorem countEach_append (h : ∀ y ∈ ys, y ∉ xs) :
    countEach (xs ++ ys) = countEach xs ++ countEach ys := by
  have hdistinct : distinctOn id (xs ++ ys) = distinctOn id xs ++ distinctOn id ys :=
    distinctOn_append_disjoint id (fun y hy x hx (hsame : x = y) => h y hy (hsame ▸ hx))
  rw [countEach_eq, hdistinct, List.map_append, countEach_eq, countEach_eq]
  congr 1
  · refine List.map_congr_left (fun x hx => ?_)
    have hx' : x ∉ ys := fun hy => h x hy (mem_distinctOn_id.mp hx)
    rw [timesIn_append, timesIn_eq_zero hx', Nat.add_zero]
  · refine List.map_congr_left (fun y hy => ?_)
    rw [timesIn_append, timesIn_eq_zero (h y (mem_distinctOn_id.mp hy)), Nat.zero_add]

/-- Some of the counts, as the counts of a part of the list. -/
theorem countEach_filter {chosen : List (κ × Nat)} (h : chosen.Sublist (countEach xs)) :
    (countEach (xs.filter (fun x => x ∈ chosen.map Prod.fst))).Perm chosen := by
  have htimes : ∀ value ∈ chosen.map Prod.fst,
      timesIn (xs.filter (fun x => x ∈ chosen.map Prod.fst)) value = timesIn xs value :=
    fun value hvalue => timesIn_filter (p := fun x => decide (x ∈ chosen.map Prod.fst))
      (decide_eq_true hvalue)
  refine (List.perm_ext_iff_of_nodup (nodup_countEach _) ((nodup_countEach xs).sublist h)).mpr ?_
  rintro ⟨value, n⟩
  rw [mem_countEach, List.mem_filter, decide_eq_true_iff]
  constructor
  · rintro ⟨⟨hvalue, hchosen⟩, rfl⟩
    rw [htimes value hchosen]
    obtain ⟨⟨value', n'⟩, hmem, rfl⟩ := List.mem_map.mp hchosen
    obtain ⟨-, rfl⟩ := mem_countEach.mp (h.subset hmem)
    exact hmem
  · intro hmem
    obtain ⟨hvalue, rfl⟩ := mem_countEach.mp (h.subset hmem)
    have hchosen : value ∈ chosen.map Prod.fst := List.mem_map.mpr ⟨_, hmem, rfl⟩
    exact ⟨⟨hvalue, hchosen⟩, (htimes value hchosen).symm⟩

end Counting

/-! ## The days of a baseline -/

section Baseline

variable {history history' : List ObservedAlert} {key : AlertKey} {baselineDays : Int}
  {threshold : EReal} {counts counts' : List Nat} {count : Nat}

/-- The counts of a key on its days, in the order of the dictionary. -/
def dailyCounts (history : List ObservedAlert) (key : AlertKey) : List Nat :=
  (historyDaily history key).map Prod.snd

theorem dailyCounts_perm (h : history'.Perm history) :
    (dailyCounts history' key).Perm (dailyCounts history key) :=
  (countEach_perm ((h.filter _).map _)).map _

theorem Outlies.perm (h : counts.Perm counts') :
    Outlies threshold counts count ↔ Outlies threshold counts' count := by
  have hsample : (asSample counts).Perm (asSample counts') := h.map _
  rw [Outlies, Outlies, score, score, Sample.stdev_perm hsample, Sample.mean_perm hsample]
  exact and_congr_left' (not_congr ⟨fun hnil => List.nil_perm.mp (hnil ▸ h),
    fun hnil => List.perm_nil.mp (hnil ▸ h)⟩)

theorem lastOf_of_pos {α : Type} (hpos : 1 ≤ baselineDays) (values : List α) :
    lastOf baselineDays values = values.drop (values.length - baselineDays.toNat) :=
  if_pos (Int.lt_of_lt_of_le Int.zero_lt_one hpos)

/-- A history with no more days than the baseline. -/
theorem baselineCounts_of_few (hpos : 1 ≤ baselineDays)
    (hfew : (dailyCounts history key).length ≤ baselineDays.toNat) :
    baselineCounts history baselineDays key =
      if (dailyCounts history key).isEmpty then []
      else dailyCounts history key ++
        List.replicate (baselineDays.toNat - (dailyCounts history key).length) 0 := by
  have hall : lastOf baselineDays (dailyCounts history key) = dailyCounts history key := by
    rw [lastOf_of_pos hpos, Nat.sub_eq_zero_of_le hfew, List.drop_zero]
  unfold baselineCounts
  rw [← dailyCounts, hall]

/-- A history with more. -/
theorem baselineCounts_of_many (hpos : 1 ≤ baselineDays)
    (hmany : baselineDays.toNat ≤ (dailyCounts history key).length) :
    baselineCounts history baselineDays key = (dailyCounts history key).drop
      ((dailyCounts history key).length - baselineDays.toNat) := by
  have hlength : ((dailyCounts history key).drop
      ((dailyCounts history key).length - baselineDays.toNat)).length = baselineDays.toNat := by
    rw [List.length_drop]
    omega
  unfold baselineCounts
  rw [← dailyCounts, lastOf_of_pos hpos]
  dsimp only
  rw [hlength, Nat.sub_self, List.replicate_zero, List.append_nil]
  split
  next hnil => exact (List.isEmpty_iff.mp hnil).symm
  next => rfl

/-- The days of the alerts of a key. -/
def keyDays (history : List ObservedAlert) (key : AlertKey) : List Timestamp :=
  (history.filter (fun alert => alert.key = key)).map (fun alert => dayBucket alert.createdAt)

theorem dailyCounts_eq (history : List ObservedAlert) (key : AlertKey) :
    dailyCounts history key = (countEach (keyDays history key)).map Prod.snd := rfl

/-- The alert is of one of the days. -/
def onDays (days : List Timestamp) (alert : ObservedAlert) : Bool :=
  decide (dayBucket alert.createdAt ∈ days)

section Split

variable {days : List Timestamp}

theorem keyDays_onDays : keyDays (history.filter (onDays days)) key =
    (keyDays history key).filter (fun day => day ∈ days) := by
  rw [keyDays, keyDays, List.filter_comm, List.filter_map]
  rfl

theorem mem_of_keyDays_onDays {day : Timestamp}
    (h : day ∈ keyDays (history.filter (onDays days)) key) : day ∈ days := by
  rw [keyDays_onDays] at h
  exact of_decide_eq_true (List.mem_filter.mp h).2

theorem not_mem_of_keyDays {day : Timestamp}
    (h : day ∈ keyDays (history.filter (fun alert => !onDays days alert)) key) : day ∉ days := by
  obtain ⟨alert, halert, rfl⟩ := List.mem_map.mp h
  have hout := (List.mem_filter.mp (List.mem_filter.mp halert).1).2
  rw [onDays, Bool.not_eq_true', decide_eq_false_iff_not] at hout
  exact hout

/-- The alerts of some days after all others are counted last. -/
theorem dailyCounts_split :
    dailyCounts (history.filter (fun alert => !onDays days alert) ++
        history.filter (onDays days)) key =
      dailyCounts (history.filter (fun alert => !onDays days alert)) key ++
        dailyCounts (history.filter (onDays days)) key := by
  rw [dailyCounts_eq, dailyCounts_eq, dailyCounts_eq, ← List.map_append, ← countEach_append]
  · rw [keyDays, List.filter_append, List.map_append]
    rfl
  · exact fun day hlate hearly => not_mem_of_keyDays hearly (mem_of_keyDays_onDays hlate)

end Split

/-- **Any days can be the last.**  For every choice of as many days as the baseline has, an order
of the history makes the baseline of their counts. -/
theorem exists_baseline (hpos : 1 ≤ baselineDays) {days : List Nat}
    (hlength : days.length = baselineDays.toNat) (hdays : days.Subperm (dailyCounts history key)) :
    ∃ history', history'.Perm history ∧
      (baselineCounts history' baselineDays key).Perm days := by
  obtain ⟨counts, hcounts, hsub⟩ := hdays
  obtain ⟨chosen, hchosen, rfl⟩ := List.sublist_map_iff.mp hsub
  have hlate : (dailyCounts (history.filter (onDays (chosen.map Prod.fst))) key).Perm days := by
    rw [dailyCounts_eq, keyDays_onDays]
    exact ((countEach_filter hchosen).map _).trans hcounts
  -- the chosen days come last
  refine ⟨history.filter (fun alert => !onDays (chosen.map Prod.fst) alert) ++
      history.filter (onDays (chosen.map Prod.fst)),
    List.perm_append_comm.trans
      (List.filter_append_perm (onDays (chosen.map Prod.fst)) history), ?_⟩
  have hmany : baselineDays.toNat ≤
      (dailyCounts (history.filter (fun alert => !onDays (chosen.map Prod.fst) alert) ++
        history.filter (onDays (chosen.map Prod.fst))) key).length := by
    rw [dailyCounts_split, List.length_append, hlate.length_eq, hlength]
    exact Nat.le_add_left _ _
  rw [baselineCounts_of_many hpos hmany, dailyCounts_split, List.length_append, hlate.length_eq,
    hlength, Nat.add_sub_cancel, List.drop_left]
  exact hlate

end Baseline

/-! ## The records of a rule -/

section Records

variable {py : PyText} {alert alert' first : ObservedAlert} {alerts : List ObservedAlert}
  {highest : Int} {history current : List ObservedAlert} {bucket : RuleBucket}

theorem of_mem_records (h : alert ∈ records py (some highest) alerts) :
    alert ∈ alerts ∧ highest < rankOf py alert := by
  induction alerts generalizing highest with
  | nil => cases h
  | cons first alerts ih =>
      rw [records] at h
      split at h
      next hlt =>
        rcases List.mem_cons.mp h with rfl | h
        · exact ⟨List.mem_cons_self, hlt⟩
        · exact ⟨List.mem_cons_of_mem _ (ih h).1, lt_trans hlt (ih h).2⟩
      next => exact ⟨List.mem_cons_of_mem _ (ih h).1, (ih h).2⟩

/-- An alert above the highest rank is a record, or comes after one. -/
theorem exists_record (hmem : alert ∈ alerts) (hlt : highest < rankOf py alert) :
    ∃ first, first ∈ records py (some highest) alerts := by
  induction alerts with
  | nil => cases hmem
  | cons first alerts ih =>
      rw [records]
      split
      next => exact ⟨first, List.mem_cons_self⟩
      next hle =>
        rcases List.mem_cons.mp hmem with rfl | hmem
        · exact absurd hlt hle
        · exact ih hmem

theorem records_eq_nil (h : ∀ alert ∈ alerts, rankOf py alert ≤ highest) :
    records py (some highest) alerts = [] := by
  refine List.eq_nil_iff_forall_not_mem.mpr (fun alert halert => ?_)
  obtain ⟨hmem, hlt⟩ := of_mem_records halert
  exact absurd (h alert hmem) (not_le_of_gt hlt)

/-- An alert of the highest rank in front leaves no record to the others. -/
theorem records_of_max (hlt : highest < rankOf py first)
    (hmax : ∀ alert ∈ alerts, rankOf py alert ≤ rankOf py first) :
    records py (some highest) (first :: alerts) = [first] := by
  rw [records, if_pos hlt, records_eq_nil hmax]

theorem mem_inBucket : alert ∈ inBucket bucket alerts ↔ alert ∈ alerts ∧ alert.bucket = bucket := by
  rw [inBucket, List.mem_filter, decide_eq_true_iff]

theorem topRank_eq_none : topRank py history bucket = none ↔
    ∀ earlier ∈ history, earlier.bucket ≠ bucket := by
  rw [topRank, List.max?_eq_none_iff, List.map_eq_nil_iff, List.eq_nil_iff_forall_not_mem]
  simp only [mem_inBucket, not_and, ne_eq]

theorem topRank_lt (h : topRank py history bucket = some highest) (rank : Int) :
    highest < rank ↔ ∀ earlier ∈ history, earlier.bucket = bucket → rankOf py earlier < rank := by
  obtain ⟨hmem, hmax⟩ := List.max?_eq_some_iff.mp h
  constructor
  · intro hlt earlier hearlier hbucket
    exact lt_of_le_of_lt
      (hmax _ (List.mem_map_of_mem (mem_inBucket.mpr ⟨hearlier, hbucket⟩))) hlt
  · intro hall
    obtain ⟨earlier, hearlier, rfl⟩ := List.mem_map.mp hmem
    obtain ⟨hearlier, hbucket⟩ := mem_inBucket.mp hearlier
    exact hall earlier hearlier hbucket

/-- An alert above all of the history of its rule. -/
structure Rises (py : PyText) (history : List ObservedAlert) (alert : ObservedAlert) : Prop where
  known : ∃ earlier ∈ history, earlier.bucket = alert.bucket
  above : ∀ earlier ∈ history, earlier.bucket = alert.bucket →
    rankOf py earlier < rankOf py alert

theorem rises_iff (h : topRank py history alert.bucket = some highest) :
    Rises py history alert ↔ highest < rankOf py alert := by
  rw [topRank_lt h]
  refine ⟨Rises.above, fun habove => ⟨?_, habove⟩⟩
  by_contra hnone
  have htop : topRank py history alert.bucket = none :=
    topRank_eq_none.mpr (fun earlier hearlier hbucket => hnone ⟨earlier, hearlier, hbucket⟩)
  rw [h] at htop
  cases htop

/-- The rises of a rule are from one address. -/
def OneAddress (py : PyText) (history current : List ObservedAlert) : Prop :=
  ∀ a ∈ current, ∀ b ∈ current, a.bucket = b.bucket → Rises py history a → Rises py history b →
    a.sourceIp = b.sourceIp

/-- The alerts of a rule without history are of one rank. -/
def OneRank (py : PyText) (history current : List ObservedAlert) : Prop :=
  ∀ a ∈ current, ∀ b ∈ current, a.bucket = b.bucket →
    (∀ earlier ∈ history, earlier.bucket ≠ a.bucket) → rankOf py a = rankOf py b

theorem key_eq (hbucket : alert.bucket = alert'.bucket) (hip : alert.sourceIp = alert'.sourceIp) :
    alert.key = alert'.key := by
  have hpartner : alert.partner = alert'.partner := congrArg Prod.fst hbucket
  have hrule : alert.ruleName = alert'.ruleName := congrArg Prod.snd hbucket
  rw [ObservedAlert.key, ObservedAlert.key, hpartner, hrule, hip]

theorem bucket_of_key (h : alert.key = alert'.key) : alert.bucket = alert'.bucket :=
  congrArg (fun key : AlertKey => (key.1, key.2.1)) h

/-- Then the reports are those of the alerts that rise, in any order. -/
theorem records_of_oneAddress (haddress : OneAddress py history current)
    (hrank : OneRank py history current) {k : AnomalyKey} :
    (∃ bucket, ∃ alert ∈ records py (topRank py history bucket) (inBucket bucket current),
        k = ("new_severity", alert.key)) ↔
      ∃ alert ∈ current, Rises py history alert ∧ k = ("new_severity", alert.key) := by
  constructor
  · rintro ⟨bucket, alert, hrecord, rfl⟩
    cases htop : topRank py history bucket with
    | none =>
        rw [htop] at hrecord
        cases hcurrent : inBucket bucket current with
        | nil =>
            rw [hcurrent] at hrecord
            cases hrecord
        | cons first rest =>
            have hfirst : first ∈ inBucket bucket current := hcurrent ▸ List.mem_cons_self
            obtain ⟨hstored, rfl⟩ := mem_inBucket.mp hfirst
            have hsame : ∀ other ∈ rest, rankOf py other ≤ rankOf py first := by
              intro other hother
              have hother : other ∈ inBucket first.bucket current :=
                hcurrent ▸ List.mem_cons_of_mem _ hother
              obtain ⟨hotherStored, hbucket⟩ := mem_inBucket.mp hother
              exact le_of_eq (hrank first hstored other hotherStored hbucket.symm
                (topRank_eq_none.mp htop)).symm
            rw [hcurrent, records, records_eq_nil hsame] at hrecord
            cases hrecord
    | some highest =>
        rw [htop] at hrecord
        obtain ⟨hmem, hlt⟩ := of_mem_records hrecord
        obtain ⟨hstored, rfl⟩ := mem_inBucket.mp hmem
        exact ⟨alert, hstored, (rises_iff htop).mpr hlt, rfl⟩
  · rintro ⟨alert, hmem, hrises, rfl⟩
    cases htop : topRank py history alert.bucket with
    | none =>
        obtain ⟨earlier, hearlier, hbucket⟩ := hrises.known
        exact absurd hbucket (topRank_eq_none.mp htop earlier hearlier)
    | some highest =>
        obtain ⟨first, hfirst⟩ := exists_record (mem_inBucket.mpr ⟨hmem, rfl⟩)
          ((rises_iff htop).mp hrises)
        obtain ⟨hfirstMem, hlt⟩ := of_mem_records hfirst
        obtain ⟨hfirstMem, hbucket⟩ := mem_inBucket.mp hfirstMem
        have hfirstRises : Rises py history first := (rises_iff (hbucket ▸ htop)).mpr hlt
        refine ⟨alert.bucket, first, by rw [htop]; exact hfirst, ?_⟩
        rw [key_eq hbucket (haddress first hfirstMem alert hmem hbucket hfirstRises hrises)]

/-! ## The other orders -/

/-- An alert can be in front. -/
theorem exists_front (hmem : alert ∈ current) :
    ∃ rest, (alert :: rest).Perm current ∧ ∀ other ∈ current, other ≠ alert → other ∈ rest := by
  obtain ⟨before, after, rfl⟩ := List.append_of_mem hmem
  refine ⟨before ++ after, List.perm_middle.symm, fun other hother hne => ?_⟩
  rcases List.mem_append.mp hother with h | h
  · exact List.mem_append_left _ h
  · rcases List.mem_cons.mp h with h | h
    · exact absurd h hne
    · exact List.mem_append_right _ h

/-- A rule with an alert has one of the highest rank. -/
theorem exists_highest (py : PyText) (hmem : alert ∈ current) :
    ∃ first ∈ current, first.bucket = alert.bucket ∧
      ∀ other ∈ current, other.bucket = alert.bucket → rankOf py other ≤ rankOf py first := by
  cases htop : topRank py current alert.bucket with
  | none => exact absurd rfl (topRank_eq_none.mp htop alert hmem)
  | some highest =>
      obtain ⟨hmem, hmax⟩ := List.max?_eq_some_iff.mp htop
      obtain ⟨first, hfirst, rfl⟩ := List.mem_map.mp hmem
      obtain ⟨hstored, hbucket⟩ := mem_inBucket.mp hfirst
      exact ⟨first, hstored, hbucket, fun other hother hsame =>
        hmax _ (List.mem_map_of_mem (mem_inBucket.mpr ⟨hother, hsame⟩))⟩

theorem inBucket_front (rest : List ObservedAlert) (h : alert.bucket = bucket) :
    inBucket bucket (alert :: rest) = alert :: inBucket bucket rest := by
  subst h
  exact inBucket_cons_self alert rest

end Records

section Orders

variable {py : PyText} {history current : List ObservedAlert} {threshold : EReal}
  {baselineDays : Int} {key : AlertKey}

/-- The keys of the signals are those of every other order of the two lists. -/
def AnyOrder (py : PyText) (history current : List ObservedAlert) (threshold : EReal)
    (baselineDays : Int) : Prop :=
  ∀ history' current' : List ObservedAlert, history'.Perm history → current'.Perm current →
    ∀ k, k ∈ signalKeys
        (computeAnomalySignals py .exact history' current' threshold baselineDays) ↔
      k ∈ signalKeys (computeAnomalySignals py .exact history current threshold baselineDays)

/-- Whichever days the baseline has, the test has one answer. -/
def OneAnswer (history current : List ObservedAlert) (threshold : EReal) (baselineDays : Int) :
    Prop :=
  ∀ key ∈ current.map ObservedAlert.key, ∀ days days' : List Nat,
    days.length = baselineDays.toNat → days'.length = baselineDays.toNat →
    days.Subperm (dailyCounts history key) → days'.Subperm (dailyCounts history key) →
    (Outlies threshold days (countOf key current) ↔ Outlies threshold days' (countOf key current))

theorem mem_severityKeys : ("new_severity", key) ∈ signalKeys
      (computeAnomalySignals py .exact history current threshold baselineDays) ↔
    ∃ bucket, ∃ alert ∈ records py (topRank py history bucket) (inBucket bucket current),
      alert.key = key := by
  rw [mem_signalKeys]
  constructor
  · rintro (⟨alert, -, -, hkey⟩ | ⟨bucket, alert, halert, hkey⟩ | ⟨key', -, -, hkey⟩)
    · exact absurd (congrArg Prod.fst hkey) (by simp)
    · exact ⟨bucket, alert, halert, (congrArg Prod.snd hkey).symm⟩
    · exact absurd (congrArg Prod.fst hkey) (by simp)
  · rintro ⟨bucket, alert, halert, rfl⟩
    exact Or.inr (Or.inl ⟨bucket, alert, halert, rfl⟩)

/-- Two orders of the current alerts. -/
theorem AnyOrder.severity (h : AnyOrder py history current threshold baselineDays)
    {current' current'' : List ObservedAlert} (hperm : current'.Perm current)
    (hperm' : current''.Perm current) {bucket : RuleBucket} {alert : ObservedAlert}
    (halert : alert ∈ records py (topRank py history bucket) (inBucket bucket current')) :
    ∃ bucket', ∃ alert' ∈ records py (topRank py history bucket') (inBucket bucket' current''),
      alert'.key = alert.key := by
  refine mem_severityKeys.mp ((h history current'' (List.Perm.refl _) hperm' _).mpr ?_)
  exact (h history current' (List.Perm.refl _) hperm _).mp
    (mem_severityKeys.mpr ⟨bucket, alert, halert, rfl⟩)

theorem mem_of_mem_records {highest : Option Int} {alerts : List ObservedAlert}
    {alert : ObservedAlert} (h : alert ∈ records py highest alerts) : alert ∈ alerts := by
  cases highest with
  | some highest => exact (of_mem_records h).1
  | none =>
      cases alerts with
      | nil => cases h
      | cons first rest => exact List.mem_cons_of_mem _ (of_mem_records h).1

/-- The bucket a record is found in is its own. -/
theorem bucket_of_record {highest : Option Int} {bucket : RuleBucket} {alert : ObservedAlert}
    (h : alert ∈ records py highest (inBucket bucket current)) : bucket = alert.bucket :=
  (mem_inBucket.mp (mem_of_mem_records h)).2.symm

/-- **Two rising addresses** of a rule: the order decides which is reported. -/
theorem AnyOrder.oneAddress (h : AnyOrder py history current threshold baselineDays) :
    OneAddress py history current := by
  intro a ha b hb hbucket hrisesA hrisesB
  obtain ⟨first, hfirst, hfirstBucket, hmax⟩ := exists_highest py ha
  obtain ⟨highest, htop⟩ : ∃ highest, topRank py history a.bucket = some highest := by
    refine Option.ne_none_iff_exists'.mp (fun hnone => ?_)
    obtain ⟨earlier, hearlier, hsame⟩ := hrisesA.known
    exact topRank_eq_none.mp hnone earlier hearlier hsame
  have hltA := (rises_iff htop).mp hrisesA
  have hltB := (rises_iff (hbucket ▸ htop)).mp hrisesB
  have hltFirst := lt_of_lt_of_le hltA (hmax a ha rfl)
  -- with an alert of the highest rank in front it is the only report
  obtain ⟨rest, hperm, -⟩ := exists_front hfirst
  have hfew : records py (topRank py history a.bucket) (inBucket a.bucket (first :: rest)) =
      [first] := by
    rw [htop, inBucket_front rest hfirstBucket]
    refine records_of_max hltFirst (fun other hother => ?_)
    obtain ⟨hother, hsame⟩ := mem_inBucket.mp hother
    exact hmax other (hperm.subset (List.mem_cons_of_mem _ hother)) hsame
  have hall : ∀ other ∈ current, other.bucket = a.bucket → highest < rankOf py other →
      other.sourceIp = first.sourceIp := by
    intro other hother hsame hlt
    obtain ⟨rest', hperm', -⟩ := exists_front hother
    have hrecord : other ∈ records py (topRank py history a.bucket)
        (inBucket a.bucket (other :: rest')) := by
      rw [htop, inBucket_front rest' hsame, records, if_pos hlt]
      exact List.mem_cons_self
    obtain ⟨bucket', alert', halert', hkey⟩ := h.severity hperm' hperm hrecord
    have hbucket' : bucket' = a.bucket :=
      (bucket_of_record halert').trans ((bucket_of_key hkey).trans hsame)
    rw [hbucket', hfew, List.mem_singleton] at halert'
    rw [halert'] at hkey
    exact (congrArg (fun key : AlertKey => key.2.2) hkey).symm
  rw [hall a ha rfl hltA, hall b hb hbucket.symm hltB]

/-- **Two ranks** of a rule without history: the order decides whether there is a report. -/
theorem AnyOrder.oneRank (h : AnyOrder py history current threshold baselineDays) :
    OneRank py history current := by
  intro a ha b hb hbucket hnew
  have htop : topRank py history a.bucket = none := topRank_eq_none.mpr hnew
  obtain ⟨first, hfirst, hfirstBucket, hmax⟩ := exists_highest py ha
  -- with an alert of the highest rank in front there is no report
  obtain ⟨rest, hperm, -⟩ := exists_front hfirst
  have hnone : records py (topRank py history a.bucket) (inBucket a.bucket (first :: rest)) =
      [] := by
    rw [htop, inBucket_front rest hfirstBucket, records]
    refine records_eq_nil (fun other hother => ?_)
    obtain ⟨hother, hsame⟩ := mem_inBucket.mp hother
    exact hmax other (hperm.subset (List.mem_cons_of_mem _ hother)) hsame
  have hall : ∀ other ∈ current, other.bucket = a.bucket → rankOf py other = rankOf py first := by
    intro other hother hsame
    by_contra hrank
    have hlt : rankOf py other < rankOf py first := lt_of_le_of_ne (hmax other hother hsame) hrank
    have hne : first ≠ other := by
      rintro rfl
      exact hrank rfl
    obtain ⟨rest', hperm', hrest⟩ := exists_front hother
    obtain ⟨alert, halert⟩ := exists_record
      (mem_inBucket.mpr ⟨hrest first hfirst hne, hfirstBucket⟩) hlt
    have hrecord : alert ∈ records py (topRank py history a.bucket)
        (inBucket a.bucket (other :: rest')) := by
      rw [htop, inBucket_front rest' hsame, records]
      exact halert
    obtain ⟨bucket', alert', halert', hkey⟩ := h.severity hperm' hperm hrecord
    have hbucket' : bucket' = a.bucket :=
      (bucket_of_record halert').trans ((bucket_of_key hkey).trans (bucket_of_record hrecord).symm)
    rw [hbucket', hnone] at halert'
    cases halert'
  rw [hall a ha rfl, hall b hb hbucket.symm]

/-- **Two choices of days** on which the test differs: the order decides which is made. -/
theorem AnyOrder.oneAnswer (hpos : 1 ≤ baselineDays)
    (h : AnyOrder py history current threshold baselineDays) :
    OneAnswer history current threshold baselineDays := by
  have hchoice : ∀ key ∈ current.map ObservedAlert.key, ∀ days : List Nat,
      days.length = baselineDays.toNat → days.Subperm (dailyCounts history key) →
      (Outlies threshold days (countOf key current) ↔
        ("count_spike", key) ∈ signalKeys
          (computeAnomalySignals py .exact history current threshold baselineDays)) := by
    intro key hkey days hlength hdays
    obtain ⟨history', hperm, hbaseline⟩ := exists_baseline hpos hlength hdays
    rw [← h history' current hperm (List.Perm.refl _), mem_spikeKeys, and_iff_right hkey]
    exact (Outlies.perm hbaseline).symm
  intro key hkey days days' hlength hlength' hdays hdays'
  exact (hchoice key hkey days hlength hdays).trans (hchoice key hkey days' hlength' hdays').symm

/-! ## When the order makes no difference -/

theorem rises_perm {history' : List ObservedAlert} (h : history'.Perm history)
    {alert : ObservedAlert} : Rises py history' alert ↔ Rises py history alert := by
  have hmem : ∀ earlier, earlier ∈ history' ↔ earlier ∈ history := fun _ => h.mem_iff
  constructor
  · rintro ⟨⟨earlier, hearlier, hbucket⟩, habove⟩
    exact ⟨⟨earlier, (hmem earlier).mp hearlier, hbucket⟩,
      fun e he => habove e ((hmem e).mpr he)⟩
  · rintro ⟨⟨earlier, hearlier, hbucket⟩, habove⟩
    exact ⟨⟨earlier, (hmem earlier).mpr hearlier, hbucket⟩,
      fun e he => habove e ((hmem e).mp he)⟩

theorem OneAddress.perm {history' current' : List ObservedAlert} (hhistory : history'.Perm history)
    (hcurrent : current'.Perm current) (h : OneAddress py history current) :
    OneAddress py history' current' :=
  fun a ha b hb hbucket hrisesA hrisesB => h a (hcurrent.subset ha) b (hcurrent.subset hb) hbucket
    ((rises_perm hhistory).mp hrisesA) ((rises_perm hhistory).mp hrisesB)

theorem OneRank.perm {history' current' : List ObservedAlert} (hhistory : history'.Perm history)
    (hcurrent : current'.Perm current) (h : OneRank py history current) :
    OneRank py history' current' :=
  fun a ha b hb hbucket hnew => h a (hcurrent.subset ha) b (hcurrent.subset hb) hbucket
    (fun earlier hearlier => hnew earlier (hhistory.symm.subset hearlier))

/-- The test has the same answer for the baseline of another order. -/
theorem OneAnswer.baseline (h : OneAnswer history current threshold baselineDays)
    (hpos : 1 ≤ baselineDays) (hkey : key ∈ current.map ObservedAlert.key)
    {history' : List ObservedAlert} (hperm : history'.Perm history) :
    Outlies threshold (baselineCounts history' baselineDays key) (countOf key current) ↔
      Outlies threshold (baselineCounts history baselineDays key) (countOf key current) := by
  have hdays : (dailyCounts history' key).Perm (dailyCounts history key) := dailyCounts_perm hperm
  rcases Nat.le_total (dailyCounts history key).length baselineDays.toNat with hfew | hmany
  · -- all days are in the baseline
    refine Outlies.perm ?_
    rw [baselineCounts_of_few hpos (hdays.length_eq ▸ hfew), baselineCounts_of_few hpos hfew,
      hdays.length_eq, hdays.isEmpty_eq]
    split
    · exact List.Perm.refl _
    · exact hdays.append_right _
  · have hmany' : baselineDays.toNat ≤ (dailyCounts history' key).length :=
      hdays.length_eq ▸ hmany
    rw [baselineCounts_of_many hpos hmany', baselineCounts_of_many hpos hmany]
    refine h key hkey _ _ ?_ ?_ ?_ (List.drop_sublist _ _).subperm
    · rw [List.length_drop]
      omega
    · rw [List.length_drop]
      omega
    · exact (List.drop_sublist _ _).subperm.trans hdays.subperm

theorem anyOrder_of (hpos : 1 ≤ baselineDays) (haddress : OneAddress py history current)
    (hrank : OneRank py history current)
    (hanswer : OneAnswer history current threshold baselineDays) :
    AnyOrder py history current threshold baselineDays := by
  intro history' current' hhistory hcurrent k
  have hkeys : ∀ key, key ∈ history'.map ObservedAlert.key ↔ key ∈ history.map ObservedAlert.key :=
    fun key => (hhistory.map _).mem_iff
  have hcount : ∀ key, countOf key current' = countOf key current :=
    fun key => (hcurrent.filter _).length_eq
  rw [mem_signalKeys, mem_signalKeys, records_of_oneAddress haddress hrank,
    records_of_oneAddress (haddress.perm hhistory hcurrent) (hrank.perm hhistory hcurrent)]
  simp only [hcurrent.mem_iff, rises_perm hhistory, NewIp, hkeys, (hcurrent.map _).mem_iff, hcount,
    spikes_iff]
  refine or_congr_right
    (or_congr_right (exists_congr (fun key => and_congr_right (fun hkey => ?_))))
  rw [hanswer.baseline hpos hkey hhistory]

end Orders

/-- **When the order of the alerts makes no difference.**  With exact arithmetic, the keys of the
signals are those of every other order of the two lists if and only if all alerts of a rule above
its history are from one address, all alerts of a rule without history are of one rank, and for a
key with more days than the baseline the test has the same answer whichever of them it takes. -/
theorem keys_any_order_iff (py : PyText) (history current : List ObservedAlert)
    (threshold : EReal) (baselineDays : Int) (hpos : 1 ≤ baselineDays) :
    AnyOrder py history current threshold baselineDays ↔
      OneAddress py history current ∧ OneRank py history current ∧
        OneAnswer history current threshold baselineDays :=
  ⟨fun h => ⟨h.oneAddress, h.oneRank, h.oneAnswer hpos⟩,
    fun h => anyOrder_of hpos h.1 h.2.1 h.2.2⟩

theorem busyDay_same : ∀ alert ∈ busyDay, alert.key = (lowAlert 0).key ∧
    alert.severity = (lowAlert 0).severity := by
  decide

/-- The week and the day backwards. -/
theorem spike_in_any_order :
    ("count_spike", (lowAlert 0).key) ∈ signalKeys
        (computeAnomalySignals .ascii .exact steadyWeek.reverse busyDay.reverse
          ((3 : ℝ) : EReal) 7) ↔
      ("count_spike", (lowAlert 0).key) ∈ signalKeys
        (computeAnomalySignals .ascii .exact steadyWeek busyDay ((3 : ℝ) : EReal) 7) := by
  have haddress : OneAddress .ascii steadyWeek busyDay := fun a ha b hb _ _ _ =>
    congrArg (fun key : AlertKey => key.2.2)
      ((busyDay_same a ha).1.trans (busyDay_same b hb).1.symm)
  have hrank : OneRank .ascii steadyWeek busyDay := by
    intro a ha b hb _ _
    rw [rankOf, rankOf, (busyDay_same a ha).2, (busyDay_same b hb).2]
  have hanswer : OneAnswer steadyWeek busyDay ((3 : ℝ) : EReal) 7 := by
    intro key hkey days days' hlength hlength' hdays hdays'
    obtain ⟨alert, halert, rfl⟩ := List.mem_map.mp hkey
    rw [(busyDay_same alert halert).1] at hdays hdays'
    have htwo : ∀ n ∈ dailyCounts steadyWeek (lowAlert 0).key, n = 2 := by decide +kernel
    have hconst : days = days' := by
      rw [List.eq_replicate_of_mem (fun n hn => htwo n (hdays.subset hn)),
        List.eq_replicate_of_mem (fun n hn => htwo n (hdays'.subset hn)), hlength, hlength']
    rw [hconst]
  exact (keys_any_order_iff .ascii steadyWeek busyDay ((3 : ℝ) : EReal) 7 (by decide)).mpr
    ⟨haddress, hrank, hanswer⟩ steadyWeek.reverse busyDay.reverse (List.reverse_perm _)
    (List.reverse_perm _) _

/-- A new rule with a low and a high alert: the high one is reported when it comes second. -/
theorem severity_order_matters :
    ¬ ∀ (py : PyText) (history current : List ObservedAlert) (threshold : EReal)
      (baselineDays : Int), 1 ≤ baselineDays →
        AnyOrder py history current threshold baselineDays := by
  intro hclaim
  have hrank := (hclaim .ascii [] risingAlerts ((3 : ℝ) : EReal) 7 (by decide)).oneRank
  have hsame := hrank _ List.mem_cons_self _
    (List.mem_cons_of_mem _ (List.mem_singleton_self _)) rfl
    (fun earlier hearlier => absurd hearlier List.not_mem_nil)
  exact absurd hsame (by decide +kernel)

end OpenSoar
