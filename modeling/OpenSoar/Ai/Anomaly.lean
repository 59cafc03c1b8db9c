/-
# `OpenSoar.Ai.Anomaly` — anomaly detection and the anomalies it stores

`compute_anomaly_signals` runs three heuristics over the alerts before the current day and
those of it, one signal for each `(kind, partner, rule_name, source_ip)`.
`run_anomaly_detection` splits the alerts of its window at the UTC midnight before the call
and stores the signals that no anomaly since that midnight has the key of.

Its docstring promises more: nothing is stored twice within 24 hours.  The two differ for an
anomaly that is stored again after midnight, which is all that can go wrong
(`anomalies_spaced_iff`).
-/
import OpenSoar.Models
import OpenSoar.Python.Floats
import Mathlib.Data.List.Pairwise

namespace OpenSoar

open Python

/-! ## The signals -/

/-- What the detector reads of an alert. -/
structure ObservedAlert where
  createdAt : Timestamp
  partner : Option (Varchar 100)
  ruleName : Option (Varchar 500)
  sourceIp : Option (Varchar 45)
  severity : Varchar 20

/-- `(partner, rule_name)`. -/
abbrev RuleBucket := Option (Varchar 100) × Option (Varchar 500)

/-- `(partner, rule_name, source_ip)`. -/
abbrev AlertKey := Option (Varchar 100) × Option (Varchar 500) × Option (Varchar 45)

/-- `(kind, partner, rule_name, source_ip)`. -/
abbrev AnomalyKey := String × AlertKey

def ObservedAlert.bucket (alert : ObservedAlert) : RuleBucket := (alert.partner, alert.ruleName)

/-- `_key`. -/
def ObservedAlert.key (alert : ObservedAlert) : AlertKey :=
  (alert.partner, alert.ruleName, alert.sourceIp)

/-- What a signal says of itself, by its kind. -/
inductive AnomalyDetails (F : Type) where
  | firstSeen (severity : Varchar 20)
  | newSeverity (severity : Varchar 20) (previousMax : Option (Varchar 20))
  | countSpike (currentCount : Nat) (baselineMean baselineStdev : F) (baselineDays : Int)
      (threshold : F)

structure AnomalySignal (F : Type) where
  kind : String
  partner : Option (Varchar 100)
  ruleName : Option (Varchar 500)
  sourceIp : Option (Varchar 45)
  score : F
  details : AnomalyDetails F

def AnomalySignal.key {F : Type} (signal : AnomalySignal F) : AnomalyKey :=
  (signal.kind, signal.partner, signal.ruleName, signal.sourceIp)

/-- A day, in microseconds. -/
def oneDay : Timestamp := 86400000000

/-- `_day_bucket`: the UTC midnight before. -/
def dayBucket (t : Timestamp) : Timestamp := t - t % oneDay

/-- `SEVERITY_ORDER`. -/
def severityOrder : List (String × Nat) :=
  [("info", 0), ("informational", 0), ("low", 1), ("medium", 2), ("moderate", 2), ("high", 3),
   ("critical", 4)]

/-- `_severity_rank`. -/
def severityRank (py : PyText) (severity : String) : Nat :=
  if severity = "" then 0
  else (severityOrder.lookup (String.ofList (py.lower severity.toList))).getD 0

section Signals

variable {F : Type}

/-- `_emit`: the first signal of a key. -/
def emit (signals : List (AnomalySignal F)) (signal : AnomalySignal F) : List (AnomalySignal F) :=
  if signal.key ∈ signals.map AnomalySignal.key then signals else signals ++ [signal]

/-- One current alert under `first_seen_ip`; beside the signals, the source IPs seen so far. -/
def firstSeenStep (ops : FloatOps F) (acc : List (AnomalySignal F) × List AlertKey)
    (alert : ObservedAlert) : List (AnomalySignal F) × List AlertKey :=
  let (signals, seenIps) := acc
  match alert.sourceIp with
  | none => acc
  | some sourceIp =>
      if sourceIp.val = "" then acc
      else if alert.key ∈ seenIps then acc
      else
        (emit signals ⟨"first_seen_ip", alert.partner, alert.ruleName, alert.sourceIp,
          ops.ofInt 1, .firstSeen alert.severity⟩, alert.key :: seenIps)

/-- `max_severity`: the highest rank of a rule so far and the severity it was first met under. -/
abbrev MaxSeverity := RuleBucket → Option (Int × Option (Varchar 20))

/-- One alert of the history under `new_severity`. -/
def historySeverity (py : PyText) (maxSeverity : MaxSeverity) (alert : ObservedAlert) :
    MaxSeverity :=
  let rank : Int := severityRank py alert.severity.val
  let currentBest := (maxSeverity alert.bucket).getD (-1, none)
  if rank > currentBest.1 then
    Function.update maxSeverity alert.bucket (some (rank, some alert.severity))
  else maxSeverity

/-- One current alert under `new_severity`. -/
def newSeverityStep (py : PyText) (ops : FloatOps F)
    (acc : List (AnomalySignal F) × MaxSeverity) (alert : ObservedAlert) :
    List (AnomalySignal F) × MaxSeverity :=
  let (signals, maxSeverity) := acc
  let rank : Int := severityRank py alert.severity.val
  let raised := Function.update maxSeverity alert.bucket (some (rank, some alert.severity))
  match maxSeverity alert.bucket with
  | none => (signals, raised)
  | some (prevRank, prevLabel) =>
      if rank > prevRank then
        (emit signals ⟨"new_severity", alert.partner, alert.ruleName, alert.sourceIp,
          ops.ofInt (rank - prevRank), .newSeverity alert.severity prevLabel⟩, raised)
      else acc

/-- `counts[key] += 1`, a new key at the end. -/
def countOne {κ : Type} [DecidableEq κ] : List (κ × Nat) → κ → List (κ × Nat)
  | [], key => [(key, 1)]
  | (key', n) :: counts, key =>
      if key' = key then (key', n + 1) :: counts else (key', n) :: countOne counts key

/-- How many times each value occurs, in the order of first occurrence. -/
def countEach {κ : Type} [DecidableEq κ] (values : List κ) : List (κ × Nat) :=
  values.foldl countOne []

/-- `per_day.get(key, {})`. -/
def historyDaily (history : List ObservedAlert) (key : AlertKey) : List (Timestamp × Nat) :=
  countEach ((history.filter (fun alert => alert.key = key)).map
    (fun alert => dayBucket alert.createdAt))

/-- `values[-n:]`. -/
def lastOf {α : Type} (n : Int) (values : List α) : List α :=
  if 0 < n then values.drop (values.length - n.toNat) else values.drop (-n).toNat

/-- `_stdev`. -/
def stdev (ops : FloatOps F) (values : List F) : F :=
  if values.length < 2 then ops.ofInt 0
  else
    let mean := ops.mean values
    let squares := values.map (fun v => ops.mul (ops.sub v mean) (ops.sub v mean))
    ops.sqrt (ops.div (ops.sum squares) (ops.ofInt (values.length - 1)))

/-- `zscore`. -/
def zscore (ops : FloatOps F) (sample mean stdev : F) : F :=
  if ops.eq stdev (ops.ofInt 0) then
    if ops.eq sample mean then ops.ofInt 0 else ops.inf
  else ops.div (ops.sub sample mean) stdev

/-- The baseline of a key: its daily counts of the last days, zeros for the rest. -/
def baselineValues (ops : FloatOps F) (history : List ObservedAlert) (baselineDays : Int)
    (key : AlertKey) : List F :=
  let values := lastOf baselineDays
    ((historyDaily history key).map (fun day => ops.ofInt day.2))
  if values.isEmpty then []
  else values ++ List.replicate (baselineDays.toNat - values.length) (ops.ofInt 0)

/-- One key of the current alerts under `count_spike`. -/
def countSpikeStep (ops : FloatOps F) (history : List ObservedAlert) (baselineDays : Int)
    (threshold : F) (signals : List (AnomalySignal F)) (counted : AlertKey × Nat) :
    List (AnomalySignal F) :=
  let (key, count) := counted
  let values := baselineValues ops history baselineDays key
  if values.isEmpty then signals
  else
    let mean := ops.mean values
    let deviation := stdev ops values
    let score := zscore ops (ops.ofInt count) mean deviation
    if ops.lt threshold score then
      emit signals ⟨"count_spike", key.1, key.2.1, key.2.2,
        if ops.isFinite score then score else ops.ofInt 1000000,
        .countSpike count mean deviation baselineDays threshold⟩
    else signals

/-- `compute_anomaly_signals`. -/
def computeAnomalySignals (py : PyText) (ops : FloatOps F) (history current : List ObservedAlert)
    (threshold : F) (baselineDays : Int) : List (AnomalySignal F) :=
  let firstSeen := (current.foldl (firstSeenStep ops) ([], history.map ObservedAlert.key)).1
  let maxSeverity := history.foldl (historySeverity py) (fun _ => none)
  let newSeverity := (current.foldl (newSeverityStep py ops) (firstSeen, maxSeverity)).1
  (countEach (current.map ObservedAlert.key)).foldl
    (countSpikeStep ops history baselineDays threshold) newSeverity

end Signals

/-! ## The stored anomalies -/

/-- `anomalies`.  The columns are as wide as those of the alert the values come from. -/
structure Anomaly (F : Type) where
  kind : String
  partner : Option (Varchar 100)
  ruleName : Option (Varchar 500)
  sourceIp : Option (Varchar 45)
  score : F
  details : AnomalyDetails F
  createdAt : Timestamp

def Anomaly.key {F : Type} (row : Anomaly F) : AnomalyKey :=
  (row.kind, row.partner, row.ruleName, row.sourceIp)

/-- `Anomaly(**signal.to_model_payload())`, stored at a time. -/
def AnomalySignal.row {F : Type} (now : Timestamp) (signal : AnomalySignal F) : Anomaly F :=
  ⟨signal.kind, signal.partner, signal.ruleName, signal.sourceIp, signal.score, signal.details, now⟩

structure AnomalyDb (F : Type) where
  alerts : List ObservedAlert
  anomalies : List (Anomaly F)

/-- The rows that are added for the signals, given the keys that are stored already. -/
def newRows {F : Type} (now : Timestamp) :
    List AnomalyKey → List (AnomalySignal F) → List (Anomaly F)
  | _, [] => []
  | seen, signal :: signals =>
      if signal.key ∈ seen then newRows now seen signals
      else signal.row now :: newRows now (signal.key :: seen) signals

section Runs

variable {F : Type} (py : PyText) (ops : FloatOps F)

/-- The signals of a call: the alerts of its window, split at the midnight before it. -/
def signalsAt (alerts : List ObservedAlert) (now : Timestamp) (baselineDays : Int)
    (threshold : F) : List (AnomalySignal F) :=
  let windowStart : Int := now - baselineDays * oneDay
  let recent := alerts.filter (fun alert => windowStart ≤ alert.createdAt)
  computeAnomalySignals py ops
    (recent.filter (fun alert => ¬ dayBucket now ≤ alert.createdAt))
    (recent.filter (fun alert => dayBucket now ≤ alert.createdAt)) threshold baselineDays

/-- `run_anomaly_detection`: the rows after it; what it returns is how many there are more. -/
def runAnomalyDetection (db : AnomalyDb F) (now : Timestamp) (baselineDays : Int)
    (threshold : F) : AnomalyDb F :=
  let existing := db.anomalies.filter (fun row => dayBucket now ≤ row.createdAt)
  { db with
    anomalies := db.anomalies ++
      newRows now (existing.map Anomaly.key)
        (signalsAt py ops db.alerts now baselineDays threshold) }

/-- Between the calls the alerts change in any way. -/
inductive AnomalyEvent (F : Type) where
  | alertsBecome (alerts : List ObservedAlert)
  | detect (now : Timestamp) (baselineDays : Int) (threshold : F)

def anomalyStep (db : AnomalyDb F) : AnomalyEvent F → Except Raised (AnomalyDb F)
  | .alertsBecome alerts => .ok { db with alerts }
  | .detect now baselineDays threshold =>
      .ok (runAnomalyDetection py ops db now baselineDays threshold)

end Runs

/-- Two anomalies of one key are stored a day apart. -/
def Apart {F : Type} (row row' : Anomaly F) : Prop :=
  row.key = row'.key →
    row.createdAt + oneDay ≤ row'.createdAt ∨ row'.createdAt + oneDay ≤ row.createdAt

instance {F : Type} : Std.Symm (Apart (F := F)) where
  symm _ _ h hkey := (h hkey.symm).symm

instance {F : Type} (row row' : Anomaly F) : Decidable (Apart row row') :=
  inferInstanceAs (Decidable (_ → _))

/-- No two anomalies of one key are stored less than a day apart. -/
def Spaced {F : Type} (rows : List (Anomaly F)) : Prop := rows.Pairwise Apart

/-! ## What a call stores -/

section NewRows

variable {F : Type} {now : Timestamp}

/-- A row that is added is a signal's, stored at the time of the call, under a key that was
not seen. -/
theorem of_mem_newRows {row : Anomaly F} {signals : List (AnomalySignal F)} :
    ∀ {seen : List AnomalyKey}, row ∈ newRows now seen signals →
      (∃ signal ∈ signals, row = signal.row now) ∧ row.key ∉ seen := by
  induction signals with
  | nil =>
      intro seen h
      cases h
  | cons signal signals ih =>
      intro seen h
      unfold newRows at h
      split at h
      next =>
        obtain ⟨⟨signal', hmem, hrow⟩, hkey⟩ := ih h
        exact ⟨⟨signal', List.mem_cons_of_mem _ hmem, hrow⟩, hkey⟩
      next hfresh =>
        rcases List.mem_cons.mp h with rfl | h
        · exact ⟨⟨signal, List.mem_cons_self, rfl⟩, hfresh⟩
        · obtain ⟨⟨signal', hmem, hrow⟩, hkey⟩ := ih h
          exact ⟨⟨signal', List.mem_cons_of_mem _ hmem, hrow⟩,
            fun hseen => hkey (List.mem_cons_of_mem _ hseen)⟩

/-- A signal whose key was not seen has a row. -/
theorem exists_newRow {signals : List (AnomalySignal F)} {signal : AnomalySignal F}
    (hmem : signal ∈ signals) :
    ∀ {seen : List AnomalyKey}, signal.key ∉ seen →
      ∃ row ∈ newRows now seen signals, row.key = signal.key := by
  induction signals with
  | nil => cases hmem
  | cons first signals ih =>
      intro seen hfresh
      unfold newRows
      rcases List.mem_cons.mp hmem with rfl | hmem
      · rw [if_neg hfresh]
        exact ⟨_, List.mem_cons_self, rfl⟩
      · split
        next => exact ih hmem hfresh
        next =>
          by_cases hfirst : first.key = signal.key
          · exact ⟨_, List.mem_cons_self, hfirst⟩
          · have hfresh' : signal.key ∉ first.key :: seen := by
              intro h
              rcases List.mem_cons.mp h with h | h
              · exact hfirst h.symm
              · exact hfresh h
            obtain ⟨row, hrow, hkey⟩ := ih hmem hfresh'
            exact ⟨row, List.mem_cons_of_mem _ hrow, hkey⟩

/-- The rows that are added have keys of their own. -/
theorem newRows_distinct (signals : List (AnomalySignal F)) :
    ∀ seen : List AnomalyKey,
      (newRows now seen signals).Pairwise (fun row row' => row.key ≠ row'.key) := by
  induction signals with
  | nil => exact fun _ => List.Pairwise.nil
  | cons signal signals ih =>
      intro seen
      unfold newRows
      split
      next => exact ih seen
      next =>
        refine List.pairwise_cons.mpr ⟨?_, ih _⟩
        intro row hrow heq
        exact (of_mem_newRows hrow).2 (heq ▸ List.mem_cons_self)

end NewRows

/-! ## When the rows stay a day apart -/

section Spacing

variable {F : Type} {py : PyText} {ops : FloatOps F} {db : AnomalyDb F}

/-- No signal of a call has the key of an anomaly that was stored before the midnight before
the call, and less than a day before it. -/
def NothingCarriedOver (py : PyText) (ops : FloatOps F) (db : AnomalyDb F) :
    AnomalyEvent F → Prop
  | .alertsBecome _ => True
  | .detect now baselineDays threshold =>
      ∀ signal ∈ signalsAt py ops db.alerts now baselineDays threshold, ∀ row ∈ db.anomalies,
        row.key = signal.key → row.createdAt < dayBucket now → row.createdAt + oneDay ≤ now

/-- The times of the calls. -/
def callTimes (events : List (AnomalyEvent F)) : List Timestamp :=
  events.filterMap (fun event =>
    match event with
    | .alertsBecome _ => none
    | .detect now _ _ => some now)

/-- **One call.**  It keeps the rows a day apart if and only if nothing is carried over. -/
theorem spaced_runAnomalyDetection {now : Timestamp} {baselineDays : Int} {threshold : F}
    (hspaced : Spaced db.anomalies) (hpast : ∀ row ∈ db.anomalies, row.createdAt ≤ now) :
    Spaced (runAnomalyDetection py ops db now baselineDays threshold).anomalies ↔
      NothingCarriedOver py ops db (.detect now baselineDays threshold) := by
  have hsoon : ∀ row ∈ db.anomalies, ¬ now + oneDay ≤ row.createdAt := by
    intro row hrow h
    have hday : 0 < oneDay := by decide
    exact absurd (Nat.le_trans h (hpast row hrow)) (Nat.not_le.mpr (Nat.lt_add_of_pos_right hday))
  unfold runAnomalyDetection Spaced
  rw [List.pairwise_append]
  constructor
  · rintro ⟨-, -, hcross⟩ signal hsignal row hrow hkey hbefore
    by_cases hstored : signal.key ∈
        (db.anomalies.filter (fun row => dayBucket now ≤ row.createdAt)).map Anomaly.key
    · -- The key is stored since midnight: that row and this one are a day apart already.
      obtain ⟨row', hrow', hkey'⟩ := List.mem_map.mp hstored
      obtain ⟨hmem', hsince⟩ := List.mem_filter.mp hrow'
      have hsince : dayBucket now ≤ row'.createdAt := of_decide_eq_true hsince
      have hne : row ≠ row' := by
        rintro rfl
        exact absurd hbefore (Nat.not_lt.mpr hsince)
      rcases hspaced.forall hrow hmem' hne (hkey.trans hkey'.symm) with h | h
      · exact Nat.le_trans h (hpast row' hmem')
      · have hlater : row.createdAt < row'.createdAt := Nat.lt_of_lt_of_le hbefore hsince
        exact absurd h (Nat.not_le.mpr (Nat.lt_add_right _ hlater))
    · obtain ⟨fresh, hfresh, hfreshKey⟩ := @exists_newRow F now _ _ hsignal _ hstored
      obtain ⟨⟨signal', -, rfl⟩, -⟩ := of_mem_newRows hfresh
      rcases hcross row hrow _ hfresh (hkey.trans hfreshKey.symm) with h | h
      · exact h
      · exact absurd h (hsoon row hrow)
  · intro hcarried
    refine ⟨hspaced, (newRows_distinct _ _).imp (fun hne heq => absurd heq hne), ?_⟩
    intro row hrow fresh hfresh hkey
    obtain ⟨⟨signal, hsignal, rfl⟩, hseen⟩ := of_mem_newRows hfresh
    left
    by_cases hbefore : row.createdAt < dayBucket now
    · exact hcarried signal hsignal row hrow hkey hbefore
    · refine absurd ?_ hseen
      rw [← hkey]
      exact List.mem_map_of_mem
        (List.mem_filter.mpr ⟨hrow, decide_eq_true (Nat.not_lt.mp hbefore)⟩)

/-- The calls come after the stored anomalies, and none before an earlier one. -/
def CallsInOrder (db : AnomalyDb F) (events : List (AnomalyEvent F)) : Prop :=
  (db.anomalies.map Anomaly.createdAt ++ callTimes events).Pairwise (· ≤ ·)

theorem CallsInOrder.past {now : Timestamp} {baselineDays : Int} {threshold : F}
    {events : List (AnomalyEvent F)}
    (h : CallsInOrder db (.detect now baselineDays threshold :: events)) :
    ∀ row ∈ db.anomalies, row.createdAt ≤ now := by
  intro row hrow
  exact (List.pairwise_append.mp h).2.2 _ (List.mem_map_of_mem hrow) now List.mem_cons_self

/-- The rows a call adds are of its time. -/
theorem CallsInOrder.step {event : AnomalyEvent F} {events : List (AnomalyEvent F)}
    (h : CallsInOrder db (event :: events)) :
    CallsInOrder (attempt (anomalyStep py ops) db event) events := by
  cases event with
  | alertsBecome alerts => exact h
  | detect now baselineDays threshold =>
      obtain ⟨hrows, hcalls, hcross⟩ := List.pairwise_append.mp h
      obtain ⟨hlater, hcalls⟩ := List.pairwise_cons.mp hcalls
      have hadded : ∀ row ∈ newRows now ((db.anomalies.filter (fun row =>
          dayBucket now ≤ row.createdAt)).map Anomaly.key)
          (signalsAt py ops db.alerts now baselineDays threshold), row.createdAt = now := by
        intro row hrow
        obtain ⟨⟨signal, -, rfl⟩, -⟩ := of_mem_newRows hrow
        rfl
      unfold CallsInOrder attempt anomalyStep runAnomalyDetection
      rw [List.map_append, List.append_assoc, List.pairwise_append, List.pairwise_append]
      refine ⟨hrows, ⟨?_, hcalls, ?_⟩, ?_⟩
      · refine List.pairwise_map.mpr (List.Pairwise.imp_of_mem ?_ (newRows_distinct _ _))
        intro row row' hrow hrow' _
        exact le_of_eq ((hadded row hrow).trans (hadded row' hrow').symm)
      · intro t ht
        obtain ⟨row, hrow, rfl⟩ := List.mem_map.mp ht
        rw [hadded row hrow]
        exact hlater
      · intro t ht t' ht'
        rcases List.mem_append.mp ht' with ht' | ht'
        · obtain ⟨row, hrow, rfl⟩ := List.mem_map.mp ht'
          rw [hadded row hrow]
          exact hcross t ht now List.mem_cons_self
        · exact hcross t ht t' (List.mem_cons_of_mem _ ht')

/-- Anomalies are only added. -/
theorem sublist_step (event : AnomalyEvent F) :
    db.anomalies.Sublist (attempt (anomalyStep py ops) db event).anomalies := by
  cases event with
  | alertsBecome alerts => exact List.Sublist.refl _
  | detect now baselineDays threshold => exact List.sublist_append_left _ _

theorem sublist_run (events : List (AnomalyEvent F)) (db : AnomalyDb F) :
    db.anomalies.Sublist (run (anomalyStep py ops) db events).anomalies := by
  induction events generalizing db with
  | nil => exact List.Sublist.refl _
  | cons event events ih => exact (sublist_step event).trans (ih _)

theorem spaced_step {event : AnomalyEvent F} {events : List (AnomalyEvent F)}
    (hspaced : Spaced db.anomalies) (horder : CallsInOrder db (event :: events)) :
    Spaced (attempt (anomalyStep py ops) db event).anomalies ↔
      NothingCarriedOver py ops db event := by
  cases event with
  | alertsBecome alerts => exact iff_of_true hspaced trivial
  | detect now baselineDays threshold =>
      exact spaced_runAnomalyDetection hspaced horder.past

/-- **When no anomaly is stored twice within 24 hours.**  Whatever the alerts are at each call
and however they change in between, the rows stay a day apart if and only if no call has a
signal under the key of an anomaly that was stored less than 24 hours before the call but on
an earlier UTC day. -/
theorem anomalies_spaced_iff (py : PyText) (ops : FloatOps F) (events : List (AnomalyEvent F))
    (db : AnomalyDb F) (hspaced : Spaced db.anomalies) (horder : CallsInOrder db events) :
    Spaced (run (anomalyStep py ops) db events).anomalies ↔
      Along (anomalyStep py ops) (NothingCarriedOver py ops) db events := by
  induction events generalizing db with
  | nil => exact iff_of_true hspaced trivial
  | cons event events ih =>
      have hstep := @spaced_step F py ops db event events hspaced horder
      constructor
      · intro h
        have hnext := List.Pairwise.sublist (sublist_run events _) h
        exact ⟨hstep.mp hnext, (ih _ hnext horder.step).mp h⟩
      · rintro ⟨hnow, hrest⟩
        exact (ih _ (hstep.mpr hnow) horder.step).mpr hrest

end Spacing

/-! ## A rise in severity on both sides of midnight -/

/-- A time of day, by days, hours and minutes. -/
def atTime (day hour minute : Nat) : Timestamp :=
  day * oneDay + (hour * 60 + minute) * 60000000

/-- An alert of one rule and one address. -/
def bruteForce (createdAt : Timestamp) (severity : Varchar 20) : ObservedAlert :=
  ⟨createdAt, none, some (.lit "Brute force"), some (.lit "10.0.0.5"), severity⟩

/-- A low alert, a high one the day after. -/
def risingAlerts : List ObservedAlert :=
  [bruteForce (atTime 10 12 0) (.lit "low"), bruteForce (atTime 11 22 30) (.lit "high")]

/-- The high alert is reported in the evening, and a critical one at a later call. -/
def reportedAgain (later : Timestamp) : List (AnomalyEvent (WithTop ℚ)) :=
  [.alertsBecome risingAlerts, .detect (atTime 11 23 30) 7 3,
    .alertsBecome (risingAlerts ++ [bruteForce (atTime 12 0 10) (.lit "critical")]),
    .detect later 7 3]

/-- One hour later it is another day, and the same key is stored again. -/
theorem anomaly_repeated_after_midnight :
    ¬ ∀ events : List (AnomalyEvent (WithTop ℚ)), CallsInOrder ⟨[], []⟩ events →
      Spaced (run (anomalyStep .ascii .decimal) ⟨[], []⟩ events).anomalies := by
  intro h
  have hspaced := h (reportedAgain (atTime 12 0 30)) (by unfold CallsInOrder; decide +kernel)
  revert hspaced
  unfold Spaced
  decide +kernel

/-- A day later it may be. -/
theorem anomalies_spaced_iff_a_day_later :
    Spaced (run (anomalyStep .ascii .decimal) ⟨[], []⟩
      (reportedAgain (atTime 12 23 30))).anomalies ∧
    Along (anomalyStep .ascii .decimal) (NothingCarriedOver .ascii .decimal) ⟨[], []⟩
      (reportedAgain (atTime 12 23 30)) := by
  have hspaced : Spaced (run (anomalyStep .ascii .decimal) ⟨[], []⟩
      (reportedAgain (atTime 12 23 30))).anomalies := by
    unfold Spaced
    decide +kernel
  have horder : CallsInOrder ⟨[], []⟩ (reportedAgain (atTime 12 23 30)) := by
    unfold CallsInOrder
    decide +kernel
  exact ⟨hspaced, (anomalies_spaced_iff .ascii .decimal _ ⟨[], []⟩ List.Pairwise.nil horder).mp
    hspaced⟩

end OpenSoar
