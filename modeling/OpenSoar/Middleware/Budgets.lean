/-
# `OpenSoar.Middleware.Budgets` — whose requests use up a key's budget

The bucket of a request with an API key is named by the first twelve characters of the key,
and no key has been checked yet.  So the requests of every key with the same beginning, valid
or made up, fill one bucket, and those of a key are answered by what they have left of it.

Two runs that agree on the requests of one bucket agree on its answers
(`answersAmong_eq`).  For the requests of one key that is enough exactly when no other key
begins as it does: for the keys of at most eleven characters (`budget_isolated_iff`).  The
generated keys are longer.
-/
import OpenSoar.Middleware.RateLimit

namespace OpenSoar

open Python SlidingWindow

/-- A request, and the time at which the limiter reads the clock. -/
structure TimedRequest where
  request : LimitedRequest
  now : ℚ

/-- `dispatch` of one request after another: the answers in order. -/
def dispatchAll (py : PyText) (limits : Limits) : Buckets → List TimedRequest →
    List LimiterResponse
  | _, [] => []
  | buckets, r :: rs =>
      match beforeLock py r.request r.now with
      | none => .callNext :: dispatchAll py limits buckets rs
      | some arrival =>
          let outcome := underLock limits buckets arrival
          outcome.1 :: dispatchAll py limits outcome.2 rs

/-- A webhook request that bears an API key. -/
def Bears (py : PyText) (key : String) (r : TimedRequest) : Prop :=
  (beforeLock py r.request r.now).isSome = true ∧ r.request.apiKey = some key

instance (py : PyText) (key : String) (r : TimedRequest) : Decidable (Bears py key r) :=
  inferInstanceAs (Decidable (_ ∧ _))

/-- The answers to some of the requests. -/
def answersAmong (p : TimedRequest → Prop) [DecidablePred p] (py : PyText) (limits : Limits)
    (buckets : Buckets) (rs : List TimedRequest) : List LimiterResponse :=
  ((rs.zip (dispatchAll py limits buckets rs)).filter (fun answered => p answered.1)).map Prod.snd

/-- The answers to the requests that bear a key, of a limiter that has just started. -/
def answersTo (py : PyText) (limits : Limits) (key : String) (rs : List TimedRequest) :
    List LimiterResponse :=
  answersAmong (Bears py key) py limits (fun _ => []) rs

/-- The clock does not go back. -/
def ClockInOrder (rs : List TimedRequest) : Prop := (rs.map TimedRequest.now).Pairwise (· ≤ ·)

/-- The requests of a key are answered alike in all runs with the same requests of it. -/
def BudgetIsolated (py : PyText) (limits : Limits) (key : String) : Prop :=
  ∀ rs rs' : List TimedRequest, ClockInOrder rs → ClockInOrder rs' →
    rs.filter (Bears py key) = rs'.filter (Bears py key) →
    answersTo py limits key rs = answersTo py limits key rs'

/-! ## The requests of one bucket -/

section Bucket

variable {py : PyText} {limits : Limits} {buckets : Buckets} {bucket : String}

/-- A request that is counted in a bucket. -/
def CountsIn (py : PyText) (bucket : String) (r : TimedRequest) : Prop :=
  (beforeLock py r.request r.now).map Arrival.key = some bucket

instance (py : PyText) (bucket : String) (r : TimedRequest) : Decidable (CountsIn py bucket r) :=
  inferInstanceAs (Decidable (_ = _))

/-- The answers of one bucket, by the times of its requests. -/
def bucketAnswers (limits : Limits) : List ℚ → List ℚ → List LimiterResponse
  | _, [] => []
  | times, now :: later =>
      let admitted := grant limits.maxRequests (limits.cutoff now) now times
      (if admitted.1 then .callNext else tooManyRequests limits) ::
        bucketAnswers limits admitted.2 later

theorem beforeLock_now {request : LimitedRequest} {now : ℚ} {arrival : Arrival}
    (h : beforeLock py request now = some arrival) :
    arrival = ⟨getClientKey py request, now⟩ := by
  unfold beforeLock at h
  split at h
  · exact (Option.some.inj h).symm
  · cases h

/-- **A bucket keeps to itself.**  The answers to its requests are those it would give if there
were no others. -/
theorem answersAmong_bucket (p : TimedRequest → Prop) [DecidablePred p] (rs : List TimedRequest)
    (buckets : Buckets) (h : ∀ r ∈ rs, p r ↔ CountsIn py bucket r) :
    answersAmong p py limits buckets rs =
      bucketAnswers limits (buckets bucket) ((rs.filter p).map TimedRequest.now) := by
  induction rs generalizing buckets with
  | nil => rfl
  | cons r rs ih =>
      have hhead := h r List.mem_cons_self
      have htail : ∀ r' ∈ rs, p r' ↔ CountsIn py bucket r' :=
        fun r' hr' => h r' (List.mem_cons_of_mem r hr')
      unfold answersAmong dispatchAll
      cases hlock : beforeLock py r.request r.now with
      | none =>
          -- not a webhook request: it is in no bucket
          have hnot : ¬ p r := by
            rw [hhead, CountsIn, hlock]
            exact Option.some_ne_none _ |>.symm
          have hrest := ih buckets htail
          unfold answersAmong at hrest
          simpa [hnot] using hrest
      | some arrival =>
          obtain rfl := beforeLock_now hlock
          have hcounts : p r ↔ getClientKey py r.request = bucket := by
            rw [hhead, CountsIn, hlock]
            exact ⟨fun hkey => Option.some.inj hkey, fun hkey => congrArg some hkey⟩
          have hrest := ih (underLock limits buckets ⟨getClientKey py r.request, r.now⟩).2 htail
          unfold answersAmong at hrest
          by_cases hp : p r
          · obtain rfl := hcounts.mp hp
            rw [underLock_bucket] at hrest
            simp only [List.zip_cons_cons, List.filter_cons_of_pos, hp, decide_true,
              List.map_cons, hrest, bucketAnswers]
            rw [underLock_eq]
          · have hother : getClientKey py r.request ≠ bucket := fun hkey => hp (hcounts.mpr hkey)
            rw [underLock_other hother] at hrest
            simpa [hp] using hrest

/-- **Two runs** with the same requests of a bucket get the same answers to them. -/
theorem answersAmong_eq (p : TimedRequest → Prop) [DecidablePred p] {rs rs' : List TimedRequest}
    (h : ∀ r ∈ rs, p r ↔ CountsIn py bucket r) (h' : ∀ r ∈ rs', p r ↔ CountsIn py bucket r)
    (hsame : rs.filter p = rs'.filter p) :
    answersAmong p py limits buckets rs = answersAmong p py limits buckets rs' := by
  rw [answersAmong_bucket p rs buckets h, answersAmong_bucket p rs' buckets h', hsame]

end Bucket

/-! ## The bucket of a key -/

section Key

variable {py : PyText} {limits : Limits} {key : String} {r : TimedRequest}

/-- The bucket of the requests with a key. -/
def keyBucket (key : String) : String := "key:" ++ String.ofList (key.toList.take 12)

theorem keyBucket_inj {own : String} :
    keyBucket own = keyBucket key ↔ own.toList.take 12 = key.toList.take 12 := by
  unfold keyBucket
  constructor
  · intro h
    have hlist := congrArg String.toList h
    simpa using hlist
  · intro h
    rw [h]

/-- No address has the bucket of a key. -/
theorem getClientKey_eq_keyBucket {request : LimitedRequest} :
    getClientKey py request = keyBucket key ↔ ∃ own, request.apiKey = some own ∧ own ≠ "" ∧
      own.toList.take 12 = key.toList.take 12 := by
  have hip : ∀ rest : String, "ip:" ++ rest ≠ keyBucket key := by
    intro rest h
    have hlist := congrArg String.toList h
    simp [keyBucket] at hlist
  unfold getClientKey
  dsimp only
  split
  next hkey =>
    cases hown : request.apiKey with
    | none => exact absurd (by rw [hown]; rfl) hkey
    | some own =>
        rw [hown, Option.getD_some] at hkey
        rw [Option.getD_some]
        refine keyBucket_inj.trans ⟨fun h => ⟨own, rfl, hkey, h⟩, ?_⟩
        rintro ⟨own', hown', -, h⟩
        cases hown'
        exact h
  next hkey =>
    have hnone : ¬ ∃ own, request.apiKey = some own ∧ own ≠ "" ∧
        own.toList.take 12 = key.toList.take 12 := by
      rintro ⟨own, hown, hne, -⟩
      rw [hown, Option.getD_some] at hkey
      exact hkey hne
    refine iff_of_false ?_ hnone
    split
    · exact hip _
    · split
      · exact hip _
      · exact fun h => hip "unknown" h

theorem countsIn_keyBucket :
    CountsIn py (keyBucket key) r ↔ (beforeLock py r.request r.now).isSome = true ∧
      ∃ own, r.request.apiKey = some own ∧ own ≠ "" ∧
        own.toList.take 12 = key.toList.take 12 := by
  rw [← @getClientKey_eq_keyBucket py, CountsIn]
  cases hlock : beforeLock py r.request r.now with
  | none => simp
  | some arrival =>
      obtain rfl := beforeLock_now hlock
      simp

/-- A request that bears a key is counted in its bucket. -/
theorem Bears.countsIn (h : Bears py key r) (hne : key ≠ "") : CountsIn py (keyBucket key) r :=
  countsIn_keyBucket.mpr ⟨h.1, key, h.2, hne, rfl⟩

/-- A short key is all of its beginning. -/
theorem bears_of_countsIn (hshort : key.toList.length < 12) (h : CountsIn py (keyBucket key) r) :
    Bears py key r := by
  obtain ⟨hlock, own, hown, -, htake⟩ := countsIn_keyBucket.mp h
  refine ⟨hlock, hown.trans (congrArg some (String.toList_inj.mp ?_))⟩
  rw [List.take_of_length_le (Nat.le_of_lt hshort)] at htake
  have hlength := congrArg List.length htake
  rw [List.length_take] at hlength
  rw [List.take_of_length_le (by omega)] at htake
  exact htake

end Key

/-! ## Limits that make all keys equal -/

section Constant

variable {py : PyText} {limits : Limits} {buckets : Buckets} {p : TimedRequest → Prop}
  [DecidablePred p]

theorem answersAmong_nil : answersAmong p py limits buckets [] = [] := rfl

/-- The answers of a run, the first of them taken off. -/
theorem answersAmong_cons {r : TimedRequest} {rs : List TimedRequest} {arrival : Arrival}
    (hlock : beforeLock py r.request r.now = some arrival) :
    answersAmong p py limits buckets (r :: rs) =
      (if p r then [(underLock limits buckets arrival).1] else []) ++
        answersAmong p py limits (underLock limits buckets arrival).2 rs := by
  unfold answersAmong
  rw [dispatchAll, hlock]
  by_cases hp : p r
  · simp [hp]
  · simp [hp]

theorem answersAmong_cons_none {r : TimedRequest} {rs : List TimedRequest}
    (hlock : beforeLock py r.request r.now = none) (hp : ¬ p r) :
    answersAmong p py limits buckets (r :: rs) = answersAmong p py limits buckets rs := by
  unfold answersAmong
  rw [dispatchAll, hlock]
  simp [hp]

/-- All answers are the same one, as long as something holds of the buckets and of what is to
come. -/
theorem answersAmong_const {response : LimiterResponse}
    {I : Buckets → List TimedRequest → Prop}
    (hp : ∀ r, p r → (beforeLock py r.request r.now).isSome = true)
    (hnone : ∀ buckets r rs, I buckets (r :: rs) → I buckets rs)
    (hlock : ∀ buckets r rs arrival, I buckets (r :: rs) →
      beforeLock py r.request r.now = some arrival →
        (underLock limits buckets arrival).1 = response ∧
          I (underLock limits buckets arrival).2 rs)
    (rs : List TimedRequest) (buckets : Buckets) (hI : I buckets rs) :
    answersAmong p py limits buckets rs = (rs.filter p).map (fun _ => response) := by
  induction rs generalizing buckets with
  | nil => rfl
  | cons r rs ih =>
      cases harrival : beforeLock py r.request r.now with
      | none =>
          have hnot : ¬ p r := by
            intro h
            have hsome := hp r h
            rw [harrival] at hsome
            cases hsome
          rw [answersAmong_cons_none harrival hnot, ih buckets (hnone _ _ _ hI)]
          simp [hnot]
      | some arrival =>
          obtain ⟨hresponse, hnext⟩ := hlock buckets r rs arrival hI harrival
          rw [answersAmong_cons harrival, hresponse, ih _ hnext]
          by_cases h : p r
          · simp [h]
          · simp [h]

theorem bears_isSome {key : String} (r : TimedRequest) (h : Bears py key r) :
    (beforeLock py r.request r.now).isSome = true := h.1

/-- Nothing is let through. -/
theorem budgetIsolated_of_none {key : String} (hmax : limits.maxRequests = 0) :
    BudgetIsolated py limits key := by
  have hconst : ∀ rs, answersTo py limits key rs =
      (rs.filter (Bears py key)).map (fun _ => tooManyRequests limits) := by
    intro rs
    refine answersAmong_const (I := fun _ _ => True) bears_isSome (fun _ _ _ _ => trivial)
      (fun buckets r rs arrival _ _ => ⟨?_, trivial⟩) rs _ trivial
    rw [underLock_eq]
    have hgrant : (grant limits.maxRequests (limits.cutoff arrival.now) arrival.now
        (buckets arrival.key)).1 = false := by
      rw [Bool.eq_false_iff, Ne, grant_fst, hmax]
      exact Nat.not_lt_zero _
    simp only [hgrant, Bool.false_eq_true, if_false]
  intro rs rs' _ _ hsame
  rw [hconst, hconst, hsame]

/-- Nothing is counted: what was let through before is out of a window of no width. -/
theorem budgetIsolated_of_instant {key : String} (hmax : 0 < limits.maxRequests)
    (hwindow : limits.windowSeconds = 0) : BudgetIsolated py limits key := by
  have hconst : ∀ rs, ClockInOrder rs → answersTo py limits key rs =
      (rs.filter (Bears py key)).map (fun _ => LimiterResponse.callNext) := by
    intro rs horder
    refine answersAmong_const
      (I := fun buckets rs => ClockInOrder rs ∧ ∀ bucket, ∀ t ∈ buckets bucket,
        ∀ r ∈ rs, t ≤ r.now) bears_isSome ?_ ?_ rs _
      ⟨horder, fun _ t ht => absurd ht List.not_mem_nil⟩
    · rintro buckets r rs ⟨horder, hpast⟩
      exact ⟨(List.pairwise_cons.mp horder).2,
        fun bucket t ht r' hr' => hpast bucket t ht r' (List.mem_cons_of_mem _ hr')⟩
    · rintro buckets r rs arrival ⟨horder, hpast⟩ hlock
      obtain rfl := beforeLock_now hlock
      obtain ⟨hlater, hrest⟩ := List.pairwise_cons.mp horder
      have hlive : live (limits.cutoff r.now) (buckets (getClientKey py r.request)) = [] := by
        refine List.filter_eq_nil_iff.mpr (fun t ht => ?_)
        have hnow := hpast _ t ht r List.mem_cons_self
        simpa [Limits.cutoff, hwindow] using hnow
      have hgrant : grant limits.maxRequests (limits.cutoff r.now) r.now
          (buckets (getClientKey py r.request)) = (true, [r.now]) := by
        rw [grant, hlive]
        exact if_neg (Nat.not_le.mpr hmax)
      rw [underLock_eq]
      simp only [hgrant, if_true, true_and]
      refine ⟨hrest, fun bucket t ht r' hr' => ?_⟩
      by_cases hbucket : bucket = getClientKey py r.request
      · subst hbucket
        rw [Function.update_self] at ht
        rw [List.mem_singleton.mp ht]
        exact hlater _ (List.mem_map_of_mem hr')
      · rw [Function.update_of_ne hbucket] at ht
        exact hpast bucket t ht r' (List.mem_cons_of_mem _ hr')
  intro rs rs' horder horder' hsame
  rw [hconst rs horder, hconst rs' horder', hsame]

end Constant

/-! ## Another's requests -/

section Rivals

variable {py : PyText} {limits : Limits} {key : String}

/-- A webhook request that arrives when the clock starts. -/
def hook (apiKey : Option String) : TimedRequest :=
  ⟨⟨"/api/v1/webhooks/alerts", apiKey, none, none⟩, 0⟩

theorem hook_lock (py : PyText) (apiKey : Option String) :
    beforeLock py (hook apiKey).request (hook apiKey).now =
      some ⟨getClientKey py (hook apiKey).request, 0⟩ := by
  have hpath : "/api/v1/webhooks/".toList.isPrefixOf "/api/v1/webhooks/alerts".toList = true := by
    decide
  exact if_pos hpath

theorem bears_hook {apiKey : Option String} : Bears py key (hook apiKey) ↔ apiKey = some key :=
  ⟨fun h => h.2, fun h => ⟨by rw [hook_lock]; rfl, h⟩⟩

/-- A request at the same time is let through while the bucket is not full. -/
theorem grant_atOnce (hwindow : 0 < limits.windowSeconds) (k : Nat) :
    grant limits.maxRequests (limits.cutoff 0) 0 (List.replicate k (0 : ℚ)) =
      if limits.maxRequests ≤ k then (false, List.replicate k 0)
      else (true, List.replicate (k + 1) 0) := by
  have hlive : live (limits.cutoff 0) (List.replicate k (0 : ℚ)) = List.replicate k 0 := by
    refine List.filter_eq_self.mpr (fun t ht => ?_)
    rw [List.eq_of_mem_replicate ht]
    have hpos : (0 : ℚ) < limits.windowSeconds := Nat.cast_pos.mpr hwindow
    simpa [Limits.cutoff] using hpos
  rw [grant, hlive, List.length_replicate]
  split
  · rfl
  · rw [List.replicate_succ']

/-- Requests at one time fill their bucket. -/
theorem answersAmong_rivals (hwindow : 0 < limits.windowSeconds) {rival : Option String}
    (hrival : rival ≠ some key) (rest : List TimedRequest) (n k : Nat)
    (hroom : k + n ≤ limits.maxRequests) (buckets : Buckets)
    (hbucket : buckets (getClientKey py (hook rival).request) = List.replicate k 0) :
    ∃ buckets' : Buckets,
      buckets' (getClientKey py (hook rival).request) = List.replicate (k + n) 0 ∧
      answersAmong (Bears py key) py limits buckets (List.replicate n (hook rival) ++ rest) =
        answersAmong (Bears py key) py limits buckets' rest := by
  induction n generalizing k buckets with
  | zero => exact ⟨buckets, hbucket, rfl⟩
  | succ n ih =>
      have hadmitted : (underLock limits buckets
          ⟨getClientKey py (hook rival).request, 0⟩).2 (getClientKey py (hook rival).request) =
            List.replicate (k + 1) 0 := by
        rw [underLock_bucket, hbucket, grant_atOnce hwindow, if_neg (by omega)]
      obtain ⟨buckets', hbuckets', hanswers⟩ := ih (k + 1) (by omega) _ hadmitted
      refine ⟨buckets', ?_, ?_⟩
      · rw [hbuckets', Nat.add_right_comm, Nat.add_assoc]
      · rw [List.replicate_succ, List.cons_append, answersAmong_cons (hook_lock py rival),
          if_neg (mt bears_hook.mp hrival), List.nil_append]
        exact hanswers

/-- **Another's requests use up the budget**, if they are counted in the same bucket. -/
theorem not_budgetIsolated (hmax : 0 < limits.maxRequests) (hwindow : 0 < limits.windowSeconds)
    {rival : Option String} (hrival : rival ≠ some key)
    (hshared : getClientKey py (hook rival).request =
      getClientKey py (hook (some key)).request) : ¬ BudgetIsolated py limits key := by
  intro hisolated
  have hzero : ∀ n, ClockInOrder (List.replicate n (hook rival) ++ [hook (some key)]) := by
    intro n
    refine List.Pairwise.imp_of_mem ?_ (List.pairwise_of_forall (R := fun _ _ => True) (by simp))
    intro t t' ht ht' _
    have hall : ∀ t ∈ (List.replicate n (hook rival) ++ [hook (some key)]).map TimedRequest.now,
        t = 0 := by
      intro t ht
      obtain ⟨r, hr, rfl⟩ := List.mem_map.mp ht
      rcases List.mem_append.mp hr with hr | hr
      · rw [List.eq_of_mem_replicate hr]
        rfl
      · rw [List.mem_singleton.mp hr]
        rfl
    rw [hall t ht, hall t' ht']
  have hsame : (List.replicate limits.maxRequests (hook rival) ++ [hook (some key)]).filter
      (Bears py key) = [hook (some key)].filter (Bears py key) := by
    rw [List.filter_append, List.filter_replicate_of_neg, List.nil_append]
    simpa using mt bears_hook.mp hrival
  have hanswers := hisolated _ _ (hzero limits.maxRequests) (hzero 0) hsame
  unfold answersTo at hanswers
  obtain ⟨buckets, hbucket, hfull⟩ := @answersAmong_rivals py _ _ hwindow _ hrival
    [hook (some key)] limits.maxRequests 0 (by omega) (fun _ => []) rfl
  rw [hfull, List.replicate_zero, List.nil_append, answersAmong_cons (hook_lock py (some key)),
    answersAmong_cons (hook_lock py (some key)), if_pos (bears_hook.mpr rfl),
    if_pos (bears_hook.mpr rfl), answersAmong_nil, answersAmong_nil, List.append_nil,
    List.append_nil, underLock_eq, underLock_eq] at hanswers
  rw [hshared, Nat.zero_add] at hbucket
  have hrefused := grant_atOnce hwindow limits.maxRequests
  have hadmitted := grant_atOnce hwindow 0
  rw [if_pos (Nat.le_refl _)] at hrefused
  rw [if_neg (Nat.not_le.mpr hmax)] at hadmitted
  simp only [hbucket, hrefused] at hanswers
  rw [List.replicate_zero] at hadmitted
  simp only [hadmitted] at hanswers
  cases hanswers

/-- An empty header counts as none, and a key of twelve characters has the same beginning as a
longer one. -/
theorem exists_rival (h : ¬ (key ≠ "" ∧ key.length < 12)) :
    ∃ rival, rival ≠ some key ∧ getClientKey py (hook rival).request =
      getClientKey py (hook (some key)).request := by
  by_cases hempty : key = ""
  · subst hempty
    exact ⟨none, Option.some_ne_none _ |>.symm, rfl⟩
  · have hlength : 12 ≤ key.toList.length := Nat.not_lt.mp (fun hshort => h ⟨hempty, hshort⟩)
    have hother : (key ++ "x").toList.take 12 = key.toList.take 12 := by
      rw [String.toList_append, List.take_append_of_le_length hlength]
    have hlonger : (key ++ "x").toList.length = key.toList.length + 1 := by
      rw [String.toList_append, List.length_append]
      rfl
    refine ⟨some (key ++ "x"), ?_, ?_⟩
    · intro hsame
      rw [Option.some.inj hsame] at hlonger
      omega
    · have hvictim : getClientKey py (hook (some key)).request = keyBucket key :=
        getClientKey_eq_keyBucket.mpr ⟨key, rfl, hempty, rfl⟩
      rw [hvictim]
      refine getClientKey_eq_keyBucket.mpr ⟨key ++ "x", rfl, ?_, hother⟩
      intro hnone
      rw [hnone] at hlonger
      exact absurd hlonger (Nat.succ_ne_zero _).symm

end Rivals

/-- **Whose requests use up a budget.**  The requests of a key are answered alike in two runs
where no other requests begin their key as it does; and they are in all runs if and only if the
key has one to eleven characters, or the limits let nothing through or count nothing. -/
theorem budget_isolated_iff (py : PyText) (limits : Limits) (key : String) :
    (∀ rs rs' : List TimedRequest, key ≠ "" →
      (∀ r ∈ rs ++ rs', CountsIn py (keyBucket key) r → Bears py key r) →
      rs.filter (Bears py key) = rs'.filter (Bears py key) →
      answersTo py limits key rs = answersTo py limits key rs') ∧
    (BudgetIsolated py limits key ↔
      key ≠ "" ∧ key.length < 12 ∨ limits.maxRequests = 0 ∨ limits.windowSeconds = 0) := by
  have hpair : ∀ rs rs' : List TimedRequest, key ≠ "" →
      (∀ r ∈ rs ++ rs', CountsIn py (keyBucket key) r → Bears py key r) →
      rs.filter (Bears py key) = rs'.filter (Bears py key) →
      answersTo py limits key rs = answersTo py limits key rs' := by
    intro rs rs' hne hown hsame
    have hiff : ∀ r ∈ rs ++ rs', Bears py key r ↔ CountsIn py (keyBucket key) r :=
      fun r hr => ⟨fun h => h.countsIn hne, hown r hr⟩
    exact answersAmong_eq (Bears py key) (fun r hr => hiff r (List.mem_append_left _ hr))
      (fun r hr => hiff r (List.mem_append_right _ hr)) hsame
  refine ⟨hpair, ⟨fun hisolated => ?_, ?_⟩⟩
  · by_contra hcond
    obtain ⟨hlong, hlimits⟩ := not_or.mp hcond
    obtain ⟨hmax, hwindow⟩ := not_or.mp hlimits
    obtain ⟨rival, hrival, hshared⟩ := @exists_rival py key hlong
    exact not_budgetIsolated (Nat.pos_of_ne_zero hmax) (Nat.pos_of_ne_zero hwindow) hrival hshared
      hisolated
  · rintro (⟨hne, hshort⟩ | hmax | hwindow)
    · intro rs rs' _ _ hsame
      exact hpair rs rs' hne (fun r _ h => bears_of_countsIn hshort h) hsame
    · exact budgetIsolated_of_none hmax
    · rcases Nat.eq_zero_or_pos limits.maxRequests with hmax | hmax
      · exact budgetIsolated_of_none hmax
      · exact budgetIsolated_of_instant hmax hwindow

/-- One request with a made-up key refuses the next one with a key of the same beginning. -/
theorem made_up_key_uses_up_the_budget :
    ¬ ∀ py limits key, BudgetIsolated py limits key := by
  intro hclaim
  have hrival : (some "soar_0123456" : Option String) ≠ some "soar_0123456789" := by decide
  have hvictim : getClientKey .ascii (hook (some "soar_0123456789")).request =
      keyBucket "soar_0123456" :=
    getClientKey_eq_keyBucket.mpr ⟨"soar_0123456789", rfl, by decide, by decide⟩
  have hshared : getClientKey .ascii (hook (some "soar_0123456")).request =
      getClientKey .ascii (hook (some "soar_0123456789")).request := by
    rw [hvictim]
    exact getClientKey_eq_keyBucket.mpr ⟨"soar_0123456", rfl, by decide, rfl⟩
  have hopen : 0 < (⟨1, 60⟩ : Limits).maxRequests := Nat.one_pos
  have hwindow : 0 < (⟨1, 60⟩ : Limits).windowSeconds := by decide
  exact not_budgetIsolated hopen hwindow hrival hshared (hclaim .ascii ⟨1, 60⟩ "soar_0123456789")

end OpenSoar
