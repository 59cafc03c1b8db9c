/-
# `OpenSoar.Ai.TopCandidates` — which near-duplicates are returned

`deduplicate_alert` lets an alert in by its score, but sorts and cuts by the score rounded to four
places.  Among alerts with one rounded score the newer come first, so a better one can be listed
behind a worse one, or be cut off.  `candidates_best_iff` says exactly when that happens, over the
exact reals.
-/
import OpenSoar.Ai.Deduplicate
import OpenSoar.Api.ReadOnly
import OpenSoar.Lib.TopK

namespace OpenSoar

open Python List

/-! ## Scores by id -/

section Scores

variable {threshold : ℝ} {target : List ℝ} {vectors : Uuid → List ℝ} {rows : List AlertRow}
  {limit : Nat}

/-- The similarity of an alert with this embedding to the target. -/
noncomputable def trueSimilarity (target : List ℝ) (vectors : Uuid → List ℝ) (alertId : Uuid) : ℝ :=
  cosineSimilarity .exact target (vectors alertId)

/-- What the candidates are sorted by. -/
noncomputable def roundedSimilarity (target : List ℝ) (vectors : Uuid → List ℝ) (alertId : Uuid) :
    ℝ := ScoreOps.exact.round4 (trueSimilarity target vectors alertId)

/-- The alerts whose similarity is at least the threshold. -/
noncomputable def aboveThreshold (threshold : ℝ) (target : List ℝ) (vectors : Uuid → List ℝ)
    (rows : List AlertRow) : List Uuid :=
  (rows.map AlertRow.key).filter
    (fun alertId => ScoreOps.exact.ge (trueSimilarity target vectors alertId) threshold)

/-- The vectors of these alerts, all of them available. -/
def comparedWith (target : List ℝ) (vectors : Uuid → List ℝ) (rows : List AlertRow) :
    Compared ℝ :=
  ⟨target, rows.map (fun row => (row, vectors row.key))⟩

theorem scoredCandidates_cons (row : AlertRow) (rows : List AlertRow) :
    scoredCandidates .exact threshold (comparedWith target vectors (row :: rows)) =
      if ScoreOps.exact.ge (trueSimilarity target vectors row.key) threshold then
        ⟨row.key, roundedSimilarity target vectors row.key, row.title, row.severity⟩ ::
          scoredCandidates .exact threshold (comparedWith target vectors rows)
      else scoredCandidates .exact threshold (comparedWith target vectors rows) := by
  by_cases h : ScoreOps.exact.ge (trueSimilarity target vectors row.key) threshold = true
  · rw [if_pos h]
    exact List.filterMap_cons_some (if_pos h)
  · rw [if_neg h]
    exact List.filterMap_cons_none (if_neg h)

theorem scoredCandidates_ids :
    (scoredCandidates .exact threshold (comparedWith target vectors rows)).map
      DedupCandidate.alertId = aboveThreshold threshold target vectors rows := by
  induction rows with
  | nil => rfl
  | cons row rows ih =>
      rw [scoredCandidates_cons, aboveThreshold, List.map_cons, List.filter_cons]
      split
      · rw [List.map_cons, ih, aboveThreshold]
      · rw [ih, aboveThreshold]

theorem scoredCandidates_similarity {candidate : DedupCandidate ℝ}
    (h : candidate ∈ scoredCandidates .exact threshold (comparedWith target vectors rows)) :
    candidate.similarity = roundedSimilarity target vectors candidate.alertId := by
  induction rows with
  | nil => cases h
  | cons row rows ih =>
      rw [scoredCandidates_cons] at h
      split at h
      · rcases List.mem_cons.mp h with rfl | hrest
        · rfl
        · exact ih hrest
      · exact ih h

/-- The sort and the cut, on the ids. -/
theorem rankedCandidates_ids :
    (rankedCandidates .exact limit
        (scoredCandidates .exact threshold (comparedWith target vectors rows))).map
      DedupCandidate.alertId =
      TopK.topK (roundedSimilarity target vectors) limit
        (aboveThreshold threshold target vectors rows) := by
  rw [rankedCandidates, List.map_take, TopK.topK, TopK.byKey, ← scoredCandidates_ids]
  congr 1
  refine List.map_insertionSort _ _ _ _ (fun a ha b hb => ?_)
  rw [exact_not_lt, scoredCandidates_similarity ha, scoredCandidates_similarity hb]

theorem nodup_aboveThreshold (h : (rows.map AlertRow.key).Nodup) :
    (aboveThreshold threshold target vectors rows).Nodup := h.filter _

/-- **When the candidates are the best.** -/
theorem rankedCandidates_best_iff (h : (rows.map AlertRow.key).Nodup) :
    TopK.Best (trueSimilarity target vectors) limit (aboveThreshold threshold target vectors rows)
        ((rankedCandidates .exact limit
          (scoredCandidates .exact threshold (comparedWith target vectors rows))).map
            DedupCandidate.alertId) ↔
      ∀ x y, [x, y] <+ aboveThreshold threshold target vectors rows →
        roundedSimilarity target vectors x = roundedSimilarity target vectors y →
        trueSimilarity target vectors x < trueSimilarity target vectors y →
        limit ≤ TopK.standing (roundedSimilarity target vectors)
          (aboveThreshold threshold target vectors rows) x := by
  rw [rankedCandidates_ids]
  exact TopK.best_topK_iff (nodup_aboveThreshold h) (fun _ _ hle => round4_mono hle)

end Scores

/-! ## The corpus -/

section Corpus

variable {app : App} {order : NewestAlerts} {analyst : Analyst} {target : AlertRow} {s : Server}

theorem nodup_visibleOthers : ((visibleOthers app analyst target s).map AlertRow.key).Nodup :=
  s.alerts.nodup.sublist (List.filter_sublist.map AlertRow.key)

theorem nodup_dedupCorpus : ((dedupCorpus app order analyst target s).map AlertRow.key).Nodup := by
  have hsorted : ((order.sort (visibleOthers app analyst target s)).map AlertRow.key).Nodup :=
    ((order.perm _).map AlertRow.key).nodup_iff.mpr nodup_visibleOthers
  exact hsorted.sublist ((List.take_sublist _ _).map AlertRow.key)

/-- A corpus within the limit is everything that the caller may see. -/
theorem dedupCorpus_perm
    (h : (visibleOthers app analyst target s).length ≤ dedupCorpusLimit) :
    dedupCorpus app order analyst target s ~ visibleOthers app analyst target s := by
  have hperm := order.perm (visibleOthers app analyst target s)
  rw [dedupCorpus, List.take_of_length_le (hperm.length_eq.trans_le h)]
  exact hperm

end Corpus

/-! ## The endpoint -/

section Endpoint

variable {env : EmbeddingEnv ℝ} {py : PyText} {app : App} {order : NewestAlerts}
  {settings : EmbeddingSettings ℝ} {answers : Uuid → EmbeddingAnswer ℝ}
  {body : DeduplicateRequest ℝ} {caller : Option Analyst} {s : Server} {st : EmbeddingState ℝ}
  {granted : DedupGranted} {target : List ℝ} {vectors : Uuid → List ℝ}

theorem deduplicateAlert_ok {compared : Compared ℝ}
    (hchecks : dedupChecks py app settings body caller s = .ok granted)
    (hcompared : (compareAlerts env app order settings answers granted s st).1 = .ok compared) :
    (deduplicateAlert .exact env py app order settings answers body caller s st).1 =
      .ok (dedupResponse .exact settings body granted compared) := by
  rw [deduplicateAlert, hchecks]
  show ((compareAlerts env app order settings answers granted s st).1.mapError
    DedupRaised.embedding).map _ = _
  rw [hcompared]
  rfl

/-- **Which candidates are returned.**  With at most `DEDUP_CORPUS_LIMIT` visible alerts, whose
embeddings are all available: the most similar ones, in order, if and only if none of those that
are returned is followed by a more similar alert with the same rounded similarity. -/
theorem candidates_best_iff
    (hchecks : dedupChecks py app settings body caller s = .ok granted)
    (hsize : (visibleOthers app granted.analyst granted.target s).length ≤ dedupCorpusLimit)
    (havailable : (compareAlerts env app order settings answers granted s st).1 =
      .ok (comparedWith target vectors
        (dedupCorpus app order granted.analyst granted.target s))) :
    ∃ response,
      (deduplicateAlert .exact env py app order settings answers body caller s st).1
        = .ok response ∧
      (TopK.Best (trueSimilarity target vectors) body.limit.val
          (aboveThreshold response.threshold target vectors
            (visibleOthers app granted.analyst granted.target s))
          (response.candidates.map DedupCandidate.alertId) ↔
        ∀ x y, [x, y] <+ aboveThreshold response.threshold target vectors
            (dedupCorpus app order granted.analyst granted.target s) →
          roundedSimilarity target vectors x = roundedSimilarity target vectors y →
          trueSimilarity target vectors x < trueSimilarity target vectors y →
          body.limit.val ≤ TopK.standing (roundedSimilarity target vectors)
            (aboveThreshold response.threshold target vectors
              (dedupCorpus app order granted.analyst granted.target s)) x) := by
  refine ⟨_, deduplicateAlert_ok hchecks havailable, ?_⟩
  have hperm := ((@dedupCorpus_perm app order _ _ s hsize).map AlertRow.key).filter
    (fun alertId => ScoreOps.exact.ge (trueSimilarity target vectors alertId)
      (body.threshold.getD settings.aiDedupThreshold))
  refine (TopK.best_perm hperm.symm).trans ?_
  exact rankedCandidates_best_iff nodup_dedupCorpus

end Endpoint

/-! ## Two candidates -/

/-- Alerts of one time in the order of the table. -/
def NewestAlerts.stable : NewestAlerts where
  sort rows := rows.insertionSort (fun a b => b.createdAt ≤ a.createdAt)
  perm rows := List.perm_insertionSort _ rows
  sorted rows := TopK.sorted_byKey AlertRow.createdAt rows

/-- The alert with this id, of this time. -/
def beaconAt (id : Uuid) (createdAt : Timestamp) : AlertRow :=
  { acmeBeacon with id, createdAt, archivedAt := none }

theorem nodup_beacons : ([beaconAt 1 0, beaconAt 2 2, beaconAt 3 1].map AlertRow.key).Nodup := by
  decide

/-- Three alerts, the second of them the newest. -/
def threeBeacons : Server :=
  { Server.empty with alerts := ⟨[beaconAt 1 0, beaconAt 2 2, beaconAt 3 1], nodup_beacons⟩ }

/-- Embeddings by OpenAI, with the threshold one half. -/
noncomputable def halfSettings : EmbeddingSettings ℝ where
  aiEmbeddingProvider := none
  aiEmbeddingModel := none
  openaiApiKey := some "sk"
  ollamaUrl := none
  anthropicApiKey := none
  aiDedupThreshold := half
  aiEmbeddingCacheTtl := 604800

theorem one_le_limit : 1 ≤ 1 ∧ 1 ≤ 50 := ⟨Nat.le_refl 1, by decide⟩

/-- The best duplicate of the first alert. -/
def bestOfFirst : DeduplicateRequest ℝ := ⟨Uuid.toText 1, none, ⟨1, one_le_limit⟩⟩

/-- Nothing is cached. -/
def uncached : EmbeddingEnv ℝ where
  json := ⟨.ascii, fun _ => .nan⟩
  codec := ⟨fun _ _ => none, fun _ => .ok none⟩
  backend := inMemoryCacheBackend

/-- The provider computes these vectors. -/
def answersOf (vectors : Uuid → List ℝ) (alertId : Uuid) : EmbeddingAnswer ℝ :=
  ⟨.ok ⟨vectors alertId, "text-embedding-3-small"⟩, 0⟩

/-- What the checks of the request come to. -/
def grantedFirst : DedupGranted :=
  ⟨administrator, ⟨"openai", "text-embedding-3-small", "sk", ""⟩, beaconAt 1 0⟩

theorem dedupChecks_first :
    dedupChecks .ascii .core halfSettings bestOfFirst (some administrator) threeBeacons
      = .ok grantedFirst := by
  rw [dedupChecks, bestOfFirst, ofText_beacon]
  rfl

theorem corpus_first :
    dedupCorpus .core .stable administrator (beaconAt 1 0) threeBeacons
      = [beaconAt 2 2, beaconAt 3 1] := by
  rfl

theorem compareAlerts_first (vectors : Uuid → List ℝ) :
    (compareAlerts uncached .core .stable halfSettings (answersOf vectors) grantedFirst threeBeacons
      ⟨0, ∅, []⟩).1 = .ok (comparedWith (vectors 1) vectors
        (dedupCorpus .core .stable administrator (beaconAt 1 0) threeBeacons)) := by
  rfl

/-- The second alert is almost, the third one exactly a duplicate of the first. -/
noncomputable def nearlySame (alertId : Uuid) : List ℝ :=
  if alertId = 2 then [999999, 2000] else [1, 0]

theorem similarity_near : trueSimilarity [1, 0] nearlySame 2 = 999999 / 1000001 := by
  have hvector : nearlySame 2 = [999999, 2000] := if_pos rfl
  have hnorm : √(1000002000001 : ℝ) = 1000001 := by
    rw [show (1000002000001 : ℝ) = 1000001 ^ 2 by norm_num]
    exact Real.sqrt_sq (by norm_num)
  have hlength : ([1, 0] : List ℝ).length = [(999999 : ℝ), 2000].length := rfl
  rw [trueSimilarity, hvector, cosineSimilarity_exact hlength]
  norm_num [dotProduct, sumSquares, hnorm]

theorem similarity_exact : trueSimilarity [1, 0] nearlySame 3 = 1 := by
  have hvector : nearlySame 3 = [1, 0] := if_neg (by decide)
  rw [trueSimilarity, hvector, cosineSimilarity_exact rfl]
  norm_num [dotProduct, sumSquares]

theorem rounded_near : roundedSimilarity [1, 0] nearlySame 2 = 1 := by
  have hfloor : ⌊(999999 / 1000001 * 10000 : ℝ)⌋ = 9999 := by
    rw [Int.floor_eq_iff]
    norm_num
  have hfract : ¬ Int.fract (999999 / 1000001 * 10000 : ℝ) < 1 / 2 := by
    rw [Int.fract, hfloor]
    norm_num
  have hhigh : 1 / 2 < Int.fract (999999 / 1000001 * 10000 : ℝ) := by
    rw [Int.fract, hfloor]
    norm_num
  rw [roundedSimilarity, similarity_near]
  show ((roundHalfEven (999999 / 1000001 * 10000) : ℤ) : ℝ) / 10000 = 1
  rw [roundHalfEven, if_neg hfract, if_pos hhigh, hfloor]
  norm_num

/-- A similarity of so many ten-thousandths is not rounded. -/
theorem rounded_of_similarity {target : List ℝ} {vectors : Uuid → List ℝ} {alertId : Uuid} {n : ℤ}
    (h : trueSimilarity target vectors alertId = n / 10000) :
    roundedSimilarity target vectors alertId = n / 10000 := by
  have hscaled : (n / 10000 * 10000 : ℝ) = (n : ℝ) := by norm_num
  have hfract : Int.fract (n : ℝ) < 1 / 2 := by
    rw [Int.fract_intCast]
    norm_num
  rw [roundedSimilarity, h]
  show ((roundHalfEven (n / 10000 * 10000) : ℤ) : ℝ) / 10000 = n / 10000
  rw [hscaled, roundHalfEven, if_pos hfract, Int.floor_intCast]

theorem rounded_exact : roundedSimilarity [1, 0] nearlySame 3 = 1 := by
  refine (@rounded_of_similarity [1, 0] nearlySame 3 10000 ?_).trans ?_
  · rw [similarity_exact]
    norm_num
  · norm_num

theorem above_near : aboveThreshold (1 / 2) [1, 0] nearlySame
    (dedupCorpus .core .stable administrator (beaconAt 1 0) threeBeacons) = [2, 3] := by
  rw [corpus_first, aboveThreshold]
  refine List.filter_eq_self.mpr (fun alertId h => exact_ge.mpr ?_)
  rcases List.mem_cons.mp h with rfl | h
  · exact similarity_near.symm ▸ (by norm_num)
  · cases List.mem_singleton.mp h
    exact similarity_exact.symm ▸ (by norm_num)

/-- Of two duplicates the better one is dropped. -/
theorem better_duplicate_dropped :
    dedupChecks .ascii .core halfSettings bestOfFirst (some administrator) threeBeacons
        = .ok grantedFirst ∧
      ∃ response,
        (deduplicateAlert .exact uncached .ascii .core .stable halfSettings (answersOf nearlySame)
          bestOfFirst (some administrator) threeBeacons ⟨0, ∅, []⟩).1 = .ok response ∧
        ¬ TopK.Best (trueSimilarity [1, 0] nearlySame) 1
          (aboveThreshold response.threshold [1, 0] nearlySame
            (dedupCorpus .core .stable administrator (beaconAt 1 0) threeBeacons))
          (response.candidates.map DedupCandidate.alertId) := by
  refine ⟨dedupChecks_first, _,
    deduplicateAlert_ok dedupChecks_first (compareAlerts_first nearlySame), ?_⟩
  intro hbest
  have hbefore : [(2 : Uuid), 3] <+ aboveThreshold (1 / 2) [1, 0] nearlySame
      (dedupCorpus .core .stable administrator (beaconAt 1 0) threeBeacons) := by
    rw [above_near]
  have hless : trueSimilarity [1, 0] nearlySame 2 < trueSimilarity [1, 0] nearlySame 3 := by
    rw [similarity_near, similarity_exact]
    norm_num
  have hcut : 1 ≤ TopK.standing (roundedSimilarity [1, 0] nearlySame)
      (aboveThreshold (1 / 2) [1, 0] nearlySame
        (dedupCorpus .core .stable administrator (beaconAt 1 0) threeBeacons)) 2 :=
    (rankedCandidates_best_iff nodup_dedupCorpus).mp hbest 2 3 hbefore
      (rounded_near.trans rounded_exact.symm) hless
  rw [above_near, TopK.standing, Leading.rank_cons_self, List.countP_cons, List.countP_cons,
    rounded_near, rounded_exact] at hcut
  simp at hcut

/-- The second alert resembles the first, the third one is its duplicate. -/
noncomputable def resembling (alertId : Uuid) : List ℝ :=
  if alertId = 2 then [1, 1, 1, 1] else [1, 0, 0, 0]

theorem similarity_resembling : trueSimilarity [1, 0, 0, 0] resembling 2 = 1 / 2 := by
  have hvector : resembling 2 = [1, 1, 1, 1] := if_pos rfl
  have hnorm : √(4 : ℝ) = 2 := by
    rw [show (4 : ℝ) = 2 ^ 2 by norm_num]
    exact Real.sqrt_sq (by norm_num)
  have hlength : ([1, 0, 0, 0] : List ℝ).length = [(1 : ℝ), 1, 1, 1].length := rfl
  rw [trueSimilarity, hvector, cosineSimilarity_exact hlength]
  norm_num [dotProduct, sumSquares, hnorm]

theorem similarity_duplicate : trueSimilarity [1, 0, 0, 0] resembling 3 = 1 := by
  have hvector : resembling 3 = [1, 0, 0, 0] := if_neg (by decide)
  rw [trueSimilarity, hvector, cosineSimilarity_exact rfl]
  norm_num [dotProduct, sumSquares]

theorem above_resembling : aboveThreshold (1 / 2) [1, 0, 0, 0] resembling
    (dedupCorpus .core .stable administrator (beaconAt 1 0) threeBeacons) = [2, 3] := by
  rw [corpus_first, aboveThreshold]
  refine List.filter_eq_self.mpr (fun alertId h => exact_ge.mpr ?_)
  rcases List.mem_cons.mp h with rfl | h
  · exact similarity_resembling.symm ▸ (by norm_num)
  · cases List.mem_singleton.mp h
    exact similarity_duplicate.symm ▸ (by norm_num)

/-- Of two alerts above the threshold whose similarities differ when rounded, the better one is
returned, though it is the older. -/
theorem better_candidate_returned :
    ∃ response,
      (deduplicateAlert .exact uncached .ascii .core .stable halfSettings (answersOf resembling)
        bestOfFirst (some administrator) threeBeacons ⟨0, ∅, []⟩).1 = .ok response ∧
      TopK.Best (trueSimilarity [1, 0, 0, 0] resembling) 1
        (aboveThreshold response.threshold [1, 0, 0, 0] resembling
          (visibleOthers .core administrator (beaconAt 1 0) threeBeacons))
        (response.candidates.map DedupCandidate.alertId) := by
  have hsize : (visibleOthers .core administrator (beaconAt 1 0) threeBeacons).length ≤
      dedupCorpusLimit := by
    decide
  have havailable := compareAlerts_first resembling
  rw [show resembling 1 = [1, 0, 0, 0] from if_neg (by decide)] at havailable
  obtain ⟨response, hresponse, hiff⟩ :=
    candidates_best_iff dedupChecks_first hsize havailable
  have hthreshold : response.threshold = 1 / 2 := by
    rw [deduplicateAlert_ok dedupChecks_first havailable] at hresponse
    cases hresponse
    rfl
  refine ⟨response, hresponse, hiff.mpr ?_⟩
  rw [hthreshold]
  show ∀ x y, [x, y] <+ aboveThreshold (1 / 2) [1, 0, 0, 0] resembling
    (dedupCorpus .core .stable administrator (beaconAt 1 0) threeBeacons) → _
  rw [above_resembling]
  intro x y hbefore hrounded _
  obtain ⟨rfl, rfl⟩ : x = 2 ∧ y = 3 := by
    have hsame := hbefore.eq_of_length rfl
    exact ⟨(List.cons.inj hsame).1, (List.cons.inj (List.cons.inj hsame).2).1⟩
  have hsecond : roundedSimilarity [1, 0, 0, 0] resembling 2 = (5000 : ℤ) / 10000 :=
    rounded_of_similarity (by rw [similarity_resembling]; norm_num)
  have hthird : roundedSimilarity [1, 0, 0, 0] resembling 3 = (10000 : ℤ) / 10000 :=
    rounded_of_similarity (by rw [similarity_duplicate]; norm_num)
  rw [hsecond, hthird] at hrounded
  norm_num at hrounded

end OpenSoar
