/-
# `OpenSoar.Worker.Scheduling` — the tasks that an enrichment publishes

In a transaction that is not doomed an enrichment publishes a task for each row it adds
whose `enqueue_enrichment` comes to the broker (`autoEnrich_publishes`).  `Enqueues` says
when that is, in terms of what the sources, the cache, the in-flight slot and the broker
answer; `Scheduled` says it of a candidate.
-/
import OpenSoar.Worker.Enrichment

namespace OpenSoar

open UnitOfWork

/-! ## Whether a row is enqueued -/

/-- One of the sources has no fresh entry, and the entries of those before it are fresh. -/
def FindsStale (cached : String → Reply Bool) (sources : List String) : Prop :=
  ∃ before source after, sources = before ++ source :: after ∧
    (∀ b ∈ before, cached b = .value true) ∧
      (cached source = .value false ∨ cached source = .expected)

/-- `should_enrich` says yes: the sources cannot be read, there are none, the cache cannot be
had, or an entry is stale. -/
inductive Wants (enqueue : EnqueueEnv) : Prop
  | unread (e : Raised) :
      enqueue.sourcesFate = .raisesBefore e ∨ enqueue.sourcesFate = .raisesAfter e →
      e.isSqlAlchemyError = true → Wants enqueue
  | noSources : enqueue.sourcesFate = .answered → enqueue.sources = [] → Wants enqueue
  | noCache : enqueue.sourcesFate = .answered → enqueue.cache = .expected → Wants enqueue
  | stale : enqueue.sourcesFate = .answered → enqueue.cache = .value () →
      FindsStale enqueue.cached enqueue.sources → Wants enqueue

/-- `enqueue_enrichment` comes to the broker, and the broker takes the task. -/
structure Enqueues (enqueue : EnqueueEnv) : Prop where
  wanted : Wants enqueue
  claimed : enqueue.markInflight = .ok true
  delayed : enqueue.delay = .value ()

/-- A candidate that an enrichment adds a row for and enqueues. -/
structure Scheduled (env : EnrichmentEnv) (observables : List Observable)
    (candidates : List (String × String)) (c : String × String) : Prop where
  listed : c ∈ candidates
  isNew : IsNew observables c
  passed : ∀ b ∈ candidates, Passes env observables b
  flushed : env.flush = .answered
  enqueued : Enqueues (env.enqueue c)

theorem findsStale_cons {cached : String → Reply Bool} {source : String} {sources : List String} :
    FindsStale cached (source :: sources) ↔
      (cached source = .value false ∨ cached source = .expected) ∨
        (cached source = .value true ∧ FindsStale cached sources) := by
  constructor
  · rintro ⟨before, stale, after, hsplit, hfresh, hstale⟩
    cases before with
    | nil =>
        cases hsplit
        exact Or.inl hstale
    | cons b before =>
        cases hsplit
        exact Or.inr ⟨hfresh source List.mem_cons_self, before, stale, after, rfl,
          fun b hb => hfresh b (List.mem_cons_of_mem _ hb), hstale⟩
  · rintro (hstale | ⟨hfirst, before, stale, after, rfl, hfresh, hstale⟩)
    · exact ⟨[], source, sources, rfl, by simp, hstale⟩
    · refine ⟨source :: before, stale, after, rfl, ?_, hstale⟩
      intro b hb
      rcases List.mem_cons.mp hb with rfl | hb
      · exact hfirst
      · exact hfresh b hb

theorem anyStale_iff {cached : String → Reply Bool} {sources : List String} {s : IngestSession} :
    (anyStale cached sources s).1 = .ok true ↔ FindsStale cached sources := by
  induction sources with
  | nil =>
      refine iff_of_false (fun h => ?_) ?_
      · cases h
      · rintro ⟨before, source, after, hsplit, -⟩
        cases before <;> cases hsplit
  | cons source sources ih =>
      rw [findsStale_cons]
      simp only [anyStale]
      cases hcached : cached source with
      | value fresh =>
          cases fresh with
          | true => simp [ih]
          | false => exact iff_of_true rfl (Or.inl (Or.inl rfl))
      | expected => exact iff_of_true rfl (Or.inl (Or.inr rfl))
      | unexpected e =>
          refine iff_of_false (fun h => ?_) (by simp)
          cases h

theorem consultCache_iff {enqueue : EnqueueEnv} {sources : List String} {s : IngestSession} :
    (consultCache enqueue (some sources) s).1 = .ok true ↔
      sources = [] ∨ enqueue.cache = .expected ∨
        (enqueue.cache = .value () ∧ FindsStale enqueue.cached sources) := by
  cases sources with
  | nil => exact iff_of_true rfl (Or.inl rfl)
  | cons source rest =>
      simp only [consultCache]
      cases hcache : enqueue.cache with
      | value u => simp [anyStale_iff]
      | expected => exact iff_of_true rfl (Or.inr (Or.inl rfl))
      | unexpected e =>
          refine iff_of_false (fun h => ?_) (by simp)
          cases h

/-- Once its query is answered, `should_enrich` consults the cache about the sources. -/
theorem shouldEnrich_answered {enqueue : EnqueueEnv} {s : IngestSession}
    (hs : ¬ Doomed observableWrites s) (hanswered : enqueue.sourcesFate = .answered) :
    shouldEnrich enqueue s =
      consultCache enqueue (some enqueue.sources) (s.flushed observableWrites) := by
  have hread : configuredSources enqueue s =
      (.ok (some enqueue.sources), s.flushed observableWrites) := by
    refine Work.recover_ok (Work.andThen_ok ?_)
    rw [hanswered]
    exact query_ok hs
  exact Work.andThen_ok hread

/-- A query of the sources that raises a `SQLAlchemyError` has the observable enriched. -/
theorem shouldEnrich_raises {enqueue : EnqueueEnv} {s s' : IngestSession} {e : Raised}
    (h : (Work.statement observableWrites enqueue.sourcesFate (fun _ => enqueue.sources) s :
      Except Raised (List String) × IngestSession) = (.error e, s')) :
    (shouldEnrich enqueue s).1 = .ok true ↔ e.isSqlAlchemyError = true := by
  have hsources : configuredSources enqueue s =
      (if e.isSqlAlchemyError then pure none else Work.raise e : IngestWork _) s' :=
    Work.recover_error (Work.andThen_error h)
  cases hsql : e.isSqlAlchemyError with
  | true =>
      rw [hsql] at hsources
      have hstep : shouldEnrich enqueue s = consultCache enqueue none s' :=
        Work.andThen_ok hsources
      rw [hstep]
      exact iff_of_true rfl rfl
  | false =>
      rw [hsql] at hsources
      have hstep : shouldEnrich enqueue s = (.error e, s') := Work.andThen_error hsources
      rw [hstep]
      simp

theorem wants_of_raises {enqueue : EnqueueEnv} {e : Raised}
    (he : enqueue.sourcesFate = .raisesBefore e ∨ enqueue.sourcesFate = .raisesAfter e) :
    Wants enqueue ↔ e.isSqlAlchemyError = true := by
  constructor
  · intro hwants
    have hanswered : enqueue.sourcesFate ≠ .answered := by
      intro h
      rcases he with he | he <;> cases he.symm.trans h
    cases hwants with
    | unread e' he' hsql =>
        rcases he with he | he <;> rcases he' with he' | he' <;> cases he.symm.trans he' <;>
          exact hsql
    | noSources h _ => exact absurd h hanswered
    | noCache h _ => exact absurd h hanswered
    | stale h _ _ => exact absurd h hanswered
  · exact fun hsql => .unread e he hsql

/-- `should_enrich` in a session that its query of the sources does not doom. -/
theorem shouldEnrich_iff {enqueue : EnqueueEnv} {s : IngestSession}
    (hs : ¬ Doomed observableWrites s) (hfate : enqueue.sourcesFate ≠ .refused) :
    (shouldEnrich enqueue s).1 = .ok true ↔ Wants enqueue := by
  cases hsourcesFate : enqueue.sourcesFate with
  | refused => exact absurd hsourcesFate hfate
  | raisesBefore e =>
      rw [wants_of_raises (Or.inl hsourcesFate)]
      exact shouldEnrich_raises (by rw [hsourcesFate]; rfl)
  | raisesAfter e =>
      rw [wants_of_raises (Or.inr hsourcesFate)]
      exact shouldEnrich_raises (by rw [hsourcesFate]; exact Work.andThen_ok (query_ok hs))
  | answered =>
      rw [shouldEnrich_answered hs hsourcesFate, consultCache_iff]
      constructor
      · rintro (h | h | ⟨h, hstale⟩)
        · exact .noSources hsourcesFate h
        · exact .noCache hsourcesFate h
        · exact .stale hsourcesFate h hstale
      · rintro (⟨e, he | he, -⟩ | ⟨-, h⟩ | ⟨-, h⟩ | ⟨-, h, hstale⟩)
        · cases hsourcesFate.symm.trans he
        · cases hsourcesFate.symm.trans he
        · exact Or.inl h
        · exact Or.inr (Or.inl h)
        · exact Or.inr (Or.inr ⟨h, hstale⟩)

/-! ## What is published -/

/-- The task of a row. -/
def enrichTask (alert : Alert) (obs : NewObservable) : EnrichTask :=
  ⟨obs.id, obs.type, obs.value, alert.partner.map (·.val)⟩

theorem shouldEnrich_silent (enqueue : EnqueueEnv) : Work.Silent (shouldEnrich enqueue) := by
  refine within_andThen (within_recover ?_ ?_) (fun sources => consultCache_within enqueue sources)
  · exact within_andThen (silent_statement _ _) (fun _ => within_ret _)
  · intro e
    split
    · exact within_ret none
    · exact within_raise e

/-- One row: its task is published, and nothing else is, when `should_enrich` says yes, the slot
is claimed and the broker takes the task. -/
theorem enqueueEnrichment_sends {enqueue : EnqueueEnv} (alert : Alert) (obs : NewObservable)
    {s : IngestSession} {wants : Prop} (hanswer : (shouldEnrich enqueue s).1 = .ok true ↔ wants) :
    ((wants ∧ enqueue.markInflight = .ok true ∧ enqueue.delay = .value ()) ∧
        (enqueueEnrichment enqueue obs (alert.partner.map (·.val)) s).2.effects =
          s.effects ++ [.published (.enrich (enrichTask alert obs))]) ∨
      (¬ (wants ∧ enqueue.markInflight = .ok true ∧ enqueue.delay = .value ()) ∧
        (enqueueEnrichment enqueue obs (alert.partner.map (·.val)) s).2.effects = s.effects) := by
  have hsilent := shouldEnrich_silent enqueue s
  obtain ⟨r, s', hwanted⟩ : ∃ r s', shouldEnrich enqueue s = (r, s') := ⟨_, _, rfl⟩
  rw [hwanted] at hanswer hsilent
  have hno : r ≠ .ok true →
      ¬ (wants ∧ enqueue.markInflight = .ok true ∧ enqueue.delay = .value ()) :=
    fun hr h => hr (hanswer.mpr h.1)
  cases r with
  | error e =>
      have hstep : enqueueEnrichment enqueue obs (alert.partner.map (·.val)) s = (.error e, s') :=
        Work.andThen_error hwanted
      rw [hstep]
      exact Or.inr ⟨hno (by simp), hsilent⟩
  | ok wanted =>
      have hstep : enqueueEnrichment enqueue obs (alert.partner.map (·.val)) s =
          enqueueIfWanted enqueue obs (alert.partner.map (·.val)) wanted s' :=
        Work.andThen_ok hwanted
      rw [hstep]
      cases wanted with
      | false =>
          refine Or.inr ⟨hno (by simp), ?_⟩
          simp only [enqueueIfWanted, Bool.false_eq_true, if_false]
          cases enqueue.skipMetric <;> exact hsilent
      | true =>
          simp only [enqueueIfWanted, if_true]
          cases hclaimed : enqueue.markInflight with
          | error e => exact Or.inr ⟨(fun h => by cases h.2.1), hsilent⟩
          | ok claimed =>
              cases claimed with
              | false => exact Or.inr ⟨(fun h => by cases h.2.1), hsilent⟩
              | true =>
                  show (_ ∧ (delayEnrichment enqueue obs (alert.partner.map (·.val)) s').2.effects
                      = _) ∨
                    (_ ∧ (delayEnrichment enqueue obs (alert.partner.map (·.val)) s').2.effects = _)
                  simp only [delayEnrichment]
                  cases hdelay : enqueue.delay with
                  | value u =>
                      refine Or.inl ⟨⟨hanswer.mp rfl, trivial, rfl⟩, ?_⟩
                      show s'.effects ++ _ = _
                      rw [hsilent]
                      rfl
                  | expected =>
                      refine Or.inr ⟨(fun h => by cases h.2.2), ?_⟩
                      have hlift := (within_andThen (within_lift enqueue.clearInflight)
                        (fun _ => within_ret false) : Work.Silent _) s'
                      exact hlift.trans hsilent
                  | unexpected e => exact Or.inr ⟨(fun h => by cases h.2.2), hsilent⟩

theorem enqueues_iff {enqueue : EnqueueEnv} : Enqueues enqueue ↔
    Wants enqueue ∧ enqueue.markInflight = .ok true ∧ enqueue.delay = .value () :=
  ⟨fun h => ⟨h.wanted, h.claimed, h.delayed⟩, fun h => ⟨h.1, h.2.1, h.2.2⟩⟩

/-- One row in a session that its query of the sources does not doom. -/
theorem enqueueEnrichment_publishes {enqueue : EnqueueEnv} (alert : Alert) (obs : NewObservable)
    {s : IngestSession} (hs : ¬ Doomed observableWrites s)
    (hfate : enqueue.sourcesFate ≠ .refused) :
    (Enqueues enqueue ∧ (enqueueEnrichment enqueue obs (alert.partner.map (·.val)) s).2.effects =
        s.effects ++ [.published (.enrich (enrichTask alert obs))]) ∨
      (¬ Enqueues enqueue ∧
        (enqueueEnrichment enqueue obs (alert.partner.map (·.val)) s).2.effects = s.effects) := by
  rw [enqueues_iff]
  exact enqueueEnrichment_sends alert obs (shouldEnrich_iff hs hfate)

/-- The loop goes on from the session a row leaves, whatever happened to the row. -/
theorem schedule_cons (env : EnrichmentEnv) (alert : Alert) (obs : NewObservable)
    (rest : List NewObservable) (s : IngestSession) :
    scheduleEnrichmentForAlert env alert (obs :: rest) s =
      scheduleEnrichmentForAlert env alert rest (enqueueEnrichment
        (env.enqueue (obs.type, obs.value)) obs (alert.partner.map (·.val)) s).2 := by
  refine Work.andThen_ok (a := ?_) ?_
  · exact (enqueueEnrichment (env.enqueue (obs.type, obs.value)) obs
      (alert.partner.map (·.val)) s).1.toOption.getD false
  · unfold Work.recover
    split
    · rename_i b s' h
      rw [h]
      rfl
    · rename_i e s' h
      rw [h]
      rfl

/-- The rows of an alert: the task of each that is enqueued. -/
theorem schedule_publishes (env : EnrichmentEnv) (alert : Alert) (rows : List NewObservable)
    {s : IngestSession} (hs : ¬ Doomed observableWrites s)
    (hfates : ∀ obs ∈ rows, (env.enqueue (obs.type, obs.value)).sourcesFate ≠ .refused) :
    ∃ sent : List NewObservable,
      (scheduleEnrichmentForAlert env alert rows s).2.effects =
          s.effects ++ sent.map (fun obs => .published (.enrich (enrichTask alert obs))) ∧
        ∀ obs, obs ∈ sent ↔ obs ∈ rows ∧ Enqueues (env.enqueue (obs.type, obs.value)) := by
  induction rows generalizing s with
  | nil => exact ⟨[], (List.append_nil _).symm, fun obs => by simp⟩
  | cons obs rest ih =>
      have hfate := hfates obs List.mem_cons_self
      have hone := enqueueEnrichment_publishes alert obs hs hfate
      have hdoomed :
        ¬ Doomed observableWrites (enqueueEnrichment (env.enqueue (obs.type, obs.value))
          obs (alert.partner.map (·.val)) s).2 := by
        rw [doomed_enqueueEnrichment]
        rintro (h | h)
        · exact hs h
        · exact hfate h
      obtain ⟨sent, hsent, hmem⟩ := ih hdoomed (fun o ho => hfates o (List.mem_cons_of_mem _ ho))
      rw [schedule_cons, hsent]
      rcases hone with ⟨hyes, heffects⟩ | ⟨hno, heffects⟩
      · refine ⟨obs :: sent, ?_, fun o => ?_⟩
        · rw [heffects, List.map_cons, List.append_assoc]
          rfl
        · simp only [List.mem_cons, hmem]
          constructor
          · rintro (rfl | ⟨ho, h⟩)
            · exact ⟨Or.inl rfl, hyes⟩
            · exact ⟨Or.inr ho, h⟩
          · rintro ⟨rfl | ho, h⟩
            · exact Or.inl rfl
            · exact Or.inr ⟨ho, h⟩
      · refine ⟨sent, by rw [heffects], fun o => ?_⟩
        simp only [List.mem_cons, hmem]
        constructor
        · rintro ⟨ho, h⟩
          exact ⟨Or.inr ho, h⟩
        · rintro ⟨rfl | ho, h⟩
          · exact absurd h hno
          · exact ⟨ho, h⟩

theorem materialiseFrom_silent (env : EnrichmentEnv) (alert : Alert)
    (candidates : List (String × String)) (newRows : List NewObservable) :
    Work.Silent (materialiseFrom env alert candidates newRows) :=
  within_materialiseFrom silent_statement silent_add env alert candidates newRows

/-- The end of an enrichment, from the rows that were added: they are flushed, and what is
published are the tasks of those that are enqueued. -/
theorem flush_schedule_publishes (env : EnrichmentEnv) (alert : Alert)
    (rows : List NewObservable) {s s' : IngestSession} (hs : ¬ Doomed observableWrites s)
    (h : s' = (Work.andThen (flushNewRows env rows)
      (scheduleEnrichmentForAlert env alert) s).2) (hs' : ¬ Doomed observableWrites s') :
    ∃ sent : List NewObservable,
      s'.effects = s.effects ++ sent.map (fun obs => .published (.enrich (enrichTask alert obs))) ∧
        ∀ obs, obs ∈ sent ↔ obs ∈ rows ∧ env.flush = .answered ∧
          Enqueues (env.enqueue (obs.type, obs.value)) := by
  have hnone : s'.effects = s.effects → (env.flush = .answered → rows = []) →
      ∃ sent : List NewObservable,
        s'.effects = s.effects ++ sent.map
          (fun obs => .published (.enrich (enrichTask alert obs))) ∧
          ∀ obs, obs ∈ sent ↔ obs ∈ rows ∧ env.flush = .answered ∧
            Enqueues (env.enqueue (obs.type, obs.value)) := by
    intro heffects hno
    refine ⟨[], by rw [heffects]; exact (List.append_nil _).symm, fun obs => ?_⟩
    refine iff_of_false List.not_mem_nil ?_
    rintro ⟨hobs, hflush, -⟩
    rw [hno hflush] at hobs
    cases hobs
  cases rows with
  | nil => exact hnone (by rw [h]; rfl) (fun _ => rfl)
  | cons obs rest =>
      have hflush : flushNewRows env (obs :: rest) = Work.andThen
          (Work.statement observableWrites env.flush (fun _ => ()))
          (fun _ => Work.ret (obs :: rest)) := rfl
      rw [hflush, Work.andThen_assoc] at h
      cases hfate : env.flush with
      | answered =>
          rw [hfate, Work.statement, Work.andThen_ok (query_ok hs)] at h
          have hrest : s' = (scheduleEnrichmentForAlert env alert (obs :: rest)
            (s.flushed observableWrites)).2 := h
          have hgood : ∀ o ∈ obs :: rest,
              (env.enqueue (o.type, o.value)).sourcesFate ≠ .refused := by
            intro o ho hrefused
            apply hs'
            rw [hrest, doomed_schedule]
            exact Or.inr ⟨o, ho, hrefused⟩
          obtain ⟨sent, heffects, hsent⟩ :=
            schedule_publishes env alert (obs :: rest) (not_doomed_flushed hs) hgood
          refine ⟨sent, ?_, fun o => ?_⟩
          · rw [hrest, heffects]
            rfl
          · rw [hsent]
            exact ⟨fun ho => ⟨ho.1, rfl, ho.2⟩, fun ho => ⟨ho.1, ho.2.2⟩⟩
      | refused =>
          rw [hfate, Work.statement, Work.andThen_error (refuse_eq hs)] at h
          exact absurd (by rw [h]; exact doomed_of_refused _) hs'
      | raisesBefore e =>
          have hraised : Work.statement observableWrites (.raisesBefore e) (fun _ => ()) s =
              (.error e, s) := rfl
          rw [hfate, Work.andThen_error hraised] at h
          exact hfate ▸ hnone (by rw [h]) (fun hanswered => by cases hfate.symm.trans hanswered)
      | raisesAfter e =>
          have hraised : Work.statement observableWrites (.raisesAfter e) (fun _ => ()) s =
              (.error e, s.flushed observableWrites) := Work.andThen_ok (query_ok hs)
          rw [hfate, Work.andThen_error hraised] at h
          exact hfate ▸ hnone (by rw [h]; rfl)
            (fun hanswered => by cases hfate.symm.trans hanswered)

/-- **The tasks of an enrichment** that leaves its transaction able to commit: one for each
candidate that is scheduled. -/
theorem autoEnrich_publishes {env : EnrichmentEnv} {observables : List Observable} {alert : Alert}
    {s s' : IngestSession} (h : autoEnrich env alert s = (.ok (), s'))
    (hs : ¬ Doomed observableWrites s) (hs' : ¬ Doomed observableWrites s')
    (hsees : ∀ c ∈ iterObservableCandidates alert.iocs, Sees observables s c) :
    ∃ sent : List NewObservable,
      s'.effects = s.effects ++ sent.map (fun obs => .published (.enrich (enrichTask alert obs))) ∧
        ∀ obs, obs ∈ sent ↔ ∃ c, obs = newObservable env alert c ∧
          Scheduled env observables (iterObservableCandidates alert.iocs) c := by
  have hends := materialiseFrom_ends env alert (iterObservableCandidates_nodup alert.iocs)
    (fun c hc => iterObservableCandidates_type hc) [] s hs hsees
  have hsilent := materialiseFrom_silent env alert (iterObservableCandidates alert.iocs) [] s
  obtain ⟨r, s₁, hloop⟩ : ∃ r s₁, materialiseFrom env alert
      (iterObservableCandidates alert.iocs) [] s = (r, s₁) := ⟨_, _, rfl⟩
  rw [hloop] at hends hsilent
  have hend : s' = _ := (congrArg Prod.snd h).symm.trans (autoEnrich_session env alert s)
  have hs₁ : ¬ Doomed observableWrites s₁ := by
    intro hdoomed
    have hlater := doomed_of_loop hloop hdoomed
    rw [h] at hlater
    exact hs' hlater
  by_cases hall : ∀ c ∈ iterObservableCandidates alert.iocs, Passes env observables c
  · have hrows := hends.passed hs₁ hall
    simp only [List.nil_append] at hrows
    subst hrows
    rw [Work.andThen_ok hloop] at hend
    obtain ⟨sent, heffects, hsent⟩ := flush_schedule_publishes env alert _ hs₁ hend hs'
    refine ⟨sent, by rw [heffects]; exact congrArg (· ++ _) hsilent, fun obs => ?_⟩
    rw [hsent, List.mem_map]
    constructor
    · rintro ⟨⟨c, hc, rfl⟩, hflush, henqueued⟩
      obtain ⟨hlisted, hnew⟩ := List.mem_filter.mp hc
      exact ⟨c, rfl, hlisted, of_decide_eq_true hnew, hall, hflush, henqueued⟩
    · rintro ⟨c, rfl, hc⟩
      exact ⟨⟨c, List.mem_filter.mpr ⟨hc.listed, decide_eq_true hc.isNew⟩, rfl⟩, hc.flushed,
        hc.enqueued⟩
  · obtain ⟨e, he⟩ := hends.stopped hs₁ hall
    subst he
    rw [Work.andThen_error hloop] at hend
    refine ⟨[], ?_, fun obs => ?_⟩
    · rw [hend]
      exact hsilent.trans (List.append_nil _).symm
    · exact iff_of_false List.not_mem_nil (fun ⟨c, _, hc⟩ => hall hc.passed)

end OpenSoar
