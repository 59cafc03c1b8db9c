/-
# `OpenSoar.Worker.Stranded` — new observables that nobody enriches

A new observable is `pending` until a task for it is done, and a later alert with the same
indicator finds the row and enqueues nothing.  `schedule_enrichment_for_alert` never touches a
row: where `enqueue_enrichment` holds back, because the cache is fresh, the slot is taken or the
broker fails, the row stays `pending` and has no task.

So each new row has a task of its own, or another status, exactly when `enqueue_enrichment`
comes to the broker for each of them and the broker takes the task (`handled_iff_taken`).
-/
import OpenSoar.Worker.Materialise
import OpenSoar.Worker.Scheduling

namespace OpenSoar

open Python UnitOfWork

/-! ## When an observable is taken -/

/-- `should_enrich` says yes, in a session that is doomed or not: once a statement has been
refused, so is the query of the sources. -/
def WantsIn (doomed : Prop) (enqueue : EnqueueEnv) : Prop :=
  Wants enqueue ∨ enqueue.sourcesFate = .refused ∨
    (doomed ∧ ∀ e, enqueue.sourcesFate ≠ .raisesBefore e)

/-- The query of the sources for one of the rows is refused. -/
def SourcesRefused (env : EnrichmentEnv) (rows : List NewObservable) : Prop :=
  ∃ obs ∈ rows, (env.enqueue (obs.type, obs.value)).sourcesFate = .refused

/-- After the rows before it, `enqueue_enrichment` comes to the broker for the row, and the
broker takes the task. -/
structure TakenAfter (env : EnrichmentEnv) (before : List NewObservable) (obs : NewObservable) :
    Prop where
  wanted : WantsIn (SourcesRefused env before) (env.enqueue (obs.type, obs.value))
  claimed : (env.enqueue (obs.type, obs.value)).markInflight = .ok true
  delayed : (env.enqueue (obs.type, obs.value)).delay = .value ()

def Taken (env : EnrichmentEnv) (rows : List NewObservable) (obs : NewObservable) : Prop :=
  ∃ before after, rows = before ++ obs :: after ∧ TakenAfter env before obs

/-- Between two sessions a task for the observable was published, or its row is not `pending`. -/
def Handled (alert : Alert) (s s' : IngestSession) (obs : NewObservable) : Prop :=
  .published (.enrich (enrichTask alert obs)) ∈ s'.effects.drop s.effects.length ∨
    ∀ row ∈ s'.store.observables, row.id = obs.id → row.enrichmentStatus.val ≠ "pending"

theorem shouldEnrich_wantsIn (enqueue : EnqueueEnv) (s : IngestSession) :
    (shouldEnrich enqueue s).1 = .ok true ↔ WantsIn (Doomed observableWrites s) enqueue := by
  by_cases hs : Doomed observableWrites s
  · by_cases hbefore : ∃ e, enqueue.sourcesFate = .raisesBefore e
    · obtain ⟨e, he⟩ := hbefore
      rw [shouldEnrich_raises (e := e) (show _ = (_, s) by rw [he]; rfl),
        ← wants_of_raises (Or.inl he)]
      constructor
      · exact Or.inl
      · rintro (hwants | hrefused | ⟨-, hno⟩)
        · exact hwants
        · cases he.symm.trans hrefused
        · exact absurd he (hno e)
    · have hno : ∀ e, enqueue.sourcesFate ≠ .raisesBefore e := fun e he => hbefore ⟨e, he⟩
      rw [shouldEnrich_raises (statement_doomed hs hno)]
      exact iff_of_true rfl (Or.inr (Or.inr ⟨hs, hno⟩))
  · by_cases hrefused : enqueue.sourcesFate = .refused
    · rw [shouldEnrich_raises (by rw [hrefused]; exact refuse_eq hs)]
      exact iff_of_true rfl (Or.inr (Or.inl hrefused))
    · rw [shouldEnrich_iff hs hrefused]
      constructor
      · exact Or.inl
      · rintro (hwants | hfate | ⟨hdoomed, -⟩)
        · exact hwants
        · exact absurd hfate hrefused
        · exact absurd hdoomed hs

/-! ## The tasks of the new rows -/

theorem sourcesRefused_append {env : EnrichmentEnv} {before : List NewObservable}
    {obs : NewObservable} : SourcesRefused env (before ++ [obs]) ↔
      SourcesRefused env before ∨ (env.enqueue (obs.type, obs.value)).sourcesFate = .refused := by
  simp only [SourcesRefused, List.mem_append, List.mem_singleton]
  constructor
  · rintro ⟨o, ho | rfl, h⟩
    · exact Or.inl ⟨o, ho, h⟩
    · exact Or.inr h
  · rintro (⟨o, ho, h⟩ | h)
    · exact ⟨o, Or.inl ho, h⟩
    · exact ⟨obs, Or.inr rfl, h⟩

/-- An element of a list is the first one, or comes after it. -/
theorem exists_split_cons {α : Type} {P : List α → Prop} {first a : α} {rest : List α} :
    (∃ before after, first :: rest = before ++ a :: after ∧ P before) ↔
      (a = first ∧ P []) ∨ ∃ before after, rest = before ++ a :: after ∧ P (first :: before) := by
  constructor
  · rintro ⟨before, after, hrows, hP⟩
    cases before with
    | nil =>
        cases hrows
        exact Or.inl ⟨rfl, hP⟩
    | cons b before =>
        cases hrows
        exact Or.inr ⟨before, after, rfl, hP⟩
  · rintro (⟨rfl, hP⟩ | ⟨before, after, rfl, hP⟩)
    · exact ⟨[], rest, rfl, hP⟩
    · exact ⟨first :: before, after, rfl, hP⟩

/-- The rest of the rows, in a session that is doomed as the rows before them left it: a task is
published for each that is taken. -/
theorem schedule_sends (env : EnrichmentEnv) (alert : Alert) (past rest : List NewObservable)
    {s : IngestSession} (hs : Doomed observableWrites s ↔ SourcesRefused env past) :
    ∃ sent : List NewObservable,
      (scheduleEnrichmentForAlert env alert rest s).2.effects =
          s.effects ++ sent.map (fun obs => .published (.enrich (enrichTask alert obs))) ∧
        ∀ obs, obs ∈ sent ↔ ∃ before after, rest = before ++ obs :: after ∧
          TakenAfter env (past ++ before) obs := by
  induction rest generalizing past s with
  | nil =>
      refine ⟨[], (List.append_nil _).symm, fun obs => iff_of_false List.not_mem_nil ?_⟩
      rintro ⟨before, after, hsplit, -⟩
      cases before <;> cases hsplit
  | cons obs rest ih =>
      have hone := enqueueEnrichment_sends alert obs
        (shouldEnrich_wantsIn (env.enqueue (obs.type, obs.value)) s)
      have hnext : Doomed observableWrites (enqueueEnrichment (env.enqueue (obs.type, obs.value))
          obs (alert.partner.map (·.val)) s).2 ↔ SourcesRefused env (past ++ [obs]) := by
        rw [doomed_enqueueEnrichment, sourcesRefused_append, hs]
      obtain ⟨sent, hsent, hmem⟩ := ih (past ++ [obs]) hnext
      have hlater : ∀ o, o ∈ sent ↔ ∃ before after, rest = before ++ o :: after ∧
          TakenAfter env (past ++ obs :: before) o := by
        intro o
        rw [hmem]
        simp only [List.append_assoc, List.singleton_append]
      have hsplit : ∀ o, (∃ before after, obs :: rest = before ++ o :: after ∧
          TakenAfter env (past ++ before) o) ↔
            (o = obs ∧ TakenAfter env past obs) ∨ o ∈ sent := by
        intro o
        rw [hlater, exists_split_cons (P := fun before => TakenAfter env (past ++ before) o),
          List.append_nil]
        refine or_congr_left (and_congr_right ?_)
        rintro rfl
        exact Iff.rfl
      have htaken : TakenAfter env past obs ↔
          WantsIn (Doomed observableWrites s) (env.enqueue (obs.type, obs.value)) ∧
            (env.enqueue (obs.type, obs.value)).markInflight = .ok true ∧
            (env.enqueue (obs.type, obs.value)).delay = .value () := by
        rw [propext hs]
        exact ⟨fun h => ⟨h.wanted, h.claimed, h.delayed⟩, fun h => ⟨h.1, h.2.1, h.2.2⟩⟩
      rw [← htaken] at hone
      rw [schedule_cons, hsent]
      rcases hone with ⟨hyes, heffects⟩ | ⟨hno, heffects⟩
      · refine ⟨obs :: sent, ?_, fun o => ?_⟩
        · rw [heffects, List.map_cons, List.append_assoc]
          rfl
        · rw [hsplit, List.mem_cons]
          exact or_congr_left ⟨fun h => ⟨h, hyes⟩, And.left⟩
      · refine ⟨sent, by rw [heffects], fun o => ?_⟩
        rw [hsplit]
        exact (or_iff_right (fun h => hno h.2)).symm

/-! ## The rows -/

/-- The row of the observable is there, and `pending`. -/
def StoredPending (store : IngestStore) (obs : NewObservable) : Prop :=
  ∃ row ∈ store.observables, row.id = obs.id ∧ row.enrichmentStatus.val = "pending"

/-- The row is there, or about to be sent. -/
def PendingRow (s : IngestSession) (obs : NewObservable) : Prop :=
  .insert obs ∈ s.pending ∨ StoredPending s.store obs

/-- No row is taken back, and none gets another status. -/
def KeepsPending (s s' : IngestSession) : Prop :=
  ∀ obs, (PendingRow s obs → PendingRow s' obs) ∧
    (StoredPending s.store obs → StoredPending s'.store obs)

instance : IsPreorder IngestSession KeepsPending where
  refl _ _ := ⟨id, id⟩
  trans _ _ _ h h' obs := ⟨(h' obs).1 ∘ (h obs).1, (h' obs).2 ∘ (h obs).2⟩

/-- A write adds a row or links one. -/
theorem apply_keeps_pending (write : ObservableWrite) {store : IngestStore} {obs : NewObservable}
    (h : StoredPending store obs) : StoredPending (write.apply store) obs := by
  obtain ⟨row, hrow, hid, hstatus⟩ := h
  cases write with
  | insert obs =>
      simp only [ObservableWrite.apply]
      split
      · exact ⟨row, List.mem_append_left _ hrow, hid, hstatus⟩
      · exact ⟨row, hrow, hid, hstatus⟩
  | link linkedId alertId =>
      refine ⟨_, List.mem_map_of_mem hrow, ?_⟩
      split
      · exact ⟨hid, hstatus⟩
      · exact ⟨hid, hstatus⟩

theorem NewObservable.row_pending {obs : NewObservable} {row : Observable}
    (h : obs.row = .ok row) : row.id = obs.id ∧ row.enrichmentStatus.val = "pending" := by
  unfold NewObservable.row at h
  obtain ⟨type, -, h⟩ := bind_ok h
  obtain ⟨value, -, h⟩ := bind_ok h
  obtain ⟨source, -, h⟩ := bind_ok h
  cases h
  exact ⟨rfl, rfl⟩

theorem foldl_pending (obs : NewObservable) : ∀ (writes : List ObservableWrite)
    (store : IngestStore), (∀ write ∈ writes, observableWrites.accepts write = true) →
    (.insert obs ∈ writes ∨ StoredPending store obs) →
    StoredPending (writes.foldl (fun store write => write.apply store) store) obs := by
  intro writes
  induction writes with
  | nil =>
      rintro store - (hnone | hrow)
      · cases hnone
      · exact hrow
  | cons write writes ih =>
      intro store haccepts hobs
      refine ih _ (fun w hw => haccepts w (List.mem_cons_of_mem write hw)) ?_
      rcases hobs with hinsert | hrow
      · rcases List.mem_cons.mp hinsert with rfl | hlater
        · right
          have hok : obs.row.isOk = true := haccepts _ List.mem_cons_self
          cases hrow : obs.row with
          | error e =>
              rw [hrow] at hok
              cases hok
          | ok row =>
              refine ⟨row, ?_, NewObservable.row_pending hrow⟩
              simp only [ObservableWrite.apply, hrow]
              exact List.mem_append_right _ (List.mem_singleton_self row)
        · exact Or.inl hlater
      · exact Or.inr (apply_keeps_pending write hrow)

/-- Once the writes are sent, the rows are there. -/
theorem stored_of_flushed {s : IngestSession} {obs : NewObservable}
    (hs : ¬ Doomed observableWrites s) (h : PendingRow s obs) :
    StoredPending (s.flushed observableWrites).store obs := by
  obtain ⟨-, haccepts⟩ := not_doomed_iff.mp hs
  exact foldl_pending obs s.pending s.store (List.all_eq_true.mp haccepts) h

theorem within_keepsPending {α : Type} (fate : Fate Raised) (read : IngestStore → α) :
    Work.Within KeepsPending (Work.statement observableWrites fate read : IngestWork α) :=
  within_statement (fun _ hs _ => ⟨fun h => Or.inr (stored_of_flushed hs h),
    fun h => stored_of_flushed hs (Or.inr h)⟩) (fun _ _ => ⟨id, id⟩) fate read

theorem PendingRow.add {s : IngestSession} {obs : NewObservable} (h : PendingRow s obs)
    (write : ObservableWrite) : PendingRow { s with pending := s.pending ++ [write] } obs :=
  h.imp_left (List.mem_append_left _)

/-- An observable of the enrichment, whose row is there or about to be sent. -/
def AddedRow (env : EnrichmentEnv) (alert : Alert) (s : IngestSession) (obs : NewObservable) :
    Prop :=
  (∃ c, obs = newObservable env alert c) ∧ PendingRow s obs

/-- One turn: the row that is added is about to be sent. -/
theorem materialiseOne_pending {env : EnrichmentEnv} {alert : Alert} {c : String × String}
    {newRows rows : List NewObservable} {s s' : IngestSession}
    (h : materialiseOne env alert c newRows s = (.ok rows, s'))
    (hrows : ∀ obs ∈ newRows, AddedRow env alert s obs) :
    ∀ obs ∈ rows, AddedRow env alert s' obs := by
  obtain ⟨found, s₁, hlookup, h⟩ := Work.of_andThen_ok h
  have hkept : ∀ obs ∈ newRows, AddedRow env alert s₁ obs := by
    intro obs hobs
    obtain ⟨hnew, hrow⟩ := hrows obs hobs
    have hwithin := within_keepsPending (env.lookup c)
      (fun store => matching store.observables c) s
    rw [hlookup] at hwithin
    exact ⟨hnew, (hwithin obs).1 hrow⟩
  match found with
  | [] =>
      cases h
      intro obs hobs
      rcases List.mem_append.mp hobs with hold | hnew
      · exact (hkept obs hold).imp_right (·.add _)
      · cases List.mem_singleton.mp hnew
        exact ⟨⟨c, rfl⟩, Or.inl (List.mem_append_right _ (List.mem_singleton_self _))⟩
  | [existing] =>
      simp only [addOrLink] at h
      split at h
      · cases h
        exact fun obs hobs => (hkept obs hobs).imp_right (·.add _)
      · cases h
        exact hkept
  | _ :: _ :: _ => cases h

theorem materialiseFrom_pending {env : EnrichmentEnv} {alert : Alert}
    (candidates : List (String × String)) : ∀ {newRows rows : List NewObservable}
    {s s' : IngestSession}, materialiseFrom env alert candidates newRows s = (.ok rows, s') →
    (∀ obs ∈ newRows, AddedRow env alert s obs) → ∀ obs ∈ rows, AddedRow env alert s' obs := by
  induction candidates with
  | nil =>
      intro newRows rows s s' h hrows
      cases h
      exact hrows
  | cons c rest ih =>
      intro newRows rows s s' h hrows
      obtain ⟨newRows', s₁, hone, h⟩ := Work.of_andThen_ok h
      exact ih h (materialiseOne_pending hone hrows)

/-- The rows that `materialise_observables_for_alert` returns are there, and `pending`. -/
theorem materialise_pending {env : EnrichmentEnv} {alert : Alert} {rows : List NewObservable}
    {s s' : IngestSession}
    (h : materialiseObservablesForAlert env alert s = (.ok rows, s')) (hrows : rows ≠ []) :
    ¬ Doomed observableWrites s' ∧ ∀ obs ∈ rows,
      (∃ c, obs = newObservable env alert c) ∧ StoredPending s'.store obs := by
  obtain ⟨rows', s₁, hloop, h⟩ := Work.of_andThen_ok h
  have hpending := materialiseFrom_pending _ hloop (fun _ hobs => absurd hobs List.not_mem_nil)
  cases rows' with
  | nil =>
      cases h
      exact absurd rfl hrows
  | cons obs rest =>
      obtain ⟨⟨⟩, s₂, hflush, h⟩ := Work.of_andThen_ok h
      obtain ⟨hs, -, rfl⟩ := statement_ok hflush
      cases h
      exact ⟨not_doomed_flushed hs, fun o ho =>
        (hpending o ho).imp_right (stored_of_flushed hs)⟩

/-! ## Who is stranded -/

theorem schedule_returns (env : EnrichmentEnv) (alert : Alert) (rows : List NewObservable)
    (s : IngestSession) : (scheduleEnrichmentForAlert env alert rows s).1 = .ok () := by
  induction rows generalizing s with
  | nil => rfl
  | cons obs rest ih =>
      rw [schedule_cons]
      exact ih _

/-- **Which new observables are handled.**  Whatever the cache, the in-flight slots and the
broker answer, after `materialise_observables_for_alert` and `schedule_enrichment_for_alert`
each new observable has a task of its own or is no longer `pending` if and only if
`enqueue_enrichment` takes each of them to the broker, and the broker takes the task. -/
theorem handled_iff_taken {env : EnrichmentEnv} {alert : Alert} {rows : List NewObservable}
    {s s₁ s₂ : IngestSession}
    (hrows : materialiseObservablesForAlert env alert s = (.ok rows, s₁))
    (hscheduled : scheduleEnrichmentForAlert env alert rows s₁ = (.ok (), s₂)) :
    (∀ obs ∈ rows, Handled alert s₁ s₂ obs) ↔ ∀ obs ∈ rows, Taken env rows obs := by
  by_cases hnone : rows = []
  · subst hnone
    exact iff_of_true (fun _ h => absurd h List.not_mem_nil) (fun _ h => absurd h List.not_mem_nil)
  · obtain ⟨hs₁, hpending⟩ := materialise_pending hrows hnone
    have hs : Doomed observableWrites s₁ ↔ SourcesRefused env [] :=
      iff_of_false hs₁ (fun ⟨_, h, _⟩ => List.not_mem_nil h)
    obtain ⟨sent, heffects, hsent⟩ := schedule_sends env alert [] rows hs
    rw [hscheduled] at heffects
    have hpublished : s₂.effects.drop s₁.effects.length =
        sent.map (fun obs => .published (.enrich (enrichTask alert obs))) := by
      rw [heffects, List.drop_left]
    refine forall₂_congr (fun obs hobs => ?_)
    rw [Handled, hpublished]
    constructor
    · rintro (htask | hstatus)
      · -- a task names its row: the observables of an alert differ in type or value
        obtain ⟨o, ho, htask⟩ := List.mem_map.mp htask
        have htaken := (hsent o).mp ho
        have hmem : o ∈ rows := by
          obtain ⟨before, after, rfl, -⟩ := htaken
          exact List.mem_append_right before List.mem_cons_self
        obtain ⟨⟨c, rfl⟩, -⟩ := hpending obs hobs
        obtain ⟨⟨c', rfl⟩, -⟩ := hpending o hmem
        injection htask with htask
        injection htask with htask
        injection htask with _ htype hvalue _
        have hsame : c' = c := Prod.ext htype hvalue
        subst hsame
        exact htaken
      · obtain ⟨-, hstored⟩ := hpending obs hobs
        have hwithin := within_schedule (R := KeepsPending) within_keepsPending
          (fun _ _ _ => ⟨id, id⟩) env alert rows s₁
        rw [hscheduled] at hwithin
        obtain ⟨row, hrow, hid, hstill⟩ := (hwithin obs).2 hstored
        exact absurd hstill (hstatus row hrow hid)
    · intro htaken
      exact Or.inl (List.mem_map.mpr ⟨obs, (hsent obs).mpr htaken, rfl⟩)

/-! ## A broker that is down -/

/-- Everything is answered, nothing is cached, and the slot is free. -/
def withBroker (delay : Reply Unit) : EnrichmentEnv where
  lookup _ := .answered
  observableId _ := 10
  flush := .answered
  enqueue _ := {
    sourcesFate := .answered
    sources := ["virustotal"]
    cache := .value ()
    cached := fun _ => .value false
    skipMetric := .value ()
    markInflight := .ok true
    delay := delay
    clearInflight := .ok () }

/-- The session of an alert's ingest once its observables are there, and once they are
scheduled. -/
def materialised (env : EnrichmentEnv) : IngestSession :=
  (materialiseObservablesForAlert env acmeBeacon (Session.opened (twoTenants []))).2

def scheduled (env : EnrichmentEnv) : IngestSession :=
  (scheduleEnrichmentForAlert env acmeBeacon
    [newObservable env acmeBeacon ("ip", "203.0.113.7")] (materialised env)).2

theorem materialised_rows (delay : Reply Unit) :
    materialiseObservablesForAlert (withBroker delay) acmeBeacon
        (Session.opened (twoTenants [])) =
      (.ok [newObservable (withBroker delay) acmeBeacon ("ip", "203.0.113.7")],
        materialised (withBroker delay)) := by
  refine Prod.ext ?_ rfl
  have hcandidates : iterObservableCandidates acmeBeacon.iocs = [("ip", "203.0.113.7")] := by
    decide +kernel
  have hloop : materialiseFrom (withBroker delay) acmeBeacon
      (iterObservableCandidates acmeBeacon.iocs) [] (Session.opened (twoTenants [])) =
        (.ok [newObservable (withBroker delay) acmeBeacon ("ip", "203.0.113.7")],
          { (Session.opened (twoTenants []) : IngestSession) with pending :=
            [.insert (newObservable (withBroker delay) acmeBeacon ("ip", "203.0.113.7"))] }) := by
    rw [hcandidates]
    rfl
  have haccepts : observableWrites.accepts
      (.insert (newObservable (withBroker delay) acmeBeacon ("ip", "203.0.113.7"))) = true :=
    (accepts_insert (by decide)).mpr (by decide)
  have hgood : ¬ Doomed observableWrites
      { (Session.opened (twoTenants []) : IngestSession) with pending :=
        [.insert (newObservable (withBroker delay) acmeBeacon ("ip", "203.0.113.7"))] } :=
    not_doomed_iff.mpr ⟨rfl, by rw [List.all_cons, haccepts]; rfl⟩
  have hflush : flushNewRows (withBroker delay)
      [newObservable (withBroker delay) acmeBeacon ("ip", "203.0.113.7")] _ = _ :=
    Work.andThen_ok (query_ok hgood)
  have hall := congrArg Prod.fst ((Work.andThen_ok hloop).trans hflush)
  exact hall

theorem scheduled_rows (env : EnrichmentEnv) :
    scheduleEnrichmentForAlert env acmeBeacon
        [newObservable env acmeBeacon ("ip", "203.0.113.7")] (materialised env) =
      (.ok (), scheduled env) :=
  Prod.ext (schedule_returns _ _ _ _) rfl

theorem handled_by_broker :
    Handled acmeBeacon (materialised (withBroker (.value ()))) (scheduled (withBroker (.value ())))
      (newObservable (withBroker (.value ())) acmeBeacon ("ip", "203.0.113.7")) := by
  refine (handled_iff_taken (materialised_rows (.value ())) (scheduled_rows _)).mpr ?_ _
    (List.mem_singleton_self _)
  intro obs hobs
  cases List.mem_singleton.mp hobs
  exact ⟨[], [], rfl, Or.inl (.stale rfl rfl ⟨[], "virustotal", [], rfl, by simp, Or.inl rfl⟩),
    rfl, rfl⟩

/-- The broker refuses the connection: the observable stays `pending`, without a task. -/
theorem stranded_without_broker :
    ¬ ∀ (env : EnrichmentEnv) (alert : Alert) (rows : List NewObservable)
        (s s₁ s₂ : IngestSession),
      materialiseObservablesForAlert env alert s = (.ok rows, s₁) →
      scheduleEnrichmentForAlert env alert rows s₁ = (.ok (), s₂) →
      ∀ obs ∈ rows, Handled alert s₁ s₂ obs := by
  intro hclaim
  have hhandled := hclaim _ _ _ _ _ _ (materialised_rows .expected) (scheduled_rows _) _
    (List.mem_singleton_self _)
  have hsession : scheduled (withBroker .expected) = materialised (withBroker .expected) := rfl
  rw [hsession] at hhandled
  rcases hhandled with htask | hstatus
  · rw [List.drop_length] at htask
    cases htask
  · obtain ⟨-, hstored⟩ := materialise_pending (materialised_rows .expected) (List.cons_ne_nil _ _)
    obtain ⟨-, row, hrow, hid, hpending⟩ := hstored _ (List.mem_singleton_self _)
    exact hstatus row hrow hid hpending

end OpenSoar
