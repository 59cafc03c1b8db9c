/-
# `OpenSoar.Worker.Materialise` — the observables of an alert, and whose they are

`materialise_observables_for_alert` alone with a database that answers every statement,
as one fold over the candidates of the alert (`materialiseAlone`).  The session of an
ingest does the same where its statements are answered (`materialise_alone`).

Each lookup goes by type and value through the whole table.  An observable of another
tenant's alert that it finds is taken for the alert's own: nothing is recorded for the
alert then.  So every indicator of an alert has an observable of its partner afterwards
exactly when each lookup finds nothing, or one observable without an alert or of an alert
of that partner (`tracked_within_partner_iff`).
-/
import OpenSoar.Worker.Enrichment

namespace OpenSoar

open Python UnitOfWork

/-! ## The loop, answered -/

/-- `scalar_one_or_none`. -/
def scalarOneOrNone {α : Type} : List α → Except Raised (Option α)
  | [] => .ok none
  | [a] => .ok (some a)
  | _ => .error .multipleResultsFound

theorem scalarOneOrNone_ok {α : Type} {rows : List α} {found : Option α}
    (h : scalarOneOrNone rows = .ok found) : rows = found.toList := by
  match rows with
  | [] => cases h; rfl
  | [a] => cases h; rfl
  | _ :: _ :: _ => cases h

theorem scalarOneOrNone_error {α : Type} {rows : List α} {e : Raised}
    (h : scalarOneOrNone rows = .error e) : e = .multipleResultsFound ∧ 2 ≤ rows.length := by
  match rows with
  | [] => cases h
  | [a] => cases h
  | _ :: _ :: _ => cases h; exact ⟨rfl, by simp⟩

theorem scalarOneOrNone_many {α : Type} {rows : List α} (h : 2 ≤ rows.length) :
    scalarOneOrNone rows = .error .multipleResultsFound := by
  match rows with
  | [] => simp at h
  | [a] => simp at h
  | _ :: _ :: _ => rfl

/-- A world that answers every statement. -/
def answering (observableId : String × String → Uuid) : EnrichmentEnv where
  lookup := fun _ => .answered
  observableId := observableId
  flush := .answered
  enqueue := fun _ => {
    sourcesFate := .answered
    sources := []
    cache := .value ()
    cached := fun _ => .value false
    skipMetric := .value ()
    markInflight := .ok true
    delay := .value ()
    clearInflight := .ok () }

/-- `if existing.alert_id is None: existing.alert_id = alert.id`. -/
def linkTo (alert : Alert) (existing : Observable) (observables : List Observable) :
    List Observable :=
  if existing.alertId.isNone then
    observables.map (fun o => if o.id = existing.id then { o with alertId := some alert.id } else o)
  else observables

/-- The table in the middle of the loop, and `new_rows`. -/
structure Materialised where
  observables : List Observable
  newRows : List NewObservable

variable (observableId : String × String → Uuid) (alert : Alert)

/-- What one candidate makes of the table. -/
def trackOne (t : Materialised) (c : String × String) : Except Raised Materialised := do
  match ← scalarOneOrNone (matching t.observables c) with
  | none =>
      let row ← (newObservable (answering observableId) alert c).row
      pure ⟨t.observables ++ [row], t.newRows ++ [newObservable (answering observableId) alert c]⟩
  | some existing => pure { t with observables := linkTo alert existing t.observables }

/-- `materialise_observables_for_alert`, where every statement is answered. -/
def materialiseAlone (observables : List Observable) : Except Raised Materialised :=
  (iterObservableCandidates alert.iocs).foldlM (trackOne observableId alert) ⟨observables, []⟩

/-! ## The session does the same -/

section Session

variable {observableId} {alert} {store : IngestStore}

/-- The session has not been refused anything, and its writes make this table. -/
structure Holds (store : IngestStore) (observables : List Observable) (s : IngestSession) :
    Prop where
  sound : ¬ Doomed observableWrites s
  store : (s.flushed observableWrites).store = { store with observables := observables }

/-- The session cannot go on: an exception has left it, or the flush will. -/
def Fails (out : Except Raised (List NewObservable) × IngestSession) : Prop :=
  (∃ e, out.1 = .error e) ∨ ∃ rows, out.1 = .ok rows ∧ rows ≠ [] ∧ Doomed observableWrites out.2

theorem materialiseOne_answered {t : Materialised} {s : IngestSession}
    (hs : Holds store t.observables s) (c : String × String) :
    materialiseOne (answering observableId) alert c t.newRows s =
      addOrLink (answering observableId) alert c t.newRows (matching t.observables c)
        (s.flushed observableWrites) := by
  have hquery : Work.statement observableWrites ((answering observableId).lookup c)
      (fun store => matching store.observables c) s =
        (.ok (matching t.observables c), s.flushed observableWrites) := by
    show Work.query observableWrites _ s = _
    rw [query_ok hs.sound, hs.store]
  exact Work.andThen_ok hquery

/-- One turn of the loop in a session. -/
theorem trackOne_holds {t t' : Materialised} {s : IngestSession} (hs : Holds store t.observables s)
    {c : String × String} (h : trackOne observableId alert t c = .ok t') :
    ∃ s', materialiseOne (answering observableId) alert c t.newRows s = (.ok t'.newRows, s') ∧
      Holds store t'.observables s' := by
  rw [materialiseOne_answered hs]
  have hflushed := not_doomed_flushed hs.sound
  obtain ⟨found, hfound, h⟩ := bind_ok h
  rw [scalarOneOrNone_ok hfound]
  cases found with
  | none =>
      obtain ⟨row, hrow, h⟩ := bind_ok h
      cases h
      refine ⟨_, rfl, ?_, ?_⟩
      · show ¬ Doomed observableWrites (Work.add (ε := Raised) (.insert _)
          (s.flushed observableWrites)).2
        rw [doomed_add, not_or, Bool.not_eq_false]
        refine ⟨hflushed, ?_⟩
        show (NewObservable.row _).isOk = true
        rw [hrow]
        rfl
      · show ObservableWrite.apply (.insert _) (s.flushed observableWrites).store = _
        rw [hs.store]
        simp only [ObservableWrite.apply, hrow]
  | some existing =>
      cases h
      cases hlinked : existing.alertId.isNone with
      | true =>
          have hend : addOrLink (answering observableId) alert c t.newRows [existing]
              (s.flushed observableWrites) = (.ok t.newRows, { s.flushed observableWrites with
                pending := [ObservableWrite.link existing.id alert.id] }) := by
            simp only [addOrLink, hlinked, if_true]
            rfl
          refine ⟨_, hend, ?_, ?_⟩
          · show ¬ Doomed observableWrites (Work.add (ε := Raised) (.link existing.id alert.id)
              (s.flushed observableWrites)).2
            rw [doomed_add, not_or]
            refine ⟨hflushed, ?_⟩
            intro h
            cases h
          · show ObservableWrite.apply (.link existing.id alert.id)
              (s.flushed observableWrites).store = _
            rw [hs.store, linkTo, if_pos hlinked]
            rfl
      | false =>
          have hend : addOrLink (answering observableId) alert c t.newRows [existing]
              (s.flushed observableWrites) = (.ok t.newRows, s.flushed observableWrites) := by
            simp only [addOrLink, hlinked]
            rfl
          refine ⟨_, hend, hflushed, ?_⟩
          rw [linkTo, if_neg (by rw [hlinked]; exact Bool.false_ne_true)]
          exact hs.store

/-- A turn that raises leaves a session that cannot go on. -/
theorem trackOne_fails {t : Materialised} {s : IngestSession} (hs : Holds store t.observables s)
    {c : String × String} {e : Raised} (h : trackOne observableId alert t c = .error e) :
    Fails (materialiseOne (answering observableId) alert c t.newRows s) := by
  rw [materialiseOne_answered hs]
  match hfound : matching t.observables c with
  | [] =>
      have hlookup : scalarOneOrNone (matching t.observables c) = .ok none := by
        rw [hfound]
        rfl
      cases hrow : (newObservable (answering observableId) alert c).row with
      | ok row =>
          have hok : trackOne observableId alert t c = .ok _ :=
            (bind_of_ok hlookup).trans (bind_of_ok hrow)
          cases h.symm.trans hok
      | error refused =>
          refine Or.inr ⟨_, rfl, by simp, ?_⟩
          show Doomed observableWrites (Work.add (ε := Raised)
            (.insert (newObservable (answering observableId) alert c))
            (s.flushed observableWrites)).2
          refine doomed_add.mpr (Or.inr ?_)
          show (NewObservable.row _).isOk = false
          rw [hrow]
          rfl
  | [existing] =>
      have hlookup : scalarOneOrNone (matching t.observables c) = .ok (some existing) := by
        rw [hfound]
        rfl
      have hok : trackOne observableId alert t c = .ok _ := bind_of_ok hlookup
      cases h.symm.trans hok
  | _ :: _ :: _ => exact Or.inl ⟨_, rfl⟩

/-- The loop in a session. -/
theorem materialiseFrom_holds {candidates : List (String × String)} {t t' : Materialised}
    {s : IngestSession} (hs : Holds store t.observables s)
    (h : candidates.foldlM (trackOne observableId alert) t = .ok t') :
    ∃ s', materialiseFrom (answering observableId) alert candidates t.newRows s
        = (.ok t'.newRows, s') ∧ Holds store t'.observables s' := by
  induction candidates generalizing t s with
  | nil =>
      cases h
      exact ⟨s, rfl, hs⟩
  | cons c rest ih =>
      rw [List.foldlM_cons] at h
      obtain ⟨t₁, hturn, h⟩ := bind_ok h
      obtain ⟨s₁, hone, hs₁⟩ := trackOne_holds hs hturn
      obtain ⟨s', hrest, hs'⟩ := ih hs₁ h
      exact ⟨s', (Work.andThen_ok hone).trans hrest, hs'⟩

theorem materialiseFrom_doomed {candidates : List (String × String)} {newRows : List NewObservable}
    {s : IngestSession} (hs : Doomed observableWrites s) (hrows : newRows ≠ []) :
    Fails (materialiseFrom (answering observableId) alert candidates newRows s) := by
  cases candidates with
  | nil => exact Or.inr ⟨newRows, rfl, hrows, hs⟩
  | cons c rest =>
      have hquery : Work.statement observableWrites ((answering observableId).lookup c)
          (fun store => matching store.observables c) s
            = (.error transactionRefused, { s with refused := true }) := by
        show Work.query observableWrites _ s = _
        exact Work.execute_doomed hs
      have hone : materialiseOne (answering observableId) alert c newRows s
          = (.error transactionRefused, { s with refused := true }) :=
        Work.andThen_error hquery
      refine Or.inl ⟨transactionRefused, ?_⟩
      exact congrArg Prod.fst (Work.andThen_error hone)

theorem materialiseFrom_fails {candidates : List (String × String)} {t : Materialised}
    {s : IngestSession} (hs : Holds store t.observables s) {e : Raised}
    (h : candidates.foldlM (trackOne observableId alert) t = .error e) :
    Fails (materialiseFrom (answering observableId) alert candidates t.newRows s) := by
  induction candidates generalizing t s with
  | nil => cases h
  | cons c rest ih =>
      rw [List.foldlM_cons] at h
      cases hturn : trackOne observableId alert t c with
      | ok t₁ =>
          rw [hturn] at h
          obtain ⟨s₁, hone, hs₁⟩ := trackOne_holds hs hturn
          have hrest := ih hs₁ h
          have hstep : materialiseFrom (answering observableId) alert (c :: rest) t.newRows s
              = materialiseFrom (answering observableId) alert rest t₁.newRows s₁ :=
            Work.andThen_ok hone
          rw [hstep]
          exact hrest
      | error e' =>
          rcases trackOne_fails hs hturn with ⟨e₁, hraised⟩ | ⟨rows, hrows, hne, hdoomed⟩
          · refine Or.inl ⟨e₁, ?_⟩
            exact congrArg Prod.fst (Work.andThen_error (Prod.ext hraised rfl))
          · have hstep : materialiseFrom (answering observableId) alert (c :: rest) t.newRows s
                = materialiseFrom (answering observableId) alert rest rows
                  (materialiseOne (answering observableId) alert c t.newRows s).2 :=
              Work.andThen_ok (Prod.ext hrows rfl)
            rw [hstep]
            exact materialiseFrom_doomed hdoomed hne

theorem holds_opened (store : IngestStore) :
    Holds store store.observables (Session.opened store) :=
  ⟨not_doomed_opened store, rfl⟩

/-- **Alone is as in a session.**  In a session that has just been opened and whose statements
are answered, `materialise_observables_for_alert` returns the new rows of `materialiseAlone`
and leaves a session that makes its table; or both raise. -/
theorem materialise_alone (store : IngestStore) :
    (∀ t, materialiseAlone observableId alert store.observables = .ok t →
      ∃ s', materialiseObservablesForAlert (answering observableId) alert (Session.opened store)
          = (.ok t.newRows, s') ∧ Holds store t.observables s') ∧
    ∀ e, materialiseAlone observableId alert store.observables = .error e →
      ∃ e', (materialiseObservablesForAlert (answering observableId) alert
        (Session.opened store)).1 = .error e' := by
  constructor
  · intro t h
    obtain ⟨s', hloop, hs'⟩ := materialiseFrom_holds (holds_opened store) h
    have hrest : materialiseObservablesForAlert (answering observableId) alert
        (Session.opened store) = flushNewRows (answering observableId) t.newRows s' :=
      Work.andThen_ok hloop
    rw [hrest]
    unfold flushNewRows
    cases hnew : t.newRows.isEmpty with
    | true => exact ⟨s', rfl, hs'⟩
    | false =>
        have hflush : Work.statement observableWrites Fate.answered (fun _ => ()) s'
            = (.ok (), s'.flushed observableWrites) := query_ok hs'.sound
        refine ⟨s'.flushed observableWrites, Work.andThen_ok hflush, ?_, hs'.store⟩
        exact not_doomed_flushed hs'.sound
  · intro e h
    have hfails : Fails (materialiseFrom (answering observableId) alert
        (iterObservableCandidates alert.iocs) [] (Session.opened store)) :=
      materialiseFrom_fails (holds_opened store) h
    generalize hloop : materialiseFrom (answering observableId) alert
      (iterObservableCandidates alert.iocs) [] (Session.opened store) = out at hfails
    obtain ⟨result, s'⟩ := out
    rcases hfails with ⟨e', rfl⟩ | ⟨rows, rfl, hne, hdoomed⟩
    · exact ⟨e', congrArg Prod.fst (Work.andThen_error hloop)⟩
    · have hrest : materialiseObservablesForAlert (answering observableId) alert
          (Session.opened store) = flushNewRows (answering observableId) rows s' :=
        Work.andThen_ok hloop
      have hflush : Work.statement observableWrites Fate.answered (fun _ => ()) s'
          = (.error transactionRefused, { s' with refused := true }) := by
        show Work.query observableWrites _ s' = _
        exact Work.execute_doomed hdoomed
      refine ⟨transactionRefused, ?_⟩
      rw [hrest]
      cases rows with
      | nil => exact absurd rfl hne
      | cons row rows => exact congrArg Prod.fst (Work.andThen_error hflush)

end Session

/-! ## What the loop finds -/

/-- What a lookup goes by. -/
def Observable.pair (o : Observable) : String × String := (o.type.val, o.value.val)

theorem matching_eq (observables : List Observable) (c : String × String) :
    matching observables c = observables.filter (fun o => decide (o.pair = c)) := by
  refine List.filter_congr (fun o _ => ?_)
  simp only [Observable.pair, Prod.ext_iff]

theorem mem_matching {observables : List Observable} {c : String × String} {o : Observable} :
    o ∈ matching observables c ↔ o ∈ observables ∧ o.pair = c := by
  rw [matching_eq, List.mem_filter, decide_eq_true_iff]

theorem length_matching (observables : List Observable) (c : String × String) :
    (matching observables c).length = (observables.map Observable.pair).count c := by
  rw [matching_eq, List.count_eq_countP, List.countP_map, List.countP_eq_length_filter]
  refine congrArg List.length (List.filter_congr (fun o _ => ?_))
  exact Bool.eq_iff_iff.mpr (by simp)

/-- No lookup finds more than one row when no two rows have the same type and value. -/
theorem length_matching_le_one {observables : List Observable}
    (h : (observables.map Observable.pair).Nodup) (c : String × String) :
    (matching observables c).length ≤ 1 := by
  rw [length_matching]
  exact List.nodup_iff_count_le_one.mp h c

theorem isNew_iff {observables : List Observable} {c : String × String} :
    IsNew observables c ↔ c ∉ observables.map Observable.pair := by
  rw [IsNew, ← List.length_eq_zero_iff, length_matching, List.count_eq_zero]

theorem pair_link (alert : Alert) (existing : Observable) (observables : List Observable) :
    (linkTo alert existing observables).map Observable.pair
      = observables.map Observable.pair := by
  unfold linkTo
  split
  · rw [List.map_map]
    refine List.map_congr_left (fun o _ => ?_)
    show Observable.pair (if o.id = existing.id then _ else o) = o.pair
    split <;> rfl
  · rfl

theorem NewObservable.row_spec {obs : NewObservable} {row : Observable} (h : obs.row = .ok row) :
    row.pair = (obs.type, obs.value) ∧ row.alertId = some obs.alertId ∧
      obs.value.length ≤ 1000 := by
  obtain ⟨type, htype, h⟩ := bind_ok h
  obtain ⟨value, hvalue, h⟩ := bind_ok h
  obtain ⟨source, -, h⟩ := bind_ok h
  cases h
  refine ⟨Prod.ext (column_val htype) (column_val hvalue), rfl, ?_⟩
  rw [← column_val hvalue]
  exact value.fits

/-- What a column raises. -/
theorem NewObservable.row_error {obs : NewObservable} {e : Raised} (h : obs.row = .error e) :
    ∃ reason, e = .refusedByDatabase reason := by
  rcases bind_error h with h | ⟨_, -, h⟩
  · exact column_error h
  rcases bind_error h with h | ⟨_, -, h⟩
  · exact column_error h
  rcases bind_error h with h | ⟨_, -, h⟩
  · exact column_error h
  · cases h

section Loop

variable {observableId} {alert} {t t' : Materialised} {c : String × String}

/-- One turn that succeeds: it adds a row under a pair that had none, or links the one row. -/
theorem trackOne_cases (h : trackOne observableId alert t c = .ok t') :
    (∃ row, IsNew t.observables c ∧
        (newObservable (answering observableId) alert c).row = .ok row ∧
        t' =
          ⟨t.observables ++ [row], t.newRows ++ [newObservable (answering observableId) alert c]⟩) ∨
      ∃ existing, matching t.observables c = [existing] ∧
        t' = { t with observables := linkTo alert existing t.observables } := by
  obtain ⟨found, hfound, h⟩ := bind_ok h
  have hrows := scalarOneOrNone_ok hfound
  cases found with
  | none =>
      obtain ⟨row, hrow, h⟩ := bind_ok h
      cases h
      exact Or.inl ⟨row, hrows, hrow, rfl⟩
  | some existing =>
      cases h
      exact Or.inr ⟨existing, hrows, rfl⟩

/-- One turn that raises: its lookup is ambiguous, or its new row does not fit. -/
theorem trackOne_error {e : Raised} (h : trackOne observableId alert t c = .error e) :
    (e = .multipleResultsFound ∧ 2 ≤ (matching t.observables c).length) ∨
      (IsNew t.observables c ∧
        (newObservable (answering observableId) alert c).row = .error e) := by
  rcases bind_error h with hlookup | ⟨found, hfound, h⟩
  · exact Or.inl (scalarOneOrNone_error hlookup)
  · have hrows := scalarOneOrNone_ok hfound
    cases found with
    | some existing => cases h
    | none =>
        rcases bind_error h with hrow | ⟨row, -, h⟩
        · exact Or.inr ⟨hrows, hrow⟩
        · cases h

/-- No two observables have the same type and value. -/
def Unambiguous (observables : List Observable) : Prop :=
  (observables.map Observable.pair).Nodup

theorem Unambiguous.append {observables : List Observable} (h : Unambiguous observables)
    {row : Observable} {c : String × String} (hpair : row.pair = c) (hnew : IsNew observables c) :
    Unambiguous (observables ++ [row]) := by
  rw [Unambiguous, List.map_append, List.map_singleton, hpair]
  exact List.Nodup.append h (List.nodup_singleton _)
    (List.disjoint_singleton.mpr (isNew_iff.mp hnew))

/-- A turn adds a row only under a pair that has none. -/
theorem trackOne_unambiguous (ht : Unambiguous t.observables)
    (h : trackOne observableId alert t c = .ok t') : Unambiguous t'.observables := by
  rcases trackOne_cases h with ⟨row, hnew, hrow, rfl⟩ | ⟨existing, -, rfl⟩
  · exact ht.append (NewObservable.row_spec hrow).1 hnew
  · show (List.map Observable.pair (linkTo alert existing t.observables)).Nodup
    rw [pair_link]
    exact ht

/-- From a table in which no lookup is ambiguous, the loop leaves such a table, and it does
not end with an ambiguous lookup. -/
theorem materialiseFrom_unambiguous {candidates : List (String × String)}
    (ht : Unambiguous t.observables) :
    (∀ t', candidates.foldlM (trackOne observableId alert) t = .ok t' →
      Unambiguous t'.observables) ∧
    candidates.foldlM (trackOne observableId alert) t ≠ .error .multipleResultsFound := by
  induction candidates generalizing t with
  | nil =>
      refine ⟨fun t' h => ?_, fun h => nomatch h⟩
      cases h
      exact ht
  | cons c rest ih =>
      rw [List.foldlM_cons]
      cases hone : trackOne observableId alert t c with
      | ok t₁ => exact ih (trackOne_unambiguous ht hone)
      | error e =>
          refine ⟨fun _ h => (nomatch h), fun h => ?_⟩
          cases h
          rcases trackOne_error hone with ⟨-, hmany⟩ | ⟨-, hrow⟩
          · exact absurd (length_matching_le_one ht c) (by omega)
          · obtain ⟨_, hrefused⟩ := NewObservable.row_error hrow
            cases hrefused

/-! ## The table that the loop leaves -/

/-- An observable after the loop: linked, if it had no alert and is among the candidates. -/
def settle (alert : Alert) (done : List (String × String)) (o : Observable) : Observable :=
  if o.alertId = none ∧ o.pair ∈ done then { o with alertId := some alert.id } else o

theorem pair_settle (alert : Alert) (done : List (String × String)) (o : Observable) :
    (settle alert done o).pair = o.pair := by
  unfold settle
  split <;> rfl

theorem id_settle (alert : Alert) (done : List (String × String)) (o : Observable) :
    (settle alert done o).id = o.id := by
  unfold settle
  split <;> rfl

theorem settle_fresh {done : List (String × String)} {o : Observable} (h : o.pair ∉ done) :
    settle alert done o = o :=
  if_neg (fun hdone => h hdone.2)

/-- A candidate that has not come settles nothing. -/
theorem settle_append {done : List (String × String)} {o : Observable}
    (h : o.alertId = none → o.pair ≠ c) : settle alert (done ++ [c]) o = settle alert done o := by
  have hiff : (o.alertId = none ∧ o.pair ∈ done ++ [c]) ↔ (o.alertId = none ∧ o.pair ∈ done) := by
    refine and_congr_right (fun hnone => ?_)
    rw [List.mem_append, List.mem_singleton, or_iff_left (h hnone)]
  simp only [settle, hiff]

/-- How far the loop has come: the old rows as they are settled, then the new ones. -/
structure Settled (alert : Alert) (observables : List Observable)
    (done : List (String × String)) (t : Materialised) : Prop where
  table : ∃ news, t.observables = observables.map (settle alert done) ++ news ∧
    news.map Observable.pair = done.filter (fun c => decide (IsNew observables c)) ∧
    ∀ o ∈ news, o.alertId = some alert.id
  newRows : ∀ new ∈ t.newRows, new.alertId = alert.id
  passed : ∀ c ∈ done, (matching observables c).length ≤ 1 ∧
    (IsNew observables c → c.2.length ≤ 1000)

variable {observables : List Observable} {done : List (String × String)}

/-- The loop finds for a candidate what the table held before. -/
theorem Settled.lookup (h : Settled alert observables done t) (hc : c ∉ done) :
    matching t.observables c = matching observables c := by
  obtain ⟨news, htable, hpairs, -⟩ := h.table
  have hnews : news.filter (fun o => decide (o.pair = c)) = [] := by
    refine List.filter_eq_nil_iff.mpr (fun o ho hpair => hc ?_)
    have hmem := List.mem_map_of_mem (f := Observable.pair) ho
    rw [hpairs, of_decide_eq_true hpair] at hmem
    exact List.mem_of_mem_filter hmem
  rw [matching_eq, matching_eq, htable, List.filter_append, hnews, List.append_nil,
    List.filter_map]
  have hsame : ∀ o ∈ observables.filter (fun o => decide (o.pair = c)),
      settle alert done o = o := by
    intro o ho
    refine settle_fresh ?_
    rw [of_decide_eq_true (List.mem_filter.mp ho).2]
    exact hc
  have hfilter : observables.filter ((fun o => decide (o.pair = c)) ∘ settle alert done)
      = observables.filter (fun o => decide (o.pair = c)) :=
    List.filter_congr (fun o _ => by rw [Function.comp_apply, pair_settle])
  rw [hfilter]
  exact (List.map_congr_left hsame).trans (List.map_id _)

/-- A row is the only one under its id. -/
theorem eq_of_id {o o' : Observable} (hids : (observables.map (·.id)).Nodup)
    (ho : o ∈ observables) (ho' : o' ∈ observables) (h : o.id = o'.id) : o = o' :=
  List.inj_on_of_nodup_map hids ho ho' h

/-- A candidate without a row settles none of the old ones. -/
theorem map_settle_of_isNew (hnew : IsNew observables c) :
    observables.map (settle alert (done ++ [c])) = observables.map (settle alert done) := by
  refine List.map_congr_left (fun o ho => settle_append (fun _ hpair => ?_))
  have hmem : o ∈ matching observables c := mem_matching.mpr ⟨ho, hpair⟩
  rw [show matching observables c = [] from hnew] at hmem
  cases hmem

/-- Linking the one row of a candidate settles it; the new rows are linked already. -/
theorem linkTo_settled {existing : Observable} {news : List Observable}
    (hids : (observables.map (·.id)).Nodup) (hc : c ∉ done)
    (hfound : matching observables c = [existing])
    (hnews : ∀ o ∈ news, o.alertId = some alert.id) :
    linkTo alert existing (observables.map (settle alert done) ++ news) =
      observables.map (settle alert (done ++ [c])) ++ news := by
  obtain ⟨hmem, hpair⟩ : existing ∈ observables ∧ existing.pair = c :=
    mem_matching.mp (by rw [hfound]; exact List.mem_singleton_self existing)
  have honly : ∀ o ∈ observables, o.pair = c → o = existing := by
    intro o ho hsame
    have ho : o ∈ matching observables c := mem_matching.mpr ⟨ho, hsame⟩
    rw [hfound] at ho
    exact List.mem_singleton.mp ho
  unfold linkTo
  split
  · rename_i hunlinked
    rw [List.map_append, List.map_map]
    refine congrArg₂ (· ++ ·) (List.map_congr_left (fun o ho => ?_)) ?_
    · show (if (settle alert done o).id = existing.id then _ else settle alert done o) = _
      rw [id_settle]
      by_cases hid : o.id = existing.id
      · -- the row that the lookup has found
        rw [if_pos hid, eq_of_id hids ho hmem hid, settle_fresh (by rw [hpair]; exact hc)]
        have hnone := Option.isNone_iff_eq_none.mp hunlinked
        have hdone : existing.pair ∈ done ++ [c] :=
          List.mem_append_right _ (List.mem_singleton.mpr hpair)
        exact (if_pos ⟨hnone, hdone⟩).symm
      · rw [if_neg hid]
        exact (settle_append (fun _ hsame => hid (by rw [honly o ho hsame]))).symm
    · refine (List.map_congr_left (fun o ho => ?_)).trans (List.map_id _)
      split
      · rw [← hnews o ho]
        rfl
      · rfl
  · rename_i hlinked
    refine congrArg (· ++ news) (List.map_congr_left (fun o ho => ?_))
    refine (settle_append (fun hnone hpair => hlinked ?_)).symm
    rw [← honly o ho hpair, hnone]
    rfl

/-- One more candidate is settled. -/
theorem Settled.turn (h : Settled alert observables done t)
    (hids : (observables.map (·.id)).Nodup) (hc : c ∉ done)
    (hturn : trackOne observableId alert t c = .ok t') :
    Settled alert observables (done ++ [c]) t' := by
  obtain ⟨news, htable, hpairs, hnewsAlert⟩ := h.table
  have hmatching := h.lookup hc
  rcases trackOne_cases hturn with ⟨row, hnew, hrow, rfl⟩ | ⟨existing, hfound, rfl⟩
  · have hnew : IsNew observables c := hmatching.symm.trans hnew
    obtain ⟨hpair, halert, hfits⟩ := NewObservable.row_spec hrow
    refine ⟨⟨news ++ [row], ?_, ?_, ?_⟩, ?_, ?_⟩
    · show t.observables ++ [row] = _
      rw [htable, map_settle_of_isNew hnew, List.append_assoc]
    · rw [List.map_append, hpairs, List.filter_append, List.map_singleton, hpair,
        List.filter_singleton, decide_eq_true hnew]
      rfl
    · intro o ho
      rcases List.mem_append.mp ho with ho | ho
      · exact hnewsAlert o ho
      · rw [List.mem_singleton.mp ho, halert]
        rfl
    · intro new hmem
      rcases List.mem_append.mp hmem with hmem | hmem
      · exact h.newRows new hmem
      · rw [List.mem_singleton.mp hmem]
        rfl
    · intro c' hc'
      rcases List.mem_append.mp hc' with hc' | hc'
      · exact h.passed c' hc'
      · rw [List.mem_singleton.mp hc', show matching observables c = [] from hnew]
        exact ⟨Nat.zero_le 1, fun _ => hfits⟩
  · rw [hmatching] at hfound
    have hold : ¬ IsNew observables c := by
      rw [IsNew, hfound]
      exact List.cons_ne_nil _ _
    refine ⟨⟨news, ?_, ?_, hnewsAlert⟩, h.newRows, ?_⟩
    · show linkTo alert existing t.observables = _
      rw [htable]
      exact linkTo_settled hids hc hfound hnewsAlert
    · rw [hpairs, List.filter_append, List.filter_singleton, decide_eq_false hold]
      exact (List.append_nil _).symm
    · intro c' hc'
      rcases List.mem_append.mp hc' with hc' | hc'
      · exact h.passed c' hc'
      · rw [List.mem_singleton.mp hc', hfound]
        exact ⟨le_rfl, fun hnew => absurd (hnew ▸ hfound) (by simp)⟩

/-- The whole loop, from where it stands. -/
theorem Settled.run {candidates : List (String × String)} (h : Settled alert observables done t)
    (hids : (observables.map (·.id)).Nodup) (hnodup : (done ++ candidates).Nodup)
    (hrun : candidates.foldlM (trackOne observableId alert) t = .ok t') :
    Settled alert observables (done ++ candidates) t' := by
  induction candidates generalizing done t with
  | nil =>
      cases hrun
      rw [List.append_nil]
      exact h
  | cons c rest ih =>
      rw [List.foldlM_cons] at hrun
      obtain ⟨t₁, hturn, hrun⟩ := bind_ok hrun
      have hc : c ∉ done := fun hmem =>
        (List.nodup_append.mp hnodup).2.2 c hmem c List.mem_cons_self rfl
      rw [List.append_cons] at hnodup ⊢
      exact ih (h.turn hids hc hturn) hnodup hrun

/-- The loop returns when each candidate it still has finds one row, or none and fits. -/
theorem Settled.returns {candidates : List (String × String)}
    (h : Settled alert observables done t) (hids : (observables.map (·.id)).Nodup)
    (hnodup : (done ++ candidates).Nodup)
    (htypes : ∀ c ∈ candidates, c.1 ∈ ["ip", "domain", "hash", "url"])
    (hpasses : ∀ c ∈ candidates, (OpenSoar.matching observables c).length ≤ 1 ∧
      (IsNew observables c → c.2.length ≤ 1000)) :
    ∃ t', candidates.foldlM (trackOne observableId alert) t = .ok t' := by
  induction candidates generalizing done t with
  | nil => exact ⟨t, rfl⟩
  | cons c rest ih =>
      rw [List.foldlM_cons]
      have hc : c ∉ done := fun hmem =>
        (List.nodup_append.mp hnodup).2.2 c hmem c List.mem_cons_self rfl
      obtain ⟨hone, hfits⟩ := hpasses c List.mem_cons_self
      cases hturn : trackOne observableId alert t c with
      | ok t₁ =>
          rw [List.append_cons] at hnodup
          exact ih (h.turn hids hc hturn) hnodup
            (fun c hc => htypes c (List.mem_cons_of_mem _ hc))
            (fun c hc => hpasses c (List.mem_cons_of_mem _ hc))
      | error e =>
          exfalso
          rcases trackOne_error hturn with ⟨-, hmany⟩ | ⟨hnew, hrow⟩
          · rw [h.lookup hc] at hmany
            omega
          · have hnew : IsNew observables c := (h.lookup hc).symm.trans hnew
            have haccepted : (newObservable (answering observableId) alert c).row.isOk = true :=
              (accepts_insert (htypes c List.mem_cons_self)).mpr (hfits hnew)
            rw [hrow] at haccepted
            cases haccepted

end Loop

/-! ## Whose observables they are -/

/-- The observable is attached to an alert of this partner. -/
def AttachedTo (db : Db) (partner : Option (Varchar 100)) (o : Observable) : Prop :=
  ∃ i a, o.alertId = some i ∧ db.alerts.find? i = some a ∧ a.partner = partner

/-- The observable is attached to an alert of another partner. -/
def Foreign (db : Db) (partner : Option (Varchar 100)) (o : Observable) : Prop :=
  ∃ i a, o.alertId = some i ∧ db.alerts.find? i = some a ∧ a.partner ≠ partner

/-- The indicators of the alert are tracked for its partner, and the observables of other
partners are none of its business. -/
structure TrackedWithinPartner (alert : Alert) (store : IngestStore) (t : Materialised) :
    Prop where
  recorded : ∀ c ∈ iterObservableCandidates alert.iocs,
    ∃ o ∈ t.observables, o.pair = c ∧ AttachedTo store.db alert.partner o
  unreliedOn : ∀ c ∈ iterObservableCandidates alert.iocs, ∀ o,
    scalarOneOrNone (matching store.observables c) = .ok (some o) →
      ¬ Foreign store.db alert.partner o
  unmodified : ∀ o ∈ store.observables, Foreign store.db alert.partner o → o ∈ t.observables
  returned : ∀ new ∈ t.newRows, new.alertId = alert.id

/-- The lookup of the candidate stays within the partner: it finds nothing, or one
observable without an alert or of an alert of the partner. -/
def StaysWithin (store : IngestStore) (partner : Option (Varchar 100)) (c : String × String) :
    Prop :=
  match matching store.observables c with
  | [] => c.2.length ≤ 1000
  | [o] => o.alertId = none ∨ AttachedTo store.db partner o
  | _ => False

theorem StaysWithin.passes {store : IngestStore} {partner : Option (Varchar 100)}
    {c : String × String} (h : StaysWithin store partner c) :
    (matching store.observables c).length ≤ 1 ∧
      (IsNew store.observables c → c.2.length ≤ 1000) := by
  unfold StaysWithin at h
  split at h
  · rename_i hnone
    rw [hnone]
    exact ⟨Nat.zero_le 1, fun _ => h⟩
  · rename_i o hone
    rw [hone]
    refine ⟨le_rfl, fun hnew => ?_⟩
    rw [IsNew, hone] at hnew
    cases hnew
  · exact h.elim

theorem settled_start (alert : Alert) (observables : List Observable) :
    Settled alert observables [] ⟨observables, []⟩ := by
  have hsame : observables.map (settle alert []) = observables :=
    (List.map_congr_left (fun _ _ => settle_fresh List.not_mem_nil)).trans (List.map_id _)
  exact {
    table := ⟨[], by rw [hsame, List.append_nil], rfl, by simp⟩
    newRows := by simp
    passed := by simp }

/-- What has an alert is settled already. -/
theorem settle_attached {alert : Alert} {done : List (String × String)} {o : Observable}
    (h : o.alertId ≠ none) : settle alert done o = o :=
  if_neg (fun hdone => h hdone.1)

theorem AttachedTo.ne_none {db : Db} {partner : Option (Varchar 100)} {o : Observable}
    (h : AttachedTo db partner o) : o.alertId ≠ none := by
  obtain ⟨i, _, hi, -⟩ := h
  rw [hi]
  exact Option.some_ne_none i

theorem Foreign.ne_none {db : Db} {partner : Option (Varchar 100)} {o : Observable}
    (h : Foreign db partner o) : o.alertId ≠ none := by
  obtain ⟨i, _, hi, -⟩ := h
  rw [hi]
  exact Option.some_ne_none i

theorem AttachedTo.not_foreign {db : Db} {partner : Option (Varchar 100)} {o : Observable}
    (h : AttachedTo db partner o) : ¬ Foreign db partner o := by
  rintro ⟨i, a, hi, ha, hother⟩
  obtain ⟨i', a', hi', ha', hpartner⟩ := h
  cases hi.symm.trans hi'
  cases ha.symm.trans ha'
  exact hother hpartner

/-- The row of a candidate after the loop, when the lookup found this one. -/
theorem Settled.row_of_found {alert : Alert} {observables : List Observable}
    {done : List (String × String)} {t : Materialised} (h : Settled alert observables done t)
    {c : String × String} {o : Observable} (hfound : matching observables c = [o])
    {o' : Observable} (ho' : o' ∈ t.observables) (hpair : o'.pair = c) :
    o' = settle alert done o := by
  obtain ⟨news, htable, hpairs, -⟩ := h.table
  rw [htable, List.mem_append] at ho'
  rcases ho' with ho' | ho'
  · obtain ⟨old, hold, rfl⟩ := List.mem_map.mp ho'
    rw [pair_settle] at hpair
    have hmem : old ∈ matching observables c := mem_matching.mpr ⟨hold, hpair⟩
    rw [hfound, List.mem_singleton] at hmem
    rw [hmem]
  · have hmem := List.mem_map_of_mem (f := Observable.pair) ho'
    rw [hpairs, hpair, List.mem_filter, decide_eq_true_iff, IsNew, hfound] at hmem
    cases hmem.2

/-- **Indicators are tracked within the tenant, exactly where the lookups stay there.**  For
a stored alert, `materialise_observables_for_alert` returns with every indicator tracked for
the alert's partner, and without touching the observables of others, exactly when every
lookup finds nothing (and the value fits its column), or one observable that has no alert or
one of that partner. -/
theorem tracked_within_partner_iff {observableId : String × String → Uuid} {alert : Alert}
    {store : IngestStore} (halert : store.db.alerts.find? alert.id = some alert)
    (hids : (store.observables.map (·.id)).Nodup) :
    (∃ t, materialiseAlone observableId alert store.observables = .ok t ∧
      TrackedWithinPartner alert store t) ↔
    ∀ c ∈ iterObservableCandidates alert.iocs, StaysWithin store alert.partner c := by
  have hnodup := iterObservableCandidates_nodup alert.iocs
  constructor
  · rintro ⟨t, h, htracked⟩ c hc
    have hsettled := (settled_start alert store.observables).run hids hnodup h
    obtain ⟨hone, hfits⟩ := hsettled.passed c hc
    unfold StaysWithin
    match hfound : matching store.observables c with
    | [] => exact hfits hfound
    | [o] =>
        obtain ⟨o', ho', hpair, hattached⟩ := htracked.recorded c hc
        rw [hsettled.row_of_found hfound ho' hpair] at hattached
        by_cases hnone : o.alertId = none
        · exact Or.inl hnone
        · rw [settle_attached hnone] at hattached
          exact Or.inr hattached
    | _ :: _ :: _ => rw [hfound] at hone; simp at hone
  · intro hwithin
    obtain ⟨t, h⟩ : ∃ t, materialiseAlone observableId alert store.observables = .ok t :=
      (settled_start alert store.observables).returns hids hnodup
        (fun c hc => iterObservableCandidates_type hc) (fun c hc => (hwithin c hc).passes)
    have hsettled := (settled_start alert store.observables).run hids hnodup h
    obtain ⟨news, htable, hpairs, hnewsAlert⟩ := hsettled.table
    have hkept : ∀ o ∈ store.observables,
        settle alert ([] ++ iterObservableCandidates alert.iocs) o ∈ t.observables := by
      intro o ho
      rw [htable]
      exact List.mem_append_left _ (List.mem_map_of_mem ho)
    refine ⟨t, h, ?_, ?_, ?_, hsettled.newRows⟩
    · intro c hc
      have hc' := hwithin c hc
      unfold StaysWithin at hc'
      split at hc'
      · rename_i hnew
        have hmem : c ∈ news.map Observable.pair := by
          rw [hpairs]
          exact List.mem_filter.mpr ⟨hc, decide_eq_true hnew⟩
        obtain ⟨o, ho, hpair⟩ := List.mem_map.mp hmem
        refine ⟨o, ?_, hpair, alert.id, alert, hnewsAlert o ho, halert, rfl⟩
        rw [htable]
        exact List.mem_append_right _ ho
      · rename_i o hfound
        obtain ⟨ho, hpair⟩ : o ∈ store.observables ∧ o.pair = c :=
          mem_matching.mp (by rw [hfound]; exact List.mem_singleton_self o)
        refine ⟨_, hkept o ho, (pair_settle _ _ _).trans hpair, ?_⟩
        rcases hc' with hnone | hattached
        · refine ⟨alert.id, alert, ?_, halert, rfl⟩
          rw [settle, if_pos ⟨hnone, by rw [hpair]; exact hc⟩]
        · rw [settle_attached hattached.ne_none]
          exact hattached
      · exact hc'.elim
    · intro c hc o hfound hforeign
      have hc' := hwithin c hc
      rw [StaysWithin, scalarOneOrNone_ok hfound] at hc'
      rcases hc' with hnone | hattached
      · exact hforeign.ne_none hnone
      · exact hattached.not_foreign hforeign
    · intro o ho hforeign
      have hmem := hkept o ho
      rwa [settle_attached hforeign.ne_none] at hmem

/-! ## Two tenants and one address -/

/-- An alert about one address. -/
def beacon (alertId : Uuid) (partner : Varchar 100) : Alert where
  id := alertId
  source := .lit "webhook"
  sourceId := none
  title := .lit "Beacon"
  description := none
  severity := .lit "high"
  status := .lit "new"
  rawPayload := []
  normalized := []
  correlationId := none
  sourceIp := none
  destIp := none
  hostname := none
  ruleName := none
  iocs := some [("ips", .arr [.str "203.0.113.7"])]
  tags := none
  partner := some partner
  determination := .lit "unknown"
  resolvedAt := none
  resolveReason := none
  assignedTo := none
  assignedUsername := none
  duplicateCount := 1

def acmeBeacon : Alert := beacon 1 (.lit "acme")

def globexBeacon : Alert := beacon 2 (.lit "globex")

/-- The observable that the first alert has left. -/
def acmeObservable : Observable where
  id := 10
  type := .lit "ip"
  value := .lit "203.0.113.7"
  source := some (.lit "alert:webhook")
  enrichmentStatus := .lit "pending"
  enrichments := some []
  alertId := some 1
  incidentId := none

/-- Both alerts are stored, and what there is of observables. -/
def twoTenants (observables : List Observable) : IngestStore where
  db := { Db.empty with alerts := ⟨[acmeBeacon, globexBeacon], by decide⟩ }
  observables := observables

/-- An alert of the second tenant about an address that it has met before, and a new one. -/
def globexAgain : Alert :=
  { beacon 3 (.lit "globex") with
    iocs := some [("ips", .arr [.str "203.0.113.7", .str "192.0.2.44"])] }

/-- The address is tracked for the second tenant, and another one for the first. -/
def ownAndForeign : IngestStore where
  db := { Db.empty with alerts := ⟨[acmeBeacon, globexBeacon, globexAgain], by decide⟩ }
  observables :=
    [{ acmeObservable with value := .lit "198.51.100.9" },
      { acmeObservable with id := 12, alertId := some 2 }]

theorem tracked_within_partner_of_globexAgain :
    ∃ t, materialiseAlone (fun _ => 11) globexAgain ownAndForeign.observables = .ok t ∧
      TrackedWithinPartner globexAgain ownAndForeign t := by
  refine (@tracked_within_partner_iff (fun _ => 11) globexAgain ownAndForeign rfl
    (by decide)).mpr ?_
  intro c hc
  rw [show iterObservableCandidates globexAgain.iocs =
    [("ip", "203.0.113.7"), ("ip", "192.0.2.44")] by decide +kernel, List.mem_cons,
    List.mem_singleton] at hc
  obtain rfl | rfl := hc
  · -- the one observable of this address is of an alert of the partner
    exact Or.inr ⟨2, globexBeacon, rfl, rfl, rfl⟩
  · show "192.0.2.44".length ≤ 1000
    decide

/-- The second tenant's alert about an address gets no observable when the first has one. -/
theorem second_tenant_is_not_tracked :
    ¬ ∀ (observableId : String × String → Uuid) (alert : Alert) (store : IngestStore),
      store.db.alerts.find? alert.id = some alert → (store.observables.map (·.id)).Nodup →
      ∃ t, materialiseAlone observableId alert store.observables = .ok t ∧
        ∀ c ∈ iterObservableCandidates alert.iocs,
          ∃ o ∈ t.observables, o.pair = c ∧ AttachedTo store.db alert.partner o := by
  intro hclaim
  obtain ⟨t, h, hrecorded⟩ := hclaim (fun _ => 11) globexBeacon (twoTenants [acmeObservable]) rfl
    (List.nodup_singleton _)
  have hcandidates : iterObservableCandidates globexBeacon.iocs = [("ip", "203.0.113.7")] := by
    decide +kernel
  obtain ⟨o, ho, -, hattached⟩ := hrecorded ("ip", "203.0.113.7")
    (by rw [hcandidates]; exact List.mem_singleton_self _)
  have htable : t.observables = [acmeObservable] := by
    rw [materialiseAlone, hcandidates] at h
    cases h
    rfl
  rw [htable, List.mem_singleton] at ho
  subst ho
  obtain ⟨i, a, hi, ha, hpartner⟩ := hattached
  cases hi
  have hacme : (twoTenants [acmeObservable]).db.alerts.find? 1 = some acmeBeacon := rfl
  cases hacme.symm.trans ha
  exact absurd hpartner (by decide)

end OpenSoar
