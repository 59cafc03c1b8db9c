/-
# `OpenSoar.Worker.Attachment` — an ingest attaches observables to its own alert only

Whatever the statements, the cache and the broker answer, an ingest that commits leaves the
observables of every other alert with it, and gives no incident an observable (`receiveIn_ok`).
A row gets the alert when its lookup has found it without one, and the new rows have it from the
start; the one thing that could go wrong is a key that two rows share, which the database does not
allow.
-/
import OpenSoar.Api.Ingest
import OpenSoar.Worker.Materialise

namespace OpenSoar

open Python UnitOfWork

/-- An observable of this type and value is attached to the alert. -/
def HasObservable (observables : List Observable) (pair : String × String) (alertId : Uuid) :
    Prop :=
  ∃ o ∈ observables, o.pair = pair ∧ o.alertId = some alertId

/-! ## Tables -/

/-- The other alerts have the observables they had, and no incident has got one. -/
structure AttachesOnly (alertId : Uuid) (before after : List Observable) : Prop where
  others : ∀ pair i, i ≠ alertId → (HasObservable after pair i ↔ HasObservable before pair i)
  incidents : ∀ o ∈ after, ∀ i, o.incidentId = some i → ∃ o' ∈ before, o'.incidentId = some i

section Tables

variable {alertId : Uuid} {observables : List Observable}

instance : IsPreorder (List Observable) (AttachesOnly alertId) where
  refl _ := ⟨fun _ _ _ => Iff.rfl, fun o ho _ h => ⟨o, ho, h⟩⟩
  trans _ _ _ h h' := by
    refine ⟨fun pair i hi => (h'.others pair i hi).trans (h.others pair i hi), ?_⟩
    intro o ho i hincident
    obtain ⟨o', ho', hincident'⟩ := h'.incidents o ho i hincident
    exact h.incidents o' ho' i hincident'

/-- A new row of the alert. -/
theorem AttachesOnly.append {row : Observable} (halert : row.alertId = some alertId)
    (hincident : row.incidentId = none) :
    AttachesOnly alertId observables (observables ++ [row]) := by
  constructor
  · intro pair i hi
    constructor
    · rintro ⟨o, ho, hpair, hattached⟩
      rcases List.mem_append.mp ho with ho | ho
      · exact ⟨o, ho, hpair, hattached⟩
      · rw [List.mem_singleton.mp ho, halert] at hattached
        exact absurd (Option.some.inj hattached).symm hi
    · rintro ⟨o, ho, hpair, hattached⟩
      exact ⟨o, List.mem_append_left _ ho, hpair, hattached⟩
  · intro o ho i h
    rcases List.mem_append.mp ho with ho | ho
    · exact ⟨o, ho, h⟩
    · rw [List.mem_singleton.mp ho, hincident] at h
      cases h

/-- The alert given to a row that has none. -/
theorem AttachesOnly.link {existing : Observable} (hids : (observables.map (·.id)).Nodup)
    (hmem : existing ∈ observables) (hnone : existing.alertId = none) :
    AttachesOnly alertId observables (observables.map
      (fun o => if o.id = existing.id then { o with alertId := some alertId } else o)) := by
  constructor
  · intro pair i hi
    constructor
    · rintro ⟨o, ho, hpair, hattached⟩
      obtain ⟨old, hold, rfl⟩ := List.mem_map.mp ho
      by_cases hid : old.id = existing.id
      · rw [if_pos hid] at hattached
        exact absurd (Option.some.inj hattached).symm hi
      · rw [if_neg hid] at hpair hattached
        exact ⟨old, hold, hpair, hattached⟩
    · rintro ⟨o, ho, hpair, hattached⟩
      have hid : o.id ≠ existing.id := by
        intro hid
        rw [eq_of_id hids ho hmem hid, hnone] at hattached
        cases hattached
      exact ⟨o, List.mem_map.mpr ⟨o, ho, if_neg hid⟩, hpair, hattached⟩
  · intro o ho i h
    obtain ⟨old, hold, rfl⟩ := List.mem_map.mp ho
    refine ⟨old, hold, ?_⟩
    split at h
    · exact h
    · exact h

theorem ids_link (observables : List Observable) (observableId alertId : Uuid) :
    (observables.map (fun o => if o.id = observableId then { o with alertId := some alertId }
      else o)).map (·.id) = observables.map (·.id) := by
  rw [List.map_map]
  refine List.map_congr_left (fun o _ => ?_)
  show (if o.id = observableId then { o with alertId := some alertId } else o).id = o.id
  split <;> rfl

end Tables

/-! ## Sessions -/

/-- The table that the writes of a session make. -/
def madeTable (s : IngestSession) : List Observable :=
  (s.flushed observableWrites).store.observables

/-- From one session to the next the keys are kept, and where they are distinct the table
attaches to the alert only. -/
structure Attaching (alertId : Uuid) (s s' : IngestSession) : Prop where
  ids : (madeTable s).map (·.id) <+: (madeTable s').map (·.id)
  table : ((madeTable s').map (·.id)).Nodup → AttachesOnly alertId (madeTable s) (madeTable s')

section Sessions

variable {alertId : Uuid}

theorem Attaching.of_same {s s' : IngestSession} (h : madeTable s' = madeTable s) :
    Attaching alertId s s' := by
  constructor
  · exact h.symm ▸ List.prefix_refl _
  · intro _
    rw [h]
    exact refl_of (AttachesOnly alertId) _

instance : IsPreorder IngestSession (Attaching alertId) where
  refl _ := .of_same rfl
  trans _ _ _ h h' := by
    refine ⟨h.ids.trans h'.ids, fun hnodup => ?_⟩
    exact trans_of (AttachesOnly alertId) (h.table (hnodup.sublist h'.ids.sublist))
      (h'.table hnodup)

theorem attaching_statement {α : Type} (fate : Fate Raised) (read : IngestStore → α) :
    Work.Within (Attaching alertId) (Work.statement observableWrites fate read : IngestWork α) :=
  within_statement (fun _ _ => .of_same rfl) (fun _ => .of_same rfl) fate read

theorem madeTable_add (write : ObservableWrite) (s : IngestSession) :
    madeTable (Work.add (ε := Raised) write s).2 =
      (write.apply (s.flushed observableWrites).store).observables := by
  have hfold : (s.pending ++ [write]).foldl (fun store write => write.apply store) s.store =
      write.apply (s.pending.foldl (fun store write => write.apply store) s.store) :=
    List.foldl_append
  exact congrArg IngestStore.observables hfold

theorem attaching_insert {env : EnrichmentEnv} {alert : Alert} (c : String × String)
    (s : IngestSession) :
    Attaching alert.id s (Work.add (ε := Raised) (.insert (newObservable env alert c)) s).2 := by
  have htable := madeTable_add (.insert (newObservable env alert c)) s
  cases hrow : (newObservable env alert c).row with
  | error e =>
      simp only [ObservableWrite.apply, hrow] at htable
      exact .of_same htable
  | ok row =>
      simp only [ObservableWrite.apply, hrow] at htable
      have htable : madeTable _ = madeTable s ++ [row] := htable
      have hincident : row.incidentId = none := by
        obtain ⟨type, -, hrow⟩ := bind_ok hrow
        obtain ⟨value, -, hrow⟩ := bind_ok hrow
        obtain ⟨source, -, hrow⟩ := bind_ok hrow
        cases hrow
        rfl
      constructor
      · rw [htable, List.map_append]
        exact List.prefix_append _ _
      · intro _
        rw [htable]
        exact .append (NewObservable.row_spec hrow).2.1 hincident

theorem attaching_link {s : IngestSession} {existing : Observable} (hmem : existing ∈ madeTable s)
    (hnone : existing.alertId = none) :
    Attaching alertId s (Work.add (ε := Raised) (.link existing.id alertId) s).2 := by
  have htable := madeTable_add (.link existing.id alertId) s
  have hids : (madeTable (Work.add (ε := Raised) (.link existing.id alertId) s).2).map (·.id) =
      (madeTable s).map (·.id) := by
    rw [htable]
    exact ids_link _ _ _
  constructor
  · exact hids.symm ▸ List.prefix_refl _
  · intro hnodup
    rw [hids] at hnodup
    rw [htable]
    exact .link hnodup hmem hnone

/-- One turn of the loop: what it links is the row that its lookup has found without an alert. -/
theorem attaching_materialiseOne (env : EnrichmentEnv) (alert : Alert) (c : String × String)
    (newRows : List NewObservable) :
    Work.Within (Attaching alert.id) (materialiseOne env alert c newRows) := by
  intro s
  have hfirst : Attaching alert.id s (Work.statement observableWrites (env.lookup c)
      (fun store => matching store.observables c) s).2 := attaching_statement _ _ s
  show Attaching alert.id s (Work.andThen _ (addOrLink env alert c newRows) s).2
  unfold Work.andThen
  split
  · rename_i found s' hquery
    rw [hquery] at hfirst
    refine trans_of (Attaching alert.id) hfirst ?_
    obtain ⟨hs, hfate, rfl⟩ := statement_ok hquery
    have hfound : found = matching (madeTable s) c := by
      rw [hfate, Work.statement, query_ok hs] at hquery
      cases hquery
      rfl
    cases found with
    | nil => exact attaching_insert c _
    | cons existing others =>
        cases others with
        | nil =>
            have hmem : existing ∈ madeTable s :=
              (mem_matching.mp (hfound ▸ List.mem_singleton_self existing)).1
            simp only [addOrLink]
            split
            · rename_i hlinked
              exact attaching_link (s := s.flushed observableWrites) hmem
                (Option.isNone_iff_eq_none.mp hlinked)
            · exact refl_of (Attaching alert.id) _
        | cons other others => exact refl_of (Attaching alert.id) _
  · rename_i e s' hquery
    rw [hquery] at hfirst
    exact hfirst

theorem attaching_materialiseFrom (env : EnrichmentEnv) (alert : Alert)
    (candidates : List (String × String)) (newRows : List NewObservable) :
    Work.Within (Attaching alert.id) (materialiseFrom env alert candidates newRows) := by
  induction candidates generalizing newRows with
  | nil => exact within_ret newRows
  | cons c rest ih => exact within_andThen (attaching_materialiseOne env alert c newRows) ih

/-- The enrichment of an alert, whatever it meets. -/
theorem attaching_autoEnrich (env : EnrichmentEnv) (alert : Alert) :
    Work.Within (Attaching alert.id) (autoEnrich env alert) := by
  have hflush : ∀ newRows, Work.Within (Attaching alert.id) (flushNewRows env newRows) := by
    intro newRows
    cases newRows with
    | nil => exact within_ret []
    | cons obs rest => exact within_andThen (attaching_statement _ _) (fun _ => within_ret _)
  have hschedule : ∀ newRows,
      Work.Within (Attaching alert.id) (scheduleEnrichmentForAlert env alert newRows) :=
    within_schedule attaching_statement (fun _ _ => .of_same rfl) env alert
  refine within_recover (within_andThen (within_andThen ?_ hflush) hschedule)
    (fun _ => within_ret ())
  exact attaching_materialiseFrom env alert _ []

end Sessions

/-! ## Requests -/

/-- What an ingest leaves alone: the observables that stored alerts have, and those that incidents
have. -/
structure IngestKeeps (store store' : IngestStore) : Prop where
  attached : ∀ pair i, (store.db.alerts.find? i).isSome = true →
    (HasObservable store'.observables pair i ↔ HasObservable store.observables pair i)
  incidents : ∀ o ∈ store'.observables, ∀ i, o.incidentId = some i →
    ∃ o' ∈ store.observables, o'.incidentId = some i

theorem publishAndCommit_ok {pbs : List RegisteredPlaybook} {alert : Alert} {s s' : IngestSession}
    {answer : Alert × List String} (h : publishAndCommit pbs alert s = (.ok answer, s')) :
    ¬ Doomed observableWrites s ∧ answer = (alert, pbs.map (·.name)) ∧
      s'.store = (s.flushed observableWrites).store := by
  cases pbs with
  | nil =>
      obtain ⟨_, _, hcommit, hend⟩ := Work.of_andThen_ok h
      cases hend
      obtain ⟨hs, hstore⟩ := Work.of_commit_ok hcommit
      exact ⟨hs, rfl, hstore⟩
  | cons pb rest =>
      -- the published task is no write of the session
      obtain ⟨_, _, hcommit, hend⟩ := Work.of_andThen_ok h
      cases hend
      obtain ⟨hs, hstore⟩ := Work.of_commit_ok hcommit
      exact ⟨hs, rfl, hstore⟩

section Requests

variable {py : PyText} {env : EnrichmentEnv} {store : IngestStore}

/-- A call that returns in a session that has just been opened returns alone. -/
theorem processWebhook_of_session {call : WebhookCall} {alert : Alert} {s : IngestSession}
    (h : processWebhookIn py env call (.opened store) = (.ok alert, s)) :
    ∃ db', processWebhook py call store.db = .ok (db', alert) := by
  obtain ⟨found, s₁, hquery, h⟩ := Work.of_andThen_ok h
  obtain ⟨-, store₁, hfound, rfl⟩ := Work.of_execute_ok hquery
  obtain ⟨found', hread, hpair⟩ := map_ok hfound
  cases hpair
  obtain ⟨write, s₂, hwrite, h⟩ := Work.of_andThen_ok h
  cases hresult : webhookWrite call found with
  | error e =>
      rw [hresult] at hwrite
      cases hwrite
  | ok write' =>
      rw [hresult] at hwrite
      cases hwrite
      obtain ⟨_, s₃, hstatement, h⟩ := Work.of_andThen_ok h
      obtain ⟨-, store₂, hstored, rfl⟩ := Work.of_execute_ok hstatement
      obtain ⟨db', hcommit, -⟩ := map_ok hstored
      have hread : webhookRead py call store.db = .ok found := hread
      have hcommit : write.commit store.db = .ok db' := hcommit
      refine ⟨db', ?_⟩
      have halert : write.alert = alert := by
        cases write with
        | insert inserted =>
            obtain ⟨_, _, -, hend⟩ := Work.of_andThen_ok h
            cases hend
            rfl
        | update updated setsCorrelationId =>
            cases h
            rfl
      simp only [processWebhook, hread, hresult, hcommit, halert]

/-- **An ingest that commits.**  It has stored its alert as it would have alone, and if the keys of
the observables are distinct, it has attached observables to no alert that was stored before, taken
none away, and given none to an incident. -/
theorem receiveIn_ok {source : String} {matchSource : Alert → String}
    {registry : PlaybookRegistry} {request : WebhookRequest} {alert : Alert} {names : List String}
    {s' : IngestSession}
    (h : receiveIn py env source matchSource registry request (.opened store) =
      (.ok (alert, names), s')) :
    ∃ db', processWebhook py ⟨request.payload, source, request.alertId, request.correlationId⟩
        store.db = .ok (db', alert) ∧ s'.store.db = db' ∧
      ((s'.store.observables.map (·.id)).Nodup → IngestKeeps store s'.store) := by
  obtain ⟨alert', s, hprocess, hend⟩ := Work.of_andThen_ok h
  obtain ⟨hs, hanswer, hstore⟩ := publishAndCommit_ok hend
  cases hanswer
  obtain ⟨db', halone⟩ := processWebhook_of_session hprocess
  refine ⟨db', halone, ?_⟩
  obtain ⟨write, halert, hcommit, hout⟩ := processWebhookIn_ok env halone
  rw [hprocess] at hout
  cases write with
  | update updated setsCorrelationId =>
      cases hout
      rw [hstore]
      exact ⟨rfl, fun _ => ⟨fun _ _ _ => Iff.rfl, fun o ho i hi => ⟨o, ho, hi⟩⟩⟩
  | insert inserted =>
      have halert : inserted = alert := halert
      subst halert
      -- the row is new, so a stored alert is another one
      have hnew : store.db.alerts.find? inserted.id = none := by
        simp only [WebhookWrite.commit] at hcommit
        cases hinsert : store.db.alerts.insert? inserted with
        | none =>
            rw [hinsert] at hcommit
            cases hcommit
        | some alerts => exact (Table.insert?_some hinsert).1
      obtain ⟨s₁, henrich⟩ := autoEnrich_returns env inserted (.opened { store with db := db' })
      obtain ⟨_, _, henriched, hreturned⟩ := Work.of_andThen_ok hout.symm
      cases henriched.symm.trans henrich
      cases hreturned
      have hwithin := autoEnrich_within env inserted (.opened { store with db := db' })
      have hattaching := attaching_autoEnrich env inserted (.opened { store with db := db' })
      rw [henrich] at hwithin hattaching
      rw [hstore]
      refine ⟨(enriching_flushed s hs).db.trans hwithin.db, fun hnodup => ?_⟩
      have htable := hattaching.table hnodup
      refine ⟨fun pair i hi => htable.others pair i ?_, htable.incidents⟩
      rintro rfl
      rw [hnew] at hi
      cases hi

end Requests

end OpenSoar
