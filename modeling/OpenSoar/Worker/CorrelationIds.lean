/-
# `OpenSoar.Worker.CorrelationIds` — from the ingest to the actions

The `correlation_id` columns that `process_webhook`, `PlaybookExecutor.execute` and its
`record_action` write, over the runs of `Worker.TraceSystem`.

A run takes the id of its alert.  Without one it would take that of its context; but `execute`
gives the context back as it found it, whatever the playbook has set there, so that no run ever
begins with one, and it draws an id (`Intact.contexts`).  While `uuid4` repeats no id, the records
that carry one are an alert with its runs and their actions, or a run without an alert with its
actions (`correlation_ids_tell`).
-/
import OpenSoar.Lib.Lineage
import OpenSoar.Worker.TraceSystem

namespace OpenSoar

open Python Lineage

variable {α : Type}

/-! ## What a run is told by -/

/-- Where a record comes from: an alert, or a run without one. -/
inductive TraceOrigin where
  | alert (alertId : Uuid)
  | run (runId : Uuid)

/-- The columns of a run that do not change. -/
structure RunIdentity where
  id : Uuid
  alertId : Option Uuid
  correlationId : Option Uuid

def RunIdentity.origin (identity : RunIdentity) : TraceOrigin :=
  match identity.alertId with
  | some alertId => .alert alertId
  | none => .run identity.id

def RunRow.identity (run : RunRow α) : RunIdentity := ⟨run.id, run.alertId, run.correlationId⟩

theorem OpenRun.identity_finished (session : OpenRun α) (ended : FunctionEnd α) :
    (session.finished ended).identity = session.run.identity := by
  cases ended <;> rfl

/-- The alerts and the inserted runs, as far as their ids go. -/
structure Marked (alerts : Table AlertRow.key) (identities : List RunIdentity) : Prop where
  alert : ∀ i row, alerts.find? i = some row → ∃ c, row.correlationId = some c
  run : ∀ identity ∈ identities, ∃ c, identity.correlationId = some c
  ofAlert : ∀ identity ∈ identities, ∀ i, identity.alertId = some i →
    ∃ row, alerts.find? i = some row ∧ identity.correlationId = row.correlationId
  oneRow : ∀ identity ∈ identities, ∀ identity' ∈ identities, identity.id = identity'.id →
    identity = identity'

/-- What the alerts and the runs tell. -/
def markedTags (alerts : Table AlertRow.key) (identities : List RunIdentity) :
    Set (Tag TraceOrigin Uuid) :=
  {t | (∃ i row, alerts.find? i = some row ∧ t.origin = .alert i ∧
      row.correlationId = some t.mark) ∨
    ∃ identity ∈ identities, t.origin = identity.origin ∧ identity.correlationId = some t.mark}

section Marked

variable {alerts alerts' : Table AlertRow.key} {identities identities' : List RunIdentity}

theorem Marked.subset (h : Marked alerts identities) (hsub : identities' ⊆ identities) :
    Marked alerts identities' where
  alert := h.alert
  run := fun identity hmem => h.run identity (hsub hmem)
  ofAlert := fun identity hmem => h.ofAlert identity (hsub hmem)
  oneRow := fun identity hmem other hother =>
    h.oneRow identity (hsub hmem) other (hsub hother)

theorem markedTags_mono (hsub : identities' ⊆ identities) :
    markedTags alerts identities' ⊆ markedTags alerts identities := by
  rintro t (halert | ⟨identity, hmem, hrun⟩)
  · exact Or.inl halert
  · exact Or.inr ⟨identity, hsub hmem, hrun⟩

/-- A run takes over the id of its alert, or brings a new one. -/
theorem Marked.insert {identity : RunIdentity} (h : Marked alerts identities)
    (hid : ∀ other ∈ identities, other.id ≠ identity.id) {c : Uuid}
    (hmark : identity.correlationId = some c)
    (halert : ∀ i, identity.alertId = some i →
      ∃ row, alerts.find? i = some row ∧ identity.correlationId = row.correlationId) :
    Marked alerts (identities ++ [identity]) where
  alert := h.alert
  run := by
    intro other hmem
    rcases List.mem_append.mp hmem with hold | hnew
    · exact h.run other hold
    · rw [List.mem_singleton.mp hnew]
      exact ⟨c, hmark⟩
  ofAlert := by
    intro other hmem
    rcases List.mem_append.mp hmem with hold | hnew
    · exact h.ofAlert other hold
    · rw [List.mem_singleton.mp hnew]
      exact halert
  oneRow := by
    intro a ha b hb heq
    rcases List.mem_append.mp ha with ha | ha <;> rcases List.mem_append.mp hb with hb | hb
    · exact h.oneRow a ha b hb heq
    · rw [List.mem_singleton.mp hb] at heq
      exact absurd heq (hid a ha)
    · rw [List.mem_singleton.mp ha] at heq
      exact absurd heq.symm (hid b hb)
    · rw [List.mem_singleton.mp ha, List.mem_singleton.mp hb]

/-- A run without an alert is an origin of its own; one of an alert tells nothing new. -/
theorem descends_insert {identity : RunIdentity}
    (hid : ∀ other ∈ identities, other.id ≠ identity.id) {c : Uuid} {drawn : List Uuid}
    (hmark : identity.correlationId = some c)
    (halert : ∀ i, identity.alertId = some i →
      ∃ row, alerts.find? i = some row ∧ identity.correlationId = row.correlationId)
    (hdrawn : identity.alertId = none → c ∈ drawn) :
    Descends (markedTags alerts identities) (markedTags alerts (identities ++ [identity]))
      drawn := by
  have hcases : ∀ t ∈ markedTags alerts (identities ++ [identity]),
      t ∈ markedTags alerts identities ∨ t = ⟨identity.origin, c⟩ := by
    rintro t (ht | ⟨other, hmem, horigin, hother⟩)
    · exact Or.inl (Or.inl ht)
    · rcases List.mem_append.mp hmem with hold | hnew
      · exact Or.inl (Or.inr ⟨other, hold, horigin, hother⟩)
      · cases List.mem_singleton.mp hnew
        obtain ⟨origin, mark⟩ := t
        cases hmark.symm.trans hother
        cases horigin
        exact Or.inr rfl
  cases hof : identity.alertId with
  | some i =>
      have horigin : identity.origin = .alert i := by
        rw [RunIdentity.origin, hof]
      obtain ⟨row, hrow, heq⟩ := halert i hof
      refine .kept (fun t ht => (hcases t ht).elim id ?_)
      rintro rfl
      exact Or.inl ⟨i, row, hrow, horigin, heq.symm.trans hmark⟩
  | none =>
      have horigin : identity.origin = .run identity.id := by
        rw [RunIdentity.origin, hof]
      refine .began identity.origin c (hdrawn hof) ?_ (fun t ht => (hcases t ht).symm)
      rintro t (⟨i, row, -, hi, -⟩ | ⟨other, hmem, hother, -⟩)
      · rw [hi, horigin]
        intro heq
        cases heq
      · rw [hother, horigin, RunIdentity.origin]
        intro heq
        split at heq
        · cases heq
        · exact hid other hmem (TraceOrigin.run.inj heq)

end Marked

/-! ## Operations on the store -/

section Store

variable {py : PyText} {app : App} {s s' : Store} {op : StoreOp}

theorem newAlert_correlationId {call : WebhookCall} {n : NormalizedAlert} {alert : Alert}
    (h : newAlert call n = .ok alert) :
    alert.id = call.alertId ∧ alert.correlationId = some call.correlationId := by
  unfold newAlert at h
  iterate 11 obtain ⟨_, -, h⟩ := bind_ok h
  cases h
  exact ⟨rfl, rfl⟩

/-- **An alert keeps its id**, and a new one has the id that was drawn for it. -/
theorem storeStep_correlation (h : storeStep py app s op = .ok s')
    (hall : ∀ i row, s.alerts.find? i = some row → ∃ c, row.correlationId = some c) {i : Uuid}
    {row' : AlertRow} (hrow : s'.alerts.find? i = some row') :
    (∃ row, s.alerts.find? i = some row ∧ row'.correlationId = row.correlationId) ∨
      ∃ call, op.ingest = some call ∧ s.alerts.find? i = none ∧ i = call.alertId ∧
        row'.correlationId = some call.correlationId := by
  rcases storeStep_ingested h with ⟨call, alert, hop, hingest⟩ | ⟨-, hkept⟩
  · obtain ⟨n, -, hingested⟩ := processWebhook_ok hingest
    have hafter : s'.db.alerts.find? i = some row'.toAlert := by
      rw [Store.find?_db_alerts, hrow, Option.map_some]
    cases hingested with
    | created _ halert habsent _ hfind _ =>
        rw [hfind] at hafter
        by_cases hi : i = alert.id
        · rw [if_pos hi] at hafter
          obtain ⟨hid, hdrawn⟩ := newAlert_correlationId halert
          refine Or.inr ⟨call, hop, ?_, hi.trans hid, ?_⟩
          · rw [← hi, Store.find?_db_alerts] at habsent
            exact Option.map_eq_none_iff.mp habsent
          · rw [← hdrawn, Option.some.inj hafter]
        · rw [if_neg hi, Store.find?_db_alerts] at hafter
          obtain ⟨row, hold, heq⟩ := Option.map_eq_some_iff.mp hafter
          exact Or.inl ⟨row, hold, congrArg Alert.correlationId heq.symm⟩
    | duplicate existing _ hfind heq hdb =>
        subst heq
        rw [hdb] at hafter
        refine Or.inl ?_
        by_cases hi : i = existing.id
        · obtain ⟨row, hold, rfl⟩ := Option.map_eq_some_iff.mp (s.find?_db_alerts _ ▸ hfind)
          obtain ⟨c, hc⟩ := hall _ row hold
          have hcounted : (s.db.commitAlert (registerDuplicate call n row.toAlert) []).alerts.find?
              row.toAlert.id = some (registerDuplicate call n row.toAlert) :=
            Db.find?_commitAlert_self hfind rfl
          rw [hi, hcounted] at hafter
          refine ⟨row, hi ▸ hold, ?_⟩
          rw [← Option.some.inj hafter, registerDuplicate, hc]
          rfl
        · have hother : (s.db.commitAlert (registerDuplicate call n existing) []).alerts.find? i =
              s.db.alerts.find? i := Db.find?_commitAlert_ne hi
          rw [hother, Store.find?_db_alerts] at hafter
          obtain ⟨row, hold, heq⟩ := Option.map_eq_some_iff.mp hafter
          exact ⟨row, hold, congrArg Alert.correlationId heq.symm⟩
  · obtain ⟨row, hold, hcolumns⟩ := hkept i row' hrow
    exact Or.inl ⟨row, hold, (IngestedColumns.mk.inj hcolumns).2.2.2⟩

/-- An operation on the store whose runs are these. -/
theorem marked_storeStep {identities : List RunIdentity} (h : Marked s.alerts identities)
    (hruns : ∀ identity ∈ identities, ∃ run ∈ s.runs, run.alertId = identity.alertId)
    (hstep : storeStep py app s op = .ok s') : Marked s'.alerts identities where
  alert := by
    intro i row' hrow
    rcases storeStep_correlation hstep h.alert hrow with ⟨row, hold, heq⟩ | ⟨call, -, -, -, hnew⟩
    · obtain ⟨c, hc⟩ := h.alert i row hold
      exact ⟨c, heq.trans hc⟩
    · exact ⟨_, hnew⟩
  run := h.run
  ofAlert := by
    intro identity hmem i hi
    obtain ⟨row, hrow, hmark⟩ := h.ofAlert identity hmem i hi
    obtain ⟨run, hrun, hof⟩ := hruns identity hmem
    have hstored : s.HasAlert i := by
      rw [Store.HasAlert, hrow]
      rfl
    obtain ⟨row', hrow'⟩ := Option.isSome_iff_exists.mp
      (hasAlert_storeStep hstep hrun (hof.trans hi) hstored)
    refine ⟨row', hrow', ?_⟩
    rcases storeStep_correlation hstep h.alert hrow' with ⟨old, hold, heq⟩ | ⟨call, -, hnone, -⟩
    · cases hold.symm.trans hrow
      exact hmark.trans heq.symm
    · cases hnone.symm.trans hrow
  oneRow := h.oneRow

/-- No run is of an alert that is not stored. -/
theorem Marked.origin_ne {identities : List RunIdentity} (h : Marked s.alerts identities) {i : Uuid}
    (hnone : s.alerts.find? i = none) :
    ∀ t ∈ markedTags s.alerts identities, t.origin ≠ .alert i := by
  rintro t (⟨j, row, hrow, hj, -⟩ | ⟨identity, hmem, horigin, -⟩) heq
  · cases hj.symm.trans heq
    cases hnone.symm.trans hrow
  · rw [horigin, RunIdentity.origin] at heq
    split at heq
    · rename_i j hj
      obtain ⟨row, hrow, -⟩ := h.ofAlert identity hmem j hj
      cases heq
      cases hnone.symm.trans hrow
    · cases heq

theorem descends_storeStep {identities : List RunIdentity} (h : Marked s.alerts identities)
    (hstep : storeStep py app s op = .ok s') :
    Descends (markedTags s.alerts identities) (markedTags s'.alerts identities)
      (op.ingest.map WebhookCall.correlationId).toList := by
  have hold : ∀ t ∈ markedTags s'.alerts identities, t ∈ markedTags s.alerts identities ∨
      ∃ call, op.ingest = some call ∧ s.alerts.find? call.alertId = none ∧
        t = ⟨.alert call.alertId, call.correlationId⟩ := by
    rintro t (⟨i, row', hrow, horigin, hmark⟩ | hrun)
    · rcases storeStep_correlation hstep h.alert hrow with
        ⟨row, hfind, heq⟩ | ⟨call, hop, hnone, rfl, hnew⟩
      · exact Or.inl (Or.inl ⟨i, row, hfind, horigin, heq.symm.trans hmark⟩)
      · obtain ⟨origin, mark⟩ := t
        cases horigin
        cases hnew.symm.trans hmark
        exact Or.inr ⟨call, hop, hnone, rfl⟩
    · exact Or.inl (Or.inr hrun)
  by_cases hcreates : ∃ call, op.ingest = some call ∧ s.alerts.find? call.alertId = none
  · obtain ⟨call, hop, hnone⟩ := hcreates
    refine .began (.alert call.alertId) call.correlationId ?_ (h.origin_ne hnone) ?_
    · rw [hop]
      exact List.mem_singleton_self _
    · intro t ht
      rcases hold t ht with hkept | ⟨call', hop', -, rfl⟩
      · exact Or.inr hkept
      · cases hop.symm.trans hop'
        exact Or.inl rfl
  · refine .kept (fun t ht => (hold t ht).resolve_right ?_)
    rintro ⟨call, hop, hnone, -⟩
    exact hcreates ⟨call, hop, hnone⟩

end Store

/-! ## The invariant -/

namespace TraceSystem

def identities (s : TraceSystem α) : List RunIdentity := s.rows.map RunRow.identity

/-- The tags of what is stored. -/
def tags (s : TraceSystem α) : Set (Tag TraceOrigin Uuid) :=
  markedTags s.store.alerts s.identities

/-- The invariant: the ids of alerts and runs; that the results are their runs'; and that a task
which is not executing has an empty context. -/
structure Intact (s : TraceSystem α) : Prop where
  marked : Marked s.store.alerts s.identities
  actions : ∀ action ∈ s.actions, ∃ run ∈ s.runs, run.id = action.runId ∧
    run.correlationId = action.correlationId
  pending : ∀ session ∈ s.sessions, ∀ action ∈ session.actions,
    action.runId = session.run.id ∧ action.correlationId = session.run.correlationId
  contexts : ∀ task, s.session? task = none → s.contexts task = ⟨none, none⟩
  tokens : ∀ session ∈ s.sessions, session.cidToken = none

variable {s s' : TraceSystem α} {task : Nat} {session : OpenRun α}

theorem identity_run_mem {run : RunRow α} (h : run ∈ s.runs) : run.identity ∈ s.identities :=
  List.mem_map_of_mem (List.mem_append_left _ h)

theorem identity_session_mem (h : session ∈ s.sessions) : session.run.identity ∈ s.identities :=
  List.mem_map_of_mem (List.mem_append_right _ (List.mem_map_of_mem h))

theorem mem_identities {identity : RunIdentity} (h : identity ∈ s.identities) :
    (∃ run ∈ s.runs, run.identity = identity) ∨
      ∃ session ∈ s.sessions, session.run.identity = identity := by
  obtain ⟨run, hrun, hidentity⟩ := List.mem_map.mp h
  rcases List.mem_append.mp hrun with hcommitted | hopen
  · exact Or.inl ⟨run, hcommitted, hidentity⟩
  · obtain ⟨session, hsession, rfl⟩ := List.mem_map.mp hopen
    exact Or.inr ⟨session, hsession, hidentity⟩

theorem identities_subset (hruns : ∀ run ∈ s'.runs, run.identity ∈ s.identities)
    (hsessions : ∀ session ∈ s'.sessions, session.run.identity ∈ s.identities) :
    s'.identities ⊆ s.identities := by
  intro identity hmem
  rcases mem_identities hmem with ⟨run, hrun, rfl⟩ | ⟨session, hsession, rfl⟩
  · exact hruns run hrun
  · exact hsessions session hsession

theorem session?_eq_none :
    s.session? task = none ↔ ∀ session ∈ s.sessions, session.task ≠ task := by
  rw [session?, List.find?_eq_none]
  refine forall_congr' fun session => forall_congr' fun _ => ?_
  rw [beq_iff_eq]

theorem mem_others : session ∈ s.others task ↔ session ∈ s.sessions ∧ session.task ≠ task := by
  rw [others, List.mem_filter, bne_iff_ne]

/-- A task without a session, where another task has changed its own. -/
theorem Intact.context_of_others (h : s.Intact) (task : Nat) {other : Nat} (hother : other ≠ task)
    (hnone : ∀ session ∈ s.others task, session.task ≠ other) :
    s.contexts other = ⟨none, none⟩ := by
  refine h.contexts other (session?_eq_none.mpr (fun session hsession htask => ?_))
  exact hnone session (mem_others.mpr ⟨hsession, fun heq => hother (htask.symm.trans heq)⟩) htask

/-- What a step leaves that brings no new run. -/
def BringsNoRun (s s' : TraceSystem α) : Prop :=
  s'.store.alerts = s.store.alerts ∧ s'.identities ⊆ s.identities

theorem Intact.marked_of_bringsNoRun (h : s.Intact) (hstep : s.BringsNoRun s') :
    Marked s'.store.alerts s'.identities := by
  rw [hstep.1]
  exact h.marked.subset hstep.2

theorem BringsNoRun.descends (hstep : s.BringsNoRun s') (drawn : List Uuid) :
    Descends s.tags s'.tags drawn := by
  refine .kept ?_
  rw [tags, tags, hstep.1]
  exact markedTags_mono hstep.2

theorem BringsNoRun.trans {s'' : TraceSystem α} (h : s.BringsNoRun s')
    (h' : s'.BringsNoRun s'') : s.BringsNoRun s'' :=
  ⟨h'.1.trans h.1, fun _ hmem => h.2 (h'.2 hmem)⟩

/-- The results that are committed belong to runs that are. -/
theorem Intact.actions_committed (h : s.Intact) {run : RunRow α}
    {actions : List (ActionResultRow α)} (hrun : run.identity ∈ s.identities)
    (hactions : ∀ action ∈ actions, action.runId = run.id ∧
      action.correlationId = run.correlationId) :
    ∀ action ∈ (s.committed run actions).actions, ∃ row ∈ (s.committed run actions).runs,
      row.id = action.runId ∧ row.correlationId = action.correlationId := by
  intro action haction
  have hself : run ∈ (s.committed run actions).runs :=
    List.mem_append_right _ (List.mem_singleton_self run)
  rcases List.mem_append.mp haction with hold | hnew
  · obtain ⟨row, hrow, hid, hmark⟩ := h.actions action hold
    by_cases hsame : row.id = run.id
    · have heq := h.marked.oneRow _ (identity_run_mem hrow) _ hrun hsame
      exact ⟨run, hself, hsame.symm.trans hid,
        (congrArg RunIdentity.correlationId heq).symm.trans hmark⟩
    · refine ⟨row, List.mem_append_left _ (List.mem_filter.mpr ⟨hrow, ?_⟩), hid, hmark⟩
      exact bne_iff_ne.mpr hsame
  · obtain ⟨hid, hmark⟩ := hactions action hnew
    exact ⟨run, hself, hid.symm, hmark.symm⟩

/-! ## One step -/

/-- A step that keeps the invariant, and what it tells. -/
def Keeps (s s' : TraceSystem α) (drawn : List Uuid) : Prop :=
  s'.Intact ∧ Descends s.tags s'.tags drawn

/-- One that brings no run. -/
def Quiet (s s' : TraceSystem α) : Prop := s'.Intact ∧ s.BringsNoRun s'

theorem Quiet.trans {s'' : TraceSystem α} (h : s.Quiet s') (h' : s'.Quiet s'') : s.Quiet s'' :=
  ⟨h'.1, h.2.trans h'.2⟩

theorem Quiet.keeps (h : s.Quiet s') (drawn : List Uuid) : s.Keeps s' drawn :=
  ⟨h.1, h.2.descends drawn⟩

variable {py : PyText} {app : App}

theorem keeps_store {op : StoreOp} {store : Store} (h : s.Intact)
    (hstep : storeStep py app s.locked op = .ok store) :
    s.Keeps { s with store := store } (TraceOp.drawn (.store op : TraceOp α)) := by
  have hmarked : Marked s.locked.alerts s.identities := h.marked
  have hruns : ∀ identity ∈ s.identities, ∃ run ∈ s.locked.runs,
      run.alertId = identity.alertId := by
    intro identity hmem
    obtain ⟨run, hrun, rfl⟩ := List.mem_map.mp hmem
    exact ⟨run.summary, List.mem_map_of_mem hrun, rfl⟩
  have hdescends : Descends s.tags ({ s with store := store } : TraceSystem α).tags
      (TraceOp.drawn (.store op : TraceOp α)) := descends_storeStep (s := s.locked) hmarked hstep
  exact ⟨{ h with marked := marked_storeStep hmarked hruns hstep }, hdescends⟩

/-- The id of a run, in an empty context. -/
theorem prepareRun_identity {name : String} {request : RunRequest} {call : RunCall α} {db : Db}
    {run : RunRow α} {alert : Option Alert}
    (h : prepareRun name request call ⟨none, none⟩ db = .ok (run, alert)) :
    (∀ i, run.alertId = some i → ∃ row, db.alerts.find? i = some row ∧
      run.correlationId = some (row.correlationId.getD call.newCorrelationId)) ∧
      (run.alertId = none → run.correlationId = some call.newCorrelationId) := by
  unfold prepareRun at h
  split at h
  · cases h
  · dsimp only at h
    split at h
    · cases h
    · rename_i hfound
      obtain ⟨_, -, h⟩ := map_ok h
      cases h
      constructor
      · intro i hi
        have hi : request.alertId = some i := hi
        cases hrow : db.alerts.find? i with
        | none => exact absurd ⟨by rw [hi]; rfl, by rw [hi, Option.bind_some, hrow]; rfl⟩ hfound
        | some row =>
            refine ⟨row, rfl, ?_⟩
            simp only [resolveCorrelationId, hi, Option.bind_some, hrow, Option.or_none]
      · intro hi
        have hi : request.alertId = none := hi
        simp only [resolveCorrelationId, hi, Option.bind_none, Option.or_none]
        rfl

theorem keeps_execute {name : String} {request : RunRequest} {call : RunCall α} {run : RunRow α}
    {alert : Option Alert} (h : s.Intact) (hidle : s.session? task = none)
    (hprepared : prepareRun name request call (s.contexts task) s.store.db = .ok (run, alert))
    (hnew : s.rows.any (fun row => row.id == run.id) = false) :
    s.Keeps { s with
      sessions := s.sessions ++ [⟨task, run, call, [], (s.contexts task).correlationId⟩]
      contexts := Function.update s.contexts task (call.context run) } [call.newCorrelationId] := by
  have hempty := h.contexts task hidle
  rw [hempty] at hprepared
  obtain ⟨hof, hown⟩ := prepareRun_identity hprepared
  have hid : ∀ other ∈ s.identities, other.id ≠ run.identity.id := by
    intro other hmem
    obtain ⟨row, hrow, rfl⟩ := List.mem_map.mp hmem
    exact fun heq => List.any_eq_false.mp hnew row hrow (beq_iff_eq.mpr heq)
  have halert : ∀ i, run.identity.alertId = some i →
      ∃ row, s.store.alerts.find? i = some row ∧ run.correlationId = row.correlationId := by
    intro i hi
    obtain ⟨alert, hfind, hmark⟩ := hof i hi
    rw [Store.find?_db_alerts] at hfind
    obtain ⟨row, hrow, rfl⟩ := Option.map_eq_some_iff.mp hfind
    obtain ⟨c, hc⟩ := h.marked.alert i row hrow
    refine ⟨row, hrow, ?_⟩
    rw [hmark, hc]
    rfl
  obtain ⟨c, hc⟩ : ∃ c, run.correlationId = some c := by
    cases hrun : run.alertId with
    | none => exact ⟨_, hown hrun⟩
    | some i =>
        obtain ⟨row, -, hmark⟩ := hof i hrun
        exact ⟨_, hmark⟩
  have hidentities : ({ s with
      sessions := s.sessions ++ [⟨task, run, call, [], (s.contexts task).correlationId⟩]
      contexts := Function.update s.contexts task (call.context run) } : TraceSystem α).identities =
      s.identities ++ [run.identity] := by
    simp only [identities, rows, List.map_append, List.append_assoc]
    rfl
  constructor
  · refine ⟨?_, h.actions, ?_, ?_, ?_⟩
    · rw [hidentities]
      exact h.marked.insert hid hc halert
    · intro session hsession
      rcases List.mem_append.mp hsession with hold | hnew
      · exact h.pending session hold
      · rw [List.mem_singleton.mp hnew]
        exact fun action haction => absurd haction List.not_mem_nil
    · intro other hnone
      have hnone := session?_eq_none.mp hnone
      have hother : other ≠ task := fun heq => hnone _
        (List.mem_append_right _ (List.mem_singleton_self _)) heq.symm
      refine (Function.update_of_ne hother _ _).trans (h.contexts other ?_)
      exact session?_eq_none.mpr (fun session hsession =>
        hnone session (List.mem_append_left _ hsession))
    · intro session hsession
      rcases List.mem_append.mp hsession with hold | hnew
      · exact h.tokens session hold
      · rw [List.mem_singleton.mp hnew, hempty]
  · have hdrawn : run.identity.alertId = none → c ∈ [call.newCorrelationId] := by
      intro hnone
      rw [Option.some.inj (hc.symm.trans (hown hnone))]
      exact List.mem_singleton_self _
    rw [tags, tags, hidentities]
    exact descends_insert hid hc halert hdrawn

/-- A task changes its session. -/
theorem quiet_session {changed : OpenRun α} (h : s.Intact)
    (hsession : s.session? task = some session)
    (hrun : changed.run = session.run) (htask : changed.task = session.task)
    (htoken : changed.cidToken = session.cidToken) (hactions : ∀ action ∈ changed.actions,
      action.runId = changed.run.id ∧ action.correlationId = changed.run.correlationId) :
    s.Quiet { s with sessions := s.others task ++ [changed] } := by
  obtain ⟨hmem, htaskOf⟩ := session?_mem hsession
  have hcases : ∀ other ∈ s.others task ++ [changed], other ∈ s.sessions ∨ other = changed := by
    intro other hother
    rcases List.mem_append.mp hother with hold | hnew
    · exact Or.inl (mem_others.mp hold).1
    · exact Or.inr (List.mem_singleton.mp hnew)
  have hquiet : s.BringsNoRun { s with sessions := s.others task ++ [changed] } := by
    refine ⟨rfl, identities_subset (fun run hrun => identity_run_mem hrun) ?_⟩
    intro other hother
    rcases hcases other hother with hold | rfl
    · exact identity_session_mem hold
    · rw [hrun]
      exact identity_session_mem hmem
  refine ⟨⟨h.marked_of_bringsNoRun hquiet, h.actions, ?_, ?_, ?_⟩, hquiet⟩
  · intro other hother
    rcases hcases other hother with hold | rfl
    · exact h.pending other hold
    · exact hactions
  · intro other hnone
    have hnone := session?_eq_none.mp hnone
    refine h.context_of_others task ?_ (fun session hsession =>
      hnone session (List.mem_append_left _ hsession))
    rintro rfl
    exact hnone changed (List.mem_append_right _ (List.mem_singleton_self _))
      (htask.trans htaskOf)
  · intro other hother
    rcases hcases other hother with hold | rfl
    · exact h.tokens other hold
    · exact htoken.trans (h.tokens session hmem)

/-- A commit of a run that is inserted, with its results. -/
theorem quiet_committed {run : RunRow α} {actions : List (ActionResultRow α)} (h : s.Intact)
    (hrun : run.identity ∈ s.identities) (hactions : ∀ action ∈ actions, action.runId = run.id ∧
      action.correlationId = run.correlationId) : s.Quiet (s.committed run actions) := by
  have hquiet : s.BringsNoRun (s.committed run actions) := by
    refine ⟨rfl, identities_subset ?_ (fun _ hmem => identity_session_mem hmem)⟩
    intro row hrow
    rcases List.mem_append.mp hrow with hold | hnew
    · exact identity_run_mem (List.mem_of_mem_filter hold)
    · rw [List.mem_singleton.mp hnew]
      exact hrun
  exact ⟨⟨h.marked_of_bringsNoRun hquiet, h.actions_committed hrun hactions, h.pending, h.contexts,
    h.tokens⟩, hquiet⟩

/-- A task ends, or dies, and leaves an empty context. -/
theorem quiet_released (h : s.Intact) (task : Nat) :
    s.Quiet { s with
      sessions := s.others task
      contexts := Function.update s.contexts task ⟨none, none⟩ } := by
  have hquiet : s.BringsNoRun { s with
      sessions := s.others task
      contexts := Function.update s.contexts task ⟨none, none⟩ } :=
    ⟨rfl, identities_subset (fun _ hmem => identity_run_mem hmem)
      (fun _ hmem => identity_session_mem (mem_others.mp hmem).1)⟩
  refine ⟨⟨h.marked_of_bringsNoRun hquiet, h.actions,
    fun other hother => h.pending other (mem_others.mp hother).1, ?_,
    fun other hother => h.tokens other (mem_others.mp hother).1⟩, hquiet⟩
  intro other hnone
  by_cases hother : other = task
  · rw [hother]
    exact Function.update_self _ _ _
  · exact (Function.update_of_ne hother _ _).trans
      (h.context_of_others task hother (session?_eq_none.mp hnone))

/-- The function may set the context variable while it runs. -/
theorem quiet_setCorrelationId {cid : Option Uuid} (h : s.Intact)
    (hsession : s.session? task = some session) :
    s.Quiet { s with
      contexts := Function.update s.contexts task
        { s.contexts task with correlationId := cid } } := by
  refine ⟨{ h with contexts := fun other hnone => ?_ }, rfl, fun _ hmem => hmem⟩
  have hnone : s.session? other = none := hnone
  have hother : other ≠ task := by
    rintro rfl
    cases hnone.symm.trans hsession
  exact (Function.update_of_ne hother _ _).trans (h.contexts other hnone)

theorem quiet_recordAction {id : Uuid} {entry : ActionRecord α} (h : s.Intact)
    (hsession : s.session? task = some session) :
    s.Quiet { s with sessions := s.others task ++
      [{ session with actions := session.actions ++ [session.run.recordAction id entry] }] } := by
  refine quiet_session h hsession rfl rfl rfl (fun action haction => ?_)
  rcases List.mem_append.mp haction with hold | hnew
  · exact h.pending session (session?_mem hsession).1 action hold
  · rw [List.mem_singleton.mp hnew]
    exact ⟨rfl, rfl⟩

theorem quiet_commit (h : s.Intact) (hsession : s.session? task = some session) :
    s.Quiet { s.committed session.run session.actions with
      sessions := s.others task ++ [{ session with actions := [] }] } := by
  have hmem := (session?_mem hsession).1
  have hcommitted := quiet_committed h (identity_session_mem hmem) (h.pending session hmem)
  exact hcommitted.trans (quiet_session hcommitted.1 hsession rfl rfl rfl
    (fun _ haction => absurd haction List.not_mem_nil))

theorem quiet_finished {ended : FunctionEnd α} (h : s.Intact)
    (hsession : s.session? task = some session) :
    s.Quiet { s.committed (session.finished ended) session.actions with
      sessions := s.others task
      contexts := Function.update s.contexts task ⟨none, none⟩ } := by
  have hmem := (session?_mem hsession).1
  have hrun : (session.finished ended).identity ∈ s.identities := by
    rw [OpenRun.identity_finished]
    exact identity_session_mem hmem
  have hactions : ∀ action ∈ session.actions, action.runId = (session.finished ended).id ∧
      action.correlationId = (session.finished ended).correlationId := by
    intro action haction
    obtain ⟨hid, -, hmark⟩ := RunIdentity.mk.inj (session.identity_finished ended)
    obtain ⟨hactionId, hactionMark⟩ := h.pending session hmem action haction
    exact ⟨hactionId.trans hid.symm, hactionMark.trans hmark.symm⟩
  have hcommitted := quiet_committed h hrun hactions
  exact hcommitted.trans (quiet_released hcommitted.1 task)

/-- **Every step keeps the invariant**, and brings at most one origin, under an id it draws. -/
theorem keeps_traceStep {op : TraceOp α} (h : s.Intact) (hstep : traceStep py app s op = .ok s') :
    s.Keeps s' op.drawn := by
  cases op with
  | store op =>
      obtain ⟨store, hstore, rfl⟩ := map_ok (mapError_ok hstep)
      exact keeps_store h hstore
  | playbooks table =>
      cases hstep
      exact ⟨{ h with }, .kept (fun _ ht => ht)⟩
  | execute task name request call =>
      simp only [traceStep] at hstep
      split at hstep
      · cases hstep
      · rename_i hidle
        split at hstep
        · cases hstep
        · rename_i run alert hprepared
          split at hstep
          · cases hstep
          · rename_i hnew
            cases hstep
            exact keeps_execute h hidle hprepared (Bool.eq_false_iff.mpr hnew)
  | recordAction task id entry =>
      simp only [traceStep] at hstep
      split at hstep
      · cases hstep
      · rename_i session hsession
        cases hstep
        exact (quiet_recordAction h hsession).keeps _
  | setCorrelationId task cid =>
      simp only [traceStep] at hstep
      split at hstep
      · cases hstep
      · rename_i session hsession
        cases hstep
        exact (quiet_setCorrelationId h hsession).keeps _
  | commit task =>
      simp only [traceStep] at hstep
      split at hstep
      · cases hstep
      · rename_i session hsession
        cases hstep
        exact (quiet_commit h hsession).keeps _
  | finish task ended =>
      simp only [traceStep] at hstep
      split at hstep
      · cases hstep
      · rename_i session hsession
        have htoken := h.tokens session (session?_mem hsession).1
        rw [htoken] at hstep
        split at hstep
        · cases hstep
          exact (quiet_finished h hsession).keeps _
        · cases hstep
          exact (quiet_released h task).keeps _
  | crash task =>
      cases hstep
      exact (quiet_released h task).keeps _

theorem intact_start {store : Store} (hstore : store.alerts.rows = []) :
    (start store : TraceSystem α).Intact where
  marked := {
    alert := by
      intro i row hrow
      have hmem := Table.mem_of_find? hrow
      rw [show (start store : TraceSystem α).store.alerts.rows = [] from hstore] at hmem
      cases hmem
    run := fun _ hmem => absurd hmem List.not_mem_nil
    ofAlert := fun _ hmem => absurd hmem List.not_mem_nil
    oneRow := fun _ hmem => absurd hmem List.not_mem_nil }
  actions := fun _ hmem => absurd hmem List.not_mem_nil
  pending := fun _ hmem => absurd hmem List.not_mem_nil
  contexts := fun _ _ => rfl
  tokens := fun _ hmem => absurd hmem List.not_mem_nil

theorem tags_start {store : Store} (hstore : store.alerts.rows = []) :
    ∀ t, t ∉ (start store : TraceSystem α).tags := by
  rintro t (⟨i, row, hrow, -, -⟩ | ⟨identity, hmem, -, -⟩)
  · have hmem := Table.mem_of_find? hrow
    rw [show (start store : TraceSystem α).store.alerts.rows = [] from hstore] at hmem
    cases hmem
  · exact List.not_mem_nil hmem

end TraceSystem

/-! ## Over whole runs -/

/-- A record with a correlation id. -/
inductive TraceRecord (α : Type) where
  | alert (row : AlertRow)
  | run (row : RunRow α)
  | action (row : ActionResultRow α)

def TraceRecord.correlationId : TraceRecord α → Option Uuid
  | .alert row => row.correlationId
  | .run row => row.correlationId
  | .action row => row.correlationId

namespace TraceSystem

variable (s : TraceSystem α)

/-- The record is committed. -/
def Stored : TraceRecord α → Prop
  | .alert row => row ∈ s.store.alerts.rows
  | .run row => row ∈ s.runs
  | .action row => row ∈ s.actions

/-- An alert is its own origin, as is a run without one; a run of an alert comes from it, and an
action from its run. -/
def origin : TraceRecord α → TraceOrigin
  | .alert row => .alert row.key
  | .run row => row.identity.origin
  | .action row =>
      match s.runs.find? (fun run => run.id == row.runId) with
      | some run => run.identity.origin
      | none => .run row.runId

variable {s}

/-- What a stored record tells is among the tags. -/
theorem Intact.tag_of_stored (h : s.Intact) {x : TraceRecord α} (hx : s.Stored x) :
    ∃ t ∈ s.tags, x.correlationId = some t.mark ∧ s.origin x = t.origin := by
  have hrun : ∀ run ∈ s.runs, ∃ t ∈ s.tags, run.correlationId = some t.mark ∧
      run.identity.origin = t.origin := by
    intro run hmem
    have hidentity := identity_run_mem hmem
    obtain ⟨c, hc⟩ := h.marked.run run.identity hidentity
    exact ⟨⟨run.identity.origin, c⟩, Or.inr ⟨run.identity, hidentity, rfl, hc⟩, hc, rfl⟩
  cases x with
  | alert row =>
      have hfind := Table.find?_of_mem hx
      obtain ⟨c, hc⟩ := h.marked.alert _ row hfind
      exact ⟨⟨.alert row.key, c⟩, Or.inl ⟨row.key, row, hfind, rfl, hc⟩, hc, rfl⟩
  | run row => exact hrun row hx
  | action row =>
      obtain ⟨run, hmem, hid, hmark⟩ := h.actions row hx
      obtain ⟨found, hfound⟩ :
          ∃ found, s.runs.find? (fun run => run.id == row.runId) = some found := by
        refine Option.isSome_iff_exists.mp (List.find?_isSome.mpr ⟨run, hmem, ?_⟩)
        rw [hid, beq_self_eq_true]
      have hfoundId := List.find?_some hfound
      have heq : found.identity = run.identity := h.marked.oneRow _
        (identity_run_mem (List.mem_of_find?_eq_some hfound)) _ (identity_run_mem hmem)
        ((beq_iff_eq.mp hfoundId).trans hid.symm)
      obtain ⟨t, ht, hc, horigin⟩ := hrun run hmem
      refine ⟨t, ht, hmark.symm.trans hc, ?_⟩
      simp only [origin, hfound, heq]
      exact horigin

end TraceSystem

/-- **Correlation ids tell what belongs together.**  In every run of ingests, other operations on
the store and tasks that execute playbooks, in which `uuid4` repeats no id: whatever alerts, runs
and action results are committed at the end, each carries an id, and two of them carry the same one
exactly when they have one origin.  The alert of a run, and the run of an action, are stored. -/
theorem correlation_ids_tell {store : Store} (hstore : store.alerts.rows = []) (py : PyText)
    (app : App) {ops : List (TraceOp α)} (hdrawn : (ops.flatMap TraceOp.drawn).Nodup)
    {s : TraceSystem α} (hs : s = run (traceStep py app) (.start store) ops) :
    (∀ x y, s.Stored x → s.Stored y → x.correlationId.isSome ∧
      (x.correlationId = y.correlationId ↔ s.origin x = s.origin y)) ∧
    (∀ row, s.Stored (.run row) → ∀ i, row.alertId = some i → s.store.HasAlert i) ∧
    ∀ row, s.Stored (.action row) → ∃ of, s.Stored (.run of) ∧ of.id = row.runId := by
  have hintact : s.Intact := by
    rw [hs]
    exact run_inv_of_step _ (fun _ _ _ h hstep => (TraceSystem.keeps_traceStep h hstep).1) ops _
      (TraceSystem.intact_start hstore)
  have htells : Tells s.tags := by
    rw [hs]
    refine run_tells (fun _ _ _ h hstep => (TraceSystem.keeps_traceStep h hstep).1)
      (fun _ _ _ h hstep => (TraceSystem.keeps_traceStep h hstep).2) hdrawn
      (TraceSystem.intact_start hstore) ?_ ?_
    · exact fun t ht => absurd ht (TraceSystem.tags_start hstore t)
    · exact fun _ _ t ht => absurd ht (TraceSystem.tags_start hstore t)
  refine ⟨?_, ?_, ?_⟩
  · intro x y hx hy
    obtain ⟨t, ht, hmark, horigin⟩ := hintact.tag_of_stored hx
    obtain ⟨t', ht', hmark', horigin'⟩ := hintact.tag_of_stored hy
    rw [hmark, hmark', horigin, horigin', Option.some.injEq]
    exact ⟨rfl, htells t ht t' ht'⟩
  · intro row hrow i hi
    obtain ⟨alert, halert, -⟩ := hintact.marked.ofAlert row.identity
      (TraceSystem.identity_run_mem hrow) i hi
    rw [Store.HasAlert, halert]
    rfl
  · intro row hrow
    obtain ⟨of, hof, hid, -⟩ := hintact.actions row hrow
    exact ⟨of, hof, hid⟩

/-! ## An alert and two runs -/

/-- A run for the alert, or without one, whose function returns. -/
def returningCall (runId newCorrelationId : Uuid) : RunCall Nat :=
  { quietCall (.returned 0) with runId := runId, newCorrelationId := newCorrelationId }

/-- An alert comes in; a task runs a playbook on it and records an action, while another task runs
the playbook by itself. -/
def isolateOps : List (TraceOp Nat) :=
  [.store (.event ⟨0, .alerts (.processWebhook ⟨[("title", .str "beacon")], "webhook", 1, 2⟩)⟩),
    .execute 0 "isolate_host" ⟨some 1, none, none, none, none⟩ (returningCall 5 6),
    .execute 1 "isolate_host" manualRun (returningCall 7 8),
    .recordAction 0 9 ⟨"isolate", .success, 0, 1, none, none, 1⟩,
    .finish 1 (.returned 0),
    .finish 0 (.returned 0)]

def isolateSystem : TraceSystem Nat :=
  run (traceStep .ascii .core) (.start { Store.empty with playbooks := isolateDb.playbooks })
    isolateOps

theorem isolate_ids_tell : ∃ row row', isolateSystem.Stored (.action row) ∧
    isolateSystem.Stored (.run row') ∧ row.correlationId = some 2 ∧
    isolateSystem.origin (.action row) ≠ isolateSystem.origin (.run row') := by
  have hactions : isolateSystem.actions.map (fun row => row.correlationId) = [some 2] := by
    decide +kernel
  have hruns : isolateSystem.runs.map (fun row => row.correlationId) = [some 8, some 2] := by
    decide +kernel
  obtain ⟨row, hrow, hmark⟩ := List.mem_map.mp (hactions ▸ List.mem_cons_self :
    some 2 ∈ isolateSystem.actions.map (fun row => row.correlationId))
  obtain ⟨row', hrow', hmark'⟩ := List.mem_map.mp (hruns ▸ List.mem_cons_self :
    some 8 ∈ isolateSystem.runs.map (fun row => row.correlationId))
  have htells := (@correlation_ids_tell Nat { Store.empty with playbooks := isolateDb.playbooks }
    rfl .ascii .core isolateOps (by decide) isolateSystem rfl).1
  refine ⟨row, row', hrow, hrow', hmark, fun horigin => ?_⟩
  have heq := (htells (.action row) (.run row') hrow hrow').2.mpr horigin
  have heq : row.correlationId = row'.correlationId := heq
  rw [hmark, hmark'] at heq
  exact absurd heq (by decide)

end OpenSoar
