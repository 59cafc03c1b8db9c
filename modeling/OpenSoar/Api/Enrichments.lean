/-
# `OpenSoar.Api.Enrichments` — concurrent writers of the enrichments of an observable

`add_enrichment` and `invalidate_observable_enrichment` of `api/observables.py`, and
`_run_enrichment` of `worker/enrichment.py`.  Each reads the row, computes a new list from the
one it read, and writes the whole list back; between the read and the write of a worker lie its
lookups.  An `UPDATE` names the columns that were set to another value than the one that was
loaded, and waits for a pending `UPDATE` of the row.

Nobody looks at the list again before writing it, so a session that has been overtaken takes
the others' entries back.  No entry is lost in the runs in which each session that rewrites the
list commits while it is still the list it read (`enrichments_kept`).
-/
import OpenSoar.Api.Invalidation
import OpenSoar.Lib.ReadCommitted

namespace OpenSoar

open Python ReadCommitted

structure EnrichmentCreate where
  source : String
  data : Dict
  malicious : Bool
  score : Option PyFloat

/-- `enrichment_entry`. -/
def EnrichmentCreate.entry (data : EnrichmentCreate) : Json :=
  .obj [("source", .str data.source), ("data", .obj data.data),
    ("malicious", .bool data.malicious), ("score", data.score.elim .null .float)]

/-- Who works on the row: a request, or a task with what its lookups come to. -/
inductive EnrichmentOp where
  | add (data : EnrichmentCreate) (caller : Option Analyst)
  | enrich (answer : Except ConnectorError (List Json))
  | invalidate (source : String) (caller : Option Analyst)

/-- Why a session writes nothing: it raises, its task finds no row, or its lookups end with an
exception that `_run_enrichment` does not expect. -/
inductive EnrichmentStop where
  | raised (e : Raised)
  | missing
  | crashed (e : ConnectorError)

/-- An `UPDATE` of the row: the columns it names. -/
structure EnrichmentWrite where
  observableId : Uuid
  enrichments : Option (List Json)
  status : Option (Varchar 20)

/-! ## The three writers -/

/-- The list of a row, `obs.enrichments or []`. -/
def Observable.entries (obs : Observable) : List Json := obs.enrichments.getD []

/-- `obs.enrichments = entries`.  A list that is equal to the one loaded is not written; what is
assigned here extends that list or leaves some of it out, so it is equal when it is as long. -/
def Observable.rewrites (obs : Observable) (entries : List Json) : Option (List Json) :=
  if obs.enrichments.any (fun old => old.length = entries.length) then none else some entries

/-- `obs.enrichment_status = status`. -/
def Observable.restates (obs : Observable) (status : Varchar 20) : Option (Varchar 20) :=
  if obs.enrichmentStatus = status then none else some status

/-- `add_enrichment`, from the row to the commit. -/
def addEnrichment (data : EnrichmentCreate) (obs : Observable) : EnrichmentWrite where
  observableId := obs.id
  enrichments := obs.rewrites (obs.entries ++ [data.entry])
  status := obs.restates (.lit "enriched")

/-- `except (SQLAlchemyError, OSError, RuntimeError, ValueError, ...)` around the lookups. -/
def ConnectorError.failsRun : ConnectorError → Bool
  | .osError | .valueError | .runtimeError => true
  | _ => false

/-- `_run_enrichment`, from the row to the commit. -/
def runEnrichment (answer : Except ConnectorError (List Json)) (obs : Observable) :
    Except EnrichmentStop EnrichmentWrite :=
  match answer with
  | .ok newEntries => .ok {
      observableId := obs.id
      enrichments := obs.rewrites (obs.entries ++ newEntries)
      status := obs.restates (.lit "complete") }
  | .error e =>
      if e.failsRun then .ok {
        observableId := obs.id
        enrichments := none
        status := obs.restates (.lit "failed") }
      else .error (.crashed e)

/-- `invalidate_observable_enrichment`, from the row to the commit, without the cache. -/
def invalidateEnrichment (source : String) (obs : Observable) : EnrichmentWrite :=
  let remaining := obs.entries.filter (fun record => !recordOf source record)
  { observableId := obs.id
    enrichments := obs.rewrites remaining
    status := if remaining.isEmpty then obs.restates (.lit "pending") else none }

/-- The row after an `UPDATE`. -/
def EnrichmentWrite.apply (write : EnrichmentWrite) (obs : Observable) : Observable :=
  { obs with
    enrichments := write.enrichments.elim obs.enrichments some
    enrichmentStatus := write.status.getD obs.enrichmentStatus }

/-- The row of a request, which its caller may update. -/
def observableForUpdate (app : App) (observableId : Uuid) (caller : Option Analyst)
    (rows : List Observable) : Except Raised Observable := do
  let analyst ← requirePermission .observablesManage caller
  let obs ← orRaise (rows.find? (fun o => o.id = observableId))
    (.httpException 404 "Observable not found")
  enforceTenantAccess app (.observable obs.object) "update" (some analyst)
  pure obs

def readForEnrichment (app : App) (observableId : Uuid) (rows : List Observable) :
    EnrichmentOp → Except EnrichmentStop Observable
  | .add _ caller => (observableForUpdate app observableId caller rows).mapError .raised
  | .invalidate _ caller => (observableForUpdate app observableId caller rows).mapError .raised
  | .enrich _ =>
      match rows.find? (fun o => o.id = observableId) with
      | some obs => .ok obs
      | none => .error .missing

def EnrichmentOp.write : EnrichmentOp → Observable → Except EnrichmentStop EnrichmentWrite
  | .add data _, obs => .ok (addEnrichment data obs)
  | .enrich answer, obs => runEnrichment answer obs
  | .invalidate source _, obs => .ok (invalidateEnrichment source obs)

/-- The columns that an `UPDATE` does not name keep what others have committed. -/
def EnrichmentWrite.commit (write : EnrichmentWrite) (rows : List Observable) :
    List Observable :=
  rows.map (fun o => if o.id = write.observableId then write.apply o else o)

/-- There is something to write. -/
def EnrichmentWrite.isUpdate (write : EnrichmentWrite) : Bool :=
  write.enrichments.isSome || write.status.isSome

/-- Two updates of one row wait for each other. -/
def EnrichmentWrite.locks (a b : EnrichmentWrite) : Bool :=
  decide (a.observableId = b.observableId) && a.isUpdate && b.isUpdate

/-- The three writers as transactions on one observable. -/
def enrichmentTransaction (app : App) (observableId : Uuid) {κ : Type} (op : κ → EnrichmentOp) :
    Transaction κ (List Observable) Observable EnrichmentWrite EnrichmentStop where
  read k rows := readForEnrichment app observableId rows (op k)
  write k obs := (op k).write obs
  commit write rows := .ok (write.commit rows)
  excludes := EnrichmentWrite.locks

abbrev EnrichmentSys (κ : Type) :=
  Sys κ (List Observable) Observable EnrichmentWrite EnrichmentStop

/-! ## What is to be kept -/

/-- The entries stored for an observable. -/
def entriesOf (rows : List Observable) (observableId : Uuid) : List Json :=
  ((rows.find? (fun o => o.id = observableId)).map Observable.entries).getD []

/-- What an operation makes of the entries. -/
def EnrichmentOp.effect : EnrichmentOp → List Json → List Json
  | .add data _, entries => entries ++ [data.entry]
  | .enrich (.ok newEntries), entries => entries ++ newEntries
  | .enrich (.error _), entries => entries
  | .invalidate source _, entries => entries.filter (fun record => !recordOf source record)

/-- The entries there were and those that the committed operations appended, less each whose
source was invalidated after it. -/
def survivors {κ : Type} (op : κ → EnrichmentOp) (committed : List κ) (entries : List Json) :
    List Json :=
  committed.foldl (fun entries k => (op k).effect entries) entries

open Classical in
/-- Every surviving entry is stored, as many times as it was appended. -/
def NoneLost {κ : Type} (op : κ → EnrichmentOp) (observableId : Uuid) (entries : List Json)
    (s : EnrichmentSys κ) : Prop :=
  ∀ entry ∈ survivors op s.committed entries,
    (entriesOf s.store observableId).count entry = (survivors op s.committed entries).count entry

def EnrichmentOp.invalidates : EnrichmentOp → Bool
  | .invalidate _ _ => true
  | _ => false

/-- A session that rewrites the list, or invalidates a source, commits while the list is still
the one it read. -/
def EditsWhatItRead {κ : Type} (op : κ → EnrichmentOp) (observableId : Uuid)
    (s : EnrichmentSys κ) (e : κ × Act) : Prop :=
  e.2 = .commit → ∀ obs write, s.phase e.1 = .hasWritten obs write →
    write.enrichments.isSome = true ∨ (op e.1).invalidates = true →
    entriesOf s.store observableId = obs.entries

/-! ## What a write does to the list -/

section Write

variable {op : EnrichmentOp} {obs : Observable} {write : EnrichmentWrite}

/-- The row of a session that was written from it: the same id. -/
theorem write_observableId (h : op.write obs = .ok write) : write.observableId = obs.id := by
  cases op with
  | add data caller => cases h; rfl
  | invalidate source caller => cases h; rfl
  | enrich answer =>
      cases answer with
      | ok newEntries => cases h; rfl
      | error e =>
          simp only [EnrichmentOp.write, runEnrichment] at h
          split at h
          · cases h; rfl
          · cases h

/-- A list that is not written is as long as the one loaded. -/
theorem rewrites_cases (obs : Observable) (entries : List Json) :
    obs.rewrites entries = some entries ∨
      (obs.rewrites entries = none ∧ obs.enrichments = some obs.entries ∧
        entries.length = obs.entries.length) := by
  unfold Observable.rewrites
  split
  · rename_i hsame
    cases hold : obs.enrichments with
    | none =>
        rw [hold] at hsame
        cases hsame
    | some old =>
        rw [hold, Option.any_some, decide_eq_true_eq] at hsame
        have hentries : obs.entries = old := by rw [Observable.entries, hold]; rfl
        rw [hentries]
        exact Or.inr ⟨rfl, rfl, hsame.symm⟩
  · exact Or.inl rfl

theorem rewrites_getD {entries : List Json}
    (hlength : entries.length = obs.entries.length → entries = obs.entries) :
    (obs.rewrites entries).getD obs.entries = entries := by
  rcases rewrites_cases obs entries with hwritten | ⟨hnone, -, hsame⟩
  · rw [hwritten]
    rfl
  · rw [hnone]
    exact (hlength hsame).symm

theorem length_of_rewrites_none {entries : List Json} (h : obs.rewrites entries = none) :
    entries.length = obs.entries.length := by
  rcases rewrites_cases obs entries with hwritten | ⟨-, -, hsame⟩
  · cases hwritten.symm.trans h
  · exact hsame

/-- A session makes of the list it read what its operation makes of it. -/
theorem write_enrichments (h : op.write obs = .ok write) :
    write.enrichments.getD obs.entries = op.effect obs.entries := by
  cases op with
  | add data caller =>
      cases h
      refine rewrites_getD (fun hlength => ?_)
      simp at hlength
  | enrich answer =>
      cases answer with
      | ok newEntries =>
          cases h
          refine rewrites_getD (fun hlength => ?_)
          rw [List.length_append, Nat.add_eq_left, List.length_eq_zero_iff] at hlength
          rw [hlength, List.append_nil]
      | error e =>
          simp only [EnrichmentOp.write, runEnrichment] at h
          split at h
          · cases h; rfl
          · cases h
  | invalidate source caller =>
      cases h
      exact rewrites_getD (fun hlength => List.filter_eq_self.mpr
        (List.length_filter_eq_length_iff.mp hlength))

/-- A session that leaves the list alone, and invalidates nothing, appends nothing. -/
theorem effect_of_not_written (h : op.write obs = .ok write) (hnone : write.enrichments = none)
    (hop : op.invalidates = false) (entries : List Json) : op.effect entries = entries := by
  cases op with
  | add data caller =>
      cases h
      have hlength := length_of_rewrites_none hnone
      simp at hlength
  | invalidate source caller => cases hop
  | enrich answer =>
      cases answer with
      | error e => rfl
      | ok newEntries =>
          cases h
          have hlength := length_of_rewrites_none hnone
          rw [List.length_append, Nat.add_eq_left, List.length_eq_zero_iff] at hlength
          show entries ++ newEntries = entries
          rw [hlength, List.append_nil]

/-- Applied to the row it was computed from, the `UPDATE` leaves the row without the source's
records. -/
theorem invalidateEnrichment_apply (source : String) (obs : Observable) :
    (invalidateEnrichment source obs).apply obs = obs.withoutRecords source := by
  obtain ⟨remaining, hremaining⟩ : ∃ remaining, remaining =
      obs.entries.filter (fun record => !recordOf source record) := ⟨_, rfl⟩
  have hlist : (invalidateEnrichment source obs).enrichments.elim obs.enrichments some =
      some remaining := by
    rw [hremaining]
    rcases rewrites_cases obs (obs.entries.filter (fun record => !recordOf source record)) with
      hwritten | ⟨hnone, hloaded, hsame⟩
    · simp only [invalidateEnrichment, hwritten, Option.elim_some]
    · simp only [invalidateEnrichment, hnone, Option.elim_none, hloaded]
      rw [List.filter_eq_self.mpr (List.length_filter_eq_length_iff.mp hsame)]
  have hstatus : (invalidateEnrichment source obs).status.getD obs.enrichmentStatus =
      if remaining.isEmpty then .lit "pending" else obs.enrichmentStatus := by
    simp only [invalidateEnrichment, ← hremaining]
    cases remaining.isEmpty with
    | false => rfl
    | true =>
        simp only [Observable.restates, if_true]
        split
        · rename_i hsame
          exact hsame
        · rfl
  simp only [EnrichmentWrite.apply, hlist, hstatus, Observable.withoutRecords]
  rw [hremaining]
  rfl

theorem find?_commit (write : EnrichmentWrite) (rows : List Observable) (observableId : Uuid) :
    (write.commit rows).find? (fun o => o.id = observableId) =
      (rows.find? (fun o => o.id = observableId)).map
        (fun o => if o.id = write.observableId then write.apply o else o) := by
  have hid : ((fun o : Observable => decide (o.id = observableId)) ∘
      fun o => if o.id = write.observableId then write.apply o else o) =
        fun o : Observable => decide (o.id = observableId) := by
    funext o
    simp only [Function.comp_apply]
    split <;> rfl
  rw [EnrichmentWrite.commit, List.find?_map, hid]

/-- The list after an `UPDATE` of the row. -/
theorem entriesOf_commit {rows : List Observable} {observableId : Uuid}
    (hid : write.observableId = observableId)
    (hrow : (rows.find? (fun o => o.id = observableId)).isSome = true) :
    entriesOf (write.commit rows) observableId =
      write.enrichments.getD (entriesOf rows observableId) := by
  obtain ⟨row, hfound⟩ := Option.isSome_iff_exists.mp hrow
  have hrowId : row.id = write.observableId := by
    rw [hid]
    simpa using List.find?_some hfound
  rw [entriesOf, find?_commit, entriesOf, hfound]
  simp only [Option.map_some, Option.getD_some, if_pos hrowId]
  cases hwrite : write.enrichments with
  | none => simp [EnrichmentWrite.apply, Observable.entries, hwrite]
  | some entries => simp [EnrichmentWrite.apply, Observable.entries, hwrite]

end Write

/-! ## Runs -/

section Run

variable {app : App} {observableId : Uuid} {κ : Type} {op : κ → EnrichmentOp}
  {entries : List Json}

theorem readForEnrichment_ok {rows : List Observable} {op : EnrichmentOp} {obs : Observable}
    (h : readForEnrichment app observableId rows op = .ok obs) :
    rows.find? (fun o => o.id = observableId) = some obs := by
  have hrequest : ∀ {caller : Option Analyst},
      (observableForUpdate app observableId caller rows).mapError EnrichmentStop.raised = .ok obs →
      rows.find? (fun o => o.id = observableId) = some obs := by
    intro caller hread
    obtain ⟨analyst, -, hread⟩ := bind_ok (mapError_ok hread)
    obtain ⟨found, hfound, hread⟩ := bind_ok hread
    obtain ⟨⟨⟩, -, hread⟩ := bind_ok hread
    cases hread
    exact orRaise_ok hfound
  cases op with
  | add data caller => exact hrequest h
  | invalidate source caller => exact hrequest h
  | enrich answer =>
      simp only [readForEnrichment] at h
      split at h
      · rename_i hfound
        cases h
        exact hfound
      · cases h

variable [DecidableEq κ]

/-- The list is what the commits make of it one after another, and every session that is under
way has read the row, which is still there. -/
structure EnrichmentsKept (app : App) (observableId : Uuid) (op : κ → EnrichmentOp)
    (entries : List Json) (s : EnrichmentSys κ) : Prop where
  consistent : Consistent (enrichmentTransaction app observableId op) s
  found : ∀ k obs, (s.phase k).readValue? = some obs → obs.id = observableId ∧
    (s.store.find? (fun o => o.id = observableId)).isSome = true
  list : entriesOf s.store observableId = survivors op s.committed entries

omit [DecidableEq κ] in
theorem enrichmentsKept_start (rows : List Observable) :
    EnrichmentsKept app observableId op (entriesOf rows observableId) (Sys.start rows) where
  consistent := consistent_start rows
  found := by intro k obs h; cases h
  list := rfl

/-- Every session that is under way has read the row, which was still there before the step. -/
theorem EnrichmentsKept.found_step {s s' : EnrichmentSys κ} {k j : κ} {act : Act}
    {obs : Observable} (h : EnrichmentsKept app observableId op entries s)
    (hs : ReadCommitted.Stepped (enrichmentTransaction app observableId op) s k act s')
    (hj : (s'.phase j).readValue? = some obs) :
    obs.id = observableId ∧ (s.store.find? (fun o => o.id = observableId)).isSome = true := by
  rcases hs.remembered hj with ⟨hbefore, -⟩ | ⟨hread, -⟩
  · exact h.found j obs hbefore
  · have hfound := readForEnrichment_ok hread
    exact ⟨by simpa using List.find?_some hfound, by rw [hfound]; rfl⟩

omit [DecidableEq κ] in
/-- **One commit.**  What a session writes from a list that is still there is what its
operation makes of that list. -/
theorem EnrichmentsKept.list_commit {s : EnrichmentSys κ} {k : κ} {obs : Observable}
    {write : EnrichmentWrite} (h : EnrichmentsKept app observableId op entries s)
    (hphase : s.phase k = .hasWritten obs write)
    (hreads : write.enrichments.isSome = true ∨ (op k).invalidates = true →
      entriesOf s.store observableId = obs.entries) :
    entriesOf (write.commit s.store) observableId =
      (op k).effect (entriesOf s.store observableId) := by
  have hwrite : (op k).write obs = .ok write := h.consistent.prepared k obs write hphase
  obtain ⟨hid, hrow⟩ := h.found k obs (by rw [hphase]; rfl)
  rw [entriesOf_commit ((write_observableId hwrite).trans hid) hrow]
  by_cases hedits : write.enrichments.isSome = true ∨ (op k).invalidates = true
  · rw [hreads hedits]
    exact write_enrichments hwrite
  · obtain ⟨hnone, hop⟩ := not_or.mp hedits
    have hnone' : write.enrichments = none := by simpa using hnone
    rw [effect_of_not_written hwrite hnone' (by simpa using hop), hnone']
    rfl

theorem enrichmentsKept_step {s s' : EnrichmentSys κ} {e : κ × Act}
    (h : EnrichmentsKept app observableId op entries s)
    (hedits : EditsWhatItRead op observableId s e)
    (hs : step (enrichmentTransaction app observableId op) s e = .ok s') :
    EnrichmentsKept app observableId op entries s' := by
  obtain ⟨k, act⟩ := e
  have hstepped := stepped_of_step hs
  have hcons := consistent_step h.consistent hstepped
  rcases hstepped.store_cases with
    ⟨hstore, hcommitted⟩ | ⟨obs, write, rfl, hphase, hcommit, hcommitted⟩
  · refine ⟨hcons, ?_, by rw [hstore, hcommitted]; exact h.list⟩
    intro j obs hj
    rw [hstore]
    exact h.found_step hstepped hj
  · have hstore : s'.store = write.commit s.store := (Except.ok.inj hcommit).symm
    refine ⟨hcons, ?_, ?_⟩
    · intro j obs' hj
      obtain ⟨hid, hrow⟩ := h.found_step hstepped hj
      rw [hstore, find?_commit, Option.isSome_map]
      exact ⟨hid, hrow⟩
    · rw [hstore, h.list_commit hphase (hedits rfl obs write hphase), h.list, hcommitted,
        survivors, survivors, List.foldl_append]
      rfl

/-- **No entry is lost** in a run in which each session that rewrites the list, or invalidates a
source, commits while the list is still the one it read: for any number of sessions and every
interleaving of their steps. -/
theorem enrichments_kept {rows : List Observable} {es : List (κ × Act)}
    (h : Along (step (enrichmentTransaction app observableId op)) (EditsWhatItRead op observableId)
      (Sys.start rows) es) :
    NoneLost op observableId (entriesOf rows observableId)
      (run (step (enrichmentTransaction app observableId op)) (Sys.start rows) es) := by
  have hkept := run_inv (step (enrichmentTransaction app observableId op))
    (fun _ _ _ hI hC hs => enrichmentsKept_step hI hC hs) es _ (enrichmentsKept_start rows) h
  intro entry _
  rw [hkept.list]

end Run

/-- The request is its transaction, undisturbed: both leave the same row. -/
theorem serial_of_invalidate {app : App} {observableId : Uuid} {source : String}
    {caller : Option Analyst} {s s' : Store} {cached cached' : CacheEntries}
    {response : InvalidationResponse}
    (h : invalidateObservableEnrichment app observableId source caller s cached =
      .ok (s', cached', response)) :
    ∃ rows, serial (enrichmentTransaction app observableId
        (fun _ : Unit => .invalidate source caller)) s.observables () = .ok rows ∧
      rows.find? (fun o => o.id = observableId) =
        s'.observables.find? (fun o => o.id = observableId) := by
  obtain ⟨analyst, hanalyst, h⟩ := bind_ok h
  obtain ⟨obs, hobs, h⟩ := bind_ok h
  obtain ⟨⟨⟩, hpermitted, h⟩ := bind_ok h
  cases h
  have hfound := orRaise_ok hobs
  have hid : obs.id = observableId := by simpa using List.find?_some hfound
  have hread : observableForUpdate app observableId caller s.observables = .ok obs := by
    rw [observableForUpdate, bind_of_ok hanalyst, bind_of_ok hobs, bind_of_ok hpermitted]
    rfl
  refine ⟨(invalidateEnrichment source obs).commit s.observables, ?_, ?_⟩
  · simp only [serial, enrichmentTransaction, readForEnrichment, hread, Except.mapError]
    rfl
  · have hrow : ((fun o : Observable => decide (o.id = observableId)) ∘
        fun o => if o.id = observableId then obs.withoutRecords source else o) =
          fun o : Observable => decide (o.id = observableId) := by
      funext o
      simp only [Function.comp_apply]
      split
      · rename_i ho
        rw [ho]
        exact decide_eq_decide.mpr (iff_of_true hid rfl)
      · rfl
    rw [find?_commit, hfound, List.find?_map, hrow, hfound]
    subst hid
    simp only [Option.map_some, if_true]
    exact congrArg some ((if_pos rfl).trans (invalidateEnrichment_apply source obs))

/-! ## A lookup that takes long -/

def analystNote : EnrichmentCreate := ⟨"manual", [], true, none⟩

/-- A task whose lookups find something, and an analyst who adds an entry. -/
def noteDuringLookup : Nat → EnrichmentOp
  | 0 => .enrich (.ok [.obj [("source", .str "virustotal")]])
  | _ => .add analystNote (some administrator)

def newAddress : Observable :=
  ⟨1, .lit "ip", .lit "203.0.113.9", none, .lit "pending", some [], none,
    none⟩

/-- The analyst's request comes between the read of the task and its write. -/
def overtakenLookup : List (Nat × Act) :=
  [(0, .read), (1, .read), (1, .write), (1, .commit), (0, .write), (0, .commit)]

theorem enrichments_kept_one_after_another :
    NoneLost noteDuringLookup 1 [] (run (step (enrichmentTransaction .core 1 noteDuringLookup))
      (Sys.start [newAddress])
      [(0, .read), (0, .write), (0, .commit), (1, .read), (1, .write), (1, .commit)]) := by
  refine @enrichments_kept .core 1 Nat noteDuringLookup _ [newAddress] _ ?_
  refine ⟨?_, ?_, ?_, ?_, ?_, ?_, trivial⟩
  · intro hact
    cases hact
  · intro hact
    cases hact
  · intro _ obs write hphase _
    cases hphase
    rfl
  · intro hact
    cases hact
  · intro hact
    cases hact
  · intro _ obs write hphase _
    cases hphase
    rfl

/-- The task writes the list it read before the analyst's entry was there. -/
theorem note_during_lookup_is_lost :
    ¬ ∀ (op : Nat → EnrichmentOp) (rows : List Observable) (es : List (Nat × Act)),
      NoneLost op 1 (entriesOf rows 1)
        (run (step (enrichmentTransaction .core 1 op)) (Sys.start rows) es) := by
  classical
  intro hclaim
  have hkept := hclaim noteDuringLookup [newAddress] overtakenLookup analystNote.entry
  have hstored : entriesOf (run (step (enrichmentTransaction .core 1 noteDuringLookup))
      (Sys.start [newAddress]) overtakenLookup).store 1 =
        [.obj [("source", .str "virustotal")]] := rfl
  have hsurvivors : survivors noteDuringLookup
      (run (step (enrichmentTransaction .core 1 noteDuringLookup)) (Sys.start [newAddress])
        overtakenLookup).committed (entriesOf [newAddress] 1) =
        [analystNote.entry, .obj [("source", .str "virustotal")]] := rfl
  rw [hstored, hsurvivors] at hkept
  have hcount := hkept List.mem_cons_self
  rw [List.count_cons_self, List.count_eq_zero.mpr] at hcount
  · exact absurd hcount (Nat.succ_ne_zero _).symm
  · simp [analystNote, EnrichmentCreate.entry]

end OpenSoar
