/-
# `OpenSoar.Worker.Enrichment` — observables of an alert, and their enrichment tasks

`worker/enrichment.py`, the part that runs inside an ingest.  For each indicator of the
alert `materialise_observables_for_alert` looks for an observable and adds one where
there is none; `schedule_enrichment_for_alert` enqueues a task for each row added.  Both
work in the session of the ingest, so what a statement of theirs does to the
transaction outlives the exception that is swallowed.

What the statements, Redis, the cache and the broker answer is a parameter
(`EnrichmentEnv`): a statement is answered, refused, or comes to an exception of the
program's own, and a call outside the database returns or raises, with an exception of the
classes that its caller expects or with another one.
-/
import OpenSoar.Lib.Distinct
import OpenSoar.Lib.UnitOfWork
import OpenSoar.Worker.Tasks

namespace OpenSoar

open Python UnitOfWork

/-! ## The indicators -/

/-- `mapping`, from the lists of `extract_iocs` to the types of observables. -/
def observableType : String → Option String
  | "ips" => some "ip"
  | "domains" => some "domain"
  | "hashes" => some "hash"
  | "urls" => some "url"
  | _ => none

/-- The values under one key that are worth an observable. -/
def candidatesUnder (key : String) (values : Json) : List (String × String) :=
  match observableType key, values with
  | some obsType, .arr items =>
      items.filterMap
        (fun item => (item.string?.filter (· ≠ "")).map (fun value => (obsType, value)))
  | _, _ => []

/-- `iter_observable_candidates`: the types and values, each pair once.  `extract_iocs`
stores lists. -/
def iterObservableCandidates (iocs : Option Dict) : List (String × String) :=
  distinctOn id ((iocs.getD []).flatMap (fun entry => candidatesUnder entry.1 entry.2))

/-! ## The session -/

/-- What an ingest works on. -/
structure IngestStore where
  db : Db
  observables : List Observable

/-- An observable as it is constructed, before its columns are checked. -/
structure NewObservable where
  id : Uuid
  type : String
  value : String
  source : String
  alertId : Uuid

/-- The row, when every value fits its column; `enrichment_status` is `pending`. -/
def NewObservable.row (obs : NewObservable) : Except Raised Observable := do
  let type ← column 50 obs.type
  let value ← column 1000 obs.value
  let source ← column 100 obs.source
  pure {
    id := obs.id
    type := type
    value := value
    source := some source
    enrichmentStatus := .lit "pending"
    enrichments := some []
    alertId := some obs.alertId
    incidentId := none }

/-- A write collected by the session: a new row, or `existing.alert_id = alert.id`. -/
inductive ObservableWrite where
  | insert (obs : NewObservable)
  | link (observableId alertId : Uuid)

def ObservableWrite.apply : ObservableWrite → IngestStore → IngestStore
  | .insert obs, store =>
      match obs.row with
      | .ok row => { store with observables := store.observables ++ [row] }
      | .error _ => store
  | .link observableId alertId, store =>
      { store with observables := store.observables.map (fun o =>
          if o.id = observableId then { o with alertId := some alertId } else o) }

/-- The arguments of `enrich_observable`. -/
structure EnrichTask where
  observableId : Uuid
  type : String
  value : String
  partner : Option String

/-- What an ingest publishes. -/
inductive Message where
  | playbooks (task : Task)
  | enrich (task : EnrichTask)

def transactionRefused : Raised :=
  .refusedByDatabase ("current transaction is aborted, commands ignored until end of " ++
    "transaction block")

/-- The writes of the session, and the exception of a refused statement. -/
def observableWrites : Writes Raised IngestStore ObservableWrite where
  accepts
    | .insert obs => obs.row.isOk
    | .link _ _ => true
  apply := ObservableWrite.apply
  refusal := transactionRefused

/-- A computation in the session of an ingest. -/
abbrev IngestWork (α : Type) := Work Raised IngestStore ObservableWrite Message α

/-! ## What the world answers -/

/-- A call outside the database: it returns, or raises an exception of the classes that
the caller catches, or another one. -/
inductive Reply (α : Type) where
  | value (a : α)
  | expected
  | unexpected (e : Raised)

/-- One call of `enqueue_enrichment`: the query of the configured sources and its rows,
the cache and its entries, `record_enrichment_cache_skip`, the in-flight slot, the
broker, `_clear_inflight`. -/
structure EnqueueEnv where
  sourcesFate : Fate Raised
  sources : List String
  cache : Reply Unit
  cached : String → Reply Bool
  skipMetric : Reply Unit
  markInflight : Except Raised Bool
  delay : Reply Unit
  clearInflight : Except Raised Unit

/-- What an enrichment meets, by the candidate it is about. -/
structure EnrichmentEnv where
  lookup : String × String → Fate Raised
  observableId : String × String → Uuid
  flush : Fate Raised
  enqueue : String × String → EnqueueEnv

/-! ## `materialise_observables_for_alert` -/

/-- `select(Observable).where(type, value)`. -/
def matching (observables : List Observable) (candidate : String × String) : List Observable :=
  observables.filter (fun o => o.type.val = candidate.1 ∧ o.value.val = candidate.2)

/-- `Observable(...)` for a candidate of an alert. -/
def newObservable (env : EnrichmentEnv) (alert : Alert) (candidate : String × String) :
    NewObservable where
  id := env.observableId candidate
  type := candidate.1
  value := candidate.2
  source := "alert:" ++ alert.source.val
  alertId := alert.id

/-- What follows the lookup of a candidate: a new row, a link of the one row found, or
`scalar_one_or_none` raising; `newRows` are the rows added so far. -/
def addOrLink (env : EnrichmentEnv) (alert : Alert) (candidate : String × String)
    (newRows : List NewObservable) : List Observable → IngestWork (List NewObservable)
  | [] => do
      Work.add (.insert (newObservable env alert candidate))
      pure (newRows ++ [newObservable env alert candidate])
  | [existing] => do
      if existing.alertId.isNone then
        Work.add (.link existing.id alert.id)
      pure newRows
  | _ => Work.raise .multipleResultsFound

/-- One turn of the loop. -/
def materialiseOne (env : EnrichmentEnv) (alert : Alert) (candidate : String × String)
    (newRows : List NewObservable) : IngestWork (List NewObservable) := do
  let found ← Work.statement observableWrites (env.lookup candidate)
    (fun store => matching store.observables candidate)
  addOrLink env alert candidate newRows found

/-- The loop over the candidates. -/
def materialiseFrom (env : EnrichmentEnv) (alert : Alert) :
    List (String × String) → List NewObservable → IngestWork (List NewObservable)
  | [], newRows => pure newRows
  | candidate :: rest, newRows => do
      let newRows' ← materialiseOne env alert candidate newRows
      materialiseFrom env alert rest newRows'

/-- `if new_rows: await session.flush()`. -/
def flushNewRows (env : EnrichmentEnv) (newRows : List NewObservable) :
    IngestWork (List NewObservable) := do
  if !newRows.isEmpty then
    Work.statement observableWrites env.flush (fun _ => ())
  pure newRows

/-- `materialise_observables_for_alert`. -/
def materialiseObservablesForAlert (env : EnrichmentEnv) (alert : Alert) :
    IngestWork (List NewObservable) := do
  let newRows ← materialiseFrom env alert (iterObservableCandidates alert.iocs) []
  flushNewRows env newRows

/-! ## `schedule_enrichment_for_alert` -/

/-- `except SQLAlchemyError`. -/
def Raised.isSqlAlchemyError : Raised → Bool
  | .multipleResultsFound => true
  | .refusedByDatabase _ => true
  | _ => false

/-- The cache lookups of `should_enrich`: a source without a fresh entry, or one whose
entry cannot be read, has the observable enriched. -/
def anyStale (cached : String → Reply Bool) : List String → IngestWork Bool
  | [] => pure false
  | source :: sources =>
      match cached source with
      | .value true => anyStale cached sources
      | .value false => pure true
      | .expected => pure true
      | .unexpected e => Work.raise e

/-- `_configured_sources_for` inside the `try` of `should_enrich`: a refusal is caught. -/
def configuredSources (env : EnqueueEnv) : IngestWork (Option (List String)) :=
  Work.recover
    (do let sources ← Work.statement observableWrites env.sourcesFate (fun _ => env.sources)
        pure (some sources))
    (fun e => if e.isSqlAlchemyError then pure none else Work.raise e)

/-- The rest of `should_enrich`, from the sources or from the query that failed. -/
def consultCache (env : EnqueueEnv) : Option (List String) → IngestWork Bool
  | none => pure true
  | some [] => pure true
  | some (source :: sources) =>
      match env.cache with
      | .value _ => anyStale env.cached (source :: sources)
      | .expected => pure true
      | .unexpected e => Work.raise e

/-- `should_enrich`. -/
def shouldEnrich (env : EnqueueEnv) : IngestWork Bool := do
  let sources ← configuredSources env
  consultCache env sources

/-- `enrich_observable_task.delay(...)`. -/
def delayEnrichment (env : EnqueueEnv) (obs : NewObservable) (partner : Option String) :
    IngestWork Bool :=
  match env.delay with
  | .value _ => do
      Work.publish (.enrich ⟨obs.id, obs.type, obs.value, partner⟩)
      pure true
  | .expected => do
      Work.lift env.clearInflight
      pure false
  | .unexpected e => Work.raise e

/-- What `enqueue_enrichment` does with the answer of `should_enrich`. -/
def enqueueIfWanted (env : EnqueueEnv) (obs : NewObservable) (partner : Option String)
    (wanted : Bool) : IngestWork Bool :=
  if wanted then do
    let claimed ← Work.lift env.markInflight
    if claimed then delayEnrichment env obs partner else pure false
  else
    match env.skipMetric with
    | .unexpected e => Work.raise e
    | _ => pure false

/-- `enqueue_enrichment`. -/
def enqueueEnrichment (env : EnqueueEnv) (obs : NewObservable) (partner : Option String) :
    IngestWork Bool := do
  let wanted ← shouldEnrich env
  enqueueIfWanted env obs partner wanted

/-- `schedule_enrichment_for_alert`. -/
def scheduleEnrichmentForAlert (env : EnrichmentEnv) (alert : Alert) :
    List NewObservable → IngestWork Unit
  | [] => pure ()
  | obs :: rest => do
      let _ ← Work.recover
        (enqueueEnrichment (env.enqueue (obs.type, obs.value)) obs (alert.partner.map (·.val)))
        (fun _ => pure false)
      scheduleEnrichmentForAlert env alert rest

/-- `_auto_enrich`. -/
def autoEnrich (env : EnrichmentEnv) (alert : Alert) : IngestWork Unit :=
  Work.recover
    (do let newRows ← materialiseObservablesForAlert env alert
        scheduleEnrichmentForAlert env alert newRows)
    (fun _ => pure ())

/-! ## The candidates -/

theorem candidatesUnder_type {key : String} {values : Json} {c : String × String}
    (h : c ∈ candidatesUnder key values) : c.1 ∈ ["ip", "domain", "hash", "url"] := by
  unfold candidatesUnder at h
  split at h
  · rename_i obsType items hkey
    obtain ⟨item, -, hitem⟩ := List.mem_filterMap.mp h
    obtain ⟨value, -, rfl⟩ := Option.map_eq_some_iff.mp hitem
    unfold observableType at hkey
    split at hkey <;> cases hkey <;> simp
  · cases h

theorem iterObservableCandidates_type {iocs : Option Dict} {c : String × String}
    (h : c ∈ iterObservableCandidates iocs) : c.1 ∈ ["ip", "domain", "hash", "url"] := by
  obtain ⟨entry, -, hentry⟩ := List.mem_flatMap.mp (mem_of_mem_distinctOn id h)
  exact candidatesUnder_type hentry

theorem iterObservableCandidates_nodup (iocs : Option Dict) :
    (iterObservableCandidates iocs).Nodup := by
  have h := nodup_distinctOn id ((iocs.getD []).flatMap (fun e => candidatesUnder e.1 e.2))
  rwa [List.map_id] at h

/-! ## Which statements an enrichment comes to -/

section Course

variable (env : EnrichmentEnv) (observables : List Observable)

/-- No observable has the candidate's type and value. -/
def IsNew (c : String × String) : Prop := matching observables c = []

instance (c : String × String) : Decidable (IsNew observables c) :=
  decidable_of_iff (matching observables c).isEmpty List.isEmpty_iff

/-- The loop gets past the candidate: its lookup is answered, by one row at most. -/
def Passes (c : String × String) : Prop :=
  env.lookup c = .answered ∧ (matching observables c).length ≤ 1

/-- The loop comes to the candidate: it gets past all those before it. -/
def Visited (candidates : List (String × String)) (c : String × String) : Prop :=
  ∃ before after, candidates = before ++ c :: after ∧ ∀ b ∈ before, Passes env observables b

/-- No statement that the enrichment comes to is refused: no lookup, no value that is
added, not the flush of the new rows, no query of the sources. -/
structure NothingRefused (candidates : List (String × String)) : Prop where
  lookups : ∀ c, Visited env observables candidates c → env.lookup c ≠ .refused
  values : ∀ c, Visited env observables candidates c → Passes env observables c →
    IsNew observables c → c.2.length ≤ 1000
  flush : (∀ c ∈ candidates, Passes env observables c) → (∃ c ∈ candidates, IsNew observables c) →
    env.flush ≠ .refused
  sources : (∀ c ∈ candidates, Passes env observables c) → env.flush = .answered →
    ∀ c ∈ candidates, IsNew observables c → (env.enqueue c).sourcesFate ≠ .refused

end Course

variable {env : EnrichmentEnv} {observables : List Observable}

theorem visited_cons {c x : String × String} {rest : List (String × String)} :
    Visited env observables (c :: rest) x ↔
      x = c ∨ (Passes env observables c ∧ Visited env observables rest x) := by
  constructor
  · rintro ⟨before, after, hsplit, hbefore⟩
    cases before with
    | nil =>
        cases hsplit
        exact Or.inl rfl
    | cons b before =>
        cases hsplit
        exact Or.inr ⟨hbefore c List.mem_cons_self, before, after, rfl,
          fun b hb => hbefore b (List.mem_cons_of_mem c hb)⟩
  · rintro (rfl | ⟨hpasses, before, after, rfl, hbefore⟩)
    · exact ⟨[], rest, rfl, by simp⟩
    · refine ⟨c :: before, after, rfl, ?_⟩
      intro b hb
      rcases List.mem_cons.mp hb with rfl | hb
      · exact hpasses
      · exact hbefore b hb

/-! ## The loop -/

/-- The session an ingest works in. -/
abbrev IngestSession := Session IngestStore ObservableWrite Message

theorem column_isOk {n : Nat} {s : String} : (column n s).isOk = true ↔ s.length ≤ n := by
  unfold column
  split
  · rename_i h
    simp [Except.isOk, Except.toBool, h]
  · rename_i h
    simp [Except.isOk, Except.toBool, h]

/-- A new observable is accepted exactly when its value fits. -/
theorem accepts_insert {alert : Alert} {c : String × String}
    (htype : c.1 ∈ ["ip", "domain", "hash", "url"]) :
    observableWrites.accepts (.insert (newObservable env alert c)) = true ↔
      c.2.length ≤ 1000 := by
  have htypes : c.1.length ≤ 50 := by
    simp only [List.mem_cons, List.not_mem_nil, or_false] at htype
    rcases htype with h | h | h | h <;> rw [h] <;> decide
  have hsource : ("alert:" ++ alert.source.val).length ≤ 100 := by
    have hlength := alert.source.fits
    rw [String.length_append]
    have hword : "alert:".length = 6 := by decide
    omega
  have hrow : (newObservable env alert c).row.isOk = (column 1000 c.2).isOk := by
    simp only [NewObservable.row, newObservable, column_ok htypes, column_ok hsource]
    cases column 1000 c.2 <;> rfl
  rw [← column_isOk, ← hrow]
  rfl

theorem NewObservable.row_ok {obs : NewObservable} {row : Observable} (h : obs.row = .ok row) :
    row.id = obs.id ∧ row.type.val = obs.type ∧ row.value.val = obs.value := by
  unfold NewObservable.row at h
  obtain ⟨type, htype, h⟩ := bind_ok h
  obtain ⟨value, hvalue, h⟩ := bind_ok h
  obtain ⟨source, -, h⟩ := bind_ok h
  cases h
  exact ⟨rfl, column_val htype, column_val hvalue⟩

/-- A link leaves every lookup as long as it was. -/
theorem length_matching_link (store : IngestStore) (observableId alertId : Uuid)
    (c : String × String) :
    (matching ((ObservableWrite.link observableId alertId).apply store).observables c).length =
      (matching store.observables c).length := by
  simp only [ObservableWrite.apply, matching, List.filter_map, List.length_map]
  congr 2
  funext o
  simp only [Function.comp]
  split <;> rfl

/-- A new row is found under its own type and value only. -/
theorem matching_insert {alert : Alert} (store : IngestStore) {c c' : String × String}
    (h : c' ≠ c) :
    matching ((ObservableWrite.insert (newObservable env alert c)).apply store).observables c' =
      matching store.observables c' := by
  simp only [ObservableWrite.apply]
  split
  · rename_i row hrow
    obtain ⟨-, htype, hvalue⟩ := NewObservable.row_ok hrow
    have hother : ¬ (row.type.val = c'.1 ∧ row.value.val = c'.2) := by
      rintro ⟨h1, h2⟩
      exact h (Prod.ext (h1.symm.trans htype) (h2.symm.trans hvalue))
    simp only [matching, List.filter_append]
    rw [List.filter_cons_of_neg (by simpa using hother), List.filter_nil, List.append_nil]
  · rfl

/-- What an enrichment does to a session: it keeps the alerts, loses no observable,
publishes enrichment tasks only and commits nothing, and a doomed session stays so. -/
structure Enriching (s s' : IngestSession) : Prop where
  doomed : Doomed observableWrites s → Doomed observableWrites s'
  db : s'.store.db = s.store.db
  published : ∃ tasks : List EnrichTask,
    s'.effects = s.effects ++ tasks.map (fun task => .published (.enrich task))

instance : IsPreorder IngestSession Enriching where
  refl s := ⟨id, rfl, [], (List.append_nil _).symm⟩
  trans s t u := by
    rintro ⟨hdoom, hdb, tasks, htasks⟩ ⟨hdoom', hdb', tasks', htasks'⟩
    refine ⟨hdoom' ∘ hdoom, hdb'.trans hdb, tasks ++ tasks', ?_⟩
    rw [htasks', htasks, List.append_assoc, List.map_append]

theorem apply_db (write : ObservableWrite) (store : IngestStore) :
    (write.apply store).db = store.db := by
  cases write with
  | insert obs => simp only [ObservableWrite.apply]; split <;> rfl
  | link _ _ => rfl

theorem enriching_flushed (s : IngestSession) (h : ¬ Doomed observableWrites s) :
    Enriching s (s.flushed observableWrites) := by
  refine ⟨fun hd => absurd hd h, ?_, [], (List.append_nil _).symm⟩
  have hfold : ∀ (writes : List ObservableWrite) (store : IngestStore),
      (writes.foldl (fun store write => observableWrites.apply write store) store).db =
        store.db := by
    intro writes
    induction writes with
    | nil => exact fun _ => rfl
    | cons write writes ih => exact fun store => (ih _).trans (apply_db write store)
  exact hfold s.pending s.store

theorem enriching_refused (s : IngestSession) : Enriching s { s with refused := true } :=
  ⟨fun _ => Or.inl rfl, rfl, [], (List.append_nil _).symm⟩

theorem within_enriching {α : Type} (fate : Fate Raised) (read : IngestStore → α) :
    Work.Within Enriching (Work.statement observableWrites fate read : IngestWork α) :=
  within_statement enriching_flushed enriching_refused fate read

theorem enriching_add (write : ObservableWrite) :
    Work.Within Enriching (Work.add write : IngestWork Unit) := by
  intro s
  exact ⟨fun h => doomed_add.mpr (Or.inl h), rfl, [], (List.append_nil _).symm⟩

/-- The loop does nothing but query and add. -/
theorem within_materialiseFrom {R : IngestSession → IngestSession → Prop}
    [IsPreorder IngestSession R]
    (hstatement : ∀ (fate : Fate Raised) (read : IngestStore → List Observable),
      Work.Within R (Work.statement observableWrites fate read : IngestWork (List Observable)))
    (hadd : ∀ write, Work.Within R (Work.add write : IngestWork Unit))
    (env : EnrichmentEnv) (alert : Alert) (candidates : List (String × String))
    (newRows : List NewObservable) :
    Work.Within R (materialiseFrom env alert candidates newRows) := by
  induction candidates generalizing newRows with
  | nil => exact within_ret newRows
  | cons c rest ih =>
      refine within_andThen (within_andThen (hstatement _ _) ?_) (fun _ => ih _)
      intro found
      match found with
      | [] => exact within_andThen (hadd _) (fun _ => within_ret _)
      | [existing] =>
          simp only [addOrLink]
          split
          · exact within_andThen (hadd _) (fun _ => within_ret _)
          · exact within_ret _
      | _ :: _ :: _ => exact within_raise _

theorem materialiseFrom_within (env : EnrichmentEnv) (alert : Alert)
    (candidates : List (String × String)) (newRows : List NewObservable) :
    Work.Within Enriching (materialiseFrom env alert candidates newRows) :=
  within_materialiseFrom within_enriching enriching_add env alert candidates newRows

/-- The enrichment comes to a refusal at the candidate: of its lookup, or of the row that
is added for it. -/
def Spoils (env : EnrichmentEnv) (observables : List Observable) (c : String × String) : Prop :=
  env.lookup c = .refused ∨
    (Passes env observables c ∧ IsNew observables c ∧ 1000 < c.2.length)

/-- The lookups of a session, once it has sent its writes, find as many rows as `observables`
holds. -/
def Sees (observables : List Observable) (s : IngestSession) (c : String × String) : Prop :=
  (matching (s.flushed observableWrites).store.observables c).length =
    (matching observables c).length

/-- How a turn of the loop ends in a session that was not doomed. -/
inductive TurnEnds (env : EnrichmentEnv) (observables : List Observable) (alert : Alert)
    (s : IngestSession) (c : String × String) (newRows : List NewObservable) :
    Except Raised (List NewObservable) × IngestSession → Prop
  | passed (s' : IngestSession) : Passes env observables c →
      (Doomed observableWrites s' ↔ Spoils env observables c) →
      (∀ c', c' ≠ c → Sees observables s c' → Sees observables s' c') →
      TurnEnds env observables alert s c newRows
        (.ok (newRows ++ if IsNew observables c then [newObservable env alert c] else []), s')
  | stopped (e : Raised) (s' : IngestSession) : ¬ Passes env observables c →
      (Doomed observableWrites s' ↔ env.lookup c = .refused) →
      TurnEnds env observables alert s c newRows (.error e, s')

/-- The turn of a candidate whose lookup has answered with the rows `found`. -/
theorem addOrLink_ends (env : EnrichmentEnv) (alert : Alert) {c : String × String}
    (htype : c.1 ∈ ["ip", "domain", "hash", "url"]) (newRows : List NewObservable)
    (s : IngestSession) (hs : ¬ Doomed observableWrites s) (hlookup : env.lookup c = .answered)
    {found : List Observable} (hfound : found.length = (matching observables c).length) :
    TurnEnds env observables alert s c newRows
      (addOrLink env alert c newRows found (s.flushed observableWrites)) := by
  have hflushed := not_doomed_flushed hs
  have hnotRefused : env.lookup c ≠ .refused := by rw [hlookup]; simp
  match found with
  | [] =>
      have hnew : IsNew observables c := List.length_eq_zero_iff.mp hfound.symm
      have hpasses : Passes env observables c := ⟨hlookup, by rw [← hfound]; simp⟩
      have hend : addOrLink env alert c newRows [] (s.flushed observableWrites) =
          (.ok (newRows ++ if IsNew observables c then [newObservable env alert c] else []),
            { s.flushed observableWrites with
              pending := [ObservableWrite.insert (newObservable env alert c)] }) := by
        rw [if_pos hnew]
        rfl
      rw [hend]
      refine .passed _ hpasses ?_ ?_
      · show Doomed observableWrites (Work.add (ε := Raised)
            (.insert (newObservable env alert c)) (s.flushed observableWrites)).2 ↔ _
        rw [doomed_add, ← Bool.not_eq_true, accepts_insert htype, not_le]
        constructor
        · rintro (h | h)
          · exact absurd h hflushed
          · exact Or.inr ⟨hpasses, hnew, h⟩
        · rintro (h | ⟨-, -, h⟩)
          · exact absurd h hnotRefused
          · exact Or.inr h
      · intro c' hne hsees'
        unfold Sees at hsees' ⊢
        rw [← hsees']
        exact congrArg List.length (matching_insert _ hne)
  | [existing] =>
      have hold : ¬ IsNew observables c := by
        intro hnew
        rw [hnew] at hfound
        cases hfound
      have hpasses : Passes env observables c := ⟨hlookup, by rw [← hfound]; simp⟩
      have hunspoilt : ¬ Spoils env observables c := by
        rintro (h | ⟨-, hnew, -⟩)
        · exact hnotRefused h
        · exact hold hnew
      cases hlinked : existing.alertId.isNone with
      | true =>
          have hend : addOrLink env alert c newRows [existing] (s.flushed observableWrites) =
              (.ok (newRows ++ if IsNew observables c then [newObservable env alert c] else []),
                { s.flushed observableWrites with
                  pending := [ObservableWrite.link existing.id alert.id] }) := by
            rw [if_neg hold, List.append_nil]
            simp only [addOrLink, hlinked, if_true]
            rfl
          rw [hend]
          refine .passed _ hpasses (iff_of_false ?_ hunspoilt) ?_
          · show ¬ Doomed observableWrites (Work.add (ε := Raised)
              (.link existing.id alert.id) (s.flushed observableWrites)).2
            rw [doomed_add]
            rintro (h | h)
            · exact hflushed h
            · cases h
          · intro c' _ hsees'
            unfold Sees at hsees' ⊢
            rw [← hsees']
            exact length_matching_link _ _ _ c'
      | false =>
          have hend : addOrLink env alert c newRows [existing] (s.flushed observableWrites) =
              (.ok (newRows ++ if IsNew observables c then [newObservable env alert c] else []),
                s.flushed observableWrites) := by
            rw [if_neg hold, List.append_nil]
            simp only [addOrLink, hlinked]
            rfl
          rw [hend]
          exact .passed _ hpasses (iff_of_false hflushed hunspoilt) (fun _ _ hsees' => hsees')
  | existing :: another :: more =>
      have hno : ¬ Passes env observables c := by
        rintro ⟨-, hone⟩
        rw [← hfound] at hone
        simp at hone
      exact .stopped _ _ hno (iff_of_false hflushed hnotRefused)

/-- A turn of the loop, by the fate of its lookup. -/
theorem materialiseOne_ends (env : EnrichmentEnv) (alert : Alert) {c : String × String}
    (htype : c.1 ∈ ["ip", "domain", "hash", "url"]) (newRows : List NewObservable)
    (s : IngestSession) (hs : ¬ Doomed observableWrites s) (hsees : Sees observables s c) :
    TurnEnds env observables alert s c newRows (materialiseOne env alert c newRows s) := by
  have hflushed := not_doomed_flushed hs
  have hno : env.lookup c ≠ .answered → ¬ Passes env observables c := fun h hpasses => h hpasses.1
  cases hlookup : env.lookup c with
  | raisesBefore e =>
      have hstep : materialiseOne env alert c newRows s = (.error e, s) := by
        simp only [materialiseOne, hlookup, Work.statement, Work.bind_def]
        exact Work.andThen_error rfl
      rw [hstep]
      exact .stopped e s (hno (by rw [hlookup]; simp)) (iff_of_false hs (by rw [hlookup]; simp))
  | refused =>
      have hstep : materialiseOne env alert c newRows s =
          (.error transactionRefused, { s.flushed observableWrites with refused := true }) := by
        simp only [materialiseOne, hlookup, Work.statement, Work.bind_def]
        exact Work.andThen_error (refuse_eq hs)
      rw [hstep]
      exact .stopped _ _ (hno (by rw [hlookup]; simp))
        (iff_of_true (doomed_of_refused _) hlookup)
  | raisesAfter e =>
      have hstep : materialiseOne env alert c newRows s =
          (.error e, s.flushed observableWrites) := by
        simp only [materialiseOne, hlookup, Work.statement, Work.bind_def]
        exact Work.andThen_error (Work.andThen_ok (query_ok hs))
      rw [hstep]
      exact .stopped e _ (hno (by rw [hlookup]; simp))
        (iff_of_false hflushed (by rw [hlookup]; simp))
  | answered =>
      have hstep : materialiseOne env alert c newRows s = addOrLink env alert c newRows
          (matching (s.flushed observableWrites).store.observables c)
          (s.flushed observableWrites) := by
        simp only [materialiseOne, hlookup, Work.statement, Work.bind_def]
        exact Work.andThen_ok (query_ok hs)
      rw [hstep]
      exact addOrLink_ends env alert htype newRows s hs hlookup hsees

/-- How the loop ends: doomed by a candidate it came to, with a row for each new candidate,
or with an exception at one it did not get past. -/
structure LoopEnds (env : EnrichmentEnv) (observables : List Observable) (alert : Alert)
    (candidates : List (String × String)) (newRows : List NewObservable)
    (out : Except Raised (List NewObservable) × IngestSession) : Prop where
  doomed : Doomed observableWrites out.2 ↔
    ∃ c, Visited env observables candidates c ∧ Spoils env observables c
  passed : ¬ Doomed observableWrites out.2 → (∀ c ∈ candidates, Passes env observables c) →
    out.1 = .ok (newRows ++
      (candidates.filter (fun c => IsNew observables c)).map (newObservable env alert))
  stopped : ¬ Doomed observableWrites out.2 →
    ¬ (∀ c ∈ candidates, Passes env observables c) → ∃ e, out.1 = .error e

/-- **The loop over the candidates.**  It starts in a session that is not doomed and sees,
for the candidates it still has, as many rows as there were at the beginning. -/
theorem materialiseFrom_ends (env : EnrichmentEnv)
    (alert : Alert) {candidates : List (String × String)}
    (hnodup : candidates.Nodup) (htypes : ∀ c ∈ candidates, c.1 ∈ ["ip", "domain", "hash", "url"])
    (newRows : List NewObservable) (s : IngestSession) (hs : ¬ Doomed observableWrites s)
    (hsees : ∀ c ∈ candidates, Sees observables s c) :
    LoopEnds env observables alert candidates newRows
      (materialiseFrom env alert candidates newRows s) := by
  induction candidates generalizing newRows s with
  | nil =>
      refine ⟨iff_of_false hs ?_, ?_, ?_⟩
      · rintro ⟨c, ⟨before, after, hsplit, -⟩, -⟩
        cases before <;> cases hsplit
      · intro _ _
        exact congrArg Except.ok (List.append_nil newRows).symm
      · intro _ hall
        exact absurd (fun c hc => nomatch hc) hall
  | cons c rest ih =>
      obtain ⟨hfresh, hrestnodup⟩ := List.nodup_cons.mp hnodup
      have hturn := materialiseOne_ends env alert (htypes c List.mem_cons_self) newRows s hs
        (hsees c List.mem_cons_self)
      generalize hout : materialiseOne env alert c newRows s = turn at hturn
      cases hturn with
      | stopped e s' hno hdoomed =>
          have hstep : materialiseFrom env alert (c :: rest) newRows s = (.error e, s') :=
            Work.andThen_error hout
          rw [hstep]
          refine ⟨hdoomed.trans ⟨?_, ?_⟩, ?_, fun _ _ => ⟨e, rfl⟩⟩
          · intro hrefused
            exact ⟨c, visited_cons.mpr (Or.inl rfl), Or.inl hrefused⟩
          · rintro ⟨x, hvisited, hspoils⟩
            rcases visited_cons.mp hvisited with rfl | ⟨hpasses, -⟩
            · exact hspoils.resolve_right (fun h => hno h.1)
            · exact absurd hpasses hno
          · intro _ hall
            exact absurd (hall c List.mem_cons_self) hno
      | passed s' hpasses hdoomed hothers =>
          obtain ⟨newRows', hrows⟩ : ∃ rows, rows = newRows ++
              if IsNew observables c then [newObservable env alert c] else [] := ⟨_, rfl⟩
          rw [← hrows] at hout
          have hstep : materialiseFrom env alert (c :: rest) newRows s =
              materialiseFrom env alert rest newRows' s' := Work.andThen_ok hout
          rw [hstep]
          by_cases hspoils : Spoils env observables c
          · have hbad := (materialiseFrom_within env alert rest newRows' s').doomed
              (hdoomed.mpr hspoils)
            exact ⟨iff_of_true hbad ⟨c, visited_cons.mpr (Or.inl rfl), hspoils⟩,
              fun h => absurd hbad h, fun h => absurd hbad h⟩
          · have hrest := ih hrestnodup (fun x hx => htypes x (List.mem_cons_of_mem c hx))
              newRows' s' (fun h => hspoils (hdoomed.mp h)) (fun x hx => hothers x
                (fun h => hfresh (h ▸ hx)) (hsees x (List.mem_cons_of_mem c hx)))
            refine ⟨hrest.doomed.trans ⟨?_, ?_⟩, ?_, ?_⟩
            · rintro ⟨x, hvisited, hx⟩
              exact ⟨x, visited_cons.mpr (Or.inr ⟨hpasses, hvisited⟩), hx⟩
            · rintro ⟨x, hvisited, hx⟩
              rcases visited_cons.mp hvisited with rfl | ⟨-, hvisited⟩
              · exact absurd hx hspoils
              · exact ⟨x, hvisited, hx⟩
            · intro hgood hall
              rw [hrest.passed hgood (fun x hx => hall x (List.mem_cons_of_mem c hx)), hrows]
              by_cases hnew : IsNew observables c <;> simp [hnew]
            · intro hgood hall
              refine hrest.stopped hgood (fun hothers' => hall ?_)
              intro x hx
              rcases List.mem_cons.mp hx with rfl | hx
              · exact hpasses
              · exact hothers' x hx

/-! ## The enqueueing -/

section Within

variable {R : IngestSession → IngestSession → Prop} [IsPreorder IngestSession R]

theorem within_lift {α : Type} (result : Except Raised α) :
    Work.Within R (Work.lift result : IngestWork α) := by
  cases result with
  | ok a => exact within_ret a
  | error e => exact within_raise e

/-- The cache touches no session. -/
theorem consultCache_within (enqueue : EnqueueEnv) (sources : Option (List String)) :
    Work.Within R (consultCache enqueue sources) := by
  have hstale : ∀ sources, Work.Within R (anyStale enqueue.cached sources) := by
    intro sources
    induction sources with
    | nil => exact within_ret false
    | cons source sources ih =>
        unfold anyStale
        split
        · exact ih
        · exact within_ret true
        · exact within_ret true
        · exact within_raise _
  match sources with
  | none => exact within_ret true
  | some [] => exact within_ret true
  | some (source :: rest) =>
      simp only [consultCache]
      split
      · exact hstale _
      · exact within_ret true
      · exact within_raise _

/-- Neither do the in-flight slot and the broker, the task published apart. -/
theorem enqueueIfWanted_within
    (hpublish : ∀ task, Work.Within R (Work.publish (.enrich task) : IngestWork Unit))
    (enqueue : EnqueueEnv) (obs : NewObservable) (partner : Option String) (wanted : Bool) :
    Work.Within R (enqueueIfWanted enqueue obs partner wanted) := by
  unfold enqueueIfWanted
  split
  · refine within_andThen (within_lift _) ?_
    intro claimed
    split
    · unfold delayEnrichment
      split
      · exact within_andThen (hpublish _) (fun _ => within_ret true)
      · exact within_andThen (within_lift _) (fun _ => within_ret false)
      · exact within_raise _
    · exact within_ret false
  · split
    · exact within_raise _
    · exact within_ret false

end Within

/-- What `enqueue_enrichment` does to a transaction is what its query of the sources does:
the refusal is caught, and stays. -/
theorem doomed_enqueueEnrichment {enqueue : EnqueueEnv} (obs : NewObservable)
    (partner : Option String) {s : IngestSession} :
    Doomed observableWrites (enqueueEnrichment enqueue obs partner s).2 ↔
      Doomed observableWrites s ∨ enqueue.sourcesFate = .refused := by
  have hcaught : ∀ e : Raised, Work.Quiet observableWrites
      (if e.isSqlAlchemyError then pure none else Work.raise e :
        IngestWork (Option (List String))) := by
    intro e
    split
    · exact within_ret none
    · exact within_raise e
  have hpublish : ∀ task, Work.Quiet observableWrites
      (Work.publish (.enrich task) : IngestWork Unit) := fun task => quiet_publish _
  calc Doomed observableWrites (enqueueEnrichment enqueue obs partner s).2
      ↔ Doomed observableWrites (shouldEnrich enqueue s).2 :=
        doomed_andThen (fun wanted => enqueueIfWanted_within hpublish enqueue obs partner wanted)
    _ ↔ Doomed observableWrites (configuredSources enqueue s).2 :=
        doomed_andThen (fun sources => consultCache_within enqueue sources)
    _ ↔ Doomed observableWrites (Work.statement observableWrites enqueue.sourcesFate
          (fun _ => enqueue.sources) s : Except Raised (List String) × IngestSession).2 :=
        (doomed_recover hcaught).trans (doomed_andThen (fun _ => within_ret _))
    _ ↔ _ := doomed_statement

/-- `except Exception` around each row: the loop always comes to its end. -/
theorem doomed_schedule (env : EnrichmentEnv) (alert : Alert) (rows : List NewObservable)
    (s : IngestSession) :
    Doomed observableWrites (scheduleEnrichmentForAlert env alert rows s).2 ↔
      Doomed observableWrites s ∨
        ∃ obs ∈ rows, (env.enqueue (obs.type, obs.value)).sourcesFate = .refused := by
  induction rows generalizing s with
  | nil =>
      show Doomed observableWrites s ↔ _
      simp
  | cons obs rest ih =>
      obtain ⟨b, s', hone⟩ : ∃ b s', Work.recover
          (enqueueEnrichment (env.enqueue (obs.type, obs.value)) obs (alert.partner.map (·.val)))
          (fun _ => pure false) s = (.ok b, s') := by
        unfold Work.recover
        split
        · exact ⟨_, _, rfl⟩
        · exact ⟨_, _, rfl⟩
      have hs' : Doomed observableWrites s' ↔ Doomed observableWrites s ∨
          (env.enqueue (obs.type, obs.value)).sourcesFate = .refused := by
        rw [← doomed_enqueueEnrichment obs (alert.partner.map (·.val)),
          ← doomed_recover (fun _ => within_ret false)]
        exact iff_of_eq (congrArg (fun out => Doomed observableWrites out.2) hone).symm
      have hstep : scheduleEnrichmentForAlert env alert (obs :: rest) s =
          scheduleEnrichmentForAlert env alert rest s' := Work.andThen_ok hone
      rw [hstep, ih s', hs', or_assoc]
      simp only [List.mem_cons, exists_eq_or_imp]

/-! ## The enrichment of one alert -/

/-- `enqueue_enrichment` does nothing but query and publish. -/
theorem within_enqueueEnrichment {R : IngestSession → IngestSession → Prop}
    [IsPreorder IngestSession R]
    (hstatement : ∀ (fate : Fate Raised) (read : IngestStore → List String),
      Work.Within R (Work.statement observableWrites fate read : IngestWork (List String)))
    (hpublish : ∀ task, Work.Within R (Work.publish (.enrich task) : IngestWork Unit))
    (enqueue : EnqueueEnv) (obs : NewObservable) (partner : Option String) :
    Work.Within R (enqueueEnrichment enqueue obs partner) := by
  refine within_andThen (within_andThen (within_recover ?_ ?_)
    (fun sources => consultCache_within enqueue sources))
    (fun wanted => enqueueIfWanted_within hpublish enqueue obs partner wanted)
  · exact within_andThen (hstatement _ _) (fun _ => within_ret _)
  · intro e
    split
    · exact within_ret none
    · exact within_raise e

theorem within_schedule {R : IngestSession → IngestSession → Prop} [IsPreorder IngestSession R]
    (hstatement : ∀ (fate : Fate Raised) (read : IngestStore → List String),
      Work.Within R (Work.statement observableWrites fate read : IngestWork (List String)))
    (hpublish : ∀ task, Work.Within R (Work.publish (.enrich task) : IngestWork Unit))
    (env : EnrichmentEnv) (alert : Alert) (rows : List NewObservable) :
    Work.Within R (scheduleEnrichmentForAlert env alert rows) := by
  induction rows with
  | nil => exact within_ret ()
  | cons obs rest ih =>
      exact within_andThen (within_recover (within_enqueueEnrichment hstatement hpublish _ _ _)
        (fun _ => within_ret false)) (fun _ => ih)

theorem schedule_within (env : EnrichmentEnv) (alert : Alert) (rows : List NewObservable) :
    Work.Within Enriching (scheduleEnrichmentForAlert env alert rows) :=
  within_schedule within_enriching (fun task _ => ⟨id, rfl, [task], rfl⟩) env alert rows

theorem flushNewRows_within (env : EnrichmentEnv) (newRows : List NewObservable) :
    Work.Within Enriching (flushNewRows env newRows) := by
  cases newRows with
  | nil => exact within_ret []
  | cons obs rest => exact within_andThen (within_enriching _ _) (fun _ => within_ret _)

theorem autoEnrich_within (env : EnrichmentEnv) (alert : Alert) :
    Work.Within Enriching (autoEnrich env alert) :=
  within_recover (within_andThen (within_andThen (materialiseFrom_within _ _ _ _)
    (flushNewRows_within env)) (schedule_within env alert)) (fun _ => within_ret ())

/-- `except Exception` around the whole: the enrichment always returns. -/
theorem autoEnrich_returns (env : EnrichmentEnv) (alert : Alert) (s : IngestSession) :
    ∃ s', autoEnrich env alert s = (.ok (), s') := by
  unfold autoEnrich Work.recover
  split
  · exact ⟨_, rfl⟩
  · exact ⟨_, rfl⟩

/-- What follows the loop: with new rows the flush, and their scheduling if it is
answered. -/
theorem doomed_flush_schedule (env : EnrichmentEnv) (alert : Alert) (rows : List NewObservable)
    {s : IngestSession} (hs : ¬ Doomed observableWrites s) :
    Doomed observableWrites (Work.andThen (flushNewRows env rows)
        (scheduleEnrichmentForAlert env alert) s).2 ↔
      rows ≠ [] ∧ (env.flush = .refused ∨ (env.flush = .answered ∧
        ∃ obs ∈ rows, (env.enqueue (obs.type, obs.value)).sourcesFate = .refused)) := by
  cases rows with
  | nil => exact iff_of_false hs (fun h => h.1 rfl)
  | cons obs rest =>
      have hflush : flushNewRows env (obs :: rest) = Work.andThen
          (Work.statement observableWrites env.flush (fun _ => ()))
          (fun _ => Work.ret (obs :: rest)) := rfl
      rw [hflush, Work.andThen_assoc]
      cases hfate : env.flush with
      | answered =>
          rw [Work.statement, Work.andThen_ok (query_ok hs)]
          show Doomed observableWrites (scheduleEnrichmentForAlert env alert (obs :: rest)
            (s.flushed observableWrites)).2 ↔ _
          rw [doomed_schedule]
          simp [not_doomed_flushed hs]
      | refused =>
          rw [Work.statement, Work.andThen_error (refuse_eq hs)]
          exact iff_of_true (doomed_of_refused _) ⟨by simp, Or.inl rfl⟩
      | raisesBefore e =>
          have hraised : Work.statement observableWrites (.raisesBefore e) (fun _ => ()) s =
              (.error e, s) := rfl
          rw [Work.andThen_error hraised]
          exact iff_of_false hs (by simp)
      | raisesAfter e =>
          have hraised : Work.statement observableWrites (.raisesAfter e) (fun _ => ()) s =
              (.error e, s.flushed observableWrites) := Work.andThen_ok (query_ok hs)
          rw [Work.andThen_error hraised]
          exact iff_of_false (not_doomed_flushed hs) (by simp)

/-- The exception that ends an enrichment is swallowed and changes nothing: the session is the
one that the three parts leave. -/
theorem autoEnrich_session (env : EnrichmentEnv) (alert : Alert) (s : IngestSession) :
    (autoEnrich env alert s).2 =
      (Work.andThen (materialiseFrom env alert (iterObservableCandidates alert.iocs) [])
        (fun rows => Work.andThen (flushNewRows env rows)
          (scheduleEnrichmentForAlert env alert)) s).2 := by
  rw [← Work.andThen_assoc]
  show (autoEnrich env alert s).2 = (Work.andThen (materialiseObservablesForAlert env alert)
    (scheduleEnrichmentForAlert env alert) s).2
  unfold autoEnrich Work.recover
  split
  · rename_i hwhole
    exact (congrArg Prod.snd hwhole).symm
  · rename_i hwhole
    exact (congrArg Prod.snd hwhole).symm

/-- Nothing that follows the loop saves a transaction that it has spoilt. -/
theorem doomed_of_loop {env : EnrichmentEnv} {alert : Alert} {s s₁ : IngestSession}
    {r : Except Raised (List NewObservable)}
    (hloop : materialiseFrom env alert (iterObservableCandidates alert.iocs) [] s = (r, s₁))
    (hdoomed : Doomed observableWrites s₁) :
    Doomed observableWrites (autoEnrich env alert s).2 := by
  rw [autoEnrich_session]
  cases r with
  | error e =>
      rw [Work.andThen_error hloop]
      exact hdoomed
  | ok rows =>
      rw [Work.andThen_ok hloop]
      exact (within_andThen (flushNewRows_within env rows) (schedule_within env alert)
        s₁).doomed hdoomed

/-- **What an enrichment does to the transaction.**  It dooms it exactly when one of the
statements it comes to is refused; every other failure is without consequence. -/
theorem doomed_autoEnrich (env : EnrichmentEnv) (observables : List Observable) (alert : Alert)
    (s : IngestSession)
    (hs : ¬ Doomed observableWrites s)
    (hsees : ∀ c ∈ iterObservableCandidates alert.iocs, Sees observables s c) :
    Doomed observableWrites (autoEnrich env alert s).2 ↔
      ¬ NothingRefused env observables (iterObservableCandidates alert.iocs) := by
  have hends := materialiseFrom_ends env alert (iterObservableCandidates_nodup alert.iocs)
    (fun c hc => iterObservableCandidates_type hc) [] s hs hsees
  obtain ⟨r, s₁, hloop⟩ : ∃ r s₁, materialiseFrom env alert
      (iterObservableCandidates alert.iocs) [] s = (r, s₁) := ⟨_, _, rfl⟩
  rw [hloop] at hends
  by_cases hdoomed : Doomed observableWrites s₁
  · obtain ⟨c, hvisited, hspoils⟩ := hends.doomed.mp hdoomed
    refine iff_of_true (doomed_of_loop hloop hdoomed) (fun h => ?_)
    rcases hspoils with hrefused | ⟨hpasses, hnew, hlong⟩
    · exact h.lookups c hvisited hrefused
    · exact absurd (h.values c hvisited hpasses hnew) (by omega)
  · rw [autoEnrich_session]
    have hunspoilt : ∀ c, Visited env observables (iterObservableCandidates alert.iocs) c →
        ¬ Spoils env observables c := by
      intro c hvisited hspoils
      exact hdoomed (hends.doomed.mpr ⟨c, hvisited, hspoils⟩)
    have hlookups : ∀ c, Visited env observables (iterObservableCandidates alert.iocs) c →
        env.lookup c ≠ .refused := fun c hvisited h => hunspoilt c hvisited (Or.inl h)
    have hvalues : ∀ c, Visited env observables (iterObservableCandidates alert.iocs) c →
        Passes env observables c → IsNew observables c → c.2.length ≤ 1000 := by
      intro c hvisited hpasses hnew
      by_contra hlong
      exact hunspoilt c hvisited (Or.inr ⟨hpasses, hnew, by omega⟩)
    by_cases hall : ∀ c ∈ iterObservableCandidates alert.iocs, Passes env observables c
    · have hrows := hends.passed hdoomed hall
      simp only [List.nil_append] at hrows
      subst hrows
      rw [Work.andThen_ok hloop, doomed_flush_schedule env alert _ hdoomed]
      have hmem : ∀ c, c ∈ (iterObservableCandidates alert.iocs).filter
          (fun c => IsNew observables c) ↔
            c ∈ iterObservableCandidates alert.iocs ∧ IsNew observables c := by
        intro c
        simp
      constructor
      · rintro ⟨hsome, hbad⟩ h
        rcases hbad with hrefused | ⟨hanswered, obs, hobs, hrefused⟩
        · obtain ⟨obs, hobs⟩ := List.exists_mem_of_ne_nil _ hsome
          obtain ⟨c, hc, -⟩ := List.mem_map.mp hobs
          exact h.flush hall ⟨c, (hmem c).mp hc⟩ hrefused
        · obtain ⟨c, hc, rfl⟩ := List.mem_map.mp hobs
          obtain ⟨hlisted, hnew⟩ := (hmem c).mp hc
          exact h.sources hall hanswered c hlisted hnew hrefused
      · intro h
        by_contra hgood
        refine h ⟨hlookups, hvalues, ?_, ?_⟩
        · rintro - ⟨c, hlisted, hnew⟩ hrefused
          refine hgood ⟨?_, Or.inl hrefused⟩
          exact List.ne_nil_of_mem (List.mem_map_of_mem ((hmem c).mpr ⟨hlisted, hnew⟩))
        · intro _ hanswered c hlisted hnew hrefused
          have hrow := List.mem_map_of_mem (f := newObservable env alert)
            ((hmem c).mpr ⟨hlisted, hnew⟩)
          exact hgood ⟨List.ne_nil_of_mem hrow, Or.inr ⟨hanswered, _, hrow, hrefused⟩⟩
    · obtain ⟨e, he⟩ := hends.stopped hdoomed hall
      subst he
      rw [Work.andThen_error hloop]
      refine iff_of_false hdoomed (not_not_intro ⟨hlookups, hvalues, ?_, ?_⟩)
      · exact fun h => absurd h hall
      · exact fun h => absurd h hall

end OpenSoar
