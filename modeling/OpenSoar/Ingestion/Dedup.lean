/-
# `OpenSoar.Ingestion.Dedup` — concurrent ingests of one event

Calls of `process_webhook` with one `(source, source_id)` run in sessions of their
own.  Each looks the key up, flushes an `INSERT` or an `UPDATE` of the row it
found, and commits.  The table has a primary key and nothing else: no constraint
on `(source, source_id)`, and the count is written as the value read plus one.

`OneRowCounted` is what deduplication is for: one row under the key, counting the
calls that committed, and no call refused because its lookup met two.  It holds
throughout a run exactly when every commit is undisturbed, that is, when no other
call of the event commits between a call's lookup and its own commit
(`one_row_counted_iff_undisturbed`).  The invariant behind it (`Counted`) adds what
a session remembers: the row it found accounts for the calls that had committed
when it looked.
-/
import OpenSoar.Lib.ReadCommitted
import OpenSoar.Ingestion.Webhook

namespace OpenSoar

open Python ReadCommitted

/-- Two updates of one row wait for each other; an insert waits for nothing. -/
def WebhookWrite.locks : WebhookWrite → WebhookWrite → Bool
  | .update a _, .update b _ => decide (a.id = b.id)
  | _, _ => false

/-- `process_webhook` as a transaction of the session that calls it. -/
def webhookTransaction (py : PyText) {κ : Type} (call : κ → WebhookCall) :
    Transaction κ Db (NormalizedAlert × Option Alert) WebhookWrite Raised where
  read k db := webhookRead py (call k) db
  write k found := webhookWrite (call k) found
  commit := WebhookWrite.commit
  excludes := WebhookWrite.locks

/-- Undisturbed, the transaction is the function. -/
theorem serial_webhookTransaction (py : PyText) {κ : Type} (call : κ → WebhookCall) (db : Db)
    (k : κ) :
    serial (webhookTransaction py call) db k = (processWebhook py (call k) db).map Prod.fst := by
  simp only [serial, webhookTransaction, processWebhook]
  cases webhookRead py (call k) db with
  | error e => rfl
  | ok found =>
      cases hwrite : webhookWrite (call k) found with
      | error e => simp only [hwrite]; rfl
      | ok write =>
          cases hcommit : write.commit db with
          | error e => simp only [hwrite, hcommit]; rfl
          | ok db' => simp only [hwrite, hcommit]; rfl

/-! ## The rows under a key after a commit -/

theorem alertsUnder_insert {alert : Alert} {db db' : Db} {source sourceId : String}
    (h : (WebhookWrite.insert alert).commit db = .ok db') (hkey : alert.HasKey source sourceId) :
    db'.alertsUnder source sourceId = db.alertsUnder source sourceId ++ [alert] := by
  simp only [WebhookWrite.commit] at h
  cases hi : db.alerts.insert? alert with
  | none => rw [hi] at h; cases h
  | some alerts =>
      simp only [hi] at h
      cases h
      simp only [Db.alertsUnder, (Table.insert?_some hi).2, List.filter_append]
      rw [List.filter_cons_of_pos (by simpa using hkey), List.filter_nil]

/-- A row under an update of `alert`: the four columns written, or left alone. -/
def rewriteRow (alert : Alert) (setsCorrelationId : Bool) (row : Alert) : Alert :=
  if row.id = alert.id then
    { row with
      duplicateCount := alert.duplicateCount
      rawPayload := alert.rawPayload
      normalized := alert.normalized
      correlationId := if setsCorrelationId then alert.correlationId else row.correlationId }
  else row

theorem rewriteRow_hasKey (alert : Alert) (b : Bool) (row : Alert) (source sourceId : String) :
    (rewriteRow alert b row).HasKey source sourceId ↔ row.HasKey source sourceId := by
  unfold rewriteRow
  split <;> exact Iff.rfl

theorem rewriteRow_duplicateCount (alert : Alert) (b : Bool) (row : Alert) :
    (rewriteRow alert b row).duplicateCount = alert.duplicateCount ∨
      (rewriteRow alert b row).duplicateCount = row.duplicateCount := by
  unfold rewriteRow
  split
  · exact Or.inl rfl
  · exact Or.inr rfl

theorem alertsUnder_update {alert : Alert} {b : Bool} {db db' : Db} (source sourceId : String)
    (h : (WebhookWrite.update alert b).commit db = .ok db') :
    db'.alertsUnder source sourceId
      = (db.alertsUnder source sourceId).map (rewriteRow alert b) := by
  simp only [WebhookWrite.commit] at h
  cases hf : db.alerts.find? alert.id with
  | none => rw [hf] at h; cases h
  | some current =>
      simp only [hf] at h
      cases h
      have hid : current.id = alert.id := Table.find?_key hf
      -- the row the update hits is the current one, there is no other under its id
      have hrows : (db.alerts.rows.map (fun row => if row.id = current.id then
            { current with
              duplicateCount := alert.duplicateCount
              rawPayload := alert.rawPayload
              normalized := alert.normalized
              correlationId := if b then alert.correlationId else current.correlationId }
          else row)) = db.alerts.rows.map (rewriteRow alert b) := by
        refine List.map_congr_left (fun row hrow => ?_)
        by_cases hr : row.id = current.id
        · have hsame : row = current := by
            have hfind := Table.find?_of_mem hrow
            rw [hr, hid, hf] at hfind
            exact (Option.some.inj hfind).symm
          subst hsame
          simp only [rewriteRow, hid, if_true]
        · rw [if_neg hr, rewriteRow, if_neg (fun e => hr (e.trans hid.symm))]
      simp only [Db.alertsUnder, Db.commitAlert, Table.rows_set]
      rw [hrows, List.filter_map]
      congr 1
      refine List.filter_congr (fun row _ => ?_)
      simp only [Function.comp_apply, rewriteRow_hasKey]

/-! ## Errors other than an ambiguous lookup -/

/-- The statement may be refused, but not for two rows under a key. -/
def NeverAmbiguous {α : Type} (a : Except Raised α) : Prop :=
  a ≠ .error .multipleResultsFound

theorem neverAmbiguous_bind {α β : Type} {a : Except Raised α} {f : α → Except Raised β}
    (ha : NeverAmbiguous a) (hf : ∀ x, NeverAmbiguous (f x)) : NeverAmbiguous (a >>= f) := by
  cases a with
  | error e => exact fun h => ha (by cases h; rfl)
  | ok x => exact hf x

theorem neverAmbiguous_map {α β : Type} {a : Except Raised α} {f : α → β}
    (ha : NeverAmbiguous a) : NeverAmbiguous (a.map f) := by
  cases a with
  | error e => exact fun h => ha (by cases h; rfl)
  | ok x => exact fun h => by cases h

theorem neverAmbiguous_column (n : Nat) (s : String) : NeverAmbiguous (column n s) := by
  unfold column NeverAmbiguous
  split <;> simp

theorem neverAmbiguous_varcharColumn (n : Nat) (v : Json) :
    NeverAmbiguous (varcharColumn n v) := by
  unfold varcharColumn
  split
  · simp [NeverAmbiguous]
  · exact neverAmbiguous_map (neverAmbiguous_column n _)
  · simp [NeverAmbiguous, wrongType]

theorem neverAmbiguous_textColumn (v : Json) : NeverAmbiguous (textColumn v) := by
  unfold textColumn
  split <;> simp [NeverAmbiguous, wrongType]

theorem neverAmbiguous_mapM (items : List Json) : NeverAmbiguous (items.mapM arrayElement) := by
  induction items with
  | nil => simp [NeverAmbiguous, pure, Except.pure]
  | cons item items ih =>
      rw [List.mapM_cons]
      refine neverAmbiguous_bind ?_ (fun x => neverAmbiguous_bind ih (fun xs => ?_))
      · unfold arrayElement
        split <;> simp [NeverAmbiguous, wrongType]
      · simp [NeverAmbiguous, pure, Except.pure]

theorem neverAmbiguous_arrayColumn (v : Json) : NeverAmbiguous (arrayColumn v) := by
  unfold arrayColumn
  split
  · simp [NeverAmbiguous]
  · exact neverAmbiguous_map (neverAmbiguous_mapM _)
  · simp [NeverAmbiguous, wrongType]

theorem neverAmbiguous_newAlert (call : WebhookCall) (n : NormalizedAlert) :
    NeverAmbiguous (newAlert call n) := by
  unfold newAlert
  refine neverAmbiguous_bind (neverAmbiguous_column _ _) (fun _ => ?_)
  refine neverAmbiguous_bind (neverAmbiguous_varcharColumn _ _) (fun _ => ?_)
  refine neverAmbiguous_bind (neverAmbiguous_column _ _) (fun _ => ?_)
  refine neverAmbiguous_bind (neverAmbiguous_textColumn _) (fun _ => ?_)
  refine neverAmbiguous_bind (neverAmbiguous_column _ _) (fun _ => ?_)
  refine neverAmbiguous_bind (neverAmbiguous_varcharColumn _ _) (fun _ => ?_)
  refine neverAmbiguous_bind (neverAmbiguous_varcharColumn _ _) (fun _ => ?_)
  refine neverAmbiguous_bind (neverAmbiguous_varcharColumn _ _) (fun _ => ?_)
  refine neverAmbiguous_bind (neverAmbiguous_column _ _) (fun _ => ?_)
  refine neverAmbiguous_bind (neverAmbiguous_arrayColumn _) (fun _ => ?_)
  refine neverAmbiguous_bind (neverAmbiguous_varcharColumn _ _) (fun _ => ?_)
  simp [NeverAmbiguous, pure, Except.pure]

theorem neverAmbiguous_webhookWrite (call : WebhookCall) (found : NormalizedAlert × Option Alert) :
    NeverAmbiguous (webhookWrite call found) := by
  obtain ⟨n, existing⟩ := found
  cases existing with
  | some existing => simp [NeverAmbiguous, webhookWrite]
  | none => exact neverAmbiguous_map (neverAmbiguous_newAlert call n)

theorem neverAmbiguous_commit (write : WebhookWrite) (db : Db) :
    NeverAmbiguous (write.commit db) := by
  cases write with
  | insert alert =>
      simp only [WebhookWrite.commit, NeverAmbiguous]
      split <;> simp
  | update alert b =>
      simp only [WebhookWrite.commit, NeverAmbiguous]
      split <;> simp

/-! ## Sessions ingesting one event -/

abbrev IngestSys (κ : Type) := Sys κ Db (NormalizedAlert × Option Alert) WebhookWrite Raised

/-- What deduplication promises of the event stored under a key. -/
def OneRowCounted {κ : Type} (source sourceId : String) (s : IngestSys κ) : Prop :=
  (s.store.alertsUnder source sourceId).length ≤ 1 ∧
  (∀ a ∈ s.store.alertsUnder source sourceId, a.duplicateCount = s.committed.length) ∧
  ∀ k, s.phase k ≠ .failed .multipleResultsFound

/-- The payload of a call normalises to an alert under this key. -/
def WebhookCall.IsEvent (py : PyText) (source sourceId : String) (call : WebhookCall) : Prop :=
  ∃ n, normalizeAlert py call.payload call.source = .ok n ∧ n.source = source ∧
    n.sourceId = .str sourceId

/-- How many calls a lookup's answer accounts for. -/
def countSeen : Option Alert → Nat
  | none => 0
  | some alert => alert.duplicateCount

section Event

variable {py : PyText} {κ : Type} {call : κ → WebhookCall} {source sourceId : String}

/-- With at most one row under its key, an event's lookup answers with that row. -/
theorem webhookRead_event {k : κ} {db : Db} {n : NormalizedAlert} (hne : sourceId ≠ "")
    (hn : normalizeAlert py (call k).payload (call k).source = .ok n)
    (hsource : n.source = source) (hid : n.sourceId = .str sourceId)
    (hrows : (db.alertsUnder source sourceId).length ≤ 1) :
    webhookRead py (call k) db = .ok (n, (db.alertsUnder source sourceId).head?) := by
  have htruthy : (Json.str sourceId).truthy = true := by simp [Json.truthy, hne]
  have hlookup : lookupDuplicate db n = .ok (db.alertsUnder source sourceId).head? := by
    unfold lookupDuplicate
    rw [hid, if_pos htruthy, hsource]
    cases hunder : db.alertsUnder source sourceId with
    | nil => simp only [hunder, List.head?_nil]
    | cons a rest =>
        cases rest with
        | nil => simp only [hunder, List.head?_cons]
        | cons b rest =>
            rw [hunder] at hrows
            simp at hrows
  simp only [webhookRead, hn, hlookup]

variable [DecidableEq κ]

/-- The invariant of the runs whose commits are undisturbed. -/
structure Counted (py : PyText) (call : κ → WebhookCall) (source sourceId : String)
    (s : IngestSys κ) : Prop where
  consistent : Consistent (webhookTransaction py call) s
  rows : (s.store.alertsUnder source sourceId = [] ∧ s.committed = []) ∨
    ∃ a, s.store.alertsUnder source sourceId = [a] ∧ a.duplicateCount = s.committed.length
  seen : ∀ k found, (s.phase k).readValue? = some found →
    normalizeAlert py (call k).payload (call k).source = .ok found.1 ∧
      countSeen found.2 = s.readAt k
  clean : ∀ k, s.phase k ≠ .failed .multipleResultsFound

omit [DecidableEq κ] in
theorem counted_start {db : Db} (hdb : db.alertsUnder source sourceId = []) :
    Counted py call source sourceId (Sys.start db) where
  consistent := consistent_start db
  rows := Or.inl ⟨hdb, rfl⟩
  seen := by intro k found h; cases h
  clean := by intro k h; cases h

omit [DecidableEq κ] in
theorem Counted.length_le {s : IngestSys κ} (h : Counted py call source sourceId s) :
    (s.store.alertsUnder source sourceId).length ≤ 1 := by
  rcases h.rows with ⟨hnil, -⟩ | ⟨a, hone, -⟩
  · simp [hnil]
  · simp [hone]

omit [DecidableEq κ] in
/-- The count on the row, when there is one, is the number of commits. -/
theorem Counted.countSeen_head {s : IngestSys κ} (h : Counted py call source sourceId s) :
    countSeen (s.store.alertsUnder source sourceId).head? = s.committed.length := by
  rcases h.rows with ⟨hnil, hcommitted⟩ | ⟨a, hone, hcount⟩
  · rw [hnil, hcommitted]; rfl
  · rw [hone]; exact hcount

omit [DecidableEq κ] in
theorem Counted.oneRowCounted {s : IngestSys κ} (h : Counted py call source sourceId s) :
    OneRowCounted source sourceId s := by
  refine ⟨h.length_le, ?_, h.clean⟩
  intro a ha
  rcases h.rows with ⟨hnil, -⟩ | ⟨b, hone, hcount⟩
  · rw [hnil] at ha; cases ha
  · rw [hone, List.mem_singleton] at ha
    rw [ha, hcount]

omit [DecidableEq κ] in
/-- The insert of an event is under the event's key. -/
theorem newAlert_hasKey {k : κ} {n : NormalizedAlert} {alert : Alert}
    (hevent : (call k).IsEvent py source sourceId)
    (hn : normalizeAlert py (call k).payload (call k).source = .ok n)
    (h : newAlert (call k) n = .ok alert) :
    alert.HasKey source sourceId ∧ alert.duplicateCount = 1 := by
  obtain ⟨n', hn', hsource, hid⟩ := hevent
  cases hn.symm.trans hn'
  obtain ⟨-, hsrc, hsid, -, -, -, -, -, hcount⟩ := newAlert_ok h
  rw [hid] at hsid
  exact ⟨⟨hsrc.trans hsource, varcharColumn_str hsid⟩, hcount⟩

variable (hne : sourceId ≠ "") (hevents : ∀ k, (call k).IsEvent py source sourceId)
include hne hevents

omit [DecidableEq κ] in
/-- The answer a lookup gives now. -/
theorem Counted.read_now {s : IngestSys κ} (h : Counted py call source sourceId s) (k : κ) :
    ∃ n, normalizeAlert py (call k).payload (call k).source = .ok n ∧
      webhookRead py (call k) s.store = .ok (n, (s.store.alertsUnder source sourceId).head?) := by
  obtain ⟨n, hn, hsource, hid⟩ := hevents k
  exact ⟨n, hn, webhookRead_event hne hn hsource hid h.length_le⟩

omit [DecidableEq κ] in
/-- An undisturbed commit adds one to the row, or is the row. -/
theorem Counted.commit {s : IngestSys κ} (h : Counted py call source sourceId s) {k : κ}
    {found : NormalizedAlert × Option Alert} {write : WebhookWrite} {db : Db}
    (hphase : s.phase k = .hasWritten found write) (hcommit : write.commit s.store = .ok db)
    (hnow : s.readAt k = s.committed.length) :
    ∃ a, db.alertsUnder source sourceId = [a] ∧
      a.duplicateCount = s.committed.length + 1 := by
  obtain ⟨n, hn, hread⟩ := h.read_now hne hevents k
  have hcurrent := h.consistent.current k found (by rw [hphase]; rfl) hnow
  have hfound : found = (n, (s.store.alertsUnder source sourceId).head?) :=
    Except.ok.inj (hcurrent.symm.trans hread)
  have hwrite := h.consistent.prepared k found write hphase
  rcases h.rows with ⟨hnil, hzero⟩ | ⟨a, hone, hcount⟩
  · -- nothing stored: the call inserts the row, counting itself
    rw [hfound, hnil] at hwrite
    obtain ⟨alert, halert, rfl⟩ := map_ok hwrite
    obtain ⟨hkey, hcount⟩ := newAlert_hasKey (hevents k) hn halert
    refine ⟨alert, ?_, ?_⟩
    · rw [alertsUnder_insert hcommit hkey, hnil, List.nil_append]
    · rw [hcount, hzero]
      rfl
  · -- one row stored: the call counts itself on it
    rw [hfound, hone] at hwrite
    have hupd : write = .update (registerDuplicate (call k) n a) a.correlationId.isNone :=
      (Except.ok.inj hwrite).symm
    subst hupd
    refine ⟨rewriteRow (registerDuplicate (call k) n a) a.correlationId.isNone a, ?_, ?_⟩
    · rw [alertsUnder_update source sourceId hcommit, hone, List.map_singleton]
    · have hself : a.id = (registerDuplicate (call k) n a).id := rfl
      rw [rewriteRow, if_pos hself, ← hcount]
      rfl

/-- Every step keeps the invariant, a commit when it is undisturbed. -/
theorem Counted.attempt {s : IngestSys κ} (h : Counted py call source sourceId s)
    {e : κ × Act} (hundisturbed : Undisturbed (webhookTransaction py call) s e) :
    Counted py call source sourceId (attempt (step (webhookTransaction py call)) s e) := by
  obtain ⟨k, act⟩ := e
  refine attempt_inv _ h ?_
  intro s' hs
  have hstepped := stepped_of_step hs
  refine ⟨consistent_step h.consistent hstepped, ?_, ?_, ?_⟩
  · rcases hstepped.store_cases with
      ⟨hstore, hcommitted⟩ | ⟨found, write, rfl, hphase, hcommit, hcommitted⟩
    · rw [hstore, hcommitted]
      exact h.rows
    · have hnow := hundisturbed rfl found write s'.store hphase hcommit
      rw [hcommitted, List.length_append, List.length_singleton]
      exact Or.inr (h.commit hne hevents hphase hcommit hnow)
  · intro j found hj
    rcases hstepped.remembered hj with ⟨hbefore, hreadAt⟩ | ⟨hread, -, -, hreadAt⟩
    · rw [hreadAt]
      exact h.seen j found hbefore
    · obtain ⟨n, hn, hnow⟩ := h.read_now hne hevents j
      have hfound : found = (n, (s.store.alertsUnder source sourceId).head?) :=
        Except.ok.inj (hread.symm.trans hnow)
      rw [hfound, hreadAt]
      exact ⟨hn, h.countSeen_head⟩
  · intro j hj
    rcases hstepped.failure hj with hbefore | hread | ⟨found, hwrite⟩ | ⟨write, hcommit⟩
    · exact h.clean j hbefore
    · obtain ⟨n, -, hnow⟩ := h.read_now hne hevents j
      cases hnow.symm.trans hread
    · exact neverAmbiguous_webhookWrite _ _ hwrite
    · exact neverAmbiguous_commit _ _ hcommit

omit hne in
/-- A commit that another one has overtaken breaks the promise at once: a second row,
or a row that misses a commit. -/
theorem Counted.undisturbed_of_oneRowCounted {s : IngestSys κ}
    (h : Counted py call source sourceId s) {e : κ × Act}
    (hafter : OneRowCounted source sourceId
      (OpenSoar.attempt (step (webhookTransaction py call)) s e)) :
    Undisturbed (webhookTransaction py call) s e := by
  obtain ⟨k, act⟩ := e
  intro hact found write store hphase hcommit
  simp only at hact hphase
  subst hact
  have hvalue : (s.phase k).readValue? = some found := by rw [hphase]; rfl
  obtain ⟨hn, hseen⟩ := h.seen k found hvalue
  refine Nat.le_antisymm (h.consistent.readAt_le k found hvalue) (Nat.le_of_not_lt ?_)
  intro hlt
  change s.readAt k < s.committed.length at hlt
  have hstep : step (webhookTransaction py call) s (k, .commit)
      = .ok { (s.release k).setPhase k .committed with
        store := store, committed := s.committed ++ [k] } := by
    simp only [step, hphase, hcommit]
  rw [attempt_ok _ hstep] at hafter
  obtain ⟨hle, hcounts, -⟩ := hafter
  simp only [List.length_append, List.length_singleton] at hle hcounts
  have hwrite := h.consistent.prepared k found write hphase
  obtain ⟨n, existing⟩ := found
  rcases h.rows with ⟨-, hzero⟩ | ⟨a, hone, hcount⟩
  · rw [hzero] at hlt
    exact absurd hlt (Nat.not_lt_zero _)
  · cases existing with
    | none =>
        obtain ⟨alert, halert, rfl⟩ := map_ok hwrite
        obtain ⟨hkey, -⟩ := newAlert_hasKey (hevents k) hn halert
        rw [alertsUnder_insert hcommit hkey, hone] at hle
        simp at hle
    | some b =>
        have hupd : write = .update (registerDuplicate (call k) n b) b.correlationId.isNone :=
          (Except.ok.inj hwrite).symm
        subst hupd
        rw [alertsUnder_update source sourceId hcommit, hone, List.map_singleton,
          List.forall_mem_singleton] at hcounts
        have hb : (registerDuplicate (call k) n b).duplicateCount = b.duplicateCount + 1 := rfl
        have hseen' : b.duplicateCount = s.readAt k := hseen
        rcases rewriteRow_duplicateCount (registerDuplicate (call k) n b)
          b.correlationId.isNone a with hcase | hcase <;> omega

/-- **Deduplication holds throughout exactly the runs whose commits are undisturbed**,
for any number of sessions ingesting one event and any order of their steps. -/
theorem one_row_counted_iff_undisturbed {db : Db} (hdb : db.alertsUnder source sourceId = [])
    (es : List (κ × Act)) :
    Along (step (webhookTransaction py call))
        (fun s e => OneRowCounted source sourceId
          (OpenSoar.attempt (step (webhookTransaction py call)) s e)) (Sys.start db) es ↔
      Along (step (webhookTransaction py call)) (Undisturbed (webhookTransaction py call))
        (Sys.start db) es := by
  refine along_congr _ (I := Counted py call source sourceId) ?_ ?_ es _ (counted_start hdb)
  · intro s e h
    exact ⟨h.undisturbed_of_oneRowCounted hevents,
      fun hundisturbed => (h.attempt hne hevents hundisturbed).oneRowCounted⟩
  · intro s e h hafter
    exact h.attempt hne hevents (h.undisturbed_of_oneRowCounted hevents hafter)

omit hne hevents in
/-- In such a run the database is what the calls that committed leave behind when
they are made one after another. -/
theorem store_eq_processWebhook {db : Db} {es : List (κ × Act)}
    (h : Along (step (webhookTransaction py call)) (Undisturbed (webhookTransaction py call))
      (Sys.start db) es) :
    (run (step (webhookTransaction py call)) (Sys.start db) es).committed.foldlM
        (fun db k => (processWebhook py (call k) db).map Prod.fst) db
      = .ok (run (step (webhookTransaction py call)) (Sys.start db) es).store := by
  have hserial : (fun db k => (processWebhook py (call k) db).map Prod.fst)
      = serial (webhookTransaction py call) :=
    funext fun db => funext fun k => (serial_webhookTransaction py call db k).symm
  rw [hserial]
  exact store_eq_serial h

end Event

/-! ## Two sessions, one event -/

/-- Any number of sessions ingest the same new event, each with identifiers of its
own. -/
def sameEvent (k : Nat) : WebhookCall :=
  ⟨[("title", .str "Login failure"), ("source_id", .str "ev-1")], "webhook",
    BitVec.ofNat 128 k, BitVec.ofNat 128 k⟩

theorem sameEvent_isEvent (k : Nat) : (sameEvent k).IsEvent .ascii "webhook" "ev-1" :=
  ⟨_, rfl, rfl, rfl⟩

/-- Both look before either commits. -/
def overtaken : List (Nat × Act) :=
  [(0, .read), (1, .read), (0, .write), (1, .write), (0, .commit), (1, .commit)]

/-- Two sessions that both look before either commits store the event twice. -/
theorem concurrent_ingests_store_two_rows :
    ¬ ∀ (call : Nat → WebhookCall) (db : Db) (es : List (Nat × Act)),
      (∀ k, (call k).IsEvent .ascii "webhook" "ev-1") → db.alertsUnder "webhook" "ev-1" = [] →
      OneRowCounted "webhook" "ev-1"
        (run (step (webhookTransaction .ascii call)) (Sys.start db) es) := by
  intro hclaim
  have hone := hclaim sameEvent .empty overtaken sameEvent_isEvent rfl
  have htwo : ((run (step (webhookTransaction .ascii sameEvent)) (Sys.start .empty)
      overtaken).store.alertsUnder "webhook" "ev-1").length = 2 := by decide +kernel
  have hle := hone.1
  rw [htwo] at hle
  exact absurd hle (by decide)

theorem one_row_counted_one_after_another :
    Along (step (webhookTransaction .ascii sameEvent))
        (fun s e => OneRowCounted "webhook" "ev-1"
          (attempt (step (webhookTransaction .ascii sameEvent)) s e)) (Sys.start .empty)
        [(0, .read), (0, .write), (0, .commit), (1, .read), (1, .write), (1, .commit)] ↔
      Along (step (webhookTransaction .ascii sameEvent))
        (Undisturbed (webhookTransaction .ascii sameEvent)) (Sys.start .empty)
        [(0, .read), (0, .write), (0, .commit), (1, .read), (1, .write), (1, .commit)] :=
  one_row_counted_iff_undisturbed (by decide) sameEvent_isEvent rfl _

end OpenSoar
