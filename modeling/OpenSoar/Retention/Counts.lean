/-
# `OpenSoar.Retention.Counts` — what the duplicate counts say over whole runs

Webhooks, the requests and the playbook helpers that write alerts, incidents, purges and the
`DELETE` of an alert, one after another on one store.  An alert that has a source id is the only
one under its source and id; its `duplicate_count` is the number of webhooks under them that were
accepted since its row was created, whatever else has happened to it; and no lookup ever meets two
rows (`duplicate_counts_exact`).

Only `process_webhook` writes the two columns and the count (`Retention.Ingested`).
-/
import OpenSoar.Ingestion.Dedup
import OpenSoar.Lib.Tally
import OpenSoar.Retention.Ingested

namespace OpenSoar

open Python Tally

/-! ## What deduplication sees of an alert -/

/-- The source and the source id of an alert that has one. -/
def Alert.eventKey (alert : Alert) : Option (String × String) :=
  match alert.sourceId with
  | some sourceId => if sourceId.val = "" then none else some (alert.source.val, sourceId.val)
  | none => none

/-- The key under which `process_webhook` looks for a stored alert, if it looks for one. -/
def WebhookCall.eventKey (py : PyText) (call : WebhookCall) : Option (String × String) :=
  match normalizeAlert py call.payload call.source with
  | .ok n =>
      match n.sourceId with
      | .str sourceId => if sourceId = "" then none else some (n.source, sourceId)
      | _ => none
  | .error _ => none

def Alert.item (alert : Alert) : Item (String × String) := ⟨alert.eventKey, alert.duplicateCount⟩

def Db.items (db : Db) (i : Uuid) : Option (Item (String × String)) :=
  (db.alerts.find? i).map Alert.item

def Store.items (s : Store) (i : Uuid) : Option (Item (String × String)) :=
  (s.alerts.find? i).map (fun row => row.toAlert.item)

theorem Store.items_db (s : Store) : s.db.items = s.items := by
  funext i
  rw [Db.items, find?_db_alerts, Option.map_map]
  rfl

theorem Alert.eventKey_eq_some {alert : Alert} {source sourceId : String} :
    alert.eventKey = some (source, sourceId) ↔ alert.HasKey source sourceId ∧ sourceId ≠ "" := by
  unfold Alert.eventKey Alert.HasKey
  cases halert : alert.sourceId with
  | none => simp
  | some stored =>
      simp only [Option.map_some, Option.some.injEq]
      split
      · rename_i hempty
        refine iff_of_false (fun h => by cases h) ?_
        rintro ⟨⟨-, hval⟩, hne⟩
        exact hne (hval.symm.trans hempty)
      · rename_i hne
        rw [Option.some.injEq, Prod.mk.injEq]
        exact ⟨fun h => ⟨h, fun hempty => hne (h.2.trans hempty)⟩, fun h => h.1⟩

/-- The columns that only an ingest writes hold the item. -/
theorem Alert.item_of_ingested {alert alert' : Alert} (h : alert'.ingested = alert.ingested) :
    alert'.item = alert.item := by
  obtain ⟨hsource, hsourceId, hcount, -⟩ := IngestedColumns.mk.inj h
  rw [item, item, eventKey, eventKey, hsource, hsourceId, hcount]

/-! ## The ingest -/

/-- The row that an ingest inserts is under the key of the call. -/
theorem eventKey_newAlert {py : PyText} {call : WebhookCall} {n : NormalizedAlert} {alert : Alert}
    (hn : normalizeAlert py call.payload call.source = .ok n) (h : newAlert call n = .ok alert) :
    alert.eventKey = call.eventKey py := by
  obtain ⟨-, hsource, hsourceId, -, -, -, -, -, -⟩ := newAlert_ok h
  simp only [WebhookCall.eventKey, hn, Alert.eventKey]
  cases hid : n.sourceId with
  | str sourceId =>
      rw [hid] at hsourceId
      obtain ⟨stored, hstored, hval⟩ := Option.map_eq_some_iff.mp (varcharColumn_str hsourceId)
      rw [hstored]
      simp only [hval, hsource]
  | null =>
      rw [hid] at hsourceId
      rw [← Except.ok.inj hsourceId]
  | _ =>
      rw [hid] at hsourceId
      cases hsourceId

/-- A lookup that finds nothing leaves the key of the call to the new row. -/
theorem fresh_of_lookup {py : PyText} {call : WebhookCall} {n : NormalizedAlert} {db : Db}
    (hn : normalizeAlert py call.payload call.source = .ok n)
    (h : lookupDuplicate db n = .ok none) {j : Uuid} {item : Item (String × String)}
    (hj : db.items j = some item) (hsome : (call.eventKey py).isSome) :
    item.key ≠ call.eventKey py := by
  intro hkey
  obtain ⟨⟨source, sourceId⟩, hcall⟩ := Option.isSome_iff_exists.mp hsome
  obtain ⟨alert, halert, rfl⟩ := Option.map_eq_some_iff.mp hj
  obtain ⟨hhas, hne⟩ := Alert.eventKey_eq_some.mp (hkey.trans hcall)
  simp only [WebhookCall.eventKey, hn] at hcall
  split at hcall
  · rename_i given hgiven
    split at hcall
    · cases hcall
    cases hcall
    rcases lookupDuplicate_none h with hfalsy | ⟨sourceId', hid, hnil⟩
    · rw [hgiven] at hfalsy
      simp [Json.truthy, hne] at hfalsy
    · cases hgiven.symm.trans hid
      have hmem := mem_alertsUnder.mpr ⟨Table.mem_of_find? halert, hhas⟩
      rw [hnil] at hmem
      cases hmem
  · cases hcall

theorem tallies_processWebhook {py : PyText} {call : WebhookCall} {db db' : Db} {alert : Alert}
    (h : processWebhook py call db = .ok (db', alert)) :
    Tallies db.items db'.items (some (call.eventKey py)) := by
  obtain ⟨n, hn, hingested⟩ := processWebhook_ok h
  cases hingested with
  | created hlookup halert habsent _ hfind _ =>
      refine .created alert.id (call.eventKey py) ?_ ?_ ?_ ?_
      · rw [Db.items, habsent, Option.map_none]
      · intro j item hj hsome
        exact fresh_of_lookup hn hlookup hj hsome
      · have hcount : alert.duplicateCount = 1 := (newAlert_ok halert).2.2.2.2.2.2.2.2
        rw [Db.items, hfind, if_pos rfl, Option.map_some, Alert.item, eventKey_newAlert hn halert,
          hcount]
      · intro j hj
        rw [Db.items, hfind, if_neg hj]
        rfl
  | duplicate existing hlookup hfind hrow hdb =>
      subst hrow hdb
      obtain ⟨sourceId, hid, hunder⟩ := lookupDuplicate_some hlookup
      have htruthy : sourceId ≠ "" := by
        rintro rfl
        rw [lookupDuplicate, hid] at hlookup
        cases hlookup
      have hhas := (mem_alertsUnder.mp (hunder ▸ List.mem_singleton_self existing)).2
      have hkey : existing.eventKey = some (n.source, sourceId) :=
        Alert.eventKey_eq_some.mpr ⟨hhas, htruthy⟩
      have hcall : call.eventKey py = some (n.source, sourceId) := by
        simp only [WebhookCall.eventKey, hn, hid]
        exact if_neg htruthy
      rw [hcall]
      refine .again existing.id (n.source, sourceId) existing.duplicateCount ?_ ?_ ?_
      · rw [Db.items, hfind, Option.map_some, Alert.item, hkey]
      · have hself : (db.commitAlert (registerDuplicate call n existing) []).alerts.find?
            existing.id = some (registerDuplicate call n existing) :=
          Db.find?_commitAlert_self hfind rfl
        rw [Db.items, hself, Option.map_some, ← hkey]
        rfl
      · intro j hj
        have hother : (db.commitAlert (registerDuplicate call n existing) []).alerts.find? j =
            db.alerts.find? j := Db.find?_commitAlert_ne hj
        rw [Db.items, hother]
        rfl

/-! ## The store -/

/-- What arrives with an operation: nothing, or a webhook with its key. -/
def StoreOp.arrival (py : PyText) (op : StoreOp) : Option (Option (String × String)) :=
  op.ingest.map (WebhookCall.eventKey py)

section Store

variable {py : PyText} {app : App} {s s' : Store}

theorem quiet_of_ingestedKept (h : IngestedKept s s') : Tallies s.items s'.items none := by
  refine .quiet (fun i => ?_)
  cases hrow : s'.alerts.find? i with
  | none => exact Or.inr (by rw [Store.items, hrow, Option.map_none])
  | some row' =>
      obtain ⟨row, hold, hcolumns⟩ := h i row' hrow
      refine Or.inl ?_
      rw [Store.items, Store.items, hrow, hold, Option.map_some, Option.map_some,
        Alert.item_of_ingested hcolumns]

/-- **Every accepted operation tallies.** -/
theorem tallies_storeStep {op : StoreOp} (h : storeStep py app s op = .ok s') :
    Tallies s.items s'.items (op.arrival py) := by
  rcases storeStep_ingested h with ⟨call, alert, hop, hingest⟩ | ⟨hop, hkept⟩
  · rw [StoreOp.arrival, hop, Option.map_some, ← s.items_db, ← s'.items_db]
    exact tallies_processWebhook hingest
  · rw [StoreOp.arrival, hop, Option.map_none]
    exact quiet_of_ingestedKept hkept

/-- With one item for each key, one row at most is under it. -/
theorem length_alertsUnder_le (h : OneEach s.items) {source sourceId : String}
    (hne : sourceId ≠ "") : (s.db.alertsUnder source sourceId).length ≤ 1 := by
  have hids : ((s.db.alertsUnder source sourceId).map Alert.id).Nodup :=
    s.db.alerts.nodup.sublist (List.filter_sublist.map Alert.id)
  have hitem : ∀ alert ∈ s.db.alertsUnder source sourceId,
      s.items alert.id = some ⟨some (source, sourceId), alert.duplicateCount⟩ := by
    intro alert hmem
    obtain ⟨hrow, hhas⟩ := mem_alertsUnder.mp hmem
    rw [← s.items_db, Db.items, Table.find?_of_mem hrow, Option.map_some, Alert.item,
      Alert.eventKey_eq_some.mpr ⟨hhas, hne⟩]
  cases hrows : s.db.alertsUnder source sourceId with
  | nil => exact Nat.zero_le 1
  | cons a rest =>
      cases rest with
      | nil => exact le_rfl
      | cons b rest =>
          rw [hrows] at hids hitem
          rw [List.map_cons, List.map_cons, List.nodup_cons] at hids
          have hsame : a.id = b.id :=
            h _ _ _ _ (hitem a List.mem_cons_self)
              (hitem b (List.mem_cons_of_mem _ List.mem_cons_self)) rfl rfl
          rw [hsame] at hids
          exact absurd List.mem_cons_self hids.1

theorem lookup_unambiguous (h : OneEach s.items) (n : NormalizedAlert) :
    lookupDuplicate s.db n ≠ .error .multipleResultsFound := by
  intro hlookup
  unfold lookupDuplicate at hlookup
  split at hlookup
  · rename_i htruthy
    split at hlookup
    · rename_i sourceId hid
      have hne : sourceId ≠ "" := by
        rintro rfl
        rw [hid] at htruthy
        cases htruthy
      have hle : (s.db.alertsUnder n.source sourceId).length ≤ 1 := length_alertsUnder_le h hne
      split at hlookup
      · cases hlookup
      · cases hlookup
      · rename_i rows hnone hone
        cases hrows : s.db.alertsUnder n.source sourceId with
        | nil => exact hnone hrows
        | cons a rest =>
            cases rest with
            | nil => exact hone a hrows
            | cons b rest =>
                rw [hrows] at hle
                simp at hle
    · cases hlookup
  · cases hlookup

/-- **The count of a stored alert is exact.**  In every run from an empty store: two alerts never
have one source and source id; an alert has been there since the webhook that created it, and its
count is that one and the webhooks accepted under its key since; and no lookup is refused for
meeting two rows. -/
theorem duplicate_counts_exact (py : PyText) (app : App) (ops : List StoreOp) :
    (∀ i j row row', (run (storeStep py app) .empty ops).alerts.find? i = some row →
      (run (storeStep py app) .empty ops).alerts.find? j = some row' → row.eventKey.isSome →
      row.eventKey = row'.eventKey → i = j) ∧
    (∀ i row, (run (storeStep py app) .empty ops).alerts.find? i = some row →
      ∃ before creation since,
        trace (storeStep py app) .empty ops = before ++ creation :: since ∧
        creation.before.alerts.find? i = none ∧ creation.op.arrival py = some row.eventKey ∧
        (∀ taken ∈ creation :: since, ∃ row', taken.after.alerts.find? i = some row' ∧
          row'.eventKey = row.eventKey) ∧
        row.duplicateCount = 1 + since.countP (fun taken =>
          row.eventKey.isSome && decide (taken.op.arrival py = some row.eventKey))) ∧
    ∀ n, lookupDuplicate (run (storeStep py app) .empty ops).db n
      ≠ .error .multipleResultsFound := by
  have hexact : ExactCounts Store.items (StoreOp.arrival py) (trace (storeStep py app) .empty ops)
      (run (storeStep py app) .empty ops) :=
    run_tally (fun _ _ _ hstep => tallies_storeStep hstep) (fun _ => rfl) ops
  have hitem : ∀ {i : Uuid} {row : AlertRow},
      (run (storeStep py app) .empty ops).alerts.find? i = some row →
      (run (storeStep py app) .empty ops).items i = some row.toAlert.item := by
    intro i row hrow
    rw [Store.items, hrow, Option.map_some]
  refine ⟨?_, ?_, lookup_unambiguous hexact.oneEach⟩
  · intro i j row row' hi hj hsome hkeys
    exact hexact.oneEach i j _ _ (hitem hi) (hitem hj) hsome hkeys
  · intro i row hrow
    obtain ⟨before, creation, since, htrace, habsent, harrival, hstays, hcount⟩ :=
      hexact.accounts i _ (hitem hrow)
    refine ⟨before, creation, since, htrace, Option.map_eq_none_iff.mp habsent, harrival, ?_,
      hcount⟩
    intro taken htaken
    obtain ⟨item, hafter, hkey⟩ := hstays taken htaken
    obtain ⟨row', hrow', rfl⟩ := Option.map_eq_some_iff.mp hafter
    exact ⟨row', hrow', hkey⟩

end Store

end OpenSoar
