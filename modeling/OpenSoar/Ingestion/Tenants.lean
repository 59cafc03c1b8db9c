/-
# `OpenSoar.Ingestion.Tenants` — which tenants an ingest can touch

`process_webhook` looks a duplicate up by `(source, source_id)`, both of which the
payload states; the partner, which the payload states as well, is not part of
the key.  So the call keeps to its own tenant exactly when nothing of another
tenant is stored under that key (`ingest_separates_tenants_iff`).  What it can do
to the row it does find is bounded all the same: four columns, never the
partner (`ingest_frame`).
-/
import OpenSoar.Ingestion.Webhook

namespace OpenSoar

open Python

/-- The tenant of an alert. -/
def Alert.tenant (alert : Alert) : Option String := alert.partner.map (·.val)

/-- The alerts stored under the key a payload is deduplicated on; none when it has
no source id. -/
def Db.dedupCandidates (db : Db) (n : NormalizedAlert) : List Alert :=
  match n.sourceId with
  | .str sourceId => if sourceId = "" then [] else db.alertsUnder n.source sourceId
  | _ => []

theorem dedupCandidates_of_none {db : Db} {n : NormalizedAlert}
    (h : lookupDuplicate db n = .ok none) : db.dedupCandidates n = [] := by
  unfold Db.dedupCandidates
  rcases lookupDuplicate_none h with hfalsy | ⟨sourceId, hid, hrows⟩
  · split
    · rename_i sourceId hid
      have hempty : sourceId = "" := by simpa [hid, Json.truthy] using hfalsy
      rw [if_pos hempty]
    · rfl
  · simp only [hid, hrows, ite_self]

theorem dedupCandidates_of_some {db : Db} {n : NormalizedAlert} {existing : Alert}
    (h : lookupDuplicate db n = .ok (some existing)) : db.dedupCandidates n = [existing] := by
  obtain ⟨sourceId, hid, hrows⟩ := lookupDuplicate_some h
  have hne : sourceId ≠ "" := by
    intro hempty
    rw [lookupDuplicate, hid, hempty] at h
    cases h
  simp only [Db.dedupCandidates, hid, if_neg hne, hrows]

/-- `a'` is `a` but for the four columns a duplicate rewrites. -/
def Alert.SameButPayload (a a' : Alert) : Prop :=
  a' = { a with
    duplicateCount := a'.duplicateCount
    rawPayload := a'.rawPayload
    normalized := a'.normalized
    correlationId := a'.correlationId }

/-- **The frame of an ingest.**  Every stored alert is still stored; one that is not
under the payload's key is unchanged, one that is keeps everything but the
count, the payload columns and the correlation id. -/
theorem ingest_frame {py : PyText} {call : WebhookCall} {db db' : Db} {alert : Alert}
    {n : NormalizedAlert} (hn : normalizeAlert py call.payload call.source = .ok n)
    (h : processWebhook py call db = .ok (db', alert)) {a : Alert} (ha : a ∈ db.alerts.rows) :
    ∃ a', db'.alerts.find? a.id = some a' ∧ a.SameButPayload a' ∧
      (a ∉ db.dedupCandidates n → a' = a) := by
  obtain ⟨n', hn', hingested⟩ := processWebhook_ok h
  cases hn.symm.trans hn'
  have hfind := Table.find?_of_mem ha
  cases hingested with
  | created _ _ hnew _ hlookup _ =>
      have hne : a.id ≠ alert.id := by
        intro he
        rw [← he, hfind] at hnew
        cases hnew
      exact ⟨a, by rw [hlookup, if_neg hne, hfind], rfl, fun _ => rfl⟩
  | duplicate existing hl hex halert hdb =>
      subst halert hdb
      by_cases he : a.id = existing.id
      · have hae : a = existing := by
          rw [he, hex] at hfind
          exact (Option.some.inj hfind).symm
        subst hae
        refine ⟨_, Db.find?_commitAlert_self hfind rfl, rfl, ?_⟩
        intro hnot
        rw [dedupCandidates_of_some hl] at hnot
        exact absurd (List.mem_singleton_self a) hnot
      · have hother : a.id ≠ (registerDuplicate call n existing).id := he
        refine ⟨a, ?_, rfl, fun _ => rfl⟩
        rw [Db.find?_commitAlert_ne hother, hfind]

/-- The call kept to tenant `b`: every alert of another tenant is as it was, in
every field, and the alert it returns is one of `b`'s. -/
def KeepsToTenant (b : String) (db db' : Db) (alert : Alert) : Prop :=
  (∀ a ∈ db.alerts.rows, ∀ other, a.tenant = some other → other ≠ b →
    db'.alerts.find? a.id = some a) ∧ alert.tenant = some b

/-- **A payload of tenant `b` keeps to `b` exactly when what is stored under its key is
`b`'s.** -/
theorem ingest_separates_tenants_iff {py : PyText} {call : WebhookCall} {db db' : Db}
    {alert : Alert} {n : NormalizedAlert} {b : String}
    (hn : normalizeAlert py call.payload call.source = .ok n) (hb : n.partner = .str b)
    (h : processWebhook py call db = .ok (db', alert)) :
    KeepsToTenant b db db' alert ↔ ∀ a ∈ db.dedupCandidates n, a.tenant = some b := by
  obtain ⟨n', hn', hingested⟩ := processWebhook_ok h
  cases hn.symm.trans hn'
  cases hingested with
  | created hl hnew _ _ _ _ =>
      rw [dedupCandidates_of_none hl]
      obtain ⟨-, -, -, -, -, -, -, hpartner, -⟩ := newAlert_ok hnew
      rw [hb] at hpartner
      refine ⟨fun _ a ha => absurd ha List.not_mem_nil, fun _ => ⟨?_, varcharColumn_str hpartner⟩⟩
      intro a ha other _ _
      obtain ⟨a', hfind, -, hsame⟩ := ingest_frame hn h ha
      rw [hfind, hsame (by rw [dedupCandidates_of_none hl]; exact List.not_mem_nil)]
  | duplicate existing hl _ halert _ =>
      rw [dedupCandidates_of_some hl, List.forall_mem_singleton]
      have htenant : alert.tenant = existing.tenant := by rw [halert]; rfl
      constructor
      · intro hkeeps
        rw [← htenant]
        exact hkeeps.2
      · intro hex
        refine ⟨?_, htenant.trans hex⟩
        intro a ha other hother hne
        obtain ⟨a', hfind, -, hsame⟩ := ingest_frame hn h ha
        rw [hfind, hsame ?_]
        rw [dedupCandidates_of_some hl, List.mem_singleton]
        intro hae
        rw [hae, hex] at hother
        exact hne (Option.some.inj hother).symm

/-! ## Two tenants, one key -/

/-- A payload that states its source id and its partner. -/
def eventOf (partner sourceId : String) : Dict :=
  [("title", .str "Login failure"), ("source_id", .str sourceId), ("partner", .str partner)]

/-- The database after one event of the partner `acme`. -/
def acmeDb : Db :=
  match processWebhook .ascii ⟨eventOf "acme" "ev-1", "webhook", 1, 11⟩ .empty with
  | .ok (db, _) => db
  | .error _ => .empty

/-- An event of another partner with the same source id. -/
def globexCall : WebhookCall := ⟨eventOf "globex" "ev-1", "webhook", 2, 12⟩

/-- The event of `globex` counts on the row of `acme` and hands it out. -/
theorem ingest_crosses_tenants :
    ¬ ∀ (db : Db) (call : WebhookCall) (n : NormalizedAlert) (b : String) (db' : Db)
        (alert : Alert), normalizeAlert .ascii call.payload call.source = .ok n →
      n.partner = .str b → processWebhook .ascii call db = .ok (db', alert) →
      KeepsToTenant b db db' alert := by
  intro hclaim
  obtain ⟨n, hn, hpartner⟩ : ∃ n, normalizeAlert .ascii globexCall.payload globexCall.source
      = .ok n ∧ n.partner = .str "globex" := ⟨_, rfl, rfl⟩
  have hresult : (processWebhook .ascii globexCall acmeDb).map (fun p => p.2.tenant)
      = .ok (some "acme") := by decide +kernel
  obtain ⟨⟨db', alert⟩, hok, htenant⟩ := map_ok hresult
  have hkeeps := hclaim acmeDb globexCall n "globex" db' alert hn hpartner hok
  have hnames : (some "acme" : Option String) = some "globex" := htenant.symm.trans hkeeps.2
  exact absurd hnames (by decide)

theorem ingest_separates_tenants_under_distinct_keys :
    ∃ n db' alert,
      normalizeAlert .ascii (eventOf "globex" "ev-2") "webhook" = .ok n ∧
      processWebhook .ascii ⟨eventOf "globex" "ev-2", "webhook", 2, 12⟩ acmeDb
        = .ok (db', alert) ∧
      (KeepsToTenant "globex" acmeDb db' alert ↔
        ∀ a ∈ acmeDb.dedupCandidates n, a.tenant = some "globex") := by
  obtain ⟨n, hn, hpartner⟩ : ∃ n, normalizeAlert .ascii (eventOf "globex" "ev-2") "webhook"
      = .ok n ∧ n.partner = .str "globex" := ⟨_, rfl, rfl⟩
  have hresult : (processWebhook .ascii ⟨eventOf "globex" "ev-2", "webhook", 2, 12⟩ acmeDb).map
      (fun p => p.2.tenant) = .ok (some "globex") := by decide +kernel
  obtain ⟨⟨db', alert⟩, hok, -⟩ := map_ok hresult
  exact ⟨n, db', alert, hn, hok, ingest_separates_tenants_iff hn hpartner hok⟩

end OpenSoar
