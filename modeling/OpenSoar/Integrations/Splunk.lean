/-
# `OpenSoar.Integrations.Splunk` — a search job that is polled

`run_search` and `ingest_alerts` of `integrations/splunk/connector.py`: a search is dispatched, its
job is polled once a second until it is done, three hundred times at most, and its results are
fetched.

What Splunk answers to a poll is given by the number of the poll.  `Waited` says how the polls end,
for any answers: the first that is not "still running" decides, and a job that is still running at
all of them is given up.  `run_search_ends` and `ingest_alerts_iff` say for which answers the two
operations return, what they return, and how often they have polled then.
-/
import OpenSoar.Lib.Retry
import OpenSoar.Models
import OpenSoar.Ingestion.Vendors

namespace OpenSoar

open Python Retry

/-! ## The connector -/

/-- What leaves the connector: a `RuntimeError`, what an operator raises on an answer of another
shape, what the HTTP client raises, or what the normaliser does. -/
inductive SplunkError where
  | runtimeError (message : String)
  | operator (e : OperatorError)
  | transport (message : String)
  | normalizer (e : NormalizeError)

/-- An answer of the HTTP client: the status and the text, and what `resp.json()` makes of it. -/
structure SplunkResponse where
  status : Nat
  text : String
  json : Except String Json

/-- What Splunk answers to the dispatch of a search, to the two requests about a saved search, to
the polls of a job, and to the request for its results; the client may raise instead. -/
structure SplunkServer where
  dispatch : Dict → Except String SplunkResponse
  history : String → Except String SplunkResponse
  dispatchSaved : String → Except String SplunkResponse
  poll : String → Nat → Except String SplunkResponse
  results : String → Nat → Except String SplunkResponse

/-- How often the job was polled, and for how many seconds the connector slept. -/
structure PollLog where
  polls : Nat
  slept : Nat
  deriving DecidableEq

/-- `_POLL_TIMEOUT / _POLL_INTERVAL`. -/
def pollTimeout : Nat := 300

/-- The arguments of `run_search`. -/
structure SplunkSearch where
  spl : String
  earliest : Option String
  latest : Option String
  maxCount : Nat

/-- `spl if spl.lstrip().startswith("search") else f"search {spl}"`. -/
def searchText (py : PyText) (spl : String) : String :=
  if "search".toList.isPrefixOf (spl.toList.dropWhile py.isSpace) then spl else "search " ++ spl

/-- The body of the dispatch. -/
def searchBody (py : PyText) (search : SplunkSearch) : Dict :=
  [("search", .str (searchText py search.spl)), ("output_mode", .str "json"),
      ("exec_mode", .str "normal")]
    ++ ((truthy search.earliest).map (fun text => ("earliest_time", Json.str text))).toList
    ++ ((truthy search.latest).map (fun text => ("latest_time", Json.str text))).toList

/-- `await resp.json()` of an answer, if there is one. -/
def readJson (response : Except String SplunkResponse) : Except SplunkError Json :=
  (response.bind SplunkResponse.json).mapError .transport

/-- `(data.get("entry") or [{}])[0].get("content") or {}`. -/
def jobContent (data : Json) : Except OperatorError Dict := do
  let data ← data.asDict
  let entry ← ((Json.get data "entry").orElse (.arr [.obj []])).first
  let entry ← entry.asDict
  ((Json.get entry "content").orElse (.obj [])).asDict

/-- `state and state.upper() == "FAILED"`. -/
def jobFailed (upper : String → String) (state : Json) : Except OperatorError Bool :=
  if state.truthy then
    match state with
    | .str state => .ok (decide (upper state = "FAILED"))
    | _ => .error .attributeError
  else .ok false

/-- What the answer to the poll of that number says: the job is done, or it is not yet. -/
def pollAnswer (upper : String → String) (server : SplunkServer) (sid : String) (k : Nat) :
    Except SplunkError Bool := do
  let data ← readJson (server.poll sid k)
  let content ← (jobContent data).mapError .operator
  if (Json.get content "isDone").truthy then
    let failed ← (jobFailed upper (Json.get content "dispatchState")).mapError .operator
    if failed then .error (.runtimeError ("Splunk job " ++ sid ++ " dispatchState=FAILED"))
    else .ok true
  else .ok false

/-- The body of the loop: a job that is not done yet is waited for. -/
def pollOnce (upper : String → String) (server : SplunkServer) (sid : String) (k : Nat)
    (log : PollLog) : Verdict (Except SplunkError Unit) × PollLog :=
  match pollAnswer upper server sid k with
  | .error e => (.stop (.error e), { log with polls := log.polls + 1 })
  | .ok true => (.stop (.ok ()), { log with polls := log.polls + 1 })
  | .ok false => (.again, ⟨log.polls + 1, log.slept + 1⟩)

/-- What is raised when no poll has ended the loop. -/
def notInTime (sid : String) : SplunkError :=
  .runtimeError ("Splunk job " ++ sid ++ " did not complete in time")

/-- `_wait_for_job`. -/
def waitForJob (upper : String → String) (server : SplunkServer) (sid : String) :
    Except SplunkError Unit × PollLog :=
  let (ended, log) := attempts (pollOnce upper server sid) pollTimeout 0 ⟨0, 0⟩
  (ended.getD (.error (notInTime sid)), log)

/-- `list(data.get("results") or [])` of `_fetch_job_results`. -/
def fetchJobResults (server : SplunkServer) (sid : String) (maxCount : Nat) :
    Except SplunkError (List Json) := do
  let data ← readJson (server.results sid maxCount)
  let data ← data.asDict.mapError .operator
  ((Json.get data "results").orElse (.arr [])).elements.mapError .operator

/-- The JSON of the answer to a dispatch. -/
def dispatched (what : String) (response : Except String SplunkResponse) :
    Except SplunkError Dict := do
  let response ← response.mapError .transport
  if response.status ≠ 200 ∧ response.status ≠ 201 then
    .error (.runtimeError
      (what ++ " dispatch failed: HTTP " ++ toString response.status ++ " " ++ response.text))
  else
    let data ← response.json.mapError .transport
    data.asDict.mapError .operator

/-- The id of the job that `run_search` dispatches. -/
def dispatchSearch (py : PyText) (server : SplunkServer) (search : SplunkSearch) :
    Except SplunkError Json := do
  let data ← dispatched "Search" (server.dispatch (searchBody py search))
  let sid := Json.get data "sid"
  if sid.truthy then .ok sid
  else .error (.runtimeError "Splunk did not return a search id")

/-- The rows of a job, once it is done. -/
def collect (py : PyText) (upper : String → String) (server : SplunkServer) (sid : Json)
    (maxCount : Nat) : Except SplunkError (List Json) × PollLog :=
  let (ended, log) := waitForJob upper server (sid.text py)
  (do
    ended
    fetchJobResults server (sid.text py) maxCount, log)

/-- `run_search` of a connector that is connected: the search id and the results, and the polls. -/
def runSearch (py : PyText) (upper : String → String) (server : SplunkServer)
    (search : SplunkSearch) : Except SplunkError (Json × List Json) × PollLog :=
  match dispatchSearch py server search with
  | .error e => (.error e, ⟨0, 0⟩)
  | .ok sid =>
      let (rows, log) := collect py upper server sid search.maxCount
      (rows.map (fun rows => (sid, rows)), log)

/-- `(entry.get("content") or {}).get("sid") or entry.get("name")`. -/
def sidOfEntry (entry : Json) : Except OperatorError Json := do
  let entry ← entry.asDict
  let content ← ((Json.get entry "content").orElse (.obj [])).asDict
  .ok ((Json.get content "sid").orElse (Json.get entry "name"))

/-- The loop of `_extract_sid_from_history`: the first entry with an id. -/
def firstSid : List Json → Except OperatorError Json
  | [] => .ok .null
  | entry :: entries => do
      let sid ← sidOfEntry entry
      if sid.truthy then .ok sid else firstSid entries

/-- `_extract_sid_from_history`. -/
def extractSidFromHistory (history : Json) : Except OperatorError Json := do
  let history ← history.asDict
  let entries ← ((Json.get history "entry").orElse (.arr [])).elements
  firstSid entries

/-- The id of the job of a saved search: that of its dispatch, or of its history. -/
def savedSearchSid (server : SplunkServer) (savedSearch : String) : Except SplunkError Json := do
  let history ← readJson (server.history savedSearch)
  let data ← dispatched "Saved search" (server.dispatchSaved savedSearch)
  let sid := Json.get data "sid"
  if sid.truthy then .ok sid else (extractSidFromHistory history).mapError .operator

/-- `normalize_splunk_notable(row)`, of a row of any type. -/
def normalizeRow (py : PyText) (row : Json) : Except SplunkError VendorAlert := do
  let payload ← row.asDict.mapError .operator
  (normalizeSplunkNotable py payload).mapError .normalizer

/-- The default of `_fetch_job_results`. -/
def defaultMaxCount : Nat := 1000

/-- `ingest_alerts` of a connector that is connected, and the polls. -/
def ingestAlerts (py : PyText) (upper : String → String) (server : SplunkServer)
    (savedSearch : String) : Except SplunkError (List VendorAlert) × PollLog :=
  match savedSearchSid server savedSearch with
  | .error e => (.error e, ⟨0, 0⟩)
  | .ok sid =>
      if sid.truthy then
        let (rows, log) := collect py upper server sid defaultMaxCount
        (do
          let rows ← rows
          rows.mapM (normalizeRow py), log)
      else (.ok [], ⟨0, 0⟩)

/-! ## How the polls end -/

section Polls

variable {upper : String → String} {server : SplunkServer} {sid : String}

/-- The first `k` polls find the job running. -/
def StillRunning (upper : String → String) (server : SplunkServer) (sid : String) (k : Nat) :
    Prop :=
  ∀ j < k, pollAnswer upper server sid j = .ok false

/-- The poll of that number is the first that does not find the job running, and says it is
done. -/
structure DoneAt (upper : String → String) (server : SplunkServer) (sid : String) (k : Nat) :
    Prop where
  inTime : k < pollTimeout
  running : StillRunning upper server sid k
  done : pollAnswer upper server sid k = .ok true

/-- How `_wait_for_job` ends. -/
inductive Waited (upper : String → String) (server : SplunkServer) (sid : String) :
    Except SplunkError Unit × PollLog → Prop
  | done (k : Nat) : DoneAt upper server sid k → Waited upper server sid (.ok (), ⟨k + 1, k⟩)
  | raised (k : Nat) (e : SplunkError) : k < pollTimeout → StillRunning upper server sid k →
      pollAnswer upper server sid k = .error e → Waited upper server sid (.error e, ⟨k + 1, k⟩)
  | givenUp : StillRunning upper server sid pollTimeout →
      Waited upper server sid (.error (notInTime sid), ⟨pollTimeout, pollTimeout⟩)

theorem StillRunning.next {k : Nat} (h : StillRunning upper server sid k)
    (hk : pollAnswer upper server sid k = .ok false) : StillRunning upper server sid (k + 1) := by
  intro j hj
  rcases Nat.lt_succ_iff_lt_or_eq.mp hj with hlt | rfl
  · exact h j hlt
  · exact hk

/-- The first poll that does not find the job running is the only one. -/
theorem DoneAt.unique {k l : Nat} (hk : DoneAt upper server sid k)
    (hl : DoneAt upper server sid l) : k = l := by
  rcases Nat.lt_trichotomy k l with hlt | heq | hlt
  · cases hk.done.symm.trans (hl.running k hlt)
  · exact heq
  · cases hl.done.symm.trans (hk.running l hlt)

theorem pollOnce_again {k : Nat} {log log' : PollLog}
    (h : pollOnce upper server sid k log = (.again, log')) :
    pollAnswer upper server sid k = .ok false ∧ log' = ⟨log.polls + 1, log.slept + 1⟩ := by
  unfold pollOnce at h
  split at h
  · cases h
  · cases h
  · rename_i hanswer
    cases h
    exact ⟨hanswer, rfl⟩

theorem pollOnce_stop {k : Nat} {log log' : PollLog} {ended : Except SplunkError Unit}
    (h : pollOnce upper server sid k log = (.stop ended, log')) :
    pollAnswer upper server sid k = ended.map (fun _ => true) ∧
      log' = { log with polls := log.polls + 1 } := by
  unfold pollOnce at h
  split at h
  · rename_i hanswer
    cases h
    exact ⟨hanswer, rfl⟩
  · rename_i hanswer
    cases h
    exact ⟨hanswer, rfl⟩
  · cases h

/-- The loop polls until the first answer that is not "still running". -/
theorem waitForJob_waited (upper : String → String) (server : SplunkServer) (sid : String) :
    Waited upper server sid (waitForJob upper server sid) := by
  have hends : Ends
      (fun n log => StillRunning upper server sid n ∧ log = (⟨n, n⟩ : PollLog))
      (fun k ended log => StillRunning upper server sid k ∧
        pollAnswer upper server sid k = Except.map (fun _ => true) ended ∧
        log = (⟨k + 1, k⟩ : PollLog))
      0 pollTimeout (attempts (pollOnce upper server sid) pollTimeout 0 (⟨0, 0⟩ : PollLog)) := by
    refine attempts_rule pollTimeout ?_ ?_ pollTimeout 0 (⟨0, 0⟩ : PollLog) (Nat.zero_add _).le ?_
    · rintro n log log' - ⟨hrunning, rfl⟩ hbody
      obtain ⟨hanswer, rfl⟩ := pollOnce_again hbody
      exact ⟨hrunning.next hanswer, rfl⟩
    · rintro n log log' ended - ⟨hrunning, rfl⟩ hbody
      obtain ⟨hanswer, rfl⟩ := pollOnce_stop hbody
      exact ⟨hrunning, hanswer, rfl⟩
    · exact ⟨fun j hj => absurd hj (Nat.not_lt_zero j), rfl⟩
  unfold waitForJob
  generalize attempts (pollOnce upper server sid) pollTimeout 0 ⟨0, 0⟩ = out at hends
  cases hends with
  | stopped k ended log hle hlt hQ =>
      obtain ⟨hrunning, hanswer, rfl⟩ := hQ
      have hk : k < pollTimeout := by omega
      cases ended with
      | error e => exact .raised k e hk hrunning hanswer
      | ok done => exact .done k ⟨hk, hrunning, hanswer⟩
  | exhausted log hP =>
      obtain ⟨hrunning, rfl⟩ := hP
      rw [Nat.zero_add] at hrunning ⊢
      exact .givenUp hrunning

theorem waitForJob_of_done {k : Nat} (h : DoneAt upper server sid k) :
    waitForJob upper server sid = (.ok (), ⟨k + 1, k⟩) := by
  have hwaited := waitForJob_waited upper server sid
  generalize waitForJob upper server sid = out at hwaited
  cases hwaited with
  | done l hl => rw [h.unique hl]
  | raised l e hl hrunning hanswer =>
      rcases Nat.lt_trichotomy k l with hlt | rfl | hlt
      · cases h.done.symm.trans (hrunning k hlt)
      · cases h.done.symm.trans hanswer
      · cases hanswer.symm.trans (h.running l hlt)
  | givenUp hrunning => cases h.done.symm.trans (hrunning k h.inTime)

theorem waitForJob_of_running (h : StillRunning upper server sid pollTimeout) :
    waitForJob upper server sid = (.error (notInTime sid), ⟨pollTimeout, pollTimeout⟩) := by
  have hwaited := waitForJob_waited upper server sid
  generalize waitForJob upper server sid = out at hwaited
  cases hwaited with
  | done l hl => cases hl.done.symm.trans (h l hl.inTime)
  | raised l e hl hrunning hanswer => cases hanswer.symm.trans (h l hl)
  | givenUp hrunning => rfl

/-- Every poll but the last is followed by a second of sleep, and the last only where the job is
given up. -/
theorem waitForJob_bounds (upper : String → String) (server : SplunkServer) (sid : String) :
    (waitForJob upper server sid).2.polls ≤ pollTimeout ∧
    (waitForJob upper server sid).2.slept ≤ (waitForJob upper server sid).2.polls := by
  have hwaited := waitForJob_waited upper server sid
  generalize waitForJob upper server sid = out at hwaited
  cases hwaited with
  | done k h => exact ⟨h.inTime, Nat.le_succ k⟩
  | raised k e h => exact ⟨h, Nat.le_succ k⟩
  | givenUp h => exact ⟨le_rfl, le_rfl⟩

end Polls

/-! ## What the two operations return -/

variable {py : PyText} {upper : String → String} {server : SplunkServer}

theorem collect_iff {sid : Json} {maxCount : Nat} {rows : List Json} {log : PollLog} :
    collect py upper server sid maxCount = (.ok rows, log) ↔
      fetchJobResults server (sid.text py) maxCount = .ok rows ∧
        ∃ k, DoneAt upper server (sid.text py) k ∧ log = ⟨k + 1, k⟩ := by
  constructor
  · intro h
    unfold collect at h
    have hwaited := waitForJob_waited upper server (sid.text py)
    generalize waitForJob upper server (sid.text py) = out at h hwaited
    cases hwaited with
    | done k hk =>
        have hpair := Prod.mk.inj h
        exact ⟨hpair.1, k, hk, hpair.2.symm⟩
    | raised k e => cases (Prod.mk.inj h).1
    | givenUp => cases (Prod.mk.inj h).1
  · rintro ⟨hrows, k, hk, rfl⟩
    unfold collect
    rw [waitForJob_of_done hk]
    exact Prod.ext hrows rfl

theorem collect_of_running {sid : Json} {maxCount : Nat}
    (h : StillRunning upper server (sid.text py) pollTimeout) :
    collect py upper server sid maxCount =
      (.error (notInTime (sid.text py)), ⟨pollTimeout, pollTimeout⟩) := by
  unfold collect
  rw [waitForJob_of_running h]
  rfl

theorem collect_bounds (sid : Json) (maxCount : Nat) :
    (collect py upper server sid maxCount).2.polls ≤ pollTimeout ∧
    (collect py upper server sid maxCount).2.slept ≤
      (collect py upper server sid maxCount).2.polls :=
  waitForJob_bounds upper server (sid.text py)

theorem runSearch_ok {search : SplunkSearch} {sid : Json} {rows : List Json} {log : PollLog} :
    runSearch py upper server search = (.ok (sid, rows), log) ↔
      dispatchSearch py server search = .ok sid ∧
      fetchJobResults server (sid.text py) search.maxCount = .ok rows ∧
      ∃ k, DoneAt upper server (sid.text py) k ∧ log = ⟨k + 1, k⟩ := by
  unfold runSearch
  cases hdispatch : dispatchSearch py server search with
  | error e =>
      constructor
      · intro h
        cases (Prod.mk.inj h).1
      · rintro ⟨h, -⟩
        cases h
  | ok job =>
      constructor
      · intro h
        have hpair := Prod.mk.inj h
        obtain ⟨rows', hrows, hsame⟩ := map_ok hpair.1
        obtain ⟨rfl, rfl⟩ := Prod.mk.inj hsame
        exact ⟨rfl, collect_iff.mp (Prod.ext hrows hpair.2)⟩
      · rintro ⟨hsid, hrest⟩
        cases hsid
        have hcollect := collect_iff.mpr hrest
        refine Prod.ext ?_ ?_
        · show (collect py upper server sid search.maxCount).1.map _ = _
          rw [hcollect]
          rfl
        · show (collect py upper server sid search.maxCount).2 = _
          rw [hcollect]

theorem runSearch_of_dispatched {search : SplunkSearch} {sid : Json}
    (h : dispatchSearch py server search = .ok sid) :
    runSearch py upper server search =
      ((collect py upper server sid search.maxCount).1.map (fun rows => (sid, rows)),
        (collect py upper server sid search.maxCount).2) := by
  unfold runSearch
  rw [h]

theorem runSearch_bounds (search : SplunkSearch) :
    (runSearch py upper server search).2.polls ≤ pollTimeout ∧
    (runSearch py upper server search).2.slept ≤ (runSearch py upper server search).2.polls := by
  cases hdispatch : dispatchSearch py server search with
  | error e =>
      unfold runSearch
      rw [hdispatch]
      exact ⟨Nat.zero_le _, le_rfl⟩
  | ok sid =>
      rw [runSearch_of_dispatched hdispatch]
      exact collect_bounds sid search.maxCount

/-- **How a search ends.**  The rows of a dispatched job are returned just when one of three
hundred polls finds it done, all those before having found it running, and Splunk has been polled
until then and no longer; a job that all of them find running is given up; and no search polls more
often, or sleeps longer, than that. -/
theorem run_search_ends (py : PyText) (upper : String → String) (server : SplunkServer)
    (search : SplunkSearch) :
    (∀ sid rows log, runSearch py upper server search = (.ok (sid, rows), log) ↔
      dispatchSearch py server search = .ok sid ∧
      fetchJobResults server (sid.text py) search.maxCount = .ok rows ∧
      ∃ k, DoneAt upper server (sid.text py) k ∧ log = ⟨k + 1, k⟩) ∧
    (∀ sid, dispatchSearch py server search = .ok sid →
      StillRunning upper server (sid.text py) pollTimeout →
      runSearch py upper server search =
        (.error (notInTime (sid.text py)), ⟨pollTimeout, pollTimeout⟩)) ∧
    (runSearch py upper server search).2.polls ≤ pollTimeout ∧
    (runSearch py upper server search).2.slept ≤ (runSearch py upper server search).2.polls := by
  refine ⟨fun sid rows log => runSearch_ok, fun sid hsid hrunning => ?_, runSearch_bounds search⟩
  rw [runSearch_of_dispatched hsid, collect_of_running hrunning]
  rfl

theorem normalizeRow_ok {row : Json} {alert : VendorAlert} :
    normalizeRow py row = .ok alert ↔
      ∃ payload, row = .obj payload ∧ normalizeSplunkNotable py payload = .ok alert := by
  constructor
  · intro h
    obtain ⟨payload, hpayload, halert⟩ := bind_ok h
    exact ⟨payload, asDict_ok.mp (mapError_ok hpayload), mapError_ok halert⟩
  · rintro ⟨payload, rfl, halert⟩
    show (normalizeSplunkNotable py payload).mapError SplunkError.normalizer = .ok alert
    rw [halert]
    rfl

/-- The alerts of a saved search without an id, and of one whose job is polled. -/
inductive SavedSearchRows (py : PyText) (upper : String → String) (server : SplunkServer)
    (sid : Json) : List VendorAlert → PollLog → Prop
  | nothing : sid.truthy = false → SavedSearchRows py upper server sid [] ⟨0, 0⟩
  | rows (k : Nat) (rows : List Json) (alerts : List VendorAlert) : sid.truthy = true →
      DoneAt upper server (sid.text py) k →
      fetchJobResults server (sid.text py) defaultMaxCount = .ok rows →
      rows.Forall₂ (fun row alert => ∃ payload, row = .obj payload ∧
        normalizeSplunkNotable py payload = .ok alert) alerts →
      SavedSearchRows py upper server sid alerts ⟨k + 1, k⟩

/-- **What an ingestion returns.**  One alert for each row of the job, in the order of the rows, or
no alert where neither the dispatch nor the history has an id. -/
theorem ingest_alerts_iff (py : PyText) (upper : String → String) (server : SplunkServer)
    (savedSearch : String) (alerts : List VendorAlert) (log : PollLog) :
    ingestAlerts py upper server savedSearch = (.ok alerts, log) ↔
      ∃ sid, savedSearchSid server savedSearch = .ok sid ∧
        SavedSearchRows py upper server sid alerts log := by
  unfold ingestAlerts
  cases hsid : savedSearchSid server savedSearch with
  | error e =>
      constructor
      · intro h
        cases (Prod.mk.inj h).1
      · rintro ⟨sid, h, -⟩
        cases h
  | ok job =>
      by_cases htruthy : job.truthy = true
      · simp only [htruthy, if_true]
        constructor
        · intro h
          have hpair := Prod.mk.inj h
          obtain ⟨rows, hrows, hmap⟩ := bind_ok hpair.1
          obtain ⟨hfetch, k, hdone, hlog⟩ := collect_iff.mp (Prod.ext hrows hpair.2)
          subst hlog
          refine ⟨job, rfl, .rows k rows alerts htruthy hdone hfetch ?_⟩
          exact (mapM_forall₂.mp hmap).imp (fun _ _ => normalizeRow_ok.mp)
        · rintro ⟨sid, hsame, hingested⟩
          cases hsame
          cases hingested with
          | nothing hfalse => cases hfalse.symm.trans htruthy
          | rows k rows alerts _ hdone hfetch halerts =>
              have hcollect := collect_iff.mpr ⟨hfetch, k, hdone, rfl⟩
              have hmap := mapM_forall₂.mpr (halerts.imp (fun _ _ => normalizeRow_ok.mpr))
              refine Prod.ext ?_ ?_
              · show (collect py upper server job defaultMaxCount).1 >>= _ = _
                rw [hcollect]
                exact hmap
              · show (collect py upper server job defaultMaxCount).2 = _
                rw [hcollect]
      · have hfalse : job.truthy = false := Bool.not_eq_true _ ▸ htruthy
        simp only [hfalse, Bool.false_eq_true, if_false]
        constructor
        · intro h
          cases h
          exact ⟨job, rfl, .nothing hfalse⟩
        · rintro ⟨sid, hsame, hingested⟩
          cases hsame
          cases hingested with
          | nothing => rfl
          | rows k rows alerts htrue => cases htrue.symm.trans hfalse

end OpenSoar
