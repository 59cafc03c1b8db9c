/-
# `OpenSoar.Scripts.ThehiveCases` — a case with its tasks, their logs and its observables

`TheHiveExporter.export_cases` of `scripts/migrate_from_thehive.py`.  The cases are read page by
page, and for each of them its tasks, for each task its logs, and its observables, each in a search
of its own.  A page that the server refuses ends its search with a warning, and the export goes on.

`export_cases_complete` is what an operator relies on: whatever is refused and when, an export that
has printed no warning holds everything, and one that has printed some holds the beginnings of what
was searched for.
-/
import OpenSoar.Scripts.ThehiveExport
import OpenSoar.Python.JsonText
import OpenSoar.Python.Dynamic

namespace OpenSoar

open Python

/-! ## The exporter -/

/-- The arguments of `_search`. -/
structure ThehiveQuery where
  endpoint : String
  query : Dict

/-- `{"_parent": {"_type": type, "_query": {"_id": id}}}`. -/
def parentQuery (type : String) (id : Json) : Dict :=
  [("_parent", .obj [("_type", .str type), ("_query", .obj [("_id", id)])])]

def casesQuery : ThehiveQuery := ⟨"case", []⟩

def tasksQuery (caseId : Json) : ThehiveQuery := ⟨"case/task", parentQuery "case" caseId⟩

def logsQuery (taskId : Json) : ThehiveQuery := ⟨"case/task/log", parentQuery "case_task" taskId⟩

def observablesQuery (caseId : Json) : ThehiveQuery :=
  ⟨"case/artifact", parentQuery "case" caseId⟩

/-- What TheHive answers, by the number of the search, its query and the range. -/
abbrev ThehiveServer := Nat → ThehiveQuery → SearchServer Json

/-- How many searches have been made, and the warnings that were printed: the endpoint, the status
and the text. -/
structure ExportLog where
  searches : Nat
  warnings : List (String × Nat × String)

/-- The export is still searching, or an operator has raised. -/
inductive ExportRaised where
  | searching
  | operator (e : OperatorError)

variable (server : ThehiveServer) (fuel : Nat)

/-- `_search`, as one of the searches of an export. -/
def exportSearch (q : ThehiveQuery) (log : ExportLog) :
    Except ExportRaised (List Json × ExportLog) :=
  match search (server log.searches q) fuel with
  | none => .error .searching
  | some found => .ok (found.results,
      ⟨log.searches + 1,
        log.warnings ++ (found.warning.map (fun warning => (q.endpoint, warning))).toList⟩)

/-- A loop over records that are changed in place. -/
def exportEach (record : Json → ExportLog → Except ExportRaised (Json × ExportLog)) :
    List Json → ExportLog → Except ExportRaised (List Json × ExportLog)
  | [], log => .ok ([], log)
  | item :: items, log => do
      let (item, log) ← record item log
      let (items, log) ← exportEach record items log
      .ok (item :: items, log)

/-- `record.get("id") or record.get("_id")`. -/
def exportedId (record : Dict) : Json := (Json.get record "id").orElse (Json.get record "_id")

/-- The body of the loop over the tasks of a case. -/
def exportTask (task : Json) (log : ExportLog) : Except ExportRaised (Json × ExportLog) := do
  let record ← task.asDict.mapError .operator
  if (exportedId record).truthy then
    let (logs, log) ← exportSearch server fuel (logsQuery (exportedId record)) log
    .ok (.obj (Json.assign record "_logs" (.arr logs)), log)
  else .ok (task, log)

/-- The body of the loop over the cases. -/
def exportCase (case : Json) (log : ExportLog) : Except ExportRaised (Json × ExportLog) := do
  let record ← case.asDict.mapError .operator
  if (exportedId record).truthy then
    let (tasks, log) ← exportSearch server fuel (tasksQuery (exportedId record)) log
    let (tasks, log) ← exportEach (exportTask server fuel) tasks log
    let (observables, log) ← exportSearch server fuel (observablesQuery (exportedId record)) log
    let record := Json.assign record "_tasks" (.arr tasks)
    .ok (.obj (Json.assign record "_observables" (.arr observables)), log)
  else .ok (case, log)

/-- `export_cases`. -/
def exportCases (log : ExportLog) : Except ExportRaised (List Json × ExportLog) := do
  let (cases, log) ← exportSearch server fuel casesQuery log
  exportEach (exportCase server fuel) cases log

/-! ## What TheHive holds -/

/-- A server that holds a list answers a range with its elements, and one behind the list with
nothing or with 416; it may refuse any range with another status. -/
structure AnswersOrRefuses {α : Type} (server : SearchServer α) (held : List α) : Prop where
  within : ∀ first last, first < held.length →
    server first last = .ok ((held.drop first).take (last + 1 - first)) ∨
      ∃ code text, code ≠ 416 ∧ server first last = .status code text
  behind : ∀ first last, held.length ≤ first →
    server first last = .ok [] ∨ ∃ code text, server first last = .status code text

/-- TheHive holds lists of records. -/
structure ThehiveHolds (server : ThehiveServer) (held : ThehiveQuery → List Json) : Prop where
  answers : ∀ n q, AnswersOrRefuses (server n q) (held q)
  records : ∀ q, ∀ item ∈ held q, ∃ record, item = .obj record

section Held

variable (held : ThehiveQuery → List Json)

/-- A task with all its logs. -/
def wholeTask : Json → Json
  | .obj record =>
      if (exportedId record).truthy then
        .obj (Json.assign record "_logs" (.arr (held (logsQuery (exportedId record)))))
      else .obj record
  | other => other

/-- A case with all its tasks and observables. -/
def wholeCase : Json → Json
  | .obj record =>
      if (exportedId record).truthy then
        .obj (Json.assign
          (Json.assign record "_tasks"
            (.arr ((held (tasksQuery (exportedId record))).map (wholeTask held))))
          "_observables" (.arr (held (observablesQuery (exportedId record)))))
      else .obj record
  | other => other

/-- Some of the pages of a list, from the first on. -/
def FirstPages (xs out : List Json) : Prop := ∃ k, out = xs.take (k * exportPageSize)

/-- A task with the first pages of its logs. -/
inductive TaskPart : Json → Json → Prop
  | unnamed (record : Dict) : (exportedId record).truthy = false →
      TaskPart (.obj record) (.obj record)
  | named (record : Dict) (logs : List Json) : (exportedId record).truthy = true →
      FirstPages (held (logsQuery (exportedId record))) logs →
      TaskPart (.obj record) (.obj (Json.assign record "_logs" (.arr logs)))

/-- A case with the first pages of its tasks and observables. -/
inductive CasePart : Json → Json → Prop
  | unnamed (record : Dict) : (exportedId record).truthy = false →
      CasePart (.obj record) (.obj record)
  | named (record : Dict) (read tasks observables : List Json) :
      (exportedId record).truthy = true →
      FirstPages (held (tasksQuery (exportedId record))) read →
      read.Forall₂ (TaskPart held) tasks →
      FirstPages (held (observablesQuery (exportedId record))) observables →
      CasePart (.obj record)
        (.obj (Json.assign (Json.assign record "_tasks" (.arr tasks)) "_observables"
          (.arr observables)))

end Held

/-! ## One search -/

section Search

variable {α : Type} {pages : SearchServer α} {list : List α}

theorem AnswersOrRefuses.page (h : AnswersOrRefuses pages list) {offset : Nat}
    (hoffset : offset < list.length) :
    pages offset (offset + exportPageSize - 1) =
        .ok ((list.drop offset).take exportPageSize) ∨
      ∃ code text, code ≠ 416 ∧
        pages offset (offset + exportPageSize - 1) = .status code text := by
  have hlength : offset + exportPageSize - 1 + 1 - offset = exportPageSize := by
    rw [exportPageSize]
    omega
  have hwithin := h.within offset (offset + exportPageSize - 1) hoffset
  rwa [hlength] at hwithin

/-- **The loop, from a page boundary on.**  It ends with the pages that come before a refused one,
and with a warning, or with the list. -/
theorem searchFrom_pages (h : AnswersOrRefuses pages list) {steps n : Nat}
    (hoffset : n * exportPageSize ≤ list.length)
    (hsteps : list.length < n * exportPageSize + steps * exportPageSize) :
    ∃ found, searchFrom pages steps (n * exportPageSize) (list.take (n * exportPageSize)) =
        some found ∧
      (∃ k, found.results = list.take (k * exportPageSize)) ∧
      (found.warning = none → found.results = list) := by
  induction steps generalizing n with
  | zero =>
      rw [Nat.zero_mul, Nat.add_zero] at hsteps
      exact absurd hoffset (Nat.not_le.mpr hsteps)
  | succ steps ih =>
      have hpage : exportPageSize = 200 := rfl
      rw [searchFrom]
      rcases Nat.lt_or_ge (n * exportPageSize) list.length with hwithin | hbehind
      · rcases h.page hwithin with hanswer | ⟨code, text, hcode, hrefused⟩
        · rw [hanswer]
          have hcollected : list.take (n * exportPageSize) ++
              (list.drop (n * exportPageSize)).take exportPageSize =
                list.take ((n + 1) * exportPageSize) := by
            rw [Nat.succ_mul, List.take_add]
          have hsize : ((list.drop (n * exportPageSize)).take exportPageSize).length =
              min exportPageSize (list.length - n * exportPageSize) := by
            rw [List.length_take, List.length_drop]
          have hnonempty :
              ((list.drop (n * exportPageSize)).take exportPageSize).isEmpty = false := by
            rw [List.isEmpty_eq_false_iff, ← List.length_pos_iff, hsize]
            omega
          have hnext : n * exportPageSize + exportPageSize = (n + 1) * exportPageSize :=
            (Nat.succ_mul n exportPageSize).symm
          dsimp only
          rw [hnonempty, if_neg Bool.false_ne_true, hcollected, hsize]
          split
          · -- a short page is the last one
            exact ⟨_, rfl, ⟨n + 1, rfl⟩, fun _ => List.take_of_length_le (by omega)⟩
          · rw [hnext]
            refine ih (by omega) ?_
            rw [Nat.succ_mul] at hsteps
            omega
        · rw [hrefused]
          dsimp only
          rw [if_neg hcode]
          exact ⟨_, rfl, ⟨n, rfl⟩, fun hnone => by cases hnone⟩
      · have hall : list.take (n * exportPageSize) = list := List.take_of_length_le hbehind
        rcases h.behind _ (n * exportPageSize + exportPageSize - 1) hbehind with
          hempty | ⟨code, text, hrefused⟩
        · rw [hempty]
          exact ⟨_, rfl, ⟨n, rfl⟩, fun _ => hall⟩
        · rw [hrefused]
          dsimp only
          split
          · exact ⟨_, rfl, ⟨n, rfl⟩, fun _ => hall⟩
          · exact ⟨_, rfl, ⟨n, rfl⟩, fun _ => hall⟩

end Search

/-! ## What an export announces -/

/-- An operation of an export returns something that `Part` holds of, and what is whole unless it
has printed a warning. -/
def Announces {α : Type} (op : Except ExportRaised (α × ExportLog)) (log : ExportLog)
    (Part : α → Prop) (whole : α) : Prop :=
  ∃ out after printed, op = .ok (out, after) ∧ after.warnings = log.warnings ++ printed ∧
    Part out ∧ (printed = [] → out = whole)

theorem announces_ok {α : Type} {out : α} {log : ExportLog} {Part : α → Prop} (h : Part out) :
    Announces (.ok (out, log)) log Part out :=
  ⟨out, log, [], rfl, (List.append_nil _).symm, h, fun _ => rfl⟩

/-- One operation after another: a warning of either counts. -/
theorem Announces.bind {α β : Type} {op : Except ExportRaised (α × ExportLog)} {log : ExportLog}
    {Part : α → Prop} {Part' : β → Prop} {whole : α}
    {next : α × ExportLog → Except ExportRaised (β × ExportLog)} (h : Announces op log Part whole)
    (whole' : α → β)
    (hnext : ∀ out after, Part out → Announces (next (out, after)) after Part' (whole' out)) :
    Announces (op >>= next) log Part' (whole' whole) := by
  obtain ⟨out, after, printed, hop, hwarnings, hpart, hwhole⟩ := h
  obtain ⟨out', after', printed', hop', hwarnings', hpart', hwhole'⟩ := hnext out after hpart
  refine ⟨out', after', printed ++ printed', ?_, ?_, hpart', ?_⟩
  · rw [bind_of_ok hop, hop']
  · rw [hwarnings', hwarnings, List.append_assoc]
  · intro hnone
    obtain ⟨hprinted, hprinted'⟩ := List.append_eq_nil_iff.mp hnone
    rw [hwhole' hprinted', hwhole hprinted]

/-- A loop announces what its body does. -/
theorem announces_each {record : Json → ExportLog → Except ExportRaised (Json × ExportLog)}
    {Part : Json → Json → Prop} {whole : Json → Json} {items : List Json}
    (h : ∀ item ∈ items, ∀ log, Announces (record item log) log (Part item) (whole item))
    (log : ExportLog) :
    Announces (exportEach record items log) log (items.Forall₂ Part) (items.map whole) := by
  induction items generalizing log with
  | nil => exact announces_ok .nil
  | cons item items ih =>
      have hfirst := h item List.mem_cons_self log
      refine hfirst.bind (fun out => out :: items.map whole) (fun out after hout => ?_)
      have hrest := ih (fun other hother => h other (List.mem_cons_of_mem item hother)) after
      refine hrest.bind (fun outs => out :: outs) (fun outs after' houts => ?_)
      exact announces_ok (.cons hout houts)

section Export

variable {server : ThehiveServer} {fuel : Nat} {held : ThehiveQuery → List Json}

theorem announces_search (h : ThehiveHolds server held)
    (hfuel : ∀ q, (held q).length / exportPageSize < fuel) (q : ThehiveQuery) (log : ExportLog) :
    Announces (exportSearch server fuel q log) log (FirstPages (held q)) (held q) := by
  have henough : (held q).length < 0 * exportPageSize + fuel * exportPageSize := by
    rw [Nat.zero_mul, Nat.zero_add]
    exact (Nat.div_lt_iff_lt_mul (by decide)).mp (hfuel q)
  have hstart : 0 * exportPageSize ≤ (held q).length := by
    rw [Nat.zero_mul]
    exact Nat.zero_le _
  obtain ⟨found, hfound, hpages, hwhole⟩ :=
    searchFrom_pages (h.answers log.searches q) hstart henough
  rw [Nat.zero_mul] at hfound
  have hsearch : search (server log.searches q) fuel = some found := hfound
  refine ⟨found.results, ⟨log.searches + 1, log.warnings ++
    (found.warning.map (fun warning => (q.endpoint, warning))).toList⟩, _, ?_, rfl, hpages, ?_⟩
  · rw [exportSearch, hsearch]
  · intro hnone
    refine hwhole ?_
    cases hwarning : found.warning with
    | none => rfl
    | some warning =>
        rw [hwarning] at hnone
        cases hnone

theorem announces_task (h : ThehiveHolds server held)
    (hfuel : ∀ q, (held q).length / exportPageSize < fuel) (record : Dict) (log : ExportLog) :
    Announces (exportTask server fuel (.obj record) log) log (TaskPart held (.obj record))
      (wholeTask held (.obj record)) := by
  rw [wholeTask]
  unfold exportTask
  show Announces (if _ then _ else _) _ _ _
  split
  · rename_i hid
    refine (announces_search h hfuel (logsQuery (exportedId record)) log).bind
      (fun logs => Json.obj (Json.assign record "_logs" (.arr logs))) (fun logs after hlogs => ?_)
    exact announces_ok (.named record logs hid hlogs)
  · rename_i hid
    exact announces_ok (.unnamed record (Bool.not_eq_true _ ▸ hid))

theorem announces_case (h : ThehiveHolds server held)
    (hfuel : ∀ q, (held q).length / exportPageSize < fuel) (record : Dict) (log : ExportLog) :
    Announces (exportCase server fuel (.obj record) log) log (CasePart held (.obj record))
      (wholeCase held (.obj record)) := by
  rw [wholeCase]
  unfold exportCase
  show Announces (if _ then _ else _) _ _ _
  split
  · rename_i hid
    refine (announces_search h hfuel (tasksQuery (exportedId record)) log).bind
      (fun read => Json.obj (Json.assign (Json.assign record "_tasks"
        (.arr (read.map (wholeTask held)))) "_observables"
          (.arr (held (observablesQuery (exportedId record)))))) (fun read after hread => ?_)
    have heach : ∀ item ∈ read, ∀ log, Announces (exportTask server fuel item log) log
        (TaskPart held item) (wholeTask held item) := by
      intro item hitem log
      obtain ⟨k, hk⟩ := hread
      rw [hk] at hitem
      obtain ⟨task, rfl⟩ := h.records _ item (List.mem_of_mem_take hitem)
      exact announces_task h hfuel task log
    refine (announces_each heach after).bind
      (fun tasks => Json.obj (Json.assign (Json.assign record "_tasks" (.arr tasks)) "_observables"
        (.arr (held (observablesQuery (exportedId record)))))) (fun tasks after' htasks => ?_)
    refine (announces_search h hfuel (observablesQuery (exportedId record)) after').bind
      (fun observables => Json.obj (Json.assign (Json.assign record "_tasks" (.arr tasks))
        "_observables" (.arr observables))) (fun observables after'' hobservables => ?_)
    exact announces_ok (.named record read tasks observables hid hread htasks hobservables)
  · rename_i hid
    exact announces_ok (.unnamed record (Bool.not_eq_true _ ▸ hid))

/-- **What an export holds.**  It comes to its end, whatever is refused: with the first pages of
the cases, each with the first pages of what belongs to it; and with everything, when nothing is
printed. -/
theorem export_cases_complete (h : ThehiveHolds server held)
    (hfuel : ∀ q, (held q).length / exportPageSize < fuel) :
    ∃ cases after, exportCases server fuel ⟨0, []⟩ = .ok (cases, after) ∧
      (∃ read, FirstPages (held casesQuery) read ∧ read.Forall₂ (CasePart held) cases) ∧
      (after.warnings = [] → cases = (held casesQuery).map (wholeCase held)) := by
  have hexport : Announces (exportCases server fuel ⟨0, []⟩) ⟨0, []⟩
      (fun cases => ∃ read, FirstPages (held casesQuery) read ∧
        read.Forall₂ (CasePart held) cases)
      ((held casesQuery).map (wholeCase held)) := by
    refine (announces_search h hfuel casesQuery ⟨0, []⟩).bind
      (fun read => read.map (wholeCase held)) (fun read after hread => ?_)
    have heach : ∀ item ∈ read, ∀ log, Announces (exportCase server fuel item log) log
        (CasePart held item) (wholeCase held item) := by
      intro item hitem log
      obtain ⟨k, hk⟩ := hread
      rw [hk] at hitem
      obtain ⟨record, rfl⟩ := h.records _ item (List.mem_of_mem_take hitem)
      exact announces_case h hfuel record log
    obtain ⟨cases, after', printed, hop, hwarnings, hpart, hwhole⟩ := announces_each heach after
    exact ⟨cases, after', printed, hop, hwarnings, ⟨read, hread, hpart⟩, hwhole⟩
  obtain ⟨cases, after, printed, hop, hwarnings, hpart, hwhole⟩ := hexport
  refine ⟨cases, after, hop, hpart, fun hnone => hwhole ?_⟩
  rw [hnone] at hwarnings
  exact hwarnings.symm

end Export

/-! ## One case -/

/-- A server that refuses nothing. -/
theorem Serves.answersOrRefuses {α : Type} {pages : SearchServer α} {list : List α}
    (h : Serves pages list) : AnswersOrRefuses pages list where
  within first last hfirst := Or.inl (h.within first last hfirst)
  behind := by
    intro first last hfirst
    rcases h.behind first last hfirst with hempty | ⟨text, hrefused⟩
    · exact Or.inl hempty
    · exact Or.inr ⟨416, text, hrefused⟩

/-- A case with a task, which has two pages of logs. -/
def onePhishingCase (q : ThehiveQuery) : List Json :=
  if q.endpoint = "case" then [.obj [("_id", .str "~1"), ("title", .str "Phishing")]]
  else if q.endpoint = "case/task" then [.obj [("_id", .str "~2"), ("title", .str "Triage")]]
  else if q.endpoint = "case/task/log" then
    (List.range 250).map (fun (n : Nat) =>
      .obj [("message", .str "Sender blocked"), ("order", .int n)])
  else []

/-- The second page of the logs is refused. -/
def failingServer : ThehiveServer := fun _ q first last =>
  if q.endpoint = "case/task/log" ∧ 200 ≤ first then .status 500 "Internal Server Error"
  else listServer (onePhishingCase q) first last

theorem thehiveHolds_onePhishingCase : ThehiveHolds failingServer onePhishingCase where
  answers n q := by
    have hserves := (serves_listServer (onePhishingCase q)).answersOrRefuses
    refine ⟨fun first last hfirst => ?_, fun first last hfirst => ?_⟩
    · unfold failingServer
      split
      · exact Or.inr ⟨500, _, by decide, rfl⟩
      · exact hserves.within first last hfirst
    · unfold failingServer
      split
      · exact Or.inr ⟨500, _, rfl⟩
      · exact hserves.behind first last hfirst
  records := by
    intro q item hitem
    unfold onePhishingCase at hitem
    split at hitem
    · exact ⟨_, List.mem_singleton.mp hitem⟩
    · split at hitem
      · exact ⟨_, List.mem_singleton.mp hitem⟩
      · split at hitem
        · obtain ⟨n, -, rfl⟩ := List.mem_map.mp hitem
          exact ⟨_, rfl⟩
        · cases hitem

theorem length_onePhishingCase (q : ThehiveQuery) :
    (onePhishingCase q).length / exportPageSize < 2 := by
  unfold onePhishingCase
  split
  · decide
  · split
    · decide
    · split
      · rw [List.length_map, List.length_range]
        decide
      · decide

/-- The export holds the first page of the logs, and says so. -/
theorem export_cases_of_one_case :
    ∃ cases after,
      exportCases failingServer 2 ⟨0, []⟩ = .ok (cases, after) ∧
      (∃ read, FirstPages (onePhishingCase casesQuery) read ∧
        read.Forall₂ (CasePart onePhishingCase) cases) ∧
      after.warnings = [("case/task/log", 500, "Internal Server Error")] := by
  obtain ⟨cases, after, hexport, hparts, -⟩ :=
    export_cases_complete thehiveHolds_onePhishingCase length_onePhishingCase
  have hwarnings : (exportCases failingServer 2 ⟨0, []⟩).toOption.map (fun out => out.2.warnings) =
      some [("case/task/log", 500, "Internal Server Error")] := by decide +kernel
  rw [hexport] at hwarnings
  exact ⟨cases, after, hexport, hparts, Option.some.inj hwarnings⟩

end OpenSoar
