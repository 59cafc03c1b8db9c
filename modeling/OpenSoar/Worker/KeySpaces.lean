/-
# `OpenSoar.Worker.KeySpaces` — which slots share a key

`_inflight_key` joins the partner, the type and the value by colons, with `-` for no partner.
The types have no colon, but partners and most values are whatever a payload says.  So the slots
of the observables that ingests come to have different keys exactly where not both `-` and no
partner are in use, and no partner is another one followed by a colon, a type and the beginning
of a value of that type (`inflightKey_injOn_iff`).  An address has no colon, and a URL its scheme
before it.

With the keys of the cache (`OpenSoar.Integrations.Sources`) that makes `keySpaces_apart_iff`.
-/
import OpenSoar.Ingestion.Columns
import OpenSoar.Ingestion.Indicators
import OpenSoar.Integrations.Sources
import OpenSoar.Python.Ascii
import OpenSoar.Worker.Enrichment
import OpenSoar.Worker.Inflight

namespace OpenSoar

open Python

/-! ## The slots of an ingest -/

/-- The type of the observables of a class. -/
def IocClass.type : IocClass → String
  | .ip => "ip"
  | .hash => "hash"
  | .url => "url"
  | .domain => "domain"

/-- The slot is for an indicator and the partner of an alert that `process_webhook` makes of a
payload, and the indicator fits its column. -/
def IngestedSlot (py : PyText) (slot : InflightSlot) : Prop :=
  ∃ call n alert, normalizeAlert py call.payload call.source = .ok n ∧
    newAlert call n = .ok alert ∧
    (slot.type, slot.value) ∈ iterObservableCandidates alert.iocs ∧ slot.value.length ≤ 1000 ∧
    slot.partner = alert.partner.map (·.val)

/-- The slots of the partners in use. -/
def slotsOf (py : PyText) (partners : Set (Option (Varchar 100))) : Set InflightSlot :=
  {slot | IngestedSlot py slot ∧ ∃ partner ∈ partners, slot.partner = partner.map (·.val)}

/-- A type and, behind a colon, the beginning of a value of the type that can have another colon
after it. -/
inductive Opens : String → Prop
  | bare (type : String) : type ∈ ["hash", "domain"] → Opens type
  | text (type rest : String) : type ∈ ["hash", "domain"] → Opens (type ++ ":" ++ rest)
  | url (rest : String) : HttpUrl rest → Opens ("url:" ++ rest)

/-- `-` and no partner are not both in use, and no partner is another one followed by a colon and
what opens a value. -/
structure PartnersApart (partners : Set (Option (Varchar 100))) : Prop where
  dash : none ∈ partners → ∀ partner : Varchar 100, partner.val = "-" → some partner ∉ partners
  opening : ∀ partner ∈ partners, ∀ longer ∈ partners, ∀ text : String,
    partnerOrDash (longer.map (·.val)) = partnerOrDash (partner.map (·.val)) ++ ":" ++ text →
      ¬ Opens text

/-! ## Which observables there are -/

section Candidates

variable {py : PyText} {payload iocs : Dict} {type value : String} {c : IocClass}

theorem observableType_name (c : IocClass) : observableType c.name = some c.type := by
  cases c <;> rfl

/-- The candidates of a payload are the strings filed under a class, but for the empty one. -/
theorem mem_candidates (h : extractIocs py payload = .ok iocs) :
    (type, value) ∈ iterObservableCandidates (some iocs) ↔
      value ≠ "" ∧ ∃ c : IocClass, type = c.type ∧ FiledBelow py c value 0 (.obj payload) := by
  unfold iterObservableCandidates
  rw [mem_distinctOn_id, List.mem_flatMap]
  constructor
  · rintro ⟨⟨name, values⟩, hentry, hmem⟩
    obtain ⟨c, items, rfl, rfl, -⟩ := lists_extractIocs h hentry
    simp only [candidatesUnder, observableType_name, List.mem_filterMap, List.mem_map,
      Option.map_eq_some_iff, Option.filter_eq_some_iff] at hmem
    obtain ⟨item, ⟨text, htext, rfl⟩, found, ⟨hfound, hne⟩, heq⟩ := hmem
    cases hfound
    cases heq
    refine ⟨of_decide_eq_true hne, c, rfl, (listedAs_iff h).mp ?_⟩
    exact ⟨_, hentry, List.mem_map_of_mem htext⟩
  · rintro ⟨hne, c, rfl, hfiled⟩
    obtain ⟨items, hentry, hitem⟩ := (listedAs_iff h).mpr hfiled
    refine ⟨_, hentry, ?_⟩
    simp only [candidatesUnder, observableType_name, List.mem_filterMap]
    refine ⟨_, hitem, ?_⟩
    simp [Json.string?, Option.filter, hne]

/-- A character that is no separator stands in a part. -/
theorem mem_part {s : List Char} {sep ch : Char} (hsep : ch ≠ sep) (h : ch ∈ s) :
    ∃ part ∈ s.splitOn sep, ch ∈ part := by
  have hparts : ∀ parts : List (List Char), ch ∈ [sep].intercalate parts →
      ∃ part ∈ parts, ch ∈ part := by
    intro parts hch
    induction parts with
    | nil => exact absurd hch List.not_mem_nil
    | cons part parts ih =>
        cases parts with
        | nil => exact ⟨part, List.mem_cons_self, by rwa [List.intercalate_singleton] at hch⟩
        | cons next parts =>
            rw [List.intercalate_cons_cons, List.mem_append, List.mem_append,
              List.mem_singleton] at hch
            rcases hch with (hpart | heq) | hrest
            · exact ⟨part, List.mem_cons_self, hpart⟩
            · exact absurd heq hsep
            · obtain ⟨found, hfound, hmem⟩ := ih hrest
              exact ⟨found, List.mem_cons_of_mem part hfound, hmem⟩
  refine hparts _ ?_
  rwa [List.intercalate_splitOn]

/-- An address has no colon. -/
theorem DottedQuad.no_colon (hpy : py.OnAscii) (h : DottedQuad py value) : ':' ∉ value.toList := by
  intro hcolon
  obtain ⟨part, hpart, hmem⟩ := mem_part (by decide : ':' ≠ '.') hcolon
  obtain ⟨-, n, hn, -⟩ := h.2 part hpart
  have hnone : pyInt py 10 part = none := by
    refine pyInt_none (by decide) (by decide) (by decide) ?_ ?_ hmem
    · rw [hpy.isSpace ':' (by decide)]
      rfl
    · rw [digitValue_ascii hpy (by decide)]
      decide
  cases hnone.symm.trans hn

/-- The candidates of an alert that was ingested. -/
theorem IngestedSlot.filed {slot : InflightSlot} (h : IngestedSlot py slot) :
    ∃ (c : IocClass) (key : String), slot.type = c.type ∧ Filed py key slot.value c := by
  obtain ⟨call, n, alert, hn, halert, hmem, -⟩ := h
  have hiocs := newAlert_iocs halert
  unfold normalizeAlert at hn
  obtain ⟨iocs, hextract, hn⟩ := bind_ok hn
  cases hn
  rw [hiocs] at hmem
  obtain ⟨-, c, htype, key, val, -, rfl, hfiled⟩ := (mem_candidates hextract).mp hmem
  exact ⟨c, key, htype, hfiled⟩

end Candidates

/-! ## Slots that share a key -/

section Shared

variable {py : PyText}

theorem type_no_colon (c : IocClass) : ':' ∉ c.type.toList := by
  cases c <;> decide

/-- A slot's key, from behind what all keys begin with. -/
theorem inflightKey_toList (slot : InflightSlot) : slot.key.toList =
    "opensoar:enrich:inflight:".toList ++ ((partnerOrDash slot.partner).toList ++
      ':' :: (slot.type.toList ++ ':' :: slot.value.toList)) := by
  unfold InflightSlot.key
  generalize "opensoar:enrich:inflight:" = start
  simp [String.toList_append]

theorem inflightKey_eq_iff {slot slot' : InflightSlot} : slot.key = slot'.key ↔
    (partnerOrDash slot.partner).toList ++ ':' :: (slot.type.toList ++ ':' :: slot.value.toList) =
      (partnerOrDash slot'.partner).toList ++
        ':' :: (slot'.type.toList ++ ':' :: slot'.value.toList) := by
  rw [← String.toList_inj, inflightKey_toList, inflightKey_toList, List.append_cancel_left_eq]

/-- A URL has its scheme before the colon that ends a type. -/
theorem httpUrl_of_append {rest : List Char} {c : IocClass} {more : List Char}
    {value : String} (h : HttpUrl value)
    (hvalue : value.toList = rest ++ ':' :: (c.type.toList ++ ':' :: more)) :
    HttpUrl (String.ofList rest) := by
  have hrest : ∀ scheme : List Char, ':' ∉ scheme → scheme ++ ':' :: "//".toList <+: value.toList →
      scheme ++ ':' :: "//".toList <+: rest := by
    intro scheme hscheme hbegins
    rw [hvalue] at hbegins
    rcases List.prefix_or_prefix_of_prefix hbegins (List.prefix_append rest _) with hle | hle
    · exact hle
    · -- what is left of it would begin with the colon, and the type with a slash
      obtain ⟨tail, htail⟩ := hle
      rw [← htail, List.prefix_append_right_inj] at hbegins
      cases tail with
      | nil => rw [← htail, List.append_nil]
      | cons ch tail =>
          obtain ⟨rfl, hbegins⟩ := List.cons_prefix_cons.mp hbegins
          rcases append_separator_cases htail with ⟨-, rfl⟩ | ⟨more, hmore, -⟩ | ⟨more, -, hmore⟩
          · obtain ⟨after, hafter⟩ := hbegins
            cases c <;> cases hafter
          · exact absurd (by rw [hmore]; simp) hscheme
          · exact absurd (by rw [hmore]; simp) (by decide : ':' ∉ "//".toList)
  have hhttp : "http".toList ++ ':' :: "//".toList = "http://".toList := by decide
  have hhttps : "https".toList ++ ':' :: "//".toList = "https://".toList := by decide
  unfold HttpUrl at h ⊢
  have hof : (String.ofList rest).toList = rest := String.toList_ofList
  rw [hof, ← hhttp, ← hhttps]
  rw [← hhttp, ← hhttps] at h
  exact h.imp (hrest _ (by decide)) (hrest _ (by decide))

/-- The partner of a slot whose key is another slot's goes on, where the other's ends, with what
opens the value of the other. -/
theorem opens_of_shared (hpy : py.OnAscii) {slot : InflightSlot} (hslot : IngestedSlot py slot)
    {c : IocClass} {more value : List Char}
    (h : slot.type.toList ++ ':' :: slot.value.toList =
      more ++ ':' :: (c.type.toList ++ ':' :: value)) :
    Opens (String.ofList more) := by
  obtain ⟨own, key, htype, hfiled⟩ := hslot.filed
  rw [htype] at h
  rcases append_separator_cases h with ⟨hmore, hvalue⟩ | ⟨rest, hmore, hvalue⟩ | ⟨rest, hrest, -⟩
  · -- the value begins with the other type
    rw [← hmore, String.ofList_toList]
    cases own with
    | hash => exact .bare "hash" (by decide)
    | domain => exact .bare "domain" (by decide)
    | ip =>
        have hquad : DottedQuad py slot.value := hfiled.2
        exact absurd (by rw [hvalue]; simp) (hquad.no_colon hpy)
    | url =>
        -- no type begins as a URL does
        have hurl : HttpUrl slot.value := hfiled.2.1
        unfold HttpUrl at hurl
        rw [hvalue] at hurl
        rcases hurl with ⟨after, hafter⟩ | ⟨after, hafter⟩
        · cases c <;> cases hafter
        · cases c <;> cases hafter
  · have htext : String.ofList more = own.type ++ ":" ++ String.ofList rest := by
      rw [← String.toList_inj, String.toList_ofList, hmore]
      simp [String.toList_append]
    rw [htext]
    cases own with
    | hash => exact .text "hash" _ (by decide)
    | domain => exact .text "domain" _ (by decide)
    | ip =>
        have hquad : DottedQuad py slot.value := hfiled.2
        exact absurd (by rw [hvalue]; simp) (hquad.no_colon hpy)
    | url =>
        have hurl : HttpUrl slot.value := hfiled.2.1
        exact .url _ (httpUrl_of_append hurl hvalue)
  · -- a type has no colon
    exact absurd (by rw [hrest]; simp) (type_no_colon own)

theorem partnerOrDash_inj {partners : Set (Option (Varchar 100))}
    (hnamed : ∀ partner : Varchar 100, some partner ∈ partners → partner.val ≠ "")
    (hdash : none ∈ partners → ∀ partner : Varchar 100, partner.val = "-" → some partner ∉ partners)
    {partner other : Option (Varchar 100)} (hpartner : partner ∈ partners)
    (hother : other ∈ partners)
    (h : partnerOrDash (partner.map (·.val)) = partnerOrDash (other.map (·.val))) :
    partner = other := by
  cases partner with
  | none =>
      cases other with
      | none => rfl
      | some other =>
          have hval : "-" = other.val := by
            simpa [partnerOrDash, hnamed other hother] using h
          exact absurd hother (hdash hpartner other hval.symm)
  | some partner =>
      cases other with
      | none =>
          have hval : partner.val = "-" := by
            simpa [partnerOrDash, hnamed partner hpartner] using h
          exact absurd hpartner (hdash hother partner hval)
      | some other =>
          have hval : partner.val = other.val := by
            simpa [partnerOrDash, hnamed partner hpartner, hnamed other hother] using h
          rw [Varchar.ext_val hval]

/-- Where the partners are apart, a key shows its slot. -/
theorem PartnersApart.slot_eq {partners : Set (Option (Varchar 100))} (hpy : py.OnAscii)
    (hnamed : ∀ partner : Varchar 100, some partner ∈ partners → partner.val ≠ "")
    (hapart : PartnersApart partners) {slot slot' : InflightSlot}
    (hslot : slot ∈ slotsOf py partners)
    (hslot' : slot' ∈ slotsOf py partners) (hkey : slot.key = slot'.key) : slot = slot' := by
  obtain ⟨hingested, partner, hpartner, hof⟩ := hslot
  obtain ⟨hingested', partner', hpartner', hof'⟩ := hslot'
  obtain ⟨c, -, htype, -⟩ := hingested.filed
  obtain ⟨c', -, htype', -⟩ := hingested'.filed
  have hlist := inflightKey_eq_iff.mp hkey
  rw [hof, hof'] at hlist
  -- the text by which one partner goes on opens a value of the other slot
  have hlonger : ∀ {p q : Option (Varchar 100)} {more : List Char}, p ∈ partners → q ∈ partners →
      (partnerOrDash (q.map (·.val))).toList =
        (partnerOrDash (p.map (·.val))).toList ++ ':' :: more → ¬ Opens (String.ofList more) := by
    intro p q more hp hq hmore
    refine hapart.opening p hp q hq _ ?_
    rw [← String.toList_inj, hmore]
    simp [String.toList_append]
  rcases append_separator_cases hlist with ⟨hsame, hrest⟩ | ⟨more, hmore, hrest⟩
    | ⟨more, hmore, hrest⟩
  · obtain ⟨htypes, hvalues⟩ := append_separator_inj (by rw [htype]; exact type_no_colon c)
      (by rw [htype']; exact type_no_colon c') hrest
    have hpartners := partnerOrDash_inj hnamed hapart.dash hpartner hpartner'
      (String.toList_inj.mp hsame)
    obtain ⟨type, value, _⟩ := slot
    obtain ⟨type', value', _⟩ := slot'
    simp only at hof hof' htypes hvalues
    rw [hof, hof', hpartners, String.toList_inj.mp htypes, String.toList_inj.mp hvalues]
  · rw [htype'] at hrest
    exact absurd (opens_of_shared hpy hingested hrest) (hlonger hpartner hpartner' hmore)
  · rw [htype] at hrest
    exact absurd (opens_of_shared hpy hingested' hrest) (hlonger hpartner' hpartner hmore)

end Shared

/-! ## Payloads for such slots -/

section Payloads

variable {py : PyText}

/-- A payload with one indicator, under its type as a key, and a partner. -/
def indicatorPayload (partner : Option (Varchar 100)) (c : IocClass) (value : String) : Dict :=
  (partner.map fun name => ("partner", Json.str name.val)).toList ++ [(c.type, .str value)]

theorem lower_type (hpy : py.OnAscii) (c : IocClass) : py.lower c.type.toList = c.type.toList := by
  rw [hpy.lower _ (by cases c <;> decide)]
  cases c <;> decide

/-- The payload has nothing under any other key. -/
theorem extractField_indicator {partner : Option (Varchar 100)} {c : IocClass} {value : String}
    {fieldPaths : List String} {default : Json}
    (hpaths : ∀ path ∈ fieldPaths, ∀ key ∈ (splitDots path).head?,
      key ∉ ["partner", "ip", "hash", "url", "domain"]) :
    extractField (indicatorPayload partner c value) fieldPaths default = default := by
  have hkeys : ∀ key : String, key ∉ ["partner", "ip", "hash", "url", "domain"] →
      Json.get (indicatorPayload partner c value) key = .null := by
    intro key hkey
    simp only [List.mem_cons, List.not_mem_nil, or_false, not_or] at hkey
    obtain ⟨hpartner, hip, hhash, hurl, hdomain⟩ := hkey
    have hfirst : (key == "partner") = false := beq_false_of_ne hpartner
    have htype : (key == c.type) = false := by
      refine beq_false_of_ne ?_
      cases c <;> assumption
    cases partner with
    | none => simp [Json.get, indicatorPayload, List.lookup_cons, htype]
    | some name => simp [Json.get, indicatorPayload, List.lookup_cons, hfirst, htype]
  have hnone : ∀ path ∈ fieldPaths,
      followPath (.obj (indicatorPayload partner c value)) (splitDots path) = .null := by
    intro path hpath
    have hkey := hpaths path hpath
    cases hparts : splitDots path with
    | nil => exact absurd (List.map_eq_nil_iff.mp hparts) (List.splitOn_ne_nil _ _)
    | cons key rest =>
        rw [hparts] at hkey
        rw [followPath, hkeys key (hkey key rfl)]
        cases rest <;> rfl
  unfold extractField
  rw [List.find?_eq_none.mpr (fun path hpath => by rw [hnone path hpath]; decide)]

/-- Under those keys it has the partner. -/
theorem extractField_partner (partner : Option (Varchar 100)) (c : IocClass) (value : String) :
    extractField (indicatorPayload partner c value)
        ["partner", "tenant", "customer", "organization"] .null =
      (partner.map (fun name => Json.str name.val)).getD .null := by
  cases partner with
  | none => cases c <;> rfl
  | some name => rfl

/-- No string of it makes the search for indicators raise, unless the value does. -/
theorem indicator_reads (hpy : py.OnAscii) {c : IocClass} {value : String}
    (hread : ¬ UnreadableQuad py value) (partner : Option (Varchar 100)) :
    ¬ RaisesBelow py 0 (.obj (indicatorPayload partner c value)) := by
  have hpartner : ¬ TriedAsAddress py "partner" := by
    unfold TriedAsAddress
    rw [hpy.lower _ (by decide)]
    decide
  have hone : ¬ RaisesBelow py 0 (.obj [(c.type, .str value)]) := by
    rw [raisesBelow_cons_string (by decide), not_or]
    refine ⟨fun h => hread h.2, ?_⟩
    rintro ⟨key, val, hreached, -⟩
    cases hreached with
    | string _ hmem => cases hmem
    | field _ hmem _ => cases hmem
  cases partner with
  | none => exact hone
  | some name =>
      show ¬ RaisesBelow py 0 (.obj (("partner", .str name.val) :: [(c.type, .str value)]))
      rw [raisesBelow_cons_string (by decide), not_or]
      exact ⟨fun h => hpartner h.1, hone⟩

/-- It fits the columns, and its partner is stored. -/
theorem indicator_stored {partner : Option (Varchar 100)} {c : IocClass} {value : String}
    {n : NormalizedAlert}
    (hn : normalizeAlert py (indicatorPayload partner c value) "webhook" = .ok n) :
    n.FitsColumns ∧ varcharColumn 100 n.partner = .ok partner := by
  unfold normalizeAlert at hn
  obtain ⟨iocs, -, hn⟩ := bind_ok hn
  cases hn
  have hpartner : varcharColumn 100 ((partner.map (fun name => Json.str name.val)).getD .null) =
      .ok partner := by
    cases partner with
    | none => rfl
    | some name =>
        show (column 100 name.val).map some = _
        rw [column_ok name.fits]
        rfl
  have hfits : FitsVarchar 100 ((partner.map (fun name => Json.str name.val)).getD .null) := by
    cases partner with
    | none => exact Or.inl rfl
    | some name => exact Or.inr ⟨name.val, rfl, name.fits⟩
  have htitle : (String.ofList ((Json.str "Untitled Alert").pyStr py)).length ≤ 500 := by
    show (String.ofList "Untitled Alert".toList).length ≤ 500
    decide
  rw [← extractField_partner partner c value] at hpartner hfits
  refine ⟨⟨?_, Or.inl ?_, ?_, Or.inl ?_, Or.inl ?_, Or.inl ?_, Or.inl ?_, ⟨[], ?_⟩, hfits⟩,
    hpartner⟩
  · dsimp only
    rw [extractField_indicator (by decide)]
    decide
  · exact extractField_indicator (by decide)
  · dsimp only
    rw [extractField_indicator (by decide)]
    exact htitle
  · exact extractField_indicator (by decide)
  · exact extractField_indicator (by decide)
  · exact extractField_indicator (by decide)
  · exact extractField_indicator (by decide)
  · exact extractField_indicator (by decide)

/-- Such a payload is ingested with its partner and its indicator. -/
theorem ingestedSlot_of_filed (hpy : py.OnAscii) {c : IocClass} {value : String}
    (hfiled : Filed py c.type value c) (hne : value ≠ "") (hlength : value.length ≤ 1000)
    (hread : ¬ UnreadableQuad py value) (partner : Option (Varchar 100)) :
    IngestedSlot py ⟨c.type, value, partner.map (·.val)⟩ := by
  obtain ⟨iocs, hiocs⟩ := extractIocs_ok_iff.mpr (@indicator_reads py hpy c value hread partner)
  obtain ⟨n, hn⟩ : ∃ n, normalizeAlert py (indicatorPayload partner c value) "webhook" = .ok n :=
    bind_returns hiocs ⟨_, rfl⟩
  obtain ⟨hfits, hpartner⟩ := indicator_stored hn
  let call : WebhookCall := ⟨indicatorPayload partner c value, "webhook", 1, 2⟩
  obtain ⟨alert, halert⟩ := hfits.newAlert (normalizeAlert_severity hn) call
  have hextracted : alert.iocs = some iocs := by
    rw [newAlert_iocs halert]
    unfold normalizeAlert at hn
    rw [hiocs] at hn
    cases hn
    rfl
  refine ⟨call, n, alert, hn, halert, ?_, hlength, ?_⟩
  · rw [hextracted, mem_candidates hiocs]
    refine ⟨hne, c, rfl, c.type, value, .string (by decide) ?_, rfl, hfiled⟩
    exact List.mem_append_right _ (List.mem_singleton.mpr rfl)
  · obtain ⟨-, -, -, -, -, -, -, hstored, -⟩ := newAlert_ok halert
    rw [hpartner] at hstored
    cases hstored
    rfl

/-- A text that ends in four dots has too many parts for an address. -/
theorem parts_of_dots (start : String) : ((start ++ "....").toList.splitOn '.').length ≠ 4 := by
  have hdots : (start ++ "....").toList = start.toList ++ '.' :: "...".toList := by
    simp [String.toList_append]
  have hfour : ("...".toList.splitOn '.').length = 4 := by decide
  have hsome : start.toList.splitOn '.' ≠ [] := List.splitOn_ne_nil _ _
  have hpos := List.length_pos_iff.mpr hsome
  rw [hdots, List.splitOn_append_cons_self, List.length_append, hfour]
  omega

/-- What can stand under the name of a type, and ends in four dots, is ingested with every
partner. -/
theorem ingestedSlot_of_dots (hpy : py.OnAscii) {c : IocClass} {start : String}
    (hlength : start.length ≤ 900)
    (hclass : c = .hash ∨ c = .domain ∨ (c = .url ∧ HttpUrl (start ++ "....")))
    (partner : Option (Varchar 100)) :
    IngestedSlot py ⟨c.type, start ++ "....", partner.map (·.val)⟩ := by
  have hdots := parts_of_dots start
  have hquad : ¬ DottedQuad py (start ++ "....") := fun h => hdots h.1
  have hread : ¬ UnreadableQuad py (start ++ "....") := by
    rintro ⟨before, octet, after, -, hfour, -⟩
    exact hdots hfour
  have hlower := lower_type hpy c
  have hsize : (start ++ "....").length = start.length + 4 := by
    rw [String.length_append]
    rfl
  refine ingestedSlot_of_filed hpy ?_ ?_ (by omega) hread partner
  · rcases hclass with rfl | rfl | ⟨rfl, hurl⟩
    · refine ⟨Or.inl ?_, fun h => hquad h.2⟩
      rw [hlower]
      decide
    · refine ⟨Or.inl ?_, by simp [String.toList_append], hquad, ?_⟩
      · rw [hlower]
        decide
      · unfold HashKey
        rw [hlower]
        decide
    · refine ⟨?_, hurl, fun h => hquad h.2, ?_, ?_⟩
      · unfold UrlKey
        rw [hlower]
        decide
      · unfold HashKey
        rw [hlower]
        decide
      · unfold HostKey
        rw [hlower]
        decide
  · intro hempty
    rw [hempty] at hsize
    cases hsize

/-- What opens a value is opened: one that is ingested has it before the key of a hash. -/
theorem Opens.value {text : String} (h : Opens text) : ∃ (c : IocClass) (start : String),
    start.length ≤ text.length + 6 ∧
      (c = .hash ∨ c = .domain ∨ (c = .url ∧ HttpUrl (start ++ "...."))) ∧
        c.type ++ ":" ++ start = text ++ ":hash:" := by
  have hbehind : ∀ opening rest : String,
      (rest ++ ":hash:").length ≤ (opening ++ rest).length + 6 := by
    intro opening rest
    have hsix : ":hash:".length = 6 := rfl
    simp only [String.length_append]
    omega
  cases h with
  | bare type htype =>
      simp only [List.mem_cons, List.not_mem_nil, or_false] at htype
      have hlength : "hash:".length ≤ text.length + 6 := Nat.le_add_left_of_le (by decide)
      rcases htype with rfl | rfl
      · exact ⟨.hash, "hash:", hlength, Or.inl rfl, rfl⟩
      · exact ⟨.domain, "hash:", hlength, Or.inr (Or.inl rfl), rfl⟩
  | text type rest htype =>
      simp only [List.mem_cons, List.not_mem_nil, or_false] at htype
      rcases htype with rfl | rfl
      · exact ⟨.hash, rest ++ ":hash:", hbehind _ rest, Or.inl rfl, (String.append_assoc ..).symm⟩
      · exact ⟨.domain, rest ++ ":hash:", hbehind _ rest, Or.inr (Or.inl rfl),
          (String.append_assoc ..).symm⟩
  | url rest hurl =>
      refine ⟨.url, rest ++ ":hash:", hbehind _ rest, Or.inr (Or.inr ⟨rfl, ?_⟩),
        (String.append_assoc ..).symm⟩
      have hbegins : ∀ scheme : List Char, scheme <+: rest.toList →
          scheme <+: (rest ++ ":hash:" ++ "....").toList := by
        intro scheme hscheme
        rw [String.toList_append, String.toList_append, List.append_assoc]
        exact hscheme.trans (List.prefix_append _ _)
      exact hurl.imp (hbegins _) (hbegins _)

theorem length_partnerOrDash (partner : Option (Varchar 100)) :
    (partnerOrDash (partner.map (·.val))).length ≤ 100 := by
  cases partner with
  | none => decide
  | some name =>
      unfold partnerOrDash
      simp only [Option.map_some]
      split_ifs
      · decide
      · exact name.fits

end Payloads

/-! ## When the keys are apart -/

/-- **The keys of the slots** are told apart exactly where the partners are. -/
theorem inflightKey_injOn_iff {py : PyText}
    (hpy : py.OnAscii) {partners : Set (Option (Varchar 100))}
    (hnamed : ∀ partner : Varchar 100, some partner ∈ partners → partner.val ≠ "") :
    Set.InjOn InflightSlot.key (slotsOf py partners) ↔ PartnersApart partners := by
  constructor
  · intro hinj
    have hdots : ∀ partner ∈ partners,
        (⟨"hash", "" ++ "....", partner.map (·.val)⟩ : InflightSlot) ∈ slotsOf py partners :=
      fun partner hpartner =>
        ⟨@ingestedSlot_of_dots py hpy .hash "" (by decide) (Or.inl rfl) partner,
        partner, hpartner, rfl⟩
    constructor
    · intro hnone partner hval hpartner
      have hshown : partnerOrDash ((none : Option (Varchar 100)).map (·.val)) =
          partnerOrDash ((some partner).map (·.val)) := by
        rw [Option.map_some, hval]
        rfl
      have hsame := hinj (hdots none hnone) (hdots (some partner) hpartner)
        (inflightKey_eq_iff.mpr (by rw [hshown]))
      cases congrArg InflightSlot.partner hsame
    · intro partner hpartner longer hlonger text hgoes hopens
      obtain ⟨c, start, hlength, hclass, htext⟩ := hopens.value
      have hlonger' := length_partnerOrDash longer
      have hcolon : ":".length = 1 := rfl
      rw [hgoes] at hlonger'
      simp only [String.length_append, hcolon] at hlonger'
      have hslot : (⟨c.type, start ++ "....", partner.map (·.val)⟩ : InflightSlot) ∈
          slotsOf py partners :=
        ⟨ingestedSlot_of_dots hpy (by omega) hclass partner, partner, hpartner, rfl⟩
      have hkey : (partnerOrDash (partner.map (·.val))).toList ++
          ':' :: (c.type.toList ++ ':' :: (start ++ "....").toList) =
          (partnerOrDash (longer.map (·.val))).toList ++
            ':' :: ("hash".toList ++ ':' :: ("" ++ "....").toList) := by
        have hopened : c.type.toList ++ ':' :: start.toList =
            text.toList ++ ':' :: ("hash".toList ++ [':']) := by
          have hlist := congrArg String.toList htext
          simp only [String.toList_append, List.append_assoc] at hlist
          exact hlist
        have hdotted : (start ++ "....").toList = start.toList ++ ("" ++ "....").toList := by
          rw [String.toList_append]
          rfl
        have hlong : (partnerOrDash (longer.map (·.val))).toList =
            (partnerOrDash (partner.map (·.val))).toList ++ ':' :: text.toList := by
          rw [hgoes]
          simp [String.toList_append]
        have hmoved : c.type.toList ++ ':' :: (start.toList ++ ("" ++ "....").toList) =
            text.toList ++ ':' :: ("hash".toList ++ ':' :: ("" ++ "....").toList) := by
          rw [← List.cons_append, ← List.append_assoc, hopened, List.append_assoc,
            List.cons_append, List.append_assoc, List.singleton_append]
        rw [hlong, hdotted, hmoved, List.append_assoc, List.cons_append]
      have hsame := hinj hslot (hdots longer hlonger) (inflightKey_eq_iff.mpr hkey)
      have hpartners := congrArg (fun slot => partnerOrDash slot.partner) hsame
      exact append_colon_ne _ text (hgoes.symm.trans hpartners.symm)
  · exact fun hapart slot hslot slot' hslot' hkey => hapart.slot_eq hpy hnamed hslot hslot' hkey

/-- Partners without colons are apart, unless one is `-`. -/
theorem partnersApart_of_no_colon {partners : Set (Option (Varchar 100))}
    (h : ∀ partner : Varchar 100, some partner ∈ partners →
      ':' ∉ partner.val.toList ∧ partner.val ≠ "-") : PartnersApart partners := by
  constructor
  · exact fun _ partner hval hpartner => (h partner hpartner).2 hval
  · intro partner _ longer hlonger text hgoes _
    have hcolon : ':' ∈ (partnerOrDash (longer.map (·.val))).toList := by
      rw [hgoes]
      simp [String.toList_append]
    cases longer with
    | none => exact absurd hcolon (by decide)
    | some name =>
        unfold partnerOrDash at hcolon
        simp only [Option.map_some] at hcolon
        split_ifs at hcolon
        · exact absurd hcolon (by decide)
        · exact (h name hlonger).1 hcolon

/-- **The key spaces.**  Slots of the partners in use have different keys exactly where the
partners are apart; entries of the sources in use do exactly where the sources are, for values
whose digests differ; and there, in memory, an invalidation deletes the entries of its source and
no others.  In Redis it does when the patterns of the sources mean what they say, too. -/
theorem keySpaces_apart_iff {py : PyText} (hpy : py.OnAscii)
    {partners : Set (Option (Varchar 100))} {sources values : Set String}
    (hnamed : ∀ partner : Varchar 100, some partner ∈ partners → partner.val ≠ "")
    (hvalues : values.Nonempty) (hdigest : Set.InjOn digest values) :
    (Set.InjOn InflightSlot.key (slotsOf py partners) ↔ PartnersApart partners) ∧
      (Set.InjOn (fun entry : String × String × String => buildKey entry.1 entry.2.1 entry.2.2)
        (sources ×ˢ Set.univ ×ˢ values) ↔ SourcesApart sources) ∧
      (InvalidatesExactly inMemoryCacheBackend inMemoryStep sources ↔ SourcesApart sources) ∧
      (InvalidatesExactly redisCacheBackend redisStep sources ↔
        SourcesApart sources ∧ PatternsLiteral sources) :=
  ⟨inflightKey_injOn_iff hpy hnamed, buildKey_injOn_iff hvalues hdigest, inMemory_exact_iff,
    redis_exact_iff⟩

/-- One partner beside none, and two sources. -/
theorem keySpaces_apart_acme :
    Set.InjOn InflightSlot.key (slotsOf .ascii {none, some (.lit "acme")}) ∧
      InvalidatesExactly redisCacheBackend redisStep {"virustotal", "abuseipdb"} := by
  have hpartners : ∀ partner : Varchar 100,
      some partner ∈ ({none, some (.lit "acme")} : Set (Option (Varchar 100))) →
        partner.val = "acme" := by
    rintro partner (hnone | hacme)
    · cases hnone
    · cases hacme
      rfl
  have hlisted : ∀ source ∈ ["virustotal", "abuseipdb"],
      ':' ∉ source.toList ∧ ∀ c ∈ utf8 source, Glob.Plain c := by decide +kernel
  have hsources : ∀ source ∈ ({"virustotal", "abuseipdb"} : Set String),
      ':' ∉ source.toList ∧ ∀ c ∈ utf8 source, Glob.Plain c :=
    fun source hsource => hlisted source (by simpa using hsource)
  obtain ⟨hslots, -, -, hredis⟩ := @keySpaces_apart_iff .ascii ascii_onAscii
    {none, some (.lit "acme")} {"virustotal", "abuseipdb"} {"203.0.113.9"}
    (fun partner hpartner => by rw [hpartners partner hpartner]; decide) ⟨"203.0.113.9", rfl⟩
    (Set.injOn_singleton _ _)
  refine ⟨hslots.mpr (partnersApart_of_no_colon fun partner hpartner => ?_), hredis.mpr ⟨?_, ?_⟩⟩
  · rw [hpartners partner hpartner]
    decide
  · exact sourcesApart_of_no_colon (fun source hsource => (hsources source hsource).1)
  · exact patternsLiteral_of_plain (fun source hsource => (hsources source hsource).2)

/-- A partner by the name of `-` shares the slots of no partner; the source `vt` has the keys of
`vt:v3`, and is not invalidated without it. -/
theorem key_spaces_collide :
    (¬ ∀ slot slot' : InflightSlot, IngestedSlot .ascii slot → IngestedSlot .ascii slot' →
        slot.partner ≠ some "" → slot'.partner ≠ some "" → slot.key = slot'.key → slot = slot') ∧
      (¬ ∀ source obsType value source' obsType' value' : String,
        buildKey source obsType value = buildKey source' obsType' value' →
          source = source' ∧ obsType = obsType' ∧ digest value = digest value') ∧
      ¬ InvalidatesExactly inMemoryCacheBackend inMemoryStep Set.univ ∧
      ¬ InvalidatesExactly redisCacheBackend redisStep Set.univ := by
  have hapart : ¬ SourcesApart Set.univ := fun h => h "vt" trivial "v3" trivial
  refine ⟨fun h => ?_, fun h => ?_, fun h => hapart (inMemory_exact_iff.mp h),
    fun h => hapart (redis_exact_iff.mp h).1⟩
  · have hslot := fun partner => @ingestedSlot_of_dots .ascii ascii_onAscii .hash "" (by decide)
      (Or.inl rfl) partner
    have hfits : "-".length ≤ 100 := by decide
    have hnamed : (some "-" : Option String) ≠ some "" := by decide
    have hsame := h _ _ (hslot none) (hslot (some ⟨"-", hfits⟩)) (by decide) hnamed rfl
    cases congrArg InflightSlot.partner hsame
  · exact absurd (h _ _ "" _ _ "" (buildKey_shared "vt" "v3" "ip" "")).1 (by decide)

end OpenSoar
