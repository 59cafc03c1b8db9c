/-
# `OpenSoar.Ingestion.Payload` — which values of a payload the normaliser reads

The two ways `normalize_alert` looks into a payload, each as a relation beside the
function that computes it.  `First` says which value `extract_field` finds: the one its
first path with a value leads to (`extractField_first`, `extractField_none`).  `Reached`
says which strings `extract_iocs` looks at, and under which key (`walk_error`): the walk
raises exactly when one of them does.
-/
import OpenSoar.Ingestion.Normalize

namespace OpenSoar

open Python

/-! ## The fields -/

/-- The parts of a path lead through nested dicts to a value. -/
inductive Leads : Json → List String → Json → Prop
  | here (value : Json) : Leads value [] value
  | under {fields : List (String × Json)} {part : String} {parts : List String} {found : Json} :
      Leads (Json.get fields part) parts found → Leads (.obj fields) (part :: parts) found

theorem Leads.followPath {value found : Json} {parts : List String} (h : Leads value parts found) :
    followPath value parts = found := by
  induction h with
  | here value => cases value <;> rfl
  | under _ ih => exact ih

/-- `followPath` makes a value of every path that leads nowhere: `None`. -/
theorem leads_followPath (parts : List String) (value : Json) :
    Leads value parts (followPath value parts) ∨ followPath value parts = .null := by
  induction parts generalizing value with
  | nil =>
      left
      have hend : OpenSoar.followPath value [] = value := by cases value <;> rfl
      rw [hend]
      exact .here value
  | cons part parts ih =>
      cases value with
      | obj fields => exact (ih (Json.get fields part)).imp Leads.under id
      | null | bool _ | int _ | float _ | str _ | arr _ => exact Or.inr rfl

/-- The value is under one of the paths, and under none of the paths before it is there a
value other than `None`. -/
def First (payload : Dict) (fieldPaths : List String) (found : Json) : Prop :=
  found ≠ .null ∧ ∃ before path after, fieldPaths = before ++ path :: after ∧
    Leads (.obj payload) (splitDots path) found ∧
    ∀ p ∈ before, ∀ value, Leads (.obj payload) (splitDots p) value → value = .null

theorem isNull_eq_true {value : Json} : value.isNull = true ↔ value = .null := by
  cases value <;> simp [Json.isNull]

/-- A path with nothing but `None` at its end. -/
theorem followPath_null_iff {value : Json} {parts : List String} :
    followPath value parts = .null ↔ ∀ found, Leads value parts found → found = .null := by
  constructor
  · intro h found hleads
    rw [← hleads.followPath, h]
  · intro h
    rcases leads_followPath parts value with hleads | hnull
    · exact h _ hleads
    · exact hnull

/-- What `extract_field` returns is found first, or is the default because nothing is. -/
theorem extractField_cases (payload : Dict) (fieldPaths : List String) (default : Json) :
    First payload fieldPaths (extractField payload fieldPaths default) ∨
      (extractField payload fieldPaths default = default ∧
        ∀ path ∈ fieldPaths, followPath (.obj payload) (splitDots path) = .null) := by
  unfold extractField
  split
  · rename_i path hfind
    left
    obtain ⟨hpath, before, after, hsplit, hbefore⟩ := List.find?_eq_some_iff_append.mp hfind
    have hvalue : followPath (.obj payload) (splitDots path) ≠ .null := by
      intro hnull
      simp [hnull, Json.isNull] at hpath
    refine ⟨hvalue, before, path, after, hsplit, ?_, ?_⟩
    · exact (leads_followPath _ _).resolve_right hvalue
    · intro p hp
      have hnull := hbefore p hp
      simp only [Bool.not_not, isNull_eq_true] at hnull
      exact followPath_null_iff.mp hnull
  · rename_i hfind
    refine Or.inr ⟨rfl, ?_⟩
    intro path hpath
    have hnull := List.find?_eq_none.mp hfind path hpath
    simpa [isNull_eq_true] using hnull

theorem extractField_first {payload : Dict} {fieldPaths : List String} {default found : Json}
    (h : First payload fieldPaths found) : extractField payload fieldPaths default = found := by
  obtain ⟨hvalue, before, path, after, rfl, hleads, hbefore⟩ := h
  have hpath : followPath (.obj payload) (splitDots path) = found := hleads.followPath
  have hfind : (before ++ path :: after).find?
      (fun p => !(followPath (.obj payload) (splitDots p)).isNull) = some path := by
    refine List.find?_eq_some_iff_append.mpr ⟨?_, before, after, rfl, ?_⟩
    · have hnull : found.isNull ≠ true := fun h => hvalue (isNull_eq_true.mp h)
      simpa [hpath] using hnull
    · intro p hp
      have hnull := followPath_null_iff.mpr (hbefore p hp)
      simp [hnull, Json.isNull]
  unfold extractField
  rw [hfind]
  exact hpath

/-- What holds of the default holds of the field exactly when it holds of the value that
is found first, if any is. -/
theorem extractField_holds {payload : Dict} {fieldPaths : List String} {default : Json}
    {P : Json → Prop} (hdefault : P default) :
    P (extractField payload fieldPaths default) ↔
      ∀ found, First payload fieldPaths found → P found := by
  constructor
  · intro h found hfirst
    rw [extractField_first hfirst] at h
    exact h
  · intro h
    rcases extractField_cases payload fieldPaths default with hfirst | ⟨hnone, -⟩
    · exact h _ hfirst
    · rw [hnone]
      exact hdefault

/-! ## The walk -/

/-- The walk, entering this value at this depth, comes to a string under a key. -/
inductive Reached : Nat → Json → String → String → Prop
  | string {depth : Nat} {fields : List (String × Json)} {key val : String} :
      depth ≤ 10 → (key, .str val) ∈ fields → Reached depth (.obj fields) key val
  | field {depth : Nat} {fields : List (String × Json)} {name key val : String} {value : Json} :
      depth ≤ 10 → (name, value) ∈ fields → Reached (depth + 1) value key val →
      Reached depth (.obj fields) key val
  | item {depth : Nat} {items : List Json} {key val : String} {value : Json} :
      depth ≤ 10 → value ∈ items → Reached (depth + 1) value key val →
      Reached depth (.arr items) key val

/-- A dotted quad with an octet that passes `isdigit` and that `int` does not read; the
octets before it are in range, so that it is looked at. -/
def UnreadableQuad (py : PyText) (val : String) : Prop :=
  ∃ before octet after, val.toList.splitOn '.' = before ++ octet :: after ∧
    (val.toList.splitOn '.').length = 4 ∧
    (∀ p ∈ before, isDigits py p = true ∧ ∃ n, pyInt py 10 p = some n ∧ 0 ≤ n ∧ n ≤ 255) ∧
    isDigits py octet = true ∧ pyInt py 10 octet = none

/-- The keys whose strings are tried as an address: `ip` in the key, or, where the key
does not name a hash, `domain` or `host` in it. -/
def TriedAsAddress (py : PyText) (key : String) : Prop :=
  let k := py.lower key.toList
  contains "ip".toList k = true ∨
    (contains "hash".toList k || ["md5", "sha1", "sha256"].contains (String.ofList k)) = false ∧
      (contains "domain".toList k || contains "host".toList k) = true

/-- The octets raise exactly on one that `int` does not read, the ones before it being
in range. -/
theorem octetsOk_error {py : PyText} {ps : List (List Char)} :
    (∃ e, octetsOk py ps = .error e) ↔
      ∃ before octet after, ps = before ++ octet :: after ∧
        (∀ p ∈ before, isDigits py p = true ∧ ∃ n, pyInt py 10 p = some n ∧ 0 ≤ n ∧ n ≤ 255) ∧
        isDigits py octet = true ∧ pyInt py 10 octet = none := by
  induction ps with
  | nil =>
      constructor
      · rintro ⟨e, h⟩
        cases h
      · rintro ⟨before, octet, after, h, -⟩
        cases before <;> cases h
  | cons p ps ih =>
      constructor
      · rintro ⟨e, h⟩
        unfold octetsOk at h
        split at h
        · rename_i hdigits
          split at h
          · rename_i hint
            exact ⟨[], p, ps, rfl, by simp, hdigits, hint⟩
          · rename_i n hint
            split at h
            · rename_i hrange
              obtain ⟨before, octet, after, rfl, hbefore, hoctet⟩ := ih.mp ⟨e, h⟩
              refine ⟨p :: before, octet, after, rfl, ?_, hoctet⟩
              intro q hq
              rcases List.mem_cons.mp hq with rfl | hq
              · exact ⟨hdigits, n, hint, hrange⟩
              · exact hbefore q hq
            · cases h
        · cases h
      · rintro ⟨before, octet, after, hsplit, hbefore, hdigits, hint⟩
        cases before with
        | nil =>
            cases hsplit
            cases hresult : octetsOk py (p :: ps) with
            | error e => exact ⟨e, rfl⟩
            | ok b => simp only [octetsOk, hdigits, if_true, hint] at hresult; cases hresult
        | cons q before =>
            cases hsplit
            obtain ⟨hq, n, hn, hrange⟩ := hbefore p List.mem_cons_self
            obtain ⟨e, he⟩ := ih.mpr ⟨before, octet, after, rfl,
              fun q hmem => hbefore q (List.mem_cons_of_mem p hmem), hdigits, hint⟩
            refine ⟨e, ?_⟩
            simp only [octetsOk, hq, if_true, hn, if_pos hrange, he]

theorem looksLikeIp_error {py : PyText} {val : String} :
    (∃ e, looksLikeIp py val = .error e) ↔ UnreadableQuad py val := by
  unfold looksLikeIp
  dsimp only
  split
  · rename_i hlength
    constructor
    · rintro ⟨e, h⟩
      cases h
    · rintro ⟨before, octet, after, -, hfour, -⟩
      exact absurd hfour hlength
  · rename_i hlength
    rw [octetsOk_error]
    constructor
    · rintro ⟨before, octet, after, hsplit, hrest⟩
      exact ⟨before, octet, after, hsplit, not_not.mp hlength, hrest⟩
    · rintro ⟨before, octet, after, hsplit, -, hrest⟩
      exact ⟨before, octet, after, hsplit, hrest⟩

/-- One string raises exactly when its key has it tried as an address and it is an
unreadable quad. -/
theorem addIoc_error {py : PyText} {key val : String} {iocs : Iocs} :
    (∃ e, addIoc py key val iocs = .error e) ↔
      TriedAsAddress py key ∧ UnreadableQuad py val := by
  unfold addIoc TriedAsAddress
  rw [← looksLikeIp_error]
  dsimp only
  generalize contains "ip".toList (py.lower key.toList) = ip
  generalize (contains "hash".toList (py.lower key.toList) ||
    ["md5", "sha1", "sha256"].contains (String.ofList (py.lower key.toList))) = hash
  generalize (contains "domain".toList (py.lower key.toList) ||
    contains "host".toList (py.lower key.toList)) = host
  generalize (contains "url".toList (py.lower key.toList) &&
    ("http://".toList.isPrefixOf val.toList || "https://".toList.isPrefixOf val.toList)) = url
  cases hval : looksLikeIp py val with
  | ok b =>
      cases ip <;> cases hash <;> cases host <;> cases url <;> cases b <;>
        cases val.toList.contains '.' <;> simp [bind, Except.bind, pure, Except.pure]
  | error e =>
      -- a string of four parts has a dot, so a host name of this shape is tried too
      have hdot : val.toList.contains '.' = true := by
        by_contra hno
        obtain ⟨before, octet, after, -, hfour, -⟩ := looksLikeIp_error.mp ⟨e, hval⟩
        have hmem : '.' ∉ val.toList := by simpa using hno
        rw [List.splitOn_eq_singleton hmem] at hfour
        cases hfour
      rw [hdot]
      cases ip <;> cases hash <;> cases host <;> cases url <;>
        simp [bind, Except.bind, pure, Except.pure]

theorem reached_cons_field {depth : Nat} {name key val : String} {value : Json}
    {fields : List (String × Json)} :
    Reached depth (.obj ((name, value) :: fields)) key val ↔
      (depth ≤ 10 ∧ ((name = key ∧ value = .str val) ∨ Reached (depth + 1) value key val)) ∨
        Reached depth (.obj fields) key val := by
  constructor
  · intro h
    cases h with
    | string hdepth hmem =>
        rcases List.mem_cons.mp hmem with heq | hmem
        · cases heq
          exact Or.inl ⟨hdepth, Or.inl ⟨rfl, rfl⟩⟩
        · exact Or.inr (.string hdepth hmem)
    | field hdepth hmem hrest =>
        rcases List.mem_cons.mp hmem with heq | hmem
        · cases heq
          exact Or.inl ⟨hdepth, Or.inr hrest⟩
        · exact Or.inr (.field hdepth hmem hrest)
  · rintro (⟨hdepth, ⟨rfl, rfl⟩ | hrest⟩ | h)
    · exact .string hdepth List.mem_cons_self
    · exact .field hdepth List.mem_cons_self hrest
    · cases h with
      | string hdepth hmem => exact .string hdepth (List.mem_cons_of_mem _ hmem)
      | field hdepth hmem hrest => exact .field hdepth (List.mem_cons_of_mem _ hmem) hrest

theorem reached_cons_item {depth : Nat} {key val : String} {value : Json} {items : List Json} :
    Reached depth (.arr (value :: items)) key val ↔
      (depth ≤ 10 ∧ Reached (depth + 1) value key val) ∨ Reached depth (.arr items) key val := by
  constructor
  · intro h
    cases h with
    | item hdepth hmem hrest =>
        rcases List.mem_cons.mp hmem with rfl | hmem
        · exact Or.inl ⟨hdepth, hrest⟩
        · exact Or.inr (.item hdepth hmem hrest)
  · rintro (⟨hdepth, hrest⟩ | h)
    · exact .item hdepth List.mem_cons_self hrest
    · cases h with
      | item hdepth hmem hrest => exact .item hdepth (List.mem_cons_of_mem _ hmem) hrest

theorem Reached.depth_le {depth : Nat} {value : Json} {key val : String}
    (h : Reached depth value key val) : depth ≤ 10 := by
  cases h with
  | string hdepth _ => exact hdepth
  | field hdepth _ _ => exact hdepth
  | item hdepth _ _ => exact hdepth

section Below

variable {P : String → String → Prop} {depth : Nat} {fields : List (String × Json)}

/-- The strings that the walk comes to in a dict: one that stands under the first key, and those
of the rest. -/
theorem exists_reached_cons_string {key val : String} (hdepth : depth ≤ 10) :
    (∃ k v, Reached depth (.obj ((key, .str val) :: fields)) k v ∧ P k v) ↔
      P key val ∨ ∃ k v, Reached depth (.obj fields) k v ∧ P k v := by
  constructor
  · rintro ⟨key', val', hreached, hP⟩
    rcases reached_cons_field.mp hreached with ⟨-, ⟨rfl, hval⟩ | hrest⟩ | hrest
    · cases hval
      exact Or.inl hP
    · cases hrest
    · exact Or.inr ⟨key', val', hrest, hP⟩
  · rintro (hP | ⟨key', val', hrest, hP⟩)
    · exact ⟨key, val, .string hdepth List.mem_cons_self, hP⟩
    · exact ⟨key', val', reached_cons_field.mpr (Or.inr hrest), hP⟩

/-- The same, where the first value is no string. -/
theorem exists_reached_cons_field {name : String} {value : Json} (hdepth : depth ≤ 10)
    (hvalue : ∀ val, value ≠ .str val) :
    (∃ k v, Reached depth (.obj ((name, value) :: fields)) k v ∧ P k v) ↔
      (∃ k v, Reached (depth + 1) value k v ∧ P k v) ∨
        ∃ k v, Reached depth (.obj fields) k v ∧ P k v := by
  constructor
  · rintro ⟨key, val, hreached, hP⟩
    rcases reached_cons_field.mp hreached with ⟨-, ⟨-, hval⟩ | hrest⟩ | hrest
    · exact absurd hval (hvalue val)
    · exact Or.inl ⟨key, val, hrest, hP⟩
    · exact Or.inr ⟨key, val, hrest, hP⟩
  · rintro (⟨key, val, hrest, hP⟩ | ⟨key, val, hrest, hP⟩)
    · exact ⟨key, val, .field hdepth List.mem_cons_self hrest, hP⟩
    · exact ⟨key, val, reached_cons_field.mpr (Or.inr hrest), hP⟩

/-- The same of a list. -/
theorem exists_reached_cons_item {value : Json} {items : List Json} (hdepth : depth ≤ 10) :
    (∃ k v, Reached depth (.arr (value :: items)) k v ∧ P k v) ↔
      (∃ k v, Reached (depth + 1) value k v ∧ P k v) ∨
        ∃ k v, Reached depth (.arr items) k v ∧ P k v := by
  constructor
  · rintro ⟨key, val, hreached, hP⟩
    rcases reached_cons_item.mp hreached with ⟨-, hrest⟩ | hrest
    · exact Or.inl ⟨key, val, hrest, hP⟩
    · exact Or.inr ⟨key, val, hrest, hP⟩
  · rintro (⟨key, val, hrest, hP⟩ | ⟨key, val, hrest, hP⟩)
    · exact ⟨key, val, .item hdepth List.mem_cons_self hrest, hP⟩
    · exact ⟨key, val, reached_cons_item.mpr (Or.inr hrest), hP⟩

end Below

/-- The walk comes to a string that raises. -/
def RaisesBelow (py : PyText) (depth : Nat) (value : Json) : Prop :=
  ∃ key val, Reached depth value key val ∧ TriedAsAddress py key ∧ UnreadableQuad py val

theorem RaisesBelow.depth {py : PyText} {depth : Nat} {value : Json}
    (h : RaisesBelow py depth value) : depth ≤ 10 := by
  obtain ⟨key, val, hreached, -⟩ := h
  exact hreached.depth_le

theorem raisesBelow_cons_string {py : PyText} {depth : Nat} {key val : String}
    {fields : List (String × Json)} (hdepth : depth ≤ 10) :
    RaisesBelow py depth (.obj ((key, .str val) :: fields)) ↔
      (TriedAsAddress py key ∧ UnreadableQuad py val) ∨ RaisesBelow py depth (.obj fields) :=
  exists_reached_cons_string (P := fun k v => TriedAsAddress py k ∧ UnreadableQuad py v) hdepth

theorem raisesBelow_cons_field {py : PyText} {depth : Nat} {name : String} {value : Json}
    {fields : List (String × Json)} (hdepth : depth ≤ 10) (hvalue : ∀ val, value ≠ .str val) :
    RaisesBelow py depth (.obj ((name, value) :: fields)) ↔
      RaisesBelow py (depth + 1) value ∨ RaisesBelow py depth (.obj fields) :=
  exists_reached_cons_field hdepth hvalue

theorem raisesBelow_cons_item {py : PyText} {depth : Nat} {value : Json} {items : List Json}
    (hdepth : depth ≤ 10) :
    RaisesBelow py depth (.arr (value :: items)) ↔
      RaisesBelow py (depth + 1) value ∨ RaisesBelow py depth (.arr items) :=
  exists_reached_cons_item hdepth

/-- **The walk raises exactly when it comes to a string that does.** -/
theorem walk_error {py : PyText} (depth : Nat) (value : Json) (iocs : Iocs) :
    (∃ e, walk py depth value iocs = .error e) ↔ RaisesBelow py depth value := by
  refine walk.induct py
    (fun depth value iocs => (∃ e, walk py depth value iocs = .error e) ↔
      RaisesBelow py depth value)
    (fun depth items iocs => depth ≤ 10 →
      ((∃ e, walkItems py depth items iocs = .error e) ↔ RaisesBelow py depth (.arr items)))
    (fun depth fields iocs => depth ≤ 10 →
      ((∃ e, walkFields py depth fields iocs = .error e) ↔ RaisesBelow py depth (.obj fields)))
    ?_ ?_ ?_ ?_ ?_ ?_ ?_ ?_ ?_ ?_ ?_ ?_ ?_ depth value iocs
  -- a dict and a list, below the limit or within it; any other value
  · intro depth fields iocs hdepth
    simp only [walk, if_pos hdepth, reduceCtorEq, exists_false, false_iff]
    intro hraises
    exact absurd hraises.depth (by omega)
  · intro depth fields iocs hdepth ih
    simp only [walk, if_neg hdepth]
    exact ih (by omega)
  · intro depth items iocs hdepth
    simp only [walk, if_pos hdepth, reduceCtorEq, exists_false, false_iff]
    intro hraises
    exact absurd hraises.depth (by omega)
  · intro depth items iocs hdepth ih
    simp only [walk, if_neg hdepth]
    exact ih (by omega)
  · intro value depth iocs hobj harr
    constructor
    · rintro ⟨e, h⟩
      rw [walk] at h
      · cases h
      · exact hobj
      · exact harr
    · rintro ⟨key, val, hreached, -⟩
      cases hreached with
      | string _ _ => exact (hobj _ rfl).elim
      | field _ _ _ => exact (hobj _ rfl).elim
      | item _ _ _ => exact (harr _ rfl).elim
  -- the items of a list
  · intro depth iocs hdepth
    simp only [walkItems, reduceCtorEq, exists_false, false_iff]
    rintro ⟨key, val, hreached, -⟩
    cases hreached with
    | item _ hmem _ => cases hmem
  · intro depth item items iocs e hitem ih hdepth
    rw [raisesBelow_cons_item hdepth]
    simp only [walkItems, hitem]
    exact iff_of_true ⟨e, rfl⟩ (Or.inl (ih.mp ⟨e, hitem⟩))
  · intro depth item items iocs iocs' hitem ih ihrest hdepth
    rw [raisesBelow_cons_item hdepth, ← ih, ← ihrest hdepth]
    simp [walkItems, hitem]
  -- the fields of a dict: a string is looked at, any other value is walked
  · intro depth iocs hdepth
    simp only [walkFields, reduceCtorEq, exists_false, false_iff]
    rintro ⟨key, val, hreached, -⟩
    cases hreached with
    | string _ hmem => cases hmem
    | field _ hmem _ => cases hmem
  · intro depth key val fields iocs e hval hdepth
    rw [raisesBelow_cons_string hdepth]
    simp only [walkFields, hval]
    exact iff_of_true ⟨e, rfl⟩ (Or.inl (addIoc_error.mp ⟨e, hval⟩))
  · intro depth key val fields iocs iocs' hval ihrest hdepth
    have hok := @addIoc_error py key val iocs
    rw [raisesBelow_cons_string hdepth, ← hok, ← ihrest hdepth]
    simp [walkFields, hval]
  · intro depth name value fields iocs hvalue e hwalk ih hdepth
    rw [raisesBelow_cons_field hdepth (fun val => hvalue val)]
    rw [walkFields]
    · simp only [hwalk]
      exact iff_of_true ⟨e, rfl⟩ (Or.inl (ih.mp ⟨e, hwalk⟩))
    · exact hvalue
  · intro depth name value fields iocs hvalue iocs' hwalk ih ihrest hdepth
    rw [raisesBelow_cons_field hdepth (fun val => hvalue val), ← ih, ← ihrest hdepth]
    rw [walkFields]
    · simp [hwalk]
    · exact hvalue

/-- The search for indicators returns where no string makes it raise. -/
theorem extractIocs_ok_iff {py : PyText} {payload : Dict} :
    (∃ iocs, extractIocs py payload = .ok iocs) ↔ ¬ RaisesBelow py 0 (.obj payload) := by
  rw [← walk_error 0 (.obj payload) ⟨[], [], [], []⟩, ← not_returns, not_not]
  unfold extractIocs
  constructor
  · rintro ⟨iocs, h⟩
    obtain ⟨found, hfound, -⟩ := bind_ok h
    exact ⟨found, hfound⟩
  · rintro ⟨found, hfound⟩
    exact bind_returns hfound ⟨_, rfl⟩

end OpenSoar
