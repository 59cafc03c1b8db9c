/-
# `OpenSoar.Ingestion.Indicators` — which strings of a payload are indicators

`extract_iocs` should list a string under the class that its key and its shape give it, wherever
in the payload it stands, directly under the key or in a list under it (`Belongs`, `Stands`).
Three things come between: the strings of a list are passed over, a key with `domain` or `host` in
it takes a URL for a domain, and it keeps the URL from the branch for URLs.  So the lists are
right exactly where no string depends on them (`extractIocs_sorted_iff`).
-/
import OpenSoar.Ingestion.Payload

namespace OpenSoar

open Python

/-- The classes of indicators. -/
inductive IocClass where
  | ip
  | hash
  | url
  | domain

/-- The key of a class in the dict of indicators. -/
def IocClass.name : IocClass → String
  | .ip => "ips"
  | .hash => "hashes"
  | .url => "urls"
  | .domain => "domains"

/-- The list of a class. -/
def Iocs.of (iocs : Iocs) : IocClass → List String
  | .ip => iocs.ips
  | .hash => iocs.hashes
  | .url => iocs.urls
  | .domain => iocs.domains

/-! ## What a key and a string say -/

section Classes

variable (py : PyText)

def IpKey (key : String) : Prop := contains "ip".toList (py.lower key.toList) = true

def HashKey (key : String) : Prop :=
  contains "hash".toList (py.lower key.toList) = true ∨
    String.ofList (py.lower key.toList) ∈ ["md5", "sha1", "sha256"]

def HostKey (key : String) : Prop :=
  contains "domain".toList (py.lower key.toList) = true ∨
    contains "host".toList (py.lower key.toList) = true

def UrlKey (key : String) : Prop := contains "url".toList (py.lower key.toList) = true

/-- Four octets between dots. -/
def DottedQuad (val : String) : Prop :=
  (val.toList.splitOn '.').length = 4 ∧ ∀ p ∈ val.toList.splitOn '.',
    isDigits py p = true ∧ ∃ n, pyInt py 10 p = some n ∧ 0 ≤ n ∧ n ≤ 255

/-- `val.startswith(("http://", "https://"))`. -/
def HttpUrl (val : String) : Prop :=
  "http://".toList <+: val.toList ∨ "https://".toList <+: val.toList

/-- The class that a string should have under a key. -/
def Belongs (key val : String) : IocClass → Prop
  | .ip => IpKey py key ∧ DottedQuad py val
  | .hash => HashKey py key ∧ ¬ (IpKey py key ∧ DottedQuad py val)
  | .url => UrlKey py key ∧ HttpUrl val ∧ ¬ (IpKey py key ∧ DottedQuad py val) ∧ ¬ HashKey py key
  | .domain => HostKey py key ∧ '.' ∈ val.toList ∧ ¬ DottedQuad py val ∧ ¬ HttpUrl val ∧
      ¬ HashKey py key

/-- The class that the code gives it: what the key of a host keeps is tried for nothing else. -/
def Filed (key val : String) : IocClass → Prop
  | .ip => IpKey py key ∧ DottedQuad py val
  | .hash => HashKey py key ∧ ¬ (IpKey py key ∧ DottedQuad py val)
  | .url => UrlKey py key ∧ HttpUrl val ∧ ¬ (IpKey py key ∧ DottedQuad py val) ∧
      ¬ HashKey py key ∧ ¬ HostKey py key
  | .domain => HostKey py key ∧ '.' ∈ val.toList ∧ ¬ DottedQuad py val ∧ ¬ HashKey py key

end Classes

/-! ## Where a string stands -/

/-- A string of a list that stands under a key, in a list at most ten containers below the root. -/
inductive Listed : Nat → Json → String → String → Prop
  | element {depth : Nat} {fields : List (String × Json)} {items : List Json}
      {key val : String} : depth + 1 ≤ 10 → (key, .arr items) ∈ fields → .str val ∈ items →
      Listed depth (.obj fields) key val
  | field {depth : Nat} {fields : List (String × Json)} {name key val : String} {value : Json} :
      (name, value) ∈ fields → Listed (depth + 1) value key val →
      Listed depth (.obj fields) key val
  | item {depth : Nat} {items : List Json} {key val : String} {value : Json} :
      value ∈ items → Listed (depth + 1) value key val → Listed depth (.arr items) key val

/-- A string stands under a key, or in a list that does. -/
def StandsUnder (payload : Dict) (key val : String) : Prop :=
  Reached 0 (.obj payload) key val ∨ Listed 0 (.obj payload) key val

/-- The dict lists a string under a class. -/
def ListedAs (iocs : Dict) (c : IocClass) (val : String) : Prop :=
  ∃ items, (c.name, .arr items) ∈ iocs ∧ .str val ∈ items

/-- The indicators are what the strings of the payload are, each of them once. -/
structure SortsIocs (py : PyText) (payload : Dict) (iocs : Dict) : Prop where
  sorted : ∀ c val, ListedAs iocs c val ↔ ∃ key, StandsUnder payload key val ∧ Belongs py key val c
  lists : ∀ name value, (name, value) ∈ iocs →
    ∃ (c : IocClass) (items : List String), name = c.name ∧ value = .arr (items.map .str) ∧
      items.Nodup

/-- No string depends on what the code passes over: the strings of lists, and the URLs under the
key of a host. -/
structure Sortable (py : PyText) (payload : Dict) : Prop where
  readable : ¬ RaisesBelow py 0 (.obj payload)
  hosts : ∀ key val, Reached 0 (.obj payload) key val → HostKey py key → ¬ HashKey py key →
    '.' ∈ val.toList → HttpUrl val → DottedQuad py val
  urls : ∀ key val, Reached 0 (.obj payload) key val → HostKey py key →
    Belongs py key val .url → ∃ key', Reached 0 (.obj payload) key' val ∧
      Belongs py key' val .url ∧ ¬ HostKey py key'
  lists : ∀ key val c, Listed 0 (.obj payload) key val → Belongs py key val c →
    ∃ key', Reached 0 (.obj payload) key' val ∧ Filed py key' val c

/-! ## One string -/

variable {py : PyText}

theorem octetsOk_true {ps : List (List Char)} : octetsOk py ps = .ok true ↔
    ∀ p ∈ ps, isDigits py p = true ∧ ∃ n, pyInt py 10 p = some n ∧ 0 ≤ n ∧ n ≤ 255 := by
  induction ps with
  | nil => exact iff_of_true rfl (fun p hp => absurd hp List.not_mem_nil)
  | cons p ps ih =>
      rw [List.forall_mem_cons, ← ih, octetsOk]
      constructor
      · intro h
        split_ifs at h with hdigits
        · cases hint : pyInt py 10 p with
          | none =>
              rw [hint] at h
              cases h
          | some n =>
              rw [hint] at h
              dsimp only at h
              split_ifs at h with hrange
              · exact ⟨⟨hdigits, n, rfl, hrange⟩, h⟩
              · cases h
        · cases h
      · rintro ⟨⟨hdigits, n, hint, hrange⟩, hrest⟩
        rw [if_pos hdigits, hint]
        dsimp only
        rw [if_pos hrange]
        exact hrest

theorem looksLikeIp_true {val : String} : looksLikeIp py val = .ok true ↔ DottedQuad py val := by
  unfold looksLikeIp DottedQuad
  dsimp only
  split_ifs with hlength
  · exact iff_of_false (by intro h; cases h) (fun h => hlength h.1)
  · rw [octetsOk_true]
    exact ⟨fun h => ⟨not_not.mp hlength, h⟩, fun h => h.2⟩

theorem hashKey_iff {key : String} : HashKey py key ↔
    (contains "hash".toList (py.lower key.toList) ||
      ["md5", "sha1", "sha256"].contains (String.ofList (py.lower key.toList))) = true := by
  unfold HashKey
  rw [Bool.or_eq_true, List.contains_iff_mem]

theorem hostKey_iff {key : String} : HostKey py key ↔
    (contains "domain".toList (py.lower key.toList) ||
      contains "host".toList (py.lower key.toList)) = true := by
  unfold HostKey
  rw [Bool.or_eq_true]

theorem httpUrl_iff {val : String} : HttpUrl val ↔
    ("http://".toList.isPrefixOf val.toList || "https://".toList.isPrefixOf val.toList) = true := by
  unfold HttpUrl
  rw [Bool.or_eq_true, List.isPrefixOf_iff_prefix, List.isPrefixOf_iff_prefix]

/-- A branch on what to bind. -/
theorem ite_bind {ε α β : Type} {p : Prop} [Decidable p] {a b : Except ε α}
    {f : α → Except ε β} : (if p then a >>= f else b >>= f) = (if p then a else b) >>= f := by
  split_ifs <;> rfl

/-- One string goes to the lists of the classes that it is filed under. -/
theorem addIoc_of {key val : String} {iocs iocs' : Iocs} (h : addIoc py key val iocs = .ok iocs')
    (c : IocClass) (s : String) :
    s ∈ iocs'.of c ↔ s ∈ iocs.of c ∨ s = val ∧ Filed py key val c := by
  unfold addIoc at h
  dsimp only at h
  rw [ite_bind] at h
  obtain ⟨isIp, hip, h⟩ := bind_ok h
  have hIp : isIp = true ↔ IpKey py key ∧ DottedQuad py val := by
    rw [← looksLikeIp_true]
    split_ifs at hip with hkey
    · rw [hip, Except.ok.injEq]
      exact (and_iff_right hkey).symm
    · cases hip
      exact iff_of_false Bool.false_ne_true (fun h => hkey h.1)
  split_ifs at h with htrue hhash hhost hdot hurl
  · cases h
    have hquad := hIp.mp htrue
    cases c <;> simp [Iocs.of, Filed, hquad]
  · cases h
    rw [hIp] at htrue
    have hkey := hashKey_iff.mpr hhash
    cases c <;> simp [Iocs.of, Filed, htrue, hkey]
  · -- under the key of a host, a string with a dot is tried as an address once more
    obtain ⟨isIp', hquad, h⟩ := bind_ok h
    rw [hIp] at htrue
    rw [← hashKey_iff] at hhash
    rw [← hostKey_iff] at hhost
    rw [List.contains_iff_mem] at hdot
    have hval : isIp' = true ↔ DottedQuad py val := by
      rw [← looksLikeIp_true, hquad, Except.ok.injEq]
    split_ifs at h with htrue'
    · cases h
      rw [hval] at htrue'
      have hkey : ¬ IpKey py key := fun hkey => htrue ⟨hkey, htrue'⟩
      cases c <;> simp [Iocs.of, Filed, hkey, hhash, hhost, htrue']
    · cases h
      rw [hval] at htrue'
      cases c <;> simp [Iocs.of, Filed, hhash, hhost, hdot, htrue']
  · cases h
    rw [hIp] at htrue
    rw [← hashKey_iff] at hhash
    rw [← hostKey_iff] at hhost
    rw [List.contains_iff_mem] at hdot
    cases c <;> simp [Iocs.of, Filed, htrue, hhash, hhost, hdot]
  · cases h
    rw [hIp] at htrue
    rw [← hashKey_iff] at hhash
    rw [← hostKey_iff] at hhost
    rw [Bool.and_eq_true, ← httpUrl_iff] at hurl
    have hkey : UrlKey py key := hurl.1
    cases c <;> simp [Iocs.of, Filed, htrue, hhash, hhost, hkey, hurl.2]
  · cases h
    rw [hIp] at htrue
    rw [← hashKey_iff] at hhash
    rw [← hostKey_iff] at hhost
    rw [Bool.and_eq_true, ← httpUrl_iff] at hurl
    have hno : ¬ (UrlKey py key ∧ HttpUrl val) := hurl
    cases c with
    | ip => simp [Iocs.of, Filed, htrue]
    | hash => simp [Iocs.of, Filed, hhash]
    | url =>
        refine (or_iff_left ?_).symm
        rintro ⟨-, hkey, hhttp, -⟩
        exact hno ⟨hkey, hhttp⟩
    | domain => simp [Iocs.of, Filed, hhost]

/-! ## The walk -/

/-- The walk comes to the string under a key that files it under the class. -/
def FiledBelow (py : PyText) (c : IocClass) (s : String) (depth : Nat) (value : Json) : Prop :=
  ∃ key val, Reached depth value key val ∧ s = val ∧ Filed py key val c

variable {c : IocClass} {s : String}

theorem FiledBelow.depth_le {depth : Nat} {value : Json} (h : FiledBelow py c s depth value) :
    depth ≤ 10 := by
  obtain ⟨key, val, hreached, -⟩ := h
  exact hreached.depth_le

theorem filedBelow_cons_string {depth : Nat} {key val : String} {fields : List (String × Json)}
    (hdepth : depth ≤ 10) : FiledBelow py c s depth (.obj ((key, .str val) :: fields)) ↔
      (s = val ∧ Filed py key val c) ∨ FiledBelow py c s depth (.obj fields) :=
  exists_reached_cons_string (P := fun k v => s = v ∧ Filed py k v c) hdepth

theorem filedBelow_cons_field {depth : Nat} {name : String} {value : Json}
    {fields : List (String × Json)} (hdepth : depth ≤ 10) (hvalue : ∀ val, value ≠ .str val) :
    FiledBelow py c s depth (.obj ((name, value) :: fields)) ↔
      FiledBelow py c s (depth + 1) value ∨ FiledBelow py c s depth (.obj fields) :=
  exists_reached_cons_field hdepth hvalue

theorem filedBelow_cons_item {depth : Nat} {value : Json} {items : List Json}
    (hdepth : depth ≤ 10) : FiledBelow py c s depth (.arr (value :: items)) ↔
      FiledBelow py c s (depth + 1) value ∨ FiledBelow py c s depth (.arr items) :=
  exists_reached_cons_item hdepth

/-- What the walk adds to the lists is filed under a key that it comes to. -/
theorem walk_of (c : IocClass) (s : String) (depth : Nat) (value : Json) (iocs : Iocs) :
    ∀ iocs', walk py depth value iocs = .ok iocs' →
      (s ∈ iocs'.of c ↔ s ∈ iocs.of c ∨ FiledBelow py c s depth value) := by
  refine walk.induct py
    (fun depth value iocs => ∀ iocs', walk py depth value iocs = .ok iocs' →
      (s ∈ iocs'.of c ↔ s ∈ iocs.of c ∨ FiledBelow py c s depth value))
    (fun depth items iocs => depth ≤ 10 → ∀ iocs', walkItems py depth items iocs = .ok iocs' →
      (s ∈ iocs'.of c ↔ s ∈ iocs.of c ∨ FiledBelow py c s depth (.arr items)))
    (fun depth fields iocs => depth ≤ 10 → ∀ iocs', walkFields py depth fields iocs = .ok iocs' →
      (s ∈ iocs'.of c ↔ s ∈ iocs.of c ∨ FiledBelow py c s depth (.obj fields)))
    ?_ ?_ ?_ ?_ ?_ ?_ ?_ ?_ ?_ ?_ ?_ ?_ ?_ depth value iocs
  -- a dict and a list, below the limit or within it; any other value
  · intro depth fields iocs hdepth iocs' h
    rw [walk, if_pos hdepth] at h
    cases h
    exact (or_iff_left fun hfiled => absurd hfiled.depth_le (by omega)).symm
  · intro depth fields iocs hdepth ih iocs' h
    rw [walk, if_neg hdepth] at h
    exact ih (by omega) iocs' h
  · intro depth items iocs hdepth iocs' h
    rw [walk, if_pos hdepth] at h
    cases h
    exact (or_iff_left fun hfiled => absurd hfiled.depth_le (by omega)).symm
  · intro depth items iocs hdepth ih iocs' h
    rw [walk, if_neg hdepth] at h
    exact ih (by omega) iocs' h
  · intro value depth iocs hobj harr iocs' h
    have hno : ¬ FiledBelow py c s depth value := by
      rintro ⟨key, val, hreached, -⟩
      cases hreached with
      | string _ _ => exact (hobj _ rfl).elim
      | field _ _ _ => exact (hobj _ rfl).elim
      | item _ _ _ => exact (harr _ rfl).elim
    rw [walk] at h
    · cases h
      exact (or_iff_left hno).symm
    · exact hobj
    · exact harr
  -- the items of a list
  · intro depth iocs hdepth iocs' h
    cases h
    refine (or_iff_left ?_).symm
    rintro ⟨key, val, hreached, -⟩
    cases hreached with
    | item _ hmem _ => cases hmem
  · intro depth item items iocs e hitem ih hdepth iocs' h
    rw [walkItems, hitem] at h
    cases h
  · intro depth item items iocs iocs₁ hitem ih ihrest hdepth iocs' h
    rw [walkItems, hitem] at h
    rw [filedBelow_cons_item hdepth, ihrest hdepth iocs' h, ih iocs₁ hitem, or_assoc]
  -- the fields of a dict: a string is looked at, any other value is walked
  · intro depth iocs hdepth iocs' h
    cases h
    refine (or_iff_left ?_).symm
    rintro ⟨key, val, hreached, -⟩
    cases hreached with
    | string _ hmem => cases hmem
    | field _ hmem _ => cases hmem
  · intro depth key val fields iocs e hval hdepth iocs' h
    rw [walkFields, hval] at h
    cases h
  · intro depth key val fields iocs iocs₁ hval ihrest hdepth iocs' h
    rw [walkFields, hval] at h
    rw [filedBelow_cons_string hdepth, ihrest hdepth iocs' h, addIoc_of hval, or_assoc]
  · intro depth name value fields iocs hvalue e hwalk ih hdepth iocs' h
    rw [walkFields, hwalk] at h
    · cases h
    · exact hvalue
  · intro depth name value fields iocs hvalue iocs₁ hwalk ih ihrest hdepth iocs' h
    rw [walkFields, hwalk] at h
    · rw [filedBelow_cons_field hdepth (fun val => hvalue val), ihrest hdepth iocs' h,
        ih iocs₁ hwalk, or_assoc]
    · exact hvalue

/-! ## The dict of indicators -/

theorem IocClass.name_injective {c c' : IocClass} (h : c.name = c'.name) : c = c' := by
  cases c <;> cases c' <;> first | rfl | exact absurd h (by decide)

theorem mem_iocEntry {name name' : String} {values : List String} {value : Json} :
    (name', value) ∈ iocEntry py name values ↔
      values ≠ [] ∧ name' = name ∧ value = .arr ((py.setToList values).map .str) := by
  unfold iocEntry
  split_ifs with hempty
  · rw [List.isEmpty_iff] at hempty
    exact iff_of_false List.not_mem_nil (fun h => h.1 hempty)
  · rw [List.isEmpty_iff] at hempty
    rw [List.mem_singleton, Prod.mk.injEq]
    exact (and_iff_right hempty).symm

/-- An entry for each class with strings, and no other. -/
theorem mem_extractIocs {payload iocs : Dict} (h : extractIocs py payload = .ok iocs)
    {name : String} {value : Json} : (name, value) ∈ iocs ↔
      ∃ found c, walk py 0 (.obj payload) ⟨[], [], [], []⟩ = .ok found ∧ found.of c ≠ [] ∧
        name = c.name ∧ value = .arr ((py.setToList (found.of c)).map .str) := by
  unfold extractIocs at h
  obtain ⟨found, hfound, h⟩ := bind_ok h
  cases h
  simp only [List.mem_append, mem_iocEntry]
  constructor
  · rintro (((h | h) | h) | h)
    · exact ⟨found, .ip, hfound, h⟩
    · exact ⟨found, .domain, hfound, h⟩
    · exact ⟨found, .hash, hfound, h⟩
    · exact ⟨found, .url, hfound, h⟩
  · rintro ⟨found', c, hfound', h⟩
    cases hfound.symm.trans hfound'
    cases c with
    | ip => exact Or.inl (Or.inl (Or.inl h))
    | domain => exact Or.inl (Or.inl (Or.inr h))
    | hash => exact Or.inl (Or.inr h)
    | url => exact Or.inr h

theorem mem_setToList {xs : List String} : s ∈ py.setToList xs ↔ s ∈ xs :=
  (py.setToList_perm xs).mem_iff.trans List.mem_dedup

/-- The dict lists a string under the classes under which it is filed. -/
theorem listedAs_iff {payload iocs : Dict} (h : extractIocs py payload = .ok iocs) :
    ListedAs iocs c s ↔ FiledBelow py c s 0 (.obj payload) := by
  have hsome : ∃ found, walk py 0 (.obj payload) ⟨[], [], [], []⟩ = .ok found := by
    unfold extractIocs at h
    obtain ⟨found, hfound, -⟩ := bind_ok h
    exact ⟨found, hfound⟩
  obtain ⟨found, hfound⟩ := hsome
  have hof := walk_of c s 0 (.obj payload) ⟨[], [], [], []⟩ found hfound
  have hnil : s ∉ Iocs.of ⟨[], [], [], []⟩ c := by cases c <;> exact List.not_mem_nil
  rw [or_iff_right hnil] at hof
  rw [← hof]
  constructor
  · rintro ⟨items, hentry, hs⟩
    obtain ⟨found', c', hfound', -, hname, hitems⟩ := (mem_extractIocs h).mp hentry
    cases hfound.symm.trans hfound'
    cases IocClass.name_injective hname
    cases hitems
    obtain ⟨s', hs', heq⟩ := List.mem_map.mp hs
    cases heq
    exact mem_setToList.mp hs'
  · intro hs
    exact ⟨_, (mem_extractIocs h).mpr ⟨found, c, hfound, List.ne_nil_of_mem hs, rfl, rfl⟩,
      List.mem_map_of_mem (mem_setToList.mpr hs)⟩

theorem lists_extractIocs {payload iocs : Dict} (h : extractIocs py payload = .ok iocs)
    {name : String} {value : Json} (hentry : (name, value) ∈ iocs) :
    ∃ (c : IocClass) (items : List String), name = c.name ∧ value = .arr (items.map .str) ∧
      items.Nodup := by
  obtain ⟨found, c, -, -, hname, hvalue⟩ := (mem_extractIocs h).mp hentry
  exact ⟨c, py.setToList (found.of c), hname, hvalue,
    (py.setToList_perm _).nodup_iff.mpr (List.nodup_dedup _)⟩

/-! ## Soundness and completeness -/

variable {payload : Dict}

/-- What the right lists say about the payload. -/
theorem sortable_of_sorts (h : ∃ iocs, extractIocs py payload = .ok iocs ∧
    SortsIocs py payload iocs) : Sortable py payload := by
  obtain ⟨iocs, hiocs, hsorts⟩ := h
  have hsorted : ∀ c s, FiledBelow py c s 0 (.obj payload) ↔
      ∃ key, StandsUnder payload key s ∧ Belongs py key s c :=
    fun c s => (listedAs_iff hiocs).symm.trans (hsorts.sorted c s)
  constructor
  · exact extractIocs_ok_iff.mp ⟨iocs, hiocs⟩
  · intro key val hreached hhost hhash hdot hhttp
    by_contra hquad
    obtain ⟨key', -, hbelongs⟩ :=
      (hsorted .domain val).mp ⟨key, val, hreached, rfl, hhost, hdot, hquad, hhash⟩
    exact hbelongs.2.2.2.1 hhttp
  · intro key val hreached _ hbelongs
    obtain ⟨key', val', hreached', rfl, hkey, hhttp, hip, hhash, hhost⟩ :=
      (hsorted .url val).mpr ⟨key, Or.inl hreached, hbelongs⟩
    exact ⟨key', hreached', ⟨hkey, hhttp, hip, hhash⟩, hhost⟩
  · intro key val c hlisted hbelongs
    obtain ⟨key', val', hreached', rfl, hfiled⟩ :=
      (hsorted c val).mpr ⟨key, Or.inr hlisted, hbelongs⟩
    exact ⟨key', hreached', hfiled⟩

/-- Where a string is filed it belongs, unless the key of a host takes a URL for a domain. -/
theorem Sortable.belongs (h : Sortable py payload) {key : String}
    (hreached : Reached 0 (.obj payload) key s) (hfiled : Filed py key s c) :
    Belongs py key s c := by
  cases c with
  | ip => exact hfiled
  | hash => exact hfiled
  | url => exact ⟨hfiled.1, hfiled.2.1, hfiled.2.2.1, hfiled.2.2.2.1⟩
  | domain =>
      obtain ⟨hhost, hdot, hquad, hhash⟩ := hfiled
      exact ⟨hhost, hdot, hquad, fun hhttp => hquad (h.hosts key s hreached hhost hhash hdot hhttp),
        hhash⟩

/-- What belongs to a class is filed under it, if not here then elsewhere. -/
theorem Sortable.filed (h : Sortable py payload) {key : String}
    (hreached : Reached 0 (.obj payload) key s) (hbelongs : Belongs py key s c) :
    FiledBelow py c s 0 (.obj payload) := by
  cases c with
  | ip => exact ⟨key, s, hreached, rfl, hbelongs⟩
  | hash => exact ⟨key, s, hreached, rfl, hbelongs⟩
  | url =>
      by_cases hhost : HostKey py key
      · obtain ⟨key', hreached', ⟨hkey, hhttp, hip, hhash⟩, hhost'⟩ :=
          h.urls key s hreached hhost hbelongs
        exact ⟨key', s, hreached', rfl, hkey, hhttp, hip, hhash, hhost'⟩
      · obtain ⟨hkey, hhttp, hip, hhash⟩ := hbelongs
        exact ⟨key, s, hreached, rfl, hkey, hhttp, hip, hhash, hhost⟩
  | domain =>
      obtain ⟨hhost, hdot, hquad, -, hhash⟩ := hbelongs
      exact ⟨key, s, hreached, rfl, hhost, hdot, hquad, hhash⟩

/-- **The search for indicators is sound and complete** exactly where no string depends on what it
passes over. -/
theorem extractIocs_sorted_iff (py : PyText) (payload : Dict) :
    (∃ iocs, extractIocs py payload = .ok iocs ∧ SortsIocs py payload iocs) ↔
      Sortable py payload := by
  refine ⟨sortable_of_sorts, fun h => ?_⟩
  obtain ⟨iocs, hiocs⟩ := extractIocs_ok_iff.mpr h.readable
  refine ⟨iocs, hiocs, fun c s => ?_, fun name value => lists_extractIocs hiocs⟩
  rw [listedAs_iff hiocs]
  constructor
  · rintro ⟨key, s, hreached, rfl, hfiled⟩
    exact ⟨key, Or.inl hreached, h.belongs hreached hfiled⟩
  · rintro ⟨key, hreached | hlisted, hbelongs⟩
    · exact h.filed hreached hbelongs
    · obtain ⟨key', hreached', hfiled⟩ := h.lists key s c hlisted hbelongs
      exact ⟨key', s, hreached', rfl, hfiled⟩

/-- `{"host_url": "http://a.b/"}` is listed as a domain. -/
theorem host_url_is_a_domain : ¬ ∀ (py : PyText) (payload : Dict),
    ∃ iocs, extractIocs py payload = .ok iocs ∧ SortsIocs py payload iocs := by
  intro h
  have hsortable := sortable_of_sorts (h .ascii [("host_url", .str "http://a.b/")])
  have hquad := hsortable.hosts "host_url" "http://a.b/"
    (.string (by decide) List.mem_cons_self) (Or.inr (by decide)) (by
      rintro (h | h)
      · exact absurd h (by decide)
      · exact absurd h (by decide)) (by decide) (Or.inl (by decide))
  exact absurd hquad.1 (by decide)

end OpenSoar
