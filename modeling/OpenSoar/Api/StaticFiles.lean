/-
# `OpenSoar.Api.StaticFiles` — the files the SPA fallback sends

`serve_spa` joins the captured path to `STATIC_DIR` and sends the file it names, or else
`index.html`.  Nothing is checked in between: a captured path that starts with a slash replaces
the directory, and `..` is resolved where the file is opened.

The file system here walks a path part by part, follows links at most forty times, and knows
a location by its real path.  The walk is then read off the text of the path: its `..` worked
out on the text (`normalForm`), its links replaced by their targets (`Expands`).
`serve_spa_inside_iff` says on these texts which requests are answered from inside.
-/
import OpenSoar.Python.Pathlib

namespace OpenSoar

open Python

/-- What is at a location. -/
inductive FsNode where
  | directory
  | file
  | link (target : PurePath)

/-- The nodes by their real paths: the parts from the root. -/
abbrev FileSystem := List String → Option FsNode

/-- A walk from a directory along the parts of a path, to the first link. -/
def walkPath (fs : FileSystem) (follow : List String → List String → Option (List String)) :
    List String → List String → Option (List String)
  | location, [] => some location
  | location, part :: parts =>
      if part = ".." then walkPath fs follow location.dropLast parts
      else
        match fs (location ++ [part]) with
        | none => none
        | some .directory => walkPath fs follow (location ++ [part]) parts
        | some .file => if parts.isEmpty then some (location ++ [part]) else none
        | some (.link target) =>
            follow (if target.root ≠ "" then [] else location) (target.parts ++ parts)

/-- The walk with its links, of which so many may be followed. -/
def walkLinks (fs : FileSystem) : Nat → List String → List String → Option (List String)
  | 0 => walkPath fs (fun _ _ => none)
  | links + 1 => walkPath fs (walkLinks fs links)

/-- The real path of what an absolute path names, when there is something. -/
def resolvePath (fs : FileSystem) (path : PurePath) : Option (List String) :=
  walkLinks fs 40 [] path.parts

/-- The real path of the regular file that a path names. -/
def fileAt (fs : FileSystem) (path : PurePath) : Option (List String) :=
  (resolvePath fs path).filter (fun location =>
    match fs location with
    | some .file => true
    | _ => false)

/-- `serve_spa`: the file that is sent; none when `index.html` is missing. -/
def serveSpa (fs : FileSystem) (staticDir : PurePath) (fullPath : String) : Option (List String) :=
  let filePath := staticDir.join (.ofText fullPath)
  if (fileAt fs filePath).isSome then fileAt fs filePath
  else fileAt fs (staticDir.join (.ofText "index.html"))

/-- The location is in the directory, or below it. -/
def InsideDir (fs : FileSystem) (directory : PurePath) (location : List String) : Prop :=
  ∃ root, resolvePath fs directory = some root ∧ root <+: location

/-- Whatever file is sent lies inside the static directory. -/
def ServedInside (fs : FileSystem) (staticDir : PurePath) (fullPath : String) : Prop :=
  ∀ location, serveSpa fs staticDir fullPath = some location → InsideDir fs staticDir location

/-! ## Paths as texts -/

/-- One part further on the text: `..` takes the last part off. -/
def normalStep (location : List String) (part : String) : List String :=
  if part = ".." then location.dropLast else location ++ [part]

/-- The parts of a path with every `..` worked out on the text alone. -/
def normalForm (parts : List String) : List String := parts.foldl normalStep []

section Texts

variable (fs : FileSystem)

/-- Every name on the text is a directory's. -/
def ThroughDirs (parts : List String) : Prop :=
  ∀ before name after, parts = before ++ name :: after → name ≠ ".." →
    fs (normalForm (before ++ [name])) = some .directory

/-- Every name on the text is a directory's; the last part may be a file's. -/
def Passable (parts : List String) : Prop :=
  ∀ before name after, parts = before ++ name :: after → name ≠ ".." →
    fs (normalForm (before ++ [name])) = some .directory ∨
      after = [] ∧ fs (normalForm (before ++ [name])) = some .file

/-- The text leads to a regular file without a link. -/
def NamesFile (parts : List String) : Prop :=
  Passable fs parts ∧ fs (normalForm parts) = some .file

/-- The texts a path has while its links are replaced by their targets, the first one first:
a relative target goes on from where the link is, an absolute one from the root. -/
inductive Expands : Nat → List String → List String → Prop
  | plain (links : Nat) (parts : List String) : Expands links parts parts
  | link {links : Nat} {before : List String} {name : String} {after : List String}
      {target : PurePath} {plain : List String} (hname : name ≠ "..")
      (hbefore : ThroughDirs fs before)
      (hlink : fs (normalForm (before ++ [name])) = some (.link target))
      (h : Expands links ((if target.root ≠ "" then [] else before) ++ (target.parts ++ after))
        plain) :
      Expands (links + 1) (before ++ name :: after) plain

/-- Whichever text of the path leads to a file, its normal form starts with the directory. -/
def StaysBelow (root parts : List String) : Prop :=
  ∀ plain, Expands fs 40 parts plain → NamesFile fs plain → root <+: normalForm plain

/-- No text of the path leads to a file. -/
def NamesNothing (parts : List String) : Prop :=
  ∀ plain, Expands fs 40 parts plain → ¬ NamesFile fs plain

end Texts

theorem normalForm_up (parts : List String) :
    normalForm (parts ++ [".."]) = (normalForm parts).dropLast := by
  simp [normalForm, normalStep]

theorem normalForm_name {name : String} (hname : name ≠ "..") (parts : List String) :
    normalForm (parts ++ [name]) = normalForm parts ++ [name] := by
  simp [normalForm, normalStep, hname]

/-! ## The walk on the text -/

section Walk

variable {fs : FileSystem} {follow : List String → List String → Option (List String)}

/-- The text grows by a part at its end. -/
theorem throughDirs_append {pre : List String} {part : String} (hpre : ThroughDirs fs pre)
    (hpart : part ≠ ".." → fs (normalForm (pre ++ [part])) = some .directory) :
    ThroughDirs fs (pre ++ [part]) := by
  intro before name after hsplit hname
  rcases List.eq_nil_or_concat after with rfl | ⟨after, last, rfl⟩
  · obtain ⟨rfl, hlast⟩ := List.append_inj' hsplit rfl
    cases hlast
    exact hpart hname
  · rw [List.concat_eq_append, ← List.cons_append, ← List.append_assoc] at hsplit
    obtain ⟨rfl, -⟩ := List.append_inj' hsplit rfl
    exact hpre before name after rfl hname

theorem passable_of_throughDirs {parts : List String} (h : ThroughDirs fs parts) :
    Passable fs parts :=
  fun before name after hsplit hname => .inl (h before name after hsplit hname)

/-- The last part may be a file's. -/
theorem passable_append {pre : List String} {part : String} (hpre : ThroughDirs fs pre)
    (hpart : fs (normalForm (pre ++ [part])) = some .file) : Passable fs (pre ++ [part]) := by
  intro before name after hsplit hname
  rcases List.eq_nil_or_concat after with rfl | ⟨after, last, rfl⟩
  · obtain ⟨rfl, hlast⟩ := List.append_inj' hsplit rfl
    cases hlast
    exact .inr ⟨rfl, hpart⟩
  · rw [List.concat_eq_append, ← List.cons_append, ← List.append_assoc] at hsplit
    obtain ⟨rfl, -⟩ := List.append_inj' hsplit rfl
    exact .inl (hpre before name after rfl hname)

/-- A walk along a passable text ends at its normal form. -/
theorem walkPath_passable (parts pre : List String) (h : Passable fs (pre ++ parts)) :
    walkPath fs follow (normalForm pre) parts = some (normalForm (pre ++ parts)) := by
  induction parts generalizing pre with
  | nil => rw [List.append_nil, walkPath]
  | cons part parts ih =>
      have hsplit : pre ++ part :: parts = (pre ++ [part]) ++ parts := by simp
      have hrest := ih (pre ++ [part]) (hsplit ▸ h)
      rw [← hsplit] at hrest
      unfold walkPath
      by_cases hup : part = ".."
      · rw [if_pos hup, ← normalForm_up, ← hup]
        exact hrest
      · rw [if_neg hup, ← normalForm_name hup]
        rcases h pre part parts rfl hup with hdir | ⟨rfl, hfile⟩
        · rw [hdir]
          exact hrest
        · rw [hfile]
          rfl

/-- Directories at the start of a text are walked through. -/
theorem walkPath_throughDirs (before pre parts : List String)
    (h : ThroughDirs fs (pre ++ before)) :
    walkPath fs follow (normalForm pre) (before ++ parts) =
      walkPath fs follow (normalForm (pre ++ before)) parts := by
  induction before generalizing pre with
  | nil => rw [List.append_nil, List.nil_append]
  | cons part before ih =>
      have hsplit : pre ++ part :: before = (pre ++ [part]) ++ before := by simp
      have hrest := ih (pre ++ [part]) (hsplit ▸ h)
      rw [← hsplit] at hrest
      rw [← hrest, List.cons_append]
      conv_lhs => unfold walkPath
      by_cases hup : part = ".."
      · rw [if_pos hup, hup, normalForm_up]
      · rw [if_neg hup, ← normalForm_name hup, h pre part before rfl hup]

/-- A walk that ends has passed the whole text, or has come to a first link and gone on there. -/
theorem walkPath_inv (parts pre : List String) (hpre : ThroughDirs fs pre)
    {location : List String} (h : walkPath fs follow (normalForm pre) parts = some location) :
    Passable fs (pre ++ parts) ∧ normalForm (pre ++ parts) = location ∨
      ∃ before name after target, pre ++ parts = before ++ name :: after ∧ name ≠ ".." ∧
        ThroughDirs fs before ∧ fs (normalForm (before ++ [name])) = some (.link target) ∧
        follow (if target.root ≠ "" then [] else normalForm before) (target.parts ++ after) =
          some location := by
  induction parts generalizing pre with
  | nil =>
      rw [walkPath] at h
      cases h
      rw [List.append_nil]
      exact .inl ⟨passable_of_throughDirs hpre, rfl⟩
  | cons part parts ih =>
      have hsplit : pre ++ part :: parts = (pre ++ [part]) ++ parts := by simp
      unfold walkPath at h
      by_cases hup : part = ".."
      · rw [if_pos hup, ← normalForm_up, ← hup] at h
        rw [hsplit]
        exact ih _ (throughDirs_append hpre (absurd hup)) h
      · rw [if_neg hup, ← normalForm_name hup] at h
        split at h
        next => cases h
        next hdir =>
          rw [hsplit]
          exact ih _ (throughDirs_append hpre fun _ => hdir) h
        next hfile =>
          cases parts with
          | nil =>
              cases h
              exact .inl ⟨passable_append hpre hfile, rfl⟩
          | cons next parts => cases h
        next target hlink => exact .inr ⟨pre, part, parts, target, rfl, hup, hpre, hlink, h⟩

/-- The walk from the root goes through directories to what follows them. -/
theorem walkLinks_throughDirs {before : List String} (h : ThroughDirs fs before) (links : Nat)
    (parts : List String) :
    walkLinks fs links [] (before ++ parts) = walkLinks fs links (normalForm before) parts := by
  cases links with
  | zero => exact walkPath_throughDirs before [] parts h
  | succ links => exact walkPath_throughDirs before [] parts h

/-- Where a link leads, walked from the root. -/
theorem walkLinks_target {before : List String} (h : ThroughDirs fs before) (links : Nat)
    (target : PurePath) (after : List String) :
    walkLinks fs links (if target.root ≠ "" then [] else normalForm before)
        (target.parts ++ after) =
      walkLinks fs links [] ((if target.root ≠ "" then [] else before) ++
        (target.parts ++ after)) := by
  by_cases habsolute : target.root ≠ ""
  · rw [if_pos habsolute, if_pos habsolute, List.nil_append]
  · rw [if_neg habsolute, if_neg habsolute, walkLinks_throughDirs h]

/-- **The walk of the file system, on the text.**  It ends where some text of the path leads. -/
theorem walkLinks_eq_some_iff (links : Nat) (parts location : List String) :
    walkLinks fs links [] parts = some location ↔
      ∃ plain, Expands fs links parts plain ∧ Passable fs plain ∧ normalForm plain = location := by
  have hnil : ThroughDirs fs [] := fun before name after hsplit => by simp at hsplit
  constructor
  · intro h
    induction links generalizing parts with
    | zero =>
        rcases walkPath_inv parts [] hnil h with
          ⟨hpassable, hlocation⟩ | ⟨_, _, _, _, _, _, _, _, hnone⟩
        · exact ⟨parts, .plain 0 parts, hpassable, hlocation⟩
        · cases hnone
    | succ links ih =>
        rcases walkPath_inv parts [] hnil h with
          ⟨hpassable, hlocation⟩ | ⟨before, name, after, target, rfl, hname, hbefore, hlink, hrest⟩
        · exact ⟨parts, .plain _ parts, hpassable, hlocation⟩
        · rw [walkLinks_target hbefore] at hrest
          obtain ⟨plain, hplain, hends⟩ := ih _ hrest
          exact ⟨plain, .link hname hbefore hlink hplain, hends⟩
  · rintro ⟨plain, hplain, hpassable, rfl⟩
    induction hplain with
    | plain links parts =>
        cases links with
        | zero => exact walkPath_passable parts [] hpassable
        | succ links => exact walkPath_passable parts [] hpassable
    | link hname hbefore hlink hplain ih =>
        rw [walkLinks_throughDirs hbefore, walkLinks, walkPath, if_neg hname,
          ← normalForm_name hname, hlink]
        exact (walkLinks_target hbefore _ _ _).trans (ih hpassable)

/-- A path names a regular file where one of its texts leads to one. -/
theorem fileAt_eq_some_iff (path : PurePath) (location : List String) :
    fileAt fs path = some location ↔
      ∃ plain, Expands fs 40 path.parts plain ∧ NamesFile fs plain ∧
        normalForm plain = location := by
  have hfile : fileAt fs path = some location ↔
      resolvePath fs path = some location ∧ fs location = some .file := by
    unfold fileAt
    rw [Option.filter_eq_some_iff]
    refine and_congr_right fun _ => ?_
    split <;> simp_all
  rw [hfile, resolvePath, walkLinks_eq_some_iff]
  constructor
  · rintro ⟨⟨plain, hplain, hpassable, rfl⟩, hnode⟩
    exact ⟨plain, hplain, ⟨hpassable, hnode⟩, rfl⟩
  · rintro ⟨plain, hplain, ⟨hpassable, hnode⟩, rfl⟩
    exact ⟨⟨plain, hplain, hpassable, rfl⟩, hnode⟩

theorem fileAt_eq_none_iff (path : PurePath) :
    fileAt fs path = none ↔ NamesNothing fs path.parts := by
  rw [Option.eq_none_iff_forall_ne_some]
  constructor
  · intro h plain hplain hfile
    exact h _ ((fileAt_eq_some_iff path _).mpr ⟨plain, hplain, hfile, rfl⟩)
  · intro h location hfile
    obtain ⟨plain, hplain, hnames, -⟩ := (fileAt_eq_some_iff path location).mp hfile
    exact h plain hplain hnames

/-- Without links a path has one text. -/
theorem expands_eq (hlinks : ∀ location target, fs location ≠ some (.link target)) {links : Nat}
    {parts plain : List String} (h : Expands fs links parts plain) : plain = parts := by
  cases h with
  | plain => rfl
  | link _ _ hlink => exact absurd hlink (hlinks _ _)

theorem staysBelow_iff (hlinks : ∀ location target, fs location ≠ some (.link target))
    (root parts : List String) :
    StaysBelow fs root parts ↔ root <+: normalForm parts ∨ ¬ NamesFile fs parts := by
  constructor
  · intro h
    by_cases hfile : NamesFile fs parts
    · exact .inl (h parts (.plain 40 parts) hfile)
    · exact .inr hfile
  · intro h plain hplain hfile
    cases expands_eq hlinks hplain
    exact h.resolve_right (not_not_intro hfile)

end Walk

/-! ## What the fallback sends -/

section Served

variable {fs : FileSystem} {staticDir : PurePath} {root : List String}

theorem insideDir_iff (hroot : resolvePath fs staticDir = some root) (location : List String) :
    InsideDir fs staticDir location ↔ root <+: location := by
  unfold InsideDir
  rw [hroot]
  simp

theorem fileAt_insideDir_iff (hroot : resolvePath fs staticDir = some root) (path : PurePath) :
    (∀ location, fileAt fs path = some location → InsideDir fs staticDir location) ↔
      StaysBelow fs root path.parts := by
  constructor
  · intro h plain hplain hfile
    exact (insideDir_iff hroot _).mp
      (h _ ((fileAt_eq_some_iff path _).mpr ⟨plain, hplain, hfile, rfl⟩))
  · intro h location hfile
    obtain ⟨plain, hplain, hnames, rfl⟩ := (fileAt_eq_some_iff path location).mp hfile
    exact (insideDir_iff hroot _).mpr (h plain hplain hnames)

/-- On the texts: the captured path stays below, and so does `index.html` where it is sent. -/
theorem servedInside_iff (hroot : resolvePath fs staticDir = some root) (fullPath : String) :
    ServedInside fs staticDir fullPath ↔
      StaysBelow fs root (staticDir.join (.ofText fullPath)).parts ∧
      (NamesNothing fs (staticDir.join (.ofText fullPath)).parts →
        StaysBelow fs root (staticDir.join (.ofText "index.html")).parts) := by
  unfold ServedInside
  rw [← fileAt_insideDir_iff hroot, ← fileAt_insideDir_iff hroot, ← fileAt_eq_none_iff]
  cases hfile : fileAt fs (staticDir.join (.ofText fullPath)) with
  | none =>
      have hserved : serveSpa fs staticDir fullPath =
          fileAt fs (staticDir.join (.ofText "index.html")) := by
        simp [serveSpa, hfile]
      simp [hserved]
  | some found =>
      have hserved : serveSpa fs staticDir fullPath = some found := by
        simp [serveSpa, hfile]
      simp [hserved]

/-- The parts of `index.html` in the directory add its name to the directory's normal form. -/
theorem index_below (hlinks : ∀ location target, fs location ≠ some (.link target))
    (hroot : resolvePath fs staticDir = some root) :
    root <+: normalForm (staticDir.join (.ofText "index.html")).parts := by
  obtain ⟨plain, hplain, -, rfl⟩ := (walkLinks_eq_some_iff 40 staticDir.parts root).mp hroot
  cases expands_eq hlinks hplain
  have hindex : PurePath.ofText "index.html" = ⟨"", ["index.html"]⟩ := by decide +kernel
  have hparts : (staticDir.join (.ofText "index.html")).parts =
      staticDir.parts ++ ["index.html"] := by
    rw [hindex, PurePath.join, if_neg (by simp)]
  have hname : "index.html" ≠ ".." := by decide
  rw [hparts, normalForm_name hname]
  exact List.prefix_append _ _

end Served

/-- **When the file that is sent lies inside the static directory.**  Every text of the captured
path, joined to the directory, that leads to a file has a normal form below the directory; and
where none leads to a file, the same of `index.html`.  Without links: the normal form of the
joined path is below the directory, or the path names no file. -/
theorem serve_spa_inside_iff (fs : FileSystem) (staticDir : PurePath) (fullPath : String)
    (root : List String) (hroot : resolvePath fs staticDir = some root) :
    (ServedInside fs staticDir fullPath ↔
      StaysBelow fs root (staticDir.join (.ofText fullPath)).parts ∧
      (NamesNothing fs (staticDir.join (.ofText fullPath)).parts →
        StaysBelow fs root (staticDir.join (.ofText "index.html")).parts)) ∧
    ((∀ location target, fs location ≠ some (.link target)) →
      (ServedInside fs staticDir fullPath ↔
        root <+: normalForm (staticDir.join (.ofText fullPath)).parts ∨
          ¬ NamesFile fs (staticDir.join (.ofText fullPath)).parts)) := by
  refine ⟨servedInside_iff hroot fullPath, fun hlinks => ?_⟩
  rw [servedInside_iff hroot, staysBelow_iff hlinks, staysBelow_iff hlinks]
  exact and_iff_left fun _ => .inl (index_below hlinks hroot)

/-- The UI under `/app/static`, and a file elsewhere. -/
def container : FileSystem := fun location =>
  if location ∈ [[], ["app"], ["app", "static"], ["etc"]] then some .directory
  else if location ∈ [["app", "static", "index.html"], ["etc", "passwd"]] then some .file
  else none

theorem container_links (location : List String) (target : PurePath) :
    container location ≠ some (.link target) := by
  unfold container
  split
  · simp
  · split <;> simp

theorem container_static :
    resolvePath container (.ofText "/app/static") = some ["app", "static"] := by
  decide +kernel

/-- Up and down again stays inside; an absolute path names a file outside. -/
theorem serve_spa_inside_iff_container :
    ServedInside container (.ofText "/app/static") "../static/index.html" ∧
      ¬ ServedInside container (.ofText "/app/static") "/etc/passwd" := by
  have hup := serve_spa_inside_iff container (.ofText "/app/static") "../static/index.html" _
    container_static
  have habsolute := serve_spa_inside_iff container (.ofText "/app/static") "/etc/passwd" _
    container_static
  constructor
  · exact (hup.2 container_links).mpr (.inl (by decide +kernel))
  · intro h
    rcases (habsolute.2 container_links).mp h with hbelow | hnothing
    · exact absurd hbelow (by decide +kernel)
    · obtain ⟨plain, hplain, hfile, -⟩ := (fileAt_eq_some_iff (.ofText "/etc/passwd")
        ["etc", "passwd"]).mp (by decide +kernel : fileAt container _ = _)
      cases expands_eq container_links hplain
      exact hnothing hfile

/-- Two dots a level, and a file outside is sent. -/
theorem serve_spa_escapes :
    ¬ ∀ (fs : FileSystem) (staticDir : PurePath) (fullPath : String),
      ServedInside fs staticDir fullPath := by
  intro h
  obtain ⟨root, hroot, hinside⟩ := h container (.ofText "/app/static") "../../etc/passwd"
    ["etc", "passwd"] (by decide +kernel)
  rw [container_static] at hroot
  cases hroot
  revert hinside
  decide

end OpenSoar
