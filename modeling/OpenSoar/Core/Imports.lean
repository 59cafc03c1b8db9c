/-
# `OpenSoar.Core.Imports` — how a process imports the playbook files

`discover` walks the configured directories and executes the files that are not in
`sys.modules` under the module name it makes of their path; `clear_and_reload` first forgets
the modules under the base names of the directories, and the registry.  Code is what its
execution does: the playbooks it registers, and the exception it ends with, if any.

An exception of the listed classes is logged and the walk goes on, any other leaves it.  So
what a walk leaves behind is decided by which files it executes (`firstUnder`): those whose
module name is free when their turn comes.  The loader takes their code from `__pycache__` when
the size and the second of the last change written there are those of the file, and else compiles
the text and may write it there (`getCode`); neither a walk nor a reload removes anything from it.
-/
import OpenSoar.Core.Registry
import OpenSoar.Python.Pathlib

namespace OpenSoar

open Python

/-- An exception, as the names of its class and of the built-in classes it derives from. -/
structure PyException where
  classes : List String

/-- The classes `_import_module` catches. -/
def importErrors : List String :=
  ["SyntaxError", "ImportError", "AttributeError", "NameError", "TypeError", "ValueError",
   "OSError"]

def PyException.caught (e : PyException) : Bool := e.classes.any (fun c => importErrors.contains c)

/-- What executing a module does: the playbooks it registers, and the exception it ends with. -/
structure ModuleCode where
  declares : List RegisteredPlaybook
  raises : Option PyException

/-- A source file: where its bytecode is kept, the whole seconds of its `st_mtime`, its size, and
what reading and compiling its text gives. -/
structure SourceFile where
  bytecodePath : String
  mtime : Int
  size : Nat
  compiled : Except PyException ModuleCode

/-- A file below a playbook directory, by its path from there. -/
structure PlaybookFile where
  parts : List String
  source : SourceFile

/-- The `*.py` files below a directory; none is a directory that does not exist.  Paths with one
bytecode file are paths of one source. -/
structure Sources where
  below : String → Option (List PlaybookFile)
  oneSource : ∀ directory directory' files files', below directory = some files →
    below directory' = some files' → ∀ file ∈ files, ∀ file' ∈ files',
      file.source.bytecodePath = file'.source.bytecodePath → file.source = file'.source

/-- A file in `__pycache__`: the code, and the time and the size of the source it is of. -/
structure Bytecode where
  stamp : Int × Int
  code : ModuleCode

abbrev BytecodeFiles := String → Option Bytecode

structure Disk where
  sources : Sources
  bytecode : BytecodeFiles

/-- What bytecode is validated by: `int(st_mtime)` and `st_size`, in 32 bits each. -/
def SourceFile.stamp (source : SourceFile) : Int × Int :=
  (source.mtime % 2 ^ 32, (source.size : Int) % 2 ^ 32)

/-- The bytecode of a source that bears its stamp. -/
def validBytecode (bytecode : BytecodeFiles) (source : SourceFile) : Option Bytecode :=
  (bytecode source.bytecodePath).filter (fun cached => cached.stamp = source.stamp)

/-- `SourceFileLoader.get_code`: valid bytecode, or the compiled text.  `writable` are the bytecode
files that the process can write. -/
def getCode (writable : String → Bool) (bytecode : BytecodeFiles) (source : SourceFile) :
    Except PyException ModuleCode × BytecodeFiles :=
  match validBytecode bytecode source with
  | some cached => (.ok cached.code, bytecode)
  | none =>
      match source.compiled with
      | .error e => (.error e, bytecode)
      | .ok code =>
          (.ok code, if writable source.bytecodePath then
            Function.update bytecode source.bytecodePath (some ⟨source.stamp, code⟩) else bytecode)

/-- `exec_module`: a text that does not compile registers nothing. -/
def execModule : Except PyException ModuleCode → ModuleCode
  | .ok code => code
  | .error e => ⟨[], some e⟩

/-- The module name of a file: its path from the directory's parent, without the suffix, dots
for slashes. -/
def moduleName (directory : String) (parts : List String) : String :=
  let dir := PurePath.ofText directory
  let file := parts.dropLast ++ [PurePath.withoutSuffix (parts.getLastD "")]
  let relative := String.intercalate "/" (if dir.parts.isEmpty then file else dir.name :: file)
  String.ofList (relative.toList.map (fun c => if c = '/' ∨ c = '\\' then '.' else c))

example : moduleName "/srv/a/playbooks" ["sub", "x.py"] = "playbooks.sub.x" := by decide +kernel

/-- The files `discover` goes through, under their module names. -/
def scan (dirs : List String) (sources : Sources) : List (String × PlaybookFile) :=
  dirs.flatMap (fun directory =>
    match sources.below directory with
    | none => []
    | some files =>
        ((files.insertionSort (fun file file' => file.parts ≤ file'.parts)).filter
          (fun file => ¬ ['_'].isPrefixOf (file.parts.getLastD "").toList)).map
            (fun file => (moduleName directory file.parts, file)))

/-- A Python process: the names in `sys.modules`, the registry it reads, whether that is
still the one the decorators of `sys.modules` write to, and which bytecode files it writes (none
with `sys.dont_write_bytecode`). -/
structure Interpreter where
  modules : List String
  attached : Bool
  registry : PlaybookRegistry
  writable : String → Bool

/-- The process after code was executed under a module name. -/
def Interpreter.executed (p : Interpreter) (name : String) (code : ModuleCode) : Interpreter :=
  { p with
    modules := name :: p.modules
    registry := if p.attached then p.registry.discover code.declares else p.registry }

/-- A process that imports, and the bytecode files beside the sources. -/
structure Importing where
  process : Interpreter
  bytecode : BytecodeFiles

/-- `_import_module`, and the exception it lets through. -/
def importModule (s : Importing) (entry : String × PlaybookFile) :
    Importing × Option PyException :=
  if entry.1 ∈ s.process.modules then (s, none)
  else
    let (compiled, bytecode) := getCode s.process.writable s.bytecode entry.2.source
    let code := execModule compiled
    (⟨s.process.executed entry.1 code, bytecode⟩, code.raises.filter (fun e => ¬ e.caught))

/-- The loop over the files, to the first exception that is let through. -/
def importAll : Importing → List (String × PlaybookFile) → Importing × Option PyException
  | s, [] => (s, none)
  | s, entry :: entries =>
      match importModule s entry with
      | (s', none) => importAll s' entries
      | (s', some e) => (s', some e)

/-- What a walk leaves: the process, the disk, and the exception that it lets through. -/
structure Discovery where
  process : Interpreter
  disk : Disk
  raised : Option PyException

/-- `discover`. -/
def discover (dirs : List String) (disk : Disk) (p : Interpreter) : Discovery :=
  let (s, raised) := importAll ⟨p, disk.bytecode⟩ (scan dirs disk.sources)
  ⟨s.process, { disk with bytecode := s.bytecode }, raised⟩

/-- A module of a base name, or below it. -/
def underBase (bases : List String) (module : String) : Bool :=
  bases.any (fun base => module == base || (base ++ ".").toList.isPrefixOf module.toList)

/-- The module that holds `_PLAYBOOK_REGISTRY`. -/
def decoratorsModule : String := "opensoar.core.decorators"

/-- What `clear_and_reload` does before it discovers: `invalidate_caches` leaves the bytecode files.
When the modules it forgets include the decorators, the playbooks' imports load those anew, with a
registry of their own. -/
def Interpreter.cleared (dirs : List String) (p : Interpreter) : Interpreter :=
  let bases := (dirs.map (fun directory => (PurePath.ofText directory).name)).filter (· ≠ "")
  let modules := p.modules.filter (fun module => ¬ underBase bases module)
  { p with
    modules := modules
    attached := p.attached && modules.contains decoratorsModule
    registry := if p.attached then .empty else p.registry }

/-- `clear_and_reload`. -/
def clearAndReload (dirs : List String) (disk : Disk) (p : Interpreter) : Discovery :=
  discover dirs disk (p.cleared dirs)

/-! ## What a registration finds -/

/-- The last of the playbooks of a name. -/
def lastNamed (name : String) (declared : List RegisteredPlaybook) : Option RegisteredPlaybook :=
  declared.findRev? (fun pb => pb.name = name)

/-- The playbook is declared, and no later one has its name. -/
def LastUnderName (declared : List RegisteredPlaybook) (pb : RegisteredPlaybook) : Prop :=
  ∃ earlier later, declared = earlier ++ pb :: later ∧ ∀ other ∈ later, other.name ≠ pb.name

theorem of_lastNamed {name : String} {declared : List RegisteredPlaybook} {pb : RegisteredPlaybook}
    (h : lastNamed name declared = some pb) : pb ∈ declared ∧ pb.name = name := by
  rw [lastNamed, List.findRev?_eq_find?_reverse] at h
  have hname := List.find?_some h
  exact ⟨List.mem_reverse.mp (List.mem_of_find?_eq_some h), of_decide_eq_true hname⟩

theorem lastNamed_iff {declared : List RegisteredPlaybook} {pb : RegisteredPlaybook} :
    lastNamed pb.name declared = some pb ↔ LastUnderName declared pb := by
  rw [lastNamed, List.findRev?_eq_find?_reverse, List.find?_eq_some_iff_append,
    and_iff_right (decide_eq_true rfl)]
  constructor
  · rintro ⟨later, earlier, hsplit, hother⟩
    refine ⟨earlier.reverse, later.reverse, ?_, fun other hmem => ?_⟩
    · rw [← List.reverse_reverse declared, hsplit, List.reverse_append, List.reverse_cons,
        List.append_assoc, List.singleton_append]
    · have hnot := hother other (List.mem_reverse.mp hmem)
      simpa using hnot
  · rintro ⟨earlier, later, rfl, hother⟩
    refine ⟨later.reverse, earlier.reverse, ?_, fun other hmem => ?_⟩
    · rw [List.reverse_append, List.reverse_cons, List.append_assoc, List.singleton_append]
    · simpa using hother other (List.mem_reverse.mp hmem)

theorem lastNamed_eq_none {name : String} {declared : List RegisteredPlaybook} :
    lastNamed name declared = none ↔ ∀ pb ∈ declared, pb.name ≠ name := by
  rw [lastNamed, List.findRev?_eq_find?_reverse, List.find?_eq_none]
  simp only [List.mem_reverse, decide_eq_true_eq, ne_eq]

theorem find?_register (registry : PlaybookRegistry) (pb : RegisteredPlaybook) (name : String) :
    (registry.register pb).find? name =
      if name = pb.name then some pb else registry.find? name := by
  unfold PlaybookRegistry.register
  cases hinsert : registry.insert? pb with
  | some registry' => exact Table.find?_insert hinsert name
  | none =>
      have hsome : (registry.find? pb.name).isSome := by
        cases hfind : registry.find? pb.name with
        | some _ => rfl
        | none =>
            obtain ⟨registry', h⟩ := Table.insert?_of_find? hfind
            rw [hinsert] at h
            cases h
      obtain ⟨old, hold⟩ := Option.isSome_iff_exists.mp hsome
      show (registry.set pb).find? name = _
      rw [Table.find?_set]
      by_cases hname : name = pb.name
      · rw [if_pos hname, if_pos hname, hname, hold]
        rfl
      · rw [if_neg hname, if_neg hname]

/-- **What registrations find under a name**: the last of them. -/
theorem find?_discover (registry : PlaybookRegistry) (declared : List RegisteredPlaybook)
    (name : String) : (registry.discover declared).find? name =
      (lastNamed name declared).or (registry.find? name) := by
  induction declared generalizing registry with
  | nil => rfl
  | cons pb declared ih =>
      show ((registry.register pb).discover declared).find? name = _
      rw [ih, find?_register, lastNamed, lastNamed, List.findRev?]
      cases declared.findRev? (fun pb => pb.name = name) with
      | some later => rfl
      | none =>
          by_cases hname : pb.name = name
          · rw [if_pos hname.symm]
            simp only [decide_eq_true hname]
            rfl
          · rw [if_neg (Ne.symm hname)]
            simp only [decide_eq_false hname]
            rfl

theorem discover_append (registry : PlaybookRegistry)
    (declared declared' : List RegisteredPlaybook) :
    registry.discover (declared ++ declared') = (registry.discover declared).discover declared' :=
  List.foldl_append

/-! ## The code of a file -/

/-- What importing a source executes. -/
def importedCode (bytecode : BytecodeFiles) (source : SourceFile) : ModuleCode :=
  match validBytecode bytecode source with
  | some cached => cached.code
  | none => execModule source.compiled

theorem execModule_getCode (writable : String → Bool) (bytecode : BytecodeFiles)
    (source : SourceFile) :
    execModule (getCode writable bytecode source).1 = importedCode bytecode source := by
  rw [getCode, importedCode]
  cases validBytecode bytecode source with
  | some cached => rfl
  | none =>
      cases source.compiled with
      | error e => rfl
      | ok code => rfl

/-- Importing a source writes the code that it executes, so that no later import executes anything
else. -/
theorem importedCode_getCode {source source' : SourceFile}
    (hone : source'.bytecodePath = source.bytecodePath → source' = source)
    (writable : String → Bool) (bytecode : BytecodeFiles) :
    importedCode (getCode writable bytecode source).2 source' = importedCode bytecode source' := by
  rw [getCode]
  cases hvalid : validBytecode bytecode source with
  | some cached => rfl
  | none =>
      cases hcompiled : source.compiled with
      | error e => rfl
      | ok code =>
          dsimp only
          split
          · by_cases hpath : source'.bytecodePath = source.bytecodePath
            · obtain rfl := hone hpath
              have hwritten : validBytecode (Function.update bytecode source'.bytecodePath
                  (some ⟨source'.stamp, code⟩)) source' = some ⟨source'.stamp, code⟩ := by
                rw [validBytecode, Function.update_self, Option.filter_some]
                exact if_pos (decide_eq_true rfl)
              rw [importedCode, importedCode, hvalid, hwritten, hcompiled]
              rfl
            · rw [importedCode, importedCode, validBytecode, validBytecode,
                Function.update_of_ne hpath]
          · rfl

/-! ## The files that are executed -/

/-- The files whose module name is free when their turn comes. -/
def firstUnder : List String → List (String × PlaybookFile) → List PlaybookFile
  | _, [] => []
  | modules, (name, file) :: entries =>
      if name ∈ modules then firstUnder modules entries
      else file :: firstUnder (name :: modules) entries

/-- The code that a walk executes. -/
def executedCode (modules : List String) (bytecode : BytecodeFiles)
    (entries : List (String × PlaybookFile)) : List ModuleCode :=
  (firstUnder modules entries).map (fun file => importedCode bytecode file.source)

/-- The playbooks that it registers, in order. -/
def executedPlaybooks (modules : List String) (bytecode : BytecodeFiles)
    (entries : List (String × PlaybookFile)) : List RegisteredPlaybook :=
  (executedCode modules bytecode entries).flatMap ModuleCode.declares

/-- The code ends with no exception, or with one that is caught. -/
def ModuleCode.Contained (code : ModuleCode) : Prop :=
  ∀ e, code.raises = some e → e.caught = true

/-- Files with one bytecode file are one source. -/
def OneSource (entries : List (String × PlaybookFile)) : Prop :=
  ∀ entry ∈ entries, ∀ entry' ∈ entries,
    entry.2.source.bytecodePath = entry'.2.source.bytecodePath → entry.2.source = entry'.2.source

theorem mem_of_firstUnder {modules : List String} {entries : List (String × PlaybookFile)}
    {file : PlaybookFile} (h : file ∈ firstUnder modules entries) :
    ∃ module, (module, file) ∈ entries := by
  induction entries generalizing modules with
  | nil => cases h
  | cons entry entries ih =>
      unfold firstUnder at h
      split at h
      · obtain ⟨module, hmem⟩ := ih h
        exact ⟨module, List.mem_cons_of_mem _ hmem⟩
      · rcases List.mem_cons.mp h with rfl | h
        · exact ⟨entry.1, List.mem_cons_self⟩
        · obtain ⟨module, hmem⟩ := ih h
          exact ⟨module, List.mem_cons_of_mem _ hmem⟩

theorem mem_of_scan {dirs : List String} {sources : Sources} {entry : String × PlaybookFile}
    (h : entry ∈ scan dirs sources) :
    ∃ directory files, sources.below directory = some files ∧ entry.2 ∈ files := by
  obtain ⟨directory, -, h⟩ := List.mem_flatMap.mp h
  cases hfiles : sources.below directory with
  | none =>
      rw [hfiles] at h
      cases h
  | some files =>
      rw [hfiles] at h
      obtain ⟨file, hfile, rfl⟩ := List.mem_map.mp h
      exact ⟨directory, files, hfiles,
        (List.mem_insertionSort _).mp (List.mem_of_mem_filter hfile)⟩

theorem oneSource_scan (dirs : List String) (sources : Sources) :
    OneSource (scan dirs sources) := by
  intro entry hentry entry' hentry' hpath
  obtain ⟨directory, files, hfiles, hmem⟩ := mem_of_scan hentry
  obtain ⟨directory', files', hfiles', hmem'⟩ := mem_of_scan hentry'
  exact sources.oneSource directory directory' files files' hfiles hfiles' _ hmem _ hmem' hpath

section ImportAll

variable {s : Importing} {name : String} {file : PlaybookFile}
  {entries : List (String × PlaybookFile)}

/-- The process and the disk after a file was executed. -/
def Importing.imported (s : Importing) (name : String) (file : PlaybookFile) : Importing :=
  ⟨s.process.executed name (importedCode s.bytecode file.source),
    (getCode s.process.writable s.bytecode file.source).2⟩

theorem importModule_taken (h : name ∈ s.process.modules) :
    importModule s (name, file) = (s, none) := if_pos h

theorem importModule_free (h : name ∉ s.process.modules) :
    importModule s (name, file) = (s.imported name file,
      (importedCode s.bytecode file.source).raises.filter (fun e => ¬ e.caught)) := by
  rw [importModule, if_neg h, Importing.imported]
  simp only [execModule_getCode]

theorem contained_iff {code : ModuleCode} :
    code.Contained ↔ code.raises.filter (fun e => ¬ e.caught) = none := by
  unfold ModuleCode.Contained
  cases code.raises with
  | none => simp
  | some e => simp

theorem importAll_contained (h : name ∉ s.process.modules)
    (hcode : (importedCode s.bytecode file.source).Contained) :
    importAll s ((name, file) :: entries) = importAll (s.imported name file) entries := by
  rw [importAll, importModule_free h, contained_iff.mp hcode]

theorem importAll_taken (h : name ∈ s.process.modules) :
    importAll s ((name, file) :: entries) = importAll s entries := by
  rw [importAll, importModule_taken h]

theorem executedCode_taken {modules : List String} (bytecode : BytecodeFiles)
    (h : name ∈ modules) : executedCode modules bytecode ((name, file) :: entries) =
      executedCode modules bytecode entries := by
  rw [executedCode, firstUnder, if_pos h]
  rfl

theorem executedCode_free {modules : List String} (bytecode : BytecodeFiles)
    (h : name ∉ modules) : executedCode modules bytecode ((name, file) :: entries) =
      importedCode bytecode file.source :: executedCode (name :: modules) bytecode entries := by
  rw [executedCode, firstUnder, if_neg h]
  rfl

/-- What is executed later is what would have been executed at first. -/
theorem executedCode_imported (hone : OneSource ((name, file) :: entries)) :
    executedCode (s.imported name file).process.modules (s.imported name file).bytecode entries =
      executedCode (name :: s.process.modules) s.bytecode entries := by
  refine List.map_congr_left (fun later hlater => ?_)
  obtain ⟨module, hmem⟩ := mem_of_firstUnder hlater
  exact importedCode_getCode (hone (module, later) (List.mem_cons_of_mem _ hmem) (name, file)
    List.mem_cons_self) s.process.writable s.bytecode

theorem OneSource.tail {entry : String × PlaybookFile} (h : OneSource (entry :: entries)) :
    OneSource entries :=
  fun entry hentry entry' hentry' => h entry (List.mem_cons_of_mem _ hentry) entry'
    (List.mem_cons_of_mem _ hentry')

/-- **When a walk completes.** -/
theorem importAll_completes_iff (s : Importing) (entries : List (String × PlaybookFile))
    (hone : OneSource entries) :
    (importAll s entries).2 = none ↔
      ∀ code ∈ executedCode s.process.modules s.bytecode entries, code.Contained := by
  induction entries generalizing s with
  | nil => exact iff_of_true rfl (fun _ h => absurd h List.not_mem_nil)
  | cons entry entries ih =>
      obtain ⟨name, file⟩ := entry
      by_cases htaken : name ∈ s.process.modules
      · rw [importAll_taken htaken, executedCode_taken s.bytecode htaken]
        exact ih s hone.tail
      · rw [executedCode_free s.bytecode htaken, List.forall_mem_cons]
        by_cases hcode : (importedCode s.bytecode file.source).Contained
        · rw [importAll_contained htaken hcode, ih _ hone.tail, executedCode_imported hone]
          exact (and_iff_right hcode).symm
        · refine iff_of_false ?_ (fun h => hcode h.1)
          obtain ⟨e, he⟩ := Option.ne_none_iff_exists'.mp (mt contained_iff.mpr hcode)
          rw [importAll, importModule_free htaken, he]
          exact Option.some_ne_none e

/-- **What a walk that completes registers.** -/
theorem registry_importAll (s : Importing) (entries : List (String × PlaybookFile))
    (hone : OneSource entries)
    (hcontained : ∀ code ∈ executedCode s.process.modules s.bytecode entries, code.Contained) :
    (importAll s entries).1.process.registry =
      if s.process.attached then
        s.process.registry.discover (executedPlaybooks s.process.modules s.bytecode entries)
      else s.process.registry := by
  induction entries generalizing s with
  | nil =>
      split
      · rfl
      · rfl
  | cons entry entries ih =>
      obtain ⟨name, file⟩ := entry
      by_cases htaken : name ∈ s.process.modules
      · rw [executedCode_taken s.bytecode htaken] at hcontained
        rw [importAll_taken htaken, executedPlaybooks, executedCode_taken s.bytecode htaken]
        exact ih s hone.tail hcontained
      · rw [executedCode_free s.bytecode htaken, List.forall_mem_cons] at hcontained
        rw [importAll_contained htaken hcontained.1, ih _ hone.tail
          (by rw [executedCode_imported hone]; exact hcontained.2), executedPlaybooks,
          executedPlaybooks, executedCode_imported hone, executedCode_free s.bytecode htaken,
          List.flatMap_cons, discover_append]
        show (if s.process.attached then _ else _) = _
        cases hattached : s.process.attached with
        | true => simp only [Importing.imported, Interpreter.executed, hattached, if_true]
        | false => simp only [Importing.imported, Interpreter.executed, hattached,
            Bool.false_eq_true, if_false]

end ImportAll

/-! ## One bad playbook and the rest -/

/-- The call completes, and the registry has every playbook of every file whose text imports
cleanly. -/
def RegistersAll (dirs : List String) (sources : Sources) (result : Discovery) : Prop :=
  result.raised = none ∧ ∀ entry ∈ scan dirs sources, ∀ code,
    entry.2.source.compiled = .ok code → code.raises = none →
      ∀ pb ∈ code.declares, result.process.registry.find? pb.name = some pb

/-- Among the playbooks that a walk registers this is the last of its name; or it is in the registry
before, and the walk registers none of its name. -/
def InPlace (p : Interpreter) (registered : List RegisteredPlaybook) (pb : RegisteredPlaybook) :
    Prop :=
  (p.attached = true ∧ LastUnderName registered pb) ∨
    ((p.attached = true → ∀ other ∈ registered, other.name ≠ pb.name) ∧
      p.registry.find? pb.name = some pb)

/-- No code that is executed raises anything but the caught classes; and every playbook of a file
that imports cleanly is in place, by what the files register whose module name is free when
their turn comes. -/
def NoneLeftOut (dirs : List String) (disk : Disk) (p : Interpreter) : Prop :=
  (∀ code ∈ executedCode p.modules disk.bytecode (scan dirs disk.sources), code.Contained) ∧
  ∀ entry ∈ scan dirs disk.sources, ∀ code, entry.2.source.compiled = .ok code →
    code.raises = none → ∀ pb ∈ code.declares,
      InPlace p (executedPlaybooks p.modules disk.bytecode (scan dirs disk.sources)) pb

theorem discover_completes_iff (dirs : List String) (disk : Disk) (p : Interpreter) :
    (discover dirs disk p).raised = none ↔
      ∀ code ∈ executedCode p.modules disk.bytecode (scan dirs disk.sources), code.Contained :=
  importAll_completes_iff ⟨p, disk.bytecode⟩ _ (oneSource_scan dirs disk.sources)

/-- What a discovery that completes finds under a name. -/
theorem find?_of_completes {dirs : List String} {disk : Disk} {p : Interpreter}
    (hcontained : ∀ code ∈ executedCode p.modules disk.bytecode (scan dirs disk.sources),
      code.Contained) (name : String) :
    (discover dirs disk p).process.registry.find? name =
      if p.attached then (lastNamed name (executedPlaybooks p.modules disk.bytecode
        (scan dirs disk.sources))).or (p.registry.find? name)
      else p.registry.find? name := by
  have hregistry := registry_importAll ⟨p, disk.bytecode⟩ (scan dirs disk.sources)
    (oneSource_scan dirs disk.sources) hcontained
  show (importAll ⟨p, disk.bytecode⟩ _).1.process.registry.find? name = _
  rw [hregistry]
  split
  · exact find?_discover p.registry _ name
  · rfl

/-- What is said of the function found under a name is said of the last one registered, or, if none
is, of the one that was there before. -/
theorem found_iff {P : Option RegisteredPlaybook → Prop} {attached : Bool}
    {registered : List RegisteredPlaybook} {name : String} {before : Option RegisteredPlaybook} :
    P (if attached then (lastNamed name registered).or before else before) ↔
      (attached = true ∧ ∃ pb, pb.name = name ∧ P (some pb) ∧ LastUnderName registered pb) ∨
      ((attached = true → ∀ other ∈ registered, other.name ≠ name) ∧ P before) := by
  cases attached with
  | false => simp only [Bool.false_eq_true, if_false, false_and, false_or, false_implies, true_and]
  | true =>
      simp only [if_true, true_and, true_implies]
      rw [← lastNamed_eq_none]
      cases hlast : lastNamed name registered with
      | none =>
          refine ⟨fun h => Or.inr ⟨rfl, h⟩, ?_⟩
          rintro (⟨pb, rfl, -, hpb⟩ | ⟨-, h⟩)
          · rw [lastNamed_iff.mpr hpb] at hlast
            cases hlast
          · exact h
      | some last =>
          obtain ⟨-, rfl⟩ := of_lastNamed hlast
          constructor
          · exact fun h => Or.inl ⟨last, rfl, h, lastNamed_iff.mp hlast⟩
          · rintro (⟨pb, hname, h, hpb⟩ | ⟨hnone, -⟩)
            · have hsame := lastNamed_iff.mpr hpb
              rw [hname, hlast] at hsame
              cases hsame
              exact h
            · cases hnone

theorem inPlace_iff {p : Interpreter} {registered : List RegisteredPlaybook}
    {pb : RegisteredPlaybook} :
    (if p.attached then (lastNamed pb.name registered).or (p.registry.find? pb.name)
      else p.registry.find? pb.name) = some pb ↔ InPlace p registered pb := by
  refine (found_iff (P := fun found => found = some pb)).trans
    (or_congr_left (and_congr_right (fun _ => ?_)))
  constructor
  · rintro ⟨other, -, hsame, hlast⟩
    cases hsame
    exact hlast
  · exact fun hlast => ⟨pb, rfl, rfl, hlast⟩

theorem registersAll_discover_iff (dirs : List String) (disk : Disk) (p : Interpreter) :
    RegistersAll dirs disk.sources (discover dirs disk p) ↔ NoneLeftOut dirs disk p := by
  unfold RegistersAll NoneLeftOut
  rw [discover_completes_iff]
  refine and_congr_right (fun hcontained => ?_)
  simp only [find?_of_completes hcontained, inPlace_iff]

/-- **When one bad playbook does not stop the rest.**  Whatever the directories, the files and the
process, a discovery, and a reload after what it forgets, completes with every playbook of every
clean file exactly when none is left out. -/
theorem discovery_registers_all_iff (dirs : List String) (disk : Disk) (p : Interpreter) :
    (RegistersAll dirs disk.sources (discover dirs disk p) ↔ NoneLeftOut dirs disk p) ∧
    (RegistersAll dirs disk.sources (clearAndReload dirs disk p) ↔
      NoneLeftOut dirs disk (p.cleared dirs)) :=
  ⟨registersAll_discover_iff dirs disk p, registersAll_discover_iff dirs disk (p.cleared dirs)⟩

/-- A process that has imported nothing but its own modules. -/
def Interpreter.fresh (modules : List String) (writable : String → Bool) : Interpreter :=
  ⟨modules, true, .empty, writable⟩

/-- One directory with these files. -/
def Sources.inDirectory (directory : String) (files : List PlaybookFile)
    (hpaths : (files.map (fun file => file.source.bytecodePath)).Nodup) : Sources where
  below name := if name = directory then some files else none
  oneSource := by
    intro name name' fs fs' hfs hfs' file hfile file' hfile' hpath
    split at hfs
    · split at hfs'
      · cases hfs
        cases hfs'
        rw [List.inj_on_of_nodup_map hpaths hfile hfile' hpath]
      · cases hfs'
    · cases hfs

/-- A file that declares one playbook, or raises. -/
def playbookFile (name : String) (raises : Option PyException) : PlaybookFile where
  parts := [name ++ ".py"]
  source := {
    bytecodePath := "playbooks/__pycache__/" ++ name ++ ".cpython-312.pyc"
    mtime := 0
    size := 0
    compiled := .ok {
      declares := if raises.isSome then [] else
        [{ name := name, trigger := none, conditions := [], description := "", enabled := true,
           order := 1000, priority := "default", functionName := name,
           func := fun _ _ db => .ok (db, .success), module := "playbooks." ++ name }]
      raises := raises } }

/-- A playbook that raises a `RuntimeError`, before one that imports cleanly. -/
def twoPlaybooks : List PlaybookFile :=
  [playbookFile "broken" (some ⟨["RuntimeError", "Exception"]⟩), playbookFile "clean" none]

theorem twoPlaybooks_nodup :
    (twoPlaybooks.map (fun file => file.source.bytecodePath)).Nodup := by decide +kernel

/-- A disk on which nothing has been imported. -/
def newDisk (files : List PlaybookFile)
    (hpaths : (files.map (fun file => file.source.bytecodePath)).Nodup) : Disk :=
  ⟨.inDirectory "playbooks" files hpaths, fun _ => none⟩

/-- The exception leaves `discover`. -/
theorem bad_playbook_stops_the_rest :
    ¬ ∀ (dirs : List String) (disk : Disk) (modules : List String) (writable : String → Bool),
      RegistersAll dirs disk.sources (discover dirs disk (.fresh modules writable)) ∧
      RegistersAll dirs disk.sources (clearAndReload dirs disk (.fresh modules writable)) := by
  intro h
  have hcompletes := (h ["playbooks"] (newDisk twoPlaybooks twoPlaybooks_nodup)
    [decoratorsModule] (fun _ => true)).1.1
  revert hcompletes
  decide +kernel

end OpenSoar
