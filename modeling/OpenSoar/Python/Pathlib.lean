/-
# `OpenSoar.Python.Pathlib` — pure paths, as `pathlib` reads and joins them

A path is its root and its parts: empty parts and `.` are dropped when a text is read, `..`
is kept for the file system.  Joining with a path that has a root replaces the base.
-/
import Mathlib.Data.List.Basic

namespace OpenSoar.Python

/-- `PurePosixPath`.  The root is empty for a relative path. -/
structure PurePath where
  root : String
  parts : List String
deriving DecidableEq

namespace PurePath

/-- One or three slashes and more are the root `/`, two are a root of their own. -/
def rootOf (s : String) : String :=
  match s.toList with
  | '/' :: '/' :: '/' :: _ => "/"
  | '/' :: '/' :: _ => "//"
  | '/' :: _ => "/"
  | _ => ""

/-- `Path(text)`. -/
def ofText (s : String) : PurePath where
  root := rootOf s
  parts := ((s.toList.splitOn '/').map String.ofList).filter (fun part => part ≠ "" ∧ part ≠ ".")

/-- `base / path`. -/
def join (base path : PurePath) : PurePath :=
  if path.root ≠ "" then path else ⟨base.root, base.parts ++ path.parts⟩

/-- `path.name`: the last part. -/
def name (path : PurePath) : String := path.parts.getLastD ""

/-- `name.with_suffix("")`: a dot at the start or at the end begins no suffix. -/
def withoutSuffix (name : String) : String :=
  let suffix := name.toList.reverse.takeWhile (· ≠ '.')
  let stem := (name.toList.reverse.dropWhile (· ≠ '.')).tail.reverse
  if stem = [] ∨ suffix = [] then name else String.ofList stem

example :
    join (ofText "/app/static") (ofText "assets//./x.js") = ofText "/app/static/assets/x.js" := by
  decide +kernel

example : join (ofText "/app/static") (ofText "/etc/passwd") = ofText "/etc/passwd" := by
  decide +kernel

end PurePath

end OpenSoar.Python
