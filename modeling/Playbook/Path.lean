/-
  File paths: text with `/` between names. A path is relative unless it begins with `/`; empty
  names and `.` inside a path do not count, a `.` in front of a relative path does.
-/
import Playbook.Text.Blank

namespace Playbook.Path

open Playbook.Text

/-- The names between the separators. -/
def segments (path : String) : List String := (pieces '/' path.toList).map String.ofList

/-- Segments joined again. -/
def ofSegments (names : List String) : String := joinStrings "/" names

/-- Whether the path begins at the root. -/
def isAbsolute (path : String) : Bool := path.toList.head? == some '/'

/-- A segment that names nothing of its own. -/
def isFiller (name : String) : Bool := name == "" || name == "."

/-- The segments without the ones at the end that do not count; the first segment of a relative
path counts if it is `.`, and an absolute path keeps the empty segment before its root. -/
def significant (path : String) : List String :=
  match segments path with
  | [] => []
  | first :: rest =>
    let kept := (rest.reverse.dropWhile isFiller).reverse
    if kept.isEmpty && first == "" && !isAbsolute path then [] else first :: kept

/-- The path below `base`; an absolute `path` stands for itself. -/
def join (base path : String) : String :=
  if isAbsolute path || base.isEmpty then path
  else if base.toList.getLast? == some '/' then base ++ path
  else base ++ "/" ++ path

/-- The path without its last name; none for the root and the empty path. -/
def parent? (path : String) : Option String :=
  match significant path with
  | [] => none
  | [first] => if isAbsolute path || first == "" then none else some ""
  | names =>
    let upper := significant (ofSegments names.dropLast)
    if isAbsolute path && names.dropLast.length ≤ 1 then some "/"
    else if isAbsolute path && upper.length ≤ 1 then some "/"
    else some (ofSegments upper)

/-- The last name, unless it is `.` or `..`. -/
def fileName? (path : String) : Option String :=
  match (significant path).getLast? with
  | none => none
  | some name => if isFiller name || name == ".." then none else some name

/-- The name before its last point; a name that begins with its only point is kept whole. -/
def stem (name : String) : String :=
  let reversed := name.toList.reverse
  match splitOnce '.' reversed with
  | none => name
  | some (_, before) => if before.isEmpty then name else String.ofList before.reverse

/-- The stem of the last name. -/
def fileStem? (path : String) : Option String := (fileName? path).map stem

end Playbook.Path
