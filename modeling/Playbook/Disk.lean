/-
  The files that a run can see: a tree of directories and files with a working directory, and
  the operations on it with the faults they can end in.
-/
import Playbook.Path

namespace Playbook

open Playbook.Text

/-- What a file holds. -/
inductive Content where
  | text (s : String)
  /-- Bytes that are not UTF-8. -/
  | binary (bytes : List UInt8)
  deriving Repr, DecidableEq

/-- What stands at a place of the tree. -/
inductive Node where
  | directory
  | file (content : Content)
  /-- The program that runs command lines. -/
  | shell
  /-- What is always empty and takes everything. -/
  | device
  /-- Another name for what a path leads to; only a shell follows it. -/
  | link (target : String)
  deriving Repr, DecidableEq

/-- Why an operation of the machine did not succeed. -/
inductive Fault where
  | noEntry
  | permission
  | exists_
  | notDirectory
  | isDirectory
  | brokenPipe
  | nameTooLong
  | unreachable
  | nulInPath
  | notUtf8
  /-- A fault with a wording of its own. -/
  | other (message : String)
  deriving Repr, DecidableEq

/-- The fault in words, with the number that the system gives it. -/
def Fault.message : Fault → String
  | noEntry => "No such file or directory (os error 2)"
  | permission => "Permission denied (os error 13)"
  | exists_ => "File exists (os error 17)"
  | notDirectory => "Not a directory (os error 20)"
  | isDirectory => "Is a directory (os error 21)"
  | brokenPipe => "Broken pipe (os error 32)"
  | nameTooLong => "File name too long (os error 36)"
  | unreachable => "Network is unreachable (os error 101)"
  | nulInPath => "file name contained an unexpected NUL byte"
  | notUtf8 => "stream did not contain valid UTF-8"
  | other message => message

/-- A place in the tree: the names from the root. -/
abbrev Place := List String

/-- A tree of files with a working directory. The root is always a directory. -/
structure Disk where
  /-- Where relative paths begin. -/
  here : Place := []
  nodes : List (Place × Node) := []
  /-- Who may do what with files, where that was changed. -/
  modes : List (Place × Nat) := []
  /-- When files were changed last, in milliseconds since the beginning of 1970, where that is
  known. -/
  times : List (Place × Int) := []
  /-- The places that lead to the same file, where there are several. -/
  twins : List (List Place) := []
  deriving Repr

namespace Disk

/-- What stands at a place, if anything. -/
def node? (d : Disk) (at_ : Place) : Option Node :=
  if at_.isEmpty then some .directory else d.nodes.lookup at_

/-- The entries with `n` at a place. -/
def putNode (at_ : Place) (n : Node) : List (Place × Node) → List (Place × Node)
  | [] => [(at_, n)]
  | (p, m) :: rest => if p = at_ then (at_, n) :: rest else (p, m) :: putNode at_ n rest

/-- The tree with `n` at a place. -/
def setNode (d : Disk) (at_ : Place) (n : Node) : Disk := { d with nodes := putNode at_ n d.nodes }

/-- The longest name that a directory entry can have, in bytes. -/
def maxNameBytes : Nat := 255

/-- Follows the segments of a path from `at_`. Every place before the last has to be a directory;
the last need not exist. -/
def walk (d : Disk) (at_ : Place) : List String → Except Fault Place
  | [] => .ok at_
  | name :: rest =>
    match d.node? at_ with
    | none => .error .noEntry
    | some .directory =>
      if Path.isFiller name then walk d at_ rest
      else if name == ".." then walk d at_.dropLast rest
      else if name.utf8ByteSize > maxNameBytes then .error .nameTooLong
      else walk d (at_ ++ [name]) rest
    | some _ => .error .notDirectory

/-- How many bytes a path has to stay below. -/
def maxPathBytes : Nat := 4096

/-- The place that a path leads to. -/
def locate (d : Disk) (path : String) : Except Fault Place :=
  if path.toList.contains '\x00' then .error .nulInPath
  else if path.isEmpty then .error .noEntry
  else if maxPathBytes ≤ path.utf8ByteSize then .error .nameTooLong
  else d.walk (if Path.isAbsolute path then [] else d.here) (Path.segments path)

/-- What a path leads to. -/
def find? (d : Disk) (path : String) : Option Node :=
  match d.locate path with
  | .ok at_ => d.node? at_
  | .error _ => none

/-- Whether the path leads to a file. -/
def isFile (d : Disk) (path : String) : Bool :=
  match d.find? path with
  | some (.file _) => true
  | some .shell => true
  | _ => false

/-- Whether the path leads to a directory. -/
def isDirectory (d : Disk) (path : String) : Bool := d.find? path == some .directory

/-- The text of a file. -/
def readText (d : Disk) (path : String) : Except Fault String :=
  match d.locate path with
  | .error fault => .error fault
  | .ok at_ =>
    match d.node? at_ with
    | none => .error .noEntry
    | some .directory => .error .isDirectory
    | some (.file (.text s)) => .ok s
    | some (.file (.binary _)) => .error .notUtf8
    | some .shell => .error .notUtf8
    | some .device => .ok ""
    | some (.link _) => .error .noEntry

/-- The place of a file that may have to be created. A path that ends in a separator leads to no
file. -/
def locateFile (d : Disk) (path : String) : Except Fault Place :=
  if path.toList.getLast? == some '/' then
    match d.locate (onString (dropRightWhile (· == '/')) path) with
    | .error .noEntry => if path.toList.all (· == '/') then .error .isDirectory else .error .noEntry
    | .error fault => .error fault
    | .ok at_ =>
      match d.node? at_ with
      | some .directory => .error .isDirectory
      | none => .error .isDirectory
      | some _ => .error .notDirectory
  else d.locate path

/-- Makes `content` all that a file holds; the file is created if its directory exists. A device
keeps nothing. -/
def write (d : Disk) (path : String) (content : Content) : Except Fault Disk :=
  match d.locateFile path with
  | .error fault => .error fault
  | .ok at_ =>
    match d.node? at_ with
    | some .directory => .error .isDirectory
    | some .device => .ok d
    | _ => .ok (d.setNode at_ (.file content))

/-- Writes a text file. -/
def writeText (d : Disk) (path : String) (s : String) : Except Fault Disk := d.write path (.text s)

/-- Creates the directories that the segments name, as far as they are missing. -/
def makeAlong (d : Disk) (at_ : Place) : List String → Except Fault Disk
  | [] => .ok d
  | name :: rest =>
    if Path.isFiller name then makeAlong d at_ rest
    else if name == ".." then makeAlong d at_.dropLast rest
    else
      let next := at_ ++ [name]
      match d.node? next with
      | some .directory => makeAlong d next rest
      | some _ => .error (if rest.all Path.isFiller then .exists_ else .notDirectory)
      | none =>
        if name.utf8ByteSize > maxNameBytes then .error .nameTooLong
        else makeAlong (d.setNode next .directory) next rest

/-- Creates a directory with all directories above it. -/
def makeDirectories (d : Disk) (path : String) : Except Fault Disk :=
  if path.toList.contains '\x00' then .error .nulInPath
  else if maxPathBytes ≤ path.utf8ByteSize then .error .nameTooLong
  else d.makeAlong (if Path.isAbsolute path then [] else d.here) (Path.segments path)

/-- The names in a directory. -/
def children (d : Disk) (at_ : Place) : List String :=
  d.nodes.filterMap fun (p, _) =>
    if p.dropLast = at_ ∧ p ≠ [] then p.getLast? else none

/-- The names in the directory that a path leads to. -/
def names (d : Disk) (path : String) : List String :=
  match d.locate path with
  | .ok at_ => if d.node? at_ == some .directory then d.children at_ else []
  | .error _ => []

/-- Where programs are looked for when their name is no path. -/
def programPlaces : List String := ["/bin", "/usr/bin"]

/-- Whether a program can be started as the shell, or why not. -/
def startShell (d : Disk) (program : String) : Except Fault Unit :=
  if program.toList.contains '\x00' then .error .nulInPath
  else
    let candidates :=
      if program.toList.contains '/' then [program]
      else if program.isEmpty then []
      else programPlaces.map (Path.join · program)
    let found := candidates.filterMap d.find?
    if found.contains .shell then .ok ()
    else if found.isEmpty then
      match candidates with
      | [only] => match d.locate only with
        | .error fault => .error fault
        | .ok _ => .error .noEntry
      | _ => .error .noEntry
    else .error .permission

end Disk

end Playbook
