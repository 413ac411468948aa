/-
  Texts and files as a shell sees them. A shell and its programs know bytes only: in their texts
  every character stands for one byte, and has its number. Texts from outside become such texts,
  and back. Paths lead through links.
-/
import Playbook.Text.Utf8
import Playbook.Disk

namespace Playbook.Shell

open Playbook.Text

/-- Whether every character is ASCII, so that the bytes of the text are its characters. -/
def isAscii (cs : List Char) : Bool := cs.all fun c => c.toNat < 128

/-- The character that stands for a byte. -/
def charOfByte (b : UInt8) : Char := Char.ofNat b.toNat

/-- The bytes of a text of a shell. -/
def toBytes (cs : List Char) : List UInt8 := cs.map fun c => c.toNat.toUInt8

/-- A text as a shell sees it. -/
def inward (s : String) : String :=
  if isAscii s.toList then s else String.ofList ((Utf8.encode s).map charOfByte)

/-- A text of a shell as others see it; what is not UTF-8 is replaced. -/
def outward (s : String) : String :=
  if isAscii s.toList then s else Utf8.decodeLenient (toBytes s.toList)

/-- What a file holds, as a shell sees it. -/
def charsOf : Content → List Char
  | .text s => (inward s).toList
  | .binary bytes => bytes.map charOfByte

/-- The content of a file that a shell wrote. -/
def contentOf (cs : List Char) : Content :=
  if isAscii cs then .text (String.ofList cs)
  else
    match Utf8.decode (toBytes cs) with
    | .ok s => .text s
    | .error _ => .binary (toBytes cs)

namespace Files

/-- What a chain of links without an end is. -/
def endlessLinks : Fault := .other "Too many levels of symbolic links"

/-- The place that the segments of a path lead to. A link at the end is followed if it is asked
for. -/
def walk (d : Disk) (follow : Bool) : (steps : Nat) → Place → List String → Except Fault Place
  | 0, _, _ => .error endlessLinks
  | _, at_, [] => .ok at_
  | n + 1, at_, name :: rest =>
    match d.node? at_ with
    | none => .error .noEntry
    | some .directory =>
      if Path.isFiller name then walk d follow n at_ rest
      else if name == ".." then walk d follow n at_.dropLast rest
      else if name.utf8ByteSize > Disk.maxNameBytes then .error .nameTooLong
      else
        let next := at_ ++ [name]
        match d.node? next with
        | some (.link target) =>
          if rest.isEmpty && !follow then .ok next
          else
            walk d follow n (if Path.isAbsolute target then [] else at_)
              (Path.segments target ++ rest)
        | _ => walk d follow n next rest
    | some _ => .error .notDirectory

/-- The place that a path leads to. -/
def locate (d : Disk) (path : String) (follow : Bool := true) : Except Fault Place :=
  let path := outward path
  let segments := Path.segments path
  if path.isEmpty then .error .noEntry
  else if Disk.maxPathBytes ≤ path.utf8ByteSize then .error .nameTooLong
  else walk d follow (200 + segments.length) (if Path.isAbsolute path then [] else d.here) segments

/-- What a path leads to. -/
def find? (d : Disk) (path : String) (follow : Bool := true) : Option Node :=
  match locate d path follow with
  | .ok at_ => d.node? at_
  | .error _ => none

/-- Whether a path leads to a directory. -/
def isDirectory (d : Disk) (path : String) : Bool := find? d path == some .directory

/-- The bytes at a place. -/
def bytesAt (d : Disk) (at_ : Place) : List Char :=
  match d.node? at_ with
  | some (.file content) => charsOf content
  | _ => []

/-- The bytes of a file. -/
def read (d : Disk) (path : String) : Except Fault (List Char) :=
  match locate d path with
  | .error f => .error f
  | .ok at_ =>
    match d.node? at_ with
    | none => .error .noEntry
    | some .directory => .error .isDirectory
    | some _ => .ok (bytesAt d at_)

/-- The names in a directory. -/
def names (d : Disk) (path : String) : List String :=
  match locate d path with
  | .ok at_ => if d.node? at_ == some .directory then (d.children at_).map inward else []
  | .error _ => []

/-- Who may do what with the file at a place. -/
def mode (d : Disk) (at_ : Place) : Nat :=
  match d.modes.lookup at_ with
  | some m => m
  | none =>
    match d.node? at_ with
    | some .directory => 0o755
    | some .shell => 0o755
    | some .device => 0o666
    | some (.link _) => 0o777
    | _ => 0o644

/-- The places that lead to the same file as a place. -/
def twins (d : Disk) (at_ : Place) : List Place :=
  (d.twins.find? (·.contains at_)).getD [at_]

/-- Changes who may do what with the file at a place. -/
def setMode (d : Disk) (at_ : Place) (m : Nat) : Disk :=
  let same := twins d at_
  { d with modes := same.map (·, m) ++ d.modes.filter fun (p, _) => !same.contains p }

/-- The moment at which a shell takes time to begin, in milliseconds: the beginning of 2026. -/
def beginning : Int := 1767225600000

/-- When the file at a place was changed last, in milliseconds. -/
def time (d : Disk) (at_ : Place) : Int := (d.times.lookup at_).getD beginning

/-- Changes the moment at which a file was changed last. -/
def setTime (d : Disk) (at_ : Place) (t : Int) : Disk :=
  let same := twins d at_
  { d with times := same.map (·, t) ++ d.times.filter fun (p, _) => !same.contains p }

/-- The tree with other bytes in a file, under all its names. -/
def rewritten (d : Disk) (at_ : Place) (cs : List Char) (t : Int) : Disk :=
  setTime ((twins d at_).foldl (fun d p => d.setNode p (.file (contentOf cs))) d) at_ t

/-- The tree with another name for the file at a place. -/
def twinned (d : Disk) (at_ new : Place) (n : Node) : Disk :=
  let same := twins d at_
  let mode? := d.modes.lookup at_
  let d := setTime (d.setNode new n) new (time d at_)
  let d := match mode? with
    | some m => setMode d new m
    | none => d
  { d with twins := (new :: same) :: d.twins.filter fun ps => !ps.contains at_ }

/-- Whether a program can be started from a place. -/
def isProgram (d : Disk) (at_ : Place) : Bool :=
  match d.node? at_ with
  | some .directory => false
  | some _ => mode d at_ &&& 0o111 != 0
  | none => false

/-- The tree without a place and all below it. -/
def removed (d : Disk) (at_ : Place) : Disk :=
  { d with
    nodes := d.nodes.filter fun (p, _) => !at_.isPrefixOf p
    modes := d.modes.filter fun (p, _) => !at_.isPrefixOf p
    times := d.times.filter fun (p, _) => !at_.isPrefixOf p
    twins := d.twins.map (·.filter fun p => !at_.isPrefixOf p) }

end Files

/-- A fault in a file's name, as programs report it. -/
def faultText : Fault → String
  | .noEntry => "No such file or directory"
  | .isDirectory => "Is a directory"
  | .notDirectory => "Not a directory"
  | .exists_ => "File exists"
  | .permission => "Permission denied"
  | .nameTooLong => "File name too long"
  | f => f.message

end Playbook.Shell
