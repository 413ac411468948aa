/-
  Wildcards for file names: a question mark for one character, a star for any number of them, a
  class between brackets, and two stars for any number of directories.
-/
import Playbook.Disk

namespace Playbook

open Playbook.Text

namespace Glob

/-- What stands for characters of a name. -/
inductive Token where
  | char (c : Char)
  | anyChar
  | anyText
  /-- Any number of directories. -/
  | anyPath
  /-- One of the characters in the ranges. -/
  | within (ranges : List (Char × Char))
  /-- One character in none of the ranges. -/
  | except (ranges : List (Char × Char))
  deriving Repr, DecidableEq

/-- What is wrong with a pattern of wildcards, and about where. -/
structure Fault where
  position : Nat
  what : String
  deriving Repr, DecidableEq

def Fault.message (f : Fault) : String :=
  s!"Pattern syntax error near position {f.position}: {f.what}"

/-- What is said of three stars. -/
def tooManyStars : String := "wildcards are either regular \x60*\x60 or recursive \x60**\x60"

/-- What is said of two stars that share a name with something else. -/
def starsInName : String := "recursive wildcards must form a single path component"

/-- What is said of a bracket that opens no class. -/
def noClass : String := "invalid range pattern"

/-- The ranges that the characters of a class make. -/
def ranges : List Char → List (Char × Char)
  | [] => []
  | a :: '-' :: b :: rest => (a, b) :: ranges rest
  | a :: rest => (a, a) :: ranges rest

/-- The characters up to a closing bracket that is not the first of them, and what follows it. -/
def classBody? (cs : List Char) : Option (List Char × List Char) :=
  match cs with
  | [] => none
  | c :: rest => (splitOnce ']' rest).map fun (body, rest) => (c :: body, rest)

/-- A class behind its opening bracket: whether it is negated, its body, and what follows. -/
def class? (cs : List Char) : Option (Bool × List Char × List Char) :=
  match cs with
  | '!' :: rest => (classBody? rest).map fun (body, rest) => (true, body, rest)
  | _ => (classBody? cs).map fun (body, rest) => (false, body, rest)

/-- Reads the tokens from a position on; `first` tells whether a name begins there. -/
def tokensFrom : (steps position : Nat) → (first : Bool) → List Char → Except Fault (List Token)
  | 0, _, _, _ => .ok []
  | _ + 1, _, _, [] => .ok []
  | n + 1, i, first, c :: rest =>
    match c with
    | '?' => (tokensFrom n (i + 1) false rest).map (.anyChar :: ·)
    | '*' =>
      let count := 1 + (rest.takeWhile (· == '*')).length
      let after := rest.dropWhile (· == '*')
      if count = 1 then (tokensFrom n (i + 1) false after).map (.anyText :: ·)
      else if count > 2 then .error ⟨i + 2, tooManyStars⟩
      else if !first then .error ⟨i - 1, starsInName⟩
      else
        match after with
        | [] => .ok [.anyPath]
        | '/' :: after => (tokensFrom n (i + 3) true after).map (.anyPath :: ·)
        | _ => .error ⟨i + 2, starsInName⟩
    | '[' =>
      match class? rest with
      | none => .error ⟨i, noClass⟩
      | some (negated, body, after) =>
        let token := if negated then Token.except (ranges body) else .within (ranges body)
        (tokensFrom n (i + (rest.length - after.length) + 1) false after).map (token :: ·)
    | _ => (tokensFrom n (i + 1) (c == '/') rest).map (.char c :: ·)

/-- The tokens of a pattern. -/
def tokens (cs : List Char) : Except Fault (List Token) := tokensFrom (cs.length + 1) 0 true cs

/-- Whether a character is in one of the ranges. -/
def inRanges (rs : List (Char × Char)) (c : Char) : Bool :=
  rs.any fun (lo, hi) => lo ≤ c && c ≤ hi

/-- Whether the tokens stand for all of a name. -/
def fits : List Token → List Char → Bool
  | [], cs => cs.isEmpty
  | .char x :: ts, c :: cs => x == c && fits ts cs
  | .anyChar :: ts, _ :: cs => fits ts cs
  | .within rs :: ts, c :: cs => inRanges rs c && fits ts cs
  | .except rs :: ts, c :: cs => !inRanges rs c && fits ts cs
  | .anyText :: ts, [] => fits ts []
  | .anyText :: ts, c :: cs => fits ts (c :: cs) || fits (.anyText :: ts) cs
  | .anyPath :: _, _ => false
  | _ :: _, [] => false
  termination_by ts cs => (ts.length, cs.length)

/-- The name that tokens without wildcards spell. -/
def plain? (ts : List Token) : Option String :=
  (ts.mapM fun (t : Token) =>
    match t with
    | .char c => some c
    | _ => none).map String.ofList

/-- A place and the path that leads there. -/
structure Found where
  path : String
  at_ : Place
  deriving Repr, DecidableEq

/-- The entries of a directory. -/
def entries (d : Disk) (f : Found) : List Found :=
  if d.node? f.at_ == some .directory then
    (d.children f.at_).map fun name =>
      ⟨if f.path == "." then name else Path.join f.path name, f.at_ ++ [name]⟩
  else []

/-- A directory and all directories below it, as far down as `depth`. -/
def directoriesBelow (d : Disk) : (depth : Nat) → Found → List Found
  | 0, f => [f]
  | n + 1, f =>
    f :: ((entries d f).filter fun e => d.node? e.at_ == some .directory).flatMap
      (directoriesBelow d n)

/-- The entries of a directory whose names the tokens stand for. -/
def named (d : Disk) (ts : List Token) (f : Found) : List Found :=
  (entries d f).filter fun e => fits ts ((e.at_.getLast?.getD "").toList)

/-- The directory itself and the one above it, if the tokens begin with a point and stand for their
names. -/
def dotted (d : Disk) (ts : List Token) (f : Found) : List Found :=
  if ts.head? == some (.char '.') && d.node? f.at_ == some .directory then
    [(".", f.at_), ("..", f.at_.dropLast)].filterMap fun (name, at_) =>
      if fits ts name.toList then
        some ⟨if f.path == "." then name else Path.join f.path name, at_⟩
      else none
  else []

/-- One name further along a path. -/
def step (d : Disk) (ts : List Token) (f : Found) : List Found :=
  match plain? ts with
  | some name =>
    let path := if f.path == "." then name else Path.join f.path name
    if name == "." || name == "" || name == ".." then
      if d.node? f.at_ == some .directory then
        [⟨path, if name == ".." then f.at_.dropLast else f.at_⟩]
      else []
    else
      let at_ := f.at_ ++ [name]
      if (d.node? at_).isSome then [⟨path, at_⟩] else []
  | none => named d ts f ++ dotted d ts f

/-- What the names of a pattern lead to. Behind two stars a name stands for entries only. -/
def follow (d : Disk) : List (List Token) → List Found → List Found
  | [], fs => fs
  | [[.anyPath]], fs => fs.flatMap (directoriesBelow d d.nodes.length)
  | [.anyPath] :: ts :: rest, fs =>
    if ts == [.anyPath] then follow d (ts :: rest) fs
    else follow d rest ((fs.flatMap (directoriesBelow d d.nodes.length)).flatMap (named d ts))
  | ts :: rest, fs => follow d rest (fs.flatMap (step d ts))

/-- The paths that a pattern stands for. -/
def paths (d : Disk) (pattern : String) : Except Fault (List String) := do
  let _ ← tokens pattern.toList
  let root := Path.isAbsolute pattern
  let names := (if root then (Path.segments pattern).tail else Path.segments pattern)
  let parts ← names.mapM fun name => tokens name.toList
  let start : Found := if root then ⟨"/", []⟩ else ⟨".", d.here⟩
  return (follow d parts [start]).map Found.path

end Glob

end Playbook
