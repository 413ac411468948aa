/-
  What the programs that a shell finds have in common: options, files to read, and the words in
  which faults are reported.
-/
import Playbook.Shell.Redirection
import Playbook.Shell.Layout

namespace Playbook.Shell

open Playbook.Text

/-- A program: from its arguments to its exit status. -/
abbrev Tool := List String → Run Nat

namespace Tool

/-! ## Options -/

/-- An option by its letter, with the value it was given. -/
structure Given where
  letter : Char
  value : String := ""
  deriving Repr, DecidableEq

/-- The options of a program: letters, each with a colon behind it if it takes a value, and the
long names of letters. -/
structure Spec where
  name : String
  letters : String := ""
  long : List (String × Char) := []
  /-- The exit status for a wrong use. -/
  status : Nat := 1
  /-- Whether options stand only in front of the other arguments. -/
  inFront : Bool := false

namespace Spec

/-- Whether there is an option with a letter, and whether it takes a value. -/
def takes? (s : Spec) (c : Char) : Option Bool :=
  match s.letters.toList.dropWhile (· != c) with
  | _ :: ':' :: _ => some true
  | _ :: _ => if c == ':' then none else some false
  | [] => none

/-- The letter of a long name, which may be cut short. -/
def letterOf? (s : Spec) (name : String) : Option Char :=
  match s.long.lookup name with
  | some c => some c
  | none =>
    match s.long.filter fun (long, _) => long.startsWith name with
    | [(_, c)] => some c
    | _ => none

/-- The options in a word of letters; the last may take its value from the words that follow. -/
def cluster (s : Spec) (rest : List String) :
    List Char → Except String (List Given × List String)
  | [] => .ok ([], rest)
  | c :: cs =>
    match s.takes? c with
    | none => .error s!"invalid option -- '{String.singleton c}'"
    | some false => do
      let (more, rest) ← cluster s rest cs
      return ({ letter := c } :: more, rest)
    | some true =>
      if !cs.isEmpty then .ok ([{ letter := c, value := String.ofList cs }], rest)
      else
        match rest with
        | value :: rest => .ok ([{ letter := c, value }], rest)
        | [] => .error s!"option requires an argument -- '{String.singleton c}'"

/-- The option with a long name. -/
def longOption (s : Spec) (word : String) (rest : List String) :
    Except String (List Given × List String) :=
  let cs := word.toList.drop 2
  let name := String.ofList (cs.takeWhile (· != '='))
  let value? := if cs.contains '=' then some (String.ofList (cs.drop (name.length + 1))) else none
  match s.letterOf? name with
  | none => .error s!"unrecognized option '{word}'"
  | some c =>
    match s.takes? c, value?, rest with
    | some true, some value, _ => .ok ([{ letter := c, value }], rest)
    | some true, none, value :: rest => .ok ([{ letter := c, value }], rest)
    | some true, none, [] => .error s!"option '--{name}' requires an argument"
    | _, some value, _ => .ok ([{ letter := c, value }], rest)
    | _, none, _ => .ok ([{ letter := c }], rest)

/-- The options among arguments, and the others. -/
def parse (s : Spec) : (steps : Nat) → List String → Except String (List Given × List String)
  | 0, args => .ok ([], args)
  | _, [] => .ok ([], [])
  | n + 1, word :: rest => do
    if word == "--" then return ([], rest)
    else if word.startsWith "--" then
      let (these, rest) ← s.longOption word rest
      let (more, others) ← parse s n rest
      return (these ++ more, others)
    else if word.startsWith "-" && 1 < word.length then
      let (these, rest) ← s.cluster rest word.toList.tail
      let (more, others) ← parse s n rest
      return (these ++ more, others)
    else if s.inFront then return ([], word :: rest)
    else
      let (more, others) ← parse s n rest
      return (more, word :: others)

end Spec

/-- Reports a wrong use. -/
def misuse (name what : String) (status : Nat := 1) : Run Nat := do
  sayError s!"{name}: {what}\nTry '{name} --help' for more information.\n"
  return status

/-- A program with options. -/
def withOptions (s : Spec) (f : List Given → List String → Run Nat) : Tool := fun args =>
  match s.parse (args.length + 1) args with
  | .error what => misuse s.name what s.status
  | .ok (given, others) => f given others

/-- Whether an option is given. -/
def has (given : List Given) (c : Char) : Bool := given.any fun g => g.letter == c

/-- The last value of an option. -/
def valueOf? (given : List Given) (c : Char) : Option String :=
  ((given.filter fun g => g.letter == c).getLast?).map (·.value)

/-! ## Files -/

/-- Reports a fault in a program's words. -/
def report (name what : String) : Run Unit := sayError s!"{name}: {what}\n"

/-- All that is left on a stream. -/
def drain (stream : Nat) : Run (Except Fault (List Char)) := do
  let g ← get
  match g.left stream with
  | .awaited => throw .stuck
  | .closed => return .error (.other "Bad file descriptor")
  | .text cs =>
    set (g.pass stream cs.length [])
    return .ok cs

/-- All that is left of the input. -/
def input : Run (List Char) := do
  match ← drain 0 with
  | .ok cs => return cs
  | .error _ => return []

/-- What a file holds; the input stands for a hyphen. -/
def contents (path : String) : Run (Except Fault (List Char)) := do
  if path == "-" then drain 0
  else
    match streamOfPath? path with
    | some n => drain n
    | none => return Files.read (← get).disk path

/-- The files that a program reads, the input if none is named. -/
def sources (paths : List String) : List String := if paths.isEmpty then ["-"] else paths

/-- Goes through files; what cannot be read is reported, and is the second part. -/
def overFiles (describe : String → Fault → String) (f : String → List Char → Run Unit) :
    List String → Run Bool
  | [] => return false
  | path :: rest => do
    match ← contents path with
    | .ok cs =>
      f path cs
      overFiles describe f rest
    | .error fault =>
      sayError (describe path fault ++ "\n")
      let _ ← overFiles describe f rest
      return true

/-- A fault in a file's name in the usual words. -/
def usual (name path : String) (fault : Fault) : String := s!"{name}: {path}: {faultText fault}"

/-- What all files hold, without those that cannot be read. -/
def gatheredParts (describe : String → Fault → String) (paths : List String) :
    Run (List (List Char) × Bool) := do
  let mut all : List (List Char) := []
  let mut failed := false
  for path in sources paths do
    match ← contents path with
    | .ok cs => all := cs :: all
    | .error fault =>
      sayError (describe path fault ++ "\n")
      failed := true
  return (all.reverse, failed)

/-- All files one after the other, without those that cannot be read. -/
def gathered (describe : String → Fault → String) (paths : List String) :
    Run (List Char × Bool) := do
  let (parts, failed) ← gatheredParts describe paths
  return (parts.flatten, failed)

/-! ## Lines -/

/-- The records of a text, without the characters that end them. -/
def recordsOf (ending : Char) (cs : List Char) : List (List Char) :=
  match (pieces ending cs).reverse with
  | [] :: before => before.reverse
  | all => all.reverse

/-- The lines of a text, without their line feeds. -/
def linesOf (cs : List Char) : List (List Char) := recordsOf '\n' cs

/-- The lines of a text, with their line feeds. -/
def wholeLines (cs : List Char) : List (List Char) :=
  match (pieces '\n' cs).reverse with
  | [] => []
  | last :: before =>
    let whole := before.reverse.map (· ++ ['\n'])
    if last.isEmpty then whole else whole ++ [last]

/-- The words between blanks; `part` is the beginning of an open one, reversed. -/
def wordsFrom (blank : Char → Bool) : (part : List Char) → List Char → List (List Char)
  | part, [] => if part.isEmpty then [] else [part.reverse]
  | part, c :: cs =>
    if !blank c then wordsFrom blank (c :: part) cs
    else if part.isEmpty then wordsFrom blank [] cs
    else part.reverse :: wordsFrom blank [] cs

/-- The words of a text. -/
def wordsOf (cs : List Char) : List (List Char) := wordsFrom Arithmetic.isSpace [] cs

/-- Prints characters. -/
def sayChars (cs : List Char) : Run Unit := say (String.ofList cs)

/-- Prints lines. -/
def sayLines (ls : List (List Char)) : Run Unit :=
  sayChars (ls.flatMap (· ++ ['\n']))

/-- A number of bytes with its unit, as `head`, `tail` and others take it. -/
def size? (text : String) : Option Nat :=
  let ds := text.toList.takeWhile Char.isDigit
  let unit := match String.ofList (text.toList.drop ds.length) with
    | "" => some 1
    | "b" => some 512
    | "k" | "K" | "KiB" => some 1024
    | "kB" => some 1000
    | "M" | "MiB" => some (1024 * 1024)
    | "MB" => some 1000000
    | _ => none
  match Number.digits? ds, unit with
  | some n, some u => some (n * u)
  | _, _ => none

/-- A status from whether something failed. -/
def statusOf (failed : Bool) : Nat := if failed then 1 else 0

end Tool

end Playbook.Shell
