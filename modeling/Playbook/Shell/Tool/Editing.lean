/-
  The program that edits texts line by line: its scripts, and how they run.
-/
import Playbook.Shell.Tool.Files
import Playbook.Shell.Expression

namespace Playbook.Shell.Tool

open Playbook.Text

namespace Sed

/-! ## Scripts -/

/-- An expression; none stands for the last one that was used. -/
abbrev Regex := Option Expression

/-- Which lines an address names. -/
inductive Address where
  | line (n : Nat)
  /-- Every so many lines from the first one on. -/
  | step (first step : Nat)
  | last
  | regex (e : Regex) (ignoreCase lines : Bool)
  /-- As the end of a range: so many lines further. -/
  | further (n : Nat)
  /-- As the end of a range: to the next multiple. -/
  | multiple (n : Nat)
  /-- In front of the first line. -/
  | start
  deriving Inhabited

/-- What happens to the letters of a replacement. -/
inductive Casing where
  | keep
  | upper
  | lower
  | upperNext
  | lowerNext
  deriving Repr, DecidableEq

/-- A part of a replacement. -/
inductive Replacement where
  | char (c : Char)
  /-- The text of a group; the whole match is the group zero. -/
  | group (n : Nat)
  | casing (c : Casing)

/-- A replacement with its options. -/
structure Substitution where
  regex : Regex
  replacement : List Replacement
  /-- Which match is the first to be replaced. -/
  first : Nat := 1
  everywhere : Bool := false
  prints : Bool := false
  file : Option String := none
  lines : Bool := false

/-- What a command does. -/
inductive Action where
  /-- Goes to the command behind the block unless the address fits. -/
  | block (past : Nat)
  | nothing
  | substitute (s : Substitution)
  | translate (pairs : List (Char × Char))
  | delete
  | deleteFirst
  | print
  | printFirst
  | next
  | append
  | holdCopy
  | holdAppend
  | getCopy
  | getAppend
  | exchange
  | number
  | show_ (width : Option Nat)
  | after (text : List Char)
  | before (text : List Char)
  | change (text : List Char)
  | branch (label : String)
  | branchIf (label : String)
  | branchIfNot (label : String)
  | quit (status : Nat) (prints : Bool)
  | readFile (path : String)
  | readLine (path : String)
  | writeFile (path : String)
  | writeFirst (path : String)
  | clear
  | name

/-- A command with its addresses. -/
structure Command where
  first : Option Address := none
  last : Option Address := none
  negated : Bool := false
  action : Action

/-! ## Reading scripts -/

/-- A script while it is read. -/
structure Reading where
  rest : List Char
  /-- How many characters were read. -/
  place : Nat := 0
  /-- The commands so far, the last one first. -/
  commands : List Command := []
  /-- The commands that blocks begin with. -/
  open_ : List Nat := []
  labels : List (String × Nat) := []
  extended : Bool := false

/-- What is wrong, at a place; none for the script as a whole. -/
structure Wrong where
  place : Nat
  what : String

abbrev Reader := StateT Reading (Except Wrong)

/-- Ends reading with what is wrong here. -/
def wrong {α : Type} (what : String) : Reader α := do throw ⟨(← get).place, what⟩

/-- The next character. -/
def peek : Reader (Option Char) := do return (← get).rest.head?

/-- Takes the next character. -/
def take : Reader (Option Char) := do
  let r ← get
  match r.rest with
  | [] => return none
  | c :: rest =>
    set { r with rest, place := r.place + 1 }
    return some c

/-- Leaves out characters. -/
def skipWhile (p : Char → Bool) : Reader (List Char) := do
  let r ← get
  let cs := r.rest.takeWhile p
  set { r with rest := r.rest.drop cs.length, place := r.place + cs.length }
  return cs

def isBlank (c : Char) : Bool := c == ' ' || c == '\t'

/-- A number; none if there is no digit. -/
def number? : Reader (Option Nat) := do return Number.digits? (← skipWhile Char.isDigit)

/-- What stands in brackets, the closing one included; `first` tells whether a closing one would
stand for itself. None if nothing closes them. -/
def bracketed : (steps : Nat) → (first : Bool) → List Char → Option (List Char)
  | 0, _, _ => none
  | _, _, [] => none
  | n + 1, first, '^' :: cs => (bracketed n first cs).map ('^' :: ·)
  | n + 1, first, ']' :: cs =>
    if first then (bracketed n false cs).map (']' :: ·) else some [']']
  | n + 1, _, '[' :: c :: cs =>
    if c == ':' || c == '.' || c == '=' then
      let name := cs.takeWhile (· != c)
      match cs.drop name.length with
      | _ :: ']' :: rest =>
        (bracketed n false rest).map fun more => '[' :: c :: name ++ c :: ']' :: more
      | _ => (bracketed n false (c :: cs)).map ('[' :: ·)
    else (bracketed n false (c :: cs)).map ('[' :: ·)
  | n + 1, _, c :: cs => (bracketed n false cs).map (c :: ·)

/-- Text up to a mark. A backslash keeps the mark from ending it, and disappears; line feeds are
allowed only where `lines` says so. -/
def delimited (mark : Char) (lines isRegex : Bool) : (steps : Nat) → Reader (Option (List Char))
  | 0 => return none
  | n + 1 => do
    match ← take with
    | none => return none
    | some '\\' =>
      match ← take with
      | none => return none
      | some c =>
        let more ← delimited mark lines isRegex n
        let here := if c == mark then [c]
          else if c == 'n' && isRegex then ['\\', 'n']
          else if c == '\n' && isRegex then ['\\', 'n']
          else ['\\', c]
        return more.map (here ++ ·)
    | some c =>
      if c == mark then return some []
      if c == '\n' && !lines then return none
      if c == '[' && isRegex then
        let r ← get
        match bracketed (r.rest.length + 1) true r.rest with
        | none =>
          set { r with rest := [], place := r.place + r.rest.length }
          return none
        | some body =>
          let past := body.length
          set { r with rest := r.rest.drop past, place := r.place + past }
          return (← delimited mark lines isRegex n).map (c :: body ++ ·)
      return (← delimited mark lines isRegex n).map (c :: ·)

/-- The expression that a text spells; an empty text stands for the last one. -/
def regexOf (text : List Char) (ignoreCase : Bool) : Reader (Regex × Nat) := do
  if text.isEmpty then return (none, 9)
  let r ← get
  let flavor : Expression.Flavor :=
    { extended := r.extended, ignoreCase, controls := true, codes := true }
  match Expression.ofText flavor text with
  | .ok (e, groups) => return (some e, groups)
  | .error what => wrong what

/-- How many steps reading what is left can take. -/
def supply : Reader Nat := do return (← get).rest.length + 2

/-- The letters behind an expression in an address. -/
def addressFlags : (steps : Nat) → (ignoreCase lines : Bool) → Reader (Bool × Bool)
  | 0, i, m => return (i, m)
  | n + 1, i, m => do
    match ← peek with
    | some 'I' =>
      let _ ← take
      addressFlags n true m
    | some 'M' =>
      let _ ← take
      addressFlags n i true
    | _ => return (i, m)

/-- An address, if one stands here. -/
def address? (ending : Bool) : Reader (Option Address) := do
  match ← peek with
  | some '$' =>
    let _ ← take
    return some .last
  | some '/' =>
    let _ ← take
    regex '/'
  | some '\\' =>
    let _ ← take
    match ← take with
    | some mark => regex mark
    | none => wrong "unexpected ','"
  | some c =>
    if c.isDigit then
      let n := (← number?).getD 0
      let _ ← skipWhile isBlank
      if (← peek) == some '~' && !ending then
        let _ ← take
        let step := (← number?).getD 0
        return some (if step = 0 then .line n else .step n step)
      return some (.line n)
    else if c == '+' || c == '~' then
      let _ ← take
      let n := (← number?).getD 0
      if !ending then wrong "invalid usage of +N or ~N as first address"
      return some (if c == '+' then .further n else .multiple n)
    else return none
  | none => return none
where
  regex (mark : Char) : Reader (Option Address) := do
    match ← delimited mark false true (← supply) with
    | none => wrong "unterminated address regex"
    | some text =>
      let (i, m) ← addressFlags (← supply) false false
      let (e, _) ← regexOf text i
      return some (.regex e i m)

/-- Checks that a command ends here. -/
def endOfCommand : Reader Unit := do
  let _ ← skipWhile isBlank
  match ← peek with
  | some '\x7d' | some '#' | none => return
  | some ';' | some '\n' | some '\r' =>
    let _ ← take
  | some _ =>
    let _ ← take
    wrong "extra characters after command"

/-- What a backslash and a letter stand for in a text. -/
def control? : Char → Option Char
  | 'a' => some '\x07'
  | 'f' => some '\x0c'
  | 'n' => some '\n'
  | 'r' => some '\r'
  | 't' => some '\t'
  | 'v' => some '\x0b'
  | _ => none

/-- The text that is put in front of lines, behind them or in place of them. -/
def textLines : (steps : Nat) → Reader (List Char)
  | 0 => return []
  | n + 1 => do
    match ← take with
    | none => return ['\n']
    | some '\n' => return ['\n']
    | some '\\' =>
      match ← take with
      | none => return ['\n']
      | some c => return (control? c).getD c :: (← textLines n)
    | some c => return c :: (← textLines n)

/-- The text of a command that puts text somewhere. -/
def textOf : Reader (List Char) := do
  let _ ← skipWhile isBlank
  match ← peek with
  | none => wrong "expected \\ after `a', `c' or `i'"
  | some '\\' =>
    let _ ← take
    let r ← get
    let blanks := r.rest.takeWhile isBlank
    match r.rest.drop blanks.length with
    | '\n' :: _ =>
      let _ ← skipWhile isBlank
      let _ ← take
      let text ← textLines (← supply)
      return text
    | [] =>
      let _ ← skipWhile isBlank
      return []
    | _ :: _ =>
      -- the text begins behind the backslash
      textLines (← supply)
  | some _ => textLines (← supply)

/-- The name of a place in the script. -/
def label : Reader String := do
  let _ ← skipWhile isBlank
  let cs ← skipWhile fun c => !(Arithmetic.isSpace c) && c != ';' && c != '\x7d'
  return String.ofList cs

/-- The path of a file, which takes the rest of the line. -/
def path : Reader String := do
  let _ ← skipWhile isBlank
  let cs ← skipWhile (· != '\n')
  let _ ← take
  if cs.isEmpty then
    wrong "missing filename in r/R/w/W commands"
  return String.ofList cs

/-- The parts of a replacement. -/
def replacementOf : (steps : Nat) → List Char → List Replacement
  | 0, _ => []
  | _, [] => []
  | n + 1, '\\' :: c :: rest =>
    let digits := fun (base : Nat) (most : Nat) (cs : List Char) =>
      (cs.take most).takeWhile fun d => (Arithmetic.digit? base d).isSome
    let coded := fun (base : Nat) (ds : List Char) =>
      Replacement.char (Char.ofNat ((ds.foldl (fun v d =>
        v * base + (Arithmetic.digit? base d).getD 0) 0) % 256)) ::
        replacementOf n (rest.drop ds.length)
    match c with
    | 'U' => .casing .upper :: replacementOf n rest
    | 'L' => .casing .lower :: replacementOf n rest
    | 'u' => .casing .upperNext :: replacementOf n rest
    | 'l' => .casing .lowerNext :: replacementOf n rest
    | 'E' => .casing .keep :: replacementOf n rest
    | 'x' => if (digits 16 2 rest).isEmpty then .char 'x' :: replacementOf n rest
      else coded 16 (digits 16 2 rest)
    | 'o' => if (digits 8 3 rest).isEmpty then .char 'o' :: replacementOf n rest
      else coded 8 (digits 8 3 rest)
    | 'd' => if (digits 10 3 rest).isEmpty then .char 'd' :: replacementOf n rest
      else coded 10 (digits 10 3 rest)
    | 'c' =>
      match rest with
      | d :: rest => .char (Char.ofNat (d.toUpper.toNat ^^^ 64)) :: replacementOf n rest
      | [] => [.char 'c']
    | _ =>
      if c.isDigit then .group (c.toNat - '0'.toNat) :: replacementOf n rest
      else .char ((control? c).getD c) :: replacementOf n rest
  | n + 1, '&' :: rest => .group 0 :: replacementOf n rest
  | n + 1, c :: rest => .char c :: replacementOf n rest

/-- The letters behind a replacement. -/
def substituteFlags : (steps : Nat) → (counted : Bool) → Substitution → (ignoreCase : Bool) →
    Reader (Substitution × Bool)
  | 0, _, s, i => return (s, i)
  | n + 1, counted, s, i => do
    match ← peek with
    | some 'g' =>
      let _ ← take
      if s.everywhere then wrong "multiple `g' options to `s' command"
      substituteFlags n counted { s with everywhere := true } i
    | some 'p' =>
      let _ ← take
      if s.prints then wrong "multiple `p' options to `s' command"
      substituteFlags n counted { s with prints := true } i
    | some 'i' | some 'I' =>
      let _ ← take
      substituteFlags n counted s true
    | some 'm' | some 'M' =>
      let _ ← take
      substituteFlags n counted { s with lines := true } i
    | some 'w' =>
      let _ ← take
      return ({ s with file := some (← path) }, i)
    | some c =>
      if c.isDigit then
        let k := (← number?).getD 0
        if counted then wrong "multiple number options to `s' command"
        if k = 0 then wrong "number option to `s' command may not be zero"
        substituteFlags n true { s with first := k } i
      else
        let _ ← skipWhile isBlank
        match ← take with
        | some '\n' | some ';' | none => return (s, i)
        | some '\x7d' | some '#' =>
          modify fun r => { r with rest := c :: r.rest, place := r.place - 1 }
          return (s, i)
        | some '\r' => return (s, i)
        | some _ => wrong "unknown option to `s'"
    | none => return (s, i)

/-- The characters of a table of characters. -/
def tableOf : List Char → List Char
  | '\\' :: '\\' :: rest => '\\' :: tableOf rest
  | '\\' :: c :: rest =>
    match control? c with
    | some d => d :: tableOf rest
    | none => '\\' :: c :: tableOf rest
  | c :: rest => c :: tableOf rest
  | [] => []

/-- Checks that a command has no more than one address. -/
def atMostOne (second : Option Address) : Reader Unit := do
  if second.isSome then wrong "command only uses one address"

/-- The action that a letter stands for. -/
def action (first second : Option Address) (c : Char) : Reader Action := do
  let plain := fun (a : Action) => do
    endOfCommand
    return a
  match c with
  | 'd' => plain .delete
  | 'D' => plain .deleteFirst
  | 'p' => plain .print
  | 'P' => plain .printFirst
  | 'n' => plain .next
  | 'N' => plain .append
  | 'h' => plain .holdCopy
  | 'H' => plain .holdAppend
  | 'g' => plain .getCopy
  | 'G' => plain .getAppend
  | 'x' => plain .exchange
  | 'z' => plain .clear
  | 'F' => plain .name
  | '=' => plain .number
  | 'l' =>
    let _ ← skipWhile isBlank
    let width ← number?
    endOfCommand
    return .show_ width
  | 'a' => return .after (← textOf)
  | 'i' => return .before (← textOf)
  | 'c' => return .change (← textOf)
  | ':' =>
    if first.isSome then wrong ": doesn't want any addresses"
    let name ← label
    if name.isEmpty then wrong "\":\" lacks a label"
    modify fun r => { r with labels := r.labels ++ [(name, r.commands.length)] }
    return .nothing
  | 'b' => return .branch (← label)
  | 't' => return .branchIf (← label)
  | 'T' => return .branchIfNot (← label)
  | 'q' | 'Q' =>
    atMostOne second
    let _ ← skipWhile isBlank
    let status := (← number?).getD 0
    endOfCommand
    return .quit (status % 256) (c == 'q')
  | 'r' => return .readFile (← path)
  | 'R' => return .readLine (← path)
  | 'w' => return .writeFile (← path)
  | 'W' => return .writeFirst (← path)
  | 'v' =>
    let _ ← label
    endOfCommand
    return .nothing
  | 'y' =>
    match ← take with
    | none => wrong "unterminated `y' command"
    | some mark =>
      match ← delimited mark true false (← supply) with
      | none => wrong "unterminated `y' command"
      | some from_ =>
        match ← delimited mark true false (← supply) with
        | none => wrong "unterminated `y' command"
        | some into =>
          let (a, b) := (tableOf from_, tableOf into)
          if a.length ≠ b.length then
            wrong "strings for `y' command are different lengths"
          endOfCommand
          return .translate (a.zip b)
  | 's' =>
    match ← take with
    | none => wrong "unterminated `s' command"
    | some mark =>
      match ← delimited mark false true (← supply) with
      | none => wrong "unterminated `s' command"
      | some pattern =>
        match ← delimited mark true false (← supply) with
        | none => wrong "unterminated `s' command"
        | some text =>
          let replacement := replacementOf (text.length + 1) text
          let (s, i) ← substituteFlags (← supply) false { regex := none, replacement } false
          let (regex, groups) ← regexOf pattern i
          let highest := replacement.foldl (fun m r =>
            match r with
            | .group k => max m k
            | _ => m) 0
          if groups < highest then
            wrong ("invalid reference \\" ++ toString highest ++ " on `s' command's RHS")
          return .substitute { s with regex }
  | _ => wrong s!"unknown command: `{String.singleton c}'"

/-- Reads all commands. -/
def readCommands : (steps : Nat) → Reader Unit
  | 0 => return
  | n + 1 => do
    let _ ← skipWhile fun c => Arithmetic.isSpace c || c == ';'
    if (← peek).isNone then return
    if (← peek) == some '#' then
      let _ ← skipWhile (· != '\n')
      readCommands n
    else
      let first ← address? false
      let _ ← skipWhile isBlank
      let second ← if first.isSome && (← peek) == some ',' then do
          let _ ← take
          let _ ← skipWhile isBlank
          match ← address? true with
          | some a => pure (some a)
          | none =>
            let _ ← take
            wrong "unexpected `,'"
        else pure none
      let _ ← skipWhile Arithmetic.isSpace
      let first ← match first, second with
        | some (.line 0), some (.regex ..) => pure (some Address.start)
        | some (.line 0), _ =>
          let _ ← take
          wrong "invalid usage of line address 0"
        | a, _ => pure a
      let negated ← if (← peek) == some '!' then do
          let _ ← take
          let _ ← skipWhile Arithmetic.isSpace
          if (← peek) == some '!' then
            let _ ← take
            wrong "multiple `!'s"
          pure true
        else pure false
      match ← take with
      | none => wrong "missing command"
      | some '#' =>
        if first.isSome then wrong "comments don't accept any addresses"
        let _ ← skipWhile (· != '\n')
        readCommands n
      | some '{' =>
        modify fun r =>
          { r with
            open_ := r.commands.length :: r.open_
            commands := ⟨first, second, negated, .block 0⟩ :: r.commands }
        readCommands n
      | some '\x7d' =>
        let r ← get
        match r.open_ with
        | [] => wrong "unexpected `\x7d'"
        | at_ :: open_ =>
          if first.isSome then wrong "\x7d doesn't want any addresses"
          let past := r.commands.length
          let commands := r.commands.modify (past - 1 - at_) fun (c : Command) =>
            { c with action := .block past }
          set { r with open_, commands }
          endOfCommand
          readCommands n
      | some c =>
        let a ← action first second c
        modify fun r => { r with commands := ⟨first, second, negated, a⟩ :: r.commands }
        readCommands n

/-- A script that can run. -/
structure Script where
  commands : Array Command
  labels : List (String × Nat)

/-- The script that a text spells, or what is wrong with it. -/
def scriptOf (extended : Bool) (text : List Char) : Except Wrong Script := do
  let ((), r) ← (readCommands (text.length + 2)).run { rest := text, extended }
  if !r.open_.isEmpty then throw ⟨0, "unmatched `\x7b'"⟩
  return ⟨r.commands.reverse.toArray, r.labels⟩

/-- The labels that commands go to and that do not exist. -/
def Script.missingLabel? (s : Script) : Option String :=
  s.commands.toList.findSome? fun c =>
    let check := fun (l : String) =>
      if l.isEmpty || (s.labels.lookup l).isSome then none else some l
    match c.action with
    | .branch l | .branchIf l | .branchIfNot l => check l
    | _ => none

/-! ## Running -/

/-- A line of the input: its text, whether a line feed ends it, and the file that it is from. -/
structure Line where
  text : List Char
  ended : Bool := true
  file : String := "-"
  /-- Whether it is the last line of its file. -/
  last : Bool := false

/-- What comes out behind a line. -/
inductive Queued where
  | text (cs : List Char)
  | file (path : String)
  | line (cs : List Char)

/-- Whether a range is open, and the line that ends it if that is known. -/
inductive RangeState where
  | closed
  /-- The range was open. -/
  | spent
  | open_ (past : Option Nat)
  deriving Repr, DecidableEq

/-- An editor while it runs. -/
structure Editor where
  script : Script
  quiet : Bool := false
  /-- Whether files are edited one by one. -/
  separate : Bool := false
  zeros : Bool := false
  width : Nat := 70
  input : List Line
  space : List Char := []
  ended : Bool := true
  file : String := "-"
  isLast : Bool := false
  hold : List Char := []
  line : Nat := 0
  replaced : Bool := false
  queue : List Queued := []
  ranges : List (Nat × RangeState) := []
  recent : Option Expression := none
  /-- What was written, the last part first, by the file that it goes to; the output has no name. -/
  written : List (Option String × List Char) := []
  /-- The files whose last line has no line feed yet. -/
  unended : List (Option String) := []
  /-- The lines that are left of files that are read line by line. -/
  sources : List (String × List (List Char)) := []
  /-- The files as they are known to the editor. -/
  files : String → Option (List Char)

abbrev Edit := StateT Editor (Except String)

/-- What becomes of the script after a command. -/
inductive Onward where
  | on (next : Nat)
  /-- The cycle is over; the part tells whether the line is printed. -/
  | over (prints : Bool)
  /-- The cycle begins anew with what is left of the text. -/
  | again
  | quit (status : Nat) (prints : Bool)

/-- Writes to a file or the output. -/
def write (file : Option String) (cs : List Char) (ended : Bool) : Edit Unit :=
  modify fun e =>
    let file := if file == some "/dev/stdout" then none else file
    let gap := if e.unended.contains file then ['\n'] else []
    let mark := if e.zeros then ['\x00'] else ['\n']
    { e with
      written := (file, gap ++ cs ++ (if ended then mark else [])) :: e.written
      unended := if ended then e.unended.filter (· != file)
        else if e.unended.contains file then e.unended else file :: e.unended }

/-- Writes a text that ends its lines itself. -/
def writeRaw (cs : List Char) : Edit Unit :=
  modify fun e =>
    let gap := if e.unended.contains none then ['\n'] else []
    { e with written := (none, gap ++ cs) :: e.written, unended := e.unended.filter (· != none) }

/-- Prints the text that is edited. -/
def printSpace : Edit Unit := do
  let e ← get
  write none e.space e.ended

/-- Prints what comes out behind a line. -/
def flush : Edit Unit := do
  let e ← get
  set { e with queue := [] }
  for q in e.queue do
    match q with
    | .text cs => writeRaw cs
    | .line cs => write none cs true
    | .file path =>
      match e.files path with
      | some cs => if !cs.isEmpty then writeRaw cs
      | none => pure ()

/-- Whether the line that is edited is the last one. -/
def atEnd : Edit Bool := do
  let e ← get
  return e.input.isEmpty || (e.separate && e.isLast)

/-- Takes the next line; tells whether there was one. -/
def nextLine (joins : Bool) : Edit Bool := do
  flush
  let e ← get
  match e.input with
  | [] => return false
  | l :: input =>
    let mark := if e.zeros then '\x00' else '\n'
    set { e with
      input
      space := if joins then e.space ++ mark :: l.text else l.text
      ended := l.ended, file := l.file, isLast := l.last
      line := e.line + 1
      replaced := if joins then e.replaced else e.replaced }
    return true

/-- The expression that is meant, which is remembered. -/
def resolved (r : Regex) : Edit Expression := do
  match r, (← get).recent with
  | some e, _ =>
    modify fun s => { s with recent := some e }
    return e
  | none, some e => return e
  | none, none => throw "no previous regular expression"

/-- The text that is edited, to look for matches in. -/
def subject (ignoreCase lines : Bool) : Edit Expression.Subject := do
  return { text := (← get).space.toArray, ignoreCase, lines }

/-- Whether an address names the line that is edited. -/
def fits (a : Address) : Edit Bool := do
  let e ← get
  match a with
  | .line n => return e.line = n
  | .step first step =>
    return first ≤ e.line && (e.line - first) % step = 0
  | .last => atEnd
  | .regex r i m =>
    let regex ← resolved r
    return (regex.find (← subject i m) 0).isSome
  | .further _ | .multiple _ | .start => return false

/-- Whether a command is meant for the line that is edited; ranges are opened and closed. -/
def chosen (i : Nat) (c : Command) : Edit Bool := do
  match c.first, c.last with
  | none, _ => return true
  | some a, none => fits a
  | some a, some b =>
    let e ← get
    let state := (e.ranges.lookup i).getD
      (match a with
        | .start => .open_ none
        | _ => .closed)
    let become := fun (s : RangeState) => modify fun (e : Editor) =>
      { e with ranges := (i, s) :: e.ranges.filter fun (j, _) => j != i }
    match state with
    | .open_ none =>
      if ← fits b then become .spent
      return true
    | .open_ (some past) =>
      if past ≤ e.line then become .spent
      return e.line ≤ past
    | state =>
      let again := match a with
        | .line _ => state == .closed
        | _ => true
      if !again then return false
      if !(← fits a) then return false
      match b with
      | .line n => if e.line < n then become (.open_ (some n)) else become .spent
      | .further n => if 0 < n then become (.open_ (some (e.line + n))) else become .spent
      | .multiple n =>
        if 0 < n then become (.open_ (some ((e.line / n + 1) * n))) else become .spent
      | _ => become (.open_ none)
      return true

/-- A text with its letters changed. -/
def cased (casing : Casing) (next : Casing) (cs : List Char) : List Char × Casing :=
  let change := fun (k : Casing) (c : Char) => match k with
    | .upper => c.toUpper
    | .lower => c.toLower
    | _ => c
  match cs with
  | [] => ([], next)
  | c :: rest =>
    let first := match next with
      | .upperNext => c.toUpper
      | .lowerNext => c.toLower
      | _ => change casing c
    (first :: rest.map (change casing), .keep)

/-- The text of a replacement. -/
def replacementText (group : Nat → List Char) : (casing next : Casing) → List Replacement →
    List Char
  | _, _, [] => []
  | casing, next, r :: rest =>
    match r with
    | .casing .upperNext => replacementText group casing .upperNext rest
    | .casing .lowerNext => replacementText group casing .lowerNext rest
    | .casing c => replacementText group c .keep rest
    | .char c =>
      let (cs, next) := cased casing next [c]
      cs ++ replacementText group casing next rest
    | .group k =>
      let (cs, next) := cased casing next (group k)
      cs ++ replacementText group casing next rest

/-- Replaces matches from a place on; `count` is the number of matches so far, `past` the end of
the last one. The second part tells whether one was replaced. -/
def replaceFrom (regex : Expression) (s : Substitution) (text : Expression.Subject) :
    (steps i count : Nat) → (past : Option Nat) → List Char × Bool
  | 0, i, _, _ => (text.text.toList.drop i, false)
  | n + 1, i, count, past =>
    let between := fun (a b : Nat) => (text.text.toList.take b).drop a
    match regex.find text i with
    | none => (between i text.text.size, false)
    | some (from_, r) =>
      if r.place = from_ && past == some from_ then
        -- nothing again right behind a match
        if text.text.size ≤ from_ then (between i text.text.size, false)
        else
          let (more, done) := replaceFrom regex s text n (from_ + 1) count none
          (between i (from_ + 1) ++ more, done)
      else
        let count := count + 1
        let group := fun (k : Nat) =>
          if k = 0 then between from_ r.place
          else match r.group? k with
            | some (a, b) => between a b
            | none => []
        let replaces := s.first ≤ count
        let new := if replaces then replacementText group .keep .keep s.replacement
          else between from_ r.place
        let front := between i from_ ++ new
        if replaces && !s.everywhere then (front ++ between r.place text.text.size, true)
        else if r.place = from_ then
          if text.text.size ≤ from_ then (front, replaces)
          else
            let (more, done) := replaceFrom regex s text n (from_ + 1) count none
            (front ++ between from_ (from_ + 1) ++ more, replaces || done)
        else
          let (more, done) := replaceFrom regex s text n r.place count (some r.place)
          (front ++ more, replaces || done)

/-- A character as the command that shows everything writes it. -/
def shownChar (c : Char) : List Char :=
  match c with
  | '\\' => "\\\\".toList
  | '\x07' => "\\a".toList
  | '\x08' => "\\b".toList
  | '\x0c' => "\\f".toList
  | '\n' => "\\n".toList
  | '\r' => "\\r".toList
  | '\t' => "\\t".toList
  | '\x0b' => "\\v".toList
  | _ =>
    if ' ' ≤ c && c ≤ '~' then [c]
    else
      let ds := Nat.toDigits 8 c.toNat
      '\\' :: List.replicate (3 - ds.length) '0' ++ ds

/-- Lines of a width, each but the last with a backslash at its end. -/
def wrapped (width : Nat) : (column : Nat) → List (List Char) → List Char
  | _, [] => []
  | column, p :: ps =>
    if 1 < width && width - 1 < column + p.length then
      '\\' :: '\n' :: p ++ wrapped width p.length ps
    else p ++ wrapped width (column + p.length) ps

/-- The part of the edited text up to its first line feed. -/
def firstLine (cs : List Char) : List Char := cs.takeWhile (· != '\n')

/-- Goes to a label. -/
def goTo (label : String) : Edit Onward := do
  if label.isEmpty then return .over true
  return .on (((← get).script.labels.lookup label).getD 0)

/-- Runs one command. -/
def run (i : Nat) (c : Command) : Edit Onward := do
  let on : Onward := .on (i + 1)
  let e ← get
  match c.action with
  | .block _ | .nothing => return on
  | .delete => return .over false
  | .deleteFirst =>
    if e.space.contains '\n' then
      set { e with space := e.space.drop ((firstLine e.space).length + 1) }
      return .again
    else return .over false
  | .print =>
    printSpace
    return on
  | .printFirst =>
    write none (firstLine e.space) true
    return on
  | .next =>
    if ← atEnd then
      if e.input.isEmpty then return .quit 0 true
    if !e.quiet then printSpace
    if ← nextLine false then return on else return .quit 0 false
  | .append =>
    if ← atEnd then
      if e.input.isEmpty then return .quit 0 true
    if ← nextLine true then return on else return .quit 0 true
  | .holdCopy =>
    set { e with hold := e.space }
    return on
  | .holdAppend =>
    set { e with hold := e.hold ++ '\n' :: e.space }
    return on
  | .getCopy =>
    set { e with space := e.hold }
    return on
  | .getAppend =>
    set { e with space := e.space ++ '\n' :: e.hold }
    return on
  | .exchange =>
    set { e with space := e.hold, hold := e.space }
    return on
  | .number =>
    writeRaw ((toString e.line).toList ++ ['\n'])
    return on
  | .show_ width =>
    let width := width.getD e.width
    writeRaw (wrapped width 0 (e.space.map shownChar) ++ ['$', '\n'])
    return on
  | .after text =>
    set { e with queue := e.queue ++ [Queued.text text] }
    return on
  | .before text =>
    writeRaw text
    return on
  | .change text =>
    let isOpen := match e.ranges.lookup i with
      | some (.open_ _) => true
      | _ => false
    if c.last.isNone || !isOpen || c.negated then writeRaw text
    return .over false
  | .branch label => goTo label
  | .branchIf label =>
    if e.replaced then
      set { e with replaced := false }
      goTo label
    else return on
  | .branchIfNot label =>
    if e.replaced then
      set { e with replaced := false }
      return on
    else goTo label
  | .quit status prints => return .quit status prints
  | .readFile path =>
    set { e with queue := e.queue ++ [Queued.file path] }
    return on
  | .readLine path =>
    let lines := match e.sources.lookup path with
      | some ls => ls
      | none => ((e.files path).map linesOf).getD []
    set { e with
      sources := (path, lines.tail) :: e.sources.filter fun (p, _) => p != path
      queue := e.queue ++ (lines.take 1).map Queued.line }
    return on
  | .writeFile path =>
    write (some path) e.space true
    return on
  | .writeFirst path =>
    write (some path) (firstLine e.space) true
    return on
  | .clear =>
    set { e with space := [] }
    return on
  | .name =>
    writeRaw (e.file.toList ++ ['\n'])
    return on
  | .translate pairs =>
    set { e with space := e.space.map fun c => (pairs.lookup c).getD c }
    return on
  | .substitute s =>
    let regex ← resolved s.regex
    let text ← subject false s.lines
    let (new, done) := replaceFrom regex s text (text.text.size + 2) 0 0 none
    if done then
      modify fun e => { e with space := new, replaced := true }
      if s.prints then printSpace
      match s.file with
      | some path => write (some path) new true
      | none => pure ()
    return on

/-- Runs the commands from one on. -/
def runFrom : (steps i : Nat) → Edit Onward
  | 0, _ => throw ""
  | n + 1, i => do
    match (← get).script.commands[i]? with
    | none => return .over true
    | some c =>
      let here ← chosen i c
      let going ← if here != c.negated then run i c
        else
          match c.action with
          | .block past => pure (.on past)
          | _ => pure (.on (i + 1))
      match going with
      | .on next => runFrom n next
      | g => return g

/-- Ends a cycle. -/
def finish (prints : Bool) : Edit Unit := do
  if prints && !(← get).quiet then printSpace
  flush

/-- Edits line after line; the exit status. `fresh` tells whether a line is taken first. -/
def cycles : (steps : Nat) → (fresh : Bool) → Edit Nat
  | 0, _ => throw ""
  | n + 1, fresh => do
    let going ← if fresh then nextLine false else pure true
    if !going then return 0
    modify fun e => { e with replaced := false }
    match ← runFrom 20000 0 with
    | .over prints =>
      finish prints
      cycles n true
    | .again =>
      flush
      cycles n false
    | .quit status prints =>
      finish prints
      return status
    | .on _ => return 0

/-! ## The program -/

/-- The usage of the program. -/
def usage : String := String.join <| (·.map (· ++ "\n")) [
  "Usage: sed [OPTION]... \x7bscript-only-if-no-other-script\x7d [input-file]...",
  "",
  "  -n, --quiet, --silent",
  "                 suppress automatic printing of pattern space",
  "      --debug",
  "                 annotate program execution",
  "  -e script, --expression=script",
  "                 add the script to the commands to be executed",
  "  -f script-file, --file=script-file",
  "                 add the contents of script-file to the commands to be executed",
  "  --follow-symlinks",
  "                 follow symlinks when processing in place",
  "  -i[SUFFIX], --in-place[=SUFFIX]",
  "                 edit files in place (makes backup if SUFFIX supplied)",
  "  -l N, --line-length=N",
  "                 specify the desired line-wrap length for the `l' command",
  "  --posix",
  "                 disable all GNU extensions.",
  "  -E, -r, --regexp-extended",
  "                 use extended regular expressions in the script",
  "                 (for portability use POSIX -E).",
  "  -s, --separate",
  "                 consider files as separate rather than as a single,",
  "                 continuous long stream.",
  "      --sandbox",
  "                 operate in sandbox mode (disable e/r/w commands).",
  "  -u, --unbuffered",
  "                 load minimal amounts of data from the input files and flush",
  "                 the output buffers more often",
  "  -z, --null-data",
  "                 separate lines by NUL characters",
  "      --help     display this help and exit",
  "      --version  output version information and exit",
  "",
  "If no -e, --expression, -f, or --file option is given, then the first",
  "non-option argument is taken as the sed script to interpret.  All",
  "remaining arguments are names of input files; if no input files are",
  "specified, then the standard input is read.",
  "",
  "GNU sed home page: <https://www.gnu.org/software/sed/>.",
  "General help using GNU software: <https://www.gnu.org/gethelp/>."]

/-- A part of the script: what is said of its place, and its text. -/
structure Source where
  /-- The file that it is from, or its number among the expressions. -/
  file : Option String
  number : Nat
  text : List Char

/-- The place of a fault in words. -/
def describe : (sources : List Source) → (place : Nat) → String
  | [], place => s!"-e expression #1, char {place}"
  | s :: rest, place =>
    if s.text.length < place && !rest.isEmpty then describe rest (place - s.text.length - 1)
    else
      match s.file with
      | some file =>
        let line := 1 + (s.text.take (place - 1)).count '\n'
        s!"file {file} line {line}"
      | none => s!"-e expression #{s.number}, char {place}"

/-- The lines of a text with its file. -/
def linesFrom (zeros : Bool) (file : String) (cs : List Char) : List Line :=
  let mark := if zeros then '\x00' else '\n'
  let all := (pieces mark cs).reverse
  let lines := match all with
    | [] :: before => before.map fun l => { text := l, file : Line }
    | last :: before =>
      { text := last, ended := false, file } :: before.map fun l => { text := l, file : Line }
    | [] => []
  (match lines with
    | l :: before => { l with last := true } :: before
    | [] => []).reverse

/-- The files that a script reads from. -/
def readPaths (s : Script) : List String :=
  s.commands.toList.filterMap fun c =>
    match c.action with
    | .readFile path | .readLine path => some path
    | _ => none

/-- The files that a script writes to. -/
def writePaths (s : Script) : List String :=
  s.commands.toList.filterMap fun c =>
    match c.action with
    | .writeFile path | .writeFirst path => some path
    | .substitute s => s.file
    | _ => none

/-- Writes what an editor wrote: to the output, or to the file that is edited. -/
def deliver (inPlace : Option String) (written : List (Option String × List Char)) : Run Unit := do
  let paths := (written.filterMap Prod.fst).eraseDups
  let of := fun (file : Option String) =>
    (written.reverse.filter fun (f, _) => f == file).flatMap Prod.snd
  match inPlace with
  | none => sayChars (of none)
  | some path =>
    match Files.locate (← get).disk path with
    | .ok at_ =>
      -- a new file takes the place of the old one
      onDisk fun d => { d with twins := d.twins.map (·.filter (· ≠ at_)) }
      rewrite at_ (of none)
    | .error _ => pure ()
  for path in paths do
    if path == "/dev/stderr" then sayError (String.ofList (of (some path)))
    else
      match ← nodeOf path with
      | .ok (_, some .device) => pure ()
      | .ok (at_, _) =>
        let old := Files.bytesAt (← get).disk at_
        rewrite at_ (old ++ of (some path))
      | .error _ => pure ()

/-- The options of the program. -/
def spec : Spec :=
  { name := "sed", letters := "ne:f:Erszl:u+i"
    long := [("quiet", 'n'), ("silent", 'n'), ("expression", 'e'), ("file", 'f'),
      ("regexp-extended", 'E'), ("separate", 's'), ("null-data", 'z'), ("line-length", 'l'),
      ("unbuffered", 'u'), ("posix", '+'), ("in-place", 'i')] }

/-- Arguments with the ending of copies cut off the option that asks for them. -/
def withoutEndings : List String → List String × Option String
  | [] => ([], none)
  | "--" :: rest => ("--" :: rest, none)
  | w :: rest =>
    let (more, found) := withoutEndings rest
    match w.toList.span (· != 'i') with
    | ('-' :: front, 'i' :: ending) =>
      if front.all "nErsz".toList.contains then
        (String.ofList ('-' :: front ++ ['i']) :: more, some (String.ofList ending))
      else (w :: more, found)
    | _ =>
      match dropStart? "--in-place=".toList w.toList with
      | some ending => ("-i" :: more, some (String.ofList ending))
      | none => (w :: more, found)

/-- The parts of the script that options give. -/
def sourcesOf : (number : Nat) → List Given → Run (Except String (List Source))
  | _, [] => return .ok []
  | number, g :: rest => do
    if g.letter == 'e' then
      return (← sourcesOf (number + 1) rest).map (⟨none, number, g.value.toList⟩ :: ·)
    else if g.letter == 'f' then
      match ← contents g.value with
      | .ok cs =>
        let text := if cs.getLast? == some '\n' then cs.dropLast else cs
        return (← sourcesOf number rest).map (⟨some g.value, 0, text⟩ :: ·)
      | .error f => return .error s!"couldn't open file {g.value}: {faultText f}"
    else sourcesOf number rest

/-- Reads files; what cannot be read is reported, and is the second part. -/
def inputOf (zeros : Bool) : List String → Run (List (String × List Line) × Bool)
  | [] => return ([], false)
  | path :: rest => do
    match ← contents path with
    | .ok cs =>
      let (more, failed) ← inputOf zeros rest
      return ((path, linesFrom zeros path cs) :: more, failed)
    | .error f =>
      report "sed" (if f == .isDirectory then s!"couldn't edit {path}: not a regular file"
        else s!"can't read {path}: {faultText f}")
      let (more, _) ← inputOf zeros rest
      return (more, true)

/-- Runs an editor over lines and writes what it wrote. -/
def edit (e : Editor) (inPlace : Option String) : Run (Option Nat) := do
  match (cycles 100000 true).run e with
  | .error what =>
    if what.isEmpty then throw .endless
    report "sed" s!"-e expression #1, char 0: {what}"
    return none
  | .ok (status, e) =>
    deliver inPlace e.written
    return some status

end Sed

open Sed in
/-- Edits texts line by line. -/
def sed : Tool := fun args => do
  let (args, ending) := withoutEndings args
  match Sed.spec.parse (args.length + 1) args with
  | .error what =>
    report "sed" what
    sayError usage
    return 1
  | .ok (given, words) =>
    let named := has given 'e' || has given 'f'
    if !named && words.isEmpty then
      sayError usage
      return 1
    else
      let given := if named then given else { letter := 'e', value := words.headD "" } :: given
      let paths := if named then words else words.tail
      match ← sourcesOf 1 given with
      | .error what =>
        report "sed" what
        return 4
      | .ok sources =>
        let text := joinWith ['\n'] (sources.map (·.text))
        let hushed := ['#', 'n'].isPrefixOf text
        match scriptOf (has given 'E' || has given 'r') text with
        | .error w =>
          let place := if w.place = 0 then "-e expression #1, char 0" else describe sources w.place
          report "sed" s!"{place}: {w.what}"
          return 1
        | .ok script =>
          match script.missingLabel? with
          | some label =>
            report "sed" s!"can't find label for jump to `{label}'"
            return 4
          | none => do
            for path in (writePaths script).eraseDups do
              match ← nodeOf path with
              | .ok (_, some .device) => pure ()
              | .ok (at_, _) =>
                if !path.startsWith "/dev/" then rewrite at_ []
              | .error f =>
                if !path.startsWith "/dev/" then
                  report "sed" s!"couldn't open file {path}: {faultText f}"
                  return 4
            let zeros := has given 'z'
            let inPlace := has given 'i'
            if inPlace && paths.isEmpty then
              report "sed" "no input files"
              return 4
            let (texts, failed) ← inputOf zeros (Tool.sources paths)
            let mut known : List (String × List Char) := []
            for path in (readPaths script).eraseDups do
              if path == "/dev/stdin" then known := (path, ← input) :: known
              else
                match Files.read (← get).disk path with
                | .ok cs => known := (path, cs) :: known
                | .error _ => pure ()
            let files := known
            let status := if failed then 2 else 0
            let width := ((valueOf? given 'l').bind fun w => Number.digits? w.toList).getD 70
            let editor : Editor :=
              { script, quiet := has given 'n' || hushed, separate := has given 's' || inPlace
                zeros, width, input := [], files := fun path => files.lookup path }
            if inPlace then
              let mut status := status
              for (path, lines) in texts do
                match ending with
                | some ending =>
                  if !ending.isEmpty then
                    match ← existing path, ← nodeOf (path ++ ending) with
                    | .ok (_, n), .ok (at_, _) => onDisk (·.setNode at_ n)
                    | _, _ => pure ()
                | none => pure ()
                match ← edit { editor with input := lines } (some path) with
                | some 0 => pure ()
                | some s => status := s
                | none => status := 1
              return status
            else
              match ← edit { editor with input := texts.flatMap Prod.snd } none with
              | some 0 => return status
              | some s => return s
              | none => return 1

end Playbook.Shell.Tool
