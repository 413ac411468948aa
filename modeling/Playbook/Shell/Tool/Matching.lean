/-
  The program that finds the lines of files that match patterns.
-/
import Playbook.Shell.Tool.Files
import Playbook.Shell.Expression

namespace Playbook.Shell.Tool

open Playbook.Text

namespace Grep

/-! ## Patterns -/

/-- How patterns are written. -/
inductive Writing where
  | basic
  | extended
  | fixed
  /-- As extended ones, with signs for more classes. -/
  | rich
  deriving Repr, DecidableEq

/-- What lines are looked through for. -/
structure Query where
  expressions : List Expression
  ignoreCase : Bool := false
  words : Bool := false
  wholeLines : Bool := false
  /-- Whether lines that do not match are wanted. -/
  inverted : Bool := false

/-- What follows an expression in brackets that begins here. -/
def afterBracket (cs : List Char) : List Char :=
  let cs := if cs.head? == some '^' then cs.tail else cs
  let cs := if cs.head? == some ']' then cs.tail else cs
  (cs.dropWhile (· != ']')).tail

/-- What is odd in an extended pattern: signs of repetition with nothing in front. -/
def oddities : (steps : Nat) → (start : Bool) → List Char → List String
  | 0, _, _ => []
  | _, _, [] => []
  | n + 1, start, c :: rest =>
    let odd := fun (s : String) => s ++ " at start of expression"
    match c with
    | '\\' => oddities n false rest.tail
    | '[' => oddities n false (afterBracket rest)
    | '(' | '|' => oddities n true rest
    | '^' => oddities n start rest
    | '*' | '+' | '?' =>
      (if start then [odd (String.singleton c)] else []) ++ oddities n start rest
    | '{' =>
      let inner := rest.takeWhile (· != '}')
      let isInterval := inner.length < rest.length && !inner.isEmpty &&
        inner.all fun d => d.isDigit || d == ','
      if start && isInterval then
        odd "\x7b...\x7d" :: oddities n start (rest.drop (inner.length + 1))
      else oddities n false rest
    | _ => oddities n false rest

/-- Whether brackets stand in a pattern where a class was meant. -/
def isBareClass (cs : List Char) : Bool :=
  match cs with
  | '[' :: ':' :: rest =>
    let name := rest.takeWhile Char.isAlpha
    rest.drop name.length == ":]".toList
  | _ => false

/-- The expression of a pattern. -/
def expressionOf (w : Writing) (ignoreCase : Bool) (text : List Char) : Except String Expression :=
  let flavor : Expression.Flavor :=
    { extended := w != .basic, ignoreCase, loose := w == .extended, digits := w == .rich }
  if w == .fixed then .ok (Expression.literal flavor text)
  else if isBareClass text then .error "character class syntax is [[:space:]], not [:space:]"
  else (Expression.ofText flavor text).map Prod.fst

/-! ## Matches -/

/-- Whether a stretch of a text is bounded as words are. -/
def isWordStretch (s : Expression.Subject) (from_ past : Nat) : Bool :=
  !s.wordBefore from_ && !s.wordAt past

/-- The longest of the matches that begin at a place and are allowed. -/
def matchAt (q : Query) (s : Expression.Subject) (i : Nat) : Option Nat :=
  let allowed := fun (r : Expression.Reached) =>
    (!q.words || isWordStretch s i r.place) && (!q.wholeLines || r.place = s.text.size)
  let ends := q.expressions.flatMap fun e =>
    if q.words || q.wholeLines then
      ((Expression.ways s true e { place := i }).filter allowed).map (·.place)
    else ((e.matchAt s i).map (·.place)).toList
  ends.foldl (fun best p => some ((best.map (max p)).getD p)) none

/-- The first match from a place on. -/
def findFrom (q : Query) (s : Expression.Subject) : (steps i : Nat) → Option (Nat × Nat)
  | 0, _ => none
  | n + 1, i =>
    if s.text.size < i || (q.wholeLines && 0 < i) then none
    else
      match matchAt q s i with
      | some past => some (i, past)
      | none => findFrom q s n (i + 1)

/-- The matches in a text that hold something. -/
def allMatches (q : Query) (s : Expression.Subject) : (steps i : Nat) → List (Nat × Nat)
  | 0, _ => []
  | n + 1, i =>
    match findFrom q s (s.text.size + 2 - i) i with
    | none => []
    | some (from_, past) =>
      if past = from_ then allMatches q s n (from_ + 1)
      else (from_, past) :: allMatches q s n past

/-- A line as it is looked through. -/
def subject (q : Query) (line : List Char) : Expression.Subject :=
  { text := line.toArray, ignoreCase := q.ignoreCase }

/-- Whether a line is wanted. -/
def wants (q : Query) (line : List Char) : Bool :=
  let s := subject q line
  (findFrom q s (line.length + 2) 0).isSome != q.inverted

/-! ## Showing -/

/-- How lines are shown. -/
structure Showing where
  names : Bool := false
  numbers : Bool := false
  offsets : Bool := false
  /-- Whether only what matches is shown. -/
  parts : Bool := false
  before : Nat := 0
  after : Nat := 0
  /-- How many lines are wanted; none for all. -/
  most : Option Nat := none
  /-- Whether lines around others were asked for. -/
  context : Bool := false

/-- What stands in front of a line. -/
def lead (s : Showing) (name : String) (number offset : Nat) (sign : String) : String :=
  (if s.names then name ++ sign else "") ++
    (if s.numbers then toString number ++ sign else "") ++
    (if s.offsets then toString offset ++ sign else "")

/-- A line with its number from one and its first byte. -/
structure Line where
  number : Nat
  offset : Nat
  text : List Char
  wanted : Bool

/-- The lines of a text with their numbers; `left` counts the ones that are still wanted. -/
def numbered (q : Query) : (number offset : Nat) → (left : Option Nat) → List (List Char) →
    List Line
  | _, _, _, [] => []
  | number, offset, left, l :: ls =>
    let wanted := left != some 0 && wants q l
    ⟨number, offset, l, wanted⟩ ::
      numbered q (number + 1) (offset + l.length + 1)
        (if wanted then left.map (· - 1) else left) ls

/-- What a wanted line shows. -/
def shownLine (q : Query) (s : Showing) (name : String) (l : Line) : String :=
  if !s.parts then lead s name l.number l.offset ":" ++ String.ofList l.text ++ "\n"
  else if q.inverted then ""
  else
    String.join ((allMatches q (subject q l.text) (l.text.length + 2) 0).map fun (from_, past) =>
      lead s name l.number (l.offset + from_) ":" ++
        String.ofList ((l.text.take past).drop from_) ++ "\n")

/-- The lines that are shown: those in front of a wanted one, it, and those behind it. `ago` holds
the last lines that were not shown, `after` counts the lines that are still shown, and `gap` tells
whether something was left out behind a line that was shown. -/
def shown (q : Query) (s : Showing) (name : String) : (left : Option Nat) → (ago : List Line) →
    (after : Nat) → (begun gap : Bool) → List Line → String
  | _, _, _, _, _, [] => ""
  | left, ago, after, begun, gap, l :: ls =>
    let beside := fun (l : Line) =>
      if s.parts then ""
      else lead s name l.number l.offset "-" ++ String.ofList l.text ++ "\n"
    if l.wanted then
      let front := ago.take s.before
      let skipped := gap || front.length < ago.length
      let separator := if s.context && begun && skipped && !s.parts || (s.context && begun &&
        skipped) then "--\n" else ""
      separator ++ String.join (front.reverse.map beside) ++ shownLine q s name l ++
        shown q s name (left.map (· - 1)) [] s.after true false ls
    else if left == some 0 then
      -- the lines behind the last wanted one end where another one would be
      if after = 0 || wants q l.text then ""
      else beside l ++ shown q s name left [] (after - 1) begun gap ls
    else if 0 < after then beside l ++ shown q s name left [] (after - 1) begun gap ls
    else
      let ago := l :: ago
      shown q s name left (ago.take s.before) 0 begun (gap || s.before < ago.length) ls

/-! ## Files -/

/-- What becomes of the lines of a file. -/
inductive Outcome where
  | lines
  | count
  | matching
  | notMatching
  | quiet
  deriving Repr, DecidableEq

/-- What grep does. -/
structure Task where
  query : Query
  showing : Showing
  outcome : Outcome
  /-- Whether what cannot be read is passed over in silence. -/
  silent : Bool := false
  /-- Whether directories are gone through. -/
  deep : Bool := false
  /-- Whether every file is taken for a text. -/
  asText : Bool := false
  /-- What the names of files in directories have to fit, and must not fit. -/
  included : List String := []
  excluded : List String := []

/-- Looks through one text; tells whether a line was wanted. -/
def searchText (t : Task) (name : String) (cs : List Char) : Run Bool := do
  let s := t.showing
  let lines := numbered t.query 1 0 s.most (linesOf cs)
  let count := (lines.filter (·.wanted)).length
  match t.outcome with
  | .quiet => pure ()
  | .count => say ((if s.names then name ++ ":" else "") ++ toString count ++ "\n")
  | .matching => if 0 < count then say (name ++ "\n")
  | .notMatching => if count = 0 then say (name ++ "\n")
  | .lines =>
    if s.most != some 0 then
      if cs.contains '\x00' && !t.asText then
        if 0 < count then say s!"grep: {name}: binary file matches\n"
      else say (shown t.query s name s.most [] 0 false false lines)
  return 0 < count

/-- Whether the name of a file in a directory is looked at. -/
def isChosen (t : Task) (name : String) : Bool :=
  let fits := fun (form : String) =>
    Glob.fits (Wildcard.tokens (form.toList.map fun c => (c, false))) name.toList
  (t.included.isEmpty || t.included.any fits) && !t.excluded.any fits

/-- The files below a directory, with the paths that are shown. -/
def filesBelow (t : Task) (d : Disk) : (steps : Nat) → (path : String) → Place → List String
  | 0, _, _ => []
  | n + 1, path, at_ =>
    (d.children at_).flatMap fun name =>
      let here := at_ ++ [name]
      let name := inward name
      let shownPath := if path.isEmpty then name else below path name
      match d.node? here with
      | some .directory => filesBelow t d n shownPath here
      | some (.link _) => []
      | some _ => if isChosen t name then [shownPath] else []
      | none => []

/-- Looks through files; the parts tell whether a line was wanted and whether something could not
be read. -/
def searchAll (t : Task) : List String → (found failed : Bool) → Run (Bool × Bool)
  | [], found, failed => return (found, failed)
  | path :: rest, found, failed => do
    if found && t.outcome == .quiet then return (true, false)
    match ← contents path with
    | .ok cs =>
      let name := if path == "-" then "(standard input)" else path
      let here ← searchText t name cs
      searchAll t rest (found || here) failed
    | .error f =>
      let d := (← get).disk
      match f, t.deep, Files.locate d path with
      | .isDirectory, true, .ok at_ =>
        let mut found := found
        let mut failed := failed
        for file in filesBelow t d 64 path at_ do
          match ← contents file with
          | .ok cs => if ← searchText t file cs then found := true
          | .error _ => failed := true
        searchAll t rest found failed
      | _, _, _ =>
        if !t.silent then report "grep" s!"{path}: {faultText f}"
        searchAll t rest found true

/-- The options of grep. -/
def spec : Spec :=
  { name := "grep", letters := "EFGPe:f:ivyvwxclLqsnHhom:A:B:C:rRabzZUu0123456789TdD:I!:+:^:"
    status := 2
    long := [("extended-regexp", 'E'), ("fixed-strings", 'F'), ("basic-regexp", 'G'),
      ("perl-regexp", 'P'), ("regexp", 'e'), ("file", 'f'), ("ignore-case", 'i'),
      ("invert-match", 'v'), ("word-regexp", 'w'), ("line-regexp", 'x'), ("count", 'c'),
      ("files-with-matches", 'l'), ("files-without-match", 'L'), ("quiet", 'q'), ("silent", 'q'),
      ("no-messages", 's'), ("line-number", 'n'), ("with-filename", 'H'), ("no-filename", 'h'),
      ("only-matching", 'o'), ("max-count", 'm'), ("after-context", 'A'), ("before-context", 'B'),
      ("context", 'C'), ("recursive", 'r'), ("dereference-recursive", 'R'), ("text", 'a'),
      ("byte-offset", 'b'), ("null-data", 'z'), ("null", 'Z'), ("color", 'u'), ("colour", 'u'),
      ("line-buffered", 'u'), ("include", '!'), ("exclude", '+'), ("exclude-dir", '^')] }

/-- What grep says of a wrong use. -/
def usage (what : Option String) : Run Nat := do
  match what with
  | some w => report "grep" w
  | none => pure ()
  sayError ("Usage: grep [OPTION]... PATTERNS [FILE]...\n" ++
    "Try 'grep --help' for more information.\n")
  return 2

/-- The patterns that options give, and those in files. -/
def givenPatterns : List Given → Run (Except String (List (List Char)))
  | [] => return .ok []
  | g :: rest => do
    let here : Except String (List (List Char)) ←
      if g.letter == 'e' then pure (.ok (pieces '\n' g.value.toList))
      else if g.letter == 'f' then
        match ← contents g.value with
        | .ok cs => pure (.ok (linesOf cs))
        | .error f => pure (.error s!"{g.value}: {faultText f}")
      else pure (.ok [])
    match here, ← givenPatterns rest with
    | .ok a, .ok b => return .ok (a ++ b)
    | .error e, _ => return .error e
    | _, .error e => return .error e

/-- The number of lines that an option asks for; none for a wrong one. -/
def lineCount (given : List Given) (letter : Char) : Option Nat :=
  match valueOf? given letter with
  | some text => Number.digits? text.toList
  | none => some 0

end Grep

open Grep in
/-- Prints the lines of files that match patterns. -/
def grep (usual : Grep.Writing) : Tool := fun args => do
  match Grep.spec.parse (args.length + 1) args with
  | .error what => usage (some what)
  | .ok (given, words) =>
    let chooses := (given.filter fun g => "EFGP".toList.contains g.letter).getLast?
    let writing := match chooses.map (·.letter) with
      | some 'E' => Writing.extended
      | some 'F' => .fixed
      | some 'G' => .basic
      | some 'P' => .rich
      | _ => usual
    let named := has given 'e' || has given 'f'
    match ← givenPatterns given with
    | .error what =>
      report "grep" what
      return 2
    | .ok patterns =>
      if !named && words.isEmpty then
        usage none
      else
        let patterns := if named then patterns else pieces '\n' (words.headD "").toList
        let paths := if named then words else words.tail
        let ignoreCase := has given 'i' || has given 'y'
        let digits := (given.filter fun g => g.letter.isDigit).map (·.letter)
        let around := match valueOf? given 'C' with
          | some text => Number.digits? text.toList
          | none => if digits.isEmpty then some 0 else Number.digits? digits
        let most? : Option (Option Nat) := match valueOf? given 'm' with
          | none => some none
          | some text =>
            if text.startsWith "-" then some none
            else (Number.digits? text.toList).map some
        match lineCount given 'A', lineCount given 'B', around, most? with
        | some after, some before, some around, some most => do
          if writing == .extended then
            for p in patterns do
              for odd in oddities (p.length + 1) true p do
                report "grep" ("warning: " ++ odd)
          match patterns.mapM (expressionOf writing ignoreCase) with
          | .error what =>
            report "grep" what
            return 2
          | .ok expressions => do
            let deep := has given 'r' || has given 'R'
            let outcome := if has given 'q' then Outcome.quiet
              else if has given 'L' then .notMatching
              else if has given 'l' then .matching
              else if has given 'c' then .count
              else .lines
            let names := if has given 'h' then false
              else has given 'H' || 1 < paths.length || deep
            let task : Task :=
              { query :=
                  { expressions, ignoreCase, words := has given 'w', wholeLines := has given 'x'
                    inverted := has given 'v' }
                showing :=
                  { names, numbers := has given 'n', offsets := has given 'b'
                    parts := has given 'o', most
                    before := if has given 'B' then before else around
                    after := if has given 'A' then after else around
                    context := ['A', 'B', 'C'].any (has given) || !digits.isEmpty }
                outcome, silent := has given 's', deep, asText := has given 'a'
                included := (given.filter fun g => g.letter == '!').map (·.value)
                excluded := (given.filter fun g => g.letter == '+').map (·.value) }
            let bare := deep && paths.isEmpty
            let d := (← get).disk
            let paths := if bare then filesBelow task d 64 "" d.here else sources paths
            let (found, failed) ← searchAll task paths false false
            return if failed then 2 else if found then 0 else 1
        | none, _, _, _ => do
          report "grep" ((valueOf? given 'A').getD "" ++ ": invalid context length argument")
          return 2
        | _, none, _, _ => do
          report "grep" ((valueOf? given 'B').getD "" ++ ": invalid context length argument")
          return 2
        | _, _, none, _ => do
          report "grep" ((valueOf? given 'C').getD "" ++ ": invalid context length argument")
          return 2
        | _, _, _, none => do
          report "grep" "invalid max count"
          return 2

end Playbook.Shell.Tool
