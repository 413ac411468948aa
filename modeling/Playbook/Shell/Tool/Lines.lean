/-
  Programs that pass lines on: whole files, their beginnings and ends, counts and numbers.
-/
import Playbook.Shell.Tool.Basic

namespace Playbook.Shell.Tool

open Playbook.Text

/-! ## Whole files -/

/-- A character in signs that can be seen: `^` for control characters, `M-` for those that are not
ASCII. -/
def visible (c : Char) : List Char :=
  let n := c.toNat
  let low := fun (n : Nat) =>
    if n < 32 then ['^', Char.ofNat (n + 64)] else if n = 127 then ['^', '?'] else [Char.ofNat n]
  if n < 128 then low n else 'M' :: '-' :: low (n - 128)

/-- How `cat` shows lines. -/
structure Shown where
  numbers : Bool := false
  numbersFull : Bool := false
  ends : Bool := false
  tabs : Bool := false
  controls : Bool := false
  squeezed : Bool := false

/-- Shows lines; `number` is that of the last one, `blank` tells whether it was blank. -/
def Shown.lines (s : Shown) : (number : Nat) → (blank : Bool) → List (List Char) → List Char
  | _, _, [] => []
  | number, blank, l :: rest =>
    let body := l.filter (· != '\n')
    if s.squeezed && blank && body.isEmpty then s.lines number true rest
    else
      let counts := if s.numbersFull then !body.isEmpty else s.numbers
      let number := if counts then number + 1 else number
      let front := if counts then
          (({ width := 6 } : Layout).text (toString number) ++ "\t").toList
        else []
      let seen := body.flatMap fun c =>
        if c == '\t' then (if s.tabs then ['^', 'I'] else [c])
        else if s.controls then visible c else [c]
      let ended := l.length != body.length
      front ++ seen ++ (if ended then (if s.ends then ['$', '\n'] else ['\n']) else []) ++
        s.lines number body.isEmpty rest

/-- Files one after the other. -/
def cat : Tool := withOptions
  { name := "cat"
    letters := "nbsETAvetu"
    long := [("number", 'n'), ("number-nonblank", 'b'), ("squeeze-blank", 's'), ("show-ends", 'E'),
      ("show-tabs", 'T'), ("show-all", 'A'), ("show-nonprinting", 'v')] }
  fun given paths => do
    let any := fun (cs : String) => cs.toList.any (has given)
    let shown : Shown := {
      numbers := any "n"
      numbersFull := any "b"
      ends := any "EAe"
      tabs := any "TAt"
      controls := any "vAet"
      squeezed := any "s" }
    if given.isEmpty then
      statusOf <$> overFiles (usual "cat") (fun _ cs => sayChars cs) (sources paths)
    else
      let (cs, failed) ← gathered (usual "cat") paths
      sayChars (shown.lines 0 false (wholeLines cs))
      return statusOf failed

/-- Lines in the opposite order. -/
def tac : Tool := withOptions { name := "tac", letters := "" } fun _ paths => do
  let failed ← overFiles (fun path f => s!"tac: failed to open '{path}' for reading: {faultText f}")
    (fun _ cs => sayChars (wholeLines cs).reverse.flatten) (sources paths)
  return statusOf failed

/-- The characters of every line in the opposite order. -/
def rev : Tool := withOptions { name := "rev", letters := "" } fun _ paths => do
  let failed ← overFiles (fun path f => s!"rev: cannot open {path}: {faultText f}")
    (fun _ cs => sayChars ((wholeLines cs).flatMap fun l =>
      (l.filter (· != '\n')).reverse ++ l.filter (· == '\n'))) (sources paths)
  return statusOf failed

/-- The input goes to the output and to files. -/
def tee : Tool := withOptions
  { name := "tee", letters := "ai", long := [("append", 'a')] } fun given paths => do
    let mut failed := false
    let mut streams : List Nat := []
    for path in paths do
      match openFile (← get) (if has given 'a' then .append else .write) path with
      | .ok (g, i) =>
        set g
        streams := i :: streams
      | .error f =>
        report "tee" s!"{path}: {faultText f}"
        failed := true
    let cs ← input
    for i in streams.reverse do
      let before := (← get).machine.streams
      modify fun g => { g with machine := g.machine.withStream 9 i }
      modify (·.writeTo 9 (String.ofList cs))
      restoreStreams before
    sayChars cs
    return statusOf failed

/-! ## Beginnings and ends -/

/-- How much of a file is shown. -/
structure Amount where
  /-- The sign in front of the number. -/
  sign : Option Char := none
  count : Nat := 10
  bytes : Bool := false

/-- A number with a sign. -/
def Amount.ofText? (bytes : Bool) (text : String) : Option Amount :=
  match text.toList with
  | '-' :: ds => (size? (String.ofList ds)).map fun n => ⟨some '-', n, bytes⟩
  | '+' :: ds => (size? (String.ofList ds)).map fun n => ⟨some '+', n, bytes⟩
  | _ => (size? text).map fun n => ⟨none, n, bytes⟩

/-- The beginning of a text. -/
def Amount.head (a : Amount) (cs : List Char) : List Char :=
  if a.bytes then cs.take (if a.sign == some '-' then cs.length - a.count else a.count)
  else
    let ls := wholeLines cs
    (ls.take (if a.sign == some '-' then ls.length - a.count else a.count)).flatten

/-- The end of a text. -/
def Amount.tail (a : Amount) (cs : List Char) : List Char :=
  if a.bytes then cs.drop (if a.sign == some '+' then a.count - 1 else cs.length - a.count)
  else
    let ls := wholeLines cs
    (ls.drop (if a.sign == some '+' then a.count - 1 else ls.length - a.count)).flatten

/-- The arguments with an old form of the number in front, as in `-3`, written anew. -/
def withoutOldNumber (plus : Bool) (args : List String) : List String :=
  match args with
  | first :: rest =>
    match first.toList with
    | '-' :: d :: ds => if (d :: ds).all Char.isDigit then "-n" :: String.ofList (d :: ds) :: rest
      else args
    | '+' :: d :: ds => if plus && (d :: ds).all Char.isDigit then "-n" :: first :: rest else args
    | _ => args
  | [] => []

/-- Shows parts of files, with titles if there are several. -/
def excerpt (name : String) (part : Amount → List Char → List Char) : Tool := fun args =>
  withOptions
    { name, letters := "n:c:qvf"
      long := [("lines", 'n'), ("bytes", 'c'), ("quiet", 'q'), ("silent", 'q'), ("verbose", 'v')] }
    (fun given paths => do
      let last := (given.filter fun g => g.letter == 'n' || g.letter == 'c').getLast?
      let amount? := match last with
        | some g => Amount.ofText? (g.letter == 'c') g.value
        | none => some {}
      match amount?, last with
      | none, some g =>
        let what := if g.letter == 'c' then "bytes" else "lines"
        report name s!"invalid number of {what}: '{g.value}'"
        return 1
      | _, _ =>
        let amount := amount?.getD {}
        let titled := !has given 'q' && (has given 'v' || 1 < paths.length)
        let mut first := true
        let mut failed := false
        for path in sources paths do
          let before := (← get).channel? 0
          match ← contents path with
          | .ok cs =>
            if titled then
              let title := if path == "-" then "standard input" else path
              say ((if first then "" else "\n") ++ s!"==> {title} <==\n")
            first := false
            let shown := part amount cs
            -- what was not shown of a file that is the input can still be read
            match before.map Opened.channel with
            | some (.file _ _) =>
              if path == "-" && name == "head" then
                modify fun g => g.pass 0 0 []
                modify fun g =>
                  match g.machine.stream? 0 with
                  | some i => { g with opened := g.opened.modify i fun o =>
                      { o with offset := o.offset - (cs.length - shown.length) } }
                  | none => g
            | _ => pure ()
            sayChars shown
          | .error f =>
            report name s!"cannot open '{path}' for reading: {faultText f}"
            failed := true
        return statusOf failed) (withoutOldNumber (name == "tail") args)

def head : Tool := excerpt "head" Amount.head

def tail : Tool := excerpt "tail" Amount.tail

/-! ## Counts -/

/-- The counts of a text: lines, words, bytes, and the length of the longest line. -/
structure Counts where
  lines : Nat := 0
  words : Nat := 0
  bytes : Nat := 0
  longest : Nat := 0

def Counts.ofText (cs : List Char) : Counts :=
  { lines := cs.count '\n'
    words := (wordsOf cs).length
    bytes := cs.length
    longest := ((linesOf cs).map List.length).foldl max 0 }

def Counts.add (a b : Counts) : Counts :=
  ⟨a.lines + b.lines, a.words + b.words, a.bytes + b.bytes, max a.longest b.longest⟩

/-- Counts lines, words and bytes. -/
def wc : Tool := withOptions
  { name := "wc", letters := "lwcmL"
    long := [("lines", 'l'), ("words", 'w'), ("bytes", 'c'), ("chars", 'm'),
      ("max-line-length", 'L')] }
  fun given paths => do
    let asked := fun (c : Char) => if given.isEmpty then c == 'l' || c == 'w' || c == 'c'
      else has given c
    let columns := ['l', 'w', 'm', 'c', 'L'].filter asked
    let g ← get
    let isInput := fun (path : String) => path == "-"
    -- a width is known beforehand for files only
    let sizes := (sources paths).filterMap fun path =>
      if isInput path then
        match (g.channel? 0).map Opened.channel with
        | some (.file at_ _) => some (some (Files.bytesAt g.disk at_).length)
        | _ => some none
      else
        match Files.find? g.disk path with
        | some (.file c) => some (some (charsOf c).length)
        | some _ => some none
        | none => none
    let total := (sizes.filterMap id).foldl (· + ·) 0
    let width := if columns.length = 1 && (sources paths).length = 1 then 1
      else max (toString total).length (if sizes.contains none then 7 else 1)
    let row := fun (c : Counts) (path : String) =>
      let numbers := columns.map fun k =>
        match k with
        | 'l' => c.lines
        | 'w' => c.words
        | 'L' => c.longest
        | _ => c.bytes
      let shown := numbers.map fun n => ({ width } : Layout).text (toString n)
      joinStrings " " shown ++ (if path.isEmpty then "" else " " ++ path) ++ "\n"
    let mut sum : Counts := {}
    let mut failed := false
    for path in sources paths do
      match ← contents path with
      | .ok cs =>
        let c := Counts.ofText cs
        sum := sum.add c
        say (row c (if paths.isEmpty then "" else path))
      | .error f =>
        report "wc" s!"{path}: {faultText f}"
        failed := true
        if f == .isDirectory then say (row {} path)
    if 1 < paths.length then say (row sum "total")
    return statusOf failed

/-- Numbers lines. -/
def nl : Tool := withOptions
  { name := "nl", letters := "b:n:w:s:v:i:"
    long := [("body-numbering", 'b'), ("number-format", 'n'), ("number-width", 'w'),
      ("number-separator", 's'), ("starting-line-number", 'v'), ("line-increment", 'i')] }
  fun given paths => do
    let (cs, failed) ← gathered (usual "nl") paths
    let style := (valueOf? given 'b').getD "t"
    let width := ((valueOf? given 'w').bind (·.toNat?)).getD 6
    let between := (valueOf? given 's').getD "\t"
    let form := (valueOf? given 'n').getD "rn"
    let step := ((valueOf? given 'i').bind (·.toNat?)).getD 1
    let layout : Layout := { width, left := form == "ln", zeros := form == "rz" }
    let mut number := ((valueOf? given 'v').bind (·.toNat?)).getD 1
    for l in linesOf cs do
      if style == "a" || (style == "t" && !l.isEmpty) then
        say (layout.whole "" (toString number) ++ between)
        number := number + step
      else say (String.ofList (List.replicate (width + between.length) ' '))
      sayLines [l]
    return statusOf failed

/-- Lines cut to a width. -/
def foldLine (width : Nat) (atBlanks : Bool) : (steps : Nat) → List Char → List (List Char)
  | 0, cs => [cs]
  | n + 1, cs =>
    if cs.length ≤ width then [cs]
    else
      let front := cs.take width
      let kept := front.reverse.dropWhile fun c => !(c == ' ' || c == '\t')
      let first := if atBlanks && !kept.isEmpty then kept.reverse else front
      first :: foldLine width atBlanks n (cs.drop first.length)

def fold : Tool := withOptions
  { name := "fold", letters := "w:sb", long := [("width", 'w'), ("spaces", 's'), ("bytes", 'b')] }
  fun given paths => do
    let width := max 1 (((valueOf? given 'w').bind (·.toNat?)).getD 80)
    let failed ← overFiles (usual "fold") (fun _ cs =>
      sayChars ((wholeLines cs).flatMap fun l =>
        let body := l.filter (· != '\n')
        joinWith ['\n'] (foldLine width (has given 's') (body.length + 1) body) ++
          l.filter (· == '\n'))) (sources paths)
    return statusOf failed

/-- The columns at which text goes on behind a tabulator. -/
structure TabStops where
  /-- Columns that are named one by one. -/
  named : List Nat := []
  /-- The distance of the others, zero for none. -/
  distance : Nat := 8

/-- The stops that a text names. -/
def TabStops.ofText? (text : String) : Option TabStops :=
  let numbers := (wordsOf (text.toList.map fun c => if c == ',' then ' ' else c)).map
    Number.digits?
  match numbers with
  | [some n] => if n = 0 then none else some { distance := n }
  | ns => if ns.isEmpty || ns.any (·.isNone) then none
    else some { named := ns.filterMap id, distance := 0 }

/-- The stop behind a column; none where text goes on after one blank. -/
def TabStops.next? (t : TabStops) (column : Nat) : Option Nat :=
  match t.named.find? (column < ·) with
  | some n => some n
  | none => if t.distance = 0 then none else some (column + (t.distance - column % t.distance))

/-- Tabulators as blanks; `first` tells to leave those behind other characters alone. -/
def expandTabs (t : TabStops) (first : Bool) : (open_ : Bool) → (column : Nat) → List Char →
    List Char
  | _, _, [] => []
  | open_, column, c :: cs =>
    if c == '\t' && (open_ || !first) then
      let next := (t.next? column).getD (column + 1)
      List.replicate (next - column) ' ' ++ expandTabs t first open_ next cs
    else
      c :: expandTabs t first (c == '\n' || (open_ && c == ' '))
        (if c == '\n' then 0 else column + 1) cs

/-- The options for stops, or the text that names none. -/
def tabStops (given : List Given) : Except String TabStops :=
  match valueOf? given 't' with
  | none => .ok {}
  | some text =>
    match TabStops.ofText? text with
    | some t => .ok t
    | none => .error text

/-- The fault in a text that should name stops. -/
def tabFault (text : String) : String :=
  if text == "0" then "tab size cannot be 0"
  else
    let rest := text.toList.dropWhile fun c => c.isDigit || c == ',' || c == ' '
    s!"tab size contains invalid character(s): '{String.ofList rest}'"

/-- Prints files with their tabulators as blanks. -/
def expand : Tool := withOptions
  { name := "expand", letters := "t:i", long := [("tabs", 't'), ("initial", 'i')] }
  fun given paths => do
    match tabStops given with
    | .error text =>
      report "expand" (tabFault text)
      return 1
    | .ok t =>
      let failed ← overFiles (usual "expand")
        (fun _ cs => sayChars (expandTabs t (has given 'i') true 0 cs)) (sources paths)
      return statusOf failed

/-- Blanks as tabulators where they reach a stop; `pending` are blanks that were passed since the
column `from_`. -/
def unexpandTabs (t : TabStops) (all : Bool) : (open_ : Bool) → (column : Nat) →
    (pending : List Char) → List Char → List Char
  | _, _, pending, [] => pending.reverse
  | open_, column, pending, c :: cs =>
    if open_ && (c == ' ' || c == '\t') then
      let next := if c == '\t' then (t.next? column).getD (column + 1) else column + 1
      match t.next? column with
      | some stop =>
        -- one blank alone before a stop stays a blank
        if stop = next && (c == '\t' || !pending.isEmpty || t.distance = 1) then
          '\t' :: unexpandTabs t all open_ next [] cs
        else if stop = next then
          match cs with
          | d :: _ =>
            if d == ' ' || d == '\t' then '\t' :: unexpandTabs t all open_ next [] cs
            else ' ' :: unexpandTabs t all open_ next [] cs
          | [] => [' ']
        else unexpandTabs t all open_ next (c :: pending) cs
      | none => pending.reverse ++ c :: unexpandTabs t all open_ next [] cs
    else
      pending.reverse ++ c :: unexpandTabs t all (c == '\n' || all)
        (if c == '\n' then 0 else column + 1) [] cs

/-- Prints files with blanks as tabulators: those at the beginning of lines, or all. -/
def unexpand : Tool := withOptions
  { name := "unexpand", letters := "at:f"
    long := [("all", 'a'), ("tabs", 't'), ("first-only", 'f')] } fun given paths => do
  match tabStops given with
  | .error text =>
    report "unexpand" (tabFault text)
    return 1
  | .ok t =>
    let all := (has given 'a' || has given 't') && !has given 'f'
    let failed ← overFiles (usual "unexpand")
      (fun _ cs => sayChars (unexpandTabs t all true 0 [] cs)) (sources paths)
    return statusOf failed

end Playbook.Shell.Tool
