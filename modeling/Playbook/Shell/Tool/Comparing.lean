/-
  Programs that tell in what files differ: by their bytes, or by their lines in several forms, and
  in what directories differ.
-/
import Playbook.Shell.Tool.Files
import Playbook.Shell.Tool.Difference

namespace Playbook.Shell.Tool

open Playbook.Text

/-- Reports a wrong use of a program that names itself again. -/
def misused (name what : String) : Run Nat := do
  report name what
  report name s!"Try '{name} --help' for more information."
  return 2

/-! ## Bytes -/

/-- A byte as it is shown: control characters behind a hat. -/
def visibleByte (c : Char) : String :=
  let n := c.toNat
  let low := if n < 128 then n else n - 128
  let shown := if low < 32 then ['^', Char.ofNat (low + 64)]
    else if low = 127 then ['^', '?']
    else [Char.ofNat low]
  String.ofList ((if n < 128 then [] else ['M', '-']) ++ shown)

/-- A byte in octal digits. -/
def octalByte (c : Char) : String :=
  Listing.rightward 3 (String.ofList (Nat.toDigits 8 c.toNat))

/-- The places where bytes differ, counted from one, as far as both texts go. -/
def differingBytes (as bs : List Char) : List (Nat × Char × Char) :=
  ((as.zip bs).zipIdx 1).filterMap fun ((a, b), i) => if a == b then none else some (i, a, b)

/-- A number of bytes to be left out of two files. -/
def skipsOf? (text : String) : Option (Nat × Nat) :=
  match (pieces ':' text.toList).map fun cs => size? (String.ofList cs) with
  | [some n] => some (n, n)
  | [some n, some m] => some (n, m)
  | _ => none

/-- Tells where the bytes of two files differ first. -/
def cmp : Tool := fun args =>
  let spec : Spec :=
    { name := "cmp", letters := "slbn:i:"
      long := [("silent", 's'), ("quiet", 's'), ("verbose", 'l'), ("print-bytes", 'b'),
        ("bytes", 'n'), ("ignore-initial", 'i')] }
  match spec.parse (args.length + 1) args with
  | .error what => misused "cmp" what
  | .ok (given, words) => do
    let silent := has given 's'
    let skips? : Option ((Nat × Nat) × String) := match valueOf? given 'i', words with
      | some text, _ => (skipsOf? text).map fun s => (s, text)
      | none, _ :: _ :: n :: more =>
        match size? n, (more.head?.map size?).getD (size? n) with
        | some n, some m => some ((n, m), "")
        | _, _ => none
      | none, _ => some ((0, 0), "")
    let limit? := match valueOf? given 'n' with
      | some text => (size? text).map some
      | none => some none
    match words, skips?, limit? with
    | [], _, _ => misused "cmp" "missing operand after 'cmp'"
    | _, none, _ =>
      let wrong := (words.drop 2).find? fun w => (size? w).isNone
      let text := (valueOf? given 'i').getD (wrong.getD "")
      misused "cmp" s!"invalid --ignore-initial value {quotedName text}"
    | _, _, none =>
      misused "cmp" ("invalid --bytes value " ++ quotedName ((valueOf? given 'n').getD ""))
    | a :: rest, some ((n, m), _), some limit =>
      if 3 < rest.length then
        misused "cmp" ("extra operand " ++ quotedName (rest.getD 3 ""))
      else
        let b := rest.headD "-"
        let fault := fun (path : String) (f : Fault) => do
          if !silent then report "cmp" s!"{path}: {faultText f}"
          return 2
        if a == b && n = m then
          match ← contents a with
          | .error f => fault a f
          | .ok _ => return 0
        else
          match ← contents a, ← contents b with
          | .error f, _ => fault a f
          | _, .error f => fault b f
          | .ok x, .ok y =>
            let cut := fun (cs : List Char) => match limit with
              | some k => cs.take k
              | none => cs
            compared given a b (cut (x.drop n)) (cut (y.drop m))
where
  /-- Tells where the bytes of two texts differ. -/
  compared (given : List Given) (a b : String) (x y : List Char) : Run Nat := do
    let silent := has given 's'
    let differing := differingBytes x y
    let ended := do
      if x.length != y.length && !silent then
        let (path, cs) := if x.length < y.length then (a, x) else (b, y)
        let line := cs.count '\n'
        report "cmp" (if cs.isEmpty then s!"EOF on {path} which is empty"
          else if has given 'l' then s!"EOF on {path} after byte {cs.length}"
          else if cs.getLast? == some '\n' then
            s!"EOF on {path} after byte {cs.length}, line {line}"
          else s!"EOF on {path} after byte {cs.length}, in line {line + 1}")
      return if x.length = y.length then 0 else 1
    match differing with
    | [] => ended
    | (i, c, d) :: _ =>
      if silent then return 1
      else if has given 'l' then
        let width := (toString (max x.length y.length)).length
        for (i, c, d) in differing do
          let shown := fun (c : Char) => octalByte c ++
            (if has given 'b' then " " ++ visibleByte c else "")
          let first := shown c
          let first := if has given 'b' then
              first ++ String.ofList (List.replicate (8 - first.length) ' ')
            else first
          say (Listing.rightward width (toString i) ++ " " ++ first ++ " " ++ shown d ++ "\n")
        let _ ← ended
        return 1
      else
        let line := (x.take (i - 1)).count '\n' + 1
        if has given 'b' then
          say (s!"{a} {b} differ: byte {i}, line {line} is " ++ octalByte c ++ " " ++
            visibleByte c ++ " " ++ octalByte d ++ " " ++ visibleByte d ++ "\n")
        else say s!"{a} {b} differ: char {i}, line {line}\n"
        return 1

/-! ## Lines -/

namespace Diff

/-- The form in which changes are shown. -/
inductive Form where
  | normal
  | unified (context : Nat)
  | around (context : Nat)
  | script
  | counted
  | beside
  | brief
  deriving Repr, DecidableEq

/-- How files are compared. -/
structure Options where
  form : Form := .normal
  ignoreCase : Bool := false
  /-- Whether all blanks count for nothing, runs of blanks for one, or those at the ends of lines
  for nothing. -/
  ignoreBlanks : Bool := false
  squeezeBlanks : Bool := false
  trimBlanks : Bool := false
  ignoreEmpty : Bool := false
  tellsSame : Bool := false
  recursive : Bool := false
  /-- Whether missing files stand for empty ones. -/
  newFiles : Bool := false
  width : Nat := 130
  onlyChanges : Bool := false
  labels : List String := []
  /-- The options as they were written. -/
  written : List String := []

/-- The line, with its line feed, as far as it counts. -/
def Options.key (o : Options) (l : List Char) : List Char :=
  let l := if o.ignoreCase then lowerAscii l else l
  if o.ignoreBlanks then l.filter (!Arithmetic.isSpace ·)
  else if o.squeezeBlanks then
    let words := wordsOf l
    let front := if (l.head?.map Arithmetic.isSpace).getD false && !words.isEmpty then [' '] else []
    front ++ joinWith [' '] words
  else if o.trimBlanks then dropRightWhile Arithmetic.isSpace l
  else l

/-- A line behind a mark; a line without an end is told. -/
def marked (mark : String) (l : List Char) : List Char :=
  mark.toList ++ l ++
    (if l.getLast? == some '\n' then [] else "\n\\ No newline at end of file\n".toList)

/-- Lines behind a mark. -/
def allMarked (mark : String) (ls : List (List Char)) : List Char := ls.flatMap (marked mark)

/-- A part of a list. -/
def part {α : Type} (xs : List α) (from_ count : Nat) : List α := (xs.drop from_).take count

/-- A range of lines: the first and the last one, or the line before an empty range. -/
def rangeText (from_ count : Nat) : String :=
  if count = 0 then toString from_
  else if count = 1 then toString (from_ + 1)
  else s!"{from_ + 1},{from_ + count}"

/-- A change in the plain form. -/
def normalText (as bs : List (List Char)) (c : Change) : List Char :=
  let letter := if c.removed = 0 then "a" else if c.added = 0 then "d" else "c"
  (rangeText c.first c.removed ++ letter ++ rangeText c.second c.added ++ "\n").toList ++
    allMarked "< " (part as c.first c.removed) ++
    (if c.removed != 0 && c.added != 0 then "---\n".toList else []) ++
    allMarked "> " (part bs c.second c.added)

/-- Changes in groups: those with few lines between them belong together. -/
def grouped (context : Nat) : List Change → List (List Change)
  | [] => []
  | c :: rest =>
    match grouped context rest with
    | (d :: ds) :: more =>
      if d.first - (c.first + c.removed) < 2 * context + 1 then (c :: d :: ds) :: more
      else [c] :: (d :: ds) :: more
    | more => [c] :: more

/-- The lines around a group: where they begin in both files, and how many there are. -/
structure Extent where
  first : Nat
  firstCount : Nat
  second : Nat
  secondCount : Nat

/-- The lines around a group of changes. -/
def extentOf (context : Nat) (as bs : List (List Char)) (group : List Change) : Extent :=
  let c := group.headD ⟨0, 0, 0, 0⟩
  let d := group.getLastD c
  let first := c.first - context
  let second := c.second - min context c.first
  let firstEnd := min as.length (d.first + d.removed + context)
  let secondEnd := min bs.length (d.second + d.added + context)
  ⟨first, firstEnd - first, second, secondEnd - second⟩

/-- The lines of a group with those around it. -/
def unifiedLines (as bs : List (List Char)) : (at_ last : Nat) → List Change → List Char
  | at_, last, [] => allMarked " " (part as at_ (last - at_))
  | at_, last, c :: rest =>
    allMarked " " (part as at_ (c.first - at_)) ++ allMarked "-" (part as c.first c.removed) ++
      allMarked "+" (part bs c.second c.added) ++ unifiedLines as bs (c.first + c.removed) last rest

/-- A range of lines with their number. -/
def countedRange (from_ count : Nat) : String :=
  if count = 1 then toString (from_ + 1)
  else s!"{if count = 0 then from_ else from_ + 1},{count}"

/-- A group of changes with the lines around it, in one. -/
def unifiedText (context : Nat) (as bs : List (List Char)) (group : List Change) : List Char :=
  let e := extentOf context as bs group
  let first := countedRange e.first e.firstCount
  let second := countedRange e.second e.secondCount
  s!"@@ -{first} +{second} @@\n".toList ++
    unifiedLines as bs e.first (e.first + e.firstCount) group

/-- The lines of one file in a group; `range` tells where a change is in it. -/
def sideLines (ls : List (List Char)) (mark : String) (range : Change → Nat × Nat)
    (isBoth : Change → Bool) : (at_ last : Nat) → List Change → List Char
  | at_, last, [] => allMarked "  " (part ls at_ (last - at_))
  | at_, last, c :: rest =>
    let (from_, count) := range c
    allMarked "  " (part ls at_ (from_ - at_)) ++
      allMarked (if isBoth c then "! " else mark) (part ls from_ count) ++
      sideLines ls mark range isBoth (from_ + count) last rest

/-- A group of changes with the lines around it, one file after the other. -/
def aroundText (context : Nat) (as bs : List (List Char)) (group : List Change) : List Char :=
  let e := extentOf context as bs group
  let isBoth := fun (c : Change) => c.removed != 0 && c.added != 0
  let range := fun (from_ count : Nat) =>
    if count ≤ 1 then toString (from_ + count) else s!"{from_ + 1},{from_ + count}"
  ("***************\n*** " ++ range e.first e.firstCount ++ " ****\n").toList ++
    (if group.any (·.removed != 0) then
      sideLines as "- " (fun c => (c.first, c.removed)) isBoth e.first
        (e.first + e.firstCount) group
    else []) ++
    ("--- " ++ range e.second e.secondCount ++ " ----\n").toList ++
    (if group.any (·.added != 0) then
      sideLines bs "+ " (fun c => (c.second, c.added)) isBoth e.second
        (e.second + e.secondCount) group
    else [])

/-- Lines in the form of an editor's script; a line that is a point alone ends the text and is made
up for. -/
def scriptLines (ls : List (List Char)) : List Char :=
  let point := ['.', '\n']
  let rec go : List (List Char) → List Char
    | [] => point
    | l :: rest =>
      if l == point then
        "..\n.\ns/.//\n".toList ++ (if rest.isEmpty then [] else "a\n".toList ++ go rest)
      else (if l.getLast? == some '\n' then l else l ++ ['\n']) ++ go rest
  go ls

/-- A change as commands of an editor. -/
def scriptText (bs : List (List Char)) (c : Change) : List Char :=
  let range := rangeText c.first c.removed
  if c.added = 0 then (range ++ "d\n").toList
  else
    (range ++ (if c.removed = 0 then "a" else "c") ++ "\n").toList ++
      scriptLines (part bs c.second c.added)

/-- A change as commands with numbers of lines. -/
def countedText (bs : List (List Char)) (c : Change) : List Char :=
  (if c.removed = 0 then [] else s!"d{c.first + 1} {c.removed}\n".toList) ++
    (if c.added = 0 then []
    else s!"a{c.first + c.removed} {c.added}\n".toList ++
      (part bs c.second c.added).flatten)

/-! ### Side by side -/

/-- Tabulators and blanks from one column to another. -/
def blanksTo : (steps : Nat) → (from_ last : Nat) → List Char
  | 0, _, _ => []
  | n + 1, from_, last =>
    if last ≤ from_ then []
    else
      let tab := from_ + (8 - from_ % 8)
      if tab ≤ last then '\t' :: blanksTo n tab last else ' ' :: blanksTo n (from_ + 1) last

/-- A half of a line, and the column behind it. -/
def half (width column : Nat) : (steps : Nat) → (at_ : Nat) → List Char → List Char × Nat
  | 0, at_, _ => ([], at_)
  | _, at_, [] => ([], at_)
  | n + 1, at_, c :: cs =>
    if c == '\n' then ([], at_)
    else if c == '\t' then
      let gap := 8 - at_ % 8
      if width ≤ at_ + gap then ([], at_)
      else
        let (more, last) := half width column n (at_ + gap) cs
        (blanksTo 80 (column + at_) (column + at_ + gap) ++ more, last)
    else if width ≤ at_ then ([], at_)
    else
      let (more, last) := half width column n (at_ + 1) cs
      (c :: more, last)

/-- Two lines beside each other with a sign between them. -/
def besideLine (width : Nat) (sign : Char) (left right : Option (List Char)) : List Char :=
  let column := (width + 11) / 16 * 8
  let halfWidth := min (column - 3) (width - column)
  let ended := fun (l : Option (List Char)) => (l.map (·.getLast? == some '\n')).getD false
  let (front, at_) := match left with
    | some l => half halfWidth 0 (l.length + 1) 0 l
    | none => ([], 0)
  let signAt := (halfWidth + column - 1) / 2
  let sign := if sign == '|' && ended left != ended right then (if ended left then '/' else '\\')
    else sign
  let (middle, at_) := if sign == ' ' then ([], at_)
    else (blanksTo 200 at_ signAt ++ [sign], signAt + 1)
  let back := match right with
    | some l =>
      if l == ['\n'] then []
      else blanksTo 200 at_ column ++ (half halfWidth column (l.length + 1) 0 l).1
    | none => []
  front ++ middle ++ back ++ (if ended left || ended right then ['\n'] else [])

/-- A change side by side. -/
def besideChange (width : Nat) (as bs : List (List Char)) (c : Change) : List Char :=
  let left := part as c.first c.removed
  let right := part bs c.second c.added
  ((left.zip right).flatMap fun (l, r) => besideLine width '|' (some l) (some r)) ++
    ((left.drop c.added).flatMap fun l => besideLine width '<' (some l) none) ++
    ((right.drop c.removed).flatMap fun r => besideLine width '>' none (some r))

/-- Two files side by side. -/
def besideLines (o : Options) (as bs : List (List Char)) : (i j : Nat) → List Change → List Char
  | i, j, [] => common i j (as.length - i)
  | i, j, c :: rest =>
    common i j (c.first - i) ++ besideChange o.width as bs c ++
      besideLines o as bs (c.first + c.removed) (c.second + c.added) rest
where
  /-- Lines that both files have. -/
  common (i j count : Nat) : List Char :=
    if o.onlyChanges then []
    else ((part as i count).zip (part bs j count)).flatMap fun (l, r) =>
      besideLine o.width ' ' (some l) (some r)

/-- All changes in the form that is asked for. -/
def changesText (o : Options) (as bs : List (List Char)) (changes : List Change) : List Char :=
  match o.form with
  | .normal => changes.flatMap (normalText as bs)
  | .unified n => (grouped n changes).flatMap (unifiedText n as bs)
  | .around n => (grouped n changes).flatMap (aroundText n as bs)
  | .script => changes.reverse.flatMap (scriptText bs)
  | .counted => changes.flatMap (countedText bs)
  | .beside => besideLines o as bs 0 0 changes
  | .brief => []

/-- The changes between two texts that are not ignored. -/
def changesOf (o : Options) (as bs : List (List Char)) : List Change :=
  let context := match o.form with
    | .unified n => n
    | .around n => n
    | _ => 0
  let all := Difference.changes o.key context as bs
  if !o.ignoreEmpty then all
  else all.filter fun c =>
    !((part as c.first c.removed ++ part bs c.second c.added).all (· == ['\n']))

/-- The heading of the forms that have one. -/
def heading (o : Options) (named : Nat → String × Int) : String :=
  let line := fun (mark : String) (i : Nat) =>
    let (path, time) := named i
    match o.labels[i]? with
    | some label => s!"{mark} {label}\n"
    | none =>
      let shown := momentText (time / 1000) "%F %T.%N %z".toList
      s!"{mark} {path}\t{shown}\n"
  match o.form with
  | .unified _ => line "---" 0 ++ line "+++" 1
  | .around _ => line "***" 0 ++ line "---" 1
  | _ => ""

/-- Compares two texts with their names and moments; the status. -/
def compareTexts (o : Options) (title : String) (a b : String × Int) (x y : List Char) :
    Run Nat := do
  let as := wholeLines x
  let bs := wholeLines y
  let same := do
    if o.tellsSame then say s!"Files {a.1} and {b.1} are identical\n"
    return 0
  if x == y then
    if o.form == .beside then sayChars (changesText o as bs [])
    same
  else if x.contains '\x00' || y.contains '\x00' then
    say ((if o.form == .brief then "Files " else "Binary files ") ++ s!"{a.1} and {b.1} differ\n")
    return 1
  else
    -- an editor's script has no words for a line without an end
    let open_ := if o.form != .script then []
      else [(a.1, x), (b.1, y)].filter fun (_, cs) => !(cs.isEmpty || cs.getLast? == some '\n')
    for (path, _) in open_ do
      report "diff" s!"{path}: No newline at end of file\n"
    let whole := fun (cs : List Char) =>
      if open_.isEmpty || cs.isEmpty || cs.getLast? == some '\n' then cs else cs ++ ['\n']
    let as := wholeLines (whole x)
    let bs := wholeLines (whole y)
    let changes := changesOf o as bs
    if !open_.isEmpty then
      sayChars (changesText o as bs changes)
      return 2
    else if changes.isEmpty then
      if o.form == .beside then sayChars (changesText o as bs [])
      same
    else if o.form == .brief then
      say s!"Files {a.1} and {b.1} differ\n"
      return 1
    else
      say (title ++ heading o (fun i => if i = 0 then a else b))
      sayChars (changesText o as bs changes)
      return 1

/-- What is at a path: its bytes with its moment, a directory, or nothing. -/
inductive Side where
  | file (cs : List Char) (time : Int)
  | directory (at_ : Place)
  | missing (f : Fault)

/-- What is at a path. -/
def sideOf (path : String) : Run Side := do
  let g ← get
  if path == "-" then return .file (← input) g.now
  match Files.locate g.disk path with
  | .error f => return .missing f
  | .ok at_ =>
    match g.disk.node? at_ with
    | some .directory => return .directory at_
    | none =>
      match ← contents path with
      | .ok cs => return .file cs g.now
      | .error f => return .missing f
    | some _ => return .file (Files.bytesAt g.disk at_) (Files.time g.disk at_)

/-- Compares what is at two paths; `titled` tells whether that is part of comparing
directories. -/
def comparePaths (o : Options) : (steps : Nat) → (titled : Bool) → (a b : String) → Run Nat
  | 0, _, _, _ => return 2
  | n + 1, titled, a, b => do
    let title := if titled then
        joinStrings " " ("diff" :: o.written ++ [a, b]) ++ "\n"
      else ""
    let refuse := fun (path : String) (f : Fault) => do
      report "diff" s!"{path}: {faultText f}"
      return 2
    match ← sideOf a, ← sideOf b with
    | .missing f, .missing g =>
      let _ ← refuse a f
      refuse b g
    | .missing f, .file cs t =>
      if o.newFiles && f == .noEntry then compareTexts o title (a, 0) (b, t) [] cs
      else refuse a f
    | .file cs t, .missing f =>
      if o.newFiles && f == .noEntry then compareTexts o title (a, t) (b, 0) cs []
      else refuse b f
    | .missing f, _ => refuse a f
    | _, .missing f => refuse b f
    | .file x s, .file y t =>
      if a == b then
        if o.tellsSame then say s!"Files {a} and {b} are identical\n"
        return 0
      else compareTexts o title (a, s) (b, t) x y
    | .directory _, .file _ _ =>
      if titled then
        say s!"File {a} is a directory while file {b} is a regular file\n"
        return 1
      else comparePaths o n false (below a (lastSegment b)) b
    | .file _ _, .directory _ =>
      if titled then
        say s!"File {a} is a regular file while file {b} is a directory\n"
        return 1
      else comparePaths o n false a (below b (lastSegment a))
    | .directory p, .directory q =>
      if titled && !o.recursive then
        say s!"Common subdirectories: {a} and {b}\n"
        return 0
      else
        let d := (← get).disk
        let (xs, ys) := ((d.children p).map inward, (d.children q).map inward)
        let names := ((xs ++ ys).eraseDups).mergeSort fun x y => x ≤ y
        let mut status := 0
        for name in names do
          let inBoth := xs.contains name && ys.contains name
          let isDirectory := d.node? ((if xs.contains name then p else q) ++ [outward name]) ==
            some .directory
          let one ← if inBoth || (o.newFiles && !isDirectory) then
              comparePaths o n true (below a name) (below b name)
            else do
              say s!"Only in {if xs.contains name then a else b}: {name}\n"
              pure 1
          status := max status one
        return status

/-- The options of the program. -/
def spec : Spec :=
  { name := "diff", letters := "uU:cC:enqsiwbBZErNatyW:ldpTx:I:L:KQ:"
    long := [("unified", 'u'), ("context", 'c'), ("ed", 'e'), ("rcs", 'n'), ("brief", 'q'),
      ("report-identical-files", 's'), ("ignore-case", 'i'), ("ignore-all-space", 'w'),
      ("ignore-space-change", 'b'), ("ignore-blank-lines", 'B'), ("ignore-trailing-space", 'Z'),
      ("recursive", 'r'), ("new-file", 'N'), ("text", 'a'), ("expand-tabs", 't'),
      ("side-by-side", 'y'), ("width", 'W'), ("minimal", 'd'), ("label", 'L'),
      ("suppress-common-lines", 'K'), ("color", 'Q')] }

/-- The form that an option asks for. -/
def formOf? (g : Given) : Option Form :=
  let count := (Number.digits? g.value.toList).getD 3
  match g.letter with
  | 'u' | 'U' => some (.unified count)
  | 'c' | 'C' => some (.around count)
  | 'e' => some .script
  | 'n' => some .counted
  | 'y' => some .beside
  | 'q' => some .brief
  | _ => none

/-- What the options ask for. -/
def optionsOf (given : List Given) (written : List String) : Options :=
  { form := ((given.filterMap formOf?).getLast?).getD .normal
    ignoreCase := has given 'i'
    ignoreBlanks := has given 'w'
    squeezeBlanks := has given 'b'
    trimBlanks := has given 'Z'
    ignoreEmpty := has given 'B'
    tellsSame := has given 's'
    recursive := has given 'r'
    newFiles := has given 'N'
    width := ((valueOf? given 'W').bind fun w => Number.digits? w.toList).getD 130
    onlyChanges := has given 'K'
    labels := given.filterMap fun g => if g.letter == 'L' then some g.value else none
    written }

end Diff

open Diff in
/-- Tells in what lines files differ, and in what files directories differ. -/
def diff : Tool := fun args =>
  match Diff.spec.parse (args.length + 1) args with
  | .error what => misused "diff" what
  | .ok (given, words) =>
    let written := args.filter fun w => w.startsWith "-" && 1 < w.length
    match words with
    | [a, b] => comparePaths (optionsOf given written) 64 false a b
    | [] => misused "diff" "missing operand after 'diff'"
    | [a] => misused "diff" s!"missing operand after {quotedName a}"
    | _ :: _ :: c :: _ => misused "diff" s!"extra operand {quotedName c}"

end Playbook.Shell.Tool
