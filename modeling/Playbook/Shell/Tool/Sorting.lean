/-
  Programs that put lines in order and compare neighbours.
-/
import Playbook.Shell.Tool.Basic
import Playbook.Shell.Printing

namespace Playbook.Shell.Tool

open Playbook.Text Playbook.Number

/-! ## Keys -/

/-- How parts of lines are compared. -/
structure Comparing where
  blanks : Bool := false
  dictionary : Bool := false
  fold : Bool := false
  general : Bool := false
  human : Bool := false
  month : Bool := false
  numeric : Bool := false
  reversed : Bool := false
  version : Bool := false
  deriving DecidableEq

/-- A part of a line: a field and a character to begin with, and to end with. -/
structure Key where
  field : Nat
  char : Nat := 0
  /-- Whether blanks in front of the beginning are left out. -/
  startBlanks : Bool := false
  endField : Option Nat := none
  endChar : Nat := 0
  endBlanks : Bool := false
  comparing : Comparing := {}

/-- How a way to compare is changed by a letter. -/
def Comparing.with? (c : Comparing) (letter : Char) : Option Comparing :=
  match letter with
  | 'b' => some { c with blanks := true }
  | 'd' => some { c with dictionary := true }
  | 'f' => some { c with fold := true }
  | 'g' => some { c with general := true }
  | 'h' => some { c with human := true }
  | 'M' => some { c with month := true }
  | 'n' => some { c with numeric := true }
  | 'r' => some { c with reversed := true }
  | 'V' => some { c with version := true }
  | 'i' => some c
  | _ => none

/-- A number and the letters behind it. -/
def fieldPlace (cs : List Char) : Option (Nat × Nat × List Char) :=
  let ds := cs.takeWhile Char.isDigit
  match Number.digits? ds, cs.drop ds.length with
  | some f, '.' :: rest =>
    let es := rest.takeWhile Char.isDigit
    (Number.digits? es).map fun c => (f, c, rest.drop es.length)
  | some f, rest => some (f, 0, rest)
  | none, _ => none

/-- The key that a text describes, or what is wrong with it. -/
def Key.ofText (text : String) : Except String Key := do
  let faulty := fun (what : String) => s!"{what}: invalid field specification '{text}'"
  let (front, behind) := match splitOnce ',' text.toList with
    | some (a, b) => (a, some b)
    | none => (text.toList, none)
  let some (field, char, letters) := fieldPlace front
    | throw s!"invalid number at field start: invalid count at start of '{text}'"
  if field = 0 then throw (faulty "field number is zero")
  let some comparing := letters.foldlM Comparing.with? ({} : Comparing)
    | throw (faulty "stray character in field spec")
  let key : Key := { field, char := char - 1, startBlanks := letters.contains 'b', comparing }
  match behind with
  | none => return key
  | some cs =>
    let some (endField, endChar, letters) := fieldPlace cs
      | throw s!"invalid number after ',': invalid count at start of '{String.ofList cs}'"
    if endField = 0 then throw (faulty "field number is zero")
    let some comparing := letters.foldlM Comparing.with? comparing
      | throw (faulty "stray character in field spec")
    return { key with
      endField := some endField
      endChar
      endBlanks := letters.contains 'b'
      comparing }

def isGap (c : Char) : Bool := c == ' ' || c == '\t'

/-- The place behind so many fields of a line; `place` is where the rest begins. -/
def skipFields (separator : Option Char) : (count place : Nat) → List Char → Nat × List Char
  | 0, place, cs => (place, cs)
  | n + 1, place, cs =>
    match separator with
    | some d =>
      let field := cs.takeWhile (· != d)
      match cs.drop field.length with
      | [] => (place + field.length, [])
      | _ :: rest => skipFields separator n (place + field.length + 1) rest
    | none =>
      let gap := cs.takeWhile isGap
      let word := (cs.drop gap.length).takeWhile (!isGap ·)
      let size := gap.length + word.length
      skipFields separator n (place + size) (cs.drop size)

/-- The part of a line that a key is. -/
def Key.part (k : Key) (separator : Option Char) (line : List Char) : List Char :=
  let (start, rest) := skipFields separator (k.field - 1) 0 line
  let skipped := if k.startBlanks then (rest.takeWhile isGap).length else 0
  let first := min line.length (start + skipped + k.char)
  let past := match k.endField with
    | none => line.length
    | some f =>
      if k.endChar = 0 then
        let (place, rest) := skipFields separator f 0 line
        -- the separator behind the last field does not belong to it
        if separator.isSome && (!rest.isEmpty || line.getLast? == separator) &&
            (pieces (separator.getD ' ') line).length > f then place - 1
        else place
      else
        let (place, rest) := skipFields separator (f - 1) 0 line
        let skipped := if k.endBlanks then (rest.takeWhile isGap).length else 0
        min line.length (place + skipped + k.endChar)
  (line.take past).drop first

/-! ## Orders -/

/-- The whole part and the places of the number in front of a text, and whether it is negative. -/
def leadingDecimal (cs : List Char) : Bool × List Char × List Char :=
  let cs := cs.dropWhile isGap
  let (negative, cs) := match cs with
    | '-' :: rest => (true, rest)
    | _ => (false, cs)
  let whole := cs.takeWhile Char.isDigit
  let places := match cs.drop whole.length with
    | '.' :: rest => rest.takeWhile Char.isDigit
    | _ => []
  (negative, whole.dropWhile (· == '0'), dropRightWhile (· == '0') places)

/-- The order of two numbers in front of texts. -/
def compareNumbers (a b : List Char) : Ordering :=
  let (na, wa, pa) := leadingDecimal a
  let (nb, wb, pb) := leadingDecimal b
  let zeroA := wa.isEmpty && pa.isEmpty
  let zeroB := wb.isEmpty && pb.isEmpty
  let sizes := ((compare wa.length wb.length).then
    (compare (String.ofList wa) (String.ofList wb))).then
      (compare (String.ofList pa) (String.ofList pb))
  match na && !zeroA, nb && !zeroB with
  | true, true => sizes.swap
  | true, false => .lt
  | false, true => .gt
  | false, false => sizes

/-- The power of a unit behind a number. -/
def unitPower (cs : List Char) : Nat :=
  let rest := ((cs.dropWhile isGap).dropWhile (· == '-')).dropWhile fun c => c.isDigit || c == '.'
  match rest.head? with
  | some 'k' | some 'K' => 1
  | some 'M' => 2
  | some 'G' => 3
  | some 'T' => 4
  | some 'P' => 5
  | some 'E' => 6
  | _ => 0

/-- The number of a month. -/
def monthNumber (cs : List Char) : Nat :=
  let name := onString upperAscii (String.ofList ((cs.dropWhile isGap).take 3))
  (["JAN", "FEB", "MAR", "APR", "MAY", "JUN", "JUL", "AUG", "SEP", "OCT", "NOV",
    "DEC"].idxOf? name).elim 0 (· + 1)

/-- The number in front of a text; what is no number comes first. -/
def generalNumber (cs : List Char) : Option Binary64 :=
  let cs := cs.dropWhile Arithmetic.isSpace
  let sizes := (List.range (cs.length + 1)).reverse
  sizes.findSome? fun k => Binary64.ofText? (cs.take k)

/-- The place of a character among those of a version that are no digits. -/
def versionRank (c : Char) : Nat :=
  if c == '~' then 0 else if c.isAlpha then 2 + c.toNat else 300 + c.toNat

/-- The order of two versions: numbers in them by their sizes. -/
def compareVersions : (steps : Nat) → List Char → List Char → Ordering
  | 0, _, _ => .eq
  | n + 1, a, b =>
    let wordA := a.takeWhile (!Char.isDigit ·)
    let wordB := b.takeWhile (!Char.isDigit ·)
    let ranks := fun (cs : List Char) => cs.map versionRank ++ [1]
    match compare (ranks wordA) (ranks wordB) with
    | .eq =>
      let restA := a.drop wordA.length
      let restB := b.drop wordB.length
      let digitsA := restA.takeWhile Char.isDigit
      let digitsB := restB.takeWhile Char.isDigit
      match compare ((Number.digits? digitsA).getD 0) ((Number.digits? digitsB).getD 0) with
      | .eq =>
        if restA.isEmpty && restB.isEmpty then .eq
        else compareVersions n (restA.drop digitsA.length) (restB.drop digitsB.length)
      | o => o
    | o => o

/-- The order of two parts of lines. -/
def Comparing.order (c : Comparing) (a b : List Char) : Ordering :=
  let chars := fun (cs : List Char) =>
    let kept := if c.dictionary then cs.filter fun d => d.isAlphanum || isGap d else cs
    String.ofList (if c.fold then upperAscii kept else kept)
  let o :=
    if c.numeric then compareNumbers a b
    else if c.general then
      match generalNumber a, generalNumber b with
      | none, none => .eq
      | none, some _ => .lt
      | some _, none => .gt
      | some x, some y => (Binary64.compare? x y).getD .eq
    else if c.human then
      let negative := (leadingDecimal a).1
      let powers := compare (unitPower a) (unitPower b)
      (if negative then powers.swap else powers).then (compareNumbers a b)
    else if c.month then compare (monthNumber a) (monthNumber b)
    else if c.version then compareVersions (a.length + b.length + 2) a b
    else compare (chars a) (chars b)
  if c.reversed then o.swap else o

/-- How lines are put in order. -/
structure Sorting where
  keys : List Key := []
  separator : Option Char := none
  comparing : Comparing := {}
  /-- Whether lines with equal keys keep their order. -/
  stable : Bool := false

/-- The order of the keys of two lines. -/
def Sorting.keyOrder (s : Sorting) (a b : List Char) : Ordering :=
  if s.keys.isEmpty then
    let c := s.comparing
    let part := fun (cs : List Char) => if c.blanks then cs.dropWhile isGap else cs
    c.order (part a) (part b)
  else
    s.keys.foldl (fun o k =>
      o.then ((if k.comparing == {} && !k.startBlanks && !k.endBlanks then
          { k with
            comparing := s.comparing
            startBlanks := s.comparing.blanks
            endBlanks := s.comparing.blanks }
        else k) |> fun k =>
          k.comparing.order (k.part s.separator a) (k.part s.separator b))) .eq

/-- The order of two lines: lines with equal keys by all their bytes. -/
def Sorting.order (s : Sorting) (a b : List Char) : Ordering :=
  (s.keyOrder a b).then
    (if s.stable then .eq
    else
      let o := compare (String.ofList a) (String.ofList b)
      if s.comparing.reversed then o.swap else o)

/-- The first of neighbours that are equal. -/
def firstOfEqual (same : List Char → List Char → Bool) : List (List Char) → List (List Char)
  | a :: b :: rest =>
    if same a b then firstOfEqual same (a :: rest) else a :: firstOfEqual same (b :: rest)
  | ls => ls

/-- Puts lines in order. -/
def sort : Tool := withOptions
  { name := "sort", letters := "bdfghiMnrVcCk:o:st:uzmS:T:", status := 2
    long := [("ignore-leading-blanks", 'b'), ("dictionary-order", 'd'), ("ignore-case", 'f'),
      ("general-numeric-sort", 'g'), ("human-numeric-sort", 'h'), ("month-sort", 'M'),
      ("numeric-sort", 'n'), ("reverse", 'r'), ("version-sort", 'V'), ("check", 'c'), ("key", 'k'),
      ("output", 'o'), ("stable", 's'), ("field-separator", 't'), ("unique", 'u'),
      ("merge", 'm'), ("zero-terminated", 'z')] }
  fun given paths => do
    let comparing := given.foldl (fun (c : Comparing) g =>
      if g.letter == 'i' then c else (c.with? g.letter).getD c) {}
    let mut keys : List Key := []
    for g in given do
      if g.letter == 'k' then
        match Key.ofText g.value with
        | .ok k => keys := k :: keys
        | .error what =>
          report "sort" what
          return 2
    let separator ← match valueOf? given 't' with
      | none => pure (some none)
      | some "" =>
        report "sort" "empty tab"
        pure none
      | some text =>
        if text.length = 1 then pure (some text.toList.head?)
        else if text == "\\0" then pure (some (some '\x00'))
        else
          report "sort" s!"multi-character tab '{text}'"
          pure none
    match separator with
    | none => return 2
    | some separator =>
      let s : Sorting := {
        keys := keys.reverse
        separator
        comparing
        stable := has given 's' || has given 'u' }
      let ending := if has given 'z' then '\x00' else '\n'
      let (parts, failed) ← gatheredParts
        (fun path f =>
          if f == .isDirectory then s!"sort: read failed: {path}: {faultText f}"
          else s!"sort: cannot read: {path}: {faultText f}") paths
      if failed then return 2
      let ls := parts.flatMap (recordsOf ending)
      if has given 'c' || has given 'C' then
        let pairs := (ls.zip ls.tail).zipIdx 2
        let wrong := pairs.find? fun ((a, b), _) =>
          match s.order a b with
          | .gt => true
          | .eq => has given 'u'
          | .lt => false
        match wrong with
        | none => return 0
        | some ((_, b), i) =>
          if has given 'c' then
            report "sort" (paths.headD "-" ++ s!":{i}: disorder: {String.ofList b}")
          return 1
      let sorted := ls.mergeSort fun a b => s.order a b != .gt
      let kept := if has given 'u' then firstOfEqual (fun a b => s.keyOrder a b == .eq) sorted
        else sorted
      let text := kept.flatMap (· ++ [ending])
      match valueOf? given 'o' with
      | none =>
        sayChars text
        return 0
      | some path =>
        match openFile (← get) .write path with
        | .error f =>
          report "sort" s!"open failed: {path}: {faultText f}"
          return 2
        | .ok (g, i) =>
          set { g with machine := g.machine.withStream 9 i }
          modify (·.writeTo 9 (String.ofList text))
          modify fun g' => { g' with machine := { g'.machine with streams := g.machine.streams } }
          return 0

/-! ## Neighbours -/

/-- Runs of neighbouring lines that are the same. -/
def runs (same : List Char → List Char → Bool) : List (List Char) → List (List (List Char))
  | [] => []
  | l :: rest =>
    match runs same rest with
    | (m :: ms) :: more => if same l m then (l :: m :: ms) :: more else [l] :: (m :: ms) :: more
    | _ => [[l]]

/-- Neighbouring lines that are the same, as one. -/
def uniq : Tool := withOptions
  { name := "uniq", letters := "cdDuif:s:w:z"
    long := [("count", 'c'), ("repeated", 'd'), ("unique", 'u'), ("ignore-case", 'i'),
      ("skip-fields", 'f'), ("skip-chars", 's'), ("check-chars", 'w')] }
  fun given paths => do
    let number := fun (c : Char) => (valueOf? given c).bind fun (v : String) => v.toNat?
    let part := fun (l : List Char) =>
      let rest := (skipFields none ((number 'f').getD 0) 0 l).2
      let rest := rest.drop ((number 's').getD 0)
      let rest := match number 'w' with
        | some n => rest.take n
        | none => rest
      if has given 'i' then lowerAscii rest else rest
    match ← contents (paths.headD "-") with
    | .error f =>
      report "uniq" (paths.headD "" ++ ": " ++ faultText f)
      return 1
    | .ok cs =>
      let shown := (runs (fun a b => part a == part b) (linesOf cs)).flatMap fun run =>
        let first := run.headD []
        if has given 'D' then (if 1 < run.length then run else [])
        else if has given 'd' && run.length = 1 then []
        else if has given 'u' && 1 < run.length then []
        else if has given 'c' then
          [(({ width := 7 } : Layout).text (toString run.length) ++ " ").toList ++ first]
        else [first]
      match paths.tail with
      | [] =>
        sayLines shown
        return 0
      | path :: _ =>
        match openFile (← get) .write path with
        | .error f =>
          report "uniq" s!"{path}: {faultText f}"
          return 1
        | .ok (g, i) =>
          set { g with machine := g.machine.withStream 9 i }
          modify (·.writeTo 9 (String.ofList (shown.flatMap (· ++ ['\n']))))
          modify fun g' => { g' with machine := { g'.machine with streams := g.machine.streams } }
          return 0

/-- The lines of two files in order: what only the first has, only the second, and both. -/
def merged : (steps : Nat) → List (List Char) → List (List Char) → List (Nat × List Char)
  | 0, _, _ => []
  | _, as, [] => as.map fun a => (1, a)
  | _, [], bs => bs.map fun b => (2, b)
  | n + 1, a :: as, b :: bs =>
    match compare (String.ofList a) (String.ofList b) with
    | .lt => (1, a) :: merged n as (b :: bs)
    | .gt => (2, b) :: merged n (a :: as) bs
    | .eq => (3, a) :: merged n as bs

/-- Whether lines are in order. -/
def inOrder (ls : List (List Char)) : Bool :=
  (ls.zip ls.tail).all fun (a, b) => compare (String.ofList a) (String.ofList b) != .gt

/-- The number of lines before the first one that comes too late. -/
def orderedCount (ls : List (List Char)) : Option Nat :=
  ((ls.zip ls.tail).zipIdx 1).findSome? fun ((a, b), i) =>
    if compare (String.ofList a) (String.ofList b) == .gt then some i else none

/-- What is found before a line that comes too late is read, and the file that has it. -/
def beforeDisorder (first second : Option Nat) : (i j : Nat) → List (Nat × List Char) →
    List (Nat × List Char) × Option Nat
  | i, j, found =>
    if first == some i then ([], some 1)
    else if second == some j then ([], some 2)
    else
      match found with
      | [] => ([], none)
      | (k, l) :: rest =>
        let (more, wrong) := beforeDisorder first second (if k = 2 then i else i + 1)
          (if k = 1 then j else j + 1) rest
        ((k, l) :: more, wrong)

/-- Compares two files that are in order, line by line. -/
def comm : Tool := withOptions
  { name := "comm", letters := "123zncto:"
    long := [("check-order", 'c'), ("nocheck-order", 'n'), ("output-delimiter", 'o'),
      ("total", 't'), ("zero-terminated", 'z')] } fun given paths => do
  match paths with
  | [a, b] =>
    match ← contents a, ← contents b with
    | .ok x, .ok y =>
      let shownIn := fun (k : Nat) => !has given (Char.ofNat ('0'.toNat + k))
      let between := ((valueOf? given 'o').getD "\t").toList
      let tabs := fun (k : Nat) =>
        ((List.range (k - 1)).filter fun i => shownIn (i + 1)).flatMap fun _ => between
      let ending := if has given 'z' then '\x00' else '\n'
      let (as, bs) := (recordsOf ending x, recordsOf ending y)
      let all := merged (as.length + bs.length + 1) as bs
      let sayFound := fun (found : List (Nat × List Char)) =>
        sayChars (found.flatMap fun (k, l) => if shownIn k then tabs k ++ l ++ [ending] else [])
      if has given 'c' then
        match beforeDisorder (orderedCount as) (orderedCount bs) 0 0 all with
        | (found, some k) =>
          sayFound found
          report "comm" s!"file {k} is not in sorted order"
          return 1
        | (_, none) => pure ()
      sayFound all
      if has given 't' then
        let count := fun (k : Nat) => toString (all.filter fun e => e.1 = k).length
        let between := String.ofList between
        say (joinStrings between [count 1, count 2, count 3, "total"] ++ String.singleton ending)
      -- order matters only if something is found in one file alone
      let looked := !has given 'n' && all.any fun e => e.1 != 3
      let wrong := [(1, as), (2, bs)].filter fun (_, ls) => looked && !inOrder ls
      for (k, _) in wrong do
        report "comm" s!"file {k} is not in sorted order"
      if !wrong.isEmpty then report "comm" "input is not in sorted order"
      return statusOf (!wrong.isEmpty)
    | .error f, _ =>
      report "comm" s!"{a}: {faultText f}"
      return 1
    | _, .error f =>
      report "comm" s!"{b}: {faultText f}"
      return 1
  | [] => misuse "comm" "missing operand"
  | [a] => misuse "comm" s!"missing operand after '{a}'"
  | _ :: _ :: c :: _ => misuse "comm" s!"extra operand '{c}'"

/-- A field that a list of output fields names: of the file of its number, or the one that is
compared. -/
inductive Column where
  | shared
  | ofFile (file field : Nat)

/-- The field that a text names. -/
def Column.ofText? (text : List Char) : Option Column :=
  match text with
  | ['0'] => some .shared
  | f :: '.' :: ds =>
    match f, Number.digits? ds with
    | '1', some n => if n = 0 then none else some (.ofFile 1 (n - 1))
    | '2', some n => if n = 0 then none else some (.ofFile 2 (n - 1))
    | _, _ => none
  | _ => none

/-- How two files are joined. -/
structure Joining where
  separator : Option Char := none
  ignoreCase : Bool := false
  /-- The places of the fields that are compared. -/
  first : Nat := 0
  second : Nat := 0
  /-- Whether what both have is shown, and the files of which lines without a partner are. -/
  pairs : Bool := true
  alone : List Nat := []
  /-- What stands for a field that is missing. -/
  filler : List Char := []
  columns : Option (List Column) := none

namespace Joining

/-- The fields of a line. -/
def fields (j : Joining) (l : List Char) : List (List Char) :=
  match j.separator with
  | some d => pieces d l
  | none => wordsOf l

/-- The field that is compared. -/
def key (j : Joining) (place : Nat) (fs : List (List Char)) : List Char :=
  let k := fs.getD place []
  if j.ignoreCase then lowerAscii k else k

/-- The line for fields of both files, of which one may be missing. -/
def out (j : Joining) (a b : Option (List (List Char))) : List Char :=
  let shared := match a, b with
    | some fs, _ => fs.getD j.first []
    | none, some fs => fs.getD j.second []
    | none, none => []
  let filled := fun (f : List Char) => if f.isEmpty then j.filler else f
  let all := match j.columns with
    | some columns => columns.map fun c =>
      match c with
      | .shared => filled shared
      | .ofFile n field => filled (((if n = 1 then a else b).getD []).getD field [])
    | none =>
      filled shared :: (((a.map (·.eraseIdx j.first)).getD []).map filled ++
        ((b.map (·.eraseIdx j.second)).getD []).map filled)
  joinWith [j.separator.getD ' '] all

/-- The lines of two files, in the order of their keys. -/
def merge (j : Joining) : (steps : Nat) → (as bs : List (List (List Char))) → List (List Char)
  | 0, _, _ => []
  | _, [], bs => if j.alone.contains 2 then bs.map fun b => j.out none (some b) else []
  | _, as, [] => if j.alone.contains 1 then as.map fun a => j.out (some a) none else []
  | n + 1, a :: as, b :: bs =>
    let ka := j.key j.first a
    let kb := j.key j.second b
    match compare (String.ofList ka) (String.ofList kb) with
    | .lt => (if j.alone.contains 1 then [j.out (some a) none] else []) ++ j.merge n as (b :: bs)
    | .gt => (if j.alone.contains 2 then [j.out none (some b)] else []) ++ j.merge n (a :: as) bs
    | .eq =>
      let sameA := a :: as.takeWhile fun x => j.key j.first x == ka
      let sameB := b :: bs.takeWhile fun x => j.key j.second x == kb
      let shown := if j.pairs then
          sameA.flatMap fun x => sameB.map fun y => j.out (some x) (some y)
        else []
      shown ++ j.merge n (as.drop (sameA.length - 1)) (bs.drop (sameB.length - 1))

/-- The first line of a file that comes too late, with its number. -/
def disorder? (j : Joining) (place : Nat) (ls : List (List Char)) : Option (Nat × List Char) :=
  let keyed := fun (l : List Char) => String.ofList (j.key place (j.fields l))
  ((ls.zip ls.tail).zipIdx 2).findSome? fun ((a, b), i) =>
    if compare (keyed a) (keyed b) == .gt then some (i, b) else none

end Joining

/-- Joins the lines of two files that have the same field. -/
def join : Tool := withOptions
  { name := "join", letters := "t:1:2:j:a:v:ie:o:nczh"
    long := [("ignore-case", 'i'), ("check-order", 'c'), ("nocheck-order", 'n'),
      ("header", 'h')] } fun given paths => do
  match paths with
  | [a, b] =>
    match ← contents a, ← contents b with
    | .ok x, .ok y =>
      let place := fun (c : Char) =>
        (((valueOf? given c).or (valueOf? given 'j')).bind fun (v : String) => v.toNat?).getD 1 - 1
      let numbered := fun (letters : List Char) => given.filterMap fun g =>
        if letters.contains g.letter then g.value.toNat? else none
      let names := (valueOf? given 'o').map fun text =>
        wordsOf (text.toList.map fun c => if c == ',' then ' ' else c)
      let wrong := (names.getD []).find? fun name => (Column.ofText? name).isNone
      match wrong with
      | some name =>
        if names == some ["auto".toList] then pure ()
        else
          let isFile := (name.head?.map "012".toList.contains).getD false
          let what := if isFile then "field specifier" else "file number in field spec"
          report "join" s!"invalid {what}: '{String.ofList name}'"
          return 1
      | none => pure ()
      let j : Joining := {
        separator := (valueOf? given 't').bind fun t => t.toList.head?
        ignoreCase := has given 'i'
        first := place '1'
        second := place '2'
        pairs := !has given 'v'
        alone := numbered ['a', 'v']
        filler := ((valueOf? given 'e').getD "").toList
        columns := if names == some ["auto".toList] then none
          else names.map (·.filterMap Column.ofText?) }
      let (as, bs) := (linesOf x, linesOf y)
      let steps := as.length + bs.length + 1
      let (fa, fb) := (as.map j.fields, bs.map j.fields)
      if has given 'h' then
        match fa, fb with
        | p :: ps, q :: qs =>
          sayLines (j.out (some p) (some q) :: j.merge steps ps qs)
        | _, _ => pure ()
        return 0
      else
        sayLines (j.merge steps fa fb)
        let unpaired := has given 'c' ||
          (fa.any fun p => !(fb.any fun q => j.key j.first p == j.key j.second q)) ||
          (fb.any fun q => !(fa.any fun p => j.key j.first p == j.key j.second q))
        let found := [(a, j.disorder? j.first as), (b, j.disorder? j.second bs)].filterMap
          fun (path, w) => w.map fun (i, l) => (path, i, l)
        if !has given 'n' && unpaired && !found.isEmpty then
          for (path, i, l) in found do
            report "join" s!"{path}:{i}: is not sorted: {String.ofList l}"
          report "join" "input is not in sorted order"
          return 1
        return 0
    | .error f, _ =>
      report "join" s!"{a}: {faultText f}"
      return 1
    | _, .error f =>
      report "join" s!"{b}: {faultText f}"
      return 1
  | [] => misuse "join" "missing operand"
  | [a] => misuse "join" s!"missing operand after '{a}'"
  | _ :: _ :: c :: _ => misuse "join" s!"extra operand '{c}'"

end Playbook.Shell.Tool
