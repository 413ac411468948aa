/-
  Programs that work on parts of lines and on single characters.
-/
import Playbook.Shell.Tool.Basic
import Playbook.Shell.Printing

namespace Playbook.Shell.Tool

open Playbook.Text

/-! ## Parts of lines -/

/-- A range of places, counted from one; without an end it goes on. -/
structure Range where
  first : Nat
  last : Option Nat
  deriving Repr, DecidableEq

def Range.contains (r : Range) (n : Nat) : Bool := r.first ≤ n && !(r.last.any (· < n))

/-- A range as it is written, or what is wrong with it. -/
def Range.ofText (fields : Bool) (text : List Char) : Except String Range := do
  let what := if fields then "fields are numbered from 1" else
    "byte/character positions are numbered from 1"
  let badRange := if fields then s!"invalid field value '{String.ofList text}'"
    else s!"invalid byte/character position '{String.ofList text}'"
  let number := fun (ds : List Char) => do
    let some n := Number.digits? ds | throw badRange
    if n = 0 then throw what
    return n
  match pieces '-' text with
  | [[]] => throw what
  | [one] =>
    let n ← number one
    return ⟨n, some n⟩
  | [[], []] => throw "invalid range with no endpoint: -"
  | [[], past] => return ⟨1, some (← number past)⟩
  | [first, []] => return ⟨← number first, none⟩
  | [first, past] =>
    let a ← number first
    let b ← number past
    if b < a then throw "invalid decreasing range"
    return ⟨a, some b⟩
  | _ => throw (if fields then "invalid field range" else "invalid byte or character range")

/-- The ranges of a list. -/
def ranges (fields : Bool) (text : String) : Except String (List Range) :=
  (pieces ',' (text.toList.map fun c => if c == ' ' || c == '\t' then ',' else c)).mapM
    (Range.ofText fields)

/-- The members of a list at chosen places. -/
def chosen {α : Type} (rs : List Range) (others : Bool) (xs : List α) : List α :=
  (xs.zipIdx 1).filterMap fun (x, i) =>
    if (rs.any fun r => r.contains i) != others then some x else none

/-- Cuts characters or fields out of lines. -/
def cut : Tool := withOptions
  { name := "cut", letters := "b:c:f:d:snzOC"
    long := [("bytes", 'b'), ("characters", 'c'), ("fields", 'f'), ("delimiter", 'd'),
      ("only-delimited", 's'), ("output-delimiter", 'O'), ("complement", 'C')] }
  fun given paths => do
    let lists := given.filter fun g => g.letter == 'b' || g.letter == 'c' || g.letter == 'f'
    match lists with
    | [] => misuse "cut" "you must specify a list of bytes, characters, or fields"
    | _ :: _ :: _ => misuse "cut" "only one list may be specified"
    | [list] =>
      let fields := list.letter == 'f'
      let others := has given 'C'
      match ranges fields list.value with
      | .error what => misuse "cut" what
      | .ok rs =>
        let delimiter := (valueOf? given 'd').getD "\t"
        if 1 < delimiter.length then
          misuse "cut" "the delimiter must be a single character"
        else if !fields && (valueOf? given 'd').isSome then
          misuse "cut" "an input delimiter may be specified only when operating on fields"
        else if !fields && has given 's' then
          misuse "cut" ("suppressing non-delimited lines makes sense\n\tonly when operating on " ++
            "fields")
        else
          let d := delimiter.toList.headD '\x00'
          let between := ((valueOf? given 'O').map String.toList).getD [d]
          let part := fun (l : List Char) =>
            if !fields then some (chosen rs others l)
            else
              let all := pieces d l
              if all.length = 1 then (if has given 's' then none else some l)
              else some (joinWith between (chosen rs others all))
          let failed ← overFiles (usual "cut")
            (fun _ cs => sayLines ((linesOf cs).filterMap part)) (sources paths)
          return statusOf failed

/-- The rows of lines of several files. -/
def rowsOf : (steps : Nat) → List (List (List Char)) → List (List (List Char))
  | 0, _ => []
  | n + 1, files =>
    if files.all List.isEmpty then []
    else files.map (fun ls => ls.headD []) :: rowsOf n (files.map List.tail)

/-- A text with separators in turn between its parts. -/
def joinInTurn (separators : List Char) : (count : Nat) → List (List Char) → List Char
  | _, [] => []
  | _, [l] => l
  | n, l :: rest =>
    let d := separators.getD (n % max 1 separators.length) '\x00'
    l ++ (if separators.isEmpty || d == '\x00' then [] else [d]) ++
      joinInTurn separators (n + 1) rest

/-- Every so manieth line, from a place on. -/
def everyNth (count place : Nat) (ls : List (List Char)) : List (List Char) :=
  (ls.zipIdx).filterMap fun (l, i) => if i % max 1 count = place then some l else none

/-- Lines of files beside each other. -/
def paste : Tool := withOptions
  { name := "paste", letters := "d:sz", long := [("delimiters", 'd'), ("serial", 's')] }
  fun given paths => do
    let marks := ((valueOf? given 'd').getD "\t").toList
    let separators := (Printing.unescape (marks.length + 1)
      (marks.map fun c => c)).1
    let paths := sources paths
    let hyphens := paths.count "-"
    let common ← if 0 < hyphens then linesOf <$> input else pure []
    let mut files : List (List (List Char)) := []
    let mut used := 0
    let mut failed := false
    for path in paths do
      if path == "-" then
        files := (if has given 's' then (if used = 0 then common else [])
          else everyNth hyphens used common) :: files
        used := used + 1
      else
        match ← contents path with
        | .ok cs => files := linesOf cs :: files
        | .error f =>
          report "paste" s!"{path}: {faultText f}"
          failed := true
          if !has given 's' then return 1
    let columns := files.reverse
    if has given 's' then
      sayLines (columns.map (joinInTurn separators 0))
    else
      let longest := (columns.map List.length).foldl max 0
      sayLines ((rowsOf (longest + 1) columns).map (joinInTurn separators 0))
    return statusOf failed

/-! ## Characters -/

/-- A member of a set as it is written. -/
inductive Member where
  | chars (cs : List Char)
  | named (name : String)
  /-- A character again and again; none for as often as needed. -/
  | again (c : Char) (count : Option Nat)

/-- The character that stands behind a backslash, and what follows. -/
def escaped (cs : List Char) : Char × List Char :=
  match cs with
  | [] => ('\\', [])
  | c :: rest =>
    if Printing.isOctal c then
      let ds := (cs.take 3).takeWhile Printing.isOctal
      (Printing.octalChar ds, cs.drop ds.length)
    else
      match c with
      | 'a' => ('\x07', rest)
      | 'b' => ('\x08', rest)
      | 'f' => ('\x0c', rest)
      | 'n' => ('\n', rest)
      | 'r' => ('\r', rest)
      | 't' => ('\t', rest)
      | 'v' => ('\x0b', rest)
      | _ => (c, rest)

/-- The next character of a set, with its backslash read. -/
def setChar : List Char → Option (Char × List Char)
  | [] => none
  | '\\' :: rest => some (escaped rest)
  | c :: rest => some (c, rest)

/-- The members of a set, or what is wrong with it. -/
def members : (steps : Nat) → List Char → Except String (List Member)
  | 0, _ => .ok []
  | _, [] => .ok []
  | n + 1, cs => do
    let class? := match cs with
      | '[' :: ':' :: rest =>
        let name := rest.takeWhile (· != ':')
        match rest.drop name.length with
        | ':' :: ']' :: rest => some (name, rest)
        | _ => none
      | _ => none
    match class? with
    | some (name, rest) =>
      let word := String.ofList name
      if (classRanges word).isEmpty then throw s!"invalid character class '{word}'"
      return .named word :: (← members n rest)
    | none =>
      let repeated? := match cs with
        | '[' :: rest =>
          match setChar rest with
          | some (c, '*' :: rest) =>
            let ds := rest.takeWhile Char.isDigit
            match rest.drop ds.length with
            | ']' :: rest =>
              let base := if ds.head? == some '0' then 8 else 10
              let count := (Arithmetic.digitsFrom base 0 ds).1
              some (c, if count = 0 then none else some count, rest)
            | _ => none
          | _ => none
        | _ => none
      match repeated?, cs with
      | some (c, count, rest), _ => return .again c count :: (← members n rest)
      | none, '[' :: '=' :: c :: '=' :: ']' :: rest => return .chars [c] :: (← members n rest)
      | none, _ =>
        match setChar cs with
        | none => return []
        | some (lo, '-' :: rest) =>
          match setChar rest with
          | none => return .chars [lo] :: .chars ['-'] :: []
          | some (hi, rest) =>
            if hi < lo then
              throw (s!"range-endpoints of '{String.singleton lo}-{String.singleton hi}'" ++
                " are in reverse collating sequence order")
            return .chars ((List.range (hi.toNat + 1 - lo.toNat)).map fun k =>
              Char.ofNat (lo.toNat + k)) :: (← members n rest)
        | some (c, rest) => return .chars [c] :: (← members n rest)

/-- All characters. -/
def everyChar : List Char := (List.range 256).map Char.ofNat

/-- The characters of a class. -/
def classMembers (name : String) : List Char :=
  everyChar.filter (Glob.inRanges (classRanges name))

/-- The characters of members; `size` is how many there should be. -/
def charsOfMembers (size : Nat) (ms : List Member) : List Char :=
  let fixed := ms.foldl (fun n m =>
    match m with
    | .chars cs => n + cs.length
    | .named name => n + (classMembers name).length
    | .again _ (some k) => n + k
    | .again _ none => n) 0
  ms.flatMap fun m =>
    match m with
    | .chars cs => cs
    | .named name => classMembers name
    | .again c (some k) => List.replicate k c
    | .again c none => List.replicate (size - fixed) c

/-- The text without repetitions of characters that are to stand once. -/
def squeezed (p : Char → Bool) : List Char → List Char
  | a :: b :: rest => if a == b && p a then squeezed p (b :: rest) else a :: squeezed p (b :: rest)
  | cs => cs

/-- Replaces, deletes or squeezes characters. -/
def tr : Tool := withOptions
  { name := "tr", letters := "cCdst", inFront := true
    long := [("complement", 'c'), ("delete", 'd'), ("squeeze-repeats", 's'),
      ("truncate-set1", 't')] }
  fun given sets => do
    let deletes := has given 'd'
    let squeezes := has given 's'
    let most := if deletes && !squeezes then 1 else 2
    let least := if deletes == squeezes then 2 else 1
    match sets with
    | [] => misuse "tr" "missing operand"
    | first :: others =>
      if sets.length < least then
        sayError (s!"tr: missing operand after '{first}'\n" ++
          (if deletes then "Two strings must be given when both deleting and squeezing repeats.\n"
            else "Two strings must be given when translating.\n") ++
          "Try 'tr --help' for more information.\n")
        return 1
      else if most < sets.length then
        sayError ("tr: extra operand '" ++ sets.getD most "" ++ "'\n" ++
          (if deletes && !squeezes && sets.length = 2 then
            "Only one string may be given when deleting without squeezing repeats.\n" else "") ++
          "Try 'tr --help' for more information.\n")
        return 1
      else
        let second := others.headD ""
        let all := fun (text : String) => members (text.length + 1) text.toList
        match all first, all second with
        | .error what, _ =>
          report "tr" what
          return 1
        | _, .error what =>
          report "tr" what
          return 1
        | .ok ms, .ok ns =>
          let plain := charsOfMembers 0 ms
          let inverted := has given 'c' || has given 'C'
          let from_ := if inverted then everyChar.filter (!plain.contains ·) else plain
          let past := charsOfMembers from_.length ns
          let cs ← input
          if deletes then
            let kept := cs.filter (!from_.contains ·)
            sayChars (if squeezes then squeezed past.contains kept else kept)
            return 0
          else if others.isEmpty then
            sayChars (squeezed from_.contains cs)
            return 0
          else if past.isEmpty then
            report "tr" "when not truncating set1, string2 must be non-empty"
            return 1
          else
            let last := past.getLastD ' '
            let table := (List.range 256).map fun k =>
              let c := Char.ofNat k
              -- the last of equal members counts
              let place? := ((from_.zipIdx.filter fun (d, _) => d == c).getLast?).map Prod.snd
              match place? with
              | none => c
              | some i => if has given 't' then past.getD i c else past.getD i last
            let table := table.toArray
            let changed := cs.map fun c => table.getD c.toNat c
            sayChars (if squeezes then squeezed past.contains changed else changed)
            return 0

end Playbook.Shell.Tool
