/-
  Programs that cut files into parts, copy parts of them, and put words into an order: one in which
  pairs agree, or any.
-/
import Playbook.Shell.Tool.Files

namespace Playbook.Shell.Tool

open Playbook.Text

/-! ## Parts in files of their own -/

namespace Split

/-- How a file is cut. -/
inductive Way where
  | lines (n : Nat)
  | bytes (n : Nat)
  /-- So many parts of bytes, of whole lines, or of lines in turn; perhaps only one of them. -/
  | parts (n : Nat) (only : Option Nat)
  | lineParts (n : Nat) (only : Option Nat)
  | turns (n : Nat) (only : Option Nat)

/-- A text in parts of a size. -/
def chunks {α : Type} (size : Nat) : (steps : Nat) → List α → List (List α)
  | 0, _ => []
  | _, [] => []
  | n + 1, xs => xs.take (max 1 size) :: chunks size n (xs.drop (max 1 size))

/-- The number of parts that a text asks for, perhaps with the one that is wanted. -/
def partsOf? (text : List Char) : Option (Nat × Option Nat) :=
  match (pieces '/' text).map Number.digits? with
  | [some n] => if n = 0 then none else some (n, none)
  | [some k, some n] => if n = 0 || k = 0 || n < k then none else some (n, some k)
  | _ => none

/-- The way that a number of parts asks for. -/
def wayOf? (text : String) : Option Way :=
  match text.toList with
  | 'l' :: '/' :: rest => (partsOf? rest).map fun (n, only) => .lineParts n only
  | 'r' :: '/' :: rest => (partsOf? rest).map fun (n, only) => .turns n only
  | cs => (partsOf? cs).map fun (n, only) => .parts n only

/-- The sizes of parts of a whole: the first ones are larger by one if it does not divide. -/
def sizes (whole n : Nat) : List Nat :=
  (List.range n).map fun i => whole / n + (if i < whole % n then 1 else 0)

/-- Parts of given sizes. -/
def bySizes : List Nat → List Char → List (List Char)
  | [], _ => []
  | n :: rest, cs => cs.take n :: bySizes rest (cs.drop n)

/-- Whole lines in parts: a line belongs to the part in which it begins. -/
def byLines (ends : List Nat) : (at_ : Nat) → List (List Char) → List (List Char)
  | at_, ls =>
    match ends with
    | [] => []
    | e :: rest =>
      let mine := taken e at_ ls
      let size := (mine.map List.length).foldl (· + ·) 0
      mine.flatten :: byLines rest (at_ + size) (ls.drop mine.length)
where
  /-- The lines that begin before a place. -/
  taken (e at_ : Nat) : List (List Char) → List (List Char)
    | [] => []
    | l :: ls => if at_ < e then l :: taken e (at_ + l.length) ls else []

/-- The parts of a text. -/
def Way.cut (w : Way) (cs : List Char) : List (List Char) :=
  let chosen := fun (only : Option Nat) (all : List (List Char)) =>
    match only with
    | some k => [all.getD (k - 1) []]
    | none => all
  match w with
  | .lines n => (chunks n (cs.length + 1) (wholeLines cs)).map List.flatten
  | .bytes n => chunks n (cs.length + 1) cs
  | .parts n only => chosen only (bySizes (sizes cs.length n) cs)
  | .lineParts n only =>
    let ends := (sizes cs.length n).foldl (fun (es : List Nat) s => es ++ [es.getLastD 0 + s]) []
    chosen only (byLines ends 0 (wholeLines cs))
  | .turns n only =>
    let ls := (wholeLines cs).zipIdx
    chosen only ((List.range n).map fun k =>
      ls.flatMap fun (l, i) => if i % n = k then l else [])

/-- The part that alone is wanted. -/
def Way.only : Way → Option Nat
  | .parts _ k | .lineParts _ k | .turns _ k => k
  | _ => none

/-- The end of the name of a part: a number in signs, of a width. -/
def ending (signs : List Char) (width i : Nat) : String :=
  String.ofList ((List.range width).map fun k =>
    signs.getD (i / Nat.pow signs.length (width - 1 - k) % signs.length) 'a')

/-- The options of the program. -/
def spec : Spec :=
  { name := "split", letters := "l:b:n:a:dxC:e0S:V"
    long := [("lines", 'l'), ("bytes", 'b'), ("number", 'n'), ("suffix-length", 'a'),
      ("numeric-suffixes", 'd'), ("hex-suffixes", 'x'), ("line-bytes", 'C'),
      ("additional-suffix", 'S'), ("verbose", 'V'), ("elide-empty-files", 'e')] }

/-- The way that options ask for, or what is wrong with them. -/
def wayFrom (given : List Given) : Except String Way :=
  let positive := fun (n? : Option Nat) => n?.filter (0 < ·)
  match (given.filter fun g => "lbn".toList.contains g.letter).getLast? with
  | none => .ok (.lines 1000)
  | some g =>
    match g.letter with
    | 'l' =>
      match positive (Number.digits? g.value.toList) with
      | some n => .ok (.lines n)
      | none => .error s!"invalid number of lines: {quotedName g.value}"
    | 'b' =>
      match positive (size? g.value) with
      | some n => .ok (.bytes n)
      | none => .error s!"invalid number of bytes: {quotedName g.value}"
    | _ =>
      match wayOf? g.value with
      | some w => .ok w
      | none =>
        let count := (dropStart? ['l', '/'] g.value.toList).getD g.value.toList
        .error s!"invalid number of chunks: {quotedName (String.ofList count)}"

end Split

open Split in
/-- Cuts a file into files. -/
def split : Tool := withOptions Split.spec fun given paths => do
  match wayFrom given, paths.drop 2 with
  | .error what, _ =>
    report "split" what
    return 1
  | _, extra :: _ => misuse "split" s!"extra operand {quotedName extra}"
  | .ok way, [] =>
    let path := paths.headD "-"
    let lead := paths.tail.headD "x"
    match ← contents path with
    | .error f =>
      report "split" s!"cannot open {quotedName path} for reading: {faultText f}"
      return 1
    | .ok cs =>
      let parts := way.cut cs
      match way.only with
      | some _ =>
        sayChars parts.flatten
        return 0
      | none =>
        let signs := if has given 'd' then "0123456789".toList
          else if has given 'x' then "0123456789abcdef".toList
          else "abcdefghijklmnopqrstuvwxyz".toList
        let width := ((valueOf? given 'a').bind fun w => Number.digits? w.toList).getD 2
        let parts := if has given 'e' then parts.filter (!·.isEmpty) else parts
        for (part, i) in parts.zipIdx do
          if Nat.pow signs.length width ≤ i then
            report "split" "output file suffixes exhausted"
            return 1
          let name := lead ++ ending signs width i ++ (valueOf? given 'S').getD ""
          if has given 'V' then say s!"creating file {quotedName name}\n"
          match ← nodeOf name with
          | .error f =>
            report "split" s!"{name}: {faultText f}"
            return 1
          | .ok (_, some .directory) =>
            report "split" s!"{name}: Is a directory"
            return 1
          | .ok (at_, found) =>
            if found.isNone then modify (·.created at_)
            rewrite at_ part
        return 0

/-! ## Copying parts -/

namespace Copying

/-- What an operand asks for. -/
structure Operand where
  name : String
  value : String

/-- A number with factors and units. -/
def count? (text : String) : Option Nat :=
  let factors := (pieces 'x' text.toList).map fun cs =>
    match cs.getLast? with
    | some 'c' => size? (String.ofList cs.dropLast)
    | some 'w' => (size? (String.ofList cs.dropLast)).map (· * 2)
    | _ => size? (String.ofList cs)
  if factors.any (·.isNone) then none
  else some ((factors.filterMap id).foldl (· * ·) 1)

/-- The names of operands that are numbers. -/
def numbers : List String :=
  ["bs", "ibs", "obs", "cbs", "count", "skip", "seek", "iseek", "oseek"]

/-- The operands that words spell, or what is wrong with one. -/
def operandsOf : List String → Except (String × Bool) (List Operand)
  | [] => .ok []
  | word :: rest => do
    match splitOnce '=' word.toList with
    | none => throw (s!"unrecognized operand {quotedName word}", true)
    | some (name, value) =>
      let o : Operand := ⟨String.ofList name, String.ofList value⟩
      if numbers.contains o.name then
        if (count? o.value).isNone then throw (s!"invalid number: {quotedName o.value}", false)
      else if !(["if", "of", "conv", "status", "iflag", "oflag"].contains o.name) then
        throw (s!"unrecognized operand {quotedName word}", true)
      return o :: (← operandsOf rest)

/-- A text converted as words ask for. -/
def converted (words : List String) (cs : List Char) : List Char :=
  let cs := if words.contains "ucase" then upperAscii cs else cs
  let cs := if words.contains "lcase" then lowerAscii cs else cs
  if words.contains "swab" then
    (Split.chunks 2 (cs.length + 1) cs).flatMap List.reverse
  else cs

/-- How many whole and partial blocks make a number of bytes. -/
def blocksText (size bytes : Nat) : String :=
  s!"{bytes / size}+{if bytes % size = 0 then 0 else 1}"

end Copying

open Copying in
/-- Copies blocks of a file. -/
def dd : Tool := fun args => do
  match operandsOf args with
  | .error (what, true) => misuse "dd" what
  | .error (what, false) =>
    report "dd" what
    return 1
  | .ok operands =>
    let value := fun (name : String) =>
      ((operands.filter fun o => o.name == name).getLast?).map (·.value)
    let number := fun (name : String) => (value name).bind count?
    let words := ((pieces ',' ((value "conv").getD "").toList).map String.ofList)
    let size := max 1 ((number "bs").getD ((number "ibs").getD 512))
    let outSize := max 1 ((number "bs").getD ((number "obs").getD 512))
    let source := value "if"
    match ← (match source with
      | some path => contents path
      | none => drain 0) with
    | .error f =>
      let shown := quotedName (source.getD "standard input")
      report "dd" s!"failed to open {shown}: {faultText f}"
      return 1
    | .ok cs =>
      let behind := cs.drop (size * ((number "skip").or (number "iseek")).getD 0)
      let (taken, rest) := match number "count" with
        | some n => behind.splitAt (n * size)
        | none => (behind, [])
      if source.isNone && !rest.isEmpty then modify (·.withInput rest)
      let text := converted words taken
      match value "of" with
      | none => sayChars text
      | some path =>
        match ← nodeOf path with
        | .error f =>
          report "dd" s!"failed to open {quotedName path}: {faultText f}"
          return 1
        | .ok (_, some .directory) =>
          report "dd" s!"failed to open {quotedName path}: Is a directory"
          return 1
        | .ok (_, some .device) => pure ()
        | .ok (at_, found) =>
          if found.isNone then modify (·.created at_)
          let old := Files.bytesAt (← get).disk at_
          let start := outSize * ((number "seek").or (number "oseek")).getD 0
          let new := Going.overwritten old start text
          rewrite at_ (if words.contains "notrunc" then new else new.take (start + text.length))
      if value "status" != some "none" then
        sayError (blocksText size taken.length ++ " records in\n" ++
          blocksText outSize taken.length ++ " records out\n")
        if value "status" != some "noxfer" then
          sayError s!"{taken.length} bytes copied, 0 s, Infinity B/s\n"
      return 0

/-! ## Orders -/

/-- A word with the number of those that come before it, and those that come behind it. -/
structure Ranked where
  name : List Char
  before : Nat
  /-- The words behind it, the last one named first. -/
  behind : List (List Char)

/-- Words with a pair of them taken in. -/
def withPair (a b : List Char) (all : List Ranked) : List Ranked :=
  let present := fun (w : List Char) (all : List Ranked) =>
    if all.any (·.name == w) then all else ⟨w, 0, []⟩ :: all
  let all := present b (present a all)
  if a == b then all
  else all.map fun r =>
    if r.name == a then { r with behind := b :: r.behind }
    else if r.name == b then { r with before := r.before + 1 }
    else r

/-- Words in an order in which each comes before those behind it, and those for which there is
none. -/
def ranked : (steps : Nat) → (waiting : List (List Char)) → List Ranked →
    List (List Char) × List (List Char)
  | 0, _, all => ([], all.map (·.name))
  | _, [], all => ([], all.map (·.name))
  | n + 1, w :: waiting, all =>
    let behind := ((all.find? (·.name == w)).map (·.behind)).getD []
    let all := all.filter (·.name != w)
    let (all, free) := behind.foldl (fun (all, free) b =>
      let all := all.map fun (r : Ranked) =>
        if r.name == b then { r with before := r.before - 1 } else r
      let isFree := all.any fun r => r.name == b && r.before = 0
      (all, if isFree && !free.contains b then free ++ [b] else free))
      (all, ([] : List (List Char)))
    let (more, left) := ranked n (waiting ++ free) all
    (w :: more, left)

/-- Puts words into an order in which pairs agree. -/
def tsort : Tool := withOptions { name := "tsort" } fun _ paths => do
  match paths.tail with
  | extra :: _ => misuse "tsort" s!"extra operand {quotedName extra}"
  | [] =>
    let path := paths.headD "-"
    match ← contents path with
    | .error f =>
      report "tsort" s!"{path}: {faultText f}"
      return 1
    | .ok cs =>
      let words := wordsOf cs
      if words.length % 2 != 0 then
        report "tsort" s!"{path}: input contains an odd number of tokens"
        return 1
      let pairs := Split.chunks 2 (words.length + 1) words
      let all := pairs.foldl (fun all p => withPair (p.headD []) (p.getLastD []) all) []
      let sorted := all.mergeSort fun a b => String.ofList a.name ≤ String.ofList b.name
      let free := (sorted.filter (·.before = 0)).map (·.name)
      let (order, left) := ranked (all.length + 1) free sorted
      sayLines order
      if left.isEmpty then return 0
      else
        report "tsort" s!"{path}: input contains a loop:"
        for w in left do
          report "tsort" (String.ofList w)
        sayLines left
        return 1

/-- The numbers of a range. -/
def rangeOf? (text : String) : Option (List (List Char)) :=
  match (pieces '-' text.toList).map Number.digits? with
  | [some a, some b] =>
    if a ≤ b then some ((List.range (b + 1 - a)).map fun k => (toString (a + k)).toList) else none
  | _ => none

/-- Puts lines into any order; the one that they have is one. -/
def shuf : Tool := withOptions
  { name := "shuf", letters := "ei:n:o:rz"
    long := [("echo", 'e'), ("input-range", 'i'), ("head-count", 'n'), ("output", 'o'),
      ("repeat", 'r'), ("zero-terminated", 'z')] } fun given paths => do
  let ending := if has given 'z' then '\x00' else '\n'
  let count? := match valueOf? given 'n' with
    | none => some none
    | some text => (Number.digits? text.toList).map some
  let lines : Except String (List (List Char)) ← match valueOf? given 'i' with
    | some text =>
      pure (match rangeOf? text with
        | some ls => .ok ls
        | none => .error s!"invalid input range: {quotedName text}")
    | none =>
      if has given 'e' then pure (.ok (paths.map String.toList))
      else
        let path := paths.headD "-"
        match ← contents path with
        | .ok cs => pure (.ok (recordsOf ending cs))
        | .error f => pure (.error s!"{path}: {faultText f}")
  match count?, lines with
  | none, _ =>
    report "shuf" ("invalid line count: " ++ quotedName ((valueOf? given 'n').getD ""))
    return 1
  | _, .error what =>
    report "shuf" what
    return 1
  | some count, .ok ls =>
    let ls := match count with
      | some n => ls.take n
      | none => ls
    sayChars (ls.flatMap (· ++ [ending]))
    return 0

end Playbook.Shell.Tool
