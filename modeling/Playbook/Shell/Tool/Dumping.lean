/-
  Programs that show bytes as numbers or characters, and that write them in letters and digits and
  read them back.
-/
import Playbook.Shell.Tool.Files

namespace Playbook.Shell.Tool

open Playbook.Text

/-! ## Bytes in columns -/

namespace Dump

/-- How bytes are shown. -/
inductive Kind where
  | named
  | character
  | signed
  | unsigned
  | octal
  | hexadecimal
  deriving Repr, DecidableEq

/-- How many bytes make a field, and how they are shown. -/
structure Form where
  kind : Kind
  size : Nat := 1
  /-- Whether the characters stand behind the fields. -/
  trailer : Bool := false
  deriving Repr, DecidableEq

namespace Form

/-- The width of a field. -/
def width (f : Form) : Nat :=
  match f.kind with
  | .named | .character => 3
  | .octal => (8 * f.size + 2) / 3
  | .hexadecimal => 2 * f.size
  | .unsigned => (toString (Nat.pow 256 f.size - 1)).length
  | .signed => (toString (Nat.pow 256 f.size / 2)).length + 1

/-- The names of the characters that cannot be seen. -/
def names : List String := ["nul", "soh", "stx", "etx", "eot", "enq", "ack", "bel", "bs", "ht",
  "nl", "vt", "ff", "cr", "so", "si", "dle", "dc1", "dc2", "dc3", "dc4", "nak", "syn", "etb", "can",
  "em", "sub", "esc", "fs", "gs", "rs", "us", "sp"]

/-- A character with backslashes or in octal digits. -/
def characterText (c : Char) : String :=
  match c with
  | '\x00' => "\\0"
  | '\x07' => "\\a"
  | '\x08' => "\\b"
  | '\x0c' => "\\f"
  | '\n' => "\\n"
  | '\r' => "\\r"
  | '\t' => "\\t"
  | '\x0b' => "\\v"
  | c =>
    if 32 ≤ c.toNat && c.toNat < 127 then String.singleton c
    else
      let ds := Nat.toDigits 8 c.toNat
      String.ofList (List.replicate (3 - ds.length) '0' ++ ds)

/-- A number with zeros in front. -/
def filled (base width n : Nat) : String :=
  let ds := Nat.toDigits base n
  String.ofList (List.replicate (width - ds.length) '0' ++ ds)

/-- A field; the first byte is the lowest. -/
def fieldText (f : Form) (cs : List Char) : String :=
  let n := cs.foldr (fun c n => n * 256 + c.toNat) 0
  match f.kind with
  | .named =>
    let low := n % 128
    if low = 127 then "del" else names.getD low (String.singleton (Char.ofNat low))
  | .character => characterText (cs.headD '\x00')
  | .octal => filled 8 f.width n
  | .hexadecimal => filled 16 f.width n
  | .unsigned => toString n
  | .signed =>
    let whole := Nat.pow 256 f.size
    if n < whole / 2 then toString n else "-" ++ toString (whole - n)

/-- The number of bytes that a letter or a number stands for. -/
def sizeOf? : List Char → Option (Nat × List Char)
  | 'C' :: rest => some (1, rest)
  | 'S' :: rest => some (2, rest)
  | 'I' :: rest => some (4, rest)
  | 'L' :: rest => some (8, rest)
  | cs =>
    let ds := cs.takeWhile Char.isDigit
    match Number.digits? ds with
    | none => some (4, cs)
    | some n => if [1, 2, 4, 8].contains n then some (n, cs.drop ds.length) else none

/-- The forms that a text names, or what is wrong with it. -/
def ofText (whole : String) : (steps : Nat) → List Char → Except String (List Form)
  | 0, _ => .ok []
  | _, [] => .ok []
  | n + 1, c :: rest => do
    let kind? : Option Kind := match c with
      | 'a' => some .named
      | 'c' => some .character
      | 'd' => some .signed
      | 'u' => some .unsigned
      | 'o' => some .octal
      | 'x' => some .hexadecimal
      | _ => none
    match kind? with
    | none =>
      throw s!"invalid character '{String.singleton c}' in type string {quotedName whole}"
    | some kind =>
      let sized := if kind == .named || kind == .character then some (1, rest) else sizeOf? rest
      match sized with
      | none =>
        let ds := String.ofList (rest.takeWhile Char.isDigit)
        throw (s!"invalid type string {quotedName whole};\n" ++
          s!"this system doesn't provide a {ds}-byte integral type")
      | some (size, rest) =>
        let trailer := rest.head? == some 'z'
        let more ← ofText whole n (if trailer then rest.tail else rest)
        return { kind, size, trailer } :: more

end Form

/-- How a whole text is shown. -/
structure Columns where
  forms : List Form
  /-- The base of the numbers of places and how many digits they have; none for no places. -/
  places : Option (Nat × Nat) := some (8, 7)
  /-- How many bytes a line shows. -/
  line : Nat := 16
  /-- Whether lines that are like the one before are shown too. -/
  all : Bool := false

/-- The number of a place. -/
def Columns.place (l : Columns) (n : Nat) : String :=
  match l.places with
  | some (base, width) => Form.filled base width n
  | none => ""

/-- The width of the fields of a line for a form that needs most. -/
def Columns.blockWidth (l : Columns) : Nat :=
  (l.forms.map fun f => (f.width + 1) * (l.line / f.size)).foldl max 0

/-- Fields, each with its part of the room that is left. -/
def fields (f : Form) (room count : Nat) : (i left : Nat) → List (List Char) → String
  | _, _, [] => ""
  | i, left, cs :: rest =>
    let next := room * (i - 1) / count
    Listing.rightward (left - next + f.width) (f.fieldText cs) ++
      fields f room count (i - 1) next rest

/-- A text in parts of a size. -/
def chunks (size : Nat) : (steps : Nat) → List Char → List (List Char)
  | 0, _ => []
  | _, [] => []
  | n + 1, cs => cs.take (max 1 size) :: chunks size n (cs.drop (max 1 size))

/-- The lines for some bytes at a place. -/
def Columns.lines (l : Columns) (offset : Nat) (cs : List Char) : String :=
  let start := l.place offset
  let step := (l.forms.map (·.size)).foldl max 1
  let padded := cs ++ List.replicate ((step - cs.length % step) % step) '\x00'
  String.join (l.forms.zipIdx.map fun (f, i) =>
    let count := l.line / f.size
    let room := l.blockWidth - f.width * count
    let parts := chunks f.size (padded.length + 1) padded
    let parts := parts.take ((cs.length + f.size - 1) / f.size)
    let blank := count - parts.length
    let behind := if f.trailer then
        let seen := fun (c : Char) => if 32 ≤ c.toNat && c.toNat < 127 then c else '.'
        String.ofList (List.replicate (blank * f.width + room * blank / count) ' ') ++
          "  >" ++ String.ofList (cs.map seen) ++ "<"
      else ""
    (if i = 0 then start else String.ofList (List.replicate start.length ' ')) ++
      fields f room count count room parts ++ behind ++ "\n")

/-- All lines of a text; `before` is the line that was shown last, and `starred` tells whether
lines like it were left out. -/
def Columns.text (l : Columns) : (offset : Nat) → (before : Option (List Char)) → (starred : Bool) →
    List (List Char) → List String
  | offset, _, _, [] => if l.places.isNone then [] else [l.place offset ++ "\n"]
  | offset, before, starred, cs :: rest =>
    let behind := offset + cs.length
    if before == some cs && !l.all && cs.length = l.line then
      (if starred then [] else ["*\n"]) ++ l.text behind before true rest
    else l.lines offset cs :: l.text behind (some cs) false rest

/-- The forms that the letters of options stand for. -/
def formOf? : Char → Option Form
  | 'a' => some ⟨.named, 1, false⟩
  | 'b' => some ⟨.octal, 1, false⟩
  | 'c' => some ⟨.character, 1, false⟩
  | 'd' => some ⟨.unsigned, 2, false⟩
  | 'i' => some ⟨.signed, 4, false⟩
  | 'l' => some ⟨.signed, 8, false⟩
  | 'o' => some ⟨.octal, 2, false⟩
  | 's' => some ⟨.signed, 2, false⟩
  | 'x' => some ⟨.hexadecimal, 2, false⟩
  | _ => none

/-- A number of bytes: in base sixteen behind its mark, in base eight behind a zero. -/
def count? (text : String) : Option Nat :=
  match text.toList with
  | '0' :: x :: ds =>
    if x == 'x' || x == 'X' then
      if ds.isEmpty then none
      else ds.foldl (fun n? d => n?.bind fun n =>
        (Arithmetic.digit? 16 d).map fun v => n * 16 + v) (some 0)
    else (x :: ds).foldl (fun n? d => n?.bind fun n =>
      (Arithmetic.digit? 8 d).map fun v => n * 8 + v) (some 0)
  | _ => size? text

/-- The options of the program. -/
def spec : Spec :=
  { name := "od", letters := "A:j:N:t:w:vabcdilosx"
    long := [("address-radix", 'A'), ("skip-bytes", 'j'), ("read-bytes", 'N'), ("format", 't'),
      ("output-duplicates", 'v'), ("width", 'w')] }

/-- The forms that options ask for. -/
def formsOf : List Given → Except String (List Form)
  | [] => .ok []
  | g :: rest => do
    let these ← if g.letter == 't' then Form.ofText g.value (g.value.length + 1) g.value.toList
      else pure (formOf? g.letter).toList
    return these ++ (← formsOf rest)

end Dump

open Dump in
/-- Shows bytes in columns. -/
def od : Tool := fun args =>
  let args := args.map fun w => if w == "-w" || w == "--width" then "-w32" else w
  flip (withOptions Dump.spec) args fun given paths => do
    let number := fun (c : Char) => (valueOf? given c).map fun text => (text, count? text)
    let radix := (valueOf? given 'A').getD "o"
    let wrong := ['j', 'N', 'w'].findSome? fun c =>
      match number c with
      | some (text, none) => some s!"invalid -{String.singleton c} argument {quotedName text}"
      | _ => none
    let places? := match radix with
      | "o" => some (some (8, 7))
      | "d" => some (some (10, 7))
      | "x" => some (some (16, 6))
      | "n" => some none
      | _ => none
    match wrong, places?, formsOf given with
    | some what, _, _ =>
      report "od" what
      return 1
    | none, none, _ =>
      report "od" (s!"invalid output address radix {quotedName radix}; " ++
        "it must be one character from [doxn]")
      return 1
    | none, some _, .error what =>
      report "od" what
      return 1
    | none, some places, .ok forms => do
      let forms := if forms.isEmpty then [⟨.octal, 2, false⟩] else forms
      let (cs, failed) ← gathered (usual "od") paths
      let value := fun (c : Char) => (number c).bind Prod.snd
      let skipped := (value 'j').getD 0
      if cs.length < skipped then
        report "od" "cannot skip past end of combined input"
        return 1
      let cs := cs.drop skipped
      let cs := match value 'N' with
        | some n => cs.take n
        | none => cs
      let step := (forms.map (·.size)).foldl max 1
      let asked := (value 'w').getD 16
      let line := if asked = 0 || asked % step != 0 then step else asked
      if line != asked then
        report "od" s!"warning: invalid width {asked}; using {line} instead"
      let l : Dump.Columns := { forms, places, line, all := has given 'v' }
      if !(failed && cs.isEmpty) then
        say (String.join (l.text skipped none false (chunks line (cs.length + 1) cs)))
      return statusOf failed

/-! ## Bytes in letters and digits -/

namespace Encoded

/-- A way to write bytes with a number of signs. -/
structure Alphabet where
  signs : List Char
  /-- How many bits a sign stands for, and how many signs make a group. -/
  bits : Nat
  group : Nat

/-- Sixty-four signs. -/
def base64 : Alphabet :=
  ⟨"ABCDEFGHIJKLMNOPQRSTUVWXYZabcdefghijklmnopqrstuvwxyz0123456789+/".toList, 6, 4⟩

/-- Thirty-two signs. -/
def base32 : Alphabet := ⟨"ABCDEFGHIJKLMNOPQRSTUVWXYZ234567".toList, 5, 8⟩

namespace Alphabet

/-- How many bytes a group stands for. -/
def bytes (a : Alphabet) : Nat := a.bits * a.group / 8

/-- A group of signs for bytes, filled up at the end. -/
def encodeGroup (a : Alphabet) (cs : List Char) : List Char :=
  let full := cs ++ List.replicate (a.bytes - cs.length) '\x00'
  let n := full.foldl (fun n c => n * 256 + c.toNat) 0
  let used := (8 * cs.length + a.bits - 1) / a.bits
  (List.range a.group).map fun i =>
    if used ≤ i then '='
    else a.signs.getD (n / Nat.pow 2 (a.bits * (a.group - 1 - i)) % Nat.pow 2 a.bits) '='

/-- The signs for bytes. -/
def encode (a : Alphabet) (cs : List Char) : List Char :=
  (Dump.chunks a.bytes (cs.length + 1) cs).flatMap a.encodeGroup

/-- The bytes that a group of signs stands for, and whether it is a proper group. -/
def decodeGroup (a : Alphabet) (cs : List Char) : List Char × Bool :=
  let values := (cs.takeWhile a.signs.contains).map fun c => a.signs.idxOf c
  let fill := cs.drop values.length
  let whole := a.bits * values.length / 8
  let n := values.foldl (fun n v => n * Nat.pow 2 a.bits + v) 0
  let n := n / Nat.pow 2 (a.bits * values.length - 8 * whole)
  let bytes := (List.range whole).map fun i =>
    Char.ofNat (n / Nat.pow 256 (whole - 1 - i) % 256)
  -- as many signs as are needed for some bytes, and the group filled up
  let proper := cs.length = a.group && fill.all (· == '=') && 0 < whole &&
    values.length = (8 * whole + a.bits - 1) / a.bits
  (bytes, proper)

/-- The bytes that groups of signs stand for, up to the first that is none. -/
def decode (a : Alphabet) : List (List Char) → List Char × Bool
  | [] => ([], true)
  | g :: rest =>
    match a.decodeGroup g with
    | (bytes, true) =>
      let (more, proper) := decode a rest
      (bytes ++ more, proper)
    | (bytes, false) => (bytes, false)

end Alphabet

end Encoded

open Encoded in
/-- Writes bytes with the signs of an alphabet, or reads them back. -/
def encoded (name : String) (a : Encoded.Alphabet) : Tool := withOptions
  { name, letters := "diw:", long := [("decode", 'd'), ("ignore-garbage", 'i'), ("wrap", 'w')] }
  fun given paths => do
    let wrap := (valueOf? given 'w').getD "76"
    match Number.digits? wrap.toList, paths.tail with
    | none, _ =>
      report name s!"invalid wrap size: {quotedName wrap}"
      return 1
    | _, extra :: _ => misuse name s!"extra operand {quotedName extra}"
    | some width, [] =>
      let path := paths.headD "-"
      match ← contents path with
      | .error f =>
        report name s!"{path}: {faultText f}"
        return 1
      | .ok cs =>
        if has given 'd' then
          let kept := cs.filter fun c =>
            c != '\n' && (!has given 'i' || c == '=' || a.signs.contains c)
          let (bytes, proper) := a.decode (Dump.chunks a.group (kept.length + 1) kept)
          sayChars bytes
          if !proper then report name "invalid input"
          return statusOf (!proper)
        else
          let signs := a.encode cs
          if width = 0 then sayChars signs
          else sayLines (Dump.chunks width (signs.length + 1) signs)
          return 0

end Playbook.Shell.Tool
