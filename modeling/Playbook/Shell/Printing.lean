/-
  Printing: backslashes in texts, and formats with the arguments that they lay out.
-/
import Playbook.Text.Blank
import Playbook.Shell.Layout
import Playbook.Shell.Arithmetic

namespace Playbook.Shell.Printing

open Playbook.Text Playbook.Number

/-! ## Backslashes -/

/-- The character that a letter behind a backslash stands for. -/
def control? : Char → Option Char
  | 'n' => some '\n'
  | 't' => some '\t'
  | 'r' => some '\r'
  | 'a' => some '\x07'
  | 'b' => some '\x08'
  | 'f' => some '\x0c'
  | 'v' => some '\x0b'
  | 'e' => some '\x1b'
  | '\\' => some '\\'
  | _ => none

def isOctal (c : Char) : Bool := '0' ≤ c && c ≤ '7'

/-- The character with an octal number. -/
def octalChar (ds : List Char) : Char :=
  Char.ofNat ((ds.foldl (fun n d => n * 8 + (d.toNat - '0'.toNat)) 0) % 256)

/-- The text with its backslashes read, and whether printing ends behind it. Octal numbers may
have a zero in front. -/
def unescape : (steps : Nat) → List Char → List Char × Bool
  | 0, cs => (cs, false)
  | _, [] => ([], false)
  | n + 1, '\\' :: c :: rest =>
    if c == 'c' then ([], true)
    else if isOctal c then
      let digits := if c == '0' then rest else c :: rest
      let ds := (digits.take 3).takeWhile isOctal
      let (more, ends) := unescape n (digits.drop ds.length)
      (octalChar ds :: more, ends)
    else
      let (more, ends) := unescape n rest
      match control? c with
      | some d => (d :: more, ends)
      | none => ('\\' :: c :: more, ends)
  | n + 1, c :: rest =>
    let (more, ends) := unescape n rest
    (c :: more, ends)

/-- What `echo` prints. -/
def echo (args : List String) : String :=
  let (newline, args) := match args with
    | "-n" :: rest => (false, rest)
    | _ => (true, args)
  let cs := (joinStrings " " args).toList
  let (text, ends) := unescape (cs.length + 1) cs
  String.ofList text ++ (if newline && !ends then "\n" else "")

/-! ## Arguments -/

/-- What is wrong with a number, of which a part was read or nothing. -/
def numberFault (arg : String) (wasRead : Bool) : List String :=
  [arg ++ (if wasRead then ": not completely converted" else ": expected numeric value")]

/-- The number that an argument spells, zero for none, and what is wrong with it. -/
def argumentNumber (signed : Bool) (arg : String) : Int × List String :=
  let cs := arg.toList.dropWhile Arithmetic.isSpace
  let (negative, ds) := match cs with
    | '-' :: rest => (true, rest)
    | '+' :: rest => (false, rest)
    | _ => (false, cs)
  match arg.toList with
  | [] => (0, [])
  | '\'' :: rest => ((rest.head?.map fun c => (c.toNat : Int)).getD 0, [])
  | '"' :: rest => ((rest.head?.map fun c => (c.toNat : Int)).getD 0, [])
  | _ =>
    match Arithmetic.leading? ds with
    | none => (0, numberFault arg false)
    | some (n, rest) =>
      let v : Int := if negative then -n else n
      let largest : Int := Int.pow 2 64 - 1
      let fits := if signed then Arithmetic.least ≤ v && v ≤ Arithmetic.most
        else n ≤ largest.toNat
      let value := if signed then Arithmetic.clamp v else if fits then v else largest
      (value, if !rest.isEmpty then numberFault arg true
        else if fits then [] else [arg ++ ": Numerical result out of range"])

/-- The number with places that an argument spells, whether it has a minus, and what is wrong with
it. -/
def argumentReal (arg : String) : Binary64 × Bool × List String :=
  match arg.toList with
  | [] => (.finite 0, false, [])
  | '\'' :: rest => (Binary64.nearest ((rest.head?.map Char.toNat).getD 0) 1, false, [])
  | '"' :: rest => (Binary64.nearest ((rest.head?.map Char.toNat).getD 0) 1, false, [])
  | all =>
    let cs := all.dropWhile Arithmetic.isSpace
    let negative := cs.head? == some '-'
    let sizes := (List.range (cs.length + 1)).reverse
    match sizes.findSome? fun k => (Binary64.ofText? (cs.take k)).map fun x => (x, k) with
    | some (x, k) => (x, negative, if k == cs.length then [] else numberFault arg true)
    | none => (.finite 0, false, numberFault arg false)

/-- One argument in the form that a letter asks for, with what is wrong with it; none for a letter
without a form. -/
def argument? (l : Layout) (letter : Char) (arg : String) : Option (String × List String) :=
  let unsigned := fun (base : Nat) (mark : String) =>
    let (n, faults) := argumentNumber false arg
    let size := if n < 0 then (n + Int.pow 2 64).toNat else n.toNat
    some (l.nat base mark size, faults)
  let real := fun (form : Layout.Form) =>
    let (x, negative, faults) := argumentReal arg
    some (l.real form negative x, faults)
  let raised := fun (r : Option (String × List String)) =>
    r.map fun (text, faults) => (onString upperAscii text, faults)
  match letter with
  | 's' => some (l.text arg, [])
  | 'b' => some (l.text (String.ofList (unescape (arg.length + 1) arg.toList).1), [])
  | 'd' | 'i' =>
    let (n, faults) := argumentNumber true arg
    some (l.int n, faults)
  | 'u' => unsigned 10 ""
  | 'x' => unsigned 16 "0x"
  | 'X' => raised (unsigned 16 "0x")
  | 'o' => unsigned 8 ""
  | 'c' => some ({ l with precision := none }.text
      (match arg.toList with
        | c :: _ => String.singleton c
        | [] => "\x00"), [])
  | 'f' => real .fixed
  | 'F' => raised (real .fixed)
  | 'e' => real .scientific
  | 'E' => raised (real .scientific)
  | 'g' => real .shorter
  | 'G' => raised (real .shorter)
  | _ => none

/-! ## Formats -/

/-- What a pass over a format printed, how it went on and what was wrong. -/
structure Printed where
  text : List Char := []
  /-- What is wrong with arguments. -/
  faults : List String := []
  /-- What is wrong with the format, which ends printing. -/
  broken : Option String := none
  /-- Whether an argument asked to print no more. -/
  ended : Bool := false
  /-- The arguments that are left. -/
  left : List String := []

/-- What was printed with more in front. -/
def Printed.behind (p : Printed) (text : List Char) (faults : List String) : Printed :=
  { p with text := text ++ p.text, faults := faults ++ p.faults }

/-- A number in a format: its digits, or a star that takes an argument. -/
def measure (cs : List Char) (args : List String) : Option Int × List Char × List String :=
  match cs with
  | '*' :: rest => (some (argumentNumber true (args.headD "")).1, rest, args.tail)
  | _ =>
    let ds := cs.takeWhile Char.isDigit
    ((digits? ds).map fun n => (n : Int), cs.drop ds.length, args)

/-- The layout in front of a letter, what follows it, and the arguments that are left. -/
def layout (cs : List Char) (args : List String) : Layout × List Char × List String :=
  let flags := cs.takeWhile fun c => "-0+ #".toList.contains c
  let (width, rest, args) := measure (cs.drop flags.length) args
  let (precision, rest, args) := match rest with
    | '.' :: rest =>
      let (p, rest, args) := measure rest args
      (some (p.getD 0), rest, args)
    | _ => (none, rest, args)
  let lead := if flags.contains '+' then "+" else if flags.contains ' ' then " " else ""
  let width := width.getD 0
  ({ left := flags.contains '-' || width < 0
     zeros := flags.contains '0'
     lead
     full := flags.contains '#'
     width := width.natAbs
     precision := (precision.filter (0 ≤ ·)).map Int.toNat }, rest, args)

/-- One pass over a format. -/
def pass : (steps : Nat) → List Char → List String → Printed
  | 0, _, args => { left := args }
  | _, [], args => { left := args }
  | n + 1, '%' :: '%' :: rest, args => (pass n rest args).behind ['%'] []
  | n + 1, '%' :: rest, args =>
    match layout rest args with
    | (l, letter :: after, args) =>
      let arg := args.headD ""
      match argument? l letter arg with
      | none =>
        let form := String.ofList (rest.take (rest.length - after.length))
        { broken := some ("%" ++ form ++ ": invalid directive"), left := args }
      | some (text, faults) =>
        if letter == 'b' && (unescape (arg.length + 1) arg.toList).2 then
          { text := text.toList, faults, ended := true }
        else (pass n after args.tail).behind text.toList faults
    | (_, [], args) => { broken := some "missing format character", left := args }
  | n + 1, '\\' :: c :: rest, args =>
    if isOctal c then
      let ds := ((c :: rest).take 3).takeWhile isOctal
      (pass n ((c :: rest).drop ds.length) args).behind [octalChar ds] []
    else
      match control? c with
      | some d => (pass n rest args).behind [d] []
      | none => (pass n rest args).behind ['\\', c] []
  | n + 1, c :: rest, args => (pass n rest args).behind [c] []

/-- The format used again and again until no argument is left. -/
def passes (format : List Char) : (steps : Nat) → List String → Printed
  | 0, _ => {}
  | n + 1, args =>
    let p := pass (format.length + 1) format args
    if p.ended || p.broken.isSome || p.left.isEmpty || p.left.length == args.length then p
    else (passes format n p.left).behind p.text p.faults

/-- What `printf` prints. -/
def printf (format : String) (args : List String) : Printed :=
  passes format.toList (args.length + 1) args

end Playbook.Shell.Printing
