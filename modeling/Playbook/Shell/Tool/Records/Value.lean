/-
  Values of programs that go through records. A value from outside counts as a number if it looks
  like one; whole numbers are shown in full, and others with six digits.
-/
import Playbook.Text.Blank
import Playbook.Shell.Tool.Records.Token
import Playbook.Shell.Tool.System

namespace Playbook.Shell.Tool.Records

open Playbook.Text Playbook.Number

/-- A value. -/
inductive Value where
  /-- The value of what was never given one: zero and no text. -/
  | unset
  | number (x : Float)
  | text (s : String)
  /-- A text from outside. -/
  | given (s : String)

instance : Inhabited Value := ⟨.unset⟩

/-! ## Numbers in texts -/

/-- The number that hexadecimal digits spell, if their mark is in front of them. -/
def hexadecimal? : List Char → Option Float
  | '0' :: x :: rest =>
    let ds := Expression.digitsOf 16 rest.length rest
    if (x == 'x' || x == 'X') && !ds.isEmpty then
      some (Float.ofNat (ds.foldl (fun v d => v * 16 + d) 0))
    else none
  | _ => none

/-- Whether a name stands in front of a text, whatever the case of its letters. -/
def beginsWith (name : String) (cs : List Char) : Bool :=
  name.toList.isPrefixOf ((cs.take name.length).map Char.toLower)

/-- The unsigned number in front of a text, zero for none. -/
def leadingMagnitude (cs : List Char) : Float :=
  match hexadecimal? cs with
  | some x => x
  | none =>
    let size := Token.decimalSize cs
    if size != 0 then Token.decimal (cs.take size)
    else if beginsWith "inf" cs then 1.0 / 0.0
    else if beginsWith "nan" cs then 0.0 / 0.0
    else 0.0

/-- A text without its sign, and whether that is a minus. -/
def unsigned : List Char → List Char × Bool
  | '-' :: rest => (rest, true)
  | '+' :: rest => (rest, false)
  | cs => (cs, false)

/-- The number in front of a text, zero for none. -/
def leadingNumber (s : String) : Float :=
  let (cs, negative) := unsigned (s.toList.dropWhile Arithmetic.isSpace)
  let x := leadingMagnitude cs
  if negative then -x else x

/-- Whether a text is a number and nothing else but blanks around it. -/
def looksLikeNumber (s : String) : Bool :=
  let (cs, _) := unsigned (s.toList.dropWhile Arithmetic.isSpace)
  let size := Token.decimalSize cs
  let name := String.ofList ((cs.take 3).map Char.toLower)
  let size := if size = 0 && (name == "inf" || name == "nan") then 3 else size
  size != 0 && (cs.drop size).all Arithmetic.isSpace

/-! ## Whole numbers -/

/-- The whole number that a number is. -/
def whole? (x : Float) : Option Int :=
  match Binary64.ofFloat x with
  | .finite units =>
    if units % (Layout.one : Int) = 0 then some (units / (Layout.one : Int)) else none
  | _ => none

/-- A number without its places; none for what is no finite number. -/
def cut? (x : Float) : Option Int :=
  match Binary64.ofFloat x with
  | .finite units => some (Int.tdiv units (Layout.one : Int))
  | _ => none

/-- The largest whole number without and with a sign. -/
def mostUnsigned : Int := Int.pow 2 64 - 1

def mostSigned : Int := Int.pow 2 63 - 1

/-- A number as a whole one for a format, as far as it fits. -/
def signedOf (x : Float) : Int :=
  match cut? x with
  | some n => if n < -mostSigned then -mostSigned else min n mostUnsigned
  | none => if x.isNaN then -mostSigned - 1 else if x < 0 then -mostSigned else mostUnsigned

/-- A number as one without a sign; what is below zero is counted from the end. -/
def unsignedOf (x : Float) : Nat :=
  let n := match cut? x with
    | some n => max (-mostUnsigned) (min n mostUnsigned)
    | none => if x.isNaN then mostSigned + 1 else if x < 0 then -mostUnsigned else mostUnsigned
  (n % Int.pow 2 64).toNat

/-! ## Formats -/

/-- What is wrong with a format. -/
inductive FormatFault where
  | arguments
  | conversion (number : Nat)
  deriving Repr, DecidableEq

/-- The fault in the words of a function that lays out. -/
def FormatFault.text (f : FormatFault) (function format : String) : String :=
  let what := match f with
    | arguments => "not enough arguments passed to"
    | conversion k => s!"improper conversion(number {k}) in"
  what ++ " " ++ function ++ "(\"" ++ format ++ "\")"

/-- What a format asks for with a letter. -/
inductive Wish where
  | letter
  | text
  | signed
  | unsigned (base : Nat)
  | real (form : Layout.Form)

/-- What a letter asks for. -/
def wish? : Char → Option Wish
  | 'c' => some .letter
  | 's' => some .text
  | 'd' | 'i' => some .signed
  | 'u' => some (.unsigned 10)
  | 'o' => some (.unsigned 8)
  | 'x' | 'X' => some (.unsigned 16)
  | 'f' | 'F' => some (.real .fixed)
  | 'e' | 'E' => some (.real .scientific)
  | 'g' | 'G' => some (.real .shorter)
  | _ => none

/-- A number with places in a layout. -/
def realText (l : Layout) (form : Layout.Form) (x : Float) : String :=
  if x.isNaN then l.pad false "-" "nan"
  else l.real form (x.toBits >>> 63 != 0) (Binary64.ofFloat x)

/-- A number in the format of one number. -/
def numberText (format : String) (x : Float) : String :=
  match whole? x with
  | some n =>
    if -mostSigned - 1 ≤ n && n ≤ mostUnsigned + 1 then toString (min n mostUnsigned) else laidOut
  | none => laidOut
where
  /-- The number as the format asks for it. -/
  laidOut : String :=
    match format.toList with
    | '%' :: rest =>
      match Printing.layout rest [] with
      | (l, letter :: after, _) =>
        match wish? letter with
        | some (.real form) => realText l form x ++ String.ofList after
        | some .signed => l.int (signedOf x) ++ String.ofList after
        | some (.unsigned base) => l.nat base "" (unsignedOf x) ++ String.ofList after
        | _ => format
      | _ => format
    | _ => format

namespace Value

/-- The text of a value; numbers that are not whole are laid out in a format. -/
def toText (format : String) : Value → String
  | unset => ""
  | number x => numberText format x
  | text s => s
  | given s => s

/-- The number of a value. -/
def toNumber : Value → Float
  | unset => 0
  | number x => x
  | text s => leadingNumber s
  | given s => leadingNumber s

/-- A value from outside that looks like a number, as a number. -/
def settled : Value → Value
  | given s => if looksLikeNumber s then number (leadingNumber s) else text s
  | v => v

/-- Whether a value holds. -/
def holds (v : Value) : Bool :=
  match v.settled with
  | unset => false
  | number x => x != 0
  | text s => !s.isEmpty
  | given s => !s.isEmpty

/-- The order of two values: as texts if one of them is a text, and as numbers otherwise. -/
def order (format : String) (a b : Value) : Ordering :=
  let byNumber := fun (x y : Float) => if x > y then Ordering.gt else if x < y then .lt else .eq
  match a.settled, b.settled with
  | text s, v => compare s (v.toText format)
  | v, text s => compare (v.toText format) s
  | v, w => byNumber v.toNumber w.toNumber

end Value

/-- Whether a comparison is true of an order. -/
def Comparison.fits (c : Comparison) (o : Ordering) : Bool :=
  match c with
  | .less => o == .lt
  | .atMost => o != .gt
  | .equal => o == .eq
  | .different => o != .eq
  | .more => o == .gt
  | .atLeast => o != .lt

/-- The remainder that has the sign of the first number. -/
def remainderOf (x y : Float) : Float :=
  match Binary64.ofFloat x, Binary64.ofFloat y with
  | .finite a, .finite b => if b = 0 then 0.0 / 0.0 else (Binary64.finite (Int.tmod a b)).toFloat
  | .finite _, .infinity | .finite _, .negInfinity => x
  | _, _ => 0.0 / 0.0

/-- Two numbers put together. -/
def Operation.apply (op : Operation) (x y : Float) : Float :=
  match op with
  | .add => x + y
  | .subtract => x - y
  | .multiply => x * y
  | .divide => x / y
  | .remainder => remainderOf x y
  | .power => x ^ y

/-! ## Laying out -/

/-- One value as a format asks for it. -/
def laidOut (conversion : String) (l : Layout) (letter : Char) (wish : Wish) (v : Value) :
    String :=
  let raised := fun (s : String) => if letter.isUpper then onString upperAscii s else s
  match wish with
  | .letter =>
    let l := { l with precision := none }
    match v.settled with
    | .number x => l.text (String.singleton (Char.ofNat (unsignedOf x % 256)))
    | v => l.text (String.singleton ((v.toText conversion).toList.headD '\x00'))
  | .text => l.text (v.toText conversion)
  | .signed => l.int (signedOf v.toNumber)
  | .unsigned base => raised (l.nat base "0x" (unsignedOf v.toNumber))
  | .real form => raised (realText l form v.toNumber)

/-- Values in a format, and what is wrong with it; `number` counts the values. `conversion` is the
format of numbers that are shown as texts. -/
def format (conversion : String) : (steps number : Nat) → List Char → List Value →
    String × Option FormatFault
  | 0, _, _, _ => ("", none)
  | _, _, [], _ => ("", none)
  | n + 1, k, '%' :: '%' :: rest, vs =>
    let (text, fault) := format conversion n k rest vs
    ("%" ++ text, fault)
  | n + 1, k, '%' :: rest, vs =>
    -- a star takes a number from the values
    let stars := (rest.takeWhile fun c => !c.isAlpha).count '*'
    let measures := (vs.take stars).map fun v => toString (signedOf v.toNumber)
    let (l, after, _) := Printing.layout rest measures
    let after := after.dropWhile fun c => c == 'l' || c == 'h'
    match vs.drop stars, after with
    | [], _ => ("", some .arguments)
    | _, [] => ("", some (.conversion k))
    | v :: vs, letter :: after =>
      match wish? letter with
      | none => ("", some (.conversion k))
      | some wish =>
        let (text, fault) := format conversion n (k + 1) after vs
        (laidOut conversion l letter wish v ++ text, fault)
  | n + 1, k, c :: rest, vs =>
    let (text, fault) := format conversion n k rest vs
    (String.singleton c ++ text, fault)

end Playbook.Shell.Tool.Records
