/-
  Decimal text as a number of the binary64 format: the nearest representable value, a tie going
  to the even significand. A finite value is kept as a whole number of the smallest positive
  value 2^-1074, so the order of numbers is the order of integers.
-/
import Playbook.Number.Unsigned

namespace Playbook.Number

/-- A number of the binary64 format. Zero has one form. -/
inductive Binary64 where
  /-- Not a number: neither less than, equal to, nor greater than anything. -/
  | nan
  | negInfinity
  /-- `units` times 2^-1074. -/
  | finite (units : Int)
  | infinity
  deriving Repr, DecidableEq

namespace Binary64

/-- The order of two numbers; none if one of them is not a number. -/
def compare? : Binary64 → Binary64 → Option Ordering
  | nan, _ => none
  | _, nan => none
  | negInfinity, negInfinity => some .eq
  | negInfinity, _ => some .lt
  | _, negInfinity => some .gt
  | infinity, infinity => some .eq
  | infinity, _ => some .gt
  | _, infinity => some .lt
  | finite a, finite b => some (compare a b)

/-- The same distance on the other side of zero. -/
def negate : Binary64 → Binary64
  | nan => nan
  | negInfinity => infinity
  | infinity => negInfinity
  | finite n => finite (-n)

/-- The whole number nearest to `num / den`; of two, the even one. -/
def roundHalfEven (num den : Nat) : Nat :=
  let q := num / den
  let twice := 2 * (num % den)
  if twice < den then q
  else if den < twice then q + 1
  else if q % 2 = 0 then q else q + 1

/-- The representable value nearest to `num / den`, with `den` positive: 53 significant bits, or
fewer when the value is below 2^-1022. -/
def nearest (num den : Nat) : Binary64 :=
  let scaled := num <<< 1074
  let whole := scaled / den
  let units :=
    if whole < Nat.pow 2 53 then roundHalfEven scaled den
    else
      let k := whole.log2 - 52
      roundHalfEven scaled (den <<< k) <<< k
  if units < Nat.pow 2 2098 then finite units else infinity

/-- The sum of two numbers, rounded to the nearest representable value. -/
def add : Binary64 → Binary64 → Binary64
  | nan, _ => nan
  | _, nan => nan
  | infinity, negInfinity => nan
  | negInfinity, infinity => nan
  | infinity, _ => infinity
  | _, infinity => infinity
  | negInfinity, _ => negInfinity
  | _, negInfinity => negInfinity
  | finite a, finite b =>
    let sum := nearest (a + b).natAbs (Nat.pow 2 1074)
    if a + b < 0 then sum.negate else sum

/-- A number of units with a fixed count of places, a half going to the even neighbour. -/
def fixedText (places units : Nat) : String :=
  let scaled := roundHalfEven (units * Nat.pow 10 places) (Nat.pow 2 1074)
  let ds := Nat.toDigits 10 scaled
  let ds := List.replicate (places + 1 - ds.length) '0' ++ ds
  let whole := String.ofList (ds.take (ds.length - places))
  let fraction := String.ofList (ds.drop (ds.length - places))
  if places = 0 then whole else whole ++ "." ++ fraction

/-- The representable value nearest to `m * 10 ^ e`. -/
def ofDecimal (m : Nat) (e : Int) : Binary64 :=
  if m = 0 then finite 0
  else
    let magnitude : Int := (Nat.toDigits 10 m).length + e
    if magnitude > 310 then infinity
    else if magnitude < -330 then finite 0
    else if 0 ≤ e then nearest (m * Nat.pow 10 e.toNat) 1
    else nearest m (Nat.pow 10 (-e).toNat)

/-- The exponent after `e` or `E`: a sign, if any, and digits. No text is the exponent 0. -/
def exponent? : List Char → Option Int
  | [] => some 0
  | c :: rest =>
    if c == 'e' || c == 'E' then
      match rest with
      | '-' :: ds => (digits? ds).map fun n => -(n : Int)
      | '+' :: ds => (digits? ds).map fun n => (n : Int)
      | ds => (digits? ds).map fun n => (n : Int)
    else none

/-- An unsigned decimal number: digits with at most one point among them, at least one digit,
then an exponent if any. -/
def decimal? (cs : List Char) : Option Binary64 :=
  let whole := cs.takeWhile Char.isDigit
  let rest := cs.dropWhile Char.isDigit
  let (places, rest) := match rest with
    | '.' :: more => (more.takeWhile Char.isDigit, more.dropWhile Char.isDigit)
    | _ => ([], rest)
  match digits? (whole ++ places), exponent? rest with
  | some m, some e => some (ofDecimal m (e - places.length))
  | _, _ => none

/-- An unsigned number: decimal, or the name of infinity or of what is not a number, in any
letter case. -/
def magnitude? (cs : List Char) : Option Binary64 :=
  let name := String.ofList (cs.map Char.toLower)
  if name == "inf" || name == "infinity" then some infinity
  else if name == "nan" then some nan
  else decimal? cs

/-- The number that a text spells, with an optional sign and no blanks. -/
def ofText? : List Char → Option Binary64
  | '-' :: rest => (magnitude? rest).map negate
  | '+' :: rest => magnitude? rest
  | cs => magnitude? cs

end Binary64

end Playbook.Number
