/-
  Texts and numbers laid out in a width: signs, leading zeros, places behind the point, powers of
  ten. Numbers with places are rounded exactly, a half to the even neighbour.
-/
import Playbook.Number.Binary64

namespace Playbook.Shell

open Playbook.Number

/-- How a text or a number is laid out. -/
structure Layout where
  left : Bool := false
  zeros : Bool := false
  /-- What stands in front of a number that is not negative. -/
  lead : String := ""
  /-- Whether the form of a number is shown in full. -/
  full : Bool := false
  width : Nat := 0
  precision : Option Nat := none
  deriving Repr, DecidableEq

namespace Layout

/-- A text in the width, behind a sign; zeros fill the gap between the two if they are asked
for. -/
def pad (l : Layout) (zeros : Bool) (sign text : String) : String :=
  let gap := l.width - (sign.length + text.length)
  let fill := fun (c : Char) => String.ofList (List.replicate gap c)
  if l.left then sign ++ text ++ fill ' '
  else if zeros then sign ++ fill '0' ++ text
  else fill ' ' ++ sign ++ text

/-- A text, cut to the precision. -/
def text (l : Layout) (s : String) : String :=
  l.pad false "" (match l.precision with
    | some p => String.ofList (s.toList.take p)
    | none => s)

/-- The sign of a number. -/
def sign (l : Layout) (negative : Bool) : String := if negative then "-" else l.lead

/-- A whole number from its digits, which the precision makes more. -/
def whole (l : Layout) (sign digits : String) : String :=
  let digits := if digits == "0" && l.precision == some 0 then "" else digits
  let more := l.precision.getD 1 - digits.length
  l.pad (l.zeros && l.precision.isNone) sign
    (String.ofList (List.replicate more '0') ++ digits)

/-- A whole number. -/
def int (l : Layout) (n : Int) : String := l.whole (l.sign (n < 0)) (toString n.natAbs)

/-- The digits of a number in a base. -/
def inBase (base n : Nat) : String := String.ofList (Nat.toDigits base n)

/-- A number in a base, behind a mark of the base if the full form is asked for. -/
def nat (l : Layout) (base : Nat) (mark : String) (n : Nat) : String :=
  let digits := inBase base n
  if !l.full then l.whole "" digits
  else if base = 8 then
    l.whole "" (if n = 0 || digits.length < l.precision.getD 0 then digits else "0" ++ digits)
  else l.whole (if n = 0 then "" else mark) digits

/-! ## Numbers with places -/

/-- How many units of the smallest value make one. -/
def one : Nat := Nat.pow 2 1074

/-- The number of digits in front of the point, less one, of a positive number of units. -/
def magnitude (units : Nat) : Int :=
  if one ≤ units then (Nat.toDigits 10 (units / one)).length - 1
  else
    -- a number below one has zeros behind the point
    let k := (Nat.toDigits 10 (one / units)).length
    if one ≤ units * Nat.pow 10 (k - 1) then -((k : Int) - 1) else -(k : Int)

/-- The digits of a number of units in front of its power of ten, and the power. -/
def scientific (places units : Nat) : List Char × Int :=
  if units = 0 then (List.replicate (places + 1) '0', 0)
  else
    let e := magnitude units
    let shift := (places : Int) - e
    let n := if 0 ≤ shift then
        Binary64.roundHalfEven (units * Nat.pow 10 shift.toNat) one
      else Binary64.roundHalfEven units (one * Nat.pow 10 (-shift).toNat)
    let ds := Nat.toDigits 10 n
    if ds.length > places + 1 then (ds.dropLast, e + 1) else (ds, e)

/-- A text with a point behind the first characters, unless nothing follows them. -/
def pointed (full : Bool) (front : Nat) (ds : List Char) : String :=
  let behind := ds.drop front
  String.ofList (ds.take front) ++
    (if behind.isEmpty then (if full then "." else "") else "." ++ String.ofList behind)

/-- A number with a count of places. -/
def fixedText (full : Bool) (places units : Nat) : String :=
  let text := Binary64.fixedText places units
  if full && places = 0 then text ++ "." else text

/-- A power of ten behind a number. -/
def powerText (e : Int) : String :=
  let ds := toString e.natAbs
  "e" ++ (if e < 0 then "-" else "+") ++ (if ds.length < 2 then "0" ++ ds else ds)

/-- A number in front of a power of ten. -/
def scientificText (full : Bool) (places units : Nat) : String :=
  let (ds, e) := scientific places units
  pointed full 1 ds ++ powerText e

/-- A text without the zeros at its end behind a point. -/
def withoutZeros (text : String) : String :=
  if !text.toList.contains '.' then text
  else String.ofList ((text.toList.reverse.dropWhile (· == '0')).dropWhile (· == '.')).reverse

/-- A number with a count of digits that count, in the form that is shorter. -/
def shorterText (full : Bool) (digits units : Nat) : String :=
  let digits := max 1 digits
  let (ds, e) := scientific (digits - 1) units
  if e < -4 || (digits : Int) ≤ e then
    let front := pointed full 1 ds
    (if full then front else withoutZeros front) ++ powerText e
  else
    let text := fixedText full ((digits : Int) - 1 - e).toNat units
    if full then text else withoutZeros text

/-- The form of a number with places. -/
inductive Form where
  | fixed
  | scientific
  | shorter

/-- A number with places; `negative` is the sign of a zero. -/
def real (l : Layout) (form : Form) (negative : Bool) : Binary64 → String
  | .nan => l.pad false (l.sign negative) "nan"
  | .infinity => l.pad false (l.sign false) "inf"
  | .negInfinity => l.pad false "-" "inf"
  | .finite units =>
    let places := l.precision.getD 6
    let text := match form with
      | .fixed => fixedText l.full places units.natAbs
      | .scientific => scientificText l.full places units.natAbs
      | .shorter => shorterText l.full places units.natAbs
    l.pad l.zeros (l.sign (units < 0 || (negative && units = 0))) text

end Layout

end Playbook.Shell
