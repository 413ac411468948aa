/-
  Reading unsigned whole numbers: decimal digits after an optional plus sign, within a bound.
-/

namespace Playbook.Number

/-- The value of decimal digits read after `n`; none if another character is among them. -/
def digitsAfter (n : Nat) : List Char → Option Nat
  | [] => some n
  | c :: cs => if c.isDigit then digitsAfter (n * 10 + (c.toNat - '0'.toNat)) cs else none

/-- The value of a nonempty run of decimal digits. -/
def digits? : List Char → Option Nat
  | [] => none
  | cs => digitsAfter 0 cs

/-- A whole number of at most `bound`. -/
def unsigned? (bound : Nat) (cs : List Char) : Option Nat :=
  let body := match cs with
    | '+' :: rest => rest
    | _ => cs
  match digits? body with
  | some n => if n ≤ bound then some n else none
  | none => none

/-- The largest number of `bits` bits. -/
def maxOfBits (bits : Nat) : Nat := Nat.pow 2 bits - 1

end Playbook.Number
