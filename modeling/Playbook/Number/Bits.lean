/-
  Numbers of the binary64 format and their sixty-four bits: a sign, eleven bits of an exponent and
  fifty-two of a fraction.
-/
import Playbook.Number.Binary64

namespace Playbook.Number.Binary64

/-- The number with the bits, of which the sign counts for a zero as for every other. -/
def ofBits (bits : Nat) : Binary64 :=
  let negative := bits.testBit 63
  let exponent := (bits >>> 52) % 2048
  let fraction := bits % Nat.pow 2 52
  if exponent = 2047 then
    if fraction ≠ 0 then nan else if negative then negInfinity else infinity
  else
    -- all numbers but the smallest have a bit in front of their fraction
    let units := if exponent = 0 then fraction else (Nat.pow 2 52 + fraction) <<< (exponent - 1)
    finite (if negative then -units else units)

/-- The bits of a positive number of units. -/
def bitsOfUnits (units : Nat) : Nat :=
  if units < Nat.pow 2 53 then units
  else
    let k := units.log2 - 52
    -- the bit in front of the fraction adds one to the exponent
    (k <<< 52) + (units >>> k)

/-- The bits of a number. -/
def toBits : Binary64 → Nat
  | nan => 0x7FF8000000000000
  | infinity => 0x7FF0000000000000
  | negInfinity => 0xFFF0000000000000
  | finite units => bitsOfUnits units.natAbs + (if units < 0 then Nat.pow 2 63 else 0)

/-- A number that the machine computes with. -/
def ofFloat (x : Float) : Binary64 := ofBits x.toBits.toNat

/-- A number for the machine to compute with. -/
def toFloat (b : Binary64) : Float := Float.ofBits b.toBits.toUInt64

end Playbook.Number.Binary64
