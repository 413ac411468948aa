/-
  Ranges of characters by their bytes: every range of code points falls into ranges whose encodings
  in UTF-8 are all that a few ranges of bytes, one after the other, can make.
-/
import Playbook.Text.CharSet

namespace Playbook.Text

/-- The bounds of a range of bytes, both included. -/
abbrev ByteRange := Nat × Nat

/-- The last code points with encodings of one, two and three bytes. -/
def lastOfLengths : List Nat := [0x7F, 0x7FF, 0xFFFF]

/-- How many code points have all but their last one, two or three bytes in common. -/
def alignments : List Nat := [0x40, 0x1000, 0x40000]

/-- Where a range has to be cut because of its alignment: the last code point before the cut. -/
def cutByAlignment? (lo hi size : Nat) : Option Nat :=
  if lo / size = hi / size then none
  else if lo % size ≠ 0 then some (lo / size * size + size - 1)
  else if hi % size ≠ size - 1 then some (hi / size * size - 1)
  else none

/-- Where a range has to be cut: the last code point before the cut and the first one behind it. -/
def cut? (lo hi : Nat) : Option (Nat × Nat) :=
  if lo < 0xE000 ∧ 0xD7FF < hi then some (0xD7FF, 0xE000)
  else
    match lastOfLengths.find? fun last => decide (lo ≤ last ∧ last < hi) with
    | some last => some (last, last + 1)
    | none =>
      if hi ≤ 0x7F then none
      else (alignments.findSome? (cutByAlignment? lo hi)).map fun last => (last, last + 1)

/-- A range cut until no part has to be cut; sixteen cuts on the way to a part suffice. -/
def cutUp : (steps : Nat) → (lo hi : Nat) → List CodeRange
  | 0, lo, hi => [(lo, hi)]
  | k + 1, lo, hi =>
    if hi < lo then []
    else match cut? lo hi with
      | none => [(lo, hi)]
      | some (last, first) => cutUp k lo last ++ cutUp k first hi

/-- The bytes of a code point. -/
def bytesOf (n : Nat) : List Nat := (String.utf8EncodeChar (Char.ofNat n)).map UInt8.toNat

/-- The ranges of bytes, one after the other, for each part of a range. -/
def byteRanges (r : CodeRange) : List (List ByteRange) :=
  (cutUp 16 r.1 r.2).map fun part => (bytesOf part.1).zip (bytesOf part.2)

end Playbook.Text
