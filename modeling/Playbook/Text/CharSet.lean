/-
  Sets of characters as ranges of code points. The ranges of a set lie apart from each other in
  ascending order; two ranges that touch are one, except that the code points D7FF and E000,
  which are neighbours among the characters but not among the numbers, do not touch.
-/

namespace Playbook.Text

/-- The bounds of a range of code points, both included. -/
abbrev CodeRange := Nat × Nat

/-- A set of characters, as its ranges. -/
structure CharSet where
  ranges : Array CodeRange
  deriving Repr, DecidableEq

namespace CharSet

/-- The largest code point. -/
def lastCode : Nat := 0x10FFFF

/-- The code point of the next character. -/
def next (n : Nat) : Nat := if n = 0xD7FF then 0xE000 else n + 1

/-- The code point of the character before. -/
def previous (n : Nat) : Nat := if n = 0xE000 then 0xD7FF else n - 1

/-! ## Ranges -/

/-- Ranges in ascending order with those that overlap or touch made one. -/
def glueFrom (open_ : CodeRange) : List CodeRange → List CodeRange
  | [] => [open_]
  | r :: rest =>
    if max open_.1 r.1 ≤ min open_.2 r.2 + 1 then
      glueFrom (min open_.1 r.1, max open_.2 r.2) rest
    else open_ :: glueFrom r rest

/-- The order of ranges: by their first code points, then by their last ones. -/
def precedes (a b : CodeRange) : Bool := a.1 < b.1 || (a.1 == b.1 && a.2 ≤ b.2)

/-- Any ranges in order, overlaps and neighbours made one. -/
def arranged (rs : List CodeRange) : List CodeRange :=
  match rs.mergeSort precedes with
  | [] => []
  | r :: rest => glueFrom r rest

/-- What lies in ranges of both lists. -/
def meet : List CodeRange → List CodeRange → List CodeRange
  | [], _ => []
  | _ :: _, [] => []
  | a :: as, b :: bs =>
    let rest := if a.2 < b.2 then meet as (b :: bs) else meet (a :: as) bs
    if max a.1 b.1 ≤ min a.2 b.2 then (max a.1 b.1, min a.2 b.2) :: rest else rest
termination_by as bs => as.length + bs.length

/-- What lies in ranges of the first list only; `steps` bounds the ranges that are looked at. -/
def without : (steps : Nat) → List CodeRange → List CodeRange → List CodeRange
  | 0, as, _ => as
  | _ + 1, [], _ => []
  | _ + 1, as, [] => as
  | n + 1, a :: as, b :: bs =>
    if b.2 < a.1 then without n (a :: as) bs
    else if a.2 < b.1 then a :: without n as (b :: bs)
    else
      let rest :=
        if b.2 < a.2 then without n ((next b.2, a.2) :: as) bs else without n as (b :: bs)
      if a.1 < b.1 then (a.1, previous b.1) :: rest else rest

/-- The range between two ranges. Between D7FF and E000 there is nothing, but the two count as a
range of their own. -/
def between (a b : CodeRange) : CodeRange :=
  let lo := next a.2
  let hi := previous b.1
  (min lo hi, max lo hi)

/-- The ranges between the given ones, and the one behind the last. -/
def gaps : List CodeRange → List CodeRange
  | [] => []
  | [a] => if a.2 < lastCode then [(next a.2, lastCode)] else []
  | a :: b :: rest => between a b :: gaps (b :: rest)

/-- What lies in no range. -/
def outside : List CodeRange → List CodeRange
  | [] => [(0, lastCode)]
  | a :: rest =>
    if 0 < a.1 then (0, previous a.1) :: gaps (a :: rest) else gaps (a :: rest)

/-! ## Sets -/

/-- No character. -/
def empty : CharSet := ⟨#[]⟩

/-- Every character. -/
def full : CharSet := ⟨#[(0, lastCode)]⟩

/-- The characters of some ranges. -/
def ofRanges (rs : List CodeRange) : CharSet := ⟨(arranged rs).toArray⟩

/-- The characters between two, both included. -/
def range (lo hi : Char) : CharSet := ⟨#[(lo.toNat, hi.toNat)]⟩

/-- One character. -/
def single (c : Char) : CharSet := range c c

def isEmpty (s : CharSet) : Bool := s.ranges.isEmpty

/-- Whether all characters are ASCII. -/
def isAscii (s : CharSet) : Bool :=
  match s.ranges.back? with
  | some r => r.2 ≤ 0x7F
  | none => true

/-- The character of a set that has only one. -/
def only? (s : CharSet) : Option Char :=
  match s.ranges.toList with
  | [(lo, hi)] => if lo = hi then some (Char.ofNat lo) else none
  | _ => none

def union (s t : CharSet) : CharSet := ofRanges (s.ranges.toList ++ t.ranges.toList)

def intersection (s t : CharSet) : CharSet := ⟨(meet s.ranges.toList t.ranges.toList).toArray⟩

/-- The characters of the first set that are not in the second. -/
def difference (s t : CharSet) : CharSet :=
  let steps := 2 * (s.ranges.size + t.ranges.size) + 1
  ⟨(without steps s.ranges.toList t.ranges.toList).toArray⟩

/-- The characters of exactly one of two sets. -/
def symmetricDifference (s t : CharSet) : CharSet := (union s t).difference (intersection s t)

def complement (s : CharSet) : CharSet := ⟨(outside s.ranges.toList).toArray⟩

/-- The union of several sets. -/
def unionOf (ss : List CharSet) : CharSet := ofRanges (ss.flatMap fun s => s.ranges.toList)

instance : Union CharSet := ⟨union⟩

instance : Inter CharSet := ⟨intersection⟩

instance : SDiff CharSet := ⟨difference⟩

/-- Whether a code point lies in one of the ranges from index `lo` up to `hi`; as many halvings as
`steps` suffice. -/
def search (ranges : Array CodeRange) (n : Nat) : (steps lo hi : Nat) → Bool
  | 0, _, _ => false
  | k + 1, lo, hi =>
    if hi ≤ lo then false
    else
      let middle := (lo + hi) / 2
      match ranges[middle]? with
      | none => false
      | some r =>
        if n < r.1 then search ranges n k lo middle
        else if r.2 < n then search ranges n k (middle + 1) hi
        else true

/-- Whether the code point is in the set. -/
def has (s : CharSet) (n : Nat) : Bool := search s.ranges n 32 0 s.ranges.size

/-- Whether the character is in the set. -/
def mem (s : CharSet) (c : Char) : Bool := s.has c.toNat

/-! ## Tables

A table of numbers is written as text. Each number ends with a digit to the base 36; capital
letters before it are leading digits to the base 26. -/

/-- The value of a last digit. -/
def lastDigit (c : Char) : Nat :=
  if c.isDigit then c.toNat - '0'.toNat else c.toNat - 'a'.toNat + 10

/-- The numbers that a text spells, given the leading digits read before. -/
def numbersFrom (leading : Nat) : List Char → List Nat
  | [] => []
  | c :: cs =>
    if c.isUpper then numbersFrom (leading * 26 + (c.toNat - 'A'.toNat)) cs
    else (leading * 36 + lastDigit c) :: numbersFrom 0 cs

/-- The numbers that a text spells. -/
def numbers (text : String) : List Nat := numbersFrom 0 text.toList

/-- Ranges from the gap before each and how far its last code point is from its first. -/
def rangesFrom (start : Nat) : List Nat → List CodeRange
  | gap :: extent :: rest =>
    (start + gap, start + gap + extent) :: rangesFrom (start + gap + extent + 1) rest
  | _ => []

/-- The set that a table of gaps and extents spells. -/
def ofTable (text : String) : CharSet := ⟨(rangesFrom 0 (numbers text)).toArray⟩

/-- The runs of a table that partitions the code points: the bounds of each run and its number. -/
def runsFrom (start : Nat) : List Nat → List (CodeRange × Nat)
  | count :: value :: rest =>
    ((start, start + count - 1), value) :: runsFrom (start + count) rest
  | _ => []

/-- The code points of the runs whose numbers are wanted. -/
def ofRuns (runs : List (CodeRange × Nat)) (wanted : Nat → Bool) : CharSet :=
  ofRanges ((runs.filter fun run => wanted run.2).map Prod.fst)

end CharSet

end Playbook.Text
