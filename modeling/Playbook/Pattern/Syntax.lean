/-
  Patterns: regular expressions over characters in their plainest form. The functions that build
  them leave out what changes nothing: texts that follow each other are one text, alternatives of
  single characters are a set, and what all alternatives begin with stands before them.
-/
import Playbook.Text.CharSet
import Playbook.Pattern.Written

namespace Playbook

open Playbook.Text

/-- A regular expression. -/
inductive Pattern where
  | empty
  /-- These characters, at least one, in this order. -/
  | text (cs : List Char)
  /-- One character of a set; without characters in the set, nothing matches. -/
  | one (s : CharSet)
  /-- A boundary; `wide` words are those of Unicode, others those of ASCII. -/
  | edge (b : Pattern.Boundary) (wide : Bool)
  /-- A part that is remembered under a number. -/
  | group (index : Nat) (p : Pattern)
  /-- From `least` to `most` times; without `most`, as often as one likes. An eager repetition
  prefers more of them. -/
  | times (least : Nat) (most : Option Nat) (eager : Bool) (p : Pattern)
  | sequence (ps : List Pattern)
  | either (ps : List Pattern)
  deriving Repr

namespace Pattern

mutual

/-- Whether two patterns are written alike. -/
def same : Pattern → Pattern → Bool
  | empty, empty => true
  | text cs, text ds => cs == ds
  | one s, one t => s == t
  | edge b wide, edge c broad => b == c && wide == broad
  | group i p, group j q => i == j && p.same q
  | times least most eager p, times fewest highest keen q =>
    least == fewest && most == highest && eager == keen && p.same q
  | sequence ps, sequence qs => allSame ps qs
  | either ps, either qs => allSame ps qs
  | _, _ => false

/-- Whether two lists of patterns are written alike. -/
def allSame : List Pattern → List Pattern → Bool
  | [], [] => true
  | p :: ps, q :: qs => p.same q && allSame ps qs
  | _, _ => false

end

/-! ## Lengths -/

/-- The lengths in bytes that matches can have. Without `least` there may be no match at all;
without `most` there is no bound. -/
structure Extent where
  least : Option Nat
  most : Option Nat
  deriving Repr, DecidableEq

namespace Extent

/-- Exactly this long. -/
def exactly (n : Nat) : Extent := ⟨some n, some n⟩

/-- One after the other. -/
def followedBy (a b : Extent) : Extent :=
  ⟨do return (← a.least) + (← b.least), do return (← a.most) + (← b.most)⟩

/-- One or the other. -/
def orElse (a b : Extent) : Extent :=
  ⟨do return min (← a.least) (← b.least), do return max (← a.most) (← b.most)⟩

/-- From `least` to `most` times. -/
def repeated (a : Extent) (least : Nat) (most : Option Nat) : Extent :=
  ⟨a.least.map (· * least), do return (← a.most) * (← most)⟩

/-- The lengths of the characters of a set. -/
def ofSet (s : CharSet) : Extent :=
  ⟨s.ranges[0]?.map fun r => (Char.ofNat r.1).utf8Size,
    s.ranges.back?.map fun r => (Char.ofNat r.2).utf8Size⟩

/-- Whether a match takes no characters. -/
def isVoid (a : Extent) : Bool := a.most == some 0

/-- Whether every match takes a character. -/
def isFilled (a : Extent) : Bool := (a.least.map fun n => decide (0 < n)).getD false

end Extent

mutual

/-- The lengths that matches of a pattern can have. -/
def extent : Pattern → Extent
  | empty => .exactly 0
  | text cs => .exactly (cs.map Char.utf8Size).sum
  | one s => .ofSet s
  | edge _ _ => .exactly 0
  | group _ p => p.extent
  | times least most _ p => p.extent.repeated least most
  | sequence ps => extentOfAll ps
  | either ps => extentOfAny ps

/-- The lengths of patterns one after the other. -/
def extentOfAll : List Pattern → Extent
  | [] => .exactly 0
  | p :: ps => p.extent.followedBy (extentOfAll ps)

/-- The lengths of alternatives. -/
def extentOfAny : List Pattern → Extent
  | [] => ⟨none, none⟩
  | [p] => p.extent
  | p :: ps => p.extent.orElse (extentOfAny ps)

end

/-! ## Anchors -/

mutual

/-- Whether every match begins at such a boundary, as far as can be seen. -/
def opensAt (b : Boundary) : Pattern → Bool
  | edge c _ => c == b
  | group _ p => p.opensAt b
  | times least _ _ p => 0 < least && p.opensAt b
  | sequence ps => firstOpensAt b ps
  | either ps => allOpenAt b ps
  | _ => false

/-- Whether one of the parts before the first character begins at such a boundary. -/
def firstOpensAt (b : Boundary) : List Pattern → Bool
  | [] => false
  | p :: ps => p.opensAt b || (p.extent.isVoid && firstOpensAt b ps)

/-- Whether all alternatives begin at such a boundary. -/
def allOpenAt (b : Boundary) : List Pattern → Bool
  | [] => true
  | p :: ps => p.opensAt b && allOpenAt b ps

end

mutual

/-- Whether every match ends at such a boundary, as far as can be seen. -/
def closesAt (b : Boundary) : Pattern → Bool
  | edge c _ => c == b
  | group _ p => p.closesAt b
  | times least _ _ p => 0 < least && p.closesAt b
  | sequence ps => lastClosesAt b ps
  | either ps => allCloseAt b ps
  | _ => false

/-- Whether one of the parts behind the last character ends at such a boundary. -/
def lastClosesAt (b : Boundary) : List Pattern → Bool
  | [] => false
  | p :: ps => lastClosesAt b ps || (p.closesAt b && ps.all fun q => q.extent.isVoid)

/-- Whether all alternatives end at such a boundary. -/
def allCloseAt (b : Boundary) : List Pattern → Bool
  | [] => true
  | p :: ps => p.closesAt b && allCloseAt b ps

end

/-! ## Building -/

/-- Nothing matches. -/
def never : Pattern := one .empty

/-- One character of a set. -/
def ofSet (s : CharSet) : Pattern :=
  match s.only? with
  | some c => text [c]
  | none => one s

/-- A repetition. What takes no characters need not be repeated. -/
def repeating (least : Nat) (most : Option Nat) (eager : Bool) (p : Pattern) : Pattern :=
  let void := p.extent.isVoid
  let least := if void then min least 1 else least
  let most := if void then some ((most.map (min · 1)).getD 1) else most
  if least = 0 && most == some 0 then empty
  else if least = 1 && most == some 1 then p
  else times least most eager p

/-- The parts of a sequence, with sequences among them opened. -/
def opened (ps : List Pattern) : List Pattern :=
  ps.flatMap fun
    | sequence qs => qs
    | empty => []
    | p => [p]

/-- Texts that follow each other made one. -/
def joinTexts : List Pattern → List Pattern
  | [] => []
  | text cs :: rest =>
    match joinTexts rest with
    | text ds :: more => text (cs ++ ds) :: more
    | more => text cs :: more
  | p :: rest => p :: joinTexts rest

/-- One pattern after the other. -/
def inOrder (ps : List Pattern) : Pattern :=
  match joinTexts (opened ps) with
  | [] => empty
  | [p] => p
  | parts => sequence parts

/-- The alternatives, with alternatives among them opened. -/
def spread (ps : List Pattern) : List Pattern :=
  ps.flatMap fun
    | either qs => qs
    | p => [p]

/-- The set of a text of one character. -/
def single? : Pattern → Option CharSet
  | text [c] => some (.single c)
  | _ => none

/-- The set that a pattern is. -/
def set? : Pattern → Option CharSet
  | one s => some s
  | _ => none

/-- The parts of a sequence. -/
def parts? : Pattern → Option (List Pattern)
  | sequence ps => some ps
  | _ => none

/-- How many parts two sequences have in common at their beginnings. -/
def sharedParts : List Pattern → List Pattern → Nat
  | p :: ps, q :: qs => if p.same q then sharedParts ps qs + 1 else 0
  | _, _ => 0

/-- How many parts all sequences have in common at their beginnings. -/
def sharedByAll : List (List Pattern) → Nat
  | [] => 0
  | first :: rest => rest.foldl (fun n ps => min n (sharedParts first ps)) first.length

/-- Alternatives that have nothing in common at their beginnings. -/
def apart (ps : List Pattern) : Pattern :=
  match spread ps with
  | [] => never
  | [p] => p
  | all =>
    match all.mapM single?, all.mapM set? with
    | some sets, _ => ofSet (.unionOf sets)
    | none, some sets => ofSet (.unionOf sets)
    | none, none => either all

/-- One of several patterns. -/
def anyOf (ps : List Pattern) : Pattern :=
  match apart ps with
  | either all =>
    match all.mapM parts? with
    | none => either all
    | some sequences =>
      let n := sharedByAll sequences
      if n = 0 then either all
      else
        let rests := apart (sequences.map fun parts => inOrder (parts.drop n))
        inOrder ((sequences.headD []).take n ++ [rests])
  | p => p

end Pattern

end Playbook
