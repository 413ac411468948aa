/-
  Patterns as they are written: what stands where, before it is known what it means.
-/
import Playbook.Pattern.Fault

namespace Playbook.Pattern

/-- A condition on the place between two characters. -/
inductive Boundary where
  | textStart
  | textEnd
  | lineStart
  | lineEnd
  /-- Lines that may also end in carriage returns. -/
  | lineStartCr
  | lineEndCr
  | wordEdge
  | noWordEdge
  | wordStart
  | wordEnd
  | wordStartHalf
  | wordEndHalf
  deriving Repr, DecidableEq

/-- One character. -/
structure Letter where
  char : Char
  span : Span
  /-- Written by two hexadecimal digits, it is a byte where classes are those of ASCII. -/
  asByte : Bool := false
  deriving Repr, DecidableEq

/-- The classes that a letter behind a backslash stands for. -/
inductive LetterClass where
  | digit
  | blank
  | word
  deriving Repr, DecidableEq

/-- What is asked for between the braces of a property. -/
inductive PropertyQuery where
  | named (name : List Char)
  /-- A property and its value; `unequal` asks for all other values. -/
  | valued (name value : List Char) (unequal : Bool)
  deriving Repr, DecidableEq

/-- How two classes are joined. -/
inductive ClassOperator where
  | intersection
  | difference
  | symmetricDifference
  deriving Repr, DecidableEq

/-- What stands between brackets. -/
inductive WrittenClass where
  | nothing (span : Span)
  | letter (l : Letter)
  | range (span : Span) (lo hi : Letter)
  /-- A class with a name between `[:` and `:]`, as ranges of ASCII. -/
  | ascii (span : Span) (ranges : List (Char × Char)) (negated : Bool)
  | escaped (span : Span) (kind : LetterClass) (negated : Bool)
  | property (span : Span) (query : PropertyQuery) (negated : Bool)
  | bracket (span : Span) (negated : Bool) (body : WrittenClass)
  | union (span : Span) (items : List WrittenClass)
  | joined (span : Span) (op : ClassOperator) (left right : WrittenClass)
  deriving Repr

namespace WrittenClass

def span : WrittenClass → Span
  | nothing s => s
  | letter l => l.span
  | range s _ _ => s
  | ascii s _ _ => s
  | escaped s _ _ => s
  | property s _ _ => s
  | bracket s _ _ => s
  | union s _ => s
  | joined s _ _ _ => s

end WrittenClass

/-- A switch in a list of flags. -/
inductive Switch where
  | negation
  | flag (letter : Char)
  deriving Repr, DecidableEq

/-- What a pair of parentheses is for. -/
inductive GroupKind where
  /-- Remembered under a number. -/
  | numbered (index : Nat)
  /-- Not remembered; the switches hold inside it. -/
  | plain (switches : List Switch)
  deriving Repr, DecidableEq

/-- A pattern as it is written. -/
inductive Written where
  | empty (span : Span)
  /-- A change of flags for the rest of the group. -/
  | flags (span : Span) (switches : List Switch)
  | letter (l : Letter)
  | point (span : Span)
  | edge (span : Span) (b : Boundary)
  | escaped (span : Span) (kind : LetterClass) (negated : Bool)
  | property (span : Span) (query : PropertyQuery) (negated : Bool)
  | bracket (c : WrittenClass)
  /-- From `least` to `most` times; without `most`, as often as one likes. An eager repetition
  prefers more of them. -/
  | repeated (span : Span) (least : Nat) (most : Option Nat) (eager : Bool) (body : Written)
  | group (span : Span) (kind : GroupKind) (body : Written)
  | sequence (span : Span) (parts : List Written)
  | either (span : Span) (alternatives : List Written)
  deriving Repr

namespace Written

def span : Written → Span
  | empty s => s
  | flags s _ => s
  | letter l => l.span
  | point s => s
  | edge s _ => s
  | escaped s _ _ => s
  | property s _ _ => s
  | bracket c => c.span
  | repeated s _ _ _ _ => s
  | group s _ _ => s
  | sequence s _ => s
  | either s _ => s

end Written

/-! ## Nesting -/

/-- How deep groups, repetitions, sequences, alternatives and classes may be nested. -/
def maxNesting : Nat := 250

mutual

/-- The first class that is nested too deep below `depth` others. -/
def WrittenClass.tooDeep? (depth : Nat) : WrittenClass → Option Span
  | .bracket span _ body =>
    if maxNesting ≤ depth then some span else body.tooDeep? (depth + 1)
  | .union span items =>
    if maxNesting ≤ depth then some span else WrittenClass.anyTooDeep? (depth + 1) items
  | .joined span _ left right =>
    if maxNesting ≤ depth then some span
    else (left.tooDeep? (depth + 1)).or (right.tooDeep? (depth + 1))
  | _ => none

/-- The first of several classes that is nested too deep. -/
def WrittenClass.anyTooDeep? (depth : Nat) : List WrittenClass → Option Span
  | [] => none
  | c :: cs => (c.tooDeep? depth).or (WrittenClass.anyTooDeep? depth cs)

end

mutual

/-- The first part of a pattern that is nested too deep below `depth` others. -/
def Written.tooDeep? (depth : Nat) : Written → Option Span
  | .bracket c => c.tooDeep? depth
  | .repeated span _ _ _ body =>
    if maxNesting ≤ depth then some span else body.tooDeep? (depth + 1)
  | .group span _ body =>
    if maxNesting ≤ depth then some span else body.tooDeep? (depth + 1)
  | .sequence span parts =>
    if maxNesting ≤ depth then some span else Written.anyTooDeep? (depth + 1) parts
  | .either span alternatives =>
    if maxNesting ≤ depth then some span else Written.anyTooDeep? (depth + 1) alternatives
  | _ => none

/-- The first of several parts that is nested too deep. -/
def Written.anyTooDeep? (depth : Nat) : List Written → Option Span
  | [] => none
  | w :: ws => (w.tooDeep? depth).or (Written.anyTooDeep? depth ws)

end

end Playbook.Pattern
