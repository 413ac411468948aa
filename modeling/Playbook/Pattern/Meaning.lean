/-
  What a written pattern means. Flags change the meaning of what follows them up to the end of
  their group, also across alternatives. Where classes are those of ASCII, what could match a part
  of a character is a fault.
-/
import Playbook.Text.WordChar
import Playbook.Text.Folding
import Playbook.Pattern.Property
import Playbook.Pattern.Syntax

namespace Playbook.Pattern

open Playbook.Text

/-- The flags that change what a pattern means. -/
structure Flags where
  foldCase : Bool := false
  /-- The circumflex and the dollar sign stand for the edges of lines. -/
  multiLine : Bool := false
  /-- The point also stands for the end of a line. -/
  pointAll : Bool := false
  /-- Lines may also end in carriage returns. -/
  returns : Bool := false
  /-- Repetitions are lazy unless a question mark makes them eager. -/
  swapped : Bool := false
  /-- Classes are those of Unicode. -/
  wide : Bool := true
  deriving Repr, DecidableEq

namespace Flags

/-- One flag turned on or off. -/
def turned (f : Flags) (on : Bool) : Char → Flags
  | 'i' => { f with foldCase := on }
  | 'm' => { f with multiLine := on }
  | 's' => { f with pointAll := on }
  | 'R' => { f with returns := on }
  | 'U' => { f with swapped := on }
  | 'u' => { f with wide := on }
  | _ => f

/-- The flags after a list of switches. -/
def changedFrom (f : Flags) (on : Bool) : List Switch → Flags
  | [] => f
  | .negation :: rest => f.changedFrom false rest
  | .flag letter :: rest => (f.turned on letter).changedFrom on rest

/-- The flags after a list of switches. -/
def changed (f : Flags) (switches : List Switch) : Flags := f.changedFrom true switches

/-- The characters that differ only in case from one of the set, where case does not count. -/
def fold (f : Flags) (s : CharSet) : CharSet :=
  if !f.foldCase then s else if f.wide then s.folded else s.foldedAscii

/-- A class with its letter case and its sense taken into account. -/
def settle (f : Flags) (span : Span) (negated : Bool) (s : CharSet) : Parse CharSet :=
  if !negated then .ok (f.fold s)
  else if f.wide then .ok (f.fold s).complement
  else fail .notText span

/-- The class that a letter behind a backslash stands for. -/
def letterClass (f : Flags) : LetterClass → CharSet
  | .digit => if f.wide then decimalDigits else .range '0' '9'
  | .blank =>
    if f.wide then Trait.whiteSpace.set else .unionOf [.range '\t' '\r', .single ' ']
  | .word =>
    if f.wide then wordChars
    else .unionOf [.range '0' '9', .range 'A' 'Z', .single '_', .range 'a' 'z']

/-- That class, or all but it. -/
def escaped (f : Flags) (span : Span) (kind : LetterClass) (negated : Bool) : Parse CharSet :=
  if !negated then .ok (f.letterClass kind)
  else if f.wide then .ok (f.letterClass kind).complement
  else fail .notText span

/-- The characters with a property. -/
def property (f : Flags) (span : Span) (query : PropertyQuery) (negated : Bool) :
    Parse CharSet :=
  if !f.wide then fail .wideNotAllowed span
  else match query.answer with
    | .error kind => fail kind span
    | .ok s => f.settle span (negated != query.isUnequal) s

/-- A character, unless it is written as a byte that is no character. -/
def letter (f : Flags) (l : Letter) : Parse Char :=
  if !f.wide && l.asByte && 0x80 ≤ l.char.toNat then fail .notText l.span else .ok l.char

/-- A character in a class. -/
def member (f : Flags) (l : Letter) : Parse Char := do
  let c ← f.letter l
  if !f.wide && 0x80 ≤ c.toNat then fail .wideNotAllowed l.span else return c

/-- A character outside classes. -/
def character (f : Flags) (l : Letter) : Parse Pattern := do
  let c ← f.letter l
  return ofSet (f.fold (.single c))

/-- Any character, or any but those that end lines. -/
def point (f : Flags) (span : Span) : Parse Pattern :=
  if !f.wide then fail .notText span
  else if f.pointAll then .ok (ofSet .full)
  else if f.returns then
    .ok (ofSet (CharSet.unionOf [.single '\n', .single '\r']).complement)
  else .ok (ofSet (CharSet.single '\n').complement)

/-- The boundary that is meant. -/
def boundary (f : Flags) (b : Boundary) : Boundary :=
  match b with
  | .lineStart =>
    if !f.multiLine then .textStart else if f.returns then .lineStartCr else .lineStart
  | .lineEnd =>
    if !f.multiLine then .textEnd else if f.returns then .lineEndCr else .lineEnd
  | _ => b

end Flags

/-! ## Classes -/

/-- The characters that two classes joined have. -/
def ClassOperator.apply : ClassOperator → CharSet → CharSet → CharSet
  | .intersection, s, t => s ∩ t
  | .difference, s, t => s \ t
  | .symmetricDifference, s, t => s.symmetricDifference t

mutual

/-- The characters of a class. -/
def WrittenClass.meaning (f : Flags) : WrittenClass → Parse CharSet
  | .nothing _ => .ok .empty
  | .letter l => do return .single (← f.member l)
  | .range _ lo hi => do return .range (← f.member lo) (← f.member hi)
  | .ascii span ranges negated =>
    f.settle span negated (.unionOf (ranges.map fun r => .range r.1 r.2))
  | .escaped span kind negated => f.escaped span kind negated
  | .property span query negated => f.property span query negated
  | .bracket span negated body => do f.settle span negated (← body.meaning f)
  | .union _ items => do return .unionOf (← WrittenClass.meanings f items)
  | .joined _ op left right => do
    let s ← left.meaning f
    let t ← right.meaning f
    return op.apply (f.fold s) (f.fold t)

/-- The characters of several classes. -/
def WrittenClass.meanings (f : Flags) : List WrittenClass → Parse (List CharSet)
  | [] => .ok []
  | c :: cs => do return (← c.meaning f) :: (← WrittenClass.meanings f cs)

end

/-! ## Patterns -/

namespace GroupKind

/-- The flags inside a group. -/
def inside (f : Flags) : GroupKind → Flags
  | .numbered _ => f
  | .plain switches => f.changed switches

/-- A group with this body. -/
def around (p : Pattern) : GroupKind → Pattern
  | .numbered index => .group index p
  | .plain _ => p

end GroupKind

mutual

/-- What a pattern means, and the flags behind it. -/
def Written.meaning (f : Flags) : Written → Parse (Pattern × Flags)
  | .empty _ => .ok (.empty, f)
  | .flags _ switches => .ok (.empty, f.changed switches)
  | .letter l => do return (← f.character l, f)
  | .point span => do return (← f.point span, f)
  | .edge _ b => .ok (.edge (f.boundary b) f.wide, f)
  | .escaped span kind negated => do return (ofSet (← f.escaped span kind negated), f)
  | .property span query negated => do return (ofSet (← f.property span query negated), f)
  | .bracket c => do return (ofSet (← c.meaning f), f)
  | .repeated _ least most eager body => do
    let (p, f) ← body.meaning f
    return (repeating least most (eager != f.swapped) p, f)
  | .group _ kind body => do
    let (p, _) ← body.meaning (kind.inside f)
    return (kind.around p, f)
  | .sequence _ parts => do
    let (ps, f) ← Written.meanings f parts
    return (inOrder ps, f)
  | .either _ alternatives => do
    let (ps, f) ← Written.meanings f alternatives
    return (anyOf ps, f)

/-- What several parts mean, each with the flags behind the one before. -/
def Written.meanings (f : Flags) : List Written → Parse (List Pattern × Flags)
  | [] => .ok ([], f)
  | w :: ws => do
    let (p, f) ← w.meaning f
    let (ps, f) ← Written.meanings f ws
    return (p :: ps, f)

end

/-- The pattern that is meant. -/
def ofWritten (w : Written) : Parse Pattern := do
  let (p, _) ← w.meaning {}
  return p

end Playbook.Pattern
