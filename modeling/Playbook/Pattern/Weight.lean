/-
  The weight of a pattern: how many bytes the two automata take that look for it, one of which
  reads texts backwards. What is repeated a bounded number of times is there once for each
  repetition, so a short pattern can be too heavy to be used.

  Both automata read bytes. Equal states of a set are shared as far as a table of fixed size
  remembers them.
-/
import Playbook.Text.ByteRange
import Playbook.Pattern.Syntax

namespace Playbook.Pattern

open Playbook.Text

/-! ## Counting -/

/-- The states of an automaton so far, and the bytes that belong to them. -/
structure Tally where
  states : Nat := 0
  bytes : Nat := 0
  deriving Repr, DecidableEq

/-- The bytes of a state, whatever it is. -/
def stateSize : Nat := 32

/-- The bytes of a way out of a choice. -/
def choiceSize : Nat := 4

/-- The bytes of a range in a state that has several. -/
def rangeSize : Nat := 8

/-- The weight from which on a pattern is not used. -/
def maxWeight : Nat := 10485760

/-- Counting states; it ends with none when they weigh too much. -/
abbrev Weighing := StateT Tally Option

/-- More states, and more bytes for them. -/
def grow (states bytes : Nat) : Weighing Unit := fun t =>
  let t := { states := t.states + states, bytes := t.bytes + bytes }
  if maxWeight < stateSize * t.states + t.bytes then none else some ((), t)

/-- A way out of a state, which costs something if that state is a choice. -/
def link (choice : Bool) : Weighing Unit := grow 0 (if choice then choiceSize else 0)

/-! ## Sets -/

/-- The slot of a table for some numbers, by the hash of Fowler, Noll and Vo (FNV-1a). -/
def slot (size : Nat) (ns : List Nat) : Nat :=
  let hash := ns.foldl (fun (h : UInt64) n => (h ^^^ n.toUInt64) * 1099511628211)
    14695981039346656037
  hash.toNat % size

/-- A range of bytes and the state behind it. -/
structure Arc where
  range : ByteRange
  next : Nat
  deriving Repr, DecidableEq

/-- A state that still gets arcs; where its last arc leads is not known yet. The last arc comes
first. -/
structure Budding where
  arcs : List Arc := []
  last : Option ByteRange := none
  deriving Repr

/-- The arcs of a state whose last arc leads to `next`. -/
def Budding.closed (n : Budding) (next : Nat) : Budding :=
  match n.last with
  | some range => { arcs := ⟨range, next⟩ :: n.arcs }
  | none => n

/-- Whether the last arc of a state is this range. -/
def Budding.endsWith (n : Budding) (range : ByteRange) : Bool := n.last == some range

/-- The states of a set in the making. -/
structure Nursery where
  tally : Tally
  /-- The states that are remembered. -/
  known : Array (Option (List Arc × Nat))

namespace Nursery

/-- A new state, remembered in place of another. -/
def sprout (n : Nursery) (key : Nat) (arcs : List Arc) : Nursery × Nat :=
  let id := n.tally.states
  let bytes := n.tally.bytes + rangeSize * arcs.length
  (⟨{ states := id + 1, bytes }, n.known.setIfInBounds key (some (arcs, id))⟩, id)

/-- A state with these arcs: a remembered one or a new one. -/
def state (n : Nursery) (arcs : List Arc) : Nursery × Nat :=
  let key := slot n.known.size
    (arcs.reverse.flatMap fun arc => [arc.range.1, arc.range.2, arc.next])
  match n.known[key]? with
  | some (some (found, id)) => if found == arcs then (n, id) else n.sprout key arcs
  | _ => n.sprout key arcs

/-- Closes states from the deepest on; the last one of all leads to `target`. -/
def close (n : Nursery) (target : Nat) : List Budding → Nursery × Nat
  | [] => (n, target)
  | bud :: deeper =>
    let (n, next) := n.close target deeper
    n.state (bud.closed next).arcs

/-- Adds ranges of bytes, one after the other, to states that are open, the first state first. -/
def add (target : Nat) (n : Nursery) : (buds : List Budding) → List ByteRange →
    Nursery × List Budding
  | bud :: deeper, range :: rest =>
    if bud.endsWith range && !rest.isEmpty && !deeper.isEmpty then
      let (n, deeper) := add target n deeper rest
      (n, bud :: deeper)
    else
      let (n, next) := n.close target deeper
      let fresh := rest.map fun r => ({ last := some r } : Budding)
      (n, { bud.closed next with last := some range } :: fresh)
  | buds, _ => (n, buds)

/-- The states for sequences of ranges of bytes. -/
def build (target : Nat) (n : Nursery) (sequences : List (List ByteRange)) : Nursery × Nat :=
  let (n, buds) := sequences.foldl
    (fun (n, buds) ranges => add target n buds ranges) (n, [({} : Budding)])
  n.close target buds

end Nursery

/-- A state that leads backwards through a range of bytes to an earlier one, remembered or new,
for each range of a sequence. -/
def retrace : (t : Tally) → (known : Array (Option (List Nat × Nat))) → (from_ : Nat) →
    List ByteRange → Tally × Array (Option (List Nat × Nat))
  | t, known, _, [] => (t, known)
  | t, known, from_, range :: rest =>
    let key := [from_, range.1, range.2]
    let place := slot known.size key
    let id := t.states
    let added := fun (_ : Unit) =>
      retrace { t with states := id + 1 } (known.setIfInBounds place (some (key, id))) id rest
    match known[place]? with
    | some (some (found, next)) => if found == key then retrace t known next rest else added ()
    | _ => added ()

/-- Weighs a set that the automaton reads forwards. -/
def weighForwards (sequences : List (List ByteRange)) : Weighing Unit := fun t =>
  let target := t.states
  let start : Nursery := ⟨{ t with states := target + 1 }, Array.replicate 10000 none⟩
  grow 0 0 (Nursery.build target start sequences).1.tally

/-- Weighs a set that the automaton reads backwards. -/
def weighBackwards (sequences : List (List ByteRange)) : Weighing Unit := fun t =>
  let target := t.states + 1
  let start : Tally :=
    { states := t.states + 2, bytes := t.bytes + choiceSize * sequences.length }
  grow 0 0 (sequences.foldl (fun (t, known) ranges => retrace t known target ranges)
    (start, Array.replicate 1000 (none : Option (List Nat × Nat)))).1

/-- Weighs a set. -/
def weighSet (backwards : Bool) (s : CharSet) : Weighing Unit :=
  if s.isAscii then grow 2 (rangeSize * s.ranges.size)
  else
    let sequences := s.ranges.toList.flatMap byteRanges
    if backwards then weighBackwards sequences else weighForwards sequences

/-! ## Texts -/

/-- The words by their first bytes: what follows each byte that a word begins with. -/
def byFirst : List (List Nat) → List (Nat × List (List Nat))
  | [] => []
  | [] :: rest => byFirst rest
  | (b :: bs) :: rest =>
    let groups := byFirst rest
    (b, bs :: (groups.lookup b).getD []) :: groups.filter fun group => group.1 != b

/-- The words between empty words. -/
def betweenEmpty : List (List Nat) → List (List (List Nat))
  | [] => [[]]
  | [] :: rest => [] :: betweenEmpty rest
  | word :: rest =>
    match betweenEmpty rest with
    | chunk :: chunks => (word :: chunk) :: chunks
    | [] => [[word]]

/-- The words with the empty words before all others made one. -/
def onceEmpty : List (List Nat) → List (List Nat)
  | [] :: rest => [] :: rest.dropWhile List.isEmpty
  | words => words

/-- The states that tell words apart: for what begins alike, words share states, but not across a
word that ends there. No word is as long as `depth`. -/
def wordStates : (depth : Nat) → List (List Nat) → Tally
  | 0, _ => {}
  | depth + 1, words =>
    if words.all List.isEmpty then {}
    else
      let chunks := (betweenEmpty (onceEmpty words)).map byFirst
      let filled := chunks.filter fun groups => !groups.isEmpty
      let ways := filled.length + (chunks.length - 1)
      let ranges := (filled.map fun groups => if groups.length = 1 then 0 else groups.length).sum
      let own : Tally :=
        { states := 1 + filled.length, bytes := choiceSize * ways + rangeSize * ranges }
      filled.flatten.foldl
        (fun t group =>
          let below := wordStates depth group.2
          { states := t.states + below.states, bytes := t.bytes + below.bytes })
        own

/-- Weighs several texts of which any may be found. -/
def weighTexts (backwards : Bool) (texts : List (List Char)) : Weighing Unit := do
  let words := texts.map fun cs => cs.flatMap fun c => bytesOf c.toNat
  let words := if backwards then words.map List.reverse else words
  let depth := (words.map List.length).foldl max 0
  let t := wordStates (depth + 1) words
  grow (t.states + 1) t.bytes

/-! ## Patterns -/

/-- What is said here of weighing a part: whether its last state is a choice. -/
abbrev Weighed := Weighing Bool

/-- The same part `n` times, one behind the other, behind a last state. -/
def again (part : Weighed) : (n : Nat) → (choice : Bool) → Weighed
  | 0, choice => pure choice
  | n + 1, choice => fun t =>
    match part t with
    | none => none
    | some (next, t) =>
      match link choice t with
      | none => none
      | some (_, t) => again part n next t

/-- Exactly `n` times. -/
def exactly (part : Weighed) : (n : Nat) → Weighed
  | 0 => do
    grow 1 0
    return false
  | n + 1 => do again part n (← part)

/-- Up to `n` times more, each time with a choice to leave. -/
def upTo (part : Weighed) : (n : Nat) → (choice : Bool) → Weighed
  | 0, choice => pure choice
  | n + 1, choice => fun t =>
    match (do grow 1 (2 * choiceSize); let next ← part; link choice; return next : Weighed) t with
    | none => none
    | some (next, t) => upTo part n next t

/-- A repetition; `filled` says that the part always takes characters. -/
def weighTimes (filled : Bool) (least : Nat) (most : Option Nat) (part : Weighed) : Weighed := do
  match least, most with
  | 0, some 1 =>
    grow 1 0
    let choice ← part
    grow 1 (2 * choiceSize)
    link choice
    return false
  | 0, none =>
    if filled then
      grow 1 choiceSize
      link (← part)
      return true
    else
      let choice ← part
      grow 3 (4 * choiceSize)
      link choice
      return false
  | 1, none =>
    let choice ← part
    grow 1 choiceSize
    link choice
    return true
  | n + 1, none =>
    let before ← exactly part n
    let choice ← part
    grow 1 choiceSize
    link before
    link choice
    return true
  | least, some most =>
    let choice ← exactly part least
    if least = most then return choice
    else
      grow 1 0
      link (← upTo part (most - least) choice)
      return false

/-- The characters of a text. -/
def text? : Pattern → Option (List Char)
  | text cs => some cs
  | _ => none

mutual

/-- Weighs a pattern. -/
def weigh (backwards : Bool) : Pattern → Weighed
  | empty => do
    grow 1 0
    return false
  | text cs => do
    grow (cs.map Char.utf8Size).sum 0
    return false
  | one s => do
    weighSet backwards s
    return false
  | edge _ _ => do
    grow 1 0
    return false
  | group _ p => do
    if backwards then p.weigh backwards
    else
      grow 1 0
      let choice ← p.weigh backwards
      grow 1 0
      link choice
      return false
  | times least most _ p => weighTimes p.extent.isFilled least most (p.weigh backwards)
  | sequence ps => if backwards then weighBehind ps else weighAhead ps
  | either ps => do
    match ps.mapM text? with
    | some texts =>
      weighTexts backwards texts
      return false
    | none => weighEither backwards ps

/-- Weighs patterns one after the other. -/
def weighAhead : List Pattern → Weighed
  | [] => do
    grow 1 0
    return false
  | [p] => p.weigh false
  | p :: ps => do
    let choice ← p.weigh false
    let last ← weighAhead ps
    link choice
    return last

/-- Weighs patterns one after the other, the last one first. -/
def weighBehind : List Pattern → Weighed
  | [] => do
    grow 1 0
    return false
  | [p] => p.weigh true
  | p :: ps => do
    let choice ← weighBehind ps
    let last ← p.weigh true
    link choice
    return last

/-- Weighs alternatives. -/
def weighEither (backwards : Bool) : List Pattern → Weighed
  | p :: q :: rest => do
    let first ← p.weigh backwards
    let second ← q.weigh backwards
    grow 2 (2 * choiceSize)
    link first
    link second
    weighMore backwards rest
    return false
  | [p] => p.weigh backwards
  | [] => do
    grow 1 0
    return false

/-- Weighs further alternatives. -/
def weighMore (backwards : Bool) : List Pattern → Weighing Unit
  | [] => pure ()
  | p :: ps => do
    let choice ← p.weigh backwards
    grow 0 choiceSize
    link choice
    weighMore backwards ps

end

/-- Weighs an automaton. Unless matches can only be at the edge of the text that it begins with, it
first reads any bytes. -/
def weighWhole (backwards : Bool) (p : Pattern) : Weighing Unit := do
  let anchored := if backwards then p.closesAt .textEnd else p.opensAt .textStart
  if anchored then grow 1 0 else grow 3 (2 * choiceSize + rangeSize)
  let choice ← weigh backwards (if backwards then p else .group 0 p)
  grow 1 0
  link choice

/-- From how many texts on they are looked up in another way, which has no limit. -/
def manyTexts : Nat := 3000

/-- Whether the pattern is one of so many texts. -/
def isManyTexts : Pattern → Bool
  | either ps => manyTexts ≤ ps.length && (ps.mapM text?).isSome
  | _ => false

/-- Whether a pattern is too heavy to be used. -/
def isTooHeavy (p : Pattern) : Bool :=
  !p.isManyTexts && (((weighWhole false p).run {}).isNone || ((weighWhole true p).run {}).isNone)

end Playbook.Pattern
