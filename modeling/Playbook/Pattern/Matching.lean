/-
  Matching: the automaton of a pattern reads a text character by character in all states that it
  can be in at once. A text matches if some match exists anywhere in it.
-/
import Playbook.Pattern.Automaton
import Playbook.Pattern.Meaning
import Playbook.Pattern.Reading
import Playbook.Pattern.Weight

namespace Playbook.Pattern

open Playbook.Text

/-! ## Boundaries -/

/-- Whether the character at a place exists and is part of a word. -/
def wordAt (wide : Bool) (text : Array Char) (i : Nat) : Bool :=
  match text[i]? with
  | some c => if wide then isWordChar c else c.isAlphanum || c == '_'
  | none => false

/-- Whether the character before a place exists and is part of a word. -/
def wordBefore (wide : Bool) (text : Array Char) (i : Nat) : Bool :=
  i != 0 && wordAt wide text (i - 1)

/-- Whether a boundary is at a place. -/
def holdsAt (b : Boundary) (wide : Bool) (text : Array Char) (i : Nat) : Bool :=
  let before := if i = 0 then none else text[i - 1]?
  let after := text[i]?
  let w := wordBefore wide text i
  let v := wordAt wide text i
  match b with
  | .textStart => i == 0
  | .textEnd => i == text.size
  | .lineStart => i == 0 || before == some '\n'
  | .lineEnd => i == text.size || after == some '\n'
  | .lineStartCr =>
    i == 0 || before == some '\n' || (before == some '\r' && after != some '\n')
  | .lineEndCr =>
    i == text.size || after == some '\r' || (after == some '\n' && before != some '\r')
  | .wordEdge => w != v
  | .noWordEdge => w == v
  | .wordStart => !w && v
  | .wordEnd => w && !v
  | .wordStartHalf => !w
  | .wordEndHalf => !v

/-! ## Reading a text -/

namespace Automaton

/-- The states that the automaton is in at a place. -/
structure Standing where
  /-- Where each state was last reached, counted from 1. -/
  reached : Array Nat
  /-- The states of this place that take a character. -/
  readers : List Nat := []
  accepted : Bool := false

/-- Follows states that take no character, from those that are waiting; `steps` bounds how many are
looked at. -/
def settle (a : Automaton) (text : Array Char) (i : Nat) : (steps : Nat) → (waiting : List Nat) →
    Standing → Standing
  | 0, _, s => s
  | _, [], s => s
  | n + 1, q :: waiting, s =>
    if s.reached[q]? == some (i + 1) then settle a text i n waiting s
    else
      let s := { s with reached := s.reached.setIfInBounds q (i + 1) }
      match a.nodes[q]? with
      | none => settle a text i n waiting s
      | some (.read _ _) => settle a text i n waiting { s with readers := q :: s.readers }
      | some (.guard b wide next) =>
        let waiting := if holdsAt b wide text i then next :: waiting else waiting
        settle a text i n waiting s
      | some (.choice nexts) => settle a text i n (nexts ++ waiting) s
      | some .accept => { s with accepted := true }

/-- How many states can be waiting at one place. -/
def ways (a : Automaton) : Nat :=
  a.nodes.foldl
    (fun n node =>
      match node with
      | .choice nexts => n + nexts.length + 1
      | _ => n + 2)
    1

/-- The states behind those that take a character. -/
def behind (a : Automaton) (c : Char) (readers : List Nat) : List Nat :=
  readers.filterMap fun q => do
    let .read s next ← a.nodes[q]? | none
    if s.mem c then some next else none

/-- Whether a match ends at place `i` or later, given the states that are waiting there. A match
may also begin there. -/
def acceptsFrom (a : Automaton) (ways : Nat) (text : Array Char) (i : Nat) (reached : Array Nat)
    (waiting : List Nat) : List Char → Bool
  | [] => (a.settle text i ways (a.start :: waiting) { reached }).accepted
  | c :: cs =>
    let s := a.settle text i ways (a.start :: waiting) { reached }
    s.accepted || a.acceptsFrom ways text (i + 1) s.reached (a.behind c s.readers) cs

/-- Whether a match is somewhere in the text. -/
def accepts (a : Automaton) (text : List Char) : Bool :=
  a.acceptsFrom (a.ways + a.nodes.size) text.toArray 0 (Array.replicate a.nodes.size 0) [] text

end Automaton

/-- Whether the pattern matches somewhere in the text. -/
def isMatch (p : Pattern) (text : String) : Bool := p.automaton.accepts text.toList

/-- The pattern that a text spells, or what is wrong with it. -/
def ofText (text : String) : Parse Pattern := do
  let p ← ofWritten (← Written.ofText text)
  if p.isTooHeavy then fail .tooHeavy ⟨0, 0⟩ else return p

end Playbook.Pattern
