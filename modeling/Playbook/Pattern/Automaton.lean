/-
  Automata: a pattern as numbered states, each with the states behind it. A pattern is laid out
  from its end, so that what follows a part is known when the part is laid out.
-/
import Playbook.Text.WordChar
import Playbook.Pattern.Syntax

namespace Playbook.Pattern

open Playbook.Text

/-- A state of an automaton, with the numbers of the states behind it. -/
inductive Node where
  /-- Takes a character of a set. -/
  | read (s : CharSet) (next : Nat)
  /-- Goes on at a boundary only. -/
  | guard (b : Boundary) (wide : Bool) (next : Nat)
  /-- Goes on with any of several states. -/
  | choice (nexts : List Nat)
  /-- A match ends here. -/
  | accept
  deriving Repr, DecidableEq

/-- The states laid out so far; each has its place as its number. -/
abbrev Layout := Array Node

/-- Lays a state out and gives its number. -/
def Layout.place (l : Layout) (node : Node) : Layout × Nat :=
  let number := l.size
  (l.push node, number)

/-- Lays a part out before another one; given what follows, it gives its first state. -/
abbrev Laying := Layout → Nat → Layout × Nat

/-- The part as often as one likes, at least `least` times. -/
def layLoop (part : Laying) : Laying := fun l next =>
  let (l, loop) := l.place (.choice [])
  let (l, first) := part l loop
  (l.setIfInBounds loop (.choice [first, next]), loop)

/-- The part `n` times. -/
def layTimes (part : Laying) : (n : Nat) → Laying
  | 0, l, next => (l, next)
  | n + 1, l, next =>
    let (l, next) := part l next
    layTimes part n l next

/-- The part up to `n` times; before each time, `exit` may come instead. -/
def layUpTo (part : Laying) (exit : Nat) : (n : Nat) → Laying
  | 0, l, next => (l, next)
  | n + 1, l, next =>
    let (l, first) := part l next
    let (l, next) := l.place (.choice [first, exit])
    layUpTo part exit n l next

/-- The characters of a text. -/
def layText : List Char → Laying
  | [], l, next => (l, next)
  | c :: cs, l, next =>
    let (l, next) := layText cs l next
    l.place (.read (.single c) next)

mutual

/-- Lays a pattern out. -/
def lay : Pattern → Laying
  | empty, l, next => (l, next)
  | text cs, l, next => layText cs l next
  | one s, l, next => l.place (.read s next)
  | edge b wide, l, next => l.place (.guard b wide next)
  | group _ p, l, next => p.lay l next
  | times least most _ p, l, next =>
    let (l, optional) :=
      match most with
      | none => layLoop p.lay l next
      | some most => layUpTo p.lay next (most - least) l next
    layTimes p.lay least l optional
  | sequence ps, l, next => layAll ps l next
  | either ps, l, next =>
    let (l, firsts) := layEach ps l next
    l.place (.choice firsts)

/-- Lays patterns out one behind the other. -/
def layAll : List Pattern → Laying
  | [], l, next => (l, next)
  | p :: ps, l, next =>
    let (l, next) := layAll ps l next
    p.lay l next

/-- Lays patterns out side by side. -/
def layEach : List Pattern → Layout → Nat → Layout × List Nat
  | [], l, _ => (l, [])
  | p :: ps, l, next =>
    let (l, first) := p.lay l next
    let (l, firsts) := layEach ps l next
    (l, first :: firsts)

end

/-- An automaton: its states, and the one to begin with. -/
structure Automaton where
  nodes : Array Node
  start : Nat
  deriving Repr

/-- The automaton of a pattern. -/
def automaton (p : Pattern) : Automaton :=
  let (nodes, start) := p.lay #[.accept] 0
  ⟨nodes, start⟩

end Playbook.Pattern
