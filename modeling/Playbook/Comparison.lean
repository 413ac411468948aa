/-
  Comparisons between two texts, as a check makes them. The four that order their sides compare
  numbers if both sides spell one, and texts otherwise.
-/
import Playbook.Pattern.Reading
import Playbook.Pattern.Matching
import Playbook.Number.Binary64
import Playbook.Text.Quoted

namespace Playbook

open Playbook.Text Playbook.Number

/-- A relation that a check tests. -/
inductive Comparison where
  | equals
  | differs
  | contains
  | fits
  | greater
  | greaterEqual
  | less
  | lessEqual
  deriving Repr, DecidableEq

namespace Comparison

/-- Every comparison. -/
def all : List Comparison :=
  [equals, differs, contains, fits, greater, greaterEqual, less, lessEqual]

/-- The name of a comparison. -/
def tag : Comparison → String
  | equals => "EQUALS"
  | differs => "DIFFERS"
  | contains => "CONTAINS"
  | fits => "MATCHES"
  | greater => "GREATER"
  | greaterEqual => "GREATER_EQUAL"
  | less => "LESS"
  | lessEqual => "LESS_EQUAL"

/-- The short forms of a comparison, in exactly this letter case. -/
def aliases : Comparison → List String
  | equals => ["==", "eq"]
  | differs => ["!=", "ne"]
  | less => ["<", "lt"]
  | greater => [">", "gt"]
  | lessEqual => ["<=", "le"]
  | greaterEqual => [">=", "ge"]
  | contains => []
  | fits => []

/-- The comparison that a word names: its name in any letter case, or a short form. -/
def ofWord? (word : String) : Option Comparison :=
  match all.find? fun c => sameLetters c.tag.toList word.toList with
  | some c => some c
  | none => all.find? fun c => c.aliases.contains word

/-- What is said of a word that names no comparison. -/
def faultMessage (word : String) : String := "unknown operation " ++ quote word

/-- The first line between its blanks. -/
def firstLine (text : String) : String :=
  String.ofList (trim (text.toList.takeWhile (· != '\n')))

/-- How two texts are ordered: as numbers if both spell one between blanks, else by their
characters. Numbers of which one is not a number are not ordered. -/
def order? (left right : String) : Option Ordering :=
  match Binary64.ofText? (trim left.toList), Binary64.ofText? (trim right.toList) with
  | some l, some r => Binary64.compare? l r
  | _, _ => some (compare left right)

/-- Whether the comparison holds. Only a pattern can be faulty. -/
def holds (c : Comparison) (left right : String) : Except Pattern.Fault Bool :=
  match c with
  | equals => .ok (firstLine left == trimmed right)
  | differs => .ok (firstLine left != trimmed right)
  | contains => .ok (Text.contains (trim right.toList) left.toList)
  | fits => (Pattern.ofText right).map fun p => p.isMatch left
  | greater => .ok (order? left right == some .gt)
  | greaterEqual => .ok (order? left right == some .gt || order? left right == some .eq)
  | less => .ok (order? left right == some .lt)
  | lessEqual => .ok (order? left right == some .lt || order? left right == some .eq)

end Comparison

end Playbook
