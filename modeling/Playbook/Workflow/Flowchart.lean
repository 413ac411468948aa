/-
  The lines of a flowchart. A line declares one node, or several joined by arrows; a node is a
  name and a shape, and the shape may carry an expression between brackets and quotes.
-/
import Playbook.Workflow.Basic

namespace Playbook.Flowchart

open Playbook.Text

/-! ## Arrows -/

/-- What a scan of a line knows of the brackets and quotes before a position. -/
structure Nesting where
  /-- Brackets of all three kinds that are open; it never falls below zero. -/
  depth : Nat := 0
  quoted : Bool := false
  deriving Repr, DecidableEq

namespace Nesting

/-- The nesting after one more character. -/
def after (s : Nesting) (c : Char) : Nesting :=
  if c == '"' then { s with quoted := !s.quoted }
  else if s.quoted then s
  else if c == '[' || c == '(' || c == '{' then { s with depth := s.depth + 1 }
  else if c == ']' || c == ')' || c == '}' then { s with depth := s.depth - 1 }
  else s

/-- Outside of all brackets and quotes. -/
def isOuter (s : Nesting) : Bool := s.depth == 0 && !s.quoted

end Nesting

/-- Characters in front of the first of several segments. -/
def glue (front : List Char) : List (List Char) → List (List Char)
  | [] => [front]
  | s :: ss => (front ++ s) :: ss

/-- The segments of the rest of a line, scanned from a nesting. An arrow's own characters change
no nesting, so an arrow that does not cut is passed over as a whole. -/
def segmentsFrom (s : Nesting) : List Char → List (List Char)
  | [] => [[]]
  | '-' :: '-' :: '>' :: rest =>
    if s.isOuter then [] :: segmentsFrom s rest else glue ['-', '-', '>'] (segmentsFrom s rest)
  | c :: rest => glue [c] (segmentsFrom (s.after c) rest)

/-- The parts of a line between the arrows `-->` that stand outside of brackets and quotes. -/
def segments (line : List Char) : List (List Char) := segmentsFrom {} line

/-- A trimmed segment behind an arrow as the label between bars, if any, and the node. -/
def splitLabel (segment : List Char) : Option (List Char) × List Char :=
  match segment with
  | '|' :: rest =>
    match splitOnce '|' rest with
    | some (label, node) => (some (trim label), trim node)
    | none => (none, segment)
  | _ => (none, segment)

/-! ## Shapes -/

/-- The bracket that closes an opening one. -/
def closer? : Char → Option Char
  | '[' => some ']'
  | '(' => some ')'
  | '{' => some '}'
  | _ => none

/-- The position, counted from `index`, at which `depth` open brackets of one kind are closed.
Brackets between double quotes do not count. -/
def closeFrom (op cl : Char) (depth : Nat) (quoted : Bool) (index : Nat) :
    List Char → Option Nat
  | [] => none
  | c :: cs =>
    if c == '"' then closeFrom op cl depth (!quoted) (index + 1) cs
    else if !quoted && c == op then closeFrom op cl (depth + 1) quoted (index + 1) cs
    else if !quoted && c == cl then
      if depth ≤ 1 then some index else closeFrom op cl (depth - 1) quoted (index + 1) cs
    else closeFrom op cl depth quoted (index + 1) cs

/-- The position of the bracket that closes the one at the beginning of the text. -/
def matchingClose? (cs : List Char) : Option Nat :=
  match cs with
  | [] => none
  | op :: _ =>
    match closer? op with
    | none => none
    | some cl => closeFrom op cl 0 false 0 cs

/-- The text without its first and last character and without the blanks inside of them. -/
def inside (cs : List Char) : List Char := trim (cs.tail.dropLast)

theorem length_dropWhile_le {α : Type} (p : α → Bool) (l : List α) :
    (l.dropWhile p).length ≤ l.length := by
  induction l with
  | nil => simp
  | cons a l ih =>
    rw [List.dropWhile_cons]
    split
    · simp only [List.length_cons]; omega
    · exact Nat.le_refl _

theorem length_trim_le (cs : List Char) : (trim cs).length ≤ cs.length := by
  have h1 := length_dropWhile_le isBlank cs
  have h2 := length_dropWhile_le isBlank (cs.dropWhile isBlank).reverse
  simp only [List.length_reverse] at h2
  simp only [trim, trimRight, dropRightWhile, trimLeft, List.length_reverse]
  omega

theorem length_inside_le (cs : List Char) : (inside cs).length ≤ cs.length - 2 := by
  have := length_trim_le cs.tail.dropLast
  simp only [List.length_dropLast, List.length_tail] at this
  simp only [inside]
  omega

/-- Whether the text stands between double quotes. -/
def isQuoted (cs : List Char) : Bool :=
  2 ≤ cs.length && cs.head? == some '"' && cs.getLast? == some '"'

/-- Whether the bracket at the beginning is closed by the last character. -/
def isBracketed (cs : List Char) : Bool :=
  match matchingClose? cs with
  | some i => i + 1 == cs.length && 2 ≤ cs.length
  | none => false

/-- The text inside of all brackets around it and of one pair of quotes inside of those. -/
def peel (cs : List Char) : List Char :=
  if isQuoted cs then inside cs
  else if _h : isBracketed cs then peel (inside cs)
  else cs
  termination_by cs.length
  decreasing_by
    have h2 : 2 ≤ cs.length := by
      have h := _h; simp only [isBracketed] at h
      split at h
      · simp only [Bool.and_eq_true, decide_eq_true_eq] at h; exact h.2
      · cases h
    have := length_inside_le cs
    omega

/-- The text after `Kind:`, if it begins with the label of `kind` in any letter case. -/
def afterKindLabel? (kind : Kind) (cs : List Char) : Option (List Char) :=
  match splitOnce ':' cs with
  | some (before, rest) =>
    if sameLetters (trim before) kind.label.toList then some (trim rest) else none
  | none => none

/-- The text between double quotes at the beginning, after blanks. -/
def quotedStart? (cs : List Char) : Option (List Char) :=
  match trimLeft cs with
  | '"' :: rest => (splitOnce '"' rest).map Prod.fst
  | _ => none

/-- The quoted text after the first `label:` that has one. -/
def labelAttribute? : List Char → Option (List Char)
  | [] => none
  | c :: cs =>
    match (dropStart? "label:".toList (c :: cs)).bind quotedStart? with
    | some text => some text
    | none => labelAttribute? cs

/-- The expression that a trimmed shape carries; none if the text is no shape. Attributes after
an `@` carry one only as `Kind: expression`, and a parameter node (no kind) the whole label. -/
def expression? (kind : Option Kind) (shape : List Char) : Option (List Char) :=
  match shape with
  | [] => some []
  | '@' :: attributes =>
    let label := trim ((labelAttribute? attributes).getD [])
    match kind with
    | none => some label
    | some k => some ((afterKindLabel? k label).getD [])
  | _ =>
    let text := peel shape
    if text.length == shape.length then none
    else
      match kind with
      | none => some text
      | some k => some ((afterKindLabel? k text).getD text)

/-! ## Nodes -/

/-- The name of the node that holds the parameters, also with more words after an underscore. -/
def paramsName : List Char := "PARAMS".toList

/-- The characters of names. -/
def isNameChar (c : Char) : Bool := c.isAlphanum || c == '_'

/-- `key=value` pairs between commas; a pair without `=` has the empty value. -/
def paramPairs (cs : List Char) : List (String × String) :=
  ((pieces ',' cs).map trim).filterMap fun p =>
    if p.isEmpty then none
    else
      match splitOnce '=' p with
      | some (k, v) => some (String.ofList (trim k), String.ofList (trim v))
      | none => some (String.ofList p, "")

/-- A node of a flowchart line. -/
inductive Node where
  | params (pairs : List (String × String))
  | activity (kind : Kind) (name expression : String)
  deriving Repr, DecidableEq

/-- Why a text is no node. -/
inductive NodeFault where
  | malformed (text : String)
  | unknownKind (name : String)
  deriving Repr, DecidableEq

/-- The node that a text declares. -/
def node (source : List Char) : Except NodeFault Node :=
  let text := trim source
  let name := text.takeWhile isNameChar
  let shape := trim (text.dropWhile isNameChar)
  if name.isEmpty then .error (.malformed (String.ofList text))
  else if Kind.stemOf name == paramsName then
    match expression? none shape with
    | none => .error (.malformed (String.ofList text))
    | some e => .ok (.params (paramPairs e))
  else
    match Kind.ofName? name with
    | none => .error (.unknownKind (String.ofList name))
    | some kind =>
      match expression? (some kind) shape with
      | none => .error (.malformed (String.ofList text))
      | some e => .ok (.activity kind (String.ofList name) (String.ofList e))

/-! ## Lines -/

/-- The first words of lines that only say how the flowchart looks. -/
def housekeeping : List String :=
  ["style", "classDef", "class", "linkStyle", "click", "subgraph", "end", "direction"]

/-- Whether a trimmed line adds nothing to the graph. -/
def isIgnored (line : List Char) : Bool :=
  "%%".toList.isPrefixOf line || housekeeping.contains (String.ofList (firstWord line))

end Playbook.Flowchart
