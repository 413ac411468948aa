/-
  Faults in the text of a pattern: what is wrong, where, and how both are shown.
-/
import Playbook.Text.Blank

namespace Playbook.Pattern

open Playbook.Text

/-- A stretch of a pattern's characters: from `first` up to, not including, `past`. -/
structure Span where
  first : Nat
  past : Nat
  deriving Repr, DecidableEq

/-- What is wrong with a pattern. -/
inductive FaultKind where
  | classEscape
  | classRange
  | classBoundary
  | classUnclosed
  | decimalEmpty
  | decimalInvalid
  | hexEmpty
  | hexInvalid
  | hexDigit
  | escapeUnfinished
  | escapeUnknown
  | flagDangling
  | flagRepeated
  | negationRepeated
  | flagUnfinished
  | flagUnknown
  | nameRepeated
  | nameEmpty
  | nameInvalid
  | nameUnfinished
  | groupUnclosed
  | groupUnopened
  | countRange
  | countUnclosed
  | nothingToRepeat
  | edgeUnclosed
  | edgeUnknown
  | edgeUnfinished
  | propertyInvalid
  | propertyUnknown
  | propertyValueUnknown
  | backreference
  | lookAround
  | nestedTooDeep
  | wideNotAllowed
  | notText
  /-- The pattern is faultless but too heavy. -/
  | tooHeavy
  deriving Repr, DecidableEq

namespace FaultKind

def message : FaultKind → String
  | classEscape => "invalid escape sequence found in character class"
  | classRange => "invalid character class range, the start must be <= the end"
  | classBoundary => "invalid range boundary, must be a literal"
  | classUnclosed => "unclosed character class"
  | decimalEmpty => "repetition quantifier expects a valid decimal"
  | decimalInvalid => "decimal literal invalid"
  | hexEmpty => "hexadecimal literal empty"
  | hexInvalid => "hexadecimal literal is not a Unicode scalar value"
  | hexDigit => "invalid hexadecimal digit"
  | escapeUnfinished => "incomplete escape sequence, reached end of pattern prematurely"
  | escapeUnknown => "unrecognized escape sequence"
  | flagDangling => "dangling flag negation operator"
  | flagRepeated => "duplicate flag"
  | negationRepeated => "flag negation operator repeated"
  | flagUnfinished => "expected flag but got end of regex"
  | flagUnknown => "unrecognized flag"
  | nameRepeated => "duplicate capture group name"
  | nameEmpty => "empty capture group name"
  | nameInvalid => "invalid capture group character"
  | nameUnfinished => "unclosed capture group name"
  | groupUnclosed => "unclosed group"
  | groupUnopened => "unopened group"
  | countRange => "invalid repetition count range, the start must be <= the end"
  | countUnclosed => "unclosed counted repetition"
  | nothingToRepeat => "repetition operator missing expression"
  | edgeUnclosed =>
    "special word boundary assertion is either unclosed or contains an invalid character"
  | edgeUnknown =>
    "unrecognized special word boundary assertion, valid choices are: start, end, " ++
      "start-half or end-half"
  | edgeUnfinished =>
    "found either the beginning of a special word boundary or a bounded repetition on a \\b " ++
      "with an opening brace, but no closing brace"
  | propertyInvalid => "invalid Unicode character class"
  | propertyUnknown => "Unicode property not found"
  | propertyValueUnknown => "Unicode property value not found"
  | backreference => "backreferences are not supported"
  | lookAround => "look-around, including look-ahead and look-behind, is not supported"
  | nestedTooDeep => "exceed the maximum number of nested parentheses/brackets (250)"
  | wideNotAllowed => "Unicode not allowed here"
  | notText => "pattern can match invalid UTF-8"
  | tooHeavy => "Compiled regex exceeds size limit of 10485760 bytes."

end FaultKind

/-- Something wrong at a place of a pattern. -/
structure Fault where
  kind : FaultKind
  span : Span
  /-- The earlier place that the fault clashes with. -/
  earlier : Option Span := none
  deriving Repr, DecidableEq

namespace Fault

/-- Line and column of an offset, both counted from 1. -/
def position (pattern : List Char) (offset : Nat) : Nat × Nat :=
  let before := pattern.take offset
  let column := (before.reverse.takeWhile (· != '\n')).length
  (before.count '\n' + 1, column + 1)

/-- A text with blanks in front, `width` characters at least. -/
def padLeft (width : Nat) (cs : List Char) : List Char :=
  List.replicate (width - cs.length) ' ' ++ cs

/-- Marks below a line, given as columns from first to past; each mark has one caret at least. -/
def carets (column : Nat) : List (Nat × Nat) → List Char
  | [] => []
  | (first, past) :: rest =>
    let gap := first - column
    let width := max 1 (past - first)
    List.replicate gap ' ' ++ List.replicate width '^' ++ carets (column + gap + width) rest

/-- The line that a stretch lies in and its columns; none if it crosses a line's end. -/
def onLine? (pattern : List Char) (s : Span) : Option (Nat × Nat × Nat) :=
  let (line, first) := position pattern s.first
  let (lastLine, past) := position pattern s.past
  if line = lastLine then some (line, first, past) else none

/-- What is said of a stretch that crosses a line's end. -/
def crossing (pattern : List Char) (s : Span) : String :=
  let (line, first) := position pattern s.first
  let (lastLine, past) := position pattern s.past
  s!"on line {line} (column {first}) through line {lastLine} (column {past - 1})\n"

/-- The marked stretches in the order of their places. -/
def spans (f : Fault) : List Span :=
  match f.earlier with
  | none => [f.span]
  | some e => if e.first ≤ f.span.first then [e, f.span] else [f.span, e]

/-- The lines of the pattern, each behind `label n`, with the marks below them. -/
def notated (pattern : List Char) (f : Fault) (label : Nat → List Char) : List Char :=
  let marks := f.spans.filterMap (onLine? pattern)
  ((lines pattern).zipIdx 1).flatMap fun (line, n) =>
    let here := (marks.filter fun m => m.1 == n).map Prod.snd
    let below :=
      if here.isEmpty then []
      else List.replicate (label n).length ' ' ++ carets 1 here ++ ['\n']
    label n ++ line ++ ['\n'] ++ below

/-- The fault below the pattern that it was found in. What is wrong with the whole pattern is said
alone. -/
def message (pattern : String) (f : Fault) : String :=
  let cs := pattern.toList
  if f.kind = .tooHeavy then f.kind.message
  else if cs.contains '\n' then
    let count := (pieces '\n' cs).length
    let width := (toString count).length
    let label := fun n => padLeft width (toString n).toList ++ [':', ' ']
    let divider := String.ofList (List.replicate 79 '~' ++ ['\n'])
    let crossings := (f.spans.filter fun s => (onLine? cs s).isNone).map (crossing cs)
    "regex parse error:\n" ++ divider ++ String.ofList (notated cs f label) ++ divider ++
      String.join crossings ++ "error: " ++ f.kind.message
  else
    "regex parse error:\n" ++ String.ofList (notated cs f fun _ => List.replicate 4 ' ') ++
      "error: " ++ f.kind.message

end Fault

/-- What is read from a pattern, unless the pattern is at fault. -/
abbrev Parse := Except Fault

/-- A fault of one place. -/
def fail {α : Type} (kind : FaultKind) (span : Span) : Parse α := .error { kind, span }

end Playbook.Pattern
