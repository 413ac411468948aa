/-
  Filters: which notices are shown, as the user writes it. A filter is a list of rules between
  commas; the most particular rule that concerns a notice decides about it.
-/
import Playbook.Notice
import Playbook.Pattern.Matching
import Playbook.Number.Binary64

namespace Playbook

open Playbook.Text Playbook.Number

/-- The rank that a level's name or number stands for; 0 shows nothing. -/
def Level.rank? (name : List Char) : Option Nat :=
  let ds := if name.head? == some '+' then name.tail else name
  match (digits? ds).filter (· ≤ 5) with
  | some n => some n
  | none =>
    match String.ofList (lowerAscii name) with
    | "off" => some 0
    | "error" => some 1
    | "warn" => some 2
    | "info" => some 3
    | "debug" => some 4
    | "trace" => some 5
    | _ => none

/-- Something that a notice or what surrounds it has to have. -/
structure Trace where
  name : List Char
  /-- Whether it has to have a certain value. -/
  hasValue : Bool
  deriving Repr, DecidableEq

/-- One rule of a filter: the largest rank that is shown below a target, perhaps only inside of
something that is traced under a name, or with certain fields. -/
structure Directive where
  target : Option (List Char) := none
  span : Option (List Char) := none
  fields : List Trace := []
  limit : Nat := 5
  deriving Repr, DecidableEq

namespace Directive

/-- Where the reading of a rule stands, with the place where the current part begins. -/
inductive Stage where
  | start
  | levelOrTarget (first : Nat)
  | span (first : Nat)
  | field (first : Nat)
  | fields
  | target
  | level (first : Nat)
  deriving Repr, DecidableEq

/-- A part of a text. -/
def slice (cs : List Char) (first past : Nat) : List Char := (cs.drop first).take (past - first)

/-- A field, perhaps with the value that it has to have: a truth value, a number or a pattern. -/
def field? (cs : List Char) : Option Trace :=
  match pieces '=' cs with
  | [] => none
  | [name] => if name.isEmpty then none else some ⟨name, false⟩
  | name :: value :: _ =>
    let isNumber := (Binary64.ofText? value).isSome
    let isPattern := (Pattern.ofText (String.ofList value)).toOption.isSome
    if isNumber || isPattern then some ⟨name, true⟩ else none

/-- The characters that a rule can begin with. -/
def opens (c : Char) : Bool := c == '-' || c == ':' || c == '_' || isLetterOrNumber c

/-- The stage behind one more character, which has number `i`; none where it cannot stand. -/
def step (text : List Char) (i : Nat) (c : Char) : Stage → Directive → Option (Stage × Directive)
  | .start, d =>
    if c == '[' then some (.span (i + 1), d)
    else if opens c then some (.levelOrTarget i, d)
    else none
  | .levelOrTarget first, d =>
    if c == '=' then some (.level (i + 1), { d with target := some (slice text first i) })
    else if c == '[' then some (.span (i + 1), { d with target := some (slice text first i) })
    else some (.levelOrTarget first, d)
  | .span first, d =>
    let name := slice text first i
    if c == ']' then some (.target, { d with span := some name })
    else if c == '\x7b' then
      some (.field (i + 1), { d with span := if name.isEmpty then none else some name })
    else some (.span first, d)
  | .field first, d =>
    if c == '\x7d' then
      (field? (slice text first i)).map fun f => (.fields, { d with fields := d.fields ++ [f] })
    else some (.field first, d)
  | .fields, d => if c == ']' then some (.target, d) else none
  | .target, d => if c == '=' then some (.level (i + 1), d) else none
  | .level first, d => some (.level first, d)

/-- Reads characters from number `i` on. -/
def read (text : List Char) : Nat → List Char → Stage × Directive → Option (Stage × Directive)
  | _, [], r => some r
  | i, c :: cs, (stage, d) =>
    match step text i c stage d with
    | some r => read text (i + 1) cs r
    | none => none

/-- A rule. Blanks around it are not read, but places are counted from the beginning of the text,
blanks included; a target alone shows everything below it. -/
def ofText? (text : List Char) : Option Directive :=
  match read text 0 (trim text) (.start, {}) with
  | some (.levelOrTarget first, d) =>
    let rest := text.drop first
    match Level.rank? rest with
    | some limit => some { d with limit }
    | none => some { d with target := some rest }
  | some (.level first, d) =>
    let rest := text.drop first
    if rest.isEmpty then some d else (Level.rank? rest).map fun limit => { d with limit }
  | some (.target, d) => some d
  | _ => none

/-- The fields of every notice. -/
def noticeFields : List (List Char) := ["message".toList]

/-- Whether the rule can concern notices that are not inside of anything that is traced. -/
def isPlain (d : Directive) : Bool := d.span.isNone && !d.fields.any Trace.hasValue

/-- Whether the rule speaks about an area. -/
def concerns (d : Directive) (area : Area) : Bool :=
  d.isPlain && (d.fields.all fun f => noticeFields.contains f.name) &&
    match d.target with
    | none => true
    | some t => t.isPrefixOf area.path.toList

/-- How particular a rule is: the length of its target, then the number of its fields. -/
def weight (d : Directive) : Nat × Nat :=
  match d.target with
  | none => (0, d.fields.length)
  | some t => (t.length + 1, d.fields.length)

/-- Whether a rule is at least as particular as another. -/
def outweighs (d e : Directive) : Bool :=
  e.weight.1 < d.weight.1 || (e.weight.1 == d.weight.1 && e.weight.2 ≤ d.weight.2)

end Directive

/-- A filter is a list of rules. -/
abbrev Filter := List Directive

namespace Filter

/-- Shows notices of the level `info` and above. -/
def standard : Filter := [{ limit := 3 }]

/-- Rules between commas. No rule at all shows errors only. -/
def ofText? (s : String) : Option Filter :=
  let parts := (pieces ',' s.toList).filter fun part => !part.isEmpty
  if parts.isEmpty then some [{ limit := 1 }] else parts.mapM Directive.ofText?

/-- The filter that a setting asks for, or the standard one if it is missing or faulty. -/
def ofSetting (setting : Option String) : Filter :=
  match setting with
  | none => standard
  | some s => (ofText? (onString lowerAscii s)).getD standard

/-- Whether a notice is shown. -/
def shows (f : Filter) (n : Notice) : Bool :=
  let concerned := f.filter (·.concerns n.area)
  let best := concerned.foldl (fun (b : Option Directive) d =>
    match b with
    | none => some d
    | some e => if d.outweighs e then some d else some e) none
  match best with
  | none => false
  | some d => n.level.rank ≤ d.limit

/-- The lines of the notices that are shown. -/
def lines (f : Filter) (ns : List Notice) : String :=
  String.join ((ns.filter f.shows).map Notice.line)

end Filter

end Playbook
