/-
  Writing a workflow as a document in canonical form, with its flowchart in depth-first order
  from the start.
-/
import Playbook.Workflow.Basic

namespace Playbook

open Playbook.Text

namespace Flowchart

/-- Attributes behind a node's name. -/
def attributes (text : String) : String := "@\x7b " ++ text ++ " \x7d"

/-- An expression behind the label of a kind. -/
def labelled (kind : Kind) (expression : String) : String := kind.label ++ ": " ++ expression

/-- The shape of a node; it carries the expression. -/
def shape (a : Activity) : String :=
  let e := a.expression
  let bracketed := "[\"" ++ labelled a.kind e ++ "\"]"
  let terminal :=
    if e.isEmpty then attributes "shape: stadium" else "([\"" ++ labelled a.kind e ++ "\"])"
  match a.kind with
  | .start => if e.isEmpty then attributes "shape: f-circ, label: \"start\"" else bracketed
  | .success => terminal
  | .failed => terminal
  | .on => terminal
  | .ask =>
    if e.isEmpty then attributes "shape: manual-input"
    else attributes ("shape: manual-input, label: \"" ++ labelled a.kind e ++ "\"")
  | .check => "\x7b\"" ++ e ++ "\"\x7d"
  | .call => if e.isEmpty then attributes "shape: subroutine" else "[[\"" ++ e ++ "\"]]"
  | .set => bracketed
  | .assign => bracketed
  | .prompt => bracketed
  | .execute => bracketed

/-- The word on the edge of a branch, with the blank behind it. -/
def edgeLabel (kind : Kind) : Branch → String
  | .next => if kind = .check then "|TRUE| " else ""
  | .other => if kind = .check then "|FALSE| " else "|FAILED| "

/-- The line that declares an activity. -/
def nodeLine (a : Activity) : String := "  " ++ a.name ++ shape a ++ "\n"

/-- The line of an edge. -/
def edgeLine (a : Activity) (branch : Branch) (target : String) : String :=
  "  " ++ a.name ++ " --> " ++ edgeLabel a.kind branch ++ target ++ "\n"

/-- A flowchart in the making: the text and the names of the activities already in it. -/
structure Draft where
  text : String := ""
  visited : List String := []

/-- A draft with more text. -/
def Draft.write (d : Draft) (s : String) : Draft := { d with text := d.text ++ s }

/-- Writes the activities that can be reached from a name and are not written yet: each with its
edges, what a branch leads to right behind that branch. Every level of `depth` writes one more
activity, so as many levels as there are activities suffice. -/
def writeFrom (w : Workflow) : (depth : Nat) → (name : String) → Draft → Draft
  | 0, _, d => d
  | depth + 1, name, d =>
    match w.activity? name with
    | none => d
    | some a =>
      if d.visited.contains a.name then d
      else
        let d := { d with visited := a.name :: d.visited }.write (nodeLine a)
        let d := match a.next with
          | some name => writeFrom w depth name (d.write (edgeLine a .next name))
          | none => d
        match a.other with
        | some name => writeFrom w depth name (d.write (edgeLine a .other name))
        | none => d

/-- Writes what can be reached from a name. -/
def Draft.reach (w : Workflow) (d : Draft) (name : String) : Draft :=
  writeFrom w (w.activities.size + 1) name d

/-- Writes a handler under a heading of its own, unless it is written already. -/
def Draft.reachHandler (w : Workflow) (d : Draft) (name : String) : Draft :=
  if d.visited.contains name then d
  else (d.write ("\n  %% Event-handler: " ++ name ++ "\n")).reach w name

/-- The node that holds the parameters, if there are any. -/
def paramsLine (w : Workflow) : String :=
  if w.params.isEmpty then ""
  else
    let pairs := w.params.entries.map fun (k, v) => k ++ "=" ++ v
    let label := attributes ("shape: doc, label: \"" ++ joinStrings ", " pairs ++ "\"")
    "  PARAMS" ++ label ++ "\n"

/-- The activities of a workflow: those reachable from the start, the handlers, the rest. -/
def body (w : Workflow) : Draft :=
  let d : Draft := {}
  let d := match w.start with
    | some name => d.reach w name
    | none => d
  let d := w.handlers.foldl (Draft.reachHandler w) d
  let rest := w.activities.keys.filter fun name => !d.visited.contains name
  rest.foldl (Draft.reach w) d

/-- How the current activity looks. -/
def currentStyle : String := "stroke:#000,stroke-width:4px,fill:#80a0ff"

end Flowchart

namespace Workflow

/-- The section with the flowchart; the current activity, if given, stands out. -/
def flowchart (w : Workflow) (current : Option String) : String :=
  let style := match current with
    | some name => "\n  style " ++ name ++ " " ++ Flowchart.currentStyle ++ "\n"
    | none => ""
  "# Workflow\n```mermaid\nflowchart TD\n" ++ Flowchart.paramsLine w ++
    (Flowchart.body w).text ++ style ++ "```\n"

/-- A heading paragraph, or nothing for an empty text. -/
def paragraph (mark text : String) : String :=
  if text.isEmpty then "" else mark ++ text ++ "\n\n"

/-- The document that describes a workflow, in canonical form. -/
def document (w : Workflow) : String :=
  paragraph "# " w.name ++ paragraph "" w.description ++ w.flowchart none ++ "\n# Prompts\n\n" ++
    String.join (w.prompts.entries.map fun (key, p) =>
      "## " ++ key ++ "\n\n" ++ p.content ++ "\n\n")

end Workflow

end Playbook
