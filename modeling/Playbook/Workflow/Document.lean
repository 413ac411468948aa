/-
  Documents as sequences of entries. A document is Markdown with a free preamble, a section
  `# Workflow` that holds a flowchart, and a section `# Prompts`. A scan goes through its lines
  and says, line by line, what each adds to the workflow; building the workflow from these
  entries is a second step.
-/
import Playbook.Workflow.Flowchart

namespace Playbook

open Playbook.Text

/-- Why a document is not a workflow. -/
inductive ReadFault where
  | invalidRole (line : Nat) (role : String)
  | unknownKind (line : Nat) (name : String)
  | invalidLabel (line : Nat) (label : String)
  | malformedLine (line : Nat) (text : String)
  | invalidEdge (line : Nat) (text : String)
  | missingStart
  deriving Repr, DecidableEq

namespace ReadFault

def message : ReadFault → String
  | invalidRole n role => s!"Invalid role {quote role} in prompt header at line {n}"
  | unknownKind n name => s!"Unknown activity kind for {quote name} at line {n}"
  | invalidLabel n label => s!"Invalid edge label {quote label} at line {n}"
  | malformedLine n text => s!"Malformed line {n}: {text}"
  | invalidEdge n text => s!"Invalid edge at line {n}: {text}"
  | missingStart => "Workflow has no START activity"

/-- The line that a fault is about. -/
def line? : ReadFault → Option Nat
  | invalidRole n _ => some n
  | unknownKind n _ => some n
  | invalidLabel n _ => some n
  | malformedLine n _ => some n
  | invalidEdge n _ => some n
  | missingStart => none

/-- The fault of a line with a text that is no node. -/
def ofNode (line : Nat) : Flowchart.NodeFault → ReadFault
  | .malformed text => malformedLine line text
  | .unknownKind name => unknownKind line name

end ReadFault

namespace Document

/-! ## Entries -/

/-- What a line of a document adds to the workflow. -/
inductive Entry where
  /-- A line of the description. -/
  | describe (line : String)
  | name (heading : String)
  | param (key value : String)
  | declare (kind : Kind) (name expression : String)
  | connect (source target : String) (branch : Branch)
  | prompt (key : String) (role : Role) (content : String)
  /-- A prompt without text adds nothing. -/
  | blankPrompt (key : String)
  /-- A section that is not about workflows adds nothing. -/
  | skipSection (heading : String)
  /-- The document is no workflow. -/
  | fault (f : ReadFault)
  deriving Repr, DecidableEq

/-- The entries of a node, and its name. -/
def nodeEntries : Flowchart.Node → List Entry × String
  | .params pairs => (pairs.map fun (k, v) => .param k v, String.ofList Flowchart.paramsName)
  | .activity kind name expression => ([.declare kind name expression], name)

/-- What declaring the parts of an edge line comes to: the entries, then either the labels and
names of the nodes or a fault. -/
structure Chain where
  entries : List Entry
  outcome : Except ReadFault (List (Option (List Char) × String))

/-- Declares the segments of an edge line from left to right. The first carries no label, and a
parameter node is no end of an edge. -/
def declareChain (n : Nat) (line : String) (isFirst : Bool) : List (List Char) → Chain
  | [] => ⟨[], .ok []⟩
  | segment :: rest =>
    let (label, text) := Flowchart.splitLabel (trim segment)
    if isFirst && label.isSome then ⟨[], .error (.invalidEdge n line)⟩
    else
      match Flowchart.node text with
      | .error f => ⟨[], .error (.ofNode n f)⟩
      | .ok (.params pairs) =>
        ⟨(nodeEntries (.params pairs)).1, .error (.invalidEdge n line)⟩
      | .ok (.activity kind name expression) =>
        let chain := declareChain n line false rest
        ⟨.declare kind name expression :: chain.entries,
          chain.outcome.map ((label, name) :: ·)⟩

/-- The edges between neighbours, up to the first label that is no branch. -/
def connectChain (n : Nat) : List (Option (List Char) × String) → List Entry
  | (_, source) :: (label, target) :: rest =>
    let word := label.getD []
    match Branch.ofLabel? word with
    | none => [.fault (.invalidLabel n (String.ofList word))]
    | some branch => .connect source target branch :: connectChain n ((label, target) :: rest)
  | _ => []

/-- The entries of a flowchart line. -/
def flowchartEntries (n : Nat) (line : List Char) : List Entry :=
  if Flowchart.isIgnored line then []
  else
    match Flowchart.segments line with
    | [only] =>
      match Flowchart.node only with
      | .error f => [.fault (.ofNode n f)]
      | .ok node => (nodeEntries node).1
    | segments =>
      let chain := declareChain n (String.ofList line) true segments
      match chain.outcome with
      | .error f => chain.entries ++ [.fault f]
      | .ok nodes => chain.entries ++ connectChain n nodes

/-! ## Scanning -/

/-- The sections of a document. -/
inductive Section where
  | preamble
  | workflow
  | prompts
  | other
  deriving Repr, DecidableEq

/-- A prompt whose lines are still being collected, the last line first. -/
structure PendingPrompt where
  key : String
  role : Role
  lines : List (List Char) := []
  deriving Repr, DecidableEq

/-- What a scan remembers between two lines. -/
structure Scan where
  current : Section := .preamble
  /-- Whether a heading has named the workflow. -/
  named : Bool := false
  inMermaid : Bool := false
  inFlowchart : Bool := false
  /-- Whether a fence is open in the prompts; headings inside of it are text. -/
  inFence : Bool := false
  pending : Option PendingPrompt := none
  deriving Repr, DecidableEq

/-- The entry of a prompt that has come to its end. -/
def promptEntries : Option PendingPrompt → List Entry
  | none => []
  | some p =>
    let content := joinWith ['\n'] p.lines.reverse
    if isAllBlank content then [.blankPrompt p.key]
    else [.prompt p.key p.role (String.ofList (trim content))]

/-- The section that a heading begins, and what the heading itself adds. The first heading of the
preamble names the workflow and stays in the preamble. -/
def enterSection (s : Scan) (heading : List Char) : Scan × List Entry :=
  let s := { s with inMermaid := false, inFlowchart := false, pending := none }
  let text := String.ofList heading
  if "Workflow".toList.isPrefixOf heading then ({ s with current := .workflow }, [])
  else if "Prompts".toList.isPrefixOf heading then ({ s with current := .prompts }, [])
  else if s.current == .preamble && !s.named then
    ({ s with named := !heading.isEmpty }, [.name text])
  else ({ s with current := .other }, [.skipSection text])

/-- A fence in front of code. -/
def fence : List Char := "```".toList

/-- One trimmed line of the workflow section. -/
def workflowLine (s : Scan) (n : Nat) (line : List Char) : Scan × List Entry :=
  if (fence ++ "mermaid".toList).isPrefixOf line then
    ({ s with inMermaid := true, inFlowchart := false }, [])
  else if fence.isPrefixOf line then ({ s with inMermaid := false, inFlowchart := false }, [])
  else if s.inMermaid && !s.inFlowchart then
    if "flowchart".toList.isPrefixOf line || "graph".toList.isPrefixOf line then
      ({ s with inFlowchart := true }, [])
    else (s, [])
  else if s.inFlowchart && !line.isEmpty then (s, flowchartEntries n line)
  else (s, [])

/-- One line of the prompts section. -/
def promptLine (s : Scan) (n : Nat) (raw : List Char) : Scan × List Entry :=
  let line := trim raw
  match (if s.inFence then none else dropStart? "## ".toList line) with
  | some rest =>
    let header := trim rest
    let word := firstWord header
    match Role.ofWord? word with
    | none =>
      ({ s with pending := none },
        promptEntries s.pending ++ [.fault (.invalidRole n (String.ofList word))])
    | some role =>
      ({ s with pending := some { key := String.ofList header, role } }, promptEntries s.pending)
  | none =>
    ({ s with
        inFence := if fence.isPrefixOf line then !s.inFence else s.inFence
        pending := s.pending.map fun p => { p with lines := raw :: p.lines } }, [])

/-- One line of a document. -/
def scanLine (s : Scan) (n : Nat) (raw : List Char) : Scan × List Entry :=
  let line := trim raw
  match (if s.inFence then none else dropStart? "# ".toList line) with
  | some heading =>
    let (s', entries) := enterSection s (trim heading)
    (s', promptEntries s.pending ++ entries)
  | none =>
    match s.current with
    | .preamble =>
      (s, if line.isEmpty then [] else [.describe (String.ofList (trimRight raw))])
    | .workflow => workflowLine s n line
    | .prompts => promptLine s n raw
    | .other => (s, [])

/-- The entries of the lines from number `n` on; the last prompt ends with the document. -/
def scanFrom (s : Scan) (n : Nat) : List (List Char) → List Entry
  | [] => promptEntries s.pending
  | raw :: rest =>
    let (s', entries) := scanLine s n raw
    entries ++ scanFrom s' (n + 1) rest

/-- The entries of a document. -/
def entries (text : String) : List Entry := scanFrom {} 1 (lines text.toList)

end Document

end Playbook
