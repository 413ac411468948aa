/-
  Reading a workflow: the entries of a document put together, in order, up to the first fault.
-/
import Playbook.Workflow.Document
import Playbook.Disk
import Playbook.Notice

namespace Playbook

open Playbook.Text Document

namespace Workflow

/-- A description with one more line. -/
def addLine (description line : String) : String :=
  if description.isEmpty then line else description ++ "\n" ++ line

/-- An activity declared once more: a nonempty expression replaces the old one. -/
def redeclare (expression : String) (a : Activity) : Activity :=
  if expression.isEmpty then a else { a with expression }

/-- The workflow with a node declared. -/
def declare (w : Workflow) (kind : Kind) (name expression : String) : Workflow :=
  if w.activities.contains name then
    { w with activities := w.activities.alter name (redeclare expression) }
  else { w with activities := w.activities.insert name { kind, name, expression } }

/-- The workflow with an edge; a later edge on the same branch replaces an earlier one. -/
def connect (w : Workflow) (source target : String) (branch : Branch) : Workflow :=
  { w with activities := w.activities.alter source (·.connect target branch) }

/-- The workflow with what an entry adds. -/
def add (w : Workflow) : Entry → Except ReadFault Workflow
  | .describe line => .ok { w with description := addLine w.description line }
  | .name heading => .ok { w with name := heading }
  | .param key value => .ok { w with params := w.params.insert key value }
  | .declare kind name expression => .ok (w.declare kind name expression)
  | .connect source target branch => .ok (w.connect source target branch)
  | .prompt key role content => .ok { w with prompts := w.prompts.insert key ⟨role, content⟩ }
  | .blankPrompt _ => .ok w
  | .skipSection _ => .ok w
  | .fault f => .error f

/-- The workflow with what the entries add, or the first fault. -/
def addAll (w : Workflow) : List Entry → Except ReadFault Workflow
  | [] => .ok w
  | e :: es =>
    match w.add e with
    | .ok w' => addAll w' es
    | .error f => .error f

/-- The activity with which every run begins. -/
def startName : String := "START"

/-- The first of the names that an activity has. -/
def firstDefined (w : Workflow) (names : List String) : Option String :=
  names.find? w.activities.contains

/-- The names that handle the end of a successful run, the preferred one first. -/
def successHandlers : List String := ["ON_SUCCESS", "ON_START"]

/-- The name that handles the end of a failed run. -/
def failureHandlers : List String := ["ON_FAILED"]

/-- The workflow with its entry point and handlers; it has to have an entry point. -/
def finish (w : Workflow) : Except ReadFault Workflow :=
  if w.activities.contains startName then
    .ok { w with
      start := some startName
      onSuccess := w.firstDefined successHandlers
      onFailed := w.firstDefined failureHandlers }
  else .error .missingStart

/-- The workflow that a document of `directory` describes. -/
def readAt (filepath directory : String) (text : String) : Except ReadFault Workflow :=
  match addAll { filepath, directory } (entries text) with
  | .ok w => w.finish
  | .error f => .error f

/-- The workflow that a document describes. -/
def read (text : String) : Except ReadFault Workflow := readAt "" "." text

/-! ## Notices -/

/-- What reading an entry tells. -/
def entryNotices (w : Workflow) : Entry → List Notice
  | .declare kind name expression =>
    if w.activities.contains name then []
    else [⟨.debug, .reading, s!"Activity-Parsed: {name} ({kind.tag}) expr={quote expression}"⟩]
  | .connect source target branch =>
    match w.activity? source with
    | none => []
    | some a =>
      let rewired := match a.target branch with
        | some old =>
          if old == target then []
          else
            let text := s!"Edge {branch.name} of {source} rewired from {old} to {target}"
            [⟨.warn, .reading, text⟩]
        | none => []
      let arrow := "--" ++ branch.name ++ "-->"
      rewired ++ [⟨.debug, .reading, s!"Flow-Parsed: {source} {arrow} {target}"⟩]
  | .blankPrompt key => [⟨.debug, .reading, s!"Skipping empty prompt {quote key}"⟩]
  | .skipSection heading => [⟨.debug, .reading, s!"Skipping section {quote heading}"⟩]
  | _ => []

/-- What reading the entries tells, up to the first fault. -/
def notices (w : Workflow) : List Entry → List Notice
  | [] => []
  | e :: es =>
    entryNotices w e ++
      match w.add e with
      | .ok w' => notices w' es
      | .error _ => []

/-- What is told of a workflow that was read from a file. -/
def loadedNotice (w : Workflow) : Notice :=
  let sizes := s!"({w.activities.size} activities, {w.prompts.size} prompts)"
  ⟨.info, .reading, s!"Loaded workflow {quote w.name} from {w.filepath} {sizes}"⟩

end Workflow

/-! ## Reading files -/

/-- Why a workflow cannot be loaded. -/
inductive LoadFault where
  | read (f : ReadFault)
  | notFound (message : String)
  | disk (path : String) (f : Fault)
  deriving Repr, DecidableEq

namespace LoadFault

def message : LoadFault → String
  | read f => f.message
  | notFound m => "Workflow not found: " ++ m
  | disk path f => s!"IO error on {path}: {f.message}"

/-- The fault with what caused it. -/
def chain : LoadFault → String
  | disk path f => (disk path f).message ++ ": " ++ f.message
  | f => f.message

end LoadFault

/-- The directory of a file; the working directory for a bare name. -/
def directoryOf (path : String) : String :=
  match Path.parent? path with
  | some dir => if dir.isEmpty then "." else dir
  | none => "."

/-- The workflow in a file. -/
def Disk.readWorkflow (d : Disk) (path : String) : Except LoadFault Workflow :=
  match d.readText path with
  | .error f => .error (.disk path f)
  | .ok text =>
    match Workflow.readAt path (directoryOf path) text with
    | .ok w => .ok w
    | .error f => .error (.read f)

/-- What reading the workflow in a file tells. -/
def Disk.readNotices (d : Disk) (path : String) : List Notice :=
  match d.readText path with
  | .error _ => []
  | .ok text =>
    let w : Workflow := { filepath := path, directory := directoryOf path }
    Workflow.notices w (Document.entries text) ++
      match Workflow.readAt path (directoryOf path) text with
      | .ok w => [w.loadedNotice]
      | .error _ => []

end Playbook
