/-
  Workflows: activities joined by edges, with parameters and prompts. Edges name the activities
  they lead to, so a graph may have cycles.
-/
import Playbook.Prompt
import Playbook.Table

namespace Playbook

open Playbook.Text

/-! ## Kinds, states and branches -/

/-- What an activity does. -/
inductive Kind where
  | start
  | set
  | assign
  | check
  | prompt
  | ask
  | execute
  | call
  | success
  | failed
  | on
  deriving Repr, DecidableEq

namespace Kind

/-- Every kind. -/
def all : List Kind :=
  [start, set, assign, check, prompt, ask, execute, call, success, failed, on]

/-- The kind at the beginning of an activity's name. -/
def tag : Kind → String
  | start => "START"
  | set => "SET"
  | assign => "ASSIGN"
  | check => "CHECK"
  | prompt => "PROMPT"
  | ask => "ASK"
  | execute => "EXECUTE"
  | call => "CALL"
  | success => "SUCCESS"
  | failed => "FAILED"
  | on => "ON"

/-- The kind in front of an expression. -/
def label : Kind → String
  | start => "Start"
  | set => "Set"
  | assign => "Assign"
  | check => "Check"
  | prompt => "Prompt"
  | ask => "Ask"
  | execute => "Execute"
  | call => "Call"
  | success => "SUCCESS"
  | failed => "FAILED"
  | on => "ON"

/-- The part of an activity's name that tells its kind: up to the first underscore. -/
def stemOf (name : List Char) : List Char := name.takeWhile (· != '_')

/-- The kind that an activity's name tells, in any letter case. -/
def ofName? (name : List Char) : Option Kind :=
  all.find? fun k => sameLetters k.tag.toList (stemOf name)

end Kind

/-- The state of a run. -/
inductive Status where
  | created
  | doing
  | success
  | failed
  deriving Repr, DecidableEq

namespace Status

def tag : Status → String
  | created => "CREATED"
  | doing => "DOING"
  | success => "SUCCESS"
  | failed => "FAILED"

/-- A text between blanks in upper case, as a status is looked up. -/
def canonical (s : String) : String := onString (fun cs => upperAscii (trim cs)) s

/-- The status that a text names, in any letter case and between blanks. -/
def ofText? (s : String) : Option Status :=
  let word := canonical s
  [created, doing, success, failed].find? (·.tag == word)

/-- What is said of a text that names no status. -/
def faultMessage (s : String) : String := "unknown status " ++ quote (canonical s)

end Status

/-- The two ways out of an activity. -/
inductive Branch where
  /-- Taken when the activity succeeded. -/
  | next
  /-- Taken when it failed. -/
  | other
  deriving Repr, DecidableEq

namespace Branch

def name : Branch → String
  | next => "Next"
  | other => "Other"

/-- The words on an edge that is taken after success; no word at all is one of them. -/
def nextWords : List String := ["", "YES", "TRUE", "OK", "SUCCESS"]

/-- The words on an edge that is taken after failure. -/
def otherWords : List String := ["NO", "FALSE", "OTHER", "ELSE", "FAIL", "FAILED", "ERROR"]

/-- The branch that the word on an edge names, in any letter case and between blanks. -/
def ofLabel? (cs : List Char) : Option Branch :=
  let word := String.ofList (upperAscii (trim cs))
  if nextWords.contains word then some next
  else if otherWords.contains word then some other
  else none

end Branch

/-! ## Activities and workflows -/

/-- One node of the graph. -/
structure Activity where
  kind : Kind
  name : String
  /-- The operand; what it means depends on the kind. -/
  expression : String := ""
  next : Option String := none
  other : Option String := none
  deriving Repr, DecidableEq

/-- The activity at the end of a branch, if any. -/
def Activity.target (a : Activity) : Branch → Option String
  | .next => a.next
  | .other => a.other

/-- The activity with a branch leading to `name`. -/
def Activity.connect (a : Activity) (name : String) : Branch → Activity
  | .next => { a with next := some name }
  | .other => { a with other := some name }

/-- A complete workflow. -/
structure Workflow where
  /-- The file it was read from; empty if there is none. -/
  filepath : String := ""
  /-- Where its sub-workflows and `file:` variables are. -/
  directory : String := ""
  name : String := ""
  description : String := ""
  /-- The values with which variables begin. -/
  params : Table String := .empty
  /-- Prompts by their headings. -/
  prompts : Table Prompt := .empty
  activities : Table Activity := .empty
  start : Option String := none
  onSuccess : Option String := none
  onFailed : Option String := none
  deriving Repr, DecidableEq

namespace Workflow

/-- The activity of that name. -/
def activity? (w : Workflow) (name : String) : Option Activity := w.activities.get? name

/-- Whether a prompt's heading is its role's title followed by `id`. -/
def hasShortId (id : String) (key : String) (p : Prompt) : Bool :=
  match dropStart? p.role.title.toList key.toList with
  | some rest => trim rest == id.toList
  | none => false

/-- The prompt with that heading, or else the first whose heading is its role and then `id`. -/
def prompt? (w : Workflow) (id : String) : Option Prompt :=
  match w.prompts.get? id with
  | some p => some p
  | none => (w.prompts.entries.find? fun (key, p) => hasShortId id key p).map Prod.snd

/-- The edges to names that no activity has, in the order of the activities. -/
def danglingEdges (w : Workflow) : List (String × String) :=
  w.activities.values.flatMap fun a =>
    ([a.next, a.other].filterMap id).filterMap fun name =>
      if w.activities.contains name then none else some (a.name, name)

/-- The handlers of the two ways in which a run can end. -/
def handlers (w : Workflow) : List String := [w.onSuccess, w.onFailed].filterMap id

end Workflow

end Playbook
