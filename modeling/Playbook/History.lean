/-
  The history of a run: a record for every activity it visited, kept by the run and all the runs
  nested in it.
-/
import Playbook.Workflow.Basic
import Playbook.Text.Abridged
import Playbook.Calendar
import Playbook.Path

namespace Playbook

open Playbook.Text

/-- One visited activity. -/
structure Record where
  caption : String
  status : Status
  /-- The result register right after the visit, abridged. -/
  result : String
  at_ : Moment
  deriving Repr, DecidableEq

/-- The records of a run, and where and how they are kept. -/
structure History where
  /-- Where snapshots are written, if anywhere. -/
  directory : Option String := none
  /-- How many characters of a result a record keeps. -/
  maxLength : Nat := 4000
  records : List Record := []
  deriving Repr, DecidableEq

namespace History

/-- The history with one more record. -/
def add (h : History) (caption : String) (status : Status) (result : String) (at_ : Moment) :
    History :=
  { h with records := h.records ++ [⟨caption, status, abridgeMiddle result h.maxLength, at_⟩] }

/-- The history with another result in one of its records. -/
def update (h : History) (index : Nat) (result : String) : History :=
  { h with
    records := h.records.modify index fun r =>
      { r with result := abridgeMiddle result h.maxLength } }

/-- The ending of a workflow's file name. -/
def workflowEnding : String := ".wf.md"

/-- The ending of a snapshot's file name. -/
def snapshotEnding : String := ".wfh.md"

/-- The name of a workflow's file without its ending. -/
def stem (filepath : String) : String :=
  let name := (Path.fileName? filepath).getD ""
  match dropEnd? workflowEnding.toList name.toList with
  | some stem => String.ofList stem
  | none =>
    match Path.fileStem? filepath with
    | some stem => if stem.isEmpty then "workflow" else stem
    | none => "workflow"

/-- The file that holds the snapshot of a workflow's run. -/
def snapshotPath? (h : History) (filepath : String) : Option String :=
  h.directory.map fun dir => Path.join dir (stem filepath ++ snapshotEnding)

end History

end Playbook
