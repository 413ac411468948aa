/-
  The catalogue: the workflows of a directory by name. A name is the name of a file without the
  ending that marks workflows; what is given as a name may also be a path.
-/
import Playbook.Workflow.Reading
import Playbook.History
import Playbook.Glob

namespace Playbook

open Playbook.Text

namespace Catalogue

/-- The ending of a workflow's file name. -/
def ending : String := History.workflowEnding

/-- A name or path with the ending behind it, if it is not there. -/
def withEnding (target : String) : String :=
  if ending.toList.isSuffixOf target.toList then target else target ++ ending

/-- The files that a name or path may mean, the preferred one first. -/
def candidates (target dir : String) : List String :=
  [target, withEnding target, Path.join dir target, Path.join dir (withEnding target)]

/-- The file that a name or path means. -/
def find (d : Disk) (target dir : String) : Except LoadFault String :=
  match (candidates target dir).find? d.isFile with
  | some path => .ok path
  | none => .error (.notFound s!"{target} (searched the current directory and {dir})")

/-- A text without an ending, however often it is repeated. -/
def dropEndings (ending : List Char) : (steps : Nat) → List Char → List Char
  | 0, cs => cs
  | n + 1, cs =>
    match dropEnd? ending cs with
    | some rest => dropEndings ending n rest
    | none => cs

/-- The name of the workflow in a file. -/
def nameOf (fileName : String) : String :=
  onString (fun cs => dropEndings ending.toList cs.length cs) fileName

/-- The names of the workflows in a directory, in the order of their characters. Wildcards in the
path of the directory stand for what they match. -/
def list (d : Disk) (dir : String) : Except LoadFault (List String) :=
  if !d.isDirectory dir then .ok []
  else
    match Glob.paths d (Path.join dir ("*" ++ ending)) with
    | .error f => .error (.notFound f.message)
    | .ok paths =>
      .ok ((paths.filterMap fun p => (Path.fileName? p).map nameOf).mergeSort fun a b => a ≤ b)

/-- The workflow that a name or path means. -/
def load (d : Disk) (target dir : String) : Except LoadFault Workflow :=
  match find d target dir with
  | .error f => .error f
  | .ok path => d.readWorkflow path

/-- What loading tells. -/
def loadNotices (d : Disk) (target dir : String) : List Notice :=
  match find d target dir with
  | .error _ => []
  | .ok path => ⟨.debug, .catalogue, s!"Loading workflow from {path}"⟩ :: d.readNotices path

end Catalogue

end Playbook
