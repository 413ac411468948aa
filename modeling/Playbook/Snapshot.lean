/-
  Snapshots: the workflow, its variables and the history of its run as a document. Its flowchart
  section is that of the workflow, with the current activity marked.
-/
import Playbook.Workflow.Writing
import Playbook.History
import Playbook.World

namespace Playbook

namespace Snapshot

/-- A variable in the list of variables; a text of several lines begins below its name. -/
def variableLines (key value : String) : String :=
  if value.toList.contains '\n' then "- **" ++ key ++ "**:  \n" ++ value ++ "  \n"
  else "- **" ++ key ++ "**=" ++ value ++ "  \n"

/-- A record under its number. -/
def recordLines (number : Nat) (r : Record) : String :=
  let heading := s!"## {number}. {r.caption}  => {r.status.tag}\n<!-- ts={r.at_.text} -->\n"
  if r.result.isEmpty then heading else heading ++ r.result ++ "\n\n"

/-- The document of a run in which `current` is the activity visited last. -/
def text (w : Workflow) (current : Option String) (vars : Table String)
    (records : List Record) : String :=
  let listed := vars.entries.map fun (k, v) => variableLines k v
  let recorded := (records.zipIdx 1).map fun (r, n) => recordLines n r
  "# " ++ w.name ++ "\n\n- filepath=" ++ w.filepath ++ "\n\n" ++ w.flowchart current ++
    "\n## Variables:  \n" ++ String.join listed ++ "\n\n# History\n\n" ++ String.join recorded

end Snapshot

namespace History

/-- Writes the snapshot, if snapshots are written at all. A disk that refuses it is told of and
does not stop the run. -/
def save {σ : Type} (h : History) (workflow : Workflow) (current : Option String)
    (vars : Table String) (w : World σ) : World σ :=
  match h.snapshotPath? workflow.filepath with
  | none => w
  | some path =>
    let dir := (Path.parent? path).getD ""
    match w.disk.makeDirectories dir with
    | .error f => w.tell ⟨.warn, .history, s!"Cannot create {dir}: {f.message}"⟩
    | .ok disk =>
      let w := { w with disk }
      match disk.writeText path (Snapshot.text workflow current vars h.records) with
      | .error f => w.tell ⟨.warn, .history, s!"Cannot write history {path}: {f.message}"⟩
      | .ok disk => { w with disk }.tell ⟨.debug, .history, s!"History written to {path}"⟩

end History

end Playbook
