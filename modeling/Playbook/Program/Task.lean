/-
  The tasks of the program: running, checking, rendering and listing workflows. Each prints on the
  console, and may end in a failure.
-/
import Playbook.Program.Arguments
import Playbook.Program.Report
import Playbook.Catalogue
import Playbook.Parameters
import Playbook.Run.Walk
import Playbook.Desk

namespace Playbook.Program

/-- Why a task was not completed. -/
inductive Failure where
  | settings (f : Settings.Fault)
  | load (f : LoadFault)
  | parameters (message : String)
  | executor (f : SessionFault)
  /-- That many edges lead nowhere. -/
  | dangling (count : Nat)
  deriving Repr, DecidableEq

/-- The failure in words, with what caused it. -/
def Failure.message : Failure → String
  | settings f => f.message
  | load f => f.chain
  | parameters message => message
  | executor f => "Failed to start the command executor: " ++ f.chain
  | dangling count => s!"{count} edge(s) point to undefined activities"

/-- What a task came to, and the world after it. -/
abbrev Completed (α : Type) := Except Failure α × World Desk

/-! ## Running -/

/-- The run that a request asks for. -/
def startRun (settings : Settings) (q : RunRequest) (workflow : Workflow) (w : World Desk) :
    Run Desk where
  context := {
    workflow
    agent := some Desk.personAgent
    executor := some Desk.localExecutor
    operator := Desk.personOperator }
  history := {
    directory := q.historyDirectory.or settings.output
    maxLength := settings.maxRecord }
  world := w
  maxHits := q.maxHits.getD settings.maxHits

/-- What is told of the agent's part in a run. -/
def usageNotice (u : Usage) : Notice :=
  ⟨.info, .reports,
    s!"Agent usage: {u.iterations} iterations, {u.shortDuration}s, {u.tokens} tokens"⟩

/-- Ends the session of a run and prints how the run ended. -/
def conclude (r : Run Desk) : Completed Status :=
  let w := Desk.closeShell r.world
  let w := w.tell (usageNotice w.rest.person.conversation.usage)
  let snapshot := r.history.snapshotPath? r.workflow.filepath
  let c := r.context
  (.ok c.status, Desk.print (Report.closing snapshot c.status c.result) w)

/-- Runs a workflow, if its run ends within fewer than `turns` turns. -/
def runWorkflow (turns : Nat) (settings : Settings) (q : RunRequest) (w : World Desk) :
    Option (Completed Status) :=
  let loaded := Catalogue.load w.disk q.target settings.workflows
  let w := w.tellAll (Catalogue.loadNotices w.disk q.target settings.workflows)
  match loaded with
  | .error f => some (.error (.load f), w)
  | .ok workflow =>
    match Parameters.ofTexts q.parameters with
    | .error message => some (.error (.parameters message), w)
    | .ok params =>
      let w := Desk.print (Report.opening workflow params) w
      let workflow := { workflow with params := workflow.params.insertAll params.entries }
      match Desk.startExecutor settings w with
      | (some f, w) => some (.error (.executor f), w)
      | (none, w) => ((startRun settings q workflow w).toEnd turns).map conclude

/-! ## Checking and rendering -/

/-- Reads the workflow in a file. -/
def readFile (file : String) (w : World Desk) : Completed Workflow :=
  match w.disk.readWorkflow file with
  | .error f => (.error (.load f), w.tellAll (w.disk.readNotices file))
  | .ok workflow => (.ok workflow, w.tellAll (w.disk.readNotices file))

/-- Prints the graph of a workflow. It fails if edges lead nowhere. -/
def checkFile (file : String) (w : World Desk) : Completed Unit :=
  match readFile file w with
  | (.error f, w) => (.error f, w)
  | (.ok workflow, w) =>
    let w := (Desk.print (Report.graph workflow) w).tellAll (Report.danglingNotices workflow)
    let count := workflow.danglingEdges.length
    (if count = 0 then .ok () else .error (.dangling count), w)

/-- Prints a workflow in its canonical form. -/
def renderFile (file : String) (w : World Desk) : Completed Unit :=
  match readFile file w with
  | (.error f, w) => (.error f, w)
  | (.ok workflow, w) => (.ok (), Desk.print workflow.document w)

/-! ## Listing -/

/-- Prints the workflows with those names, up to the first that is no file. -/
def listNames (dir : String) : List String → World Desk → Completed Unit
  | [], w => (.ok (), w)
  | name :: rest, w =>
    match Catalogue.find w.disk name dir with
    | .error f => (.error (.load f), w)
    | .ok path =>
      let loaded := w.disk.readWorkflow path
      let w := w.tellAll (w.disk.readNotices path)
      listNames dir rest (Desk.print (Report.catalogueLine name loaded) w)

/-- Prints the workflows of the settings' directory. -/
def listWorkflows (settings : Settings) (w : World Desk) : Completed Unit :=
  match Catalogue.list w.disk settings.workflows with
  | .error f => (.error (.load f), w)
  | .ok [] => (.ok (), Desk.print (Report.emptyCatalogue settings.workflows) w)
  | .ok names =>
    match listNames settings.workflows names (Desk.print Report.catalogueTitle w) with
    | (.error f, w) => (.error f, w)
    | (.ok (), w) => (.ok (), Desk.print Report.catalogueHint w)

/-! ## Any task -/

/-- Does what an invocation asks for: the state of a run at its end, if it was a run. -/
def perform (turns : Nat) (settings : Settings) (i : Invocation) (w : World Desk) :
    Option (Completed (Option Status)) :=
  let done := fun (c : Completed Unit) => some (c.1.map fun _ => none, c.2)
  match i with
  | .run q => (runWorkflow turns settings q w).map fun (s, w) => (s.map some, w)
  | .check file => done (checkFile file w)
  | .render file => done (renderFile file w)
  | .list => done (listWorkflows settings w)

end Playbook.Program
