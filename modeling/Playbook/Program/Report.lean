/-
  Reports: what the program prints about workflows and their runs.
-/
import Playbook.Workflow.Writing
import Playbook.Workflow.Reading
import Playbook.Console

namespace Playbook.Program.Report

/-- The name of the program. -/
def programName : String := "codementor"

/-- The version of the program. -/
def programVersion : String := "0.1.0"

/-- A text with blanks behind it, `width` characters at least. -/
def padded (width : Nat) (s : String) : String :=
  s ++ String.ofList (List.replicate (width - s.toList.length) ' ')

/-- A text in a style, with the plain style behind it. -/
def styled (style text : String) : String := style ++ text ++ Style.reset

/-- Text as a line. -/
def line (text : String) : String := text ++ "\n"

/-- Parameters, one on a line. -/
def parameterLines (params : Table String) : String :=
  String.join (params.entries.map fun (k, v) => line s!"  - {k}={v}")

/-! ## Runs -/

/-- What is printed when a workflow is about to run with those parameters. -/
def opening (w : Workflow) (params : Table String) : String :=
  let heading :=
    line (styled Style.bold ("Running workflow: " ++ w.name) ++
      s!" (from file {w.filepath}) using {ConsoleAgent.model}")
  if params.isEmpty then heading else heading ++ line "with parameters:" ++ parameterLines params

/-- The colour of a state. -/
def colour : Status → String
  | .success => Style.green
  | .failed => Style.red
  | _ => Style.yellow

/-- What is printed of a run that has ended, with the file of its snapshot. -/
def closing (snapshot : Option String) (status : Status) (result : String) : String :=
  let history := match snapshot with
    | some path => line (styled Style.gray ("History: " ++ path))
    | none => ""
  history ++ line (styled (colour status) status.tag) ++ line result

/-! ## Graphs -/

/-- An edge to an activity. -/
def edgeLine (arrow : String) : Option String → String
  | some name => line ("  " ++ styled Style.gray s!"    {arrow} {name}")
  | none => ""

/-- An activity with its edges. -/
def activityLines (a : Activity) : String :=
  line s!"  {padded 24 a.name} {padded 8 a.kind.tag} {a.expression}" ++
    edgeLine "-->" a.next ++ edgeLine "-x>" a.other

/-- The handler of an end. -/
def handlerLine : Option String → String
  | some name => "\n" ++ line ("Event handler: " ++ name)
  | none => ""

/-- A prompt and how many bytes it has. -/
def promptLine (id : String) (p : Prompt) : String :=
  line s!"  - {id} ({p.content.utf8ByteSize} chars)"

/-- A list under its title, unless it is empty. -/
def titled (title : String) (lines : List String) : String :=
  if lines.isEmpty then "" else "\n" ++ line title ++ String.join lines

/-- A workflow: its parameters, activities and edges, handlers and prompts. -/
def graph (w : Workflow) : String :=
  let description := if w.description.isEmpty then "" else line w.description
  let params :=
    if w.params.isEmpty then "" else "\n" ++ line "Parameters:" ++ parameterLines w.params
  line (styled Style.bold w.name) ++ description ++ params ++
    "\n" ++ line "Activities:" ++ String.join (w.activities.values.map activityLines) ++
    handlerLine w.onSuccess ++ handlerLine w.onFailed ++
    titled "Prompts:" (w.prompts.entries.map fun (id, p) => promptLine id p)

/-- What is told of edges that lead nowhere. -/
def danglingNotices (w : Workflow) : List Notice :=
  w.danglingEdges.map fun (source, target) =>
    ⟨.warn, .reports, s!"Edge {source} --> {target} points to an undefined activity"⟩

/-! ## Catalogues -/

/-- What is printed of a directory without workflows. -/
def emptyCatalogue (dir : String) : String := line ("No workflows found. Create one in " ++ dir)

/-- What is printed in front of the workflows of a directory. -/
def catalogueTitle : String := line "Available workflows:"

/-- A workflow by its name and title, or why it cannot be read. -/
def catalogueLine (name : String) (loaded : Except LoadFault Workflow) : String :=
  let shown := match loaded with
    | .ok w => w.name
    | .error f => styled Style.red ("(" ++ f.message ++ ")")
  line s!"  - {padded 20 name} {shown}"

/-- What is printed behind the workflows of a directory. -/
def catalogueHint : String := "\n" ++ line s!"Run with: {programName} run <name>"

end Playbook.Program.Report
