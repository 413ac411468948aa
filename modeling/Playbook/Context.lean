/-
  The context of a run: its state, the result register, the variables, and the capabilities that
  it was given. A name is looked up as a constant, a register, a file, a variable, a prompt and a
  variable of the environment, in this order.
-/
import Playbook.Workflow.Basic
import Playbook.Template
import Playbook.Text.Abridged
import Playbook.Command.Basic
import Playbook.World

namespace Playbook

open Playbook.Text

/-! ## Capabilities -/

/-- Why an agent has no reply. -/
inductive AgentFault where
  | input (message : String)
  | endOfInput
  | failure (message : String)
  deriving Repr, DecidableEq

def AgentFault.message : AgentFault → String
  | input m => "IO error: " ++ m
  | endOfInput => "No more input available"
  | failure m => "Agent error: " ++ m

/-- Somebody or something that answers prompts. -/
structure Agent (σ : Type) where
  /-- Begins a new conversation under a system prompt. -/
  system : String → World σ → Except AgentFault String × World σ
  /-- Asks a question and waits for the reply. -/
  ask : String → World σ → Except AgentFault String × World σ
  /-- Puts a question, an answer or both into the conversation. -/
  advise : Option String → Option String → World σ → World σ

/-- Something that runs commands. A failure is part of the outcome. -/
structure Executor (σ : Type) where
  execute : Command → World σ → Outcome × World σ

/-- The person at the console. -/
structure Operator (σ : Type) where
  /-- Shows a text and waits for a line; none if the person interrupted. -/
  ask : String → World σ → Option String × World σ

/-! ## The context -/

/-- The state of one run. -/
structure Context (σ : Type) where
  workflow : Workflow
  status : Status := .created
  /-- The value that one activity hands to the next. -/
  result : String := ""
  vars : Table String := workflow.params
  agent : Option (Agent σ) := none
  executor : Option (Executor σ) := none
  operator : Operator σ

namespace Context

variable {σ : Type}

/-- The longest name that is looked up. -/
def maxNameLength : Nat := 100

/-- The name of the state. -/
def statusName : String := "STATUS"

/-- The names of the result register. -/
def resultNames : List String := ["RESULT", "CONTENT"]

/-- What begins a name or a value that stands for a file. -/
def fileMark : String := "file:"

/-- The text of a constant: a name between single quotes. -/
def constant? (name : String) : Option String :=
  match name.toList with
  | '\'' :: rest => (dropEnd? ['\''] rest).map String.ofList
  | _ => none

/-- The file that a name or a value stands for. -/
def file? (s : String) : Option String :=
  (dropStart? fileMark.toList s.toList).map String.ofList

/-- The path of a file named in a workflow. -/
def filePath (c : Context σ) (file : String) : String :=
  Path.join c.workflow.directory (trimmed file)

/-- The text of a file named in a workflow, if it can be read. -/
def fileText? (c : Context σ) (w : World σ) (file : String) : Option String :=
  (w.disk.readText (c.filePath file)).toOption

/-- The value of a variable of the environment. -/
def environment? (w : World σ) (name : String) : Option String :=
  if name.toList.contains '=' || name.toList.contains '\x00' then none
  else w.environment.get? name

/-- The value of a name that is neither constant nor register nor file. -/
def storedValue? (c : Context σ) (w : World σ) (name : String) : Option String :=
  match c.vars.get? name with
  | some value =>
    match file? value with
    | some file => c.fileText? w file
    | none => some value
  | none =>
    match c.workflow.prompt? name with
    | some p => some p.content
    | none => environment? w name

/-- The value of a name that is no constant. -/
def namedValue? (c : Context σ) (w : World σ) (name : String) : Option String :=
  if name = statusName then some c.status.tag
  else if name ∈ resultNames then some c.result
  else
    match file? name with
    | some file => c.fileText? w file
    | none => c.storedValue? w name

/-- The value of a name, if it has one. -/
def value? (c : Context σ) (w : World σ) (name : String) : Option String :=
  if name.isEmpty then none
  else
    match constant? name with
    | some text => some text
    | none =>
      if maxNameLength < name.toList.length then none else c.namedValue? w name

/-- The value of a name, or else another text. -/
def valueOr (c : Context σ) (w : World σ) (name default : String) : String :=
  (c.value? w name).getD default

/-- The text with the values of its placeholders. -/
def render (c : Context σ) (w : World σ) (text : String) : String :=
  Template.fill (c.value? w) text

/-! ## What looking up tells -/

/-- What reading a file tells. -/
def fileNotices (c : Context σ) (w : World σ) (file : String) : List Notice :=
  let path := c.filePath file
  ⟨.debug, .context, s!"Reading variable file {path}"⟩ ::
    match w.disk.readText path with
    | .ok _ => []
    | .error f => [⟨.warn, .context, s!"Cannot read {path}: {f.message}"⟩]

/-- The file that looking up a name reads. -/
def fileRead? (c : Context σ) (name : String) : Option String :=
  if name.isEmpty || (constant? name).isSome || maxNameLength < name.toList.length ||
      name = statusName || name ∈ resultNames then none
  else
    match file? name with
    | some file => some file
    | none => (c.vars.get? name).bind file?

/-- What looking up a name tells. -/
def valueNotices (c : Context σ) (w : World σ) (name : String) : List Notice :=
  match c.fileRead? name with
  | some file => c.fileNotices w file
  | none => []

/-- What filling a text's placeholders tells. -/
def renderNotices (c : Context σ) (w : World σ) (text : String) : List Notice :=
  (Template.placeholders text).flatMap (c.valueNotices w)

/-! ## Changing values -/

/-- A diagnostic in front of a result, on a line of its own. -/
def withDiagnostic (message result : String) : String :=
  if result.isEmpty then message else message ++ "  \n" ++ result

/-- The failed context, with a diagnostic in front of the result. -/
def fail (c : Context σ) (message : String) : Context σ :=
  { c with status := .failed, result := withDiagnostic message c.result }

/-- Why a value is not stored. -/
inductive SetFault where
  | noName
  | constant
  | nameTooLong
  | status
  deriving Repr, DecidableEq

/-- What keeps a value from being stored under a name. -/
def setFault? (name value : String) : Option SetFault :=
  if name.isEmpty then some .noName
  else if (constant? name).isSome then some .constant
  else if maxNameLength < name.toList.length then some .nameTooLong
  else if name = statusName && (Status.ofText? value).isNone then some .status
  else none

/-- What is told of a value that is not stored. -/
def SetFault.text (name value : String) : SetFault → String
  | noName => s!"Variable name for value {quote (preview value)} is not set"
  | constant => s!"Constant {name} cannot be set"
  | nameTooLong => s!"Variable name {quote (preview name)} is too long"
  | status => "Ignoring STATUS value: " ++ Status.faultMessage value

/-- The context and the world with a value stored under a name that can take it. -/
def store (c : Context σ) (w : World σ) (name value : String) : Context σ × World σ :=
  if name = statusName then ({ c with status := (Status.ofText? value).getD c.status }, w)
  else if name ∈ resultNames then ({ c with result := value }, w)
  else
    match file? name with
    | some file =>
      let path := c.filePath file
      let w := w.tell ⟨.debug, .context, s!"Writing variable file {path}"⟩
      match w.disk.writeText path value with
      | .ok disk => (c, { w with disk })
      | .error f => (c, w.tell ⟨.warn, .context, s!"Cannot write {path}: {f.message}"⟩)
    | none => ({ c with vars := c.vars.insert name value }, w)

/-- Stores a value under a name, unless the name or the value does not allow it. -/
def setValue (c : Context σ) (w : World σ) (name value : String) : Context σ × World σ :=
  match setFault? name value with
  | some f => (c, w.tell ⟨.warn, .context, f.text name value⟩)
  | none => c.store w name value

end Context

end Playbook
