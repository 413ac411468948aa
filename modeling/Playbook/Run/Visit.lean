/-
  Visits: what a run does at an activity, and whether it succeeded there. A visit that cannot do
  its work is rejected: the run fails with a diagnostic, and nothing else is touched.
-/
import Playbook.Run.Basic
import Playbook.Comparison
import Playbook.Command.Extraction

namespace Playbook

open Playbook.Text

/-- Whether a visit succeeded, and the run after it. -/
abbrev Visited (σ : Type) := Bool × Run σ

namespace Run

variable {σ : Type}

/-- Fails the activity with a diagnostic and records that. -/
def reject (r : Run σ) (a : Activity) (message : String) : Visited σ :=
  (false, ((r.tell .warn s!"{a.name}: {message}").fail message).record a.name a.caption)

/-- The run succeeds at an activity and records that. -/
def accept (r : Run σ) (a : Activity) : Visited σ := (true, r.record a.name a.caption)

/-! ## Start and handlers -/

/-- The run is on its way. -/
def visitStart (r : Run σ) (a : Activity) : Visited σ :=
  ((r.tell .info s!"START: {r.workflow.name}").withStatus .doing).accept a

/-- A handler does nothing but lead on. -/
def visitHandler (r : Run σ) (a : Activity) : Visited σ := (true, r.record a.name a.name)

/-! ## Variables and the result -/

/-- The two sides of an assignment, between their blanks, or what is wrong with it. -/
def setParts (expression : String) : Except String (String × String) :=
  match splitOnce '=' expression.toList with
  | none =>
    .error s!"SET expression {expression} is not valid!\nSyntax: <variable>=<value>"
  | some (left, right) =>
    let name := String.ofList (trim left)
    if name.isEmpty then .error s!"SET expression {expression} has no variable"
    else .ok (name, String.ofList (trim right))

/-- Stores a value: what the right side names, or its text, with placeholders filled. -/
def visitSet (r : Run σ) (a : Activity) : Visited σ :=
  match setParts a.expression with
  | .error message => r.reject a message
  | .ok (name, source) =>
    let template := r.context.valueOr r.world source source
    let value := r.render template
    let r := ((r.afterValue source).afterRender template).tell .info
      s!"SET: {name}={quote (preview value)}"
    (r.setValue name value).accept a

/-- Makes the value of a name the result, with placeholders filled. -/
def visitAssign (r : Run σ) (a : Activity) : Visited σ :=
  let name := trimmed a.expression
  let looked := r.afterValue name
  match r.value? name with
  | none => looked.reject a s!"ASSIGN value {quote a.expression} is not set!"
  | some template =>
    let result := r.render template
    (((looked.afterRender template).withResult result).tell .info
      s!"ASSIGN: {preview result}").accept a

/-! ## Checks -/

/-- The words of a check: what is compared, how, and with what. -/
def checkParts? (expression : String) : Option (String × String × String) :=
  match (words expression.toList).map String.ofList with
  | left :: operator :: right :: more => some (left, operator, joinStrings " " (right :: more))
  | _ => none

/-- What is said of an expression that is no check. -/
def checkFault (expression : String) : String :=
  s!"CHECK expression {expression} is not valid!\nSyntax: <variable> <operation> <expected>"

/-- Compares two values and records the comparison. -/
def compareValues (r : Run σ) (a : Activity) (c : Comparison) (left right : String) : Visited σ :=
  let r := r.tell .info s!"CHECK: {preview left} {c.tag} {quote right}"
  match c.holds left right with
  | .ok outcome =>
    (outcome, (r.record a.name a.caption).tell .debug s!"CHECK outcome: {outcome}")
  | .error f =>
    r.reject a s!"CHECK pattern {quote right} is not valid: {f.message right}"

/-- Succeeds if a value compares as expected; what is expected is a name or a text. -/
def visitCheck (r : Run σ) (a : Activity) : Visited σ :=
  match checkParts? a.expression with
  | none => r.reject a (checkFault a.expression)
  | some (name, operator, expected) =>
    let looked := (r.afterValue name).afterValue expected
    match r.value? name, Comparison.ofWord? operator with
    | some left, some c =>
      looked.compareValues a c left (r.context.valueOr r.world expected expected)
    | _, _ => looked.reject a (checkFault a.expression)

/-! ## Agent and operator -/

/-- The record of a prompt and what came of it. -/
def promptEntry (content reply : String) : String := content ++ "\n\n---\n\n" ++ reply

/-- Gives a prompt to the agent in its role; the reply to the system's is of no account, and the
assistant's is put into the conversation as it is. -/
def Agent.take (agent : Agent σ) (role : Role) (content : String) (w : World σ) :
    Except AgentFault String × World σ :=
  match role with
  | .system =>
    let (reply, w) := agent.system content w
    (reply.map fun _ => "", w)
  | .assistant => (.ok content, agent.advise none (some content) w)
  | .user => agent.ask content w

/-- The role of a prompt, or the role that its id suggests. -/
def promptRole (w : Workflow) (id : String) : Role :=
  match w.prompt? id with
  | some p => p.role
  | none => Role.ofId id

/-- Gives a prompt to the agent and records the reply. -/
def giveToAgent (r : Run σ) (a : Activity) (agent : Agent σ) (id : String) (role : Role)
    (content : String) : Visited σ :=
  let r := r.tell .info s!"PROMPT: role={role.title}, content={preview content}"
  let index := r.history.records.length
  let r := (r.record a.name a.caption).update index (promptEntry content "...")
  let (reply, world) := Agent.take agent role content r.world
  let r := { r with world }
  let (outcome, r) := match reply with
    | .ok text => (true, (r.tell .info s!"PROMPT: result: {preview text}").withResult text)
    | .error f => (false, r.fail s!"PROMPT {id} failed: {f.message}")
  (outcome, (r.update index (promptEntry content r.context.result)).save a.name)

/-- Gives the prompt that the expression names to the agent; its reply is the result. -/
def visitPrompt (r : Run σ) (a : Activity) : Visited σ :=
  let id := trimmed a.expression
  let looked := r.afterValue id
  match r.value? id with
  | none => looked.reject a s!"PROMPT content is not set or not found! prompt_id={id}"
  | some template =>
    match r.context.agent with
    | none => looked.reject a "PROMPT needs an agent, none is set"
    | some agent =>
      (looked.afterRender template).giveToAgent a agent id (promptRole r.workflow id)
        (r.render template)

/-- Shows the result to the operator, whose answer is the new result. -/
def visitAsk (r : Run σ) (a : Activity) : Visited σ :=
  let question := r.context.result
  let r := r.tell .info s!"ASK: {preview question}"
  let index := r.history.records.length
  let r := (r.record a.name a.caption).update index "..."
  let (answer, world) := r.context.operator.ask question r.world
  let r := { r with world }
  let (outcome, r) := match answer with
    | some text => (true, r.withResult text)
    | none => (false, r.fail "Interrupted by user!")
  let entry := s!"Input:\n{question}\n\nOutput:\n{r.context.result}\n\n"
  (outcome, (r.update index entry).save a.name)

/-! ## Commands -/

/-- Runs all commands in order, whatever comes of each. -/
def executeAll (executor : Executor σ) : List Command → World σ → List (Command × Outcome) × World σ
  | [], w => ([], w)
  | c :: cs, w =>
    let (outcome, w) := executor.execute c w
    let (rest, w) := executeAll executor cs w
    ((c, outcome) :: rest, w)

/-- What a command and its output add to the result. -/
def transcript (c : Command) (o : Outcome) : String :=
  String.join (c.lines.map fun line => "$ " ++ line ++ "\n") ++ o.output ++ "\n"

/-- What a command and its output add to the record. -/
def logEntry (c : Command) (o : Outcome) : String :=
  let input := "Input:\n```shell\n" ++ String.join (c.lines.map (· ++ "\n")) ++ "```\n\n"
  if o.output.isEmpty then input ++ "No Output\n\n"
  else input ++ "Output:\n```shell\n" ++ o.output ++ "\n```\n\n"

/-- The record of all commands. -/
def commandLog (done : List (Command × Outcome)) : String :=
  if done.isEmpty then "No commands found\n"
  else String.join (done.map fun (c, o) => logEntry c o)

/-- Runs commands and records what came of them. -/
def runCommands (r : Run σ) (a : Activity) (executor : Executor σ) (commands : List Command) :
    Visited σ :=
  let r := r.tell .info s!"EXECUTE: {commands.length} command(s)"
  let index := r.history.records.length
  let r := (r.record a.name a.caption).update index "..."
  let (done, world) := executeAll executor commands r.world
  let r := { r with world }
  let r := if commands.isEmpty then r.tell .debug "EXECUTE: no commands found" else r
  let r := r.withResult (String.join (done.map fun (c, o) => transcript c o))
  (done.all fun (_, o) => o.exitCode == 0, (r.update index (commandLog done)).save a.name)

/-- Runs the command in the expression, or else the commands in the result. -/
def visitExecute (r : Run σ) (a : Activity) : Visited σ :=
  match r.context.executor with
  | none => r.reject a "Command executor is not set!"
  | some executor =>
    let expression := trimmed a.expression
    if expression.isEmpty then
      let text := r.context.result
      (r.tellAll (Command.extractNotices text)).runCommands a executor (Command.extract text)
    else
      (r.afterRender expression).runCommands a executor
        (Command.shell? (r.render expression)).toList

end Run

end Playbook
