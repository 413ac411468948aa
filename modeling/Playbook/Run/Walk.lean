/-
  Walking: a run goes from activity to activity along the branches that the visits choose. A
  missing branch ends the run, unless a handler of that end was never visited. A visit beyond the
  limit and an activity that is not there are failures. Nothing guarantees that a run ends, since
  runs may be nested without end; so a run is asked for its end within a number of turns.
-/
import Playbook.Run.Visit
import Playbook.Workflow.Reading

namespace Playbook

open Playbook.Text

namespace Run

variable {σ : Type}

/-! ## The end of a run -/

/-- What is told of the end of a run. -/
def endNotice (success : Bool) (result : String) : Notice :=
  if success then ⟨.info, .walking, s!"SUCCESS result: {preview result}"⟩
  else if result.isEmpty then ⟨.warn, .walking, "FAILED without result"⟩
  else ⟨.warn, .walking, s!"FAILED result: {preview result}"⟩

/-- The handler of an end that was never visited. -/
def freshHandler? (r : Run σ) (success : Bool) : Option String :=
  let handler := if success then r.workflow.onSuccess else r.workflow.onFailed
  handler.filter fun name => r.hitsOf name == 0

/-- Ends the run, or leads it to a handler that was never visited. -/
def finish (r : Run σ) (success : Bool) (last : Option String) : Run σ :=
  match r.freshHandler? success with
  | some handler =>
    { r.tell .info s!"Continuing with event handler {handler}" with current := some handler }
  | none =>
    let status := if success then Status.success else .failed
    let r := (r.withStatus status).tellAll [endNotice success r.context.result]
    { r.record last status.tag with current := none }

/-! ## Nested runs -/

/-- The run of a sub-workflow before its first turn: it has the parameters of the sub-workflow, the
variables of the run around it, which win over them, and all else that this run has. -/
def enter (r : Run σ) (sub : Workflow) : Run σ :=
  let c := r.context
  { r with
    context := { c with
      workflow := sub
      status := .created
      vars := sub.params.insertAll c.vars.entries }
    hits := .empty
    current := none }

/-- Nobody is at the console of a run that lent its operator. -/
def nobody : Operator σ := ⟨fun _ w => (none, w)⟩

/-- What is left of a run while a nested run has its agent, its executor and its operator. -/
def lend (r : Run σ) : Run σ :=
  { r with
    context := { r.context with agent := none, executor := none, operator := nobody } }

/-- The run after a nested run: the variables and the result are those of the nested run, and what
was lent to it comes back. -/
def leave (r child : Run σ) : Run σ :=
  let c := child.context
  { r with
    context := { r.context with
      vars := r.context.vars.insertAll c.vars.entries
      result := c.result
      agent := c.agent
      executor := c.executor
      operator := c.operator }
    history := child.history
    world := child.world }

/-- Runs the workflow in the file that the expression names. `toEnd` is the way in which a nested
run gets to its end, if it does. -/
def visitCall (toEnd : Run σ → Option (Run σ)) (r : Run σ) (a : Activity) : Option (Visited σ) :=
  let expression := trimmed a.expression
  let file := r.render expression
  let r := r.afterRender expression
  if file.isEmpty then some (r.reject a "CALL needs a workflow file")
  else
    let path := Path.join r.workflow.directory file
    let sub := r.world.disk.readWorkflow path
    let r := r.tellAll (r.world.disk.readNotices path)
    match sub with
    | .error f => some (r.reject a s!"CALL {file} failed: {f.message}")
    | .ok sub =>
      let r := (r.tell .info s!"CALL: {path}").record a.name a.caption
      match toEnd (r.enter sub) with
      | none => none
      | some child =>
        let status := child.context.status
        some (status != .failed,
          (r.lend.leave child).tell .info s!"CALL: {file} ended with {status.tag}")

/-! ## Turns -/

/-- The visit of an activity that does not end the run. -/
def visit (toEnd : Run σ → Option (Run σ)) (r : Run σ) (a : Activity) : Option (Visited σ) :=
  match a.kind with
  | .start => some (r.visitStart a)
  | .on => some (r.visitHandler a)
  | .set => some (r.visitSet a)
  | .assign => some (r.visitAssign a)
  | .check => some (r.visitCheck a)
  | .prompt => some (r.visitPrompt a)
  | .ask => some (r.visitAsk a)
  | .execute => some (r.visitExecute a)
  | .call => r.visitCall toEnd a
  | .success => some (true, r)
  | .failed => some (true, r)

/-- Goes on along the branch that a visit chose. -/
def follow (a : Activity) (outcome : Bool) (r : Run σ) : Run σ :=
  match if outcome then a.next else a.other with
  | some name => { r with current := some name }
  | none => r.finish outcome a.name

/-- A visit of an activity that is within the limit. -/
def execute (toEnd : Run σ → Option (Run σ)) (r : Run σ) (a : Activity) (name : String) :
    Option (Run σ) :=
  let r := r.tell .debug s!"Visiting {name} ({a.kind.tag})"
  match a.kind with
  | .success => some (r.finish true a.name)
  | .failed => some (r.finish false a.name)
  | _ => (r.visit toEnd a).map fun (outcome, r) => follow a outcome r

/-- What becomes of a visit beyond the limit. -/
def refuse (r : Run σ) (a : Activity) (name : String) : Run σ :=
  let r := r.tell .warn s!"Activity {name} exceeded {r.maxHits} executions"
  (r.fail s!"Too many executions of {name} (max {r.maxHits})").finish false a.name

/-- One turn: the visit of the activity called `name`. -/
def turn (toEnd : Run σ → Option (Run σ)) (r : Run σ) (name : String) : Option (Run σ) :=
  match r.workflow.activity? name with
  | none => some ((r.fail s!"Activity {name} is not defined").finish false none)
  | some a =>
    let r := r.hit name
    if r.maxHits < r.hitsOf name then some (r.refuse a name) else r.execute toEnd a name

/-- The run before its first turn. -/
def begin (r : Run σ) : Run σ :=
  let r := r.tell .info s!"Running workflow {quote r.workflow.name}"
  match r.workflow.start with
  | none => { r.fail "Workflow has no START activity" with current := none }
  | some name => { r with current := some name }

/-- Goes on to the end, if that takes fewer than `turns` turns; a nested run has fewer turns than
the run around it has left. -/
def walk : (turns : Nat) → Run σ → Option (Run σ)
  | 0, _ => none
  | n + 1, r =>
    match r.current with
    | none => some (r.save none)
    | some name =>
      match r.turn (fun child => walk n child.begin) name with
      | none => none
      | some next => walk n next

/-- Runs the workflow to its end, if that takes fewer than `turns` turns. -/
def toEnd (turns : Nat) (r : Run σ) : Option (Run σ) := walk turns r.begin

end Run

end Playbook
