/-
  A run of a workflow: its context, its history, the world around it, and how often each activity
  was visited.
-/
import Playbook.Context
import Playbook.Snapshot

namespace Playbook

/-- A run of a workflow. -/
structure Run (σ : Type) where
  context : Context σ
  history : History
  world : World σ
  /-- How often an activity may be visited. -/
  maxHits : Nat := 3
  /-- How often each activity was visited. -/
  hits : Table Nat := .empty
  /-- The activity to be visited next; none at the end. -/
  current : Option String := none

namespace Run

variable {σ : Type}

/-- The workflow that is run. -/
def workflow (r : Run σ) : Workflow := r.context.workflow

/-- How often an activity was visited. -/
def hitsOf (r : Run σ) (name : String) : Nat := (r.hits.get? name).getD 0

/-- The run with one more visit of an activity. -/
def hit (r : Run σ) (name : String) : Run σ :=
  { r with hits := r.hits.insert name (r.hitsOf name + 1) }

/-- The run after a notice. -/
def tell (r : Run σ) (level : Level) (text : String) : Run σ :=
  { r with world := r.world.tell ⟨level, .walking, text⟩ }

def tellAll (r : Run σ) (ns : List Notice) : Run σ := { r with world := r.world.tellAll ns }

/-- The failed run, with a diagnostic in front of the result. -/
def fail (r : Run σ) (message : String) : Run σ := { r with context := r.context.fail message }

/-- The run with another result. -/
def withResult (r : Run σ) (result : String) : Run σ :=
  { r with context := { r.context with result } }

/-- The run with another state. -/
def withStatus (r : Run σ) (status : Status) : Run σ :=
  { r with context := { r.context with status } }

/-- Writes the snapshot with an activity marked. -/
def save (r : Run σ) (current : Option String) : Run σ :=
  { r with world := r.history.save r.workflow current r.context.vars r.world }

/-- Adds a record of the present state and writes the snapshot. -/
def record (r : Run σ) (current : Option String) (caption : String) : Run σ :=
  let c := r.context
  { r with history := r.history.add caption c.status c.result r.world.now }.save current

/-- The run with another result in one of the records. -/
def update (r : Run σ) (index : Nat) (result : String) : Run σ :=
  { r with history := r.history.update index result }

/-- The value of a name. -/
def value? (r : Run σ) (name : String) : Option String := r.context.value? r.world name

/-- The run after a name was looked up. -/
def afterValue (r : Run σ) (name : String) : Run σ :=
  r.tellAll (r.context.valueNotices r.world name)

/-- The text with the values of its placeholders. -/
def render (r : Run σ) (text : String) : String := r.context.render r.world text

/-- The run after a text was rendered. -/
def afterRender (r : Run σ) (text : String) : Run σ :=
  r.tellAll (r.context.renderNotices r.world text)

/-- The run with a value stored under a name. -/
def setValue (r : Run σ) (name value : String) : Run σ :=
  let (context, world) := r.context.setValue r.world name value
  { r with context, world }

end Run

/-- The caption of an activity's records. -/
def Activity.caption (a : Activity) : String :=
  let expression := Text.trimmed a.expression
  if expression.isEmpty then a.kind.label else a.kind.label ++ ": " ++ expression

end Playbook
