/-
  Where turns lead. A turn visits an activity within its limit and goes on along the branch that
  the visit chose, or it stops there: the activity is missing, was visited too often, is an end of
  the workflow, or has no such branch (`turn_leads`). A run that stops goes on to a handler that
  was never visited, or else ends with a last record (`finish_of_fresh`, `finish_of_none`).
-/
import Playbook.Proofs.Run.Journey

namespace Playbook

/-- Where an activity leads after a visit with this outcome. -/
def Activity.exit (a : Activity) (outcome : Bool) : Option String :=
  if outcome then a.next else a.other

/-- The handler of an end with success or without. -/
def Workflow.handler? (w : Workflow) (success : Bool) : Option String :=
  if success then w.onSuccess else w.onFailed

namespace Run

variable {σ : Type}

/-- The run in which the visit of an activity within its limit begins. -/
def visiting (s : Run σ) (a : Activity) (name : String) : Run σ :=
  (s.hit name).tell .debug s!"Visiting {name} ({a.kind.tag})"

/-- The turn of `s` at `name` makes a visit within the limit; it has this outcome and gets to
`t`. -/
structure Visits (ending : Ending σ) (s : Run σ) (name : String) (a : Activity) (outcome : Bool)
    (t : Run σ) : Prop where
  found : s.workflow.activity? name = some a
  within : s.hitsOf name < s.maxHits
  not_success : a.kind ≠ .success
  not_failed : a.kind ≠ .failed
  made : visit ending (s.visiting a name) a = some (outcome, t)

/-- The turn of `s` at `name` goes along no branch. In `t`, where `last` is the activity visited
last, the run would end: with success or without. -/
inductive Stops (ending : Ending σ) (s : Run σ) (name : String) :
    Bool → Option String → Run σ → Prop
  | missing (absent : s.workflow.activity? name = none) :
    Stops ending s name false none (s.fail s!"Activity {name} is not defined")
  | refused (a : Activity) (found : s.workflow.activity? name = some a)
      (beyond : s.maxHits ≤ s.hitsOf name) :
    Stops ending s name false a.name
      (((s.hit name).tell .warn s!"Activity {name} exceeded {s.maxHits} executions").fail
        s!"Too many executions of {name} (max {s.maxHits})")
  | reached (a : Activity) (found : s.workflow.activity? name = some a)
      (within : s.hitsOf name < s.maxHits) (success : Bool)
      (kind : a.kind = if success then .success else .failed) :
    Stops ending s name success a.name (s.visiting a name)
  | deadEnd {a : Activity} {outcome : Bool} {t : Run σ}
      (visited : Visits ending s name a outcome t) (leaf : a.exit outcome = none) :
    Stops ending s name outcome a.name t

/-- Where the turn of `s` at `name` leads. -/
inductive Leads (ending : Ending σ) (s : Run σ) (name : String) : Run σ → Prop
  | along {a : Activity} {outcome : Bool} {t : Run σ} {target : String}
      (visited : Visits ending s name a outcome t) (edge : a.exit outcome = some target) :
    Leads ending s name { t with current := some target }
  | stop {success : Bool} {last : Option String} {t : Run σ}
      (stopped : Stops ending s name success last t) :
    Leads ending s name (t.finish success last)

theorem follow_of_some {a : Activity} {outcome : Bool} {target : String}
    (h : a.exit outcome = some target) (t : Run σ) :
    follow a outcome t = { t with current := some target } := by
  unfold follow
  rw [show (if outcome then a.next else a.other) = some target from h]

theorem follow_of_none {a : Activity} {outcome : Bool} (h : a.exit outcome = none) (t : Run σ) :
    follow a outcome t = t.finish outcome a.name := by
  unfold follow
  rw [show (if outcome then a.next else a.other) = none from h]

/-- A visit within the limit goes on along its branch, or it stops. -/
theorem leads_of_visits {ending : Ending σ} {s t : Run σ} {name : String} {a : Activity}
    {outcome : Bool} (visited : Visits ending s name a outcome t) :
    Leads ending s name (follow a outcome t) := by
  cases hexit : a.exit outcome with
  | some target => rw [follow_of_some hexit]; exact .along visited hexit
  | none => rw [follow_of_none hexit]; exact .stop (.deadEnd visited hexit)

/-- A turn within the limit, of an activity that is no end of the workflow, makes a visit and
follows it. -/
theorem turn_eq_visit {s : Run σ} {name : String} {a : Activity}
    (found : s.workflow.activity? name = some a) (within : s.hitsOf name < s.maxHits)
    (hsuccess : a.kind ≠ .success) (hfailed : a.kind ≠ .failed) (ending : Ending σ) :
    turn ending s name =
      (visit ending (s.visiting a name) a).map fun v => follow a v.1 v.2 := by
  rw [turn_of_within found within]
  unfold execute
  dsimp only
  split
  · next hkind => exact absurd hkind hsuccess
  · next hkind => exact absurd hkind hfailed
  · rfl

/-- A turn within the limit ends the run at an end of the workflow. -/
theorem turn_of_reached {s : Run σ} {name : String} {a : Activity}
    (found : s.workflow.activity? name = some a) (within : s.hitsOf name < s.maxHits)
    (success : Bool) (kind : a.kind = if success then .success else .failed) (ending : Ending σ) :
    turn ending s name = some ((s.visiting a name).finish success a.name) := by
  rw [turn_of_within found within]
  unfold execute visiting
  rw [kind]
  cases success <;> rfl

theorem turn_leads {ending : Ending σ} {s next : Run σ} {name : String}
    (h : turn ending s name = some next) : Leads ending s name next := by
  cases found : s.workflow.activity? name with
  | none =>
    unfold turn at h
    rw [found] at h
    cases h
    exact .stop (.missing found)
  | some a =>
    by_cases within : s.hitsOf name < s.maxHits
    · by_cases hsuccess : a.kind = .success
      · rw [turn_of_reached found within true hsuccess] at h
        cases h
        exact .stop (.reached a found within true hsuccess)
      by_cases hfailed : a.kind = .failed
      · rw [turn_of_reached found within false hfailed] at h
        cases h
        exact .stop (.reached a found within false hfailed)
      rw [turn_eq_visit found within hsuccess hfailed] at h
      obtain ⟨⟨outcome, t⟩, hvisit, rfl⟩ := Option.map_eq_some_iff.mp h
      exact leads_of_visits ⟨found, within, hsuccess, hfailed, hvisit⟩
    · have stopped : Stops ending s name false a.name _ :=
        .refused a found (Nat.not_lt.mp within)
      rw [turn_of_beyond found (Nat.not_lt.mp within)] at h
      cases h
      exact .stop stopped

/-- A turn that makes a visit follows it. -/
theorem turn_of_visits {ending : Ending σ} {s t : Run σ} {name : String} {a : Activity}
    {outcome : Bool} (visited : Visits ending s name a outcome t) :
    turn ending s name = some (follow a outcome t) := by
  rw [turn_eq_visit visited.found visited.within visited.not_success visited.not_failed,
    visited.made, Option.map_some]

/-- A turn that stops goes on from there as a run does at its end. -/
theorem turn_of_stops {ending : Ending σ} {s t : Run σ} {name : String} {success : Bool}
    {last : Option String} (stopped : Stops ending s name success last t) :
    turn ending s name = some (t.finish success last) := by
  cases stopped with
  | missing absent =>
    unfold turn
    rw [absent]
  | refused a found beyond => exact turn_of_beyond found beyond ending
  | reached a found within success kind => exact turn_of_reached found within success kind ending
  | deadEnd visited leaf => rw [turn_of_visits visited, follow_of_none leaf]

theorem Turned.leads {s next : Run σ} (h : Turned s next) :
    ∃ name turns, s.current = some name ∧ Leads (toEnd turns) s name next := by
  obtain ⟨name, turns, hcurrent, hturn⟩ := h
  exact ⟨name, turns, hcurrent, turn_leads hturn⟩

/-! ## What is counted on the way -/

theorem Visits.ledger_eq {ending : Ending σ} {s t : Run σ} {name : String} {a : Activity}
    {outcome : Bool} (visited : Visits ending s name a outcome t) :
    t.ledger = (s.hit name).ledger :=
  ((s.visiting a name).asksOnce_visit a).spec visited.made

/-- Where a run stops, only a name without an activity is not counted. -/
theorem Stops.ledger_eq {ending : Ending σ} {s t : Run σ} {name : String} {success : Bool}
    {last : Option String} (stopped : Stops ending s name success last t) :
    t.ledger = if (s.workflow.activity? name).isSome then (s.hit name).ledger else s.ledger := by
  cases stopped with
  | missing absent => rw [absent]; rfl
  | refused a found beyond => rw [found]; rfl
  | reached a found within success kind => rw [found]; rfl
  | deadEnd visited leaf => rw [visited.found]; exact visited.ledger_eq

/-! ## Ends -/

theorem freshHandler?_eq (t : Run σ) (success : Bool) :
    t.freshHandler? success =
      (t.workflow.handler? success).filter fun handler => t.hitsOf handler == 0 := rfl

theorem finish_of_fresh {t : Run σ} {success : Bool} {handler : String}
    (h : t.freshHandler? success = some handler) (last : Option String) :
    t.finish success last =
      { t.tell .info s!"Continuing with event handler {handler}" with
        current := some handler } := by
  unfold finish
  rw [h]

/-- The end of a run that stopped in `t`. -/
structure EndsFrom (t : Run σ) (success : Bool) (next : Run σ) : Prop where
  current : next.current = none
  status : next.context.status = if success then .success else .failed
  result : next.context.result = t.context.result
  history : next.history =
    t.history.add next.context.status.tag next.context.status next.context.result t.world.now

theorem finish_of_none {t : Run σ} {success : Bool} (h : t.freshHandler? success = none)
    (last : Option String) : EndsFrom t success (t.finish success last) := by
  unfold finish
  rw [h]
  exact ⟨rfl, rfl, rfl, rfl⟩

end Run

end Playbook
