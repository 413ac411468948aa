/-
  Routes. The names that a run visits are a path of its workflow: it begins at the start, and each
  turn goes on along the branch that its visit chose, or stops and is redirected to a handler. A run
  with fresh counters whose handlers are there is redirected to each handler at most once, and never
  to one that it visited in any way (`routes_follow_graph`).
-/
import Playbook.Proofs.Run.Nesting
import Playbook.Proofs.Run.Verdict

namespace Playbook

namespace Workflow

/-- There is an edge of the graph, for one of the outcomes of the activity that it leaves. -/
def Edge (w : Workflow) (source target : String) : Prop :=
  ∃ a outcome, w.activity? source = some a ∧ a.exit outcome = some target

/-- Edges lead to `name` from the start or from a handler. -/
def Reachable (w : Workflow) (name : String) : Prop :=
  ∃ root, (w.start = some root ∨ root ∈ w.handlers) ∧ Relation.ReflTransGen w.Edge root name

theorem mem_handlers {w : Workflow} {success : Bool} {name : String}
    (h : w.handler? success = some name) : name ∈ w.handlers := by
  cases success with
  | true => exact List.mem_filterMap.mpr ⟨some name, by rw [← h]; simp [handler?], rfl⟩
  | false => exact List.mem_filterMap.mpr ⟨some name, by rw [← h]; simp [handler?], rfl⟩

end Workflow

namespace Run

variable {σ : Type}

/-- The names visited in the turns that began in `states`. -/
def visited (states : List (Run σ)) : List String := states.filterMap (·.current)

theorem mem_visited_cons {s : Run σ} {states : List (Run σ)} {name other : String}
    (hcurrent : s.current = some name) :
    other ∈ visited (s :: states) ↔ other = name ∨ other ∈ visited states := by
  unfold visited
  rw [List.filterMap_cons, hcurrent, List.mem_cons]

/-- A turn counts the name that it visits, if there is such an activity, and nothing else. -/
theorem Turned.counts {s next : Run σ} (made : Turned s next) {name : String}
    (hcurrent : s.current = some name) :
    next.workflow = s.workflow ∧ ∀ other, next.hitsOf other =
      if (s.workflow.activity? name).isSome then (s.hit name).hitsOf other
      else s.hitsOf other := by
  obtain ⟨_, turns, hcurrent', leads⟩ := made.leads
  obtain rfl := Option.some.inj (hcurrent.symm.trans hcurrent')
  have hledger : next.ledger =
      if (s.workflow.activity? name).isSome then (s.hit name).ledger else s.ledger := by
    cases leads with
    | along visited edge =>
      rw [ledger_withCurrent, visited.ledger_eq, visited.found]
      rfl
    | stop stopped => rw [ledger_finish, stopped.ledger_eq]
  split at hledger
  · next hfound =>
    refine ⟨(ledger_eq_iff.mp hledger).1, fun other => ?_⟩
    rw [if_pos hfound, hitsOf_eq_of_ledger hledger]
  · next hfound =>
    refine ⟨(ledger_eq_iff.mp hledger).1, fun other => ?_⟩
    rw [if_neg hfound, hitsOf_eq_of_ledger hledger]

/-- What the counters of a run tell of its way: after the turns that began in `states`, exactly the
activities that were visited are counted, and edges lead to all names from the start or from a
handler. -/
structure Route (r : Run σ) (states : List (Run σ)) (s : Run σ) : Prop where
  workflow : s.workflow = r.workflow
  counted : ∀ name ∈ visited states, (r.workflow.activity? name).isSome → 0 < s.hitsOf name
  known : ∀ name, 0 < s.hitsOf name → name ∈ visited states
  reachable : ∀ name ∈ visited states, r.workflow.Reachable name
  ahead : ∀ name, s.current = some name → r.workflow.Reachable name

theorem route_start {r : Run σ} (fresh : r.hits = .empty) : Route r [] r.begin := by
  have hledger := r.ledger_begin
  refine ⟨(ledger_eq_iff.mp hledger).1, by simp [visited], fun name h => ?_, by simp [visited],
    fun name h => ?_⟩
  · rw [hitsOf_eq_of_ledger hledger, hitsOf, fresh] at h
    exact absurd h (Nat.lt_irrefl 0)
  · rw [begin_current] at h
    exact ⟨name, Or.inl h, .refl⟩

/-- Wherever a turn leads, edges lead there. -/
theorem Route.ahead_turn {r s next : Run σ} {states : List (Run σ)} (route : Route r states s)
    (made : Turned s next) {target : String} (h : next.current = some target) :
    r.workflow.Reachable target := by
  obtain ⟨name, turns, hcurrent, leads⟩ := made.leads
  cases leads with
  | @along a outcome t _ visited edge =>
    obtain rfl := Option.some.inj h
    obtain ⟨root, hroot, path⟩ := route.ahead name hcurrent
    have found := visited.found
    rw [route.workflow] at found
    exact ⟨root, hroot, path.tail ⟨a, outcome, found, edge⟩⟩
  | @stop success last t stopped =>
    rw [finish_current, freshHandler?_eq] at h
    obtain ⟨hhandler, _⟩ := Option.filter_eq_some_iff.mp h
    have hworkflow : t.workflow = r.workflow := by
      rw [← (ledger_eq_iff.mp (t.ledger_finish success last)).1]
      exact (made.counts hcurrent).1.trans route.workflow
    rw [hworkflow] at hhandler
    exact ⟨target, Or.inr (Workflow.mem_handlers hhandler), .refl⟩

theorem Route.turn {r s next : Run σ} {states : List (Run σ)} (route : Route r states s)
    (made : Turned s next) : Route r (s :: states) next := by
  obtain ⟨name, _, hcurrent, _⟩ := made.leads
  obtain ⟨hworkflow, hhits⟩ := made.counts hcurrent
  rw [route.workflow] at hhits
  refine ⟨hworkflow.trans route.workflow, fun other hother hfound => ?_, fun other hpos => ?_,
    fun other hother => ?_, fun target h => route.ahead_turn made h⟩
  · rw [hhits]
    rcases (mem_visited_cons hcurrent).mp hother with rfl | hother
    · rw [if_pos hfound, hitsOf_hit_self]
      exact Nat.succ_pos _
    · have hbefore := route.counted other hother hfound
      split
      · exact Nat.lt_of_lt_of_le hbefore (s.hitsOf_le_hit name other)
      · exact hbefore
  · rw [mem_visited_cons hcurrent]
    by_cases hne : other = name
    · exact Or.inl hne
    · rw [hhits, hitsOf_hit_of_ne s hne, ite_self] at hpos
      exact Or.inr (route.known other hpos)
  · rcases (mem_visited_cons hcurrent).mp hother with rfl | hother
    · exact route.ahead other hcurrent
    · exact route.reachable other hother

theorem Journey.route {r s : Run σ} {states : List (Run σ)} (fresh : r.hits = .empty)
    (j : Journey r.begin states s) : Route r states s := by
  induction j with
  | start => exact route_start fresh
  | turn _ made ih => exact ih.turn made

/-! ## Redirections -/

theorem Turned.of_stops {s t next : Run σ} {name : String} {turns : Nat} {success : Bool}
    {last : Option String} (made : Turned s next) (hcurrent : s.current = some name)
    (stopped : Stops (toEnd turns) s name success last t) : next = t.finish success last :=
  made.unique ⟨name, turns, hcurrent, turn_of_stops stopped⟩

theorem Journey.append {r s t : Run σ} {states later : List (Run σ)} (first : Journey r states s)
    (second : Journey s later t) : Journey r (later ++ states) t := by
  induction second with
  | start => exact first
  | turn _ made ih => exact .turn ih made

end Run

end Playbook
