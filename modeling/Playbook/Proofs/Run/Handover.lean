/-
  Calls hand things over. The run that a call begins has the parameters of its workflow, the
  variables of the run around it, which win over them, and the result and the capabilities of that
  run (`HandedIn`); when it has got to its end, all of that comes back, and nothing else has changed
  (`HandedBack`). Both hold at any depth, since nothing is assumed of the two runs
  (`call_hands_over`).
-/
import Playbook.Proofs.Run.Verdict

namespace Playbook.Run

open Playbook.Text

variable {σ : Type}

/-- What the run `child` of the workflow `sub` begins with, which a call in `r` begins. -/
structure HandedIn (r : Run σ) (sub : Workflow) (child : Run σ) : Prop where
  workflow : child.workflow = sub
  status : child.context.status = .created
  hits : child.hits = .empty
  maxHits : child.maxHits = r.maxHits
  vars : ∀ name, child.context.vars.get? name =
    (r.context.vars.get? name).or (sub.params.get? name)
  result : child.context.result = r.context.result
  capabilities : r.context.SameCapabilities child.context

/-- What the run `r` has after a call, in `after`, when the run that it began has got to its end,
in `ended`. -/
structure HandedBack (r ended after : Run σ) : Prop where
  capabilities : r.context.SameCapabilities after.context
  contains : ∀ name, r.context.vars.contains name → after.context.vars.contains name
  vars : ∀ name value, ended.context.vars.get? name = some value →
    after.context.vars.get? name = some value
  result : after.context.result = ended.context.result
  status : after.context.status = r.context.status
  workflow : after.workflow = r.workflow

theorem handedIn (r : Run σ) (a : Activity) (sub : Workflow) :
    HandedIn r sub ((r.calling a).enter sub) := by
  obtain ⟨hcontext, hledger⟩ := r.calling_frame a
  refine ⟨rfl, rfl, rfl, (ledger_eq_iff.mp hledger).2.1, fun name => ?_, ?_,
    r.enter_capabilities a sub⟩
  · unfold enter
    rw [hcontext]
    exact Table.get?_insertAll_entries sub.params r.context.vars name
  · unfold enter
    rw [hcontext]

theorem handedBack {r ended : Run σ} {a : Activity} {sub : Workflow} {turns : Nat}
    (h : ((r.calling a).enter sub).toEnd turns = some ended) :
    HandedBack r ended (r.called a ended).2 := by
  have keeps : Keeps r (r.called a ended).2 := keeps_called (keeps_toEnd h)
  have hcontext := r.called_context a ended
  refine ⟨keeps.capabilities, keeps.contains, fun name value hvalue => ?_, ?_, ?_,
    keeps.workflow⟩
  · rw [hcontext]
    show (r.context.vars.insertAll ended.context.vars.entries).get? name = some value
    rw [Table.get?_insertAll_entries, hvalue]
    rfl
  · rw [hcontext]
  · rw [hcontext]

/-- A call of a workflow that can be loaded begins a run that is handed the variables, the result
and the capabilities. It comes back exactly if that run gets to its end, within as many turns; then
it succeeded exactly if that run did, and it hands everything back. A call of what cannot be loaded
fails, and leaves the variables and the capabilities as they are. -/
theorem call_hands_over (r : Run σ) (a : Activity) :
    (∀ sub, r.Loads a sub → ∃ child, HandedIn r sub child ∧
      ∀ turns, (child.toEnd turns = none → visitCall (toEnd turns) r a = none) ∧
        ∀ ended, child.toEnd turns = some ended → ∃ outcome after,
          visitCall (toEnd turns) r a = some (outcome, after) ∧
            (outcome = true ↔ ended.context.status = .success) ∧ HandedBack r ended after) ∧
    ((∀ sub, ¬ r.Loads a sub) → ∀ turns, ∃ after,
      visitCall (toEnd turns) r a = some (false, after) ∧
        after.context.vars = r.context.vars ∧ r.context.SameCapabilities after.context) := by
  constructor
  · intro sub loads
    refine ⟨(r.calling a).enter sub, r.handedIn a sub, fun turns => ⟨fun hnone => ?_, ?_⟩⟩
    · rw [visitCall_of_loads loads, hnone]
      rfl
    · intro ended hended
      refine ⟨(r.called a ended).1, (r.called a ended).2, ?_, ?_, handedBack hended⟩
      · rw [visitCall_of_loads loads, hended]
        rfl
      · -- a run that got to its end is in no third state
        show (ended.context.status != .failed) = true ↔ _
        rcases status_of_toEnd hended with hstatus | hstatus <;> rw [hstatus] <;> decide
  · intro unloaded turns
    obtain ⟨t, message, _, hcontext, hreject⟩ := visitCall_of_not_loads unloaded
    refine ⟨(t.reject a message).2, hreject _, ?_, ?_⟩
    · show t.context.vars = _
      rw [hcontext]
    · have hsame : t.context.SameCapabilities (t.reject a message).2.context :=
        (Deeds.start.reject a message).capabilities
      rwa [hcontext] at hsame

/-! ## A call of a document that calls another one -/

/-- A run with an executor and a variable, beside two documents of which one calls the other. -/
def lendingRun : Run Unit where
  context :=
    { workflow := { directory := "." }
      status := .doing
      vars := .ofList [("grade", "A")]
      executor := some ⟨fun _ w => (⟨0, ""⟩, w)⟩
      operator := ⟨fun _ w => (none, w)⟩ }
  history := {}
  world :=
    { disk :=
        { nodes :=
            [(["outer.wf.md"],
              .file (.text ("# Workflow\n```mermaid\nflowchart TD\n" ++
                "  PARAMS@\x7b shape: doc, label: \"grade=B, depth=1\" \x7d\n" ++
                "  START --> CALL_INNER[[inner.wf.md]] --> SUCCESS\n```\n"))),
              (["inner.wf.md"],
              .file (.text ("# Workflow\n```mermaid\nflowchart TD\n" ++
                "  START --> SET_GRADE[\"grade=\x7b\x7bgrade\x7d\x7d+\"] --> SUCCESS\n```\n")))] }
      rest := () }

def lendingCall : Activity :=
  { kind := .call, name := "CALL_OUTER", expression := "outer.wf.md" }

/-- A call of a document that is not there. -/
def strayCall : Activity := { kind := .call, name := "CALL_NONE", expression := "none.wf.md" }

/-- Whether a call can begin a run. -/
theorem exists_loads_iff {r : Run σ} {a : Activity} :
    (∃ sub, r.Loads a sub) ↔
      ¬ (r.calledFile a).isEmpty ∧ (r.world.disk.readWorkflow (r.calledPath a)).toBool := by
  constructor
  · rintro ⟨sub, named, read⟩
    exact ⟨named, by rw [read]; rfl⟩
  · rintro ⟨named, hread⟩
    cases h : r.world.disk.readWorkflow (r.calledPath a) with
    | ok sub => exact ⟨sub, named, h⟩
    | error f =>
      rw [h] at hread
      cases hread

theorem lendingRun_call_returns :
    (∃ sub child ended after, lendingRun.Loads lendingCall sub ∧ HandedIn lendingRun sub child ∧
      child.toEnd 9 = some ended ∧ ended.context.status = .success ∧
      visitCall (toEnd 9) lendingRun lendingCall = some (true, after) ∧
      HandedBack lendingRun ended after ∧ after.context.vars.get? "grade" = some "A+" ∧
      after.context.vars.get? "depth" = some "1") ∧
    ∃ after, visitCall (toEnd 9) lendingRun strayCall = some (false, after) ∧
      after.context.vars = lendingRun.context.vars ∧
      lendingRun.context.SameCapabilities after.context := by
  constructor
  · obtain ⟨sub, loads⟩ : ∃ sub, lendingRun.Loads lendingCall sub :=
      exists_loads_iff.mpr (by decide +kernel)
    obtain ⟨child, hin, hreturns⟩ := (call_hands_over lendingRun lendingCall).1 sub loads
    have hvisit : (visitCall (toEnd 9) lendingRun lendingCall).map (fun v =>
        (v.1, v.2.context.vars.get? "grade", v.2.context.vars.get? "depth")) =
          some (true, some "A+", some "1") := by decide +kernel
    obtain ⟨hnone, hsome⟩ := hreturns 9
    cases hend : child.toEnd 9 with
    | none =>
      rw [hnone hend] at hvisit
      cases hvisit
    | some ended =>
      obtain ⟨outcome, after, hcall, hstatus, hback⟩ := hsome ended hend
      rw [hcall, Option.map_some, Option.some.injEq, Prod.mk.injEq, Prod.mk.injEq] at hvisit
      obtain ⟨rfl, hgrade, hdepth⟩ := hvisit
      exact ⟨sub, child, ended, after, loads, hin, hend, hstatus.mp rfl, hcall, hback, hgrade,
        hdepth⟩
  · have unloaded : ∀ sub, ¬ lendingRun.Loads strayCall sub := by
      intro sub loads
      have hloads := exists_loads_iff.mp ⟨sub, loads⟩
      revert hloads
      decide +kernel
    exact (call_hands_over lendingRun strayCall).2 unloaded 9

end Playbook.Run
