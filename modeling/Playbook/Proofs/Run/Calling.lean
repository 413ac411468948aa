/-
  Calls. A call of a workflow that can be loaded records, lends its capabilities to a nested run and
  takes over what that run has in the end (`visitCall_of_loads`); any other call is rejected
  (`visitCall_of_not_loads`). So a turn waits for a nested run exactly if it visits a call that
  begins it (`awaits_of_loads`, `Awaits.loads`).
-/
import Playbook.Proofs.Run.Deeds
import Playbook.Proofs.Run.Leading

namespace Playbook.Run

open Playbook.Text

variable {σ : Type}

/-- The file that a call names. -/
def calledFile (r : Run σ) (a : Activity) : String := r.render (trimmed a.expression)

/-- The path of that file. -/
def calledPath (r : Run σ) (a : Activity) : String :=
  Path.join r.workflow.directory (r.calledFile a)

/-- A call can begin a run of the workflow `sub`. -/
structure Loads (r : Run σ) (a : Activity) (sub : Workflow) : Prop where
  named : ¬ (r.calledFile a).isEmpty
  read : r.world.disk.readWorkflow (r.calledPath a) = .ok sub

/-- The run that calls, when it has recorded the call. -/
def calling (r : Run σ) (a : Activity) : Run σ :=
  let looked := r.afterRender (trimmed a.expression)
  ((looked.tellAll (r.world.disk.readNotices (r.calledPath a))).tell .info
    s!"CALL: {r.calledPath a}").record a.name a.caption

/-- What a call comes to when the nested run has got to its end. -/
def called (r : Run σ) (a : Activity) (child : Run σ) : Visited σ :=
  (child.context.status != .failed,
    ((r.calling a).lend.leave child).tell .info
      s!"CALL: {r.calledFile a} ended with {child.context.status.tag}")

theorem visit_of_call {a : Activity} (hcall : a.kind = .call) (r : Run σ) (ending : Ending σ) :
    visit ending r a = visitCall ending r a := by
  unfold visit
  rw [hcall]

theorem visitCall_of_loads {r : Run σ} {a : Activity} {sub : Workflow} (loads : r.Loads a sub)
    (ending : Ending σ) :
    visitCall ending r a = (ending ((r.calling a).enter sub)).map (r.called a) := by
  have hnamed : ¬ (r.render (trimmed a.expression)).isEmpty := loads.named
  have hread : (r.afterRender (trimmed a.expression)).world.disk.readWorkflow (r.calledPath a) =
      .ok sub := loads.read
  unfold visitCall
  dsimp only
  rw [if_neg hnamed]
  split
  · next f herror => cases herror.symm.trans hread
  · next found hfound =>
    obtain rfl := Except.ok.inj (hfound.symm.trans hread)
    split
    · next hnone => rw [show ending ((r.calling a).enter found) = none from hnone]; rfl
    · next child hsome => rw [show ending ((r.calling a).enter found) = some child from hsome]; rfl

/-- A call that cannot begin a run is rejected, and does nothing else. -/
theorem visitCall_of_not_loads {r : Run σ} {a : Activity} (h : ∀ sub, ¬ r.Loads a sub) :
    ∃ (t : Run σ) (message : String), Deeds r 0 t ∧ t.context = r.context ∧
      ∀ ending, visitCall ending r a = some (t.reject a message) := by
  have looked := (Deeds.start (r := r)).afterRender (trimmed a.expression)
  by_cases hnamed : (r.render (trimmed a.expression)).isEmpty
  · refine ⟨_, "CALL needs a workflow file", looked, rfl, fun ending => ?_⟩
    unfold visitCall
    dsimp only
    exact if_pos hnamed
  · cases hread : r.world.disk.readWorkflow (r.calledPath a) with
    | ok sub => exact absurd ⟨hnamed, hread⟩ (h sub)
    | error f =>
      have hfault : (r.afterRender (trimmed a.expression)).world.disk.readWorkflow
          (r.calledPath a) = .error f := hread
      refine ⟨_, s!"CALL {r.calledFile a} failed: {f.message}",
        looked.tellAll (r.world.disk.readNotices (r.calledPath a)), rfl, fun ending => ?_⟩
      unfold visitCall
      dsimp only
      rw [if_neg hnamed]
      split
      · next g herror => rw [Except.error.inj (hfault.symm.trans herror)]; rfl
      · next sub hok => cases hok.symm.trans hfault

theorem deeds_calling (r : Run σ) (a : Activity) : Deeds r 1 (r.calling a) :=
  (((Deeds.start.afterRender _).tellAll _).tell _ _).record a.name a.caption

/-- To record a call changes nothing but the history and what is outside of the run. -/
theorem calling_frame (r : Run σ) (a : Activity) :
    (r.calling a).context = r.context ∧ (r.calling a).ledger = r.ledger := by
  unfold calling
  simp [record, save, tell, tellAll, afterRender, ledger, Run.workflow]

theorem enter_capabilities (r : Run σ) (a : Activity) (sub : Workflow) :
    r.context.SameCapabilities ((r.calling a).enter sub).context := by
  unfold enter
  rw [(r.calling_frame a).1]
  exact ⟨rfl, rfl, rfl⟩

/-- The context after a call: what was lent, the variables and the result are those of the nested
run. -/
theorem called_context (r : Run σ) (a : Activity) (child : Run σ) :
    (r.called a child).2.context = { r.context with
      vars := r.context.vars.insertAll child.context.vars.entries
      result := child.context.result
      agent := child.context.agent
      executor := child.context.executor
      operator := child.context.operator } := by
  unfold called lend leave tell
  rw [(r.calling_frame a).1]

theorem called_history (r : Run σ) (a : Activity) (child : Run σ) :
    (r.called a child).2.history = child.history := by
  unfold called leave tell
  rfl

theorem called_capabilities (r : Run σ) (a : Activity) (child : Run σ) :
    child.context.SameCapabilities (r.called a child).2.context := by
  rw [called_context]
  exact ⟨rfl, rfl, rfl⟩

/-! ## Turns that wait -/

/-- A visit of a call within the limit waits for the run that it begins. -/
theorem awaits_of_loads {s : Run σ} {name : String} {a : Activity} {sub : Workflow}
    (hcurrent : s.current = some name) (found : s.workflow.activity? name = some a)
    (within : s.hitsOf name < s.maxHits) (hcall : a.kind = .call)
    (loads : (s.visiting a name).Loads a sub) :
    s.Awaits (((s.visiting a name).calling a).enter sub) := by
  refine ⟨name, hcurrent, fun ending hnone => ?_⟩
  rw [turn_eq_visit found within (by rw [hcall]; decide) (by rw [hcall]; decide),
    visit_of_call hcall, visitCall_of_loads loads, hnone]
  rfl

/-- A turn that waits for a nested run is the visit of a call that begins it. -/
theorem Awaits.loads {s child : Run σ} (h : s.Awaits child) :
    ∃ name a sub, s.current = some name ∧ s.workflow.activity? name = some a ∧
      s.hitsOf name < s.maxHits ∧ a.kind = .call ∧ (s.visiting a name).Loads a sub ∧
      child = ((s.visiting a name).calling a).enter sub := by
  classical
  obtain ⟨name, hcurrent, hnone⟩ := h
  -- an ending that only this nested run does not get to
  let ending : Ending σ := fun c => if c = child then none else some c
  have hturn : turn ending s name = none := hnone ending (if_pos rfl)
  have makes : ∀ {success last t}, ¬ Stops ending s name success last t := by
    intro success last t stopped
    rw [turn_of_stops stopped] at hturn
    cases hturn
  cases found : s.workflow.activity? name with
  | none => exact absurd (.missing found) makes
  | some a =>
    have within : s.hitsOf name < s.maxHits :=
      Nat.lt_of_not_le fun beyond => makes (.refused a found beyond)
    have hsuccess : a.kind ≠ .success := fun kind => makes (.reached a found within true kind)
    have hfailed : a.kind ≠ .failed := fun kind => makes (.reached a found within false kind)
    rw [turn_eq_visit found within hsuccess hfailed, Option.map_eq_none_iff] at hturn
    have hcall : a.kind = .call := by
      by_contra hother
      have hsome := (s.visiting a name).visit_isSome hother ending
      rw [hturn] at hsome
      cases hsome
    rw [visit_of_call hcall] at hturn
    by_cases hloads : ∃ sub, (s.visiting a name).Loads a sub
    · obtain ⟨sub, loads⟩ := hloads
      rw [visitCall_of_loads loads, Option.map_eq_none_iff] at hturn
      refine ⟨name, a, sub, hcurrent, found, within, hcall, loads, ?_⟩
      by_contra hne
      rw [show ending _ = some _ from if_neg (Ne.symm hne)] at hturn
      cases hturn
    · obtain ⟨t, message, -, -, hreject⟩ :=
        visitCall_of_not_loads fun sub loads => hloads ⟨sub, loads⟩
      rw [hreject] at hturn
      cases hturn

end Playbook.Run
