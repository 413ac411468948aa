/-
  What a run keeps, however deep its calls are nested: its workflow, its capabilities, its variables
  by name and the records that were there when it began (`Keeps`). A call lends the capabilities to
  the run that it begins and gets them back from it, so the turns of one run keep them if the runs
  nested in them do (`keeps_turn`), and by induction on the turns every run does (`keeps_toEnd`).
-/
import Playbook.Proofs.Run.Calling

namespace Playbook

open Playbook.Text

variable {σ : Type}

namespace Run

/-- What `t`, which `r` gets to, has kept of it. -/
structure Keeps (r t : Run σ) : Prop where
  workflow : t.workflow = r.workflow
  capabilities : r.context.SameCapabilities t.context
  contains : ∀ name, r.context.vars.contains name → t.context.vars.contains name
  edited : History.Edited r.history.records.length r.history t.history

namespace Keeps

variable {r s t : Run σ}

theorem of_same (context : t.context = r.context) (history : t.history = r.history) :
    Keeps r t := by
  refine ⟨?_, ?_, fun name h => ?_, ?_⟩
  · unfold Run.workflow
    rw [context]
  · rw [context]
    exact .refl _
  · rwa [context]
  · rw [history]

theorem refl (r : Run σ) : Keeps r r := of_same rfl rfl

theorem trans (first : Keeps r s) (second : Keeps s t) : Keeps r t where
  workflow := second.workflow.trans first.workflow
  capabilities := first.capabilities.trans second.capabilities
  contains name h := second.contains name (first.contains name h)
  edited := first.edited.trans second.edited

theorem of_deeds {k : Nat} (d : Deeds r k t) : Keeps r t :=
  ⟨d.workflow, d.capabilities, fun _ h => d.contains h, d.edited⟩

theorem of_current {current : Option String} (h : Keeps r t) : Keeps r { t with current } :=
  h.trans (of_same rfl rfl)

end Keeps

/-! ## Calls -/

/-- What was lent comes back if the nested run kept it. -/
theorem keeps_called {r child : Run σ} {a : Activity} {sub : Workflow}
    (h : Keeps ((r.calling a).enter sub) child) : Keeps r (r.called a child).2 := by
  have hcalling : History.Edited r.history.records.length r.history (r.calling a).history :=
    (deeds_calling r a).edited
  refine ⟨?_, ?_, fun name hname => ?_, ?_⟩
  · unfold Run.workflow
    rw [called_context]
  · exact ((r.enter_capabilities a sub).trans h.capabilities).trans (r.called_capabilities a child)
  · rw [called_context]
    exact Table.contains_insertAll_entries.mpr (Or.inr hname)
  · rw [called_history]
    exact hcalling.trans h.edited

/-! ## Turns and runs -/

theorem keeps_visit {ending : Ending σ} (nested : ∀ child ended, ending child = some ended →
    Keeps child ended) {r : Run σ} {a : Activity} {v : Visited σ} (hsuccess : a.kind ≠ .success)
    (hfailed : a.kind ≠ .failed) (h : visit ending r a = some v) : Keeps r v.2 := by
  by_cases hcall : a.kind = .call
  · rw [visit_of_call hcall] at h
    by_cases hloads : ∃ sub, r.Loads a sub
    · obtain ⟨sub, loads⟩ := hloads
      rw [visitCall_of_loads loads] at h
      obtain ⟨child, hchild, rfl⟩ := Option.map_eq_some_iff.mp h
      exact keeps_called (nested _ child hchild)
    · obtain ⟨t, message, deeds, -, hreject⟩ :=
        visitCall_of_not_loads fun sub loads => hloads ⟨sub, loads⟩
      rw [hreject] at h
      cases h
      exact .of_deeds (deeds.reject a message)
  · exact .of_deeds (deeds_visit hcall hsuccess hfailed h)

theorem keeps_finish (r : Run σ) (success : Bool) (last : Option String) :
    Keeps r (r.finish success last) := by
  unfold finish
  split
  · exact (Keeps.of_deeds (Deeds.start.tell _ _)).of_current
  · exact (Keeps.of_deeds
      (((Deeds.start.withStatus _).tellAll _).record last _)).of_current

theorem keeps_follow (a : Activity) (outcome : Bool) (r : Run σ) :
    Keeps r (follow a outcome r) := by
  unfold follow
  split
  · exact (Keeps.refl r).of_current
  · exact r.keeps_finish outcome a.name

section

variable {ending : Ending σ}
  (nested : ∀ child ended, ending child = some ended → Keeps child ended)

include nested

theorem Visits.keeps {s t : Run σ} {name : String} {a : Activity} {outcome : Bool}
    (visited : Visits ending s name a outcome t) : Keeps s t := by
  have counted : Keeps s (s.visiting a name) := .of_same rfl rfl
  exact counted.trans (keeps_visit nested visited.not_success visited.not_failed visited.made)

theorem Stops.keeps {s t : Run σ} {name : String} {success : Bool} {last : Option String}
    (stopped : Stops ending s name success last t) : Keeps s t := by
  cases stopped with
  | missing absent => exact .of_deeds (Deeds.start.fail _)
  | refused a found beyond =>
    have counted : Keeps s (s.hit name) := .of_same rfl rfl
    exact counted.trans (.of_deeds ((Deeds.start.tell _ _).fail _))
  | reached a found within success kind => exact .of_same rfl rfl
  | deadEnd visited leaf => exact visited.keeps nested

theorem keeps_turn {s next : Run σ} {name : String} (h : turn ending s name = some next) :
    Keeps s next := by
  cases turn_leads h with
  | along visited edge => exact (visited.keeps nested).of_current
  | stop stopped => exact (stopped.keeps nested).trans (keeps_finish _ _ _)

end

theorem keeps_begin (r : Run σ) : Keeps r r.begin := by
  unfold begin
  dsimp only
  split
  · exact (Keeps.of_deeds ((Deeds.start.tell _ _).fail _)).of_current
  · exact (Keeps.of_deeds (Deeds.start.tell _ _)).of_current

theorem keeps_walk {n : Nat} {r ended : Run σ} (h : walk n r = some ended) : Keeps r ended := by
  induction n generalizing r ended with
  | zero => simp [walk] at h
  | succ n ih =>
    rw [walk] at h
    split at h
    · -- nothing is left to visit
      cases h
      exact .of_deeds (Deeds.start.save none)
    · next name _ =>
      split at h
      · cases h
      · next next hturn =>
        have hkeeps : Keeps r next :=
          keeps_turn (fun child _ hchild => (keeps_begin child).trans (ih hchild)) hturn
        exact hkeeps.trans (ih h)

/-- A run that gets to its end has kept what it began with. -/
theorem keeps_toEnd {turns : Nat} {r ended : Run σ} (h : r.toEnd turns = some ended) :
    Keeps r ended :=
  (keeps_begin r).trans (keeps_walk h)

theorem Turned.keeps {s next : Run σ} (h : Turned s next) : Keeps s next := by
  obtain ⟨name, turns, _, hturn⟩ := h
  exact keeps_turn (fun _ _ => keeps_toEnd) hturn

end Run

end Playbook
