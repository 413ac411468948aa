/-
  How runs end. A run of a workflow with a start ends in a last turn that stops it and finds no
  handler left (`exists_lastTurn`). So its state is SUCCESS or FAILED, whatever was stored in STATUS
  on the way, its last record says the same, and only a last visit within its limit can make it a
  success; the loop guard and a missing activity end it as a failure, with their diagnostic in front
  (`verdict_consistent`).
-/
import Playbook.Proofs.Run.Keeping
import Playbook.Proofs.Run.LoopGuard

namespace Playbook.Run

open Playbook.Text

variable {σ : Type}

theorem begin_current (r : Run σ) : r.begin.current = r.workflow.start := by
  have hworkflow : (r.tell .info s!"Running workflow {quote r.workflow.name}").workflow.start =
      r.workflow.start := rfl
  unfold begin
  dsimp only
  split
  · next h => exact (hworkflow.symm.trans h).symm
  · next name h => exact (hworkflow.symm.trans h).symm

theorem Journey.keeps {r s : Run σ} {states : List (Run σ)} (j : Journey r states s) :
    Keeps r s := by
  induction j with
  | start => exact .refl r
  | turn _ made ih => exact ih.trans made.keeps

/-- The state and the result that a run answers with when it has got to its end. -/
def verdict (ended : Run σ) : Status × String := (ended.context.status, ended.context.result)

/-- The last turn of the run `r` began in `s`, after `states`, at `name`. It stopped in `t`, and
the run ended there. -/
structure LastTurn (r : Run σ) (states : List (Run σ)) (s : Run σ) (name : String)
    (success : Bool) (t ended : Run σ) : Prop where
  before : Journey r.begin states s
  current : s.current = some name
  made : ∃ last : Run σ, Turned s last ∧ last.current = none ∧ ended = last.save none
  stopped : ∃ turns last, Stops (toEnd turns) s name success last t
  ends : EndsFrom t success ended

theorem exists_lastTurn {r ended : Run σ} {turns : Nat} (started : r.workflow.start.isSome)
    (h : r.toEnd turns = some ended) :
    ∃ states s name success t, LastTurn r states s name success t ended := by
  obtain ⟨states, last, journey, hlast, rfl⟩ := toEnd_iff_journey.mp ⟨turns, h⟩
  cases journey with
  | start =>
    rw [begin_current] at hlast
    rw [hlast] at started
    cases started
  | @turn states s _ before made =>
    obtain ⟨name, n, hcurrent, leads⟩ := made.leads
    cases leads with
    | along visited edge => cases hlast
    | @stop success activity t stopped =>
      have hfresh : t.freshHandler? success = none := by
        rw [← finish_current t success activity]
        exact hlast
      have ends := finish_of_none hfresh activity
      exact ⟨states, s, name, success, t, before, hcurrent, ⟨_, made, hlast, rfl⟩,
        ⟨n, activity, stopped⟩, ends.current, ends.status, ends.result, ends.history⟩

/-- A run with nothing to visit makes no turn. -/
theorem Journey.eq_of_idle {r s : Run σ} {states : List (Run σ)} (idle : r.current = none)
    (j : Journey r states s) : s = r := by
  induction j with
  | start => rfl
  | turn _ made ih =>
    obtain ⟨name, _, hcurrent, _⟩ := made
    rw [ih, idle] at hcurrent
    cases hcurrent

theorem begin_status_of_no_start {r : Run σ} (h : r.workflow.start = none) :
    r.begin.context.status = .failed := by
  unfold begin
  dsimp only
  split
  · rfl
  · next name hsome => cases h.symm.trans hsome

/-- A run that got to its end answers SUCCESS or FAILED. -/
theorem status_of_toEnd {r ended : Run σ} {turns : Nat} (h : r.toEnd turns = some ended) :
    ended.context.status = .success ∨ ended.context.status = .failed := by
  cases hstart : r.workflow.start with
  | some name =>
    obtain ⟨_, _, _, success, _, hlast⟩ := exists_lastTurn (by rw [hstart]; rfl) h
    have hstatus := hlast.ends.status
    cases success with
    | true => exact Or.inl hstatus
    | false => exact Or.inr hstatus
  | none =>
    -- it fails before its first turn
    obtain ⟨states, last, journey, _, rfl⟩ := toEnd_iff_journey.mp ⟨turns, h⟩
    rw [journey.eq_of_idle (r.begin_current.trans hstart)]
    exact Or.inr (begin_status_of_no_start hstart)

/-! ## What the verdict rests on -/

theorem withDiagnostic_front (message result : String) :
    ∃ rest, Context.withDiagnostic message result = message ++ rest := by
  unfold Context.withDiagnostic
  split
  · exact ⟨"", (String.append_empty).symm⟩
  · exact ⟨"  \n" ++ result, String.append_assoc ..⟩

/-- A run that stops with success made a last visit within the limit: of an end of the workflow,
or of an activity with no branch for its success. -/
theorem Stops.of_success {ending : Ending σ} {s t : Run σ} {name : String} {last : Option String}
    (stopped : Stops ending s name true last t) :
    ∃ a, s.workflow.activity? name = some a ∧ s.hitsOf name < s.maxHits ∧
      (a.kind = .success ∨ a.next = none ∧ Visits ending s name a true t) := by
  cases stopped with
  | reached a found within _ kind => exact ⟨a, found, within, Or.inl kind⟩
  | deadEnd visited leaf => exact ⟨_, visited.found, visited.within, Or.inr ⟨leaf, visited⟩⟩

theorem Stops.of_missing {ending : Ending σ} {s t : Run σ} {name : String} {success : Bool}
    {last : Option String} (stopped : Stops ending s name success last t)
    (absent : s.workflow.activity? name = none) :
    success = false ∧ ∃ rest, t.context.result = s!"Activity {name} is not defined" ++ rest := by
  cases stopped with
  | missing _ => exact ⟨rfl, withDiagnostic_front _ _⟩
  | refused a found beyond => cases absent.symm.trans found
  | reached a found within _ kind => cases absent.symm.trans found
  | deadEnd visited leaf => cases absent.symm.trans visited.found

theorem Stops.of_beyond {ending : Ending σ} {s t : Run σ} {name : String} {success : Bool}
    {last : Option String} (stopped : Stops ending s name success last t) {a : Activity}
    (found : s.workflow.activity? name = some a) (beyond : s.maxHits ≤ s.hitsOf name) :
    success = false ∧ ∃ rest,
      t.context.result = s!"Too many executions of {name} (max {s.maxHits})" ++ rest := by
  cases stopped with
  | missing absent => cases absent.symm.trans found
  | refused _ _ _ => exact ⟨rfl, withDiagnostic_front _ _⟩
  | reached _ _ within _ _ => exact absurd within (Nat.not_lt.mpr beyond)
  | deadEnd visited _ => exact absurd visited.within (Nat.not_lt.mpr beyond)

/-- The last record of a run tells its verdict. -/
theorem LastTurn.recorded {r s t ended : Run σ} {states : List (Run σ)} {name : String}
    {success : Bool} (h : LastTurn r states s name success t ended) :
    ∃ earlier at_, ended.history.records = earlier ++
      [⟨ended.context.status.tag, ended.context.status,
        abridgeMiddle ended.context.result r.history.maxLength, at_⟩] := by
  obtain ⟨turns, last, stopped⟩ := h.stopped
  have keeps : Keeps r t := by
    refine (keeps_begin r).trans (h.before.keeps.trans ?_)
    exact stopped.keeps fun _ _ => keeps_toEnd
  refine ⟨t.history.records, t.world.now, ?_⟩
  rw [h.ends.history, ← keeps.edited.maxLength_eq]
  rfl

/-- A run of a workflow with a start, whatever state it begins with, answers SUCCESS or FAILED, as
its context and its last record do, and that record holds the result, abridged. It succeeds only by
a last visit within the limit, of a success activity or of one that succeeded and leads nowhere. If
its last turn came upon a missing activity or went beyond the limit, it failed with a diagnostic in
front of the result. -/
theorem verdict_consistent (r : Run σ) (started : r.workflow.start.isSome) {turns : Nat}
    {ended : Run σ} (h : r.toEnd turns = some ended) {status : Status} {result : String}
    (answer : ended.verdict = (status, result)) :
    (status = .success ∨ status = .failed) ∧ ended.context.status = status ∧
    (∃ earlier at_, ended.history.records =
      earlier ++ [⟨status.tag, status, abridgeMiddle result r.history.maxLength, at_⟩]) ∧
    ∃ states s name, Journey r.begin states s ∧ s.current = some name ∧
      (∃ last, Turned s last ∧ last.current = none ∧ ended = last.save none) ∧
      (status = .success → ∃ a, s.workflow.activity? name = some a ∧ s.hitsOf name < s.maxHits ∧
        (a.kind = .success ∨
          a.next = none ∧ ∃ turns t, Visits (toEnd turns) s name a true t)) ∧
      (s.workflow.activity? name = none →
        status = .failed ∧ ∃ rest, result = s!"Activity {name} is not defined" ++ rest) ∧
      (∀ a, s.workflow.activity? name = some a → s.maxHits ≤ s.hitsOf name →
        status = .failed ∧ ∃ rest,
          result = s!"Too many executions of {name} (max {s.maxHits})" ++ rest) := by
  obtain ⟨rfl, rfl⟩ := Prod.mk.inj answer
  obtain ⟨states, s, name, success, t, hlast⟩ := exists_lastTurn started h
  obtain ⟨turns, last, stopped⟩ := hlast.stopped
  have hresult := hlast.ends.result
  have hstatus := hlast.ends.status
  have hfailed : success = false → ended.context.status = .failed := by
    intro hsuccess
    rw [hstatus, hsuccess]
    rfl
  refine ⟨status_of_toEnd h, rfl, hlast.recorded, states, s, name, hlast.before, hlast.current,
    hlast.made, ?_, ?_, ?_⟩
  · intro hsucceeded
    cases success with
    | false => cases (hfailed rfl).symm.trans hsucceeded
    | true =>
      obtain ⟨a, found, within, hend⟩ := stopped.of_success
      refine ⟨a, found, within, hend.imp_right fun ⟨hnext, visited⟩ => ?_⟩
      exact ⟨hnext, turns, t, visited⟩
  · intro absent
    obtain ⟨hsuccess, hfront⟩ := stopped.of_missing absent
    rw [hresult]
    exact ⟨hfailed hsuccess, hfront⟩
  · intro a found beyond
    obtain ⟨hsuccess, hfront⟩ := stopped.of_beyond found beyond
    rw [hresult]
    exact ⟨hfailed hsuccess, hfront⟩

/-- A run that has failed already, sets its state back and ends where nothing leads on. -/
def settlingRun : Run Unit where
  context :=
    { workflow :=
        { activities := .ofList
            [("START", { kind := .start, name := "START", next := some "SET_BACK" }),
              ("SET_BACK", { kind := .set, name := "SET_BACK", expression := "STATUS = created" })]
          start := some "START" }
      status := .failed
      result := "so far"
      operator := ⟨fun _ w => (none, w)⟩ }
  history := {}
  world := { rest := () }

theorem settlingRun_succeeds :
    settlingRun.workflow.start.isSome ∧ ∃ ended, settlingRun.toEnd 4 = some ended ∧
      ended.verdict = (.success, "so far") ∧
      (∃ earlier at_, ended.history.records =
        earlier ++ [⟨"SUCCESS", .success, "so far", at_⟩]) ∧
      ∃ (s : Run Unit) (name : String) (a : Activity), s.workflow.activity? name = some a ∧
        s.hitsOf name < s.maxHits := by
  have answer : (settlingRun.toEnd 4).map verdict = some (.success, "so far") := by decide +kernel
  obtain ⟨ended, h, hverdict⟩ := Option.map_eq_some_iff.mp answer
  obtain ⟨_, _, hrecord, _, s, name, _, _, _, hlast, _⟩ :=
    verdict_consistent settlingRun rfl h hverdict
  obtain ⟨a, found, within, _⟩ := hlast rfl
  exact ⟨rfl, ended, h, hverdict, hrecord, s, name, a, found, within⟩

end Playbook.Run
