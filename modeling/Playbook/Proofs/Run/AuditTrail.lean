/-
  The audit trail. A turn, of a run or of a run nested in it, changes the history by edits that
  leave the records before it alone, and then perhaps by the last record of its run; so what was
  recorded before a run is in front of all that it records. Where nothing is called, every visit
  within the limit that is no end of the workflow is recorded once, and so is the end of the run
  (`trail_only_grows`).
-/
import Playbook.Proofs.Run.Nesting
import Playbook.Proofs.Run.Verdict

namespace Playbook.Run

open Playbook.Text

variable {σ : Type}

/-! ## One turn -/

/-- The next turn visits, within the limit, an activity that is no end of the workflow. -/
def visitsNow (s : Run σ) : Bool :=
  s.current.any fun name => s.executes name &&
    (s.workflow.activity? name).any fun a => a.kind != .success && a.kind != .failed

/-- The next turn calls no workflow. -/
def CallsNothing (s : Run σ) : Prop :=
  ∀ name a, s.current = some name → s.workflow.activity? name = some a → a.kind ≠ .call

theorem visitsNow_of_found {s : Run σ} {name : String} {a : Activity}
    (hcurrent : s.current = some name) (found : s.workflow.activity? name = some a) :
    s.visitsNow =
      (decide (s.hitsOf name < s.maxHits) && (a.kind != .success && a.kind != .failed)) := by
  simp [visitsNow, executes, hcurrent, found]

theorem Visits.visitsNow {ending : Ending σ} {s t : Run σ} {name : String} {a : Activity}
    {outcome : Bool} (visited : Visits ending s name a outcome t)
    (hcurrent : s.current = some name) : s.visitsNow := by
  rw [visitsNow_of_found hcurrent visited.found]
  simp [visited.within, visited.not_success, visited.not_failed]

/-- A visit that calls nothing records once. -/
theorem Visits.length_eq {ending : Ending σ} {s t : Run σ} {name : String} {a : Activity}
    {outcome : Bool} (visited : Visits ending s name a outcome t) (hcall : a.kind ≠ .call) :
    t.history.records.length = s.history.records.length + 1 :=
  (deeds_visit hcall visited.not_success visited.not_failed visited.made).length_eq

/-- Where a turn stops, only a visit has recorded anything yet. -/
theorem Stops.length_eq {ending : Ending σ} {s t : Run σ} {name : String} {success : Bool}
    {last : Option String} (stopped : Stops ending s name success last t)
    (hcurrent : s.current = some name) (callsNothing : s.CallsNothing) :
    t.history.records.length =
      s.history.records.length + if s.visitsNow then 1 else 0 := by
  cases stopped with
  | missing absent =>
    have hidle : s.visitsNow = false := by simp [visitsNow, hcurrent, absent]
    rw [hidle]
    rfl
  | refused a found beyond =>
    rw [visitsNow_of_found hcurrent found, decide_eq_false (Nat.not_lt.mpr beyond)]
    rfl
  | reached a found within success kind =>
    rw [visitsNow_of_found hcurrent found, kind]
    cases success <;> simp <;> rfl
  | deadEnd visited leaf =>
    rw [visited.visitsNow hcurrent]
    exact visited.length_eq (callsNothing name _ hcurrent visited.found)

theorem finish_length (t : Run σ) (success : Bool) (last : Option String) :
    (t.finish success last).history.records.length =
      t.history.records.length + if (t.finish success last).current.isNone then 1 else 0 := by
  cases hfresh : t.freshHandler? success with
  | some handler =>
    rw [finish_of_fresh hfresh]
    rfl
  | none =>
    have ends := finish_of_none hfresh last
    rw [ends.history, ends.current]
    exact History.length_add ..

/-- A turn that calls nothing records its visit and the end of the run, if it makes a visit and if
it ends the run. -/
theorem Turned.length_eq {s next : Run σ} (made : Turned s next) (callsNothing : s.CallsNothing) :
    next.history.records.length = s.history.records.length +
      (if s.visitsNow then 1 else 0) + if next.current.isNone then 1 else 0 := by
  obtain ⟨name, turns, hcurrent, leads⟩ := made.leads
  cases leads with
  | along visited edge =>
    rw [visited.visitsNow hcurrent]
    exact visited.length_eq (callsNothing name _ hcurrent visited.found)
  | @stop success last t stopped =>
    rw [finish_length, stopped.length_eq hcurrent callsNothing]

/-- A turn edits the history, and may add the last record of its run. -/
theorem Turned.edits {s next : Run σ} (made : Turned s next) :
    ∃ visited, History.Edited s.history.records.length s.history visited ∧
      (next.history = visited ∨ ∃ at_, next.history =
        visited.add next.context.status.tag next.context.status next.context.result at_) := by
  obtain ⟨name, turns, hcurrent, leads⟩ := made.leads
  have nested : ∀ child ended : Run σ, child.toEnd turns = some ended → Keeps child ended :=
    fun _ _ => keeps_toEnd
  cases leads with
  | @along a outcome t target visited edge =>
    exact ⟨t.history, (visited.keeps nested).edited, Or.inl rfl⟩
  | @stop success last t stopped =>
    refine ⟨t.history, (stopped.keeps nested).edited, ?_⟩
    cases hfresh : t.freshHandler? success with
    | some handler =>
      rw [finish_of_fresh hfresh]
      exact Or.inl rfl
    | none => exact Or.inr ⟨t.world.now, (finish_of_none hfresh last).history⟩

/-! ## Journeys -/

/-- Along a journey that calls nothing, the records are the visits, and the end if it was got to. -/
theorem Journey.length_eq {r s : Run σ} {states : List (Run σ)} (j : Journey r states s)
    (hstart : r.current.isSome) (callsNothing : ∀ t ∈ states, t.CallsNothing) :
    s.history.records.length = r.history.records.length + states.countP visitsNow +
      if s.current.isNone then 1 else 0 := by
  induction j with
  | start =>
    obtain ⟨name, hname⟩ := Option.isSome_iff_exists.mp hstart
    rw [hname]
    rfl
  | @turn states s next before made ih =>
    have hbefore := ih fun t ht => callsNothing t (List.mem_cons_of_mem s ht)
    obtain ⟨name, _, hcurrent, _⟩ := made.leads
    rw [hcurrent] at hbefore
    have hturn := made.length_eq (callsNothing s List.mem_cons_self)
    rw [List.countP_cons, hturn, hbefore]
    simp only [Option.isNone_some, Bool.false_eq_true, if_false]
    omega

/-- Nothing is called in a run of a workflow without calls. -/
theorem Journey.callsNothing {r s : Run σ} {states : List (Run σ)}
    (quiet : ∀ a ∈ r.workflow.activities.values, a.kind ≠ .call) (j : Journey r states s) :
    ∀ t ∈ states, t.CallsNothing := by
  induction j with
  | start => exact fun t ht => absurd ht List.not_mem_nil
  | @turn states s next before _ ih =>
    intro t ht name a _ found
    rcases List.mem_cons.mp ht with rfl | ht
    · rw [before.keeps.workflow] at found
      exact quiet a (Table.mem_values_of_get? found)
    · exact ih t ht name a ‹_› found

theorem begin_history (r : Run σ) : r.begin.history = r.history := by
  unfold begin
  dsimp only
  split <;> rfl

/-! ## Nested runs -/

/-- A nested run finds the record of its call at the end of the history, and what it recorded
itself is left alone by the rest of the turn. -/
theorem Awaits.recorded {s child next : Run σ} (h : s.Awaits child) (made : Turned s next) :
    (∃ rec, child.history.records = s.history.records ++ [rec]) ∧
      ∃ turns ended, child.toEnd turns = some ended ∧
        ended.history.records <+: next.history.records := by
  obtain ⟨name, a, sub, hcurrent, found, within, hcall, loads, rfl⟩ := h.loads
  obtain ⟨_, turns, hcurrent', hturn⟩ := made
  obtain rfl := Option.some.inj (hcurrent.symm.trans hcurrent')
  have hsuccess : a.kind ≠ .success := by rw [hcall]; decide
  have hfailed : a.kind ≠ .failed := by rw [hcall]; decide
  rw [turn_eq_visit found within hsuccess hfailed, visit_of_call hcall, visitCall_of_loads loads,
    Option.map_map] at hturn
  obtain ⟨ended, hended, rfl⟩ := Option.map_eq_some_iff.mp hturn
  refine ⟨⟨_, rfl⟩, turns, ended, hended, ?_⟩
  rw [← (s.visiting a name).called_history a ended]
  exact (keeps_follow a _ _).edited.isPrefix

theorem Journey.recorded {r s ended : Run σ} {states : List (Run σ)} {turns : Nat}
    (j : Journey r.begin states s) (h : r.toEnd turns = some ended) :
    s.history.records <+: ended.history.records := by
  obtain ⟨m, _, hwalk⟩ := j.passed h
  exact (keeps_walk hwalk).edited.isPrefix

/-- A run that gets to its end keeps all that the runs nested in it recorded. -/
theorem Nested.recorded {r inner ended : Run σ} {turns : Nat} (nested : Nested r inner)
    (h : r.toEnd turns = some ended) :
    ∃ turns innerEnded, inner.toEnd turns = some innerEnded ∧
      innerEnded.history.records <+: ended.history.records := by
  induction nested with
  | refl => exact ⟨turns, ended, h, List.prefix_rfl⟩
  | tail _ call ih =>
    obtain ⟨turns, outerEnded, houter, hfront⟩ := ih
    obtain ⟨states, s, j, awaits⟩ := call
    obtain ⟨name, hcurrent, _⟩ := id awaits
    obtain ⟨k, _, hwalk⟩ := j.passed houter
    obtain ⟨m, next, rfl, hturn, hrest⟩ := exists_turned_of_walk hcurrent hwalk
    obtain ⟨_, n, innerEnded, hinner, hkept⟩ := awaits.recorded ⟨name, m, hcurrent, hturn⟩
    exact ⟨n, innerEnded, hinner,
      (hkept.trans (keeps_walk hrest).edited.isPrefix).trans hfront⟩

/-! ## Whole runs -/

/-- What one turn does to the records. -/
structure Records (s next : Run σ) : Prop where
  /-- Its visit edits them, and the end of the run adds one. -/
  edits : ∃ visited, History.Edited s.history.records.length s.history visited ∧
    (next.history = visited ∨ ∃ at_, next.history =
      visited.add next.context.status.tag next.context.status next.context.result at_)
  /-- What was recorded before the turn is left alone. -/
  kept : s.history.records <+: next.history.records
  /-- A call adds one record, and leaves those of the run that it begins alone. -/
  nested : ∀ child, s.Awaits child →
    (∃ rec, child.history.records = s.history.records ++ [rec]) ∧
      ∃ turns ended, child.toEnd turns = some ended ∧
        ended.history.records <+: next.history.records

/-- What a run records until it has got to its end. -/
structure Trail (r ended : Run σ) : Prop where
  kept : r.history.records <+: ended.history.records
  abridged : ∀ i rec, r.history.records.length ≤ i → ended.history.records[i]? = some rec →
    ∃ text, IsAbridged r.history.maxLength text rec.result
  /-- What was recorded before a turn, of the run or of one nested in it, is kept to the end. -/
  nested : ∀ inner, Nested r inner → ∀ states s, Journey inner.begin states s →
    s.history.records <+: ended.history.records
  /-- Where nothing is called, visits are recorded once, and so is the end of the run. -/
  counted : ∃ states last, Journey r.begin states last ∧ last.current = none ∧
    ended = last.save none ∧
    ((∀ s ∈ states, s.CallsNothing) → ended.history.records.length =
      r.history.records.length + states.countP visitsNow + 1)

theorem trail_of_toEnd {r ended : Run σ} {turns : Nat} (started : r.workflow.start.isSome)
    (h : r.toEnd turns = some ended) : Trail r ended := by
  have keeps : Keeps r ended := keeps_toEnd h
  refine ⟨keeps.edited.isPrefix, fun i rec => keeps.edited.isAbridged,
    fun inner nested states s j => ?_, ?_⟩
  · obtain ⟨turns, innerEnded, hinner, hfront⟩ := nested.recorded h
    exact (j.recorded hinner).trans hfront
  · obtain ⟨states, last, j, hlast, rfl⟩ := toEnd_iff_journey.mp ⟨turns, h⟩
    refine ⟨states, last, j, hlast, rfl, fun callsNothing => ?_⟩
    have hlength := j.length_eq (by rwa [begin_current]) callsNothing
    rw [hlast, begin_history] at hlength
    exact hlength

/-- Edits add a record with the abridged text, or give one the abridged text as another result;
they never touch a caption, a status or a time. What was recorded before a turn is left alone by it,
and what was recorded in a run or in one nested in it, up to any of their turns, is in front of all
that the run has recorded in the end. So are the records that it began with; all others are
abridged. Where nothing is called, one record is added by every visit within the limit that is no
end of the workflow, and one by the end of the run. -/
theorem trail_only_grows (r : Run σ) (started : r.workflow.start.isSome) :
    (∀ turns ended, r.toEnd turns = some ended → Trail r ended) ∧
    (∀ inner, Nested r inner → ∀ states s next, Journey inner.begin states s → Turned s next →
      Records s next) ∧
    (∀ n h h', History.Edit n h h' → h.entries <+: h'.entries ∧ h'.maxLength = h.maxLength ∧
      (n ≤ h.records.length → h'.records.take n = h.records.take n)) ∧
    ∀ (h : History) (text : String), ∃ kept, IsAbridged h.maxLength text kept ∧
      (∀ caption status at_,
        (h.add caption status text at_).records = h.records ++ [⟨caption, status, kept, at_⟩]) ∧
      ∀ index rec, h.records[index]? = some rec →
        (h.update index text).records = h.records.set index { rec with result := kept } := by
  refine ⟨fun turns ended h => trail_of_toEnd started h,
    fun inner nested states s next _ made => ?_,
    fun n h h' e => ⟨e.entries_isPrefix, e.maxLength_eq, e.take_eq⟩, fun h text => ?_⟩
  · exact ⟨made.edits, made.keeps.edited.isPrefix, fun child awaits => awaits.recorded made⟩
  · refine ⟨abridgeMiddle text h.maxLength, isAbridged_abridgeMiddle text h.maxLength,
      fun caption status at_ => rfl, fun index rec hrec => ?_⟩
    exact h.records_update hrec text

/-- A run with a record of an earlier one, that keeps six characters of a text and asks someone who
answers at length. -/
def askingRun : Run Unit where
  context :=
    { workflow :=
        { activities := .ofList
            [("START", { kind := .start, name := "START", next := some "ASK_NAME" }),
              ("ASK_NAME", { kind := .ask, name := "ASK_NAME" })]
          start := some "START" }
      operator := ⟨fun _ w => (some "a long name", w)⟩ }
  history := { maxLength := 6, records := [⟨"EARLIER", .failed, "so far", {}⟩] }
  world := { rest := () }

theorem askingRun_trail :
    askingRun.workflow.start.isSome ∧ ∃ ended, askingRun.toEnd 4 = some ended ∧
      [⟨"EARLIER", .failed, "so far", {}⟩] <+: ended.history.records ∧
      (∃ states last, Journey askingRun.begin states last ∧ states.countP visitsNow = 2) ∧
      ended.history.records.map (·.result) =
        ["so far", "", "Inp\n...(truncated)...\ne\n\n", "a l\n...(truncated)...\name"] := by
  have results : (askingRun.toEnd 4).map (·.history.records.map (·.result)) = some
      ["so far", "", "Inp\n...(truncated)...\ne\n\n", "a l\n...(truncated)...\name"] := by
    decide +kernel
  obtain ⟨ended, h, hresults⟩ := Option.map_eq_some_iff.mp results
  obtain ⟨hruns, _⟩ := trail_only_grows askingRun rfl
  have trail := hruns 4 ended h
  obtain ⟨states, last, j, _, _, hlength⟩ := trail.counted
  have quiet : ∀ a ∈ askingRun.begin.workflow.activities.values, a.kind ≠ .call := by
    decide +kernel
  have hcount := hlength (j.callsNothing quiet)
  have hfour : ended.history.records.length = 4 := by
    rw [← List.length_map (f := (·.result)), hresults]
    rfl
  rw [hfour] at hcount
  have hearlier : askingRun.history.records.length = 1 := rfl
  exact ⟨rfl, ended, h, trail.kept, ⟨states, last, j, by omega⟩, hresults⟩

end Playbook.Run
