/-
  The loop guard. Every turn of a run executes a visit within the limit, or it executes nothing:
  its activity is not there, or was visited too often. The first turn that executes nothing may
  lead to the handler of failures, the second one ends the run (`Phase`). So a run makes at most
  limit · activities + 2 turns, whatever its graph looks like and whatever agent, executor and
  operator do (`turns_bounded`).
-/
import Mathlib.Algebra.Order.BigOperators.Group.List
import Mathlib.Algebra.Order.Ring.Nat
import Playbook.Proofs.Run.Journey
import Playbook.Proofs.Table

namespace Playbook

/-- Every handler of a workflow is one of its activities. -/
def Workflow.HandlersDefined (w : Workflow) : Prop :=
  ∀ name ∈ w.handlers, (w.activity? name).isSome

theorem Workflow.HandlersDefined.onFailed {w : Workflow} (h : w.HandlersDefined) {name : String}
    (hn : w.onFailed = some name) : (w.activity? name).isSome :=
  h name (by simp [handlers, hn])

namespace Run

variable {σ : Type}

/-! ## Visits that are executed -/

/-- Whether the next turn executes the visit of `name`. -/
def executes (s : Run σ) (name : String) : Bool :=
  s.current == some name && (s.workflow.activity? name).isSome &&
    decide (s.hitsOf name < s.maxHits)

/-- Whether the next turn executes a visit at all. -/
def executesNow (s : Run σ) : Bool := s.current.any s.executes

theorem executes_iff {s : Run σ} {name : String} :
    s.executes name ↔ s.current = some name ∧ (s.workflow.activity? name).isSome ∧
      s.hitsOf name < s.maxHits := by
  simp [executes, and_assoc]

/-- A visit that is executed is counted and dispatched on the kind of its activity. -/
theorem turn_of_executes {s : Run σ} {name : String} (h : s.executes name)
    (ending : Ending σ) : ∃ a, s.workflow.activity? name = some a ∧
      s.turn ending name = (s.hit name).execute ending a name := by
  obtain ⟨_, hdef, hwithin⟩ := executes_iff.mp h
  obtain ⟨a, ha⟩ := Option.isSome_iff_exists.mp hdef
  exact ⟨a, ha, turn_of_within ha hwithin ending⟩

theorem hitsOf_eq_of_ledger {r s : Run σ} (h : r.ledger = s.ledger) (name : String) :
    r.hitsOf name = s.hitsOf name := by
  simp only [hitsOf, (ledger_eq_iff.mp h).2.2]

theorem hitsOf_le_hit (s : Run σ) (name other : String) :
    s.hitsOf other ≤ (s.hit name).hitsOf other := by
  by_cases h : other = name
  · subst h; simp
  · exact Nat.le_of_eq (s.hitsOf_hit_of_ne h).symm

/-! ## Failures of the loop itself -/

/-- Where a run stands after a number of turns that executed nothing. -/
def Phase (s : Run σ) : Nat → Prop
  | 0 => True
  | 1 => s.current = none ∨
      ∃ handler, s.workflow.onFailed = some handler ∧
        (s.current = some handler ∨ 0 < s.hitsOf handler)
  | 2 => s.current = none
  | _ => False

theorem Phase.le_two {s : Run σ} : ∀ {n : Nat}, s.Phase n → n ≤ 2
  | 0, _ => by omega
  | 1, _ => by omega
  | 2, _ => by omega
  | _ + 3, h => h.elim

/-- An executed visit changes no phase: a handler that it was led to is counted now. -/
theorem Phase.executed {s next : Run σ} {name : String} {n : Nat} (hp : s.Phase n)
    (hc : s.current = some name) (kept : next.ledger = (s.hit name).ledger) : next.Phase n := by
  have hw : next.workflow = s.workflow := (ledger_eq_iff.mp kept).1
  match n, hp with
  | 0, _ => trivial
  | 1, .inl hnone => rw [hc] at hnone; cases hnone
  | 1, .inr ⟨handler, hh, hv⟩ =>
    refine .inr ⟨handler, hw ▸ hh, .inr ?_⟩
    rw [hitsOf_eq_of_ledger kept]
    rcases hv with hcur | hpos
    · obtain rfl : name = handler := Option.some.inj (hc.symm.trans hcur)
      rw [hitsOf_hit_self]
      omega
    · exact Nat.lt_of_lt_of_le hpos (s.hitsOf_le_hit name handler)
  | 2, hnone => rw [show s.current = none from hnone] at hc; cases hc

/-- A failure of the loop comes after a state `t` that counts every handler visited so far. -/
theorem Phase.failed {s t next : Run σ} {name : String} {n : Nat} (hp : s.Phase n)
    (hc : s.current = some name) (hw : next.workflow = s.workflow)
    (hwt : t.workflow = s.workflow) (hhits : ∀ other, next.hitsOf other = t.hitsOf other)
    (hmono : ∀ other, s.hitsOf other ≤ t.hitsOf other)
    (hled : s.workflow.onFailed = some name → 0 < t.hitsOf name)
    (goesOn : next.current = t.freshHandler? false) : next.Phase (n + 1) := by
  have hfresh : t.freshHandler? false =
      s.workflow.onFailed.filter fun handler => t.hitsOf handler == 0 := by
    simp [freshHandler?, hwt]
  rw [hfresh] at goesOn
  match n, hp with
  | 0, _ =>
    cases hh : s.workflow.onFailed with
    | none => exact .inl (by rw [goesOn, hh]; rfl)
    | some handler =>
      by_cases h0 : t.hitsOf handler = 0
      · exact .inr ⟨handler, by rw [hw, hh], .inl (by rw [goesOn, hh]; simp [h0])⟩
      · refine .inr ⟨handler, by rw [hw, hh], .inr ?_⟩
        rw [hhits]
        omega
  | 1, .inl hnone => rw [hc] at hnone; cases hnone
  | 1, .inr ⟨handler, hh, hv⟩ =>
    have hpos : 0 < t.hitsOf handler := by
      rcases hv with hcur | hpos
      · obtain rfl : name = handler := Option.some.inj (hc.symm.trans hcur)
        exact hled hh
      · exact Nat.lt_of_lt_of_le hpos (hmono handler)
    show next.current = none
    rw [goesOn, hh]
    simp; omega
  | 2, hnone => rw [show s.current = none from hnone] at hc; cases hc

/-! ## Counting along a journey -/

theorem executesNow_eq {s : Run σ} {name : String} (hc : s.current = some name) :
    s.executesNow = s.executes name := by
  simp [executesNow, hc]

theorem executes_of_ne {s : Run σ} {name other : String} (hc : s.current = some name)
    (h : other ≠ name) : s.executes other = false := by
  simp [executes, hc, Ne.symm h]

/-- How many of the turns that began in `states` executed the visit of `name`. -/
def executions (states : List (Run σ)) (name : String) : Nat :=
  states.countP (·.executes name)

/-- How many of the turns that began in `states` executed nothing. -/
def failures (states : List (Run σ)) : Nat := states.countP (!·.executesNow)

/-- What holds after the turns that began in `states`, of a run that begins with fresh counters. -/
structure Tally (r : Run σ) (states : List (Run σ)) (s : Run σ) : Prop where
  workflow : s.workflow = r.workflow
  maxHits : s.maxHits = r.maxHits
  states_workflow : ∀ t ∈ states, t.workflow = r.workflow
  executions_le_hits : ∀ name, executions states name ≤ s.hitsOf name
  hits_le : ∀ name, s.hitsOf name ≤ executions states name + failures states
  executions_le : ∀ name, executions states name ≤ r.maxHits
  phase : s.Phase (failures states)

theorem tally_start (r : Run σ) (fresh : r.hits = .empty) : Tally r [] r.begin where
  workflow := (ledger_eq_iff.mp r.ledger_begin).1
  maxHits := (ledger_eq_iff.mp r.ledger_begin).2.1
  states_workflow := by simp
  executions_le_hits := by simp [executions]
  hits_le name := by
    rw [hitsOf_eq_of_ledger r.ledger_begin, hitsOf, fresh]
    exact Nat.zero_le _
  executions_le := by simp [executions]
  phase := trivial

theorem Tally.executed {r s next : Run σ} {states : List (Run σ)} {name : String}
    (t : Tally r states s) (hc : s.current = some name) (hexec : s.executes name)
    (kept : next.ledger = (s.hit name).ledger) : Tally r (s :: states) next := by
  obtain ⟨hw, hm, _⟩ := ledger_eq_iff.mp kept
  have hhits := hitsOf_eq_of_ledger kept
  have hfail : failures (s :: states) = failures states := by
    simp [failures, executesNow_eq hc, hexec]
  have hself : executions (s :: states) name = executions states name + 1 := by
    simp [executions, hexec]
  have hother : ∀ other, other ≠ name → executions (s :: states) other = executions states other :=
    fun other hne => by simp [executions, executes_of_ne hc hne]
  have hwithin : s.hitsOf name < r.maxHits := t.maxHits ▸ (executes_iff.mp hexec).2.2
  refine ⟨hw.trans t.workflow, hm.trans t.maxHits, ?_, ?_, ?_, ?_, ?_⟩
  · simpa [t.workflow] using t.states_workflow
  · intro other
    rw [hhits]
    by_cases hne : other = name
    · subst hne
      rw [hself, hitsOf_hit_self]
      exact Nat.succ_le_succ (t.executions_le_hits other)
    · rw [hother other hne, hitsOf_hit_of_ne s hne]
      exact t.executions_le_hits other
  · intro other
    rw [hhits, hfail]
    have := t.hits_le other
    by_cases hne : other = name
    · subst hne
      rw [hself, hitsOf_hit_self]
      omega
    · rwa [hother other hne, hitsOf_hit_of_ne s hne]
  · intro other
    by_cases hne : other = name
    · subst hne
      have := t.executions_le_hits other
      omega
    · rw [hother other hne]
      exact t.executions_le other
  · rw [hfail]
    exact t.phase.executed hc kept

/-- A turn that executes nothing adds at most one to a counter. -/
theorem Tally.failed {r s next : Run σ} {states : List (Run σ)} {name : String}
    (t : Tally r states s) (hc : s.current = some name) (hexec : s.executes name = false)
    (hw : next.workflow = s.workflow) (hm : next.maxHits = s.maxHits)
    (hmono : ∀ other, s.hitsOf other ≤ next.hitsOf other)
    (hone : ∀ other, next.hitsOf other ≤ s.hitsOf other + 1)
    (phase : next.Phase (failures states + 1)) : Tally r (s :: states) next := by
  have hfail : failures (s :: states) = failures states + 1 := by
    simp [failures, executesNow_eq hc, hexec]
  have hsame : ∀ other, executions (s :: states) other = executions states other := by
    intro other
    by_cases hne : other = name
    · subst hne; simp [executions, hexec]
    · simp [executions, executes_of_ne hc hne]
  refine ⟨hw.trans t.workflow, hm.trans t.maxHits, ?_, ?_, ?_, ?_, hfail ▸ phase⟩
  · simpa [t.workflow] using t.states_workflow
  · intro other
    rw [hsame]
    exact Nat.le_trans (t.executions_le_hits other) (hmono other)
  · intro other
    have h1 := t.hits_le other
    have h2 := hone other
    rw [hsame, hfail]
    omega
  · intro other
    rw [hsame]
    exact t.executions_le other

theorem Tally.turn {r s next : Run σ} {states : List (Run σ)} {name : String}
    (defined : r.workflow.HandlersDefined) (t : Tally r states s) (hc : s.current = some name)
    (effect : TurnEffect s name next) : Tally r (s :: states) next := by
  cases effect with
  | missing absent kept goesOn =>
    obtain ⟨hw, hm, _⟩ := ledger_eq_iff.mp kept
    have hhits := hitsOf_eq_of_ledger kept
    refine t.failed hc (by simp [executes, absent]) hw hm
      (fun o => Nat.le_of_eq (hhits o).symm) (fun o => by rw [hhits]; omega) ?_
    refine t.phase.failed (t := s) hc hw rfl hhits (fun _ => Nat.le_refl _) (fun hled => ?_) goesOn
    -- the handler of failures is there, so it is not the name that is missing
    have := defined.onFailed (t.workflow ▸ hled)
    rw [← t.workflow, absent] at this
    cases this
  | refused a found beyond kept goesOn =>
    obtain ⟨hw, hm, _⟩ := ledger_eq_iff.mp kept
    have hhits := hitsOf_eq_of_ledger kept
    refine t.failed hc (by simp [executes, Nat.not_lt.mpr beyond]) hw hm
      (fun o => (hhits o).symm ▸ s.hitsOf_le_hit name o) (fun o => ?_) ?_
    · rw [hhits]
      by_cases hne : o = name
      · subst hne; simp
      · rw [hitsOf_hit_of_ne s hne]; omega
    · exact t.phase.failed (t := s.hit name) hc hw rfl hhits (s.hitsOf_le_hit name)
        (fun _ => by rw [hitsOf_hit_self]; omega) goesOn
  | executed a found within kept =>
    exact t.executed hc (executes_iff.mpr ⟨hc, by simp [found], within⟩) kept

theorem Journey.tally {r s : Run σ} {states : List (Run σ)} (fresh : r.hits = .empty)
    (defined : r.workflow.HandlersDefined) (j : Journey r.begin states s) : Tally r states s := by
  induction j with
  | start => exact tally_start r fresh
  | turn _ made ih =>
    obtain ⟨name, hc, effect⟩ := made.effect
    exact ih.turn defined hc effect

/-! ## The bound -/

theorem sum_map_add_one (p : String → Bool) (f : String → Nat) (names : List String) :
    (names.map fun n => f n + if p n then 1 else 0).sum = (names.map f).sum + names.countP p := by
  induction names with
  | nil => rfl
  | cons n names ih =>
    simp only [List.map_cons, List.sum_cons, ih, List.countP_cons]
    omega

/-- Every turn that executes a visit counts for the activity that it visits. -/
theorem countP_executesNow_le (names : List String) (states : List (Run σ))
    (h : ∀ s ∈ states, ∀ name, s.executes name → name ∈ names) :
    states.countP executesNow ≤ (names.map (executions states)).sum := by
  induction states with
  | nil => simp
  | cons s states ih =>
    have ih := ih fun t ht => h t (List.mem_cons_of_mem s ht)
    have hstep : (names.map (executions (s :: states))).sum =
        (names.map (executions states)).sum + names.countP s.executes := by
      rw [← sum_map_add_one]
      congr 2
      funext name
      simp [executions, List.countP_cons]
    rw [hstep, List.countP_cons]
    split
    · next hnow =>
      obtain ⟨name, _, hexec⟩ : ∃ name, s.current = some name ∧ s.executes name := by
        cases hc : s.current with
        | none => simp [executesNow, hc] at hnow
        | some name => exact ⟨name, rfl, executesNow_eq hc ▸ hnow⟩
      have : 0 < names.countP s.executes :=
        List.countP_pos_iff.mpr ⟨name, h s List.mem_cons_self name hexec, hexec⟩
      omega
    · omega

theorem Tally.length_le {r s : Run σ} {states : List (Run σ)} (t : Tally r states s) :
    states.length ≤ r.maxHits * r.workflow.activities.size + 2 := by
  have hexec : states.countP executesNow ≤ r.maxHits * r.workflow.activities.keys.length := by
    have hsum := List.sum_le_card_nsmul (r.workflow.activities.keys.map (executions states))
      r.maxHits (by simp [t.executions_le])
    rw [List.length_map, Nat.nsmul_eq_mul, Nat.mul_comm] at hsum
    refine Nat.le_trans (countP_executesNow_le r.workflow.activities.keys states ?_) hsum
    intro u hu name hexec
    have hdef := (executes_iff.mp hexec).2.1
    rw [t.states_workflow u hu] at hdef
    exact Table.mem_keys_of_get?_isSome hdef
  have hfail : failures states ≤ 2 := t.phase.le_two
  have hsum := List.length_eq_countP_add_countP (p := executesNow) (l := states)
  have hkeys : r.workflow.activities.keys.length = r.workflow.activities.size := by
    simp [Table.keys, Table.size]
  rw [hkeys] at hexec
  have : failures states = states.countP fun u => decide ¬executesNow u = true := by
    simp [failures]
  omega

/-- A run in which every nested run gets to its end gets to its own end: no journey goes on for
ever. -/
theorem exists_journey_to_end {r : Run σ} (bound : Nat)
    (short : ∀ states s, Journey r.begin states s → states.length ≤ bound)
    (returns : ∀ states s child, Journey r.begin states s → s.Awaits child →
      ∃ turns ended, child.toEnd turns = some ended) :
    ∃ states s, Journey r.begin states s ∧ s.current = none := by
  have goes_on : ∀ states s, Journey r.begin states s →
      s.current = none ∨ ∃ next, Journey r.begin (s :: states) next := by
    intro states s j
    cases hc : s.current with
    | none => exact Or.inl rfl
    | some name =>
      obtain ⟨next, made⟩ := exists_turned hc fun child => returns states s child j
      exact Or.inr ⟨next, j.turn made⟩
  suffices h : ∀ n states s, Journey r.begin states s → bound ≤ states.length + n →
      ∃ states s, Journey r.begin states s ∧ s.current = none from
    h bound [] r.begin .start (by simp)
  intro n
  -- on the number of turns that are left within the bound
  induction n with
  | zero =>
    intro states s j hlen
    rcases goes_on states s j with hend | ⟨next, longer⟩
    · exact ⟨states, s, j, hend⟩
    · have hbound := short _ _ longer
      rw [List.length_cons] at hbound
      omega
  | succ n ih =>
    intro states s j hlen
    rcases goes_on states s j with hend | ⟨next, longer⟩
    · exact ⟨states, s, j, hend⟩
    · exact ih _ _ longer (by rw [List.length_cons]; omega)

/-- A run with fresh counters and handlers that are there makes at most
limit · activities + 2 turns, executes no activity more often than the limit says, and counts no
activity beyond the limit and two, so no counter of 32 bits overflows. If every nested run that
it waits for gets to its end, so does the run itself. -/
theorem turns_bounded (r : Run σ) (fresh : r.hits = .empty)
    (defined : r.workflow.HandlersDefined) (small : r.maxHits ≤ 2 ^ 32 - 3) :
    (∀ states s, Journey r.begin states s →
      states.length ≤ r.maxHits * r.workflow.activities.size + 2 ∧
        ∀ name, executions states name ≤ r.maxHits ∧
          s.hitsOf name ≤ r.maxHits + 2 ∧ s.hitsOf name < 2 ^ 32) ∧
    ((∀ states s child, Journey r.begin states s → s.Awaits child →
        ∃ turns ended, child.toEnd turns = some ended) →
      ∃ states s turns, Journey r.begin states s ∧ s.current = none ∧
        r.toEnd turns = some (s.save none)) := by
  have short : ∀ states s, Journey r.begin states s →
      states.length ≤ r.maxHits * r.workflow.activities.size + 2 :=
    fun states s j => (j.tally fresh defined).length_le
  refine ⟨fun states s j => ⟨short states s j, fun name => ?_⟩, fun returns => ?_⟩
  · have t := j.tally fresh defined
    have h1 := t.executions_le name
    have h2 := t.hits_le name
    have h3 : failures states ≤ 2 := t.phase.le_two
    exact ⟨h1, by omega, by omega⟩
  · obtain ⟨states, s, j, hs⟩ := exists_journey_to_end _ short returns
    obtain ⟨turns, h⟩ := toEnd_iff_journey.mpr ⟨states, s, j, hs, rfl⟩
    exact ⟨states, s, turns, j, hs, h⟩

/-- A run that fails the same check over and over, with a handler for its failure. -/
def circularRun : Run Unit where
  context :=
    { workflow :=
        { activities := .ofList
            [("START", { kind := .start, name := "START", next := some "CHECK_LOOP" }),
              ("CHECK_LOOP", {
                kind := .check, name := "CHECK_LOOP", expression := "RESULT EQUALS never"
                next := some "SUCCESS", other := some "CHECK_LOOP" }),
              ("SUCCESS", { kind := .success, name := "SUCCESS" }),
              ("ON_FAILED", { kind := .on, name := "ON_FAILED", next := some "CHECK_LOOP" })]
          start := some "START"
          onFailed := some "ON_FAILED" }
      operator := ⟨fun _ w => (none, w)⟩ }
  history := {}
  world := { rest := () }

theorem turns_bounded_circularRun :
    (∀ states s, Journey circularRun.begin states s →
      states.length ≤ 14 ∧ executions states "CHECK_LOOP" ≤ 3) ∧
      ∃ turns, (circularRun.toEnd turns).isSome := by
  have fresh : circularRun.hits = .empty := rfl
  have defined : circularRun.workflow.HandlersDefined := by
    intro name hn
    obtain rfl : name = "ON_FAILED" := by simpa [Workflow.handlers, circularRun, workflow] using hn
    rfl
  have bounded := turns_bounded circularRun fresh defined (by decide)
  refine ⟨fun states s j => ⟨(bounded.1 states s j).1, ((bounded.1 states s j).2 _).1⟩, ?_⟩
  obtain ⟨_, s, turns, _, _, h⟩ := bounded.2 fun states s child j hwait => by
    -- none of the four activities is a call
    obtain ⟨name, a, ha, hk⟩ := hwait.exists_call
    rw [(j.tally fresh defined).workflow] at ha
    have := Table.mem_entries_of_get? ha
    simp [circularRun, workflow, Table.ofList, Table.insertAll, Table.insert, Table.put,
      Table.empty] at this
    rcases this with ⟨_, rfl⟩ | ⟨_, rfl⟩ | ⟨_, rfl⟩ | ⟨_, rfl⟩ <;> cases hk
  exact ⟨turns, by rw [h]; rfl⟩

end Run

end Playbook
