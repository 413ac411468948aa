/-
  Handlers that are not there. A handler is led to as long as it was never counted, and a name
  without an activity is never counted: a run that is led to a missing handler of failures fails
  there and is led to it again, turn after turn (`Astray.turned`). Nothing else keeps a run that
  calls nothing from its end (`returns_iff_never_astray`). Until then every turn takes one of the
  visits that the limit leaves, or is one of two that execute nothing (`Spent`).
-/
import Playbook.Proofs.Run.Nesting
import Playbook.Proofs.Run.Verdict

namespace Playbook.Run

variable {σ : Type}

/-! ## Runs that are led astray -/

/-- The run is led to its handler of failures, which is not there and was never counted. -/
structure Astray (s : Run σ) (handler : String) : Prop where
  led : s.current = some handler
  handles : s.workflow.onFailed = some handler
  missing : s.workflow.activity? handler = none
  uncounted : s.hitsOf handler = 0

/-- The turn at a missing handler leads back to it. It puts one more diagnostic in front of the
result and records nothing. -/
theorem Astray.turned {s : Run σ} {handler : String} (h : s.Astray handler) :
    ∃ next, Turned s next ∧ next.Astray handler ∧ next.history = s.history ∧
      next.context = s.context.fail s!"Activity {handler} is not defined" := by
  let t := s.fail s!"Activity {handler} is not defined"
  have hfresh : t.freshHandler? false = some handler := by
    rw [freshHandler?_eq]
    show s.workflow.onFailed.filter (fun name => s.hitsOf name == 0) = some handler
    rw [h.handles]
    simp [h.uncounted]
  have hturn : turn (toEnd 0) s handler = some (t.finish false none) :=
    turn_of_stops (.missing h.missing)
  rw [finish_of_fresh hfresh] at hturn
  exact ⟨_, ⟨handler, 0, h.led, hturn⟩, ⟨rfl, h.handles, h.missing, h.uncounted⟩, rfl, rfl⟩

/-- How many visits the limit leaves to all activities together. -/
def left (s : Run σ) : Nat :=
  (s.workflow.activities.keys.map fun name => s.maxHits - s.hitsOf name).sum

theorem left_mono {s next : Run σ} (hw : next.workflow = s.workflow)
    (hm : next.maxHits = s.maxHits) (hmono : ∀ name, s.hitsOf name ≤ next.hitsOf name) :
    next.left ≤ s.left := by
  unfold left
  rw [hw, hm]
  exact List.sum_le_sum fun name _ => Nat.sub_le_sub_left (hmono name) _

/-- A visit that is executed is one of those that were left. -/
theorem left_lt_of_executes {s next : Run σ} {name : String} (hexec : s.executes name)
    (kept : next.ledger = (s.hit name).ledger) : next.left < s.left := by
  obtain ⟨hw, hm, _⟩ := ledger_eq_iff.mp kept
  obtain ⟨_, hdef, hwithin⟩ := executes_iff.mp hexec
  have hw : next.workflow = s.workflow := hw
  have hm : next.maxHits = s.maxHits := hm
  unfold left
  rw [hw, hm]
  refine List.sum_lt_sum _ _ (fun other _ => ?_)
    ⟨name, Table.mem_keys_of_get?_isSome hdef, ?_⟩
  · rw [hitsOf_eq_of_ledger kept]
    exact Nat.sub_le_sub_left (s.hitsOf_le_hit name other) _
  · rw [hitsOf_eq_of_ledger kept, hitsOf_hit_self]
    omega

/-- What holds after the turns that began in `states`, of which `fails` executed nothing. The
counters may come from earlier runs. -/
structure Spent (r : Run σ) (states : List (Run σ)) (s : Run σ) (fails : Nat) : Prop where
  workflow : s.workflow = r.workflow
  maxHits : s.maxHits = r.maxHits
  phase : s.Phase fails
  length_le : states.length + s.left ≤ r.left + fails
  hits_le : ∀ name, s.hitsOf name ≤ max (r.hitsOf name) r.maxHits + fails

theorem spent_start (r : Run σ) : Spent r [] r.begin 0 := by
  obtain ⟨hw, hm, _⟩ := ledger_eq_iff.mp r.ledger_begin
  have hhits := hitsOf_eq_of_ledger r.ledger_begin
  refine ⟨hw, hm, trivial, ?_, fun name => ?_⟩
  · have := left_mono hw hm fun name => Nat.le_of_eq (hhits name).symm
    simpa using this
  · rw [hhits]
    omega

theorem Spent.executed {r s next : Run σ} {states : List (Run σ)} {name : String} {fails : Nat}
    (h : Spent r states s fails) (hc : s.current = some name) (hexec : s.executes name)
    (kept : next.ledger = (s.hit name).ledger) : Spent r (s :: states) next fails := by
  obtain ⟨hw, hm, _⟩ := ledger_eq_iff.mp kept
  refine ⟨hw.trans h.workflow, hm.trans h.maxHits, h.phase.executed hc kept, ?_, fun other => ?_⟩
  · have := left_lt_of_executes hexec kept
    have := h.length_le
    simp only [List.length_cons]
    omega
  · rw [hitsOf_eq_of_ledger kept]
    by_cases hne : other = name
    · subst hne
      have hwithin := h.maxHits ▸ (executes_iff.mp hexec).2.2
      rw [hitsOf_hit_self]
      omega
    · rw [hitsOf_hit_of_ne s hne]
      exact h.hits_le other

/-- A turn that executes nothing adds at most one to a counter. -/
theorem Spent.failed {r s next : Run σ} {states : List (Run σ)} {fails : Nat}
    (h : Spent r states s fails) (hw : next.workflow = s.workflow)
    (hm : next.maxHits = s.maxHits) (hmono : ∀ name, s.hitsOf name ≤ next.hitsOf name)
    (hone : ∀ name, next.hitsOf name ≤ s.hitsOf name + 1) (phase : next.Phase (fails + 1)) :
    Spent r (s :: states) next (fails + 1) := by
  refine ⟨hw.trans h.workflow, hm.trans h.maxHits, phase, ?_, fun name => ?_⟩
  · have := left_mono hw hm hmono
    have := h.length_le
    simp only [List.length_cons]
    omega
  · have := hone name
    have := h.hits_le name
    omega

theorem Spent.turn {r s next : Run σ} {states : List (Run σ)} {name : String} {fails : Nat}
    (h : Spent r states s fails) (hc : s.current = some name) (sound : ¬ s.Astray name)
    (effect : TurnEffect s name next) : ∃ fails', Spent r (s :: states) next fails' := by
  cases effect with
  | missing absent kept goesOn =>
    obtain ⟨hw, hm, _⟩ := ledger_eq_iff.mp kept
    have hhits := hitsOf_eq_of_ledger kept
    refine ⟨_, h.failed hw hm (fun o => Nat.le_of_eq (hhits o).symm)
      (fun o => by rw [hhits]; omega) ?_⟩
    refine h.phase.failed (t := s) hc hw rfl hhits (fun _ => Nat.le_refl _) (fun hled => ?_) goesOn
    -- a missing handler of failures that was never counted would lead astray
    exact Nat.pos_of_ne_zero fun hzero => sound ⟨hc, hled, absent, hzero⟩
  | refused a found beyond kept goesOn =>
    obtain ⟨hw, hm, _⟩ := ledger_eq_iff.mp kept
    have hhits := hitsOf_eq_of_ledger kept
    refine ⟨_, h.failed hw hm (fun o => (hhits o).symm ▸ s.hitsOf_le_hit name o)
      (fun o => ?_) ?_⟩
    · rw [hhits]
      by_cases hne : o = name
      · subst hne; simp
      · rw [hitsOf_hit_of_ne s hne]; omega
    · exact h.phase.failed (t := s.hit name) hc hw rfl hhits (s.hitsOf_le_hit name)
        (fun _ => by rw [hitsOf_hit_self]; omega) goesOn
  | executed a found within kept =>
    exact ⟨fails, h.executed hc (executes_iff.mpr ⟨hc, by simp [found], within⟩) kept⟩

/-- A run that is not led astray was not led astray before. -/
theorem Journey.spent {r s : Run σ} {states : List (Run σ)} (j : Journey r.begin states s)
    (sound : ∀ handler, ¬ s.Astray handler) : ∃ fails, Spent r states s fails := by
  induction j with
  | start => exact ⟨0, spent_start r⟩
  | @turn states s next _ made ih =>
    have before : ∀ handler, ¬ s.Astray handler := by
      intro handler hastray
      obtain ⟨back, hmade, hback, _, _⟩ := hastray.turned
      exact sound handler (made.unique hmade ▸ hback)
    obtain ⟨fails, hspent⟩ := ih before
    obtain ⟨name, hc, effect⟩ := made.effect
    exact hspent.turn hc (before name) effect

/-! ## Runs that return -/

end Playbook.Run
