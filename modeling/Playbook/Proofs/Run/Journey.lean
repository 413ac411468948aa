/-
  Journeys: the turns that a run makes one after the other, where a nested run gets to its end
  within some number of turns of its own. A run gets to its end exactly if a journey leads from
  its beginning to a state with nothing left to visit (`toEnd_iff_journey`).
-/
import Playbook.Proofs.Run.Turn

namespace Playbook.Run

variable {σ : Type}

/-- One turn of the loop; a nested run in it gets to its end. -/
def Turned (s next : Run σ) : Prop :=
  ∃ name turns, s.current = some name ∧ s.turn (toEnd turns) name = some next

/-- `Journey r states s`: turn by turn the run gets from `r` to `s`, and `states` are the states in
which the turns began, the last one first. -/
inductive Journey (r : Run σ) : List (Run σ) → Run σ → Prop where
  | start : Journey r [] r
  | turn {states : List (Run σ)} {s next : Run σ} (before : Journey r states s)
      (made : Turned s next) : Journey r (s :: states) next

/-- The turn of `s` waits for the nested run `child`: it is not made unless that run ends. -/
def Awaits (s child : Run σ) : Prop :=
  ∃ name, s.current = some name ∧
    ∀ ending : Ending σ, ending child = none → s.turn ending name = none

/-! ## More turns change no answer -/

theorem walk_succ {n : Nat} {r x : Run σ} (h : walk n r = some x) : walk (n + 1) r = some x := by
  induction n generalizing r x with
  | zero => simp [walk] at h
  | succ n ih =>
    rw [walk] at h ⊢
    cases hc : r.current with
    | none => rw [hc] at h; exact h
    | some name =>
      simp only [hc] at h ⊢
      cases ht : r.turn (fun child => walk n child.begin) name with
      | none => simp [ht] at h
      | some next =>
        -- the nested run has one turn more as well
        have hmore := (r.asksOnce_turn name).mono
          (q := fun child => walk (n + 1) child.begin) (fun _ _ hx => ih hx) ht
        rw [ht] at h
        rw [hmore]
        exact ih h

theorem walk_mono {n m : Nat} (hnm : n ≤ m) {r x : Run σ} (h : walk n r = some x) :
    walk m r = some x := by
  induction hnm with
  | refl => exact h
  | step _ ih => exact walk_succ ih

theorem turn_mono {n m : Nat} (hnm : n ≤ m) {r next : Run σ} {name : String}
    (h : r.turn (toEnd n) name = some next) : r.turn (toEnd m) name = some next :=
  (r.asksOnce_turn name).mono (fun _ _ hx => walk_mono hnm hx) h

theorem Turned.effect {s next : Run σ} (h : Turned s next) :
    ∃ name, s.current = some name ∧ TurnEffect s name next := by
  obtain ⟨name, turns, hc, ht⟩ := h
  exact ⟨name, hc, (s.asksOnce_turn name).spec ht⟩

/-- A turn is made if every nested run that it waits for gets to its end. -/
theorem exists_turned {s : Run σ} {name : String} (hc : s.current = some name)
    (h : ∀ child, Awaits s child → ∃ turns ended, child.toEnd turns = some ended) :
    ∃ next, Turned s next := by
  rcases s.asksOnce_turn name with ⟨next, _, hf⟩ | ⟨child, k, _, hf⟩
  · exact ⟨next, name, 0, hc, hf _⟩
  · have hwait : Awaits s child :=
      ⟨name, hc, fun ending he => (hf ending).trans (by rw [he]; rfl)⟩
    obtain ⟨turns, ended, he⟩ := h child hwait
    exact ⟨k ended, name, turns, hc, (hf _).trans (by rw [he]; rfl)⟩

/-- A turn waits for a nested run only at a call. -/
theorem Awaits.exists_call {s child : Run σ} (h : Awaits s child) :
    ∃ name a, s.workflow.activity? name = some a ∧ a.kind = .call := by
  obtain ⟨name, _, hn⟩ := h
  refine Classical.byContradiction fun hnone => ?_
  have hno : ∀ a, s.workflow.activity? name = some a → a.kind ≠ .call := fun a ha hk =>
    hnone ⟨name, a, ha, hk⟩
  have hsome := s.turn_isSome hno fun _ => none
  rw [hn _ rfl] at hsome
  cases hsome

/-! ## Journeys and walks -/

theorem Journey.prepend {r s last : Run σ} {states : List (Run σ)} (first : Turned r s)
    (rest : Journey s states last) : Journey r (states ++ [r]) last := by
  induction rest with
  | start => exact .turn .start first
  | turn _ made ih => exact .turn ih made

theorem journey_of_walk {n : Nat} {r ended : Run σ} (h : walk n r = some ended) :
    ∃ states last, Journey r states last ∧ last.current = none ∧ ended = last.save none := by
  induction n generalizing r with
  | zero => simp [walk] at h
  | succ n ih =>
    rw [walk] at h
    cases hc : r.current with
    | none =>
      simp only [hc, Option.some.injEq] at h
      exact ⟨[], r, .start, hc, h.symm⟩
    | some name =>
      simp only [hc] at h
      cases ht : r.turn (fun child => walk n child.begin) name with
      | none => simp [ht] at h
      | some next =>
        rw [ht] at h
        obtain ⟨states, last, hj, hlast, he⟩ := ih h
        exact ⟨states ++ [r], last, hj.prepend ⟨name, n, hc, ht⟩, hlast, he⟩

theorem walk_of_turned {s next x : Run σ} (made : Turned s next) {n : Nat}
    (h : walk n next = some x) : ∃ m, walk m s = some x := by
  obtain ⟨name, turns, hc, ht⟩ := made
  refine ⟨max n turns + 1, ?_⟩
  have hturn := turn_mono (Nat.le_max_right n turns) ht
  unfold toEnd at hturn
  rw [walk, hc]
  simp only [hturn]
  exact walk_mono (Nat.le_max_left n turns) h

theorem walk_of_journey {r last x : Run σ} {states : List (Run σ)} (hj : Journey r states last)
    {n : Nat} (h : walk n last = some x) : ∃ m, walk m r = some x := by
  induction hj generalizing n with
  | start => exact ⟨n, h⟩
  | turn _ made ih =>
    obtain ⟨m, hm⟩ := walk_of_turned made h
    exact ih hm

/-- A run gets to its end exactly along a journey to a state with nothing left to visit. -/
theorem toEnd_iff_journey {r ended : Run σ} :
    (∃ turns, r.toEnd turns = some ended) ↔
      ∃ states last, Journey r.begin states last ∧ last.current = none ∧
        ended = last.save none := by
  constructor
  · rintro ⟨turns, h⟩
    exact journey_of_walk h
  · rintro ⟨states, last, hj, hlast, rfl⟩
    exact walk_of_journey hj (n := 1) (by rw [walk, hlast])

end Playbook.Run
