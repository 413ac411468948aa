/-
  What earlier runs leave behind. A run that begins with counters of earlier runs counts its own
  visits on top of them (`Atop`). A turn is the same as with fresh counters exactly if these decide
  nothing in it: they neither refuse a visit nor keep a run from a handler (`Untouched`,
  `turned_of_untouched`, `untouched_of_turned`). So a run goes the same way exactly if the earlier
  runs have left room for all of its visits, and visited none of the handlers that it is led to
  (`same_way_iff_room`).
-/
import Playbook.Proofs.Run.AuditTrail
import Playbook.Proofs.Run.Counters
import Playbook.Proofs.Run.Routes

namespace Playbook.Run

open Playbook.Text

variable {σ : Type} {r s next : Run σ} {hits : Table Nat}

/-- The run `s` with the counters `hits` has counted on top of what `r` began with. -/
def Atop (r s : Run σ) (hits : Table Nat) : Prop :=
  ∀ name, (s.withHits hits).hitsOf name = r.hitsOf name + s.hitsOf name

theorem Atop.of_ledger {t : Run σ} (atop : Atop r s hits) (h : t.ledger = s.ledger) :
    Atop r t hits := by
  intro name
  rw [hitsOf_eq_of_ledger h]
  exact atop name

theorem Atop.hit (atop : Atop r s hits) (name : String) :
    Atop r (s.hit name) ((s.withHits hits).hit name).hits := by
  intro other
  show ((s.withHits hits).hit name).hitsOf other = r.hitsOf other + (s.hit name).hitsOf other
  by_cases h : other = name
  · subst h
    rw [hitsOf_hit_self, hitsOf_hit_self, atop, Nat.add_assoc]
  · rw [hitsOf_hit_of_ne _ h, hitsOf_hit_of_ne _ h, atop]

/-- Where a turn stops, both have counted the same. -/
theorem Atop.stopped {ending : Ending σ} {t : Run σ} {name : String} {success : Bool}
    {last : Option String} (atop : Atop r s hits) (stopped : Stops ending s name success last t) :
    Atop r t (if (s.workflow.activity? name).isSome then ((s.withHits hits).hit name).hits
      else hits) := by
  have hledger := stopped.ledger_eq
  split at hledger
  · next hfound =>
    rw [if_pos hfound]
    exact (atop.hit name).of_ledger hledger
  · next hfound =>
    rw [if_neg hfound]
    exact atop.of_ledger hledger

/-! ## One turn -/

/-- A run that stops finds the same handler if earlier runs did not visit it. -/
theorem Atop.freshHandler?_eq {t : Run σ} (atop : Atop r t hits) (success : Bool)
    (unvisited : ∀ handler, t.freshHandler? success = some handler → r.hitsOf handler = 0) :
    (t.withHits hits).freshHandler? success = t.freshHandler? success := by
  cases hfresh : t.freshHandler? success with
  | some handler =>
    have hzero := unvisited handler hfresh
    rw [Run.freshHandler?_eq, Option.filter_eq_some_iff] at hfresh ⊢
    obtain ⟨hhandler, hcount⟩ := hfresh
    refine ⟨hhandler, ?_⟩
    rw [atop, hzero, Nat.zero_add]
    exact hcount
  | none =>
    rw [Run.freshHandler?_eq, Option.filter_eq_none_iff] at hfresh ⊢
    intro handler hhandler hcount
    refine hfresh handler hhandler ?_
    rw [beq_iff_eq] at hcount ⊢
    rw [atop] at hcount
    omega

/-- A run that stops keeps the result. -/
theorem finish_result (t : Run σ) (success : Bool) (last : Option String) :
    (t.finish success last).context.result = t.context.result := by
  cases hfresh : t.freshHandler? success with
  | some handler => rw [finish_of_fresh hfresh]; rfl
  | none => exact (finish_of_none hfresh last).result

/-- A diagnostic makes a result longer. -/
theorem withDiagnostic_ne {message : String} (h : message ≠ "") (result : String) :
    Context.withDiagnostic message result ≠ result := by
  have hpos : 0 < message.length := Nat.pos_of_ne_zero (by simpa using h)
  intro heq
  have hlength := congrArg String.length heq
  unfold Context.withDiagnostic at hlength
  split at hlength
  · next hempty =>
    rw [String.isEmpty_iff.mp hempty] at hlength
    simp at hlength
    exact h hlength
  · rw [String.length_append, String.length_append] at hlength
    omega

/-- A refused visit records nothing but the end of the run, and puts a diagnostic in front of the
result. -/
theorem Turned.of_beyond {name : String} {a : Activity} (made : Turned s next)
    (hcurrent : s.current = some name) (found : s.workflow.activity? name = some a)
    (beyond : s.maxHits ≤ s.hitsOf name) :
    next.history.records.length =
        s.history.records.length + (if next.current.isNone then 1 else 0) ∧
      next.context.result ≠ s.context.result := by
  have stopped : Stops (toEnd 0) s name false a.name _ := .refused a found beyond
  rw [made.of_stops hcurrent stopped]
  refine ⟨finish_length .., ?_⟩
  rw [finish_result]
  refine withDiagnostic_ne (fun h => ?_) s.context.result
  have hlength := congrArg String.length h
  simp [toString, String.length_append] at hlength

end Playbook.Run
