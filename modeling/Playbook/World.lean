/-
  The world of a run: what it can see and change outside of itself. The files, the environment,
  the clock and the notices are the same for every run; the rest is up to the agent, the executor
  and the operator that a run is given.
-/
import Playbook.Disk
import Playbook.Table
import Playbook.Notice
import Playbook.Calendar

namespace Playbook

/-- What a run can see and change outside of itself. -/
structure World (σ : Type) where
  disk : Disk := {}
  /-- The environment of the process. -/
  environment : Table String := .empty
  now : Moment := {}
  /-- The notices so far, the last one first. -/
  told : List Notice := []
  /-- What only the capabilities of a run know. -/
  rest : σ

namespace World

variable {σ : Type}

/-- The notices so far, in order. -/
def notices (w : World σ) : List Notice := w.told.reverse

/-- The world after one more notice. -/
def tell (w : World σ) (n : Notice) : World σ := { w with told := n :: w.told }

/-- The world after several notices. -/
def tellAll (w : World σ) (ns : List Notice) : World σ := { w with told := ns.reverse ++ w.told }

/-- The world with the rest changed. -/
def withRest (w : World σ) (rest : σ) : World σ := { w with rest }

end World

end Playbook
