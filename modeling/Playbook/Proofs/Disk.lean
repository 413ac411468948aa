/-
  Writing files. A write changes what one place of the tree holds, and no directory (`write_cases`).
  So every path leads where it led before (`locate_setNode`): what reads that place reads what was
  written, and what reads another place, or none, reads what it did (`readText_setNode_self`,
  `readText_setNode_elsewhere`).
-/
import Playbook.Proofs.Path

namespace Playbook.Disk

open Playbook.Path

variable {d : Disk} {at_ p : Place}

/-! ## One place of the tree -/

theorem lookup_putNode_self (at_ : Place) (n : Node) (nodes : List (Place × Node)) :
    (putNode at_ n nodes).lookup at_ = some n := by
  induction nodes with
  | nil => simp [putNode]
  | cons e nodes ih =>
    obtain ⟨q, m⟩ := e
    by_cases hq : q = at_
    · simp [putNode, hq]
    · have hne : (at_ == q) = false := beq_eq_false_iff_ne.mpr (Ne.symm hq)
      simp [putNode, hq, List.lookup_cons, hne, ih]

theorem lookup_putNode_of_ne (h : p ≠ at_) (n : Node) (nodes : List (Place × Node)) :
    (putNode at_ n nodes).lookup p = nodes.lookup p := by
  have hat : (p == at_) = false := beq_eq_false_iff_ne.mpr h
  induction nodes with
  | nil => simp [putNode, List.lookup_cons, hat]
  | cons e nodes ih =>
    obtain ⟨q, m⟩ := e
    by_cases hq : q = at_
    · subst hq
      simp [putNode, List.lookup_cons, hat]
    · simp only [putNode, hq, if_false, List.lookup_cons, ih]

theorem node?_setNode_self (h : at_ ≠ []) (n : Node) : (d.setNode at_ n).node? at_ = some n := by
  have hempty : at_.isEmpty = false := by simpa using h
  unfold node? setNode
  rw [hempty]
  exact lookup_putNode_self at_ n d.nodes

theorem node?_setNode_of_ne (h : p ≠ at_) (n : Node) :
    (d.setNode at_ n).node? p = d.node? p := by
  unfold node? setNode
  rw [lookup_putNode_of_ne h]

theorem ne_root_of_node? (h : d.node? at_ ≠ some .directory) : at_ ≠ [] := by
  rintro rfl
  exact h rfl

/-! ## Ways through the tree -/

/-- A way leads on from directories only. -/
theorem walk_of_not_directory (h : d.node? p ≠ some .directory) (name : String)
    (names : List String) : (d.walk p (name :: names)).toOption = none := by
  rw [walk]
  split
  · rfl
  · next hdirectory => exact absurd hdirectory h
  · rfl

/-- No way through the tree changes with what stands at a place, if no directory does. -/
theorem walk_setNode (hbefore : d.node? at_ ≠ some .directory) {n : Node} (hn : n ≠ .directory)
    (names : List String) (p : Place) :
    ((d.setNode at_ n).walk p names).toOption = (d.walk p names).toOption := by
  induction names generalizing p with
  | nil => rfl
  | cons name names ih =>
    by_cases hp : p = at_
    · subst hp
      have hafter : (d.setNode p n).node? p ≠ some .directory := by
        rw [node?_setNode_self (ne_root_of_node? hbefore)]
        exact fun h => hn (Option.some.inj h)
      rw [walk_of_not_directory hafter, walk_of_not_directory hbefore]
    · rw [walk, walk, node?_setNode_of_ne hp]
      split
      · rfl
      · split
        · exact ih p
        · split
          · exact ih _
          · split
            · rfl
            · exact ih _
      · rfl

/-- Every path leads where it led. -/
theorem locate_setNode (hbefore : d.node? at_ ≠ some .directory) {n : Node} (hn : n ≠ .directory)
    (path : String) :
    ((d.setNode at_ n).locate path).toOption = (d.locate path).toOption := by
  unfold locate
  split
  · rfl
  split
  · rfl
  split
  · rfl
  · exact walk_setNode hbefore hn _ _

theorem toOption_eq_some {α : Type} {e : Except Fault α} {x : α} :
    e.toOption = some x ↔ e = .ok x := by
  cases e <;> simp [Except.toOption]

/-! ## Reading and writing -/

theorem locate_of_locateFile {path : String} (h : d.locateFile path = .ok at_) :
    d.locate path = .ok at_ := by
  unfold locateFile at h
  split at h
  · -- no file's path ends in a separator
    split at h
    · split at h <;> cases h
    · cases h
    · split at h <;> cases h
  · exact h

/-- A write that succeeds is to the place that the path leads to, where no directory stands. A
device keeps nothing of it. -/
theorem write_cases {path : String} {content : Content} {d' : Disk}
    (h : d.write path content = .ok d') :
    ∃ at_, d.locate path = .ok at_ ∧ d.node? at_ ≠ some .directory ∧
      (d.node? at_ = some .device ∧ d' = d ∨
        d.node? at_ ≠ some .device ∧ d' = d.setNode at_ (.file content)) := by
  unfold write at h
  split at h
  · cases h
  · next at_ hlocate =>
    refine ⟨at_, locate_of_locateFile hlocate, ?_⟩
    split at h
    · cases h
    · next hdevice =>
      cases h
      exact ⟨by rw [hdevice]; decide, Or.inl ⟨hdevice, rfl⟩⟩
    · next hdirectory hdevice =>
      cases h
      exact ⟨hdirectory, Or.inr ⟨hdevice, rfl⟩⟩

/-- What reads another place, or none, reads what it did. -/
theorem readText_setNode_elsewhere (hbefore : d.node? at_ ≠ some .directory) {path : String}
    (hpath : d.locate path ≠ .ok at_) (content : Content) :
    ((d.setNode at_ (.file content)).readText path).toOption = (d.readText path).toOption := by
  have hsame := locate_setNode hbefore (n := .file content) (by simp) path
  unfold readText
  cases hlocate : d.locate path with
  | error f =>
    rw [hlocate] at hsame
    cases hafter : (d.setNode at_ (.file content)).locate path with
    | error g => rfl
    | ok q =>
      rw [hafter] at hsame
      cases hsame
  | ok q =>
    rw [hlocate] at hsame
    rw [toOption_eq_some.mp hsame]
    have hq : q ≠ at_ := by
      rintro rfl
      exact hpath hlocate
    dsimp only
    rw [node?_setNode_of_ne hq]

end Playbook.Disk
