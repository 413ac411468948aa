/-
  How comparisons hang together. Numbers stand in one order from which only what is not a number
  stays out (`Binary64.compare?_eq_lt_iff`); two texts are ordered by the numbers that they spell,
  or else by their characters (`order?_eq_lt_iff`). So each comparison tells what its opposite says,
  as long as the two texts are ordered at all (`coherent`).
-/
import Playbook.Comparison

namespace Playbook.Number.Binary64

/-! ## Numbers -/

/-- The order of numbers. What is not a number stands in no place of it. -/
inductive Before : Binary64 → Binary64 → Prop
  | least (n : Int) : Before negInfinity (finite n)
  | ends : Before negInfinity infinity
  | between {m n : Int} (h : m < n) : Before (finite m) (finite n)
  | greatest (m : Int) : Before (finite m) infinity

variable (a b : Binary64)

/-- Seen from the other side the order is turned around. -/
theorem compare?_swap : compare? b a = (compare? a b).map Ordering.swap := by
  cases a <;> cases b <;> try rfl
  exact congrArg some Std.OrientedOrd.eq_swap

theorem compare?_eq_none_iff : compare? a b = none ↔ a = nan ∨ b = nan := by
  cases a <;> cases b <;> simp [compare?]

theorem compare?_eq_lt_iff : compare? a b = some .lt ↔ a.Before b := by
  constructor
  · intro h
    match a, b, h with
    | negInfinity, finite n, _ => exact .least n
    | negInfinity, infinity, _ => exact .ends
    | finite m, finite n, h => exact .between (Int.compare_eq_lt.mp (Option.some.inj h))
    | finite m, infinity, _ => exact .greatest m
  · intro h
    cases h with
    | between h => exact congrArg some (Int.compare_eq_lt.mpr h)
    | _ => rfl

theorem compare?_eq_eq_iff : compare? a b = some .eq ↔ a = b ∧ a ≠ nan := by
  cases a <;> cases b <;> simp [compare?]

end Playbook.Number.Binary64

namespace Playbook.Comparison

open Playbook.Text Playbook.Number

/-! ## Texts -/

/-- Both texts spell a number between blanks, and one of the two is what is not a number. -/
def Unordered (left right : String) : Prop :=
  ∃ m n, Binary64.ofText? (trim left.toList) = some m ∧
    Binary64.ofText? (trim right.toList) = some n ∧ (m = .nan ∨ n = .nan)

/-- A text comes before another: by the numbers that they spell between blanks if both spell one,
else by its characters. -/
def Precedes (left right : String) : Prop :=
  match Binary64.ofText? (trim left.toList), Binary64.ofText? (trim right.toList) with
  | some m, some n => m.Before n
  | _, _ => left < right

/-- Two texts stand in the same place. -/
def Level (left right : String) : Prop :=
  match Binary64.ofText? (trim left.toList), Binary64.ofText? (trim right.toList) with
  | some m, some n => m = n ∧ m ≠ .nan
  | _, _ => left = right

theorem compare_eq_lt_iff (left right : String) : compare left right = .lt ↔ left < right := by
  change compareOfLessAndEq left right = .lt ↔ _
  unfold compareOfLessAndEq
  split
  · next h => simp [h]
  · next h => split <;> simp [h]

section

variable (left right : String)

/-- Seen from the other side the order is turned around. -/
theorem order?_swap : order? right left = (order? left right).map Ordering.swap := by
  unfold order?
  cases Binary64.ofText? (trim left.toList) <;> cases Binary64.ofText? (trim right.toList)
  case some.some m n => exact Binary64.compare?_swap m n
  all_goals exact congrArg some Std.OrientedOrd.eq_swap

theorem order?_eq_none_iff : order? left right = none ↔ Unordered left right := by
  unfold order? Unordered
  cases Binary64.ofText? (trim left.toList) <;> cases Binary64.ofText? (trim right.toList)
  case some.some m n => simp [Binary64.compare?_eq_none_iff]
  all_goals simp

theorem order?_eq_lt_iff : order? left right = some .lt ↔ Precedes left right := by
  unfold order? Precedes
  cases Binary64.ofText? (trim left.toList) <;> cases Binary64.ofText? (trim right.toList)
  case some.some m n => exact Binary64.compare?_eq_lt_iff m n
  all_goals
    rw [Option.some.injEq]
    exact compare_eq_lt_iff left right

theorem order?_eq_eq_iff : order? left right = some .eq ↔ Level left right := by
  unfold order? Level
  cases Binary64.ofText? (trim left.toList) <;> cases Binary64.ofText? (trim right.toList)
  case some.some m n => exact Binary64.compare?_eq_eq_iff m n
  all_goals
    rw [Option.some.injEq]
    exact Std.compare_eq_iff_eq

theorem holds_less_iff : less.holds left right = .ok true ↔ order? left right = some .lt := by
  simp [holds]

theorem holds_lessEqual_iff : lessEqual.holds left right = .ok true ↔
    order? left right = some .lt ∨ order? left right = some .eq := by
  simp [holds]

end

/-! ## Comparisons -/

/-- What the comparisons of two texts tell of each other. -/
structure Coherent (left right : String) : Prop where
  complement : ∃ b, equals.holds left right = .ok b ∧ differs.holds left right = .ok (!b)
  mirrored : ∃ b, less.holds left right = .ok b ∧ greater.holds right left = .ok b
  mirroredEqual : ∃ b, lessEqual.holds left right = .ok b ∧
    greaterEqual.holds right left = .ok b
  strict : less.holds left right = .ok true ↔ Precedes left right
  weak : lessEqual.holds left right = .ok true ↔ Precedes left right ∨ Level left right
  weaker : less.holds left right = .ok true → lessEqual.holds left right = .ok true
  ordered : ¬ Unordered left right →
    (∃ b, less.holds left right = .ok b ∧ greaterEqual.holds left right = .ok (!b)) ∧
    ∃ b, greater.holds left right = .ok b ∧ lessEqual.holds left right = .ok (!b)
  unordered : Unordered left right →
    ∀ c ∈ [less, lessEqual, greater, greaterEqual], c.holds left right = .ok false

/-- The comparisons of any two texts are coherent: the one tells what its opposite says, unless the
texts spell numbers of which one is not a number. -/
theorem coherent (left right : String) : Coherent left right where
  complement := ⟨_, rfl, rfl⟩
  mirrored := by
    refine ⟨_, rfl, ?_⟩
    rw [holds, order?_swap left right]
    rcases order? left right with _ | o
    · rfl
    · cases o <;> rfl
  mirroredEqual := by
    refine ⟨_, rfl, ?_⟩
    rw [holds, order?_swap left right]
    rcases order? left right with _ | o
    · rfl
    · cases o <;> rfl
  strict := (holds_less_iff left right).trans (order?_eq_lt_iff left right)
  weak := (holds_lessEqual_iff left right).trans
    (or_congr (order?_eq_lt_iff left right) (order?_eq_eq_iff left right))
  weaker := fun h => (holds_lessEqual_iff left right).mpr (.inl ((holds_less_iff left right).mp h))
  ordered := by
    intro h
    rw [← order?_eq_none_iff] at h
    obtain ⟨o, ho⟩ := Option.ne_none_iff_exists'.mp h
    refine ⟨⟨_, rfl, ?_⟩, _, rfl, ?_⟩
    · cases o <;> simp [holds, ho]
    · cases o <;> simp [holds, ho]
  unordered := by
    intro h
    rw [← order?_eq_none_iff] at h
    simp [holds, h]

end Playbook.Comparison
