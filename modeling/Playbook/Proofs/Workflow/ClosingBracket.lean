/-
  Where a bracket is closed. The depth behind a part of the text is the number of brackets of the
  kind that it opens, less the number that it closes, and the bracket in front is closed at the
  first position behind which the depth is back to zero (`matchingClose?_eq_some_iff`).
-/
import Playbook.Proofs.Workflow.Brackets

namespace Playbook.Flowchart

/-! ## Depth -/

/-- How many brackets of one kind a text opens and does not close, those between quotes apart. -/
def balance (op cl : Char) (quoted : Bool) (cs : List Char) : Int :=
  (outside quoted cs).count op - (outside quoted cs).count cl

/-- The first position behind which `depth` open brackets are closed. -/
structure ClosesFrom (op cl : Char) (depth : Int) (quoted : Bool) (cs : List Char) (i : Nat) :
    Prop where
  lt : i < cs.length
  closed : depth + balance op cl quoted (cs.take (i + 1)) = 0
  least : ∀ j < i, depth + balance op cl quoted (cs.take (j + 1)) ≠ 0

/-- The text begins with a bracket, and the position is the least behind which none of its kind is
open. -/
def ClosesAt (cs : List Char) (i : Nat) : Prop :=
  ∃ op cl, cs.head? = some op ∧ closer? op = some cl ∧ ClosesFrom op cl 0 false cs i

section

variable {op cl : Char} {depth : Int} {quoted : Bool} {c : Char} {cs : List Char} {i : Nat}

theorem balance_cons : balance op cl quoted (c :: cs) =
    balance op cl quoted [c] + balance op cl (quotedAfter quoted [c]) cs := by
  rw [← List.singleton_append, balance, outside_append, List.count_append, List.count_append]
  unfold balance
  omega

/-- A quote is no bracket, and what stands between quotes is none. -/
theorem balance_hidden (h : c = '"' ∨ quoted = true) : balance op cl quoted [c] = 0 := by
  have houtside : outside quoted [c] = [] := by
    rcases h with rfl | rfl
    · rfl
    · simp [outside]
  rw [balance, houtside]
  rfl

theorem balance_shown (h : c ≠ '"') :
    balance op cl false [c] = ([c].count op : Int) - [c].count cl := by
  simp [balance, outside, h]

/-- One character closes one bracket at most. -/
theorem neg_one_le_balance : -1 ≤ balance op cl quoted [c] := by
  have hlength : (outside quoted [c]).length ≤ 1 := by
    simp only [outside]
    split
    · simp
    · split <;> simp
  have hcount := List.count_le_length (a := cl) (l := outside quoted [c])
  unfold balance
  omega

theorem closesFrom_zero_iff :
    ClosesFrom op cl depth quoted (c :: cs) 0 ↔ depth + balance op cl quoted [c] = 0 := by
  constructor
  · intro h
    exact h.closed
  · intro h
    exact ⟨Nat.zero_lt_succ _, h, fun j hj => absurd hj (Nat.not_lt_zero j)⟩

theorem closesFrom_succ_iff : ClosesFrom op cl depth quoted (c :: cs) (i + 1) ↔
    depth + balance op cl quoted [c] ≠ 0 ∧
      ClosesFrom op cl (depth + balance op cl quoted [c]) (quotedAfter quoted [c]) cs i := by
  have hbehind : ∀ j, depth + balance op cl quoted ((c :: cs).take (j + 1)) =
      depth + balance op cl quoted [c] +
        balance op cl (quotedAfter quoted [c]) (cs.take j) := by
    intro j
    rw [List.take_succ_cons, balance_cons, Int.add_assoc]
  constructor
  · intro h
    have hfirst := h.least 0 (Nat.zero_lt_succ i)
    refine ⟨hfirst, Nat.lt_of_succ_lt_succ h.lt, ?_, fun j hj => ?_⟩
    · rw [← hbehind]
      exact h.closed
    · rw [← hbehind]
      exact h.least (j + 1) (Nat.succ_lt_succ hj)
  · rintro ⟨hfirst, hrest⟩
    refine ⟨Nat.succ_lt_succ hrest.lt, ?_, fun j hj => ?_⟩
    · rw [hbehind]
      exact hrest.closed
    · cases j with
      | zero => exact hfirst
      | succ j =>
        rw [hbehind]
        exact hrest.least j (Nat.lt_of_succ_lt_succ hj)

end

/-! ## The scan -/

theorem closeFrom_index (op cl : Char) (depth : Nat) (quoted : Bool) (index : Nat)
    (cs : List Char) : closeFrom op cl depth quoted index cs =
      (closeFrom op cl depth quoted 0 cs).map (index + ·) := by
  induction cs generalizing depth quoted index with
  | nil => rfl
  | cons c cs ih =>
    have hnext : ∀ depth quoted, closeFrom op cl depth quoted (index + 1) cs =
        (closeFrom op cl depth quoted (0 + 1) cs).map (index + ·) := by
      intro depth quoted
      rw [ih depth quoted (index + 1), ih depth quoted (0 + 1), Option.map_map]
      congr 1
      funext j
      simp only [Function.comp_apply]
      omega
    rw [closeFrom, closeFrom]
    split
    · exact hnext _ _
    · split
      · exact hnext _ _
      · split
        · split
          · rfl
          · exact hnext _ _
        · exact hnext _ _

/-- The scan behind one character: it is over if no bracket is open any more. -/
theorem closeFrom_cons {op cl : Char} (h : closer? op = some cl) {depth : Nat} (hd : 1 ≤ depth)
    (quoted : Bool) (c : Char) (cs : List Char) : closeFrom op cl depth quoted 0 (c :: cs) =
      if depth + balance op cl quoted [c] = 0 then some 0
      else (closeFrom op cl (depth + balance op cl quoted [c]).toNat (quotedAfter quoted [c]) 0
        cs).map (1 + ·) := by
  obtain ⟨hop, hcl, hne, _, _⟩ := closer?_ne_quote h
  have hopen : ∀ more : Int, 0 ≤ more → ¬ (depth : Int) + more = 0 := by
    intro more hmore
    omega
  rw [closeFrom, ← closeFrom_index]
  by_cases hquote : c = '"'
  · subst hquote
    rw [balance_hidden (.inl rfl), if_neg (hopen 0 (by decide))]
    rfl
  · have hc : (c == '"') = false := by simpa using hquote
    have hflag : quotedAfter quoted [c] = quoted := by simp [quotedAfter, hquote]
    rw [hflag, hc]
    cases quoted with
    | true =>
      rw [balance_hidden (.inr rfl), if_neg (hopen 0 (by decide))]
      rfl
    | false =>
      rw [balance_shown hquote]
      by_cases hopens : c = op
      · subst hopens
        have hone : ([c].count c : Int) - [c].count cl = 1 := by simp [Ne.symm hne]
        rw [hone, if_neg (hopen 1 (by decide))]
        simp
      · by_cases hcloses : c = cl
        · subst hcloses
          have hone : ([c].count op : Int) - [c].count c = -1 := by simp [hne]
          have hleft : ((depth : Int) + -1).toNat = depth - 1 := by omega
          rw [hone, hleft]
          by_cases hlast : depth ≤ 1
          · have hclosed : (depth : Int) + -1 = 0 := by omega
            simp [hne, hlast, hclosed]
          · have hmore : ¬ (depth : Int) + -1 = 0 := by omega
            simp [hne, hlast, hmore]
        · have hzero : ([c].count op : Int) - [c].count cl = 0 := by simp [hopens, hcloses]
          rw [hzero, if_neg (hopen 0 (by decide))]
          simp [hopens, hcloses]

/-- The scan finds the first position behind which nothing is open. -/
theorem closeFrom_eq_some_iff {op cl : Char} (h : closer? op = some cl) {depth : Nat}
    (hd : 1 ≤ depth) {quoted : Bool} {cs : List Char} {i : Nat} :
    closeFrom op cl depth quoted 0 cs = some i ↔ ClosesFrom op cl depth quoted cs i := by
  induction cs generalizing depth quoted i with
  | nil =>
    have hnone : ¬ (none : Option Nat) = some i := by simp
    rw [closeFrom]
    exact iff_of_false hnone fun hcloses => Nat.not_lt_zero i hcloses.lt
  | cons c cs ih =>
    rw [closeFrom_cons h hd]
    by_cases hclosed : (depth : Int) + balance op cl quoted [c] = 0
    · rw [if_pos hclosed, Option.some.injEq]
      cases i with
      | zero => exact iff_of_true rfl (closesFrom_zero_iff.mpr hclosed)
      | succ i =>
        exact iff_of_false (by omega) fun hcloses => (closesFrom_succ_iff.mp hcloses).1 hclosed
    · have hleast : -1 ≤ balance op cl quoted [c] := neg_one_le_balance
      have hdepth : (((depth : Int) + balance op cl quoted [c]).toNat : Int) =
          depth + balance op cl quoted [c] := Int.toNat_of_nonneg (by omega)
      rw [if_neg hclosed, Option.map_eq_some_iff]
      cases i with
      | zero =>
        refine iff_of_false ?_ fun hcloses => hclosed (closesFrom_zero_iff.mp hcloses)
        rintro ⟨j, _, hj⟩
        omega
      | succ i =>
        rw [closesFrom_succ_iff, ← hdepth, ← ih (by omega)]
        constructor
        · rintro ⟨j, hclose, hj⟩
          obtain rfl : j = i := by omega
          exact ⟨by omega, hclose⟩
        · rintro ⟨_, hclose⟩
          exact ⟨i, hclose, by omega⟩

/-- The bracket in front is open behind itself. -/
theorem closesAt_cons_iff {op cl : Char} (h : closer? op = some cl) {rest : List Char} {i : Nat} :
    ClosesAt (op :: rest) i ↔ ∃ j, i = 1 + j ∧ ClosesFrom op cl 1 false rest j := by
  obtain ⟨hop, _, hne, _, _⟩ := closer?_ne_quote h
  have hone : balance op cl false [op] = 1 := by simp [balance, outside, hop, Ne.symm hne]
  have hflag : quotedAfter false [op] = false := by simp [quotedAfter, hop]
  have hkind : ClosesAt (op :: rest) i ↔ ClosesFrom op cl 0 false (op :: rest) i := by
    constructor
    · rintro ⟨op', cl', hhead, hcloser, hcloses⟩
      obtain rfl := Option.some.inj hhead
      obtain rfl : cl = cl' := by simpa [h] using hcloser
      exact hcloses
    · intro hcloses
      exact ⟨op, cl, rfl, h, hcloses⟩
  rw [hkind]
  cases i with
  | zero =>
    rw [closesFrom_zero_iff, hone]
    refine iff_of_false (by omega) ?_
    rintro ⟨j, hj, _⟩
    omega
  | succ i =>
    rw [closesFrom_succ_iff, hone, hflag, Int.zero_add]
    constructor
    · rintro ⟨_, hcloses⟩
      exact ⟨i, by omega, hcloses⟩
    · rintro ⟨j, hj, hcloses⟩
      obtain rfl : j = i := by omega
      exact ⟨by omega, hcloses⟩

theorem matchingClose?_cons {op cl : Char} (h : closer? op = some cl) (rest : List Char) :
    matchingClose? (op :: rest) = (closeFrom op cl 1 false 0 rest).map (1 + ·) := by
  obtain ⟨hop, _, _, _, _⟩ := closer?_ne_quote h
  rw [matchingClose?, h, ← closeFrom_index]
  simp [closeFrom, hop]

/-- The bracket in front is closed at the least position behind which the depth is back to zero. -/
theorem matchingClose?_eq_some_iff {cs : List Char} {i : Nat} :
    matchingClose? cs = some i ↔ ClosesAt cs i := by
  cases cs with
  | nil =>
    refine iff_of_false (by simp [matchingClose?]) ?_
    rintro ⟨op, cl, hhead, _⟩
    cases hhead
  | cons op rest =>
    cases hcl : closer? op with
    | none =>
      refine iff_of_false (by simp [matchingClose?, hcl]) ?_
      rintro ⟨op', cl, hhead, hcloser, _⟩
      obtain rfl := Option.some.inj hhead
      rw [hcl] at hcloser
      cases hcloser
    | some cl =>
      have hscan : ∀ j, closeFrom op cl 1 false 0 rest = some j ↔
          ClosesFrom op cl 1 false rest j := fun j => closeFrom_eq_some_iff hcl (Nat.le_refl 1)
      rw [matchingClose?_cons hcl, closesAt_cons_iff hcl, Option.map_eq_some_iff]
      constructor
      · rintro ⟨j, hclose, rfl⟩
        exact ⟨j, rfl, (hscan j).mp hclose⟩
      · rintro ⟨j, rfl, hcloses⟩
        exact ⟨j, (hscan j).mpr hcloses, rfl⟩

end Playbook.Flowchart
