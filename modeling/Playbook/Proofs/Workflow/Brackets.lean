/-
  Closing brackets. Brackets between quotes do not count, so what decides where a bracket is closed
  is the text outside of the quotes; a text is bracketed exactly if its quotes are paired and the
  bracket in front is the last one open at the end (`isBracketed_iff`).
-/
import Playbook.Proofs.Text.Lines
import Playbook.Workflow.Flowchart

namespace Playbook.Flowchart

open Playbook.Text

/-! ## Quotes -/

/-- Whether the end of a text stands between quotes. -/
def quotedAfter (quoted : Bool) (cs : List Char) : Bool :=
  cs.foldl (fun quoted c => if c == '"' then !quoted else quoted) quoted

/-- What stands outside of the quotes. -/
def outside : Bool → List Char → List Char
  | _, [] => []
  | quoted, c :: cs =>
    if c == '"' then outside (!quoted) cs
    else if quoted then outside quoted cs
    else c :: outside quoted cs

theorem quotedAfter_append (quoted : Bool) (cs ds : List Char) :
    quotedAfter quoted (cs ++ ds) = quotedAfter (quotedAfter quoted cs) ds := List.foldl_append

theorem outside_append (quoted : Bool) (cs ds : List Char) :
    outside quoted (cs ++ ds) = outside quoted cs ++ outside (quotedAfter quoted cs) ds := by
  induction cs generalizing quoted with
  | nil => rfl
  | cons c cs ih =>
    rw [List.cons_append, outside, outside, quotedAfter, List.foldl_cons, ← quotedAfter]
    by_cases hc : c = '"'
    · simp [hc, ih]
    · cases quoted <;> simp [hc, ih]

/-- Quotes come in pairs. -/
theorem quotedAfter_eq (quoted : Bool) (cs : List Char) :
    quotedAfter quoted cs = (quoted ^^ decide (cs.count '"' % 2 = 1)) := by
  induction cs generalizing quoted with
  | nil => simp [quotedAfter]
  | cons c cs ih =>
    rw [quotedAfter, List.foldl_cons, ← quotedAfter, ih, List.count_cons]
    by_cases hc : c = '"'
    · rcases Nat.mod_two_eq_zero_or_one (cs.count '"') with hp | hp <;>
        simp [hc, hp, Nat.add_mod]
    · simp [hc]

theorem quotedAfter_of_no_quote {cs : List Char} (h : '"' ∉ cs) (quoted : Bool) :
    quotedAfter quoted cs = quoted := by
  rw [quotedAfter_eq, List.count_eq_zero_of_not_mem h]
  simp

theorem outside_of_no_quote {cs : List Char} (h : '"' ∉ cs) : outside true cs = [] := by
  induction cs with
  | nil => rfl
  | cons c cs ih =>
    rw [List.mem_cons, not_or] at h
    simp [outside, Ne.symm h.1, ih h.2]

/-! ## Open brackets -/

/-- The number of brackets that are open behind a text with `depth` of them open before it; none
if the last one is closed. -/
def openAfter (op cl : Char) : Nat → List Char → Option Nat
  | depth, [] => some depth
  | depth, c :: cs =>
    if c == op then openAfter op cl (depth + 1) cs
    else if c == cl then if depth ≤ 1 then none else openAfter op cl (depth - 1) cs
    else openAfter op cl depth cs

section

variable {op cl : Char} {depth : Nat}

theorem openAfter_append (cs ds : List Char) : openAfter op cl depth (cs ++ ds) =
    (openAfter op cl depth cs).bind fun depth => openAfter op cl depth ds := by
  induction cs generalizing depth with
  | nil => rfl
  | cons c cs ih =>
    rw [List.cons_append, openAfter, openAfter]
    split
    · exact ih
    · split
      · split
        · rfl
        · exact ih
      · exact ih

/-- One more bracket around the text stays open. -/
theorem openAfter_succ {cs : List Char} {n : Nat} (h : openAfter op cl depth cs = some n) :
    openAfter op cl (depth + 1) cs = some (n + 1) := by
  induction cs generalizing depth with
  | nil =>
    rw [openAfter, Option.some.injEq] at h
    rw [openAfter, h]
  | cons c cs ih =>
    rw [openAfter] at h ⊢
    split
    · next hop =>
      rw [if_pos hop] at h
      exact ih h
    · next hop =>
      rw [if_neg hop] at h
      split
      · next hcl =>
        rw [if_pos hcl] at h
        by_cases hd : depth ≤ 1
        · rw [if_pos hd] at h
          cases h
        · rw [if_neg hd] at h
          have hsucc : depth + 1 - 1 = depth - 1 + 1 := by omega
          rw [if_neg (by omega), hsucc]
          exact ih h
      · next hcl =>
        rw [if_neg hcl] at h
        exact ih h

theorem openAfter_pos {cs : List Char} {n : Nat} (hd : 1 ≤ depth)
    (h : openAfter op cl depth cs = some n) : 1 ≤ n := by
  induction cs generalizing depth with
  | nil =>
    rw [openAfter, Option.some.injEq] at h
    omega
  | cons c cs ih =>
    rw [openAfter] at h
    split at h
    · exact ih (Nat.le_add_left _ _) h
    · split at h
      · split at h
        · cases h
        · exact ih (by omega) h
      · exact ih hd h

/-- A text is passed over, unless a bracket of it closes the last one that is open. -/
theorem closeFrom_append (quoted : Bool) (i : Nat) (cs rest : List Char) :
    match openAfter op cl depth (outside quoted cs) with
    | some n => closeFrom op cl depth quoted i (cs ++ rest) =
        closeFrom op cl n (quotedAfter quoted cs) (i + cs.length) rest
    | none => ∃ j, j < i + cs.length ∧ closeFrom op cl depth quoted i (cs ++ rest) = some j := by
  induction cs generalizing depth quoted i with
  | nil => rfl
  | cons c cs ih =>
    have hlen : i + (c :: cs).length = i + 1 + cs.length := by
      rw [List.length_cons]
      omega
    rw [hlen, List.cons_append, closeFrom, quotedAfter, List.foldl_cons, ← quotedAfter, outside]
    by_cases hc : c = '"'
    · simp only [hc, beq_self_eq_true, if_true]
      exact ih (!quoted) (i + 1)
    · have hquote : (c == '"') = false := by simpa using hc
      cases quoted with
      | true =>
        simp only [hquote, Bool.not_true, Bool.false_and, Bool.false_eq_true, if_false, if_true]
        exact ih true (i + 1)
      | false =>
        simp only [hquote, Bool.not_false, Bool.true_and, Bool.false_eq_true, if_false, openAfter]
        cases hopens : c == op with
        | true =>
          simp only [if_true]
          exact ih false (i + 1)
        | false =>
          cases hcloses : c == cl with
          | true =>
            by_cases hd : depth ≤ 1
            · simp only [Bool.false_eq_true, if_false, if_true, hd]
              exact ⟨i, by omega, rfl⟩
            · simp only [Bool.false_eq_true, if_false, if_true, hd]
              exact ih false (i + 1)
          | false =>
            simp only [Bool.false_eq_true, if_false]
            exact ih false (i + 1)

end

theorem closer?_square : closer? '[' = some ']' := rfl

theorem closer?_round : closer? '(' = some ')' := rfl

theorem closer?_curly : closer? '\x7b' = some '\x7d' := rfl

theorem closer?_ne_quote {op cl : Char} (h : closer? op = some cl) :
    op ≠ '"' ∧ cl ≠ '"' ∧ cl ≠ op ∧ isBlank op = false ∧ isBlank cl = false := by
  unfold closer? at h
  split at h <;> first | (cases h; decide) | cases h

/-- A bracket at the beginning is closed by the last character exactly if the quotes between them
are paired and it is the last one open. -/
theorem isBracketed_iff {op cl : Char} (h : closer? op = some cl) (mid : List Char) :
    isBracketed (op :: mid ++ [cl]) ↔
      quotedAfter false mid = false ∧ openAfter op cl 1 (outside false mid) = some 1 := by
  obtain ⟨hop, hcl, hne, _, _⟩ := closer?_ne_quote h
  have hmatch : matchingClose? (op :: mid ++ [cl]) = closeFrom op cl 1 false 1 (mid ++ [cl]) := by
    rw [List.cons_append, matchingClose?, h]
    simp [closeFrom, hop]
  have hpass := @closeFrom_append op cl 1 false 1 mid [cl]
  have hlen : (op :: mid ++ [cl]).length = mid.length + 2 := by simp
  unfold isBracketed
  rw [hmatch]
  cases hopen : openAfter op cl 1 (outside false mid) with
  | none =>
    rw [hopen] at hpass
    obtain ⟨j, hj, hclose⟩ := hpass
    rw [hclose]
    simp only [hlen, Bool.and_eq_true, beq_iff_eq, decide_eq_true_eq]
    exact iff_of_false (fun hc => by omega) nofun
  | some n =>
    rw [hopen] at hpass
    have hpos := openAfter_pos (Nat.le_refl 1) hopen
    change closeFrom op cl 1 false 1 (mid ++ [cl]) = _ at hpass
    rw [hpass]
    cases hquoted : quotedAfter false mid with
    | true => simp [closeFrom, hcl]
    | false =>
      by_cases hn : n ≤ 1
      · have hone : n = 1 := by omega
        subst hone
        simp [closeFrom, hcl, hne]
        omega
      · have hmore : n ≠ 1 := by omega
        simp [closeFrom, hcl, hne, hn, hmore]

end Playbook.Flowchart
