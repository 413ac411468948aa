/-
  The words of a text. A blank parts the words before it from those behind it
  (`words_append_cons`), so blanks at either end of a text add none and hide none.
-/
import Playbook.Proofs.Text.Trimming

namespace Playbook.Text

theorem wordsFrom_append_cons {b : Char} (hb : isBlank b) (part cs ds : List Char) :
    wordsFrom part (cs ++ b :: ds) = wordsFrom part cs ++ words ds := by
  induction cs generalizing part with
  | nil =>
    rw [List.nil_append, wordsFrom, wordsFrom, if_pos hb]
    by_cases hpart : part.isEmpty
    · rw [if_pos hpart, if_pos hpart, List.nil_append, words]
    · rw [if_neg hpart, if_neg hpart, List.singleton_append, words]
  | cons c cs ih =>
    rw [List.cons_append, wordsFrom, wordsFrom]
    by_cases hc : isBlank c
    · rw [if_pos hc, if_pos hc]
      by_cases hpart : part.isEmpty
      · rw [if_pos hpart, if_pos hpart, ih]
      · rw [if_neg hpart, if_neg hpart, ih, List.cons_append]
    · rw [if_neg hc, if_neg hc, ih]

/-- No word reaches over a blank. -/
theorem words_append_cons {b : Char} (hb : isBlank b) (cs ds : List Char) :
    words (cs ++ b :: ds) = words cs ++ words ds :=
  wordsFrom_append_cons hb [] cs ds

theorem wordsFrom_of_solid {cs : List Char} (h : ∀ c ∈ cs, isBlank c = false) (part : List Char)
    (hne : part.reverse ++ cs ≠ []) : wordsFrom part cs = [part.reverse ++ cs] := by
  induction cs generalizing part with
  | nil =>
    rw [List.append_nil] at hne ⊢
    rw [wordsFrom, if_neg (by simpa using hne)]
  | cons c cs ih =>
    obtain ⟨hc, hcs⟩ := List.forall_mem_cons.mp h
    rw [wordsFrom, if_neg (by rw [hc]; decide), ih hcs (c :: part) (by simp), List.reverse_cons,
      List.append_assoc, List.singleton_append]

/-- A text without blanks is one word. -/
theorem words_of_solid {cs : List Char} (hne : cs ≠ []) (h : ∀ c ∈ cs, isBlank c = false) :
    words cs = [cs] :=
  wordsFrom_of_solid h [] hne

@[simp] theorem words_nil : words [] = [] := rfl

theorem words_blank_append {l : List Char} (hl : isAllBlank l) (cs : List Char) :
    words (l ++ cs) = words cs := by
  induction l with
  | nil => rfl
  | cons b l ih =>
    obtain ⟨hb, hrest⟩ := Bool.and_eq_true_iff.mp hl
    have hparted := words_append_cons hb [] (l ++ cs)
    rw [List.nil_append, words_nil, List.nil_append, ih hrest] at hparted
    exact hparted

theorem words_of_blank {cs : List Char} (h : isAllBlank cs) : words cs = [] := by
  rw [← List.append_nil cs, words_blank_append h, words_nil]

theorem words_append_blank (cs : List Char) {r : List Char} (hr : isAllBlank r) :
    words (cs ++ r) = words cs := by
  cases r with
  | nil => rw [List.append_nil]
  | cons b r =>
    obtain ⟨hb, hrest⟩ := Bool.and_eq_true_iff.mp hr
    rw [words_append_cons hb, words_of_blank hrest, List.append_nil]

theorem words_trim (cs : List Char) : words (trim cs) = words cs := by
  obtain ⟨l, r, hcs, hl, hr⟩ := exists_trim cs
  conv => rhs; rw [hcs]
  rw [words_append_blank _ hr, words_blank_append hl]

@[simp] theorem words_trimRight (cs : List Char) : words (trimRight cs) = words cs := by
  obtain ⟨r, hr, hblank, _⟩ := exists_trimRight cs
  conv => rhs; rw [hr]
  rw [words_append_blank _ hblank]

end Playbook.Text
