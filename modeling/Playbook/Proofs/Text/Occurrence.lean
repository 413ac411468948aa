/-
  Words that occur in a text. The search for a word finds it exactly if it stands in the text
  (`contains_iff`). What trimming leaves of a text holds no other words than the text does.
-/
import Playbook.Proofs.Text.Lines

namespace Playbook.Text

/-- Whether a word stands in a text. -/
def Holds (text word : String) : Prop := word.toList <:+: text.toList

theorem contains_iff {part cs : List Char} : contains part cs ↔ part <:+: cs := by
  induction cs with
  | nil => simp [contains]
  | cons c cs ih =>
    rw [contains, Bool.or_eq_true, List.isPrefixOf_iff_prefix, ih, List.infix_cons_iff]

instance (text word : String) : Decidable (Holds text word) :=
  decidable_of_iff (contains word.toList text.toList) contains_iff

theorem infix_joinWith_of_mem {sep t : List Char} {ts : List (List Char)} (h : t ∈ ts) :
    t <:+: joinWith sep ts := by
  induction ts with
  | nil => exact absurd h List.not_mem_nil
  | cons u ts ih =>
    by_cases hts : ts = []
    · subst hts
      rw [List.mem_singleton.mp h]
      exact List.infix_rfl
    · rw [joinWith_cons hts]
      rcases List.mem_cons.mp h with rfl | h
      · exact ((List.prefix_append t sep).trans (List.prefix_append _ _)).isInfix
      · exact (ih h).trans (List.suffix_append _ _).isInfix

theorem infix_of_mem_pieces {sep : Char} {cs p : List Char} (h : p ∈ pieces sep cs) :
    p <:+: cs := by
  have hinfix : p <:+: joinWith [sep] (pieces sep cs) := infix_joinWith_of_mem h
  rwa [joinWith_pieces] at hinfix

/-- A word whose first character is not in the front of a text does not begin there. -/
theorem infix_of_infix_append {word front cs : List Char} {c : Char}
    (hword : word.head? = some c) (hfront : c ∉ front) (h : word <:+: front ++ cs) :
    word <:+: cs := by
  induction front with
  | nil => exact h
  | cons d front ih =>
    rw [List.mem_cons, not_or] at hfront
    rw [List.cons_append, List.infix_cons_iff] at h
    rcases h with hfront | hrest
    · obtain ⟨rest, hrest⟩ := hfront
      obtain ⟨tail, rfl⟩ : ∃ tail, word = c :: tail := by
        cases word with
        | nil => cases hword
        | cons d tail => exact ⟨tail, by rw [Option.some.inj hword]⟩
      exact absurd (List.cons.inj hrest).1 hfront.1
    · exact ih hfront.2 hrest

end Playbook.Text
