/-
  Reading templates. A placeholder is opened exactly by what one is written as
  (`opening?_eq_some_iff`), and no placeholder begins in the text before the first one and reaches
  into it (`written_not_across`), since the braces between them belong to neither word. So the
  pieces of a text are those of the text before its first placeholder, the placeholder, and the
  pieces of what follows (`pieces_append_placeholder`). Filling goes through a text once
  (`render_single_pass`): what a value holds is not read again.
-/
import Mathlib.Data.List.TakeWhile
import Playbook.Context
import Playbook.Proofs.Text.Occurrence

namespace Playbook

open Playbook.Text

/-! ## Placeholders as they are written -/

/-- A word that a placeholder can have; it may be empty. -/
def IsWord (word : String) : Prop := ∀ c ∈ word.toList, isWordChar c

instance (word : String) : Decidable (IsWord word) :=
  decidable_of_iff (word.toList.all isWordChar) List.all_eq_true

/-- A placeholder with its word. -/
def placeholder (word : String) : String := "\x7b\x7b" ++ word ++ "\x7d\x7d"

/-- Whether there is a placeholder in a text. -/
def HoldsPlaceholder (text : String) : Prop := ∃ word, IsWord word ∧ Holds text (placeholder word)

/-- A text without doubled braces holds no placeholder. -/
theorem not_holdsPlaceholder {text : String} (h : ¬ Holds text "\x7b\x7b") :
    ¬ HoldsPlaceholder text := by
  rintro ⟨word, -, hholds⟩
  have hopens : "\x7b\x7b".toList <:+: (placeholder word).toList := by
    unfold placeholder
    rw [String.toList_append, String.toList_append, List.append_assoc]
    exact (List.prefix_append _ _).isInfix
  exact h (hopens.trans hholds)

namespace Template

theorem toList_placeholder (word : String) :
    (placeholder word).toList = written (.placeholder word.toList) := by
  unfold placeholder
  rw [String.toList_append, String.toList_append]
  rfl

theorem written_placeholder (word : List Char) :
    written (.placeholder word) = '\x7b' :: '\x7b' :: (word ++ ['\x7d', '\x7d']) := rfl

/-- Characters that are those of a word. -/
def Wordy (cs : List Char) : Prop := ∀ c ∈ cs, isWordChar c

/-- Characters among which there is no placeholder. -/
def Plain (cs : List Char) : Prop := ∀ word, Wordy word → ¬ written (.placeholder word) <:+: cs

theorem plain_iff {text : String} : Plain text.toList ↔ ¬ HoldsPlaceholder text := by
  constructor
  · rintro h ⟨word, hword, hholds⟩
    unfold Holds at hholds
    rw [toList_placeholder] at hholds
    exact h word.toList hword hholds
  · intro h word hword hpart
    refine h ⟨String.ofList word, ?_, ?_⟩
    · unfold IsWord
      rwa [String.toList_ofList]
    · unfold Holds
      rwa [toList_placeholder, String.toList_ofList]

theorem Plain.tail {c : Char} {cs : List Char} (h : Plain (c :: cs)) : Plain cs :=
  fun word hword hpart => h word hword (hpart.trans (List.suffix_cons c cs).isInfix)

/-! ## Opening a placeholder -/

theorem not_wordChar_braces : isWordChar '\x7b' = false ∧ isWordChar '\x7d' = false := by
  decide

theorem opening?_written {word : List Char} (hword : Wordy word) (rest : List Char) :
    opening? (written (.placeholder word) ++ rest) = some (word, rest) := by
  have hopen : dropStart? ['\x7b', '\x7b'] (written (.placeholder word) ++ rest) =
      some (word ++ (['\x7d', '\x7d'] ++ rest)) := by
    unfold written
    rw [List.append_assoc, List.append_assoc]
    exact dropStart?_append _ _
  have hstop : (['\x7d', '\x7d'] ++ rest).takeWhile isWordChar = [] ∧
      (['\x7d', '\x7d'] ++ rest).dropWhile isWordChar = ['\x7d', '\x7d'] ++ rest := by
    simp [not_wordChar_braces.2]
  unfold opening?
  rw [hopen]
  dsimp only
  rw [List.dropWhile_append_of_pos hword, List.takeWhile_append_of_pos hword, hstop.1, hstop.2,
    dropStart?_append, List.append_nil]

theorem opening?_eq_some_iff {cs word rest : List Char} :
    opening? cs = some (word, rest) ↔ Wordy word ∧ cs = written (.placeholder word) ++ rest := by
  constructor
  · intro h
    unfold opening? at h
    split at h
    · cases h
    · next inner hopen =>
      split at h
      · cases h
      · next rest' hclose =>
        obtain ⟨rfl, rfl⟩ := Prod.mk.inj (Option.some.inj h)
        refine ⟨fun c hc => List.mem_takeWhile_imp hc, ?_⟩
        have hinner : inner = inner.takeWhile isWordChar ++ (['\x7d', '\x7d'] ++ rest') := by
          rw [← dropStart?_eq_some hclose, List.takeWhile_append_dropWhile]
        rw [dropStart?_eq_some hopen]
        unfold written
        rw [List.append_assoc, List.append_assoc, ← hinner]
  · rintro ⟨hword, rfl⟩
    exact opening?_written hword rest

/-! ## Pieces -/

theorem pieces_nil : pieces [] = [] := by
  rw [pieces]
  rfl

theorem pieces_written {word : List Char} (hword : Wordy word) (rest : List Char) :
    pieces (written (.placeholder word) ++ rest) = .placeholder word :: pieces rest := by
  have hopening := opening?_written hword rest
  rw [pieces]
  split
  · next h =>
    obtain ⟨rfl, rfl⟩ := Prod.mk.inj (Option.some.inj (hopening.symm.trans h))
    rfl
  · next h => cases hopening.symm.trans h

/-- A character that opens no placeholder is a piece by itself. -/
theorem pieces_cons {c : Char} {cs : List Char}
    (h : ∀ word, Wordy word → ¬ written (.placeholder word) <+: c :: cs) :
    pieces (c :: cs) = .char c :: pieces cs := by
  rw [pieces]
  split
  · next word rest hopening =>
    obtain ⟨hword, hcs⟩ := opening?_eq_some_iff.mp hopening
    exact absurd ⟨rest, hcs.symm⟩ (h word hword)
  · rfl

theorem pieces_of_plain {cs : List Char} (h : Plain cs) : pieces cs = cs.map .char := by
  induction cs with
  | nil => exact pieces_nil
  | cons c cs ih =>
    rw [pieces_cons fun word hword hstart => h word hword hstart.isInfix, ih h.tail]
    rfl

/-- What follows a word does not begin with an opening brace, if a closing one is next. -/
theorem ne_opening_of_wordy {word t u : List Char} (hword : Wordy word) :
    word ++ '\x7d' :: t ≠ '\x7b' :: u := by
  cases word with
  | nil => simp
  | cons c cs =>
    intro h
    have hbrace : isWordChar '\x7b' := (List.cons.inj h).1 ▸ hword c List.mem_cons_self
    exact Bool.false_ne_true (not_wordChar_braces.1.symm.trans hbrace)

/-- No opening brace stands behind the first two characters of a placeholder. -/
theorem eq_of_written_eq_append {word front t : List Char} (hword : Wordy word)
    (hfront : front ≠ []) (h : written (.placeholder word) = front ++ '\x7b' :: t) :
    front = ['\x7b'] ∧ t = word ++ ['\x7d', '\x7d'] := by
  have hmem : '\x7b' ∉ word ++ ['\x7d', '\x7d'] := by
    simp only [List.mem_append, not_or]
    refine ⟨fun hin => ?_, by decide⟩
    exact Bool.false_ne_true (not_wordChar_braces.1.symm.trans (hword _ hin))
  rcases front with _ | ⟨c, _ | ⟨d, front⟩⟩
  · exact absurd rfl hfront
  · rw [written_placeholder, List.singleton_append, List.cons.injEq, List.cons.injEq] at h
    obtain ⟨rfl, -, ht⟩ := h
    exact ⟨rfl, ht.symm⟩
  · rw [written_placeholder, List.cons_append, List.cons_append, List.cons.injEq,
      List.cons.injEq] at h
    obtain ⟨-, -, hrest⟩ := h
    have hin : '\x7b' ∈ front ++ '\x7b' :: t := List.mem_append_right _ List.mem_cons_self
    exact absurd (hrest ▸ hin) hmem

/-- No placeholder begins in a plain text and reaches into a placeholder that follows. -/
theorem written_not_across {front word : List Char} (hplain : Plain front) (hfront : front ≠ [])
    (rest : List Char) {other : List Char} (hother : Wordy other) :
    ¬ written (.placeholder other) <+: front ++ (written (.placeholder word) ++ rest) := by
  rintro ⟨tail, h⟩
  rcases List.append_eq_append_iff.mp h with ⟨t, hfront', -⟩ | ⟨t, hacross, hrest⟩
  · -- it ends before the other begins
    exact hplain other hother (hfront' ▸ (List.prefix_append _ _).isInfix)
  · cases t with
    | nil =>
      rw [List.append_nil] at hacross
      exact hplain other hother (hacross ▸ List.infix_rfl)
    | cons c t =>
      rw [written_placeholder word, List.cons_append, List.cons_append, List.cons_append,
        List.cons.injEq] at hrest
      obtain ⟨rfl, hrest⟩ := hrest
      obtain ⟨-, rfl⟩ := eq_of_written_eq_append hother hfront hacross
      rw [List.append_assoc, List.append_assoc] at hrest
      exact ne_opening_of_wordy hother hrest.symm

/-- The pieces of a text with a first placeholder. -/
theorem pieces_append_placeholder {front word : List Char} (hplain : Plain front)
    (hword : Wordy word) (rest : List Char) :
    pieces (front ++ (written (.placeholder word) ++ rest)) =
      front.map .char ++ .placeholder word :: pieces rest := by
  induction front with
  | nil => exact pieces_written hword rest
  | cons c front ih =>
    have hacross : ∀ other, Wordy other → ¬ written (.placeholder other) <+:
        c :: (front ++ (written (.placeholder word) ++ rest)) :=
      fun other hother => written_not_across hplain (List.cons_ne_nil c front) rest hother
    rw [List.cons_append, pieces_cons hacross, ih hplain.tail]
    rfl

/-- Every text has a first placeholder or none. -/
theorem plain_or_exists_first (cs : List Char) : Plain cs ∨ ∃ front word rest, Plain front ∧
    Wordy word ∧ cs = front ++ (written (.placeholder word) ++ rest) := by
  induction cs with
  | nil =>
    refine Or.inl fun word _ hpart => ?_
    cases List.infix_nil.mp hpart
  | cons c cs ih =>
    cases hopening : opening? (c :: cs) with
    | some opened =>
      obtain ⟨word, rest⟩ := opened
      obtain ⟨hword, hcs⟩ := opening?_eq_some_iff.mp hopening
      refine Or.inr ⟨[], word, rest, fun other _ hpart => ?_, hword, hcs⟩
      cases List.infix_nil.mp hpart
    | none =>
      have hclosed : ∀ word, Wordy word → ¬ written (.placeholder word) <+: c :: cs := by
        rintro word hword ⟨rest, hrest⟩
        cases hopening.symm.trans (opening?_eq_some_iff.mpr ⟨hword, hrest.symm⟩)
      rcases ih with hplain | ⟨front, word, rest, hplain, hword, rfl⟩
      · refine Or.inl fun word hword hpart => ?_
        rcases List.infix_cons_iff.mp hpart with hstart | hpart
        · exact hclosed word hword hstart
        · exact hplain word hword hpart
      · refine Or.inr ⟨c :: front, word, rest, fun other hother hpart => ?_, hword, rfl⟩
        rcases List.infix_cons_iff.mp hpart with hstart | hpart
        · exact hclosed other hother (hstart.trans (List.prefix_append (c :: front) _))
        · exact hplain other hother hpart

/-! ## Filling -/

theorem flatMap_filled_char (value? : String → Option String) (cs : List Char) :
    (cs.map Piece.char).flatMap (filled value?) = cs := by
  induction cs with
  | nil => rfl
  | cons c cs ih =>
    rw [List.map_cons, List.flatMap_cons, ih]
    rfl

theorem fill_of_plain (value? : String → Option String) {text : String}
    (h : ¬ HoldsPlaceholder text) : fill value? text = text := by
  unfold fill
  rw [pieces_of_plain (plain_iff.mpr h), flatMap_filled_char, String.ofList_toList]

theorem fill_append_placeholder (value? : String → Option String) {front word : String}
    (hplain : ¬ HoldsPlaceholder front) (hword : IsWord word) (rest : String) :
    fill value? (front ++ placeholder word ++ rest) =
      front ++ (value? word).getD (placeholder word) ++ fill value? rest := by
  apply String.toList_inj.mp
  unfold fill
  simp only [String.toList_append, String.toList_ofList, toList_placeholder, List.append_assoc]
  rw [pieces_append_placeholder (plain_iff.mpr hplain) hword, List.flatMap_append,
    flatMap_filled_char, List.flatMap_cons]
  have hfilled : filled value? (.placeholder word.toList) =
      ((value? word).getD (placeholder word)).toList := by
    unfold filled
    dsimp only
    rw [String.ofList_toList]
    cases value? word with
    | none => exact (toList_placeholder word).symm
    | some value => rfl
  rw [hfilled]

end Template

namespace Context

variable {σ : Type}

/-- Rendering goes through a text once, from left to right: text without placeholders stands for
itself, and the value of the first placeholder, or the placeholder if its word has no value, stands
between the text before it and what rendering makes of the text behind it. Every text is of one of
these forms. -/
theorem render_single_pass (c : Context σ) (w : World σ) :
    (∀ text, ¬ HoldsPlaceholder text → c.render w text = text) ∧
    (∀ front word rest, ¬ HoldsPlaceholder front → IsWord word →
      c.render w (front ++ placeholder word ++ rest) =
        front ++ c.valueOr w word (placeholder word) ++ c.render w rest) ∧
    ∀ text, ¬ HoldsPlaceholder text ∨ ∃ front word rest, ¬ HoldsPlaceholder front ∧ IsWord word ∧
      text = front ++ placeholder word ++ rest := by
  refine ⟨fun text h => Template.fill_of_plain _ h,
    fun front word rest hfront hword => Template.fill_append_placeholder _ hfront hword rest,
    fun text => ?_⟩
  rcases Template.plain_or_exists_first text.toList with hplain | ⟨front, word, rest, hplain, hword,
    htext⟩
  · exact Or.inl (Template.plain_iff.mp hplain)
  · refine Or.inr ⟨String.ofList front, String.ofList word, String.ofList rest, ?_, ?_, ?_⟩
    · rwa [← Template.plain_iff, String.toList_ofList]
    · unfold IsWord
      rwa [String.toList_ofList]
    · apply String.toList_inj.mp
      simpa [Template.toList_placeholder] using htext

/-- A context with a variable whose value holds the placeholder of the variable. -/
def mirrorContext : Context Unit where
  workflow := {}
  vars := .ofList [("ECHO", placeholder "ECHO")]
  operator := ⟨fun _ w => (none, w)⟩

/-- The value is not filled again, nor does it make a placeholder with the braces around it. -/
theorem mirrorContext_render :
    mirrorContext.render { rest := () } ("\x7b" ++ placeholder "ECHO" ++ "\x7d\x7d") =
      "\x7b" ++ placeholder "ECHO" ++ "\x7d\x7d" := by
  obtain ⟨hplain, hfilled, -⟩ := render_single_pass mirrorContext { rest := () }
  have hopen : ¬ HoldsPlaceholder "\x7b" := not_holdsPlaceholder (by decide)
  have hclose : ¬ HoldsPlaceholder "\x7d\x7d" := not_holdsPlaceholder (by decide)
  have hword : IsWord "ECHO" := by decide
  rw [hfilled _ _ _ hopen hword, hplain _ hclose]
  decide

end Context

end Playbook
