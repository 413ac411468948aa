/-
  Blanks between words. To take a text apart into its words and to put a space between each two of
  them makes one space of every run of blanks and drops the blanks at both ends (`joinWith_words`).
  So it leaves of a text what trimming leaves exactly if the blanks that trimming leaves are single
  spaces (`trim_respaced_eq_iff`).
-/
import Playbook.Proofs.Text.Lines
import Playbook.Proofs.Text.Words

namespace Playbook.Text

/-! ## One space for every run of blanks -/

/-- The text with one space in the place of every run of blanks. -/
def respaced : List Char → List Char
  | [] => []
  | c :: cs => if isBlank c then ' ' :: trimLeft (respaced cs) else c :: respaced cs

theorem respaced_cons_blank {b : Char} (hb : isBlank b) (cs : List Char) :
    respaced (b :: cs) = ' ' :: trimLeft (respaced cs) := by
  rw [respaced, if_pos hb]

theorem respaced_cons_solid {c : Char} (hc : isBlank c = false) (cs : List Char) :
    respaced (c :: cs) = c :: respaced cs := by
  rw [respaced, if_neg (by rw [hc]; decide)]

theorem respaced_concat (cs : List Char) {c : Char} (hc : isBlank c = false) :
    respaced (cs ++ [c]) = respaced cs ++ [c] := by
  induction cs with
  | nil => exact respaced_cons_solid hc []
  | cons d cs ih =>
    rw [List.cons_append]
    by_cases hd : isBlank d
    · rw [respaced_cons_blank hd, respaced_cons_blank hd, ih, trimLeft_concat _ hc,
        List.cons_append]
    · have hsolid : isBlank d = false := by simpa using hd
      rw [respaced_cons_solid hsolid, respaced_cons_solid hsolid, ih, List.cons_append]

theorem tight_respaced {cs : List Char} (h : Tight cs) : Tight (respaced cs) := by
  refine ⟨fun c hc => ?_, fun c hc => ?_⟩
  · cases cs with
    | nil => cases hc
    | cons d cs =>
      have hd : isBlank d = false := h.1 d rfl
      rw [respaced_cons_solid hd, List.head?_cons, Option.some.injEq] at hc
      rwa [← hc]
  · rcases cs.eq_nil_or_concat with rfl | ⟨front, d, rfl⟩
    · cases hc
    · rw [List.concat_eq_append] at h hc
      have hd : isBlank d = false := h.2 d (by simp)
      rw [respaced_concat front hd, List.getLast?_concat, Option.some.injEq] at hc
      rwa [← hc]

theorem isAllBlank_respaced (cs : List Char) : isAllBlank (respaced cs) = isAllBlank cs := by
  induction cs with
  | nil => rfl
  | cons c cs ih =>
    by_cases hc : isBlank c
    · have hrest : isAllBlank (' ' :: trimLeft (respaced cs)) = isAllBlank cs :=
        (isAllBlank_trimLeft (respaced cs)).trans ih
      rw [respaced_cons_blank hc, hrest]
      simp [isAllBlank, hc]
    · have hsolid : isBlank c = false := by simpa using hc
      rw [respaced_cons_solid hsolid]
      simp [isAllBlank, hsolid]

/-! ## Words with spaces between them -/

theorem trim_space_trimLeft (cs : List Char) : trim (' ' :: trimLeft cs) = trim cs := by
  obtain ⟨l, hl, hblank, _⟩ := exists_trimLeft cs
  have hspace : trim ([' '] ++ trimLeft cs) = trim (trimLeft cs) := trim_blank_append rfl _
  conv => rhs; rw [hl]
  rw [trim_blank_append hblank]
  exact hspace

/-- Words, of which the first has begun earlier, with spaces between them. -/
theorem joinWith_wordsFrom {part : List Char} (hpart : ∀ c ∈ part, isBlank c = false)
    (cs : List Char) :
    joinWith [' '] (wordsFrom part cs) = trim (part.reverse ++ respaced cs) := by
  induction cs generalizing part with
  | nil =>
    have hsolid : Tight part.reverse := tight_of_solid fun c hc => hpart c (List.mem_reverse.mp hc)
    rw [wordsFrom, respaced, List.append_nil, hsolid.trim_eq]
    cases part <;> rfl
  | cons c cs ih =>
    rw [wordsFrom]
    by_cases hc : isBlank c
    · have hrest : joinWith [' '] (wordsFrom [] cs) = trim (respaced cs) := ih (by simp)
      rw [if_pos hc, respaced_cons_blank hc]
      cases part with
      | nil => exact hrest.trans (trim_space_trimLeft _).symm
      | cons p part =>
        have hword : Tight (p :: part).reverse :=
          tight_of_solid fun c hc => hpart c (List.mem_reverse.mp hc)
        rw [if_neg (by simp), trim_append_of_tight (by simp) hword]
        by_cases hblank : isAllBlank cs
        · -- the word that is open is the last one
          have hnone : wordsFrom [] cs = [] := words_of_blank hblank
          have hleft : trimLeft (respaced cs) = [] :=
            trimLeft_of_blank ((isAllBlank_respaced cs).trans hblank)
          rw [hnone, hleft, trimRight_of_blank rfl, List.append_nil]
          rfl
        · have hmore : ¬ isAllBlank (respaced cs) := by rwa [isAllBlank_respaced]
          have hne : wordsFrom [] cs ≠ [] := fun hnil =>
            hmore (trim_eq_nil_iff.mp (hrest.symm.trans (by rw [hnil]; rfl)))
          have hright : trimRight ([' '] ++ trimLeft (respaced cs)) =
              [' '] ++ trim (respaced cs) :=
            trimRight_append _ (by rwa [isAllBlank_trimLeft])
          rw [joinWith_cons hne, hrest, List.append_assoc, ← hright]
          rfl
    · have hsolid : isBlank c = false := by simpa using hc
      rw [if_neg hc, respaced_cons_solid hsolid, ih (List.forall_mem_cons.mpr ⟨hsolid, hpart⟩),
        List.reverse_cons, List.append_assoc, List.singleton_append]

theorem joinWith_words (cs : List Char) : joinWith [' '] (words cs) = trim (respaced cs) :=
  joinWith_wordsFrom (by simp) cs

/-- A text between characters that are no blanks keeps them. -/
theorem joinWith_words_between {a b : Char} (ha : isBlank a = false) (hb : isBlank b = false)
    (cs : List Char) : joinWith [' '] (words (a :: cs ++ [b])) = a :: respaced cs ++ [b] := by
  rw [joinWith_words, respaced_concat _ hb, respaced_cons_solid ha,
    (tight_between ha hb (respaced cs)).trim_eq]

/-! ## Texts that are left as they are -/

/-- No blanks but spaces, and no two of them in a row. -/
def SingleSpaced (cs : List Char) : Prop :=
  (∀ c ∈ cs, isBlank c → c = ' ') ∧ ¬ [' ', ' '] <:+: cs

theorem singleSpaced_cons_solid {c : Char} (hc : isBlank c = false) {cs : List Char} :
    SingleSpaced (c :: cs) ↔ SingleSpaced cs := by
  have hspace : ¬ [' ', ' '] <+: c :: cs := fun h => by
    rw [← (List.cons_prefix_cons.mp h).1] at hc
    exact absurd hc (by decide)
  unfold SingleSpaced
  rw [List.forall_mem_cons, List.infix_cons_iff, or_iff_right hspace]
  simp [hc]

theorem singleSpaced_cons_blank {c : Char} (hc : isBlank c) {cs : List Char} :
    SingleSpaced (c :: cs) ↔
      c = ' ' ∧ (∀ d, cs.head? = some d → isBlank d = false) ∧ SingleSpaced cs := by
  unfold SingleSpaced
  rw [List.forall_mem_cons, List.infix_cons_iff, not_or]
  constructor
  · rintro ⟨⟨hspace, hspaces⟩, hnext, hrest⟩
    refine ⟨hspace hc, fun d hd => ?_, hspaces, hrest⟩
    obtain ⟨tail, rfl⟩ := List.head?_eq_some_iff.mp hd
    refine Bool.eq_false_iff.mpr fun hblank => hnext ?_
    rw [hspace hc, hspaces d List.mem_cons_self hblank]
    exact ⟨tail, rfl⟩
  · rintro ⟨rfl, hhead, hspaces, hrest⟩
    refine ⟨⟨fun _ => rfl, hspaces⟩, fun hnext => ?_, hrest⟩
    obtain ⟨tail, htail⟩ := (List.cons_prefix_cons.mp hnext).2
    have hsolid := hhead ' ' (by rw [← htail]; rfl)
    exact absurd hsolid (by decide)

theorem trimLeft_respaced {cs : List Char} (h : ∀ c, cs.head? = some c → isBlank c = false) :
    trimLeft (respaced cs) = respaced cs := by
  cases cs with
  | nil => rfl
  | cons c cs =>
    have hc : isBlank c = false := h c rfl
    rw [respaced_cons_solid hc]
    exact dropWhile_eq_self_of_head? fun d hd => Option.some.inj hd ▸ hc

theorem respaced_eq_self_iff {cs : List Char} : respaced cs = cs ↔ SingleSpaced cs := by
  induction cs with
  | nil => exact ⟨fun _ => ⟨by simp, by simp⟩, fun _ => rfl⟩
  | cons c cs ih =>
    by_cases hc : isBlank c
    · rw [respaced_cons_blank hc, singleSpaced_cons_blank hc, List.cons.injEq, ← ih]
      constructor
      · rintro ⟨hspace, hrest⟩
        have hhead : ∀ d, cs.head? = some d → isBlank d = false := by
          obtain ⟨_, _, _, hfirst⟩ := exists_trimLeft (respaced cs)
          rwa [hrest] at hfirst
        exact ⟨hspace.symm, hhead, (trimLeft_respaced hhead).symm.trans hrest⟩
      · rintro ⟨hspace, hhead, hrest⟩
        exact ⟨hspace.symm, (trimLeft_respaced hhead).trans hrest⟩
    · have hsolid : isBlank c = false := by simpa using hc
      rw [respaced_cons_solid hsolid, singleSpaced_cons_solid hsolid, List.cons.injEq,
        and_iff_right rfl, ih]

instance (cs : List Char) : Decidable (SingleSpaced cs) :=
  decidable_of_iff (respaced cs = cs) respaced_eq_self_iff

/-- But for the blanks at its ends, a text is left as it is exactly if its blanks are single
spaces. -/
theorem trim_respaced_eq_iff {cs : List Char} :
    trim (respaced cs) = trim cs ↔ SingleSpaced (trim cs) := by
  have hends : trim (respaced cs) = respaced (trim cs) := by
    rw [← joinWith_words, ← words_trim, joinWith_words,
      (tight_respaced (tight_trim cs)).trim_eq]
  rw [hends, respaced_eq_self_iff]

end Playbook.Text
