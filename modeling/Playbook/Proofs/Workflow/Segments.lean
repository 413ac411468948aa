/-
  Cutting a flowchart line at its arrows. The cut loses nothing (`joinWith_segmentsFrom`); a line
  is left whole or is cut at one arrow and then again behind it (`segmentsFrom_cases`); a text
  that holds no arrow outside of brackets and quotes is passed over (`segmentsFrom_append`). What a
  line is cut into can be cut no further, and closes what it opens (`cut_segments`).
-/
import Playbook.Proofs.Text.Lines
import Playbook.Workflow.Flowchart

namespace Playbook.Flowchart

open Playbook.Text

/-- The arrow of a flowchart. -/
def arrow : List Char := ['-', '-', '>']

theorem length_lt_behind (p q : List Char) : q.length < (p ++ arrow ++ q).length := by
  simp only [List.length_append, arrow, List.length_cons, List.length_nil]
  omega

/-! ## Glue -/

theorem glue_ne_nil (front : List Char) (ss : List (List Char)) : glue front ss ≠ [] := by
  cases ss <;> simp [glue]

theorem glue_glue (a b : List Char) (ss : List (List Char)) :
    glue a (glue b ss) = glue (a ++ b) ss := by
  cases ss <;> simp [glue]

theorem glue_nil {ss : List (List Char)} (h : ss ≠ []) : glue [] ss = ss := by
  cases ss with
  | nil => exact absurd rfl h
  | cons s ss => rfl

/-! ## The scan -/

theorem segmentsFrom_ne_nil (s : Nesting) (cs : List Char) : segmentsFrom s cs ≠ [] := by
  unfold segmentsFrom
  split
  · simp
  · split
    · simp
    · exact glue_ne_nil _ _
  · exact glue_ne_nil _ _

/-- The nesting after a text. -/
def Nesting.afterAll (s : Nesting) (cs : List Char) : Nesting := cs.foldl Nesting.after s

@[simp] theorem Nesting.afterAll_nil (s : Nesting) : s.afterAll [] = s := rfl

@[simp] theorem Nesting.afterAll_cons (s : Nesting) (c : Char) (cs : List Char) :
    s.afterAll (c :: cs) = (s.after c).afterAll cs := rfl

@[simp] theorem Nesting.afterAll_append (s : Nesting) (cs ds : List Char) :
    s.afterAll (cs ++ ds) = (s.afterAll cs).afterAll ds := by
  simp [Nesting.afterAll]

/-- An arrow outside of brackets and quotes cuts. -/
theorem segmentsFrom_arrow {s : Nesting} (h : s.isOuter) (rest : List Char) :
    segmentsFrom s (arrow ++ rest) = [] :: segmentsFrom s rest := by
  simp [arrow, segmentsFrom, h]

/-- Where no arrow begins, or not outside, one character is passed over. -/
theorem segmentsFrom_cons {s : Nesting} {c : Char} {rest : List Char}
    (h : ¬ (s.isOuter ∧ arrow <+: c :: rest)) :
    segmentsFrom s (c :: rest) = glue [c] (segmentsFrom (s.after c) rest) := by
  by_cases harrow : arrow <+: c :: rest
  · obtain ⟨tail, htail⟩ := harrow
    have hinner : s.isOuter = false := by
      simpa using fun ho => h ⟨ho, ⟨tail, htail⟩⟩
    obtain ⟨rfl, rfl⟩ : '-' = c ∧ '-' :: '>' :: tail = rest := by simpa [arrow] using htail
    have hdash : s.after '-' = s := by simp [Nesting.after]
    have hhead : s.after '>' = s := by simp [Nesting.after]
    simp [segmentsFrom, hinner, hdash, hhead, glue_glue]
  · rw [segmentsFrom]
    intro tail hc hrest
    exact harrow ⟨tail, by rw [hc, hrest]; rfl⟩

/-- No arrow that stands in the text, or begins in it, is outside of brackets and quotes. -/
def Uncut (s : Nesting) : List Char → Prop
  | [] => True
  | c :: cs => (c = '-' → s.isOuter = false) ∧ Uncut (s.after c) cs

theorem segmentsFrom_append {s : Nesting} {cs : List Char} (h : Uncut s cs) (rest : List Char) :
    segmentsFrom s (cs ++ rest) = glue cs (segmentsFrom (s.afterAll cs) rest) := by
  induction cs generalizing s with
  | nil => exact (glue_nil (segmentsFrom_ne_nil _ _)).symm
  | cons c cs ih =>
    have hcut : ¬ (s.isOuter ∧ arrow <+: c :: (cs ++ rest)) := by
      rintro ⟨houter, tail, htail⟩
      have hc : c = '-' := by
        have := (List.cons.inj htail).1
        exact this.symm
      simp [h.1 hc] at houter
    rw [List.cons_append, segmentsFrom_cons hcut, ih h.2, glue_glue]
    rfl

theorem segmentsFrom_of_uncut {s : Nesting} {cs : List Char} (h : Uncut s cs) :
    segmentsFrom s cs = [cs] := by
  have := segmentsFrom_append h []
  rw [List.append_nil] at this
  rw [this]
  simp [segmentsFrom, glue]

/-- Behind a text that holds no arrow outside, a line is left whole exactly if the rest is. -/
theorem segmentsFrom_append_eq_iff {s : Nesting} {cs rest : List Char} (h : Uncut s cs) :
    segmentsFrom s (cs ++ rest) = [cs ++ rest] ↔ segmentsFrom (s.afterAll cs) rest = [rest] := by
  rw [segmentsFrom_append h]
  cases hsegs : segmentsFrom (s.afterAll cs) rest with
  | nil => exact absurd hsegs (segmentsFrom_ne_nil _ _)
  | cons seg segs => simp [glue]

theorem Uncut.append {s : Nesting} {cs ds : List Char} (hc : Uncut s cs)
    (hd : Uncut (s.afterAll cs) ds) : Uncut s (cs ++ ds) := by
  induction cs generalizing s with
  | nil => exact hd
  | cons c cs ih => exact ⟨hc.1, ih hc.2 hd⟩

theorem uncut_of_no_dash {s : Nesting} {cs : List Char} (h : '-' ∉ cs) : Uncut s cs := by
  induction cs generalizing s with
  | nil => exact True.intro
  | cons c cs ih =>
    rw [List.mem_cons, not_or] at h
    exact ⟨fun hc => absurd hc.symm h.1, ih h.2⟩

theorem after_of_quoted {s : Nesting} (hs : s.quoted) {c : Char} (hc : c ≠ '"') :
    s.after c = s := by
  simp [Nesting.after, hs, hc]

/-- Between quotes nothing changes the nesting but a quote. -/
theorem afterAll_of_quoted {s : Nesting} (hs : s.quoted) {cs : List Char} (h : '"' ∉ cs) :
    s.afterAll cs = s := by
  induction cs with
  | nil => rfl
  | cons c cs ih =>
    rw [List.mem_cons, not_or] at h
    rw [Nesting.afterAll_cons, after_of_quoted hs (Ne.symm h.1), ih h.2]

theorem uncut_of_quoted {s : Nesting} (hs : s.quoted) {cs : List Char} (h : '"' ∉ cs) :
    Uncut s cs := by
  induction cs with
  | nil => exact True.intro
  | cons c cs ih =>
    rw [List.mem_cons, not_or] at h
    refine ⟨fun _ => by simp [Nesting.isOuter, hs], ?_⟩
    rw [after_of_quoted hs (Ne.symm h.1)]
    exact ih h.2

/-- A line is left whole, or it is cut at its first arrow outside and then again behind it. -/
theorem segmentsFrom_cases (s : Nesting) (cs : List Char) :
    segmentsFrom s cs = [cs] ∨ ∃ p q, cs = p ++ arrow ++ q ∧ (s.afterAll p).isOuter ∧
      segmentsFrom s cs = p :: segmentsFrom (s.afterAll p) q := by
  induction cs generalizing s with
  | nil => exact Or.inl (by simp [segmentsFrom])
  | cons c cs ih =>
    by_cases hcut : s.isOuter ∧ arrow <+: c :: cs
    · obtain ⟨houter, q, hq⟩ := hcut
      refine Or.inr ⟨[], q, hq.symm, houter, ?_⟩
      rw [← hq]
      exact segmentsFrom_arrow houter q
    · rw [segmentsFrom_cons hcut]
      rcases ih (s.after c) with hwhole | ⟨p, q, rfl, houter, hseg⟩
      · exact Or.inl (by rw [hwhole]; rfl)
      · exact Or.inr ⟨c :: p, q, rfl, houter, by rw [hseg]; rfl⟩

/-- Whether an arrow of a text stands outside of all brackets and quotes. -/
def LooseArrow (s : Nesting) (cs : List Char) : Prop :=
  ∃ p q, cs = p ++ arrow ++ q ∧ (s.afterAll p).isOuter

/-- An arrow stands before a text that does not hold its head. -/
theorem arrow_before {cs back p q : List Char} (hback : '>' ∉ back)
    (h : cs ++ back = p ++ arrow ++ q) : ∃ q', cs = p ++ arrow ++ q' ∧ q = q' ++ back := by
  rcases List.append_eq_append_iff.mp h.symm with hfound | ⟨r, hpr, hq⟩
  · exact hfound
  · cases r with
    | nil => exact ⟨[], by rw [List.append_nil, hpr, List.append_nil], hq.symm⟩
    | cons c r =>
      have hlast := congrArg List.getLast? hpr
      have harrow : arrow.getLast? = some '>' := rfl
      rw [List.getLast?_append, List.getLast?_append, harrow, Option.some_or, List.getLast?_cons,
        Option.some_or] at hlast
      have hmem : '>' ∈ c :: r := by
        refine List.mem_of_getLast? ?_
        rw [List.getLast?_cons]
        exact hlast.symm
      exact absurd (by rw [hq]; exact List.mem_append_left q hmem) hback

theorem looseArrow_append_iff {s : Nesting} {cs back : List Char} (hback : '>' ∉ back) :
    LooseArrow s (cs ++ back) ↔ LooseArrow s cs := by
  constructor
  · rintro ⟨p, q, hsplit, houter⟩
    obtain ⟨q', hcs, _⟩ := arrow_before hback hsplit
    exact ⟨p, q', hcs, houter⟩
  · rintro ⟨p, q, rfl, houter⟩
    exact ⟨p, q ++ back, by rw [List.append_assoc], houter⟩

/-- Such an arrow cuts the text, though perhaps another one cuts it first. -/
theorem LooseArrow.cuts {s : Nesting} {cs : List Char} (h : LooseArrow s cs) :
    2 ≤ (segmentsFrom s cs).length := by
  obtain ⟨p, q, rfl, houter⟩ := h
  have hlength : ∀ (front : List Char) (ss : List (List Char)),
      ss.length ≤ (glue front ss).length := by
    intro front ss
    cases ss <;> simp [glue]
  induction p generalizing s with
  | nil =>
    have hpos := List.length_pos_iff.mpr (segmentsFrom_ne_nil s q)
    have hs : s.isOuter := houter
    rw [List.nil_append, segmentsFrom_arrow hs, List.length_cons]
    omega
  | cons c p ih =>
    have hrest := ih houter
    rw [List.append_assoc] at hrest
    rw [List.cons_append, List.cons_append, List.append_assoc]
    by_cases hcut : s.isOuter ∧ arrow <+: c :: (p ++ (arrow ++ q))
    · obtain ⟨hs, rest, hrest⟩ := hcut
      have hpos := List.length_pos_iff.mpr (segmentsFrom_ne_nil s rest)
      rw [← hrest, segmentsFrom_arrow hs, List.length_cons]
      omega
    · rw [segmentsFrom_cons hcut]
      exact Nat.le_trans hrest (hlength _ _)

/-- A text is left whole exactly if no arrow of it stands outside of all brackets and quotes. -/
theorem segmentsFrom_eq_iff {s : Nesting} {cs : List Char} :
    segmentsFrom s cs = [cs] ↔ ¬ LooseArrow s cs := by
  constructor
  · intro h hloose
    have := hloose.cuts
    rw [h, List.length_singleton] at this
    omega
  · intro h
    rcases segmentsFrom_cases s cs with hwhole | ⟨p, q, hsplit, houter, _⟩
    · exact hwhole
    · exact absurd ⟨p, q, hsplit, houter⟩ h

instance (s : Nesting) (cs : List Char) : Decidable (LooseArrow s cs) :=
  decidable_of_iff (¬ segmentsFrom s cs = [cs]) (by rw [segmentsFrom_eq_iff, Classical.not_not])

theorem not_looseArrow_of_quoted {s : Nesting} (hs : s.quoted) {cs : List Char} (h : '"' ∉ cs) :
    ¬ LooseArrow s cs := by
  rintro ⟨p, q, rfl, houter⟩
  have hp : '"' ∉ p := fun hc => h (by simp [hc])
  rw [afterAll_of_quoted hs hp, Nesting.isOuter, hs] at houter
  simp at houter

/-- The segments with arrows between them are the line. -/
theorem joinWith_segmentsFrom (s : Nesting) (cs : List Char) :
    joinWith arrow (segmentsFrom s cs) = cs := by
  induction hn : cs.length using Nat.strongRecOn generalizing s cs with
  | _ n ih =>
    rcases segmentsFrom_cases s cs with hwhole | ⟨p, q, rfl, _, hseg⟩
    · rw [hwhole]
      rfl
    · have hq : q.length < n := hn ▸ length_lt_behind p q
      rw [hseg, joinWith_cons (segmentsFrom_ne_nil _ _), ih q.length hq _ q rfl]

theorem length_le_of_mem_joinWith (sep : List Char) {l : List Char} {ls : List (List Char)}
    (h : l ∈ ls) :
    l.length ≤ (joinWith sep ls).length := by
  induction ls with
  | nil => exact absurd h List.not_mem_nil
  | cons m ls ih =>
    cases ls with
    | nil => exact Nat.le_of_eq (by rw [List.mem_singleton.mp h]; rfl)
    | cons k ls =>
      rw [joinWith_cons (List.cons_ne_nil k ls), List.length_append, List.length_append]
      rcases List.mem_cons.mp h with rfl | h
      · omega
      · have := ih h
        omega

theorem length_le_of_mem_segmentsFrom {s : Nesting} {cs l : List Char}
    (h : l ∈ segmentsFrom s cs) : l.length ≤ cs.length := by
  have := length_le_of_mem_joinWith arrow h
  rwa [joinWith_segmentsFrom] at this

/-! ## Cuts -/

theorem Nesting.eq_of_isOuter {s : Nesting} (h : s.isOuter) : s = {} := by
  obtain ⟨depth, quoted⟩ := s
  simp only [Nesting.isOuter, Bool.and_eq_true, beq_iff_eq, Bool.not_eq_true'] at h
  rw [h.1, h.2]

/-- An arrow behind a text is not mistaken for an earlier one. -/
theorem segmentsFrom_append_arrow {s : Nesting} {cs : List Char} (h : ¬ LooseArrow s cs)
    (houter : (s.afterAll cs).isOuter) (rest : List Char) :
    segmentsFrom s (cs ++ arrow ++ rest) = cs :: segmentsFrom (s.afterAll cs) rest := by
  induction cs generalizing s with
  | nil => exact segmentsFrom_arrow houter rest
  | cons c cs ih =>
    have hcut : ¬ (s.isOuter ∧ arrow <+: c :: (cs ++ arrow ++ rest)) := by
      rintro ⟨hs, tail, htail⟩
      -- an arrow that begins in the text ends in it, for no two arrows overlap
      rcases cs with _ | ⟨d, _ | ⟨e, cs⟩⟩
      · simp [arrow] at htail
      · simp [arrow] at htail
      · obtain ⟨rfl, rfl, rfl, _⟩ : '-' = c ∧ '-' = d ∧ '>' = e ∧ tail = cs ++ arrow ++ rest := by
          simpa [arrow] using htail
        exact h ⟨[], cs, rfl, hs⟩
    have hrest : ¬ LooseArrow (s.after c) cs := by
      rintro ⟨p, q, rfl, hp⟩
      exact h ⟨c :: p, q, rfl, hp⟩
    rw [List.append_assoc, List.cons_append, ← List.append_assoc, segmentsFrom_cons hcut,
      ih hrest houter]
    rfl

/-- No arrow of the first segment stands outside of all brackets and quotes. -/
theorem not_looseArrow_of_segmentsFrom {s : Nesting} {cs seg : List Char} {segs : List (List Char)}
    (h : segmentsFrom s cs = seg :: segs) : ¬ LooseArrow s seg := by
  have hnil : ∀ s, ¬ LooseArrow s [] := by
    rintro s ⟨p, q, hsplit, _⟩
    simp [arrow] at hsplit
  induction cs generalizing s seg with
  | nil =>
    obtain ⟨rfl, _⟩ : [] = seg ∧ [] = segs := by simpa [segmentsFrom] using h
    exact hnil s
  | cons c cs ih =>
    by_cases hcut : s.isOuter ∧ arrow <+: c :: cs
    · obtain ⟨hs, rest, hrest⟩ := hcut
      rw [← hrest, segmentsFrom_arrow hs] at h
      obtain ⟨rfl, _⟩ := List.cons.inj h
      exact hnil s
    · rw [segmentsFrom_cons hcut] at h
      cases hsegs : segmentsFrom (s.after c) cs with
      | nil => exact absurd hsegs (segmentsFrom_ne_nil _ _)
      | cons first others =>
        rw [hsegs, glue] at h
        obtain ⟨rfl, rfl⟩ := List.cons.inj h
        rintro ⟨p, q, hsplit, hp⟩
        cases p with
        | nil =>
          have hprefix : first <+: cs := by
            rw [← joinWith_segmentsFrom (s.after c) cs, hsegs]
            cases others with
            | nil => exact List.prefix_rfl
            | cons d ds =>
              rw [joinWith_cons (List.cons_ne_nil d ds), List.append_assoc]
              exact List.prefix_append _ _
          obtain ⟨t, rfl⟩ := hprefix
          have harrow : arrow <+: c :: (first ++ t) := by
            rw [← List.cons_append, ← List.singleton_append, hsplit, List.append_assoc]
            exact List.prefix_append _ _
          exact hcut ⟨hp, harrow⟩
        | cons d p =>
          obtain ⟨rfl, htail⟩ := List.cons.inj hsplit
          exact ih hsegs ⟨p, q, htail, hp⟩

/-- Texts as a line is cut into: none can be cut, and all but the last close what they open. -/
inductive Cut : List (List Char) → Prop
  | last {seg : List Char} : ¬ LooseArrow {} seg → Cut [seg]
  | before {seg : List Char} {segs : List (List Char)} : ¬ LooseArrow {} seg →
    Nesting.afterAll {} seg = {} → Cut segs → Cut (seg :: segs)

theorem Cut.head {seg : List Char} {segs : List (List Char)} (h : Cut (seg :: segs)) :
    ¬ LooseArrow {} seg := by
  cases h with
  | last hseg => exact hseg
  | before hseg _ _ => exact hseg

theorem cut_segments (line : List Char) : Cut (segments line) := by
  unfold segments
  induction hn : line.length using Nat.strongRecOn generalizing line with
  | _ n ih =>
    rcases segmentsFrom_cases {} line with hwhole | ⟨p, q, rfl, houter, hseg⟩
    · rw [hwhole]
      exact .last (not_looseArrow_of_segmentsFrom hwhole)
    · have hq : q.length < n := hn ▸ length_lt_behind p q
      have hback := Nesting.eq_of_isOuter houter
      rw [hseg, hback]
      exact .before (not_looseArrow_of_segmentsFrom hseg) hback (ih q.length hq q rfl)

/-! ## Plain texts -/

/-- Text that has no part in the nesting and in no arrow. -/
def Plain (cs : List Char) : Prop :=
  ∀ c ∈ cs, c ∉ ['"', '[', '(', '\x7b', ']', ')', '\x7d', '-']

instance (cs : List Char) : Decidable (Plain cs) := List.decidableBAll _ cs

theorem plain_nil : Plain [] := List.forall_mem_nil _

theorem plain_of_forall {p : Char → Bool}
    (hp : ['"', '[', '(', '\x7b', ']', ')', '\x7d', '-'].all (!p ·)) {cs : List Char}
    (h : ∀ c ∈ cs, p c) : Plain cs := by
  intro c hc hmark
  have hnot := List.all_eq_true.mp hp c hmark
  simp [h c hc] at hnot

theorem plain_of_blank {cs : List Char} (h : isAllBlank cs) : Plain cs :=
  plain_of_forall (by decide) (List.all_eq_true.mp h)

theorem Plain.append {cs ds : List Char} (hc : Plain cs) (hd : Plain ds) : Plain (cs ++ ds) := by
  intro c hmem
  rcases List.mem_append.mp hmem with hmem | hmem
  · exact hc c hmem
  · exact hd c hmem

theorem Plain.afterAll {cs : List Char} (h : Plain cs) (s : Nesting) : s.afterAll cs = s := by
  induction cs with
  | nil => rfl
  | cons c cs ih =>
    have hc := h c List.mem_cons_self
    simp only [List.mem_cons, List.not_mem_nil, or_false, not_or] at hc
    have hsame : s.after c = s := by simp [Nesting.after, hc]
    rw [Nesting.afterAll_cons, hsame, ih fun d hd => h d (List.mem_cons_of_mem _ hd)]

theorem Plain.looseArrow_append_iff {front : List Char} (h : Plain front) {s : Nesting}
    {cs : List Char} : LooseArrow s (front ++ cs) ↔ LooseArrow s cs := by
  have huncut : Uncut s front := uncut_of_no_dash fun hc => h _ hc (by decide)
  rw [← Decidable.not_iff_not, ← segmentsFrom_eq_iff, ← segmentsFrom_eq_iff,
    segmentsFrom_append_eq_iff huncut, h.afterAll]

/-- The blanks around a text play no part in how it is cut. -/
theorem looseArrow_trim {s : Nesting} {cs : List Char} :
    LooseArrow s (trim cs) ↔ LooseArrow s cs := by
  obtain ⟨l, r, hcs, hl, hr⟩ := exists_trim cs
  have hback : '>' ∉ r := fun hc => absurd (List.all_eq_true.mp hr _ hc) (by decide)
  conv => rhs; rw [hcs]
  rw [looseArrow_append_iff hback, (plain_of_blank hl).looseArrow_append_iff]

theorem afterAll_trim (s : Nesting) (cs : List Char) : s.afterAll (trim cs) = s.afterAll cs := by
  obtain ⟨l, r, hcs, hl, hr⟩ := exists_trim cs
  conv => rhs; rw [hcs]
  rw [Nesting.afterAll_append, Nesting.afterAll_append, (plain_of_blank hl).afterAll,
    (plain_of_blank hr).afterAll]

end Playbook.Flowchart
