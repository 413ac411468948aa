/-
  The lines of a text that are not blank, each without the blanks around it. Blanks around the
  text add none and hide none (`solidLines_trim`), and neither do carriage returns at the ends of
  lines.
-/
import Playbook.Proofs.Text.Lines

namespace Playbook.Text

/-- The lines among these that are not blank, trimmed. -/
def solid (ls : List (List Char)) : List (List Char) := (ls.map trim).filter (!·.isEmpty)

/-- The lines of a text that are not blank, trimmed. -/
def solidLines (cs : List Char) : List (List Char) := solid (pieces '\n' cs)

@[simp] theorem solid_nil : solid [] = [] := rfl

@[simp] theorem solid_append (ls ms : List (List Char)) :
    solid (ls ++ ms) = solid ls ++ solid ms := by
  simp [solid]

theorem solid_cons (l : List Char) (ls : List (List Char)) :
    solid (l :: ls) = solid [l] ++ solid ls := solid_append [l] ls

theorem solid_cons_blank {l : List Char} (h : isAllBlank l) (ls : List (List Char)) :
    solid (l :: ls) = solid ls := by
  simp [solid, trim_eq_nil_iff.mpr h]

theorem solid_cons_of_ne_nil {l : List Char} (h : trim l ≠ []) (ls : List (List Char)) :
    solid (l :: ls) = trim l :: solid ls := by
  simp [solid, h]

theorem solid_eq_nil {ls : List (List Char)} (h : ∀ l ∈ ls, isAllBlank l) : solid ls = [] := by
  induction ls with
  | nil => rfl
  | cons l ls ih =>
    rw [solid_cons_blank (h l List.mem_cons_self), ih fun x hx => h x (List.mem_cons_of_mem _ hx)]

theorem solid_congr {ls ms : List (List Char)} (h : ls.map trim = ms.map trim) :
    solid ls = solid ms := by
  simp [solid, h]

@[simp] theorem solid_map_dropCarriageReturn (ls : List (List Char)) :
    solid (ls.map dropCarriageReturn) = solid ls := by
  refine solid_congr ?_
  rw [List.map_map]
  exact List.map_congr_left fun l _ => trim_dropCarriageReturn l

theorem isAllBlank_of_mem_pieces {sep : Char} {cs p : List Char} (h : isAllBlank cs)
    (hp : p ∈ pieces sep cs) : isAllBlank p := by
  exact List.all_eq_true.mpr fun c hc => List.all_eq_true.mp h c (mem_of_mem_pieces hp hc)

theorem solidLines_append_blank (cs : List Char) {r : List Char} (hr : isAllBlank r) :
    solidLines (cs ++ r) = solidLines cs := by
  obtain ⟨ps, p, q, qs, hcs, hds, happ⟩ := exists_pieces_append '\n' cs r
  have hblank : ∀ x ∈ q :: qs, isAllBlank x := fun x hx =>
    isAllBlank_of_mem_pieces hr (by rw [hds]; exact hx)
  have hq := hblank q List.mem_cons_self
  have hqs := solid_eq_nil fun x hx => hblank x (List.mem_cons_of_mem _ hx)
  have hp : solid [p ++ q] = solid [p] := solid_congr (by simp [trim_append_blank p hq])
  rw [solidLines, solidLines, hcs, happ, solid_append, solid_append, solid_cons, hqs, hp,
    List.append_nil]

theorem solidLines_blank_append {l : List Char} (hl : isAllBlank l) (cs : List Char) :
    solidLines (l ++ cs) = solidLines cs := by
  obtain ⟨ps, p, q, qs, hl', hcs, happ⟩ := exists_pieces_append '\n' l cs
  have hblank : ∀ x ∈ ps ++ [p], isAllBlank x := fun x hx =>
    isAllBlank_of_mem_pieces hl (by rw [hl']; exact hx)
  have hp := hblank p (by simp)
  have hps := solid_eq_nil fun x hx => hblank x (List.mem_append_left _ hx)
  have hq : solid [p ++ q] = solid [q] := solid_congr (by simp [trim_blank_append hp q])
  rw [solidLines, solidLines, hcs, happ, solid_append, hps, List.nil_append, solid_cons, hq,
    ← solid_cons]

/-- Trimming a text changes none of its lines that are not blank. -/
@[simp] theorem solidLines_trim (cs : List Char) : solidLines (trim cs) = solidLines cs := by
  obtain ⟨l, r, hcs, hl, hr⟩ := exists_trim cs
  conv => rhs; rw [hcs]
  rw [solidLines_append_blank _ hr, solidLines_blank_append hl]

theorem solidLines_joinWith {ls : List (List Char)} (h : ∀ l ∈ ls, '\n' ∉ l) :
    solidLines (joinWith ['\n'] ls) = solid ls := by
  by_cases hne : ls = []
  · subst hne
    rfl
  · rw [solidLines, pieces_joinWith hne h]

/-- A text is blank exactly if all of its lines are. -/
theorem solidLines_eq_nil_iff {cs : List Char} : solidLines cs = [] ↔ isAllBlank cs := by
  constructor
  · intro h
    refine List.all_eq_true.mpr fun c hc => ?_
    cases hb : isBlank c with
    | true => rfl
    | false =>
      rw [← joinWith_pieces '\n' cs] at hc
      refine absurd hc (not_mem_joinWith (fun hsep => ?_) fun l hl hc => ?_)
      · rw [List.mem_singleton.mp hsep] at hb
        exact absurd hb (by decide)
      · have hsolid : trim l ∉ solidLines cs := by rw [h]; exact List.not_mem_nil
        have hblank : isAllBlank l := by
          refine trim_eq_nil_iff.mp (Classical.byContradiction fun hne => hsolid ?_)
          exact List.mem_filter.mpr ⟨List.mem_map.mpr ⟨l, hl, rfl⟩, by simpa using hne⟩
        have := List.all_eq_true.mp hblank c hc
        rw [hb] at this
        cases this
  · intro h
    exact solid_eq_nil fun l hl => isAllBlank_of_mem_pieces h hl

end Playbook.Text
