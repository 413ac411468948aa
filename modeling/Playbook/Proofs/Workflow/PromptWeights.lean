/-
  What prompts cost. A prompt weighs as much as it has lines, its heading included; a scan cannot
  give prompts that weigh more than the lines that it reads (`weight_scanFrom`). So if all prompts
  of a document come back, none of them may have swallowed the heading behind it
  (`closed_of_reread`).
-/
import Mathlib.Algebra.Order.BigOperators.Group.List
import Mathlib.Algebra.Order.Ring.Nat
import Mathlib.Data.List.Perm.Subperm
import Playbook.Proofs.Workflow.PromptBlocks

namespace Playbook.Document

open Playbook.Text Playbook.Flowchart Playbook.Workflow

/-! ## Weights -/

/-- The number of lines that a prompt takes at least. -/
def weight : Entry → Nat
  | .prompt _ _ content => (solidLines content.toList).length + 1
  | _ => 0

/-- The lines that entries take together. -/
def totalWeight (es : List Entry) : Nat := (es.map weight).sum

/-- The lines that a pending prompt has taken. -/
def pendingWeight : Option PendingPrompt → Nat
  | none => 0
  | some p => (solid p.lines).length + 1

@[simp] theorem totalWeight_append (es fs : List Entry) :
    totalWeight (es ++ fs) = totalWeight es + totalWeight fs := by
  simp [totalWeight]

theorem totalWeight_eq_zero {es : List Entry} (h : ∀ e ∈ es, weight e = 0) :
    totalWeight es = 0 := by
  induction es with
  | nil => rfl
  | cons e es ih =>
    have hrest := ih fun f hf => h f (List.mem_cons_of_mem _ hf)
    rw [totalWeight, List.map_cons, List.sum_cons, h e List.mem_cons_self, Nat.zero_add]
    exact hrest

theorem length_solid_reverse (ls : List (List Char)) :
    (solid ls.reverse).length = (solid ls).length := by
  rw [solid, solid, List.map_reverse, List.filter_reverse, List.length_reverse]

theorem weight_chart {e : Entry} (h : FitsChart e) : weight e = 0 := by
  cases e with
  | prompt key role content => exact absurd h id
  | _ => rfl

/-- A prompt that comes to its end takes no line that was not collected. -/
theorem weight_promptEntries {pending : Option PendingPrompt}
    (h : ∀ p, pending = some p → ∀ l ∈ p.lines, '\n' ∉ l) :
    totalWeight (promptEntries pending) ≤ pendingWeight pending := by
  cases pending with
  | none => exact Nat.le_refl _
  | some p =>
    have hlines : ∀ l ∈ p.lines.reverse, '\n' ∉ l := fun l hl => h p rfl l (List.mem_reverse.mp hl)
    unfold promptEntries
    dsimp only
    split
    · exact Nat.zero_le _
    · simp only [totalWeight, weight, pendingWeight, List.map_cons, List.map_nil, List.sum_cons,
        List.sum_nil, String.toList_ofList, solidLines_trim, solidLines_joinWith hlines,
        length_solid_reverse]
      omega

theorem weight_enterSection (s : Scan) (heading : List Char) :
    totalWeight (enterSection s heading).2 = 0 := by
  refine totalWeight_eq_zero fun e he => ?_
  rcases mem_enterSection he with rfl | ⟨-, -, rfl⟩
  · rfl
  · rfl

/-- A line that begins with a mark is not blank. -/
theorem length_solid_mark {raw mark rest : List Char} (hmark : mark ≠ [])
    (h : dropStart? mark (trim raw) = some rest) : (solid [raw]).length = 1 := by
  have hne : trim raw ≠ [] := by
    rw [dropStart?_eq_some h]
    exact List.append_ne_nil_of_left_ne_nil hmark rest
  rw [solid_cons_of_ne_nil hne]
  rfl

/-- One line adds at most its own weight, to the entries or to the pending prompt. -/
theorem LineStep.weight_le {s s' : Scan} {n : Nat} {raw : List Char} {es : List Entry}
    (h : LineStep s n raw s' es) (hs : Sane s) (hraw : '\n' ∉ raw) :
    totalWeight es + pendingWeight s'.pending ≤ pendingWeight s.pending + (solid [raw]).length := by
  have hflush := weight_promptEntries fun p hp => (hs.pending p hp).no_newline
  have hnil : totalWeight [] = 0 := rfl
  cases h with
  | @heading heading =>
    rw [totalWeight_append, weight_enterSection, (enterSection_frame s (trim heading)).2,
      pendingWeight]
    omega
  | describes =>
    have hzero : totalWeight [.describe (String.ofList (trimRight raw))] = 0 := rfl
    omega
  | passes =>
    rw [hnil]
    dsimp only
    omega
  | draws =>
    have hzero : totalWeight (flowchartEntries n (trim raw)) = 0 := totalWeight_eq_zero fun e he =>
      weight_chart (fitsChart_of_mem (fun hc => hraw (mem_of_mem_trim hc)) he)
    omega
  | @stranger header =>
    have hzero : totalWeight [.fault (.invalidRole n
      (String.ofList (firstWord (trim header))))] = 0 := rfl
    rw [totalWeight_append, hzero, pendingWeight]
    omega
  | prompt _ _ mark =>
    -- the heading is the line that the prompt weighs before anything is collected
    have hone := length_solid_mark (by decide) mark
    rw [pendingWeight, solid_nil, List.length_nil]
    omega
  | collected =>
    rw [hnil]
    cases s.pending with
    | none => exact Nat.zero_le _
    | some p =>
      have hlines := congrArg List.length (solid_cons raw p.lines)
      rw [List.length_append] at hlines
      rw [Option.map_some, pendingWeight, pendingWeight]
      dsimp only
      omega

/-- The prompts of a scan weigh no more than its lines. -/
theorem weight_scanFrom {s : Scan} (h : Sane s) (n : Nat) {ls : List (List Char)}
    (hls : ∀ l ∈ ls, '\n' ∉ l) :
    totalWeight (scanFrom s n ls) ≤ pendingWeight s.pending + (solid ls).length := by
  induction ls generalizing s n with
  | nil => exact weight_promptEntries fun p hp => (h.pending p hp).no_newline
  | cons l ls ih =>
    have hl := hls l List.mem_cons_self
    have hstep := (lineStep s n l).weight_le h hl
    have hrest := ih (sane_scanLine h n hl).1 (n + 1) fun x hx => hls x (List.mem_cons_of_mem _ hx)
    rw [scanFrom]
    dsimp only
    rw [totalWeight_append, solid_cons, List.length_append]
    omega

/-! ## Swallowed headings -/

/-- A pending prompt is kept, perhaps with the line, or it comes to its end. -/
theorem LineStep.pending_cases {s s' : Scan} {n : Nat} {raw : List Char} {es : List Entry}
    (h : LineStep s n raw s' es) : (∃ fs, es = promptEntries s.pending ++ fs) ∨
      s'.pending = s.pending ∨ s'.pending = s.pending.map (extended [raw]) := by
  cases h with
  | heading | stranger => exact Or.inl ⟨_, rfl⟩
  | prompt => exact Or.inl ⟨[], (List.append_nil _).symm⟩
  | describes | passes | draws => exact Or.inr (Or.inl rfl)
  | collected => exact Or.inr (Or.inr rfl)

/-- A pending prompt that comes to its end has all the lines that it has collected. -/
theorem exists_prompt_of_ended {p : PendingPrompt} (hlines : ∀ l ∈ p.lines, '\n' ∉ l)
    (hsolid : solid p.lines ≠ []) : ∃ content,
      .prompt p.key p.role content ∈ promptEntries (some p) ∧
        (solid p.lines).length ≤ (solidLines content.toList).length := by
  have hcontent : solidLines (joinWith ['\n'] p.lines.reverse) = solid p.lines.reverse :=
    solidLines_joinWith fun l hl => hlines l (List.mem_reverse.mp hl)
  have hlength := length_solid_reverse p.lines
  have hpos := List.length_pos_iff.mpr hsolid
  have hblank : isAllBlank (joinWith ['\n'] p.lines.reverse) = false := by
    refine Bool.eq_false_iff.mpr fun hb => ?_
    rw [← solidLines_eq_nil_iff, hcontent] at hb
    rw [hb] at hlength
    exact absurd hlength (Nat.ne_of_lt hpos)
  refine ⟨String.ofList (trim (joinWith ['\n'] p.lines.reverse)), ?_, ?_⟩
  · simp [promptEntries, hblank]
  · refine Nat.le_of_eq ?_
    rw [String.toList_ofList, solidLines_trim, hcontent, hlength]

/-- A pending prompt comes to its end at last, with at least the lines that it has collected. -/
theorem exists_prompt_of_pending {s : Scan} {p : PendingPrompt} (hp : s.pending = some p) (n : Nat)
    {ls : List (List Char)} (hls : ∀ l ∈ ls, '\n' ∉ l) (hlines : ∀ l ∈ p.lines, '\n' ∉ l)
    (hsolid : solid p.lines ≠ []) : ∃ content, .prompt p.key p.role content ∈ scanFrom s n ls ∧
      (solid p.lines).length ≤ (solidLines content.toList).length := by
  induction ls generalizing s p n with
  | nil =>
    obtain ⟨content, hmem, hle⟩ := exists_prompt_of_ended hlines hsolid
    exact ⟨content, by rw [scanFrom, hp]; exact hmem, hle⟩
  | cons raw ls ih =>
    have hrest : ∀ l ∈ ls, '\n' ∉ l := fun l hl => hls l (List.mem_cons_of_mem _ hl)
    rw [scanFrom]
    dsimp only
    rcases (lineStep s n raw).pending_cases with ⟨fs, hflush⟩ | hsame | hmore
    · obtain ⟨content, hmem, hle⟩ := exists_prompt_of_ended hlines hsolid
      rw [hflush, hp]
      exact ⟨content, List.mem_append_left _ (List.mem_append_left _ hmem), hle⟩
    · obtain ⟨content, hmem, hle⟩ := ih (hsame.trans hp) (n + 1) hrest hlines hsolid
      exact ⟨content, List.mem_append_right _ hmem, hle⟩
    · rw [hp] at hmore
      have hmoreLines : ∀ l ∈ (extended [raw] p).lines, '\n' ∉ l := by
        intro l hl
        rcases List.mem_cons.mp hl with rfl | hl
        · exact hls _ List.mem_cons_self
        · exact hlines l hl
      have hlonger : solid (extended [raw] p).lines = solid [raw] ++ solid p.lines :=
        solid_cons raw p.lines
      have hmoreSolid : solid (extended [raw] p).lines ≠ [] := by
        rw [hlonger]
        exact List.append_ne_nil_of_right_ne_nil _ hsolid
      obtain ⟨content, hmem, hle⟩ := ih hmore (n + 1) hrest hmoreLines hmoreSolid
      refine ⟨content, List.mem_append_right _ hmem, Nat.le_trans ?_ hle⟩
      rw [hlonger, List.length_append]
      omega

theorem no_newline_blocks {ps : List (String × Prompt)} (hfits : ∀ p ∈ ps, PromptFits p.1 p.2) :
    ∀ l ∈ (ps.flatMap promptBlock).map dropCarriageReturn, '\n' ∉ l := by
  refine not_mem_of_mem_map_dropCarriageReturn fun l hl => ?_
  obtain ⟨p, hp, hl⟩ := List.mem_flatMap.mp hl
  exact no_newline_promptBlock (hfits p hp) l hl

/-- A heading of a prompt weighs one line. -/
theorem length_solid_header {key : String} {role : Role} (h : KeyFits key role) :
    (solid [dropCarriageReturn (promptMark ++ key.toList)]).length = 1 := by
  have hne : key.toList ≠ [] := fun hc => h.ne_empty (String.toList_eq_nil_iff.mp hc)
  have hmark := (dropStart?_mark promptMark rfl hne h.tight).2
  rw [← trim_dropCarriageReturn] at hmark
  exact length_solid_mark (by decide) hmark

/-- With a fence left open, a prompt takes the heading behind it for one more of its lines. -/
theorem exists_longer_prompt (named : Bool) (n : Nat) (p : String × Prompt) {q : String × Prompt}
    {ps : List (String × Prompt)} (hfits : ∀ x ∈ q :: ps, PromptFits x.1 x.2) : ∃ content,
      .prompt p.1 p.2.role content ∈ scanFrom (prompting named true (some (collected p.1 p.2))) n
          (((q :: ps).flatMap promptBlock).map dropCarriageReturn) ∧
        (solidLines p.2.content.toList).length < (solidLines content.toList).length := by
  let raw := dropCarriageReturn (promptMark ++ q.1.toList)
  have hlines : ((q :: ps).flatMap promptBlock).map dropCarriageReturn =
      raw :: (contentLines q.2.content ++ ps.flatMap promptBlock).map dropCarriageReturn := by
    rw [List.flatMap_cons, promptBlock, List.cons_append, List.map_cons]
  have hall := no_newline_blocks hfits
  rw [hlines] at hall ⊢
  have hlonger : (extended [raw] (collected p.1 p.2)).lines = raw :: (collected p.1 p.2).lines :=
    rfl
  have hsolid : (solid (extended [raw] (collected p.1 p.2)).lines).length =
      (solidLines p.2.content.toList).length + 1 := by
    rw [hlonger, solid_cons, List.length_append,
      length_solid_header (hfits q List.mem_cons_self).key, collected, length_solid_reverse,
      solid_contentLines, Nat.add_comm]
  have hcollected : ∀ l ∈ (extended [raw] (collected p.1 p.2)).lines, '\n' ∉ l := by
    intro l hl
    rcases List.mem_cons.mp hl with rfl | hl
    · exact hall _ List.mem_cons_self
    · exact not_mem_of_mem_map_dropCarriageReturn (no_newline_contentLines _) l
        (List.mem_reverse.mp hl)
  obtain ⟨content, hmem, hle⟩ := exists_prompt_of_pending
    (s := prompting named (toggled true (trim raw)) (some (extended [raw] (collected p.1 p.2))))
    rfl (n + 1) (fun l hl => hall l (List.mem_cons_of_mem _ hl)) hcollected
    (List.length_pos_iff.mp (by omega))
  refine ⟨content, ?_, by omega⟩
  rw [scanFrom, scanLine_hidden _ _ _ _ (by simp)]
  exact hmem

/-- A prompt other than the last that leaves a fence open swallows the heading behind it: some
entry under its name is longer than its text. -/
theorem closed_or_longer (named : Bool) (pending : Option PendingPrompt) (n : Nat)
    {ps : List (String × Prompt)} (hfits : ∀ p ∈ ps, PromptFits p.1 p.2) :
    (∀ p ∈ ps.dropLast, Closed p.2.content) ∨ ∃ p ∈ ps, ∃ content,
      .prompt p.1 p.2.role content ∈ scanFrom (prompting named false pending) n
          ((ps.flatMap promptBlock).map dropCarriageReturn) ∧
        (solidLines p.2.content.toList).length < (solidLines content.toList).length := by
  induction ps generalizing pending n with
  | nil => exact Or.inl fun _ hp => absurd hp List.not_mem_nil
  | cons p ps ih =>
    have hp := hfits p List.mem_cons_self
    have hps : ∀ x ∈ ps, PromptFits x.1 x.2 := fun x hx => hfits x (List.mem_cons_of_mem _ hx)
    cases ps with
    | nil => exact Or.inl fun _ hp => absurd hp List.not_mem_nil
    | cons q ps =>
      let behind := n + (List.map dropCarriageReturn (promptBlock p)).length
      rw [List.flatMap_cons, List.map_append, (scans_promptBlock named pending n hp).scanFrom]
      cases hfence : afterFences false (solidLines p.2.content.toList) with
      | false =>
        rcases ih (some (collected p.1 p.2)) behind hps with hclosed | ⟨x, hx, content, hmem, hlt⟩
        · left
          intro x hx
          rcases List.mem_cons.mp hx with rfl | hx
          · exact hfence
          · exact hclosed x hx
        · exact Or.inr ⟨x, List.mem_cons_of_mem _ hx, content, List.mem_append_right _ hmem, hlt⟩
      | true =>
        obtain ⟨content, hmem, hlt⟩ := exists_longer_prompt named behind p hps
        exact Or.inr ⟨p, List.mem_cons_self, content, List.mem_append_right _ hmem, hlt⟩

/-- Distinct entries weigh no more than any list that holds all of them. -/
theorem totalWeight_le_of_nodup {es fs : List Entry} (h : es.Nodup) (hsub : es ⊆ fs) :
    totalWeight es ≤ totalWeight fs := by
  obtain ⟨gs, hperm, hsublist⟩ := List.subperm_of_subset h hsub
  have hsame : totalWeight gs = totalWeight es := (hperm.map weight).sum_eq
  rw [← hsame]
  exact (hsublist.map weight).sum_le_sum fun _ _ => Nat.zero_le _

/-- The entry of a prompt that is read as it was written. -/
def sameEntry (p : String × Prompt) : Entry := .prompt p.1 p.2.role p.2.content

theorem nodup_map_sameEntry {ps : List (String × Prompt)} (h : (ps.map Prod.fst).Nodup) :
    (ps.map sameEntry).Nodup := by
  induction ps with
  | nil => exact List.nodup_nil
  | cons p ps ih =>
    rw [List.map_cons, List.nodup_cons] at h ⊢
    refine ⟨fun hc => h.1 ?_, ih h.2⟩
    obtain ⟨q, hq, heq⟩ := List.mem_map.mp hc
    simp only [sameEntry, Entry.prompt.injEq] at heq
    exact List.mem_map.mpr ⟨q, hq, heq.1⟩

theorem length_solid_blocks (ps : List (String × Prompt)) (hfits : ∀ p ∈ ps, PromptFits p.1 p.2) :
    (solid ((ps.flatMap promptBlock).map dropCarriageReturn)).length =
      totalWeight (ps.map sameEntry) := by
  induction ps with
  | nil => rfl
  | cons p ps ih =>
    have hp := hfits p List.mem_cons_self
    have hne : p.1.toList ≠ [] := fun hc => hp.key.ne_empty (String.toList_eq_nil_iff.mp hc)
    have hone := length_solid_mark (by decide)
      (dropStart?_mark promptMark rfl hne hp.key.tight).2
    have hrest := ih fun x hx => hfits x (List.mem_cons_of_mem _ hx)
    rw [solid_map_dropCarriageReturn] at hrest ⊢
    have hcontent := congrArg List.length (solid_contentLines p.2.content)
    rw [solid_map_dropCarriageReturn] at hcontent
    rw [List.flatMap_cons, solid_append, List.length_append, hrest, promptBlock, solid_cons,
      List.length_append, hone, hcontent, List.map_cons, ← List.singleton_append,
      totalWeight_append]
    simp only [totalWeight, sameEntry, weight, List.map_cons, List.map_nil, List.sum_cons,
      List.sum_nil]
    omega

/-- If all prompts come back as they were written, then every prompt but the last closes its
fences, and none has a carriage return at the end of a line. -/
theorem closed_of_reread (named : Bool) (n : Nat) {ps : List (String × Prompt)}
    (hfits : ∀ p ∈ ps, PromptFits p.1 p.2) (hkeys : (ps.map Prod.fst).Nodup)
    (h : ∀ p ∈ ps, sameEntry p ∈ scanFrom (prompting named false none) n
      ((ps.flatMap promptBlock).map dropCarriageReturn)) :
    (∀ p ∈ ps.dropLast, Closed p.2.content) ∧
      ∀ p ∈ ps, ¬ ['\r', '\n'] <:+: p.2.content.toList := by
  have hclosed : ∀ p ∈ ps.dropLast, Closed p.2.content := by
    rcases closed_or_longer named none n hfits with hclosed | ⟨p, hp, content, hmem, hlt⟩
    · exact hclosed
    · exfalso
      have hsane : Sane (prompting named false none) := ⟨nofun, nofun⟩
      have hle := weight_scanFrom hsane n (no_newline_blocks hfits)
      have hnew : .prompt p.1 p.2.role content ∉ ps.map sameEntry := by
        intro hc
        obtain ⟨q, hq, heq⟩ := List.mem_map.mp hc
        simp only [sameEntry, Entry.prompt.injEq] at heq
        have hsame : q = p := Table.eq_of_key hkeys hq hp heq.1
        rw [← heq.2.2, hsame] at hlt
        omega
      have hsum := totalWeight_le_of_nodup
        (List.nodup_cons.mpr ⟨hnew, nodup_map_sameEntry hkeys⟩) fun e he => by
          rcases List.mem_cons.mp he with rfl | he
          · exact hmem
          · obtain ⟨q, hq, rfl⟩ := List.mem_map.mp he
            exact h q hq
      rw [length_solid_blocks ps hfits] at hle
      simp only [totalWeight, List.map_cons, List.sum_cons, weight, pendingWeight, prompting]
        at hle hsum
      omega
  refine ⟨hclosed, fun p hp => (rereadContent_eq_iff (hfits p hp).tight).mp ?_⟩
  have hmem := h p hp
  rw [scanFrom_prompts named none n hfits hclosed] at hmem
  obtain ⟨q, hq, heq⟩ := List.mem_map.mp hmem
  simp only [rereadEntry, sameEntry, Entry.prompt.injEq] at heq
  exact Table.eq_of_key hkeys hq hp heq.1 ▸ heq.2.2

end Playbook.Document
