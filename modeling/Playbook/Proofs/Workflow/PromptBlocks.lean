/-
  Prompts, written and read again. As long as every prompt but the last closes the fences that it
  opens, each gives one entry (`scanFrom_prompts`); its text loses carriage returns at the ends of
  lines, and nothing else (`rereadContent_eq_iff`).
-/
import Playbook.Proofs.Workflow.DocumentScan

namespace Playbook.Document

open Playbook.Text Playbook.Flowchart Playbook.Workflow

/-! ## Fences -/

/-- Whether the fences of a text are closed at its end. -/
def Closed (content : String) : Prop := afterFences false (solidLines content.toList) = false

/-- The number of lines of a text that begin with a fence. -/
def fenceLines (content : String) : Nat :=
  (pieces '\n' content.toList).countP fun line => fence.isPrefixOf (trim line)

theorem afterFences_solid_cons (inFence : Bool) (l : List Char) (ls : List (List Char)) :
    afterFences inFence (solid (l :: ls)) = afterFences (toggled inFence (trim l)) (solid ls) := by
  rw [solid_cons, afterFences_append, afterFences_solid]

/-- Fences are closed by every second of their lines. -/
theorem closed_iff (content : String) : Closed content ↔ fenceLines content % 2 = 0 := by
  have hall : ∀ (ls : List (List Char)) (b : Bool), afterFences b (solid ls) =
      (b ^^ decide (ls.countP (fun line => fence.isPrefixOf (trim line)) % 2 = 1)) := by
    intro ls
    induction ls with
    | nil => simp [afterFences]
    | cons l ls ih =>
      intro b
      rw [afterFences_solid_cons, ih, List.countP_cons, toggled]
      by_cases hfence : fence.isPrefixOf (trim l)
      · rcases Nat.mod_two_eq_zero_or_one (ls.countP fun line => fence.isPrefixOf (trim line)) with
          hp | hp
        · simp [hfence, hp, Nat.add_mod]
        · simp [hfence, hp, Nat.add_mod]
      · simp [hfence]
  rw [Closed, solidLines, hall, fenceLines]
  simp

/-! ## Contents read again -/

/-- A text as it is read again: every line loses a carriage return at its end. -/
def rereadContent (content : String) : String :=
  String.ofList (trim (joinWith ['\n'] ((pieces '\n' content.toList).map dropCarriageReturn)))

theorem length_dropCarriageReturn_le (l : List Char) :
    (dropCarriageReturn l).length ≤ l.length := by
  obtain ⟨r, hr, _, _⟩ := exists_dropCarriageReturn l
  have := congrArg List.length hr
  rw [List.length_append] at this
  omega

theorem length_unlines_map_le (ls : List (List Char)) :
    (unlines (ls.map dropCarriageReturn)).length ≤ (unlines ls).length := by
  induction ls with
  | nil => exact Nat.le_refl _
  | cons l ls ih =>
    have hl := length_dropCarriageReturn_le l
    rw [List.map_cons, unlines_cons, unlines_cons, List.length_append, List.length_append,
      List.length_cons, List.length_cons]
    omega

/-- A text with a carriage return at the end of a line is not read again. -/
theorem rereadContent_ne {content : String} (h : ['\r', '\n'] <:+: content.toList) :
    rereadContent content ≠ content := by
  obtain ⟨a, b, hcontent⟩ := h
  obtain ⟨ps, p, q, qs, _, hr, hfront⟩ := exists_pieces_append '\n' a ['\r']
  obtain ⟨rfl, rfl⟩ := List.cons.inj (hr : [['\r']] = q :: qs)
  have hpieces : pieces '\n' content.toList = ps ++ (p ++ ['\r']) :: pieces '\n' b := by
    have hline := pieces_append_cons '\n' (a ++ ['\r']) b
    rw [hfront] at hline
    rw [← hcontent]
    simpa using hline
  have hdrop : dropCarriageReturn (p ++ ['\r']) = p := by simp [dropCarriageReturn]
  have hbefore := congrArg List.length (unlines_pieces content.toList)
  have hne : (pieces '\n' content.toList).map dropCarriageReturn ≠ [] := by simp [pieces_ne_nil]
  have hafter := congrArg List.length (unlines_eq_joinWith hne)
  have htrim := length_trim_le
    (joinWith ['\n'] ((pieces '\n' content.toList).map dropCarriageReturn))
  have hps := length_unlines_map_le ps
  have hrest := length_unlines_map_le (pieces '\n' b)
  intro heq
  have hlen := congrArg (fun s => s.toList.length) heq
  simp only [rereadContent, String.toList_ofList] at hlen
  simp only [hpieces, List.map_append, List.map_cons, hdrop, unlines_append, unlines_cons,
    List.length_append, List.length_cons, List.length_nil] at hbefore hafter hlen htrim
  omega

/-- A text is read again exactly if no line of it ends with a carriage return. -/
theorem rereadContent_eq_iff {content : String} (ht : Tight content.toList) :
    rereadContent content = content ↔ ¬ ['\r', '\n'] <:+: content.toList := by
  refine ⟨fun h hc => rereadContent_ne hc h, fun h => ?_⟩
  have hkeep : (pieces '\n' content.toList).map dropCarriageReturn =
      pieces '\n' content.toList := by
    refine (List.map_congr_left fun l hl => ?_).trans (List.map_id _)
    refine dropCarriageReturn_eq_self fun hlast => ?_
    obtain ⟨pre, rfl⟩ := List.getLast?_eq_some_iff.mp hlast
    obtain ⟨front, back, hjoin, hback⟩ := exists_of_mem_joinWith ['\n'] hl
    rw [joinWith_pieces] at hjoin
    rcases hback with rfl | ⟨b, rfl⟩
    · exact absurd (ht.2 '\r' (by rw [hjoin]; simp)) (by decide)
    · exact h ⟨front ++ pre, b, by rw [hjoin]; simp⟩
  rw [rereadContent, hkeep, joinWith_pieces, ht.trim_eq, String.ofList_toList]

/-! ## Passes over prompts -/

/-- A pending prompt with more lines. -/
def extended (ls : List (List Char)) (p : PendingPrompt) : PendingPrompt :=
  { p with lines := ls.reverse ++ p.lines }

theorem map_extended_nil (pending : Option PendingPrompt) :
    pending.map (extended []) = pending := by
  cases pending <;> rfl

theorem map_extended_cons (pending : Option PendingPrompt) (l : List Char)
    (ls : List (List Char)) :
    (pending.map (extended [l])).map (extended ls) = pending.map (extended (l :: ls)) := by
  cases pending <;> simp [extended]

/-- A line of a prompt that is no heading is collected. -/
theorem scanLine_hidden (named inFence : Bool) (pending : Option PendingPrompt) (n : Nat)
    {raw : List Char} (h : inFence = false → dropStart? sectionMark (trim raw) = none ∧
      dropStart? promptMark (trim raw) = none) :
    scanLine (prompting named inFence pending) n raw =
      (prompting named (toggled inFence (trim raw)) (pending.map (extended [raw])), []) := by
  cases inFence with
  | true => rfl
  | false =>
    obtain ⟨hsection, hprompt⟩ := h rfl
    change dropStart? "# ".toList _ = _ at hsection
    change dropStart? "## ".toList _ = _ at hprompt
    simp only [scanLine, prompting, Bool.false_eq_true, if_false, hsection, promptLine, hprompt]
    rfl

theorem scans_hidden (named inFence : Bool) (pending : Option PendingPrompt) (n : Nat)
    {ls : List (List Char)} (h : Hidden inFence (solid ls)) :
    Scans (prompting named inFence pending) n ls []
      (prompting named (afterFences inFence (solid ls)) (pending.map (extended ls))) := by
  induction ls generalizing inFence pending n with
  | nil =>
    rw [map_extended_nil]
    exact .nil _ n
  | cons l ls ih =>
    rw [solid_cons, hidden_append, hidden_solid, afterFences_solid] at h
    have hrest := ih (toggled inFence (trim l)) (pending.map (extended [l])) (n + 1) h.2
    rw [map_extended_cons] at hrest
    rw [afterFences_solid_cons]
    exact .silent (scanLine_hidden named inFence pending n h.1) hrest

/-- A heading ends the prompt before it and begins a new one. -/
theorem scanLine_prompt (named : Bool) (pending : Option PendingPrompt) (n : Nat) {key : String}
    {role : Role} (h : KeyFits key role) :
    scanLine (prompting named false pending) n (promptMark ++ key.toList) =
      (prompting named false (some { key, role }), promptEntries pending) := by
  have hne : key.toList ≠ [] := fun hc => h.ne_empty (String.toList_eq_nil_iff.mp hc)
  obtain ⟨htrim, hprompt⟩ := dropStart?_mark promptMark rfl hne h.tight
  have hsection : dropStart? "# ".toList (trim (promptMark ++ key.toList)) = none := by
    rw [htrim]
    rfl
  change dropStart? "## ".toList _ = _ at hprompt
  simp only [scanLine, prompting, Bool.false_eq_true, if_false, hsection, promptLine, hprompt,
    h.tight.trim_eq, h.role, String.ofList_toList]

/-- A prompt whose lines are all collected. -/
def collected (key : String) (p : Prompt) : PendingPrompt :=
  { key, role := p.role, lines := ((contentLines p.content).map dropCarriageReturn).reverse }

theorem solid_contentLines (content : String) :
    solid ((contentLines content).map dropCarriageReturn) = solidLines content.toList := by
  rw [solid_map_dropCarriageReturn, contentLines, List.cons_append, solid_cons_blank rfl,
    solid_append, solidLines]
  exact List.append_nil _

theorem scans_promptBlock (named : Bool) (pending : Option PendingPrompt) (n : Nat) {key : String}
    {p : Prompt} (h : PromptFits key p) :
    Scans (prompting named false pending) n ((promptBlock (key, p)).map dropCarriageReturn)
      (promptEntries pending)
      (prompting named (afterFences false (solidLines p.content.toList))
        (some (collected key p))) := by
  have hne : key.toList ≠ [] := fun hc => h.key.ne_empty (String.toList_eq_nil_iff.mp hc)
  have hkeep : dropCarriageReturn (promptMark ++ key.toList) = promptMark ++ key.toList := by
    rw [← (dropStart?_mark promptMark rfl hne h.key.tight).1]
    exact (tight_trim _).dropCarriageReturn_eq
  have hhidden : Hidden false (solid ((contentLines p.content).map dropCarriageReturn)) := by
    rw [solid_contentLines]
    exact h.hidden
  have hcontent := scans_hidden named false (some { key, role := p.role }) (n + 1) hhidden
  rw [solid_contentLines, Option.map_some, extended, List.append_nil] at hcontent
  have hall := Scans.cons (scanLine_prompt named pending n h.key) hcontent
  rw [List.append_nil] at hall
  rw [promptBlock, List.map_cons, hkeep]
  exact hall

/-- The entry of a prompt that is written and read again. -/
def rereadEntry (p : String × Prompt) : Entry :=
  .prompt p.1 p.2.role (rereadContent p.2.content)

theorem promptEntries_collected {key : String} {p : Prompt} (h : PromptFits key p) :
    promptEntries (some (collected key p)) = [rereadEntry (key, p)] := by
  let ls := (pieces '\n' p.content.toList).map dropCarriageReturn
  have hls : ls ≠ [] := by simp [ls, pieces_ne_nil]
  have hjoin : joinWith ['\n'] ((contentLines p.content).map dropCarriageReturn) =
      ['\n'] ++ (joinWith ['\n'] ls ++ ['\n']) := by
    have hlines : (contentLines p.content).map dropCarriageReturn = [] :: (ls ++ [[]]) := by
      simp [contentLines, ls, dropCarriageReturn]
    rw [hlines, joinWith_cons (by simp), List.nil_append, joinWith_concat hls, List.append_nil]
  have htrim : trim (joinWith ['\n'] ((contentLines p.content).map dropCarriageReturn)) =
      trim (joinWith ['\n'] ls) := by
    rw [hjoin, trim_blank_append (by decide), trim_append_blank _ (by decide)]
  have hsolid : isAllBlank (joinWith ['\n'] ((contentLines p.content).map dropCarriageReturn)) =
      false := by
    refine Bool.eq_false_iff.mpr fun hb => h.ne_empty ?_
    have hblank := solidLines_eq_nil_iff.mpr hb
    rw [solidLines_joinWith (not_mem_of_mem_map_dropCarriageReturn (no_newline_contentLines _)),
      solid_contentLines] at hblank
    have htight := h.tight.trim_eq
    rw [trim_eq_nil_iff.mpr (solidLines_eq_nil_iff.mp hblank)] at htight
    exact String.toList_eq_nil_iff.mp htight.symm
  simp only [promptEntries, collected, List.reverse_reverse, hsolid, htrim, Bool.false_eq_true,
    if_false]
  rfl

/-- As long as every prompt but the last closes its fences, each gives its entry. -/
theorem scanFrom_prompts (named : Bool) (pending : Option PendingPrompt) (n : Nat)
    {ps : List (String × Prompt)} (hfits : ∀ p ∈ ps, PromptFits p.1 p.2)
    (hclosed : ∀ p ∈ ps.dropLast, Closed p.2.content) :
    scanFrom (prompting named false pending) n ((ps.flatMap promptBlock).map dropCarriageReturn) =
      promptEntries pending ++ ps.map rereadEntry := by
  induction ps generalizing pending n with
  | nil => exact (List.append_nil _).symm
  | cons p ps ih =>
    have hp := hfits p List.mem_cons_self
    rw [List.flatMap_cons, List.map_append,
      (scans_promptBlock named pending n hp).scanFrom]
    congr 1
    cases ps with
    | nil => exact promptEntries_collected hp
    | cons q ps =>
      have hone : Closed p.2.content := hclosed p List.mem_cons_self
      rw [hone, ih _ _ (fun x hx => hfits x (List.mem_cons_of_mem _ hx))
        (fun x hx => hclosed x (List.mem_cons_of_mem _ hx)), promptEntries_collected hp]
      rfl

end Playbook.Document
