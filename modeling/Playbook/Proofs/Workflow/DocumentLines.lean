/-
  A written document as lines. Every line of it is given as a list of characters; none holds a line
  feed (`no_newline_documentLines`), so a reader of the document gets these lines back.
-/
import Playbook.Proofs.Workflow.EdgeLines
import Playbook.Proofs.Workflow.ParamsLine
import Playbook.Proofs.Workflow.Script

namespace Playbook.Flowchart

open Playbook.Text Playbook.Workflow Playbook.Document

/-! ## The flowchart -/

/-- The lines of an item. -/
def Item.lines : Item → List (List Char)
  | node a => [' ' :: ' ' :: nodeText a]
  | edge a branch target => [' ' :: ' ' :: edgeText a branch target]
  | heading name => [[], "  %% Event-handler: ".toList ++ name.toList]

theorem toList_itemText (i : Item) : i.text.toList = unlines i.lines := by
  cases i with
  | node a =>
    change (nodeLine a).toList = unlines [' ' :: ' ' :: nodeText a]
    rw [toList_nodeLine, unlines_cons, unlines_nil]
  | edge a branch target =>
    change (edgeLine a branch target).toList = unlines [' ' :: ' ' :: edgeText a branch target]
    rw [toList_edgeLine, unlines_cons, unlines_nil]
  | heading name =>
    have hstart : "\n  %% Event-handler: ".toList = '\n' :: "  %% Event-handler: ".toList := by
      decide
    have hend : "\n".toList = ['\n'] := by decide
    change ("\n  %% Event-handler: " ++ name ++ "\n").toList =
      unlines [[], "  %% Event-handler: ".toList ++ name.toList]
    rw [String.toList_append, String.toList_append, hstart, hend, unlines_cons, unlines_cons,
      unlines_nil, List.nil_append, List.cons_append, List.cons_append, List.append_assoc]

theorem toList_appendItems (text : String) (is : List Item) :
    (appendItems text is).toList = text.toList ++ unlines (is.flatMap Item.lines) := by
  induction is generalizing text with
  | nil => simp [appendItems]
  | cons i is ih =>
    change (appendItems (text ++ i.text) is).toList = _
    rw [ih, String.toList_append, toList_itemText, List.flatMap_cons, unlines_append,
      List.append_assoc]

/-- The line of the parameters, if there are any. -/
def paramsLines (w : Workflow) : List (List Char) :=
  if w.params.entries = [] then [] else [' ' :: ' ' :: paramsText w.params.entries]

theorem toList_paramsLine_lines (w : Workflow) :
    (paramsLine w).toList = unlines (paramsLines w) := by
  by_cases h : w.params.entries = []
  · simp [paramsLine, paramsLines, Table.isEmpty, h]
  · simpa [paramsLines, h] using toList_paramsLine h

theorem no_newline_paramsLines {w : Workflow}
    (hw : ∀ p ∈ w.params.entries, '\n' ∉ p.1.toList ∧ '\n' ∉ p.2.toList) :
    ∀ l ∈ paramsLines w, '\n' ∉ l := by
  intro l hl
  unfold paramsLines at hl
  split at hl
  · cases hl
  · rw [List.mem_singleton.mp hl]
    have hfront : '\n' ∉ ' ' :: ' ' :: paramsName ++ '@' :: labelStart := by decide
    have hpairs : '\n' ∉ joinWith [',', ' '] (w.params.entries.map pairText) := by
      refine not_mem_joinWith (by decide) fun t ht => ?_
      obtain ⟨p, hp, rfl⟩ := List.mem_map.mp ht
      simp [pairText, hw p hp]
    have hline : ' ' :: ' ' :: paramsText w.params.entries =
        (' ' :: ' ' :: paramsName ++ '@' :: labelStart) ++
          quoted (joinWith [',', ' '] (w.params.entries.map pairText)) ++ [' ', '\x7d'] := by
      simp only [paramsText, paramsAttributes, List.append_assoc, List.cons_append]
    rw [hline, List.mem_append, List.mem_append, not_or, not_or]
    refine ⟨⟨hfront, ?_⟩, by decide⟩
    simpa [quoted] using hpairs

theorem no_newline_node {a : Activity} (hname : '\n' ∉ a.name.toList)
    (hexpression : '\n' ∉ a.expression.toList) : ∀ l ∈ (Item.node a).lines, '\n' ∉ l := by
  intro l hl
  rw [List.mem_singleton.mp hl]
  simp [nodeText, hname, (shaped_shape a).no_newline hexpression]

theorem no_newline_edge {a : Activity} {target : String} (hname : '\n' ∉ a.name.toList)
    (htarget : '\n' ∉ target.toList) (branch : Branch) :
    ∀ l ∈ (Item.edge a branch target).lines, '\n' ∉ l := by
  intro l hl
  rw [List.mem_singleton.mp hl]
  have hlabel : '\n' ∉ (edgeLabel a.kind branch).toList := by
    cases a.kind <;> cases branch <;> decide
  simp [edgeText, arrow, hname, hlabel, htarget]

theorem no_newline_heading {name : String} (hname : '\n' ∉ name.toList) :
    ∀ l ∈ (Item.heading name).lines, '\n' ∉ l := by
  have hstart : '\n' ∉ "  %% Event-handler: ".toList := by decide
  intro l hl
  rcases List.mem_cons.mp hl with rfl | hl
  · exact List.not_mem_nil
  · rw [List.mem_singleton.mp hl, List.mem_append, not_or]
    exact ⟨hstart, hname⟩

theorem no_newline_item {w : Workflow} (hw : Assembled w) {i : Item} (hi : i.BelongsTo w) :
    ∀ l ∈ i.lines, '\n' ∉ l := by
  have hnames : ∀ x, w.activities.contains x → '\n' ∉ x.toList := by
    intro x hx
    obtain ⟨k, hname⟩ := hw.names_of_contains hx
    exact hname.not_mem (by decide)
  cases i with
  | node a =>
    exact no_newline_node (hnames _ (Option.isSome_of_mem hi)) (hw.expressions _ _ hi).2
  | edge a branch target =>
    obtain ⟨ha, ht⟩ := hi
    exact no_newline_edge (hnames _ (Option.isSome_of_mem ha))
      (hnames _ (hw.targets _ _ _ _ ha ht)) branch
  | heading name => exact no_newline_heading (hnames _ hi)

end Playbook.Flowchart

namespace Playbook.Workflow

open Playbook.Text Playbook.Document Playbook.Flowchart

/-! ## The parts of a document -/

/-- The heading and the description. -/
def preambleLines (w : Workflow) : List (List Char) :=
  (if w.name = "" then [] else [sectionMark ++ w.name.toList, []]) ++
    if w.description = "" then [] else pieces '\n' w.description.toList ++ [[]]

/-- The lines of the section with the flowchart. -/
def chartLines (w : Workflow) (is : List Item) : List (List Char) :=
  ["# Workflow".toList, "```mermaid".toList, "flowchart TD".toList] ++
    (paramsLines w ++ is.flatMap Item.lines) ++ [fence]

/-- The lines of a prompt behind its heading. -/
def contentLines (content : String) : List (List Char) :=
  [] :: pieces '\n' content.toList ++ [[]]

/-- The lines of a prompt. -/
def promptBlock (p : String × Prompt) : List (List Char) :=
  (promptMark ++ p.1.toList) :: contentLines p.2.content

/-- The lines of a document with these items in its flowchart. -/
def documentLines (w : Workflow) (is : List Item) : List (List Char) :=
  preambleLines w ++ chartLines w is ++ [[], "# Prompts".toList, []] ++
    w.prompts.entries.flatMap promptBlock

theorem toList_paragraph (mark text : String) : (paragraph mark text).toList =
    if text = "" then [] else mark.toList ++ text.toList ++ ['\n', '\n'] := by
  have hend : "\n\n".toList = ['\n', '\n'] := by decide
  by_cases h : text = ""
  · simp [paragraph, h]
  · simp [paragraph, h, hend]

theorem toList_preamble (w : Workflow) :
    (paragraph "# " w.name ++ paragraph "" w.description).toList = unlines (preambleLines w) := by
  rw [String.toList_append, toList_paragraph, toList_paragraph, preambleLines, unlines_append]
  congr 1
  · split
    · rfl
    · simp [sectionMark]
  · split
    · rfl
    · simp [unlines_pieces]

theorem toList_prompts (ps : List (String × Prompt)) :
    (String.join (ps.map fun (key, p) => "## " ++ key ++ "\n\n" ++ p.content ++ "\n\n")).toList =
      unlines (ps.flatMap promptBlock) := by
  have hend : "\n\n".toList = ['\n', '\n'] := by decide
  have hone : ∀ p : String × Prompt, ("## " ++ p.1 ++ "\n\n" ++ p.2.content ++ "\n\n").toList =
      unlines (promptBlock p) := by
    intro p
    simp [promptBlock, contentLines, promptMark, unlines_pieces, hend]
  rw [String.toList_join, List.flatMap_map]
  induction ps with
  | nil => rfl
  | cons p ps ih => rw [List.flatMap_cons, List.flatMap_cons, unlines_append, ← hone p, ← ih]

/-- A document, line by line. -/
theorem toList_document {w : Workflow} {is : List Item}
    (h : (body w).text = appendItems "" is) : w.document.toList = unlines (documentLines w is) := by
  have hstart : "# Workflow\n```mermaid\nflowchart TD\n".toList =
      unlines ["# Workflow".toList, "```mermaid".toList, "flowchart TD".toList] := by decide
  have hend : "```\n".toList = unlines [fence] := by decide
  have hprompts : "\n# Prompts\n\n".toList = unlines [[], "# Prompts".toList, []] := by decide
  unfold document flowchart documentLines chartLines
  dsimp only
  rw [h, unlines_append, unlines_append, unlines_append, ← toList_preamble, ← toList_prompts,
    ← hprompts, unlines_append, unlines_append, unlines_append, ← hstart, ← hend,
    ← toList_paramsLine_lines]
  simp only [String.toList_append, toList_appendItems, List.append_assoc, String.toList_empty,
    List.nil_append]

/-! ## No line feeds -/

theorem no_newline_preambleLines {w : Workflow} (hw : Assembled w) :
    ∀ l ∈ preambleLines w, '\n' ∉ l := by
  intro l hl
  rcases List.mem_append.mp hl with hl | hl
  · split at hl
    · cases hl
    · next hname =>
      have hmark : '\n' ∉ sectionMark := by decide
      rcases List.mem_cons.mp hl with rfl | hl
      · rw [List.mem_append, not_or]
        exact ⟨hmark, (hw.name hname).no_newline⟩
      · exact List.mem_singleton.mp hl ▸ List.not_mem_nil
  · split at hl
    · cases hl
    · rcases List.mem_append.mp hl with hl | hl
      · exact not_mem_of_mem_pieces hl
      · exact List.mem_singleton.mp hl ▸ List.not_mem_nil

theorem no_newline_contentLines (content : String) : ∀ l ∈ contentLines content, '\n' ∉ l := by
  intro l hl
  rcases List.mem_append.mp hl with hl | hl
  · rcases List.mem_cons.mp hl with rfl | hl
    · exact List.not_mem_nil
    · exact not_mem_of_mem_pieces hl
  · exact List.mem_singleton.mp hl ▸ List.not_mem_nil

theorem no_newline_promptBlock {key : String} {p : Prompt} (hp : PromptFits key p) :
    ∀ l ∈ promptBlock (key, p), '\n' ∉ l := by
  have hmark : '\n' ∉ promptMark := by decide
  intro l hl
  rcases List.mem_cons.mp hl with rfl | hl
  · rw [List.mem_append, not_or]
    exact ⟨hmark, hp.key.no_newline⟩
  · exact no_newline_contentLines _ l hl

/-- No line of a document holds a line feed. -/
theorem no_newline_documentLines {w : Workflow} (hw : Assembled w) {is : List Item}
    (his : ∀ i ∈ is, i.BelongsTo w) : ∀ l ∈ documentLines w is, '\n' ∉ l := by
  have hchart : ∀ l ∈ ["# Workflow".toList, "```mermaid".toList, "flowchart TD".toList],
      '\n' ∉ l := by decide
  have hprompts : ∀ l ∈ [[], "# Prompts".toList, []], '\n' ∉ l := by decide
  have hfence : ∀ l ∈ [fence], '\n' ∉ l := by decide
  intro l hl
  simp only [documentLines, chartLines, List.mem_append, List.mem_flatMap] at hl
  rcases hl with ((hl | (hl | hl | ⟨i, hi, hl⟩) | hl) | hl) | ⟨p, hp, hl⟩
  · exact no_newline_preambleLines hw l hl
  · exact hchart l hl
  · exact no_newline_paramsLines (fun p hp => (hw.params p hp).no_newline) l hl
  · exact no_newline_item hw (his i hi) l hl
  · exact hfence l hl
  · exact hprompts l hl
  · exact no_newline_promptBlock (hw.prompts p hp) l hl

/-- What a reader of a document gets: its lines, each without one carriage return at its end. -/
theorem lines_document {w : Workflow} (hw : WellFormed w) {is : List Item} {vs : List String}
    (h : Script w is vs) :
    lines w.document.toList = (documentLines w is).map dropCarriageReturn := by
  rw [toList_document (h.text hw.keyed)]
  exact lines_unlines (no_newline_documentLines hw.toAssembled (h.belongs hw))

end Playbook.Workflow
