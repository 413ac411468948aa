/-
  Scanning a written document. A pass over lines adds entries and leads from one scan to another
  (`Scans`); the entries of a document are those of its preamble, its flowchart and its prompts
  (`entries_document`).
-/
import Playbook.Proofs.Workflow.DocumentLines

namespace Playbook.Document

open Playbook.Text Playbook.Flowchart

/-! ## Passes -/

/-- A pass over lines from number `n` on: what it adds and the scan behind it. -/
inductive Scans : Scan → Nat → List (List Char) → List Entry → Scan → Prop
  | nil (s : Scan) (n : Nat) : Scans s n [] [] s
  | cons {s s₁ s₂ : Scan} {n : Nat} {raw : List Char} {ls : List (List Char)} {es fs : List Entry} :
    scanLine s n raw = (s₁, es) → Scans s₁ (n + 1) ls fs s₂ → Scans s n (raw :: ls) (es ++ fs) s₂

theorem Scans.one {s s' : Scan} {n : Nat} {raw : List Char} {es : List Entry}
    (h : scanLine s n raw = (s', es)) : Scans s n [raw] es s' := by
  have := Scans.cons h (.nil s' (n + 1))
  rwa [List.append_nil] at this

/-- A line that adds nothing. -/
theorem Scans.silent {s t u : Scan} {n : Nat} {raw : List Char} {ls : List (List Char)}
    {fs : List Entry} (h : scanLine s n raw = (t, [])) (hrest : Scans t (n + 1) ls fs u) :
    Scans s n (raw :: ls) fs u := Scans.cons h hrest

theorem Scans.append {s s₁ s₂ : Scan} {n : Nat} {ls ms : List (List Char)} {es fs : List Entry}
    (h : Scans s n ls es s₁) (h' : Scans s₁ (n + ls.length) ms fs s₂) :
    Scans s n (ls ++ ms) (es ++ fs) s₂ := by
  induction h with
  | nil => exact h'
  | cons hline _ ih =>
    rw [List.cons_append, List.append_assoc]
    refine .cons hline (ih ?_)
    rwa [Nat.add_assoc, Nat.add_comm 1]

/-- After a pass the scan goes on behind it. -/
theorem Scans.scanFrom {s s' : Scan} {n : Nat} {ls : List (List Char)} {es : List Entry}
    (h : Scans s n ls es s') (rest : List (List Char)) :
    scanFrom s n (ls ++ rest) = es ++ scanFrom s' (n + ls.length) rest := by
  induction h with
  | nil => rfl
  | cons hline _ ih =>
    rw [List.cons_append, Document.scanFrom, hline]
    dsimp only
    rw [ih, List.append_assoc, List.length_cons, Nat.add_assoc, Nat.add_comm 1]

/-! ## The preamble -/

theorem scanLine_blank (named : Bool) (n : Nat) : scanLine { named } n [] = ({ named }, []) := rfl

/-- A line of the description, with the blanks that may stand behind it. -/
theorem scanLine_describes (named : Bool) (n : Nat) {raw : List Char} (hsolid : trim raw ≠ [])
    (hmark : dropStart? sectionMark (trim raw) = none) :
    scanLine { named } n raw = ({ named }, [.describe (String.ofList (trimRight raw))]) := by
  have hmark : dropStart? "# ".toList (trim raw) = none := hmark
  have hempty : (trim raw).isEmpty = false := by simpa using hsolid
  simp only [scanLine, Bool.false_eq_true, if_false, hmark, hempty]

theorem scanLine_describe (named : Bool) (n : Nat) {line : String} (h : LineFits line) :
    scanLine { named } n line.toList = ({ named }, [.describe line]) := by
  rw [scanLine_describes named n h.solid h.no_heading, h.trimmed, String.ofList_toList]

theorem scans_describe (named : Bool) (n : Nat) {ls : List String} (h : ∀ l ∈ ls, LineFits l) :
    Scans { named } n (ls.map String.toList) (ls.map .describe) { named } := by
  induction ls generalizing n with
  | nil => exact .nil _ n
  | cons l ls ih =>
    exact .cons (scanLine_describe named n (h l List.mem_cons_self))
      (ih (n + 1) fun x hx => h x (List.mem_cons_of_mem _ hx))

/-- Behind a mark, a heading is what stands there. -/
theorem dropStart?_mark (mark : List Char) {heading : List Char} (hmark : mark.head? = some '#')
    (hne : heading ≠ []) (ht : Tight heading) :
    trim (mark ++ heading) = mark ++ heading ∧
      dropStart? mark (trim (mark ++ heading)) = some heading := by
  have htight : Tight (mark ++ heading) := by
    refine ⟨fun c hc => ?_, fun c hc => ?_⟩
    · rw [List.head?_append, hmark, Option.some_or, Option.some.injEq] at hc
      rw [← hc]
      decide
    · rw [List.getLast?_append] at hc
      cases hlast : heading.getLast? with
      | none => exact absurd (List.getLast?_eq_none_iff.mp hlast) hne
      | some d =>
        rw [hlast, Option.some_or, Option.some.injEq] at hc
        exact hc ▸ ht.2 d hlast
  exact ⟨htight.trim_eq, by rw [htight.trim_eq, dropStart?_append]⟩

theorem scanLine_heading (n : Nat) {heading : String} (h : HeadingFits heading) :
    scanLine {} n (sectionMark ++ heading.toList) = ({ named := true }, [.name heading]) := by
  have hne : heading.toList ≠ [] := fun hc => h.ne_empty (String.toList_eq_nil_iff.mp hc)
  have hmark : dropStart? "# ".toList (trim (sectionMark ++ heading.toList)) =
      some heading.toList := (dropStart?_mark _ rfl hne h.tight).2
  have hempty : heading.toList.isEmpty = false := by simpa using h.ne_empty
  simp only [scanLine, Bool.false_eq_true, if_false, hmark, h.tight.trim_eq, enterSection,
    h.no_workflow, h.no_prompts, hempty, String.ofList_toList]
  rfl

theorem dropCarriageReturn_heading {heading : String} (h : HeadingFits heading) :
    dropCarriageReturn (sectionMark ++ heading.toList) = sectionMark ++ heading.toList := by
  have htrim := (dropStart?_mark sectionMark rfl
    (fun hc => h.ne_empty (String.toList_eq_nil_iff.mp hc)) h.tight).1
  rw [← htrim]
  exact (tight_trim _).dropCarriageReturn_eq

/-- What the preamble adds: the name, if there is one, and the lines of the description. -/
def preambleEntries (name : String) (ls : List String) : List Entry :=
  (if name = "" then [] else [.name name]) ++ ls.map .describe

theorem LineFits.dropCarriageReturn_eq {line : String} (h : LineFits line) :
    dropCarriageReturn line.toList = line.toList := by
  refine dropCarriageReturn_eq_self fun hc => ?_
  obtain ⟨r, hr, hb, hlast⟩ := exists_trimRight line.toList
  rw [h.trimmed] at hlast
  exact absurd (hlast _ hc) (by decide)

theorem pieces_joinStrings {ls : List String} (h : ∀ l ∈ ls, LineFits l) (hne : ls ≠ []) :
    pieces '\n' (joinStrings "\n" ls).toList = ls.map String.toList := by
  have hsep : "\n".toList = ['\n'] := by decide
  rw [toList_joinStrings, hsep]
  refine pieces_joinWith (by simpa using hne) fun l hl => ?_
  obtain ⟨line, hline, rfl⟩ := List.mem_map.mp hl
  exact (h line hline).no_newline

theorem scans_preamble {w : Workflow} (hw : w.WellFormed) {ls : List String}
    (hls : w.description = joinStrings "\n" ls) (hfits : ∀ l ∈ ls, LineFits l) (n : Nat) :
    ∃ named, Scans {} n (w.preambleLines.map dropCarriageReturn) (preambleEntries w.name ls)
      { named } := by
  have hdescribe : ∀ named n, Scans { named } n
      ((if w.description = "" then [] else pieces '\n' w.description.toList ++ [[]]).map
        dropCarriageReturn) (ls.map .describe) { named } := by
    intro named n
    by_cases hne : ls = []
    · subst hne
      rw [if_pos (show w.description = "" from hls)]
      exact .nil _ n
    · have hdescription : w.description ≠ "" := by
        rw [hls]
        exact Workflow.joinStrings_ne_empty hfits hne
      have hmap : (ls.map String.toList).map dropCarriageReturn = ls.map String.toList := by
        rw [List.map_map]
        exact List.map_congr_left fun l hl => (hfits l hl).dropCarriageReturn_eq
      have hall := (scans_describe named n hfits).append (.one (scanLine_blank named _))
      rw [List.append_nil] at hall
      rw [if_neg hdescription, hls, pieces_joinStrings hfits hne, List.map_append, hmap]
      exact hall
  unfold Workflow.preambleLines preambleEntries
  rw [List.map_append]
  by_cases hname : w.name = ""
  · rw [if_pos hname, if_pos hname]
    exact ⟨false, hdescribe false n⟩
  · have hfitsName := hw.name hname
    rw [if_neg hname, if_neg hname, List.map_cons, dropCarriageReturn_heading hfitsName]
    exact ⟨true, .cons (scanLine_heading n hfitsName)
      (.silent (scanLine_blank true _) (hdescribe true _))⟩

/-! ## The flowchart -/

/-- A scan inside of a flowchart. -/
def charting (named : Bool) : Scan :=
  { current := .workflow, named, inMermaid := true, inFlowchart := true }

/-- A line that is part of the flowchart. -/
def IsChartLine (raw : List Char) : Prop :=
  dropStart? sectionMark (trim raw) = none ∧ fence.isPrefixOf (trim raw) = false

/-- The entries of lines of a flowchart. -/
def chartEntries (n : Nat) : List (List Char) → List Entry
  | [] => []
  | raw :: rest =>
    (if (trim raw).isEmpty then [] else flowchartEntries n (trim raw)) ++ chartEntries (n + 1) rest

theorem chartEntries_append (n : Nat) (ls ms : List (List Char)) :
    chartEntries n (ls ++ ms) = chartEntries n ls ++ chartEntries (n + ls.length) ms := by
  induction ls generalizing n with
  | nil => rfl
  | cons l ls ih =>
    rw [List.cons_append, chartEntries, chartEntries, ih, List.append_assoc, List.length_cons,
      Nat.add_assoc, Nat.add_comm 1]

theorem chartEntries_map_dropCarriageReturn (n : Nat) (ls : List (List Char)) :
    chartEntries n (ls.map dropCarriageReturn) = chartEntries n ls := by
  induction ls generalizing n with
  | nil => rfl
  | cons l ls ih => rw [List.map_cons, chartEntries, chartEntries, trim_dropCarriageReturn, ih]

/-- An entry of a flowchart is one of a line, all of whose entries are entries of the flowchart. -/
theorem of_mem_chartEntries {n : Nat} {ls : List (List Char)} {e : Entry}
    (h : e ∈ chartEntries n ls) : ∃ m, ∃ l ∈ ls, trim l ≠ [] ∧ e ∈ flowchartEntries m (trim l) ∧
      ∀ d ∈ flowchartEntries m (trim l), d ∈ chartEntries n ls := by
  induction ls generalizing n with
  | nil => cases h
  | cons l ls ih =>
    rcases List.mem_append.mp h with h | h
    · split at h
      · cases h
      · next hne =>
        refine ⟨n, l, List.mem_cons_self, by simpa using hne, h, fun d hd => ?_⟩
        refine List.mem_append_left _ ?_
        rwa [if_neg hne]
    · obtain ⟨m, l', hl', hsolid, hmem, hall⟩ := ih h
      exact ⟨m, l', List.mem_cons_of_mem _ hl', hsolid, hmem, fun d hd =>
        List.mem_append_right _ (hall d hd)⟩

theorem scanLine_chart (named : Bool) (n : Nat) {raw : List Char} (h : IsChartLine raw) :
    scanLine (charting named) n raw = (charting named,
      if (trim raw).isEmpty then [] else flowchartEntries n (trim raw)) := by
  have hmark : dropStart? "# ".toList (trim raw) = none := h.1
  have hmermaid := not_mermaid_of_not_fence h.2
  simp only [scanLine, charting, Bool.false_eq_true, if_false, hmark, workflowLine, hmermaid, h.2,
    Bool.true_and, Bool.not_true]
  cases (trim raw).isEmpty <;> rfl

theorem scans_chart (named : Bool) (n : Nat) {ls : List (List Char)} (h : ∀ l ∈ ls, IsChartLine l) :
    Scans (charting named) n ls (chartEntries n ls) (charting named) := by
  induction ls generalizing n with
  | nil => exact .nil _ n
  | cons l ls ih =>
    exact .cons (scanLine_chart named n (h l List.mem_cons_self))
      (ih (n + 1) fun x hx => h x (List.mem_cons_of_mem _ hx))

/-- A line is part of the flowchart if it begins neither like a heading nor like a fence. -/
theorem isChartLine_of_head {raw rest : List Char} {c : Char} (h : trim raw = c :: rest)
    (hc : c ≠ '#' ∧ c ≠ '`') : IsChartLine raw := by
  have hmark : sectionMark = ['#', ' '] := rfl
  have hfence : fence = ['`', '`', '`'] := rfl
  unfold IsChartLine
  rw [h, hmark, hfence]
  simp [dropStart?, List.isPrefixOf, Ne.symm hc.1, Ne.symm hc.2]

theorem isChartLine_name {k : Kind} {name rest raw : List Char} (hn : NamesKind k name)
    (h : trim raw = name ++ rest) : IsChartLine raw := by
  obtain ⟨c, cs, hname⟩ := List.exists_cons_of_ne_nil hn.ne_nil
  rw [hname, List.cons_append] at h
  refine isChartLine_of_head h ⟨?_, ?_⟩
  · rintro rfl
    exact hn.not_mem (c := '#') (by decide) (by rw [hname]; exact List.mem_cons_self)
  · rintro rfl
    exact hn.not_mem (c := '`') (by decide) (by rw [hname]; exact List.mem_cons_self)

/-- A line of an activity or an edge, with the blanks in front of it. -/
theorem trim_indented {text : List Char} (h : Tight text) : trim (' ' :: ' ' :: text) = text := by
  have := trim_of_tight (l := [' ', ' ']) (r := []) (by decide) h (by decide)
  rwa [List.append_nil] at this

theorem trim_heading {k : Kind} {name : List Char} (hn : NamesKind k name) :
    trim ("  %% Event-handler: ".toList ++ name) = "%% Event-handler: ".toList ++ name := by
  have htight : Tight ("%% Event-handler: ".toList ++ name) := by
    refine ⟨fun c hc => ?_, hn.last_not_blank _⟩
    have hstart : "%% Event-handler: ".toList.head? = some '%' := by decide
    rw [List.head?_append, hstart, Option.some_or, Option.some.injEq] at hc
    rw [← hc]
    decide
  exact trim_indented htight

theorem isChartLine_item {w : Workflow} (hw : w.Assembled) {i : Item} (hi : i.BelongsTo w) :
    ∀ l ∈ i.lines, IsChartLine l := by
  intro l hl
  cases i with
  | node a =>
    have hn := (hw.named _ _ hi).2
    rw [List.mem_singleton.mp hl]
    exact isChartLine_name hn (trim_indented (tight_nodeText hn))
  | edge a branch target =>
    obtain ⟨ha, ht⟩ := hi
    have hn := (hw.named _ _ ha).2
    obtain ⟨k, htarget⟩ := hw.names_of_contains (hw.targets _ _ _ _ ha ht)
    rw [List.mem_singleton.mp hl]
    have htext : edgeText a branch target = a.name.toList ++
        (' ' :: arrow ++ ' ' :: (edgeLabel a.kind branch).toList ++ target.toList) := by
      simp [edgeText]
    exact isChartLine_name hn ((trim_indented (tight_edgeText hn htarget branch)).trans htext)
  | heading name =>
    obtain ⟨k, hn⟩ := hw.names_of_contains hi
    rcases List.mem_cons.mp hl with rfl | hl
    · exact ⟨rfl, rfl⟩
    · rw [List.mem_singleton.mp hl]
      exact isChartLine_of_head (trim_heading hn) ⟨by decide, by decide⟩

theorem isChartLine_params (w : Workflow) : ∀ l ∈ paramsLines w, IsChartLine l := by
  intro l hl
  unfold paramsLines at hl
  split at hl
  · cases hl
  · rw [List.mem_singleton.mp hl]
    exact isChartLine_of_head (trim_indented (tight_paramsText _)) ⟨by decide, by decide⟩

/-- The section of a flowchart, whatever lines are drawn in it. -/
def flowchartLines (drawn : List (List Char)) : List (List Char) :=
  ["# Workflow".toList, "```mermaid".toList, "flowchart TD".toList] ++ drawn ++ [fence]

theorem IsChartLine.dropCarriageReturn {l : List Char} (h : IsChartLine l) :
    IsChartLine (dropCarriageReturn l) := by
  unfold IsChartLine
  rw [trim_dropCarriageReturn]
  exact h

/-- The section of a flowchart adds the entries of the lines drawn in it. -/
theorem scans_flowchart (named : Bool) (n : Nat) {ls : List (List Char)}
    (h : ∀ l ∈ ls, IsChartLine l) : Scans { named } n ((flowchartLines ls).map dropCarriageReturn)
      (chartEntries (n + 3) ls) { current := .workflow, named } := by
  have hopen : Scans { named } n
      (["# Workflow".toList, "```mermaid".toList, "flowchart TD".toList].map dropCarriageReturn) []
      (charting named) :=
    .silent (t := { current := .workflow, named }) rfl
      (.silent (t := { current := .workflow, named, inMermaid := true }) rfl
        (.silent (t := charting named) rfl (.nil _ _)))
  have hclose : ∀ m, Scans (charting named) m ([fence].map dropCarriageReturn) []
      { current := .workflow, named } := fun m =>
    .silent (t := { current := .workflow, named }) rfl (.nil _ _)
  have hdrawn : ∀ l ∈ ls.map Text.dropCarriageReturn, IsChartLine l := by
    intro l hl
    obtain ⟨k, hk, rfl⟩ := List.mem_map.mp hl
    exact (h k hk).dropCarriageReturn
  have hall := hopen.append ((scans_chart named (n + 3) hdrawn).append (hclose _))
  rw [List.nil_append, List.append_nil, chartEntries_map_dropCarriageReturn] at hall
  rw [flowchartLines, List.map_append, List.map_append, List.append_assoc]
  exact hall

/-! ## The whole document -/

/-- The lines of the parameters and of the items. -/
def drawnLines (w : Workflow) (is : List Item) : List (List Char) :=
  paramsLines w ++ is.flatMap Item.lines

theorem isChartLine_drawn {w : Workflow} (hw : w.Assembled) {is : List Item}
    (his : ∀ i ∈ is, i.BelongsTo w) : ∀ l ∈ drawnLines w is, IsChartLine l := by
  intro l hl
  rcases List.mem_append.mp hl with hl | hl
  · exact isChartLine_params w l hl
  · obtain ⟨i, hi, hl⟩ := List.mem_flatMap.mp hl
    exact isChartLine_item hw (his i hi) l hl

/-- A scan of the prompts. -/
def prompting (named inFence : Bool) (pending : Option PendingPrompt) : Scan :=
  { current := .prompts, named, inFence, pending }

/-- The entries of a document: its preamble, then the lines of its flowchart, then its prompts. -/
theorem entries_document {w : Workflow} (hw : w.WellFormed) {ls : List String}
    (hls : w.description = joinStrings "\n" ls) (hfits : ∀ l ∈ ls, LineFits l) {is : List Item}
    {vs : List String} (h : Script w is vs) : ∃ named n m,
      entries w.document = preambleEntries w.name ls ++ (chartEntries n (drawnLines w is) ++
        scanFrom (prompting named false none) m
          ((w.prompts.entries.flatMap Workflow.promptBlock).map dropCarriageReturn)) := by
  obtain ⟨named, hpreamble⟩ := scans_preamble hw hls hfits 1
  have hchart := scans_flowchart named (1 + (w.preambleLines.map dropCarriageReturn).length)
    (isChartLine_drawn hw.toAssembled (h.belongs hw))
  have hprompts : ∀ n, Scans { current := .workflow, named } n
      ([[], "# Prompts".toList, []].map dropCarriageReturn) [] (prompting named false none) :=
    fun n =>
      .silent (t := { current := .workflow, named }) rfl
        (.silent (t := prompting named false none) rfl
          (.silent (t := prompting named false none) rfl (.nil _ _)))
  have hlines : w.documentLines is = w.preambleLines ++
      (flowchartLines (drawnLines w is) ++ [[], "# Prompts".toList, []]) ++
        w.prompts.entries.flatMap Workflow.promptBlock := by
    simp [Workflow.documentLines, Workflow.chartLines, drawnLines, flowchartLines]
  have hpass := hpreamble.append (hchart.append (hprompts _))
  rw [List.append_nil] at hpass
  have hall := hpass.scanFrom ((w.prompts.entries.flatMap Workflow.promptBlock).map
    dropCarriageReturn)
  rw [← List.map_append, ← List.map_append, ← List.map_append, ← hlines,
    ← Workflow.lines_document hw h] at hall
  exact ⟨named, _, _, hall.trans (List.append_assoc ..)⟩

end Playbook.Document
