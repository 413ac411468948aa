/-
  Snapshots read as definitions. A snapshot is the document of a workflow up to its flowchart, with
  one more line for the style of the current activity; behind the flowchart stand the variables and
  the records as they are. The flowchart gives the workflow back, so a snapshot tells its workflow
  exactly if what is read from the text behind the flowchart leaves the graph as it is
  (`snapshot_rereads_iff`). Text without headings of workflows and prompts does
  (`quiet_harmless`).
-/
import Playbook.Proofs.Workflow.PromptSections
import Playbook.Proofs.Workflow.RoundTrip
import Playbook.Snapshot

namespace Playbook.Workflow

open Playbook.Text Playbook.Document Playbook.Flowchart

/-! ## Graphs -/

/-- Two workflows with the same activities and parameters, in any order. -/
structure Alike (w v : Workflow) : Prop where
  activities : ∀ key, v.activity? key = w.activity? key
  params : ∀ key, v.params.get? key = w.params.get? key

namespace Alike

variable {w v u : Workflow}

theorem refl (w : Workflow) : Alike w w := ⟨fun _ => rfl, fun _ => rfl⟩

theorem symm (h : Alike w v) : Alike v w :=
  ⟨fun key => (h.activities key).symm, fun key => (h.params key).symm⟩

theorem trans (h : Alike w v) (h' : Alike v u) : Alike w u :=
  ⟨fun key => (h'.activities key).trans (h.activities key),
    fun key => (h'.params key).trans (h.params key)⟩

theorem of_eq (hactivities : v.activities = w.activities) (hparams : v.params = w.params) :
    Alike w v :=
  ⟨fun key => congrArg (Table.get? · key) hactivities,
    fun key => congrArg (Table.get? · key) hparams⟩

theorem contains (h : Alike w v) : v.activities.contains = w.activities.contains := by
  funext key
  exact congrArg Option.isSome (h.activities key)

theorem firstDefined (h : Alike w v) (names : List String) :
    v.firstDefined names = w.firstDefined names := by
  rw [Workflow.firstDefined, Workflow.firstDefined, h.contains]

/-- What an entry adds depends on nothing else. -/
theorem add (h : Alike w v) {e : Entry} {w' : Workflow} (hadd : w.add e = .ok w') :
    ∃ v', v.add e = .ok v' ∧ Alike w' v' := by
  cases e with
  | param key value =>
    cases hadd
    refine ⟨_, rfl, h.activities, fun k => ?_⟩
    by_cases hk : k = key
    · subst hk
      rw [Table.get?_insert_self, Table.get?_insert_self]
    · rw [Table.get?_insert_of_ne _ _ hk, Table.get?_insert_of_ne _ _ hk, h.params]
  | declare kind name expression =>
    cases hadd
    refine ⟨_, rfl, fun key => ?_, fun key => ?_⟩
    · rw [activity?_declare, activity?_declare, h.activities]
    · rw [(declare_frame v kind name expression).1, (declare_frame w kind name expression).1,
        h.params]
  | connect source target branch =>
    cases hadd
    refine ⟨_, rfl, fun key => ?_, h.params⟩
    rw [activity?_connect, activity?_connect, h.activities]
  | fault f => cases hadd
  | _ =>
    cases hadd
    exact ⟨_, rfl, h.activities, h.params⟩

theorem addAll (h : Alike w v) {es : List Entry} {w' : Workflow} (hadd : w.addAll es = .ok w') :
    ∃ v', v.addAll es = .ok v' ∧ Alike w' v' := by
  induction es generalizing w v with
  | nil =>
    cases hadd
    exact ⟨v, rfl, h⟩
  | cons e es ih =>
    rw [Workflow.addAll] at hadd
    split at hadd
    · next w₁ hone =>
      obtain ⟨v₁, hv₁, hsame⟩ := h.add hone
      obtain ⟨v', hv', hall⟩ := ih hsame hadd
      exact ⟨v', by rw [Workflow.addAll, hv₁]; exact hv', hall⟩
    · cases hadd

end Alike

/-- Two workflows with the same graph and parameters, and the same ways in and out. -/
structure SameGraph (w v : Workflow) : Prop extends Alike w v where
  start : v.start = w.start
  onSuccess : v.onSuccess = w.onSuccess
  onFailed : v.onFailed = w.onFailed

/-- A workflow that tells the same as a well formed one is well formed. -/
theorem WellFormed.of_same {w v : Workflow} (hv : WellFormed v) (h : SameContent w v) :
    WellFormed w := by
  have halike : Alike w v := ⟨h.activities, h.params⟩
  exact {
    named := fun key a ha => hv.named key a ((h.activities key).trans ha)
    expressions := fun key a ha => hv.expressions key a ((h.activities key).trans ha)
    targets := fun key a b t ha ht => by
      rw [← halike.contains]
      exact hv.targets key a b t ((h.activities key).trans ha) ht
    params := fun p hp => hv.params p (Table.mem_entries_of_get?
      ((h.params p.1).trans (Table.get?_of_mem_entries hp)))
    prompts := fun p hp => hv.prompts p (Table.mem_entries_of_get?
      ((h.prompts p.1).trans (Table.get?_of_mem_entries hp)))
    description := h.description ▸ hv.description
    name := h.name ▸ hv.name
    start := h.start ▸ hv.start
    starts := by
      rw [← halike.contains]
      exact hv.starts
    onSuccess := by rw [← h.onSuccess, ← halike.firstDefined, hv.onSuccess]
    onFailed := by rw [← h.onFailed, ← halike.firstDefined, hv.onFailed] }

end Playbook.Workflow

namespace Playbook.Snapshot

open Playbook.Text Playbook.Document Playbook.Flowchart Playbook.Workflow

/-! ## Lines -/

/-- A snapshot up to the end of its flowchart. -/
def upTo (w : Workflow) (current : Option String) : String :=
  "# " ++ w.name ++ "\n\n- filepath=" ++ w.filepath ++ "\n\n" ++ w.flowchart current

/-- The text from the flowchart to the heading of the history. -/
def listing (vars : Table String) : String :=
  "\n## Variables:  \n" ++ String.join (vars.entries.map fun (k, v) => variableLines k v) ++
    "\n\n# History\n"

/-- The text of the history. -/
def chronicle (records : List Record) : String :=
  "\n" ++ String.join ((records.zipIdx 1).map fun (r, n) => recordLines n r)

/-- What stands behind the flowchart. -/
def behind (vars : Table String) (records : List Record) : String :=
  listing vars ++ chronicle records

theorem text_eq (w : Workflow) (current : Option String) (vars : Table String)
    (records : List Record) :
    text w current vars records = upTo w current ++ behind vars records := by
  have hhistory : "\n\n# History\n\n" = "\n\n# History\n" ++ "\n" := by decide
  unfold text upTo behind listing chronicle
  dsimp only
  rw [hhistory]
  simp only [String.append_assoc]

/-- The line that tells where the workflow comes from. -/
def pathLine (w : Workflow) : List Char := "- filepath=".toList ++ w.filepath.toList

/-- The lines in front of the flowchart. -/
def frontLines (w : Workflow) : List (List Char) :=
  [sectionMark ++ w.name.toList, [], pathLine w, []]

/-- The style of the current activity. -/
def styleText (name : String) : List Char :=
  "style ".toList ++ name.toList ++ ' ' :: currentStyle.toList

theorem styleText_eq (name : String) :
    styleText name = "style ".toList ++ (name.toList ++ ' ' :: currentStyle.toList) :=
  List.append_assoc ..

/-- The lines with which the current activity stands out. -/
def styleLines : Option String → List (List Char)
  | none => []
  | some name => [[], ' ' :: ' ' :: styleText name]

/-- The lines up to the end of the flowchart. -/
def upToLines (w : Workflow) (current : Option String) (is : List Item) : List (List Char) :=
  frontLines w ++ flowchartLines (drawnLines w is ++ styleLines current)

theorem toList_flowchart {w : Workflow} {is : List Item} (h : (body w).text = appendItems "" is)
    (current : Option String) :
    (w.flowchart current).toList =
      unlines (flowchartLines (drawnLines w is ++ styleLines current)) := by
  have hstart : "# Workflow\n```mermaid\nflowchart TD\n".toList =
      unlines ["# Workflow".toList, "```mermaid".toList, "flowchart TD".toList] := by decide
  have hend : "```\n".toList = unlines [fence] := by decide
  unfold flowchart flowchartLines drawnLines
  dsimp only
  rw [unlines_append, unlines_append, unlines_append, unlines_append, ← hstart, ← hend,
    ← toList_paramsLine_lines, h]
  cases current with
  | none =>
    simp only [styleLines, unlines_nil, String.toList_append, toList_appendItems, List.append_assoc,
      String.toList_empty, List.nil_append]
  | some name =>
    have hmark : "\n  style ".toList = '\n' :: ' ' :: ' ' :: "style ".toList := by decide
    have hblank : " ".toList = [' '] := by decide
    have hfeed : "\n".toList = ['\n'] := by decide
    have hstyle : ("\n  style " ++ name ++ " " ++ currentStyle ++ "\n").toList =
        unlines (styleLines (some name)) := by
      simp only [String.toList_append, hmark, hblank, hfeed, styleLines, styleText_eq, unlines_cons,
        unlines_nil, List.cons_append, List.nil_append, List.append_assoc]
    dsimp only
    rw [← hstyle]
    simp only [String.toList_append, toList_appendItems, List.append_assoc, String.toList_empty,
      List.nil_append]

theorem toList_upTo {w : Workflow} {is : List Item} (h : (body w).text = appendItems "" is)
    (current : Option String) : (upTo w current).toList = unlines (upToLines w current is) := by
  have hpath : "\n\n- filepath=".toList = '\n' :: '\n' :: "- filepath=".toList := by decide
  have hend : "\n\n".toList = ['\n', '\n'] := by decide
  have hmark : "# ".toList = sectionMark := rfl
  unfold upTo upToLines frontLines pathLine
  rw [unlines_append, String.toList_append, toList_flowchart h, String.toList_append,
    String.toList_append, String.toList_append, String.toList_append, hpath, hend, hmark]
  simp only [unlines_cons, unlines_nil, List.append_assoc, List.cons_append, List.nil_append]

theorem tight_styleText (name : String) : Tight (styleText name) := by
  have hhead : ∀ rest, ("style ".toList ++ rest).head? = some 's' := fun _ => rfl
  have hlast : (' ' :: currentStyle.toList).getLast? = some 'f' := by decide
  refine ⟨fun c hc => ?_, fun c hc => ?_⟩
  · rw [styleText_eq, hhead, Option.some.injEq] at hc
    rw [← hc]
    decide
  · rw [styleText_eq, ← List.append_assoc, List.getLast?_append, hlast, Option.some_or,
      Option.some.injEq] at hc
    rw [← hc]
    decide

theorem isChartLine_style (current : Option String) :
    ∀ l ∈ styleLines current, IsChartLine l := by
  intro l hl
  cases current with
  | none => cases hl
  | some name =>
    rcases List.mem_cons.mp hl with rfl | hl
    · exact ⟨rfl, rfl⟩
    · rw [List.mem_singleton.mp hl]
      exact isChartLine_of_head (trim_indented (tight_styleText name)) ⟨by decide, by decide⟩

/-- A style adds nothing to the graph. -/
theorem chartEntries_style (n : Nat) (current : Option String) :
    chartEntries n (styleLines current) = [] := by
  cases current with
  | none => rfl
  | some name =>
    have hignored : isIgnored (styleText name) = true := rfl
    have hempty : (styleText name).isEmpty = false := rfl
    have hblank : trim [] = [] := rfl
    simp only [styleLines, chartEntries, trim_indented (tight_styleText name), hempty, hblank,
      flowchartEntries, hignored]
    rfl

theorem no_newline_upToLines {w : Workflow} (hw : WellFormed w) (hpath : '\n' ∉ w.filepath.toList)
    {current : Option String} (hcurrent : ∀ name, current = some name → w.activities.contains name)
    {is : List Item} (his : ∀ i ∈ is, i.BelongsTo w) : ∀ l ∈ upToLines w current is, '\n' ∉ l := by
  have hname : '\n' ∉ sectionMark ++ w.name.toList := by
    have hmark : '\n' ∉ sectionMark := by decide
    rw [List.mem_append, not_or]
    refine ⟨hmark, ?_⟩
    by_cases hempty : w.name = ""
    · simp [hempty]
    · exact (hw.name hempty).no_newline
  have hline : '\n' ∉ pathLine w := by
    have hstart : '\n' ∉ "- filepath=".toList := by decide
    unfold pathLine
    rw [List.mem_append, not_or]
    exact ⟨hstart, hpath⟩
  have hopen : ∀ l ∈ ["# Workflow".toList, "```mermaid".toList, "flowchart TD".toList],
      '\n' ∉ l := by decide
  have hclose : ∀ l ∈ [fence], '\n' ∉ l := by decide
  intro l hl
  simp only [upToLines, frontLines, flowchartLines, drawnLines, List.mem_append, List.mem_cons,
    List.mem_flatMap, List.not_mem_nil, or_false] at hl hopen hclose
  rcases hl with (rfl | rfl | rfl | rfl) | (hl | (hl | ⟨i, hi, hl⟩) | hl) | hl
  · exact hname
  · exact List.not_mem_nil
  · exact hline
  · exact List.not_mem_nil
  · exact hopen l hl
  · exact no_newline_paramsLines (fun p hp => (hw.params p hp).no_newline) l hl
  · exact no_newline_item hw.toAssembled (his i hi) l hl
  · cases current with
    | none => cases hl
    | some name =>
      obtain ⟨k, hn⟩ := hw.names_of_contains (hcurrent name rfl)
      have hstyle : '\n' ∉ currentStyle.toList := by decide
      rcases List.mem_cons.mp hl with rfl | hl
      · exact List.not_mem_nil
      · rw [List.mem_singleton.mp hl]
        simp [styleText_eq, hn.not_mem (c := '\n') (by decide), hstyle]
  · exact hclose l hl

/-! ## Entries -/

/-- What is read as the description: a heading without a name, and the path. -/
def captionLines (w : Workflow) : List String :=
  (if w.name = "" then ["#"] else []) ++ [String.ofList (trimRight (pathLine w))]

/-- The scan behind the flowchart. -/
def scanBehind (w : Workflow) : Scan := { current := .workflow, named := w.name != "" }

theorem scans_front {w : Workflow} (hw : WellFormed w) (n : Nat) :
    Scans {} n ((frontLines w).map dropCarriageReturn) (preambleEntries w.name (captionLines w))
      { named := w.name != "" } := by
  have hname : Scans {} n [dropCarriageReturn (sectionMark ++ w.name.toList)]
      (if w.name = "" then [.describe "#"] else [.name w.name]) { named := w.name != "" } := by
    by_cases hempty : w.name = ""
    · rw [if_pos hempty, hempty]
      exact .one rfl
    · have hfits := hw.name hempty
      have hnamed : (w.name != "") = true := by simpa using hempty
      rw [if_neg hempty, dropCarriageReturn_heading hfits, hnamed]
      exact .one (scanLine_heading n hfits)
  -- the line of the path begins with a dash, so it is no heading
  have hdash : trim (pathLine w) = "- filepath=".toList ++ trimRight w.filepath.toList :=
    trim_append_of_tight (by decide) (by decide) _
  have hpath : ∀ m, Scans { named := w.name != "" } m [dropCarriageReturn (pathLine w)]
      [.describe (String.ofList (trimRight (pathLine w)))] { named := w.name != "" } := by
    intro m
    obtain ⟨r, hr, hblank, _⟩ := exists_dropCarriageReturn (pathLine w)
    have hright : trimRight (dropCarriageReturn (pathLine w)) = trimRight (pathLine w) := by
      rw [← trimRight_append_blank _ hblank, ← hr]
    rw [← hright]
    refine .one (scanLine_describes _ m ?_ ?_)
    · rw [trim_dropCarriageReturn, hdash]
      exact List.append_ne_nil_of_left_ne_nil (by decide) _
    · rw [trim_dropCarriageReturn, hdash]
      rfl
  have hblank : ∀ m, Scans { named := w.name != "" } m [dropCarriageReturn []] []
      { named := w.name != "" } := fun m => .one (scanLine_blank _ m)
  have hall := hname.append ((hblank _).append ((hpath _).append (hblank _)))
  have hentries : preambleEntries w.name (captionLines w) =
      (if w.name = "" then [.describe "#"] else [.name w.name]) ++
        ([] ++ ([.describe (String.ofList (trimRight (pathLine w)))] ++ [])) := by
    unfold preambleEntries captionLines
    by_cases hempty : w.name = ""
    · rw [if_pos hempty, if_pos hempty, if_pos hempty]
      rfl
    · rw [if_neg hempty, if_neg hempty, if_neg hempty]
      rfl
  rw [hentries]
  exact hall

/-- What is read from the text behind the flowchart. -/
def behindEntries (w : Workflow) (current : Option String) (vars : Table String)
    (records : List Record) : List Entry :=
  scanFrom (scanBehind w) (1 + (lines (upTo w current).toList).length)
    (lines (behind vars records).toList)

/-- The entries of a snapshot: those of its caption, of its flowchart and of what stands behind. -/
theorem entries_text {w : Workflow} (hw : WellFormed w) (hpath : '\n' ∉ w.filepath.toList)
    {current : Option String} (hcurrent : ∀ name, current = some name → w.activities.contains name)
    (vars : Table String) (records : List Record) {is : List Item} {vs : List String}
    (h : Script w is vs) : ∃ n, entries (text w current vars records) =
      preambleEntries w.name (captionLines w) ++ chartEntries n (drawnLines w is) ++
        behindEntries w current vars records := by
  have hlines := no_newline_upToLines hw hpath hcurrent (h.belongs hw)
  have hchart : ∀ l ∈ drawnLines w is ++ styleLines current, IsChartLine l := by
    intro l hl
    rcases List.mem_append.mp hl with hl | hl
    · exact isChartLine_drawn hw.toAssembled (h.belongs hw) l hl
    · exact isChartLine_style current l hl
  have hpass := (scans_front hw 1).append (scans_flowchart (w.name != "") _ hchart)
  rw [← List.map_append, chartEntries_append, chartEntries_style, List.append_nil] at hpass
  have hbefore : lines (upTo w current).toList =
      (upToLines w current is).map dropCarriageReturn := by
    rw [toList_upTo (h.text hw.keyed), lines_unlines hlines]
  have hall := hpass.scanFrom (lines (behind vars records).toList)
  refine ⟨1 + ((frontLines w).map dropCarriageReturn).length + 3, ?_⟩
  rw [entries, text_eq, String.toList_append, toList_upTo (h.text hw.keyed),
    lines_unlines_append hlines, behindEntries, hbefore]
  exact hall

/-! ## What a snapshot tells -/

/-- The workflow that a snapshot tells of up to the end of its flowchart. -/
def captioned (w : Workflow) : Workflow :=
  { w with description := joinStrings "\n" (captionLines w), prompts := .empty }

theorem fits_captionLines {w : Workflow} (hw : WellFormed w) (hpath : '\n' ∉ w.filepath.toList) :
    ∀ l ∈ captionLines w, LineFits l := by
  obtain ⟨is, vs, hscript, _⟩ := exists_script hw.keyed
  have hnone : ∀ name, none = some name → w.activities.contains name := nofun
  obtain ⟨n, hentries⟩ := entries_text hw hpath hnone .empty [] hscript
  intro l hl
  have hmem : .describe l ∈ entries (text w none .empty []) := by
    rw [hentries, preambleEntries]
    simp [hl]
  exact fits_of_mem_entries _ hmem

theorem captioned_wellFormed {w : Workflow} (hw : WellFormed w) (hpath : '\n' ∉ w.filepath.toList) :
    WellFormed (captioned w) := { hw with
  prompts := nofun
  description := ⟨captionLines w, rfl, fits_captionLines hw hpath⟩ }

theorem captioned_rewritable {w : Workflow} (hr : Rewritable w) :
    Rewritable (captioned w) := { hr with
  fences := nofun
  carriage := nofun }

theorem script_captioned {w : Workflow} {is : List Item} {vs : List String} (h : Script w is vs) :
    Script (captioned w) is vs := by
  obtain ⟨is₁, vs₁, is₂, vs₂, is₃, h₁, h₂, h₃, rfl⟩ := h
  have hsame : ∀ key, (captioned w).activity? key = w.activity? key := fun _ => rfl
  exact ⟨is₁, vs₁, is₂, vs₂, is₃, h₁.congr hsame, h₂.congr hsame, h₃.congr hsame, rfl⟩

/-- Up to the end of its flowchart a snapshot builds the graph of its workflow. -/
theorem alike_upTo {w : Workflow} (hw : WellFormed w) (hr : Rewritable w)
    (hpath : '\n' ∉ w.filepath.toList) {is : List Item} {vs : List String} (h : Script w is vs)
    (n : Nat) : ∃ u, addAll { filepath := "", directory := "." }
      (preambleEntries w.name (captionLines w) ++ chartEntries n (drawnLines w is)) = .ok u ∧
        Alike w u := by
  have hdrawn : chartEntries n (drawnLines w is) =
      w.params.entries.map paramEntry ++ is.flatMap itemEntries := by
    rw [drawnLines, chartEntries_append, chartEntries_params hw.toAssembled hr.params,
      chartEntries_items hw.toAssembled (fun _ _ => hr.legible hw.toAssembled) (h.belongs hw)]
  have hwritten := entries_of_rewritable (captioned_wellFormed hw hpath) (captioned_rewritable hr)
    rfl (fits_captionLines hw hpath) (script_captioned h)
  obtain ⟨v, hread, hsame, _⟩ :=
    read_document (captioned_wellFormed hw hpath) (captioned_rewritable hr)
  obtain ⟨u, hadd, hparams, _, hactivities⟩ := exists_addAll_of_readAt hread
  have hentries : entries (captioned w).document =
      preambleEntries w.name (captionLines w) ++ chartEntries n (drawnLines w is) := by
    rw [hwritten, hdrawn]
    exact congrArg _ (List.append_nil _)
  refine ⟨u, hentries ▸ hadd, fun key => ?_, fun key => ?_⟩
  · rw [activity?, ← hactivities]
    exact hsame.activities key
  · rw [← hparams]
    exact hsame.params key

/-- What is read from the text behind the flowchart leaves the graph and the parameters as they
are. -/
def Harmless (w : Workflow) (current : Option String) (vars : Table String)
    (records : List Record) : Prop :=
  ∃ u, w.addAll (behindEntries w current vars records) = .ok u ∧ Alike w u

/-- The snapshot of a workflow that survives being written and read again is itself read as that
graph exactly if the text behind the flowchart is harmless. -/
theorem rereads_iff_harmless {w : Workflow} (hw : WellFormed w) (hr : Rewritable w)
    (hpath : '\n' ∉ w.filepath.toList) {current : Option String}
    (hcurrent : ∀ name, current = some name → w.activities.contains name)
    (vars : Table String) (records : List Record) :
    (∃ v, read (text w current vars records) = .ok v ∧ SameGraph w v) ↔
      Harmless w current vars records := by
  obtain ⟨is, vs, hscript, _⟩ := exists_script hw.keyed
  obtain ⟨n, hentries⟩ := entries_text hw hpath hcurrent vars records hscript
  obtain ⟨u, hadd, halike⟩ := alike_upTo hw hr hpath hscript n
  have hall : addAll { filepath := "", directory := "." }
      (entries (text w current vars records)) =
        u.addAll (behindEntries w current vars records) := by
    rw [hentries, addAll_append, hadd]
    rfl
  constructor
  · rintro ⟨v, hread, hsame⟩
    obtain ⟨u', hadd', hparams, _, hactivities⟩ := exists_addAll_of_readAt hread
    rw [hall] at hadd'
    obtain ⟨w', hw', halike'⟩ := halike.symm.addAll hadd'
    have hback : Alike v u' := .of_eq hactivities.symm hparams.symm
    exact ⟨w', hw', (hsame.toAlike.trans hback).trans halike'⟩
  · rintro ⟨w', hw', hleft⟩
    obtain ⟨u', hadd', halike'⟩ := halike.addAll hw'
    have hgraph : Alike w u' := hleft.trans halike'
    have hstart : u'.activities.contains startName := by
      rw [hgraph.contains]
      exact hw.starts
    have hread : read (text w current vars records) = .ok { u' with
        start := some startName
        onSuccess := u'.firstDefined successHandlers
        onFailed := u'.firstDefined failureHandlers } := by
      rw [Workflow.read, readAt, hall, hadd']
      dsimp only
      rw [finish, if_pos hstart]
    exact ⟨_, hread, { hgraph with
      start := hw.start.symm
      onSuccess := (hgraph.firstDefined _).trans hw.onSuccess.symm
      onFailed := (hgraph.firstDefined _).trans hw.onFailed.symm }⟩

/-! ## Quiet texts -/

/-- A heading under which a reader looks for a workflow or for prompts. -/
def Summons (raw : List Char) : Prop :=
  ∃ heading, dropStart? sectionMark (trim raw) = some heading ∧
    ("Workflow".toList <+: trim heading ∨ "Prompts".toList <+: trim heading)

/-- A fence in front of a flowchart. -/
def OpensChart (raw : List Char) : Prop := fence ++ "mermaid".toList <+: trim raw

/-- No line of the variables or the records begins a section that is read, and no line of the
variables a flowchart. -/
structure Quiet (vars : Table String) (records : List Record) : Prop where
  listing : ∀ l ∈ lines (listing vars).toList, ¬ Summons l ∧ ¬ OpensChart l
  chronicle : ∀ l ∈ lines (chronicle records).toList, ¬ Summons l

instance (raw : List Char) : Decidable (Summons raw) :=
  decidable_of_iff (∃ heading ∈ (dropStart? sectionMark (trim raw)).toList,
      "Workflow".toList <+: trim heading ∨ "Prompts".toList <+: trim heading) <| by
    simp [Summons]

instance (raw : List Char) : Decidable (OpensChart raw) :=
  inferInstanceAs (Decidable (_ <+: _))

instance (vars : Table String) (records : List Record) : Decidable (Quiet vars records) :=
  decidable_of_iff ((∀ l ∈ lines (listing vars).toList, ¬ Summons l ∧ ¬ OpensChart l) ∧
      ∀ l ∈ lines (chronicle records).toList, ¬ Summons l)
    ⟨fun ⟨listing, chronicle⟩ => { listing, chronicle }, fun h => ⟨h.listing, h.chronicle⟩⟩

/-- A scan outside of the preamble, the prompts and all flowcharts. -/
structure Idle (s : Scan) : Prop where
  section_ : s.current = .other ∨ s.current = .workflow
  inMermaid : s.inMermaid = false
  inFlowchart : s.inFlowchart = false
  inFence : s.inFence = false
  pending : s.pending = none

/-- An entry of a section that is passed over. -/
def IsSkip (e : Entry) : Prop := ∃ heading, e = .skipSection heading

theorem addAll_skips {es : List Entry} (h : ∀ e ∈ es, IsSkip e) (w : Workflow) :
    w.addAll es = .ok w := by
  induction es with
  | nil => rfl
  | cons e es ih =>
    obtain ⟨heading, rfl⟩ := h e List.mem_cons_self
    exact ih fun d hd => h d (List.mem_cons_of_mem _ hd)

theorem enterSection_skip (s : Scan) (heading : List Char)
    (hworkflow : ¬ "Workflow".toList <+: heading) (hprompts : ¬ "Prompts".toList <+: heading)
    (hpreamble : s.current ≠ .preamble) : enterSection s heading =
      ({ s with current := .other, inMermaid := false, inFlowchart := false, pending := none },
        [.skipSection (String.ofList heading)]) := by
  have hcurrent : (s.current == .preamble && !s.named) = false := by
    cases hc : s.current with
    | preamble => exact absurd hc hpreamble
    | _ => rfl
  unfold enterSection
  dsimp only
  rw [if_neg (fun hc => hworkflow (List.isPrefixOf_iff_prefix.mp hc)),
    if_neg (fun hc => hprompts (List.isPrefixOf_iff_prefix.mp hc)), hcurrent]
  rfl

/-- Outside of a flowchart only a fence for one matters. -/
theorem idle_workflowLine {s : Scan} (hs : Idle s) {raw : List Char} (hchart : ¬ OpensChart raw)
    (n : Nat) : ∃ s', workflowLine s n (trim raw) = (s', []) ∧ Idle s' ∧
      s'.current = s.current := by
  unfold workflowLine
  rw [if_neg (fun hc => hchart (List.isPrefixOf_iff_prefix.mp hc)), hs.inMermaid, hs.inFlowchart]
  split
  · exact ⟨_, rfl, ⟨hs.section_, rfl, rfl, hs.inFence, hs.pending⟩, rfl⟩
  · exact ⟨s, rfl, hs, rfl⟩

/-- A line that begins no section that is read, and no flowchart in a workflow section, leaves a
scan idle. Every other heading leads out of the workflow section. -/
theorem idle_scanLine {s : Scan} (hs : Idle s) {raw : List Char} (hraw : ¬ Summons raw)
    (hchart : s.current = .workflow → ¬ OpensChart raw) (n : Nat) :
    ∃ s' es, scanLine s n raw = (s', es) ∧ Idle s' ∧ (∀ e ∈ es, IsSkip e) ∧
      (s.current = .other ∨ (dropStart? sectionMark (trim raw)).isSome → s'.current = .other) := by
  have hmark : "# ".toList = sectionMark := rfl
  unfold scanLine
  dsimp only
  rw [hs.inFence, if_neg Bool.false_ne_true, hmark]
  cases hheading : dropStart? sectionMark (trim raw) with
  | some heading =>
    have hskip := enterSection_skip s (trim heading)
      (fun hc => hraw ⟨heading, hheading, Or.inl hc⟩)
      (fun hc => hraw ⟨heading, hheading, Or.inr hc⟩)
      (by rcases hs.section_ with h | h <;> rw [h] <;> decide)
    dsimp only
    rw [hskip, hs.pending]
    refine ⟨_, _, rfl, ⟨Or.inl rfl, rfl, rfl, hs.inFence, rfl⟩, fun e he => ?_, fun _ => rfl⟩
    exact ⟨_, List.mem_singleton.mp he⟩
  | none =>
    dsimp only
    rcases hs.section_ with h | h
    · rw [h]
      exact ⟨s, [], rfl, hs, by simp, fun _ => h⟩
    · rw [h]
      obtain ⟨s', hline, hidle, _⟩ := idle_workflowLine hs (hchart h) n
      refine ⟨s', [], hline, hidle, by simp, ?_⟩
      rintro (hc | hc)
      · cases hc
      · cases hc

/-- Lines that begin nothing leave a scan idle and add nothing. -/
theorem idle_scans {s : Scan} (hs : Idle s) {ls : List (List Char)} (hls : ∀ l ∈ ls, ¬ Summons l)
    (hchart : s.current = .other ∨ ∀ l ∈ ls, ¬ OpensChart l) (n : Nat) :
    ∃ s' es, Scans s n ls es s' ∧ Idle s' ∧ ∀ e ∈ es, IsSkip e := by
  induction ls generalizing s n with
  | nil => exact ⟨s, [], .nil s n, hs, by simp⟩
  | cons l ls ih =>
    have hone : s.current = .workflow → ¬ OpensChart l := by
      intro hworkflow
      rcases hchart with hother | hall
      · rw [hworkflow] at hother
        cases hother
      · exact hall l List.mem_cons_self
    obtain ⟨s₁, es, hline, hidle, hskip, hother⟩ :=
      idle_scanLine hs (hls l List.mem_cons_self) hone n
    have hrest : s₁.current = .other ∨ ∀ l ∈ ls, ¬ OpensChart l :=
      hchart.imp (fun h => hother (Or.inl h)) fun h l hl => h l (List.mem_cons_of_mem _ hl)
    obtain ⟨s₂, fs, hscans, hidle₂, hskips⟩ :=
      ih hidle (fun l hl => hls l (List.mem_cons_of_mem _ hl)) hrest (n + 1)
    refine ⟨s₂, es ++ fs, .cons hline hscans, hidle₂, fun e he => ?_⟩
    rcases List.mem_append.mp he with he | he
    · exact hskip e he
    · exact hskips e he

/-- The variables, line by line up to the heading of the history. -/
theorem exists_listing (vars : Table String) : ∃ ls, (∀ l ∈ ls ++ ["# History".toList], '\n' ∉ l) ∧
    (listing vars).toList = unlines (ls ++ ["# History".toList]) := by
  have hhistory : ∀ l ∈ ["# History".toList], '\n' ∉ l := by decide
  have hend : "\n\n# History\n".toList = '\n' :: unlines ([[]] ++ ["# History".toList]) := by decide
  refine ⟨pieces '\n' ("\n## Variables:  \n" ++
    String.join (vars.entries.map fun (k, v) => variableLines k v)).toList ++ [[]],
    fun l hl => ?_, ?_⟩
  · rcases List.mem_append.mp hl with hl | hl
    · rcases List.mem_append.mp hl with hl | hl
      · exact not_mem_of_mem_pieces hl
      · exact List.mem_singleton.mp hl ▸ List.not_mem_nil
    · exact hhistory l hl
  · unfold listing
    rw [String.toList_append, hend, List.append_assoc, unlines_append (pieces _ _), unlines_pieces,
      List.append_assoc]
    rfl

/-- Text without headings of workflows and prompts, and without flowcharts among the variables, is
harmless. -/
theorem quiet_harmless {vars : Table String} {records : List Record} (h : Quiet vars records)
    (w : Workflow) (current : Option String) : Harmless w current vars records := by
  obtain ⟨ls, hnewline, htext⟩ := exists_listing vars
  have hlisting := h.listing
  rw [htext, lines_unlines hnewline, List.map_append] at hlisting
  have hidle : Idle (scanBehind w) := ⟨Or.inr rfl, rfl, rfl, rfl, rfl⟩
  -- the variables, the heading of the history, and the records
  obtain ⟨s₁, es₁, hvars, hidle₁, hskip₁⟩ := idle_scans hidle
    (fun l hl => (hlisting l (List.mem_append_left _ hl)).1)
    (Or.inr fun l hl => (hlisting l (List.mem_append_left _ hl)).2)
    (1 + (lines (upTo w current).toList).length)
  have hhistory := hlisting _ (List.mem_append_right _ List.mem_cons_self)
  obtain ⟨s₂, es₂, hheading, hidle₂, hskip₂, hother⟩ := idle_scanLine hidle₁ hhistory.1
    (fun _ => hhistory.2) (1 + (lines (upTo w current).toList).length +
      (ls.map dropCarriageReturn).length)
  obtain ⟨s₃, es₃, hrecords, hidle₃, hskip₃⟩ := idle_scans hidle₂ h.chronicle
    (Or.inl (hother (Or.inr rfl))) _
  have hpass := hvars.append ((Scans.one hheading).append hrecords)
  have hall := hpass.scanFrom []
  have hlines : lines (behind vars records).toList = ls.map dropCarriageReturn ++
      ([dropCarriageReturn "# History".toList] ++ lines (chronicle records).toList) := by
    rw [behind, String.toList_append, htext, lines_unlines_append hnewline, List.map_append,
      List.append_assoc]
    rfl
  refine ⟨w, addAll_skips (fun e he => ?_) w, .refl w⟩
  rw [behindEntries, hlines, ← List.append_nil (_ ++ _), hall, scanFrom, hidle₃.pending] at he
  rw [promptEntries, List.append_nil] at he
  rcases List.mem_append.mp he with he | he
  · exact hskip₁ e he
  · rcases List.mem_append.mp he with he | he
    · exact hskip₂ e he
    · exact hskip₃ e he

/-! ## Reading snapshots -/

/-- A workflow that survives being written and read again is read from a snapshot of it, whatever
the current activity, exactly if the text behind the flowchart is harmless, so certainly if it is
quiet. -/
theorem snapshot_rereads_iff {w u : Workflow} (hread : Workflow.read w.document = .ok u)
    (hsame : SameContent w u) (hpath : '\n' ∉ w.filepath.toList) {current : Option String}
    (hcurrent : ∀ name, current = some name → w.activities.contains name)
    (vars : Table String) (records : List Record) :
    ((∃ v, Workflow.read (text w current vars records) = .ok v ∧ SameGraph w v) ↔
        Harmless w current vars records) ∧
      (Quiet vars records →
        ∃ v, Workflow.read (text w current vars records) = .ok v ∧ SameGraph w v) := by
  have hw : WellFormed w := (wellFormed_of_readAt hread).of_same hsame
  have hr := rewritable_of_reread hw hread hsame
  have hexact := rereads_iff_harmless hw hr hpath hcurrent vars records
  exact ⟨hexact, fun hquiet => hexact.mpr (quiet_harmless hquiet w current)⟩

/-- Variables and records with headings, a list and a fence. -/
def notedVars : Table String := .ofList [("log", "line 1\n## Notes"), ("# Prompt", "x")]

def notedRecords : List Record :=
  [⟨"Ask", .doing, "# Summary\n- right\n```mermaid\ngraph\n```", ⟨0⟩⟩,
    ⟨"Check: right", .success, "", ⟨0⟩⟩]

/-- A workflow with which snapshots can be tried: it survives being written and read again. -/
theorem exists_reviewed : ∃ w, Workflow.read reviewText = .ok w ∧ WellFormed w ∧ Rewritable w ∧
    '\n' ∉ w.filepath.toList ∧
    ∀ name, some "CHECK_OK" = some name → w.activities.contains name := by
  obtain ⟨w, hread, hdecided⟩ := exists_of_any reviewText
    (fun w => decide (Rewritable w ∧ '\n' ∉ w.filepath.toList ∧ w.activities.contains "CHECK_OK"))
    (by decide +kernel)
  obtain ⟨hr, hpath, hcheck⟩ := of_decide_eq_true hdecided
  refine ⟨w, hread, wellFormed_of_readAt hread, hr, hpath, ?_⟩
  rintro _ ⟨⟩
  exact hcheck

theorem notedSnapshot_rereads : ∃ w u, Workflow.read reviewText = .ok w ∧
    Workflow.read w.document = .ok u ∧ SameContent w u ∧ w.activities.contains "CHECK_OK" ∧
    ∃ v, Workflow.read (text w (some "CHECK_OK") notedVars notedRecords) = .ok v ∧
      SameGraph w v := by
  obtain ⟨w, hread, hw, hr, hpath, hcurrent⟩ := exists_reviewed
  obtain ⟨u, hu, hsame, _⟩ := read_document hw hr
  have hquiet : Quiet notedVars notedRecords := by decide +kernel
  exact ⟨w, u, hread, hu, hsame, hcurrent _ rfl,
    (snapshot_rereads_iff hu hsame hpath hcurrent notedVars notedRecords).2 hquiet⟩

/-- A reply that begins a section of prompts: the record behind it is taken for one. -/
def promptingRecords : List Record :=
  [⟨"Ask", .doing, "# Prompts", ⟨0⟩⟩, ⟨"Check: right", .success, "", ⟨0⟩⟩]

theorem promptingSnapshot_not_reread : ∃ w u, Workflow.read reviewText = .ok w ∧
    Workflow.read w.document = .ok u ∧ SameContent w u ∧ w.activities.contains "CHECK_OK" ∧
    ¬ ∃ v, Workflow.read (text w (some "CHECK_OK") .empty promptingRecords) = .ok v ∧
      SameGraph w v := by
  obtain ⟨w, hread, hw, hr, hpath, hcurrent⟩ := exists_reviewed
  obtain ⟨u, hu, hsame, _⟩ := read_document hw hr
  refine ⟨w, u, hread, hu, hsame, hcurrent _ rfl, fun hreread => ?_⟩
  obtain ⟨v, hadd, _⟩ :=
    (rereads_iff_harmless hw hr hpath hcurrent .empty promptingRecords).mp hreread
  obtain ⟨hroles, _⟩ := declares_scanFrom (fun _ hl => not_mem_of_mem_lines hl) (scanBehind w)
    (1 + (lines (upTo w (some "CHECK_OK")).toList).length) (no_fault_of_addAll hadd)
  -- behind the reply the next record is a section whose first word names no role
  have hnext : ∃ t ∈ (cutPrompts false false (lines (behind .empty promptingRecords).toList)).2,
      t.role? = none := by decide +kernel
  obtain ⟨t, ht, hnone⟩ := hnext
  have hrole : t.role?.isSome := hroles t ht
  rw [hnone] at hrole
  cases hrole

end Playbook.Snapshot
