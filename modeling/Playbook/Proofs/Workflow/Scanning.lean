/-
  The scan of a document. Every line is of one of a few kinds (`lineStep`), and each of them keeps
  what holds between any two lines (`Sane`): a fence is open only in the prompts, and the lines of a
  prompt so far hold no heading outside of their own fences. From it, what every entry of every
  document satisfies (`fits_of_mem_entries`).
-/
import Playbook.Proofs.Text.SolidLines
import Playbook.Proofs.Workflow.FlowchartEntries

namespace Playbook.Document

open Playbook.Text Playbook.Flowchart

/-! ## Fences -/

/-- The beginning of a heading of a section. -/
def sectionMark : List Char := "# ".toList

/-- The beginning of a heading of a prompt. -/
def promptMark : List Char := "## ".toList

/-- Whether a fence is open after a trimmed line. -/
def toggled (inFence : Bool) (line : List Char) : Bool :=
  if fence.isPrefixOf line then !inFence else inFence

/-- Whether a fence is open after trimmed lines. -/
def afterFences (inFence : Bool) (lines : List (List Char)) : Bool := lines.foldl toggled inFence

/-- Among these trimmed lines, only those between fences begin like a heading. -/
def Hidden : Bool → List (List Char) → Prop
  | _, [] => True
  | inFence, line :: lines =>
    (inFence = false → dropStart? sectionMark line = none ∧ dropStart? promptMark line = none) ∧
      Hidden (toggled inFence line) lines

/-- A line that opens a flowchart is a fence. -/
theorem fence_of_mermaid {line : List Char} (h : (fence ++ "mermaid".toList).isPrefixOf line) :
    fence.isPrefixOf line := by
  rw [List.isPrefixOf_iff_prefix] at h ⊢
  exact (List.prefix_append _ _).trans h

theorem not_mermaid_of_not_fence {line : List Char} (h : fence.isPrefixOf line = false) :
    (fence ++ "mermaid".toList).isPrefixOf line = false :=
  Bool.eq_false_iff.mpr fun hmermaid => Bool.eq_false_iff.mp h (fence_of_mermaid hmermaid)

theorem afterFences_append (inFence : Bool) (ls ms : List (List Char)) :
    afterFences inFence (ls ++ ms) = afterFences (afterFences inFence ls) ms := by
  simp [afterFences]

theorem hidden_append {inFence : Bool} {ls ms : List (List Char)} :
    Hidden inFence (ls ++ ms) ↔ Hidden inFence ls ∧ Hidden (afterFences inFence ls) ms := by
  induction ls generalizing inFence with
  | nil => simp [Hidden, afterFences]
  | cons l ls ih =>
    rw [List.cons_append, Hidden, Hidden, ih, and_assoc]
    rfl

theorem afterFences_solid (inFence : Bool) (raw : List Char) :
    afterFences inFence (solid [raw]) = toggled inFence (trim raw) := by
  by_cases h : trim raw = []
  · rw [solid_cons_blank (trim_eq_nil_iff.mp h), h]
    rfl
  · rw [solid_cons_of_ne_nil h]
    rfl

theorem hidden_solid {inFence : Bool} {raw : List Char} : Hidden inFence (solid [raw]) ↔
    (inFence = false → dropStart? sectionMark (trim raw) = none ∧
      dropStart? promptMark (trim raw) = none) := by
  by_cases h : trim raw = []
  · rw [solid_cons_blank (trim_eq_nil_iff.mp h), h]
    exact iff_of_true True.intro fun _ => ⟨rfl, rfl⟩
  · rw [solid_cons_of_ne_nil h]
    simp [Hidden]

/-! ## Steps -/

/-- What a line does to a scan and what it adds, a case for each kind of line. Outside of a fence a
line may be a heading; every other line is text of the section that is being read. -/
inductive LineStep (s : Scan) (n : Nat) (raw : List Char) : Scan → List Entry → Prop
  | heading {heading : List Char} (outside : s.inFence = false)
    (mark : dropStart? sectionMark (trim raw) = some heading) :
    LineStep s n raw (enterSection s (trim heading)).1
      (promptEntries s.pending ++ (enterSection s (trim heading)).2)
  | describes (current : s.current = .preamble) (solid : trim raw ≠ [])
    (text : s.inFence = false → dropStart? sectionMark (trim raw) = none) :
    LineStep s n raw s [.describe (String.ofList (trimRight raw))]
  | passes (inMermaid inFlowchart : Bool) : LineStep s n raw { s with inMermaid, inFlowchart } []
  | draws (current : s.current = .workflow)
    (text : s.inFence = false → dropStart? sectionMark (trim raw) = none) :
    LineStep s n raw s (flowchartEntries n (trim raw))
  | stranger {header : List Char} (current : s.current = .prompts) (outside : s.inFence = false)
    (mark : dropStart? promptMark (trim raw) = some header) :
    LineStep s n raw { s with pending := none } (promptEntries s.pending ++
      [.fault (.invalidRole n (String.ofList (firstWord (trim header))))])
  | prompt {header : List Char} {role : Role} (current : s.current = .prompts)
    (outside : s.inFence = false) (mark : dropStart? promptMark (trim raw) = some header)
    (named : Role.ofWord? (firstWord (trim header)) = some role) :
    LineStep s n raw { s with pending := some { key := String.ofList (trim header), role } }
      (promptEntries s.pending)
  | collected (current : s.current = .prompts)
    (text : s.inFence = false → dropStart? sectionMark (trim raw) = none ∧
      dropStart? promptMark (trim raw) = none) :
    LineStep s n raw
      { s with
        inFence := toggled s.inFence (trim raw)
        pending := s.pending.map fun p => { p with lines := raw :: p.lines } } []

/-- A mark is looked for outside of fences only. -/
theorem outside_of_marked {inFence : Bool} {mark line rest : List Char}
    (h : (if inFence then none else dropStart? mark line) = some rest) :
    inFence = false ∧ dropStart? mark line = some rest := by
  cases inFence with
  | false => exact ⟨rfl, h⟩
  | true => cases h

theorem unmarked_of_outside {inFence : Bool} {mark line : List Char}
    (h : (if inFence then none else dropStart? mark line) = none) (hout : inFence = false) :
    dropStart? mark line = none := by
  subst hout
  exact h

theorem lineStep_workflowLine {s : Scan} (hcurrent : s.current = .workflow) (n : Nat)
    {raw : List Char} (htext : s.inFence = false → dropStart? sectionMark (trim raw) = none) :
    LineStep s n raw (workflowLine s n (trim raw)).1 (workflowLine s n (trim raw)).2 := by
  unfold workflowLine
  split
  · exact .passes true false
  · split
    · exact .passes false false
    · split
      · split
        · exact .passes s.inMermaid true
        · exact .passes s.inMermaid s.inFlowchart
      · split
        · exact .draws hcurrent htext
        · exact .passes s.inMermaid s.inFlowchart

theorem lineStep_promptLine {s : Scan} (hcurrent : s.current = .prompts) (n : Nat)
    {raw : List Char} (htext : s.inFence = false → dropStart? sectionMark (trim raw) = none) :
    LineStep s n raw (promptLine s n raw).1 (promptLine s n raw).2 := by
  unfold promptLine
  dsimp only
  split
  · next header hmark =>
    obtain ⟨hout, hmark⟩ := outside_of_marked hmark
    split
    · exact .stranger hcurrent hout hmark
    · next role hrole => exact .prompt hcurrent hout hmark hrole
  · next hmark =>
    exact .collected hcurrent fun hout => ⟨htext hout, unmarked_of_outside hmark hout⟩

/-- Every line is of one of these kinds. -/
theorem lineStep (s : Scan) (n : Nat) (raw : List Char) :
    LineStep s n raw (scanLine s n raw).1 (scanLine s n raw).2 := by
  unfold scanLine
  dsimp only
  split
  · next heading hmark =>
    obtain ⟨hout, hmark⟩ := outside_of_marked hmark
    exact .heading hout hmark
  · next hmark =>
    have htext : s.inFence = false → dropStart? sectionMark (trim raw) = none :=
      unmarked_of_outside hmark
    split
    · next hcurrent =>
      dsimp only
      split
      · exact .passes s.inMermaid s.inFlowchart
      · next hsolid => exact .describes hcurrent (by simpa using hsolid) htext
    · next hcurrent => exact lineStep_workflowLine hcurrent n htext
    · next hcurrent => exact lineStep_promptLine hcurrent n htext
    · exact .passes s.inMermaid s.inFlowchart

/-! ### Prompts and sections -/

/-- What a prompt that comes to its end adds is about that prompt. -/
theorem mem_promptEntries {pending : Option PendingPrompt} {e : Entry}
    (h : e ∈ promptEntries pending) : ∃ p, pending = some p ∧ (e = .blankPrompt p.key ∨
      ¬ isAllBlank (joinWith ['\n'] p.lines.reverse) ∧
        e = .prompt p.key p.role (String.ofList (trim (joinWith ['\n'] p.lines.reverse)))) := by
  cases pending with
  | none => cases h
  | some p =>
    unfold promptEntries at h
    dsimp only at h
    split at h
    · exact ⟨p, rfl, Or.inl (List.mem_singleton.mp h)⟩
    · next hsolid => exact ⟨p, rfl, Or.inr ⟨hsolid, List.mem_singleton.mp h⟩⟩

/-- A heading ends the prompt before it. -/
theorem enterSection_frame (s : Scan) (heading : List Char) :
    (enterSection s heading).1.inFence = s.inFence ∧ (enterSection s heading).1.pending = none := by
  unfold enterSection
  dsimp only
  split
  · exact ⟨rfl, rfl⟩
  · split
    · exact ⟨rfl, rfl⟩
    · split <;> exact ⟨rfl, rfl⟩

/-- If a heading adds anything, it is one that names the workflow or one that is passed over. -/
theorem mem_enterSection {s : Scan} {heading : List Char} {e : Entry}
    (h : e ∈ (enterSection s heading).2) : e = .skipSection (String.ofList heading) ∨
      "Workflow".toList.isPrefixOf heading = false ∧ "Prompts".toList.isPrefixOf heading = false ∧
        e = .name (String.ofList heading) := by
  unfold enterSection at h
  dsimp only at h
  split at h
  · cases h
  · next hworkflow =>
    split at h
    · cases h
    · next hprompts =>
      split at h
      · exact Or.inr ⟨Bool.eq_false_iff.mpr hworkflow, Bool.eq_false_iff.mpr hprompts,
          List.mem_singleton.mp h⟩
      · exact Or.inl (List.mem_singleton.mp h)

/-! ## What entries satisfy -/

/-- A line of the description. -/
structure LineFits (line : String) : Prop where
  solid : trim line.toList ≠ []
  trimmed : trimRight line.toList = line.toList
  no_newline : '\n' ∉ line.toList
  no_heading : dropStart? sectionMark (trim line.toList) = none

theorem LineFits.ne_empty {l : String} (h : LineFits l) : l ≠ "" := by
  rintro rfl
  exact h.solid rfl

/-- A heading that names a workflow. -/
structure HeadingFits (heading : String) : Prop where
  tight : Tight heading.toList
  ne_empty : heading ≠ ""
  no_newline : '\n' ∉ heading.toList
  no_workflow : "Workflow".toList.isPrefixOf heading.toList = false
  no_prompts : "Prompts".toList.isPrefixOf heading.toList = false

/-- A heading of a prompt, which tells its role. -/
structure KeyFits (key : String) (role : Role) : Prop where
  tight : Tight key.toList
  ne_empty : key ≠ ""
  no_newline : '\n' ∉ key.toList
  role : Role.ofWord? (firstWord key.toList) = some role

/-- A prompt with its heading. -/
structure PromptFits (key : String) (p : Prompt) : Prop where
  key : KeyFits key p.role
  tight : Tight p.content.toList
  ne_empty : p.content ≠ ""
  hidden : Hidden false (solidLines p.content.toList)

/-- What an entry of a document satisfies. -/
def Fits : Entry → Prop
  | .describe line => LineFits line
  | .name heading => HeadingFits heading
  | .prompt key role content => PromptFits key ⟨role, content⟩
  | .blankPrompt _ => True
  | .skipSection _ => True
  | .param key value => FitsChart (.param key value)
  | .declare kind name expression => FitsChart (.declare kind name expression)
  | .connect source target branch => FitsChart (.connect source target branch)
  | .fault f => FitsChart (.fault f)

theorem Fits.of_chart {e : Entry} (h : FitsChart e) : Fits e := by
  cases e with
  | describe line => exact absurd h id
  | name heading => exact absurd h id
  | prompt key role content => exact absurd h id
  | blankPrompt key => exact True.intro
  | skipSection heading => exact True.intro
  | _ => exact h

/-! ## The invariant -/

/-- A prompt whose lines are being collected. -/
structure PendingSane (inFence : Bool) (p : PendingPrompt) : Prop where
  key : KeyFits p.key p.role
  no_newline : ∀ l ∈ p.lines, '\n' ∉ l
  hidden : Hidden false (solid p.lines.reverse)
  inFence : inFence = afterFences false (solid p.lines.reverse)

/-- What holds of a scan between two lines. -/
structure Sane (s : Scan) : Prop where
  fenced : s.inFence → s.current = .prompts
  pending : ∀ p, s.pending = some p → PendingSane s.inFence p

theorem sane_start : Sane {} := ⟨nofun, nofun⟩

theorem fits_promptEntries {s : Scan} (h : Sane s) : ∀ e ∈ promptEntries s.pending, Fits e := by
  intro e he
  obtain ⟨p, hp, rfl | ⟨hsolid, rfl⟩⟩ := mem_promptEntries he
  · exact True.intro
  · have hsane := h.pending p hp
    have hlines : ∀ l ∈ p.lines.reverse, '\n' ∉ l := fun l hl =>
      hsane.no_newline l (List.mem_reverse.mp hl)
    refine ⟨hsane.key, ?_, fun hc => hsolid ?_, ?_⟩
    · rw [String.toList_ofList]
      exact tight_trim _
    · have hempty := congrArg String.toList hc
      rw [String.toList_ofList] at hempty
      exact trim_eq_nil_iff.mp hempty
    · rw [String.toList_ofList, solidLines_trim, solidLines_joinWith hlines]
      exact hsane.hidden

/-- Behind its mark a heading is not empty. -/
theorem heading_ne_nil {mark raw rest : List Char} (hend : ∃ front, mark = front ++ [' '])
    (h : dropStart? mark (trim raw) = some rest) :
    trim rest ≠ [] := by
  intro hnil
  obtain ⟨front, rfl⟩ := hend
  have hraw := dropStart?_eq_some h
  have hblank : isAllBlank ([' '] ++ rest) := by
    rw [isAllBlank_append]
    exact ⟨by decide, trim_eq_nil_iff.mp hnil⟩
  have htrim := trim_append_blank front hblank
  rw [← List.append_assoc, ← hraw, trim_trim] at htrim
  have hlen := congrArg List.length (htrim ▸ hraw)
  have hle := length_trim_le front
  simp only [List.length_append, List.length_cons, List.length_nil] at hlen
  omega

theorem no_newline_of_mark {mark raw rest : List Char} (hraw : '\n' ∉ raw)
    (h : dropStart? mark (trim raw) = some rest) : '\n' ∉ rest := by
  intro hc
  refine hraw (mem_of_mem_trim ?_)
  rw [dropStart?_eq_some h]
  exact List.mem_append_right _ hc

/-- Behind a heading nothing is open. -/
theorem sane_enterSection {s : Scan} (hout : s.inFence = false) (heading : List Char) :
    Sane (enterSection s heading).1 := by
  obtain ⟨hfence, hpending⟩ := enterSection_frame s heading
  refine ⟨fun h => ?_, fun p hp => ?_⟩
  · rw [hfence, hout] at h
    cases h
  · rw [hpending] at hp
    cases hp

theorem fits_enterSection {s : Scan} {raw heading : List Char} (hraw : '\n' ∉ raw)
    (hmark : dropStart? sectionMark (trim raw) = some heading) :
    ∀ e ∈ (enterSection s (trim heading)).2, Fits e := by
  intro e he
  rcases mem_enterSection he with rfl | ⟨hworkflow, hprompts, rfl⟩
  · exact True.intro
  · have htext : (String.ofList (trim heading)).toList = trim heading := String.toList_ofList
    have hnewline := no_newline_of_mark hraw hmark
    refine ⟨?_, fun h => heading_ne_nil ⟨['#'], rfl⟩ hmark ?_, ?_, ?_, ?_⟩
    · rw [htext]
      exact tight_trim heading
    · have hempty := congrArg String.toList h
      rwa [htext] at hempty
    · rw [htext]
      exact fun hc => hnewline (mem_of_mem_trim hc)
    · rwa [htext]
    · rwa [htext]

/-- A heading of a prompt fits, and nothing is collected behind it yet. -/
theorem pendingSane_of_header {raw header : List Char} (hraw : '\n' ∉ raw)
    (hmark : dropStart? promptMark (trim raw) = some header) {role : Role}
    (hrole : Role.ofWord? (firstWord (trim header)) = some role) :
    PendingSane false { key := String.ofList (trim header), role } := by
  have htext : (String.ofList (trim header)).toList = trim header := String.toList_ofList
  have hnewline := no_newline_of_mark hraw hmark
  have hkey : KeyFits (String.ofList (trim header)) role := by
    refine ⟨?_, fun h => heading_ne_nil ⟨['#', '#'], rfl⟩ hmark ?_, ?_, ?_⟩
    · rw [htext]
      exact tight_trim header
    · have hempty := congrArg String.toList h
      rwa [htext] at hempty
    · rw [htext]
      exact fun hc => hnewline (mem_of_mem_trim hc)
    · rwa [htext]
  exact ⟨hkey, by simp, True.intro, rfl⟩

/-- A prompt stays sane with one more line that is no heading outside of its fences. -/
theorem PendingSane.collected {inFence : Bool} {p : PendingPrompt} (h : PendingSane inFence p)
    {raw : List Char} (hraw : '\n' ∉ raw)
    (htext : inFence = false → dropStart? sectionMark (trim raw) = none ∧
      dropStart? promptMark (trim raw) = none) :
    PendingSane (toggled inFence (trim raw)) { p with lines := raw :: p.lines } where
  key := h.key
  no_newline := by
    intro l hl
    rcases List.mem_cons.mp hl with rfl | hl
    · exact hraw
    · exact h.no_newline l hl
  hidden := by
    rw [List.reverse_cons, solid_append, hidden_append, ← h.inFence, hidden_solid]
    exact ⟨h.hidden, htext⟩
  inFence := by
    rw [List.reverse_cons, solid_append, afterFences_append, ← h.inFence, afterFences_solid]

/-- A line of the description, without the blanks behind it. -/
theorem lineFits_of_text {raw : List Char} (hraw : '\n' ∉ raw) (hsolid : trim raw ≠ [])
    (htext : dropStart? sectionMark (trim raw) = none) :
    LineFits (String.ofList (trimRight raw)) := by
  obtain ⟨blanks, hsplit, _, hlast⟩ := exists_trimRight raw
  refine ⟨?_, ?_, ?_, ?_⟩ <;> rw [String.toList_ofList]
  · rwa [trim_trimRight]
  · exact trimRight_eq_self hlast
  · intro hc
    refine hraw ?_
    rw [hsplit]
    exact List.mem_append_left _ hc
  · rwa [trim_trimRight]

/-- A line keeps the invariant. -/
theorem LineStep.sane {s s' : Scan} {n : Nat} {raw : List Char} {es : List Entry}
    (h : LineStep s n raw s' es) (hs : Sane s) (hraw : '\n' ∉ raw) : Sane s' := by
  cases h with
  | heading outside mark => exact sane_enterSection outside _
  | describes | passes | draws => exact ⟨hs.fenced, hs.pending⟩
  | stranger => exact ⟨hs.fenced, nofun⟩
  | prompt current outside mark named =>
    refine ⟨hs.fenced, fun p hp => ?_⟩
    cases hp
    rw [outside]
    exact pendingSane_of_header hraw mark named
  | collected current text =>
    refine ⟨fun _ => current, fun p hp => ?_⟩
    obtain ⟨q, hq, rfl⟩ := Option.map_eq_some_iff.mp hp
    exact (hs.pending q hq).collected hraw text

/-- What a line adds fits. -/
theorem LineStep.fits {s s' : Scan} {n : Nat} {raw : List Char} {es : List Entry}
    (h : LineStep s n raw s' es) (hs : Sane s) (hraw : '\n' ∉ raw) : ∀ e ∈ es, Fits e := by
  intro e he
  cases h with
  | heading outside mark =>
    rcases List.mem_append.mp he with he | he
    · exact fits_promptEntries hs e he
    · exact fits_enterSection hraw mark e he
  | describes current solid text =>
    have hout : s.inFence = false := by
      refine Bool.eq_false_iff.mpr fun hin => ?_
      rw [hs.fenced hin] at current
      cases current
    rw [List.mem_singleton.mp he]
    exact lineFits_of_text hraw solid (text hout)
  | passes => cases he
  | draws => exact .of_chart (fitsChart_of_mem (fun hc => hraw (mem_of_mem_trim hc)) he)
  | stranger =>
    rcases List.mem_append.mp he with he | he
    · exact fits_promptEntries hs e he
    · rw [List.mem_singleton.mp he]
      exact True.intro
  | prompt => exact fits_promptEntries hs e he
  | collected => cases he

/-- One line keeps the invariant, and what it adds fits. -/
theorem sane_scanLine {s : Scan} (h : Sane s) (n : Nat) {raw : List Char} (hraw : '\n' ∉ raw) :
    Sane (scanLine s n raw).1 ∧ ∀ e ∈ (scanLine s n raw).2, Fits e :=
  ⟨(lineStep s n raw).sane h hraw, (lineStep s n raw).fits h hraw⟩

theorem fits_of_mem_scanFrom {s : Scan} (h : Sane s) (n : Nat) {lines : List (List Char)}
    (hlines : ∀ l ∈ lines, '\n' ∉ l) : ∀ e ∈ scanFrom s n lines, Fits e := by
  induction lines generalizing s n with
  | nil => exact fits_promptEntries h
  | cons raw rest ih =>
    obtain ⟨hsane, hfits⟩ := sane_scanLine h n (hlines raw List.mem_cons_self)
    intro e he
    rw [scanFrom] at he
    rcases List.mem_append.mp he with he | he
    · exact hfits e he
    · exact ih hsane (n + 1) (fun l hl => hlines l (List.mem_cons_of_mem _ hl)) e he

/-- Every entry of every document fits. -/
theorem fits_of_mem_entries {text : String} : ∀ e ∈ entries text, Fits e :=
  fits_of_mem_scanFrom sane_start 1 fun _ hl => not_mem_of_mem_lines hl

/-! ## Edges -/

theorem no_connect_promptEntries {pending : Option PendingPrompt} {s t : String} {b : Branch} :
    .connect s t b ∉ promptEntries pending := by
  intro h
  obtain ⟨p, -, he | ⟨-, he⟩⟩ := mem_promptEntries h
  · cases he
  · cases he

/-- Only a line of a flowchart adds edges. -/
theorem LineStep.grounded {s s' : Scan} {n : Nat} {raw : List Char} {es : List Entry}
    (h : LineStep s n raw s' es) (known : List String) : Grounded known es := by
  cases h with
  | draws => exact grounded_flowchartEntries n _ known
  | heading =>
    refine grounded_of_no_connect (fun source target b he => ?_) known
    rcases List.mem_append.mp he with he | he
    · exact no_connect_promptEntries he
    · rcases mem_enterSection he with he | ⟨-, -, he⟩
      · cases he
      · cases he
  | stranger =>
    refine grounded_of_no_connect (fun source target b he => ?_) known
    rcases List.mem_append.mp he with he | he
    · exact no_connect_promptEntries he
    · cases List.mem_singleton.mp he
  | prompt => exact grounded_of_no_connect (fun _ _ _ => no_connect_promptEntries) known
  | describes | passes | collected => exact True.intro

theorem grounded_scanFrom (s : Scan) (n : Nat) (lines : List (List Char)) (known : List String) :
    Grounded known (scanFrom s n lines) := by
  induction lines generalizing s n known with
  | nil => exact grounded_of_no_connect (fun _ _ _ => no_connect_promptEntries) known
  | cons raw rest ih => exact ((lineStep s n raw).grounded known).append fun known' => ih _ _ known'

/-- The edges of a document join activities that are declared before. -/
theorem grounded_entries (text : String) : Grounded [] (entries text) := grounded_scanFrom _ _ _ _

end Playbook.Document
