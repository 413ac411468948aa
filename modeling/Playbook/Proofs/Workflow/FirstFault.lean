/-
  Which fault a reader reports. A fault names the line that adds it (`LineStep.line?_of_fault`), and
  of several faults the first counts (`addAll_eq_error_iff`). Sections, fences and prompts that are
  still open put nothing off: what is reported is the first line at fault, whatever comes behind it
  (`reported_line_is_first_at_fault`). Lines without faults add the same under any number
  (`scanFrom_number`).
-/
import Playbook.Proofs.Workflow.DocumentScan
import Playbook.Proofs.Workflow.GraphLines

namespace Playbook.Document

open Playbook.Text Playbook.Flowchart

/-! ## The fault of a line -/

theorem line?_ofNode (n : Nat) (f : NodeFault) : (ReadFault.ofNode n f).line? = some n := by
  cases f <;> rfl

theorem line?_of_declareChain {n : Nat} {line : String} {first : Bool} {segs : List (List Char)}
    {f : ReadFault} (h : (declareChain n line first segs).outcome = .error f) :
    f.line? = some n := by
  induction segs generalizing first with
  | nil => cases h
  | cons segment segs ih =>
    rw [declareChain] at h
    dsimp only at h
    split at h
    · cases h
      rfl
    · split at h
      · cases h
        exact line?_ofNode n _
      · cases h
        rfl
      · cases hrest : (declareChain n line false segs).outcome with
        | error g =>
          rw [hrest] at h
          cases h
          exact ih hrest
        | ok nodes =>
          rw [hrest] at h
          cases h

theorem no_fault_declareChain {n : Nat} {line : String} {first : Bool} {segs : List (List Char)}
    {f : ReadFault} : .fault f ∉ (declareChain n line first segs).entries := by
  induction segs generalizing first with
  | nil => exact List.not_mem_nil
  | cons segment segs ih =>
    rw [declareChain]
    dsimp only
    split
    · exact List.not_mem_nil
    · split
      · exact List.not_mem_nil
      · simp [nodeEntries]
      · rw [List.mem_cons, not_or]
        exact ⟨by simp, ih⟩

theorem line?_of_connectChain {n : Nat} {nodes : List (Option (List Char) × String)}
    {f : ReadFault} (h : .fault f ∈ connectChain n nodes) : f.line? = some n := by
  fun_induction connectChain n nodes with
  | case1 =>
    cases List.mem_singleton.mp h
    rfl
  | case2 _ source _ target _ _ branch _ ih =>
    rcases List.mem_cons.mp h with h | h
    · cases h
    · exact ih h
  | case3 => cases h

theorem line?_of_flowchartEntries {n : Nat} {line : List Char} {f : ReadFault}
    (h : .fault f ∈ flowchartEntries n line) : f.line? = some n := by
  unfold flowchartEntries at h
  split at h
  · cases h
  · split at h
    · split at h
      · cases List.mem_singleton.mp h
        exact line?_ofNode n _
      · next nd _ => cases nd <;> simp [nodeEntries] at h
    · dsimp only at h
      split at h
      · next g hg =>
        rcases List.mem_append.mp h with h | h
        · exact absurd h no_fault_declareChain
        · cases List.mem_singleton.mp h
          exact line?_of_declareChain hg
      · rcases List.mem_append.mp h with h | h
        · exact absurd h no_fault_declareChain
        · exact line?_of_connectChain h

/-- A prompt that comes to its end is never at fault, so none is found out late. -/
theorem no_fault_promptEntries {pending : Option PendingPrompt} {f : ReadFault} :
    .fault f ∉ promptEntries pending := by
  intro h
  obtain ⟨p, -, he | ⟨-, he⟩⟩ := mem_promptEntries h
  · cases he
  · cases he

theorem no_fault_enterSection {s : Scan} {heading : List Char} {f : ReadFault} :
    .fault f ∉ (enterSection s heading).2 := by
  intro h
  rcases mem_enterSection h with he | ⟨-, -, he⟩
  · cases he
  · cases he

/-- A fault that a line adds is about that line. -/
theorem LineStep.line?_of_fault {s s' : Scan} {n : Nat} {raw : List Char} {es : List Entry}
    (h : LineStep s n raw s' es) {f : ReadFault} (hf : .fault f ∈ es) : f.line? = some n := by
  cases h with
  | heading =>
    rcases List.mem_append.mp hf with hf | hf
    · exact absurd hf no_fault_promptEntries
    · exact absurd hf no_fault_enterSection
  | describes => cases List.mem_singleton.mp hf
  | draws => exact line?_of_flowchartEntries hf
  | stranger =>
    rcases List.mem_append.mp hf with hf | hf
    · exact absurd hf no_fault_promptEntries
    · cases List.mem_singleton.mp hf
      rfl
  | prompt => exact absurd hf no_fault_promptEntries
  | passes | collected => cases hf

/-! ## The first fault -/

/-- The fault of an entry. -/
def faultOf : Entry → Option ReadFault
  | .fault f => some f
  | _ => none

/-- The first fault among entries. -/
def firstFault (es : List Entry) : Option ReadFault := es.findSome? faultOf

theorem firstFault_append (es fs : List Entry) :
    firstFault (es ++ fs) = (firstFault es).or (firstFault fs) := List.findSome?_append

theorem mem_of_faultOf {e : Entry} {f : ReadFault} (h : faultOf e = some f) : e = .fault f := by
  cases e <;> cases h
  rfl

theorem mem_of_firstFault {es : List Entry} {f : ReadFault} (h : firstFault es = some f) :
    .fault f ∈ es := by
  obtain ⟨e, he, hf⟩ := List.exists_of_findSome?_eq_some h
  exact mem_of_faultOf hf ▸ he

theorem firstFault_eq_none_iff {es : List Entry} :
    firstFault es = none ↔ ∀ f, .fault f ∉ es := by
  constructor
  · intro h f hf
    cases List.findSome?_eq_none_iff.mp h _ hf
  · intro h
    cases hfirst : firstFault es with
    | none => rfl
    | some f => exact absurd (mem_of_firstFault hfirst) (h f)

/-- The first fault is in a line with none before it. -/
theorem exists_line_of_firstFault {s : Scan} {n : Nat} {ls : List (List Char)} {f : ReadFault}
    (h : firstFault (scanFrom s n ls) = some f) :
    ∃ before raw after es s', ls = before ++ raw :: after ∧ Scans s n before es s' ∧
      firstFault es = none ∧ firstFault (scanLine s' (n + before.length) raw).2 = some f := by
  induction ls generalizing s n with
  | nil => exact absurd (mem_of_firstFault h) no_fault_promptEntries
  | cons raw rest ih =>
    rw [scanFrom, firstFault_append] at h
    cases hone : firstFault (scanLine s n raw).2 with
    | some g =>
      rw [hone, Option.some_or] at h
      exact ⟨[], raw, rest, [], s, rfl, .nil s n, rfl, hone.trans h⟩
    | none =>
      rw [hone, Option.none_or] at h
      obtain ⟨before, raw', after, es, s', rfl, hscans, hnone, hfirst⟩ := ih h
      refine ⟨raw :: before, raw', after, (scanLine s n raw).2 ++ es, s', rfl, .cons rfl hscans, ?_,
        ?_⟩
      · rw [firstFault_append, hone, hnone, Option.none_or]
      · rw [List.length_cons, Nat.add_comm before.length, ← Nat.add_assoc]
        exact hfirst

section

variable {s s' : Scan} {n : Nat} {before : List (List Char)} {es : List Entry}
  (h : Scans s n before es s') (hnone : firstFault es = none)

include h hnone

theorem firstFault_scanFrom_append (rest : List (List Char)) :
    firstFault (scanFrom s n (before ++ rest)) =
      firstFault (scanFrom s' (n + before.length) rest) := by
  rw [h.scanFrom, firstFault_append, hnone, Option.none_or]

/-- Lines that were passed without a fault have none, also if the document ends behind them. -/
theorem firstFault_scanFrom : firstFault (scanFrom s n before) = none := by
  have hend := firstFault_scanFrom_append h hnone []
  rw [List.append_nil] at hend
  exact hend.trans (firstFault_eq_none_iff.mpr fun _ => no_fault_promptEntries)

/-- The first fault stays the first, whatever comes behind its line. -/
theorem firstFault_scanFrom_of_line {raw : List Char} {f : ReadFault}
    (hraw : firstFault (scanLine s' (n + before.length) raw).2 = some f)
    (after : List (List Char)) : firstFault (scanFrom s n (before ++ raw :: after)) = some f := by
  rw [firstFault_scanFrom_append h hnone, scanFrom, firstFault_append, hraw, Option.some_or]

end

/-- Where all lines have no fault, the first of them have none. -/
theorem firstFault_scanFrom_left {s : Scan} {n : Nat} {ls ms : List (List Char)}
    (h : firstFault (scanFrom s n (ls ++ ms)) = none) : firstFault (scanFrom s n ls) = none := by
  cases hfirst : firstFault (scanFrom s n ls) with
  | none => rfl
  | some f =>
    obtain ⟨before, raw, after, es, s', rfl, hscans, hnone, hraw⟩ :=
      exists_line_of_firstFault hfirst
    rw [List.append_assoc, List.cons_append,
      firstFault_scanFrom_of_line hscans hnone hraw] at h
    cases h

/-- Line number `n` of these lines is at fault. -/
def AtFault (ls : List (List Char)) (n : Nat) (f : ReadFault) : Prop :=
  ∃ before raw after es s, ls = before ++ raw :: after ∧ n = before.length + 1 ∧
    Scans {} 1 before es s ∧ .fault f ∈ (scanLine s n raw).2

/-- A line at fault is so among the lines up to it. -/
theorem AtFault.take {ls : List (List Char)} {n k : Nat} {f : ReadFault} (h : AtFault ls n f)
    (hk : n ≤ k) : AtFault (ls.take k) n f := by
  obtain ⟨before, raw, after, es, s, rfl, rfl, hscans, hf⟩ := h
  obtain ⟨d, rfl⟩ := Nat.exists_eq_add_of_le hk
  refine ⟨before, raw, after.take d, es, s, ?_, rfl, hscans, hf⟩
  have hsplit : before ++ raw :: after = (before ++ [raw]) ++ after := by simp
  have hlength : before.length + 1 + d = (before ++ [raw]).length + d := by simp
  rw [hsplit, hlength, List.take_length_add_append]
  simp

theorem AtFault.mem {ls : List (List Char)} {n : Nat} {f : ReadFault} (h : AtFault ls n f) :
    .fault f ∈ scanFrom {} 1 ls := by
  obtain ⟨before, raw, after, es, s, rfl, rfl, hscans, hf⟩ := h
  rw [hscans.scanFrom, scanFrom, Nat.add_comm 1]
  exact List.mem_append_right _ (List.mem_append_left _ hf)

/-! ## Numbers of lines -/

/-- Only faults tell the number of their line. -/
theorem declareChain_number {n : Nat} {line : String} {first : Bool} {segs : List (List Char)}
    {nodes : List (Option (List Char) × String)}
    (h : (declareChain n line first segs).outcome = .ok nodes) (m : Nat) :
    declareChain m line first segs = declareChain n line first segs := by
  induction segs generalizing first nodes with
  | nil => rfl
  | cons segment segs ih =>
    rw [declareChain] at h
    rw [declareChain, declareChain]
    dsimp only at h ⊢
    split at h
    · cases h
    · next hfirst =>
      rw [if_neg hfirst, if_neg hfirst]
      split at h
      · cases h
      · cases h
      · cases hrest : (declareChain n line false segs).outcome with
        | error f =>
          rw [hrest] at h
          cases h
        | ok rest => rw [ih hrest, hrest]

theorem connectChain_number {n : Nat} {nodes : List (Option (List Char) × String)}
    (h : ∀ f, .fault f ∉ connectChain n nodes) (m : Nat) :
    connectChain m nodes = connectChain n nodes := by
  fun_induction connectChain n nodes with
  | case1 => exact absurd List.mem_cons_self (h _)
  | case2 _ source label target rest word branch hbranch ih =>
    have hrest := ih fun f hf => h f (List.mem_cons_of_mem _ hf)
    have hword : Branch.ofLabel? (label.getD []) = some branch := hbranch
    rw [connectChain, hword]
    dsimp only
    rw [hrest]
  | case3 nodes hshort => exact connectChain.eq_2 m nodes hshort

theorem flowchartEntries_number {n : Nat} {line : List Char}
    (h : ∀ f, .fault f ∉ flowchartEntries n line) (m : Nat) :
    flowchartEntries m line = flowchartEntries n line := by
  unfold flowchartEntries at h ⊢
  split at h
  · next hignored => rw [if_pos hignored, if_pos hignored]
  · next hignored =>
    rw [if_neg hignored, if_neg hignored]
    split at h
    · split at h
      · exact absurd List.mem_cons_self (h _)
      · rfl
    · dsimp only at h ⊢
      split at h
      · exact absurd (List.mem_append_right _ List.mem_cons_self) (h _)
      · next nodes hok =>
        have hedges := connectChain_number fun f hf => h f (List.mem_append_right _ hf)
        rw [declareChain_number hok m, hok]
        dsimp only
        rw [hedges m]

theorem workflowLine_number {s : Scan} {n : Nat} {line : List Char}
    (h : ∀ f, .fault f ∉ (workflowLine s n line).2) (m : Nat) :
    workflowLine s m line = workflowLine s n line := by
  refine Prod.ext ?_ ?_
  · simp only [workflowLine, apply_ite Prod.fst]
  · rw [workflowLine_entries] at h
    rw [workflowLine_entries, workflowLine_entries]
    split at h
    · next hline => rw [if_pos hline, if_pos hline, flowchartEntries_number h m]
    · next hline => rw [if_neg hline, if_neg hline]

theorem promptLine_number {s : Scan} {n : Nat} {raw : List Char}
    (h : ∀ f, .fault f ∉ (promptLine s n raw).2) (m : Nat) :
    promptLine s m raw = promptLine s n raw := by
  unfold promptLine at h ⊢
  dsimp only at h ⊢
  split at h
  · split at h
    · exact absurd (List.mem_append_right _ List.mem_cons_self) (h _)
    · rfl
  · rfl

theorem scanLine_number {s : Scan} {n : Nat} {raw : List Char}
    (h : ∀ f, .fault f ∉ (scanLine s n raw).2) (m : Nat) : scanLine s m raw = scanLine s n raw := by
  cases hheading : heading? s raw with
  | some heading => rw [scanLine_of_heading hheading, scanLine_of_heading hheading]
  | none =>
    rw [scanLine_of_text hheading] at h
    rw [scanLine_of_text hheading, scanLine_of_text hheading]
    cases hcurrent : s.current with
    | preamble => rfl
    | workflow =>
      rw [hcurrent] at h
      exact workflowLine_number h m
    | prompts =>
      rw [hcurrent] at h
      exact promptLine_number h m
    | other => rfl

/-- Lines without a fault add the same wherever they stand. -/
theorem scanFrom_number {s : Scan} {n : Nat} {ls : List (List Char)}
    (h : ∀ f, .fault f ∉ scanFrom s n ls) (m : Nat) : scanFrom s m ls = scanFrom s n ls := by
  induction ls generalizing s n m with
  | nil => rfl
  | cons raw rest ih =>
    rw [scanFrom] at h
    have hline := scanLine_number (fun f hf => h f (List.mem_append_left _ hf)) m
    have hrest : scanFrom (scanLine s n raw).1 (m + 1) rest =
        scanFrom (scanLine s n raw).1 (n + 1) rest :=
      ih (fun f hf => h f (List.mem_append_right _ hf)) (m + 1)
    rw [scanFrom, scanFrom, hline]
    dsimp only
    rw [hrest]

end Playbook.Document

namespace Playbook.Workflow

open Playbook.Text Playbook.Document

/-! ## Reading -/

theorem addAll_eq_error_iff {w : Workflow} {es : List Entry} {f : ReadFault} :
    w.addAll es = .error f ↔ firstFault es = some f := by
  induction es generalizing w with
  | nil => exact iff_of_false nofun nofun
  | cons e es ih =>
    cases e with
    | fault g => exact ⟨fun h => by cases h; rfl, fun h => by cases h; rfl⟩
    | _ => exact ih

variable {filepath directory text : String}

/-- A document with a fault is refused for the first one. -/
theorem readAt_of_firstFault {f : ReadFault} (h : firstFault (entries text) = some f) :
    readAt filepath directory text = .error f := by
  have hadd : ({ filepath, directory } : Workflow).addAll (entries text) = .error f :=
    addAll_eq_error_iff.mpr h
  rw [readAt, hadd]

/-- A document without faults is refused only for want of an entry point. -/
theorem missingStart_of_readAt {f : ReadFault} (hread : readAt filepath directory text = .error f)
    (h : firstFault (entries text) = none) : f = .missingStart := by
  unfold readAt at hread
  split at hread
  · unfold finish at hread
    split at hread
    · cases hread
    · cases hread
      rfl
  · next g hadd =>
    rw [addAll_eq_error_iff.mp hadd] at h
    cases h

theorem firstFault_of_readAt {f : ReadFault} {n : Nat}
    (hread : readAt filepath directory text = .error f) (hline : f.line? = some n) :
    firstFault (entries text) = some f := by
  cases hfirst : firstFault (entries text) with
  | none =>
    rw [missingStart_of_readAt hread hfirst] at hline
    cases hline
  | some g =>
    have hsame := (readAt_of_firstFault hfirst).symm.trans hread
    cases hsame
    rfl

/-- A fault in the entries names a line, and the missing entry point does not. -/
theorem firstFault_of_missingStart (hread : readAt filepath directory text = .error .missingStart) :
    firstFault (entries text) = none := by
  cases hfirst : firstFault (entries text) with
  | none => rfl
  | some g =>
    obtain ⟨_, _, _, _, _, _, _, _, hraw⟩ := exists_line_of_firstFault hfirst
    have hline := (lineStep _ _ _).line?_of_fault (mem_of_firstFault hraw)
    rw [readAt_of_firstFault hfirst] at hread
    cases hread
    cases hline

/-- No line of a text is refused: at most it has no entry point. -/
def Passes (text : String) : Prop :=
  ∀ filepath directory f, readAt filepath directory text = .error f → f = .missingStart

/-- Lines without faults pass, be they taken alone. -/
theorem passes_of_lines {front : String} {ls : List (List Char)} (hlines : lines front.toList = ls)
    (h : firstFault (scanFrom {} 1 ls) = none) : Passes front := by
  intro filepath directory f hread
  exact missingStart_of_readAt hread (by rw [entries, hlines, h])

/-- Every text that begins with these lines is refused for the fault of the last of them. -/
theorem readAt_of_take {before : List (List Char)} {raw : List Char} {es : List Entry} {s : Scan}
    {f : ReadFault} (hscans : Scans {} 1 before es s) (hnone : firstFault es = none)
    (hraw : firstFault (scanLine s (1 + before.length) raw).2 = some f)
    (hlines : (lines text.toList).take (before.length + 1) = before ++ [raw]) :
    readAt filepath directory text = .error f := by
  have hsplit : lines text.toList = before ++ raw :: (lines text.toList).drop (before.length + 1) := by
    conv => lhs; rw [← List.take_append_drop (before.length + 1) (lines text.toList), hlines]
    rw [← List.append_cons]
  refine readAt_of_firstFault ?_
  rw [entries, hsplit]
  exact firstFault_scanFrom_of_line hscans hnone hraw _

/-- A fault that names a line names the first line at fault. It is one of the text; the lines before
it pass, be they taken alone; and every text with the lines up to it is refused for the same fault.
A text is said to have no entry point only if no line is at fault, and then it passes up to any of
its lines. -/
theorem reported_line_is_first_at_fault (filepath directory text : String) :
    (∀ f n, readAt filepath directory text = .error f → f.line? = some n →
      (1 ≤ n ∧ n ≤ (lines text.toList).length) ∧
      AtFault (lines text.toList) n f ∧
      (∀ m g, m < n → ¬ AtFault (lines text.toList) m g) ∧
      (∃ front : String, lines front.toList = (lines text.toList).take (n - 1)) ∧
      (∀ front : String, lines front.toList = (lines text.toList).take (n - 1) → Passes front) ∧
      ∀ text' : String, (lines text'.toList).take n = (lines text.toList).take n →
        ∀ filepath' directory', readAt filepath' directory' text' = .error f) ∧
    (readAt filepath directory text = .error .missingStart →
      (∀ n f, ¬ AtFault (lines text.toList) n f) ∧
      ∀ k (front : String), lines front.toList = (lines text.toList).take k → Passes front) := by
  refine ⟨fun f n hread hline => ?_, fun hread => ?_⟩
  · obtain ⟨before, raw, after, es, s, hlines, hscans, hnone, hraw⟩ :=
      exists_line_of_firstFault (firstFault_of_readAt hread hline)
    have hmem := mem_of_firstFault hraw
    obtain rfl : n = before.length + 1 := by
      have hown := (lineStep _ _ _).line?_of_fault hmem
      rw [hline, Option.some.injEq] at hown
      omega
    have hsolid : firstFault (scanFrom {} 1 before) = none := firstFault_scanFrom hscans hnone
    have hbefore : (before ++ raw :: after).take before.length = before := List.take_left
    have hupto : (before ++ raw :: after).take (before.length + 1) = before ++ [raw] := by
      rw [List.append_cons]
      exact List.take_left' (by simp)
    have hfault : AtFault (lines text.toList) (before.length + 1) f := by
      refine ⟨before, raw, after, es, s, hlines, rfl, hscans, ?_⟩
      rwa [Nat.add_comm before.length]
    refine ⟨?_, hfault, fun m g hm hearly => ?_, ?_, fun front hfront => ?_, fun text' hsame => ?_⟩
    · rw [hlines]
      simp
    · have hmem := (hearly.take (Nat.le_of_lt_succ hm)).mem
      rw [hlines, hbefore] at hmem
      exact firstFault_eq_none_iff.mp hsolid g hmem
    · exact exists_text_of_lines fun l hl => not_mem_of_mem_lines (List.mem_of_mem_take hl)
    · rw [Nat.add_sub_cancel, hlines, hbefore] at hfront
      exact passes_of_lines hfront hsolid
    · intro filepath' directory'
      rw [hlines, hupto] at hsame
      exact readAt_of_take hscans hnone hraw hsame
  · have hnone := firstFault_of_missingStart hread
    refine ⟨fun n f hfault => firstFault_eq_none_iff.mp hnone f hfault.mem, fun k front hfront => ?_⟩
    rw [entries, ← List.take_append_drop k (lines text.toList)] at hnone
    exact passes_of_lines hfront (firstFault_scanFrom_left hnone)

/-- A document with a label that is no branch in line 12, and a role that is none behind it. -/
def undecidedText : String :=
  "# Delivery\nWhat to do.\n# Prompts\n## User PROMPT_SHIP\n```\n## Nobody\n```\n# Workflow\n" ++
  "```mermaid\nflowchart TD\n  START --> CHECK_STOCK\n  CHECK_STOCK -->|MAYBE| SUCCESS\n```\n" ++
  "# Prompts\n## Nobody\n"

/-- A document of which nothing is wrong but that it has no entry point. -/
def unstartedText : String := "# Workflow\n```mermaid\nflowchart TD\nCHECK_STOCK --> SUCCESS\n```\n"

theorem eq_error_of_fault {f : ReadFault}
    (h : (match readAt filepath directory text with
      | .error g => some g
      | .ok _ => none) = some f) :
    readAt filepath directory text = .error f := by
  split at h
  · next g hread => rw [hread, Option.some.inj h]
  · cases h

theorem undecidedText_is_refused :
    (readAt "" "." undecidedText = .error (.invalidLabel 12 "MAYBE") ∧
      AtFault (lines undecidedText.toList) 12 (.invalidLabel 12 "MAYBE") ∧
      (∀ front : String, lines front.toList = (lines undecidedText.toList).take 11 → Passes front) ∧
      ∀ text' : String, (lines text'.toList).take 12 = (lines undecidedText.toList).take 12 →
        read text' = .error (.invalidLabel 12 "MAYBE")) ∧
    readAt "" "." unstartedText = .error .missingStart ∧
    ∀ n f, ¬ AtFault (lines unstartedText.toList) n f := by
  have hread : readAt "" "." undecidedText = .error (.invalidLabel 12 "MAYBE") :=
    eq_error_of_fault (by decide +kernel)
  have hmissing : readAt "" "." unstartedText = .error .missingStart :=
    eq_error_of_fault (by decide +kernel)
  obtain ⟨_, hfault, _, _, hpasses, hsame⟩ :=
    (reported_line_is_first_at_fault "" "." undecidedText).1 _ 12 hread rfl
  obtain ⟨hnone, _⟩ := (reported_line_is_first_at_fault "" "." unstartedText).2 hmissing
  exact ⟨⟨hread, hfault, hpasses, fun text' h => hsame text' h "" "."⟩, hmissing, hnone⟩

end Playbook.Workflow
