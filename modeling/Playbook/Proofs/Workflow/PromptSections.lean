/-
  The prompts of a document. Its lines are cut at the headings into sections (`promptSections`), and
  the prompts that are read from it are the last nonempty section with each heading
  (`prompts_of_readAt`).
-/
import Playbook.Proofs.Workflow.LastWins
import Playbook.Proofs.Workflow.PromptBlocks

namespace Playbook.Document

open Playbook.Text Playbook.Flowchart Playbook.Workflow

/-! ## Sections -/

/-- A section that declares a prompt: its heading, behind the mark, and the lines up to the next
heading. -/
structure PromptSection where
  header : List Char
  body : List (List Char)
  deriving Repr, DecidableEq

namespace PromptSection

/-- The word for the role. -/
def word (s : PromptSection) : List Char := firstWord s.header

/-- The role that the word names, in any letter case. -/
def role? (s : PromptSection) : Option Role := Role.ofWord? s.word

/-- What stands behind the word for the role. -/
def id (s : PromptSection) : List Char := trim (s.header.dropWhile (!isBlank ·))

/-- The lines as one text. -/
def text (s : PromptSection) : List Char := joinWith ['\n'] s.body

/-- Not only blanks stand behind the heading. -/
def Filled (s : PromptSection) : Prop := ¬ isAllBlank s.text

instance (s : PromptSection) : Decidable s.Filled := inferInstanceAs (Decidable (¬ _))

/-- The word for the role is written just as a title. -/
def Titled (s : PromptSection) : Prop := ∃ role : Role, s.word = role.title.toList

instance (s : PromptSection) : Decidable s.Titled :=
  decidable_of_iff (∃ role ∈ [Role.system, .user, .assistant], s.word = role.title.toList)
    ⟨fun ⟨role, _, h⟩ => ⟨role, h⟩, fun ⟨role, h⟩ => ⟨role, by cases role <;> decide, h⟩⟩

/-- The prompt that a filled section declares, under its heading. -/
def prompt? (s : PromptSection) : Option (String × Prompt) :=
  if s.Filled then
    s.role?.map fun role => (String.ofList s.header, ⟨role, String.ofList (trim s.text)⟩)
  else none

end PromptSection

/-- The heading that a line is; inside of a fence it is none. -/
def marked? (mark : List Char) (inFence : Bool) (raw : List Char) : Option (List Char) :=
  if inFence then none else dropStart? mark (trim raw)

/-- Whether prompts are declared under a heading. -/
def isPromptsHeading (heading : List Char) : Bool := "Prompts".toList.isPrefixOf heading

/-- Lines cut at their headings: those in front of the first heading that are part of a prompt, if
one is open there, and the sections behind them that declare prompts. -/
def cutPrompts (inPrompts inFence : Bool) :
    List (List Char) → List (List Char) × List PromptSection
  | [] => ([], [])
  | raw :: rest =>
    match marked? sectionMark inFence raw with
    | some heading => ([], (cutPrompts (isPromptsHeading (trim heading)) false rest).2)
    | none =>
      if inPrompts then
        match marked? promptMark inFence raw with
        | some header =>
          let cut := cutPrompts true false rest
          ([], ⟨trim header, cut.1⟩ :: cut.2)
        | none =>
          let cut := cutPrompts true (toggled inFence (trim raw)) rest
          (raw :: cut.1, cut.2)
      else cutPrompts false inFence rest

/-- The sections of a document that declare prompts, in order. -/
def promptSections (text : String) : List PromptSection :=
  (cutPrompts false false (lines text.toList)).2

/-- The last section with this heading that is filled. -/
def lastFilled (header : List Char) (text : String) : Option PromptSection :=
  ((promptSections text).filter fun t => t.header = header ∧ t.Filled).getLast?

theorem mem_of_lastFilled {header : List Char} {text : String} {t : PromptSection}
    (h : lastFilled header text = some t) :
    t ∈ promptSections text ∧ t.header = header ∧ t.Filled := by
  obtain ⟨ht, hcond⟩ := List.mem_filter.mp (List.mem_of_getLast? h)
  exact ⟨ht, of_decide_eq_true hcond⟩

theorem exists_lastFilled {text : String} {s : PromptSection} (hs : s ∈ promptSections text)
    (hfilled : s.Filled) : ∃ t, lastFilled s.header text = some t := by
  have hmem : s ∈ (promptSections text).filter fun t => t.header = s.header ∧ t.Filled :=
    List.mem_filter.mpr ⟨hs, decide_eq_true ⟨rfl, hfilled⟩⟩
  exact ⟨_, List.getLast?_eq_some_getLast (List.ne_nil_of_mem hmem)⟩

/-! ## What is read from them -/

theorem prompt?_of_filled {t : PromptSection} (hfilled : t.Filled) {role : Role}
    (hrole : t.role? = some role) :
    t.prompt? = some (String.ofList t.header, ⟨role, String.ofList (trim t.text)⟩) := by
  rw [PromptSection.prompt?, if_pos hfilled, hrole]
  rfl

theorem promptOf_chart {e : Entry} (h : FitsChart e) : promptOf e = none := by
  cases e with
  | prompt key role content => exact h.elim
  | _ => rfl

/-- The prompts among the entries of a prompt that has come to its end. -/
theorem filterMap_promptEntries {t : PromptSection} {role : Role} (hrole : t.role? = some role) :
    (promptEntries ((some { key := String.ofList t.header, role }).map (extended t.body))).filterMap
      promptOf = t.prompt?.toList := by
  have htext : joinWith ['\n'] t.body = t.text := rfl
  simp only [Option.map_some, extended, List.append_nil, promptEntries, List.reverse_reverse,
    PromptSection.prompt?, PromptSection.Filled, htext, hrole]
  by_cases hblank : isAllBlank t.text
  · simp [hblank, promptOf]
  · simp [hblank, promptOf]

/-- A heading under which prompts are declared does not begin with the word for graphs. -/
theorem not_workflow_of_prompts {heading : List Char} (h : isPromptsHeading heading) :
    "Workflow".toList.isPrefixOf heading = false := by
  obtain ⟨rest, rfl⟩ := List.isPrefixOf_iff_prefix.mp h
  rfl

/-- Inside of a fence there are no headings. -/
theorem inFence_of_marked {mark raw heading : List Char} {inFence : Bool}
    (h : marked? mark inFence raw = some heading) : inFence = false := by
  cases inFence with
  | false => rfl
  | true => cases h

section

variable {s : Scan} {raw : List Char}

/-- A heading of a section ends the prompt before it. -/
theorem scanLine_section {heading : List Char}
    (h : marked? sectionMark s.inFence raw = some heading) (n : Nat) :
    ((scanLine s n raw).1.current == .prompts) = isPromptsHeading (trim heading) ∧
      (scanLine s n raw).1.inFence = false ∧ (scanLine s n raw).1.pending = none ∧
      (scanLine s n raw).2.filterMap promptOf = (promptEntries s.pending).filterMap promptOf := by
  have hout : s.inFence = false := inFence_of_marked h
  rw [scanLine_of_heading h, List.filterMap_append]
  unfold enterSection
  dsimp only
  by_cases hprompts : isPromptsHeading (trim heading)
  · rw [not_workflow_of_prompts hprompts, if_neg (by decide)]
    unfold isPromptsHeading at hprompts ⊢
    rw [if_pos hprompts, hprompts]
    exact ⟨rfl, hout, rfl, List.append_nil _⟩
  · have hother : isPromptsHeading (trim heading) = false := Bool.eq_false_iff.mpr hprompts
    rw [hother]
    unfold isPromptsHeading at hother
    rw [hother]
    split
    · exact ⟨rfl, hout, rfl, List.append_nil _⟩
    · rw [if_neg (by decide)]
      split
      · next hpreamble =>
        simp only [Bool.and_eq_true, beq_iff_eq] at hpreamble
        refine ⟨?_, hout, rfl, List.append_nil _⟩
        rw [hpreamble.1]
        rfl
      · exact ⟨rfl, hout, rfl, List.append_nil _⟩

variable (hsection : marked? sectionMark s.inFence raw = none)

include hsection

/-- In the prompts, what is no heading of a section is read as a line of theirs. -/
theorem scanLine_promptLine (hcurrent : s.current = .prompts) (n : Nat) :
    scanLine s n raw = promptLine s n raw := by
  rw [scanLine_of_text hsection, hcurrent]

/-- A heading of a prompt, in a document without faults, ends the one before it. -/
theorem scanLine_prompting {header : List Char} (hcurrent : s.current = .prompts)
    (h : marked? promptMark s.inFence raw = some header) {n : Nat}
    (hok : ∀ f, .fault f ∉ (scanLine s n raw).2) :
    ∃ role, Role.ofWord? (firstWord (trim header)) = some role ∧ scanLine s n raw =
      ({ s with pending := some { key := String.ofList (trim header), role } },
        promptEntries s.pending) := by
  have hmark : (if s.inFence then none else dropStart? "## ".toList (trim raw)) = some header := h
  rw [scanLine_promptLine hsection hcurrent] at hok ⊢
  unfold promptLine at hok ⊢
  dsimp only at hok ⊢
  rw [hmark] at hok ⊢
  dsimp only at hok ⊢
  cases hrole : Role.ofWord? (firstWord (trim header)) with
  | none =>
    rw [hrole] at hok
    exact absurd (List.mem_append_right _ List.mem_cons_self) (hok _)
  | some role => exact ⟨role, rfl, rfl⟩

/-- Any other line of the prompts is part of the one that is open. -/
theorem scanLine_collecting (hcurrent : s.current = .prompts)
    (h : marked? promptMark s.inFence raw = none) (n : Nat) : scanLine s n raw =
      ({ s with
          inFence := toggled s.inFence (trim raw)
          pending := s.pending.map (extended [raw]) }, []) := by
  have hmark : (if s.inFence then none else dropStart? "## ".toList (trim raw)) = none := h
  rw [scanLine_promptLine hsection hcurrent]
  unfold promptLine
  dsimp only
  rw [hmark]
  rfl

/-- Outside of the prompts text declares none. -/
theorem LineStep.elsewhere {s' : Scan} {n : Nat} {es : List Entry} (h : LineStep s n raw s' es)
    (hcurrent : s.current ≠ .prompts) (hnewline : '\n' ∉ raw) :
    s'.current = s.current ∧ s'.inFence = s.inFence ∧ s'.pending = s.pending ∧
      es.filterMap promptOf = [] := by
  cases h with
  | heading outside mark =>
    rw [marked?, outside, if_neg Bool.false_ne_true, mark] at hsection
    cases hsection
  | describes | passes => exact ⟨rfl, rfl, rfl, rfl⟩
  | draws =>
    exact ⟨rfl, rfl, rfl, List.filterMap_eq_nil_iff.mpr fun e he =>
      promptOf_chart (fitsChart_of_mem (fun hc => hnewline (mem_of_mem_trim hc)) he)⟩
  | stranger current | prompt current | collected current => exact absurd current hcurrent

end

/-- What lines with these entries declare behind a scan: the prompt that is open in front of them,
with the lines up to the next heading, and those of the sections that they are cut into, each of
which names a role. -/
structure Declares (s : Scan) (ls : List (List Char)) (es : List Entry) : Prop where
  roles : ∀ t ∈ (cutPrompts (s.current == .prompts) s.inFence ls).2, t.role?.isSome
  prompts : es.filterMap promptOf =
    (promptEntries (s.pending.map
      (extended (cutPrompts (s.current == .prompts) s.inFence ls).1))).filterMap promptOf ++
    (cutPrompts (s.current == .prompts) s.inFence ls).2.filterMap PromptSection.prompt?

theorem declares_nil (s : Scan) : Declares s [] (promptEntries s.pending) where
  roles := fun _ ht => absurd ht List.not_mem_nil
  prompts := by rw [cutPrompts, map_extended_nil, List.filterMap_nil, List.append_nil]

section

variable {s : Scan} {raw : List Char} {ls : List (List Char)} {n : Nat} {es : List Entry}
  (h : Declares (scanLine s n raw).1 ls es)

include h

theorem Declares.of_section {heading : List Char}
    (hsection : marked? sectionMark s.inFence raw = some heading) :
    Declares s (raw :: ls) ((scanLine s n raw).2 ++ es) := by
  obtain ⟨hcurrent, hfence, hpending, hentries⟩ := scanLine_section hsection n
  obtain ⟨hroles, hprompts⟩ := h
  rw [hcurrent, hfence] at hroles hprompts
  have hcut : cutPrompts (s.current == .prompts) s.inFence (raw :: ls) =
      ([], (cutPrompts (isPromptsHeading (trim heading)) false ls).2) := by
    rw [cutPrompts, hsection]
  refine ⟨hcut ▸ hroles, ?_⟩
  rw [List.filterMap_append, hentries, hprompts, hpending, hcut, map_extended_nil]
  rfl

variable (hsection : marked? sectionMark s.inFence raw = none)

include hsection

theorem Declares.of_header {header : List Char} (hcurrent : s.current = .prompts)
    (hprompt : marked? promptMark s.inFence raw = some header)
    (hok : ∀ f, .fault f ∉ (scanLine s n raw).2) :
    Declares s (raw :: ls) ((scanLine s n raw).2 ++ es) := by
  obtain ⟨role, hrole, hscan⟩ := scanLine_prompting hsection hcurrent hprompt hok
  have hin : (s.current == Section.prompts) = true := by rw [hcurrent]; rfl
  obtain ⟨hroles, hprompts⟩ := h
  rw [hscan] at hroles hprompts ⊢
  dsimp only at hroles hprompts ⊢
  rw [hin, inFence_of_marked hprompt] at hroles hprompts
  let cut := cutPrompts true false ls
  have hcut : cutPrompts (s.current == .prompts) s.inFence (raw :: ls) =
      ([], ⟨trim header, cut.1⟩ :: cut.2) := by
    rw [cutPrompts, hsection, hin, if_pos rfl, hprompt]
  refine ⟨?_, ?_⟩
  · rw [hcut]
    intro t ht
    rcases List.mem_cons.mp ht with rfl | ht
    · exact Option.isSome_iff_exists.mpr ⟨role, hrole⟩
    · exact hroles t ht
  · rw [List.filterMap_append, hprompts, filterMap_promptEntries (t := ⟨trim header, cut.1⟩) hrole,
      hcut, map_extended_nil, List.filterMap_cons]
    cases PromptSection.prompt? ⟨trim header, cut.1⟩ <;> rfl

theorem Declares.of_line (hcurrent : s.current = .prompts)
    (hprompt : marked? promptMark s.inFence raw = none) :
    Declares s (raw :: ls) ((scanLine s n raw).2 ++ es) := by
  have hin : (s.current == Section.prompts) = true := by rw [hcurrent]; rfl
  obtain ⟨hroles, hprompts⟩ := h
  rw [scanLine_collecting hsection hcurrent hprompt] at hroles hprompts ⊢
  dsimp only at hroles hprompts ⊢
  rw [hin] at hroles hprompts
  let cut := cutPrompts true (toggled s.inFence (trim raw)) ls
  have hcut : cutPrompts (s.current == .prompts) s.inFence (raw :: ls) =
      (raw :: cut.1, cut.2) := by
    rw [cutPrompts, hsection, hin, if_pos rfl, hprompt]
  rw [map_extended_cons] at hprompts
  refine ⟨hcut ▸ hroles, ?_⟩
  rw [hcut]
  exact hprompts

theorem Declares.of_elsewhere (hcurrent : s.current ≠ .prompts) (hnewline : '\n' ∉ raw) :
    Declares s (raw :: ls) ((scanLine s n raw).2 ++ es) := by
  obtain ⟨hstay, hfence, hpending, hentries⟩ :=
    (lineStep s n raw).elsewhere hsection hcurrent hnewline
  have hout : (s.current == Section.prompts) = false := by simpa using hcurrent
  obtain ⟨hroles, hprompts⟩ := h
  rw [hstay, hfence, hout] at hroles hprompts
  have hcut : cutPrompts (s.current == .prompts) s.inFence (raw :: ls) =
      cutPrompts false s.inFence ls := by
    rw [cutPrompts, hsection, hout, if_neg Bool.false_ne_true]
  refine ⟨hcut ▸ hroles, ?_⟩
  rw [List.filterMap_append, hentries, hcut, hprompts, hpending]
  rfl

end

/-- What lines declare behind one line without a fault, they declare together with it. -/
theorem Declares.scanLine {s : Scan} {raw : List Char} {ls : List (List Char)} {n : Nat}
    {es : List Entry} (h : Declares (scanLine s n raw).1 ls es) (hnewline : '\n' ∉ raw)
    (hok : ∀ f, .fault f ∉ (Document.scanLine s n raw).2) :
    Declares s (raw :: ls) ((Document.scanLine s n raw).2 ++ es) := by
  cases hsection : marked? sectionMark s.inFence raw with
  | some heading => exact h.of_section hsection
  | none =>
    by_cases hcurrent : s.current = .prompts
    · cases hprompt : marked? promptMark s.inFence raw with
      | some header => exact h.of_header hsection hcurrent hprompt hok
      | none => exact h.of_line hsection hcurrent hprompt
    · exact h.of_elsewhere hsection hcurrent hnewline

/-- The prompts of lines without faults are those of the sections that they are cut into, behind
the one that is open in front of them. -/
theorem declares_scanFrom {ls : List (List Char)} (hls : ∀ l ∈ ls, '\n' ∉ l) (s : Scan) (n : Nat)
    (hok : ∀ f, .fault f ∉ scanFrom s n ls) : Declares s ls (scanFrom s n ls) := by
  induction ls generalizing s n with
  | nil => exact declares_nil s
  | cons raw ls ih =>
    have hone : ∀ f, .fault f ∉ (scanLine s n raw).2 := fun f hf =>
      hok f (List.mem_append_left _ hf)
    have hmore : ∀ f, .fault f ∉ scanFrom (scanLine s n raw).1 (n + 1) ls := fun f hf =>
      hok f (List.mem_append_right _ hf)
    have hrest := ih (fun l hl => hls l (List.mem_cons_of_mem _ hl)) _ _ hmore
    exact hrest.scanLine (hls raw List.mem_cons_self) hone

theorem tight_header (inPrompts inFence : Bool) (ls : List (List Char)) :
    ∀ t ∈ (cutPrompts inPrompts inFence ls).2, Tight t.header := by
  fun_induction cutPrompts inPrompts inFence ls with
  | case1 => exact fun t ht => absurd ht List.not_mem_nil
  | case2 inPrompts inFence raw rest heading h ih => exact ih
  | case3 inFence raw rest h header hprompt cut ih =>
    intro t ht
    rcases List.mem_cons.mp ht with rfl | ht
    · exact tight_trim _
    · exact ih t ht
  | case4 inFence raw rest h hprompt cut ih => exact ih
  | case5 inPrompts inFence raw rest h hout ih => exact ih

end Playbook.Document

namespace Playbook.Role

open Playbook.Text

theorem ofWord?_title (role : Role) : ofWord? role.title.toList = some role := by
  cases role <;> decide

/-- A word that names a role is as long as its title. -/
theorem length_eq_of_ofWord? {word : List Char} (hsolid : ∀ c ∈ word, isBlank c = false)
    {role : Role} (h : ofWord? word = some role) : word.length = role.title.toList.length := by
  have hlower : ∀ s : String, (String.ofList (lowerAscii word) == s) = true →
      word.length = s.toList.length := by
    intro s hs
    rw [← eq_of_beq hs, String.toList_ofList, lowerAscii, List.length_map]
  unfold ofWord? at h
  rw [(tight_of_solid hsolid).trim_eq] at h
  dsimp only at h
  split at h
  · next hs =>
    cases h
    exact (hlower _ hs).trans (by decide +kernel)
  · split at h
    · next hs =>
      cases h
      exact (hlower _ hs).trans (by decide +kernel)
    · split at h
      · next hs =>
        cases h
        exact (hlower _ hs).trans (by decide +kernel)
      · cases h

end Playbook.Role

namespace Playbook.Workflow

open Playbook.Text Playbook.Document

/-! ## Lookups -/

/-- A heading is found by what stands behind its first word exactly if that word is a title. -/
theorem hasShortId_iff {t : PromptSection} (ht : Tight t.header) {role : Role}
    (hrole : t.role? = some role) (id content : String) :
    hasShortId id (String.ofList t.header) ⟨role, content⟩ ↔ t.Titled ∧ t.id = id.toList := by
  have hsolid : ∀ c ∈ t.word, isBlank c = false := fun c hc => by
    simpa using List.all_eq_true.mp List.all_takeWhile c hc
  have hsplit : t.header = t.word ++ t.header.dropWhile (!isBlank ·) := by
    have hleft : trimLeft t.header = t.header := dropWhile_eq_self_of_head? ht.1
    rw [PromptSection.word, firstWord, hleft, List.takeWhile_append_dropWhile]
  -- the word and the title are of one length, so that both cut the heading at the same place
  have hlength := Role.length_eq_of_ofWord? hsolid hrole
  unfold hasShortId
  rw [String.toList_ofList]
  constructor
  · intro h
    split at h
    · next rest hrest =>
      have hboth := hsplit.symm.trans (dropStart?_eq_some hrest)
      obtain ⟨hword, htail⟩ := List.append_inj hboth hlength
      refine ⟨⟨role, hword⟩, ?_⟩
      rw [PromptSection.id, htail]
      simpa using h
    · cases h
  · rintro ⟨⟨other, hword⟩, hid⟩
    have hsame : other = role := by
      have hnamed := Role.ofWord?_title other
      rw [← hword] at hnamed
      exact Option.some.inj (hnamed.symm.trans hrole)
    subst hsame
    have hdrop : dropStart? other.title.toList t.header =
        some (t.header.dropWhile (!isBlank ·)) := by
      rw [← hword]
      conv => lhs; rw [hsplit]
      exact dropStart?_append ..
    rw [hdrop]
    exact beq_iff_eq.mpr hid

/-- A prompt is found if it stands under that heading or its heading is its role and then `id`. -/
theorem prompt?_isSome_iff {w : Workflow} {id : String} : (w.prompt? id).isSome ↔
    (w.prompts.get? id).isSome ∨ ∃ e ∈ w.prompts.entries, hasShortId id e.1 e.2 := by
  unfold prompt?
  cases w.prompts.get? id with
  | some p => simp
  | none => simp [List.find?_isSome]

/-- The prompts of a document are those of its filled sections, the last one with each heading. -/
theorem prompts_of_readAt {filepath directory text : String} {w : Workflow}
    (h : readAt filepath directory text = .ok w) :
    (∀ t ∈ promptSections text, t.role?.isSome) ∧ w.prompts =
      Table.empty.insertAll ((promptSections text).filterMap PromptSection.prompt?) := by
  obtain ⟨u, hadd, -, hprompts, -⟩ := exists_addAll_of_readAt h
  obtain ⟨hroles, hentries⟩ := declares_scanFrom (fun _ hl => not_mem_of_mem_lines hl) {} 1
    (no_fault_of_addAll hadd)
  refine ⟨hroles, ?_⟩
  rw [hprompts, prompts_addAll hadd, foldl_insertStep]
  exact congrArg _ hentries

/-- The last value that a list holds comes from the last element that holds one. -/
theorem getLast?_filterMap_isSome {α β : Type} (f : α → Option β) (xs : List α) :
    (xs.filterMap f).getLast? = (xs.filter fun x => (f x).isSome).getLast?.bind f := by
  rw [← List.head?_reverse, ← List.head?_reverse, ← List.filterMap_reverse, ← List.filter_reverse]
  induction xs.reverse with
  | nil => rfl
  | cons y ys ih => cases hy : f y <;> simp [hy, ih]

section

variable {filepath directory text : String} {w : Workflow}
  (h : readAt filepath directory text = .ok w)

include h

/-- Under a heading stands the prompt of the last filled section with it. -/
theorem get?_prompts (header : List Char) : w.prompts.get? (String.ofList header) =
    (lastFilled header text).bind fun t => t.prompt?.map Prod.snd := by
  obtain ⟨hroles, hprompts⟩ := prompts_of_readAt h
  let pick (t : PromptSection) : Option Prompt :=
    t.prompt?.bind fun p => if p.1 = String.ofList header then some p.2 else none
  have hpick : ∀ t ∈ promptSections text,
      pick t = if t.header = header ∧ t.Filled then t.prompt?.map Prod.snd else none := by
    intro t ht
    obtain ⟨role, hrole⟩ := Option.isSome_iff_exists.mp (hroles t ht)
    by_cases hfilled : t.Filled
    · simp [pick, PromptSection.prompt?, hfilled, hrole, String.ofList_inj]
    · simp [pick, PromptSection.prompt?, hfilled]
  have hsome : ∀ t ∈ promptSections text,
      (pick t).isSome = decide (t.header = header ∧ t.Filled) := by
    intro t ht
    obtain ⟨role, hrole⟩ := Option.isSome_iff_exists.mp (hroles t ht)
    rw [hpick t ht]
    by_cases hcond : t.header = header ∧ t.Filled
    · simp [PromptSection.prompt?, hcond, hrole]
    · simp [hcond]
  rw [hprompts, get?_insertAll, Table.get?_empty, Option.or_none, List.filterMap_filterMap,
    getLast?_filterMap_isSome, List.filter_congr hsome]
  change (lastFilled header text).bind pick = _
  cases hlast : lastFilled header text with
  | none => rfl
  | some t =>
    obtain ⟨ht, hcond⟩ := mem_of_lastFilled hlast
    rw [Option.bind_some, Option.bind_some, hpick t ht, if_pos hcond]

theorem get?_prompts_eq_some {key : String} {p : Prompt} (hget : w.prompts.get? key = some p) :
    ∃ t ∈ promptSections text, t.header = key.toList ∧ t.Filled ∧ t.role? = some p.role := by
  rw [← String.ofList_toList (s := key), get?_prompts h] at hget
  obtain ⟨t, hlast, hprompt⟩ := Option.bind_eq_some_iff.mp hget
  obtain ⟨ht, hheader, hfilled⟩ := mem_of_lastFilled hlast
  obtain ⟨role, hrole⟩ := Option.isSome_iff_exists.mp ((prompts_of_readAt h).1 t ht)
  rw [prompt?_of_filled hfilled hrole] at hprompt
  cases hprompt
  exact ⟨t, ht, hheader, hfilled, hrole⟩

/-- A filled section is found under its heading, where the last one with that heading counts. -/
theorem get?_heading {s : PromptSection} (hs : s ∈ promptSections text) (hfilled : s.Filled) :
    ∃ t role, lastFilled s.header text = some t ∧ t.role? = some role ∧
      w.prompts.get? (String.ofList s.header) =
        some ⟨role, String.ofList (trim t.text)⟩ := by
  obtain ⟨t, hlast⟩ := exists_lastFilled hs hfilled
  obtain ⟨ht, -, hfilled⟩ := mem_of_lastFilled hlast
  obtain ⟨role, hrole⟩ := Option.isSome_iff_exists.mp ((prompts_of_readAt h).1 t ht)
  refine ⟨t, role, hlast, hrole, ?_⟩
  rw [get?_prompts h, hlast, Option.bind_some, prompt?_of_filled hfilled hrole]
  rfl

/-- Every filled section of a document that is read is found under its heading, where the last one
with that heading counts. Without the word for its role it is found exactly if that word is written
as a title, or as the heading of another section. -/
theorem short_id_found_iff :
    (∀ s ∈ promptSections text, s.Filled → ∃ t role, lastFilled s.header text = some t ∧
      t.role? = some role ∧
      w.prompt? (String.ofList s.header) = some ⟨role, String.ofList (trim t.text)⟩) ∧
    ∀ id, (w.prompt? id).isSome ↔ ∃ t ∈ promptSections text,
      t.Filled ∧ (t.header = id.toList ∨ t.Titled ∧ t.id = id.toList) := by
  have htight : ∀ t ∈ promptSections text, Tight t.header := tight_header false false _
  refine ⟨fun s hs hfilled => ?_, fun id => ⟨fun hfound => ?_, ?_⟩⟩
  · obtain ⟨t, role, hlast, hrole, hget⟩ := get?_heading h hs hfilled
    refine ⟨t, role, hlast, hrole, ?_⟩
    rw [prompt?, hget]
  · rcases prompt?_isSome_iff.mp hfound with hget | ⟨⟨key, p⟩, hmem, hshort⟩
    · obtain ⟨p, hp⟩ := Option.isSome_iff_exists.mp hget
      obtain ⟨t, ht, hheader, hfilled, -⟩ := get?_prompts_eq_some h hp
      exact ⟨t, ht, hfilled, Or.inl hheader⟩
    · obtain ⟨t, ht, hheader, hfilled, hrole⟩ :=
        get?_prompts_eq_some h (Table.get?_of_mem_entries hmem)
      refine ⟨t, ht, hfilled, Or.inr ((hasShortId_iff (htight t ht) hrole id p.content).mp ?_)⟩
      rwa [hheader, String.ofList_toList]
  · rintro ⟨s, hs, hfilled, hnamed⟩
    obtain ⟨t, role, hlast, hrole, hget⟩ := get?_heading h hs hfilled
    refine prompt?_isSome_iff.mpr ?_
    rcases hnamed with hheader | htitled
    · rw [hheader, String.ofList_toList] at hget
      exact Or.inl (by rw [hget]; rfl)
    · obtain ⟨ht, hheader, -⟩ := mem_of_lastFilled hlast
      refine Or.inr ⟨_, Table.mem_entries_of_get? hget, ?_⟩
      have hsame : t.Titled ∧ t.id = id.toList := by
        unfold PromptSection.Titled PromptSection.id PromptSection.word
        rw [hheader]
        exact htitled
      have hshort := (hasShortId_iff (htight t ht) hrole id
        (String.ofList (trim t.text))).mpr hsame
      rwa [hheader] at hshort

end

/-- Two prompts, one with its role as a title, and one heading that comes twice. -/
def partingText : String :=
  "# Workflow\n```mermaid\ngraph\nSTART --> SUCCESS\n```\n# Prompts\n" ++
  "## User Greeting\nHello.\n## user Farewell\nBye.\n## User Greeting\nGood morning.\n"

theorem partingText_found : ∃ w, read partingText = .ok w ∧
    w.prompt? "User Greeting" = some ⟨.user, "Good morning."⟩ ∧
    (w.prompt? "Greeting").isSome ∧ (w.prompt? "user Farewell").isSome ∧
    ¬ (w.prompt? "Farewell").isSome := by
  obtain ⟨w, hread, _⟩ := exists_of_any partingText (fun _ => true) (by decide +kernel)
  obtain ⟨hheading, hid⟩ := short_id_found_iff hread
  have hsections : promptSections partingText =
      [⟨"User Greeting".toList, ["Hello.".toList]⟩, ⟨"user Farewell".toList, ["Bye.".toList]⟩,
        ⟨"User Greeting".toList, ["Good morning.".toList]⟩] := by decide +kernel
  unfold lastFilled at hheading
  rw [hsections] at hheading
  simp only [hsections] at hid
  obtain ⟨t, role, hlast, hrole, hfound⟩ :=
    hheading ⟨"User Greeting".toList, ["Hello.".toList]⟩ List.mem_cons_self (by decide +kernel)
  have hsecond : t = ⟨"User Greeting".toList, ["Good morning.".toList]⟩ :=
    Option.some.inj (hlast.symm.trans (by decide +kernel))
  subst hsecond
  have huser : role = .user := Option.some.inj (hrole.symm.trans (by decide +kernel))
  subst huser
  refine ⟨w, hread, hfound.trans (by decide +kernel), (hid _).mpr ?_, (hid _).mpr ?_,
    fun h => absurd ((hid _).mp h) ?_⟩
  · decide +kernel
  · decide +kernel
  · decide +kernel

/-- A role in small letters: the heading is read, but not found by its id. -/
def smallRoleText : String :=
  "# Workflow\n```mermaid\nflowchart TD\n  START --> SUCCESS\n```\n# Prompts\n" ++
  "## user TestGit\nRun git.\n"

theorem smallRole_not_found : ∃ w, read smallRoleText = .ok w ∧
    ∃ s ∈ promptSections smallRoleText, s.Filled ∧ s.role? = some .user ∧
      s.id = "TestGit".toList ∧ w.prompt? "TestGit" = none := by
  obtain ⟨w, hread, hnone⟩ := exists_of_any smallRoleText
    (fun w => (w.prompt? "TestGit").isNone) (by decide +kernel)
  have hsections : promptSections smallRoleText =
      [⟨"user TestGit".toList, ["Run git.".toList]⟩] := by decide +kernel
  refine ⟨w, hread, _, hsections ▸ List.mem_cons_self, ?_, ?_, ?_,
    Option.isNone_iff_eq_none.mp hnone⟩
  · decide +kernel
  · decide +kernel
  · decide +kernel

end Playbook.Workflow
