/-
  The shapes that are written for activities. Each carries its expression in a frame, or carries
  none (`Shaped.exists_frame`).
-/
import Playbook.Proofs.Workflow.Segments
import Playbook.Proofs.Workflow.Shapes

namespace Playbook.Flowchart

open Playbook.Text

/-! ## Written shapes -/

/-- The label of a kind and an expression. -/
def labelledText (k : Kind) (e : List Char) : List Char := k.label.toList ++ ':' :: ' ' :: e

/-- Whether the label of the kind is written in front of an expression: not where the shape alone
tells the kind. -/
def isLabelled (k : Kind) : Bool := k != .check && k != .call

/-- The brackets that are open in front of the quotes around an expression. -/
def openers : Kind → List Char
  | .success => ['(', '[']
  | .failed => ['(', '[']
  | .on => ['(', '[']
  | .check => ['\x7b']
  | .call => ['[', '[']
  | .ask => ['\x7b']
  | _ => ['[']

/-- The beginning of the shape in which an operator is asked something. -/
def inputStart : List Char := "@\x7b shape: manual-input, label: ".toList

/-- The shapes that carry no expression. -/
def plainShapes : List (List Char) :=
  ["@\x7b shape: f-circ, label: \"start\" \x7d".toList, "@\x7b shape: stadium \x7d".toList,
    "@\x7b shape: manual-input \x7d".toList, "@\x7b shape: subroutine \x7d".toList]

/-- The texts of the shapes that are written for an expression. -/
inductive Shaped (k : Kind) (e : List Char) : List Char → Prop where
  | box (ho : openers k = ['[']) : Shaped k e ('[' :: quoted (labelledText k e) ++ [']'])
  | stadium (ho : openers k = ['(', '[']) :
    Shaped k e ('(' :: ('[' :: quoted (labelledText k e) ++ [']']) ++ [')'])
  | diamond (hk : k = .check) : Shaped k e ('\x7b' :: quoted e ++ ['\x7d'])
  | subroutine (hk : k = .call) : Shaped k e ('[' :: ('[' :: quoted e ++ [']']) ++ [']'])
  | input (hk : k = .ask) : Shaped k e (inputStart ++ quoted (labelledText k e) ++ [' ', '\x7d'])
  | plain {text : List Char} (he : e = []) (ht : text ∈ plainShapes) : Shaped k e text

theorem toList_labelled (k : Kind) (e : String) :
    (labelled k e).toList = labelledText k e.toList := by
  simp [labelled, labelledText]

theorem toList_box (t : String) :
    ("[\"" ++ t ++ "\"]").toList = '[' :: quoted t.toList ++ [']'] := by
  simp [quoted]

theorem toList_input (t : String) :
    (attributes ("shape: manual-input, label: \"" ++ t ++ "\"")).toList =
      inputStart ++ quoted t.toList ++ [' ', '\x7d'] := by
  have hstart : "@\x7b ".toList ++ "shape: manual-input, label: \"".toList =
      inputStart ++ ['"'] := by decide
  have hend : " \x7d".toList = [' ', '\x7d'] := by decide
  simp only [attributes, String.toList_append, hend, quoted]
  rw [← List.append_assoc, ← List.append_assoc, hstart]
  simp only [List.append_assoc, List.cons_append, List.nil_append]
  rfl

/-- Every activity is written in one of these shapes. -/
theorem shaped_shape (a : Activity) : Shaped a.kind a.expression.toList (shape a).toList := by
  obtain ⟨kind, name, e, next, other⟩ := a
  have hbox : ∀ k, openers k = ['['] →
      Shaped k e.toList ("[\"" ++ labelled k e ++ "\"]").toList := by
    intro k ho
    rw [toList_box, toList_labelled]
    exact .box ho
  have hplain : ∀ k (text : String), e.isEmpty → text.toList ∈ plainShapes →
      Shaped k e.toList text.toList := by
    intro k text he ht
    exact .plain (by simpa using he) ht
  have hterminal : ∀ k, openers k = ['(', '['] → Shaped k e.toList
      (if e.isEmpty then attributes "shape: stadium" else
        "([\"" ++ labelled k e ++ "\"])").toList := by
    intro k ho
    split
    · next he => exact hplain k _ he (by decide)
    · have : ("([\"" ++ labelled k e ++ "\"])").toList =
          '(' :: ('[' :: quoted (labelledText k e.toList) ++ [']']) ++ [')'] := by
        simp [quoted, toList_labelled]
      rw [this]
      exact .stadium ho
  cases kind with
  | start =>
    simp only [shape]
    split
    · next he => exact hplain _ _ he (by decide)
    · exact hbox _ rfl
  | set => exact hbox _ rfl
  | assign => exact hbox _ rfl
  | check =>
    have : ("\x7b\"" ++ e ++ "\"\x7d").toList = '\x7b' :: quoted e.toList ++ ['\x7d'] := by
      simp [quoted]
    simp only [shape]
    rw [this]
    exact .diamond rfl
  | prompt => exact hbox _ rfl
  | ask =>
    simp only [shape]
    split
    · next he => exact hplain _ _ he (by decide)
    · rw [toList_input, toList_labelled]
      exact .input rfl
  | execute => exact hbox _ rfl
  | call =>
    simp only [shape]
    split
    · next he => exact hplain _ _ he (by decide)
    · have : ("[[\"" ++ e ++ "\"]]").toList =
          '[' :: ('[' :: quoted e.toList ++ [']']) ++ [']'] := by
        simp [quoted]
      rw [this]
      exact .subroutine rfl
  | success => exact hterminal _ rfl
  | failed => exact hterminal _ rfl
  | on => exact hterminal _ rfl

/-! ## Frames -/

instance decidableUncut : (s : Nesting) → (cs : List Char) → Decidable (Uncut s cs)
  | _, [] => .isTrue True.intro
  | s, c :: cs =>
    have := decidableUncut (s.after c) cs
    inferInstanceAs (Decidable ((c = '-' → s.isOuter = false) ∧ Uncut (s.after c) cs))

/-- A label holds nothing but letters. -/
theorem not_mem_label {c : Char} (hc : isNameChar c = false) (k : Kind) : c ∉ k.label.toList := by
  have hall : k.label.toList.all isNameChar := by cases k <;> decide
  intro hmem
  rw [List.all_eq_true.mp hall c hmem] at hc
  cases hc

/-- What stands before and behind the expression in a shape that carries one. -/
structure Frame (k : Kind) (front back : List Char) : Prop where
  uncut : Uncut {} front
  nesting : Nesting.afterAll {} front = { depth := (openers k).length, quoted := true }
  no_arrow : '>' ∉ back
  length_back : back.length ≤ 3
  opens : ∃ op rest, front = op :: rest ∧ (op = '@' ∨ ∃ cl, closer? op = some cl ∧ cl ∉ front)
  no_newline : '\n' ∉ front ∧ '\n' ∉ back

/-- Brackets and a quote, and perhaps a label behind them, before the expression, and the closing
brackets behind it. -/
theorem frame_of_brackets {k : Kind} (op : Char) (rest : List Char) {label back : List Char}
    (hlabel : label = [] ∨ label = k.label.toList ++ [':', ' '])
    (huncut : Uncut {} (op :: rest ++ ['"']))
    (hnesting : Nesting.afterAll {} (op :: rest ++ ['"']) =
      { depth := (openers k).length, quoted := true })
    (hback : '>' ∉ back ∧ '\n' ∉ back ∧ back.length ≤ 3)
    (hop : op = '@' ∨ ∃ cl, closer? op = some cl ∧ isNameChar cl = false ∧ cl ≠ ':' ∧ cl ≠ ' ' ∧
      cl ∉ op :: rest ++ ['"'])
    (hnewline : '\n' ∉ op :: rest) : Frame k (op :: rest ++ ['"'] ++ label) back := by
  have hplain : ∀ c, isNameChar c = false → c ≠ ':' → c ≠ ' ' → c ∉ label := by
    intro c hc hcolon hblank hmem
    rcases hlabel with rfl | rfl
    · cases hmem
    · rcases List.mem_append.mp hmem with hmem | hmem
      · exact not_mem_label hc k hmem
      · simp_all
  have hquote := hplain '"' (by decide) (by decide) (by decide)
  have hquoted : (Nesting.afterAll {} (op :: rest ++ ['"'])).quoted := by rw [hnesting]
  refine ⟨huncut.append (uncut_of_quoted hquoted hquote), ?_, hback.1, hback.2.2,
    ⟨op, rest ++ ['"'] ++ label, by simp, ?_⟩, ?_, hback.2.1⟩
  · rw [Nesting.afterAll_append, afterAll_of_quoted hquoted hquote, hnesting]
  · rcases hop with hop | ⟨cl, hcl, hname, hcolon, hblank, hmem⟩
    · exact Or.inl hop
    · refine Or.inr ⟨cl, hcl, ?_⟩
      rw [List.mem_append, not_or]
      exact ⟨hmem, hplain cl hname hcolon hblank⟩
  · rw [List.mem_append, List.mem_append, not_or, not_or]
    exact ⟨⟨hnewline, by decide⟩, hplain '\n' (by decide) (by decide) (by decide)⟩

/-- A shape carries the expression in a frame, or it is one of those that carry none. -/
theorem Shaped.exists_frame {k : Kind} {e text : List Char} (h : Shaped k e text) :
    (e = [] ∧ text ∈ plainShapes) ∨
      ∃ front back, Frame k front back ∧ text = front ++ e ++ back := by
  cases h with
  | box ho =>
    refine Or.inr ⟨['[', '"'] ++ (k.label.toList ++ [':', ' ']), ['"', ']'], ?_, ?_⟩
    · exact frame_of_brackets '[' [] (Or.inr rfl) (by decide) (by rw [ho]; rfl) (by decide)
        (Or.inr ⟨']', rfl, by decide⟩) (by decide)
    · simp [quoted, labelledText]
  | stadium ho =>
    refine Or.inr ⟨['(', '[', '"'] ++ (k.label.toList ++ [':', ' ']), ['"', ']', ')'], ?_, ?_⟩
    · exact frame_of_brackets '(' ['['] (Or.inr rfl) (by decide) (by rw [ho]; rfl) (by decide)
        (Or.inr ⟨')', rfl, by decide⟩) (by decide)
    · simp [quoted, labelledText]
  | diamond hk =>
    refine Or.inr ⟨['\x7b', '"'] ++ [], ['"', '\x7d'], ?_, ?_⟩
    · exact frame_of_brackets '\x7b' [] (Or.inl rfl) (by decide) (by rw [hk]; rfl) (by decide)
        (Or.inr ⟨'\x7d', rfl, by decide⟩) (by decide)
    · simp [quoted]
  | subroutine hk =>
    refine Or.inr ⟨['[', '[', '"'] ++ [], ['"', ']', ']'], ?_, ?_⟩
    · exact frame_of_brackets '[' ['['] (Or.inl rfl) (by decide) (by rw [hk]; rfl) (by decide)
        (Or.inr ⟨']', rfl, by decide⟩) (by decide)
    · simp [quoted]
  | input hk =>
    refine Or.inr ⟨(inputStart ++ ['"']) ++ (k.label.toList ++ [':', ' ']), ['"', ' ', '\x7d'],
      ?_, ?_⟩
    · exact frame_of_brackets '@' inputStart.tail (Or.inr rfl) (by decide) (by rw [hk]; decide)
        (by decide) (Or.inl rfl) (by decide)
    · simp [quoted, labelledText]
  | plain he ht => exact Or.inl ⟨he, ht⟩

/-- A shape begins and ends with a bracket, or begins with the mark of attributes. -/
theorem Shaped.exists_ends {k : Kind} {e text : List Char} (h : Shaped k e text) :
    ∃ c mid d, text = c :: mid ++ [d] ∧ c ∈ ['[', '(', '\x7b', '@'] ∧ d ∈ [']', ')', '\x7d'] := by
  cases h with
  | box => exact ⟨'[', _, ']', rfl, by decide, by decide⟩
  | stadium => exact ⟨'(', _, ')', rfl, by decide, by decide⟩
  | diamond => exact ⟨'\x7b', _, '\x7d', rfl, by decide, by decide⟩
  | subroutine => exact ⟨'[', _, ']', rfl, by decide, by decide⟩
  | input =>
    refine ⟨'@', inputStart.tail ++ quoted (labelledText k e) ++ [' '], '\x7d', ?_,
      by decide, by decide⟩
    have hstart : inputStart = '@' :: inputStart.tail := by decide
    conv => lhs; rw [hstart]
    simp
  | plain _ ht =>
    have hends : ∀ t ∈ plainShapes, t = '@' :: t.tail.dropLast ++ ['\x7d'] := by decide
    exact ⟨'@', _, '\x7d', hends text ht, by decide, by decide⟩

theorem Shaped.tight {k : Kind} {e text : List Char} (h : Shaped k e text) : Tight text := by
  obtain ⟨c, mid, d, rfl, hc, hd⟩ := h.exists_ends
  have hopen : ['[', '(', '\x7b', '@'].all (!isBlank ·) := by decide
  have hclose : [']', ')', '\x7d'].all (!isBlank ·) := by decide
  exact tight_between (by simpa using List.all_eq_true.mp hopen c hc)
    (by simpa using List.all_eq_true.mp hclose d hd) mid

theorem Shaped.no_newline {k : Kind} {e text : List Char} (h : Shaped k e text)
    (he : '\n' ∉ e) : '\n' ∉ text := by
  rcases h.exists_frame with ⟨_, ht⟩ | ⟨front, back, hframe, rfl⟩
  · exact (by decide : ∀ text ∈ plainShapes, '\n' ∉ text) text ht
  · simp [hframe.no_newline, he]

end Playbook.Flowchart
