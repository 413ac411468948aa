/-
  Constants that are stored and checked. An assignment keeps what stands between its quotes; a
  check takes its expression apart into words and puts single spaces between them, also between
  quotes (`checkParts?_constant`). So a check against the constant that was assigned succeeds
  exactly if all blanks of its text, but for those at the ends, are single spaces
  (`constant_agrees_iff`).
-/
import Playbook.Proofs.Context
import Playbook.Proofs.Run.Turn
import Playbook.Proofs.Template
import Playbook.Proofs.Text.Respacing

namespace Playbook

open Playbook.Text

variable {σ : Type}

/-! ## Names and constants -/

namespace Context

/-- A name that stands for a variable or for the result, and for one word of an expression. -/
structure Ordinary (name : String) : Prop where
  nonempty : name ≠ ""
  short : name.toList.length ≤ maxNameLength
  solid : ∀ c ∈ name.toList, isBlank c = false
  no_equals : '=' ∉ name.toList
  no_quote : '\'' ∉ name.toList
  no_file : file? name = none
  not_status : name ≠ statusName

instance (name : String) : Decidable (Ordinary name) :=
  decidable_of_iff (name ≠ "" ∧ name.toList.length ≤ maxNameLength ∧
      name.toList.all (!isBlank ·) ∧ '=' ∉ name.toList ∧ '\'' ∉ name.toList ∧ file? name = none ∧
      name ≠ statusName)
    ⟨fun ⟨h₁, h₂, h₃, h₄, h₅, h₆, h₇⟩ => ⟨h₁, h₂, by simpa using h₃, h₄, h₅, h₆, h₇⟩,
      fun ⟨h₁, h₂, h₃, h₄, h₅, h₆, h₇⟩ => ⟨h₁, h₂, by simpa using h₃, h₄, h₅, h₆, h₇⟩⟩

theorem Ordinary.constant?_eq {name : String} (h : Ordinary name) : constant? name = none := by
  unfold constant?
  split
  · next rest hname => exact absurd (hname ▸ List.mem_cons_self) h.no_quote
  · rfl

theorem Ordinary.referent_eq {name : String} (h : Ordinary name) :
    referent name = if name ∈ resultNames then .result else .variable_ := by
  have hopen : ¬ (name.isEmpty ∨ (constant? name).isSome ∨ maxNameLength < name.toList.length) := by
    rw [h.constant?_eq]
    simpa using ⟨h.nonempty, h.short⟩
  unfold referent
  rw [if_neg hopen, if_neg h.not_status, h.no_file]

/-- What is stored under an ordinary name is its value, unless it stands for a file. -/
theorem Ordinary.value?_setValue {name value : String} (h : Ordinary name)
    (hvalue : file? value = none) (c : Context σ) (w later : World σ) :
    (c.setValue w name value).1.value? later name = some value := by
  have storing := storing_setValue c w name value
  by_cases hresult : name ∈ resultNames
  · obtain ⟨_, _, hlookup⟩ := storing.of_result (by rw [h.referent_eq, if_pos hresult])
    exact hlookup later name hresult
  · obtain ⟨_, _, hlookup⟩ := storing.of_variable (by rw [h.referent_eq, if_neg hresult])
    rw [hlookup, hvalue]

/-- A text between single quotes. -/
def constant (text : String) : String := "'" ++ text ++ "'"

theorem toList_constant (text : String) :
    (constant text).toList = '\'' :: text.toList ++ ['\''] := by
  unfold constant
  rw [String.toList_append, String.toList_append]
  rfl

theorem constant?_constant (text : String) : constant? (constant text) = some text := by
  have hend : dropEnd? ['\''] (text.toList ++ ['\'']) = some text.toList := by
    unfold dropEnd?
    rw [List.reverse_append, dropStart?_append, Option.map_some, List.reverse_reverse]
  unfold constant?
  rw [toList_constant]
  show (dropEnd? ['\''] (text.toList ++ ['\''])).map String.ofList = some text
  rw [hend, Option.map_some, String.ofList_toList]

theorem value?_constant (c : Context σ) (w : World σ) (text : String) :
    c.value? w (constant text) = some text := by
  have hempty : (constant text).isEmpty = false := by
    rw [← Bool.not_eq_true, String.isEmpty_iff, ← String.toList_inj, toList_constant]
    simp
  unfold value?
  rw [hempty, constant?_constant]
  rfl

end Context

namespace Run

open Context

/-! ## Visits with constants -/

theorem setParts_constant {name : String} (hname : Ordinary name) (text : String) :
    setParts (name ++ "=" ++ constant text) = .ok (name, constant text) := by
  have hsplit : splitOnce '=' (name ++ "=" ++ constant text).toList =
      some (name.toList, (constant text).toList) := by
    rw [String.toList_append, String.toList_append, List.append_assoc]
    exact splitOnce_append hname.no_equals _
  have hconstant : trim (constant text).toList = (constant text).toList := by
    rw [toList_constant]
    exact (tight_between (by decide) (by decide) _).trim_eq
  unfold setParts
  rw [hsplit]
  dsimp only
  rw [(tight_of_solid hname.solid).trim_eq, hconstant, String.ofList_toList, String.ofList_toList,
    if_neg (by simpa using hname.nonempty)]

/-- An assignment of a constant stores its text. -/
theorem visitSet_constant (r : Run σ) {name text : String} {a : Activity} (hname : Ordinary name)
    (plain : ¬ HoldsPlaceholder text) (assigns : a.expression = name ++ "=" ++ constant text) :
    ∃ w s, r.visitSet a = (true, s) ∧ s.context = (r.context.setValue w name text).1 := by
  have hvalue : r.context.valueOr r.world (constant text) (constant text) = text := by
    unfold valueOr
    rw [value?_constant]
    rfl
  have hrender : r.render text = text := Template.fill_of_plain _ plain
  unfold visitSet
  rw [assigns, setParts_constant hname]
  dsimp only
  rw [hvalue, hrender]
  exact ⟨_, _, rfl, rfl⟩

/-- What a check takes for the constant has the blanks of its text as single spaces. -/
theorem checkParts?_constant {name : String} (hname : Ordinary name) (text : String) :
    checkParts? (name ++ " EQUALS " ++ constant text) =
      some (name, "EQUALS", constant (onString respaced text)) := by
  have hname' : name.toList ≠ [] := by simpa using hname.nonempty
  have hright : joinWith [' '] (words (constant text).toList) =
      (constant (onString respaced text)).toList := by
    rw [toList_constant, toList_constant, toList_onString]
    exact joinWith_words_between (by decide) (by decide) _
  have hwords : words (name ++ " EQUALS " ++ constant text).toList =
      name.toList :: "EQUALS".toList :: words (constant text).toList := by
    have hsplit : (name ++ " EQUALS " ++ constant text).toList =
        name.toList ++ ' ' :: ("EQUALS".toList ++ ' ' :: (constant text).toList) := by
      rw [String.toList_append, String.toList_append, List.append_assoc]
      rfl
    rw [hsplit, words_append_cons rfl, words_append_cons rfl, words_of_solid hname' hname.solid]
    rfl
  unfold checkParts?
  rw [hwords]
  cases hmore : words (constant text).toList with
  | nil =>
    rw [hmore, toList_constant] at hright
    cases hright
  | cons right more =>
    have hjoined : joinStrings " " ((right :: more).map String.ofList) =
        constant (onString respaced text) := by
      apply String.toList_inj.mp
      rw [toList_joinStrings, List.map_map, ← hright, hmore]
      simp
    simp only [List.map_cons, String.ofList_toList] at hjoined ⊢
    rw [hjoined]

theorem firstLine_of_no_newline {text : String} (h : '\n' ∉ text.toList) :
    Comparison.firstLine text = trimmed text := by
  have hline : text.toList.takeWhile (· != '\n') = text.toList :=
    List.takeWhile_eq_self_iff.mpr fun c hc => bne_iff_ne.mpr fun hnewline => h (hnewline ▸ hc)
  unfold Comparison.firstLine
  rw [hline]
  rfl

theorem compareValues_equals (r : Run σ) (a : Activity) (left right : String) :
    ∃ t, r.compareValues a .equals left right =
        (Comparison.firstLine left == trimmed right, t) ∧ t.context = r.context := by
  unfold compareValues
  exact ⟨_, rfl, rfl⟩

/-- A check of a name against a constant compares the respaced text. -/
theorem visitCheck_constant (s : Run σ) {name text held : String} {b : Activity}
    (hname : Ordinary name) (hheld : s.value? name = some held)
    (compares : b.expression = name ++ " EQUALS " ++ constant text) :
    ∃ t, s.visitCheck b =
        (Comparison.firstLine held == trimmed (onString respaced text), t) ∧
      t.context = s.context := by
  have hvalue : s.context.valueOr s.world (constant (onString respaced text))
      (constant (onString respaced text)) = onString respaced text := by
    unfold valueOr
    rw [value?_constant]
    rfl
  have hword : Comparison.ofWord? "EQUALS" = some .equals := by decide
  unfold visitCheck
  rw [compares, checkParts?_constant hname]
  dsimp only
  rw [hheld, hword, hvalue]
  exact compareValues_equals _ b held _

/-! ## Agreement -/

/-- A check whether an ordinary name has the constant that was assigned to it succeeds exactly if
all blanks of the constant's text, but for those at its ends, are single spaces. -/
theorem constant_agrees_iff (ending : Ending σ) (r : Run σ) {name text : String} {a b : Activity}
    (hname : Ordinary name) (no_newline : '\n' ∉ text.toList) (plain : ¬ HoldsPlaceholder text)
    (no_file : file? text = none) (aSet : a.kind = .set)
    (assigns : a.expression = name ++ "=" ++ constant text) (bCheck : b.kind = .check)
    (compares : b.expression = name ++ " EQUALS " ++ constant text) :
    ∃ s outcome t, visit ending r a = some (true, s) ∧ visit ending s b = some (outcome, t) ∧
      t.context = s.context ∧ (outcome ↔ SingleSpaced (trim text.toList)) := by
  obtain ⟨w, s, hset, hcontext⟩ := r.visitSet_constant hname plain assigns
  have hheld : s.value? name = some text := by
    unfold Run.value?
    rw [hcontext]
    exact hname.value?_setValue no_file r.context w s.world
  obtain ⟨t, hcheck, hsame⟩ := s.visitCheck_constant hname hheld compares
  refine ⟨s, Comparison.firstLine text == trimmed (onString respaced text), t, ?_, ?_, hsame, ?_⟩
  · unfold visit
    rw [aSet]
    exact congrArg some hset
  · unfold visit
    rw [bCheck]
    exact congrArg some hcheck
  · rw [firstLine_of_no_newline no_newline, beq_iff_eq, ← trim_respaced_eq_iff, eq_comm,
      ← String.toList_inj]
    simp [trimmed]

/-- A run in which nothing was stored. -/
def blankRun : Run Unit where
  context := { workflow := {}, operator := ⟨fun _ w => (none, w)⟩ }
  history := {}
  world := { rest := () }

/-- The assignment of a constant. -/
def assigning (text : String) : Activity where
  kind := .set
  name := "SET_V"
  expression := "v" ++ "=" ++ constant text

/-- The check whether the constant was assigned. -/
def checking (text : String) : Activity where
  kind := .check
  name := "CHECK_V"
  expression := "v" ++ " EQUALS " ++ constant text

/-- Single spaces between the words are kept, and blanks at the ends are of no account. -/
theorem blankRun_agrees : ∃ s t,
    visit some blankRun (assigning " two words ") = some (true, s) ∧
      visit some s (checking " two words ") = some (true, t) := by
  have ordinary : Ordinary "v" := by decide
  have no_newline : '\n' ∉ " two words ".toList := by decide
  obtain ⟨s, outcome, t, hset, hcheck, -, hagrees⟩ := constant_agrees_iff some blankRun
    ordinary no_newline (not_holdsPlaceholder (by decide)) (by decide)
    (a := assigning " two words ") (b := checking " two words ") rfl rfl rfl rfl
  have htrue : outcome = true := hagrees.mpr (by decide)
  exact ⟨s, t, hset, htrue ▸ hcheck⟩

/-- Two blanks in a row are not found again. -/
theorem blankRun_disagrees :
    ((visit some blankRun (assigning "a  b")).bind fun visited =>
      (visit some visited.2 (checking "a  b")).map fun checked => (visited.1, checked.1)) =
        some (true, false) := by
  decide +kernel

end Run

end Playbook
