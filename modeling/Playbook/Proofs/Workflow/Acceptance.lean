/-
  What users of the reader may rely on (`accepted_is_sound`): the graph of a workflow that was read
  is closed, its activities are what their names say, and its texts are as the reader's rules want
  them. So the check of a file does not end with edges that lead nowhere.
-/
import Playbook.Proofs.Workflow.RoundTrip
import Playbook.Program.Task

namespace Playbook.Workflow

open Playbook.Text Playbook.Document Playbook.Flowchart

/-- A workflow that needs no further checks. -/
structure Sound (w : Workflow) : Prop where
  start : w.start = some startName ∧ (w.activity? startName).isSome
  handlers : ∀ name, w.onSuccess = some name ∨ w.onFailed = some name → (w.activity? name).isSome
  targets : ∀ key a, w.activity? key = some a →
    ∀ name, a.next = some name ∨ a.other = some name → (w.activity? name).isSome
  dangling : w.danglingEdges = []
  named : ∀ key a, w.activity? key = some a →
    a.name = key ∧ Kind.ofName? a.name.toList = some a.kind ∧ Kind.stemOf a.name.toList ≠ paramsName
  expressions : ∀ key a, w.activity? key = some a →
    trim a.expression.toList = a.expression.toList ∧ '\n' ∉ a.expression.toList
  params : ∀ key value, w.params.get? key = some value →
    trim key.toList = key.toList ∧ trim value.toList = value.toList ∧
      '=' ∉ key.toList ∧ ',' ∉ key.toList ∧ ',' ∉ value.toList
  prompts : ∀ id p, w.prompts.get? id = some p →
    trim p.content.toList = p.content.toList ∧ p.content ≠ "" ∧
      Role.ofWord? (firstWord id.toList) = some p.role

/-! ## Edges -/

/-- Both branches of an activity, taken together. -/
theorem exists_branch {a : Activity} {name : String} :
    a.next = some name ∨ a.other = some name ↔ ∃ b, a.target b = some name := by
  constructor
  · rintro (h | h)
    · exact ⟨.next, h⟩
    · exact ⟨.other, h⟩
  · rintro ⟨b, h⟩
    cases b with
    | next => exact Or.inl h
    | other => exact Or.inr h

/-- None is reported exactly if all of them lead to activities. -/
theorem danglingEdges_eq_nil_iff {w : Workflow} : w.danglingEdges = [] ↔
    ∀ key a b t, w.activity? key = some a → a.target b = some t → w.activities.contains t := by
  unfold danglingEdges
  simp only [List.flatMap_eq_nil_iff, List.filterMap_eq_nil_iff]
  constructor
  · intro h key a b t ha hb
    have hbranch : some t ∈ [a.next, a.other] := by
      simpa [eq_comm] using exists_branch.mpr ⟨b, hb⟩
    have hnone := h a (Table.mem_values_of_get? ha) t (List.mem_filterMap.mpr ⟨_, hbranch, rfl⟩)
    by_contra hc
    rw [if_neg hc] at hnone
    cases hnone
  · intro h a ha t ht
    obtain ⟨⟨key, v⟩, hentry, rfl⟩ := List.mem_map.mp ha
    obtain ⟨o, ho, rfl⟩ := List.mem_filterMap.mp ht
    have hbranch : ∃ b, v.target b = some t := by
      apply exists_branch.mp
      simpa [eq_comm] using ho
    obtain ⟨b, hb⟩ := hbranch
    rw [if_pos (h key v b t (Table.get?_of_mem_entries hentry) hb)]

theorem WellFormed.sound {w : Workflow} (h : WellFormed w) : Sound w where
  start := ⟨h.start, h.starts⟩
  handlers := by
    intro name hname
    apply h.handlers_defined
    simpa [Workflow.handlers, eq_comm] using hname
  targets := by
    intro key a ha name hname
    obtain ⟨b, hb⟩ := exists_branch.mp hname
    exact h.targets key a b name ha hb
  dangling := danglingEdges_eq_nil_iff.mpr h.targets
  named := by
    intro key a ha
    obtain ⟨hkey, hkind⟩ := h.named key a ha
    exact ⟨hkey, hkind.kind, by simpa using hkind.stem_ne_params⟩
  expressions := by
    intro key a ha
    obtain ⟨htight, hnewline⟩ := h.expressions key a ha
    exact ⟨htight.trim_eq, hnewline⟩
  params := by
    intro key value hvalue
    have hfits := h.params _ (Table.mem_entries_of_get? hvalue)
    exact ⟨hfits.tight_key.trim_eq, hfits.tight_value.trim_eq, hfits.no_equals, hfits.no_comma⟩
  prompts := by
    intro id p hp
    have hfits := h.prompts _ (Table.mem_entries_of_get? hp)
    exact ⟨hfits.tight.trim_eq, hfits.ne_empty, hfits.key.role⟩

/-! ## Accepted documents -/

theorem exists_readAt_of_readFile {file : String} {world world' : World Desk} {w : Workflow}
    (h : Program.readFile file world = (.ok w, world')) :
    ∃ text, readAt file (directoryOf file) text = .ok w := by
  unfold Program.readFile at h
  split at h
  · cases h
  · next v hread =>
    cases h
    unfold Disk.readWorkflow at hread
    split at hread
    · cases hread
    · next text _ =>
      split at hread
      · next v hread' =>
        cases hread
        exact ⟨text, hread'⟩
      · cases hread

/-- Whatever document the reader accepts, the workflow is sound; and no file is reported for edges
that lead nowhere. -/
theorem accepted_is_sound :
    (∀ filepath directory text w, readAt filepath directory text = .ok w → Sound w) ∧
      ∀ file world count, (Program.checkFile file world).1 ≠ .error (.dangling count) := by
  refine ⟨fun filepath directory text w h => (wellFormed_of_readAt h).sound, ?_⟩
  intro file world count hcheck
  unfold Program.checkFile at hcheck
  split at hcheck
  · next f world' hread =>
    -- a file that cannot be read is a failure of its own
    unfold Program.readFile at hread
    split at hread
    · cases hread
      cases hcheck
    · cases hread
  · next w world' hread =>
    obtain ⟨text, hw⟩ := exists_readAt_of_readFile hread
    have hnone : w.danglingEdges = [] := (wellFormed_of_readAt hw).sound.dangling
    simp [hnone] at hcheck

/-- A workflow with parameters, a branch, a chain, handlers, a forward edge and prompts. -/
def deliveryText : String :=
  "# Workflow\n```mermaid\nflowchart TD\n  PARAMS@\x7b label: \"region= north , speed\" \x7d\n" ++
  "  START --> CHECK_STOCK\x7b left GREATER 0 \x7d -->|YES| PROMPT_SHIP --> SUCCESS\n" ++
  "  CHECK_STOCK -->|NO| FAILED\n  ON_SUCCESS --> SET_SENT[sent=1]\n  ON_FAILED\n" ++
  "  SET_SENT[[sent=2]]\n```\n# Prompts\n## User PROMPT_SHIP\n```\n Ship it. \n```\n"

theorem deliveryText_is_sound : ∃ w, read deliveryText = .ok w ∧ Sound w ∧
    w.onSuccess = some "ON_SUCCESS" ∧ w.onFailed = some "ON_FAILED" ∧
    w.activities.size = 8 ∧ w.params.size = 2 ∧ w.prompts.size = 1 := by
  obtain ⟨w, hread, hparts⟩ := exists_of_any deliveryText
    (fun w => w.onSuccess == some "ON_SUCCESS" && w.onFailed == some "ON_FAILED" &&
      w.activities.size == 8 && w.params.size == 2 && w.prompts.size == 1) (by decide +kernel)
  simp only [Bool.and_eq_true, beq_iff_eq, and_assoc] at hparts
  exact ⟨w, hread, accepted_is_sound.1 _ _ _ w hread, hparts⟩

end Playbook.Workflow
