/-
  Histories: a record keeps the whole of a short text and the two ends of a long one
  (`isAbridged_abridgeMiddle`), and a history is changed by edits: a record is added at its end, or
  a record is given another result. Edits from number `n` on leave the first `n` records as they
  are (`Edited.take_eq`), what they record is abridged (`Edited.isAbridged`), and no edit touches a
  caption, a status or a time (`Edit.entries_isPrefix`).
-/
import Mathlib.Data.List.Basic
import Mathlib.Logic.Relation
import Playbook.History

namespace Playbook

namespace Text

/-- What is kept of a text where there is room for `max` characters: all of it, or else the first
and the last `max / 2` characters around the mark. -/
def IsAbridged (max : Nat) (text kept : String) : Prop :=
  (text.toList.length ≤ max ∧ kept = text) ∨
    (max < text.toList.length ∧ ∃ head tail : List Char,
      head <+: text.toList ∧ tail <:+ text.toList ∧ head.length = max / 2 ∧
        tail.length = max / 2 ∧ kept.toList = head ++ truncationMark.toList ++ tail)

theorem isAbridged_abridgeMiddle (text : String) (max : Nat) :
    IsAbridged max text (abridgeMiddle text max) := by
  unfold abridgeMiddle
  dsimp only
  split
  · next hshort => exact Or.inl ⟨hshort, rfl⟩
  · next hlong =>
    have hlt : max < text.toList.length := Nat.lt_of_not_le hlong
    refine Or.inr ⟨hlt, text.toList.take (max / 2),
      text.toList.drop (text.toList.length - max / 2), List.take_prefix _ _,
      List.drop_suffix _ _, ?_, ?_, ?_⟩
    · rw [List.length_take]
      omega
    · rw [List.length_drop]
      omega
    · simp only [String.toList_append, String.toList_ofList]

end Text

open Text

namespace History

/-- One change of a history that leaves its first `n` records alone. -/
inductive Edit (n : Nat) (h : History) : History → Prop
  | add (caption : String) (status : Status) (text : String) (at_ : Moment) :
    Edit n h (h.add caption status text at_)
  | revise {index : Nat} (own : n ≤ index) (there : index < h.records.length) (text : String) :
    Edit n h (h.update index text)

/-- Any number of such changes. -/
abbrev Edited (n : Nat) : History → History → Prop := Relation.ReflTransGen (Edit n)

/-- What a record says for good: its caption, its status and its time. -/
def entries (h : History) : List (String × Status × Moment) :=
  h.records.map fun r => (r.caption, r.status, r.at_)

variable {h h' : History} {n m : Nat}

@[simp] theorem length_add (h : History) (caption : String) (status : Status) (text : String)
    (at_ : Moment) : (h.add caption status text at_).records.length = h.records.length + 1 := by
  simp [add]

@[simp] theorem length_update (h : History) (index : Nat) (text : String) :
    (h.update index text).records.length = h.records.length := by
  simp [update]

theorem records_update (h : History) {index : Nat} {rec : Record}
    (hrec : h.records[index]? = some rec) (text : String) :
    (h.update index text).records =
      h.records.set index { rec with result := abridgeMiddle text h.maxLength } := by
  obtain ⟨there, rfl⟩ := List.getElem?_eq_some_iff.mp hrec
  exact List.modify_eq_set_get _ there

theorem Edit.mono (e : Edit n h h') (hm : m ≤ n) : Edit m h h' := by
  cases e with
  | add caption status text at_ => exact .add caption status text at_
  | revise own there text => exact .revise (Nat.le_trans hm own) there text

theorem Edited.mono (e : Edited n h h') (hm : m ≤ n) : Edited m h h' := by
  induction e with
  | refl => exact .refl
  | tail _ made ih => exact ih.tail (made.mono hm)

theorem Edit.maxLength_eq (e : Edit n h h') : h'.maxLength = h.maxLength := by
  cases e <;> rfl

theorem Edited.maxLength_eq (e : Edited n h h') : h'.maxLength = h.maxLength := by
  induction e with
  | refl => rfl
  | tail _ made ih => exact made.maxLength_eq.trans ih

theorem Edit.length_le (e : Edit n h h') : h.records.length ≤ h'.records.length := by
  cases e with
  | add caption status text at_ =>
    rw [length_add]
    exact Nat.le_succ _
  | revise own there text => exact Nat.le_of_eq (length_update ..).symm

theorem Edited.length_le (e : Edited n h h') : h.records.length ≤ h'.records.length := by
  induction e with
  | refl => exact Nat.le_refl _
  | tail _ made ih => exact Nat.le_trans ih made.length_le

theorem Edited.trans {h'' : History} (first : Edited h.records.length h h')
    (second : Edited h'.records.length h' h'') : Edited h.records.length h h'' :=
  Relation.ReflTransGen.trans first (second.mono first.length_le)

theorem Edit.take_eq (e : Edit n h h') (hn : n ≤ h.records.length) :
    h'.records.take n = h.records.take n := by
  cases e with
  | add caption status text at_ => exact List.take_append_of_le_length hn
  | revise own there text =>
    show (h.records.modify _ _).take n = _
    rw [List.take_modify, List.modify_eq_self]
    rw [List.length_take]
    exact Nat.le_trans (Nat.min_le_left ..) own

theorem Edited.take_eq (e : Edited n h h') (hn : n ≤ h.records.length) :
    h'.records.take n = h.records.take n := by
  induction e with
  | refl => rfl
  | tail before made ih =>
    exact (made.take_eq (Nat.le_trans hn (Edited.length_le before))).trans ih

/-- Edits that only revise records that they added themselves keep all the others. -/
theorem Edited.isPrefix (e : Edited h.records.length h h') : h.records <+: h'.records := by
  rw [← List.take_length (l := h.records), ← e.take_eq (Nat.le_refl _)]
  exact List.take_prefix _ _

/-- What was recorded by edits is abridged. -/
theorem Edited.isAbridged (e : Edited h.records.length h h') {i : Nat} {rec : Record}
    (hi : h.records.length ≤ i) (hrec : h'.records[i]? = some rec) :
    ∃ text, IsAbridged h.maxLength text rec.result := by
  induction e generalizing rec with
  | refl =>
    rw [List.getElem?_eq_none hi] at hrec
    cases hrec
  | @tail t _ before made ih =>
    rw [← Edited.maxLength_eq before] at ih ⊢
    cases made with
    | add caption status text at_ =>
      rw [add, List.getElem?_append] at hrec
      split at hrec
      · exact ih hrec
      · obtain rfl := List.mem_singleton.mp (List.mem_of_getElem? hrec)
        exact ⟨text, isAbridged_abridgeMiddle ..⟩
    | @revise index own there text =>
      rw [update, List.getElem?_modify] at hrec
      obtain ⟨old, hold, rfl⟩ := Option.map_eq_some_iff.mp hrec
      split
      · exact ⟨text, isAbridged_abridgeMiddle ..⟩
      · exact ih hold

theorem entries_update (h : History) (index : Nat) (text : String) :
    (h.update index text).entries = h.entries := by
  unfold entries update
  refine List.ext_getElem? fun i => ?_
  by_cases hi : index = i
  · subst hi
    simp [Function.comp_def]
  · simp [hi]

/-- No edit touches the caption, the status or the time of a record. -/
theorem Edit.entries_isPrefix (e : Edit n h h') : h.entries <+: h'.entries := by
  cases e with
  | add caption status text at_ =>
    unfold entries History.add
    rw [List.map_append]
    exact List.prefix_append ..
  | @revise index own there text =>
    have hsame := h.entries_update index text
    exact ⟨[], by rw [hsame, List.append_nil]⟩

end History

end Playbook
