/-
  The lines of edges. An edge's line declares both of its ends without an expression and joins
  them (`entries_edgeText`).
-/
import Playbook.Proofs.Workflow.NodeLines

namespace Playbook.Flowchart

open Playbook.Text Playbook.Document

/-! ## Edges -/

/-- The line of an edge, without the blanks around it. -/
def edgeText (a : Activity) (branch : Branch) (target : String) : List Char :=
  a.name.toList ++ ' ' :: arrow ++ ' ' :: (edgeLabel a.kind branch).toList ++ target.toList

theorem toList_edgeLine (a : Activity) (branch : Branch) (target : String) :
    (edgeLine a branch target).toList = ' ' :: ' ' :: edgeText a branch target ++ ['\n'] := by
  have h1 : "  ".toList = [' ', ' '] := by decide
  have h2 : " --> ".toList = ' ' :: arrow ++ [' '] := by decide
  simp [edgeLine, edgeText, h1, h2]

/-- The word on an edge. -/
def edgeWord (kind : Kind) (branch : Branch) : Option (List Char) :=
  (splitLabel (edgeLabel kind branch).toList).1

theorem ofLabel?_edgeWord (kind : Kind) (branch : Branch) :
    Branch.ofLabel? ((edgeWord kind branch).getD []) = some branch := by
  cases kind <;> cases branch <;> decide

theorem edgeLabel_cases (kind : Kind) (branch : Branch) :
    ((edgeLabel kind branch).toList = [] ∧ edgeWord kind branch = none) ∨
      ∃ word, (edgeLabel kind branch).toList = '|' :: word ++ ['|', ' '] ∧
        edgeWord kind branch = some word ∧ '|' ∉ word ∧ Tight word := by
  have hword : ∀ word : String, '|' ∉ word.toList ∧ Tight word.toList →
      edgeLabel kind branch = "|" ++ word ++ "| " →
      splitLabel ("|" ++ word ++ "| ").toList = (some word.toList, []) →
      ∃ word, (edgeLabel kind branch).toList = '|' :: word ++ ['|', ' '] ∧
        edgeWord kind branch = some word ∧ '|' ∉ word ∧ Tight word := by
    intro word hw hlabel hsplit
    have hbar : "| ".toList = ['|', ' '] := by decide
    refine ⟨word.toList, ?_, ?_, hw⟩
    · simp [hlabel, hbar]
    · rw [edgeWord, hlabel, hsplit]
  cases branch with
  | next =>
    by_cases hk : kind = .check
    · exact Or.inr (hword "TRUE" ⟨by decide, by decide⟩ (by simp [edgeLabel, hk]) rfl)
    · exact Or.inl ⟨by simp [edgeLabel, hk], by simp [edgeWord, edgeLabel, hk, splitLabel]⟩
  | other =>
    right
    by_cases hk : kind = .check
    · exact hword "FALSE" ⟨by decide, by decide⟩ (by simp [edgeLabel, hk]) rfl
    · exact hword "FAILED" ⟨by decide, by decide⟩ (by simp [edgeLabel, hk]) rfl

/-- Behind the arrow the word and the target are told apart. -/
theorem splitLabel_edge {k : Kind} {name : List Char} (hn : NamesKind k name) (kind : Kind)
    (branch : Branch) :
    splitLabel (trim (' ' :: (edgeLabel kind branch).toList ++ name)) =
      (edgeWord kind branch, name) := by
  rw [List.cons_append, ← List.singleton_append, trim_blank_append (by decide)]
  rcases edgeLabel_cases kind branch with ⟨hlabel, hnone⟩ | ⟨word, hlabel, hsome, hbar, ht⟩
  · rw [hlabel, hnone, List.nil_append, hn.tight.trim_eq]
    have hname := splitLabel_named hn []
    rwa [List.append_nil] at hname
  · have htight : Tight ('|' :: word ++ ['|', ' '] ++ name) := by
      refine ⟨fun c hc => ?_, hn.last_not_blank _⟩
      rw [List.cons_append, List.cons_append, List.head?_cons, Option.some.injEq] at hc
      rw [← hc]
      decide
    have hline : '|' :: word ++ ['|', ' '] ++ name = '|' :: (word ++ '|' :: ' ' :: name) := by simp
    rw [hlabel, htight.trim_eq, hsome, hline]
    simp only [splitLabel, splitOnce_append hbar, ht.trim_eq]
    rw [← List.singleton_append, trim_blank_append (by decide), hn.tight.trim_eq]

section

variable {a : Activity} {k : Kind} {target : String} (hn : NamesKind a.kind a.name.toList)
  (ht : NamesKind k target.toList) (branch : Branch)

include hn ht

theorem segments_edgeText : segments (edgeText a branch target) =
    [a.name.toList ++ [' '], ' ' :: (edgeLabel a.kind branch).toList ++ target.toList] := by
  have hline : edgeText a branch target = (a.name.toList ++ [' ']) ++
      (arrow ++ (' ' :: (edgeLabel a.kind branch).toList ++ target.toList)) := by
    simp [edgeText]
  have huncut : Uncut {} (a.name.toList ++ [' ']) :=
    (hn.uncut _).append (uncut_of_no_dash (by decide))
  have houter : (Nesting.afterAll {} (a.name.toList ++ [' '])).isOuter := by
    rw [Nesting.afterAll_append, hn.afterAll_eq]
    decide
  have hdash : '-' ∉ ' ' :: (edgeLabel a.kind branch).toList ++ target.toList := by
    have hlabel : '-' ∉ (edgeLabel a.kind branch).toList := by
      cases a.kind <;> cases branch <;> decide
    simp [hlabel, ht.not_mem (c := '-') (by decide)]
  rw [segments, hline, segmentsFrom_append huncut, segmentsFrom_arrow houter,
    segmentsFrom_of_uncut (uncut_of_no_dash hdash), glue, List.append_nil]

theorem tight_edgeText : Tight (edgeText a branch target) := by
  unfold edgeText
  rw [List.append_assoc, List.append_assoc]
  refine tight_append hn.ne_nil hn.tight ?_
  rw [← List.append_assoc]
  exact ht.last_not_blank _

/-- The line of an edge declares its ends, without expressions, and joins them. -/
theorem entries_edgeText (n : Nat) : flowchartEntries n (edgeText a branch target) =
    [.declare a.kind a.name "", .declare k target "", .connect a.name target branch] := by
  have hignored : isIgnored (edgeText a branch target) = false := by
    unfold edgeText
    rw [List.append_assoc, List.append_assoc]
    refine isIgnored_append hn fun c hc => ?_
    rw [List.cons_append, List.head?_cons, Option.some.injEq] at hc
    rw [← hc]
    decide
  have hsource : trim (a.name.toList ++ [' ']) = a.name.toList := by
    rw [trim_append_blank _ (by decide), hn.tight.trim_eq]
  have hplain := splitLabel_named hn []
  rw [List.append_nil] at hplain
  rw [flowchartEntries, hignored, segments_edgeText hn ht branch]
  simp only [declareChain, hsource, hplain, splitLabel_edge ht, node_name hn, node_name ht]
  simp [Except.map, connectChain, ofLabel?_edgeWord]

end

end Playbook.Flowchart
