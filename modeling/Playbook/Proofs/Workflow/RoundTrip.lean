/-
  Which workflows survive being written and read again: exactly the rewritable ones
  (`rereads_iff`). Where nothing is quoted twice, what is written is a fixed point
  (`document_fixed`).
-/
import Playbook.Proofs.Workflow.Rereading

namespace Playbook.Workflow

open Playbook.Text Playbook.Document Playbook.Flowchart

/-! ## Entries of the flowchart -/

section

variable {w : Workflow} {is : List Item}

/-- An entry of a written flowchart comes from the parameters, from an activity's own line, or from
an edge. -/
theorem of_mem_drawn (hw : Assembled w) (his : ∀ i ∈ is, i.BelongsTo w) {n : Nat} {e : Entry}
    (h : e ∈ chartEntries n (drawnLines w is)) :
    (∃ m, w.params.entries ≠ [] ∧ e ∈ flowchartEntries m (paramsText w.params.entries) ∧
        ∀ d ∈ flowchartEntries m (paramsText w.params.entries),
          d ∈ chartEntries n (drawnLines w is)) ∨
      (∃ m a, w.activity? a.name = some a ∧ e ∈ flowchartEntries m (nodeText a) ∧
        ∀ d ∈ flowchartEntries m (nodeText a), d ∈ chartEntries n (drawnLines w is)) ∨
      (∃ k name, e = .declare k name "") ∨ ∃ s t b, e = .connect s t b := by
  obtain ⟨m, l, hl, hsolid, hmem, hall⟩ := of_mem_chartEntries h
  rcases List.mem_append.mp hl with hl | hl
  · unfold paramsLines at hl
    split at hl
    · cases hl
    · next hne =>
      rw [List.mem_singleton.mp hl, trim_indented (tight_paramsText _)] at hmem hall
      exact Or.inl ⟨m, hne, hmem, hall⟩
  · obtain ⟨i, hi, hl⟩ := List.mem_flatMap.mp hl
    have hbelongs := his i hi
    cases i with
    | node a =>
      have hn := (hw.named _ _ hbelongs).2
      rw [List.mem_singleton.mp hl, trim_indented (tight_nodeText hn)] at hmem hall
      exact Or.inr (Or.inl ⟨m, a, hbelongs, hmem, hall⟩)
    | edge a branch target =>
      obtain ⟨ha, ht⟩ := hbelongs
      have hn := (hw.named _ _ ha).2
      obtain ⟨k, htarget⟩ := hw.names_of_contains (hw.targets _ _ _ _ ha ht)
      rw [List.mem_singleton.mp hl, trim_indented (tight_edgeText hn htarget branch),
        entries_edgeText hn htarget] at hmem
      simp only [List.mem_cons, List.not_mem_nil, or_false] at hmem
      rcases hmem with rfl | rfl | rfl
      · exact Or.inr (Or.inr (Or.inl ⟨_, _, rfl⟩))
      · exact Or.inr (Or.inr (Or.inl ⟨_, _, rfl⟩))
      · exact Or.inr (Or.inr (Or.inr ⟨_, _, _, rfl⟩))
    | heading name =>
      obtain ⟨k, hn⟩ := hw.names_of_contains hbelongs
      rcases List.mem_cons.mp hl with rfl | hl
      · exact absurd rfl hsolid
      · have hignored : flowchartEntries m ("%% Event-handler: ".toList ++ name.toList) = [] := rfl
        rw [List.mem_singleton.mp hl, trim_heading hn, hignored] at hmem
        cases hmem

/-- Parameters that come back hold no quote. -/
theorem unquoted_of_mem_drawn (hw : Assembled w) (his : ∀ i ∈ is, i.BelongsTo w) {n : Nat}
    (hfault : ∀ f, .fault f ∉ chartEntries n (drawnLines w is)) {k v : String}
    (h : .param k v ∈ chartEntries n (drawnLines w is)) : PairUnquoted (k, v) := by
  rcases of_mem_drawn hw his h with ⟨m, hne, hmem, hall⟩ | ⟨m, a, ha, hmem, hall⟩ | ⟨_, _, he⟩ |
    ⟨_, _, _, he⟩
  · rw [← trim_paramsLine hne] at hmem hall
    exact no_quote_of_param hne hmem fun f hf => hfault f (hall _ hf)
  · exfalso
    rcases mem_entries_param hmem with ⟨f, hf⟩ | ⟨pairs, hnode, _⟩
    · exact hfault f (hall _ hf)
    · rw [node_nodeText (hw.named _ _ ha).2] at hnode
      split at hnode <;> cases hnode
  · cases he
  · cases he

theorem exists_bound {α : Type} (f : α → Nat) (l : List α) : ∃ bound, ∀ x ∈ l, f x ≤ bound := by
  induction l with
  | nil => exact ⟨0, by simp⟩
  | cons x l ih =>
    obtain ⟨bound, hbound⟩ := ih
    refine ⟨f x + bound, fun y hy => ?_⟩
    rcases List.mem_cons.mp hy with rfl | hy
    · omega
    · have := hbound y hy
      omega

theorem legible_of_empty {a : Activity} (hn : NamesKind a.kind a.name.toList)
    (he : a.expression = "") : Legible a := by
  have hnil : a.expression.toList = [] := by simp [he]
  rw [legible_iff_survives hn (by rw [hnil]; exact tight_nil), hnil]
  refine survives_of_no_quote List.not_mem_nil ?_
  rintro _ ⟨before, rest, hcons, _⟩
  simp at hcons

/-- If every activity's expression is declared somewhere in the flowchart, then every activity is
declared by its own line. No other line holds enough: a line declares its activity or something
shorter, so the longest expression decides first. -/
theorem legible_of_declared (hw : Assembled w) (his : ∀ i ∈ is, i.BelongsTo w) {n : Nat}
    (hq : ∀ p ∈ w.params.entries, PairUnquoted p)
    (h : ∀ key a, w.activity? key = some a → a.expression ≠ "" →
      ∃ k, .declare k key a.expression ∈ chartEntries n (drawnLines w is)) :
    ∀ key a, w.activity? key = some a → Legible a := by
  obtain ⟨bound, hbound⟩ := exists_bound (fun a : Activity => a.expression.toList.length)
    w.activities.values
  have hlength : ∀ key a, w.activity? key = some a → a.expression.toList.length ≤ bound :=
    fun key a ha => hbound a (Table.mem_values_of_get? ha)
  -- induction on how much longer the expression could be
  have hall : ∀ d key a, w.activity? key = some a → bound - a.expression.toList.length = d →
      Legible a := by
    intro d
    induction d using Nat.strongRecOn with
    | ind d ih =>
      intro key a ha hd
      by_cases he : a.expression = ""
      · exact legible_of_empty (hw.named key a ha).2 he
      · obtain ⟨k, hmem⟩ := h key a ha he
        rcases of_mem_drawn hw his hmem with ⟨m, hne, hparams, _⟩ | ⟨m, c, hc, hnode, _⟩ |
          ⟨_, _, hempty⟩ | ⟨_, _, _, hedge⟩
        · rw [← trim_paramsLine hne, entries_paramsLine hw.params hne hq] at hparams
          obtain ⟨p, _, hp⟩ := List.mem_map.mp hparams
          cases hp
        · have hn := (hw.named _ _ hc).2
          rcases declares_less hn hnode he with hlonger | ⟨hname, hlegible⟩
          · have hcl := hlength _ c hc
            have hline := ih (bound - c.expression.toList.length) (by omega) _ c hc rfl m
            rw [trim_nodeLine hn] at hline
            rw [hline, List.mem_singleton, Entry.declare.injEq] at hnode
            rw [hnode.2.2] at hlonger
            exact absurd hlonger (Nat.lt_irrefl _)
          · rw [← hname, ha, Option.some.injEq] at hc
            subst hc
            exact hlegible rfl
        · simp only [Entry.declare.injEq] at hempty
          exact absurd hempty.2.2 he
        · cases hedge
  exact fun key a ha => hall _ key a ha rfl

end

/-! ## The exact condition -/

/-- An entry of a document comes from the preamble, from the flowchart or from the prompts. -/
theorem mem_document_cases {name : String} {ls : List String} {chart prompts : List Entry}
    {e : Entry} (h : e ∈ preambleEntries name ls ++ (chart ++ prompts)) :
    (e = .name name ∨ ∃ l, e = .describe l) ∨ e ∈ chart ∨ e ∈ prompts := by
  rcases List.mem_append.mp h with h | h
  · left
    rcases List.mem_append.mp h with h | h
    · split at h
      · cases h
      · exact Or.inl (List.mem_singleton.mp h)
    · obtain ⟨l, _, rfl⟩ := List.mem_map.mp h
      exact Or.inr ⟨l, rfl⟩
  · exact Or.inr (List.mem_append.mp h)

/-- Parameters and declarations of a document come from its flowchart. -/
theorem mem_chart_of_mem_document {name : String} {ls : List String} {chart : List Entry}
    {ps : List (String × Prompt)} {e : Entry}
    (h : e ∈ preambleEntries name ls ++ (chart ++ ps.map rereadEntry))
    (hgraph : (paramOf e).isSome ∨ ∃ k key expression, e = .declare k key expression) :
    e ∈ chart := by
  rcases mem_document_cases h with (rfl | ⟨l, rfl⟩) | he | he
  · simp [paramOf] at hgraph
  · simp [paramOf] at hgraph
  · exact he
  · obtain ⟨p, _, rfl⟩ := List.mem_map.mp he
    simp [rereadEntry, paramOf] at hgraph

theorem fitsChart_of_mem_drawn {w : Workflow} (hw : Assembled w) {is : List Item}
    (his : ∀ i ∈ is, i.BelongsTo w) {n : Nat} {e : Entry}
    (h : e ∈ chartEntries n (drawnLines w is)) : FitsChart e := by
  obtain ⟨k, l, hl, _, hmem, _⟩ := of_mem_chartEntries h
  refine fitsChart_of_mem (fun hc => ?_) hmem
  rcases List.mem_append.mp hl with hl | hl
  · exact no_newline_paramsLines (fun p hp => (hw.params p hp).no_newline) l hl (mem_of_mem_trim hc)
  · obtain ⟨i, hi, hl⟩ := List.mem_flatMap.mp hl
    exact no_newline_item hw (his i hi) l hl (mem_of_mem_trim hc)

/-- If the document of a workflow is read as the same content, the workflow is rewritable. -/
theorem rewritable_of_reread {w v : Workflow} (hw : WellFormed w) (hread : read w.document = .ok v)
    (hsame : SameContent w v) : Rewritable w := by
  obtain ⟨ls, hls, hfits⟩ := hw.description
  obtain ⟨is, vs, hscript, _⟩ := exists_script hw.keyed
  have his := hscript.belongs hw
  obtain ⟨named, n, m, hentries⟩ := entries_document hw hls hfits hscript
  obtain ⟨u, hadd, hparams, hprompts, hactivities⟩ := exists_addAll_of_readAt hread
  rw [hentries] at hadd
  -- the prompts come first: their entries cannot come from anywhere else
  have hcontents : ∀ p ∈ w.prompts.entries, sameEntry p ∈ scanFrom (prompting named false none) m
      ((w.prompts.entries.flatMap promptBlock).map dropCarriageReturn) := by
    intro p hp
    have hget : u.prompts.get? p.1 = some p.2 := by
      rw [← hprompts, hsame.prompts]
      exact Table.get?_of_mem_entries hp
    rcases mem_document_cases (prompt_mem_of_addAll hadd hget) with (he | ⟨_, he⟩) | he | he
    · cases he
    · cases he
    · exact absurd (fitsChart_of_mem_drawn hw.toAssembled his he) id
    · exact he
  obtain ⟨hclosed, hcarriage⟩ := closed_of_reread named m hw.prompts w.prompts.keys_nodup hcontents
  rw [scanFrom_prompts named none m hw.prompts hclosed, promptEntries, List.nil_append] at hadd
  have hfault : ∀ f, .fault f ∉ chartEntries n (drawnLines w is) := fun f hf =>
    no_fault_of_addAll hadd f (List.mem_append_right _ (List.mem_append_left _ hf))
  have hunquoted : ∀ p ∈ w.params.entries, PairUnquoted p := by
    intro p hp
    have hget : u.params.get? p.1 = some p.2 := by
      rw [← hparams, hsame.params]
      exact Table.get?_of_mem_entries hp
    have hmem := param_mem_of_addAll hadd hget
    exact unquoted_of_mem_drawn hw.toAssembled his hfault
      (mem_chart_of_mem_document hmem (Or.inl rfl))
  have hdeclared : ∀ key a, w.activity? key = some a → a.expression ≠ "" →
      ∃ k, .declare k key a.expression ∈ chartEntries n (drawnLines w is) := by
    intro key a ha he
    have hactivity : u.activity? key = some a := by
      rw [← ha, ← hsame.activities, activity?, activity?, hactivities]
    rcases of_expression_addAll hadd hactivity with ⟨b, hb, _⟩ | ⟨k, hk⟩
    · cases hb
    · exact ⟨k, mem_chart_of_mem_document hk (Or.inr ⟨k, _, _, rfl⟩)⟩
  have hlegible := legible_of_declared hw.toAssembled his hunquoted hdeclared
  exact {
    activities := by
      intro a ha
      obtain ⟨⟨key, _⟩, hmem, rfl⟩ := List.mem_map.mp ha
      have hget := Table.get?_of_mem_entries hmem
      exact (legible_iff_survives (hw.named _ _ hget).2 (hw.expressions _ _ hget).1).mp
        (hlegible _ _ hget)
    params := hunquoted
    fences := fun p hp => (closed_iff _).mp (hclosed p hp)
    carriage := hcarriage }

/-- A document that is read survives being written and read again exactly if its workflow is
rewritable. -/
theorem rereads_iff {text : String} {w : Workflow} (h : read text = .ok w) :
    (∃ v, read w.document = .ok v ∧ SameContent w v) ↔ Rewritable w := by
  have hw := wellFormed_of_readAt h
  constructor
  · rintro ⟨v, hread, hsame⟩
    exact rewritable_of_reread hw hread hsame
  · intro hr
    obtain ⟨v, hread, hsame, _⟩ := read_document hw hr
    exact ⟨v, hread, hsame⟩

/-- A prompt with quotes of its own, and an arrow between them. -/
def quotedGreeting : String :=
  "# Workflow\n```mermaid\nflowchart TD\n" ++
  "  START --> PROMPT_A[\"Prompt: Say \"hi --> \" twice\"]\n```\n"

theorem quotedGreeting_rereads : ∃ w, read quotedGreeting = .ok w ∧ Rewritable w ∧
    ∃ v, read w.document = .ok v ∧ SameContent w v := by
  obtain ⟨w, hread, hr⟩ := exists_of_any quotedGreeting (fun w => decide (Rewritable w))
    (by decide +kernel)
  have hrewritable := of_decide_eq_true hr
  exact ⟨w, hread, hrewritable, (rereads_iff hread).mpr hrewritable⟩

/-- A decision whose expression begins with the label of decisions. -/
def labelledTwice : String :=
  "# Workflow\n```mermaid\nflowchart TD\n  START --> CHECK_A[\"Check: Check: x\"]\n```\n"

/-- Its document is read as a decision without that label. -/
theorem labelledTwice_not_reread : ∃ w, read labelledTwice = .ok w ∧
    ¬ ∃ v, read w.document = .ok v ∧ SameContent w v := by
  obtain ⟨w, hread, hlost⟩ := exists_of_any labelledTwice
    (fun w => (read w.document).toOption.all fun v =>
      v.activity? "CHECK_A" != w.activity? "CHECK_A") (by decide +kernel)
  refine ⟨w, hread, ?_⟩
  rintro ⟨v, hdocument, hsame⟩
  rw [hdocument] at hlost
  simp [Except.toOption, hsame.activities] at hlost

/-! ## Fixed points -/

/-- A workflow that holds no quotes, labels only where one is written in front, no carriage returns
and no fence that stays open. -/
structure Unadorned (w : Workflow) : Prop where
  expressions : ∀ a ∈ w.activities.values, '"' ∉ a.expression.toList
  labels : ∀ a ∈ w.activities.values, a.kind = .check ∨ a.kind = .call →
    ¬ BeginsWithLabel a.kind a.expression.toList
  params : ∀ p ∈ w.params.entries, PairUnquoted p
  carriage : ∀ p ∈ w.prompts.values, '\r' ∉ p.content.toList
  fences : ∀ p ∈ w.prompts.values, fenceLines p.content % 2 = 0

instance (w : Workflow) : Decidable (Unadorned w) :=
  decidable_of_iff ((∀ a ∈ w.activities.values, '"' ∉ a.expression.toList) ∧
      (∀ a ∈ w.activities.values, a.kind = .check ∨ a.kind = .call →
        ¬ BeginsWithLabel a.kind a.expression.toList) ∧
      (∀ p ∈ w.params.entries, PairUnquoted p) ∧
      (∀ p ∈ w.prompts.values, '\r' ∉ p.content.toList) ∧
      ∀ p ∈ w.prompts.values, fenceLines p.content % 2 = 0)
    ⟨fun ⟨expressions, labels, params, carriage, fences⟩ =>
        { expressions, labels, params, carriage, fences },
      fun h => ⟨h.expressions, h.labels, h.params, h.carriage, h.fences⟩⟩

theorem Unadorned.rewritable {w : Workflow} (h : Unadorned w) : Rewritable w where
  activities := by
    intro a ha
    refine survives_of_no_quote (h.expressions a ha) fun hbare => h.labels a ha ?_
    revert hbare
    cases a.kind <;> decide
  params := h.params
  fences := fun p hp =>
    h.fences p.2 (List.mem_map.mpr ⟨p, List.dropLast_subset _ hp, rfl⟩)
  carriage := fun p hp hbreak =>
    h.carriage p.2 (List.mem_map.mpr ⟨p, hp, rfl⟩) (hbreak.subset List.mem_cons_self)

/-- The document of such a workflow is read, and written again as it was. -/
theorem document_fixed {text : String} {w : Workflow} (h : read text = .ok w) (hu : Unadorned w) :
    ∃ v, read w.document = .ok v ∧ v.document = w.document := by
  obtain ⟨v, hread, _, hsame⟩ := read_document (wellFormed_of_readAt h) hu.rewritable
  exact ⟨v, hread, hsame⟩

/-- A workflow with a cycle and an activity that no edge leads to. -/
def reviewText : String :=
  "# Workflow\n```mermaid\nflowchart TD\n  ASK_USER\n  START --> CHECK_OK\x7bright\x7d\n" ++
  "  CHECK_OK -->|FALSE| CHECK_OK\n```\n"

theorem reviewText_fixed : ∃ w, read reviewText = .ok w ∧ Unadorned w ∧
    ∃ v, read w.document = .ok v ∧ v.document = w.document := by
  obtain ⟨w, hread, hu⟩ := exists_of_any reviewText (fun w => decide (Unadorned w))
    (by decide +kernel)
  have hunadorned := of_decide_eq_true hu
  exact ⟨w, hread, hunadorned, document_fixed hread hunadorned⟩

end Playbook.Workflow
