/-
  What every line of a flowchart adds: names that tell their kind, trimmed expressions, parameters
  that can be written again (`sound_of_mem_flowchartEntries`), and edges between names that the
  line declares before (`grounded_flowchartEntries`).
-/
import Playbook.Proofs.Workflow.StrayDeclarations
import Playbook.Proofs.Workflow.ParamsLine

namespace Playbook.Flowchart

open Playbook.Text Playbook.Document

/-! ## Nodes -/

theorem tight_peel (cs : List Char) : peel cs = cs ∨ Tight (peel cs) := by
  induction hn : cs.length using Nat.strongRecOn generalizing cs with
  | _ n ih =>
    by_cases hq : isQuoted cs
    · right
      rw [peel_of_isQuoted hq]
      exact tight_trim _
    · by_cases hb : isBracketed cs
      · right
        obtain ⟨op, cl, mid, _, hcs⟩ := exists_of_isBracketed hb
        have hlen := length_inside_le cs
        rw [peel_of_isBracketed hb]
        rcases ih (inside cs).length (by rw [hcs] at hlen hn ⊢; simp at hlen hn ⊢; omega) _ rfl with
          hsame | ht
        · rw [hsame]
          exact tight_trim _
        · exact ht
      · exact Or.inl (peel_of_bare (by simpa using hq) (by simpa using hb))

theorem tight_afterKindLabel? {k : Kind} {cs e : List Char} (h : afterKindLabel? k cs = some e) :
    Tight e := by
  unfold afterKindLabel? at h
  split at h
  · split at h
    · rw [← Option.some.inj h]
      exact tight_trim _
    · cases h
  · cases h

theorem mem_of_labelAttribute? {attributes : List Char} {c : Char}
    (h : c ∈ trim ((labelAttribute? attributes).getD [])) : c ∈ attributes := by
  cases hl : labelAttribute? attributes with
  | none =>
    rw [hl] at h
    exact absurd h List.not_mem_nil
  | some t =>
    rw [hl, Option.getD_some] at h
    exact (labelAttribute?_eq_some hl).2.2 c (mem_of_mem_trim h)

/-- The expression of an activity's shape is trimmed and stands in the shape. -/
theorem sound_of_expression? {k : Kind} {shape e : List Char}
    (h : expression? (some k) shape = some e) : Tight e ∧ ∀ c ∈ e, c ∈ shape := by
  cases shape with
  | nil =>
    rw [expression?, Option.some.injEq] at h
    subst h
    exact ⟨tight_nil, by simp⟩
  | cons op rest =>
    by_cases hop : op = '@'
    · subst hop
      simp only [expression?, Option.some.injEq] at h
      cases hafter : afterKindLabel? k (trim ((labelAttribute? rest).getD [])) with
      | none =>
        rw [hafter, Option.getD_none] at h
        subst h
        exact ⟨tight_nil, by simp⟩
      | some e' =>
        rw [hafter, Option.getD_some] at h
        subst h
        obtain ⟨l, r, _, hin⟩ := afterKindLabel?_infix hafter
        refine ⟨tight_afterKindLabel? hafter, fun c hc => List.mem_cons_of_mem _ ?_⟩
        exact mem_of_labelAttribute? (by rw [hin]; simp [hc])
    · obtain ⟨l, r, _, _, hin⟩ := expression?_infix hop h
      refine ⟨?_, fun c hc => by rw [hin]; simp [hc]⟩
      rw [expression?] at h
      · split at h
        · cases h
        · next hlen =>
          rw [Option.some.injEq] at h
          cases hafter : afterKindLabel? k (peel (op :: rest)) with
          | none =>
            rw [hafter, Option.getD_none] at h
            rcases tight_peel (op :: rest) with hsame | ht
            · exact absurd (by rw [hsame]; simp) hlen
            · exact h ▸ ht
          | some e' =>
            rw [hafter, Option.getD_some] at h
            exact h ▸ tight_afterKindLabel? hafter
      · simp
      · exact fun attributes hc => hop (List.cons.inj hc).1

/-- The label of the parameters' shape stands in the shape. -/
theorem mem_of_expression?_none {shape e : List Char} (h : expression? none shape = some e) :
    ∀ c ∈ e, c ∈ shape := by
  cases shape with
  | nil =>
    rw [expression?, Option.some.injEq] at h
    simp [← h]
  | cons op rest =>
    intro c hc
    by_cases hop : op = '@'
    · subst hop
      simp only [expression?, Option.some.injEq] at h
      exact List.mem_cons_of_mem _ (mem_of_labelAttribute? (h ▸ hc))
    · rw [expression?] at h
      · split at h
        · cases h
        · rw [Option.some.injEq] at h
          rw [← h] at hc
          rcases peel_infix (op :: rest) with hsame | ⟨l, r, _, _, hin⟩
          · exact hsame ▸ hc
          · rw [hin]
            simp [hc]
      · simp
      · exact fun attributes hc => hop (List.cons.inj hc).1

/-- What a node adds. -/
def Node.Fits : Node → Prop
  | .params pairs => ∀ p ∈ pairs, PairFits p
  | .activity k name e => NamesKind k name.toList ∧ Tight e.toList ∧ '\n' ∉ e.toList

theorem fits_of_node {source : List Char} (hs : '\n' ∉ source) {nd : Node}
    (h : node source = .ok nd) : nd.Fits := by
  have hsub : ∀ c, c ∈ trim ((trim source).dropWhile isNameChar) → c ∈ source := fun c hc =>
    mem_of_mem_trim (List.dropWhile_subset isNameChar (mem_of_mem_trim hc))
  unfold node at h
  dsimp only at h
  split at h
  · cases h
  · split at h
    · split at h
      · cases h
      · next e he =>
        cases h
        refine fun p hp => fits_of_mem_paramPairs (fun hc => hs (hsub _ ?_)) hp
        exact mem_of_expression?_none he _ hc
    · split at h
      · cases h
      · next k hk =>
        split at h
        · cases h
        · next e he =>
          cases h
          obtain ⟨ht, hmem⟩ := sound_of_expression? he
          refine ⟨⟨fun c hc => ?_, ?_⟩, ?_, ?_⟩
          · rw [String.toList_ofList] at hc
            exact List.all_eq_true.mp List.all_takeWhile c hc
          · rw [String.toList_ofList]
            exact hk
          · rw [String.toList_ofList]
            exact ht
          · rw [String.toList_ofList]
            exact fun hc => hs (hsub _ (hmem _ hc))

/-! ## Lines -/

/-- An entry as a line of a flowchart may add it. -/
def FitsChart : Entry → Prop
  | .declare k name e => NamesKind k name.toList ∧ Tight e.toList ∧ '\n' ∉ e.toList
  | .param k v => PairFits (k, v)
  | .connect _ _ _ => True
  | .fault _ => True
  | _ => False

theorem fitsChart_nodeEntries {nd : Node} (h : nd.Fits) :
    ∀ e ∈ (nodeEntries nd).1, FitsChart e := by
  intro e he
  cases nd with
  | params pairs =>
    obtain ⟨p, hp, rfl⟩ := List.mem_map.mp he
    exact h p hp
  | activity k name expression =>
    rw [nodeEntries, List.mem_singleton] at he
    subst he
    exact h

theorem newline_of_splitLabel {s : List Char} (hs : '\n' ∉ s) : '\n' ∉ (splitLabel (trim s)).2 := by
  have htrim : '\n' ∉ trim s := fun hc => hs (mem_of_mem_trim hc)
  unfold splitLabel
  split
  · next rest hrest =>
    split
    · next label node hsplit =>
      intro hc
      have hnode := mem_of_mem_trim hc
      rw [hrest, (splitOnce_eq_some hsplit).1] at htrim
      exact htrim (by simp [hnode])
    · exact htrim
  · exact htrim

theorem fitsChart_declareChain {n : Nat} {line : String} {first : Bool} {segs : List (List Char)}
    (hsegs : ∀ s ∈ segs, '\n' ∉ s) :
    ∀ e ∈ (declareChain n line first segs).entries, FitsChart e := by
  induction segs generalizing first with
  | nil => simp [declareChain]
  | cons s segs ih =>
    have hs := newline_of_splitLabel (hsegs s List.mem_cons_self)
    intro e he
    rw [declareChain] at he
    dsimp only at he
    split at he
    · cases he
    · split at he
      · cases he
      · next pairs hnode => exact fitsChart_nodeEntries (fits_of_node hs hnode) e he
      · next k name expression hnode =>
        rcases List.mem_cons.mp he with rfl | he
        · exact fits_of_node hs hnode
        · exact ih (fun s hs => hsegs s (List.mem_cons_of_mem _ hs)) e he

/-- What a line of a flowchart adds fits. -/
theorem fitsChart_of_mem {n : Nat} {line : List Char} (hline : '\n' ∉ line) {e : Entry}
    (h : e ∈ flowchartEntries n line) : FitsChart e := by
  have hsegs : ∀ s ∈ segments line, '\n' ∉ s := by
    intro s hs hc
    refine hline ?_
    have hjoin := joinWith_segmentsFrom {} line
    rw [← hjoin]
    exact mem_joinWith_of_mem hs hc
  unfold flowchartEntries at h
  split at h
  · cases h
  · split at h
    · next only honly =>
      obtain rfl := whole_of_segments honly
      split at h
      · rw [List.mem_singleton.mp h]
        exact True.intro
      · next nd hnode => exact fitsChart_nodeEntries (fits_of_node hline hnode) e h
    · dsimp only at h
      split at h
      · rcases List.mem_append.mp h with h | h
        · exact fitsChart_declareChain hsegs e h
        · rw [List.mem_singleton.mp h]
          exact True.intro
      · rcases List.mem_append.mp h with h | h
        · exact fitsChart_declareChain hsegs e h
        · rcases of_mem_connectChain h with ⟨f, rfl⟩ | ⟨s, t, b, rfl⟩ <;> exact True.intro

/-! ## Edges -/

/-- Every edge among the entries joins names that are known, or declared before it. -/
def Grounded (known : List String) : List Entry → Prop
  | [] => True
  | .declare _ name _ :: es => Grounded (name :: known) es
  | .connect source target _ :: es => source ∈ known ∧ target ∈ known ∧ Grounded known es
  | _ :: es => Grounded known es

theorem Grounded.append {known : List String} {es fs : List Entry} (hes : Grounded known es)
    (hfs : ∀ known', Grounded known' fs) : Grounded known (es ++ fs) := by
  induction es generalizing known with
  | nil => exact hfs known
  | cons e es ih =>
    cases e with
    | declare k name expression => exact ih hes
    | connect source target branch => exact ⟨hes.1, hes.2.1, ih hes.2.2⟩
    | _ => exact ih hes

theorem grounded_of_no_connect {es : List Entry} (h : ∀ s t b, .connect s t b ∉ es)
    (known : List String) : Grounded known es := by
  induction es generalizing known with
  | nil => exact True.intro
  | cons e es ih =>
    have hes := ih fun s t b hc => h s t b (List.mem_cons_of_mem _ hc)
    cases e with
    | connect source target branch => exact absurd List.mem_cons_self (h source target branch)
    | _ => exact hes _

theorem grounded_connectChain {n : Nat} {nodes : List (Option (List Char) × String)}
    {known : List String} (h : ∀ p ∈ nodes, p.2 ∈ known) :
    Grounded known (connectChain n nodes) := by
  fun_induction connectChain n nodes with
  | case1 => exact True.intro
  | case2 _ source _ target _ _ branch _ ih =>
    refine ⟨h _ List.mem_cons_self, h _ (List.mem_cons_of_mem _ List.mem_cons_self), ih ?_⟩
    exact fun p hp => h p (List.mem_cons_of_mem _ hp)
  | case3 => exact True.intro

/-- The parts of an edge line are declared before anything that joins only them. -/
theorem grounded_declareChain {n : Nat} {line : String} {first : Bool} {segs : List (List Char)}
    {nodes : List (Option (List Char) × String)} {known : List String} {fs : List Entry}
    (hok : (declareChain n line first segs).outcome = .ok nodes)
    (hfs : ∀ known', known ⊆ known' → (∀ p ∈ nodes, p.2 ∈ known') → Grounded known' fs) :
    Grounded known ((declareChain n line first segs).entries ++ fs) := by
  induction segs generalizing first nodes known with
  | nil =>
    rw [declareChain] at hok ⊢
    obtain rfl : [] = nodes := by simpa using hok
    exact hfs known (List.Subset.refl known) (by simp)
  | cons s segs ih =>
    rw [declareChain] at hok ⊢
    dsimp only at hok ⊢
    split at hok
    · cases hok
    · next hlabel =>
      rw [if_neg hlabel]
      split at hok
      · cases hok
      · cases hok
      · next k name expression _ =>
        cases hrest : (declareChain n line false segs).outcome with
        | error f =>
          rw [hrest] at hok
          cases hok
        | ok rest =>
          rw [hrest] at hok
          cases hok
          refine ih hrest fun known' hsub hmem => ?_
          refine hfs known' (fun x hx => hsub (List.mem_cons_of_mem _ hx)) fun p hp => ?_
          rcases List.mem_cons.mp hp with rfl | hp
          · exact hsub List.mem_cons_self
          · exact hmem p hp

theorem no_connect_declareChain {n : Nat} {line : String} {first : Bool} {segs : List (List Char)}
    {s t : String} {b : Branch} : .connect s t b ∉ (declareChain n line first segs).entries := by
  induction segs generalizing first with
  | nil => simp [declareChain]
  | cons seg segs ih =>
    rw [declareChain]
    dsimp only
    split
    · exact List.not_mem_nil
    · split
      · exact List.not_mem_nil
      · simp [nodeEntries]
      · rw [List.mem_cons, not_or]
        exact ⟨by simp, ih⟩

/-- The edges of a line join names that the line declares before. -/
theorem grounded_flowchartEntries (n : Nat) (line : List Char) (known : List String) :
    Grounded known (flowchartEntries n line) := by
  unfold flowchartEntries
  split
  · exact True.intro
  · split
    · split
      · exact True.intro
      · next nd _ =>
        refine grounded_of_no_connect (fun s t b => ?_) known
        cases nd <;> simp [nodeEntries]
    · dsimp only
      split
      · refine grounded_of_no_connect (fun s t b => ?_) known
        rw [List.mem_append, not_or]
        exact ⟨no_connect_declareChain, by simp⟩
      · next nodes hok =>
        exact grounded_declareChain hok fun known' _ hmem => grounded_connectChain hmem

end Playbook.Flowchart
