/-
  What else the line of a node may declare. Quotes in an expression may end the brackets around it
  too early, and the rest of the line may then declare anything. But whatever a node's line
  declares, the activity with its own expression is declared only by a line that can be read alone
  (`declares_less`): what stands behind a cut is too short, and what stands before it would have
  to repeat itself.
-/
import Playbook.Proofs.Workflow.NodeLines

namespace Playbook.Flowchart

open Playbook.Text Playbook.Document

/-! ## Declarations of a line -/

theorem mem_declareChain {n : Nat} {line : String} {first : Bool} {segs : List (List Char)}
    {k : Kind} {name e : String}
    (h : .declare k name e ∈ (declareChain n line first segs).entries) :
    ∃ s ∈ segs, node (splitLabel (trim s)).2 = .ok (.activity k name e) := by
  induction segs generalizing first with
  | nil => simp [declareChain] at h
  | cons s segs ih =>
    rw [declareChain] at h
    dsimp only at h
    split at h
    · cases h
    · split at h
      · cases h
      · simp [nodeEntries] at h
      · next k' name' e' hnode =>
        rcases List.mem_cons.mp h with heq | h
        · cases heq
          exact ⟨s, List.mem_cons_self, hnode⟩
        · obtain ⟨s', hs', hnode'⟩ := ih h
          exact ⟨s', List.mem_cons_of_mem _ hs', hnode'⟩

/-- A declaration in a line is that of the line itself or that of one of several segments. -/
theorem mem_entries_declare {n : Nat} {line : List Char} {k : Kind} {name e : String}
    (h : .declare k name e ∈ flowchartEntries n line) :
    (segments line = [line] ∧ node line = .ok (.activity k name e)) ∨
      ∃ s ∈ segments line, node (splitLabel (trim s)).2 = .ok (.activity k name e) := by
  unfold flowchartEntries at h
  split at h
  · cases h
  · split at h
    · next only hsegs =>
      obtain rfl := whole_of_segments hsegs
      refine Or.inl ⟨hsegs, ?_⟩
      split at h
      · simp at h
      · next nd hnode =>
        cases nd with
        | params pairs => simp [nodeEntries] at h
        | activity k' name' e' =>
          simp only [nodeEntries, List.mem_singleton, Entry.declare.injEq] at h
          obtain ⟨rfl, rfl, rfl⟩ := h
          exact hnode
    · have hchain : .declare k name e ∈
          (declareChain n (String.ofList line) true (segments line)).entries := by
        dsimp only at h
        split at h
        · simpa using h
        · rcases List.mem_append.mp h with h | h
          · exact h
          · rcases of_mem_connectChain h with ⟨_, hf⟩ | ⟨_, _, _, hc⟩
            · cases hf
            · cases hc
      exact Or.inr (mem_declareChain hchain)

/-- An expression is shorter than the shape that carries it. -/
theorem length_of_expression? {k : Kind} {shape e : List Char}
    (h : expression? (some k) shape = some e) : e = [] ∨ e.length < shape.length := by
  cases shape with
  | nil =>
    left
    simpa [expression?] using h.symm
  | cons op rest =>
    right
    rw [List.length_cons]
    by_cases hop : op = '@'
    · subst hop
      have hattributes := (expression?_attributes h).2
      omega
    · obtain ⟨l, r, hl, hr, hin⟩ := expression?_infix hop h
      have hlen := congrArg List.length hin
      have hl := List.length_pos_iff.mpr hl
      have hr := List.length_pos_iff.mpr hr
      simp only [List.length_append, List.length_cons] at hlen
      omega

/-- An expression is shorter than the node that carries it. -/
theorem length_of_node {text : List Char} {k : Kind} {name e : String}
    (h : node text = .ok (.activity k name e)) : e = "" ∨ e.toList.length + 2 ≤ text.length := by
  unfold node at h
  dsimp only at h
  split at h
  · cases h
  · next hname =>
    have htrim := length_trim_le text
    have hsplit := congrArg List.length
      (List.takeWhile_append_dropWhile (p := isNameChar) (l := trim text))
    have hshape := length_trim_le ((trim text).dropWhile isNameChar)
    have hpos : 0 < ((trim text).takeWhile isNameChar).length := by
      simpa [List.length_pos_iff] using hname
    rw [List.length_append] at hsplit
    split at h
    · split at h <;> cases h
    · split at h
      · cases h
      · split at h
        · cases h
        · next e' he =>
          simp only [Except.ok.injEq, Node.activity.injEq] at h
          obtain ⟨_, _, rfl⟩ := h
          rw [String.toList_ofList]
          rcases length_of_expression? he with rfl | hlen
          · exact Or.inl rfl
          · right
            omega

theorem length_splitLabel_le (s : List Char) : (splitLabel (trim s)).2.length ≤ s.length := by
  have htrim := length_trim_le s
  unfold splitLabel
  split
  · next rest hs =>
    split
    · next label rest' hsplit =>
      have hnode := length_trim_le rest'
      have hlen := congrArg List.length (splitOnce_eq_some hsplit).1
      rw [hs] at htrim
      simp only [List.length_append, List.length_cons] at hlen htrim
      dsimp only
      omega
    · exact htrim
  · exact htrim

/-! ## Cut lines -/

/-- If a text begins and ends alike, but for a front that is put before it, then the front holds
all of its characters. -/
theorem mem_of_shifted {u x e : List Char} (hu : u ≠ []) (hx : x <+: e) (he : e <+: u ++ x) :
    ∀ c ∈ e, c ∈ u := by
  have hpos := List.length_pos_iff.mpr hu
  have hget : ∀ i, ∀ hi : i < e.length, e[i] ∈ u := by
    intro i
    induction i using Nat.strongRecOn with
    | _ i ih =>
      intro hi
      have hlonger : i < (u ++ x).length := Nat.lt_of_lt_of_le hi he.length_le
      have heq : e[i] = (u ++ x)[i] := he.getElem hi
      by_cases hlt : i < u.length
      · rw [heq, List.getElem_append_left hlt]
        exact List.getElem_mem hlt
      · have hix : i - u.length < x.length := by
          have := he.length_le
          rw [List.length_append] at this
          omega
        have hearlier : i - u.length < e.length := Nat.lt_of_lt_of_le hix hx.length_le
        have hshift : x[i - u.length] = e[i - u.length] := hx.getElem hix
        rw [heq, List.getElem_append_right (Nat.le_of_not_lt hlt), hshift]
        exact ih (i - u.length) (by omega) _
  intro c hc
  obtain ⟨i, hi, rfl⟩ := List.getElem_of_mem hc
  exact hget i hi

theorem Frame.head {k : Kind} {front back p : List Char} (h : Frame k front back) :
    ∀ c, (front ++ p).head? = some c → isNameChar c = false := by
  obtain ⟨op, rest, rfl, hop⟩ := h.opens
  intro c hc
  rw [List.cons_append, List.head?_cons, Option.some.injEq] at hc
  rcases hop with rfl | ⟨cl, hcl, _⟩
  · rw [← hc]
    decide
  · unfold closer? at hcl
    subst hc
    split at hcl <;> first | decide | cases hcl

/-- A frame that holds only the beginning of an expression, cut off before an arrow, is not read
as the expression. -/
theorem Frame.cut_ne {k : Kind} {front back : List Char} (h : Frame k front back)
    {p q e : List Char} (he : e = p ++ arrow ++ q) (hq : '"' ∈ e) :
    expression? (some k) (trim (front ++ p)) ≠ some e := by
  intro hread
  obtain ⟨op, rest, hfront, hop⟩ := h.opens
  have hblank : isBlank op = false := by
    rcases hop with rfl | ⟨cl, hcl, _⟩
    · decide
    · exact (closer?_ne_quote hcl).2.2.2.1
  have htrim : trim (front ++ p) = op :: trimRight (rest ++ p) := by
    have htight : Tight [op] := ⟨fun c hc => by simp_all, fun c hc => by simp_all⟩
    have := trim_append_of_tight (List.cons_ne_nil op []) htight (rest ++ p)
    rwa [hfront]
  rw [htrim] at hread
  obtain ⟨r', hr', _, _⟩ := exists_trimRight (rest ++ p)
  rcases hop with rfl | ⟨cl, hcl, hmem⟩
  · exact (expression?_attributes hread).1 hq
  · have hcl_mem : cl ∈ front ++ p := by
      rw [hfront, List.cons_append, hr']
      have := mem_of_expression?_isSome hcl (k := k) (by rw [hread]; rfl)
      simp [this]
    have hclose : cl ∈ e := by
      rw [he]
      rcases List.mem_append.mp hcl_mem with hc | hc
      · exact absurd hc hmem
      · simp [hc]
    have hop' : op ≠ '@' := by
      rintro rfl
      simp [closer?] at hcl
    obtain ⟨l, r, hl, hr, hin⟩ := expression?_infix hop' hread
    have hwhole : front ++ p = l ++ (e ++ (r ++ r')) := by
      rw [hfront, List.cons_append, hr', ← List.cons_append, hin]
      simp
    -- the expression would begin inside of the front, for it is too long for what stands behind
    rcases List.append_eq_append_iff.mp hwhole with ⟨l', _, hp⟩ | ⟨u, hfu, hup⟩
    · have := congrArg List.length hp
      rw [he] at this
      simp only [List.length_append, arrow, List.length_cons, List.length_nil] at this
      omega
    · have hu : u ≠ [] := by
        rintro rfl
        have := congrArg List.length hup
        rw [he] at this
        simp only [List.nil_append, List.length_append, arrow, List.length_cons,
          List.length_nil] at this
        omega
      have hpe : p <+: e := ⟨arrow ++ q, by rw [he, List.append_assoc]⟩
      have hin_u := mem_of_shifted hu hpe ⟨r ++ r', hup⟩ cl hclose
      exact hmem (by rw [hfu]; simp [hin_u])

/-- A node's line that is cut is cut inside of the expression. -/
theorem segments_nodeText_cases {a : Activity} (hn : NamesKind a.kind a.name.toList) :
    segments (nodeText a) = [nodeText a] ∨
      ∃ front back p q s, Frame a.kind front back ∧ a.expression.toList = p ++ arrow ++ q ∧
        '"' ∈ a.expression.toList ∧
        segments (nodeText a) = (a.name.toList ++ (front ++ p)) :: segmentsFrom s (q ++ back) := by
  by_cases hq : '"' ∈ a.expression.toList
  · rcases (shaped_shape a).exists_frame with ⟨he, _⟩ | ⟨front, back, hframe, htext⟩
    · rw [he] at hq
      exact absurd hq List.not_mem_nil
    · have huncut := hframe.uncut_named hn
      have hline : nodeText a = a.name.toList ++ front ++ (a.expression.toList ++ back) := by
        simp [nodeText, htext]
      have hsegs := segmentsFrom_append huncut (a.expression.toList ++ back)
      rw [← hline] at hsegs
      rcases segmentsFrom_cases (Nesting.afterAll {} (a.name.toList ++ front))
        (a.expression.toList ++ back) with hwhole | ⟨p, q, hsplit, _, hcut⟩
      · left
        rw [segments, hsegs, hwhole, hline]
        rfl
      · right
        rw [hcut] at hsegs
        obtain ⟨q', he, hq'⟩ := arrow_before hframe.no_arrow hsplit
        exact ⟨front, back, p, q', _, hframe, he, hq, by
          rw [segments, hsegs, hq', glue, List.append_assoc]⟩
  · exact Or.inl ((segments_nodeText_iff hn).mpr (not_looseArrow_of_quoted rfl hq))

/-- A node's line that is read as a whole is that of its activity. -/
theorem legible_of_node {a : Activity} (hn : NamesKind a.kind a.name.toList)
    (hs : segments (nodeText a) = [nodeText a]) {k : Kind} {name e : String}
    (h : node (nodeText a) = .ok (.activity k name e)) :
    name = a.name ∧ (e = a.expression → Legible a) := by
  rw [node_nodeText hn] at h
  split at h
  · cases h
  · next e' hread =>
    simp only [Except.ok.injEq, Node.activity.injEq] at h
    obtain ⟨_, rfl, rfl⟩ := h
    refine ⟨rfl, fun heq => legible_of_read hn hs ?_⟩
    rw [hread, ← heq, String.toList_ofList]

/-- What stands before a cut inside of the expression is not read with the whole expression. -/
theorem Frame.cut_node {a : Activity} (hn : NamesKind a.kind a.name.toList)
    {front back p q : List Char} (hframe : Frame a.kind front back)
    (hpq : a.expression.toList = p ++ arrow ++ q) (hq : '"' ∈ a.expression.toList) {k : Kind}
    {name e : String} (h : node (a.name.toList ++ (front ++ p)) = .ok (.activity k name e)) :
    name = a.name ∧ e ≠ a.expression := by
  rw [node_append hn hframe.head] at h
  split at h
  · cases h
  · next e' hread =>
    simp only [Except.ok.injEq, Node.activity.injEq] at h
    obtain ⟨_, hname, rfl⟩ := h
    rw [String.ofList_toList] at hname
    refine ⟨hname.symm, fun heq => hframe.cut_ne hpq hq ?_⟩
    rw [hread, ← heq, String.toList_ofList]

/-- What a node's line declares with a nonempty expression is the activity with the expression
that the line carries, or the expression is shorter than the activity's. -/
theorem declares_less {a : Activity} (hn : NamesKind a.kind a.name.toList) {n : Nat} {k : Kind}
    {name e : String} (h : .declare k name e ∈ flowchartEntries n (nodeText a)) (he : e ≠ "") :
    e.toList.length < a.expression.toList.length ∨
      (name = a.name ∧ (e = a.expression → Legible a)) := by
  have hunlabelled : ∀ rest, (splitLabel (trim (a.name.toList ++ rest))).2 =
      trim (a.name.toList ++ rest) := fun rest => by
    rw [trim_append_of_tight hn.ne_nil hn.tight, splitLabel_named hn]
  rcases mem_entries_declare h with ⟨hs, hnode⟩ | ⟨s, hs, hnode⟩
  · exact Or.inr (legible_of_node hn hs hnode)
  · rcases segments_nodeText_cases hn with hline | ⟨front, back, p, q, st, hframe, hpq, hq, hcut⟩
    · rw [hline, List.mem_singleton] at hs
      subst hs
      rw [nodeText, hunlabelled, ← nodeText, node_trim] at hnode
      exact Or.inr (legible_of_node hn hline hnode)
    · rw [hcut] at hs
      rcases List.mem_cons.mp hs with rfl | hs
      · rw [hunlabelled, node_trim] at hnode
        obtain ⟨hname, hne⟩ := hframe.cut_node hn hpq hq hnode
        exact Or.inr ⟨hname, fun heq => absurd heq hne⟩
      · -- what stands behind the cut is shorter than the expression
        left
        have hsegment := length_le_of_mem_segmentsFrom hs
        have hlabel := length_splitLabel_le s
        have hback := hframe.length_back
        rw [hpq]
        simp only [List.length_append, arrow, List.length_cons, List.length_nil] at hsegment ⊢
        rcases length_of_node hnode with hempty | hshorter
        · exact absurd hempty he
        · omega

end Playbook.Flowchart
