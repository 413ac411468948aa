/-
  The lines of nodes, read one by one. A node's line, read alone, declares its activity again
  exactly if the expression survives the brackets, quotes and labels around it
  (`legible_iff_survives`).
-/
import Playbook.Proofs.Workflow.ShapeReading
import Playbook.Workflow.Document

namespace Playbook.Flowchart

open Playbook.Text Playbook.Document

/-! ## Names -/

/-- A text that names an activity of a kind. -/
structure NamesKind (k : Kind) (name : List Char) : Prop where
  chars : ∀ c ∈ name, isNameChar c
  kind : Kind.ofName? name = some k

theorem isBlank_of_isNameChar {c : Char} (h : isNameChar c) : isBlank c = false := by
  have hnum : 48 ≤ c.toNat ∧ c.toNat ≤ 122 := by
    have hchar : (((c.isUpper || c.isLower) || c.isDigit) || c == '_') = true := h
    simp only [Bool.or_eq_true, beq_iff_eq] at hchar
    rcases hchar with ((h | h) | h) | h
    · have hrange := of_decide_eq_true h
      exact ⟨Nat.le_trans (by decide) hrange.1, Nat.le_trans hrange.2 (by decide)⟩
    · obtain ⟨hlo, hhi⟩ := Bool.and_eq_true_iff.mp h
      exact ⟨Nat.le_trans (by decide) (of_decide_eq_true hlo),
        Nat.le_trans (of_decide_eq_true hhi) (by decide)⟩
    · obtain ⟨hlo, hhi⟩ := Bool.and_eq_true_iff.mp h
      exact ⟨Nat.le_trans (by decide) (of_decide_eq_true hlo),
        Nat.le_trans (of_decide_eq_true hhi) (by decide)⟩
    · subst h
      decide
  have hranges : ∀ n, 48 ≤ n → n ≤ 122 → ((9 ≤ n && n ≤ 13) || n == 0x20 || n == 0x85 ||
      n == 0xA0 || n == 0x1680 || (0x2000 ≤ n && n ≤ 0x200A) || n == 0x2028 || n == 0x2029 ||
      n == 0x202F || n == 0x205F || n == 0x3000) = false := by
    intro n h1 h2
    simp only [Bool.or_eq_false_iff, Bool.and_eq_false_iff, decide_eq_false_iff_not,
      beq_eq_false_iff_ne, ne_eq]
    omega
  exact hranges c.toNat hnum.1 hnum.2

namespace NamesKind

variable {k : Kind} {name : List Char}

theorem ne_nil (h : NamesKind k name) : name ≠ [] := by
  rintro rfl
  have : Kind.ofName? [] = none := by decide
  rw [h.kind] at this
  cases this

theorem not_blank (h : NamesKind k name) {c : Char} (hc : c ∈ name) : isBlank c = false :=
  isBlank_of_isNameChar (h.chars c hc)

theorem tight (h : NamesKind k name) : Tight name :=
  tight_of_solid fun _ hc => h.not_blank hc

/-- A text that ends with a name does not end with a blank. -/
theorem last_not_blank (h : NamesKind k name) (front : List Char) :
    ∀ c, (front ++ name).getLast? = some c → isBlank c = false := by
  intro c hc
  rw [List.getLast?_append] at hc
  cases hlast : name.getLast? with
  | none => exact absurd (List.getLast?_eq_none_iff.mp hlast) h.ne_nil
  | some d =>
    rw [hlast, Option.some_or] at hc
    exact h.tight.2 c (hlast.trans hc)

/-- No name of an activity begins like the node of the parameters. -/
theorem stem_ne_params (h : NamesKind k name) : (Kind.stemOf name == paramsName) = false := by
  by_cases hp : Kind.stemOf name = paramsName
  · have hkind := h.kind
    unfold Kind.ofName? at hkind
    rw [hp] at hkind
    have : Kind.all.find? (fun k => sameLetters k.tag.toList paramsName) = none := by decide
    rw [this] at hkind
    cases hkind
  · simpa using hp

theorem not_mem {c : Char} (h : NamesKind k name) (hc : isNameChar c = false) : c ∉ name := by
  intro hmem
  rw [h.chars c hmem] at hc
  cases hc

theorem takeWhile_append (h : NamesKind k name) {rest : List Char}
    (hrest : ∀ c, rest.head? = some c → isNameChar c = false) :
    (name ++ rest).takeWhile isNameChar = name ∧ (name ++ rest).dropWhile isNameChar = rest := by
  rw [List.takeWhile_append_of_pos h.chars, List.dropWhile_append_of_pos h.chars]
  cases rest with
  | nil => simp
  | cons c rest =>
    have hc : isNameChar c = false := hrest c rfl
    simp [hc]

theorem plain (h : NamesKind k name) : Plain name := plain_of_forall (by decide) h.chars

/-- A name changes no nesting. -/
theorem afterAll_eq (h : NamesKind k name) (s : Nesting) : s.afterAll name = s := h.plain.afterAll s

theorem uncut (h : NamesKind k name) (s : Nesting) : Uncut s name :=
  uncut_of_no_dash (h.not_mem (by decide))

end NamesKind

/-- In a name and the front of a frame behind it nothing is cut. -/
theorem Frame.uncut_named {k l : Kind} {name front back : List Char} (h : Frame l front back)
    (hn : NamesKind k name) : Uncut {} (name ++ front) := by
  refine (hn.uncut _).append ?_
  rw [hn.afterAll_eq]
  exact h.uncut

/-! ## Nodes -/

theorem node_trim (text : List Char) : node (trim text) = node text := by
  unfold node
  rw [trim_trim]

/-- A name with a shape behind it is a node as the shape decides. -/
theorem node_append {k : Kind} {name rest : List Char} (hn : NamesKind k name)
    (hrest : ∀ c, rest.head? = some c → isNameChar c = false) :
    node (name ++ rest) = match expression? (some k) (trim rest) with
      | none => .error (.malformed (String.ofList (trim (name ++ rest))))
      | some e => .ok (.activity k (String.ofList name) (String.ofList e)) := by
  have htrim : trim (name ++ rest) = name ++ trimRight rest :=
    trim_append_of_tight hn.ne_nil hn.tight rest
  have hhead : ∀ c, (trimRight rest).head? = some c → isNameChar c = false := by
    intro c hc
    obtain ⟨r, hr, _, _⟩ := exists_trimRight rest
    refine hrest c ?_
    rw [hr, List.head?_append, hc]
    rfl
  obtain ⟨htake, hdrop⟩ := hn.takeWhile_append hhead
  have hempty : name.isEmpty = false := by simpa using hn.ne_nil
  unfold node
  cases he : expression? (some k) (trim rest) <;>
    simp only [htrim, htake, hdrop, hempty, hn.stem_ne_params, hn.kind, trim_trimRight, he,
      Bool.false_eq_true, if_false]

/-- A name alone is a node without an expression. -/
theorem node_name {k : Kind} {name : List Char} (hn : NamesKind k name) :
    node name = .ok (.activity k (String.ofList name) "") := by
  have hnone : ∀ c, ([] : List Char).head? = some c → isNameChar c = false := nofun
  have hnode := node_append hn hnone
  rw [List.append_nil] at hnode
  rw [hnode]
  rfl

/-- A line that begins with a name is not passed over. -/
theorem isIgnored_append {k : Kind} {name rest : List Char} (hn : NamesKind k name)
    (hrest : ∀ c, rest.head? = some c → isNameChar c = false) :
    isIgnored (name ++ rest) = false := by
  obtain ⟨n, ns, hname⟩ := List.exists_cons_of_ne_nil hn.ne_nil
  have hcomment : "%%".toList.isPrefixOf (name ++ rest) = false := by
    have hpercent : n ≠ '%' := by
      rintro rfl
      exact hn.not_mem (c := '%') (by decide) (by rw [hname]; exact List.mem_cons_self)
    rw [hname]
    simpa [List.isPrefixOf] using fun h => absurd h.symm hpercent
  have hleft : trimLeft (name ++ rest) = name ++ rest := by
    refine dropWhile_eq_self_of_head? fun c hc => ?_
    rw [hname, List.cons_append, List.head?_cons, Option.some.injEq] at hc
    exact hn.not_blank (by rw [hname, hc]; exact List.mem_cons_self)
  have hfirst : firstWord (name ++ rest) = name ++ rest.takeWhile (!isBlank ·) := by
    unfold firstWord
    rw [hleft, List.takeWhile_append_of_pos]
    intro c hc
    rw [hn.not_blank hc]
    rfl
  have hwords : ∀ word ∈ housekeeping, word.toList.all isNameChar ∧
      Kind.ofName? word.toList = none := by decide
  have hhouse : housekeeping.contains (String.ofList (firstWord (name ++ rest))) = false := by
    by_cases hmem : String.ofList (firstWord (name ++ rest)) ∈ housekeeping
    · obtain ⟨hchars, hkind⟩ := hwords _ hmem
      rw [String.toList_ofList, hfirst] at hchars hkind
      cases hword : rest.takeWhile (!isBlank ·) with
      | nil =>
        rw [hword, List.append_nil, hn.kind] at hkind
        cases hkind
      | cons c w =>
        have hhead : rest.head? = some c := by
          have hcons := (List.takeWhile_prefix (l := rest) (!isBlank ·))
          rw [hword] at hcons
          obtain ⟨t, ht⟩ := hcons
          rw [← ht]
          rfl
        have hchar := List.all_eq_true.mp hchars c (by rw [hword]; simp)
        rw [hrest c hhead] at hchar
        cases hchar
    · simpa using hmem
  unfold isIgnored
  rw [hcomment, hhouse]
  rfl

/-! ## Node lines -/

/-- The line of an activity, without the blanks around it. -/
def nodeText (a : Activity) : List Char := a.name.toList ++ (shape a).toList

/-- The line of an activity, read alone, declares it again. -/
def Legible (a : Activity) : Prop :=
  ∀ n, flowchartEntries n (trim (nodeLine a).toList) = [.declare a.kind a.name a.expression]

theorem toList_nodeLine (a : Activity) :
    (nodeLine a).toList = ' ' :: ' ' :: nodeText a ++ ['\n'] := by
  have : "  ".toList = [' ', ' '] := by decide
  simp [nodeLine, nodeText, this]

theorem shape_head {a : Activity} :
    ∀ c, (shape a).toList.head? = some c → isNameChar c = false := by
  intro c hc
  obtain ⟨d, mid, _, htext, hd, _⟩ := (shaped_shape a).exists_ends
  rw [htext, List.cons_append, List.head?_cons, Option.some.injEq] at hc
  have hmarks : ['[', '(', '\x7b', '@'].all (!isNameChar ·) := by decide
  simpa using List.all_eq_true.mp hmarks c (hc ▸ hd)

section

variable {a : Activity} (hn : NamesKind a.kind a.name.toList)

include hn

theorem tight_nodeText : Tight (nodeText a) :=
  tight_append hn.ne_nil hn.tight (shaped_shape a).tight.2

theorem trim_nodeLine : trim (nodeLine a).toList = nodeText a := by
  have := trim_of_tight (l := [' ', ' ']) (r := ['\n']) (by decide) (tight_nodeText hn) (by decide)
  rw [toList_nodeLine]
  exact this

theorem isIgnored_nodeText : isIgnored (nodeText a) = false := isIgnored_append hn shape_head

theorem node_nodeText : node (nodeText a) = match expression? (some a.kind) (shape a).toList with
    | none => .error (.malformed (String.ofList (nodeText a)))
    | some e => .ok (.activity a.kind a.name (String.ofList e)) := by
  have hnode := node_append hn (shape_head (a := a))
  have htrim := (tight_nodeText hn).trim_eq
  unfold nodeText at htrim
  rw [(shaped_shape a).tight.trim_eq, htrim, String.ofList_toList] at hnode
  exact hnode

/-- A node's line is left whole exactly if no arrow in its expression stands outside of the
brackets and quotes that are written around the expression. -/
theorem segments_nodeText_iff : segments (nodeText a) = [nodeText a] ↔
    ¬ LooseArrow { depth := (openers a.kind).length, quoted := true } a.expression.toList := by
  rcases (shaped_shape a).exists_frame with ⟨he, htext⟩ | ⟨front, back, hframe, htext⟩
  · refine iff_of_true (segmentsFrom_of_uncut ((hn.uncut _).append ?_)) ?_
    · rw [hn.afterAll_eq]
      exact (by decide : ∀ text ∈ plainShapes, Uncut {} text) _ htext
    · rw [he]
      rintro ⟨p, q, hnil, _⟩
      simp [arrow] at hnil
  · have huncut := hframe.uncut_named hn
    have hline : nodeText a = a.name.toList ++ front ++ (a.expression.toList ++ back) := by
      simp [nodeText, htext]
    have hnesting : Nesting.afterAll {} (a.name.toList ++ front) =
        { depth := (openers a.kind).length, quoted := true } := by
      rw [Nesting.afterAll_append, hn.afterAll_eq, hframe.nesting]
    rw [segments, hline, segmentsFrom_append_eq_iff huncut, hnesting, segmentsFrom_eq_iff,
      looseArrow_append_iff hframe.no_arrow]

end

/-! ## Entries of a line -/

theorem splitLabel_of_head {s : List Char} (h : s.head? ≠ some '|') : splitLabel s = (none, s) := by
  unfold splitLabel
  split
  · exact absurd rfl h
  · rfl

/-- In front of a name there is no label. -/
theorem splitLabel_named {k : Kind} {name : List Char} (hn : NamesKind k name) (rest : List Char) :
    splitLabel (name ++ rest) = (none, name ++ rest) := by
  obtain ⟨c, cs, rfl⟩ := List.exists_cons_of_ne_nil hn.ne_nil
  refine splitLabel_of_head fun hc => hn.not_mem (c := '|') (by decide) ?_
  rw [List.cons_append, List.head?_cons, Option.some.injEq] at hc
  rw [hc]
  exact List.mem_cons_self

theorem whole_of_segments {line only : List Char} (h : segments line = [only]) : only = line := by
  have hjoin := joinWith_segmentsFrom {} line
  change joinWith arrow (segments line) = line at hjoin
  rw [h] at hjoin
  exact hjoin

/-- The edges of a line add edges, or a fault. -/
theorem of_mem_connectChain {n : Nat} {nodes : List (Option (List Char) × String)} {e : Entry}
    (h : e ∈ connectChain n nodes) : (∃ f, e = .fault f) ∨ ∃ s t b, e = .connect s t b := by
  fun_induction connectChain n nodes with
  | case1 => exact Or.inl ⟨_, List.mem_singleton.mp h⟩
  | case2 _ source _ target _ _ branch _ ih =>
    rcases List.mem_cons.mp h with rfl | h
    · exact Or.inr ⟨source, target, branch, rfl⟩
    · exact ih h
  | case3 => cases h

theorem length_declareChain {n : Nat} {line : String} {first : Bool} {segs : List (List Char)}
    {nodes : List (Option (List Char) × String)}
    (h : (declareChain n line first segs).outcome = .ok nodes) : nodes.length = segs.length := by
  induction segs generalizing first nodes with
  | nil =>
    cases h
    rfl
  | cons seg segs ih =>
    rw [declareChain] at h
    dsimp only at h
    split at h
    · cases h
    · split at h
      · cases h
      · cases h
      · cases hrest : (declareChain n line false segs).outcome with
        | error f =>
          rw [hrest] at h
          cases h
        | ok rest =>
          rw [hrest] at h
          cases h
          rw [List.length_cons, List.length_cons, ih hrest]

theorem entries_of_whole {line : List Char} (hi : isIgnored line = false)
    (hs : segments line = [line]) (n : Nat) : flowchartEntries n line = match node line with
      | .error f => [.fault (.ofNode n f)]
      | .ok nd => (nodeEntries nd).1 := by
  simp only [flowchartEntries, hi, hs]
  cases node line <;> rfl

/-- A line that is cut declares more than one node, or not all of them. -/
theorem exists_of_cut {line : List Char} (hi : isIgnored line = false)
    (hs : 2 ≤ (segments line).length) (n : Nat) : ∃ e ∈ flowchartEntries n line,
      (∃ f, e = .fault f) ∨ ∃ s t b, e = .connect s t b := by
  unfold flowchartEntries
  rw [hi, if_neg (by decide)]
  split
  · next only hsegs =>
    simp [hsegs] at hs
  · dsimp only
    split
    · next f _ =>
      exact ⟨.fault f, List.mem_append_right _ (List.mem_singleton_self _), Or.inl ⟨f, rfl⟩⟩
    · next nodes hnodes =>
      rw [← length_declareChain hnodes] at hs
      have hne : connectChain n nodes ≠ [] := by
        match nodes, hs with
        | (l, source) :: (label, target) :: rest, _ =>
          rw [connectChain]
          split <;> exact List.cons_ne_nil _ _
      obtain ⟨e, es, hcons⟩ := List.exists_cons_of_ne_nil hne
      have hmem : e ∈ connectChain n nodes := by rw [hcons]; exact List.mem_cons_self
      exact ⟨e, List.mem_append_right _ hmem, of_mem_connectChain hmem⟩

/-! ## Legible lines -/

/-- An expression that comes back from the line it is written in: its shape carries it, and no
arrow of it stands outside of the brackets and quotes around it. -/
structure Survives (k : Kind) (e : List Char) : Prop extends Carried k e where
  arrows : ¬ LooseArrow { depth := (openers k).length, quoted := true } e

instance (k : Kind) (e : List Char) : Decidable (Survives k e) :=
  decidable_of_iff (Carried k e ∧
      ¬ LooseArrow { depth := (openers k).length, quoted := true } e)
    ⟨fun h => { toCarried := h.1, arrows := h.2 }, fun h => ⟨h.toCarried, h.arrows⟩⟩

/-- Without quotes nothing but a label can be lost. -/
theorem survives_of_no_quote {k : Kind} {e : List Char} (hq : '"' ∉ e)
    (hlabel : isLabelled k = false → ¬ BeginsWithLabel k e) : Survives k e where
  toCarried := carried_of_no_quote hq hlabel
  arrows := not_looseArrow_of_quoted rfl hq

theorem legible_of_read {a : Activity} (hn : NamesKind a.kind a.name.toList)
    (hs : segments (nodeText a) = [nodeText a])
    (he : expression? (some a.kind) (shape a).toList = some a.expression.toList) : Legible a := by
  intro n
  rw [trim_nodeLine hn, entries_of_whole (isIgnored_nodeText hn) hs, node_nodeText hn, he]
  simp [nodeEntries]

/-- A node's line declares its activity again exactly if the expression survives. -/
theorem legible_iff_survives {a : Activity} (hn : NamesKind a.kind a.name.toList)
    (ht : Tight a.expression.toList) : Legible a ↔ Survives a.kind a.expression.toList := by
  constructor
  · intro h
    have hline := h 0
    rw [trim_nodeLine hn] at hline
    have hs : segments (nodeText a) = [nodeText a] := by
      refine segmentsFrom_eq_iff.mpr fun hloose => ?_
      obtain ⟨e, hmem, he⟩ := exists_of_cut (isIgnored_nodeText hn) hloose.cuts 0
      rw [hline, List.mem_singleton] at hmem
      subst hmem
      rcases he with ⟨f, hf⟩ | ⟨s, t, b, hc⟩
      · cases hf
      · cases hc
    rw [entries_of_whole (isIgnored_nodeText hn) hs, node_nodeText hn] at hline
    cases hread : expression? (some a.kind) (shape a).toList with
    | none =>
      rw [hread] at hline
      cases hline
    | some e =>
      rw [hread] at hline
      simp only [nodeEntries, List.cons.injEq, Entry.declare.injEq, and_true, true_and] at hline
      rw [← String.toList_ofList (l := e), hline] at hread
      exact { toCarried := ((shaped_shape a).expression?_iff ht).mp hread
              arrows := (segments_nodeText_iff hn).mp hs }
  · intro h
    exact legible_of_read hn ((segments_nodeText_iff hn).mpr h.arrows)
      (((shaped_shape a).expression?_iff ht).mpr h.toCarried)

example : Survives .prompt "say \"hi --> \" twice".toList := by decide

example : ¬ Survives .check "Check: x".toList := by decide

example : ¬ Survives .set "a]\"[b".toList := by decide

end Playbook.Flowchart
