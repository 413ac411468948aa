/-
  The shapes of nodes. Whatever a shape carries stands inside of it (`expression?_infix`), and what
  is peeled off it are brackets and one pair of quotes.
-/
import Playbook.Proofs.Workflow.Brackets
import Playbook.Workflow.Writing

namespace Playbook.Flowchart

open Playbook.Text

/-! ## Closing brackets -/

theorem close_behind {cl c : Char} {i j : Nat} {cs : List Char}
    (h : ∃ pre post, cs = pre ++ cl :: post ∧ j = i + 1 + pre.length) :
    ∃ pre post, c :: cs = pre ++ cl :: post ∧ j = i + pre.length := by
  obtain ⟨pre, post, rfl, hj⟩ := h
  exact ⟨c :: pre, post, rfl, by rw [hj, List.length_cons]; omega⟩

/-- The position that is found holds the closing bracket. -/
theorem closeFrom_eq_some {op cl : Char} {depth i j : Nat} {quoted : Bool} {cs : List Char}
    (h : closeFrom op cl depth quoted i cs = some j) :
    ∃ pre post, cs = pre ++ cl :: post ∧ j = i + pre.length := by
  induction cs generalizing depth i quoted with
  | nil => simp [closeFrom] at h
  | cons c cs ih =>
    rw [closeFrom] at h
    split at h
    · exact close_behind (ih h)
    · split at h
      · exact close_behind (ih h)
      · split at h
        · next hcl =>
          split at h
          · refine ⟨[], cs, ?_, by simpa using h.symm⟩
            simp_all
          · exact close_behind (ih h)
        · exact close_behind (ih h)

/-- A bracketed text begins with a bracket and ends with the one that closes it. -/
theorem exists_of_isBracketed {cs : List Char} (h : isBracketed cs) :
    ∃ op cl mid, closer? op = some cl ∧ cs = op :: mid ++ [cl] := by
  unfold isBracketed at h
  cases hi : matchingClose? cs with
  | none => simp [hi] at h
  | some i =>
    simp only [hi, Bool.and_eq_true, beq_iff_eq, decide_eq_true_eq] at h
    cases cs with
    | nil => simp [matchingClose?] at hi
    | cons op rest =>
      rw [matchingClose?] at hi
      cases hcl : closer? op with
      | none => simp [hcl] at hi
      | some cl =>
        simp only [hcl] at hi
        obtain ⟨pre, post, hsplit, hpre⟩ := closeFrom_eq_some hi
        have hlen : post = [] := by
          have := congrArg List.length hsplit
          simp only [List.length_append, List.length_cons] at this h
          exact List.eq_nil_of_length_eq_zero (by omega)
        subst hlen
        cases pre with
        | nil =>
          have := congrArg List.length hsplit
          simp only [List.nil_append, List.length_cons, List.length_nil] at this h
          omega
        | cons p pre =>
          obtain ⟨rfl, hmid⟩ := List.cons.inj hsplit
          exact ⟨op, cl, pre, hcl, by rw [hmid]; rfl⟩

theorem exists_of_isQuoted {cs : List Char} (h : isQuoted cs) :
    ∃ mid, cs = '"' :: mid ++ ['"'] := by
  simp only [isQuoted, Bool.and_eq_true, decide_eq_true_eq, beq_iff_eq] at h
  obtain ⟨⟨hlen, hhead⟩, hlast⟩ := h
  cases cs with
  | nil => simp at hhead
  | cons c rest =>
    rw [List.head?_cons, Option.some.injEq] at hhead
    have hne : rest ≠ [] := by
      rintro rfl
      simp at hlen
    obtain ⟨mid, d, rfl⟩ := List.eq_nil_or_concat rest |>.resolve_left hne
    rw [List.concat_eq_append, ← List.cons_append, List.getLast?_concat, Option.some.injEq]
      at hlast
    exact ⟨mid, by rw [hhead, hlast, List.concat_eq_append, List.cons_append]⟩

/-! ## Peeling -/

/-- A text between double quotes. -/
def quoted (t : List Char) : List Char := '"' :: t ++ ['"']

theorem inside_between (a b : Char) (mid : List Char) : inside (a :: mid ++ [b]) = trim mid := by
  simp [inside]

theorem peel_of_isQuoted {cs : List Char} (h : isQuoted cs) : peel cs = inside cs := by
  rw [peel, if_pos h]

theorem peel_of_isBracketed {cs : List Char} (h : isBracketed cs) : peel cs = peel (inside cs) := by
  have hquoted : isQuoted cs = false := by
    obtain ⟨op, cl, mid, hcl, rfl⟩ := exists_of_isBracketed h
    simp [isQuoted, (closer?_ne_quote hcl).1]
  rw [peel, hquoted]
  simp [h]

theorem peel_of_bare {cs : List Char} (hq : isQuoted cs = false) (hb : isBracketed cs = false) :
    peel cs = cs := by
  rw [peel]
  simp [hq, hb]

/-- Quotes around a text are peeled off. -/
theorem peel_quotes (t : List Char) : peel (quoted t) = trim t := by
  unfold quoted
  have hlast : ('"' :: t ++ ['"']).getLast? = some '"' := List.getLast?_concat
  rw [peel_of_isQuoted, inside_between]
  unfold isQuoted
  rw [hlast]
  simp

/-- What is peeled off stands on both sides. -/
theorem peel_infix (cs : List Char) :
    peel cs = cs ∨ ∃ l r, l ≠ [] ∧ r ≠ [] ∧ cs = l ++ peel cs ++ r := by
  have hinside : ∀ (a b : Char) (mid : List Char), ∃ l r,
      a :: mid ++ [b] = (a :: l) ++ inside (a :: mid ++ [b]) ++ (r ++ [b]) := by
    intro a b mid
    obtain ⟨l, r, hmid, _, _⟩ := exists_trim mid
    refine ⟨l, r, ?_⟩
    rw [inside_between]
    conv => lhs; rw [hmid]
    simp
  induction hn : cs.length using Nat.strongRecOn generalizing cs with
  | _ n ih =>
    by_cases hb : isBracketed cs
    · obtain ⟨op, cl, mid, _, rfl⟩ := exists_of_isBracketed hb
      obtain ⟨l, r, hcs⟩ := hinside op cl mid
      rw [peel_of_isBracketed hb]
      have hshort : (inside (op :: mid ++ [cl])).length < n := by
        have := length_inside_le (op :: mid ++ [cl])
        simp only [List.length_append, List.length_cons, List.length_nil] at this hn
        omega
      right
      rcases ih _ hshort (inside (op :: mid ++ [cl])) rfl with hsame | ⟨l', r', _, _, hin⟩
      · exact ⟨op :: l, r ++ [cl], by simp, by simp, by rw [hsame]; exact hcs⟩
      · refine ⟨op :: l ++ l', r' ++ (r ++ [cl]), by simp, by simp, ?_⟩
        conv => lhs; rw [hcs, hin]
        simp
    · by_cases hq : isQuoted cs
      · right
        rw [peel_of_isQuoted hq]
        obtain ⟨mid, rfl⟩ := exists_of_isQuoted hq
        obtain ⟨l, r, hcs⟩ := hinside '"' '"' mid
        exact ⟨'"' :: l, r ++ ['"'], by simp, by simp, hcs⟩
      · exact Or.inl (peel_of_bare (by simpa using hq) (by simpa using hb))

/-! ## Labels -/

theorem afterKindLabel?_infix {k : Kind} {cs e : List Char} (h : afterKindLabel? k cs = some e) :
    ∃ l r, l ≠ [] ∧ cs = l ++ e ++ r := by
  unfold afterKindLabel? at h
  split at h
  · next before rest hsplit =>
    split at h
    · obtain ⟨l, r, hrest, _, _⟩ := exists_trim rest
      rw [Option.some.injEq] at h
      refine ⟨before ++ ':' :: l, r, by simp, ?_⟩
      rw [(splitOnce_eq_some hsplit).1, ← h]
      conv => lhs; rw [hrest]
      simp
    · cases h
  · cases h

/-- A text that begins with the label of a kind, in any letter case, and a colon. -/
def BeginsWithLabel (k : Kind) (cs : List Char) : Prop :=
  ∃ before rest, cs = before ++ ':' :: rest ∧ sameLetters (trim before) k.label.toList

/-- A label is taken off exactly if the text begins with one. -/
theorem afterKindLabel?_isSome_iff {k : Kind} {cs : List Char} :
    (afterKindLabel? k cs).isSome ↔ BeginsWithLabel k cs := by
  unfold afterKindLabel?
  constructor
  · intro h
    split at h
    · next before rest hsplit =>
      split at h
      · next hsame => exact ⟨before, rest, (splitOnce_eq_some hsplit).1, hsame⟩
      · cases h
    · cases h
  · rintro ⟨before, rest, rfl, hsame⟩
    have hcolon : ':' ∉ before := by
      intro hmem
      obtain ⟨l, r, hbefore, hl, hr⟩ := exists_trim before
      have hlabel : ':' ∉ lowerAscii k.label.toList := by cases k <;> decide
      have hblank : ∀ x, isAllBlank x → ':' ∉ x := fun x hx hc =>
        absurd (List.all_eq_true.mp hx ':' hc) (by decide)
      rw [hbefore, List.mem_append, List.mem_append] at hmem
      rcases hmem with (hmem | hmem) | hmem
      · exact hblank l hl hmem
      · refine hlabel ?_
        have hlower : lowerAscii (trim before) = lowerAscii k.label.toList := by
          simpa [sameLetters] using hsame
        rw [← hlower]
        exact List.mem_map.mpr ⟨':', hmem, rfl⟩
      · exact hblank r hr hmem
    rw [splitOnce_append hcolon]
    simp [hsame]

instance (k : Kind) (cs : List Char) : Decidable (BeginsWithLabel k cs) :=
  decidable_of_iff _ afterKindLabel?_isSome_iff

/-- No label begins with a bracket. -/
theorem afterKindLabel?_bracket (k : Kind) (cs : List Char) :
    afterKindLabel? k ('[' :: cs) = none := by
  cases h : afterKindLabel? k ('[' :: cs) with
  | none => rfl
  | some e =>
    obtain ⟨before, rest, hcs, hsame⟩ := afterKindLabel?_isSome_iff.mp (by rw [h]; rfl)
    cases before with
    | nil => cases hcs
    | cons c before =>
      obtain ⟨rfl, _⟩ := List.cons.inj hcs
      have htrim := trim_append_of_tight (List.cons_ne_nil '[' []) (by decide) before
      rw [List.singleton_append] at htrim
      have hhead : (lowerAscii k.label.toList).head? ≠ some '[' := by cases k <;> decide
      simp only [sameLetters, beq_iff_eq] at hsame
      rw [← hsame, htrim] at hhead
      exact absurd rfl hhead

/-- A label that was written is taken off again. -/
theorem afterKindLabel?_labelled (k : Kind) {e : List Char} (he : Tight e) :
    afterKindLabel? k (trim (k.label.toList ++ ':' :: ' ' :: e)) = some e := by
  have hcolon : ':' ∉ k.label.toList := by cases k <;> decide
  have htight : Tight k.label.toList := by cases k <;> decide
  have hmark : Tight (k.label.toList ++ [':']) := by cases k <;> decide
  have htrim : trim (k.label.toList ++ ':' :: ' ' :: e) =
      k.label.toList ++ ':' :: trimRight (' ' :: e) := by
    have := trim_append_of_tight (by simp) hmark (' ' :: e)
    rwa [List.append_assoc, List.append_assoc] at this
  have hrest : trim (trimRight (' ' :: e)) = e := by
    rw [trim_trimRight, ← List.singleton_append, trim_blank_append (by decide), he.trim_eq]
  unfold afterKindLabel?
  rw [htrim, splitOnce_append hcolon]
  simp [htight.trim_eq, hrest, sameLetters]

/-! ## Attributes -/

theorem quotedStart?_eq_some {cs t : List Char} (h : quotedStart? cs = some t) :
    '"' ∉ t ∧ t.length + 2 ≤ cs.length ∧ ∀ c ∈ t, c ∈ cs := by
  unfold quotedStart? at h
  split at h
  · next rest hcs =>
    obtain ⟨⟨a, b⟩, hsplit, rfl⟩ := Option.map_eq_some_iff.mp h
    obtain ⟨hrest, hquote⟩ := splitOnce_eq_some hsplit
    have hlen := length_dropWhile_le isBlank cs
    change (trimLeft cs).length ≤ cs.length at hlen
    rw [hcs, hrest] at hlen
    simp only [List.length_cons, List.length_append] at hlen
    refine ⟨hquote, by dsimp only; omega, fun c hc => ?_⟩
    refine List.dropWhile_subset isBlank (l := cs) ?_
    change c ∈ trimLeft cs
    rw [hcs, hrest]
    exact List.mem_cons_of_mem _ (List.mem_append_left _ hc)
  · cases h

theorem labelAttribute?_eq_some {cs t : List Char} (h : labelAttribute? cs = some t) :
    '"' ∉ t ∧ t.length + 2 ≤ cs.length ∧ ∀ c ∈ t, c ∈ cs := by
  induction cs with
  | nil => simp [labelAttribute?] at h
  | cons c cs ih =>
    rw [labelAttribute?] at h
    split at h
    · next text htext =>
      obtain ⟨rest, hdrop, hstart⟩ := Option.bind_eq_some_iff.mp htext
      rw [Option.some.injEq] at h
      subst h
      obtain ⟨hquote, hlen, hsub⟩ := quotedStart?_eq_some hstart
      have hcs := dropStart?_eq_some hdrop
      have := congrArg List.length hcs
      rw [List.length_append] at this
      refine ⟨hquote, by omega, fun x hx => ?_⟩
      rw [hcs]
      exact List.mem_append_right _ (hsub x hx)
    · obtain ⟨hquote, hlen, hsub⟩ := ih h
      refine ⟨hquote, ?_, fun x hx => List.mem_cons_of_mem _ (hsub x hx)⟩
      rw [List.length_cons]
      omega

/-! ## Expressions -/

/-- The expression of attributes comes from between two quotes. -/
theorem expression?_attributes {k : Kind} {attributes e : List Char}
    (h : expression? (some k) ('@' :: attributes) = some e) :
    '"' ∉ e ∧ e.length ≤ attributes.length := by
  have hlabel : '"' ∉ (labelAttribute? attributes).getD [] ∧
      ((labelAttribute? attributes).getD []).length ≤ attributes.length := by
    cases hl : labelAttribute? attributes with
    | none => simp
    | some t =>
      obtain ⟨hquote, hlen, _⟩ := labelAttribute?_eq_some hl
      exact ⟨hquote, by rw [Option.getD_some]; omega⟩
  simp only [expression?, Option.some.injEq] at h
  cases hafter : afterKindLabel? k (trim ((labelAttribute? attributes).getD [])) with
  | none =>
    rw [hafter] at h
    simp [← h]
  | some e' =>
    rw [hafter, Option.getD_some] at h
    subst h
    obtain ⟨l, r, _, hin⟩ := afterKindLabel?_infix hafter
    have hmem : ∀ c ∈ e', c ∈ (labelAttribute? attributes).getD [] := fun c hc =>
      mem_of_mem_trim (by rw [hin]; simp [hc])
    have hlen := congrArg List.length hin
    have htrim := length_trim_le ((labelAttribute? attributes).getD [])
    simp only [List.length_append] at hlen
    exact ⟨fun hc => hlabel.1 (hmem _ hc), by omega⟩

/-- The expression of any other shape stands inside of its first and last character. -/
theorem expression?_infix {k : Kind} {op : Char} {rest e : List Char} (hop : op ≠ '@')
    (h : expression? (some k) (op :: rest) = some e) :
    ∃ l r, l ≠ [] ∧ r ≠ [] ∧ op :: rest = l ++ e ++ r := by
  rw [expression?] at h
  · split at h
    · cases h
    · next hlen =>
      rcases peel_infix (op :: rest) with hsame | ⟨l, r, hl, hr, hin⟩
      · exact absurd (by rw [hsame]; simp) hlen
      · rw [Option.some.injEq] at h
        cases hafter : afterKindLabel? k (peel (op :: rest)) with
        | none =>
          rw [hafter, Option.getD_none] at h
          exact ⟨l, r, hl, hr, by rw [← h]; exact hin⟩
        | some e' =>
          rw [hafter, Option.getD_some] at h
          subst h
          obtain ⟨l', r', _, hin'⟩ := afterKindLabel?_infix hafter
          refine ⟨l ++ l', r' ++ r, by simp [hl], by simp [hr], ?_⟩
          rw [hin, hin']
          simp
  · simp
  · exact fun attributes hc => hop (List.cons.inj hc).1

/-- A shape that begins with a bracket holds the one that closes it. -/
theorem mem_of_expression?_isSome {k : Kind} {op cl : Char} {rest : List Char}
    (hcl : closer? op = some cl) (h : (expression? (some k) (op :: rest)).isSome) :
    cl ∈ rest := by
  have hop : op ≠ '@' := by
    rintro rfl
    simp [closer?] at hcl
  have hquoted : isQuoted (op :: rest) = false := by
    simp [isQuoted, (closer?_ne_quote hcl).1]
  by_cases hb : isBracketed (op :: rest)
  · obtain ⟨op', cl', mid, hcl', hcs⟩ := exists_of_isBracketed hb
    obtain ⟨rfl, hrest⟩ := List.cons.inj hcs
    rw [hcl, Option.some.injEq] at hcl'
    rw [hrest, hcl']
    simp
  · rw [expression?, peel_of_bare hquoted (by simpa using hb)] at h
    · simp at h
    · simp
    · exact fun attributes hc => hop (List.cons.inj hc).1

/-- A shape that begins with a bracket but is not bracketed carries nothing. -/
theorem expression?_of_open {k : Kind} {op : Char} {rest : List Char} (hop : op ≠ '@' ∧ op ≠ '"')
    (h : isBracketed (op :: rest) = false) : expression? (some k) (op :: rest) = none := by
  have hquoted : isQuoted (op :: rest) = false := by simp [isQuoted, hop.2]
  rw [expression?, peel_of_bare hquoted h]
  · simp
  · simp
  · exact fun attributes hc => hop.1 (List.cons.inj hc).1

end Playbook.Flowchart
