/-
  Reading the shapes that are written for activities. A shape is read as the expression that was
  written exactly if the expression's quotes and brackets leave the frame around it as it is, and
  if no label of its own gets lost (`Shaped.expression?_iff`).
-/
import Playbook.Proofs.Workflow.WrittenShapes

namespace Playbook.Flowchart

open Playbook.Text

/-! ## Carried expressions -/

/-- An expression that its shape carries: its quotes are paired (there are none where it is an
attribute), what stands outside of them closes its brackets and no others, and it does not begin
with a label that is taken off. -/
structure Carried (k : Kind) (e : List Char) : Prop where
  quotes : quotedAfter true e = true
  unquoted : k = .ask → '"' ∉ e
  brackets : ∀ op ∈ openers k, ∀ cl ∈ closer? op, openAfter op cl 1 (outside true e) = some 1
  label : isLabelled k = false → ¬ BeginsWithLabel k e

instance (k : Kind) (e : List Char) : Decidable (Carried k e) :=
  decidable_of_iff (quotedAfter true e = true ∧ (k = .ask → '"' ∉ e) ∧
      ((openers k).all fun op => (closer? op).all fun cl =>
        openAfter op cl 1 (outside true e) == some 1) ∧
      (isLabelled k = false → ¬ BeginsWithLabel k e))
    ⟨fun ⟨quotes, unquoted, brackets, label⟩ =>
        { quotes, unquoted, label, brackets := by simpa [Option.all_eq_true] using brackets },
      fun h => ⟨h.quotes, h.unquoted, by simpa [Option.all_eq_true] using h.brackets, h.label⟩⟩

/-- Without quotes nothing but a label can be lost. -/
theorem carried_of_no_quote {k : Kind} {e : List Char} (hq : '"' ∉ e)
    (hlabel : isLabelled k = false → ¬ BeginsWithLabel k e) : Carried k e where
  quotes := quotedAfter_of_no_quote hq true
  unquoted := fun _ => hq
  brackets := fun op _ cl _ => by rw [outside_of_no_quote hq, openAfter]
  label := hlabel

/-! ## Quoted texts -/

theorem length_quoted (t : List Char) : (quoted t).length = t.length + 2 := by simp [quoted]

theorem quotedAfter_quoted (t : List Char) :
    quotedAfter false (quoted t) = !quotedAfter true t := by
  have hsplit : quoted t = ['"'] ++ t ++ ['"'] := rfl
  rw [hsplit, quotedAfter_append, quotedAfter_append]
  rfl

theorem outside_quoted (t : List Char) : outside false (quoted t) = outside true t := by
  have hsplit : quoted t = ['"'] ++ t ++ ['"'] := rfl
  have hquote : ∀ q, outside q ['"'] = [] := by decide
  have hopen : quotedAfter false ['"'] = true := rfl
  rw [hsplit, outside_append, outside_append, hquote, hquote, hopen, List.append_nil,
    List.nil_append]

/-- A label in front of an expression changes nothing of its quotes and brackets. -/
theorem quotedAfter_labelledText (k : Kind) (e : List Char) :
    quotedAfter true (labelledText k e) = quotedAfter true e ∧
      outside true (labelledText k e) = outside true e := by
  have hfront : '"' ∉ k.label.toList ++ [':', ' '] := by
    simp [not_mem_label (c := '"') (by decide) k]
  have hsplit : labelledText k e = k.label.toList ++ [':', ' '] ++ e := by simp [labelledText]
  rw [hsplit, quotedAfter_append, outside_append, quotedAfter_of_no_quote hfront,
    outside_of_no_quote hfront]
  exact ⟨rfl, rfl⟩

/-- Quotes in brackets are bracketed exactly if the quotes and brackets between them are paired. -/
theorem isBracketed_quoted_iff {op cl : Char} (h : closer? op = some cl) (t : List Char) :
    isBracketed (op :: quoted t ++ [cl]) ↔
      quotedAfter true t = true ∧ openAfter op cl 1 (outside true t) = some 1 := by
  rw [isBracketed_iff h, quotedAfter_quoted, outside_quoted]
  simp

/-- A second bracket around a square one is closed at the end if the text between them leaves it
open. -/
theorem isBracketed_boxed_iff {op cl : Char} (h : closer? op = some cl) (t : List Char) :
    isBracketed (op :: ('[' :: quoted t ++ [']']) ++ [cl]) ↔
      quotedAfter true t = true ∧ openAfter op cl 1 ('[' :: outside true t ++ [']']) = some 1 := by
  have hsplit : '[' :: quoted t ++ [']'] = ['['] ++ quoted t ++ [']'] := rfl
  have hopen : quotedAfter false ['['] = false := rfl
  rw [isBracketed_iff h, hsplit, quotedAfter_append, quotedAfter_append, outside_append,
    outside_append, quotedAfter_append, hopen, quotedAfter_quoted, outside_quoted]
  cases quotedAfter true t with
  | true => exact and_congr (by decide) Iff.rfl
  | false => exact iff_of_false (fun hc => absurd hc.1 (by decide)) nofun

/-! ## Peeling shapes -/

/-- A shape without attributes whose brackets and quotes are peeled off. -/
theorem expression?_of_peel {k : Kind} {text t : List Char} (hne : text ≠ [])
    (hat : text.head? ≠ some '@') (hpeel : peel text = t) (hlen : t.length ≠ text.length) :
    expression? (some k) text = some ((afterKindLabel? k t).getD t) := by
  rw [expression?]
  · rw [hpeel]
    simp [hlen]
  · exact hne
  · rintro attributes rfl
    exact hat rfl

theorem ne_of_closer? {op cl : Char} (h : closer? op = some cl) : op ≠ '@' ∧ op ≠ '"' := by
  refine ⟨?_, (closer?_ne_quote h).1⟩
  rintro rfl
  cases h

theorem inside_quoted (op cl : Char) (t : List Char) :
    inside (op :: quoted t ++ [cl]) = quoted t := by
  rw [inside_between]
  exact (tight_between (by decide) (by decide) t).trim_eq

theorem inside_boxed (op cl : Char) (t : List Char) :
    inside (op :: ('[' :: quoted t ++ [']']) ++ [cl]) = '[' :: quoted t ++ [']'] := by
  rw [inside_between]
  exact (tight_between (by decide) (by decide) (quoted t)).trim_eq

section

variable {k : Kind} {op cl : Char} (h : closer? op = some cl) (t : List Char)

include h

theorem expression?_open {mid : List Char} (hb : isBracketed (op :: mid ++ [cl]) = false) :
    expression? (some k) (op :: mid ++ [cl]) = none :=
  expression?_of_open (ne_of_closer? h) hb

/-- Quotes in brackets are read as what stands between them, without a label. -/
theorem expression?_bracketed (hb : isBracketed (op :: quoted t ++ [cl])) :
    expression? (some k) (op :: quoted t ++ [cl]) =
      some ((afterKindLabel? k (trim t)).getD (trim t)) := by
  have htrim := length_trim_le t
  refine expression?_of_peel (by simp) ?_ ?_ ?_
  · simpa using (ne_of_closer? h).1
  · rw [peel_of_isBracketed hb, inside_quoted, peel_quotes]
  · simp only [length_quoted, List.length_append, List.length_cons]
    omega

/-- Quotes in two brackets are read as what stands between them, or as the whole inner box if that
is not bracketed. -/
theorem expression?_boxed (hb : isBracketed (op :: ('[' :: quoted t ++ [']']) ++ [cl])) :
    expression? (some k) (op :: ('[' :: quoted t ++ [']']) ++ [cl]) =
      if isBracketed ('[' :: quoted t ++ [']']) then
        some ((afterKindLabel? k (trim t)).getD (trim t))
      else some ('[' :: quoted t ++ [']']) := by
  have htrim := length_trim_le t
  have hhead : (op :: ('[' :: quoted t ++ [']']) ++ [cl]).head? ≠ some '@' := by
    simpa using (ne_of_closer? h).1
  split
  · next hbox =>
    refine expression?_of_peel (by simp) hhead ?_ ?_
    · rw [peel_of_isBracketed hb, inside_boxed, peel_of_isBracketed hbox, inside_quoted,
        peel_quotes]
    · simp only [length_quoted, List.length_append, List.length_cons]
      omega
  · next hbox =>
    have hpeel : peel ('[' :: quoted t ++ [']']) = '[' :: quoted t ++ [']'] :=
      peel_of_bare (by simp [isQuoted]) (by simpa using hbox)
    rw [expression?_of_peel (t := '[' :: quoted t ++ [']']) (by simp) hhead]
    · exact congrArg some (by rw [List.cons_append, afterKindLabel?_bracket]; rfl)
    · rw [peel_of_isBracketed hb, inside_boxed, hpeel]
    · simp only [length_quoted, List.length_append, List.length_cons]
      omega

end

/-! ## Attributes -/

theorem labelAttribute?_label {t : List Char} (ht : '"' ∉ t) (rest : List Char) :
    labelAttribute? ("label: ".toList ++ (quoted t ++ rest)) = some t := by
  have hquoted : quotedStart? (' ' :: (quoted t ++ rest)) = some t := by
    have htrim : trimLeft (' ' :: (quoted t ++ rest)) = '"' :: (t ++ '"' :: rest) := by
      have : quoted t ++ rest = '"' :: (t ++ '"' :: rest) := by simp [quoted]
      rw [this]
      rfl
    simp only [quotedStart?, htrim, splitOnce_append ht, Option.map_some]
  have hcons : ∃ c cs, "label: ".toList ++ (quoted t ++ rest) = c :: cs ∧
      dropStart? "label:".toList (c :: cs) = some (' ' :: (quoted t ++ rest)) := ⟨_, _, rfl, rfl⟩
  obtain ⟨c, cs, hcs, hdrop⟩ := hcons
  rw [hcs, labelAttribute?, hdrop, Option.bind_some, hquoted]

theorem labelAttribute?_input {t : List Char} (ht : '"' ∉ t) (rest : List Char) :
    labelAttribute? (inputStart.tail ++ (quoted t ++ rest)) = some t := by
  have hskip : ∀ X, labelAttribute? (inputStart.tail ++ X) =
      labelAttribute? ("label: ".toList ++ X) := fun X => rfl
  rw [hskip, labelAttribute?_label ht]

/-! ## Reading shapes -/

section

variable {k : Kind} {e : List Char} (ht : Tight e)

include ht

/-- The label in front of an expression is taken off, and nothing else. -/
theorem read_labelled :
    (afterKindLabel? k (trim (labelledText k e))).getD (trim (labelledText k e)) = e := by
  rw [labelledText, afterKindLabel?_labelled k ht]
  rfl

/-- An expression without a label in front is kept exactly if it does not begin with one. -/
theorem read_bare_iff : (afterKindLabel? k (trim e)).getD (trim e) = e ↔ ¬ BeginsWithLabel k e := by
  rw [ht.trim_eq, ← afterKindLabel?_isSome_iff]
  cases h : afterKindLabel? k e with
  | none => simp
  | some e' =>
    obtain ⟨l, r, hl, hin⟩ := afterKindLabel?_infix h
    have hpos := List.length_pos_iff.mpr hl
    have hlen := congrArg List.length hin
    simp only [List.length_append] at hlen
    refine iff_of_false (fun heq => ?_) (by simp)
    rw [Option.getD_some] at heq
    rw [heq] at hlen
    omega

/-- A box is read as its expression exactly if it is bracketed. -/
theorem expression?_box_iff :
    expression? (some k) ('[' :: quoted (labelledText k e) ++ [']']) = some e ↔
      quotedAfter true e = true ∧ openAfter '[' ']' 1 (outside true e) = some 1 := by
  have hiff := isBracketed_quoted_iff closer?_square (labelledText k e)
  rw [(quotedAfter_labelledText k e).1, (quotedAfter_labelledText k e).2] at hiff
  rw [← hiff]
  by_cases hb : isBracketed ('[' :: quoted (labelledText k e) ++ [']'])
  · rw [expression?_bracketed closer?_square _ hb, read_labelled ht]
    exact iff_of_true rfl hb
  · rw [expression?_open rfl (by simpa using hb)]
    exact iff_of_false (by simp) hb

theorem expression?_diamond_iff : expression? (some k) ('\x7b' :: quoted e ++ ['\x7d']) = some e ↔
    (quotedAfter true e = true ∧ openAfter '\x7b' '\x7d' 1 (outside true e) = some 1) ∧
      ¬ BeginsWithLabel k e := by
  rw [← isBracketed_quoted_iff closer?_curly e]
  by_cases hb : isBracketed ('\x7b' :: quoted e ++ ['\x7d'])
  · rw [expression?_bracketed closer?_curly _ hb, Option.some.injEq, read_bare_iff ht]
    exact (and_iff_right hb).symm
  · rw [expression?_open rfl (by simpa using hb)]
    exact iff_of_false (by simp) (fun h => hb h.1)

end

/-- A box in round brackets passes over the brackets of the box. -/
theorem openAfter_round (cs : List Char) :
    openAfter '(' ')' 1 ('[' :: cs ++ [']']) = openAfter '(' ')' 1 cs := by
  have hsplit : '[' :: cs ++ [']'] = ['['] ++ cs ++ [']'] := rfl
  have hfront : openAfter '(' ')' 1 ['['] = some 1 := rfl
  have hback : ∀ depth, openAfter '(' ')' depth [']'] = some depth := fun _ => rfl
  rw [hsplit, openAfter_append, openAfter_append, hfront, Option.bind_some]
  simp [hback]

theorem openAfter_square {cs : List Char} (h : openAfter '[' ']' 1 cs = some 1) :
    openAfter '[' ']' 1 ('[' :: cs ++ [']']) = some 1 := by
  rw [List.cons_append, openAfter, openAfter_append]
  simp [openAfter_succ h, openAfter]

section

variable {k : Kind} {e : List Char} (ht : Tight e)

include ht

/-- A box in round brackets is read as its expression exactly if both of them are bracketed. -/
theorem expression?_stadium_iff :
    expression? (some k) ('(' :: ('[' :: quoted (labelledText k e) ++ [']']) ++ [')']) = some e ↔
      quotedAfter true e = true ∧ openAfter '(' ')' 1 (outside true e) = some 1 ∧
        openAfter '[' ']' 1 (outside true e) = some 1 := by
  have houter := isBracketed_boxed_iff closer?_round (labelledText k e)
  have hinner := isBracketed_quoted_iff closer?_square (labelledText k e)
  rw [openAfter_round] at houter
  rw [(quotedAfter_labelledText k e).1, (quotedAfter_labelledText k e).2] at houter hinner
  have hboth : (quotedAfter true e = true ∧ openAfter '(' ')' 1 (outside true e) = some 1 ∧
      openAfter '[' ']' 1 (outside true e) = some 1) ↔
      isBracketed ('(' :: ('[' :: quoted (labelledText k e) ++ [']']) ++ [')']) ∧
        isBracketed ('[' :: quoted (labelledText k e) ++ [']']) := by
    rw [houter, hinner]
    exact ⟨fun h => ⟨⟨h.1, h.2.1⟩, h.1, h.2.2⟩, fun h => ⟨h.1.1, h.1.2, h.2.2⟩⟩
  rw [hboth]
  by_cases hb : isBracketed ('(' :: ('[' :: quoted (labelledText k e) ++ [']']) ++ [')'])
  · rw [expression?_boxed rfl _ hb]
    split
    · next hbox =>
      rw [read_labelled ht]
      exact iff_of_true rfl ⟨hb, hbox⟩
    · next hbox =>
      refine iff_of_false (fun h => ?_) (fun h => hbox h.2)
      have hlen := congrArg List.length (Option.some.inj h)
      simp only [length_quoted, labelledText, List.length_append, List.length_cons] at hlen
      omega
  · rw [expression?_open rfl (by simpa using hb)]
    exact iff_of_false (by simp) (fun h => hb h.1)

/-- A box in a box: what closes the inner one leaves the outer one open. -/
theorem expression?_subroutine_iff :
    expression? (some k) ('[' :: ('[' :: quoted e ++ [']']) ++ [']']) = some e ↔
      (quotedAfter true e = true ∧ openAfter '[' ']' 1 (outside true e) = some 1) ∧
        ¬ BeginsWithLabel k e := by
  have houter := isBracketed_boxed_iff closer?_square e
  rw [← isBracketed_quoted_iff closer?_square e]
  by_cases hb : isBracketed ('[' :: ('[' :: quoted e ++ [']']) ++ [']'])
  · rw [expression?_boxed rfl _ hb]
    split
    · next hbox =>
      rw [Option.some.injEq, read_bare_iff ht]
      exact (and_iff_right hbox).symm
    · next hbox =>
      refine iff_of_false (fun h => ?_) (fun h => hbox h.1)
      have hlen := congrArg List.length (Option.some.inj h)
      simp only [length_quoted, List.length_append, List.length_cons] at hlen
      omega
  · rw [expression?_open rfl (by simpa using hb)]
    refine iff_of_false (by simp) (fun h => hb (houter.mpr ?_))
    obtain ⟨hquotes, hopen⟩ := (isBracketed_quoted_iff closer?_square e).mp h.1
    exact ⟨hquotes, openAfter_square hopen⟩

end

/-- Attributes are read as their expression exactly if there is no quote in it. -/
theorem expression?_input_iff {k : Kind} {e : List Char} (ht : Tight e) :
    expression? (some k) (inputStart ++ quoted (labelledText k e) ++ [' ', '\x7d']) = some e ↔
      '"' ∉ e := by
  have hstart : inputStart = '@' :: inputStart.tail := by decide
  constructor
  · intro h
    rw [hstart] at h
    exact (expression?_attributes h).1
  · intro hq
    have hlabelled : '"' ∉ labelledText k e := by
      simp [labelledText, not_mem_label (c := '"') (by decide) k, hq]
    rw [hstart, List.append_assoc, List.cons_append]
    simp only [expression?, labelAttribute?_input hlabelled, Option.getD_some]
    rw [labelledText, afterKindLabel?_labelled k ht]
    rfl

theorem expression?_plain (k : Kind) :
    ∀ text ∈ plainShapes, expression? (some k) text = some [] := by
  cases k <;> decide +kernel

theorem carried_of_closers {k : Kind} {e : List Char} (hq : quotedAfter true e = true)
    (hask : k = .ask → '"' ∉ e) (hlabel : isLabelled k = false → ¬ BeginsWithLabel k e)
    (h : ∀ p ∈ [('[', ']'), ('(', ')'), ('\x7b', '\x7d')], p.1 ∈ openers k →
      openAfter p.1 p.2 1 (outside true e) = some 1) : Carried k e where
  quotes := hq
  unquoted := hask
  brackets := by
    intro op hop cl hcl
    rw [Option.mem_def] at hcl
    have hpair : (op, cl) ∈ [('[', ']'), ('(', ')'), ('\x7b', '\x7d')] := by
      unfold closer? at hcl
      split at hcl <;> first | (cases hcl; decide) | cases hcl
    exact h _ hpair hop
  label := hlabel

/-- A shape is read as the expression that was written exactly if it carries it. -/
theorem Shaped.expression?_iff {k : Kind} {e text : List Char} (h : Shaped k e text)
    (ht : Tight e) : expression? (some k) text = some e ↔ Carried k e := by
  cases h with
  | box ho =>
    have hk : k ≠ .ask ∧ isLabelled k = true := by
      cases k <;> first | (cases ho; done) | decide
    rw [expression?_box_iff ht]
    constructor
    · rintro ⟨hq, hopen⟩
      refine carried_of_closers hq (fun h => absurd h hk.1) (fun h => by simp [hk.2] at h) ?_
      simp [ho, hopen]
    · intro h
      exact ⟨h.quotes, h.brackets '[' (by simp [ho]) ']' rfl⟩
  | stadium ho =>
    have hk : k ≠ .ask ∧ isLabelled k = true := by
      cases k <;> first | (cases ho; done) | decide
    rw [expression?_stadium_iff ht]
    constructor
    · rintro ⟨hq, hround, hsquare⟩
      refine carried_of_closers hq (fun h => absurd h hk.1) (fun h => by simp [hk.2] at h) ?_
      simp [ho, hround, hsquare]
    · intro h
      exact ⟨h.quotes, h.brackets '(' (by simp [ho]) ')' rfl, h.brackets '[' (by simp [ho]) ']' rfl⟩
  | diamond hk =>
    subst hk
    rw [expression?_diamond_iff ht]
    constructor
    · rintro ⟨⟨hq, hopen⟩, hlabel⟩
      refine carried_of_closers hq nofun (fun _ => hlabel) ?_
      simp [openers, hopen]
    · intro h
      exact ⟨⟨h.quotes, h.brackets '\x7b' (by decide) '\x7d' rfl⟩, h.label rfl⟩
  | subroutine hk =>
    subst hk
    rw [expression?_subroutine_iff ht]
    constructor
    · rintro ⟨⟨hq, hopen⟩, hlabel⟩
      refine carried_of_closers hq nofun (fun _ => hlabel) ?_
      simp [openers, hopen]
    · intro h
      exact ⟨⟨h.quotes, h.brackets '[' (by decide) ']' rfl⟩, h.label rfl⟩
  | input hk =>
    subst hk
    rw [expression?_input_iff ht]
    exact ⟨fun hq => carried_of_no_quote hq nofun, fun h => h.unquoted rfl⟩
  | plain he htext =>
    subst he
    refine iff_of_true (expression?_plain k _ htext) (carried_of_no_quote (by simp) ?_)
    rintro _ ⟨before, rest, hnil, _⟩
    simp at hnil

end Playbook.Flowchart
