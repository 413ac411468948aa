/-
  Peeling a shape, with what could go wrong on the way. A program that counts open brackets in
  numbers without a sign and cuts by byte offsets never counts below zero there, and never cuts
  inside of a character (`closing_eq`, `round_eq`). A round that takes something off leaves a
  shorter text (`round_shortens`), so that peeling ends; it takes nothing off exactly if neither
  brackets nor quotes stand around the text (`length_peel_eq_iff`).
-/
import Playbook.Proofs.Text.Slices
import Playbook.Proofs.Text.Trimming
import Playbook.Proofs.Workflow.ClosingBracket
import Playbook.Proofs.Workflow.Shapes

namespace Playbook.Flowchart

open Playbook.Text

/-! ## Counting and cutting by bytes -/

/-- What can stop a program that counts without a sign and cuts by byte offsets. -/
inductive Stop where
  /-- One is taken from nothing. -/
  | belowZero
  /-- A cut does not stand between characters of the text. -/
  | offBoundary
  deriving Repr, DecidableEq

/-- One less; there is no number below zero. -/
def lessOne : Nat → Except Stop Nat
  | 0 => .error .belowZero
  | n + 1 => .ok n

/-- The part of a text between two byte offsets. -/
def slice (s : String) (first last : Nat) : Except Stop String :=
  match slice? s first last with
  | some part => .ok part
  | none => .error .offBoundary

/-- The byte offset at which `depth` open brackets of one kind are closed. -/
def closeAt (op cl : Char) (depth : Nat) (quoted : Bool) (offset : Nat) :
    List Char → Except Stop (Option Nat)
  | [] => .ok none
  | c :: cs =>
    if c == '"' then closeAt op cl depth (!quoted) (offset + c.utf8Size) cs
    else if !quoted && c == op then closeAt op cl (depth + 1) quoted (offset + c.utf8Size) cs
    else if !quoted && c == cl then
      match lessOne depth with
      | .error stop => .error stop
      | .ok left =>
        if left = 0 then .ok (some offset)
        else closeAt op cl left quoted (offset + c.utf8Size) cs
    else closeAt op cl depth quoted (offset + c.utf8Size) cs

/-- The byte offset of the bracket that closes the one at the beginning of the text. -/
def closing (text : String) : Except Stop (Option Nat) :=
  match text.toList with
  | [] => .ok none
  | op :: rest =>
    match closer? op with
    | none => .ok none
    | some cl => closeAt op cl 0 false 0 (op :: rest)

/-- What a round of peeling finds around a text, and what it leaves of it. -/
inductive Round where
  /-- Nothing stands around the text. -/
  | bare
  | quoted (inner : String)
  | bracketed (inner : String)
  deriving Repr, DecidableEq

/-- What a round leaves of the text, if it takes anything off. -/
def Round.inner? : Round → Option String
  | .bare => none
  | .quoted inner => some inner
  | .bracketed inner => some inner

/-- What stands inside of the text if it is between quotes, or if the bracket in front is closed by
the last byte. -/
def round (text : String) : Except Stop Round :=
  if 2 ≤ text.utf8ByteSize ∧ text.toList.head? = some '"' ∧ text.toList.getLast? = some '"' then do
    let last ← lessOne text.utf8ByteSize
    let inner ← slice text 1 last
    return .quoted (trimmed inner)
  else do
    match ← closing text with
    | none => return .bare
    | some close =>
      let last ← lessOne text.utf8ByteSize
      if close = last then
        let inner ← slice text 1 close
        return .bracketed (trimmed inner)
      else return .bare

/-- Rounds from a text to what the last of them leaves. Quotes end them. -/
inductive Rounds : String → String → Prop
  | bare {text : String} : round text = .ok .bare → Rounds text text
  | quoted {text inner : String} : round text = .ok (.quoted inner) → Rounds text inner
  | bracketed {text inner last : String} : round text = .ok (.bracketed inner) →
    Rounds inner last → Rounds text last

theorem closeAt_eq (op cl : Char) {depth : Nat} (hd : 1 ≤ depth) (quoted : Bool) (offset : Nat)
    (cs : List Char) : closeAt op cl depth quoted offset cs =
      .ok ((closeFrom op cl depth quoted 0 cs).map fun i => offset + byteWidth (cs.take i)) := by
  induction cs generalizing depth quoted offset with
  | nil => rfl
  | cons c cs ih =>
    have hnext : ∀ {depth : Nat} (quoted : Bool), 1 ≤ depth →
        closeAt op cl depth quoted (offset + c.utf8Size) cs =
          .ok ((closeFrom op cl depth quoted (0 + 1) cs).map fun i =>
            offset + byteWidth ((c :: cs).take i)) := by
      intro depth quoted hd
      rw [ih hd quoted, closeFrom_index op cl depth quoted (0 + 1), Option.map_map]
      congr 2
      funext i
      rw [Function.comp_apply, Nat.zero_add, Nat.add_comm 1 i, List.take_succ_cons, byteWidth_cons,
        Nat.add_assoc]
    rw [closeAt, closeFrom]
    split
    · exact hnext _ hd
    · split
      · exact hnext _ (by omega)
      · split
        · obtain ⟨left, rfl⟩ : ∃ left, depth = left + 1 := ⟨depth - 1, by omega⟩
          cases left with
          | zero => rfl
          | succ left =>
            simp only [lessOne]
            rw [if_neg (by omega), if_neg (by omega)]
            exact hnext _ (by omega)
        · exact hnext _ hd

/-- The closing bracket is found by bytes as well, and no count goes below zero on the way. -/
theorem closing_eq (text : String) : closing text =
    .ok ((matchingClose? text.toList).map fun i => byteWidth (text.toList.take i)) := by
  unfold closing
  cases htext : text.toList with
  | nil => rfl
  | cons op rest =>
    dsimp only
    cases hcl : closer? op with
    | none =>
      rw [matchingClose?, hcl]
      rfl
    | some cl =>
      obtain ⟨hop, _, _, _, _⟩ := closer?_ne_quote hcl
      have hfirst : closeAt op cl 0 false 0 (op :: rest) =
          closeAt op cl 1 false op.utf8Size rest := by
        simp [closeAt, hop]
      dsimp only
      rw [hfirst, closeAt_eq op cl (Nat.le_refl 1), matchingClose?_cons hcl, Option.map_map]
      congr 2
      funext i
      rw [Function.comp_apply, Nat.add_comm 1 i, List.take_succ_cons, byteWidth_cons]

/-! ## Rounds -/

theorem utf8Size_of_closer? {op cl : Char} (h : closer? op = some cl) :
    op.utf8Size = 1 ∧ cl.utf8Size = 1 := by
  unfold closer? at h
  split at h <;> first | (cases h; decide) | cases h

/-- The text between the first and the last byte is cut out between characters. -/
theorem slice_inner {text : String} {a b : Char} {mid : List Char}
    (h : text.toList = a :: mid ++ [b]) (ha : a.utf8Size = 1) :
    slice text 1 (1 + byteWidth mid) = .ok (String.ofList mid) := by
  have hparts : text.toList = [a] ++ mid ++ [b] := h
  have hwidth : byteWidth [a] = 1 := by rw [byteWidth_cons, ha, byteWidth_nil]
  have hslice := slice?_between hparts
  rw [hwidth] at hslice
  rw [slice, hslice]

theorem utf8ByteSize_between {text : String} {a b : Char} {mid : List Char}
    (h : text.toList = a :: mid ++ [b]) (ha : a.utf8Size = 1) (hb : b.utf8Size = 1) :
    text.utf8ByteSize = 1 + byteWidth mid + 1 := by
  rw [← byteWidth_toList, h, byteWidth_append, byteWidth_cons, byteWidth_cons, byteWidth_nil, ha,
    hb]

theorem trimmed_inner {text : String} {a b : Char} {mid : List Char}
    (h : text.toList = a :: mid ++ [b]) :
    trimmed (String.ofList mid) = String.ofList (inside text.toList) := by
  rw [h, inside_between, trimmed, onString, String.toList_ofList]

/-- A bracket in front is closed by the last character exactly if the position found is the last. -/
theorem isBracketed_iff_matchingClose? {cs : List Char} :
    isBracketed cs ↔ ∃ i, matchingClose? cs = some i ∧ i + 1 = cs.length := by
  unfold isBracketed
  cases hclose : matchingClose? cs with
  | none => simp
  | some i =>
    obtain ⟨op, rest, j, rfl, rfl⟩ : ∃ op rest j, cs = op :: rest ∧ i = 1 + j := by
      obtain ⟨op, cl, hhead, hcl, hcloses⟩ := matchingClose?_eq_some_iff.mp hclose
      obtain ⟨rest, rfl⟩ := List.head?_eq_some_iff.mp hhead
      obtain ⟨j, hj, _⟩ := (closesAt_cons_iff hcl).mp ⟨op, cl, hhead, hcl, hcloses⟩
      exact ⟨op, rest, j, rfl, hj⟩
    simp only [Bool.and_eq_true, beq_iff_eq, decide_eq_true_eq, Option.some.injEq,
      exists_eq_left']
    omega

/-- The position found is the last exactly if its byte offset is. -/
theorem byteWidth_take_eq_iff {cs : List Char} {i : Nat} (h : matchingClose? cs = some i) :
    byteWidth (cs.take i) + 1 = byteWidth cs ↔ i + 1 = cs.length := by
  obtain ⟨op, rest, rfl⟩ : ∃ op rest, cs = op :: rest := by
    cases cs with
    | nil => cases h
    | cons op rest => exact ⟨op, rest, rfl⟩
  cases hcl : closer? op with
  | none => simp [matchingClose?, hcl] at h
  | some cl =>
    rw [matchingClose?, hcl] at h
    obtain ⟨pre, post, hsplit, hi⟩ := closeFrom_eq_some h
    rw [Nat.zero_add] at hi
    rw [hsplit, hi, List.take_left, byteWidth_append, byteWidth_cons, (utf8Size_of_closer? hcl).2,
      List.length_append, List.length_cons]
    have hpost : byteWidth post = 0 ↔ post.length = 0 := by
      rw [byteWidth_eq_zero_iff, List.length_eq_zero_iff]
    omega

theorem isQuoted_iff {text : String} : isQuoted text.toList ↔
    2 ≤ text.utf8ByteSize ∧ text.toList.head? = some '"' ∧ text.toList.getLast? = some '"' := by
  rw [← byteWidth_toList, isQuoted, Bool.and_eq_true, Bool.and_eq_true, decide_eq_true_eq,
    beq_iff_eq, beq_iff_eq, and_assoc]
  refine and_congr_left fun hends => ?_
  obtain ⟨rest, hrest⟩ := List.head?_eq_some_iff.mp hends.1
  have hempty : byteWidth rest = 0 ↔ rest.length = 0 := by
    rw [byteWidth_eq_zero_iff, List.length_eq_zero_iff]
  have hone : ('"' : Char).utf8Size = 1 := by decide
  rw [hrest, byteWidth_cons, List.length_cons, hone]
  omega

theorem ok_bind {α β : Type} (a : α) (f : α → Except Stop β) : (Except.ok a >>= f) = f a := rfl

/-- Every round is one that peels: nothing goes below zero, and every cut is between characters. -/
theorem round_eq (text : String) : round text = .ok
    (if isQuoted text.toList then .quoted (String.ofList (inside text.toList))
      else if isBracketed text.toList then .bracketed (String.ofList (inside text.toList))
      else .bare) := by
  unfold round
  by_cases hquoted : isQuoted text.toList
  · obtain ⟨mid, hmid⟩ := exists_of_isQuoted hquoted
    have hsize := utf8ByteSize_between hmid (by decide) (by decide)
    rw [if_pos (isQuoted_iff.mp hquoted), if_pos hquoted, hsize, lessOne, ok_bind,
      slice_inner hmid (by decide), ok_bind, trimmed_inner hmid]
    rfl
  · rw [if_neg (fun h => hquoted (isQuoted_iff.mpr h)), if_neg hquoted, closing_eq, ok_bind]
    cases hclose : matchingClose? text.toList with
    | none =>
      have hbare : ¬ isBracketed text.toList := by
        rw [isBracketed_iff_matchingClose?, hclose]
        rintro ⟨i, hi, _⟩
        cases hi
      rw [if_neg hbare]
      rfl
    | some i =>
      obtain ⟨last, hsize⟩ : ∃ last, text.utf8ByteSize = last + 1 := by
        refine Nat.exists_eq_succ_of_ne_zero fun hzero => ?_
        rw [String.utf8ByteSize_eq_zero_iff.mp hzero] at hclose
        cases hclose
      -- one less than the number of bytes is the offset of the last character, if that closes
      have hlast := byteWidth_take_eq_iff hclose
      rw [byteWidth_toList, hsize, Nat.add_right_cancel_iff] at hlast
      dsimp only [Option.map_some]
      rw [hsize, lessOne, ok_bind]
      by_cases hb : isBracketed text.toList
      · obtain ⟨op, cl, mid, hcl, hmid⟩ := exists_of_isBracketed hb
        obtain ⟨hop, hcl⟩ := utf8Size_of_closer? hcl
        obtain ⟨j, hj, hend⟩ := isBracketed_iff_matchingClose?.mp hb
        obtain rfl : i = j := Option.some.inj (hclose.symm.trans hj)
        have hoffset := hlast.mpr hend
        have hinner : last = 1 + byteWidth mid := by
          have := utf8ByteSize_between hmid hop hcl
          omega
        rw [if_pos hb, if_pos hoffset, hoffset, hinner, slice_inner hmid hop, ok_bind,
          trimmed_inner hmid]
        rfl
      · have hinside : ¬ byteWidth (text.toList.take i) = last := fun h =>
          hb (isBracketed_iff_matchingClose?.mpr ⟨i, hclose, hlast.mp h⟩)
        rw [if_neg hb, if_neg hinside]
        rfl

theorem exists_ends {cs : List Char} (h : isQuoted cs ∨ isBracketed cs) :
    ∃ a b mid, cs = a :: mid ++ [b] := by
  rcases h with hquoted | hbracketed
  · obtain ⟨mid, hmid⟩ := exists_of_isQuoted hquoted
    exact ⟨'"', '"', mid, hmid⟩
  · obtain ⟨op, cl, mid, _, hmid⟩ := exists_of_isBracketed hbracketed
    exact ⟨op, cl, mid, hmid⟩

theorem byteWidth_trim_le (cs : List Char) : byteWidth (trim cs) ≤ byteWidth cs := by
  obtain ⟨l, r, hcs, _, _⟩ := exists_trim cs
  have hwidth := congrArg byteWidth hcs
  rw [byteWidth_append, byteWidth_append] at hwidth
  omega

theorem byteWidth_inside_lt {cs : List Char} (h : isQuoted cs ∨ isBracketed cs) :
    byteWidth (inside cs) < byteWidth cs := by
  obtain ⟨a, b, mid, rfl⟩ := exists_ends h
  have htrim := byteWidth_trim_le mid
  have hfirst := a.utf8Size_pos
  rw [inside_between, byteWidth_append, byteWidth_cons]
  omega

/-- What a round leaves is shorter. -/
theorem round_shortens {text inner : String} {r : Round} (h : round text = .ok r)
    (hinner : r.inner? = some inner) : inner.utf8ByteSize < text.utf8ByteSize := by
  rw [round_eq, Except.ok.injEq] at h
  subst h
  by_cases hquoted : isQuoted text.toList
  · rw [if_pos hquoted, Round.inner?, Option.some.injEq] at hinner
    rw [← hinner, ← byteWidth_toList text]
    exact byteWidth_inside_lt (.inl hquoted)
  · rw [if_neg hquoted] at hinner
    by_cases hb : isBracketed text.toList
    · rw [if_pos hb, Round.inner?, Option.some.injEq] at hinner
      rw [← hinner, ← byteWidth_toList text]
      exact byteWidth_inside_lt (.inr hb)
    · rw [if_neg hb] at hinner
      cases hinner

/-- The rounds come to an end, and leave what peeling leaves. -/
theorem rounds_peel (text : String) : Rounds text (String.ofList (peel text.toList)) := by
  -- on the number of bytes, which every round lowers
  induction hn : text.utf8ByteSize using Nat.strongRecOn generalizing text with
  | _ n ih =>
    have hround := round_eq text
    by_cases hquoted : isQuoted text.toList
    · rw [if_pos hquoted] at hround
      rw [peel_of_isQuoted hquoted]
      exact .quoted hround
    · rw [if_neg hquoted] at hround
      by_cases hb : isBracketed text.toList
      · rw [if_pos hb] at hround
        have hshorter := round_shortens hround rfl
        have hrest := ih _ (hn ▸ hshorter) _ rfl
        rw [String.toList_ofList] at hrest
        rw [peel_of_isBracketed hb]
        exact .bracketed hround hrest
      · rw [if_neg hb] at hround
        rw [peel_of_bare (by simpa using hquoted) (by simpa using hb), String.ofList_toList]
        exact .bare hround

/-! ## Shapes -/

/-- The bracket in front of the text is closed by its last character. -/
def InBrackets (cs : List Char) : Prop := ∃ i, ClosesAt cs i ∧ i + 1 = cs.length

/-- The text stands between double quotes. -/
def InQuotes (cs : List Char) : Prop := ∃ mid, cs = quoted mid

theorem isBracketed_iff_inBrackets {cs : List Char} : isBracketed cs ↔ InBrackets cs := by
  simp only [isBracketed_iff_matchingClose?, matchingClose?_eq_some_iff, InBrackets]

theorem isQuoted_iff_inQuotes {cs : List Char} : isQuoted cs ↔ InQuotes cs := by
  constructor
  · intro h
    exact exists_of_isQuoted h
  · rintro ⟨mid, rfl⟩
    have hlast : (quoted mid).getLast? = some '"' := List.getLast?_concat
    unfold isQuoted
    rw [hlast]
    simp [quoted]

theorem length_peel_le (cs : List Char) : (peel cs).length ≤ cs.length := by
  rcases peel_infix cs with hsame | ⟨l, r, _, _, hin⟩
  · exact Nat.le_of_eq (congrArg List.length hsame)
  · have hlength := congrArg List.length hin
    rw [List.length_append, List.length_append] at hlength
    omega

/-- Peeling takes nothing off exactly if neither quotes nor brackets stand around the text. -/
theorem length_peel_eq_iff {cs : List Char} :
    (peel cs).length = cs.length ↔ ¬ isQuoted cs ∧ ¬ isBracketed cs := by
  have hinside : isQuoted cs ∨ isBracketed cs → (inside cs).length < cs.length := by
    intro h
    obtain ⟨a, b, mid, rfl⟩ := exists_ends h
    have := length_inside_le (a :: mid ++ [b])
    simp only [List.length_append, List.length_cons, List.length_nil] at this ⊢
    omega
  constructor
  · intro h
    refine ⟨fun hquoted => ?_, fun hb => ?_⟩
    · have := hinside (.inl hquoted)
      rw [peel_of_isQuoted hquoted] at h
      omega
    · have := hinside (.inr hb)
      have := length_peel_le (inside cs)
      rw [peel_of_isBracketed hb] at h
      omega
  · rintro ⟨hquoted, hb⟩
    rw [peel_of_bare (by simpa using hquoted) (by simpa using hb)]

/-- The lengths in bytes agree exactly if the numbers of characters do. -/
theorem byteWidth_peel_eq_iff {cs : List Char} :
    byteWidth (peel cs) = byteWidth cs ↔ (peel cs).length = cs.length := by
  rcases peel_infix cs with hsame | ⟨l, r, hl, _, hin⟩
  · rw [hsame]
    exact iff_of_true rfl rfl
  · have hwidth := congrArg byteWidth hin
    have hlength := congrArg List.length hin
    have hleft : byteWidth l ≠ 0 := fun h => hl (byteWidth_eq_zero_iff.mp h)
    have hcount := List.length_pos_iff.mpr hl
    rw [byteWidth_append, byteWidth_append] at hwidth
    rw [List.length_append, List.length_append] at hlength
    omega

theorem expression?_eq_none_iff {kind : Option Kind} {shape : List Char} :
    expression? kind shape = none ↔ shape ≠ [] ∧ shape.head? ≠ some '@' ∧
      (peel shape).length = shape.length := by
  unfold expression?
  split
  · simp
  · next attributes =>
    refine iff_of_false ?_ fun h => h.2.1 rfl
    cases kind <;> simp
  · next hne hat =>
    have hhead : shape.head? ≠ some '@' := by
      intro hc
      obtain ⟨attributes, hshape⟩ := List.head?_eq_some_iff.mp hc
      exact hat attributes hshape
    have hshape : shape ≠ [] := hne
    cases kind <;> simp [hshape, hhead]

/-- A shape that is peeled as it should be, whatever it holds. -/
structure PeeledSafely (shape : String) : Prop where
  /-- The closing bracket is at the least position behind which the depth is back to zero. -/
  close_iff : ∀ i, matchingClose? shape.toList = some i ↔ ClosesAt shape.toList i
  /-- By bytes it is found at the same place, and the depth never goes below zero. -/
  closing_eq : closing shape =
    .ok ((matchingClose? shape.toList).map fun i => byteWidth (shape.toList.take i))
  /-- A round is never stopped, and what it leaves is shorter. -/
  round_ok : ∃ r, round shape = .ok r ∧
    ∀ inner, r.inner? = some inner → inner.utf8ByteSize < shape.utf8ByteSize
  /-- So the rounds come to an end. -/
  ends : ∃ last, Rounds shape last ∧ last.toList = peel shape.toList ∧
    (last.utf8ByteSize = shape.utf8ByteSize ↔
      (peel shape.toList).length = shape.toList.length)
  /-- What is refused is a text without brackets or quotes around it. -/
  refused_iff : ∀ kind, expression? kind shape.toList = none ↔
    shape ≠ "" ∧ shape.toList.head? ≠ some '@' ∧
      ¬ InBrackets shape.toList ∧ ¬ InQuotes shape.toList

/-- Every text is peeled safely. -/
theorem shape_peeled_safely (shape : String) : PeeledSafely shape where
  close_iff i := matchingClose?_eq_some_iff
  closing_eq := closing_eq shape
  round_ok := ⟨_, round_eq shape, fun _ hinner => round_shortens (round_eq shape) hinner⟩
  ends := by
    refine ⟨_, rounds_peel shape, String.toList_ofList, ?_⟩
    rw [← byteWidth_toList shape, ← byteWidth_peel_eq_iff]
    rfl
  refused_iff kind := by
    have hempty : shape.toList ≠ [] ↔ shape ≠ "" := by simp
    rw [expression?_eq_none_iff, length_peel_eq_iff, isQuoted_iff_inQuotes,
      isBracketed_iff_inBrackets, hempty, and_comm (a := ¬ InQuotes shape.toList)]

end Playbook.Flowchart
