/-
  Where a line is cut. The cuts are the arrows outside of brackets and quotes, all of them and
  nothing else (`cutBetween_iff`); behind each the scan starts over as at the beginning of a line,
  so that no segment can be cut again. A scan that goes by bytes and cuts by byte offsets finds the
  same segments, and cuts between characters only (`scanBytes_eq`).
-/
import Playbook.Proofs.Text.Slices
import Playbook.Proofs.Text.Utf8
import Playbook.Proofs.Workflow.Brackets
import Playbook.Proofs.Workflow.Segments

namespace Playbook.Flowchart

open Playbook.Text

/-! ## Nesting by counting -/

/-- The number of open brackets after one more character; one that closes no bracket is nothing. -/
def countBracket (depth : Nat) (c : Char) : Nat :=
  if c ∈ ['[', '(', '\x7b'] then depth + 1
  else if c ∈ [']', ')', '\x7d'] then depth - 1
  else depth

/-- Behind such a text one is outside: its quotes are paired, and of the brackets outside of the
quotes, all three kinds counted together, none is open. -/
def Neutral (front : List Char) : Prop :=
  front.count '"' % 2 = 0 ∧ (outside false front).foldl countBracket 0 = 0

/-- Outside of quotes, a character that is none changes at most the number of open brackets. -/
theorem after_of_unquoted {s : Nesting} (hs : s.quoted = false) {c : Char} (hc : c ≠ '"') :
    s.after c = ⟨countBracket s.depth c, false⟩ := by
  have hquote : (c == '"') = false := by simpa using hc
  obtain ⟨depth, quoted⟩ := s
  change quoted = false at hs
  subst hs
  unfold Nesting.after countBracket
  simp only [hquote, Bool.false_eq_true, if_false, Bool.or_eq_true, beq_iff_eq, or_assoc,
    List.mem_cons, List.not_mem_nil, or_false]
  split
  · rfl
  · split <;> rfl

/-- The scan knows the number of open brackets outside of the quotes, and whether a quote is. -/
theorem afterAll_eq (s : Nesting) (cs : List Char) : s.afterAll cs =
    ⟨(outside s.quoted cs).foldl countBracket s.depth, quotedAfter s.quoted cs⟩ := by
  induction cs generalizing s with
  | nil => rfl
  | cons c cs ih =>
    rw [Nesting.afterAll_cons, ih]
    by_cases hquote : c = '"'
    · have hafter : s.after c = ⟨s.depth, !s.quoted⟩ := by simp [Nesting.after, hquote]
      rw [hafter, hquote]
      rfl
    · have hc : (c == '"') = false := by simpa using hquote
      have hflag : quotedAfter s.quoted (c :: cs) = quotedAfter s.quoted cs := by
        rw [quotedAfter, List.foldl_cons, hc]
        rfl
      rw [hflag, outside, hc]
      cases hs : s.quoted with
      | true => rw [after_of_quoted hs hquote, hs]; rfl
      | false => rw [after_of_unquoted hs hquote]; rfl

theorem isOuter_afterAll_iff {front : List Char} :
    (Nesting.afterAll {} front).isOuter ↔ Neutral front := by
  rw [afterAll_eq, Nesting.isOuter, quotedAfter_eq, Neutral]
  rcases Nat.mod_two_eq_zero_or_one (front.count '"') with hpaired | hodd
  · simp [hpaired]
  · simp [hodd]

/-! ## Cuts -/

/-- One of the cuts stands between the two texts. -/
def CutBetween (segs : List (List Char)) (front back : List Char) : Prop :=
  ∃ before after, before ≠ [] ∧ after ≠ [] ∧ segs = before ++ after ∧
    joinWith arrow before = front ∧ joinWith arrow after = back

theorem not_cutBetween_singleton {seg front back : List Char} : ¬ CutBetween [seg] front back := by
  rintro ⟨before, after, hbefore, hafter, hsplit, _, _⟩
  have hone : before.length + after.length = 1 := by
    rw [← List.length_append, ← hsplit, List.length_singleton]
  have := List.length_pos_iff.mpr hbefore
  have := List.length_pos_iff.mpr hafter
  omega

/-- The first cut is behind the first segment, and the others are those of the rest. -/
theorem cutBetween_cons {seg front back : List Char} {segs : List (List Char)} (h : segs ≠ []) :
    CutBetween (seg :: segs) front back ↔ (front = seg ∧ back = joinWith arrow segs) ∨
      ∃ r, front = seg ++ arrow ++ r ∧ CutBetween segs r back := by
  constructor
  · rintro ⟨before, after, hbefore, hafter, hsplit, rfl, rfl⟩
    obtain ⟨first, before, rfl⟩ := List.exists_cons_of_ne_nil hbefore
    obtain ⟨rfl, hrest⟩ := List.cons.inj hsplit
    cases before with
    | nil => exact .inl ⟨rfl, by rw [hrest]; rfl⟩
    | cons second before =>
      refine .inr ⟨joinWith arrow (second :: before), rfl, ?_⟩
      exact ⟨second :: before, after, List.cons_ne_nil _ _, hafter, hrest, rfl, rfl⟩
  · rintro (⟨rfl, rfl⟩ | ⟨r, rfl, before, after, hbefore, hafter, rfl, rfl, rfl⟩)
    · exact ⟨[front], segs, List.cons_ne_nil _ _, h, rfl, rfl, rfl⟩
    · exact ⟨seg :: before, after, List.cons_ne_nil _ _, hafter, rfl, joinWith_cons hbefore, rfl⟩

/-- Two arrows of a text are one, or they stand apart. -/
theorem arrows_apart {p q front back : List Char}
    (h : p ++ arrow ++ q = front ++ arrow ++ back) :
    (front = p ∧ back = q) ∨ (∃ r, p = front ++ arrow ++ r) ∨
      ∃ r, front = p ++ arrow ++ r ∧ q = r ++ arrow ++ back := by
  induction p generalizing front with
  | nil =>
    rcases front with _ | ⟨a, _ | ⟨b, _ | ⟨c, r⟩⟩⟩
    · exact .inl ⟨rfl, (List.append_cancel_left h).symm⟩
    · simp [arrow] at h
    · simp [arrow] at h
    · obtain ⟨rfl, rfl, rfl, hq⟩ : '-' = a ∧ '-' = b ∧ '>' = c ∧ q = r ++ arrow ++ back := by
        simpa [arrow] using h
      exact .inr (.inr ⟨r, rfl, hq⟩)
  | cons a p ih =>
    cases front with
    | nil =>
      rcases p with _ | ⟨b, _ | ⟨c, r⟩⟩
      · simp [arrow] at h
      · simp [arrow] at h
      · obtain ⟨rfl, rfl, rfl, _⟩ : a = '-' ∧ b = '-' ∧ c = '>' ∧ r ++ arrow ++ q = back := by
          simpa [arrow] using h
        exact .inr (.inl ⟨r, rfl⟩)
    | cons b front =>
      obtain ⟨rfl, htail⟩ := List.cons.inj h
      rcases ih htail with ⟨rfl, rfl⟩ | ⟨r, rfl⟩ | ⟨r, rfl, rfl⟩
      · exact .inl ⟨rfl, rfl⟩
      · exact .inr (.inl ⟨r, rfl⟩)
      · exact .inr (.inr ⟨r, rfl, rfl⟩)

/-- The scan of a line starts over behind a cut. -/
theorem afterAll_behind {front : List Char} (h : (Nesting.afterAll {} front).isOuter)
    (cs : List Char) : Nesting.afterAll {} (front ++ arrow ++ cs) = Nesting.afterAll {} cs := by
  rw [Nesting.afterAll_append, Nesting.afterAll_append, Nesting.eq_of_isOuter h]
  rfl

/-- A line is cut at every arrow outside of brackets and quotes, and nowhere else. -/
theorem cutBetween_segments_iff {line front back : List Char} :
    CutBetween (segments line) front back ↔
      line = front ++ arrow ++ back ∧ (Nesting.afterAll {} front).isOuter := by
  induction hn : line.length using Nat.strongRecOn generalizing line front with
  | _ n ih =>
    rcases segmentsFrom_cases {} line with hwhole | ⟨p, q, rfl, houter, hseg⟩
    · rw [segments, hwhole]
      refine iff_of_false not_cutBetween_singleton ?_
      rintro ⟨hline, hfront⟩
      exact not_looseArrow_of_segmentsFrom hwhole ⟨front, back, hline, hfront⟩
    · have hrest : segments (p ++ arrow ++ q) = p :: segments q := by
        rw [segments, hseg, Nesting.eq_of_isOuter houter, segments]
      have hq : q.length < n := hn ▸ length_lt_behind p q
      have hjoin : joinWith arrow (segments q) = q := joinWith_segmentsFrom {} q
      have hne : segments q ≠ [] := segmentsFrom_ne_nil {} q
      rw [hrest, cutBetween_cons hne, hjoin]
      constructor
      · rintro (⟨rfl, rfl⟩ | ⟨r, rfl, hcut⟩)
        · exact ⟨rfl, houter⟩
        · obtain ⟨hline, hr⟩ := (ih q.length hq rfl).mp hcut
          rw [afterAll_behind houter]
          exact ⟨by rw [hline]; simp only [List.append_assoc], hr⟩
      · rintro ⟨hline, hfront⟩
        rcases arrows_apart hline with hsame | ⟨r, rfl⟩ | ⟨r, rfl, rfl⟩
        · exact .inl hsame
        · -- no arrow outside stands before the first cut
          exact absurd ⟨front, r, rfl, hfront⟩ (not_looseArrow_of_segmentsFrom hseg)
        · rw [afterAll_behind houter] at hfront
          exact .inr ⟨r, rfl, (ih _ hq rfl).mpr ⟨rfl, hfront⟩⟩

theorem Cut.not_looseArrow {segs : List (List Char)} (h : Cut segs) {seg : List Char}
    (hmem : seg ∈ segs) : ¬ LooseArrow {} seg := by
  induction h with
  | last hseg =>
    rw [List.mem_singleton.mp hmem]
    exact hseg
  | before hseg _ _ ih =>
    rcases List.mem_cons.mp hmem with rfl | hmem
    · exact hseg
    · exact ih hmem

/-! ## By bytes -/

/-- The bytes of the arrow. -/
def arrowBytes : List UInt8 := arrow.flatMap String.utf8EncodeChar

/-- The segments of a line by a scan of its bytes. The segment that is open begins at the offset
`start`, and `bytes` stand at `offset`. No byte but those of marks changes the nesting. None if a
cut does not stand between characters. -/
def scanBytes (line : String) (s : Nesting) (start offset : Nat) (bytes : List UInt8) :
    Option (List String) :=
  match bytes with
  | [] => (slice? line start line.utf8ByteSize).map ([·])
  | b :: rest =>
    if s.isOuter && arrowBytes.isPrefixOf (b :: rest) then
      match slice? line start offset with
      | some seg => (scanBytes line s (offset + 3) (offset + 3) (rest.drop 2)).map (seg :: ·)
      | none => none
    else scanBytes line (s.after (Char.ofNat b.toNat)) start (offset + 1) rest
  termination_by bytes.length
  decreasing_by all_goals (simp only [List.length_drop, List.length_cons]; omega)

theorem after_of_wide (s : Nesting) {c : Char} (h : 0x80 ≤ c.toNat) : s.after c = s := by
  have hne : ∀ mark : Char, mark.toNat < 0x80 → (c == mark) = false := by
    intro mark hmark
    simp only [beq_eq_false_iff_ne]
    rintro rfl
    omega
  simp [Nesting.after, hne]

section

variable {line : String} {s : Nesting} {start offset : Nat}

theorem scanBytes_cons {b : UInt8} {rest : List UInt8}
    (h : ¬ (s.isOuter ∧ arrowBytes <+: b :: rest)) :
    scanBytes line s start offset (b :: rest) =
      scanBytes line (s.after (Char.ofNat b.toNat)) start (offset + 1) rest := by
  have hcond : (s.isOuter && arrowBytes.isPrefixOf (b :: rest)) = false := by
    rw [Bool.eq_false_iff, Ne, Bool.and_eq_true, List.isPrefixOf_iff_prefix]
    exact h
  rw [scanBytes, hcond]
  rfl

/-- Bytes that are no characters by themselves are passed over. -/
theorem scanBytes_wide {bytes : List UInt8} (h : ∀ b ∈ bytes, 0x80 ≤ b.toNat)
    (rest : List UInt8) : scanBytes line s start offset (bytes ++ rest) =
      scanBytes line s start (offset + bytes.length) rest := by
  induction bytes generalizing offset with
  | nil => rfl
  | cons b bytes ih =>
    have hb := h b List.mem_cons_self
    have hread : (Char.ofNat b.toNat).toNat = b.toNat :=
      Utf8.toNat_charOfNat (by have := b.toNat_lt; omega)
    have hcut : ¬ (s.isOuter ∧ arrowBytes <+: b :: (bytes ++ rest)) := by
      rintro ⟨_, tail, htail⟩
      obtain ⟨rfl, _⟩ := List.cons.inj htail
      exact absurd hb (by decide)
    rw [List.cons_append, scanBytes_cons hcut, after_of_wide s (by omega),
      ih fun b hb => h b (List.mem_cons_of_mem _ hb), List.length_cons, Nat.add_assoc,
      Nat.add_comm 1]

/-- Where no arrow begins, or not outside, the bytes of one character are passed over. -/
theorem scanBytes_char {c : Char} {cs : List Char} (h : ¬ (s.isOuter ∧ arrow <+: c :: cs)) :
    scanBytes line s start offset ((c :: cs).flatMap String.utf8EncodeChar) =
      scanBytes line (s.after c) start (offset + c.utf8Size)
        (cs.flatMap String.utf8EncodeChar) := by
  rw [← Utf8.prefix_encode_iff, List.flatMap_cons] at h
  rw [List.flatMap_cons, ← String.length_utf8EncodeChar]
  by_cases hwide : 0x80 ≤ c.toNat
  · rw [scanBytes_wide (fun b => Utf8.wide_of_mem_encodeChar hwide), after_of_wide s hwide]
  · have hnarrow : c.toNat < 0x80 := Nat.lt_of_not_le hwide
    have hread : Char.ofNat (UInt8.ofNat c.toNat).toNat = c := by
      rw [Utf8.toNat_ofNat (by omega), Char.ofNat_toNat]
    rw [Utf8.encodeChar_of_narrow hnarrow, List.singleton_append] at h
    rw [Utf8.encodeChar_of_narrow hnarrow, List.singleton_append, scanBytes_cons h, hread]
    rfl

/-- An arrow outside is where the open segment ends. -/
theorem scanBytes_arrow {seg : String} (houter : s.isOuter)
    (hseg : slice? line start offset = some seg) (cs : List Char) :
    scanBytes line s start offset ((arrow ++ cs).flatMap String.utf8EncodeChar) =
      (scanBytes line s (offset + 3) (offset + 3) (cs.flatMap String.utf8EncodeChar)).map
        (seg :: ·) := by
  have hbytes : (arrow ++ cs).flatMap String.utf8EncodeChar =
      45 :: 45 :: 62 :: cs.flatMap String.utf8EncodeChar := by
    rw [List.flatMap_append]
    rfl
  have hcond : arrowBytes.isPrefixOf (45 :: 45 :: 62 :: cs.flatMap String.utf8EncodeChar) = true :=
    rfl
  rw [hbytes, scanBytes, houter, hcond, hseg]
  rfl

end

/-- A scan by bytes finds the segments, given the characters before the open segment,
those of it that are behind, and those to come. -/
theorem scanBytes_eq {line : String} (s : Nesting) {before part rest : List Char}
    (h : line.toList = before ++ part ++ rest) :
    scanBytes line s (byteWidth before) (byteWidth before + byteWidth part)
        (rest.flatMap String.utf8EncodeChar) =
      some ((glue part (segmentsFrom s rest)).map String.ofList) := by
  induction hn : rest.length using Nat.strongRecOn generalizing s before part rest with
  | _ n ih =>
    cases rest with
    | nil =>
      have hsize : line.utf8ByteSize = byteWidth before + byteWidth part := by
        rw [← byteWidth_toList, h, List.append_nil, byteWidth_append]
      rw [List.flatMap_nil, scanBytes, hsize, slice?_between h]
      simp [segmentsFrom, glue]
    | cons c cs =>
      by_cases hcut : s.isOuter ∧ arrow <+: c :: cs
      · obtain ⟨houter, tail, htail⟩ := hcut
        rw [← htail] at h hn ⊢
        have hshort : tail.length < n := hn ▸ length_lt_behind [] tail
        have hnext : line.toList = (before ++ part ++ arrow) ++ [] ++ tail := by
          rw [h]
          simp only [List.append_assoc, List.nil_append]
        have hoffset : byteWidth (before ++ part ++ arrow) =
            byteWidth before + byteWidth part + 3 := by
          rw [byteWidth_append, byteWidth_append]
          rfl
        have hscan := ih tail.length hshort s hnext rfl
        rw [byteWidth_nil, Nat.add_zero, hoffset, glue_nil (segmentsFrom_ne_nil s tail)] at hscan
        rw [scanBytes_arrow houter (slice?_between h), hscan, segmentsFrom_arrow houter]
        simp [glue]
      · have hnext : line.toList = before ++ (part ++ [c]) ++ cs := by
          rw [h]
          simp only [List.append_assoc, List.singleton_append]
        have hshort : cs.length < n := by
          rw [← hn, List.length_cons]
          omega
        have hscan := ih cs.length hshort (s.after c) hnext rfl
        rw [byteWidth_append, byteWidth_cons, byteWidth_nil, Nat.add_zero, ← Nat.add_assoc]
          at hscan
        rw [scanBytes_char hcut, hscan, segmentsFrom_cons hcut, glue_glue]

/-! ## Lines -/

/-- The segments of a line that is cut where it should be. -/
structure CutAtArrows (line : List Char) (segs : List (List Char)) : Prop where
  /-- Nothing is lost. -/
  joined : joinWith arrow segs = line
  /-- The cuts are the arrows outside of brackets and quotes. -/
  cut_iff : ∀ front back, CutBetween segs front back ↔
    line = front ++ arrow ++ back ∧ Neutral front
  /-- No segment is cut by itself. -/
  whole : ∀ seg ∈ segs, segments seg = [seg]

/-- Every line is cut at its arrows outside of brackets and quotes and nowhere else, into segments
that are cut no further; and a scan by bytes comes to the same segments. -/
theorem line_cut_at_arrows (line : String) :
    CutAtArrows line.toList (segments line.toList) ∧
      scanBytes line {} 0 0 (Utf8.encode line) =
        some ((segments line.toList).map String.ofList) := by
  refine ⟨⟨joinWith_segmentsFrom {} line.toList, ?_, ?_⟩, ?_⟩
  · intro front back
    rw [cutBetween_segments_iff, isOuter_afterAll_iff]
  · intro seg hseg
    exact segmentsFrom_eq_iff.mpr ((cut_segments line.toList).not_looseArrow hseg)
  · have hline : line.toList = [] ++ [] ++ line.toList := rfl
    rw [Utf8.encode_eq]
    exact (scanBytes_eq {} hline).trans (by rw [glue_nil (segmentsFrom_ne_nil _ _), segments])

end Playbook.Flowchart
