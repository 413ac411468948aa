/-
  Blanks at the ends of lines. They change no command, but for blanks, with one exception: of a line
  that carries on another one only the blanks at its beginning are dropped, so blanks behind its
  last backslash keep it from being carried on in turn (`blanks_harmless_iff`).
-/
import Playbook.Proofs.Command.Likeness

namespace Playbook.Splitter

open Playbook.Text

/-! ## Lines and what is put behind them -/

/-- The rows of a command without the blanks at their ends. -/
def trimmedRows (command : String) : List (List Char) :=
  (pieces '\n' command.toList).map trimRight

/-- Two blocks come to as many commands, with the same rows in each but for blanks at the ends of
rows. -/
def SameButBlanks (ls ls' : List (List Char)) : Prop :=
  (splitShell ls).map trimmedRows = (splitShell ls').map trimmedRows

instance (ls ls' : List (List Char)) : Decidable (SameButBlanks ls ls') :=
  inferInstanceAs (Decidable (_ = _))

/-- A line and what is put behind it. -/
structure PaddedLine where
  line : List Char
  pad : List Char
  no_newline : '\n' ∉ line ++ pad
  blank : isAllBlank pad

def PaddedLine.text (p : PaddedLine) : List Char := p.line ++ p.pad

/-- Nothing is put behind a backslash at the end of a line that carries on another one. -/
def Unharmed (s : Splitter) : List PaddedLine → Prop
  | [] => True
  | p :: ps =>
    (s.joining → p.line.getLast? = some '\\' → p.pad = []) ∧ Unharmed (feed s p.line) ps

instance decidableUnharmed : (s : Splitter) → (ps : List PaddedLine) → Decidable (Unharmed s ps)
  | _, [] => isTrue trivial
  | s, p :: ps =>
    @instDecidableAnd _ _ (inferInstanceAs (Decidable (_ → _ → _)))
      (decidableUnharmed (feed s p.line) ps)

theorem own_never (rows : List (List Char)) : own (fun _ => false) rows = rows.map trimRight := by
  have hkept : rows.filter (fun _ => !false) = rows := List.filter_eq_self.mpr fun _ _ => rfl
  rw [own, hkept]

/-- No row is left out. -/
theorem ownRows_never : ownRows (fun _ => false) = trimmedRows := by
  funext command
  rw [ownRows, own_never, trimmedRows]

theorem PaddedLine.trimRight_text (p : PaddedLine) : trimRight p.text = trimRight p.line :=
  trimRight_append_blank p.line p.blank

theorem PaddedLine.free (p : PaddedLine) : '\n' ∉ p.line := fun hc =>
  p.no_newline (List.mem_append_left _ hc)

/-- Blanks that hide no backslash between joined lines keep two splitters alike. -/
theorem alike_padded {s s' : Splitter} (h : Alike (fun _ => false) s s') {p : PaddedLine}
    (hp : s.joining → p.line.getLast? = some '\\' → p.pad = []) :
    Alike (fun _ => false) (feed s p.line) (feed s' p.text) := by
  refine alike_feed .never h p.free p.no_newline p.trimRight_text.symm fun hjoining => ?_
  unfold PaddedLine.text
  by_cases hpad : p.pad = []
  · rw [hpad, List.append_nil]
  · -- what ends with a blank does not end with a backslash
    refine iff_of_false (fun hc => hpad (hp hjoining hc)) fun hc => ?_
    rw [getLast?_append_of_ne_nil _ hpad] at hc
    exact not_blank_of_backslash hc p.blank

theorem alike_of_unharmed {s s' : Splitter} (h : Alike (fun _ => false) s s')
    {ps : List PaddedLine} (hps : Unharmed s ps) :
    Alike (fun _ => false) ((ps.map (·.line)).foldl feed s) ((ps.map (·.text)).foldl feed s') := by
  induction ps generalizing s s' with
  | nil => exact h
  | cons p ps ih => exact ih (alike_padded h hps.1) hps.2

/-! ## A backslash that is hidden -/

/-- A line that does not begin with a backslash. -/
def Plain (line : List Char) : Prop := (trimLeft line).head? ≠ some '\\'

instance (line : List Char) : Decidable (Plain line) := inferInstanceAs (Decidable (_ ≠ _))

theorem Plain.ne_backslash {line : List Char} (h : Plain line) : trim line ≠ ['\\'] := by
  intro hc
  obtain ⟨r, hr, _, _⟩ := exists_trimRight (trimLeft line)
  refine h ?_
  rw [hr, List.head?_append]
  unfold trim at hc
  rw [hc]
  rfl

/-- Behind a line that is not carried on, its row stays what it is but for blanks. -/
theorem exists_command_kept {s : Splitter} (hrests : s.joining = false)
    (hsolid : ¬ isAllBlank s.buffer) {rows : List (List Char)} {last : List Char}
    (hrowed : Rowed s.buffer rows last) {ls : List (List Char)} (hls : ∀ l ∈ ls, Plain l) :
    ∃ c more row others, (ls.foldl feed s).finish = s.done.reverse ++ c :: more ∧
      pieces '\n' c.toList = rows ++ row :: others ∧ trimRight row = trimRight last := by
  have hemitted : pieces '\n' (String.ofList (trimRight s.buffer)).toList =
      rows ++ [trimRight last] := by
    rw [String.toList_ofList, hrowed.trimRight.pieces_eq]
  induction ls with
  | nil =>
    refine ⟨_, [], trimRight last, [], ?_, hemitted, trimRight_trimRight last⟩
    rw [List.foldl_nil, finish, emit_of_solid hsolid, List.reverse_cons]
  | cons l ls ih =>
    -- a line that ends the command
    have hended : (feed s l).done = s.emit.done → ∃ c more row others,
        ((l :: ls).foldl feed s).finish = s.done.reverse ++ c :: more ∧
          pieces '\n' c.toList = rows ++ row :: others ∧ trimRight row = trimRight last := by
      intro hdone
      obtain ⟨more, hmore⟩ := done_isPrefix (feed s l) ls
      rw [hdone, emit_of_solid hsolid, List.reverse_cons, List.append_assoc] at hmore
      exact ⟨_, more, trimRight last, [], hmore.symm, hemitted, trimRight_trimRight last⟩
    -- a line that is another row of it
    have hrow : fate s l = .nested ∨ fate s l = .closing → ∃ c more row others,
        ((l :: ls).foldl feed s).finish = s.done.reverse ++ c :: more ∧
          pieces '\n' c.toList = rows ++ row :: others ∧ trimRight row = trimRight last := by
      intro hfate
      obtain ⟨c, more, w, hfinish, hc⟩ :=
        exists_command_row hfate (hls l List.mem_cons_self).ne_backslash ls
      refine ⟨c, more, last, pieces '\n' (rowOf l ++ w), hfinish, ?_, rfl⟩
      rw [hc, pieces_append_cons, hrowed.pieces_eq, List.append_assoc, List.singleton_append]
    have hmet := feed_eq_meet s l
    cases hfate : fate s l with
    | blank =>
      rw [hfate, meet] at hmet
      rw [List.foldl_cons, hmet]
      exact ih fun x hx => hls x (List.mem_cons_of_mem _ hx)
    | continued => exact absurd (joining_of_fate hfate) (by simp [hrests])
    | nested => exact hrow (Or.inl hfate)
    | closing => exact hrow (Or.inr hfate)
    | comment => exact hended (by rw [hmet, hfate, meet])
    | opening => exact hended (by rw [hmet, hfate, meet, settle_done])

/-- What is neither blank nor a backslash is not lost at the end of a text. -/
theorem append_isPrefix_settled (cs : List Char) {d : Char} (hd : isBlank d = false)
    (hne : d ≠ '\\') (w : List Char) : cs ++ [d] <+: settled (cs ++ d :: w) := by
  have hback : [d] <+: withoutBackslash (d :: w) := by
    unfold withoutBackslash
    split
    · next hlast =>
      cases w with
      | nil => exact absurd (Option.some.inj hlast) hne
      | cons e w => exact ⟨(e :: w).dropLast, rfl⟩
    · exact ⟨w, rfl⟩
  refine List.IsPrefix.trans ?_ (trimRight_isPrefix_settled _)
  refine prefix_trimRight (trimRight_concat cs hd) ?_
  rw [withoutBackslash_append _ (by simp)]
  exact (List.prefix_append_right_inj _).mpr hback

/-- A line that carries on another one is joined to it without the blanks at its beginning. -/
theorem feed_of_joining {s : Splitter} (hjoining : s.joining) {l : List Char}
    (hsolid : ¬ isAllBlank l) :
    feed s l = settle { s with buffer := s.buffer ++ trimLeft l } := by
  have hfate : fate s l = .continued := by
    unfold fate
    rw [if_neg hsolid, if_pos hjoining]
  rw [feed_eq_meet, hfate, meet]

/-- Behind a line that is carried on, its row ends where the backslash was, or goes on with one
blank and something that is neither blank nor a backslash. -/
theorem exists_command_joined {s : Splitter} (hjoining : s.joining) {front : List Char}
    (hbuffer : s.buffer = front ++ [' ']) {rows : List (List Char)} {last : List Char}
    (hrowed : Rowed front rows last) (hsolid : ¬ isAllBlank last) (htrim : trimRight last = last)
    {ls : List (List Char)} (hls : ∀ l ∈ ls, Plain l) :
    ∃ c more row others, (ls.foldl feed s).finish = s.done.reverse ++ c :: more ∧
      pieces '\n' c.toList = rows ++ row :: others ∧
      (trimRight row = last ∨
        ∃ d, isBlank d = false ∧ d ≠ '\\' ∧ last ++ [' ', d] <+: trimRight row) := by
  have hblank : isAllBlank [' '] := by decide
  have hkept : trimRight s.buffer = front := by
    rw [hbuffer, trimRight_append_blank _ hblank, hrowed.text, trimRight_append _ hsolid, htrim]
  induction ls with
  | nil =>
    have hbegun : ¬ isAllBlank s.buffer := by
      rw [← isAllBlank_trimRight, hkept, hrowed.isAllBlank_iff]
      exact hsolid
    refine ⟨String.ofList front, [], last, [], ?_, ?_, Or.inl htrim⟩
    · rw [List.foldl_nil, finish, emit_of_solid hbegun, List.reverse_cons, hkept]
    · rw [String.toList_ofList, hrowed.pieces_eq]
  | cons l ls ih =>
    by_cases hempty : isAllBlank l
    · have hfate : fate s l = .blank := if_pos hempty
      rw [List.foldl_cons, feed_eq_meet, hfate, meet]
      exact ih fun x hx => hls x (List.mem_cons_of_mem _ hx)
    · -- the line is joined behind one blank, and its first character stays
      have hfed := feed_of_joining hjoining hempty
      obtain ⟨d, w, hline⟩ := List.exists_cons_of_ne_nil (trimLeft_ne_nil hempty)
      have hd : isBlank d = false := by
        obtain ⟨_, _, _, hhead⟩ := exists_trimLeft l
        exact hhead d (by rw [hline]; rfl)
      have hne : d ≠ '\\' := by
        rintro rfl
        exact hls l List.mem_cons_self (by rw [hline]; rfl)
      rw [hline] at hfed
      have hbegins : front ++ [' ', d] <+: (feed s l).buffer := by
        rw [hfed, settle_eq_settled, List.append_cons, ← hbuffer]
        exact append_isPrefix_settled s.buffer hd hne w
      have hdone : (feed s l).done = s.done := by rw [hfed, settle_done]
      have htight : ∀ cs, trimRight (cs ++ [' ', d]) = cs ++ [' ', d] := fun cs => by
        rw [List.append_cons, trimRight_concat _ hd]
      have hfree : '\n' ∉ [' ', d] := by
        intro hmem
        have hcases : '\n' = ' ' ∨ '\n' = d := by simpa using hmem
        rcases hcases with hc | rfl
        · exact absurd hc (by decide)
        · exact absurd hd (by decide)
      obtain ⟨c, more, hfinish, w', hc⟩ := exists_command (htight front) (by simp) hbegins ls
      obtain ⟨first, others, hpieces⟩ := (hrowed.append hfree).exists_pieces w'
      refine ⟨c, more, last ++ [' ', d] ++ first, others, ?_, ?_, Or.inr ⟨d, hd, hne, ?_⟩⟩
      · rw [List.foldl_cons, hfinish, hdone]
      · rw [← hc, hpieces]
      · exact prefix_trimRight (htight last) (List.prefix_append _ _)

/-- A row that was carried on is not one that ends in the backslash. -/
theorem joined_ne_kept {t r row : List Char} (hr : isAllBlank r)
    (h : row = t ∨ ∃ d, isBlank d = false ∧ d ≠ '\\' ∧ t ++ [' ', d] <+: row) :
    row ≠ t ++ (r ++ ['\\']) := by
  rintro rfl
  rcases h with hend | ⟨d, hd, hne, hprefix⟩
  · simp at hend
  · have htail : [' ', d] <+: r ++ ['\\'] := (List.prefix_append_right_inj t).mp hprefix
    match r, hr with
    | [], _ => simp at htail
    | [b], _ =>
      have hlast : d = '\\' := by simpa using (List.cons_prefix_cons.mp htail).2
      exact hne hlast
    | b :: b' :: r, hr =>
      have hsame : d = b' := by
        have htail := (List.cons_prefix_cons.mp htail).2
        exact (List.cons_prefix_cons.mp htail).1
      have hblank := List.all_eq_true.mp hr b' (by simp)
      rw [← hsame, hd] at hblank
      cases hblank

theorem exists_front_of_backslash {l : List Char} (hplain : Plain l)
    (hback : l.getLast? = some '\\') : ∃ g, trimLeft l = g ++ ['\\'] ∧ ¬ isAllBlank g := by
  have hsolid := not_blank_of_backslash hback
  obtain ⟨g, hg⟩ := List.getLast?_eq_some_iff.mp ((getLast?_trimLeft hsolid).trans hback)
  refine ⟨g, hg, fun hblank => ?_⟩
  obtain ⟨_, _, _, hhead⟩ := exists_trimLeft l
  cases g with
  | nil => exact hplain (by rw [hg]; rfl)
  | cons c g =>
    have hc := hhead c (by rw [hg]; rfl)
    rw [List.all_eq_true.mp hblank c List.mem_cons_self] at hc
    cases hc

theorem PaddedLine.plain_text {p : PaddedLine} (h : Plain p.line) : Plain p.text := by
  unfold Plain text
  by_cases hblank : isAllBlank p.line
  · rw [trimLeft_of_blank (isAllBlank_append.mpr ⟨hblank, p.blank⟩)]
    nofun
  · have hne := List.head?_eq_some_head (trimLeft_ne_nil hblank)
    rw [trimLeft_append hblank, List.head?_append, hne, Option.some_or, ← hne]
    exact h

section

variable {s : Splitter} (hjoining : s.joining) {p : PaddedLine} {g : List Char}
  (hg : trimLeft p.line = g ++ ['\\']) {rows : List (List Char)} {last : List Char}
  (hrowed : Rowed s.buffer rows last) {ls : List (List Char)} (hls : ∀ l ∈ ls, Plain l)

include hjoining hg hrowed hls

/-- Without the blanks the line is carried on. -/
theorem exists_command_of_line (hsolid : ¬ isAllBlank g) :
    ∃ c more row others,
      (ls.foldl feed (feed s p.line)).finish = s.done.reverse ++ c :: more ∧
      pieces '\n' c.toList = rows ++ row :: others ∧
      (trimRight row = last ++ trimRight g ∨
        ∃ d, isBlank d = false ∧ d ≠ '\\' ∧
          last ++ trimRight g ++ [' ', d] <+: trimRight row) := by
  have hline : ¬ isAllBlank p.line := fun hc => by
    rw [trimLeft_of_blank hc] at hg
    simp at hg
  have hjoined : settled (s.buffer ++ (g ++ ['\\'])) = s.buffer ++ trimRight g ++ [' '] := by
    rw [← List.append_assoc, settled, List.getLast?_concat, if_pos rfl, withoutBackslash,
      List.getLast?_concat, if_pos rfl, List.dropLast_concat, trimRight_append _ hsolid]
  have hfed := feed_of_joining hjoining hline
  rw [hg, settle_eq_settled] at hfed
  dsimp only at hfed
  rw [hjoined] at hfed
  have hcarried : (feed s p.line).joining := by
    rw [hfed]
    simp [← List.append_assoc]
  have hfree : '\n' ∉ trimRight g := fun hc => by
    have hmem : '\n' ∈ trimLeft p.line :=
      hg ▸ List.mem_append_left _ ((trimRight_isPrefix g).subset hc)
    exact p.free ((List.dropWhile_suffix _).subset hmem)
  have hkept : ¬ isAllBlank (trimRight g) := by rwa [isAllBlank_trimRight]
  have hrow : ¬ isAllBlank (last ++ trimRight g) := fun hc => hkept (isAllBlank_append.mp hc).2
  have htight : trimRight (last ++ trimRight g) = last ++ trimRight g :=
    trimRight_append_line last hsolid
  have hcommand := exists_command_joined hcarried (by rw [hfed]) (hrowed.append hfree) hrow htight
    hls
  rwa [hfed] at hcommand ⊢

/-- With them it is not, and the backslash stays. -/
theorem exists_command_of_text (hpad : p.pad ≠ []) :
    ∃ c more row others,
      (ls.foldl feed (feed s p.text)).finish = s.done.reverse ++ c :: more ∧
      pieces '\n' c.toList = rows ++ row :: others ∧ trimRight row = last ++ (g ++ ['\\']) := by
  have hline : ¬ isAllBlank p.line := fun hc => by
    rw [trimLeft_of_blank hc] at hg
    simp at hg
  have htext : ¬ isAllBlank p.text := fun hc => hline (isAllBlank_append.mp hc).1
  have hadded : trimLeft p.text = g ++ ['\\'] ++ p.pad := by
    rw [PaddedLine.text, trimLeft_append hline, hg]
  have hhidden : (s.buffer ++ (g ++ ['\\'] ++ p.pad)).getLast? ≠ some '\\' := fun hc => by
    rw [← List.append_assoc, getLast?_append_of_ne_nil _ hpad] at hc
    exact not_blank_of_backslash hc p.blank
  have hfed := feed_of_joining hjoining htext
  rw [hadded, settle_of_last hhidden] at hfed
  have hfree : '\n' ∉ g ++ ['\\'] ++ p.pad := fun hc =>
    p.no_newline ((List.dropWhile_suffix _).subset (hadded ▸ hc))
  have hrow : ¬ isAllBlank (s.buffer ++ (g ++ ['\\'] ++ p.pad)) := fun hc => by
    have hbackslash := (isAllBlank_append.mp (isAllBlank_append.mp hc).2).1
    exact absurd (isAllBlank_append.mp hbackslash).2 (by decide)
  have hkept : trimRight (last ++ (g ++ ['\\'] ++ p.pad)) = last ++ (g ++ ['\\']) := by
    rw [← List.append_assoc, trimRight_append_blank _ p.blank, ← List.append_assoc]
    refine trimRight_of_backslash ?_
    rw [List.getLast?_concat]
  rw [hfed, ← hkept]
  exact exists_command_kept rfl hrow (hrowed.append hfree) hls

end

/-- Blanks that hide a backslash between joined lines show in the commands. -/
theorem differ_of_harmed {s s' : Splitter} (h : Alike (fun _ => false) s s') {p : PaddedLine}
    (hjoining : s.joining) (hback : p.line.getLast? = some '\\') (hpad : p.pad ≠ [])
    (hplain : Plain p.line) {ls ls' : List (List Char)} (hls : ∀ l ∈ ls, Plain l)
    (hls' : ∀ l ∈ ls', Plain l) :
    (ls.foldl feed (feed s p.line)).finish.map trimmedRows ≠
      (ls'.foldl feed (feed s' p.text)).finish.map trimmedRows := by
  obtain ⟨rows, last, rows', last', hrowed, hrowed', hown, hlast⟩ := h.rowed
  obtain rfl : last = last' := by
    cases hlast with
    | kept _ joined => exact joined hjoining
    | dropped left _ => cases left
  obtain ⟨g, hg, hsolid⟩ := exists_front_of_backslash hplain hback
  obtain ⟨r, hr, hblank, _⟩ := exists_trimRight g
  obtain ⟨c, more, row, others, hfinish, hpieces, hends⟩ :=
    exists_command_of_line hjoining hg hrowed hls hsolid
  obtain ⟨c', more', row', others', hfinish', hpieces', hends'⟩ :=
    exists_command_of_text (h.joining ▸ hjoining : s'.joining) hg hrowed' hls' hpad
  have hdone := h.done
  rw [ownRows_never] at hdone
  rw [own_never, own_never] at hown
  -- the commands before and the rows before are the same, so the rows of the line would be, too
  intro hsame
  rw [hfinish, hfinish', List.map_append, List.map_append, List.map_reverse, List.map_reverse,
    hdone, List.append_cancel_left_eq, List.map_cons, List.map_cons] at hsame
  have hcommand := (List.cons.inj hsame).1
  rw [trimmedRows, trimmedRows, hpieces, hpieces', List.map_append, List.map_append, hown,
    List.append_cancel_left_eq, List.map_cons, List.map_cons] at hcommand
  have hrows : trimRight row = last ++ trimRight g ++ (r ++ ['\\']) := by
    rw [(List.cons.inj hcommand).1, hends', List.append_assoc, ← List.append_assoc _ r, ← hr]
  exact joined_ne_kept hblank hends hrows

/-- The blanks are harmless only if they hide no backslash between joined lines. -/
theorem unharmed_of_same {s s' : Splitter} (h : Alike (fun _ => false) s s')
    {ps : List PaddedLine} (hplain : ∀ p ∈ ps, Plain p.line)
    (hsame : ((ps.map (·.line)).foldl feed s).finish.map trimmedRows =
      ((ps.map (·.text)).foldl feed s').finish.map trimmedRows) : Unharmed s ps := by
  induction ps generalizing s s' with
  | nil => exact trivial
  | cons p ps ih =>
    have hp := hplain p List.mem_cons_self
    have hps : ∀ q ∈ ps, Plain q.line := fun q hq => hplain q (List.mem_cons_of_mem _ hq)
    have hharmless : s.joining → p.line.getLast? = some '\\' → p.pad = [] := by
      intro hjoining hback
      refine Decidable.byContradiction fun hpad => ?_
      refine differ_of_harmed h hjoining hback hpad hp ?_ ?_ hsame
      · exact List.forall_mem_map.mpr hps
      · exact List.forall_mem_map.mpr fun q hq => PaddedLine.plain_text (hps q hq)
    exact ⟨hharmless, ih (alike_padded h hharmless) hps hsame⟩

/-- Blanks at the ends of lines change no command but for blanks, if none of them are put behind a
backslash at the end of a line that carries on another one; and where no line begins with a
backslash, only then. -/
theorem blanks_harmless_iff (ps : List PaddedLine) :
    (Unharmed {} ps → SameButBlanks (ps.map (·.line)) (ps.map (·.text))) ∧
    ((∀ p ∈ ps, Plain p.line) →
      (SameButBlanks (ps.map (·.line)) (ps.map (·.text)) ↔ Unharmed {} ps)) := by
  have hharmless : Unharmed {} ps → SameButBlanks (ps.map (·.line)) (ps.map (·.text)) := by
    intro hps
    have hsame := ownRows_finish .never (alike_of_unharmed alike_empty hps)
    rwa [ownRows_never] at hsame
  exact ⟨hharmless, fun hplain => ⟨unharmed_of_same alike_empty hplain, hharmless⟩⟩

/-- A call over three lines. The blanks stand where the backslash before them is found, and behind
the last line. -/
def spacedCall : List PaddedLine :=
  [{ line := "curl -s \\".toList, pad := " ".toList, no_newline := by decide, blank := by decide },
   { line := "  -o page \\".toList, pad := [], no_newline := by decide, blank := by decide },
   { line := "  $url".toList, pad := "\t".toList, no_newline := by decide, blank := by decide }]

theorem spacedCall_same :
    ((∀ p ∈ spacedCall, Plain p.line) ∧ Unharmed {} spacedCall) ∧
    spacedCall.map (·.text) = ["curl -s \\ ", "  -o page \\", "  $url\t"].map String.toList ∧
    splitShell (spacedCall.map (·.line)) = ["curl -s -o page $url"] ∧
    SameButBlanks (spacedCall.map (·.line)) (spacedCall.map (·.text)) := by
  have hplain : ∀ p ∈ spacedCall, Plain p.line := by decide
  have hharmless : Unharmed {} spacedCall := by decide
  have hsame := (blanks_harmless_iff spacedCall).2 hplain
  exact ⟨⟨hplain, hharmless⟩, by decide, by decide, hsame.mpr hharmless⟩

/-- The same call with the blanks behind the second backslash. -/
def cutCall : List PaddedLine :=
  [{ line := "curl -s \\".toList, pad := [], no_newline := by decide, blank := by decide },
   { line := "  -o page \\".toList, pad := " ".toList, no_newline := by decide,
     blank := by decide },
   { line := "  $url".toList, pad := [], no_newline := by decide, blank := by decide }]

/-- The backslash stays, and the lines behind it are not joined. -/
theorem cutCall_differs :
    splitShell (cutCall.map (·.line)) = ["curl -s -o page $url"] ∧
    splitShell (cutCall.map (·.text)) = ["curl -s -o page \\ \n  $url"] ∧
    ¬ SameButBlanks (cutCall.map (·.line)) (cutCall.map (·.text)) := by
  decide

end Playbook.Splitter
