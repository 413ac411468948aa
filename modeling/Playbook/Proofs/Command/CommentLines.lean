/-
  Comments between the lines of a shell block. A comment that is not indented passes for the line
  that closes the block, if one is open, and ends the command, if none is. So it is at the next line
  of code that the commands stay what they were or do not: they do exactly if that line meets the
  fate that it meets without the comment (`comment_harmless_iff`).
-/
import Playbook.Proofs.Command.Likeness

namespace Playbook.Splitter

open Playbook.Text

/-- Whether a line is more than blanks, and no comment. -/
def isCode (line : List Char) : Bool := !isAllBlank line && !isComment line

/-- The lines before the first line of code. -/
def untilCode (ls : List (List Char)) : List (List Char) := ls.takeWhile (!isCode ·)

/-- The lines from the first line of code on. -/
def fromCode (ls : List (List Char)) : List (List Char) := ls.dropWhile (!isCode ·)

/-- Two blocks come to as many commands, with the same rows in each but for comments and for blanks
at the ends of rows. -/
def SameButComments (ls ls' : List (List Char)) : Prop :=
  (splitShell ls).map (ownRows isComment) = (splitShell ls').map (ownRows isComment)

instance (ls ls' : List (List Char)) : Decidable (SameButComments ls ls') :=
  inferInstanceAs (Decidable (_ = _))

/-! ## Splitters at rest -/

/-- What holds of a splitter behind any lines. -/
structure Sound (s : Splitter) : Prop where
  begun : s.inBlock → s.buffer ≠ []
  solid : s.joining = false → s.buffer ≠ [] → ¬ isAllBlank s.buffer
  rowed : ∃ rows last, Rowed s.buffer rows last

/-- A splitter behind a line that is not carried on. -/
structure Resting (s : Splitter) : Prop extends Sound s where
  rests : s.joining = false

theorem Rowed.alike_self {s : Splitter} {rows : List (List Char)} {last : List Char}
    (h : Rowed s.buffer rows last) (drop : List Char → Bool) : Alike drop s s :=
  ⟨rfl, rfl, rfl, Iff.rfl, rows, last, rows, last, h, h, rfl, .kept rfl fun _ => rfl⟩

theorem sound_empty (done : List String) : Sound { done } where
  begun := fun hopen => absurd hopen Bool.false_ne_true
  solid := fun _ hne => absurd rfl hne
  rowed := ⟨[], [], .single List.not_mem_nil⟩

/-- What is more than blanks stays so at the end of a buffer. -/
theorem sound_settle {s : Splitter} {cs x : List Char} (hbuffer : s.buffer = cs ++ x)
    (hsolid : ¬ isAllBlank x) (hrows : ∃ rows last, Rowed (settle s).buffer rows last) :
    Sound (settle s) := by
  have hbegun : ¬ isAllBlank s.buffer := fun hblank =>
    hsolid (isAllBlank_append.mp (hbuffer ▸ hblank)).2
  have hne : s.buffer ≠ [] := by
    intro hc
    exact hbegun (hc ▸ rfl)
  rw [settle_eq_settled] at hrows ⊢
  refine ⟨fun _ => settled_ne_nil hne, fun hrests _ => ?_, hrows⟩
  have hlast : s.buffer.getLast? ≠ some '\\' := of_decide_eq_false hrests
  dsimp only
  rwa [settled, if_neg hlast]

theorem sound_feed {s : Splitter} (h : Sound s) {l : List Char} (hl : '\n' ∉ l) :
    Sound (feed s l) := by
  obtain ⟨rows, last, hrowed⟩ := h.rowed
  have halike := alike_feed .never (hrowed.alike_self _) hl hl rfl fun _ => Iff.rfl
  obtain ⟨rows', last', _, _, hrowed', _⟩ := halike.rowed
  have hrows : ∃ rows last, Rowed (feed s l).buffer rows last := ⟨rows', last', hrowed'⟩
  rw [feed_eq_meet] at hrows ⊢
  cases hfate : fate s l with
  | blank => exact h
  | comment => exact sound_empty s.emit.done
  | opening =>
    have hsolid := not_blank_of_fate hfate (by decide)
    rw [hfate] at hrows
    refine sound_settle (List.nil_append _).symm (fun hblank => hsolid ?_) hrows
    rwa [← trim_eq_nil_iff, trim_trim, trim_eq_nil_iff] at hblank
  | continued =>
    have hsolid := not_blank_of_fate hfate (by decide)
    rw [hfate] at hrows
    refine sound_settle rfl (fun hblank => hsolid ?_) hrows
    rwa [← trim_eq_nil_iff, trim, trimRight_eq_nil_iff]
  | nested =>
    have hsolid := not_blank_of_fate hfate (by decide)
    rw [hfate] at hrows
    exact sound_settle (List.append_cons ..) (by rwa [isAllBlank_trimRight]) hrows
  | closing =>
    have hsolid := not_blank_of_fate hfate (by decide)
    rw [hfate] at hrows
    exact sound_settle (List.append_cons ..) (by rwa [isAllBlank_trimRight]) hrows

theorem sound_foldl {s : Splitter} (h : Sound s) {ls : List (List Char)}
    (free : ∀ l ∈ ls, '\n' ∉ l) : Sound (ls.foldl feed s) := by
  induction ls generalizing s with
  | nil => exact h
  | cons l ls ih =>
    exact ih (sound_feed h (free l List.mem_cons_self)) fun x hx =>
      free x (List.mem_cons_of_mem _ hx)

/-! ## Comments at rest -/

/-- The rows of the commands so far that are no comments, the last command first. -/
def told (s : Splitter) : List (List (List Char)) := s.emit.done.map (ownRows isComment)

theorem told_of_solid {s : Splitter} (h : ¬ isAllBlank s.buffer) {rows : List (List Char)}
    {last : List Char} (hrowed : Rowed s.buffer rows last) :
    told s = own isComment (rows ++ [last]) :: s.done.map (ownRows isComment) := by
  rw [told, emit_of_solid h, List.map_cons, hrowed.ownRows_trimRight .comment]

@[simp] theorem told_emit (s : Splitter) : told s.emit = told s := rfl

/-- A row that is a comment tells nothing. -/
theorem told_comment {s : Splitter} (h : Sound s) (hsolid : ¬ isAllBlank s.buffer) {l : List Char}
    (hl : '\n' ∉ l) (hcomment : isComment l) (inBlock : Bool) :
    told { s with buffer := s.buffer ++ '\n' :: trimRight l, inBlock } = told s := by
  obtain ⟨rows, last, hrowed⟩ := h.rowed
  have hfree : '\n' ∉ trimRight l := fun hc => hl ((trimRight_isPrefix l).subset hc)
  have hrow : isComment (trimRight l) := (isComment_trimRight l).trans hcomment
  have hmore : Rowed (s.buffer ++ '\n' :: trimRight l) (rows ++ [last]) (trimRight l) :=
    hrowed.newRow hfree (not_blank_of_isComment hrow)
  have hbehind : ¬ isAllBlank (s.buffer ++ '\n' :: trimRight l) := fun hblank =>
    hsolid (isAllBlank_append.mp hblank).1
  rw [told_of_solid hbehind hmore, told_of_solid hsolid hrowed,
    own_append isComment _ [trimRight l], own_dropped _ hrow, List.append_nil]

/-- What a comment does to a splitter at rest: it tells nothing, an open block stays open behind an
indented comment only, and a command stays open behind an indented comment, or in place of the line
that closes its block. -/
structure Passed (s : Splitter) (l : List Char) (s' : Splitter) : Prop where
  resting : Resting s'
  told : told s' = told s
  inBlock : s'.inBlock ↔ isIndented l ∧ s.buffer ≠ []
  begun : s'.buffer ≠ [] ↔ isIndented l ∧ s.buffer ≠ [] ∨ s.inBlock

theorem passed_feed {s : Splitter} (h : Resting s) {l : List Char} (hl : '\n' ∉ l)
    (hcomment : isComment l) (hends : ¬ Continues l) : Passed s l (feed s l) := by
  have hsolid := not_blank_of_isComment hcomment
  have hrests := h.rests
  have hsound := sound_feed h.toSound hl
  by_cases hnested : isIndented l ∧ s.buffer ≠ []
  · have hfed : feed s l =
        { s with buffer := s.buffer ++ '\n' :: trimRight l, inBlock := true } := by
      obtain ⟨cs, joining, inBlock, done⟩ := s
      obtain rfl : joining = false := hrests
      exact feed_nested hnested.2 hends done ⟨hsolid, hnested.1⟩ inBlock
    rw [hfed] at hsound ⊢
    exact {
      resting := ⟨hsound, hrests⟩
      told := told_comment h.toSound (h.solid hrests hnested.2) hl hcomment true
      inBlock := iff_of_true rfl hnested
      begun := iff_of_true (by simp) (Or.inl hnested) }
  · by_cases hopen : s.inBlock
    · have hne := h.begun hopen
      have hflush : ¬ isIndented l := fun hc => hnested ⟨hc, hne⟩
      have hfed : feed s l =
          { s with buffer := s.buffer ++ '\n' :: trimRight l, inBlock := false } := by
        obtain ⟨cs, joining, inBlock, done⟩ := s
        obtain rfl : joining = false := hrests
        obtain rfl : inBlock = true := hopen
        exact feed_closing hends done ⟨hsolid, hflush⟩
      rw [hfed] at hsound ⊢
      exact {
        resting := ⟨hsound, hrests⟩
        told := told_comment h.toSound (h.solid hrests hne) hl hcomment false
        inBlock := iff_of_false Bool.false_ne_true hnested
        begun := iff_of_true (by simp) (Or.inr hopen) }
    · have hfate : fate s l = .comment := by
        unfold fate
        grind
      have hfed : feed s l = s.emit := by rw [feed_eq_meet, hfate, meet]
      rw [hfed] at hsound ⊢
      exact {
        resting := ⟨hsound, rfl⟩
        told := told_emit s
        inBlock := iff_of_false Bool.false_ne_true hnested
        begun := iff_of_false (fun hc => hc rfl) (not_or.mpr ⟨hnested, hopen⟩) }

/-! ## With the comment and without -/

/-- Two splitters at rest that tell the same, of which the second may have ended a command or closed
a block that the first has not. -/
structure Apart (s s' : Splitter) : Prop where
  resting : Resting s
  resting' : Resting s'
  told : told s = told s'
  begun : s'.buffer ≠ [] → s.buffer ≠ []
  inBlock : s'.inBlock → s.inBlock

theorem apart_comment {s : Splitter} (h : Resting s) {l : List Char} (hl : '\n' ∉ l)
    (hcomment : isComment l) (hflush : ¬ isIndented l) (hends : ¬ Continues l) :
    Apart s (feed s l) := by
  have hpassed := passed_feed h hl hcomment hends
  refine ⟨h, hpassed.resting, hpassed.told.symm, fun hne => ?_, fun hopen => ?_⟩
  · rcases hpassed.begun.mp hne with hnested | hopen
    · exact absurd hnested.1 hflush
    · exact h.begun hopen
  · exact absurd (hpassed.inBlock.mp hopen).1 hflush

theorem apart_feed {s s' : Splitter} (h : Apart s s') {l : List Char} (hl : '\n' ∉ l)
    (hcode : isCode l = false) (hends : ¬ Continues l) : Apart (feed s l) (feed s' l) := by
  by_cases hblank : isAllBlank l
  · have hsame : ∀ t, feed t l = t := fun t => by
      have hfate : fate t l = .blank := if_pos hblank
      rw [feed_eq_meet, hfate, meet]
    rwa [hsame, hsame]
  · have hcomment : isComment l := by
      unfold isCode at hcode
      grind
    have hpassed := passed_feed h.resting hl hcomment hends
    have hpassed' := passed_feed h.resting' hl hcomment hends
    refine ⟨hpassed.resting, hpassed'.resting, ?_, fun hne => ?_, fun hopen => ?_⟩
    · rw [hpassed.told, h.told, hpassed'.told]
    · refine hpassed.begun.mpr ?_
      rcases hpassed'.begun.mp hne with hnested | hopen
      · exact Or.inl ⟨hnested.1, h.begun hnested.2⟩
      · exact Or.inr (h.inBlock hopen)
    · have hnested := hpassed'.inBlock.mp hopen
      exact hpassed.inBlock.mpr ⟨hnested.1, h.begun hnested.2⟩

theorem apart_foldl {s s' : Splitter} (h : Apart s s') {ls : List (List Char)}
    (hls : ∀ l ∈ ls, '\n' ∉ l ∧ isCode l = false ∧ ¬ Continues l) :
    Apart (ls.foldl feed s) (ls.foldl feed s') := by
  induction ls generalizing s s' with
  | nil => exact h
  | cons l ls ih =>
    obtain ⟨hl, hcode, hends⟩ := hls l List.mem_cons_self
    exact ih (apart_feed h hl hcode hends) fun x hx => hls x (List.mem_cons_of_mem _ hx)

/-! ## The next line of code -/

theorem not_blank_of_isCode {l : List Char} (h : isCode l) : ¬ isAllBlank l := by
  unfold isCode at h
  grind

theorem not_isComment_of_isCode {l : List Char} (h : isCode l) : isComment l = false := by
  unfold isCode at h
  grind

/-- What becomes of a line of code behind a line that is not carried on. -/
theorem fate_of_isCode {s : Splitter} (h : s.joining = false) {l : List Char} (hcode : isCode l) :
    fate s l = if isIndented l ∧ s.buffer ≠ [] then .nested
      else if s.inBlock then .closing else .opening := by
  have hsolid := not_blank_of_isCode hcode
  have hcomment := not_isComment_of_isCode hcode
  unfold fate
  grind

theorem begun_of_fate {s : Splitter} (h : Sound s) {l : List Char}
    (hfate : fate s l = .nested ∨ fate s l = .closing) : s.buffer ≠ [] := by
  have hbegun := h.begun
  unfold fate at hfate
  grind

/-- A line of code that is more than a backslash has a row of its own, which is no comment. -/
theorem isComment_row {l : List Char} (hcode : isCode l) (hmore : trim l ≠ ['\\'])
    (w : List Char) : isComment (rowOf l ++ w) = false := by
  have hsolid := not_blank_rowOf (not_blank_of_isCode hcode) hmore
  obtain ⟨t, ht⟩ := rowOf_isPrefix l
  rw [isComment_append hsolid, ← isComment_append hsolid t, ht]
  exact not_isComment_of_isCode hcode

section

variable {s s' : Splitter} (h : Apart s s') {next : List Char} (hcode : isCode next)

include h hcode

/-- If the next line of code meets the same fate, nothing but the comments tells the splitters apart
behind it. -/
theorem Apart.alike (hmore : trim next ≠ ['\\']) (hnext : '\n' ∉ next)
    (hfate : fate s next = fate s' next) :
    Alike isComment (feed s next) (feed s' next) := by
  have hsolid := not_blank_of_isCode hcode
  have hfree : '\n' ∉ trimRight next := fun hc => hnext ((trimRight_isPrefix next).subset hc)
  -- the row of the line stands behind rows that tell the same
  have hrow : ∀ inBlock, s.buffer ≠ [] → s'.buffer ≠ [] →
      Alike isComment
        (settle { s with buffer := s.buffer ++ '\n' :: trimRight next, inBlock })
        (settle { s' with buffer := s'.buffer ++ '\n' :: trimRight next, inBlock }) := by
    intro inBlock hne hne'
    obtain ⟨rows, last, hrowed⟩ := h.resting.rowed
    obtain ⟨rows', last', hrowed'⟩ := h.resting'.rowed
    have htold := h.told
    rw [told_of_solid (h.resting.solid h.resting.rests hne) hrowed,
      told_of_solid (h.resting'.solid h.resting'.rests hne') hrowed'] at htold
    obtain ⟨hown, hdone⟩ := List.cons.inj htold
    exact alike_newRow hdone hrowed hrowed' hown hfree (not_blank_withoutBackslash hsolid hmore)
      inBlock
  rw [feed_eq_meet, feed_eq_meet, ← hfate]
  have hcases := fate_of_isCode h.resting.rests hcode
  split at hcases
  · have hne := begun_of_fate h.resting.toSound (Or.inl hcases)
    have hne' := begun_of_fate h.resting'.toSound (Or.inl (hfate ▸ hcases))
    rw [hcases]
    exact hrow true hne hne'
  · split at hcases
    · have hne := begun_of_fate h.resting.toSound (Or.inr hcases)
      have hne' := begun_of_fate h.resting'.toSound (Or.inr (hfate ▸ hcases))
      rw [hcases]
      exact hrow false hne hne'
    · rw [hcases]
      refine alike_opening h.told (fun hc => hnext (mem_of_mem_trim hc)) fun hc => ?_
      exact hsolid (trim_eq_nil_iff.mp hc)

/-- If it meets another fate, it is a row of the command without the comment, and begins a command
behind it. -/
theorem Apart.attached (hfate : fate s next ≠ fate s' next) :
    (fate s next = .nested ∨ fate s next = .closing) ∧ fate s' next = .opening := by
  have hbegun := h.begun
  have hopen := h.inBlock
  have hsound := h.resting.begun
  have hsound' := h.resting'.begun
  rw [fate_of_isCode h.resting.rests hcode, fate_of_isCode h.resting'.rests hcode] at hfate ⊢
  grind

/-- Then the command has a row more than it has behind the comment. -/
theorem Apart.torn (hmore : trim next ≠ ['\\']) (hnext : '\n' ∉ next)
    (hfate : fate s next ≠ fate s' next) (ls : List (List Char)) :
    (ls.foldl feed (feed s next)).finish.map (ownRows isComment) ≠
      (ls.foldl feed (feed s' next)).finish.map (ownRows isComment) := by
  obtain ⟨hattached, hopening⟩ := h.attached hcode hfate
  have hne := begun_of_fate h.resting.toSound hattached
  obtain ⟨rows, last, hrowed⟩ := h.resting.rowed
  obtain ⟨c, more, w, hfinish, hc⟩ := exists_command_row hattached hmore ls
  have hrows : ∃ row others, ownRows isComment c =
      own isComment (rows ++ [last]) ++ row :: others := by
    obtain ⟨first, others, hpieces⟩ := (Rowed.single (rowOf_free hnext)).exists_pieces w
    refine ⟨trimRight (rowOf next ++ first), own isComment others, ?_⟩
    rw [ownRows, hc, pieces_append_cons, hrowed.pieces_eq, hpieces, List.nil_append, own_append,
      List.append_cancel_left_eq, ← List.singleton_append, own_append,
      own_kept _ (isComment_row hcode hmore first), List.singleton_append]
  obtain ⟨row, others, hrows⟩ := hrows
  have hdone : (feed s' next).done = s'.emit.done := by
    rw [feed_eq_meet, hopening, meet, settle_done]
  obtain ⟨behind, hbehind⟩ := done_isPrefix (feed s' next) ls
  have htold := h.told
  rw [told_of_solid (h.resting.solid h.resting.rests hne) hrowed, Splitter.told] at htold
  intro hsame
  rw [hfinish, ← hbehind, hdone, List.map_append, List.map_append, List.map_reverse,
    List.map_reverse, ← htold, List.reverse_cons, List.append_assoc, List.append_cancel_left_eq,
    List.map_cons, List.singleton_append, hrows] at hsame
  simpa using (List.cons.inj hsame).1

end

/-- Lines that begin with code come to the same commands behind both splitters exactly if the first
of them meets the same fate; without lines the commands are the same. -/
theorem Apart.same_iff {s s' : Splitter} (h : Apart s s') {ls : List (List Char)}
    (free : ∀ l ∈ ls, '\n' ∉ l) (hcode : ∀ next ∈ ls.head?, isCode next)
    (hmore : ∀ next ∈ ls.head?, trim next ≠ ['\\']) :
    (ls.foldl feed s).finish.map (ownRows isComment) =
        (ls.foldl feed s').finish.map (ownRows isComment) ↔
      ∀ next ∈ ls.head?, fate s next = fate s' next := by
  cases ls with
  | nil =>
    refine iff_of_true ?_ fun next hnone => absurd hnone (by simp)
    have htold := h.told
    unfold Splitter.told at htold
    rw [List.foldl_nil, List.foldl_nil, finish, finish, List.map_reverse, List.map_reverse, htold]
  | cons next ls =>
    have hnext := free next List.mem_cons_self
    have hls : ∀ l ∈ ls, '\n' ∉ l := fun l hl => free l (List.mem_cons_of_mem _ hl)
    have hline := hcode next rfl
    have hrow := hmore next rfl
    rw [List.foldl_cons, List.foldl_cons, List.head?_cons]
    constructor
    · intro hsame x hx
      obtain rfl : next = x := Option.some.inj hx
      refine Decidable.byContradiction fun hfate => ?_
      exact h.torn hline hrow hnext hfate ls hsame
    · intro hfate
      have halike := h.alike hline hrow hnext (hfate next rfl)
      exact ownRows_finish .comment (alike_foldl .comment halike hls)

/-! ## A comment between two lines -/

theorem untilCode_append_fromCode (ls : List (List Char)) : untilCode ls ++ fromCode ls = ls :=
  List.takeWhile_append_dropWhile

theorem not_isCode_of_mem {l : List Char} {ls : List (List Char)} (h : l ∈ untilCode ls) :
    isCode l = false := by
  simpa using List.all_eq_true.mp List.all_takeWhile l h

theorem isCode_of_head? {next : List Char} {ls : List (List Char)}
    (h : next ∈ (fromCode ls).head?) : isCode next := by
  have hhead := List.head?_dropWhile_not (!isCode ·) ls
  unfold fromCode at h
  simpa [Option.mem_def.mp h] using hhead

theorem foldl_blank (s : Splitter) {ls : List (List Char)} (h : ∀ l ∈ ls, isAllBlank l) :
    ls.foldl feed s = s := by
  have hnone : ls.filter (!isAllBlank ·) = [] := by
    simpa [List.filter_eq_nil_iff] using h
  rw [← foldl_feed_filter, hnone, List.foldl_nil]

/-- Right behind the comment, the next line of code meets another fate if the comment has closed the
block that the line belongs to, or has ended the command of a block that the line opens. -/
theorem Passed.fate_eq_iff {s s' : Splitter} {comment next : List Char} (h : Passed s comment s')
    (hs : Resting s) (hflush : ¬ isIndented comment) (hcode : isCode next) :
    fate s next = fate s' next ↔ s.buffer = [] ∨ (s.inBlock ↔ isIndented next) := by
  have hbegun := hs.begun
  have hclosed : s'.inBlock = false := by
    have hopen := h.inBlock
    grind
  have hkept : s'.buffer ≠ [] ↔ s.inBlock := by
    have hkept := h.begun
    grind
  rw [fate_of_isCode hs.rests hcode, fate_of_isCode h.resting.rests hcode]
  grind

section

variable {front back : List (List Char)} {comment : List Char}

/-- The lines before the next line of code leave the splitters apart by the comment only. -/
theorem apart_untilCode (free : ∀ l ∈ front ++ comment :: back, '\n' ∉ l)
    (hrests : (front.foldl feed {}).joining = false) (hcomment : isComment comment)
    (hflush : ¬ isIndented comment) (hends : ∀ l ∈ comment :: untilCode back, ¬ Continues l) :
    Apart ((front ++ untilCode back).foldl feed {})
      ((front ++ comment :: untilCode back).foldl feed {}) := by
  have hfront : ∀ l ∈ front, '\n' ∉ l := fun l hl => free l (List.mem_append_left _ hl)
  have hs : Resting (front.foldl feed {}) := ⟨sound_foldl (sound_empty []) hfront, hrests⟩
  have hput := apart_comment hs (free comment (by simp)) hcomment hflush
    (hends comment List.mem_cons_self)
  rw [List.foldl_append, List.foldl_append, List.foldl_cons]
  refine apart_foldl hput fun l hl => ⟨?_, not_isCode_of_mem hl, ?_⟩
  · have hback : l ∈ back := List.takeWhile_subset _ hl
    exact free l (by simp [hback])
  · exact hends l (List.mem_cons_of_mem _ hl)

/-- A comment that is not indented, put where no line is carried on, leaves the commands of a block
what they are but for comments, exactly if the next line of code meets the fate that it meets
without the comment. Right behind the comment, or behind blank lines, it does exactly if no command
has begun, or if it is indented and the block of the command is open, or neither. -/
theorem comment_harmless_iff (free : ∀ l ∈ front ++ comment :: back, '\n' ∉ l)
    (hrests : (front.foldl feed {}).joining = false) (hcomment : isComment comment)
    (hflush : ¬ isIndented comment) (hends : ∀ l ∈ comment :: untilCode back, ¬ Continues l)
    (hmore : ∀ next ∈ (fromCode back).head?, trim next ≠ ['\\']) :
    (SameButComments (front ++ back) (front ++ comment :: back) ↔
      ∀ next ∈ (fromCode back).head?,
        fate ((front ++ untilCode back).foldl feed {}) next =
          fate ((front ++ comment :: untilCode back).foldl feed {}) next) ∧
    ((∀ l ∈ untilCode back, isAllBlank l) →
      (SameButComments (front ++ back) (front ++ comment :: back) ↔
        ∀ next ∈ (fromCode back).head?,
          (front.foldl feed {}).buffer = [] ∨
            ((front.foldl feed {}).inBlock ↔ isIndented next))) := by
  have hapart := apart_untilCode free hrests hcomment hflush hends
  have hfree : ∀ l ∈ fromCode back, '\n' ∉ l := by
    intro l hl
    have hback : l ∈ back := List.dropWhile_subset _ hl
    exact free l (by simp [hback])
  have hrun : ∀ ls, splitShell (ls ++ fromCode back) =
      ((fromCode back).foldl feed (ls.foldl feed {})).finish := fun ls => by
    rw [splitShell, List.foldl_append]
  have hplain : front ++ back = (front ++ untilCode back) ++ fromCode back := by
    rw [List.append_assoc, untilCode_append_fromCode]
  have hput : front ++ comment :: back =
      (front ++ comment :: untilCode back) ++ fromCode back := by
    rw [List.append_assoc, List.cons_append, untilCode_append_fromCode]
  have hiff : SameButComments (front ++ back) (front ++ comment :: back) ↔
      ∀ next ∈ (fromCode back).head?,
        fate ((front ++ untilCode back).foldl feed {}) next =
          fate ((front ++ comment :: untilCode back).foldl feed {}) next := by
    unfold SameButComments
    rw [hplain, hput, hrun, hrun]
    exact hapart.same_iff hfree (fun next hnext => isCode_of_head? hnext) hmore
  refine ⟨hiff, fun hblank => hiff.trans (forall₂_congr fun next hnext => ?_)⟩
  have hfront : ∀ l ∈ front, '\n' ∉ l := fun l hl => free l (List.mem_append_left _ hl)
  have hs : Resting (front.foldl feed {}) := ⟨sound_foldl (sound_empty []) hfront, hrests⟩
  have hpassed := passed_feed hs (free comment (by simp)) hcomment
    (hends comment List.mem_cons_self)
  rw [List.foldl_append, foldl_blank _ hblank, List.foldl_append, List.foldl_cons,
    foldl_blank _ hblank]
  exact hpassed.fate_eq_iff hs hflush (isCode_of_head? hnext)

end

/-- A loop that is not closed yet. -/
def openLoop : List (List Char) := ["for f in *; do", "  echo $f"].map String.toList

/-- More of its block, and the line that closes it. -/
def loopEnd : List (List Char) := ["", "  echo $f", "done"].map String.toList

theorem nextComment_harmless :
    ((∀ l ∈ openLoop ++ "# next".toList :: loopEnd, '\n' ∉ l) ∧
      (openLoop.foldl feed {}).joining = false ∧
      isComment "# next".toList ∧ ¬ isIndented "# next".toList ∧
      (∀ l ∈ "# next".toList :: untilCode loopEnd, ¬ Continues l) ∧
      (∀ next ∈ (fromCode loopEnd).head?, trim next ≠ ['\\']) ∧
      (∀ l ∈ untilCode loopEnd, isAllBlank l)) ∧
    splitShell (openLoop ++ loopEnd) = ["for f in *; do\n  echo $f\n  echo $f\ndone"] ∧
    splitShell (openLoop ++ "# next".toList :: loopEnd) =
      ["for f in *; do\n  echo $f\n# next\n  echo $f\ndone"] ∧
    SameButComments (openLoop ++ loopEnd) (openLoop ++ "# next".toList :: loopEnd) := by
  have hfree : ∀ l ∈ openLoop ++ "# next".toList :: loopEnd, '\n' ∉ l := by decide
  have hrests : (openLoop.foldl feed {}).joining = false := by decide
  have hcomment : isComment "# next".toList := by decide
  have hflush : ¬ isIndented "# next".toList := by decide
  have hends : ∀ l ∈ "# next".toList :: untilCode loopEnd, ¬ Continues l := by decide
  have hmore : ∀ next ∈ (fromCode loopEnd).head?, trim next ≠ ['\\'] := by decide
  have hblank : ∀ l ∈ untilCode loopEnd, isAllBlank l := by decide
  have hiff := (comment_harmless_iff hfree hrests hcomment hflush hends hmore).2 hblank
  exact ⟨⟨hfree, hrests, hcomment, hflush, hends, hmore, hblank⟩, by decide, by decide,
    hiff.mpr (by decide)⟩

/-- A comment in place of the line that closes the loop: that line is a command of its own. -/
theorem comment_tears_loop :
    (∀ l ∈ openLoop.getLast?, ¬ Continues l) ∧
    isComment "# next".toList ∧ ¬ isIndented "# next".toList ∧
    splitShell (openLoop ++ ["done".toList]) = ["for f in *; do\n  echo $f\ndone"] ∧
    splitShell (openLoop ++ ["# next".toList, "done".toList]) =
      ["for f in *; do\n  echo $f\n# next", "done"] ∧
    ¬ SameButComments (openLoop ++ ["done".toList])
      (openLoop ++ ["# next".toList, "done".toList]) := by
  decide

end Playbook.Splitter
