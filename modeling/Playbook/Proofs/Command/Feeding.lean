/-
  What becomes of a line of a shell block. That depends on the line and on three things: whether
  the line before is continued, whether a command has begun, and whether its block is open
  (`fate`). Of what a line adds, a backslash at its end is kept by none (`settle_eq`). Commands that
  are finished play no part in what comes behind them (`finish_foldl_behind`).
-/
import Playbook.Proofs.Text.Trimming
import Playbook.Command.Splitting

namespace Playbook.Splitter

open Playbook.Text

/-! ## Lines -/

/-- Whether a line begins with a blank. -/
def isIndented (line : List Char) : Bool := (line.head?.map isBlank).getD false

/-- Whether a line is a comment. -/
def isComment (line : List Char) : Bool := (trimLeft line).head? == some '#'

/-- A text without one backslash at its end, if there is one. -/
def withoutBackslash (cs : List Char) : List Char :=
  if cs.getLast? = some '\\' then cs.dropLast else cs

theorem withoutBackslash_append (cs : List Char) {ds : List Char} (hne : ds ≠ []) :
    withoutBackslash (cs ++ ds) = cs ++ withoutBackslash ds := by
  have hlast : (cs ++ ds).getLast? = ds.getLast? := by
    rw [List.getLast?_append, List.getLast?_eq_some_getLast hne, Option.some_or]
  unfold withoutBackslash
  rw [hlast]
  split
  · rw [List.dropLast_append_of_ne_nil hne]
  · rfl

/-- A backslash at the end of the command gives way to one blank, whatever the line it is from. -/
theorem settle_eq (s : Splitter) : settle s =
    if s.buffer.getLast? = some '\\' then
      { s with buffer := trimRight (withoutBackslash s.buffer) ++ [' '], joining := true }
    else { s with joining := false } := by
  unfold settle
  split
  · next rest hrev =>
    have hbuffer : s.buffer = rest.reverse ++ ['\\'] := by
      rw [← List.reverse_reverse s.buffer, hrev, List.reverse_cons]
    have hlast : s.buffer.getLast? = some '\\' := by rw [hbuffer, List.getLast?_concat]
    rw [if_pos hlast, withoutBackslash, if_pos hlast, hbuffer, List.dropLast_concat, trimRight,
      dropRightWhile, List.reverse_reverse]
  · next hrev =>
    have hlast : s.buffer.getLast? ≠ some '\\' := by
      intro hc
      obtain ⟨front, hfront⟩ := List.getLast?_eq_some_iff.mp hc
      exact hrev front.reverse (by rw [hfront, List.reverse_append]; rfl)
    rw [if_neg hlast]

theorem settle_of_last {s : Splitter} (h : s.buffer.getLast? ≠ some '\\') :
    settle s = { s with joining := false } := by
  rw [settle_eq, if_neg h]

@[simp] theorem settle_done (s : Splitter) : (settle s).done = s.done := by
  rw [settle_eq]
  split <;> rfl

/-! ## Fates -/

/-- What becomes of a line. -/
inductive Fate where
  /-- It does not count. -/
  | blank
  /-- It carries on the line before. -/
  | continued
  /-- It stands in the block of the command. -/
  | nested
  /-- It closes the block. -/
  | closing
  /-- It ends the command and is left out. -/
  | comment
  /-- It begins a command. -/
  | opening
  deriving Repr, DecidableEq

/-- What becomes of a line behind those that a splitter has met. -/
def fate (s : Splitter) (line : List Char) : Fate :=
  if isAllBlank line then .blank
  else if s.joining then .continued
  else if isIndented line && !s.buffer.isEmpty then .nested
  else if s.inBlock then .closing
  else if isComment line then .comment
  else .opening

theorem isComment_of_fate {s : Splitter} {line : List Char} (h : fate s line = .comment) :
    isComment line := by
  unfold fate at h
  grind

theorem not_blank_of_fate {s : Splitter} {line : List Char} {f : Fate} (h : fate s line = f)
    (hf : f ≠ .blank) : ¬ isAllBlank line := by
  intro hblank
  rw [fate, if_pos hblank] at h
  exact hf h.symm

theorem joining_of_fate {s : Splitter} {line : List Char} (h : fate s line = .continued) :
    s.joining := by
  unfold fate at h
  grind

/-- The splitter after a line of a known fate. -/
def meet (s : Splitter) (line : List Char) : Fate → Splitter
  | .blank => s
  | .continued => settle { s with buffer := s.buffer ++ trimLeft line }
  | .nested => settle { s with buffer := s.buffer ++ '\n' :: trimRight line, inBlock := true }
  | .closing => settle { s with buffer := s.buffer ++ '\n' :: trimRight line, inBlock := false }
  | .comment => s.emit
  | .opening => settle { s.emit with buffer := trim line }

/-- A line changes the splitter as its fate says. -/
theorem feed_eq_meet (s : Splitter) (line : List Char) :
    feed s line = meet s line (fate s line) := by
  have hbegins : (line.head?.map isBlank).getD false = isIndented line := rfl
  have hmark : ((trimLeft line).head? == some '#') = isComment line := rfl
  unfold feed fate
  dsimp only
  rw [hbegins, hmark]
  split
  · rfl
  · split
    · rfl
    · split
      · simp [meet]
      · split
        · simp [meet]
        · split
          · rfl
          · simp [meet, emit]

/-- Blank lines may as well be left out. -/
theorem foldl_feed_filter (s : Splitter) (ls : List (List Char)) :
    (ls.filter (!isAllBlank ·)).foldl feed s = ls.foldl feed s := by
  induction ls generalizing s with
  | nil => rfl
  | cons l ls ih =>
    rw [List.foldl_cons, List.filter_cons]
    split
    · rw [List.foldl_cons, ih]
    · next h =>
      have hblank : fate s l = .blank := if_pos (by simpa using h)
      rw [ih, feed_eq_meet, hblank, meet]

/-! ## Finished commands -/

/-- A splitter behind commands that were finished before, the last one first. -/
def behind (s : Splitter) (before : List String) : Splitter := { s with done := s.done ++ before }

theorem emit_behind (s : Splitter) (before : List String) :
    (s.behind before).emit = s.emit.behind before := by
  unfold emit behind
  dsimp only
  by_cases h : (trimRight s.buffer).isEmpty
  · rw [if_pos h, if_pos h]
  · rw [if_neg h, if_neg h, List.cons_append]

theorem settle_behind (s : Splitter) (before : List String) :
    settle (s.behind before) = (settle s).behind before := by
  rw [settle_eq, settle_eq]
  unfold behind
  dsimp only
  by_cases h : s.buffer.getLast? = some '\\'
  · rw [if_pos h, if_pos h]
  · rw [if_neg h, if_neg h]

theorem feed_behind (s : Splitter) (before : List String) (line : List Char) :
    feed (s.behind before) line = (feed s line).behind before := by
  have hsame : fate (s.behind before) line = fate s line := rfl
  rw [feed_eq_meet, feed_eq_meet, hsame]
  cases fate s line with
  | blank => rfl
  | comment => exact emit_behind s before
  | continued => exact settle_behind { s with buffer := s.buffer ++ trimLeft line } before
  | nested =>
    exact settle_behind
      { s with buffer := s.buffer ++ '\n' :: trimRight line, inBlock := true } before
  | closing =>
    exact settle_behind
      { s with buffer := s.buffer ++ '\n' :: trimRight line, inBlock := false } before
  | opening =>
    rw [meet, emit_behind]
    exact settle_behind { s.emit with buffer := trim line } before

/-- Commands that are finished stay in front of those of the lines to come. -/
theorem finish_foldl_behind (s : Splitter) (before : List String) (ls : List (List Char)) :
    (ls.foldl feed (s.behind before)).finish = before.reverse ++ (ls.foldl feed s).finish := by
  induction ls generalizing s with
  | nil =>
    rw [List.foldl_nil, List.foldl_nil, finish, finish, emit_behind, behind, List.reverse_append]
  | cons l ls ih => rw [List.foldl_cons, List.foldl_cons, feed_behind, ih]

end Playbook.Splitter
