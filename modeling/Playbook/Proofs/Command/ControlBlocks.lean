/-
  Control blocks. A block is a line with groups behind it, each some indented lines and the line
  that closes them: the branches of a condition, the arms of a choice, the body of a loop. A
  splitter takes it as one command, line by line as it was written, and goes on as if the next line
  were its first (`block_is_one_command`).
-/
import Playbook.Proofs.Command.Feeding
import Playbook.Proofs.Text.Lines

namespace Playbook.Splitter

open Playbook.Text

/-! ## Blocks -/

/-- Whether a line is carried on by the next one. -/
def Continues (line : List Char) : Prop := (trim line).getLast? = some '\\'

instance (line : List Char) : Decidable (Continues line) :=
  inferInstanceAs (Decidable ((trim line).getLast? = some '\\'))

/-- A line that begins with blanks, and is more than them. -/
structure Indented (line : List Char) : Prop where
  solid : ¬ isAllBlank line
  indented : isIndented line

/-- A line that does not begin with a blank. -/
structure Flush (line : List Char) : Prop where
  solid : ¬ isAllBlank line
  flush : ¬ isIndented line

/-- A line that begins a command, where none is open. -/
structure Opens (line : List Char) : Prop extends Flush line where
  no_comment : ¬ isComment line

instance (line : List Char) : Decidable (Indented line) :=
  decidable_of_iff (¬ isAllBlank line ∧ isIndented line) ⟨fun h => ⟨h.1, h.2⟩, fun h => ⟨h.1, h.2⟩⟩

instance (line : List Char) : Decidable (Flush line) :=
  decidable_of_iff (¬ isAllBlank line ∧ ¬ isIndented line)
    ⟨fun h => ⟨h.1, h.2⟩, fun h => ⟨h.1, h.2⟩⟩

instance (line : List Char) : Decidable (Opens line) :=
  decidable_of_iff (Flush line ∧ ¬ isComment line) ⟨fun h => ⟨h.1, h.2⟩, fun h => ⟨h.1, h.2⟩⟩

/-- Some indented lines and the line that closes them. -/
structure Group where
  body : List (List Char)
  closing : List Char
  some_body : body ≠ []
  indented : ∀ l ∈ body, Indented l
  flush : Flush closing

def Group.lines (g : Group) : List (List Char) := g.body ++ [g.closing]

/-- A line and the groups behind it. -/
structure ControlBlock where
  head : List Char
  groups : List Group
  opens : Opens head
  some_group : groups ≠ []
  ends : ∀ l ∈ head :: groups.flatMap Group.lines, ¬ Continues l

namespace ControlBlock

/-- The lines behind the first. -/
def rest (b : ControlBlock) : List (List Char) := b.groups.flatMap Group.lines

def lines (b : ControlBlock) : List (List Char) := b.head :: b.rest

/-- The block as it is to be run. -/
def command (b : ControlBlock) : String :=
  String.ofList (joinWith ['\n'] (trim b.head :: b.rest.map trimRight))

end ControlBlock

/-! ## Lines of a command -/

/-- Lines behind a text, each on a line of its own. -/
def stacked (ls : List (List Char)) : List Char := ls.flatMap fun l => '\n' :: trimRight l

theorem joinWith_stacked (t : List Char) (ls : List (List Char)) :
    joinWith ['\n'] (t :: ls.map trimRight) = t ++ stacked ls := by
  induction ls generalizing t with
  | nil => simp [joinWith, stacked]
  | cons l ls ih =>
    rw [List.map_cons, joinWith_cons (List.cons_ne_nil _ _), ih]
    simp [stacked]

/-- Behind a line that is not blank there is nothing to trim. -/
theorem trimRight_append_line (front : List Char) {l : List Char} (h : ¬ isAllBlank l) :
    trimRight (front ++ trimRight l) = front ++ trimRight l := by
  obtain ⟨_, _, _, hlast⟩ := exists_trimRight l
  refine trimRight_eq_self fun c hc => hlast c ?_
  rwa [List.getLast?_append, List.getLast?_eq_some_getLast (trimRight_ne_nil h), Option.some_or,
    ← List.getLast?_eq_some_getLast (trimRight_ne_nil h)] at hc

theorem trimRight_stacked {t : List Char} (ht : trimRight t = t) {ls : List (List Char)}
    (hls : ∀ l ∈ ls, ¬ isAllBlank l) : trimRight (t ++ stacked ls) = t ++ stacked ls := by
  induction ls generalizing t with
  | nil => simpa [stacked] using ht
  | cons l ls ih =>
    have hl := hls l List.mem_cons_self
    have hsplit : t ++ stacked (l :: ls) = (t ++ ['\n'] ++ trimRight l) ++ stacked ls := by
      simp [stacked]
    rw [hsplit, ih (trimRight_append_line _ hl) fun x hx => hls x (List.mem_cons_of_mem _ hx)]

/-- A line that is not carried on puts no backslash at the end of a command. -/
theorem getLast?_append_line {l : List Char} (hsolid : ¬ isAllBlank l) (hends : ¬ Continues l)
    (front : List Char) : (front ++ '\n' :: trimRight l).getLast? ≠ some '\\' := by
  have htrim : trim l = trimLeft (trimRight l) := by
    rw [← trim_trimRight, trim_eq_trimLeft]
    exact trimRight_append_line [] hsolid
  have hne : trimLeft (trimRight l) ≠ [] := by
    rw [← htrim]
    exact fun hc => hsolid (trim_eq_nil_iff.mp hc)
  obtain ⟨b, hb, _, _⟩ := exists_trimLeft (trimRight l)
  have hlast : (front ++ '\n' :: trimRight l).getLast? = (trim l).getLast? := by
    have hsplit : front ++ '\n' :: trimRight l =
        (front ++ '\n' :: b) ++ trimLeft (trimRight l) := by
      conv => lhs; rw [hb]
      simp
    rw [hsplit, htrim, List.getLast?_append, List.getLast?_eq_some_getLast hne, Option.some_or]
  rw [hlast]
  exact hends

/-! ## Feeding a block -/

theorem feed_opening {line : List Char} (h : Opens line) (cs : List Char) (d : List String) :
    feed { buffer := cs, done := d } line =
      settle { (emit { buffer := cs, done := d }) with buffer := trim line } := by
  have hfate : fate { buffer := cs, done := d } line = .opening := by
    simp [fate, h.solid, h.flush, h.no_comment]
  rw [feed_eq_meet, hfate, meet]

section

variable {cs : List Char} (hcs : cs ≠ []) {line : List Char} (hends : ¬ Continues line)
  (d : List String)

include hcs hends

theorem feed_nested (h : Indented line) (inBlock : Bool) :
    feed { buffer := cs, inBlock, done := d } line =
      { buffer := cs ++ '\n' :: trimRight line, inBlock := true, done := d } := by
  have hfate : fate { buffer := cs, inBlock, done := d } line = .nested := by
    simp [fate, h.solid, h.indented, hcs]
  rw [feed_eq_meet, hfate, meet, settle_of_last (getLast?_append_line h.solid hends cs)]

omit hcs in
theorem feed_closing (h : Flush line) : feed { buffer := cs, inBlock := true, done := d } line =
    { buffer := cs ++ '\n' :: trimRight line, done := d } := by
  have hfate : fate { buffer := cs, inBlock := true, done := d } line = .closing := by
    simp [fate, h.solid, h.flush]
  rw [feed_eq_meet, hfate, meet, settle_of_last (getLast?_append_line h.solid hends cs)]

end

/-- Indented lines open the block of a command, and keep it open. -/
theorem foldl_nested {cs : List Char} (hcs : cs ≠ []) {ls : List (List Char)}
    (hls : ∀ l ∈ ls, Indented l ∧ ¬ Continues l) (d : List String) :
    ls.foldl feed { buffer := cs, inBlock := true, done := d } =
      { buffer := cs ++ stacked ls, inBlock := true, done := d } := by
  induction ls generalizing cs with
  | nil => simp [stacked]
  | cons l ls ih =>
    obtain ⟨hl, hends⟩ := hls l List.mem_cons_self
    rw [List.foldl_cons, feed_nested hcs hends d hl,
      ih (by simp) fun x hx => hls x (List.mem_cons_of_mem _ hx)]
    simp [stacked]

/-- A group adds its lines, and leaves no block open. -/
theorem foldl_group {cs : List Char} (hcs : cs ≠ []) {g : Group}
    (hends : ∀ l ∈ g.lines, ¬ Continues l) (d : List String) :
    g.lines.foldl feed { buffer := cs, done := d } =
      { buffer := cs ++ stacked g.lines, done := d } := by
  obtain ⟨body, closing, hsome, hindented, hflush⟩ := g
  obtain ⟨first, body, rfl⟩ := List.exists_cons_of_ne_nil hsome
  have hbody : ∀ l ∈ body, Indented l ∧ ¬ Continues l := fun l hl =>
    ⟨hindented l (List.mem_cons_of_mem _ hl), hends l (by simp [Group.lines, hl])⟩
  have hfirst : ¬ Continues first := hends first (by simp [Group.lines])
  have hlast : ¬ Continues closing := hends closing (by simp [Group.lines])
  simp only [Group.lines, List.cons_append, List.foldl_cons, List.foldl_append, List.foldl_nil]
  rw [feed_nested hcs hfirst d (hindented first List.mem_cons_self) false,
    foldl_nested (by simp) hbody, feed_closing hlast d hflush]
  simp [stacked]

theorem foldl_groups {cs : List Char} (hcs : cs ≠ []) {gs : List Group}
    (hends : ∀ l ∈ gs.flatMap Group.lines, ¬ Continues l) (d : List String) :
    (gs.flatMap Group.lines).foldl feed { buffer := cs, done := d } =
      { buffer := cs ++ stacked (gs.flatMap Group.lines), done := d } := by
  induction gs generalizing cs with
  | nil => simp [stacked]
  | cons g gs ih =>
    rw [List.flatMap_cons] at hends ⊢
    have hg : ∀ l ∈ g.lines, ¬ Continues l := fun l hl => hends l (List.mem_append_left _ hl)
    have hgs : ∀ l ∈ gs.flatMap Group.lines, ¬ Continues l := fun l hl =>
      hends l (List.mem_append_right _ hl)
    rw [List.foldl_append, foldl_group hcs hg, ih (by simp [hcs]) hgs]
    simp [stacked]

namespace ControlBlock

variable (b : ControlBlock)

theorem not_blank_of_mem_rest {l : List Char} (h : l ∈ b.rest) : ¬ isAllBlank l := by
  obtain ⟨g, _, hl⟩ := List.mem_flatMap.mp h
  rcases List.mem_append.mp hl with hl | hl
  · exact (g.indented l hl).solid
  · rw [List.mem_singleton.mp hl]
    exact g.flush.solid

theorem command_eq : b.command = String.ofList (trim b.head ++ stacked b.rest) :=
  congrArg String.ofList (joinWith_stacked _ _)

/-- The lines of a block, blank ones among them or not, leave the block as the command in the
making. -/
theorem foldl_feed {ls : List (List Char)} (h : ls.filter (!isAllBlank ·) = b.lines) :
    ls.foldl feed {} = { buffer := trim b.head ++ stacked b.rest } := by
  have hhead : (trim b.head).getLast? ≠ some '\\' := b.ends b.head List.mem_cons_self
  have hne : trim b.head ≠ [] := fun hc => b.opens.solid (trim_eq_nil_iff.mp hc)
  have hfirst : feed {} b.head = { buffer := trim b.head } := by
    have hnew : emit {} = {} := rfl
    rw [feed_opening b.opens [] [], hnew, settle_of_last hhead]
  rw [← foldl_feed_filter, h, lines, List.foldl_cons, hfirst]
  exact foldl_groups hne (fun l hl => b.ends l (List.mem_cons_of_mem _ hl)) []

theorem emit_command (d : List String) :
    emit { buffer := trim b.head ++ stacked b.rest, done := d } = { done := b.command :: d } := by
  have htrim : trimRight (trim b.head ++ stacked b.rest) = trim b.head ++ stacked b.rest := by
    refine trimRight_stacked ?_ fun l hl => b.not_blank_of_mem_rest hl
    exact trimRight_eq_self (tight_trim b.head).2
  have hne : trim b.head ++ stacked b.rest ≠ [] := by
    refine List.append_ne_nil_of_left_ne_nil ?_ _
    exact fun hc => b.opens.solid (trim_eq_nil_iff.mp hc)
  unfold emit
  dsimp only
  rw [htrim, if_neg (by simpa using hne), b.command_eq]

end ControlBlock

/-! ## The command behind a block -/

/-- What a line puts at the beginning of the command that it begins. -/
def begun (line : List Char) : List Char := trimRight (withoutBackslash (trim line))

/-- The first command is the one that begins with `front`, be it finished or not. -/
def Begins (front : List Char) (s : Splitter) : Prop :=
  (∃ c more, s.done.reverse = c :: more ∧ front <+: c.toList) ∨ s.done = [] ∧ front <+: s.buffer

section

variable {front : List Char} (hfront : trimRight front = front)

include hfront

theorem begins_settle {s : Splitter} {added : List Char} (h : Begins front s) (hne : added ≠ [])
    (inBlock : Bool) : Begins front (settle { s with buffer := s.buffer ++ added, inBlock }) := by
  rcases h with h | ⟨hdone, hbuffer⟩
  · left
    rwa [settle_done]
  · right
    rw [settle_done]
    refine ⟨hdone, ?_⟩
    rw [settle_eq]
    split
    · have hkept : front <+: s.buffer ++ withoutBackslash added :=
        hbuffer.trans (List.prefix_append _ _)
      rw [withoutBackslash_append _ hne]
      exact (prefix_trimRight hfront hkept).trans (List.prefix_append _ _)
    · exact hbuffer.trans (List.prefix_append _ _)

theorem begins_emit {s : Splitter} (h : Begins front s) (hne : front ≠ []) :
    ∃ c more, s.emit.done.reverse = c :: more ∧ front <+: c.toList := by
  rcases h with ⟨c, more, hdone, hc⟩ | ⟨hdone, hbuffer⟩
  · unfold emit
    dsimp only
    split
    · exact ⟨c, more, hdone, hc⟩
    · exact ⟨c, more ++ [_], by rw [List.reverse_cons, hdone]; rfl, hc⟩
  · have hkept := prefix_trimRight hfront hbuffer
    have hsome : ¬ (trimRight s.buffer).isEmpty := by
      intro hc
      rw [List.isEmpty_iff.mp hc] at hkept
      exact hne (List.prefix_nil.mp hkept)
    refine ⟨String.ofList (trimRight s.buffer), [], ?_, by rwa [String.toList_ofList]⟩
    unfold emit
    dsimp only
    rw [if_neg hsome, hdone, List.reverse_singleton]

theorem begins_feed {s : Splitter} (h : Begins front s) (hne : front ≠ []) (line : List Char) :
    Begins front (feed s line) := by
  rw [feed_eq_meet]
  cases hfate : fate s line with
  | blank => exact h
  | continued =>
    have hsolid : ¬ isAllBlank line := by
      intro hc
      rw [fate, if_pos hc] at hfate
      cases hfate
    exact begins_settle hfront h (trimLeft_ne_nil hsolid) s.inBlock
  | nested => exact begins_settle hfront h (List.cons_ne_nil _ _) true
  | closing => exact begins_settle hfront h (List.cons_ne_nil _ _) false
  | comment => exact Or.inl (begins_emit hfront h hne)
  | opening =>
    left
    rw [meet, settle_done]
    exact begins_emit hfront h hne

theorem begins_foldl {s : Splitter} (h : Begins front s) (hne : front ≠ [])
    (ls : List (List Char)) : Begins front (ls.foldl feed s) := by
  induction ls generalizing s with
  | nil => exact h
  | cons l ls ih => exact ih (begins_feed hfront h hne l)

end

theorem trimRight_begun (line : List Char) : trimRight (begun line) = begun line := by
  obtain ⟨_, _, _, hlast⟩ := exists_trimRight (withoutBackslash (trim line))
  exact trimRight_eq_self hlast

/-- The command that a line begins is the one with the text of that line at its beginning. -/
theorem begins_begun {line : List Char} (h : Opens line) : Begins (begun line) (feed {} line) := by
  have hnew : emit {} = {} := rfl
  rw [feed_opening h [] [], hnew]
  right
  rw [settle_done]
  refine ⟨rfl, ?_⟩
  rw [settle_eq]
  dsimp only
  split
  · exact List.prefix_append _ _
  · next hlast =>
    have htext : begun line = trim line := by
      rw [begun, withoutBackslash, if_neg hlast, trimRight_eq_self (tight_trim line).2]
    exact htext ▸ List.prefix_rfl

/-- The first command of a block begins as its first line does. -/
theorem splitShell_begins {line : List Char} (h : Opens line) (hne : begun line ≠ [])
    (rest : List (List Char)) :
    ∃ c more, splitShell (line :: rest) = c :: more ∧ begun line <+: c.toList := by
  have hfront := trimRight_begun line
  have hfed := begins_foldl hfront (begins_begun h) hne rest
  exact begins_emit hfront hfed hne

/-- A block, with or without blank lines in it, is one command: its lines in order, without the
blanks at their ends. A line behind it that is not indented and no comment begins the next command,
as if there were no block. -/
theorem block_is_one_command (b : ControlBlock) {ls : List (List Char)}
    (h : ls.filter (!isAllBlank ·) = b.lines) :
    splitShell ls = [b.command] ∧
    ∀ next rest, Opens next →
      splitShell (ls ++ next :: rest) = b.command :: splitShell (next :: rest) ∧
      (begun next ≠ [] →
        ∃ c more, splitShell (next :: rest) = c :: more ∧ begun next <+: c.toList) := by
  have hfed := b.foldl_feed h
  refine ⟨?_, fun next rest hnext => ⟨?_, fun hne => splitShell_begins hnext hne rest⟩⟩
  · rw [splitShell, hfed, finish, b.emit_command]
    rfl
  · have hnew : emit {} = {} := rfl
    have hfirst : feed { buffer := trim b.head ++ stacked b.rest } next =
        (feed {} next).behind [b.command] := by
      rw [← feed_behind, feed_opening hnext, b.emit_command]
      exact (feed_opening hnext [] [b.command]).symm
    rw [splitShell, List.foldl_append, hfed, List.foldl_cons, hfirst, finish_foldl_behind]
    rfl

/-- A choice with a comment and a choice of its own in the first branch. -/
def choiceBlock : ControlBlock where
  head := "if test -f $f; then ".toList
  groups :=
    [{ body := ["  # nested", "  case $f in", "    *) cat $f ;;", "  esac  "].map String.toList
       closing := "else".toList
       some_body := by decide
       indented := by decide
       flush := by decide },
     { body := ["\techo none".toList]
       closing := "fi # done".toList
       some_body := by decide
       indented := by decide
       flush := by decide }]
  opens := by decide
  some_group := by decide
  ends := by decide

/-- The same block as it is written down, with blank lines in it. -/
def choiceLines : List (List Char) :=
  ["", "if test -f $f; then ", "  # nested", " ", "  case $f in", "    *) cat $f ;;", "  esac  ",
    "else", "", "\techo none", "fi # done", "\t"].map String.toList

theorem choiceLines_are_one_command :
    choiceLines.filter (!isAllBlank ·) = choiceBlock.lines ∧
    Opens "ls \\".toList ∧
    splitShell choiceLines =
      ["if test -f $f; then\n  # nested\n  case $f in\n    *) cat $f ;;\n  esac\n" ++
        "else\n\techo none\nfi # done"] ∧
    splitShell (choiceLines ++ ["ls \\".toList, "# -l".toList]) =
      choiceBlock.command :: splitShell ["ls \\".toList, "# -l".toList] ∧
    ∃ c more, splitShell ["ls \\".toList, "# -l".toList] = c :: more ∧
      "ls".toList <+: c.toList := by
  have hlines : choiceLines.filter (!isAllBlank ·) = choiceBlock.lines := by decide
  have hopens : Opens "ls \\".toList := by decide
  have hone := block_is_one_command choiceBlock hlines
  have hnext := hone.2 "ls \\".toList ["# -l".toList] hopens
  exact ⟨hlines, hopens, hone.1.trans (by decide), hnext.1, hnext.2 (by decide)⟩

end Playbook.Splitter
