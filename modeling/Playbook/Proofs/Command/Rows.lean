/-
  Commands as rows. A command that spans lines is a text of rows, and a splitter adds to its last
  row or begins a new one (`Rowed`). What stands in the command in the making stands at the
  beginning of a command of the block, behind those that are finished (`exists_command`).
-/
import Playbook.Proofs.Command.ControlBlocks

namespace Playbook.Splitter

open Playbook.Text

/-! ## Rows of a text -/

/-- A text of rows, the last one apart. That one is more than blanks, unless it is the only one. -/
structure Rowed (cs : List Char) (rows : List (List Char)) (last : List Char) : Prop where
  text : cs = unlines rows ++ last
  free : ∀ r ∈ rows, '\n' ∉ r
  last_free : '\n' ∉ last
  footed : isAllBlank last → rows = []

namespace Rowed

variable {cs : List Char} {rows : List (List Char)} {last : List Char}

theorem single {cs : List Char} (h : '\n' ∉ cs) : Rowed cs [] cs :=
  ⟨rfl, nofun, h, fun _ => rfl⟩

theorem pieces_eq (h : Rowed cs rows last) : pieces '\n' cs = rows ++ [last] := by
  rw [h.text, pieces_unlines_append h.free, pieces_of_not_mem h.last_free]

/-- Whatever follows a text, its rows stay the first ones. -/
theorem exists_pieces (h : Rowed cs rows last) (w : List Char) :
    ∃ first more, pieces '\n' (cs ++ w) = rows ++ (last ++ first) :: more := by
  obtain ⟨front, row, first, more, hcs, -, happ⟩ := exists_pieces_append '\n' cs w
  obtain ⟨rfl, hlast⟩ := List.append_inj' (hcs.symm.trans h.pieces_eq) rfl
  obtain rfl : row = last := List.singleton_inj.mp hlast
  exact ⟨first, more, happ⟩

theorem append (h : Rowed cs rows last) {x : List Char} (hx : '\n' ∉ x) :
    Rowed (cs ++ x) rows (last ++ x) where
  text := by rw [h.text, List.append_assoc]
  free := h.free
  last_free := by simp [h.last_free, hx]
  footed := fun hblank => h.footed (isAllBlank_append.mp hblank).1

theorem newRow (h : Rowed cs rows last) {x : List Char} (hx : '\n' ∉ x) (hsolid : ¬ isAllBlank x) :
    Rowed (cs ++ '\n' :: x) (rows ++ [last]) x where
  text := by rw [h.text]; simp
  free := by
    intro r hr
    rcases List.mem_append.mp hr with hr | hr
    · exact h.free r hr
    · exact List.mem_singleton.mp hr ▸ h.last_free
  last_free := hx
  footed := fun hblank => absurd hblank hsolid

theorem isAllBlank_iff (h : Rowed cs rows last) : isAllBlank cs ↔ isAllBlank last := by
  constructor
  · intro hblank
    rw [h.text] at hblank
    exact (isAllBlank_append.mp hblank).2
  · intro hblank
    rw [h.text, h.footed hblank]
    exact hblank

/-- Trimming a text at its end trims its last row. -/
theorem trimRight (h : Rowed cs rows last) : Rowed (trimRight cs) rows (Text.trimRight last) where
  text := by
    by_cases hblank : isAllBlank last
    · rw [h.text, h.footed hblank]
      rfl
    · rw [h.text, trimRight_append _ hblank]
  free := h.free
  last_free := fun hc => h.last_free ((trimRight_isPrefix last).subset hc)
  footed := fun hblank => h.footed (by rwa [isAllBlank_trimRight] at hblank)

end Rowed

/-! ## Backslashes at the end -/

/-- What a backslash at the end of a text leaves of it: one blank in its place. -/
def settled (cs : List Char) : List Char :=
  if cs.getLast? = some '\\' then trimRight (withoutBackslash cs) ++ [' '] else cs

theorem settle_eq_settled (s : Splitter) : settle s =
    { s with buffer := settled s.buffer, joining := decide (s.buffer.getLast? = some '\\') } := by
  rw [settle_eq, settled]
  split <;> simp_all

theorem settled_ne_nil {cs : List Char} (h : cs ≠ []) : settled cs ≠ [] := by
  unfold settled
  split
  · simp
  · exact h

theorem getLast?_append_of_ne_nil (cs : List Char) {x : List Char} (h : x ≠ []) :
    (cs ++ x).getLast? = x.getLast? := by
  rw [List.getLast?_append, List.getLast?_eq_some_getLast h, Option.some_or]

theorem getLast?_append_row (cs : List Char) {x : List Char} (h : x ≠ []) :
    (cs ++ '\n' :: x).getLast? = x.getLast? := by
  rw [List.append_cons, getLast?_append_of_ne_nil _ h]

theorem getLast?_trimLeft {cs : List Char} (h : ¬ isAllBlank cs) :
    (trimLeft cs).getLast? = cs.getLast? := by
  obtain ⟨l, hl, _, _⟩ := exists_trimLeft cs
  conv => rhs; rw [hl]
  rw [getLast?_append_of_ne_nil _ (trimLeft_ne_nil h)]

theorem withoutBackslash_isPrefix (cs : List Char) : withoutBackslash cs <+: cs := by
  unfold withoutBackslash
  split
  · exact List.dropLast_prefix cs
  · exact List.prefix_rfl

theorem isAllBlank_withoutBackslash {cs : List Char} (h : isAllBlank cs) :
    isAllBlank (withoutBackslash cs) :=
  List.all_eq_true.mpr fun c hc =>
    List.all_eq_true.mp h c ((withoutBackslash_isPrefix cs).subset hc)

/-- A row that is more than a backslash keeps what a backslash at its end leaves to itself. -/
theorem settled_append (cs : List Char) {x : List Char}
    (h : ¬ isAllBlank (withoutBackslash x)) : settled (cs ++ x) = cs ++ settled x := by
  have hne : x ≠ [] := by
    rintro rfl
    exact h rfl
  unfold settled
  rw [getLast?_append_of_ne_nil cs hne, withoutBackslash_append cs hne, trimRight_append cs h]
  split
  · rw [List.append_assoc]
  · rfl

theorem not_blank_of_backslash {x : List Char} (h : x.getLast? = some '\\') : ¬ isAllBlank x := by
  intro hblank
  have hlast := List.all_eq_true.mp hblank '\\' (List.mem_of_getLast? h)
  exact absurd hlast (by decide)

theorem trimRight_of_backslash {x : List Char} (h : x.getLast? = some '\\') : trimRight x = x := by
  refine trimRight_eq_self fun c hc => ?_
  obtain rfl : '\\' = c := Option.some.inj (h.symm.trans hc)
  decide

theorem trimRight_append_trimRight (cs x : List Char) :
    trimRight (cs ++ x) = trimRight (cs ++ trimRight x) := by
  obtain ⟨r, hr, hblank, _⟩ := exists_trimRight x
  conv => lhs; rw [hr]
  rw [← List.append_assoc, trimRight_append_blank _ hblank]

namespace Rowed

variable {cs : List Char} {rows : List (List Char)} {last : List Char}

theorem settled_append (h : Rowed cs rows last) {x : List Char} (hx : '\n' ∉ x) (hne : x ≠ []) :
    Rowed (settled (cs ++ x)) rows (settled (last ++ x)) := by
  have hfree : '\n' ∉ withoutBackslash x := fun hc => hx ((withoutBackslash_isPrefix x).subset hc)
  have hblank : '\n' ∉ [' '] := by decide
  unfold settled
  rw [getLast?_append_of_ne_nil cs hne, getLast?_append_of_ne_nil last hne,
    withoutBackslash_append cs hne, withoutBackslash_append last hne]
  split
  · exact (h.append hfree).trimRight.append hblank
  · exact h.append hx

/-- A new row is the last one. -/
theorem settled_newRow (h : Rowed cs rows last) {x : List Char} (hx : '\n' ∉ x)
    (hsolid : ¬ isAllBlank (withoutBackslash x)) :
    Rowed (settled (cs ++ '\n' :: x)) (rows ++ [last]) (settled x) := by
  have hne : x ≠ [] := by
    rintro rfl
    exact hsolid rfl
  have hrow : Rowed (settled x) [] (settled x) := by
    have hempty := (single (List.not_mem_nil (a := '\n'))).settled_append hx hne
    rwa [List.nil_append] at hempty
  have hkept : ¬ isAllBlank (settled x) := by
    unfold settled
    split
    · intro hblank
      have hfront := (isAllBlank_append.mp hblank).1
      rw [isAllBlank_trimRight] at hfront
      exact hsolid hfront
    · exact fun hblank => hsolid (isAllBlank_withoutBackslash hblank)
  rw [List.append_cons, Splitter.settled_append _ hsolid, List.append_assoc, List.singleton_append]
  exact h.newRow hrow.last_free hkept

/-- A new row that is only a backslash goes back to the row before. -/
theorem settled_backslash (h : Rowed cs rows last) {x : List Char}
    (hlast : x.getLast? = some '\\') (hblank : isAllBlank (withoutBackslash x)) :
    Rowed (settled (cs ++ '\n' :: x)) rows (Text.trimRight last ++ [' ']) := by
  have hne : x ≠ [] := by
    rintro rfl
    cases hlast
  have hfeed : isAllBlank ('\n' :: withoutBackslash x) :=
    isAllBlank_append.mpr ⟨(rfl : isAllBlank ['\n']), hblank⟩
  have htext : settled (cs ++ '\n' :: x) = Text.trimRight cs ++ [' '] := by
    unfold settled
    rw [List.append_cons, getLast?_append_of_ne_nil _ hne, if_pos hlast,
      withoutBackslash_append _ hne, List.append_assoc, List.singleton_append,
      trimRight_append_blank _ hfeed]
  rw [htext]
  exact h.trimRight.append (by decide)

end Rowed

/-! ## Rows that are asked for -/

/-- Whether a row is left out is told by how it begins. -/
structure ByBeginning (drop : List Char → Bool) : Prop where
  solid : ∀ {cs}, drop cs → ¬ isAllBlank cs
  append : ∀ {cs} x, drop cs → drop (cs ++ x)
  trimRight : ∀ cs, drop (trimRight cs) = drop cs

theorem ByBeginning.never : ByBeginning fun _ => false := ⟨nofun, nofun, fun _ => rfl⟩

theorem isComment_of_blank {cs : List Char} (h : isAllBlank cs) : isComment cs = false := by
  unfold isComment
  rw [trimLeft_of_blank h]
  rfl

theorem isComment_append {cs : List Char} (h : ¬ isAllBlank cs) (x : List Char) :
    isComment (cs ++ x) = isComment cs := by
  have hhead := List.head?_eq_some_head (trimLeft_ne_nil h)
  unfold isComment
  rw [trimLeft_append h, List.head?_append, hhead, Option.some_or]

theorem not_blank_of_isComment {cs : List Char} (h : isComment cs) : ¬ isAllBlank cs := by
  intro hblank
  rw [isComment_of_blank hblank] at h
  cases h

theorem isComment_trimRight (cs : List Char) : isComment (trimRight cs) = isComment cs := by
  by_cases hblank : isAllBlank cs
  · rw [trimRight_of_blank hblank, isComment_of_blank hblank]
    rfl
  · obtain ⟨r, hr, _, _⟩ := exists_trimRight cs
    have hsolid : ¬ isAllBlank (trimRight cs) := by rwa [isAllBlank_trimRight]
    conv => rhs; rw [hr]
    rw [isComment_append hsolid]

theorem ByBeginning.comment : ByBeginning isComment where
  solid := not_blank_of_isComment
  append := fun x h => (isComment_append (not_blank_of_isComment h) x).trans h
  trimRight := isComment_trimRight

/-- What is joined to a row that is left out is left out with it. -/
theorem ByBeginning.settled {drop : List Char → Bool} (hdrop : ByBeginning drop)
    {last x : List Char} (h : drop last) (hne : x ≠ []) : drop (settled (last ++ x)) := by
  unfold Splitter.settled
  split
  · rw [withoutBackslash_append last hne]
    exact hdrop.append _ ((hdrop.trimRight _).trans (hdrop.append _ h))
  · exact hdrop.append x h

variable (drop : List Char → Bool)

/-- The rows that are not left out, without the blanks at their ends. -/
def own (rows : List (List Char)) : List (List Char) := (rows.filter (!drop ·)).map trimRight

/-- The rows of a command that are not left out. -/
def ownRows (command : String) : List (List Char) := own drop (pieces '\n' command.toList)

theorem own_append (rows more : List (List Char)) :
    own drop (rows ++ more) = own drop rows ++ own drop more := by
  simp [own]

theorem own_dropped {row : List Char} (h : drop row) : own drop [row] = [] := by
  simp [own, h]

theorem own_kept {row : List Char} (h : drop row = false) : own drop [row] = [trimRight row] := by
  simp [own, h]

variable {drop}

theorem own_congr (hdrop : ByBeginning drop) {row row' : List Char}
    (h : trimRight row = trimRight row') : own drop [row] = own drop [row'] := by
  have hsame : drop row = drop row' := by rw [← hdrop.trimRight, h, hdrop.trimRight]
  cases hrow : drop row with
  | true => rw [own_dropped drop hrow, own_dropped drop (hsame ▸ hrow)]
  | false => rw [own_kept drop hrow, own_kept drop (hsame ▸ hrow), h]

/-- A command that ends with blanks is reported without them. -/
theorem Rowed.ownRows_trimRight (hdrop : ByBeginning drop) {cs : List Char}
    {rows : List (List Char)} {last : List Char} (h : Rowed cs rows last) :
    ownRows drop (String.ofList (Text.trimRight cs)) = own drop (rows ++ [last]) := by
  have hlast : own drop [Text.trimRight last] = own drop [last] :=
    own_congr hdrop (trimRight_trimRight last)
  rw [ownRows, String.toList_ofList, h.trimRight.pieces_eq, own_append, own_append, hlast]

/-! ## Commands in the making -/

/-- Commands that are finished stay where they are. -/
theorem done_isPrefix (s : Splitter) (ls : List (List Char)) :
    s.done.reverse <+: (ls.foldl feed s).finish := by
  have hbehind : s = ({ s with done := [] } : Splitter).behind s.done := rfl
  rw [hbehind, finish_foldl_behind]
  exact List.prefix_append _ _

/-- What stands in the command in the making, without blanks at its end, stands at the beginning of
the command behind those that are finished. -/
theorem exists_command {front : List Char} (hfront : trimRight front = front) (hne : front ≠ [])
    {s : Splitter} (h : front <+: s.buffer) (ls : List (List Char)) :
    ∃ c more, (ls.foldl feed s).finish = s.done.reverse ++ c :: more ∧ front <+: c.toList := by
  have hbehind : s = ({ s with done := [] } : Splitter).behind s.done := rfl
  have hbegins : Begins front { s with done := [] } := Or.inr ⟨rfl, h⟩
  obtain ⟨c, more, hc, hkept⟩ := begins_emit hfront (begins_foldl hfront hbegins hne ls) hne
  refine ⟨c, more, ?_, hkept⟩
  rw [hbehind, finish_foldl_behind, finish, hc]
  rfl

theorem emit_of_solid {s : Splitter} (h : ¬ isAllBlank s.buffer) :
    s.emit = { done := String.ofList (trimRight s.buffer) :: s.done } := by
  have hne := trimRight_ne_nil h
  unfold emit
  dsimp only
  rw [if_neg (by simpa using hne)]

/-- What a line adds as a row of its own. -/
def rowOf (line : List Char) : List Char := trimRight (withoutBackslash (trimRight line))

theorem rowOf_isPrefix (line : List Char) : rowOf line <+: line :=
  (trimRight_isPrefix _).trans ((withoutBackslash_isPrefix _).trans (trimRight_isPrefix line))

theorem rowOf_free {line : List Char} (h : '\n' ∉ line) : '\n' ∉ rowOf line :=
  fun hc => h ((rowOf_isPrefix line).subset hc)

/-- A line that is more than a backslash is more than blanks without it. -/
theorem not_blank_withoutBackslash {x : List Char} (hsolid : ¬ isAllBlank x)
    (h : trim x ≠ ['\\']) : ¬ isAllBlank (withoutBackslash (trimRight x)) := by
  intro hblank
  by_cases hlast : (trimRight x).getLast? = some '\\'
  · obtain ⟨front, hfront⟩ := List.getLast?_eq_some_iff.mp hlast
    have hback : withoutBackslash (trimRight x) = front := by
      rw [withoutBackslash, if_pos hlast, hfront, List.dropLast_concat]
    have htight : Tight ['\\'] := by decide
    have htrim := trim_of_tight (hback ▸ hblank) htight (r := []) rfl
    rw [List.append_nil, ← hfront, trim_trimRight] at htrim
    exact h htrim
  · rw [withoutBackslash, if_neg hlast, isAllBlank_trimRight] at hblank
    exact hsolid hblank

theorem not_blank_rowOf {x : List Char} (hsolid : ¬ isAllBlank x) (h : trim x ≠ ['\\']) :
    ¬ isAllBlank (rowOf x) := by
  rw [rowOf, isAllBlank_trimRight]
  exact not_blank_withoutBackslash hsolid h

theorem trimRight_isPrefix_settled (x : List Char) :
    trimRight (withoutBackslash x) <+: settled x := by
  unfold settled
  split
  · exact List.prefix_append _ _
  · next hlast =>
    rw [withoutBackslash, if_neg hlast]
    exact trimRight_isPrefix x

/-- The command in the making goes on with a row of its own for a line of its block. -/
theorem exists_command_row {s : Splitter} {x : List Char}
    (hfate : fate s x = .nested ∨ fate s x = .closing) (hmore : trim x ≠ ['\\'])
    (ls : List (List Char)) :
    ∃ c more w, (ls.foldl feed (feed s x)).finish = s.done.reverse ++ c :: more ∧
      c.toList = s.buffer ++ '\n' :: (rowOf x ++ w) := by
  have hsolid : ¬ isAllBlank x := by
    rcases hfate with h | h
    · exact not_blank_of_fate h (by decide)
    · exact not_blank_of_fate h (by decide)
  have hkept := not_blank_withoutBackslash hsolid hmore
  have hrow := not_blank_rowOf hsolid hmore
  have hfed : (feed s x).done = s.done ∧
      (feed s x).buffer = settled (s.buffer ++ '\n' :: trimRight x) := by
    rw [feed_eq_meet]
    rcases hfate with h | h <;> rw [h, meet, settle_eq_settled] <;> exact ⟨rfl, rfl⟩
  have hfront : trimRight (s.buffer ++ '\n' :: rowOf x) = s.buffer ++ '\n' :: rowOf x := by
    rw [List.append_cons, trimRight_append _ hrow, rowOf, trimRight_trimRight]
  have hbuffer : s.buffer ++ '\n' :: rowOf x <+: (feed s x).buffer := by
    rw [hfed.2, List.append_cons, List.append_cons s.buffer _ (trimRight x),
      settled_append _ hkept]
    exact (List.prefix_append_right_inj _).mpr (trimRight_isPrefix_settled _)
  obtain ⟨c, more, hfinish, w, hc⟩ := exists_command hfront (by simp) hbuffer ls
  refine ⟨c, more, w, ?_, ?_⟩
  · rw [hfinish, hfed.1]
  · rw [← hc, List.append_assoc, List.cons_append]

end Playbook.Splitter
