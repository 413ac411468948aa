/-
  Two splitters side by side. If their commands come to the same rows but for blanks at the ends of
  rows, and for rows that are left out, then they go on to, as long as the next lines differ in
  blanks at their ends at most, and no blanks hide a backslash that joins lines (`alike_feed`).
-/
import Playbook.Proofs.Command.Rows

namespace Playbook.Splitter

open Playbook.Text

variable {drop : List Char → Bool}

/-! ## Two splitters -/

/-- Rows that what follows is joined to: they come to the same, or both are left out. -/
inductive SameLast (drop : List Char → Bool) (joining : Bool) (last last' : List Char) : Prop where
  | kept (trimmed : trimRight last = trimRight last') (joined : joining → last = last')
  | dropped (left : drop last) (right : drop last')

/-- Two splitters whose commands come to the same rows, and go on to. -/
structure Alike (drop : List Char → Bool) (s s' : Splitter) : Prop where
  done : s.done.map (ownRows drop) = s'.done.map (ownRows drop)
  joining : s.joining = s'.joining
  inBlock : s.inBlock = s'.inBlock
  begun : s.buffer = [] ↔ s'.buffer = []
  rowed : ∃ rows last rows' last', Rowed s.buffer rows last ∧ Rowed s'.buffer rows' last' ∧
    own drop rows = own drop rows' ∧ SameLast drop s.joining last last'

theorem SameLast.own_eq (hdrop : ByBeginning drop) {joining : Bool} {last last' : List Char}
    (h : SameLast drop joining last last') : own drop [last] = own drop [last'] := by
  cases h with
  | kept trimmed _ => exact own_congr hdrop trimmed
  | dropped left right => rw [own_dropped drop left, own_dropped drop right]

theorem SameLast.isAllBlank_iff (hdrop : ByBeginning drop) {joining : Bool}
    {last last' : List Char} (h : SameLast drop joining last last') :
    isAllBlank last ↔ isAllBlank last' := by
  cases h with
  | kept trimmed _ => rw [← trimRight_eq_nil_iff, trimmed, trimRight_eq_nil_iff]
  | dropped left right => exact iff_of_false (hdrop.solid left) (hdrop.solid right)

theorem alike_empty : Alike drop {} {} where
  done := rfl
  joining := rfl
  inBlock := rfl
  begun := Iff.rfl
  rowed := ⟨[], [], [], [], .single List.not_mem_nil, .single List.not_mem_nil, rfl,
    .kept rfl fun _ => rfl⟩

theorem alike_emit (hdrop : ByBeginning drop) {s s' : Splitter} (h : Alike drop s s') :
    Alike drop s.emit s'.emit := by
  obtain ⟨rows, last, rows', last', hrowed, hrowed', hown, hlast⟩ := h.rowed
  have hblank : isAllBlank s.buffer ↔ isAllBlank s'.buffer := by
    rw [hrowed.isAllBlank_iff, hrowed'.isAllBlank_iff, hlast.isAllBlank_iff hdrop]
  have hcommand : ownRows drop (String.ofList (trimRight s.buffer)) =
      ownRows drop (String.ofList (trimRight s'.buffer)) := by
    rw [hrowed.ownRows_trimRight hdrop, hrowed'.ownRows_trimRight hdrop, own_append, own_append,
      hown, hlast.own_eq hdrop]
  refine ⟨?_, rfl, rfl, Iff.rfl, alike_empty.rowed⟩
  unfold emit
  dsimp only
  by_cases hempty : isAllBlank s.buffer
  · rw [if_pos (by simp [trimRight_of_blank hempty]),
      if_pos (by simp [trimRight_of_blank (hblank.mp hempty)]), h.done]
  · have hne := trimRight_ne_nil hempty
    have hne' := trimRight_ne_nil fun hc => hempty (hblank.mpr hc)
    rw [if_neg (by simpa using hne), if_neg (by simpa using hne'), List.map_cons, List.map_cons,
      h.done, hcommand]

/-! ## One more line -/

theorem isIndented_trimRight {l : List Char} (h : ¬ isAllBlank l) :
    isIndented (trimRight l) = isIndented l := by
  obtain ⟨r, hr, _, _⟩ := exists_trimRight l
  have hhead := List.head?_eq_some_head (trimRight_ne_nil h)
  unfold isIndented
  conv => rhs; rw [hr]
  rw [List.head?_append, hhead, Option.some_or]

/-- Of two lines that differ in blanks at their ends the same becomes. -/
theorem fate_congr {s s' : Splitter} (h : Alike drop s s') {l l' : List Char}
    (hl : trimRight l = trimRight l') : fate s l = fate s' l' := by
  have hblank : isAllBlank l = isAllBlank l' := by
    rw [← isAllBlank_trimRight l, hl, isAllBlank_trimRight]
  have hbuffer : s.buffer.isEmpty = s'.buffer.isEmpty := by
    rw [Bool.eq_iff_iff, List.isEmpty_iff, List.isEmpty_iff, h.begun]
  have hcomment : isComment l = isComment l' := by
    rw [← isComment_trimRight, hl, isComment_trimRight]
  unfold fate
  by_cases hsolid : isAllBlank l
  · rw [if_pos hsolid, if_pos (hblank ▸ hsolid)]
  · have hindented : isIndented l = isIndented l' := by
      rw [← isIndented_trimRight hsolid, hl, isIndented_trimRight (hblank ▸ hsolid)]
    rw [hblank, h.joining, hindented, hbuffer, h.inBlock, hcomment]

/-- A line begins a command behind commands that come to the same. -/
theorem alike_opening {s s' : Splitter}
    (h : s.emit.done.map (ownRows drop) = s'.emit.done.map (ownRows drop)) {x : List Char}
    (hx : '\n' ∉ x) (hne : x ≠ []) :
    Alike drop (settle { s.emit with buffer := x }) (settle { s'.emit with buffer := x }) := by
  have hrow : Rowed (settled x) [] (settled x) := by
    have hempty := (Rowed.single (List.not_mem_nil (a := '\n'))).settled_append hx hne
    rwa [List.nil_append] at hempty
  rw [settle_eq_settled, settle_eq_settled]
  exact {
    done := h
    joining := rfl
    inBlock := rfl
    begun := Iff.rfl
    rowed := ⟨[], _, [], _, hrow, hrow, rfl, .kept rfl fun _ => rfl⟩ }

section

variable {s s' : Splitter}

/-- A row behind rows that come to the same, the last one with them. -/
theorem alike_newRow (hdone : s.done.map (ownRows drop) = s'.done.map (ownRows drop))
    {rows rows' : List (List Char)} {last last' : List Char} (hrowed : Rowed s.buffer rows last)
    (hrowed' : Rowed s'.buffer rows' last')
    (hown : own drop (rows ++ [last]) = own drop (rows' ++ [last'])) {x : List Char}
    (hx : '\n' ∉ x) (hsolid : ¬ isAllBlank (withoutBackslash x)) (inBlock : Bool) :
    Alike drop (settle { s with buffer := s.buffer ++ '\n' :: x, inBlock })
      (settle { s' with buffer := s'.buffer ++ '\n' :: x, inBlock }) := by
  have hne : x ≠ [] := by
    rintro rfl
    exact hsolid rfl
  rw [settle_eq_settled, settle_eq_settled]
  refine ⟨hdone, ?_, rfl, ?_, ?_⟩
  · dsimp only
    rw [getLast?_append_row _ hne, getLast?_append_row _ hne]
  · exact iff_of_false (settled_ne_nil (by simp)) (settled_ne_nil (by simp))
  · exact ⟨_, _, _, _, hrowed.settled_newRow hx hsolid, hrowed'.settled_newRow hx hsolid, hown,
      .kept rfl fun _ => rfl⟩

variable (h : Alike drop s s')

include h

/-- A row behind rows that come to the same. -/
theorem alike_row (hdrop : ByBeginning drop) {x : List Char} (hx : '\n' ∉ x)
    (hsolid : ¬ isAllBlank x) (inBlock : Bool) :
    Alike drop (settle { s with buffer := s.buffer ++ '\n' :: x, inBlock })
      (settle { s' with buffer := s'.buffer ++ '\n' :: x, inBlock }) := by
  obtain ⟨rows, last, rows', last', hrowed, hrowed', hown, hlast⟩ := h.rowed
  by_cases hblank : isAllBlank (withoutBackslash x)
  · -- the line is only a backslash, which joins the next line to the row before
    have hne : x ≠ [] := by
      rintro rfl
      exact hsolid rfl
    have hbackslash : x.getLast? = some '\\' := by
      refine Decidable.byContradiction fun hc => hsolid ?_
      rwa [withoutBackslash, if_neg hc] at hblank
    rw [settle_eq_settled, settle_eq_settled]
    refine ⟨h.done, ?_, rfl, ?_, ?_⟩
    · dsimp only
      rw [getLast?_append_row _ hne, getLast?_append_row _ hne]
    · exact iff_of_false (settled_ne_nil (by simp)) (settled_ne_nil (by simp))
    · refine ⟨_, _, _, _, hrowed.settled_backslash hbackslash hblank,
        hrowed'.settled_backslash hbackslash hblank, hown, ?_⟩
      cases hlast with
      | kept trimmed _ => exact .kept (by rw [trimmed]) fun _ => by rw [trimmed]
      | dropped left right =>
        exact .dropped (hdrop.append _ ((hdrop.trimRight _).trans left))
          (hdrop.append _ ((hdrop.trimRight _).trans right))
  · refine alike_newRow h.done hrowed hrowed' ?_ hx hblank inBlock
    rw [own_append, own_append, hown, hlast.own_eq hdrop]

/-- Lines that are joined to rows that come to the same. -/
theorem alike_continued (hdrop : ByBeginning drop) (hjoining : s.joining) {x x' : List Char}
    (hx : '\n' ∉ x) (hx' : '\n' ∉ x') (hne : x ≠ []) (hne' : x' ≠ [])
    (htrim : trimRight x = trimRight x')
    (hends : x.getLast? = some '\\' ↔ x'.getLast? = some '\\') :
    Alike drop (settle { s with buffer := s.buffer ++ x })
      (settle { s' with buffer := s'.buffer ++ x' }) := by
  obtain ⟨rows, last, rows', last', hrowed, hrowed', hown, hlast⟩ := h.rowed
  rw [settle_eq_settled, settle_eq_settled]
  refine ⟨h.done, ?_, h.inBlock, ?_, ?_⟩
  · dsimp only
    rw [getLast?_append_of_ne_nil _ hne, getLast?_append_of_ne_nil _ hne', decide_eq_decide]
    exact hends
  · exact iff_of_false (settled_ne_nil (by simp [hne])) (settled_ne_nil (by simp [hne']))
  · refine ⟨_, _, _, _, hrowed.settled_append hx hne, hrowed'.settled_append hx' hne', hown, ?_⟩
    dsimp only
    rw [getLast?_append_of_ne_nil _ hne]
    cases hlast with
    | kept _ joined =>
      obtain rfl := joined hjoining
      by_cases hbackslash : x.getLast? = some '\\'
      · -- nothing is behind the backslashes, so the lines are the same
        have hself := trimRight_of_backslash hbackslash
        have hself' := trimRight_of_backslash (hends.mp hbackslash)
        obtain rfl : x = x' := by rw [← hself, htrim, hself']
        exact .kept rfl fun _ => rfl
      · have hkept : settled (last ++ x) = last ++ x := by
          unfold settled
          rw [getLast?_append_of_ne_nil _ hne, if_neg hbackslash]
        have hkept' : settled (last ++ x') = last ++ x' := by
          unfold settled
          rw [getLast?_append_of_ne_nil _ hne', if_neg (hbackslash ∘ hends.mpr)]
        rw [hkept, hkept']
        refine .kept ?_ fun hc => absurd (of_decide_eq_true hc) hbackslash
        rw [trimRight_append_trimRight last x, htrim, ← trimRight_append_trimRight last x']
    | dropped left right =>
      exact .dropped (hdrop.settled left hne) (hdrop.settled right hne')

end

/-- The same line, with more or less blanks at its end, keeps two splitters alike, unless the blanks
hide a backslash that joins the next line. -/
theorem alike_feed (hdrop : ByBeginning drop) {s s' : Splitter} (h : Alike drop s s')
    {l l' : List Char} (hl : '\n' ∉ l) (hl' : '\n' ∉ l') (htrim : trimRight l = trimRight l')
    (hends : s.joining → (l.getLast? = some '\\' ↔ l'.getLast? = some '\\')) :
    Alike drop (feed s l) (feed s' l') := by
  have hsame := fate_congr h htrim
  rw [feed_eq_meet, feed_eq_meet, ← hsame]
  have hblank : isAllBlank l = isAllBlank l' := by
    rw [← isAllBlank_trimRight l, htrim, isAllBlank_trimRight]
  have hfree : '\n' ∉ trimRight l := fun hc => hl ((trimRight_isPrefix l).subset hc)
  cases hfate : fate s l with
  | blank => exact h
  | comment => exact alike_emit hdrop h
  | opening =>
    have hsolid := not_blank_of_fate hfate (by decide)
    have hline : trim l = trim l' := by rw [← trim_trimRight, htrim, trim_trimRight]
    have hne : trim l ≠ [] := fun hc => hsolid (trim_eq_nil_iff.mp hc)
    rw [meet, meet, ← hline]
    exact alike_opening (alike_emit hdrop h).done (fun hc => hl (mem_of_mem_trim hc)) hne
  | nested =>
    have hsolid := not_blank_of_fate hfate (by decide)
    rw [meet, meet, ← htrim]
    exact alike_row h hdrop hfree (by rwa [isAllBlank_trimRight]) true
  | closing =>
    have hsolid := not_blank_of_fate hfate (by decide)
    rw [meet, meet, ← htrim]
    exact alike_row h hdrop hfree (by rwa [isAllBlank_trimRight]) false
  | continued =>
    have hsolid := not_blank_of_fate hfate (by decide)
    have hsolid' : ¬ isAllBlank l' := hblank ▸ hsolid
    have hjoining := joining_of_fate hfate
    have hne := trimLeft_ne_nil hsolid
    have hne' := trimLeft_ne_nil hsolid'
    have hline : trim l = trim l' := by rw [← trim_trimRight, htrim, trim_trimRight]
    rw [meet, meet]
    refine alike_continued h hdrop hjoining (fun hc => hl ?_) (fun hc => hl' ?_) hne hne' hline ?_
    · exact (List.dropWhile_suffix _).subset hc
    · exact (List.dropWhile_suffix _).subset hc
    · rw [getLast?_trimLeft hsolid, getLast?_trimLeft hsolid']
      exact hends hjoining

/-- Commands of splitters that are alike come to the same rows. -/
theorem ownRows_finish (hdrop : ByBeginning drop) {s s' : Splitter} (h : Alike drop s s') :
    s.finish.map (ownRows drop) = s'.finish.map (ownRows drop) := by
  rw [finish, finish, List.map_reverse, List.map_reverse, (alike_emit hdrop h).done]

theorem alike_foldl (hdrop : ByBeginning drop) {s s' : Splitter} (h : Alike drop s s')
    {ls : List (List Char)} (free : ∀ l ∈ ls, '\n' ∉ l) :
    Alike drop (ls.foldl feed s) (ls.foldl feed s') := by
  induction ls generalizing s s' with
  | nil => exact h
  | cons l ls ih =>
    have hl := free l List.mem_cons_self
    exact ih (alike_feed hdrop h hl hl rfl fun _ => Iff.rfl) fun x hx =>
      free x (List.mem_cons_of_mem _ hx)

end Playbook.Splitter
