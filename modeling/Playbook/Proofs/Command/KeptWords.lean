/-
  No shell text is lost. Line by line, a splitter takes up the words of what it is fed, but for
  comments that stand where a command might begin (`said_feed`), and what it has taken up ends in
  the commands. So the commands of a block say, in order, what its lines say
  (`commands_keep_words`).
-/
import Playbook.Proofs.Text.Words
import Playbook.Proofs.Command.Feeding
import Playbook.Command.Extraction
import Mathlib.Data.Finset.Insert

namespace Playbook.Splitter

open Playbook.Text

/-! ## One line -/

/-- The words that a splitter has taken up: those of the finished commands, in order, then those of
the command in the making. -/
def said (s : Splitter) : List (List Char) :=
  s.done.reverse.flatMap (fun c => words c.toList) ++ words s.buffer

/-- What a continued line is followed by cannot run into its last word. -/
def Parted (s : Splitter) : Prop := s.joining → ∃ front, s.buffer = front ++ [' ']

theorem parted_settle (s : Splitter) : Parted (settle s) := by
  rw [settle_eq]
  split
  · exact fun _ => ⟨_, rfl⟩
  · exact nofun

theorem parted_feed {s : Splitter} (h : Parted s) (line : List Char) : Parted (feed s line) := by
  rw [feed_eq_meet]
  cases fate s line with
  | blank => exact h
  | comment => exact nofun
  | _ => exact parted_settle _

theorem words_settle (s : Splitter) :
    words (settle s).buffer = words (withoutBackslash s.buffer) := by
  rw [settle_eq]
  split
  · have hblank : isAllBlank [' '] := by decide
    rw [words_append_blank _ hblank, words_trimRight]
  · next hlast => rw [withoutBackslash, if_neg hlast]

theorem said_settle (s : Splitter) : (settle s).said =
    s.done.reverse.flatMap (fun c => words c.toList) ++ words (withoutBackslash s.buffer) := by
  rw [said, settle_done, words_settle]

theorem said_emit (s : Splitter) : s.emit.said = s.said := by
  unfold said emit
  dsimp only
  rw [words_nil, List.append_nil, ← words_trimRight s.buffer]
  split
  · next hempty => rw [List.isEmpty_iff.mp hempty, words_nil, List.append_nil]
  · rw [List.reverse_cons, List.flatMap_append, List.flatMap_singleton, String.toList_ofList]

/-- Without the blanks in front of it, a line has the same words, and the same backslash. -/
theorem words_withoutBackslash_trimLeft {line : List Char} (h : ¬ isAllBlank line) :
    words (withoutBackslash (trimLeft line)) = words (withoutBackslash line) := by
  obtain ⟨l, hl, hblank, _⟩ := exists_trimLeft line
  conv => rhs; rw [hl]
  rw [withoutBackslash_append _ (trimLeft_ne_nil h), words_blank_append hblank]

/-- What is put on a new line of the command adds its words. -/
theorem words_new_line (front : List Char) {line : List Char} (h : ¬ isAllBlank line) :
    words (withoutBackslash (front ++ '\n' :: line)) =
      words front ++ words (withoutBackslash line) := by
  have hne : line ≠ [] := by
    rintro rfl
    exact h rfl
  have hfeed : isBlank '\n' := by decide
  have hsplit : front ++ '\n' :: line = (front ++ ['\n']) ++ line := by simp
  rw [hsplit, withoutBackslash_append _ hne, List.append_assoc, List.singleton_append,
    words_append_cons hfeed]

/-- A line without blanks at its end adds its words, without its backslash, unless it is a comment
where a command might begin. -/
theorem said_feed {s : Splitter} (hs : Parted s) {line : List Char}
    (hline : trimRight line = line) :
    (feed s line).said =
      s.said ++ if fate s line = .comment then [] else words (withoutBackslash line) := by
  rw [feed_eq_meet]
  unfold fate
  split
  · next hblank =>
    obtain rfl : line = [] := hline.symm.trans (trimRight_of_blank hblank)
    simp [meet, withoutBackslash]
  · next hsolid =>
    have hnew : ∀ front, words (withoutBackslash (front ++ '\n' :: trimRight line)) =
        words front ++ words (withoutBackslash line) := by
      intro front
      rw [hline]
      exact words_new_line front hsolid
    split
    · next hjoining =>
      obtain ⟨front, hfront⟩ := hs hjoining
      have hspace : isBlank ' ' := by decide
      have hbuffer := words_append_blank front (r := [' ']) (by decide)
      have hjoined : words (withoutBackslash (s.buffer ++ trimLeft line)) =
          words s.buffer ++ words (withoutBackslash line) := by
        rw [withoutBackslash_append _ (trimLeft_ne_nil hsolid), hfront, hbuffer, List.append_assoc,
          List.singleton_append, words_append_cons hspace, words_withoutBackslash_trimLeft hsolid]
      rw [if_neg (by decide), meet, said_settle, hjoined, said, List.append_assoc]
    · split
      · rw [if_neg (by decide), meet, said_settle, hnew, said, List.append_assoc]
      · split
        · rw [if_neg (by decide), meet, said_settle, hnew, said, List.append_assoc]
        · split
          · rw [if_pos rfl, meet, said_emit, List.append_nil]
          · have hnil : s.emit.buffer = [] := rfl
            rw [if_neg (by decide), meet, said_settle, trim_eq_trimLeft hline,
              words_withoutBackslash_trimLeft hsolid, ← said_emit, said, hnil, words_nil,
              List.append_nil]

/-! ## A block -/

/-- The lines that are not blank and not at one of the positions, which count from `first`. -/
def otherLines (D : Finset Nat) (first : Nat) (ls : List (List Char)) : List (List Char) :=
  ((ls.zipIdx first).filter fun p => !isAllBlank p.1 && decide (p.2 ∉ D)).map Prod.fst

theorem otherLines_cons (D : Finset Nat) (first : Nat) (l : List Char) (ls : List (List Char)) :
    otherLines D first (l :: ls) =
      (if !isAllBlank l && decide (first ∉ D) then [l] else []) ++ otherLines D (first + 1) ls := by
  unfold otherLines
  rw [List.zipIdx_cons, List.filter_cons]
  dsimp only
  split <;> rfl

/-- A position in front of the lines does not matter. -/
theorem otherLines_insert {D : Finset Nat} {first i : Nat} (hi : i < first)
    (ls : List (List Char)) : otherLines (insert i D) first ls = otherLines D first ls := by
  unfold otherLines
  congr 1
  refine List.filter_congr fun p hp => ?_
  have hbehind := List.le_snd_of_mem_zipIdx hp
  have hne : p.2 ≠ i := by omega
  simp [hne]

/-- A splitter takes up the words of all lines but for some comments. -/
theorem said_foldl {s : Splitter} (hs : Parted s) {ls : List (List Char)}
    (hls : ∀ l ∈ ls, trimRight l = l) (first : Nat) :
    ∃ D : Finset Nat, (∀ i ∈ D, ∃ l, (l, i) ∈ ls.zipIdx first ∧ isComment l) ∧
      (ls.foldl feed s).said =
        s.said ++ (otherLines D first ls).flatMap fun l => words (withoutBackslash l) := by
  induction ls generalizing s first with
  | nil => exact ⟨∅, by simp, by simp [otherLines]⟩
  | cons l ls ih =>
    obtain ⟨D, hD, hsaid⟩ := ih (parted_feed hs l)
      (fun x hx => hls x (List.mem_cons_of_mem _ hx)) (first + 1)
    have hone := said_feed hs (hls l List.mem_cons_self)
    have hbehind : ∀ i ∈ D, first < i := by
      intro i hi
      obtain ⟨x, hx, _⟩ := hD i hi
      exact List.le_snd_of_mem_zipIdx hx
    have hlater : ∀ i ∈ D, ∃ x, (x, i) ∈ (l :: ls).zipIdx first ∧ isComment x := by
      intro i hi
      obtain ⟨x, hx, hcomment⟩ := hD i hi
      exact ⟨x, List.mem_cons_of_mem _ hx, hcomment⟩
    rw [List.foldl_cons]
    by_cases hfate : fate s l = .comment
    · -- the comment is one of the lines that are left out
      refine ⟨insert first D, fun i hi => ?_, ?_⟩
      · rcases Finset.mem_insert.mp hi with rfl | hi
        · exact ⟨l, List.mem_cons_self, isComment_of_fate hfate⟩
        · exact hlater i hi
      · have hout : first ∈ insert first D := Finset.mem_insert_self first D
        rw [hsaid, hone, if_pos hfate, otherLines_cons, otherLines_insert (Nat.lt_succ_self first)]
        simp [hout]
    · refine ⟨D, hlater, ?_⟩
      have hkept : first ∉ D := fun hc => absurd (hbehind first hc) (Nat.lt_irrefl first)
      have hwords : (if !isAllBlank l && decide (first ∉ D) then [l] else []).flatMap
          (fun l => words (withoutBackslash l)) = words (withoutBackslash l) := by
        by_cases hblank : isAllBlank l
        · obtain rfl : l = [] :=
            (hls l List.mem_cons_self).symm.trans (trimRight_of_blank hblank)
          rfl
        · simp [hblank, hkept]
      rw [hsaid, hone, if_neg hfate, otherLines_cons, List.flatMap_append, hwords,
        List.append_assoc]

/-! ## Commands -/

/-- No finished command is blank. -/
def Solid (s : Splitter) : Prop := ∀ c ∈ s.done, ¬ isAllBlank c.toList

theorem solid_emit {s : Splitter} (h : Solid s) : Solid s.emit := by
  unfold Solid emit
  dsimp only
  split
  · exact h
  · next hne =>
    intro c hc
    rcases List.mem_cons.mp hc with rfl | hc
    · intro hblank
      rw [String.toList_ofList] at hblank
      obtain ⟨r, hr, hb, _⟩ := exists_trimRight s.buffer
      have hall : isAllBlank s.buffer := by
        rw [hr]
        exact isAllBlank_append.mpr ⟨hblank, hb⟩
      exact hne (List.isEmpty_iff.mpr (trimRight_of_blank hall))
    · exact h c hc

theorem solid_feed {s : Splitter} (h : Solid s) (line : List Char) : Solid (feed s line) := by
  rw [feed_eq_meet]
  unfold Solid
  cases fate s line with
  | blank => exact h
  | comment => exact solid_emit h
  | opening =>
    rw [meet, settle_done]
    exact solid_emit h
  | _ =>
    rw [meet, settle_done]
    exact h

theorem solid_foldl {s : Splitter} (h : Solid s) (ls : List (List Char)) :
    Solid (ls.foldl feed s) := by
  induction ls generalizing s with
  | nil => exact h
  | cons l ls ih => exact ih (solid_feed h l)

theorem not_blank_of_mem_splitShell {ls : List (List Char)} {c : String} (h : c ∈ splitShell ls) :
    ¬ isAllBlank c.toList :=
  solid_emit (solid_foldl (s := {}) nofun ls) c (List.mem_reverse.mp h)

/-- Every logical line of a shell block is a command of its own. -/
theorem ofBlock_shell (ls : List (List Char)) :
    Command.ofBlock .shell ls = (splitShell ls).map fun c => ⟨.shell, [c]⟩ := by
  have hshell : Language.shell.isShell = true := rfl
  rw [Command.ofBlock, if_pos hshell, ← List.filterMap_eq_map]
  refine List.filterMap_congr fun c hc => ?_
  have hsolid : isAllBlank c.toList = false := by simpa using not_blank_of_mem_splitShell hc
  simp [Command.shell?, Command.create?, hsolid]

/-- The words of the commands of a block, in order, are those of its lines, each without a backslash
at its end; only some comments are left out. And no command is blank. -/
theorem commands_keep_words {ls : List (List Char)} (h : ∀ l ∈ ls, trimRight l = l) :
    ∃ D : Finset Nat, (∀ i ∈ D, ∃ l, ls[i]? = some l ∧ isComment l) ∧
      (Command.ofBlock .shell ls).flatMap (fun c => words c.text.toList) =
        (otherLines D 0 ls).flatMap (fun l => words (withoutBackslash l)) ∧
      ∀ c ∈ Command.ofBlock .shell ls, ¬ isAllBlank c.text.toList := by
  obtain ⟨D, hD, hsaid⟩ := said_foldl (s := {}) nofun h 0
  have htext : ∀ c : String, (⟨.shell, [c]⟩ : Command).text = c := fun _ => rfl
  refine ⟨D, fun i hi => ?_, ?_, fun c hc => ?_⟩
  · obtain ⟨l, hl, hcomment⟩ := hD i hi
    exact ⟨l, List.mem_zipIdx_iff_getElem?.mp hl, hcomment⟩
  · have hfinish : (splitShell ls).flatMap (fun c => words c.toList) = (ls.foldl feed {}).said := by
      have hnil : (ls.foldl feed {}).emit.buffer = [] := rfl
      rw [← said_emit, said, hnil, words_nil, List.append_nil]
      rfl
    rw [ofBlock_shell, List.flatMap_map]
    exact hfinish.trans hsaid
  · rw [ofBlock_shell] at hc
    obtain ⟨text, hmem, rfl⟩ := List.mem_map.mp hc
    exact not_blank_of_mem_splitShell hmem

/-- A loop with a comment and a continued line in it, between other commands. -/
def loopLines : List (List Char) :=
  ["# prepare", "cd \\", "# /tmp", "", "for f in *; do", "  # each", "  echo $f \\", "    twice",
    "done", "   # all done", "# over", "ls\\\\"].map String.toList

theorem loopLines_keep_words :
    (∀ l ∈ loopLines, trimRight l = l) ∧
    splitShell loopLines = ["cd # /tmp",
      "for f in *; do\n  # each\n  echo $f twice\ndone\n   # all done\n# over", "ls\\"] ∧
    ∃ D : Finset Nat, (∀ i ∈ D, ∃ l, loopLines[i]? = some l ∧ isComment l) ∧
      (Command.ofBlock .shell loopLines).flatMap (fun c => words c.text.toList) =
        (otherLines D 0 loopLines).flatMap (fun l => words (withoutBackslash l)) ∧
      ∀ c ∈ Command.ofBlock .shell loopLines, ¬ isAllBlank c.text.toList :=
  ⟨by decide, by decide, commands_keep_words (by decide)⟩

end Playbook.Splitter
