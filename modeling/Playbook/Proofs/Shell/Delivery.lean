/-
  What a running shell delivers. It cuts what is written to a stream into lines and keeps the part
  of a line that is not finished, so it does not matter in how many texts a stream is written: the
  lines that arrive on it are those that a line feed ends in all that was written to it
  (`arrivals_on`).
-/
import Playbook.Proofs.Session.Streams
import Playbook.Proofs.Text.SolidLines
import Playbook.Shell.Host

namespace Playbook

open Playbook.Text Playbook.Session

/-! ## Lines of a text -/

namespace Text

/-- The lines of a text that a line feed ends. -/
def finished (text : String) : List String :=
  (pieces '\n' text.toList).dropLast.map String.ofList

/-- What stands behind the last line feed of a text. -/
def unfinished (text : String) : String := String.ofList ((pieces '\n' text.toList).getLastD [])

theorem holds_of_mem_finished {text line word : String} (hline : line ∈ finished text)
    (h : Holds line word) : Holds text word := by
  obtain ⟨p, hp, rfl⟩ := List.mem_map.mp hline
  rw [Holds, String.toList_ofList] at h
  exact h.trans (infix_of_mem_pieces (List.dropLast_subset _ hp))

theorem newline_not_mem_unfinished (text : String) : '\n' ∉ (unfinished text).toList := by
  have hne := pieces_ne_nil '\n' text.toList
  rw [unfinished, String.toList_ofList, List.getLastD_eq_getLast?,
    List.getLast?_eq_some_getLast hne]
  exact not_mem_of_mem_pieces (List.getLast_mem hne)

theorem finished_of_not_mem {text : String} (h : '\n' ∉ text.toList) : finished text = [] := by
  rw [finished, pieces_of_not_mem h]
  rfl

theorem unfinished_of_not_mem {text : String} (h : '\n' ∉ text.toList) :
    unfinished text = text := by
  rw [unfinished, pieces_of_not_mem h]
  exact String.ofList_toList

theorem finished_line {line : String} (h : '\n' ∉ line.toList) :
    finished (line ++ "\n") = [line] := by
  have hpieces : pieces '\n' (line ++ "\n").toList = [line.toList, []] := by
    rw [String.toList_append]
    exact pieces_append_sep h []
  rw [finished, hpieces]
  exact congrArg (· :: []) String.ofList_toList

/-- The pieces of two texts: the last piece of the first is cut on together with the second. -/
theorem pieces_append_unfinished (front back : String) :
    pieces '\n' (front ++ back).toList =
      (pieces '\n' front.toList).dropLast ++ pieces '\n' (unfinished front ++ back).toList := by
  obtain ⟨ps, p, q, qs, hfront, hback, happ⟩ :=
    exists_pieces_append '\n' front.toList back.toList
  have hp : '\n' ∉ p := not_mem_of_mem_pieces (hfront ▸ List.mem_append_right ps List.mem_cons_self)
  obtain ⟨ps', p', q', qs', hlast, hback', happ'⟩ := exists_pieces_append '\n' p back.toList
  rw [pieces_of_not_mem hp] at hlast
  obtain ⟨rfl, rfl⟩ : ps' = [] ∧ p' = p := by
    have happ : [] ++ [p] = ps' ++ [p'] := hlast
    obtain ⟨hps, hp'⟩ := List.append_inj' happ rfl
    exact ⟨hps.symm, (List.cons.inj hp').1.symm⟩
  obtain ⟨rfl, rfl⟩ := List.cons.inj (hback.symm.trans hback')
  rw [unfinished, hfront, List.dropLast_concat, List.getLastD_concat, String.toList_append,
    String.toList_append, String.toList_ofList, happ, happ', List.nil_append]

theorem finished_append (front back : String) :
    finished (front ++ back) = finished front ++ finished (unfinished front ++ back) := by
  unfold finished
  rw [pieces_append_unfinished, List.dropLast_append_of_ne_nil (pieces_ne_nil _ _),
    List.map_append]

theorem unfinished_append (front back : String) :
    unfinished (front ++ back) = unfinished (unfinished front ++ back) := by
  have hlast := List.getLast?_eq_some_getLast (pieces_ne_nil '\n' (unfinished front ++ back).toList)
  have hwhole : (pieces '\n' (front ++ back).toList).getLast? =
      (pieces '\n' (unfinished front ++ back).toList).getLast? := by
    rw [pieces_append_unfinished, List.getLast?_append, hlast, Option.some_or]
  rw [unfinished, unfinished, List.getLastD_eq_getLast?, List.getLastD_eq_getLast?, hwhole]

/-- A word that follows a text, and a line feed behind it, finish the text's last line. -/
theorem finished_append_word (text : String) {word : String} (h : '\n' ∉ word.toList) :
    finished (text ++ word ++ "\n") = finished text ++ [unfinished text ++ word] := by
  have hline : '\n' ∉ (unfinished text ++ word).toList := by
    rw [String.toList_append, List.mem_append, not_or]
    exact ⟨newline_not_mem_unfinished text, h⟩
  rw [String.append_assoc, finished_append, ← String.append_assoc, finished_line hline]

end Text

/-! ## Streams of a running shell -/

namespace Shell

/-- The stream that a text is written to. -/
def Written.stream (w : Written) : Stream := if w.channel == .errors then .errors else .output

/-- All that is written to a stream. -/
def writtenOn (stream : Stream) : List Written → String
  | [] => ""
  | w :: rest =>
    if w.stream = stream then w.text ++ writtenOn stream rest else writtenOn stream rest

namespace Host

theorem part_withPart_self (h : Host) (stream : Stream) (part : String) :
    (h.withPart stream part).part stream = part := by
  cases stream <;> rfl

theorem part_withPart_of_ne (h : Host) {stream other : Stream} (hne : stream ≠ other)
    (part : String) : (h.withPart stream part).part other = h.part other := by
  cases stream <;> cases other <;> first | rfl | exact absurd rfl hne

theorem finishLines_eq (h : Host) (stream : Stream) (text : String) :
    h.finishLines stream text =
      (((finished (h.part stream ++ text)).map outward).map (Arrival.mk stream),
        h.withPart stream (unfinished (h.part stream ++ text))) := by
  unfold finishLines finished unfinished
  dsimp only
  rw [← List.map_dropLast, ← List.getLastD_map (f := String.ofList)]
  simp only [List.map_map]
  rfl

theorem arrivals_cons (h : Host) (w : Written) (rest : List Written) :
    let text := h.part w.stream ++ w.text
    let next := h.withPart w.stream (unfinished text)
    h.arrivals (w :: rest) =
      (((finished text).map outward).map (Arrival.mk w.stream) ++ (next.arrivals rest).1,
        (next.arrivals rest).2) := by
  rw [arrivals, ← Written.stream, finishLines_eq]

theorem linesOn_self (stream : Stream) (lines : List String) :
    linesOn stream (lines.map (Arrival.mk stream)) = lines := by
  simp [linesOn, List.filter_map, Function.comp_def]

theorem linesOn_of_ne {stream other : Stream} (hne : stream ≠ other) (lines : List String) :
    linesOn other (lines.map (Arrival.mk stream)) = [] := by
  simp [linesOn, hne]

/-- On each stream the lines arrive that are finished in what was left of the stream and what is
written to it, and what is not finished is left. -/
theorem arrivals_on (h : Host) (texts : List Written) (stream : Stream)
    (part : '\n' ∉ (h.part stream).toList) :
    let all := h.part stream ++ writtenOn stream texts
    linesOn stream (h.arrivals texts).1 = (finished all).map outward ∧
      (h.arrivals texts).2.part stream = unfinished all := by
  induction texts generalizing h with
  | nil =>
    dsimp only [writtenOn, arrivals]
    rw [String.append_empty, finished_of_not_mem part, unfinished_of_not_mem part]
    exact ⟨rfl, rfl⟩
  | cons w rest ih =>
    rw [arrivals_cons]
    dsimp only
    rw [linesOn_append]
    by_cases hstream : w.stream = stream
    · subst hstream
      have hpart : '\n' ∉ ((h.withPart w.stream (unfinished (h.part w.stream ++ w.text))).part
          w.stream).toList := by
        rw [part_withPart_self]
        exact newline_not_mem_unfinished _
      obtain ⟨hlines, hleft⟩ := ih _ hpart
      rw [part_withPart_self] at hlines hleft
      rw [writtenOn, if_pos rfl, ← String.append_assoc, linesOn_self, hlines, hleft,
        ← List.map_append, ← finished_append, ← unfinished_append]
      exact ⟨rfl, rfl⟩
    · have hpart := part_withPart_of_ne h hstream (unfinished (h.part w.stream ++ w.text))
      obtain ⟨hlines, hleft⟩ := ih _ (by rwa [hpart])
      rw [hpart] at hlines hleft
      rw [writtenOn, if_neg hstream, linesOn_of_ne hstream, hlines, hleft, List.nil_append]
      exact ⟨rfl, rfl⟩

end Host

end Shell

end Playbook
