/-
  Output whose last line is not finished. Sessions read whole lines, so the word that ends a
  command's output arrives behind the part of the line that the command left, and a line with
  something in front of the word does not end the command (`ends_iff_finished`): it waits on until
  it gives up. On this machine the part is lost; on another machine the part and the word behind
  it are collected as a line of the output.
-/
import Mathlib.Data.List.TakeWhile
import Playbook.Proofs.Session.Capturing
import Playbook.Proofs.Shell.Delivery

namespace Playbook.Session

open Playbook.Text

/-- Whether nothing but carriage returns stands behind the last line feed of a text. -/
def endsLine (text : String) : Bool := (unfinished text).toList.all (· == '\r')

/-! ## On this machine -/

namespace LocalShell

variable {τ : Type}

theorem newline_not_mem_marker (n : Nat) : '\n' ∉ (marker n).toList :=
  newline_not_mem_word (by decide) n

/-- A command line that is sent, whose streams bring texts, and behind each text the marker. -/
structure Prints (far : FarSide Arrival τ) (s : LocalShell) (t : τ) (line : String)
    (texts : Stream → String) : Prop where
  opened : s.isOpen
  written : (far (payload line (marker s.next)) t).1.fault = none
  free : ∀ stream, ¬ Holds (texts stream) (marker s.next)
  arrived : ∀ stream, linesOn stream (far (payload line (marker s.next)) t).1.arrivals =
    finished (texts stream ++ marker s.next ++ "\n")

theorem Prints.merged {far : FarSide Arrival τ} {s : LocalShell} {t : τ} {line : String}
    {texts : Stream → String} (h : Prints far s t line texts) :
    Merged s.next (fun stream => finished (texts stream)) (fun stream => unfinished (texts stream))
      (far (payload line (marker s.next)) t).1.arrivals where
  free := fun stream _ hline hholds => h.free stream (holds_of_mem_finished hline hholds)
  arrived := fun stream => by
    rw [h.arrived, finished_append_word _ (newline_not_mem_marker s.next)]

end LocalShell

/-! ## On another machine -/

namespace Frame

theorem newline_not_mem_closing (n : Nat) : '\n' ∉ (ofNumber n).closing.toList :=
  newline_not_mem_word (by decide) n

/-- A line that ends with the closing word is that word only if nothing but carriage returns is in
front of it. -/
theorem isClosing_append_iff (part : String) (n : Nat) :
    (ofNumber n).isClosing (part ++ (ofNumber n).closing) ↔ part.toList.all (· == '\r') := by
  unfold isClosing
  rw [comparable_append (closing_head n) (closing_last n), beq_iff_eq, List.append_left_eq_self,
    List.dropWhile_eq_nil_iff, List.all_eq_true]

theorem not_isClosing_of_not_holds {line : String} {n : Nat}
    (h : ¬ Holds line (ofNumber n).closing) : (ofNumber n).isClosing line = false := by
  refine Bool.eq_false_iff.mpr fun hclosing => h ?_
  rw [Holds, ← eq_of_beq hclosing]
  exact comparable_infix line

end Frame

namespace RemoteShell

variable {τ : Type}

/-- Commands that are sent, and print a text between the two words of their frame. -/
structure Prints (far : FarSide String τ) (s : RemoteShell) (t : τ) (commands : List String)
    (text : String) : Prop where
  free : ¬ Holds text (Frame.ofNumber s.next).closing
  arrived : ∃ before opening,
    (∀ line ∈ before, (Frame.ofNumber s.next).isOpening line = false) ∧
    (Frame.ofNumber s.next).isOpening opening ∧
    s.heard far t commands =
      before ++ opening :: finished (text ++ (Frame.ofNumber s.next).closing ++ "\n")

/-- What a call makes of a text that is printed between its two words. -/
theorem Prints.takeAll_eq {far : FarSide String τ} {s : RemoteShell} {t : τ}
    {commands : List String} {text : String} (h : Prints far s t commands text) :
    let f := Frame.ofNumber s.next
    let part := if endsLine text then [] else [unfinished text ++ f.closing]
    (({} : Capture).takeAll f (s.heard far t commands)).1 =
      { started := true, done := endsLine text, lines := f.kept (finished text ++ part) } := by
  intro f part
  obtain ⟨before, opening, hbefore, hopening, harrived⟩ := h.arrived
  have hbody : ∀ line ∈ finished text, f.isClosing line = false := fun line hline =>
    Frame.not_isClosing_of_not_holds fun hholds => h.free (holds_of_mem_finished hline hholds)
  rw [harrived, finished_append_word text (Frame.newline_not_mem_closing s.next)]
  have hlast := Frame.isClosing_append_iff (unfinished text) s.next
  by_cases hends : endsLine text
  · have hpart : part = [] := if_pos hends
    rw [Capture.takeAll_opened hbefore hopening hbody,
      Capture.takeAll_closing (hlast.mpr hends), hpart, List.append_nil]
    simp [hends, f]
  · have hpart : part = [unfinished text ++ f.closing] := if_neg hends
    have hlines : ∀ line ∈ finished text ++ part, f.isClosing line = false := by
      intro line hline
      rw [hpart, List.mem_append, List.mem_singleton] at hline
      rcases hline with hline | rfl
      · exact hbody line hline
      · exact Bool.eq_false_iff.mpr fun hclosing => hends (hlast.mp hclosing)
    have hopened := Capture.takeAll_opened hbefore hopening hlines []
    rw [List.append_nil, hpart] at hopened
    rw [hopened, hpart]
    simp [Capture.takeAll, hends, f]

end RemoteShell

/-! ## Both sessions -/

/-- A command whose texts do not hold the word that ends it has no fault exactly if no text leaves
a part of a line. The lines that a line feed ends are collected in any case. On this machine every
character is a part of a line, and the part is lost; on another machine carriage returns alone are
none, and the part is collected with the word behind it, unless the two look like the echo of the
command that prints the word. -/
theorem ends_iff_finished {τ : Type} :
    (∀ (far : FarSide Arrival τ) (s : LocalShell) (t : τ) (line : String)
        (texts : Stream → String), LocalShell.Prints far s t line texts →
      let mark := LocalShell.marker s.next
      let arrivals := (far (LocalShell.payload line mark) t).1.arrivals
      let ran := LocalShell.runLine far s t line
      (ran.fault = none ↔ ∀ stream, unfinished (texts stream) = "") ∧
        ran.lines = (without mark arrivals).map (fun a => String.ofList a.line) ∧
        ∀ stream, linesOn stream (without mark arrivals) = finished (texts stream)) ∧
      ∀ (far : FarSide String τ) (s : RemoteShell) (t : τ) (commands : List String)
        (text : String), RemoteShell.Prints far s t commands text →
      let f := Frame.ofNumber s.next
      let part := if endsLine text then [] else [unfinished text ++ f.closing]
      let ran := RemoteShell.run far s t commands
      (ran.fault = none ↔ endsLine text) ∧ ran.lines = f.kept (finished text ++ part) := by
  refine ⟨fun far s t line texts h => ?_, fun far s t commands text h => ?_⟩
  · obtain ⟨rlines, rfault, _⟩ := LocalShell.runLine_of_written h.opened h.written
    obtain ⟨hlines, hdone, _⟩ := h.merged.takeAll_eq [] (.inr rfl)
    rw [List.append_nil] at hlines hdone
    exact ⟨rfault.trans hdone, rlines.trans hlines, h.merged.linesOn_without⟩
  · obtain ⟨rlines, rfault⟩ := RemoteShell.run_captures far s t commands
    rw [h.takeAll_eq] at rlines rfault
    exact ⟨rfault, rlines⟩

/-- A shell that prints a part of a line. -/
def partShell : FarSide Arrival Unit := fun _ t =>
  ({ arrivals :=
      [⟨.errors, LocalShell.marker 0⟩, ⟨.output, "partial" ++ LocalShell.marker 0⟩] }, t)

/-- A shell on another machine that does. -/
def partChannel : FarSide String Unit := fun _ t =>
  ({ arrivals := [(Frame.ofNumber 0).opening, "partial" ++ (Frame.ofNumber 0).closing] }, t)

/-- Neither session takes the part of the line for the end of the command. -/
theorem partial_line_waits :
    let ran := LocalShell.runLine partShell {} () "printf partial"
    let sent := RemoteShell.run partChannel { commandLimit := 900, silenceLimit := 300 } ()
      ["printf partial"]
    (ran.fault ≠ none ∧ ran.lines = []) ∧
      sent.fault ≠ none ∧ sent.lines = ["partial" ++ (Frame.ofNumber 0).closing] := by
  let texts : Stream → String := fun stream => if stream = .output then "partial" else ""
  have prints : LocalShell.Prints partShell {} () "printf partial" texts :=
    { opened := rfl
      written := rfl
      free := fun stream => by cases stream <;> decide +kernel
      arrived := fun stream => by cases stream <;> decide +kernel }
  have printsThere : RemoteShell.Prints partChannel { commandLimit := 900, silenceLimit := 300 } ()
      ["printf partial"] "partial" :=
    { free := by decide +kernel
      arrived := ⟨[], (Frame.ofNumber 0).opening, by simp, by decide +kernel, by decide +kernel⟩ }
  obtain ⟨hlocal, hremote⟩ := ends_iff_finished (τ := Unit)
  obtain ⟨hfault, hlines, _⟩ := hlocal _ _ _ _ _ prints
  obtain ⟨hfaultThere, hlinesThere⟩ := hremote _ _ _ _ _ printsThere
  refine ⟨⟨?_, hlines.trans (by decide +kernel)⟩, ?_, hlinesThere.trans (by decide +kernel)⟩
  · exact fun hnone => absurd (hfault.mp hnone .output) (by decide +kernel)
  · exact fun hnone => absurd (hfaultThere.mp hnone) (by decide +kernel)

/-- Both sessions report that the command took too long. -/
theorem partial_line_is_overdue :
    (LocalShell.execute partShell { limit := some 300 } () ⟨.shell, ["printf partial"]⟩).outcome =
        ⟨1, "[error] Command timed out: no marker after 300ms"⟩ ∧
      (RemoteShell.execute partChannel { commandLimit := 900, silenceLimit := 300 } ()
          ⟨.shell, ["printf partial"]⟩).outcome =
        ⟨1, "partial" ++ (Frame.ofNumber 0).closing ++
          "\n[error] Command timed out: no output for 300ms"⟩ := by
  constructor <;> decide +kernel

end Playbook.Session
