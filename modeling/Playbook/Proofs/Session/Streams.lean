/-
  The two streams of a command line, merged in any order. On each stream lines arrive, and behind
  them the marker; a call takes what arrives up to the later of the two markers and leaves the
  rest, and it collects every line but the markers once, in the order of their arrival
  (`collects_merged`).
-/
import Playbook.Proofs.Session.Leaking
import Playbook.Proofs.Session.Words

namespace Playbook.Session

open Playbook.Text

/-! ## Lines that hold a marker -/

namespace Arrival

theorem line_isPrefix (a : Arrival) : a.line <+: a.text.toList := dropRightWhile_isPrefix _ _

theorem isMarker_of_not_holds {a : Arrival} {mark : String} (h : ¬ Holds a.text mark) :
    a.isMarker mark = false := by
  refine Bool.eq_false_iff.mpr fun hmark => h ?_
  have hline : trimRight a.line = mark.toList := eq_of_beq hmark
  rw [Holds, ← hline]
  exact ((dropRightWhile_isPrefix _ _).trans a.line_isPrefix).isInfix

theorem isSpoilt_of_not_holds {a : Arrival} {mark : String} (h : ¬ Holds a.text mark) :
    a.isSpoilt mark = false := by
  refine Bool.eq_false_iff.mpr fun hspoilt => h ?_
  have hline : mark.toList <:+: a.line := by
    unfold isSpoilt at hspoilt
    split at hspoilt
    · exact (List.isSuffixOf_iff_suffix.mp hspoilt).isInfix
    · exact contains_iff.mp hspoilt
  exact hline.trans a.line_isPrefix.isInfix

/-- Nothing is cut off a line that ends with a marker. -/
theorem line_of_marker_behind {a : Arrival} {part : String} {n : Nat}
    (h : a.text = part ++ LocalShell.marker n) :
    a.line = part.toList ++ (LocalShell.marker n).toList := by
  unfold line
  rw [h, String.toList_append, dropRightWhile_word (by decide) (LocalShell.marker_last n)]

/-- A line that ends with a marker is the marker only if there is nothing in front of it. -/
theorem isMarker_iff_of_marker_behind {a : Arrival} {part : String} {n : Nat}
    (h : a.text = part ++ LocalShell.marker n) :
    a.isMarker (LocalShell.marker n) ↔ part = "" := by
  unfold isMarker trimRight
  rw [line_of_marker_behind h, dropRightWhile_word (by decide) (LocalShell.marker_last n),
    beq_iff_eq, List.append_left_eq_self, String.toList_eq_nil_iff]

theorem isSpoilt_of_marker_behind {a : Arrival} {part : String} {n : Nat}
    (h : a.text = part ++ LocalShell.marker n) : a.isSpoilt (LocalShell.marker n) = true := by
  have hsuffix : (LocalShell.marker n).toList <:+ a.line := by
    rw [line_of_marker_behind h]
    exact List.suffix_append _ _
  unfold isSpoilt
  split
  · exact List.isSuffixOf_iff_suffix.mpr hsuffix
  · exact contains_iff.mpr hsuffix.isInfix

end Arrival

/-! ## What a call takes of a window -/

theorem takeAll_eq (n : Nat) (c : Collected) (window : List Printed) :
    c.takeAll (LocalShell.marker n) (window.map (·.arrival)) =
      (after n c (taken n c window),
        (window.drop (taken n c window).length).map (·.arrival)) := by
  induction window generalizing c with
  | nil => rfl
  | cons p rest ih =>
    rw [List.map_cons, Collected.takeAll, taken]
    split
    · rfl
    · rw [ih]
      rfl

theorem taken_of_isDone {n : Nat} {c : Collected} (h : c.isDone) (window : List Printed) :
    taken n c window = [] := by
  cases window with
  | nil => rfl
  | cons p rest => rw [taken, if_pos h]

/-- As long as a call waits it takes what arrives. -/
theorem taken_append {n : Nat} {c : Collected} {window : List Printed}
    (h : ∀ front p back, window = front ++ p :: back → ¬ (after n c front).isDone)
    (later : List Printed) :
    taken n c (window ++ later) = window ++ taken n (after n c window) later := by
  induction window generalizing c with
  | nil => rfl
  | cons p rest ih =>
    have hopen : ¬ c.isDone := h [] p rest rfl
    rw [List.cons_append, taken, if_neg hopen, List.cons_append]
    refine congrArg (p :: ·) (ih fun front q back hrest => ?_)
    exact h (p :: front) q back (by rw [hrest, List.cons_append])

/-! ## Merged streams -/

/-- The lines that arrived on a stream, in order. -/
def linesOn (stream : Stream) (window : List Arrival) : List String :=
  (window.filter (·.stream == stream)).map (·.text)

/-- What arrived, without the lines that hold a word. -/
def without (word : String) (window : List Arrival) : List Arrival :=
  window.filter fun a => !decide (Holds a.text word)

/-- On each stream the lines in `printed` arrive, none of which holds the marker of a call, and
then a line that ends with it, which has `part` in front of the marker. -/
structure Merged (n : Nat) (printed : Stream → List String) (part : Stream → String)
    (window : List Arrival) : Prop where
  free : ∀ stream, ∀ line ∈ printed stream, ¬ Holds line (LocalShell.marker n)
  arrived : ∀ stream,
    linesOn stream window = printed stream ++ [part stream ++ LocalShell.marker n]

theorem mem_linesOn {stream : Stream} {window : List Arrival} {line : String} :
    line ∈ linesOn stream window ↔ ∃ a ∈ window, a.stream = stream ∧ a.text = line := by
  simp [linesOn, and_assoc]

theorem linesOn_append (stream : Stream) (front back : List Arrival) :
    linesOn stream (front ++ back) = linesOn stream front ++ linesOn stream back := by
  simp [linesOn]

theorem linesOn_cons_self (a : Arrival) (rest : List Arrival) :
    linesOn a.stream (a :: rest) = a.text :: linesOn a.stream rest := by
  simp [linesOn]

theorem linesOn_without (stream : Stream) (word : String) (window : List Arrival) :
    linesOn stream (without word window) =
      (linesOn stream window).filter fun line => !decide (Holds line word) := by
  unfold linesOn without
  rw [List.filter_map, List.filter_filter, List.filter_filter]
  congr 2
  funext a
  exact Bool.and_comm _ _

namespace Merged

variable {n : Nat} {printed : Stream → List String} {part : Stream → String}
  {window : List Arrival}

theorem cases (m : Merged n printed part window) {a : Arrival} (ha : a ∈ window) :
    ¬ Holds a.text (LocalShell.marker n) ∨ a.text = part a.stream ++ LocalShell.marker n := by
  have hline : a.text ∈ linesOn a.stream window := mem_linesOn.mpr ⟨a, ha, rfl, rfl⟩
  rw [m.arrived, List.mem_append, List.mem_singleton] at hline
  exact hline.imp_left (m.free a.stream a.text)

theorem holds_of_marker_behind {line part : String} (h : line = part ++ LocalShell.marker n) :
    Holds line (LocalShell.marker n) := by
  rw [Holds, h, String.toList_append]
  exact (List.suffix_append _ _).isInfix

/-- A call collects exactly what does not hold its marker. -/
theorem isKeptBy_eq (m : Merged n printed part window) {a : Arrival} (ha : a ∈ window) :
    (Printed.mk n a).isKeptBy n = !decide (Holds a.text (LocalShell.marker n)) := by
  unfold Printed.isKeptBy Printed.isMarkerOf
  rcases m.cases ha with hfree | hend
  · rw [Arrival.isMarker_of_not_holds hfree, Arrival.isSpoilt_of_not_holds hfree,
      decide_eq_false hfree]
    rfl
  · rw [Arrival.isSpoilt_of_marker_behind hend, decide_eq_true (holds_of_marker_behind hend)]
    simp

theorem linesOn_without (m : Merged n printed part window) (stream : Stream) :
    linesOn stream (without (LocalShell.marker n) window) = printed stream := by
  have hlines : (printed stream).filter (fun line => !decide (Holds line (LocalShell.marker n))) =
      printed stream :=
    List.filter_eq_self.mpr fun line hline => by simp [m.free stream line hline]
  have hlast : ([part stream ++ LocalShell.marker n].filter fun line =>
      !decide (Holds line (LocalShell.marker n))) = [] := by
    simp [holds_of_marker_behind (n := n) rfl]
  rw [Session.linesOn_without, m.arrived, List.filter_append, hlines, hlast, List.append_nil]

/-- A call waits until the last line of each stream has arrived. -/
theorem not_answered (m : Merged n printed part window) {front back : List Arrival} {a : Arrival}
    (h : window = front ++ a :: back) : ¬ Answered n (front.map (Printed.mk n)) := by
  intro hanswered
  obtain ⟨p, hp, hstream, hmark⟩ := hanswered a.stream
  obtain ⟨b, hb, rfl⟩ := List.mem_map.mp hp
  -- on the stream of `a` only lines that were printed are in front of `a`
  have hall := m.arrived a.stream
  rw [h, linesOn_append, linesOn_cons_self] at hall
  have hfront : linesOn a.stream front <+: printed a.stream := by
    have hdrop := congrArg List.dropLast hall
    rw [List.dropLast_concat, List.dropLast_append_cons] at hdrop
    exact ⟨_, hdrop⟩
  have hline : b.text ∈ printed a.stream :=
    hfront.subset (mem_linesOn.mpr ⟨b, hb, hstream, rfl⟩)
  have hno := Arrival.isMarker_of_not_holds (m.free a.stream b.text hline)
  rw [Printed.isMarkerOf, hno] at hmark
  cases hmark

/-- A call is answered if nothing is in front of its markers. -/
theorem answered_iff (m : Merged n printed part window) :
    Answered n (window.map (Printed.mk n)) ↔ ∀ stream, part stream = "" := by
  constructor
  · intro hanswered stream
    obtain ⟨p, hp, rfl, hmark⟩ := hanswered stream
    obtain ⟨b, hb, rfl⟩ := List.mem_map.mp hp
    rcases m.cases hb with hfree | hend
    · rw [Printed.isMarkerOf, Arrival.isMarker_of_not_holds hfree] at hmark
      cases hmark
    · exact (Arrival.isMarker_iff_of_marker_behind hend).mp hmark
  · intro hempty stream
    have hlast : part stream ++ LocalShell.marker n ∈ linesOn stream window := by
      rw [m.arrived]
      exact List.mem_append_right _ List.mem_cons_self
    obtain ⟨b, hb, hstream, htext⟩ := mem_linesOn.mp hlast
    exact ⟨Printed.mk n b, List.mem_map_of_mem hb, hstream,
      (Arrival.isMarker_iff_of_marker_behind htext).mpr (hempty stream)⟩

/-- What a call makes of merged streams and of what arrives behind them. -/
theorem takeAll_eq (m : Merged n printed part window) (later : List Arrival)
    (h : (∀ stream, part stream = "") ∨ later = []) :
    (({} : Collected).takeAll (LocalShell.marker n) (window ++ later)).1.lines =
        (without (LocalShell.marker n) window).map (fun a => String.ofList a.line) ∧
      ((({} : Collected).takeAll (LocalShell.marker n) (window ++ later)).1.isDone ↔
        ∀ stream, part stream = "") ∧
      (({} : Collected).takeAll (LocalShell.marker n) (window ++ later)).2 = later := by
  -- the lines are labelled as printed by the call itself
  have hlabels : ∀ lines : List Arrival, (lines.map (Printed.mk n)).map (·.arrival) = lines :=
    fun lines => by rw [List.map_map]; exact List.map_id lines
  have hwaits : ∀ front p back, window.map (Printed.mk n) = front ++ p :: back →
      ¬ (after n {} front).isDone := by
    intro front p back hsplit
    obtain ⟨front, rest, hwindow, rfl, hrest⟩ := List.map_eq_append_iff.mp hsplit
    obtain ⟨a, back, rfl, _, _⟩ := List.map_eq_cons_iff.mp hrest
    rw [isDone_after_iff]
    exact m.not_answered hwindow
  have htaken : taken n {} ((window ++ later).map (Printed.mk n)) =
      window.map (Printed.mk n) := by
    rw [List.map_append, taken_append hwaits]
    rcases h with hempty | rfl
    · have hdone := (isDone_after_iff n _).mpr (m.answered_iff.mpr hempty)
      rw [taken_of_isDone hdone, List.append_nil]
    · exact List.append_nil _
  have hresult := Session.takeAll_eq n {} ((window ++ later).map (Printed.mk n))
  have hlines := takeAll_lines n {} ((window ++ later).map (Printed.mk n))
  rw [hlabels, htaken] at hresult hlines
  refine ⟨?_, ?_, ?_⟩
  · have hkept : ∀ a ∈ window, ((Printed.isKeptBy · n) ∘ Printed.mk n) a =
        !decide (Holds a.text (LocalShell.marker n)) := fun a ha => m.isKeptBy_eq ha
    rw [hlines, List.filter_map, List.map_map, List.filter_congr hkept]
    rfl
  · rw [hresult, isDone_after_iff, m.answered_iff]
  · rw [hresult, List.length_map, List.map_append, List.drop_left' (by simp), hlabels]

end Merged

/-! ## Running a command line -/

namespace LocalShell

variable {τ : Type}

/-- What a command line comes to that could be written. -/
theorem runLine_of_written {far : FarSide Arrival τ} {s : LocalShell} {t : τ} {line : String}
    (opened : s.isOpen) (written : (far (payload line (marker s.next)) t).1.fault = none) :
    let heard := ({} : Collected).takeAll (marker s.next)
      (far (payload line (marker s.next)) t).1.arrivals
    (runLine far s t line).lines = heard.1.lines ∧
      ((runLine far s t line).fault = none ↔ heard.1.isDone) ∧
      (runLine far s t line).session.unread = heard.2 := by
  unfold runLine
  rw [if_neg (by simp [opened])]
  dsimp only
  rw [written]
  dsimp only
  refine ⟨rfl, ?_, rfl⟩
  split
  · next hdone => simp [hdone]
  · next hwaits => simp [hwaits]

/-- A command line whose streams bring lines without its marker, and behind them the marker, is
run without a fault, in whatever order the streams are merged. All that arrives up to the later of
the two markers is taken, and what arrives behind it is left. Every line but the markers is
collected once, without the carriage returns at its end, in the order of arrival, which on each
stream is the order in which the stream brings it. -/
theorem collects_merged (far : FarSide Arrival τ) (s : LocalShell) (t : τ) (line : String)
    (printed : Stream → List String) (window later : List Arrival) (opened : s.isOpen)
    (written : (far (payload line (marker s.next)) t).1.fault = none)
    (arrivals : (far (payload line (marker s.next)) t).1.arrivals = window ++ later)
    (free : ∀ stream, ∀ l ∈ printed stream, ¬ Holds l (marker s.next))
    (merged : ∀ stream, linesOn stream window = printed stream ++ [marker s.next]) :
    (runLine far s t line).fault = none ∧
      (runLine far s t line).session.unread = later ∧
      (runLine far s t line).lines =
        (without (marker s.next) window).map (fun a => String.ofList a.line) ∧
      ∀ stream, linesOn stream (without (marker s.next) window) = printed stream := by
  have m : Merged s.next printed (fun _ => "") window :=
    ⟨free, fun stream => by rw [merged, String.empty_append]⟩
  obtain ⟨hlines, hdone, hrest⟩ := m.takeAll_eq later (.inl fun _ => rfl)
  obtain ⟨rlines, rdone, rrest⟩ := runLine_of_written opened written
  rw [arrivals] at rlines rdone rrest
  refine ⟨?_, ?_, ?_, m.linesOn_without⟩
  · exact rdone.mpr (hdone.mpr fun _ => rfl)
  · rw [rrest, hrest]
  · rw [rlines, hlines]

/-- Two lines on the output and one on the errors, whose marker is the first to arrive. -/
def interleaved : List Arrival :=
  [⟨.output, "compiling\r"⟩, ⟨.errors, "warning"⟩, ⟨.errors, marker 0⟩, ⟨.output, "done"⟩,
    ⟨.output, marker 0⟩]

/-- A shell whose streams bring these lines, and an error behind them. -/
def interleavingShell : FarSide Arrival Unit := fun _ t =>
  ({ arrivals := interleaved ++ [⟨.errors, "late"⟩] }, t)

/-- The lines on either side of a marker are collected, and what is behind the second is left. -/
theorem collects_interleaved :
    let ran := runLine interleavingShell {} () "make"
    ran.fault = none ∧ ran.session.unread = [⟨.errors, "late"⟩] ∧
      ran.lines = ["compiling", "warning", "done"] := by
  let printed : Stream → List String := fun stream =>
    if stream = .output then ["compiling\r", "done"] else ["warning"]
  have free : ∀ stream, ∀ l ∈ printed stream, ¬ Holds l (marker 0) := by
    intro stream
    cases stream <;> decide +kernel
  have merged : ∀ stream, linesOn stream interleaved = printed stream ++ [marker 0] := by
    intro stream
    cases stream <;> decide +kernel
  obtain ⟨hfault, hunread, hlines, _⟩ :=
    collects_merged interleavingShell {} () "make" printed interleaved [⟨.errors, "late"⟩] rfl rfl
      rfl free merged
  refine ⟨hfault, hunread, hlines.trans ?_⟩
  decide +kernel

end LocalShell

end Playbook.Session
