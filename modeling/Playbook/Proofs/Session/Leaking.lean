/-
  What of an earlier command's output a command of a session collects. The lines that arrive are
  labelled with the call that printed them, a call being one command line with its two markers;
  the session sees the lines without their labels. A call that gave up leaves lines behind; those
  that arrive before the next call is sent are dropped, those that arrive later are collected by
  it (`collects_earlier_iff_late`). A call that was answered completely leaves nothing behind.
-/
import Playbook.Session.LocalShell

namespace Playbook.Session

open Playbook.Text

/-! ## Labelled arrivals -/

/-- A line that arrived, and the call that printed it. -/
structure Printed where
  /-- The number of the call, which is also the number of its marker. -/
  call : Nat
  arrival : Arrival
  deriving Repr, DecidableEq

namespace Printed

/-- The line as it is collected. -/
def text (p : Printed) : String := String.ofList p.arrival.line

/-- Whether the line is the marker of a call. -/
def isMarkerOf (p : Printed) (n : Nat) : Bool := p.arrival.isMarker (LocalShell.marker n)

/-- Whether a call collects the line when it arrives: it neither is its marker nor holds it. -/
def isKeptBy (p : Printed) (n : Nat) : Bool :=
  !p.isMarkerOf n && !p.arrival.isSpoilt (LocalShell.marker n)

end Printed

/-- The far side as the session sees it. -/
def FarSide.unlabelled {τ : Type} (far : FarSide Printed τ) : FarSide Arrival τ := fun text t =>
  let (reaction, t) := far text t
  ({ fault := reaction.fault
     arrivals := reaction.arrivals.map (·.arrival)
     ended := reaction.ended }, t)

/-- In order on each stream: what a call prints comes before what later calls print, its marker
comes last of it, and nobody else prints its marker. -/
structure InOrder (flow : List Printed) : Prop where
  streams : flow.Pairwise fun p q => p.arrival.stream = q.arrival.stream →
    p.call ≤ q.call ∧ (p.isMarkerOf p.call → p.call < q.call)
  markers : ∀ p ∈ flow, ∀ n, p.isMarkerOf n → p.call = n

/-! ## What a call takes -/

/-- Both markers of a call are among the lines. -/
def Answered (n : Nat) (lines : List Printed) : Prop :=
  ∀ stream, ∃ p ∈ lines, p.arrival.stream = stream ∧ p.isMarkerOf n

/-- What a call takes of the lines that arrive while it waits: all until both markers are seen. -/
def taken (n : Nat) (c : Collected) : List Printed → List Printed
  | [] => []
  | p :: rest =>
    if c.isDone then []
    else p :: taken n (c.take (LocalShell.marker n) p.arrival) rest

theorem take_lines (n : Nat) (c : Collected) (p : Printed) :
    (c.take (LocalShell.marker n) p.arrival).lines =
      c.lines ++ ([p].filter (·.isKeptBy n)).map Printed.text := by
  unfold Collected.take
  by_cases hm : p.arrival.isMarker (LocalShell.marker n)
  · have hk : p.isKeptBy n = false := by simp [Printed.isKeptBy, Printed.isMarkerOf, hm]
    rw [if_pos hm]
    cases p.arrival.stream <;> simp [hk]
  · rw [if_neg hm]
    by_cases hs : p.arrival.isSpoilt (LocalShell.marker n)
    · have hk : p.isKeptBy n = false := by simp [Printed.isKeptBy, hs]
      rw [if_pos hs]
      simp [hk]
    · have hk : p.isKeptBy n = true := by simp [Printed.isKeptBy, Printed.isMarkerOf, hm, hs]
      rw [if_neg hs]
      simp [hk, Printed.text]

/-- A call collects, in order, the lines that it takes and keeps. -/
theorem takeAll_lines (n : Nat) (c : Collected) (window : List Printed) :
    (c.takeAll (LocalShell.marker n) (window.map (·.arrival))).1.lines =
      c.lines ++ ((taken n c window).filter (·.isKeptBy n)).map Printed.text := by
  induction window generalizing c with
  | nil => simp [Collected.takeAll, taken]
  | cons p rest ih =>
    rw [List.map_cons, Collected.takeAll, taken]
    split
    · simp
    · rw [ih, take_lines, ← List.singleton_append (l := taken _ _ _), List.filter_append,
        List.map_append, List.append_assoc]

/-- Whether the marker was seen on a stream. -/
def Collected.doneOn (c : Collected) : Stream → Bool
  | .output => c.outputDone
  | .errors => c.errorsDone

theorem isDone_iff (c : Collected) : c.isDone ↔ ∀ stream, c.doneOn stream := by
  constructor
  · intro h stream
    simp only [Collected.isDone, Bool.and_eq_true] at h
    cases stream
    · exact h.1
    · exact h.2
  · intro h
    simp only [Collected.isDone, Bool.and_eq_true]
    exact ⟨h .output, h .errors⟩

theorem doneOn_take (n : Nat) (c : Collected) (p : Printed) (stream : Stream) :
    (c.take (LocalShell.marker n) p.arrival).doneOn stream ↔
      c.doneOn stream ∨ p.arrival.stream = stream ∧ p.isMarkerOf n := by
  unfold Collected.take
  by_cases hm : p.arrival.isMarker (LocalShell.marker n)
  · rw [if_pos hm]
    cases hs : p.arrival.stream <;> cases stream <;>
      simp [Collected.doneOn, Printed.isMarkerOf, hm]
  · rw [if_neg hm]
    split <;> cases stream <;> simp [Collected.doneOn, Printed.isMarkerOf, hm]

/-- The collecting after some lines. -/
def after (n : Nat) (c : Collected) (lines : List Printed) : Collected :=
  lines.foldl (fun c p => c.take (LocalShell.marker n) p.arrival) c

theorem doneOn_after (n : Nat) (c : Collected) (lines : List Printed) (stream : Stream) :
    (after n c lines).doneOn stream ↔
      c.doneOn stream ∨ ∃ p ∈ lines, p.arrival.stream = stream ∧ p.isMarkerOf n := by
  induction lines generalizing c with
  | nil => simp [after]
  | cons p rest ih =>
    rw [after, List.foldl_cons, ← after, ih, doneOn_take]
    simp [or_assoc]

theorem isDone_after_iff (n : Nat) (lines : List Printed) :
    (after n {} lines).isDone ↔ Answered n lines := by
  rw [isDone_iff]
  refine forall_congr' fun stream => ?_
  rw [doneOn_after]
  cases stream <;> simp [Collected.doneOn]

theorem isDone_after_of_isDone {c : Collected} (h : c.isDone) (n : Nat) (lines : List Printed) :
    (after n c lines).isDone :=
  (isDone_iff _).mpr fun stream =>
    (doneOn_after n c lines stream).mpr (Or.inl ((isDone_iff c).mp h stream))

theorem mem_taken_iff_after (n : Nat) (c : Collected) (window : List Printed) (p : Printed) :
    p ∈ taken n c window ↔
      ∃ pre post, window = pre ++ p :: post ∧ ¬ (after n c pre).isDone := by
  induction window generalizing c with
  | nil => simp [taken]
  | cons q rest ih =>
    rw [taken]
    split
    · next hdone =>
      refine iff_of_false List.not_mem_nil ?_
      rintro ⟨pre, post, _, hpre⟩
      exact hpre (isDone_after_of_isDone hdone n pre)
    · next hdone =>
      rw [List.mem_cons, ih]
      constructor
      · rintro (rfl | ⟨pre, post, rfl, hpre⟩)
        · exact ⟨[], rest, rfl, hdone⟩
        · exact ⟨q :: pre, post, rfl, hpre⟩
      · rintro ⟨pre, post, hw, hpre⟩
        cases pre with
        | nil => exact Or.inl (List.cons.inj hw).1.symm
        | cons r pre =>
          obtain ⟨rfl, hrest⟩ := List.cons.inj hw
          exact Or.inr ⟨pre, post, hrest, hpre⟩

/-- A call takes the lines that arrive before both of its markers are seen. -/
theorem mem_taken_iff (n : Nat) (window : List Printed) (p : Printed) :
    p ∈ taken n {} window ↔ ∃ pre post, window = pre ++ p :: post ∧ ¬ Answered n pre := by
  simp only [mem_taken_iff_after, isDone_after_iff]

/-! ## Calls and commands -/

/-- One command line that was sent, and the lines that arrived while the session waited. -/
structure LineCall where
  number : Nat
  window : List Printed

/-- The lines that a call collects. -/
def LineCall.collected (c : LineCall) : List Printed :=
  (taken c.number {} c.window).filter (·.isKeptBy c.number)

/-- What the session waits for after it has written: nothing, if it could not write. -/
def Reaction.heard {α : Type} (r : Reaction α) : List α :=
  if r.fault.isSome then [] else r.arrivals

namespace LocalShell

variable {τ : Type}

/-- The calls that command lines come to: one for each line, up to the first that fails. -/
def callsOf (far : FarSide Printed τ) (s : LocalShell) (t : τ) : List String → List LineCall
  | [] => []
  | line :: rest =>
    if !s.isOpen then []
    else
      let ran := runLine far.unlabelled s t line
      { number := s.next, window := (far (payload line (marker s.next)) t).1.heard } ::
        if ran.fault.isSome then [] else callsOf far ran.session ran.far rest

theorem runLine_lines (far : FarSide Printed τ) {s : LocalShell} (h : s.isOpen) (t : τ)
    (line : String) :
    (runLine far.unlabelled s t line).lines =
      (LineCall.mk s.next (far (payload line (marker s.next)) t).1.heard).collected.map
        Printed.text := by
  unfold runLine FarSide.unlabelled Reaction.heard LineCall.collected
  rw [if_neg (by simp [h])]
  dsimp only
  cases hf : (far (payload line (marker s.next)) t).1.fault with
  | some f => simp [taken]
  | none => simp [takeAll_lines]

theorem runLines_lines (far : FarSide Printed τ) (s : LocalShell) (t : τ) (lines : List String) :
    (runLines far.unlabelled s t lines).lines =
      ((callsOf far s t lines).flatMap LineCall.collected).map Printed.text := by
  induction lines generalizing s t with
  | nil => rfl
  | cons line rest ih =>
    rw [runLines, callsOf]
    by_cases hopen : s.isOpen
    · rw [if_neg (by simp [hopen])]
      dsimp only
      cases hfault : (runLine far.unlabelled s t line).fault with
      | some f => simp [runLine_lines far hopen]
      | none => simp [runLine_lines far hopen, ih]
    · have hclosed : runLine far.unlabelled s t line =
          { fault := some .notOpen, session := s, far := t } := by
        unfold runLine
        rw [if_pos (by simp [hopen])]
      rw [hclosed, if_pos (by simp [hopen])]
      rfl

/-- What a command came to in a session: its calls and its outcome. -/
structure Reply where
  command : Command
  /-- The number of the first call that the command could make. -/
  first : Nat
  calls : List LineCall
  outcome : Outcome

/-- The lines that a command collects. -/
def Reply.collected (r : Reply) : List Printed := r.calls.flatMap LineCall.collected

/-- What the commands of a session come to, one after the other. -/
def replies (far : FarSide Printed τ) (s : LocalShell) (t : τ) : List Command → List Reply
  | [] => []
  | c :: rest =>
    let executed := execute far.unlabelled s t c
    { command := c
      first := s.next
      calls := if c.language.isShell then callsOf far s t c.lines else []
      outcome := executed.outcome } :: replies far executed.session executed.far rest

/-- A line of an earlier command arrives while a call of this one still waits for a marker. -/
def Reply.HearsLate (r : Reply) : Prop :=
  ∃ c ∈ r.calls, ∃ pre p post, c.window = pre ++ p :: post ∧ ¬ Answered c.number pre ∧
    p.call < r.first ∧ p.isKeptBy c.number

theorem Reply.collects_earlier_iff (r : Reply) :
    (∃ p ∈ r.collected, p.call < r.first) ↔ r.HearsLate := by
  constructor
  · rintro ⟨p, hp, hearlier⟩
    obtain ⟨c, hc, hpc⟩ := List.mem_flatMap.mp hp
    obtain ⟨htaken, hkept⟩ := List.mem_filter.mp hpc
    obtain ⟨pre, post, hw, hpre⟩ := (mem_taken_iff _ _ _).mp htaken
    exact ⟨c, hc, pre, p, post, hw, hpre, hearlier, hkept⟩
  · rintro ⟨c, hc, pre, p, post, hw, hpre, hearlier, hkept⟩
    have htaken := (mem_taken_iff c.number c.window p).mpr ⟨pre, post, hw, hpre⟩
    exact ⟨p, List.mem_flatMap.mpr ⟨c, hc, List.mem_filter.mpr ⟨htaken, hkept⟩⟩, hearlier⟩

theorem mem_window_of_collected {c : LineCall} {p : Printed} (h : p ∈ c.collected) :
    p ∈ c.window := by
  obtain ⟨pre, post, hw, _⟩ := (mem_taken_iff _ _ _).mp (List.mem_filter.mp h).1
  rw [hw]
  exact List.mem_append_right _ List.mem_cons_self

/-- The lines of a session's calls, in the order of their arrival. -/
def flow (calls : List LineCall) : List Printed := calls.flatMap LineCall.window

/-- If every stream is in order, then a call that was answered cuts off all that was printed up to
it: the calls after it hear only what later calls print. -/
theorem answered_cuts_off {calls : List LineCall} (h : InOrder (flow calls)) :
    calls.Pairwise fun a b =>
      Answered a.number a.window → ∀ p ∈ b.collected, a.number < p.call := by
  have hpairs := (List.pairwise_flatMap.mp h.streams).2
  have hmarkers : ∀ c ∈ calls, ∀ q ∈ c.window, ∀ n, q.isMarkerOf n → q.call = n :=
    fun c hc q hq n => h.markers q (List.mem_flatMap.mpr ⟨c, hc, hq⟩) n
  refine List.Pairwise.imp_of_mem (fun {a b} ha _ hab hanswered p hp => ?_) hpairs
  obtain ⟨q, hq, hstream, hmark⟩ := hanswered p.arrival.stream
  have hcall : q.call = a.number := hmarkers a ha q hq _ hmark
  have hlater := (hab q hq p (mem_window_of_collected hp) hstream).2
  rw [hcall] at hlater
  exact hlater hmark

/-- A command reports the lines that its calls collect. -/
theorem replies_outcome (far : FarSide Printed τ) (s : LocalShell) (t : τ)
    (commands : List Command) :
    ∀ r ∈ replies far s t commands, r.command.language.isShell →
      ∃ fault, r.outcome = Session.outcome (report (r.collected.map Printed.text)) fault := by
  induction commands generalizing s t with
  | nil => simp [replies]
  | cons c rest ih =>
    intro r hr hshell
    rw [replies] at hr
    rcases List.mem_cons.mp hr with rfl | hr
    · have hs : c.language.isShell = true := hshell
      refine ⟨(runLines far.unlabelled s t c.lines).fault, ?_⟩
      simp only [execute, hs, Reply.collected, if_true, Bool.not_true, Bool.false_eq_true,
        if_false, runLines_lines]
    · exact ih _ _ r hr hshell

/-- A command of a session reports, in order, the lines that its calls collect. Among them is one
that an earlier command printed exactly if such a line arrives while the command still waits. And
if every stream is in order, then whatever arrives after a call that was answered completely was
printed by a later call. -/
theorem collects_earlier_iff_late (far : FarSide Printed τ) (s : LocalShell) (t : τ)
    (commands : List Command) :
    (∀ r ∈ replies far s t commands,
      (r.command.language.isShell →
        ∃ fault, r.outcome = Session.outcome (report (r.collected.map Printed.text)) fault) ∧
      ((∃ p ∈ r.collected, p.call < r.first) ↔ r.HearsLate)) ∧
    (InOrder (flow ((replies far s t commands).flatMap Reply.calls)) →
      ((replies far s t commands).flatMap Reply.calls).Pairwise fun a b =>
        Answered a.number a.window → ∀ p ∈ b.collected, a.number < p.call) :=
  ⟨fun r hr => ⟨replies_outcome far s t commands r hr, r.collects_earlier_iff⟩,
    answered_cuts_off⟩

/-- A shell that answers the first text with nothing in time, and the second with the line that
the first one's command prints. -/
def slowShell : FarSide Printed Nat := fun _ t =>
  ({ arrivals := if t = 0 then [] else [⟨0, .output, "late"⟩] }, t + 1)

def sleepThenEcho : List Command :=
  [⟨.shell, ["sleep 0.5; echo late; sleep 2"]⟩, ⟨.shell, ["echo second"]⟩]

/-- The second command of a session collects what the first one printed after it had timed out. -/
theorem late_line_is_collected :
    let rs := replies slowShell { limit := some 300 } 0 sleepThenEcho
    InOrder (flow (rs.flatMap Reply.calls)) ∧
      rs.map (fun r => (r.first, r.collected.map Printed.call, r.outcome.output)) =
        [(0, [], "[error] Command timed out: no marker after 300ms"),
          (1, [0], "late\n[error] Command timed out: no marker after 300ms")] := by
  have hflow : flow ((replies slowShell { limit := some 300 } 0 sleepThenEcho).flatMap
      Reply.calls) = [⟨0, .output, "late"⟩] := by rfl
  refine ⟨?_, by decide +kernel⟩
  rw [hflow]
  refine ⟨List.pairwise_singleton _ _, fun p hp n hmark => ?_⟩
  rw [List.mem_singleton] at hp
  have hmarker : trimRight (Arrival.line ⟨.output, "late"⟩) = (marker n).toList := by
    simpa [hp, Printed.isMarkerOf, Arrival.isMarker] using hmark
  -- the line begins with another letter than every marker
  have hfirst : some 'l' = some '_' := by
    have hhead := congrArg List.head? hmarker
    rw [marker, String.toList_append, String.toList_append] at hhead
    exact hhead
  exact absurd hfirst (by decide)

end LocalShell

end Playbook.Session
