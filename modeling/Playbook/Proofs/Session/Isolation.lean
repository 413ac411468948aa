/-
  The commands of a session on another machine do not see each other's output. The far side
  answers every call with lines of which one has the call's opening word, and behind it the call's
  output and its closing word; the channel brings all lines in order, but as late as it likes, so
  that what a call gives up waiting for arrives during later calls. No line under way opens or ends
  a later call (`Clear`), hence whatever a call collects is a prefix of its own output, and all of
  it if its closing word arrived (`collects_own_output`).
-/
import Playbook.Proofs.Session.Capturing
import Playbook.Proofs.Session.Words

namespace Playbook.Session

open Playbook.Text

/-! ## Answers -/

/-- What the far side prints for one call. -/
structure Answer where
  before : List String := []
  opening : String
  output : List String
  closing : String
  after : List String := []

def Answer.lines (a : Answer) : List String :=
  a.before ++ a.opening :: (a.output ++ a.closing :: a.after)

/-- The words of frames are in the line only as echoes of the commands that print them. -/
def OnlyEchoes (line : String) : Prop :=
  ∀ n, ∀ word ∈ [(Frame.ofNumber n).opening, (Frame.ofNumber n).closing],
    Holds line word → ("echo " ++ word).toList <:+ Frame.comparable line

/-- An answer to the call with a number: two of its lines are the words of the call's frame, and
its other lines only echo such words. -/
structure Answer.Frames (a : Answer) (n : Nat) : Prop where
  opening : (Frame.ofNumber n).isOpening a.opening
  closing : (Frame.ofNumber n).isClosing a.closing
  before : ∀ line ∈ a.before, OnlyEchoes line
  output : ∀ line ∈ a.output, OnlyEchoes line
  after : ∀ line ∈ a.after, OnlyEchoes line

/-- A line that only echoes a word is not that word. -/
theorem OnlyEchoes.comparable_ne {line : String} (h : OnlyEchoes line) {n : Nat} {word : String}
    (hword : word ∈ [(Frame.ofNumber n).opening, (Frame.ofNumber n).closing]) :
    Frame.comparable line ≠ word.toList := by
  intro heq
  have hholds : Holds line word := by
    rw [Holds, ← heq]
    exact Frame.comparable_infix line
  have hlength := (h n word hword hholds).length_le
  rw [heq, String.toList_append, List.length_append] at hlength
  have hecho : "echo ".toList.length = 5 := rfl
  omega

theorem OnlyEchoes.foreign {line : String} (h : OnlyEchoes line) (n : Nat) :
    (Frame.ofNumber n).Foreign line :=
  ⟨beq_false_of_ne (h.comparable_ne (n := n) (by simp)),
    beq_false_of_ne (h.comparable_ne (n := n) (by simp))⟩

/-- What opens a call ends none. -/
theorem not_isClosing_of_isOpening {line : String} {n : Nat}
    (h : (Frame.ofNumber n).isOpening line) (m : Nat) :
    (Frame.ofNumber m).isClosing line = false := by
  refine beq_false_of_ne fun heq => ?_
  have hword := heq.symm.trans (eq_of_beq h)
  exact Frame.closing_ne_opening m n (String.toList_inj.mp hword)

/-- The lines of an answer neither open nor end another call. -/
theorem Answer.Frames.foreign {a : Answer} {n m : Nat} (h : a.Frames n) (hm : m ≠ n)
    {line : String} (hline : line ∈ a.lines) : (Frame.ofNumber m).Foreign line := by
  simp only [Answer.lines, List.mem_append, List.mem_cons] at hline
  rcases hline with hbefore | rfl | houtput | rfl | hafter
  · exact (h.before line hbefore).foreign m
  · refine ⟨beq_false_of_ne fun heq => hm ?_, not_isClosing_of_isOpening h.opening m⟩
    have hword := heq.symm.trans (eq_of_beq h.opening)
    exact Frame.opening_injective (String.toList_inj.mp hword)
  · exact (h.output line houtput).foreign m
  · refine ⟨beq_false_of_ne fun heq => ?_, beq_false_of_ne fun heq => hm ?_⟩
    · have hword := (eq_of_beq h.closing).symm.trans heq
      exact Frame.closing_ne_opening n m (String.toList_inj.mp hword)
    · have hword := heq.symm.trans (eq_of_beq h.closing)
      exact Frame.closing_injective (String.toList_inj.mp hword)
  · exact (h.after line hafter).foreign m

/-- Nothing is cut off a word when it is compared. -/
theorem comparable_word {word : String} (first : word.toList.head? = some '_')
    (last : word.toList.getLast? = some '_') : Frame.comparable word = word.toList := by
  have h := Frame.comparable_append first last ""
  rwa [String.empty_append] at h

theorem isOpening_opening (n : Nat) :
    (Frame.ofNumber n).isOpening (Frame.ofNumber n).opening :=
  beq_iff_eq.mpr (comparable_word (Frame.opening_head n) (Frame.opening_last n))

theorem isClosing_closing (n : Nat) :
    (Frame.ofNumber n).isClosing (Frame.ofNumber n).closing :=
  beq_iff_eq.mpr (comparable_word (Frame.closing_head n) (Frame.closing_last n))

/-- A line without a low line echoes nothing. -/
theorem onlyEchoes_of_free {line : String} (h : '_' ∉ line.toList) : OnlyEchoes line := by
  intro n word hword hholds
  have hhead : word.toList.head? = some '_' := by
    simp only [List.mem_cons, List.not_mem_nil, or_false] at hword
    rcases hword with rfl | rfl
    · exact Frame.opening_head n
    · exact Frame.closing_head n
  exact absurd (hholds.subset (List.mem_of_head? hhead)) h

/-! ## A channel that brings lines in order -/

/-- The lines that were printed and did not arrive yet, and how many calls were sent. -/
structure Underway where
  lines : List String := []
  calls : Nat := 0

/-- How the channel behaves around one call. -/
structure Timing where
  /-- How many of the lines under way arrive before the call is sent, and so are dropped. -/
  stale : Nat
  /-- Why the call could not be sent in full. -/
  fault : Option Fault := none
  /-- How many lines arrive before the session would give up waiting. -/
  heard : Nat
  ended : Bool := false

/-- A far side that answers every call behind all that it answered before. -/
def answering (answers : Nat → Answer) (timings : Nat → Timing) : FarSide String Underway :=
  fun _ u =>
    let timing := timings u.calls
    let lines := u.lines.drop timing.stale ++ (answers u.calls).lines
    ({ fault := timing.fault, arrivals := lines.take timing.heard, ended := timing.ended },
      { lines := lines.drop timing.heard, calls := u.calls + 1 })

/-- No line under way opens or ends a call that is still to be sent. -/
def Underway.Clear (u : Underway) : Prop :=
  ∀ line ∈ u.lines, ∀ n, u.calls ≤ n → (Frame.ofNumber n).Foreign line

section

variable {answers : Nat → Answer} {timings : Nat → Timing}

theorem Underway.Clear.step {u : Underway} (h : u.Clear) (frames : (answers u.calls).Frames u.calls)
    (text : String) : (answering answers timings text u).2.Clear := by
  intro line hline n hn
  have hn : u.calls < n := hn
  have hmem := List.mem_of_mem_drop hline
  rcases List.mem_append.mp hmem with hold | hnew
  · exact h line (List.mem_of_mem_drop hold) n (by omega)
  · exact frames.foreign (by omega) hnew

/-! ## One command -/

namespace RemoteShell

/-- A call hears its own answer behind lines of earlier ones, cut off anywhere. -/
theorem heard_isPrefix (answers : Nat → Answer) (timings : Nat → Timing) (s : RemoteShell)
    (u : Underway) (commands : List String) :
    s.heard (answering answers timings) u commands <+:
      (u.lines.drop (timings u.calls).stale ++ (answers u.calls).before) ++
        (answers u.calls).opening ::
          ((answers u.calls).output ++ (answers u.calls).closing :: (answers u.calls).after) := by
  unfold heard
  dsimp only
  split
  · rw [List.append_assoc]
    exact List.take_prefix _ _
  · exact List.nil_prefix

theorem run_collects_own {s : RemoteShell} {u : Underway} (hnumber : u.calls = s.next)
    (clear : u.Clear) (frames : (answers s.next).Frames s.next) (commands : List String) :
    let ran := run (answering answers timings) s u commands
    let f := Frame.ofNumber s.next
    let own := f.kept (answers s.next).output
    ran.lines <+: own ∧ (ran.fault = none → ran.lines = own) ∧
      (ran.fault = none ↔
        ∃ line ∈ s.heard (answering answers timings) u commands, f.isClosing line) := by
  intro ran f own
  have hbefore : ∀ line ∈ u.lines.drop (timings u.calls).stale ++ (answers u.calls).before,
      f.Foreign line := by
    intro line hline
    rcases List.mem_append.mp hline with hold | hnew
    · exact clear line (List.mem_of_mem_drop hold) s.next (by omega)
    · rw [hnumber] at hnew
      exact (frames.before line hnew).foreign s.next
  have hheard := heard_isPrefix answers timings s u commands
  rw [hnumber] at hbefore hheard
  obtain ⟨hfront, hall, hdone⟩ := Capture.takeAll_of_cut hbefore frames.opening
    (not_isClosing_of_isOpening frames.opening s.next)
    (fun line hline => ((frames.output line hline).foreign s.next).2) frames.closing hheard
  obtain ⟨hlines, hfault⟩ := run_captures (answering answers timings) s u commands
  rw [← hlines] at hfront hall
  exact ⟨hfront, fun hnone => hall (hfault.mp hnone), hfault.trans hdone⟩

/-- After a command the far side still counts with the session, and what is under way is clear. -/
theorem run_clear (timings : Nat → Timing) {s : RemoteShell} {u : Underway}
    (hnumber : u.calls = s.next) (clear : u.Clear) (frames : (answers s.next).Frames s.next)
    (commands : List String) :
    let ran := run (answering answers timings) s u commands
    ran.far.calls = ran.session.next ∧ ran.far.Clear := by
  intro ran
  by_cases hopen : s.isOpen
  · obtain ⟨_, hnext, hfar⟩ := run_session (answering answers timings) hopen u commands
    refine ⟨?_, ?_⟩
    · rw [hnext, hfar, ← hnumber]
      rfl
    · rw [hfar]
      exact clear.step (hnumber ▸ frames) _
  · have hran : ran = { fault := some .notOpen, session := s, far := u } := by
      show run _ _ _ _ = _
      unfold run
      rw [if_pos (by simp [hopen])]
    rw [hran]
    exact ⟨hnumber, clear⟩

/-! ## The commands of a session -/

/-- What one command of a session came to: its call, and its outcome. -/
structure Reply where
  /-- The number of the call. -/
  number : Nat
  /-- What arrives while the session waits. -/
  heard : List String
  lines : List String
  fault : Option SessionFault
  outcome : Outcome

/-- What the commands of a session come to, one after the other; those in other languages are not
run. -/
def replies {τ : Type} (far : FarSide String τ) (s : RemoteShell) (t : τ) :
    List Command → List Reply
  | [] => []
  | c :: rest =>
    let executed := execute far s t c
    let others := replies far executed.session executed.far rest
    if c.language.isShell then
      let ran := run far s t c.lines
      ⟨s.next, s.heard far t c.lines, ran.lines, ran.fault, executed.outcome⟩ :: others
    else others

theorem replies_cons_of_shell {τ : Type} (far : FarSide String τ) (s : RemoteShell) (t : τ)
    {c : Command} (hshell : c.language.isShell) (rest : List Command) :
    let ran := run far s t c.lines
    replies far s t (c :: rest) =
      ⟨s.next, s.heard far t c.lines, ran.lines, ran.fault,
          outcome (report ran.lines) ran.fault⟩ ::
        replies far ran.session ran.far rest := by
  simp [replies, execute, hshell]

theorem replies_cons_of_other {τ : Type} (far : FarSide String τ) (s : RemoteShell) (t : τ)
    {c : Command} (hother : ¬ c.language.isShell) (rest : List Command) :
    replies far s t (c :: rest) = replies far s t rest := by
  simp [replies, execute, hother]

/-- The calls of an open session are numbered one after the other. -/
theorem replies_numbers {τ : Type} (far : FarSide String τ) {s : RemoteShell} (opened : s.isOpen)
    (t : τ) (commands : List Command) :
    (replies far s t commands).map (·.number) =
      List.range' s.next (replies far s t commands).length := by
  induction commands generalizing s t with
  | nil => rfl
  | cons c rest ih =>
    by_cases hshell : c.language.isShell
    · obtain ⟨hopen, hnext, _⟩ := run_session far opened t c.lines
      rw [replies_cons_of_shell far s t hshell, List.map_cons, ih hopen, hnext]
      rfl
    · rw [replies_cons_of_other far s t hshell]
      exact ih opened t

/-- Every command of a session reports lines of its own output and no others. The lines that a call
collects are a prefix of what the far side prints between the words of that call's frame, without
echoes of the closing word and carriage returns at the ends, and all of it if the call has no
fault, which it has not exactly if its closing word arrived: wherever the stream is cut when a call
gives up, and however many lines arrive between the calls. -/
theorem collects_own_output (answers : Nat → Answer) (timings : Nat → Timing) (s : RemoteShell)
    (u : Underway) (commands : List Command) (hnumber : u.calls = s.next) (clear : u.Clear)
    (frames : ∀ n, (answers n).Frames n) :
    let rs := replies (answering answers timings) s u commands
    (s.isOpen → rs.map (·.number) = List.range' s.next rs.length) ∧
      ∀ r ∈ rs,
        let f := Frame.ofNumber r.number
        let own := f.kept (answers r.number).output
        r.outcome = outcome (report r.lines) r.fault ∧ r.lines <+: own ∧
          (r.fault = none → r.lines = own) ∧
          (r.fault = none ↔ ∃ line ∈ r.heard, f.isClosing line) := by
  refine ⟨fun opened => replies_numbers _ opened u commands, ?_⟩
  induction commands generalizing s u with
  | nil => simp [replies]
  | cons c rest ih =>
    intro r hr
    by_cases hshell : c.language.isShell
    · rw [replies_cons_of_shell _ s u hshell] at hr
      rcases List.mem_cons.mp hr with rfl | hr
      · exact ⟨rfl, run_collects_own hnumber clear (frames s.next) c.lines⟩
      · obtain ⟨hcount, hclear⟩ := run_clear timings hnumber clear (frames s.next) c.lines
        exact ih _ _ hcount hclear r hr
    · rw [replies_cons_of_other _ s u hshell] at hr
      exact ih s u hnumber clear r hr

/-- Answers of which the first echoes the command that ends its output. -/
def echoingAnswers (n : Nat) : Answer where
  opening := (Frame.ofNumber n).opening
  output := if n = 0 then ["early", "$ echo " ++ (Frame.ofNumber 0).closing, "tail"] else ["next"]
  closing := (Frame.ofNumber n).closing

/-- The first call gives up after the first line of its output. -/
def cutTimings (n : Nat) : Timing := { stale := 1, heard := if n = 0 then 2 else 9 }

theorem onlyEchoes_first : OnlyEchoes ("$ echo " ++ (Frame.ofNumber 0).closing) := by
  intro n word hword hholds
  rw [Holds, String.toList_append] at hholds
  have hfree : '_' ∉ "$ echo ".toList := by decide
  have hfirst : (Frame.ofNumber 0).closing.toList.length = 40 := by decide +kernel
  simp only [List.mem_cons, List.not_mem_nil, or_false] at hword
  -- no opening word is short enough, and of the closing words only the first
  rcases hword with rfl | rfl
  · have hinfix := infix_of_infix_append (Frame.opening_head n) hfree hholds
    have hlength := hinfix.length_le
    have hopening := Frame.length_opening n
    omega
  · have hinfix := infix_of_infix_append (Frame.closing_head n) hfree hholds
    have hlength := Frame.length_closing n
    have heq := hinfix.eq_of_length_le (by omega)
    rw [String.toList_inj.mp heq]
    decide +kernel

theorem echoingAnswers_frames (n : Nat) : (echoingAnswers n).Frames n where
  opening := isOpening_opening n
  closing := isClosing_closing n
  before := by simp [echoingAnswers]
  after := by simp [echoingAnswers]
  output := by
    intro line hline
    unfold echoingAnswers at hline
    split at hline
    · simp only [List.mem_cons, List.not_mem_nil, or_false] at hline
      rcases hline with rfl | rfl | rfl
      · exact onlyEchoes_of_free (by decide)
      · exact onlyEchoes_first
      · exact onlyEchoes_of_free (by decide)
    · rw [List.mem_singleton.mp hline]
      exact onlyEchoes_of_free (by decide)

/-- The rest of the first command's output arrives during the second, which does not collect it. -/
theorem echoingAnswers_isolated :
    let rs := replies (answering echoingAnswers cutTimings)
      { commandLimit := 900, silenceLimit := 300 } {} [⟨.shell, ["first"]⟩, ⟨.shell, ["second"]⟩]
    (rs.map fun r => (r.number, r.lines, r.fault.isNone)) =
        [(0, ["early"], false), (1, ["next"], true)] ∧
      ∀ r ∈ rs, r.lines <+: (Frame.ofNumber r.number).kept (echoingAnswers r.number).output := by
  intro rs
  have hclear : ({} : Underway).Clear := by simp [Underway.Clear]
  obtain ⟨_, hown⟩ := collects_own_output echoingAnswers cutTimings
    { commandLimit := 900, silenceLimit := 300 } {} [⟨.shell, ["first"]⟩, ⟨.shell, ["second"]⟩] rfl
    hclear echoingAnswers_frames
  exact ⟨by decide +kernel, fun r hr => (hown r hr).2.1⟩

end RemoteShell

end

end Playbook.Session
