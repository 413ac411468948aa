/-
  What a call on another machine makes of the lines that arrive after it was sent. The line with
  the opening word and the line with the closing word frame the command's output: the call succeeds
  if both arrive, reports the lines between them and leaves those behind them unread. If the stream
  ends first, the call fails, and reports the lines behind the opening word if that arrived
  (`captures_framed_lines`).
-/
import Playbook.Proofs.Session.Capturing

namespace Playbook.Session

namespace RemoteShell

variable {τ : Type} {far : FarSide String τ} {s : RemoteShell} {t : τ} {commands : List String}

/-! ## Calls that are sent -/

/-- What the far side does when the commands of a call are written to it. -/
def reaction (far : FarSide String τ) (s : RemoteShell) (t : τ) (commands : List String) :
    Reaction String :=
  (far ((Frame.ofNumber s.next).payload commands) t).1

/-- A call whose commands are written, and that has time to wait for what comes back. What arrived
before it may be anything. -/
structure Sent (far : FarSide String τ) (s : RemoteShell) (t : τ) (commands : List String) :
    Prop where
  opened : s.isOpen
  timely : s.commandLimit ≠ 0
  live : s.ended = false
  written : (reaction far s t commands).fault = none

/-- A call that is sent captures what arrives, and fails only by waiting in vain. -/
theorem Sent.run_eq (sent : Sent far s t commands) :
    let r := reaction far s t commands
    let c := ({} : Capture).takeAll (Frame.ofNumber s.next) r.arrivals
    let ran := run far s t commands
    ran.lines = c.1.lines ∧ ran.session.unread = c.2 ∧
      ran.fault = if c.1.done then none else some (s.silence r.ended) := by
  obtain ⟨opened, timely, live, written⟩ := sent
  have hopen : ¬ (!s.isOpen) := by simp [opened]
  unfold reaction at written ⊢
  unfold run
  rw [if_neg hopen]
  dsimp only
  rw [written]
  dsimp only
  rw [if_neg timely, live, Bool.false_or, if_neg Bool.false_ne_true]
  exact ⟨rfl, rfl, rfl⟩

section

variable (sent : Sent far s t commands) {before : List String}
  (unopened : ∀ line ∈ before, (Frame.ofNumber s.next).isOpening line = false)

include sent unopened

/-- Lines that the two words frame are the output, and those behind them are left. -/
theorem Sent.run_framed {opening closing : String} {body after : List String}
    (hopening : (Frame.ofNumber s.next).isOpening opening)
    (hbody : ∀ line ∈ body, (Frame.ofNumber s.next).isClosing line = false)
    (hclosing : (Frame.ofNumber s.next).isClosing closing)
    (harrived : (reaction far s t commands).arrivals =
      before ++ opening :: (body ++ closing :: after)) :
    (run far s t commands).lines = (Frame.ofNumber s.next).kept body ∧
      (run far s t commands).session.unread = after ∧ (run far s t commands).fault = none := by
  obtain ⟨hlines, hunread, hfault⟩ := sent.run_eq
  rw [harrived, Capture.takeAll_opened unopened hopening hbody,
    Capture.takeAll_closing hclosing] at hlines hunread hfault
  exact ⟨hlines, hunread, hfault⟩

/-- A stream that ends before the opening word brings no output. -/
theorem Sent.run_unopened (harrived : (reaction far s t commands).arrivals = before)
    (hended : (reaction far s t commands).ended) :
    (run far s t commands).lines = [] ∧ (run far s t commands).fault = some .channelClosed := by
  obtain ⟨hlines, _, hfault⟩ := sent.run_eq
  have hnone := Capture.takeAll_before unopened []
  rw [List.append_nil] at hnone
  rw [harrived, hnone] at hlines hfault
  rw [hended] at hfault
  exact ⟨hlines, hfault⟩

/-- Of a stream that ends between the two words the lines behind the first are the output. -/
theorem Sent.run_cut {opening : String} {body : List String}
    (hopening : (Frame.ofNumber s.next).isOpening opening)
    (hbody : ∀ line ∈ body, (Frame.ofNumber s.next).isClosing line = false)
    (harrived : (reaction far s t commands).arrivals = before ++ opening :: body)
    (hended : (reaction far s t commands).ended) :
    (run far s t commands).lines = (Frame.ofNumber s.next).kept body ∧
      (run far s t commands).fault = some .channelClosed := by
  obtain ⟨hlines, _, hfault⟩ := sent.run_eq
  have hopened := Capture.takeAll_opened unopened hopening hbody []
  rw [List.append_nil] at hopened
  rw [harrived, hopened] at hlines hfault
  rw [hended] at hfault
  exact ⟨hlines, hfault⟩

end

/-! ## What a call reports -/

theorem capture_eq (far : FarSide String τ) (s : RemoteShell) (t : τ) (commands : List String) :
    let ran := run far s t commands
    (capture far s t commands).2 = ran ∧
      (ran.fault = none → (capture far s t commands).1 = .ok (report ran.lines)) ∧
      ∀ f, ran.fault = some f → (capture far s t commands).1 = .error f := by
  unfold capture
  dsimp only
  cases (run far s t commands).fault with
  | none => exact ⟨rfl, fun _ => rfl, nofun⟩
  | some g => exact ⟨rfl, nofun, fun f h => by rw [Option.some.inj h]⟩

theorem execute_of_shell (far : FarSide String τ) (s : RemoteShell) (t : τ) {c : Command}
    (shell : c.language.isShell) :
    (execute far s t c).outcome =
        outcome (report (run far s t c.lines).lines) (run far s t c.lines).fault ∧
      (execute far s t c).session = (run far s t c.lines).session := by
  unfold execute
  rw [if_neg (by simp [shell])]
  exact ⟨rfl, rfl⟩

/-- Whatever was left unread before, a call that is sent reports the lines between its two words:
without echoes of the closing word, without the carriage returns at the ends of lines and the blanks
at the end of the output. What comes behind the closing word stays unread. A stream that ends before
the opening word makes the call fail without output; one that ends before the closing word makes it
fail, with the lines up to there reported in front of what went wrong. -/
theorem captures_framed_lines {c : Command} (shell : c.language.isShell)
    (sent : Sent far s t c.lines) {before : List String}
    (unopened : ∀ line ∈ before, (Frame.ofNumber s.next).isOpening line = false) :
    let f := Frame.ofNumber s.next
    let answer := reaction far s t c.lines
    let captured := capture far s t c.lines
    let executed := execute far s t c
    (∀ opening body closing after, f.isOpening opening →
        (∀ line ∈ body, f.isClosing line = false) → f.isClosing closing →
        answer.arrivals = before ++ opening :: (body ++ closing :: after) →
        captured.1 = .ok (report (f.kept body)) ∧ captured.2.session.unread = after ∧
          executed.outcome = ⟨0, report (f.kept body)⟩ ∧ executed.session.unread = after) ∧
      (answer.arrivals = before → answer.ended →
        captured.1 = .error .channelClosed ∧ captured.2.lines = [] ∧
          executed.outcome = ⟨1, "[error] Output channel closed"⟩) ∧
      ∀ opening body, f.isOpening opening → (∀ line ∈ body, f.isClosing line = false) →
        answer.arrivals = before ++ opening :: body → answer.ended →
        captured.1 = .error .channelClosed ∧
          executed.outcome = .failed (report (f.kept body)) .channelClosed := by
  intro f answer captured executed
  obtain ⟨hran, hok, herror⟩ := capture_eq far s t c.lines
  obtain ⟨houtcome, hsession⟩ := execute_of_shell far s t shell
  refine ⟨fun opening body closing after hopening hbody hclosing harrived => ?_,
    fun harrived hended => ?_, fun opening body hopening hbody harrived hended => ?_⟩
  · obtain ⟨hlines, hunread, hfault⟩ :=
      sent.run_framed unopened hopening hbody hclosing harrived
    refine ⟨?_, ?_, ?_, ?_⟩
    · rw [← hlines]
      exact hok hfault
    · rw [hran]
      exact hunread
    · rw [houtcome, hlines, hfault]
      rfl
    · rw [hsession]
      exact hunread
  · obtain ⟨hlines, hfault⟩ := sent.run_unopened unopened harrived hended
    refine ⟨herror _ hfault, ?_, ?_⟩
    · rw [hran]
      exact hlines
    · rw [houtcome, hlines, hfault]
      decide
  · obtain ⟨hlines, hfault⟩ := sent.run_cut unopened hopening hbody harrived hended
    refine ⟨herror _ hfault, ?_⟩
    rw [houtcome, hlines, hfault]
    rfl

/-- A channel on which both words come in several forms, the closing word also before the opening
one, and that echoes what is written to it. -/
def chattyChannel : FarSide String Unit := fun _ t =>
  let f := Frame.ofNumber 7
  ({ arrivals := [f.closing, "$ echo " ++ f.opening, "\r" ++ f.opening, f.opening ++ " ", "one\r\r",
      "\r$ echo " ++ f.closing ++ " \r", "  two", "", "\r\r" ++ f.closing ++ "\r", "late"] }, t)

/-- A channel that is closed after the first line of the output. -/
def brokenChannel : FarSide String Unit := fun _ t =>
  ({ arrivals := ["login", (Frame.ofNumber 7).opening, "one\r"], ended := true }, t)

theorem chattyChannel_captured :
    let f := Frame.ofNumber 7
    let s : RemoteShell :=
      { commandLimit := 900, silenceLimit := 300, unread := ["stale", f.opening], next := 7 }
    let c : Command := ⟨.shell, ["cat list"]⟩
    (capture chattyChannel s () c.lines).1 = .ok (f.opening ++ " \none\n  two") ∧
      (execute chattyChannel s () c).session.unread = ["late"] ∧
      (execute brokenChannel s () c).outcome = ⟨1, "one\n[error] Output channel closed"⟩ := by
  intro f s c
  have chattySent : Sent chattyChannel s () c.lines := ⟨rfl, by decide, rfl, rfl⟩
  have brokenSent : Sent brokenChannel s () c.lines := ⟨rfl, by decide, rfl, rfl⟩
  have hgreeting : ∀ line ∈ [f.closing, "$ echo " ++ f.opening], f.isOpening line = false := by
    decide +kernel
  have hlogin : ∀ line ∈ ["login"], f.isOpening line = false := by decide +kernel
  have chatty := captures_framed_lines rfl chattySent hgreeting
  have broken := captures_framed_lines rfl brokenSent hlogin
  obtain ⟨htext, _, _, hunread⟩ := chatty.1 ("\r" ++ f.opening)
    [f.opening ++ " ", "one\r\r", "\r$ echo " ++ f.closing ++ " \r", "  two", ""]
    ("\r\r" ++ f.closing ++ "\r") ["late"] (by decide +kernel) (by decide +kernel)
    (by decide +kernel) rfl
  obtain ⟨_, hfailed⟩ := broken.2.2 f.opening ["one\r"] (by decide +kernel) (by decide +kernel) rfl
    rfl
  exact ⟨htext.trans (congrArg Except.ok (by decide +kernel)), hunread,
    hfailed.trans (by decide +kernel)⟩

end RemoteShell

end Playbook.Session
