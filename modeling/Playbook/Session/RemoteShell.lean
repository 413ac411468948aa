/-
  Sessions with a shell on another machine, over a channel that echoes what is written to it.
  Every command stands between two words: what arrives before the first is not the command's, and
  the second ends it.
-/
import Playbook.Session.Basic
import Playbook.Notice
import Playbook.Text.Abridged

namespace Playbook.Session

open Playbook.Text

/-- The two words around a command. -/
structure Frame where
  opening : String
  closing : String
  deriving Repr, DecidableEq

namespace Frame

/-- The frame with a number. -/
def ofNumber (n : Nat) : Frame :=
  ⟨"__BEGIN_" ++ token n ++ "__", "__END_" ++ token n ++ "__"⟩

/-- Commands between the words. -/
def payload (f : Frame) (commands : List String) : String :=
  "echo " ++ f.opening ++ "\n" ++ stacked commands ++ "echo " ++ f.closing ++ "\n"

/-- A line as it is compared: without carriage returns in front and blanks at the end. -/
def comparable (line : String) : List Char := trimRight (line.toList.dropWhile (· == '\r'))

def isOpening (f : Frame) (line : String) : Bool := comparable line == f.opening.toList

def isClosing (f : Frame) (line : String) : Bool := comparable line == f.closing.toList

/-- Whether a line is the echo of the command that prints the closing word. -/
def isEcho (f : Frame) (line : String) : Bool :=
  ("echo " ++ f.closing).toList.isSuffixOf (comparable line)

end Frame

/-- Where the collecting of a command's output stands. -/
structure Capture where
  started : Bool := false
  done : Bool := false
  /-- The lines so far, in order. -/
  lines : List String := []
  deriving Repr, DecidableEq

namespace Capture

/-- The output with one more line. -/
def take (c : Capture) (f : Frame) (line : String) : Capture :=
  if !c.started then { c with started := f.isOpening line }
  else if f.isClosing line then { c with done := true }
  else if f.isEcho line then c
  else { c with lines := c.lines ++ [onString (dropRightWhile (· == '\r')) line] }

/-- Takes lines until the closing word was seen; the rest is left. -/
def takeAll (f : Frame) : Capture → List String → Capture × List String
  | c, [] => (c, [])
  | c, line :: rest => if c.done then (c, line :: rest) else takeAll f (c.take f line) rest

end Capture

/-- A session with a shell on another machine. -/
structure RemoteShell where
  isOpen : Bool := true
  /-- How many milliseconds a command may take. -/
  commandLimit : Nat
  /-- How many milliseconds may pass without a line. -/
  silenceLimit : Nat
  /-- What arrived and was not read. -/
  unread : List String := []
  /-- Whether nothing will ever arrive again. -/
  ended : Bool := false
  /-- The number of the next frame. -/
  next : Nat := 0
  deriving Repr, DecidableEq

namespace RemoteShell

variable {τ : Type}

/-- What a command exceeds when it takes too long. -/
def overdue (s : RemoteShell) : SessionFault :=
  .timeout ("command exceeded " ++ durationText s.commandLimit)

/-- Why nothing more arrives: the time left for the command is a little less than its limit. -/
def silence (s : RemoteShell) (ended : Bool) : SessionFault :=
  if ended then .channelClosed
  else if s.commandLimit ≤ s.silenceLimit then s.overdue
  else .timeout ("no output for " ++ durationText s.silenceLimit)

/-- What commands came to. -/
structure Ran (τ : Type) where
  lines : List String := []
  fault : Option SessionFault := none
  session : RemoteShell
  far : τ
  notices : List Notice := []

/-- What is told of lines that nobody waits for. -/
def staleNotices (s : RemoteShell) : List Notice :=
  s.unread.map fun line => ⟨.debug, .remoteShell, "Discarding stale SSH output: " ++ preview line⟩

/-- Runs commands and collects their output. Lines that arrived before are dropped. -/
def run (far : FarSide String τ) (s : RemoteShell) (t : τ) (commands : List String) : Ran τ :=
  if !s.isOpen then { fault := some .notOpen, session := s, far := t }
  else
    let frame := Frame.ofNumber s.next
    let notices := s.staleNotices ++
      commands.map fun c => ⟨.debug, .remoteShell, "ssh <- " ++ preview c⟩
    let (reaction, t) := far (frame.payload commands) t
    let arrivals := if s.ended then [] else reaction.arrivals
    let s := { s with unread := arrivals, ended := s.ended || reaction.ended, next := s.next + 1 }
    match reaction.fault with
    | some f => { fault := some (.disk f), session := s, far := t, notices }
    | none =>
      if s.commandLimit = 0 then { fault := some s.overdue, session := s, far := t, notices }
      else
        let (capture, rest) := ({} : Capture).takeAll frame arrivals
        let fault := if capture.done then none else some (s.silence s.ended)
        { lines := capture.lines
          fault
          session := { s with unread := rest }
          far := t
          notices }

/-- The output of lines as it is reported. -/
def report (lines : List String) : String := trimmedRight (joinStrings "\n" lines)

/-- What is told of a command's outcome. -/
def outcomeNotices (fault : Option SessionFault) (o : Outcome) : List Notice :=
  let failure := match fault with
    | some f => [⟨.warn, .remoteShell, "SSH command failed: " ++ f.message⟩]
    | none => []
  failure ++ [⟨.debug, .remoteShell, "ssh -> " ++ preview o.output⟩]

/-- The outcome of a command in a session, and what it leaves. -/
structure Executed (τ : Type) where
  outcome : Outcome
  session : RemoteShell
  far : τ
  notices : List Notice := []

/-- Runs a command. One in another language is not run. -/
def execute (far : FarSide String τ) (s : RemoteShell) (t : τ) (c : Command) : Executed τ :=
  if !c.language.isShell then { outcome := .skipped c.language, session := s, far := t }
  else
    let ran := run far s t c.lines
    let o := outcome (report ran.lines) ran.fault
    { outcome := o
      session := ran.session
      far := ran.far
      notices := ran.notices ++ outcomeNotices ran.fault o }

/-- Runs commands for their output alone. -/
def capture (far : FarSide String τ) (s : RemoteShell) (t : τ) (commands : List String) :
    Except SessionFault String × Ran τ :=
  let ran := run far s t commands
  match ran.fault with
  | some f => (.error f, ran)
  | none => (.ok (report ran.lines), ran)

/-- The text that tells a shell to end. -/
def farewell : String := "exit\n"

/-- Ends the session, unless it has ended. -/
def close (ch : Channel String τ) (s : RemoteShell) (t : τ) : RemoteShell × τ × List Notice :=
  if !s.isOpen then (s, t, [])
  else
    let (_, t) := ch.write farewell t
    let (fault, t) := ch.close t
    let notice : Notice := match fault with
      | none => ⟨.info, .remoteShell, "SSH session closed"⟩
      | some f => ⟨.warn, .remoteShell, "Closing SSH channel failed: " ++ f.message⟩
    ({ s with isOpen := false }, t, [notice])

end RemoteShell

end Playbook.Session
