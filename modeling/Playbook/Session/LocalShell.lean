/-
  Sessions with a shell on this machine. Its two streams arrive as lines in any order, and every
  command is followed by a marker on each of them; the command is done when both have arrived.
-/
import Playbook.Session.Basic
import Playbook.Notice
import Playbook.Text.Abridged

namespace Playbook.Session

open Playbook.Text

/-- One of the two streams of a shell. -/
inductive Stream where
  | output
  | errors
  deriving Repr, DecidableEq

/-- A line that arrived, without its line feed. -/
structure Arrival where
  stream : Stream
  text : String
  deriving Repr, DecidableEq

namespace Arrival

/-- The line for people. -/
def describe (a : Arrival) : String :=
  match a.stream with
  | .output => "Stdout(" ++ quote a.text ++ ")"
  | .errors => "Stderr(" ++ quote a.text ++ ")"

/-- The line without the carriage returns at its end. -/
def line (a : Arrival) : List Char := dropRightWhile (· == '\r') a.text.toList

/-- Whether the line is the marker of its stream. -/
def isMarker (a : Arrival) (marker : String) : Bool := trimRight a.line == marker.toList

/-- Whether the line holds the marker behind something else, and so belongs to nobody. -/
def isSpoilt (a : Arrival) (marker : String) : Bool :=
  match a.stream with
  | .output => marker.toList.isSuffixOf a.line
  | .errors => Text.contains marker.toList a.line

end Arrival

/-- The output of a command while it is collected. -/
structure Collected where
  /-- The lines so far, in order. -/
  lines : List String := []
  /-- Whether the marker was seen on the output. -/
  outputDone : Bool := false
  /-- Whether the marker was seen on the errors. -/
  errorsDone : Bool := false
  deriving Repr, DecidableEq

namespace Collected

/-- Whether both markers were seen. -/
def isDone (c : Collected) : Bool := c.outputDone && c.errorsDone

/-- The output with one more arrival. -/
def take (c : Collected) (marker : String) (a : Arrival) : Collected :=
  if a.isMarker marker then
    match a.stream with
    | .output => { c with outputDone := true }
    | .errors => { c with errorsDone := true }
  else if a.isSpoilt marker then c
  else { c with lines := c.lines ++ [String.ofList a.line] }

/-- Takes arrivals until both markers were seen; the rest is left. -/
def takeAll (marker : String) : Collected → List Arrival → Collected × List Arrival
  | c, [] => (c, [])
  | c, a :: rest => if c.isDone then (c, a :: rest) else takeAll marker (c.take marker a) rest

end Collected

/-- A session with a shell on this machine. -/
structure LocalShell where
  isOpen : Bool := true
  /-- How many milliseconds without a line are too many; none for any number. -/
  limit : Option Nat := none
  /-- What arrived and was not read. -/
  unread : List Arrival := []
  /-- The number of the next marker. -/
  next : Nat := 0
  deriving Repr, DecidableEq

namespace LocalShell

variable {τ : Type}

/-- The marker with a number. -/
def marker (n : Nat) : String := "__CMD_DONE_" ++ token n ++ "__"

/-- A command line with the two markers behind it. -/
def payload (line marker : String) : String :=
  line ++ "\necho " ++ marker ++ "\necho " ++ marker ++ " 1>&2\n"

/-- Why nothing more arrives. -/
def silence (s : LocalShell) (ended : Bool) : SessionFault :=
  if ended then .terminated
  else
    match s.limit with
    | some millis => .timeout ("no marker after " ++ durationText millis)
    | none => .timeout "no marker"

/-- What a command line came to. -/
structure Ran (τ : Type) where
  lines : List String := []
  fault : Option SessionFault := none
  session : LocalShell
  far : τ
  notices : List Notice := []

/-- What is told of lines that nobody waits for. -/
def staleNotices (s : LocalShell) : List Notice :=
  s.unread.map fun a => ⟨.debug, .localShell, "Discarding stale shell output: " ++ a.describe⟩

/-- Runs a command line and collects its output. Lines that arrived before are dropped. -/
def runLine (far : FarSide Arrival τ) (s : LocalShell) (t : τ) (line : String) : Ran τ :=
  if !s.isOpen then { fault := some .notOpen, session := s, far := t }
  else
    let mark := marker s.next
    let notices :=
      s.staleNotices ++ [⟨.debug, .localShell, "shell <- " ++ preview line⟩]
    let (reaction, t) := far (payload line mark) t
    let s := { s with unread := [], next := s.next + 1 }
    match reaction.fault with
    | some f => { fault := some (.disk f), session := s, far := t, notices }
    | none =>
      let (collected, rest) := ({} : Collected).takeAll mark reaction.arrivals
      let fault := if collected.isDone then none else some (s.silence reaction.ended)
      { lines := collected.lines, fault, session := { s with unread := rest }, far := t, notices }

/-- Runs command lines in order, up to the first that fails. -/
def runLines (far : FarSide Arrival τ) (s : LocalShell) (t : τ) : List String → Ran τ
  | [] => { session := s, far := t }
  | line :: rest =>
    let first := runLine far s t line
    match first.fault with
    | some _ => first
    | none =>
      let others := runLines far first.session first.far rest
      { others with
        lines := first.lines ++ others.lines
        notices := first.notices ++ others.notices }

/-- The output of lines as it is reported. -/
def report (lines : List String) : String := onString stripBlankEdges (stacked lines)

/-- What is told of a command's outcome. -/
def outcomeNotices (fault : Option SessionFault) (o : Outcome) : List Notice :=
  let failure := match fault with
    | some f => [⟨.warn, .localShell, "Shell command failed: " ++ f.message⟩]
    | none => []
  failure ++ [⟨.debug, .localShell, "shell -> " ++ preview o.output⟩]

/-- The outcome of a command in a session, and what it leaves. -/
structure Executed (τ : Type) where
  outcome : Outcome
  session : LocalShell
  far : τ
  notices : List Notice := []

/-- Runs a command. One in another language is not run. -/
def execute (far : FarSide Arrival τ) (s : LocalShell) (t : τ) (c : Command) : Executed τ :=
  if !c.language.isShell then { outcome := .skipped c.language, session := s, far := t }
  else
    let ran := runLines far s t c.lines
    let o := outcome (report ran.lines) ran.fault
    { outcome := o
      session := ran.session
      far := ran.far
      notices := ran.notices ++ outcomeNotices ran.fault o }

/-- The text that tells a shell to end. -/
def farewell : String := "exit\n"

/-- Ends the session, unless it has ended. -/
def close (p : Process Arrival τ) (s : LocalShell) (t : τ) : LocalShell × τ × List Notice :=
  if !s.isOpen then (s, t, [])
  else
    let (_, t) := p.write farewell t
    let (status, t) := p.wait t
    ({ s with isOpen := false }, t,
      [⟨.info, .localShell, s!"Shell exited with exit status: {status}"⟩])

end LocalShell

end Playbook.Session
