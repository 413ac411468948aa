/-
  Rehearsals: an agent, an operator and a far machine that follow a script and keep a log, so that
  a workflow can be tried without any of them.
-/
import Playbook.Context
import Playbook.Session.RemoteShell

namespace Playbook

open Playbook.Session

namespace Rehearsal

/-- What the agent does next. -/
inductive Cue where
  | reply (text : String)
  | fail (message : String)
  /-- The next system prompt fails. -/
  | systemFail (message : String)
  deriving Repr, DecidableEq

/-- Something that the agent was told. -/
inductive Call where
  | system (prompt : String)
  | ask (prompt : String)
  | advice (question answer : Option String)
  deriving Repr, DecidableEq

/-- What the far machine does when something is written to it. -/
inductive Response where
  /-- These lines arrive, with the words of the frame in their places. -/
  | lines (ls : List String)
  /-- The writing fails. -/
  | fail (message : String)
  /-- These lines arrive, and then nothing ever again. -/
  | hangup (ls : List String)
  deriving Repr, DecidableEq

end Rehearsal

open Rehearsal

/-- A script and its log. -/
structure Rehearsal where
  cues : List Cue := []
  calls : List Call := []
  answers : List (Option String) := []
  asked : List String := []
  responses : List Response := []
  sent : List String := []
  /-- Why the channel cannot be closed in order. -/
  closeFault : Option String := none
  deriving Repr, DecidableEq

namespace Rehearsal

/-- What stands for the opening word of the frame in a response. -/
def openingSign : String := "\x7bBEGIN\x7d"

/-- What stands for the closing word. -/
def closingSign : String := "\x7bEND\x7d"

/-- A response line with the words of a frame. -/
def framed (f : Frame) (line : String) : String :=
  (line.replace openingSign f.opening).replace closingSign f.closing

/-- The log with one more call. -/
def note (r : Rehearsal) (c : Call) : Rehearsal := { r with calls := r.calls ++ [c] }

/-- The agent is given a system prompt. -/
def system (r : Rehearsal) (prompt : String) : Except AgentFault String × Rehearsal :=
  let r := r.note (.system prompt)
  match r.cues with
  | .systemFail m :: cues => (.error (.failure m), { r with cues })
  | _ => (.ok "", r)

/-- The agent is asked. -/
def ask (r : Rehearsal) (prompt : String) : Except AgentFault String × Rehearsal :=
  let r := r.note (.ask prompt)
  match r.cues with
  | [] => (.error .endOfInput, r)
  | .reply text :: cues => (.ok text, { r with cues })
  | .fail m :: cues => (.error (.failure m), { r with cues })
  | .systemFail m :: cues => (.error (.failure m), { r with cues })

/-- The operator is asked. -/
def answer (r : Rehearsal) (text : String) : Option String × Rehearsal :=
  let r := { r with asked := r.asked ++ [text] }
  match r.answers with
  | [] => (none, r)
  | a :: answers => (a, { r with answers })

/-- Something is written to the far machine, in the frame with that number. -/
def send (frame : Frame) (r : Rehearsal) (text : String) : Reaction String × Rehearsal :=
  let r := { r with sent := r.sent ++ [text] }
  match r.responses with
  | [] => ({ arrivals := [frame.opening, frame.closing] }, r)
  | .lines ls :: responses => ({ arrivals := ls.map (framed frame) }, { r with responses })
  | .fail m :: responses => ({ fault := some (.other m) }, { r with responses })
  | .hangup ls :: responses =>
    ({ arrivals := ls.map (framed frame), ended := true }, { r with responses })

/-- The text with which the closing of the channel is logged. -/
def closeSign : String := "<close>"

/-- The channel is closed. -/
def close (r : Rehearsal) : Option Fault × Rehearsal :=
  (r.closeFault.map Fault.other, { r with sent := r.sent ++ [closeSign] })

end Rehearsal

end Playbook
