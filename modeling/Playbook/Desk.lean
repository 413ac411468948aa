/-
  The desk: everything that the capabilities of a run can be made of. A person at the console can
  be the agent and the operator; commands run in a shell on this machine; and each of them can be
  rehearsed.
-/
import Playbook.Console
import Playbook.Rehearsal
import Playbook.Shell.Host
import Playbook.Settings

namespace Playbook

open Playbook.Text Playbook.Session

/-- What the capabilities of a run know. -/
structure Desk where
  console : Console := {}
  person : ConsoleAgent := {}
  session : LocalShell := {}
  shell : Shell.Host := {}
  remote : RemoteShell := { commandLimit := 60000, silenceLimit := 30000 }
  rehearsal : Rehearsal := {}

namespace Desk

/-! ## The person at the console -/

/-- What is told of an agent's reply. -/
def replyNotices (reply : Except AgentFault String) : List Notice :=
  match reply with
  | .ok text => [⟨.debug, .console, s!"console reply: {preview text}"⟩]
  | .error _ => []

/-- The person as the agent. -/
def personAgent : Agent Desk where
  system prompt w :=
    let (person, console) := w.rest.person.system prompt w.rest.console
    (.ok "", w.withRest { w.rest with person, console })
  ask prompt w :=
    let (reply, person, console) := w.rest.person.ask prompt w.rest.console
    (reply, (w.withRest { w.rest with person, console }).tellAll (replyNotices reply))
  advise question answer w :=
    w.withRest { w.rest with person := w.rest.person.advise question answer }

/-- The person as the operator. An answer that is no text counts as none. -/
def personOperator : Operator Desk where
  ask text w :=
    let (answer, console) := w.rest.console.askOperator text
    let w := w.withRest { w.rest with console }
    match answer with
    | .ok line => (line, w)
    | .error f =>
      (none, w.tell ⟨.warn, .context, s!"Failed to read operator input: {f.message}"⟩)

/-- Prints a text. -/
def print (text : String) (w : World Desk) : World Desk :=
  w.withRest { w.rest with console := w.rest.console.print text }

/-! ## The shell on this machine -/

/-- The process behind the session. -/
def process : Process Arrival (World Desk) where
  write text w :=
    let (reaction, shell, disk) := w.rest.shell.feed text w.disk
    (reaction, { w with disk }.withRest { w.rest with shell })
  wait w := (w.rest.shell.exitStatus, w)

/-- Runs commands in the session on this machine. -/
def localExecutor : Executor Desk where
  execute c w :=
    let done := LocalShell.execute process.write w.rest.session w c
    (done.outcome,
      (done.far.withRest { done.far.rest with session := done.session }).tellAll done.notices)

/-- Starts a program as the shell of a session, without a command: what keeps it from starting,
if something does. -/
def openShell (program : String) (limit : Option Nat) (w : World Desk) :
    Option SessionFault × World Desk :=
  match w.disk.startShell program with
  | .error f => (some (.disk f), w)
  | .ok _ =>
    let shell := Shell.Host.start program w.disk.here w.environment limit
    (none, (w.withRest { w.rest with session := { limit }, shell }).tell
      ⟨.info, .localShell, s!"Started shell {program} (pid Some(1))"⟩)

/-- The command with which a session begins. -/
def firstCommand : String := "cd ~"

/-- Starts a program as the shell of a session and goes to the home directory. -/
def startShell (program : String) (limit : Option Nat) (w : World Desk) :
    Option SessionFault × World Desk :=
  match openShell program limit w with
  | (some f, w) => (some f, w)
  | (none, w) =>
    let ran := LocalShell.runLine process.write w.rest.session w firstCommand
    (ran.fault, (ran.far.withRest { ran.far.rest with session := ran.session }).tellAll ran.notices)

/-- Why a machine that is not in this network cannot be reached, by its address or by its name. -/
def connectionFault (host : RemoteHost) : SessionFault :=
  let address := s!"{host.host}:{host.port}"
  let cause :=
    if host.host.toList.all fun c => c.isDigit || c == '.' then Fault.unreachable.message
    else "failed to lookup address information: Temporary failure in name resolution"
  .connection (address ++ ": " ++ cause)

/-- Starts what runs the commands under the settings: the shell of this machine, or of another
one, which is never reached. -/
def startExecutor (settings : Settings) (w : World Desk) : Option SessionFault × World Desk :=
  match settings.remote with
  | some host =>
    (some (connectionFault host), w.tell ⟨.info, .commands,
      s!"Using SSH executor on {host.user}@{host.host}:{host.port}"⟩)
  | none =>
    startShell settings.shell (settings.shellLimit.map (· * 1000))
      (w.tell ⟨.info, .commands, s!"Using local shell executor: {settings.shell}"⟩)

/-- Ends the session on this machine. -/
def closeShell (w : World Desk) : World Desk :=
  let (session, w, notices) := LocalShell.close process w.rest.session w
  (w.withRest { w.rest with session }).tellAll notices

/-! ## Rehearsed parts -/

/-- The rehearsed agent. -/
def rehearsedAgent : Agent Desk where
  system prompt w :=
    let (reply, rehearsal) := w.rest.rehearsal.system prompt
    (reply, w.withRest { w.rest with rehearsal })
  ask prompt w :=
    let (reply, rehearsal) := w.rest.rehearsal.ask prompt
    (reply, w.withRest { w.rest with rehearsal })
  advise question answer w :=
    w.withRest { w.rest with rehearsal := w.rest.rehearsal.note (.advice question answer) }

/-- The rehearsed operator. -/
def rehearsedOperator : Operator Desk where
  ask text w :=
    let (answer, rehearsal) := w.rest.rehearsal.answer text
    (answer, w.withRest { w.rest with rehearsal })

/-- The channel to the rehearsed machine. -/
def channel : Channel String (World Desk) where
  write text w :=
    let frame := Frame.ofNumber w.rest.remote.next
    if text == RemoteShell.farewell then
      let rehearsal := { w.rest.rehearsal with sent := w.rest.rehearsal.sent ++ [text] }
      ({}, w.withRest { w.rest with rehearsal })
    else
      let (reaction, rehearsal) := w.rest.rehearsal.send frame text
      (reaction, w.withRest { w.rest with rehearsal })
  close w :=
    let (fault, rehearsal) := w.rest.rehearsal.close
    (fault, w.withRest { w.rest with rehearsal })

/-- Runs commands on the rehearsed machine. -/
def remoteExecutor : Executor Desk where
  execute c w :=
    let done := RemoteShell.execute channel.write w.rest.remote w c
    (done.outcome,
      (done.far.withRest { done.far.rest with remote := done.session }).tellAll done.notices)

/-- Runs commands on the rehearsed machine for their output alone. -/
def captureRemote (commands : List String) (w : World Desk) :
    Except SessionFault String × World Desk :=
  let (result, ran) := RemoteShell.capture channel.write w.rest.remote w commands
  (result, (ran.far.withRest { ran.far.rest with remote := ran.session }).tellAll ran.notices)

/-- Ends the session on the rehearsed machine. -/
def closeRemote (w : World Desk) : World Desk :=
  let (remote, w, notices) := RemoteShell.close channel w.rest.remote w
  (w.withRest { w.rest with remote }).tellAll notices

end Desk

end Playbook
