/-
  Signals: their names and numbers, what becomes of a shell that they reach, and the commands that
  run beside others.
-/
import Playbook.Shell.Printing
import Playbook.Shell.Machine

namespace Playbook.Shell.Sending

open Playbook.Text

/-- The names of the signals by their numbers; the first is the end of the shell. -/
def names : List String := ["EXIT", "HUP", "INT", "QUIT", "ILL", "TRAP", "ABRT", "BUS", "FPE",
  "KILL", "USR1", "SEGV", "USR2", "PIPE", "ALRM", "TERM", "STKFLT", "CHLD", "CONT", "STOP", "TSTP",
  "TTIN", "TTOU", "URG", "XCPU", "XFSZ", "VTALRM", "PROF", "WINCH", "IO", "PWR", "SYS", "32", "33",
  "RTMIN"] ++ ((List.range 15).map fun k => s!"RTMIN+{k + 1}") ++
  ((List.range 14).map fun k => s!"RTMAX-{14 - k}") ++ ["RTMAX"]

/-- The name of a signal. -/
def nameOf (n : Nat) : String := names.getD n (toString n)

/-- The number of a signal by its name or number. -/
def number? (word : String) : Option Nat :=
  match Number.digits? word.toList with
  | some n => if n < 65 then some n else none
  | none =>
    let name := onString upperAscii word
    match names.idxOf? name with
    | some n => some n
    | none => none

/-- What is said of a process that a signal ended; nothing for some signals. -/
def obituary? (n : Nat) : Option String :=
  match n with
  | 1 => some "Hangup"
  | 2 => none
  | 3 => some "Quit"
  | 4 => some "Illegal instruction"
  | 5 => some "Trace/breakpoint trap"
  | 6 => some "Aborted"
  | 7 => some "Bus error"
  | 8 => some "Floating point exception"
  | 9 => some "Killed"
  | 10 => some "User defined signal 1"
  | 11 => some "Segmentation fault"
  | 12 => some "User defined signal 2"
  | 13 => none
  | 14 => some "Alarm clock"
  | 15 => some "Terminated"
  | 16 => some "Stack fault"
  | 24 => some "CPU time limit exceeded"
  | 25 => some "File size limit exceeded"
  | 26 => some "Virtual timer expired"
  | 27 => some "Profiling timer expired"
  | 29 => some "I/O possible"
  | 30 => some "Power failure"
  | 31 => some "Bad system call"
  | _ => none

/-- Whether a signal ends a process that does nothing about it. -/
def isDeadly (n : Nat) : Bool := 0 < n && !([17, 18, 19, 20, 21, 22, 23, 28].contains n)

/-- Whether a signal cannot be caught. -/
def isFinal (n : Nat) : Bool := n = 9 || n = 19

/-- Sends a signal to a command that runs beside others: what it would have written later is
never written. -/
def endJob (g : Going) (process n : Nat) : Going :=
  let hit := fun (j : Job) => j.process == process && g.time < j.ends
  { g with
    machine := { g.machine with
      jobs := g.machine.jobs.map fun j =>
        if hit j then { j with status := 128 + n, ends := g.time, killedBy := some n } else j }
    written := if g.machine.jobs.any hit then
        g.written.filter fun w => w.process != process || w.time ≤ g.time
      else g.written }

/-- Sends a signal to a process; tells whether there is one. -/
def send (process n : Nat) : Run Bool := do
  let g ← get
  if g.machine.jobs.any fun j => j.process == process && g.time < j.ends then
    if isDeadly n then set (endJob g process n)
    return true
  else if process == g.machine.self || process ≤ g.machine.self && g.living.contains process then
    if 0 < n then
      let sent : Signalled := { process, signal := n, time := g.time }
      set { g with signals := g.signals ++ [sent] }
    return true
  else return false

/-- The script that runs when a signal arrives. -/
def action? (m : Machine) (n : Nat) : Option String :=
  if isFinal n then none else m.traps.lookup n

/-- Whether a signal does something to a shell. -/
def matters (m : Machine) (n : Nat) : Bool :=
  match action? m n with
  | some action => !action.isEmpty
  | none => isDeadly n

end Playbook.Shell.Sending
