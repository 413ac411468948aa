/-
  A shell that is running: it is fed with text and answers with the lines of its two streams. A
  line that is not finished waits for the text that finishes it.
-/
import Playbook.Shell.Running
import Playbook.Session.LocalShell

namespace Playbook.Shell

open Playbook.Text Playbook.Session

/-- A running shell. -/
structure Host where
  machine : Machine := {}
  /-- The channels that are open. -/
  opened : Array Opened := #[⟨.console, 0, []⟩, ⟨.output, 0, []⟩, ⟨.errors, 0, []⟩]
  /-- The number of the last process. -/
  processes : Nat := 1
  /-- The beginning of a line of the output that is not finished. -/
  outputPart : String := ""
  /-- The beginning of a line of the errors that is not finished. -/
  errorsPart : String := ""
  /-- How many milliseconds of silence others bear; none for any number. -/
  patience : Option Nat := none
  /-- What was written later than others waited for. -/
  waiting : List Written := []
  /-- How many milliseconds the shell sleeps on. -/
  ahead : Nat := 0

namespace Host

/-- The shell that a program starts in a directory with an environment. -/
def start (program : String) (here : Place) (environment : Table String) (patience : Option Nat) :
    Host :=
  let own := startVars ("/" ++ joinStrings "/" (here.map inward))
  let vars := Table.ofList (own.map fun (k, v) =>
    (k, ({ value := some v, exported := k == "PWD" } : Variable)))
  let vars := environment.entries.foldl (fun (vars : Table Variable) (k, v) =>
    vars.insert k { value := some (inward v), exported := true }) vars
  { machine := { name := program, here, vars }, patience }

/-- The part of a line that a stream has. -/
def part (h : Host) : Stream → String
  | .output => h.outputPart
  | .errors => h.errorsPart

/-- The shell with another part of a line on a stream. -/
def withPart (h : Host) (stream : Stream) (part : String) : Host :=
  match stream with
  | .output => { h with outputPart := part }
  | .errors => { h with errorsPart := part }

/-- The lines that a text finishes on a stream, and the shell with the part that is left. -/
def finishLines (h : Host) (stream : Stream) (text : String) : List Arrival × Host :=
  let all := (pieces '\n' (h.part stream ++ text).toList).map String.ofList
  (all.dropLast.map fun line => ⟨stream, outward line⟩, h.withPart stream (all.getLastD ""))

/-- The lines that written texts finish. -/
def arrivals (h : Host) : List Written → List Arrival × Host
  | [] => ([], h)
  | w :: rest =>
    let stream := if w.channel == .errors then Stream.errors else .output
    let (lines, h) := h.finishLines stream w.text
    let (more, h) := arrivals h rest
    (lines ++ more, h)

/-- The texts that are written before a silence that others do not bear, and when it ends; none if
there is no such silence. `now` is the time of the last line. -/
def beforeSilence (patience now : Nat) : List Written → List Written × Option Nat
  | [] => ([], none)
  | w :: rest =>
    if now + patience ≤ w.time then ([], some (now + patience))
    else
      let now := if w.text.toList.contains '\n' then w.time else now
      let (soon, past) := beforeSilence patience now rest
      (w :: soon, past)

/-- The parts of lines that are left when the shell ends. -/
def remains (h : Host) : List Arrival :=
  [Stream.output, .errors].filterMap fun s =>
    if (h.part s).isEmpty then none else some ⟨s, outward (h.part s)⟩

/-- Lets others wait for written texts, the last of which may be followed by a sleep. -/
def deliver (h : Host) (texts : List Written) (ahead : Nat) : List Arrival × Host :=
  match h.patience.map fun patience => (patience, beforeSilence patience 0 texts) with
  | some (_, soon, some past) =>
    let (lines, h) := h.arrivals soon
    let later := (texts.drop soon.length).map fun w => { w with time := w.time - past }
    (lines, { h with waiting := later, ahead := ahead - past })
  | some (patience, soon, none) =>
    let (lines, h) := h.arrivals soon
    let last := ((texts.getLast?.map Written.time).getD 0)
    let ahead := if last < ahead then ahead - (last + patience) else 0
    (lines, { h with waiting := [], ahead })
  | none =>
    let (lines, h) := h.arrivals texts
    (lines, { h with waiting := [], ahead := 0 })

/-- Feeds the shell with text. One that has ended takes none. -/
def feed (h : Host) (text : String) (d : Disk) : Reaction Arrival × Host × Disk :=
  if h.machine.exited.isSome && h.waiting.isEmpty then
    ({ fault := some .brokenPipe, ended := true }, h, d)
  else if h.machine.stuck || h.machine.exited.isSome then
    let (lines, h) := h.deliver h.waiting h.ahead
    ({ arrivals := lines, ended := h.machine.exited.isSome && h.waiting.isEmpty }, h, d)
  else
    let m := h.machine
    let m := { m with pending := m.pending ++ (inward text).toList }
    let going : Going :=
      { machine := m, disk := { d with here := m.here }, opened := h.opened
        processes := h.processes, time := h.ahead }
    let after := ((runPending (m.pending.length + 2)).run going).2
    let texts := (h.waiting ++ after.written.reverse).mergeSort fun a b => a.time ≤ b.time
    let (lines, next) := h.deliver texts after.time
    -- the next text is taken as if time began anew
    let past := after.time - next.ahead
    let jobs := after.machine.jobs.map fun (j : Job) =>
      if Builtins.never ≤ j.ends then j else { j with ends := j.ends - past }
    let clock := after.machine.clock + past
    let machine := { after.machine with here := after.disk.here, jobs, clock }
    let disk := { after.disk with here := d.here }
    let ended := machine.exited.isSome && next.waiting.isEmpty
    ({ arrivals := lines ++ (if ended then next.remains else []), ended },
      { next with machine, opened := after.opened, processes := after.processes }, disk)

/-- The exit status of the shell once nothing more is written to it. -/
def exitStatus (h : Host) : Nat := h.machine.exited.getD h.machine.status

end Host

end Playbook.Shell
