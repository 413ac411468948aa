/-
  The state of a shell: what it keeps between commands, and what it reads and writes while one
  runs.
-/
import Playbook.Shell.Syntax
import Playbook.Shell.Files
import Playbook.Path
import Playbook.Table
import Playbook.Number.Unsigned

namespace Playbook.Shell

open Playbook.Text

/-! ## Streams -/

/-- What a stream leads to. -/
inductive Channel where
  /-- The text that is written to the shell. -/
  | console
  | output
  | errors
  /-- Holds nothing and takes everything. -/
  | nothing
  | file (at_ : Place) (appends : Bool)
  /-- A text that is read. -/
  | text
  /-- To somebody who waits for the text, at a depth of nesting. -/
  | held (depth : Nat)
  deriving Repr, DecidableEq

/-- A channel that is open. -/
structure Opened where
  channel : Channel
  /-- How many bytes of a file were passed. -/
  offset : Nat := 0
  /-- What is left of a text. -/
  left : List Char := []

/-- The streams of a process by their numbers, each with the number of its open channel. -/
abbrev Streams := List (Nat × Nat)

/-- What was written to a stream that leads outside. -/
structure Written where
  channel : Channel
  text : String
  /-- After how many milliseconds it is written. -/
  time : Nat := 0
  /-- The process beside others that wrote it, zero for none. -/
  process : Nat := 0

/-! ## Machines -/

/-- A variable. Without a value it only has marks. -/
structure Variable where
  value : Option String := none
  /-- Whether programs see it. -/
  exported : Bool := false
  /-- Whether it keeps its value. -/
  constant : Bool := false

/-- A command that runs beside others. -/
structure Job where
  /-- Its number among the commands that run beside others. -/
  number : Nat := 1
  process : Nat
  status : Nat
  /-- After how many milliseconds it ends. -/
  ends : Nat
  /-- Whether someone waited for its end. -/
  awaited : Bool := false
  /-- The signal that ended it, if one did. -/
  killedBy : Option Nat := none
  /-- The number of commands in its pipeline. -/
  stages : Nat := 1

/-- A signal that was sent to a process. -/
structure Signalled where
  process : Nat
  signal : Nat
  /-- After how many milliseconds it was sent. -/
  time : Nat
  deriving DecidableEq

/-- What a shell keeps between commands. -/
structure Machine where
  /-- The name under which it was started. -/
  name : String := "/bin/sh"
  here : Place := []
  vars : Table Variable := .empty
  /-- What the local variables of the running function were outside it; none outside functions. -/
  outer : Option (List (String × Option Variable)) := none
  functions : Table Script := .empty
  aliases : Table String := .empty
  args : List String := []
  /-- The exit status of the last command. -/
  status : Nat := 0
  /-- The letters of the options that are switched on. -/
  options : List Char := ['s']
  streams : Streams := [(0, 0), (1, 1), (2, 2)]
  /-- The scripts that run when signals arrive; the signal 0 is the end of the shell. -/
  traps : List (Nat × String) := []
  /-- The texts of here-documents by their numbers. -/
  documents : List (Nat × Word) := []
  nextDocument : Nat := 0
  /-- The commands that run beside others, the last one first. -/
  jobs : List Job := []
  /-- The last process that was started beside others. -/
  recent : Option Nat := none
  /-- The programs that were found by their names. -/
  known : List String := []
  /-- The working directory as it was gone to, if links lead to it. -/
  path : Option String := none
  /-- The process that `$$` names, and the one that runs. -/
  process : Nat := 1
  self : Nat := 1
  /-- What new files are not allowed. -/
  umask : Nat := 0o022
  /-- The next argument that options are looked for in, and the place in it. -/
  optionIndex : Nat := 1
  optionOffset : Option Nat := none
  /-- The line on which the next text begins. -/
  line : Nat := 1
  /-- Text that is no complete command yet. -/
  pending : List Char := []
  /-- The exit status of a shell that has ended. -/
  exited : Option Nat := none
  /-- Whether a command waits for the text that is written to the shell. -/
  stuck : Bool := false
  /-- How many milliseconds passed before the last text was written to the shell. -/
  clock : Nat := 0

/-- A shell while a command runs. -/
structure Going where
  machine : Machine
  disk : Disk
  /-- The channels that were opened. -/
  opened : Array Opened := #[⟨.console, 0, []⟩, ⟨.output, 0, []⟩, ⟨.errors, 0, []⟩]
  /-- The line on which the running command begins. -/
  line : Nat := 1
  /-- The command of the shell's own that runs. -/
  command : Option String := none
  /-- How many loops of the running function are open. -/
  loops : Nat := 0
  /-- What was written, the last text first. -/
  written : List Written := []
  /-- How many others wait for the text of commands. -/
  depth : Nat := 0
  /-- How many milliseconds passed in sleeps. -/
  time : Nat := 0
  /-- The process that runs beside others, zero for none. -/
  process : Nat := 0
  /-- The number of the last process. -/
  processes : Nat := 1
  /-- The processes that wait for the one that runs. -/
  living : List Nat := []
  /-- The signals that were sent and not dealt with. -/
  signals : List Signalled := []
  /-- The exit status of the last command whose text was taken, if there was one. -/
  taken : Option Nat := none
  /-- Whether something was written to a stream that is closed. -/
  lost : Bool := false
  /-- The name of the program that runs and the path by which it was called, if it was one. -/
  called : Option (String × String) := none

/-- How a command ended, if it did not just end. -/
inductive Signal where
  /-- A fault ended it. -/
  | failed
  | exit
  | returned
  | broken (levels : Nat)
  | continued (levels : Nat)
  /-- It waits for text for ever. -/
  | stuck
  /-- It ran longer than anyone follows. -/
  | endless
  /-- A signal with a number ended the shell. -/
  | killed (signal : Nat)
  deriving Repr, DecidableEq

/-- What runs on a shell. -/
abbrev Run := ExceptT Signal (StateM Going)

/-! ## Variables -/

namespace Machine

/-- Whether an option is switched on. -/
def has (m : Machine) (option : Char) : Bool := m.options.contains option

/-- The value of a variable. -/
def value? (m : Machine) (name : String) : Option String := (m.vars.get? name).bind (·.value)

/-- The machine with a variable set; a look-out for options begins anew when its place is set. -/
def setVar (m : Machine) (name value : String) : Machine :=
  let old := (m.vars.get? name).getD { exported := m.has 'a' }
  let m := { m with vars := m.vars.insert name { old with value := some value } }
  if name == "OPTIND" then
    let index := (Number.digits? value.toList).getD 1
    { m with optionIndex := if index = 0 then 1 else index, optionOffset := none }
  else m

/-- The table without an entry. -/
def without {α : Type} (t : Table α) (key : String) : Table α :=
  Table.ofList (t.entries.filter fun (k, _) => k != key)

/-- A variable as it was before, or without one. -/
def resetVar (m : Machine) (name : String) (old : Option Variable) : Machine :=
  match old with
  | some v => { m with vars := m.vars.insert name v }
  | none => { m with vars := without m.vars name }

/-- Changes the marks of a variable. -/
def mark (m : Machine) (name : String) (f : Variable → Variable) : Machine :=
  { m with vars := m.vars.insert name (f ((m.vars.get? name).getD {})) }

/-- The place that a name takes among thirty-nine. -/
def placeOf (name : String) : Nat :=
  ((name.toList.head?.map fun c => 16 * c.toNat).getD 0 +
    (name.toList.map Char.toNat).foldl (· + ·) 0) % 39

/-- Named things in the order of the places that their names take. -/
def placed {α : Type} (named : List (String × α)) : List (String × α) :=
  named.mergeSort fun a b => placeOf a.1 ≤ placeOf b.1

/-- The variables that programs see, in the order in which a program is given them. -/
def environment (m : Machine) : List (String × String) :=
  placed (m.vars.entries.filterMap fun (k, v) =>
    if v.exported then v.value.map fun value => (k, value) else none)

/-- The letters of the options in the order in which they are shown. -/
def optionLetters : List Char := "ubaCEVvxsnmiIfe".toList

/-- The value of a parameter: a variable, an argument, or one of the shell's own. -/
def parameter? (m : Machine) (name : String) : Option String :=
  match name with
  | "?" => some (toString m.status)
  | "#" => some (toString m.args.length)
  | "0" => some m.name
  | "$" => some (toString m.process)
  | "!" => m.recent.map toString
  | "-" => some (String.ofList (optionLetters.filter m.has))
  | _ =>
    match Number.digits? name.toList with
    | some n => if n = 0 then some m.name else m.args[n - 1]?
    | none => m.value? name

/-- The number for a command that is to run beside others, and the machine without the one that had
it, if someone waited for that one's end. -/
def newNumber (m : Machine) : Nat × Machine :=
  let isFree := fun (n : Nat) =>
    match m.jobs.find? fun (j : Job) => j.number == n with
    | some j => j.awaited
    | none => true
  let n := (((List.range (m.jobs.length + 1)).map (· + 1)).find? isFree).getD 1
  (n, { m with jobs := m.jobs.filter fun j => j.number != n })

/-- The channel that a stream leads to, by its number among the open ones. -/
def stream? (m : Machine) (n : Nat) : Option Nat := m.streams.lookup n

/-- The machine with a stream leading to an open channel. -/
def withStream (m : Machine) (n index : Nat) : Machine :=
  { m with streams := (n, index) :: m.streams.filter fun (k, _) => k != n }

/-- The machine with a stream closed. -/
def closeStream (m : Machine) (n : Nat) : Machine :=
  { m with streams := m.streams.filter fun (k, _) => k != n }

end Machine

/-! ## Reading and writing -/

namespace Going

/-- The path of the working directory without links. -/
def realDirectory (g : Going) : String := "/" ++ joinStrings "/" (g.disk.here.map inward)

/-- The path of the working directory as it was gone to. -/
def directory (g : Going) : String := g.machine.path.getD g.realDirectory

def setVar (g : Going) (name value : String) : Going :=
  { g with machine := g.machine.setVar name value }

def withStatus (g : Going) (status : Nat) : Going :=
  { g with machine := { g.machine with status } }

/-- The channel of a stream. -/
def channel? (g : Going) (stream : Nat) : Option Opened :=
  (g.machine.stream? stream).bind fun i => g.opened[i]?

/-- Opens a channel; its number is the second part. -/
def open_ (g : Going) (o : Opened) : Going × Nat :=
  ({ g with opened := g.opened.push o }, g.opened.size)

/-- A text with another one written over it from a place on. -/
def overwritten (old : List Char) (offset : Nat) (new : List Char) : List Char :=
  let gap := List.replicate (offset - old.length) '\x00'
  old.take offset ++ gap ++ new ++ old.drop (offset + new.length)

/-- The moment that it is, in milliseconds. -/
def now (g : Going) : Int := Files.beginning + g.machine.clock + g.time

/-- Makes bytes all that the file at a place holds. -/
def rewrite (g : Going) (at_ : Place) (cs : List Char) : Going :=
  { g with disk := Files.rewritten g.disk at_ cs g.now }

/-- Writes a text to a stream. -/
def writeTo (g : Going) (stream : Nat) (text : String) : Going :=
  match g.machine.stream? stream with
  | none => if text.isEmpty then g else { g with lost := true }
  | some i =>
    match g.opened[i]? with
    | none => g
    | some o =>
      match o.channel with
      | .nothing => g
      | .file at_ appends =>
        let old := Files.bytesAt g.disk at_
        let offset := if appends then old.length else o.offset
        let new := text.toList
        { g.rewrite at_ (overwritten old offset new) with
          opened := g.opened.setIfInBounds i { o with offset := offset + new.length } }
      | .console => g
      | .text => g
      | c =>
        if text.isEmpty then g
        else { g with written := ⟨c, text, g.time, g.process⟩ :: g.written }

def print (g : Going) (text : String) : Going := g.writeTo 1 text

def printError (g : Going) (text : String) : Going := g.writeTo 2 text

/-- Reports a fault in the shell's own words. -/
def complain (g : Going) (what : String) : Going :=
  let command := (g.command.map (· ++ ": ")).getD ""
  g.printError s!"{g.machine.name}: {g.line}: {command}{what}\n"

/-- What is left to read on a stream. -/
inductive Left where
  | text (cs : List Char)
  /-- The stream is closed. -/
  | closed
  /-- Nobody knows, because it is what is written to the shell. -/
  | awaited

/-- What is left to read on a stream. -/
def left (g : Going) (stream : Nat) : Left :=
  match g.channel? stream with
  | none => .closed
  | some o =>
    match o.channel with
    | .console => .awaited
    | .nothing => .text []
    | .file at_ _ => .text ((Files.bytesAt g.disk at_).drop o.offset)
    | .text => .text o.left
    | _ => .closed

/-- Passes characters of a stream; `rest` is what is left behind them. -/
def pass (g : Going) (stream count : Nat) (rest : List Char) : Going :=
  match g.machine.stream? stream with
  | none => g
  | some i =>
    { g with opened := g.opened.modify i fun o =>
        { o with offset := o.offset + count, left := rest } }

/-- An empty file at a place, with the marks that new files are given. -/
def created (g : Going) (at_ : Place) : Going :=
  let disk := Files.rewritten g.disk at_ [] g.now
  let mode := 0o666 - (0o666 &&& g.machine.umask)
  { g with disk := if mode = 0o644 then disk else Files.setMode disk at_ mode }

/-- Makes the input a text. -/
def withInput (g : Going) (text : List Char) : Going :=
  let (g, i) := g.open_ ⟨.text, 0, text⟩
  { g with machine := g.machine.withStream 0 i }

end Going

/-! ## Faults -/

/-- Reports a fault and ends the command with it. -/
def fail {α : Type} (what : String) : Run α := do
  modify fun g => (g.complain what).withStatus 2
  throw .failed

/-- Writes a text to the output. -/
def say (text : String) : Run Unit := modify (·.print text)

/-- Writes a text to the errors. A program speaks of itself by the path that it was called by. -/
def sayError (text : String) : Run Unit :=
  modify fun g =>
    match g.called with
    | none => g.printError text
    | some (name, path) =>
      let lines := (pieces '\n' text.toList).map fun l =>
        let hint := if name == "grep" then none else dropStart? ("Try '" ++ name ++ " ").toList l
        match dropStart? (name ++ ": ").toList l, hint with
        | some rest, _ => (path ++ ": ").toList ++ rest
        | none, some rest => ("Try '" ++ path ++ " ").toList ++ rest
        | none, none => l
      g.printError (String.ofList (joinWith ['\n'] lines))

/-- Sets a variable, unless it is one that keeps its value. -/
def assignVar (name value : String) : Run Unit := do
  let g ← get
  if ((g.machine.vars.get? name).map (·.constant)).getD false then fail (name ++ ": is read only")
  set (g.setVar name value)

end Playbook.Shell
