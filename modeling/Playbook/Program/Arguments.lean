/-
  The words of a command line. The first word names a command; after it, options may stand anywhere
  around the positional word, and `--` makes every later word positional. The value of an option may
  be joined to it. A word that stands alone as a value is pending until the next word that settles
  it, so an unknown word is found before a faulty value in front of it.
-/
import Playbook.Number.Unsigned
import Playbook.Text.Blank

namespace Playbook.Program

open Playbook.Text

/-- What a run is asked for with. -/
structure RunRequest where
  /-- The name or the file of a workflow. -/
  target : String
  parameters : List String := []
  /-- Where snapshots are written, if not where the settings say. -/
  historyDirectory : Option String := none
  /-- How often an activity may be visited, if not as often as the settings say. -/
  maxHits : Option Nat := none
  deriving Repr, DecidableEq

/-- What the program is asked to do. -/
inductive Invocation where
  | run (request : RunRequest)
  | check (file : String)
  | render (file : String)
  | list
  deriving Repr, DecidableEq

/-- Why the words of a command line ask for nothing to be done. -/
inductive Refusal where
  | help
  | version
  /-- No command is named. -/
  | noCommand
  /-- The first word names no command. -/
  | unknownCommand (word : String)
  | unknownWord (word : String)
  /-- A positional word is missing. -/
  | missingWord (name : String)
  /-- An option or a word has no value. -/
  | missingValue (name : String)
  /-- The value of an option is not of its kind. -/
  | faultyValue (name value : String)
  /-- An option that can be given once is given twice. -/
  | repeated (name : String)
  /-- A value is joined to an option that takes none. -/
  | unwantedValue (name : String)
  deriving Repr, DecidableEq

/-! ## Slots -/

/-- What a value on the command line is for. -/
inductive Slot where
  | target
  | file
  | parameter
  | historyDirectory
  | maxHits
  deriving Repr, DecidableEq

/-- The slot as it is written on the command line. -/
def Slot.name : Slot → String
  | target => "<TARGET>"
  | file => "<FILE>"
  | parameter => "--param"
  | historyDirectory => "--history-dir"
  | maxHits => "--max-hits"

/-- The values that were settled so far. -/
structure Settled where
  target : Option String := none
  file : Option String := none
  parameters : List String := []
  historyDirectory : Option String := none
  maxHits : Option Nat := none
  deriving Repr, DecidableEq

/-- A count of at most 32 bits; a minus sign is allowed in front of zero. -/
def count? (value : String) : Option Nat :=
  match value.toList with
  | '-' :: digits => (Number.digits? digits).filter (· == 0)
  | cs => Number.unsigned? (Number.maxOfBits 32) cs

namespace Settled

/-- The values with one more for a slot. -/
def put (s : Settled) (slot : Slot) (value : String) : Except Refusal Settled :=
  match slot with
  | .target => .ok { s with target := some value }
  | .file =>
    if value.isEmpty then .error (.missingValue slot.name) else .ok { s with file := some value }
  | .parameter => .ok { s with parameters := s.parameters ++ [value] }
  | .historyDirectory =>
    if s.historyDirectory.isSome then .error (.repeated slot.name)
    else if value.isEmpty then .error (.missingValue slot.name)
    else .ok { s with historyDirectory := some value }
  | .maxHits =>
    if s.maxHits.isSome then .error (.repeated slot.name)
    else
      match count? value with
      | some n => .ok { s with maxHits := some n }
      | none => .error (.faultyValue slot.name value)

end Settled

/-! ## Commands -/

/-- A command of the program. -/
inductive Task where
  | run
  | check
  | render
  | list
  deriving Repr, DecidableEq

namespace Task

/-- The task that a word names, in exactly this letter case. -/
def ofWord? (word : String) : Option Task :=
  match word with
  | "run" => some run
  | "check" => some check
  | "render" => some render
  | "list" => some list
  | _ => none

/-- The slot of the positional word. -/
def positional? : Task → Option Slot
  | run => some .target
  | check => some .file
  | render => some .file
  | list => none

/-- The option that takes a value under a long name. -/
def option? (t : Task) (name : String) : Option Slot :=
  match t, name with
  | run, "param" => some .parameter
  | run, "history-dir" => some .historyDirectory
  | run, "max-hits" => some .maxHits
  | _, _ => none

/-- The option that takes a value under a letter. -/
def letter? (t : Task) (c : Char) : Option Slot :=
  match t, c with
  | run, 'p' => some .parameter
  | _, _ => none

end Task

/-! ## Scanning -/

/-- What begins a long option, and what ends the options when it stands alone. -/
def dashes : String := "--"

/-- The word that names the command explaining the commands. -/
def helpWord : String := "help"

/-- The name of a long option and the value joined to it. -/
def longParts (body : List Char) : String × Option String :=
  match splitOnce '=' body with
  | some (name, value) => (String.ofList name, some (String.ofList value))
  | none => (String.ofList body, none)

/-- The value joined to a letter, if any; an equals sign in between does not count. -/
def joined? : List Char → Option String
  | [] => none
  | '=' :: value => some (String.ofList value)
  | value => some (String.ofList value)

/-- Where the scan of a command's words stands. -/
structure Scan where
  settled : Settled := {}
  /-- A slot whose value is not settled, and the value if it was read. -/
  pending : Option (Slot × Option String) := none
  /-- Whether the next word is the value of the pending slot, unless it is an option. -/
  expecting : Bool := false
  /-- Whether every word is positional. -/
  trailing : Bool := false
  /-- Whether the positional word was read. -/
  filled : Bool := false
  deriving Repr, DecidableEq

namespace Scan

/-- Settles what is pending. -/
def settle (s : Scan) : Except Refusal Scan :=
  match s.pending with
  | none => .ok s
  | some (slot, none) => .error (.missingValue slot.name)
  | some (slot, some value) => do
    return { s with settled := ← s.settled.put slot value, pending := none }

/-- An option that takes a value, and the value joined to it. -/
def takeOption (s : Scan) (slot : Slot) (value : Option String) : Except Refusal Scan := do
  let s ← s.settle
  match value with
  | none => return { s with pending := some (slot, none), expecting := true }
  | some v => return { s with settled := ← s.settled.put slot v, expecting := false }

/-- An option that asks for help. -/
def takeHelp (s : Scan) : Except Refusal Scan := do
  let _ ← s.settle
  .error .help

/-- A long option. -/
def takeLong (s : Scan) (t : Task) (word : String) (body : List Char) : Except Refusal Scan :=
  let (name, value) := longParts body
  match t.option? name with
  | some slot => s.takeOption slot value
  | none =>
    if name == helpWord then
      if value.isSome then .error (.unwantedValue word) else s.takeHelp
    else .error (.unknownWord word)

/-- A letter with what is joined to it. -/
def takeLetter (s : Scan) (t : Task) (word : String) (c : Char) (rest : List Char) :
    Except Refusal Scan :=
  match t.letter? c with
  | some slot => s.takeOption slot (joined? rest)
  | none => if c == 'h' then s.takeHelp else .error (.unknownWord word)

/-- A word that is no option. -/
def takeWord (s : Scan) (t : Task) (word : String) : Except Refusal Scan :=
  match if s.filled then none else t.positional? with
  | none => .error (.unknownWord word)
  | some slot => do
    return { ← s.settle with pending := some (slot, some word), expecting := false, filled := true }

/-- The scan after one more word. -/
def take (s : Scan) (t : Task) (word : String) : Except Refusal Scan :=
  if s.trailing then s.takeWord t word
  else
    match word.toList with
    | ['-', '-'] => .ok { s with trailing := true }
    | '-' :: '-' :: body => s.takeLong t word body
    | '-' :: c :: rest => s.takeLetter t word c rest
    | _ =>
      match s.expecting, s.pending with
      | true, some (slot, _) => .ok { s with pending := some (slot, some word), expecting := false }
      | _, _ => s.takeWord t word

/-- The scan after more words. -/
def takeAll (t : Task) : Scan → List String → Except Refusal Scan
  | s, [] => .ok s
  | s, word :: rest => do takeAll t (← s.take t word) rest

end Scan

/-! ## Invocations -/

namespace Settled

/-- What a task asks for with these values. -/
def invocation (s : Settled) : Task → Except Refusal Invocation
  | .list => .ok .list
  | .check => match s.file with
    | some file => .ok (.check file)
    | none => .error (.missingWord Slot.file.name)
  | .render => match s.file with
    | some file => .ok (.render file)
    | none => .error (.missingWord Slot.file.name)
  | .run => match s.target with
    | some target =>
      .ok (.run ⟨target, s.parameters, s.historyDirectory, s.maxHits⟩)
    | none => .error (.missingWord Slot.target.name)

end Settled

namespace Invocation

/-- What the words after a command's name ask for. -/
def ofTask (t : Task) (words : List String) : Except Refusal Invocation := do
  let s ← ({} : Scan).takeAll t words
  (← s.settle).settled.invocation t

/-- The words after `help` name a command that is to be explained, or `help` itself. -/
def ofHelp : List String → Refusal
  | [] => .help
  | word :: rest =>
    if (Task.ofWord? word).isSome || word == helpWord then
      match rest with
      | [] => .help
      | other :: _ => .unknownCommand other
    else .unknownCommand word

/-- The words after `--` in front of a command: no option is open any more, and no command can be
named. -/
def ofTrailing : List String → Refusal
  | [] => .noCommand
  | word :: _ =>
    if (Task.ofWord? word).isSome || word == helpWord then .unknownWord word
    else .unknownCommand word

/-- A long option in front of a command. -/
def ofLong (word : String) (body : List Char) : Refusal :=
  let (name, value) := longParts body
  if name == helpWord then if value.isSome then .unwantedValue word else .help
  else if name == "version" then if value.isSome then .unwantedValue word else .version
  else .unknownWord word

/-- A letter in front of a command. -/
def ofLetter (word : String) (c : Char) : Refusal :=
  if c == 'h' then .help else if c == 'V' then .version else .unknownWord word

/-- What the words of a command line ask for. -/
def ofWords : List String → Except Refusal Invocation
  | [] => .error .noCommand
  | word :: rest =>
    match Task.ofWord? word with
    | some t => ofTask t rest
    | none =>
      if word == helpWord then .error (ofHelp rest)
      else
        match word.toList with
        | ['-', '-'] => .error (ofTrailing rest)
        | '-' :: '-' :: body => .error (ofLong word body)
        | '-' :: c :: _ => .error (ofLetter word c)
        | _ => .error (.unknownCommand word)

end Invocation

end Playbook.Program
