/-
  Settings: what the environment can decide about a run. A missing or blank variable leaves the
  default in place.
-/
import Playbook.Path
import Playbook.Number.Unsigned
import Playbook.Text.Quoted

namespace Playbook

open Playbook.Text

/-- A machine that commands are run on. -/
structure RemoteHost where
  host : String
  port : Nat := 22
  user : String := "mentor"
  password : Option String := none
  /-- A private key, which is used instead of the password. -/
  keyFile : Option String := none
  /-- How many seconds a command may take. -/
  commandLimit : Nat := 600
  /-- How many seconds may pass without a line. -/
  silenceLimit : Nat := 120
  deriving Repr, DecidableEq

/-- All settings. -/
structure Settings where
  /-- Where workflows are looked for by name. -/
  workflows : String := "./workflows"
  /-- Where snapshots are written, if anywhere. -/
  output : Option String := some "./output"
  /-- How often an activity may be visited. -/
  maxHits : Nat := 3
  /-- How many characters of a result a record keeps. -/
  maxRecord : Nat := 4000
  /-- The program that runs commands on this machine. -/
  shell : String := "/bin/sh"
  /-- How many seconds without a line are too many, if any number is. -/
  shellLimit : Option Nat := none
  /-- The machine that commands are run on instead of this one. -/
  remote : Option RemoteHost := none
  deriving Repr, DecidableEq

namespace Settings

/-- A variable that does not hold what it should. -/
structure Fault where
  key : String
  value : String
  deriving Repr, DecidableEq

def Fault.message (f : Fault) : String := s!"Invalid value for {f.key}: {quote f.value}"

/-- A way to look up variables. -/
abbrev Lookup := String → Option String

/-- The value of a variable, unless it is blank. -/
def given? (lookup : Lookup) (key : String) : Option String :=
  (lookup key).filter fun v => !isAllBlank v.toList

/-- A whole number of at most `bound` in a variable, or the default. -/
def number (lookup : Lookup) (key : String) (bound default : Nat) : Except Fault Nat :=
  match given? lookup key with
  | none => .ok default
  | some value =>
    match Number.unsigned? bound (trim value.toList) with
    | some n => .ok n
    | none => .error ⟨key, value⟩

/-- A path with the home directory in place of a tilde in front. -/
def expandHome (home : Option String) (path : String) : String :=
  match dropStart? ['~', '/'] path.toList, home with
  | some rest, some dir => Path.join dir (String.ofList rest)
  | _, _ => path

/-- The machine that the variables name, if they name one. -/
def remoteOf (lookup : Lookup) (home : Option String) : Except Fault (Option RemoteHost) := do
  match given? lookup "SHELLBOX_HOST" with
  | none => return none
  | some host =>
    let base : RemoteHost := { host }
    let port ← number lookup "SHELLBOX_PORT" (Number.maxOfBits 16) base.port
    let user := (given? lookup "SHELLBOX_USER").getD base.user
    let password := given? lookup "SHELLBOX_PASSWORD"
    let keyFile := (given? lookup "SHELLBOX_SSH_KEYFILE").map (expandHome home)
    let bound := Number.maxOfBits 64
    let commandLimit ← number lookup "COMMAND_TIMEOUT" bound base.commandLimit
    let silenceLimit ← number lookup "COMMAND_INACTIVITY_TIMEOUT" bound base.silenceLimit
    return some { host, port, user, password, keyFile, commandLimit, silenceLimit }

/-- The names of all variables that settings are made of. -/
def names : List String :=
  ["WORKFLOWS_DIR", "OUTPUT_DIR", "MAX_HITS", "HISTORY_MAX_RECORD_LENGTH", "SHELL",
    "SHELL_COMMAND_TIMEOUT", "SHELLBOX_HOST", "SHELLBOX_PORT", "SHELLBOX_USER",
    "SHELLBOX_PASSWORD", "SHELLBOX_SSH_KEYFILE", "COMMAND_TIMEOUT", "COMMAND_INACTIVITY_TIMEOUT"]

/-- The settings that the variables make, or the first variable that is faulty. -/
def ofLookup (lookup : Lookup) (home : Option String) : Except Fault Settings := do
  let base : Settings := {}
  let wide := Number.maxOfBits 64
  let maxHits ← number lookup "MAX_HITS" (Number.maxOfBits 32) base.maxHits
  let maxRecord ← number lookup "HISTORY_MAX_RECORD_LENGTH" wide base.maxRecord
  let shellLimit ←
    if (given? lookup "SHELL_COMMAND_TIMEOUT").isSome then
      some <$> number lookup "SHELL_COMMAND_TIMEOUT" wide 0
    else pure none
  let remote ← remoteOf lookup home
  return {
    workflows := (given? lookup "WORKFLOWS_DIR").getD base.workflows
    output := (given? lookup "OUTPUT_DIR").or base.output
    maxHits
    maxRecord
    shell := (given? lookup "SHELL").getD base.shell
    shellLimit
    remote }

end Settings

end Playbook
