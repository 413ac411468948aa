/-
  The whole program: it completes its environment from the environment file, reads the words of its
  command line and its settings, does what it is asked for, and ends with a text on each of its
  streams and an exit code.
-/
import Playbook.Filter
import Playbook.Program.Task
import Playbook.Program.EnvironmentFile

namespace Playbook.Program

/-- How the program ends. -/
structure Ending where
  exitCode : Nat := 0
  output : String := ""
  errors : String := ""
  world : World Desk

/-! ## Refused command lines -/

/-- Every command in short. -/
def overview : String :=
  "Run Markdown workflows that mix agent prompts with shell commands\n\n" ++
  "Usage: " ++ Report.programName ++ " <COMMAND>\n\n" ++
  "Commands:\n" ++
  "  run <TARGET> [--param <KEY=VALUE>]... [--history-dir <DIR>] [--max-hits <N>]\n" ++
  "          Run a workflow given by path or by name in WORKFLOWS_DIR\n" ++
  "  check <FILE>\n" ++
  "          Parse a workflow and print its activities, edges and prompts\n" ++
  "  render <FILE>\n" ++
  "          Print the workflow re-written in canonical form\n" ++
  "  list\n" ++
  "          List workflows in WORKFLOWS_DIR\n"

/-- What is said of a command line that asks for nothing to be done. -/
def Refusal.message : Refusal → String
  | help => overview
  | version => Report.programName ++ " " ++ Report.programVersion ++ "\n"
  | noCommand => overview
  | unknownCommand word => s!"error: unrecognized subcommand '{word}'\n"
  | unknownWord word => s!"error: unexpected argument '{word}' found\n"
  | missingWord name => s!"error: a required argument was not provided: {name}\n"
  | missingValue name => s!"error: a value is required for '{name}' but none was supplied\n"
  | faultyValue name value => s!"error: invalid value '{value}' for '{name}'\n"
  | repeated name => s!"error: the argument '{name}' cannot be used multiple times\n"
  | unwantedValue name => s!"error: unexpected value for '{name}' found\n"

/-- Whether the refusal is what was asked for. -/
def Refusal.isWanted : Refusal → Bool
  | help => true
  | version => true
  | _ => false

/-- The end of a program that has nothing to do. -/
def refuse (r : Refusal) (w : World Desk) : Ending :=
  if r.isWanted then { output := r.message, world := w }
  else { exitCode := 2, errors := r.message, world := w }

/-! ## The end of a task -/

/-- A failure as it is printed. -/
def failureText (f : Failure) : String :=
  Style.brightRed ++ "Error: " ++ f.message ++ Style.reset ++ Style.nextLine

/-- The name of the variable that says which notices are shown. -/
def filterName : String := "LOGLEVEL"

/-- The name of the variable that holds the home directory. -/
def homeName : String := "HOME"

/-- The end of a program that completed its task or failed at it. -/
def finish (c : Completed (Option Status)) : Ending :=
  let (result, w) := c
  let filter := Filter.ofSetting (w.environment.get? filterName)
  let shown := filter.lines w.notices
  let output := w.rest.console.printed
  match result with
  | .ok status =>
    { exitCode := if status = some .failed then 1 else 0, output, errors := shown, world := w }
  | .error f => { exitCode := 1, output, errors := shown ++ failureText f, world := w }

/-- Does what an invocation asks for under the settings of the environment. -/
def serve (turns : Nat) (i : Invocation) (w : World Desk) : Option Ending :=
  match Settings.ofLookup w.environment.get? (w.environment.get? homeName) with
  | .error f => some (finish (.error (.settings f), w))
  | .ok settings => (perform turns settings i w).map finish

/-- The program, if the run that it is asked for ends within fewer than `turns` turns. -/
def execute (turns : Nat) (words : List String) (w : World Desk) : Option Ending :=
  let w := { w with environment := EnvironmentFile.load w.disk w.environment }
  match Invocation.ofWords words with
  | .error r => some (refuse r w)
  | .ok i => serve turns i w

end Playbook.Program
