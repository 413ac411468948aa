/-
  The program that goes through the records of files and does for each what a program in a small
  language says: its options, and what it says of itself.
-/
import Playbook.Shell.Tool.Records.Running

namespace Playbook.Shell.Tool

open Playbook.Text

namespace Records

/-- What a run of a program is asked for. -/
structure Asked where
  /-- The files that hold the program. -/
  files : List String := []
  separator : Option String := none
  assigned : List (String × String) := []
  /-- The special options that mean nothing. -/
  vacuous : List String := []
  /-- What is shown instead of running anything. -/
  shows : Option (List String) := none
  rest : List String := []

/-- How the program is used. -/
def usage : List String :=
  ["Usage: mawk [Options] [Program] [file ...]",
  "",
  "Program:",
  "    The -f option value is the name of a file containing program text.",
  "    If no -f option is given, a \"--\" ends option processing; the following",
  "    parameters are the program text.",
  "",
  "Options:",
  "    -f program-file  Program  text is read from file instead of from the",
  "                     command-line.  Multiple -f options are accepted.",
  "    -F value         sets the field separator, FS, to value.",
  "    -v var=value     assigns value to program variable var.",
  "    --               unambiguous end of options.",
  "",
  "    Implementation-specific options are prefixed with \"-W\".  They can be",
  "    abbreviated:",
  "",
  "    -W version       show version information and exit.",
  "    -W compat        pre-POSIX 2001.",
  "    -W dump          show assembler-like listing of program and exit.",
  "    -W help          show this message and exit.",
  "    -W interactive   set unbuffered output, line-buffered input.",
  "    -W exec file     use file as program as well as last option.",
  "    -W posix         stricter POSIX checking.",
  "    -W random=number set initial random seed.",
  "    -W sprintf=number adjust size of sprintf buffer.",
  "    -W usage         show this message and exit."]

/-- Which program this is. -/
def version : List String :=
  ["mawk 1.3.4 20240123",
  "Copyright 2008-2023,2024, Thomas E. Dickey",
  "Copyright 1991-1996,2014, Michael D. Brennan",
  "",
  "random-funcs:       arc4random_stir/arc4random",
  "regex-funcs:        internal",
  "",
  "compiled limits:",
  "sprintf buffer      8192",
  "maximum-integer     9223372036854775808"]

/-- What an option with a long name shows. -/
def shown? (name : String) : Option (List String) :=
  if name.isEmpty then none
  else if "version".startsWith name then some version
  else if "help".startsWith name || "usage".startsWith name then some usage
  else none

/-- The special options that change nothing here. -/
def ignored : List String := ["compat", "interactive", "posix", "random", "sprintf", "traditional"]

/-- Does what an option with a letter asks for. -/
def withOption (a : Asked) (letter : Char) (value : String) : Except String Asked :=
  match letter with
  | 'f' => .ok { a with files := a.files ++ [value] }
  | 'F' =>
    let separator := Token.unescaped value
    match expressionOf (if separator.length < 2 then "" else separator) with
    | .ok _ => .ok { a with separator := some separator }
    | .error what => .error ("line 0: " ++ what)
  | 'W' =>
    let option := String.ofList (value.toList.takeWhile (· != '='))
    let known := (shown? value).isSome || ignored.any fun o => o.startsWith option
    .ok { a with
      shows := a.shows <|> shown? value
      vacuous := if known then a.vacuous else a.vacuous ++ [value] }
  | _ =>
    match assigned? value with
    | some pair => .ok { a with assigned := a.assigned ++ [pair] }
    | none => .error s!"improper assignment: -v {value}"

/-- Reads the options. -/
def askedFrom : (steps : Nat) → Asked → List String → Except String Asked
  | 0, a, _ => .ok a
  | n + 1, a, words =>
    match words with
    | [] => .ok a
    | "--" :: rest => .ok { a with rest }
    | word :: rest =>
      match word.toList with
      | '-' :: '-' :: name =>
        match shown? (String.ofList name) with
        | some text => askedFrom n { a with shows := a.shows <|> some text } rest
        | none => .error s!"not an option: {word}"
      | '-' :: letter :: value =>
        if !"fFvW".toList.contains letter then .error s!"not an option: {word}"
        else
          match value, rest with
          | [], [] => .error s!"option -{String.singleton letter} lacks argument"
          | [], value :: rest => do askedFrom n (← withOption a letter value) rest
          | value, rest => do askedFrom n (← withOption a letter (String.ofList value)) rest
      | _ => .ok { a with rest := words }

/-- The texts of the files that hold a program; the second part is what is wrong. -/
def programText : List String → Run (List Char × Option String)
  | [] => return ([], none)
  | path :: rest => do
    match ← contents path with
    | .ok cs =>
      let (more, what) ← programText rest
      return (cs ++ (if rest.isEmpty then [] else '\n' :: more), what)
    | .error f => return ([], some ("cannot open \"" ++ path ++ "\" (" ++ faultText f ++ ")"))

/-- The variables at the beginning. -/
def startValues : List (String × Value) :=
  [("FS", .text " "), ("OFS", .text " "), ("RS", .text "\n"), ("ORS", .text "\n"),
    ("NR", .number 0), ("FNR", .number 0), ("FILENAME", .text ""), ("SUBSEP", .text "\x1c"),
    ("RSTART", .number 0), ("RLENGTH", .number (-1)), ("CONVFMT", .text "%.6g"),
    ("OFMT", .text "%.6g")]

/-- The state at the beginning, with arguments and the variables of the shell. -/
def startState (name : String) (args : List String) (environment : List (String × String)) :
    State :=
  let argv := Store.ofList (args.map .given)
  let argv := argv.put (.whole 0) (.text name)
  let environ := environment.foldl (fun (a : Store) (k, v) => a.put (.text k) (.given v)) {}
  { globals := Table.ofList ((startValues.map fun (k, v) => (k, Slot.value v)) ++
      [("ARGC", .value (.number (Float.ofNat (args.length + 1)))), ("ARGV", .array 0),
        ("ENVIRON", .array 1)])
    arrays := #[argv, environ] }

/-- Runs a program and passes on what it wrote; the exit status. -/
def start (name : String) (c : Setup) (a : Asked) : Run Nat := do
  let g ← get
  let assigns : Step Unit := do
    for (name, value) in a.assigned do write name (.given value)
    match a.separator with
    | some sep => write "FS" (.text sep)
    | none => pure ()
  let work : Step Unit := do
    assigns
    run c
  let (result, s) ← work.run.run (startState name a.rest g.machine.environment)
  let failed ← match result with
    | .error (.failed what) => do
      report name what
      pure true
    | _ => pure false
  let finish : Step Unit := do
    closeAll c.commands
    passOutput
  let (_, s) ← finish.run.run s
  return (if failed then 2 else s.status)

end Records

open Records in
/-- Goes through records. `commands` runs the commands that a program asks for. -/
def awk (name : String) (commands : Commands) : Tool := fun args => do
  if args.isEmpty then
    sayError (String.join (usage.map (· ++ "\n")))
    return 0
  match askedFrom (args.length + 1) {} args with
  | .error what =>
    report name what
    return 2
  | .ok a =>
    for o in a.vacuous do report name ("vacuous option: -W \"" ++ o ++ "\"")
    match a.shows with
    | some text =>
      say (String.join (text.map (· ++ "\n")))
      return 0
    | none =>
      let (text, what, a) ← match a.files, a.rest with
        | [], [] => pure ([], none, a)
        | [], text :: rest => pure (text.toList, none, { a with rest })
        | files, _ => do
          let (text, what) ← programText files
          pure (text, what, a)
      match what with
      | some what =>
        report name what
        return 2
      | none =>
        match programOf a.files.getLast? text with
        | .error faults =>
          for what in faults do report name what
          return 2
        | .ok program => start name { program, commands } a

end Playbook.Shell.Tool
