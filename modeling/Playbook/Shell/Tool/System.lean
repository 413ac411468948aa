/-
  Programs that tell about the machine and its user, wait, print texts or check conditions.
-/
import Playbook.Shell.Tool.Files
import Playbook.Shell.Condition
import Playbook.Shell.Printing

namespace Playbook.Shell.Tool

open Playbook.Text

/-! ## Texts -/

/-- The text with its backslashes read as the program `echo` does. -/
def echoEscapes : (steps : Nat) → List Char → List Char × Bool
  | 0, cs => (cs, false)
  | _, [] => ([], false)
  | n + 1, '\\' :: c :: rest =>
    let also := fun (ds : List Char) (skipped : Nat) =>
      let (more, ends) := echoEscapes n (rest.drop skipped)
      (ds ++ more, ends)
    let hex := (rest.take 2).takeWhile fun d => (Arithmetic.digit? 16 d).isSome
    if c == 'c' then ([], true)
    else if c == 'x' && !hex.isEmpty then
      also [Char.ofNat (hex.foldl (fun v d => v * 16 + (Arithmetic.digit? 16 d).getD 0) 0)]
        hex.length
    else if c == '0' then
      let ds := (rest.take 3).takeWhile Printing.isOctal
      also [Printing.octalChar ds] ds.length
    else if Printing.isOctal c then
      let ds := ((c :: rest).take 3).takeWhile Printing.isOctal
      also [Printing.octalChar ds] (ds.length - 1)
    else
      match Printing.control? c with
      | some d => also [d] 0
      | none => also ['\\', c] 0
  | n + 1, c :: rest =>
    let (more, ends) := echoEscapes n rest
    (c :: more, ends)

/-- Prints its arguments. -/
def echo : Tool := fun args => do
  let isOption := fun (w : String) =>
    match w.toList with
    | '-' :: c :: cs => (c :: cs).all "neE".toList.contains
    | _ => false
  let letters := (args.takeWhile isOption).flatMap fun w => w.toList.tail
  let text := (joinStrings " " (args.dropWhile isOption)).toList
  let reads := (letters.filter (· != 'n')).getLast? == some 'e'
  let (text, ends) := if reads then echoEscapes (text.length + 1) text else (text, false)
  sayChars (text ++ (if letters.contains 'n' || ends then [] else ['\n']))
  return 0

/-- A fault in an argument as the program `printf` reports it. -/
def printfFault (fault : String) : String :=
  let cut := fun (ending : String) => (dropEnd? ending.toList fault.toList).map String.ofList
  match cut ": not completely converted", cut ": expected numeric value" with
  | some arg, _ => s!"{quotedName arg}: value not completely converted"
  | _, some arg => s!"{quotedName arg}: expected a numeric value"
  | _, _ => fault

/-- Prints its arguments in a format. -/
def printf : Tool := fun args => do
  let args := if args.head? == some "--" then args.tail else args
  match args with
  | [] => misuse "printf" "missing operand"
  | format :: args =>
    let p := Printing.printf format args
    for f in p.faults do
      report "printf" (printfFault f)
    sayChars p.text
    match p.broken with
    | some what =>
      let form := (dropEnd? ": invalid directive".toList what.toList).getD what.toList
      report "printf" (String.ofList form ++ ": invalid conversion specification")
      return 1
    | none => return statusOf (!p.faults.isEmpty)

/-- Prints a line again and again. A reader has enough of it after some time. -/
def yes : Tool := fun args => do
  let line := (if args.isEmpty then "y" else joinStrings " " args) ++ "\n"
  sayChars (List.replicate 4096 line.toList).flatten
  throw .endless

/-! ## Conditions -/

/-- Checks a condition. -/
def test (name : String) : Tool := fun args => do
  let closed := name != "[" || args.getLast? == some "]"
  if !closed then
    report name "missing ']'"
    return 2
  else
    let words := if name == "[" then args.dropLast else args
    match Condition.evaluate (← get) (words.length + 2) words with
    | .ok b => return if b then 0 else 1
    | .error what =>
      let number := dropStart? "Illegal number: ".toList what.toList
      report name (match number with
        | some word => s!"invalid integer {quotedName (String.ofList word)}"
        | none => what)
      return 2

/-! ## The user and the machine -/

/-- The variables that programs see, as assignments. -/
def environmentLines (g : Going) : List String :=
  g.machine.environment.map fun (k, v) => k ++ "=" ++ v

/-- Prints variables that programs see. -/
def printenv : Tool := withOptions
  { name := "printenv", letters := "0", long := [("null", '0')], status := 2, inFront := true }
  fun given words => do
    let ended := if has given '0' then "\x00" else "\n"
    let g ← get
    if words.isEmpty then
      say (String.join ((environmentLines g).map (· ++ ended)))
      return 0
    else
      let mut failed := false
      for name in words do
        match g.machine.environment.lookup name with
        | some value => say (value ++ ended)
        | none => failed := true
      return statusOf failed

/-- Prints the name of the user. -/
def whoami : Tool := withOptions { name := "whoami" } fun _ words => do
  match words with
  | [] =>
    say "root\n"
    return 0
  | w :: _ => misuse "whoami" s!"extra operand {quotedName w}"

/-- Prints who the user is. -/
def id : Tool := withOptions
  { name := "id", letters := "ugGnrz"
    long := [("user", 'u'), ("group", 'g'), ("groups", 'G'), ("name", 'n'), ("real", 'r')] }
  fun given words => do
    match words.find? (· != "root") with
    | some w =>
      report "id" s!"{quotedName w}: no such user"
      return 1
    | none =>
      let short := ['u', 'g', 'G'].any (has given)
      if has given 'n' && !short then
        report "id" "printing only names or real IDs requires -u, -g, or -G"
        return 1
      else
        say (if short then (if has given 'n' then "root\n" else "0\n")
          else "uid=0(root) gid=0(root) groups=0(root)\n")
        return 0

/-- Prints the groups of the user. -/
def groups : Tool := fun args => do
  match args.find? (· != "root") with
  | some w =>
    report "groups" s!"{quotedName w}: no such user"
    return 1
  | none =>
    say (if args.isEmpty then "root\n" else "root : root\n")
    return 0

/-- Prints what the machine is. -/
def uname : Tool := withOptions
  { name := "uname", letters := "asnrvmpio"
    long := [("all", 'a'), ("kernel-name", 's'), ("nodename", 'n'), ("kernel-release", 'r'),
      ("kernel-version", 'v'), ("machine", 'm'), ("processor", 'p'), ("hardware-platform", 'i'),
      ("operating-system", 'o')] } fun given words => do
  match words with
  | w :: _ => misuse "uname" s!"extra operand {quotedName w}"
  | [] =>
    let facts := [('s', "Linux"), ('n', "localhost"), ('r', "6.0.0"), ('v', "#1 SMP"),
      ('m', "x86_64"), ('p', "x86_64"), ('i', "x86_64"), ('o', "GNU/Linux")]
    let shown := if given.isEmpty then ["Linux"]
      else facts.filterMap fun (c, v) => if has given c || has given 'a' then some v else none
    say (joinStrings " " shown ++ "\n")
    return 0

/-- Prints one text. -/
def always (name text : String) : Tool := withOptions { name } fun _ words => do
  match words with
  | [] =>
    say (text ++ "\n")
    return 0
  | w :: _ => misuse name s!"extra operand {quotedName w}"

/-- Tells whether the input is a terminal, which it never is. -/
def tty : Tool := fun args => do
  if !args.contains "-s" then say "not a tty\n"
  return 1

/-! ## Time -/

/-- Waits. -/
def sleep : Tool := withOptions { name := "sleep" } fun _ words => do
  if words.isEmpty then
    misuse "sleep" "missing operand"
  else
    match words.filter fun w => (millis? w).isNone with
    | [] =>
      let time := (words.filterMap millis?).foldl (· + ·) 0
      modify fun g => { g with time := g.time + time }
      return 0
    | bad =>
      for w in bad.dropLast do
        report "sleep" s!"invalid time interval {quotedName w}"
      misuse "sleep" ("invalid time interval " ++ quotedName (bad.getLastD ""))

/-- The form of a moment that the letters of an option ask for. -/
def isoForm? : String → Option String
  | "" | "date" => some "%F"
  | "hours" => some "%FT%H%:z"
  | "minutes" => some "%FT%H:%M%:z"
  | "seconds" => some "%FT%T%:z"
  | "ns" => some "%FT%T,%N%:z"
  | _ => none

/-- The words with an option for the form of a date behind those that have none; its value stands
in the same word. -/
def withForms (args : List String) : List String :=
  args.map fun w =>
    if w == "-I" || w == "--iso-8601" then "-Idate" else w

/-- Prints a moment, this one if none is named. -/
def date : Tool := fun args =>
  flip (withOptions
    { name := "date", letters := "ud:r:Rf:I:T:s:"
      long := [("utc", 'u'), ("universal", 'u'), ("date", 'd'), ("iso-8601", 'I'),
        ("rfc-email", 'R'), ("rfc-3339", 'T'), ("reference", 'r'), ("set", 's')] })
    (withForms args) fun given words => do
  let now := (← get).now / 1000
  let seconds : Except String Int ← match valueOf? given 'd', valueOf? given 'r' with
    | some text, _ =>
      pure (match secondsOf? now text with
        | some n => .ok n
        | none => .error s!"invalid date {quotedName text}")
    | none, some path =>
      match ← existing path with
      | .ok (at_, _) => pure (.ok (Files.time (← get).disk at_ / 1000))
      | .error f =>
        match (Number.digits? path.toList) with
        | some n => pure (.ok (n : Int))
        | none => pure (.error s!"{path}: {faultText f}")
    | none, none => pure (.ok now)
  let form? : Except String String := match valueOf? given 'I', valueOf? given 'T' with
    | some text, _ =>
      match isoForm? text with
      | some form => .ok form
      | none => .error s!"invalid argument {quotedName text} for '--iso-8601'"
    | none, some "date" => .ok "%F"
    | none, some "seconds" => .ok "%F %T%:z"
    | none, some "ns" => .ok "%F %T.%N%:z"
    | none, some text => .error s!"invalid argument {quotedName text} for '--rfc-3339'"
    | none, none =>
      .ok (if has given 'R' then "%a, %d %b %Y %H:%M:%S %z" else "%a %b %e %H:%M:%S %Z %Y")
  match form?, seconds, words with
  | .error what, _, _ => misuse "date" what
  | _, .error what, _ =>
    report "date" what
    return 1
  | .ok form, .ok seconds, [] =>
    say (momentText seconds form.toList ++ "\n")
    return 0
  | _, .ok seconds, word :: more =>
    match more, word.toList with
    | w :: _, _ => misuse "date" s!"extra operand {quotedName w}"
    | [], '+' :: form =>
      say (momentText seconds form ++ "\n")
      return 0
    | [], _ =>
      report "date" s!"invalid date {quotedName word}"
      return 1

end Playbook.Shell.Tool
