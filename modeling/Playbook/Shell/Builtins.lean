/-
  The commands of the shell's own. Some of them end the shell when they are used in a wrong way.
-/
import Playbook.Shell.Programs
import Playbook.Shell.Sending
import Playbook.Shell.Reading

namespace Playbook.Shell.Builtins

open Playbook.Text

/-! ## Arguments -/

/-- The commands besides those whose faults end the shell. -/
def ordinary : List String := ["[", "alias", "bg", "cd", "chdir", "command", "echo", "false", "fg",
  "getopts", "hash", "jobs", "kill", "printf", "pwd", "read", "test", "true", "type", "ulimit",
  "umask", "unalias", "wait"]

/-- The commands whose faults end the shell. -/
def special : List String := "local" :: specialCommands

/-- The commands whose arguments can be assignments. -/
def assigning : List String := ["alias", "export", "local", "readonly"]

/-- Whether a command is the shell's own. -/
def isOwn (name : String) : Bool := special.contains name || ordinary.contains name

/-- The options in front of arguments, each with its value. A letter with a colon behind it takes
one. -/
def options (letters : String) : (steps : Nat) → List String →
    Run (List (Char × String) × List String)
  | 0, args => return ([], args)
  | _, [] => return ([], [])
  | n + 1, word :: rest => do
    match word.toList with
    | ['-', '-'] => return ([], rest)
    | '-' :: c :: cs =>
      match letters.toList.dropWhile (· != c) with
      | [] => fail s!"Illegal option -{String.singleton c}"
      | _ :: ':' :: _ =>
        if !cs.isEmpty then
          let (more, rest) ← options letters n rest
          return ((c, String.ofList cs) :: more, rest)
        match rest with
        | [] => fail s!"No arg for -{String.singleton c} option"
        | value :: rest =>
          let (more, rest) ← options letters n rest
          return ((c, value) :: more, rest)
      | _ =>
        let rest := if cs.isEmpty then rest else String.ofList ('-' :: cs) :: rest
        let (more, rest) ← options letters n rest
        return ((c, "") :: more, rest)
    | _ => return ([], word :: rest)

/-- The options in front of arguments. -/
def withOptions (letters : String) (args : List String) :
    Run (List (Char × String) × List String) :=
  options letters ((args.map String.length).foldl (· + ·) args.length + 1) args

/-- The number that a word spells, which has to be one. -/
def numberOf (word : String) : Run Nat := do
  match Number.digits? word.toList with
  | some n => return n
  | none => fail ("Illegal number: " ++ word)

/-- Changes the machine. -/
def onMachine (f : Machine → Machine) : Run Unit :=
  modify fun g => { g with machine := f g.machine }

/-- Reports a fault that does not end the command. -/
def warn (what : String) : Run Unit := modify fun g => g.complain what

/-! ## Texts -/

/-- A value in quotes, so that it can be read again: single quotes in it stand in double ones. -/
def quotedFrom : (inQuotes : Bool) → List Char → List Char
  | inQuotes, [] => if inQuotes then ['"'] else ['\'']
  | true, '\'' :: cs => '\'' :: quotedFrom true cs
  | true, c :: cs => '"' :: '\'' :: c :: quotedFrom false cs
  | false, '\'' :: cs => '\'' :: '"' :: '\'' :: quotedFrom true cs
  | false, c :: cs => c :: quotedFrom false cs

/-- A value in quotes, so that it can be read again. -/
def quotedValue (v : String) : String := String.ofList ('\'' :: quotedFrom false v.toList)

/-- Prints its arguments. -/
def echo : Tool := fun args => do
  say (Printing.echo args)
  return 0

/-- Prints its arguments in a format. -/
def printf : Tool := fun args => do
  let (_, args) ← withOptions "" args
  match args with
  | [] => fail "usage: printf format [arg ...]"
  | format :: args =>
    let p := Printing.printf format args
    for f in p.faults do
      warn f
    say (String.ofList p.text)
    match p.broken with
    | some what => fail what
    | none => return if p.faults.isEmpty then 0 else 1

/-- Checks a condition. -/
def test (name : String) : Tool := fun args => do
  let closed := name != "[" || args.getLast? == some "]"
  if !closed then fail "missing ]"
  let words := if name == "[" then args.dropLast else args
  match Condition.evaluate (← get) (words.length + 2) words with
  | .ok b => return if b then 0 else 1
  | .error what => fail what

/-! ## Variables -/

/-- Variables as commands that would set them. -/
def shownVars (m : Machine) (lead : String) (wanted : Variable → Bool) : String :=
  let shown := (m.vars.entries.filter fun (_, v) => wanted v).mergeSort fun a b => a.1 ≤ b.1
  String.join (shown.map fun (name, v) =>
    lead ++ name ++ ((v.value.map fun value => "=" ++ quotedValue value).getD "") ++ "\n")

/-- Checks the name of a variable. -/
def checkName (name : List Char) : Run Unit := do
  if !isName name then fail (String.ofList name ++ ": bad variable name")

/-- Sets variables from words that name them, perhaps with values, and marks every one. -/
def declare (mark : Variable → Variable) : List String → Run Unit
  | [] => return
  | word :: rest => do
    let (name, value) := match splitOnce '=' word.toList with
      | some (name, value) => (name, some (String.ofList value))
      | none => (word.toList, none)
    let key := String.ofList name
    checkName name
    match value with
    | some value => assignVar key value
    | none => pure ()
    onMachine fun m => m.mark key mark
    declare mark rest

/-- Marks variables, or shows the marked ones. -/
def marking (name : String) (mark : Variable → Variable) (marked : Variable → Bool) : Tool :=
  fun args => do
    let (given, args) ← withOptions "p" args
    if !given.isEmpty || args.isEmpty then
      say (shownVars (← get).machine (name ++ " ") marked)
    else declare mark args
    return 0

/-- The name under which the options are remembered outside a function. -/
def optionsName : String := "-"

/-- Makes variables local to the running function. -/
def local_ : Tool := fun args => do
  if (← get).machine.outer.isNone then fail "not in a function"
  for word in args do
    let (name, value) := match splitOnce '=' word.toList with
      | some (name, value) => (name, some (String.ofList value))
      | none => (word.toList, none)
    let key := String.ofList name
    if key != optionsName then checkName name
    let m := (← get).machine
    let saved := m.outer.getD []
    let old := if key == optionsName then
        some { value := some (String.ofList m.options) : Variable }
      else m.vars.get? key
    if (saved.lookup key).isNone then
      onMachine fun m => { m with outer := some ((key, old) :: saved) }
    match value with
    | some value => assignVar key value
    | none => pure ()
  return 0

/-- Removes variables, or functions. -/
def unset : Tool := fun args => do
  let (given, names) ← withOptions "vf" args
  let last := (given.getLast?.map Prod.fst).getD 'v'
  for name in names do
    if last == 'f' then
      onMachine fun m => { m with functions := Machine.without m.functions name }
    else
      checkName name.toList
      let m := (← get).machine
      if ((m.vars.get? name).map (·.constant)).getD false then fail (name ++ ": is read only")
      onMachine fun m => m.resetVar name none
  return 0

/-! ## Options and arguments of the shell -/

/-- The options of the shell by their names. -/
def optionNames : List (String × Option Char) :=
  [("errexit", some 'e'), ("noglob", some 'f'), ("ignoreeof", some 'I'), ("interactive", some 'i'),
    ("monitor", some 'm'), ("noexec", some 'n'), ("stdin", some 's'), ("xtrace", some 'x'),
    ("verbose", some 'v'), ("vi", some 'V'), ("emacs", some 'E'), ("noclobber", some 'C'),
    ("allexport", some 'a'), ("notify", some 'b'), ("nounset", some 'u'), ("privileged", some 'p'),
    ("nolog", none), ("debug", none)]

/-- Switches an option. -/
def switch (m : Machine) (on : Bool) (letter : Char) : Machine :=
  let others := m.options.filter (· != letter)
  { m with options := if on then letter :: others else others }

/-- The machine with options switched by the letters of a word, and the words behind; or the fault.
The letter `o` takes a name. -/
def switched (on : Bool) : List Char → List String → Machine →
    Except String (Machine × List String)
  | [], rest, m => .ok (m, rest)
  | 'o' :: cs, rest, m =>
    match rest with
    | [] => switched on cs [] m
    | name :: rest =>
      match optionNames.lookup name with
      | some (some letter) => switched on cs rest (switch m on letter)
      | some none => switched on cs rest m
      | none => .error s!"Illegal option -o {name}"
  | c :: cs, rest, m =>
    if (optionNames.map Prod.snd).contains (some c) then switched on cs rest (switch m on c)
    else .error s!"Illegal option -{String.singleton c}"

/-- The settings of all options. -/
def shownOptions (m : Machine) (asCommands : Bool) : String :=
  let line := fun (name : String) (letter : Option Char) =>
    let on := (letter.map m.has).getD false
    if asCommands then "set " ++ (if on then "-o " else "+o ") ++ name ++ "\n"
    else name ++ String.ofList (List.replicate (16 - name.length) ' ') ++
      (if on then "on\n" else "off\n")
  (if asCommands then "" else "Current option settings\n") ++
    String.join (optionNames.map fun (name, letter) => line name letter)

/-- Changes the shell's options and arguments. -/
def setOptions : (steps : Nat) → List String → Run Unit
  | 0, _ => return
  | _, [] => return
  | n + 1, word :: rest => do
    let take := fun (args : List String) =>
      onMachine fun m => { m with args, optionIndex := 1, optionOffset := none }
    let change := fun (on : Bool) (letters : List Char) => do
      if letters == ['o'] && rest.isEmpty then
        say (shownOptions (← get).machine (!on))
      else
        match switched on letters rest (← get).machine with
        | .ok (machine, rest) =>
          modify fun g => { g with machine }
          setOptions n rest
        | .error what => fail what
    match word.toList with
    | ['-', '-'] => take rest
    | ['-'] =>
      onMachine fun m => switch (switch m false 'x') false 'v'
      if !rest.isEmpty then take rest
    | '-' :: letters => change true letters
    | '+' :: letters => change false letters
    | _ => take (word :: rest)

/-- Changes the shell's options and arguments, or shows all variables. -/
def set_ : Tool := fun args => do
  if args.isEmpty then say (shownVars (← get).machine "" fun v => v.value.isSome)
  else setOptions (args.length + 1) args
  return 0

/-- Leaves out arguments. -/
def shift : Tool := fun args => do
  let n ← match args with
    | [] => pure 1
    | word :: _ => numberOf word
  if (← get).machine.args.length < n then fail "can't shift that many"
  onMachine fun m =>
    { m with args := m.args.drop n, optionIndex := 1, optionOffset := none }
  return 0

/-- Ends loops, as many as there are. -/
def leaveLoops (signal : Nat → Signal) : Tool := fun args => do
  let n ← match args with
    | [] => pure 1
    | word :: _ => numberOf word
  if n = 0 then fail ("Illegal number: " ++ args.headD "")
  let loops := (← get).loops
  if loops = 0 then return 0
  modify (·.withStatus 0)
  throw (signal (min n loops))

/-- Ends the shell, or a function. -/
def leave (signal : Signal) : Tool := fun args => do
  match args with
  | [] => throw signal
  | word :: _ =>
    let n ← numberOf word
    modify (·.withStatus (if signal == .exit then n % 256 else n))
    throw signal

/-- Looks for the next option among the arguments. -/
def getopts : Tool := fun args => do
  match args with
  | letters :: name :: given => do
    let m := (← get).machine
    let words := if given.isEmpty then m.args else given
    let index := if words.length + 1 < m.optionIndex then 1 else m.optionIndex
    let offset := if words.length + 1 < m.optionIndex then none else m.optionOffset
    let open_ := if index ≤ 1 then none else offset.bind fun k =>
      (words[index - 2]?).bind fun w => if w.length < k then none else some (w.toList.drop k)
    let silent := letters.startsWith ":"
    let finish := fun (c : Char) (index : Nat) (offset : Option Nat) (status : Nat) => do
      assignVar "OPTIND" (toString index)
      assignVar name (String.singleton c)
      onMachine fun m => { m with optionIndex := index, optionOffset := offset }
      return status
    -- the word with the next letter, and the number of the word behind it
    let word? : Option (List Char × Nat) := match open_ with
      | some (c :: cs) => some (c :: cs, index)
      | _ =>
        match words[index - 1]?.map String.toList with
        | some ('-' :: c :: cs) => some (c :: cs, index + 1)
        | _ => none
    let opened := match open_ with
      | some (_ :: _) => true
      | _ => false
    match word? with
    | none => finish '?' index none 1
    | some (['-'], next) =>
      if opened then unknown letters silent '-' [] next words finish
      else finish '?' next none 1
    | some (c :: cs, next) =>
      match (letters.toList.dropWhile fun d => d != c || d == ':') with
      | [] => unknown letters silent c cs next words finish
      | _ :: ':' :: _ =>
        match cs, words[next - 1]? with
        | [], none =>
          if silent then
            assignVar "OPTARG" (String.singleton c)
            finish ':' next (some ((words[next - 2]?.map String.length).getD 0)) 0
          else
            sayError s!"No arg for -{String.singleton c} option\n"
            onMachine fun m => m.resetVar "OPTARG" none
            finish '?' next none 0
        | [], some value =>
          assignVar "OPTARG" value
          finish c (next + 1) none 0
        | cs, _ =>
          assignVar "OPTARG" (String.ofList cs)
          finish c next none 0
      | _ =>
        assignVar "OPTARG" ""
        finish c next (offsetOf words next cs) 0
    | some ([], next) => finish '?' next none 1
  | _ => fail "Usage: getopts optstring var [arg...]"
where
  /-- The place of what is left of the word in front of a number. -/
  offsetOf (words : List String) (next : Nat) (left : List Char) : Option Nat :=
    (words[next - 2]?).map fun w => w.length - left.length
  /-- Deals with a letter that is no option. -/
  unknown (_letters : String) (silent : Bool) (c : Char) (cs : List Char) (next : Nat)
      (words : List String) (finish : Char → Nat → Option Nat → Nat → Run Nat) : Run Nat := do
    if silent then assignVar "OPTARG" (String.singleton c)
    else
      sayError s!"Illegal option -{String.singleton c}\n"
      onMachine fun m => m.resetVar "OPTARG" none
    finish '?' next (offsetOf words next cs) 0

/-! ## Reading -/

/-- The characters of a line with those behind backslashes marked; what is left of the text, and
whether the line was ended. -/
def lineItems (raw : Bool) : (count : Nat) → List Char → List Item × List Char × Nat × Bool
  | count, [] => ([], [], count, false)
  | count, '\\' :: rest =>
    if raw then
      let (items, left, count, ended) := lineItems raw (count + 1) rest
      (.char '\\' false true :: items, left, count, ended)
    else
      match rest with
      | [] => ([], [], count + 1, false)
      | '\n' :: rest =>
        let (items, left, count, ended) := lineItems raw (count + 2) rest
        (.edge :: items, left, count, ended)
      | c :: rest =>
        let (items, left, count, ended) := lineItems raw (count + 2) rest
        (.edge :: .char c true false :: .edge :: items, left, count, ended)
  | count, '\n' :: rest => ([], rest, count + 1, true)
  | count, c :: rest =>
    let (items, left, count, ended) := lineItems raw (count + 1) rest
    (if c == '\x00' then items else .char c false true :: items, left, count, ended)

/-- Sets variables to texts in order, the others to nothing. -/
def fill : List String → List String → Run Unit
  | [], _ => return
  | name :: names, values => do
    checkName name.toList
    assignVar name (values.headD "")
    fill names values.tail

/-- Reads a line of the input into variables; the last one takes what is left of it. -/
def read : Tool := fun args => do
  let (given, names) ← withOptions "p:r" args
  if names.isEmpty then fail "arg count"
  let g ← get
  match g.left 0 with
  | .awaited => throw .stuck
  | .closed =>
    fill names []
    return 1
  | .text cs =>
    let raw := given.any fun (c, _) => c == 'r'
    let (items, left, count, ended) := lineItems raw 0 cs
    set (g.pass 0 count left)
    let fields := splitItems (separators g.machine) (some names.length) (.edge :: items ++ [.edge])
    fill names (fields.map fun f => String.ofList (f.map Prod.fst))
    return if ended then 0 else 1

/-! ## Places -/

/-- The segments of a path from the working directory on, as it is gone to. -/
def goneTo (g : Going) (path : String) : List String :=
  let start := if Path.isAbsolute path then [] else Path.segments g.directory
  ((start ++ Path.segments path).filter (!Path.isFiller ·)).foldl (fun at_ name =>
    if name == ".." then at_.dropLast else at_ ++ [name]) []

/-- Goes to a directory; tells whether that was possible. -/
def goTo (physical : Bool) (path : String) : Run Bool := do
  let g ← get
  let logical := "/" ++ joinStrings "/" (goneTo g path)
  let target := if physical then path else logical
  match Files.locate g.disk target with
  | .ok here =>
    if g.disk.node? here != some .directory then return false
    let old := g.directory
    let real := { g with disk := { g.disk with here } }
    let kept := if physical || logical == real.realDirectory then none else some logical
    set { real with machine := { real.machine with path := kept } }
    assignVar "OLDPWD" old
    assignVar "PWD" (← get).directory
    onMachine fun m =>
      (m.mark "OLDPWD" ({ · with exported := true })).mark "PWD" ({ · with exported := true })
    return true
  | .error _ => return false

/-- Changes the working directory. -/
def cd : Tool := fun args => do
  let (given, args) ← withOptions "LP" args
  let physical := (given.getLast?.map Prod.fst) == some 'P'
  let m := (← get).machine
  let (dir, tells) := match args with
    | [] => ((m.value? "HOME").getD "", false)
    | "-" :: _ => ((m.value? "OLDPWD").getD "", true)
    | dir :: _ => (dir, false)
  let direct := dir.startsWith "/" || ["", ".", ".."].contains dir || dir.startsWith "./" ||
    dir.startsWith "../"
  let roots := if direct then [] else
    (((m.value? "CDPATH").map fun text => (pieces ':' text.toList).map String.ofList).getD [])
  let path := if dir.isEmpty then "." else dir
  let disk := (← get).disk
  let found := roots.find? fun root =>
    !root.isEmpty && root != "." && Files.isDirectory disk (Tool.below root path)
  let moved ← match found with
    | some root => goTo physical (Tool.below root path)
    | none => goTo physical path
  if !moved then fail ("can't cd to " ++ dir)
  if tells || found.isSome then say ((← get).directory ++ "\n")
  return 0

/-- Prints the working directory. -/
def pwd : Tool := fun args => do
  let (given, _) ← withOptions "LP" args
  let g ← get
  say ((if (given.getLast?.map Prod.fst) == some 'P' then g.realDirectory else g.directory) ++ "\n")
  return 0

/-- Shows or changes what new files are not allowed. -/
def umask : Tool := fun args => do
  let (given, args) ← withOptions "S" args
  let mask := (← get).machine.umask
  match args with
  | [] =>
    if given.isEmpty then say (Tool.octal4 mask ++ "\n")
    else
      let letters := (Tool.modeLetters (0o777 - mask)).toList
      let part := fun (k : Nat) => String.ofList (((letters.drop k).take 3).filter (· != '-'))
      say s!"u={part 0},g={part 3},o={part 6}\n"
    return 0
  | text :: _ =>
    let cs := text.toList
    if (cs.head?.map Char.isDigit).getD false then
      if !cs.all fun c => '0' ≤ c && c ≤ '7' then fail ("Illegal number: " ++ text)
      let n := cs.foldl (fun n c => n * 8 + (c.toNat - '0'.toNat)) 0
      onMachine ({ · with umask := n % 512 })
    else
      match Tool.symbolic? 0 (0o777 - mask) false (cs.length + 1) cs with
      | some mode => onMachine ({ · with umask := 0o777 - mode % 512 })
      | none => fail ("Illegal mode: " ++ text)
    return 0

/-! ## Names -/

/-- What a name stands for. -/
inductive Meaning where
  | keyword
  | shorthand (text : String)
  | function
  | own (special : Bool)
  | program (path : String) (known : Bool)

/-- What a name stands for; none if for nothing. -/
def meaning? (g : Going) (name : String) : Option Meaning :=
  if keywords.contains name then some .keyword
  else
    match g.machine.aliases.get? name with
    | some text => some (.shorthand text)
    | none =>
      if (g.machine.functions.get? name).isSome then some .function
      else if isOwn name then some (.own (special.contains name))
      else if name.toList.contains '/' then
        match Files.find? g.disk name, Programs.ofPath? g.disk name with
        | none, none => none
        | _, _ => some (.program name false)
      else (Programs.find? g name).map fun path => .program path (g.machine.known.contains name)

/-- Says what a name stands for. -/
def describe (name : String) : Run Nat := do
  match meaning? (← get) name with
  | none =>
    say s!"{name}: not found\n"
    return 127
  | some m =>
    let what := match m with
      | .keyword => "is a shell keyword"
      | .shorthand text => "is an alias for " ++ text
      | .function => "is a shell function"
      | .own true => "is a special shell builtin"
      | .own false => "is a shell builtin"
      | .program path true => "is a tracked alias for " ++ path
      | .program path false => "is " ++ path
    say s!"{name} {what}\n"
    return 0

/-- Says how a name could be used. -/
def describeBriefly (name : String) : Run Nat := do
  match meaning? (← get) name with
  | none => return 127
  | some m =>
    say ((match m with
      | .shorthand text => s!"alias {name}={quotedValue text}"
      | .program path _ => path
      | _ => name) ++ "\n")
    return 0

/-- Says what names stand for. -/
def type : Tool := fun args => do
  let mut status := 0
  for name in args do
    let s ← describe name
    status := status ||| s
  return status

/-- Prints the definition of an alias. -/
def sayAlias (name text : String) : Run Unit := say s!"{name}={quotedValue text}\n"

/-- Defines aliases, or shows them. -/
def defineAliases : Tool := fun args => do
  let m := (← get).machine
  if args.isEmpty then
    for (name, text) in Machine.placed m.aliases.entries do
      sayAlias name text
    return 0
  else
    let mut status := 0
    for word in args do
      let cs := word.toList
      match splitOnce '=' (cs.drop 1) with
      | some (name, text) =>
        let key := String.ofList (cs.take 1 ++ name)
        onMachine fun m => { m with aliases := m.aliases.insert key (String.ofList text) }
      | none =>
        match (← get).machine.aliases.get? word with
        | some text => sayAlias word text
        | none =>
          sayError s!"alias: {word} not found\n"
          status := 1
    return status

/-- Removes aliases. -/
def removeAliases : Tool := fun args => do
  let (given, names) ← withOptions "a" args
  if !given.isEmpty then
    onMachine fun m => { m with aliases := .empty }
    return 0
  else
    let mut status := 0
    for name in names do
      if ((← get).machine.aliases.get? name).isSome then
        onMachine fun m => { m with aliases := Machine.without m.aliases name }
      else
        sayError s!"unalias: {name} not found\n"
        status := 1
    return status

/-- Remembers that a program was found by its name. -/
def remember (name : String) : Run Unit := do
  let g ← get
  if !name.toList.contains '/' && (Programs.find? g name).isSome then
    if !g.machine.known.contains name then
      onMachine fun m => { m with known := name :: m.known }

/-- Shows or forgets where programs were found. -/
def hash : Tool := fun args => do
  let (given, names) ← withOptions "r" args
  if !given.isEmpty then
    onMachine fun m => { m with known := [] }
    return 0
  else if names.isEmpty then
    let g ← get
    for name in g.machine.known do
      match Programs.find? g name with
      | some path => say (path ++ "\n")
      | none => pure ()
    return 0
  else
    let mut status := 0
    for name in names do
      let g ← get
      if (Programs.find? g name).isSome then
        onMachine fun m => { m with known := name :: m.known.filter (· != name) }
      else if !isOwn name && (g.machine.functions.get? name).isNone then
        warn (name ++ ": not found")
        status := 1
    return status

/-! ## Other processes -/

/-- The job that a word names, or the last one. `controls` tells whether it is to be brought to the
front, which is not possible. -/
def jobOf (controls : Bool) (word : Option String) : Run Job := do
  let jobs := (← get).machine.jobs
  let shown := word.getD "(null)"
  let found ← match word.map fun w => w.toList with
    | none | some ['%'] | some ['%', '%'] | some ['%', '+'] =>
      if jobs.isEmpty then fail "No current job" else pure jobs.head?
    | some ['%', '-'] => if jobs.length < 2 then fail "No previous job" else pure jobs[1]?
    | some ('%' :: ds) =>
      pure ((Number.digits? ds).bind fun n => jobs.find? fun (j : Job) => j.number == n)
    | some _ => pure none
  match found with
  | some j => if controls then fail s!"job {shown} not created under job control" else return j
  | none => fail ("No such job: " ++ shown)

/-- Refuses to go on with jobs. -/
def control : Tool := fun args => do
  let words := if args.isEmpty then [none] else args.map some
  for word in words do
    let _ ← jobOf true word
  return 0

/-- What `kill` says of a wrong use. -/
def killUsage : String := "Usage: kill [-s sigspec | -signum | -sigspec] [pid | job]... or\n" ++
  "kill -l [exitstatus]"

/-- Shows the names of signals. -/
def listSignals : Tool := fun args => do
  match args with
  | [] =>
    say ("0\n" ++ String.join (Sending.names.tail.map (· ++ "\n")))
    return 0
  | word :: _ =>
    let n ← numberOf word
    let n := if 128 < n then n - 128 else n
    if 0 < n && n < Sending.names.length then
      say (Sending.nameOf n ++ "\n")
      return 0
    else fail ("invalid signal number or exit status: " ++ word)

/-- Sends a signal to processes. -/
def sendAll (n : Nat) (words : List String) : Run Nat := do
  let mut status := 0
  for word in words do
    -- jobs have no groups of processes
    let process ← if word.startsWith "%" then do
        let _ ← jobOf false (some word)
        pure none
      else if word.startsWith "-" then do
        let _ ← numberOf (String.ofList word.toList.tail)
        pure none
      else do pure (some (← numberOf word))
    let sent ← match process with
      | some p => Sending.send p n
      | none => pure false
    if !sent then
      warn "No such process\n"
      status := 1
  return status

/-- Sends signals. -/
def kill : Tool := fun args => do
  match args with
  | [] => fail killUsage
  | first :: rest =>
    let bare := if first.startsWith "-" then Sending.number? (String.ofList first.toList.tail)
      else none
    match bare with
    | some n => if rest.isEmpty then fail killUsage else sendAll n rest
    | none =>
      let (given, words) ← withOptions "ls:" args
      let named := (given.filter fun (c, _) => c == 's').getLast?
      let signal ← match named with
        | some (_, name) =>
          match Sending.number? name with
          | some n => pure n
          | none => fail ("invalid signal number or name: " ++ name)
        | none => pure 15
      if given.any fun (c, _) => c == 'l' then
        if named.isSome then fail killUsage
        listSignals words
      else if words.isEmpty then fail killUsage
      else sendAll signal words

/-- Remembers what to run when signals arrive. -/
def trap : Tool := fun args => do
  let (_, args) ← withOptions "" args
  let m := (← get).machine
  match args with
  | [] =>
    for (n, action) in m.traps.mergeSort fun a b => a.1 ≤ b.1 do
      say s!"trap -- {quotedValue action} {Sending.nameOf n}\n"
    return 0
  | first :: rest =>
    let resets := rest.isEmpty || (Number.digits? first.toList).any (· < Sending.names.length)
    let (action, signals) := if resets then (none, args)
      else (if first == "-" then none else some first, rest)
    for word in signals do
      match Sending.number? word with
      | none =>
        sayError s!"trap: {word}: bad trap\n"
        return 1
      | some n =>
        onMachine fun m =>
          let others := m.traps.filter fun (k, _) => k != n
          { m with traps := match action with
              | some a => (n, a) :: others
              | none => others }
    return 0

/-- A job as it is listed. -/
def jobLine (g : Going) (at_ : Nat) (withProcess : Bool) (j : Job) : String :=
  let mark := if at_ = 0 then "+" else if at_ = 1 then "-" else " "
  let state := if g.time < j.ends then "Running"
    else match j.killedBy with
      | some n => (Sending.obituary? n).getD ""
      | none => if j.status = 0 then "Done" else s!"Done({j.status})"
  let process := if withProcess then s!"{j.process} " else ""
  let text := s!"[{j.number}] {mark} {process}{state}"
  text ++ String.ofList (List.replicate (max 1 (33 - text.length)) ' ') ++
    String.join (List.replicate (j.stages - 1) " | ") ++ "\n"

/-- Lists what runs beside the shell. -/
def jobs : Tool := fun args => do
  let (given, words) ← withOptions "lp" args
  let chosen ← words.mapM fun w => jobOf false (some w)
  let all := (← get).machine.jobs
  let numbers := (if words.isEmpty then all else chosen).map fun (j : Job) => j.number
  for number in numbers do
    let g ← get
    match g.machine.jobs.zipIdx.find? fun (j, _) => j.number == number with
    | none => pure ()
    | some (j, at_) =>
      if given.any fun (c, _) => c == 'p' then say s!"{j.process}\n"
      else say (jobLine g at_ (given.any fun (c, _) => c == 'l') j)
      if j.ends ≤ g.time then
        onMachine fun m => { m with jobs := m.jobs.filter fun k => k.number != number }
  return 0

/-- The time behind which nothing ends. -/
def never : Nat := Nat.pow 10 12

/-- Waits for a time, or for a signal that comes before it. -/
def waitUntil (time : Nat) : Run (Option Nat) := do
  let g ← get
  let coming := g.signals.filter fun s =>
    s.process == g.machine.self && s.time < time && Sending.matters g.machine s.signal
  match coming.mergeSort fun a b => a.time ≤ b.time with
  | s :: _ =>
    set { g with time := max g.time s.time }
    return some s.signal
  | [] =>
    if never ≤ time then throw .endless
    set { g with time := max g.time time }
    return none

/-- Notes that someone waited for the end of jobs. -/
def await (isOne : Job → Bool) : Run Unit :=
  onMachine fun m =>
    { m with jobs := m.jobs.map fun j => if isOne j then { j with awaited := true } else j }

/-- Waits for what runs beside the shell. -/
def wait : Tool := fun args => do
  let (_, words) ← withOptions "" args
  if words.isEmpty then
    match ← waitUntil (((← get).machine.jobs.map (·.ends)).foldl max 0) with
    | some signal => return 128 + signal
    | none =>
      await fun _ => true
      return 0
  else
    let mut status := 127
    for word in words do
      let found ← if word.startsWith "%" then do pure (some (← jobOf false (some word)))
        else do
          let n ← numberOf word
          pure ((← get).machine.jobs.find? fun (j : Job) => j.process == n)
      match found with
      | none => pure ()
      | some j =>
        match ← waitUntil j.ends with
        | some signal => return 128 + signal
        | none => pure ()
        if !j.awaited then
          match j.killedBy.bind Sending.obituary? with
          | some text => sayError (text ++ "\n")
          | none => pure ()
        await fun k => k.number == j.number
        status := j.status
    return status

/-- Shows how much time was used, which is none. -/
def times : Tool := fun _ => do
  say "0m0.000000s 0m0.000000s\n0m0.000000s 0m0.000000s\n"
  return 0

/-- Shows limits, of which there are none. -/
def ulimit : Tool := fun args => do
  let (_, words) ← withOptions "HSatfdscmlpnvwr" args
  if words.isEmpty then say "unlimited\n"
  return 0

/-- The commands of the shell's own that need nothing but their arguments. -/
def table : List (String × Tool) :=
  [(":", fun _ => return 0), ("true", fun _ => return 0), ("false", fun _ => return 1),
    ("echo", echo), ("printf", printf), ("test", test "test"), ("[", test "["), ("cd", cd),
    ("chdir", cd), ("pwd", pwd), ("umask", umask), ("set", set_), ("shift", shift),
    ("export", marking "export" ({ · with exported := true }) (·.exported)),
    ("readonly", marking "readonly" ({ · with constant := true }) (·.constant)),
    ("local", local_), ("unset", unset), ("getopts", getopts), ("read", read), ("type", type),
    ("alias", defineAliases), ("unalias", removeAliases), ("hash", hash), ("kill", kill),
    ("trap", trap),
    ("jobs", jobs), ("wait", wait), ("times", times), ("ulimit", ulimit),
    ("break", leaveLoops .broken), ("continue", leaveLoops .continued), ("exit", leave .exit),
    ("return", leave .returned), ("fg", control), ("bg", control)]

end Playbook.Shell.Builtins
