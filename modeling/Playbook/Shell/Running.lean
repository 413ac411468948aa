/-
  Running scripts. Scripts need not end, so running one is bounded by a number of steps; every
  process runs to its end before the next one begins, and what it wrote carries the time at which
  that happens.
-/
import Playbook.Shell.Builtins

namespace Playbook.Shell

open Playbook.Text

/-! ## Processes -/

/-- Runs something and does something else at its end, however it ends. -/
def always {α : Type} (run : Run α) (after : Run Unit) : Run α := do
  let r ← tryCatch run fun s => do
    after
    throw s
  after
  return r

/-- Runs something and tells how it ended. -/
def ending (run : Run Unit) : Run (Option Signal) :=
  tryCatch (run *> pure none) fun s => pure (some s)

/-- The machine of a process that goes on beside the shell or instead of it. -/
def Machine.forked (m : Machine) (process : Nat) : Machine :=
  { m with
    self := process
    jobs := []
    traps := m.traps.filter fun (_, action) => action.isEmpty }

/-- Runs something in a process of its own: only what it wrote and left on the disk remains. The
result is its exit status and the signal that ended it. `finish` runs at its end. -/
def separately (finish : Run Unit) (run : Run Unit) : Run (Nat × Option Nat) := do
  modify fun g => { g with machine := g.machine.newNumber.2 }
  let before ← get
  let process := before.processes + 1
  set { before with
    machine := before.machine.forked process
    processes := process
    living := before.machine.self :: before.living }
  let ended ← ending run
  let ended ← match ended with
    | some .stuck | some .endless | some (.killed _) => pure ended
    | _ => ending finish
  let after ← get
  let (status, killedBy) := match ended with
    | some (.killed n) => (128 + n, some n)
    | _ => (after.machine.status % 256, none)
  set { after with
    machine := before.machine
    disk := { after.disk with here := before.disk.here }
    loops := before.loops
    line := before.line
    command := before.command
    living := before.living
    taken := before.taken
    lost := before.lost }
  match ended with
  | some .stuck => throw .stuck
  | some .endless => throw .endless
  | _ => return (status, killedBy)

/-- Reports the signal that ended a process that was waited for. -/
def sayObituary (killedBy : Option Nat) : Run Unit := do
  match killedBy.bind Sending.obituary? with
  | some text => sayError (text ++ "\n")
  | none => return

/-- Runs something and takes what it prints. -/
def takenText (run : Run Unit) : Run (String × Option Signal) := do
  let before ← get
  let depth := before.depth + 1
  let (g, i) := before.open_ ⟨.held depth, 0, []⟩
  set { g with machine := g.machine.withStream 1 i, written := [], depth }
  let ended ← ending run
  let after ← get
  let mine := after.written.filter fun w => w.channel == .held depth
  let others := after.written.filter fun w => w.channel != .held depth
  set { after with
    machine := { after.machine with streams := before.machine.streams }
    written := others ++ before.written
    depth := before.depth }
  return (String.join (mine.reverse.map Written.text), ended)

/-! ## Commands -/

/-- What a command's name leads to. -/
inductive Found where
  | function (body : Script)
  | own (name : String)
  | program

/-- What a name leads to; functions count unless they are passed over. -/
def find (m : Machine) (functions : Bool) (name : String) : Found :=
  match if functions then m.functions.get? name else none with
  | some body => .function body
  | none => if Builtins.isOwn name then .own name else .program

/-- The words behind `command` and its option, if another command follows them. -/
def behindCommand : List String → Option (List String)
  | [] => none
  | "-p" :: rest => behindCommand rest
  | "--" :: rest => if rest.isEmpty then none else some rest
  | word :: rest => if word.startsWith "-" && word != "-" then none else some (word :: rest)

/-- A command with the words `command` in front cut off, and whether there were any. -/
def bare (m : Machine) : (steps : Nat) → (cut : Bool) → List String → List String × Bool
  | 0, cut, words => (words, cut)
  | n + 1, cut, words =>
    match words with
    | "command" :: rest =>
      if !cut && (m.functions.get? "command").isSome then (words, cut)
      else
        match behindCommand rest with
        | some rest => bare m n true rest
        | none => (words, cut)
    | _ => (words, cut)

/-- Whether the arguments of a command can be assignments; none as long as its name is not known. -/
def assigns? (m : Machine) (words : List String) : Option Bool :=
  match bare m (words.length + 1) false words with
  | ([], _) => none
  | ("command" :: _, cut) =>
    if !cut && (m.functions.get? "command").isSome then some false else none
  | (name :: _, cut) =>
    if !cut && (m.functions.get? name).isSome then some false
    else some (Builtins.assigning.contains name)

/-- Expands the words of a command. -/
def expandCommand (taking : Taking) (steps : Nat) : List String → List Word → Run (List String)
  | seen, [] => return seen
  | seen, w :: ws => do
    let m := (← get).machine
    match assigns? m seen, assignment? w with
    | some true, some (name, value) =>
      let text ← expandText taking steps true value
      expandCommand taking steps (seen ++ [name ++ "=" ++ text]) ws
    | _, _ =>
      let fields ← expandField taking steps w
      expandCommand taking steps (seen ++ fields) ws

/-- Shows a command before it runs. -/
def trace (taking : Taking) (steps : Nat) (streams : Streams) (words : List String) :
    Run Unit := do
  let g ← get
  if g.machine.has 'x' then
    let ps4 := ((g.machine.value? "PS4").getD "").toList
    let text := ps4.flatMap fun c => if c == ' ' then ['\\', c] else [c]
    let lead ← match readLine { text } with
      | .script (.simple _ [] [w] []) _ => expandText taking steps false w
      | _ => pure (String.ofList ps4)
    let inner := (← get).machine.streams
    restoreStreams streams
    sayError (lead ++ joinStrings " " words ++ "\n")
    restoreStreams inner

/-- Whether a failing command ends a strict shell. -/
def strictly (tested : Bool) : Run Unit := do
  let m := (← get).machine
  if m.has 'e' && !tested && m.status != 0 then throw .exit

/-- What a loop does after a turn: whether it goes on. -/
def afterTurn (ended : Option Signal) : Run Bool :=
  match ended with
  | none => return true
  | some (.broken n) => if n ≤ 1 then return false else throw (.broken (n - 1))
  | some (.continued n) => if n ≤ 1 then return true else throw (.continued (n - 1))
  | some s => throw s

/-- Gives variables the values that they had before. -/
def restoreVars (saved : List (String × Option Variable)) : Run Unit :=
  modify fun g => { g with
    machine := saved.foldl (fun m (name, old) =>
      if name == Builtins.optionsName then
        { m with options := ((old.bind (·.value)).map String.toList).getD m.options }
      else m.resetVar name old) g.machine }

/-- The variables of a shell that another one starts. -/
def startVars (directory : String) : List (String × String) :=
  [("IFS", " \t\n"), ("OPTIND", "1"),
    ("PATH", "/usr/local/sbin:/usr/local/bin:/usr/sbin:/usr/bin:/sbin:/bin"), ("PPID", "0"),
    ("PS1", "# "), ("PS2", "> "), ("PS4", "+ "), ("PWD", directory)]

/-- A machine that only has what programs see of another one. -/
def Machine.started (g : Going) (name : String) (args : List String) : Machine :=
  let m := g.machine
  let own := Table.ofList ((startVars g.directory).map fun (k, v) =>
    (k, ({ value := some v } : Variable)))
  let vars := m.environment.foldl (fun (t : Table Variable) (k, v) =>
    if k == "IFS" then t else t.insert k { value := some v, exported := true }) own
  { name, args, vars, here := m.here, streams := m.streams, traps := m.traps, process := m.self
    self := m.self, umask := m.umask, path := m.path
    options := [] }

/-- What a shell is started for. -/
structure Started where
  options : List Char
  name : String
  args : List String
  /-- The script; none if it is what the shell reads. -/
  text : Option String

/-- What a shell is started for, or the fault: its name, its options, and where its script is. -/
def startedFor (command : String) : (steps : Nat) → (options : List Char) → (text : Bool) →
    List String → Except String (Started × Bool)
  | 0, _, _, _ => .error ""
  | n + 1, options, takesText, words =>
    let rest := fun (words : List String) =>
      if takesText then
        match words with
        | [] => Except.error "-c requires an argument"
        | text :: [] => .ok (⟨options, command, [], some text⟩, false)
        | text :: name :: args => .ok (⟨options, name, args, some text⟩, false)
      else
        match words with
        | path :: args =>
          if options.contains 's' then .ok (⟨options, command, words, none⟩, false)
          else .ok (⟨options, path, args, none⟩, true)
        | [] => .ok (⟨'s' :: options, command, [], none⟩, false)
    match words with
    | [] => rest []
    | word :: more =>
      match word.toList with
      | ['-'] | ['-', '-'] => rest more
      | sign :: letters =>
        if sign == '-' || sign == '+' then
          let plain := letters.filter fun c => c != 'c' && c != 'l'
          match Builtins.switched (sign == '-') plain more { options } with
          | .ok (m, more) => startedFor command n m.options (takesText || letters.contains 'c') more
          | .error what => .error what
        else rest words
      | [] => rest words

/-- The program that a script names in its first line, with an argument. -/
def interpreter? (cs : List Char) : Option (String × Option String) :=
  match cs with
  | '#' :: '!' :: line =>
    let line := trim (line.takeWhile (· != '\n'))
    let path := line.takeWhile fun c => c != ' ' && c != '\t'
    let arg := trimLeft (line.drop path.length)
    some (String.ofList path, if arg.isEmpty then none else some (String.ofList arg))
  | _ => none

/-! ## Programs that run others -/

/-- What `xargs` is asked for. -/
structure Gathering where
  /-- How many words a command is given at most, and how many lines. -/
  most : Option Nat := none
  lines : Option Nat := none
  /-- The mark in whose place a line is put. -/
  mark : Option String := none
  separator : Option Char := none
  /-- Whether nothing is run for nothing. -/
  needsWords : Bool := false
  shows : Bool := false

/-- The words in a text: blanks separate them unless quotes or backslashes keep them from it. Each
line is a list of its own. -/
def quotedLines : (steps : Nat) → (word : Option (List Char)) → (line : List String) →
    List Char → Except String (List (List String))
  | 0, _, _, _ => .ok []
  | n + 1, word, line, cs =>
    let close := match word with
      | some w => line ++ [String.ofList w.reverse]
      | none => line
    let add := fun (c : Char) => some (c :: word.getD [])
    match cs with
    | [] => .ok (if close.isEmpty then [] else [close])
    | '\n' :: rest => do
      let more ← quotedLines n none [] rest
      return if close.isEmpty then more else close :: more
    | '\\' :: c :: rest => quotedLines n (add c) line rest
    | c :: rest =>
      if c == '\'' || c == '"' then
        let inner := rest.takeWhile fun d => d != c && d != '\n'
        match rest.drop inner.length with
        | d :: after =>
          if d == c then quotedLines n (some (inner.reverse ++ word.getD [])) line after
          else .error (String.singleton c)
        | [] => .error (String.singleton c)
      else if c == ' ' || c == '\t' then quotedLines n none close rest
      else quotedLines n (add c) line rest

/-- Words in groups of a size. -/
def grouped {α : Type} (size : Nat) : (steps : Nat) → List α → List (List α)
  | 0, _ => []
  | _, [] => []
  | n + 1, xs => xs.take (max 1 size) :: grouped size n (xs.drop (max 1 size))

/-- A text with a mark replaced by another text. -/
def replacedMark (mark text : List Char) : (steps : Nat) → List Char → List Char
  | 0, cs => cs
  | _, [] => []
  | n + 1, c :: cs =>
    match dropStart? mark (c :: cs) with
    | some rest => text ++ replacedMark mark text n rest
    | none => c :: replacedMark mark text n cs

/-- A character that an option names. -/
def separatorOf (text : String) : Option Char :=
  ((Printing.unescape (text.length + 1) text.toList).1).head?

/-- The options of `xargs`. -/
def gatheringSpec : Tool.Spec :=
  { name := "xargs", letters := "n:L:I:0d:rtP:s:xpE:i", inFront := true
    long := [("null", '0'), ("max-args", 'n'), ("max-lines", 'L'), ("replace", 'I'),
      ("delimiter", 'd'), ("no-run-if-empty", 'r'), ("verbose", 't'), ("max-procs", 'P'),
      ("max-chars", 's'), ("exit", 'x')] }

/-- The options of `timeout`. -/
def timeoutSpec : Tool.Spec :=
  { name := "timeout", letters := "s:k:fpv", inFront := true
    long := [("signal", 's'), ("kill-after", 'k'), ("foreground", 'f'), ("preserve-status", 'p'),
      ("verbose", 'v')] }

/-- The ways of taking words that exclude each other: the letter of the option, its name where
another one ends it, and its name where it ends another one. -/
def takingNames : List (Char × String × String) :=
  [('n', "--max-args", "--max-args/-n"), ('L', "--max-lines", "-L"),
    ('I', "--replace", "--replace/-I/-i")]

/-- What is left of options that exclude each other, with warnings. -/
def agreeing (given : List Tool.Given) : List Tool.Given × List String :=
  let kind := fun (g : Tool.Given) => if g.letter == 'i' then 'I' else g.letter
  given.foldl (fun (kept, warnings) g =>
    match takingNames.lookup (kind g) with
    | none => (kept ++ [g], warnings)
    | some (_, ending) =>
      let isOther := fun (o : Tool.Given) =>
        kind o != kind g && (takingNames.lookup (kind o)).isSome
      match kept.find? isOther with
      | none => (kept ++ [g], warnings)
      | some o =>
        -- one word for each line is what a mark means anyway
        if kind o == 'I' && g.letter == 'n' && g.value == "1" then (kept, warnings)
        else
          let ended := ((takingNames.lookup (kind o)).getD ("", "")).1
          (kept.filter (!isOther ·) ++ [g], warnings ++
            [s!"xargs: warning: options {ended} and {ending} are mutually exclusive, " ++
              s!"ignoring previous {ended} value\n"])) ([], [])

/-- The commands that `xargs` runs for a text. -/
def gatheredCommands (q : Gathering) (command : List String) (cs : List Char) :
    Except String (List (List String)) := do
  let command := if command.isEmpty then ["echo"] else command
  match q.mark with
  | some mark =>
    let lines ← match q.separator with
      | some c => pure ((dropLastEmpty (pieces c cs)).map String.ofList)
      | none => do
        let lines := (Tool.linesOf cs).map fun l => trimLeft l
        pure ((lines.filter (!·.isEmpty)).map String.ofList)
    return lines.map fun l => command.map fun w =>
      String.ofList (replacedMark mark.toList l.toList (w.length + 1) w.toList)
  | none =>
    let lines ← match q.separator with
      | some c => pure ((dropLastEmpty (pieces c cs)).map fun w => [String.ofList w])
      | none => quotedLines (cs.length + 2) none [] cs
    let groups := match q.most, q.lines with
      | some k, _ => grouped k (cs.length + 1) lines.flatten
      | none, some k => (grouped k (cs.length + 1) lines).map List.flatten
      | none, none => if lines.flatten.isEmpty then [] else [lines.flatten]
    let groups := if groups.isEmpty && !q.needsWords then [[]] else groups
    return groups.map (command ++ ·)
where
  /-- Pieces without an empty one at the end. -/
  dropLastEmpty (ps : List (List Char)) : List (List Char) :=
    match ps.reverse with
    | [] :: before => before.reverse
    | _ => ps

/-- What `env` changes: the variables, and the command that sees them. -/
structure Changed where
  bare : Bool := false
  removed : List String := []
  words : List String := []
  command : List String := []
  fault : Option String := none

/-- Reads the arguments of `env`. -/
def changedFrom : (steps : Nat) → Changed → List String → Changed
  | 0, c, _ => c
  | n + 1, c, words =>
    match words with
    | "-i" :: rest | "-" :: rest | "--ignore-environment" :: rest =>
      changedFrom n { c with bare := true } rest
    | "-u" :: name :: rest => changedFrom n { c with removed := name :: c.removed } rest
    | "--" :: rest => changedFrom n c rest
    | word :: rest =>
      match dropStart? "--unset=".toList word.toList, word.toList with
      | some name, _ => changedFrom n { c with removed := String.ofList name :: c.removed } rest
      | none, '-' :: l :: more =>
        if l == 'u' then changedFrom n { c with removed := String.ofList more :: c.removed } rest
        else if l == '-' then { c with fault := some s!"unrecognized option '{word}'" }
        else { c with fault := some s!"invalid option -- '{String.singleton l}'" }
      | none, cs =>
        if cs.contains '=' then changedFrom n { c with words := c.words ++ [word] } rest
        else { c with command := word :: rest }
    | [] => c

/-- The variables that a program sees. -/
def Changed.entries (c : Changed) (m : Machine) : List (String × String) :=
  let kept := if c.bare then [] else m.environment.filter fun (k, _) => !c.removed.contains k
  let named := c.words.filterMap fun w =>
    (splitOnce '=' w.toList).map fun (k, v) => (String.ofList k, String.ofList v)
  (named.foldl (fun (t : Table String) (k, v) => t.insert k v) (Table.ofList kept)).entries

/-- Makes programs see other variables. -/
def Changed.onMachine (c : Changed) (m : Machine) : Machine :=
  { m with vars := Table.ofList ((c.entries m).map fun (k, v) =>
      (k, ({ value := some v, exported := true } : Variable))) }

/-! ## Scripts -/

mutual

/-- Runs a script. `tested` tells whether what it comes to is looked at. -/
def execute : (steps : Nat) → (tested : Bool) → Script → Run Unit
  | 0, _, _ => throw .endless
  | n + 1, tested, script => do
    receive n
    executeHere n tested script
    receive n

/-- Runs the scripts that are remembered for signals that arrived, or ends. -/
def receive : (steps : Nat) → Run Unit
  | 0 => throw .endless
  | n + 1 => do
    let g ← get
    match g.signals.find? fun s => s.process == g.machine.self && s.time ≤ g.time with
    | none => return
    | some s =>
      set { g with signals := g.signals.erase s }
      match Sending.action? g.machine s.signal with
      | some action =>
        if !action.isEmpty then
          let status := g.machine.status
          runText n false { text := action.toList }
          modify (·.withStatus status)
      | none => if Sending.isDeadly s.signal then throw (.killed s.signal)
      receive n

/-- Runs a script between the signals. -/
def executeHere : (steps : Nat) → (tested : Bool) → Script → Run Unit
  | 0, _, _ => throw .endless
  | n + 1, tested, script => do
    match script with
    | .nothing => return
    | .simple line assignments words redirects =>
      executeSimple n tested line assignments words redirects
      strictly tested
    | .seq a b =>
      execute n tested a
      execute n tested b
    | .both a b =>
      execute n true a
      if (← get).machine.status = 0 then execute n tested b
    | .either a b =>
      execute n true a
      if (← get).machine.status != 0 then execute n tested b
    | .negate a =>
      execute n true a
      modify fun g => g.withStatus (if g.machine.status = 0 then 1 else 0)
    | .pipe commands =>
      executePipe n commands
      strictly tested
    | .branch condition yes no =>
      execute n true condition
      if (← get).machine.status = 0 then execute n tested yes
      else
        match no with
        | .nothing => modify (·.withStatus 0)
        | no => execute n tested no
    | .loop until_ condition body =>
      let outside := (← get).loops
      modify fun g => { g with loops := outside + 1 }
      always (executeLoop n tested until_ condition body 0)
        (modify fun g => { g with loops := outside })
    | .each line name words body =>
      modify fun g => { g with line }
      let fields ← expandFields (takingWith n) n words
      let outside := (← get).loops
      modify fun g => { g with loops := outside + 1 }
      always (executeEach n tested name fields body 0) (modify fun g => { g with loops := outside })
    | .choose line word arms =>
      modify fun g => { g with line }
      let text ← expandText (takingWith n) n false word
      executeArms n tested text arms
    | .subshell line a redirects =>
      modify fun g => { g with line }
      let directed ← directAll (takingWith n) n redirects
      let (status, killedBy) ← separately (finish n) do
        if !(← redirectAll directed) then throw .failed
        execute n tested a
      sayObituary killedBy
      modify (·.withStatus status)
      strictly tested
    | .background line a =>
      modify fun g => { g with line }
      executeBeside n a
    | .redirected line a redirects =>
      modify fun g => { g with line }
      let streams := (← get).machine.streams
      let directed ← directAll (takingWith n) n redirects
      always (do
        if ← redirectAll directed then execute n tested a
        else modify (·.withStatus 2)) (restoreStreams streams)
    | .define _ name body =>
      modify fun g =>
        { g with machine := { g.machine with functions := g.machine.functions.insert name body } }
      modify (·.withStatus 0)

/-- Runs a pipeline: every command in a process of its own, which reads what the one in front of it
printed. -/
def executePipe : (steps : Nat) → List Script → Run Unit
  | 0, _ => throw .endless
  | n + 1, commands => do
    for c in commands do
      match c with
      | .simple _ _ (w :: _) _ =>
        match (plain? w).filter fun name => isName name.toList with
        | some name =>
          if find (← get).machine true name matches .program then Builtins.remember name
        | none => pure ()
      | _ => pure ()
    let start := (← get).time
    executeStages n start start commands

/-- Runs the commands of a pipeline from one on; `latest` is when the last of those in front
ended. -/
def executeStages : (steps start latest : Nat) → List Script → Run Unit
  | 0, _, _, _ => throw .endless
  | _, _, _, [] => return
  | n + 1, _, latest, [last] => do
    let (status, killedBy) ← separately (finish n) (execute n false last)
    sayObituary killedBy
    modify fun g => { g.withStatus status with time := max g.time latest }
  | n + 1, start, latest, c :: rest => do
    let before ← get
    let (text, ended) ← takenText (do
      let _ ← separately (finish n) (execute n false c))
    if ended == some .stuck then throw .stuck
    let g ← get
    let latest := max latest g.time
    let g := { g with time := if text.isEmpty then start else g.time }
    set (g.withInput text.toList)
    always (executeStages n start latest rest) (restoreStreams before.machine.streams)

/-- Runs a script in a process beside the shell. -/
def executeBeside : (steps : Nat) → Script → Run Unit
  | 0, _ => throw .endless
  | n + 1, a => do
    let before ← get
    let process := before.processes + 1
    set { (before.withInput []) with process }
    let result ← tryCatch (do
      let r ← separately (finish n) (execute n false a)
      return some r) fun _ => pure none
    let after ← get
    let (number, machine) := before.machine.newNumber
    let stages := match a with
      | .pipe commands => commands.length
      | _ => 1
    let job : Job :=
      match result with
      | some (status, killedBy) => { number, process, status, ends := after.time, killedBy, stages }
      | none => { number, process, status := 0, ends := Builtins.never, stages }
    set { after with
      machine := { machine with jobs := job :: machine.jobs, recent := some process, status := 0 }
      disk := { after.disk with here := before.disk.here }
      loops := before.loops
      line := before.line
      command := before.command
      living := before.living
      taken := before.taken
      time := before.time
      process := before.process }

/-- Takes what a script prints when it runs in a process of its own. -/
def takingWith : (steps : Nat) → Taking
  | 0, _ => throw .endless
  | n + 1, script => do
    let before ← get
    let status ← pure before.machine.status
    let (text, ended) ← takenText (do
      let (status, _) ← separately (finish n) (execute n false script)
      modify (·.withStatus status))
    match ended with
    | some s => throw s
    | none =>
      modify fun g => { g.withStatus status with taken := some g.machine.status }
      return text

/-- Runs what is to run at the end of a process. -/
def finish : (steps : Nat) → Run Unit
  | 0 => throw .endless
  | n + 1 => do
    let g ← get
    match g.machine.traps.lookup 0 with
    | none => return
    | some action =>
      let status := g.machine.status
      set { g with
        machine := { g.machine with traps := g.machine.traps.filter fun (k, _) => k != 0 }
        command := none }
      match ← ending (runText n false { text := action.toList }) with
      | some .exit => return
      | some .stuck => throw .stuck
      | some .endless => throw .endless
      | _ => modify (·.withStatus status)

/-- Runs a text that holds scripts, line after line. -/
def runText : (steps : Nat) → (tested : Bool) → Reading → Run Unit
  | 0, _, _ => throw .endless
  | n + 1, tested, r => do
    let m := (← get).machine
    let here := { r with
      aliases := m.aliases, documents := m.documents, next := m.nextDocument }
    match readLine here with
    | .finished => return
    | .more => return
    | .bad line what =>
      modify fun g => { g with line }
      fail ("Syntax error: " ++ what)
    | .script script rest =>
      if m.has 'v' then
        sayError (String.ofList (r.text.take (r.text.length - rest.text.length)))
      modify fun g =>
        { g with machine := { g.machine with
            documents := rest.documents, nextDocument := rest.next } }
      if !m.has 'n' then execute n tested script
      runText n tested rest

/-- Runs a text as one command: nothing in it succeeds. -/
def runWhole : (steps : Nat) → (tested : Bool) → (text : String) → Run Nat
  | 0, _, _ => throw .endless
  | n + 1, tested, text => do
    match readLine { text := text.toList } with
    | .finished => return 0
    | _ =>
      runText n tested { text := text.toList }
      return (← get).machine.status

/-- Makes assignments; what the variables were before is remembered if the assignments only count
for a command, whose program sees them. -/
def executeAssignments : (steps : Nat) → (passing exports : Bool) → List (String × Word) →
    Run (List (String × Option Variable) × List String)
  | 0, _, _, _ => throw .endless
  | _, _, _, [] => return ([], [])
  | n + 1, passing, exports, (name, word) :: rest => do
    let value ← expandText (takingWith n) n true word
    let old := (← get).machine.vars.get? name
    assignVar name value
    if passing || exports then
      Builtins.onMachine fun m => m.mark name ({ · with exported := true })
    let (saved, shown) ← executeAssignments n passing exports rest
    return ((if passing then saved ++ [(name, old)] else saved), (name ++ "=" ++ value) :: shown)

/-- Runs a simple command. -/
def executeSimple : (steps : Nat) → (tested : Bool) → (line : Nat) → List (String × Word) →
    List Word → List Redirect → Run Unit
  | 0, _, _, _, _, _ => throw .endless
  | n + 1, tested, line, assignments, words, redirects => do
    modify fun g => { g with line, taken := none }
    let taking := takingWith n
    let fields ← expandCommand taking n [] words
    let m := (← get).machine
    let (command, cut) := bare m (fields.length + 1) false fields
    let found := (command.head?).map (find m (!cut))
    let isSpecial := !cut && (match found with
      | some (.own name) => Builtins.special.contains name
      | _ => false)
    let isExec := match found with
      | some (.own name) => name == "exec"
      | _ => false
    let passing := !fields.isEmpty && !isSpecial
    let streams := m.streams
    let directed ← directAll taking n redirects
    let ended ← ending (do
      if ← redirectAll directed then
        let (saved, shown) ← executeAssignments n passing (isExec && 1 < command.length) assignments
        always (do
          trace taking n streams (shown ++ fields)
          match command with
          | [] => modify fun g => g.withStatus (g.taken.getD 0)
          | name :: args => executeNamed n tested isSpecial (find m (!cut) name) name args)
          (restoreVars saved)
      else
        modify (·.withStatus 2)
        if isSpecial then throw .failed)
    let keeps := isExec && command.length = 1 && ended.isNone && (← get).machine.status = 0
    if !keeps then restoreStreams streams
    match ended with
    | some s => throw s
    | none => return

/-- Runs a function, a command of the shell's own or a program. -/
def executeNamed : (steps : Nat) → (tested isSpecial : Bool) → Found → String → List String →
    Run Unit
  | 0, _, _, _, _, _ => throw .endless
  | n + 1, tested, isSpecial, found, name, args => do
    match found with
    | .function body => executeFunction n tested body args
    | .own name =>
      let outer := (← get).command
      modify fun g => { g with command := some name, lost := false }
      let ended ← ending (do
        let status ← executeOwn n tested name args
        let g ← get
        if g.lost && name != "eval" && name != "." then
          Builtins.warn (name ++ ": I/O error")
          modify (·.withStatus (status ||| 1))
        else modify (·.withStatus status))
      modify fun g => { g with command := outer, lost := false }
      match ended with
      | none => return
      | some .failed => if isSpecial then throw .failed else modify (·.withStatus 2)
      | some s => throw s
    | .program =>
      Builtins.remember name
      let (status, killedBy) ← separately (pure ()) (do
        let status ← executeProgram n name args
        modify (·.withStatus status))
      sayObituary killedBy
      modify (·.withStatus status)

/-- Runs a function. -/
def executeFunction : (steps : Nat) → (tested : Bool) → Script → List String → Run Unit
  | 0, _, _, _ => throw .endless
  | n + 1, tested, body, args => do
    let g ← get
    let m := g.machine
    set { g with
      machine := { m with args, outer := some [], optionIndex := 1, optionOffset := none }
      loops := 0 }
    let ended ← ending (execute n tested body)
    restoreVars ((← get).machine.outer.getD [])
    modify fun g' =>
      { g' with
        machine := { g'.machine with
          args := m.args, outer := m.outer, optionIndex := m.optionIndex
          optionOffset := m.optionOffset }
        loops := g.loops }
    match ended with
    | none | some .returned => return
    | some s => throw s

/-- Runs a command of the shell's own; the exit status. -/
def executeOwn : (steps : Nat) → (tested : Bool) → String → List String → Run Nat
  | 0, _, _, _ => throw .endless
  | n + 1, tested, name, args => do
    match name with
    | "eval" => runWhole n tested (joinStrings " " args)
    | "." => executeFile n args
    | "command" =>
      let (given, args) ← Builtins.withOptions "pvV" args
      match given.getLast?.map Prod.fst, args with
      | some 'v', name :: _ => Builtins.describeBriefly name
      | some 'V', name :: _ => Builtins.describe name
      | _, _ => return 0
    | "exec" =>
      match args with
      | [] => return 0
      | command :: args =>
        let status ← executeProgram n command args
        modify fun g =>
          if status = 127 || status = 126 then g.withStatus status
          else
            let traps := g.machine.traps.filter fun (k, _) => k != 0
            { g with machine := { g.machine with traps } }.withStatus status
        throw .exit
    | _ =>
      match Builtins.table.lookup name with
      | some f => f args
      | none => return 0

/-- Runs the script in a file within this shell. -/
def executeFile : (steps : Nat) → List String → Run Nat
  | 0, _ => throw .endless
  | n + 1, args => do
    let (_, args) ← Builtins.withOptions "" args
    match args with
    | [] => return 0
    | name :: _ =>
      let g ← get
      let isFile := fun (path : String) =>
        match Files.find? g.disk path with
        | some (.file _) => true
        | _ => false
      let path := if name.toList.contains '/' then some name
        else ((Programs.searchPath g.machine).map fun dir =>
          if dir.isEmpty then name else Tool.below dir name).find? isFile
      match path with
      | none => fail (name ++ ": not found")
      | some path =>
        let text ← match streamOfPath? path with
          | some k => Tool.drain k
          | none => pure (Files.read g.disk path)
        match text with
        | .error f => fail s!"cannot open {path}: {openFault false f}"
        | .ok text =>
          modify fun g => { g with command := some path }
          match readLine { text } with
          | .finished => return 0
          | _ =>
            match ← ending (runText n false { text }) with
            | none | some .returned => return (← get).machine.status
            | some s => throw s

/-- Runs a program of this machine, or a script; the exit status. -/
def executeProgram : (steps : Nat) → String → List String → Run Nat
  | 0, _, _ => throw .endless
  | n + 1, command, args => do
    let g ← get
    let path := if command.toList.contains '/' then some command else Programs.find? g command
    match path with
    | none =>
      Builtins.warn (command ++ ": not found")
      return 127
    | some path => executeAt n path command args

/-- Runs what is at a path. -/
def executeAt : (steps : Nat) → (path command : String) → List String → Run Nat
  | 0, _, _, _ => throw .endless
  | n + 1, path, command, args => do
    let g ← get
    let missing := do
      Builtins.warn (command ++ ": not found")
      return 127
    match Programs.ofPath? g.disk path, Files.locate g.disk path with
    | some name, _ => executeTool n name command args
    | none, .error f =>
      if f == .noEntry || f == .notDirectory then missing
      else
        Builtins.warn (command ++ ": " ++ faultText f)
        return 126
    | none, .ok at_ =>
      match g.disk.node? at_ with
      | none => missing
      | some .shell => executeTool n "sh" command args
      | some node =>
        if node == .directory || !Files.isProgram g.disk at_ then
          Builtins.warn (command ++ ": Permission denied")
          return 126
        let text := Files.bytesAt g.disk at_
        match interpreter? text with
        | none => runShell n ⟨[], path, args, some (String.ofList text)⟩
        | some (program, arg) =>
          if (Programs.ofPath? g.disk program).isNone &&
              (Files.find? g.disk program).isNone then missing
          else executeProgram n program (arg.toList ++ path :: args)

/-- Runs a shell for a script; its exit status. -/
def runShell : (steps : Nat) → Started → Run Nat
  | 0, _ => throw .endless
  | n + 1, s => do
    let g ← get
    let machine := Machine.started g s.name s.args
    set { g with machine := { machine with options := s.options }, line := 1, command := none }
    let text ← match s.text with
      | some text => pure text.toList
      | none => Tool.input
    let ended ← ending (runText n false { text })
    match ended with
    | some .stuck => throw .stuck
    | some .endless => throw .endless
    | some (.killed k) => throw (.killed k)
    | _ =>
      finish n
      return (← get).machine.status % 256

/-- Runs a program by its name. -/
def executeTool : (steps : Nat) → (name command : String) → List String → Run Nat
  | 0, _, _, _ => throw .endless
  | n + 1, name, command, args => do
    let called := (← get).called
    let isNamed := command.toList.contains '/' && name != "awk" && name != "mawk"
    modify fun g => { g with called := if isNamed then some (name, command) else none }
    let status ← executeCalled n name command args
    modify fun g => { g with called }
    return status

/-- Runs a program under the name that it was called by. -/
def executeCalled : (steps : Nat) → (name command : String) → List String → Run Nat
  | 0, _, _, _ => throw .endless
  | n + 1, name, command, args => do
    match Programs.simple.lookup name with
    | some tool => tool args
    | none =>
      match name with
      | "sh" | "dash" | "bash" =>
        match startedFor command (args.length + 1) [] false args with
        | .error what =>
          sayError s!"{command}: 0: {what}\n"
          return 2
        | .ok (s, isFile) =>
          if isFile then
            match ← Tool.contents s.name with
            | .ok cs => runShell n { s with text := some (String.ofList cs) }
            | .error f =>
              sayError s!"{command}: 0: cannot open {s.name}: {openFault false f}\n"
              return 2
          else runShell n s
      | "env" =>
        let c := changedFrom (args.length + 1) {} args
        match c.fault, c.command with
        | some what, _ => Tool.misuse "env" what 125
        | none, [] =>
          let entries := c.entries (← get).machine
          say (String.join (entries.map fun (k, v) => k ++ "=" ++ v ++ "\n"))
          return 0
        | none, command :: rest =>
          Builtins.onMachine c.onMachine
          startOther n "env" command rest
      | "xargs" => executeGathered n args
      | "find" =>
        Tool.find (fun words => do
          let (status, _) ← separately (pure ()) (do
            let status ← startOther n "find" (words.headD "") words.tail
            modify (·.withStatus status))
          return status) args
      | "awk" | "mawk" =>
        let child := fun (command : String) (before : Run Unit) =>
          separately (pure ()) (do
            before
            let status ← startOther n name "/bin/sh" ["-c", command]
            modify (·.withStatus status))
        let statusOf := fun (status : Nat) (killedBy : Option Nat) =>
          match killedBy with
          | some k => 256 + k
          | none => status
        Tool.awk name
          { run := fun command => do
              let (status, killedBy) ← child command (pure ())
              return statusOf status killedBy
            take := fun command => do
              let (text, ended) ← takenText (do
                let (status, killedBy) ← child command (pure ())
                modify (·.withStatus (statusOf status killedBy)))
              match ended with
              | some s => throw s
              | none => return (text, (← get).machine.status)
            feed := fun command text => do
              let (status, killedBy) ← child command (modify (·.withInput text.toList))
              return statusOf status killedBy }
          args
      | "nohup" =>
        match args with
        | [] =>
          sayError "nohup: missing operand\nTry 'nohup --help' for more information.\n"
          return 125
        | command :: rest => startOther n "nohup" command rest
      | "nice" =>
        match args with
        | [] =>
          say "0\n"
          return 0
        | "-n" :: _ :: command :: rest => startOther n "nice" command rest
        | command :: rest => startOther n "nice" command rest
      | "setsid" =>
        match args with
        | [] => return 1
        | command :: rest => startOther n "setsid" command rest
      | "timeout" =>
        match timeoutSpec.parse (args.length + 1) args with
        | .error what => Tool.misuse "timeout" what 125
        | .ok (given, limit :: command :: rest) =>
          let signal := (Tool.valueOf? given 's').getD "TERM"
          match Tool.millis? limit, Sending.number? signal with
          | none, _ => Tool.misuse "timeout" s!"invalid time interval {Tool.quotedName limit}" 125
          | _, none => Tool.misuse "timeout" s!"{Tool.quotedName signal}: invalid signal" 125
          | some limit, some signal =>
            let start := (← get).time
            let status ← startOther n "timeout" command rest
            let g ← get
            if 0 < limit && start + limit < g.time then
              set { g with
                time := start + limit
                written := g.written.filter fun w => w.time ≤ start + limit }
              if signal = 9 then throw (.killed 9)
              return if Tool.has given 'p' then 128 + signal else 124
            else return status
        | .ok _ =>
          sayError "Try 'timeout --help' for more information.\n"
          return 125
      | "which" =>
        let g ← get
        let mut missing := args.isEmpty
        for name in args.filter (!·.startsWith "-") do
          let path := if name.toList.contains '/' then
              (if Programs.isRunnable g.disk name then some name else none)
            else Programs.find? g name
          match path with
          | some p => say (p ++ "\n")
          | none => missing := true
        return (if missing then 1 else 0)
      | "pwd" =>
        let g ← get
        let shown := if args.contains "-L" then (g.machine.value? "PWD").getD g.realDirectory
          else g.realDirectory
        say (shown ++ "\n")
        return 0
      | _ => return 0

/-- Runs a program on behalf of another one, which reports a program that is not there. -/
def startOther : (steps : Nat) → (name command : String) → List String → Run Nat
  | 0, _, _, _ => throw .endless
  | n + 1, name, command, args => do
    let g ← get
    let lead := if name == "nohup" || name == "timeout" then "failed to run command " else ""
    let shown := if name == "xargs" then command else Tool.quotedName command
    let path := if command.toList.contains '/' then some command
      else Programs.findFor? g command
    match path.filter fun p => Programs.isRunnable g.disk p || (Files.find? g.disk p).isSome with
    | none =>
      sayError s!"{name}: {lead}{shown}: No such file or directory\n"
      return 127
    | some path =>
      if !Programs.isRunnable g.disk path then
        sayError s!"{name}: {lead}{shown}: Permission denied\n"
        return 126
      else executeAt n path command args

/-- Runs a command for the words of a text. -/
def executeGathered : (steps : Nat) → List String → Run Nat
  | 0, _ => throw .endless
  | n + 1, args => do
    match gatheringSpec.parse (args.length + 1) args with
    | .error what => Tool.misuse "xargs" what
    | .ok (given, command) =>
      let (given, warnings) := agreeing given
      sayError (String.join warnings)
      let count := fun (c : Char) => (Tool.valueOf? given c).bind fun w => Number.digits? w.toList
      let q : Gathering :=
        { most := count 'n', lines := count 'L'
          mark := if Tool.has given 'i' then some "\x7b\x7d" else Tool.valueOf? given 'I'
          separator := if Tool.has given '0' then some '\x00'
            else (Tool.valueOf? given 'd').bind separatorOf
          needsWords := Tool.has given 'r', shows := Tool.has given 't' }
      match gatheredCommands q command (← Tool.input) with
      | .error mark =>
        let kind := if mark == "'" then "single" else "double"
        sayError (s!"xargs: unmatched {kind} quote; by default quotes are special to xargs " ++
          "unless you use the -0 option\n")
        return 1
      | .ok commands =>
        modify fun g => g.withInput []
        let mut status := 0
        for c in commands do
          if q.shows then sayError (joinStrings " " c ++ "\n")
          let (s, _) ← separately (pure ()) (do
            let s ← startOther n "xargs" (c.headD "") c.tail
            modify (·.withStatus s))
          if s = 255 then
            sayError ("xargs: " ++ c.headD "" ++ ": exited with status 255; aborting\n")
            return 124
          if s = 127 || s = 126 then return s
          if s != 0 then status := 123
        return status

/-- Runs a loop; `status` is that of its last turn. -/
def executeLoop : (steps : Nat) → (tested until_ : Bool) → Script → Script → (status : Nat) →
    Run Unit
  | 0, _, _, _, _, _ => throw .endless
  | n + 1, tested, until_, condition, body, status => do
    let ended ← ending (execute n true condition)
    if ended.isSome then
      if ← afterTurn ended then executeLoop n tested until_ condition body status
      else modify (·.withStatus status)
    else if (((← get).machine.status = 0) = until_) then modify (·.withStatus status)
    else
      let ended ← ending (execute n tested body)
      let status := (← get).machine.status
      if ← afterTurn ended then executeLoop n tested until_ condition body status

/-- Runs a body for every value of a variable. -/
def executeEach : (steps : Nat) → (tested : Bool) → String → List String → Script →
    (status : Nat) → Run Unit
  | 0, _, _, _, _, _ => throw .endless
  | _, _, _, [], _, status => modify (·.withStatus status)
  | n + 1, tested, name, value :: rest, body, _ => do
    assignVar name value
    let ended ← ending (execute n tested body)
    if ← afterTurn ended then
      executeEach n tested name rest body (← get).machine.status

/-- Runs the first arm with a pattern that fits a text. -/
def executeArms : (steps : Nat) → (tested : Bool) → String → List (List Word × Script) → Run Unit
  | 0, _, _, _ => throw .endless
  | _, _, _, [] => modify (·.withStatus 0)
  | n + 1, tested, text, (patterns, body) :: rest => do
    if ← executePatterns n text patterns then
      match body with
      | .nothing => modify (·.withStatus 0)
      | body => execute n tested body
    else executeArms n tested text rest

/-- Whether one of the patterns fits a text. -/
def executePatterns : (steps : Nat) → String → List Word → Run Bool
  | 0, _, _ => throw .endless
  | _, _, [] => return false
  | n + 1, text, w :: ws => do
    let tokens ← expandPattern (takingWith n) n w
    if Glob.fits tokens text.toList then return true else executePatterns n text ws

end

/-! ## The shell as a process -/

/-- How many steps a command may take. -/
def maxSteps : Nat := 100000

/-- What becomes of the shell when a command ended it. -/
def ended (signal : Signal) : Run Unit := do
  let exit := fun (status : Nat) => modify fun (g : Going) =>
    { g with machine := { g.machine with exited := some (status % 256), pending := [] } }
  let wait := modify fun (g : Going) => { g with machine := { g.machine with stuck := true } }
  match signal with
  | .stuck | .endless => wait
  | .killed n => exit (128 + n)
  | _ =>
    match ← ending (finish maxSteps) with
    | some .stuck | some .endless => wait
    | _ => exit (← get).machine.status

/-- Runs the complete commands of the text that the shell was fed with. -/
def runPending : (steps : Nat) → Run Unit
  | 0 => return
  | n + 1 => do
    let m := (← get).machine
    let r : Reading :=
      { text := m.pending, final := false, line := m.line, aliases := m.aliases
        documents := m.documents, next := m.nextDocument }
    match readLine r with
    | .more => return
    | .finished => Builtins.onMachine fun m => { m with pending := [] }
    | .bad line what =>
      modify fun g => { g with line, machine := { g.machine with pending := [] } }
      match ← ending (fail ("Syntax error: " ++ what)) with
      | some s => ended s
      | none => return
    | .script script rest =>
      let left := rest.text ++ rest.enclosing.flatMap (·.text)
      if m.has 'v' then
        sayError (String.ofList (m.pending.take (m.pending.length - left.length)))
      Builtins.onMachine fun m =>
        { m with
          pending := left, line := rest.line, documents := rest.documents
          nextDocument := rest.next }
      let result ← if m.has 'n' then pure none else ending (execute maxSteps false script)
      match result with
      | none => runPending n
      | some s => ended s

end Playbook.Shell
