/-
  The program that goes through directories and tests, shows or treats what it finds there.
-/
import Playbook.Shell.Tool.Files
import Playbook.Shell.Expression

namespace Playbook.Shell.Tool

open Playbook.Text

namespace Finding

/-! ## Conditions -/

/-- How a number is compared with the one that is asked for. -/
inductive Measure where
  | less (n : Nat)
  | more (n : Nat)
  | just (n : Nat)
  deriving Repr, DecidableEq

/-- Whether a number is as it is asked for. -/
def Measure.fits (m : Measure) (k : Nat) : Bool :=
  match m with
  | less n => k < n
  | more n => n < k
  | just n => k == n

/-- The measure that a text spells. -/
def Measure.ofChars? : List Char → Option Measure
  | '-' :: ds => (Number.digits? ds).map .less
  | '+' :: ds => (Number.digits? ds).map .more
  | ds => (Number.digits? ds).map .just

/-- Which permissions a file needs to have. -/
inductive Permission where
  | just (mode : Nat)
  | all (mode : Nat)
  | any (mode : Nat)
  deriving Repr, DecidableEq

/-- A condition on what was found, or something that is done with it. -/
inductive Condition where
  | always
  | never
  | name (ignoreCase : Bool) (form : String)
  | path (ignoreCase : Bool) (form : String)
  | regex (e : Expression) (ignoreCase : Bool)
  | kind (letters : List Char)
  | empty
  | size (unit : Nat) (m : Measure)
  | links (m : Measure)
  /-- How many days or minutes ago it was changed. -/
  | age (minutes : Bool) (m : Measure)
  /-- Whether it was changed after a moment, in milliseconds. -/
  | newer (t : Int)
  | permission (p : Permission)
  | owner (isRoot : Bool)
  | executable
  | readable
  | same (at_ : Place)
  | print (ended : String)
  | printForm (form : String)
  | prune
  | quit
  | delete
  /-- Runs a command for each place, or for many of them. -/
  | run (words : List String) (many : Bool)
  | both (a b : Condition)
  | either (a b : Condition)
  | negation (a : Condition)
  | last (a b : Condition)
  deriving Inhabited

/-- Whether a condition does something. -/
def Condition.acts : Condition → Bool
  | .print _ | .printForm _ | .delete | .run _ _ | .quit => true
  | .both a b | .either a b | .last a b => a.acts || b.acts
  | .negation a => a.acts
  | _ => false

/-- Whether what is in a directory is treated before it. -/
def Condition.deepFirst : Condition → Bool
  | .delete => true
  | .both a b | .either a b | .last a b => a.deepFirst || b.deepFirst
  | .negation a => a.deepFirst
  | _ => false

/-- What the search as a whole is asked for. -/
structure Search where
  most : Option Nat := none
  least : Nat := 0
  deepFirst : Bool := false
  follows : Bool := false

/-! ## Reading conditions -/

/-- The words that are left, and what was found out about the search. -/
structure Reading where
  words : List String
  search : Search := {}

abbrev Reader := StateT Reading (Except String)

/-- The next word. -/
def peek : Reader (Option String) := do return (← get).words.head?

/-- Leaves out the next word. -/
def skip : Reader Unit := modify fun r => { r with words := r.words.tail }

/-- The word behind a condition's name. -/
def argument (name : String) : Reader String := do
  match ← peek with
  | some w =>
    skip
    return w
  | none => throw s!"missing argument to `{name}'"

/-- The measure behind a condition's name. -/
def measure (name : String) : Reader Measure := do
  let w ← argument name
  match Measure.ofChars? w.toList with
  | some m => return m
  | none => throw s!"non-numeric argument to {name}: '{w}'"

/-- The size that a text spells: how many units of how many bytes. -/
def sizeOf? (text : String) : Option (Nat × Measure) :=
  let cs := text.toList
  let (ds, unit) := match cs.getLast? with
    | some 'c' => (cs.dropLast, 1)
    | some 'w' => (cs.dropLast, 2)
    | some 'b' => (cs.dropLast, 512)
    | some 'k' => (cs.dropLast, 1024)
    | some 'M' => (cs.dropLast, 1024 * 1024)
    | some 'G' => (cs.dropLast, 1024 * 1024 * 1024)
    | _ => (cs, 512)
  (Measure.ofChars? ds).map fun m => (unit, m)

/-- The permissions that a text asks for. -/
def permissionOf? (text : String) : Option Permission :=
  let mode := fun (cs : List Char) => modeOf? 0 0 false (String.ofList cs)
  match text.toList with
  | '-' :: cs => (mode cs).map .all
  | '/' :: cs => (mode cs).map .any
  | cs => (mode cs).map .just

/-- The words of a command up to its end; the second part tells whether it is run for many places
at once. -/
def commandWords (name : String) : (steps : Nat) → List String → Reader (List String × Bool)
  | 0, _ => throw s!"missing argument to `{name}'"
  | n + 1, seen => do
    match ← peek with
    | none => throw s!"missing argument to `{name}'"
    | some ";" =>
      skip
      if seen.isEmpty then throw s!"missing argument to `{name}'"
      return (seen, false)
    | some "+" =>
      skip
      if seen.getLast? == some "\x7b\x7d" then
        if 1 < seen.count "\x7b\x7d" then
          throw s!"Only one instance of \x7b\x7d is supported with {name} ... +"
        return (seen.dropLast, true)
      commandWords name n (seen ++ ["+"])
    | some w =>
      skip
      commandWords name n (seen ++ [w])

/-- Changes what the search is asked for. -/
def onSearch (f : Search → Search) : Reader Unit := modify fun r => { r with search := f r.search }

/-- A number of levels. -/
def levels (name : String) : Reader Nat := do
  let w ← argument name
  match Number.digits? w.toList with
  | some n => return n
  | none => throw s!"Expected a positive decimal integer argument to {name}, but got '{w}'"

/-- The condition with a name. -/
def conditionNamed (d : Disk) (word : String) : Reader Condition := do
  match word with
  | "-true" => return .always
  | "-false" => return .never
  | "-name" => return .name false (← argument word)
  | "-iname" => return .name true (← argument word)
  | "-path" | "-wholename" => return .path false (← argument word)
  | "-ipath" | "-iwholename" => return .path true (← argument word)
  | "-regex" | "-iregex" =>
    let ignoreCase := word == "-iregex"
    match Expression.ofText { ignoreCase } (← argument word).toList with
    | .ok (e, _) => return .regex e ignoreCase
    | .error what => throw s!"failed to compile regular expression: {what}"
  | "-type" | "-xtype" =>
    let text ← argument word
    let letters := text.toList.filter (· != ',')
    match letters.find? fun c => !("bcdpflsD".toList.contains c) with
    | some c => throw s!"Unknown argument to {word}: {String.singleton c}"
    | none => return .kind letters
  | "-empty" => return .empty
  | "-size" =>
    let text ← argument word
    match sizeOf? text with
    | some (unit, m) => return .size unit m
    | none =>
      let last := String.ofList (text.toList.getLast?.toList)
      throw s!"invalid -size type `{last}'"
  | "-links" => return .links (← measure word)
  | "-mtime" | "-atime" | "-ctime" => return .age false (← measure word)
  | "-mmin" | "-amin" | "-cmin" => return .age true (← measure word)
  | "-perm" =>
    let text ← argument word
    match permissionOf? text with
    | some p => return .permission p
    | none => throw s!"invalid mode {quotedName text}"
  | "-user" | "-group" | "-uid" | "-gid" =>
    let text ← argument word
    return .owner (text == "root" || text == "0")
  | "-executable" => return .executable
  | "-readable" | "-writable" => return .readable
  | "-newer" | "-anewer" | "-cnewer" | "-newermm" =>
    let text ← argument word
    match Files.locate d text with
    | .ok at_ =>
      if (d.node? at_).isSome then return .newer (Files.time d at_)
      else throw s!"{quotedName text}: No such file or directory"
    | .error f => throw s!"{quotedName text}: {faultText f}"
  | "-newermt" =>
    let text ← argument word
    match secondsOf? (Files.beginning / 1000) text with
    | some n => return .newer (n * 1000)
    | none => throw ("I cannot figure out how to interpret " ++ quotedName text ++
        " as a date or time")
  | "-samefile" =>
    let text ← argument word
    match Files.locate d text with
    | .ok at_ => return .same at_
    | .error f => throw s!"{quotedName text}: {faultText f}"
  | "-print" => return .print "\n"
  | "-print0" => return .print "\x00"
  | "-printf" => return .printForm (← argument word)
  | "-prune" => return .prune
  | "-quit" => return .quit
  | "-delete" =>
    onSearch ({ · with deepFirst := true })
    return .delete
  | "-depth" | "-d" =>
    onSearch ({ · with deepFirst := true })
    return .always
  | "-maxdepth" =>
    let n ← levels word
    onSearch ({ · with most := some n })
    return .always
  | "-mindepth" =>
    let n ← levels word
    onSearch ({ · with least := n })
    return .always
  | "-follow" =>
    onSearch ({ · with follows := true })
    return .always
  | "-xdev" | "-mount" | "-noleaf" | "-nowarn" | "-warn" => return .always
  | "-exec" | "-execdir" | "-ok" =>
    let (words, many) ← commandWords word ((← get).words.length + 1) []
    return .run words many
  | _ => throw s!"unknown predicate `{word}'"

mutual

/-- Conditions of which the last one counts. -/
def listed (d : Disk) : (steps : Nat) → Reader Condition
  | 0 => throw "invalid expression"
  | n + 1 => do
    let a ← alternatives d n
    if (← peek) == some "," then
      skip
      return .last a (← listed d n)
    return a

/-- Conditions of which one has to hold. -/
def alternatives (d : Disk) : (steps : Nat) → Reader Condition
  | 0 => throw "invalid expression"
  | n + 1 => do
    let a ← conjunction d n
    match ← peek with
    | some w =>
      if w == "-o" || w == "-or" then
        skip
        if (← peek).isNone then throw s!"expected an expression after '{w}'"
        return .either a (← alternatives d n)
      return a
    | none => return a

/-- Conditions that all have to hold. -/
def conjunction (d : Disk) : (steps : Nat) → Reader Condition
  | 0 => throw "invalid expression"
  | n + 1 => do
    let a ← negation d n
    match ← peek with
    | none => return a
    | some w =>
      if w == "-a" || w == "-and" then
        skip
        if (← peek).isNone then throw s!"expected an expression after '{w}'"
        return .both a (← conjunction d n)
      else if ["-o", "-or", ",", ")"].contains w then return a
      else return .both a (← conjunction d n)

/-- A condition, perhaps negated, or conditions in parentheses. -/
def negation (d : Disk) : (steps : Nat) → Reader Condition
  | 0 => throw "invalid expression"
  | n + 1 => do
    match ← peek with
    | none => throw "invalid expression"
    | some w =>
      skip
      if w == "!" || w == "-not" then
        if (← peek).isNone then throw s!"expected an expression after '{w}'"
        return .negation (← negation d n)
      else if w == "(" then
        let missing := "invalid expression; expected to find a ')' but didn't see one. " ++
          "Perhaps you need an extra predicate after '('"
        if (← peek).isNone then throw missing
        if (← peek) == some ")" then
          throw "invalid expression; empty parentheses are not allowed."
        let inner ← listed d n
        if (← peek) != some ")" then throw missing
        skip
        return inner
      else if ["-o", "-or", "-a", "-and", ","].contains w then
        throw s!"invalid expression; you have used a binary operator '{w}' with nothing before it."
      else conditionNamed d w

end

/-! ## Searching -/

/-- A place that was found. -/
structure Hit where
  /-- The path that is shown, and the one from which the search began. -/
  path : String
  root : String
  at_ : Place
  node : Node
  depth : Nat

/-- A search while it goes on. -/
structure Progress where
  /-- Whether the place that is looked at is gone into. -/
  prunes : Bool := false
  stops : Bool := false
  failed : Bool := false
  /-- What commands are still to be run for. -/
  waiting : List (List String × List String) := []

abbrev Step := StateT Progress Run

/-- A fact about a place by its letter. -/
def fact (d : Disk) (p : Hit) (c : Char) : String :=
  match c with
  | 'p' => p.path
  | 'f' => if p.path == "/" then "/" else lastSegment p.path
  | 'h' =>
    match (Path.segments p.path).dropLast with
    | [] => "."
    | front => Path.ofSegments front
  | 'P' =>
    if p.path == p.root then ""
    else
      let rest := p.path.toList.drop p.root.length
      String.ofList (if rest.head? == some '/' then rest.tail else rest)
  | 'H' => p.root
  | 's' => toString (byteCount d p.at_)
  | 'm' => String.ofList (Nat.toDigits 8 (Files.mode d p.at_))
  | 'M' => kindLetter p.node ++ modeLetters (Files.mode d p.at_)
  | 'y' => if kindLetter p.node == "-" then "f" else kindLetter p.node
  | 'd' => toString p.depth
  | 'u' | 'g' => "root"
  | 'U' | 'G' => "0"
  | 'n' => toString (namesCount d p.at_)
  | 'i' => toString (serial d p.at_)
  | 'l' =>
    match p.node with
    | .link target => inward target
    | _ => ""
  | 't' => momentText (Files.time d p.at_ / 1000) "%a %b %e %H:%M:%S.0000000000 %Y".toList
  | '%' => "%"
  | c => "%" ++ String.singleton c

/-- The facts that a format asks for. -/
def facts (d : Disk) (p : Hit) : List Char → String
  | '%' :: 'T' :: c :: rest =>
    let seconds := Files.time d p.at_ / 1000
    (match c with
      | '@' => toString seconds ++ ".0000000000"
      | '+' => momentText seconds "%F+%T.0000000000".toList
      | 'S' | 'T' => momentText seconds ['%', c] ++ ".0000000000"
      | c => momentText seconds ['%', c]) ++ facts d p rest
  | '%' :: c :: rest => fact d p c ++ facts d p rest
  | '\\' :: c :: rest =>
    (match c with
      | 'n' => "\n"
      | 't' => "\t"
      | '0' => "\x00"
      | 'a' => "\x07"
      | 'r' => "\r"
      | '\\' => "\\"
      | c => "\\" ++ String.singleton c) ++ facts d p rest
  | c :: rest => String.singleton c ++ facts d p rest
  | [] => ""

/-- Whether a name fits a form. -/
def fitsForm (ignoreCase : Bool) (form name : String) : Bool :=
  let fold := fun (s : String) => if ignoreCase then onString lowerAscii s else s
  Glob.fits (Wildcard.tokens ((fold form).toList.map fun c => (c, false))) (fold name).toList

/-- A command's word with a path in place of its marks. -/
def withPath (path : List Char) : (steps : Nat) → List Char → List Char
  | 0, cs => cs
  | n + 1, '\x7b' :: '\x7d' :: rest => path ++ withPath path n rest
  | n + 1, c :: rest => c :: withPath path n rest
  | _, [] => []

/-- Checks a condition at a place, or does what it asks for. `exec` runs a command. -/
def check (exec : List String → Run Nat) (p : Hit) : Condition → Step Bool
  | .always => return true
  | .never => return false
  | .name i form => return fitsForm i form (fact {} p 'f')
  | .path i form => return fitsForm i form p.path
  | .regex e i =>
    let s : Expression.Subject := { text := p.path.toList.toArray, ignoreCase := i }
    return ((e.matchAt s 0).map (·.place)) == some p.path.length
  | .kind letters =>
    let letter := if kindLetter p.node == "-" then 'f' else ((kindLetter p.node).toList.headD 'f')
    return letters.contains letter
  | .empty => do
    let d := (← getThe Going).disk
    match p.node with
    | .directory => return (d.children p.at_).isEmpty
    | .file _ => return (Files.bytesAt d p.at_).isEmpty
    | _ => return false
  | .size unit m => do
    let size := byteCount (← getThe Going).disk p.at_
    return m.fits ((size + unit - 1) / unit)
  | .links m => do return m.fits (namesCount (← getThe Going).disk p.at_)
  | .age minutes m => do
    let g ← getThe Going
    let seconds := ((g.now - Files.time g.disk p.at_) / 1000).toNat
    if minutes then
      match m with
      | .less n => return seconds < 60 * n
      | .more n => return 60 * n < seconds
      | .just n => return seconds / 60 + 1 == n
    else return m.fits (seconds / 86400)
  | .newer t => do return t < Files.time (← getThe Going).disk p.at_
  | .permission q => do
    let mode := Files.mode (← getThe Going).disk p.at_
    match q with
    | .just n => return mode == n
    | .all n => return mode &&& n == n
    | .any n => return n == 0 || mode &&& n != 0
  | .owner isRoot => return isRoot
  | .executable => do
    return p.node == .directory || Files.isProgram (← getThe Going).disk p.at_
  | .readable => return true
  | .same at_ => do
    return (Files.twins (← getThe Going).disk at_).contains p.at_
  | .print ended => do
    liftM (say (p.path ++ ended))
    return true
  | .printForm form => do
    liftM (say (facts (← getThe Going).disk p form.toList))
    return true
  | .prune => do
    modify fun (g : Progress) => { g with prunes := true }
    return true
  | .quit => do
    modify fun (g : Progress) => { g with stops := true }
    return true
  | .delete => do
    let d := (← getThe Going).disk
    if p.path == "." then return true
    if p.node == .directory && !(d.children p.at_).isEmpty then
      liftM (report "find" s!"cannot delete {quotedName p.path}: Directory not empty")
      modify fun (g : Progress) => { g with failed := true }
      return false
    liftM (onDisk (Files.removed · p.at_))
    return true
  | .run words many => do
    if many then
      modify fun (g : Progress) =>
        { g with waiting :=
            if (g.waiting.lookup words).isSome then
              g.waiting.map fun (ws, paths) =>
                if ws == words then (ws, paths ++ [p.path]) else (ws, paths)
            else g.waiting ++ [(words, [p.path])] }
      return true
    else
      let words := words.map fun w =>
        String.ofList (withPath p.path.toList (w.length + 1) w.toList)
      let status ← liftM (exec words)
      return status == 0
  | .both a b => do
    if !(← check exec p a) then return false
    if (← getThe Progress).stops then return true
    check exec p b
  | .either a b => do
    if ← check exec p a then return true
    check exec p b
  | .negation a => do return !(← check exec p a)
  | .last a b => do
    let _ ← check exec p a
    check exec p b

/-- Goes through a place and all below it. -/
def visit (exec : List String → Run Nat) (s : Search) (c : Condition) : (steps : Nat) →
    Hit → Step Unit
  | 0, _ => return
  | n + 1, p => do
    if (← getThe Progress).stops then return
    modify fun (g : Progress) => { g with prunes := false }
    let here := fun (_ : Unit) => do
      if s.least ≤ p.depth then
        let _ ← check exec p c
    if !s.deepFirst then here ()
    let g ← getThe Progress
    if !g.stops && !(g.prunes && !s.deepFirst) && s.most.all (p.depth < ·) then
      let d := (← getThe Going).disk
      if p.node == .directory then
        for name in d.children p.at_ do
          let at_ := p.at_ ++ [name]
          match (← getThe Going).disk.node? at_ with
          | some node =>
            let (at_, node) := match node, s.follows, Files.locate d (pathOf at_) with
              | .link _, true, .ok there => (there, (d.node? there).getD node)
              | _, _, _ => (at_, node)
            visit exec s c n
              { path := below p.path (inward name), root := p.root, at_, node,
                depth := p.depth + 1 }
          | none => pure ()
    if s.deepFirst && !(← getThe Progress).stops then here ()

/-- Goes through all places that are named. -/
def visitAll (exec : List String → Run Nat) (s : Search) (c : Condition) : List String → Step Unit
  | [] => return
  | path :: rest => do
    if (← getThe Progress).stops then return
    match ← liftM (existing path s.follows) with
    | .ok (at_, node) => visit exec s c 256 { path, root := path, at_, node, depth := 0 }
    | .error f =>
      liftM (report "find" s!"{quotedName path}: {faultText f}")
      modify fun (g : Progress) => { g with failed := true }
    visitAll exec s c rest

/-- Whether a word begins the conditions. -/
def beginsConditions (word : String) : Bool :=
  (word.startsWith "-" && 1 < word.length) || word == "(" || word == "!"

end Finding

open Finding in
/-- Goes through directories. `exec` runs a command. -/
def find (exec : List String → Run Nat) : Tool := fun args => do
  let options := args.takeWhile fun w => ["-L", "-P", "-H"].contains w
  let args := args.drop options.length
  let paths := args.takeWhile (!beginsConditions ·)
  let words := args.drop paths.length
  let disk := (← get).disk
  let read : Finding.Reader Finding.Condition := if words.isEmpty then pure .always else do
    let c ← listed disk (8 * words.length + 8)
    match (← get).words with
    | [] => return c
    | ")" :: _ => throw "invalid expression; you have too many ')'"
    | w :: _ => throw s!"paths must precede expression: `{w}'"
  match read.run { words } with
  | .error what =>
    report "find" what
    return 1
  | .ok (c, r) =>
    let c := if c.acts then c else .both c (.print "\n")
    let s := { r.search with follows := r.search.follows || options.getLast? == some "-L" }
    let (_, g) ← (visitAll exec s c (if paths.isEmpty then ["."] else paths)).run {}
    let mut failed := g.failed
    for (words, places) in g.waiting do
      let status ← exec (words ++ places)
      if status != 0 then failed := true
    return statusOf failed

end Playbook.Shell.Tool
