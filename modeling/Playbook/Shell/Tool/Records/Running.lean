/-
  Running programs that go through records: what expressions come to and what statements do.
  Programs need not end, so running one is bounded by a number of steps.
-/
import Playbook.Shell.Tool.Records.State

namespace Playbook.Shell.Tool.Records

open Playbook.Text Playbook.Number

/-- What a program is run with. -/
structure Setup where
  program : Program
  commands : Commands

/-- A spot whose subscripts are known. -/
inductive Found where
  | named (name : String)
  | element (id : Nat) (key : Key)
  | field (n : Nat)

/-- The value at a spot. -/
def Found.value : Found → Step Value
  | .named name => read name
  | .element id key => do
    let (a, v) := (← store id).get key
    setStore id a
    return v
  | .field n => Records.field n

/-- Gives a spot a value. -/
def Found.give (v : Value) : Found → Step Unit
  | .named name => write name v
  | .element id key => do setStore id ((← store id).put key v)
  | .field n => setField n v

/-- A value of yes or no. -/
def truth (b : Bool) : Value := .number (if b then 1 else 0)

/-- The subject of a match. -/
def subject (text : String) : Expression.Subject := { text := text.toList.toArray }

/-- Whether an expression matches somewhere in a text. -/
def matches_ (e : Expression) (text : String) : Bool := (e.find (subject text) 0).isSome

/-! ## Functions of texts -/

/-- The part of a text that begins at a place and has a length. -/
def part (text : String) (start : Int) (length : Option Int) : String :=
  let first := max 1 start
  let cs := text.toList.drop (first - 1).toNat
  match length with
  | none => String.ofList cs
  | some k => String.ofList (cs.take (start + k - first).toNat)

/-- The place of a text in another one, counted from one; zero for none. -/
def placeOf (text : List Char) : (place : Nat) → List Char → Nat
  | place, cs =>
    if text.isPrefixOf cs then place
    else
      match cs with
      | [] => 0
      | _ :: rest => placeOf text (place + 1) rest

/-- A replacement for a text that was matched. Backslashes in front of its sign keep it as it is,
and each other. -/
def replacement (matched : List Char) : (backslashes : Nat) → List Char → List Char
  | k, [] => List.replicate k '\\'
  | k, '\\' :: rest => replacement matched (k + 1) rest
  | k, '&' :: rest =>
    List.replicate (k / 2) '\\' ++ (if k % 2 = 1 then ['&'] else matched) ++
      replacement matched 0 rest
  | k, c :: rest => List.replicate k '\\' ++ c :: replacement matched 0 rest

/-- A text with matches replaced from a place on, and how many there were. `past` is where the last
match ended. -/
def replaced (e : Expression) (s : Expression.Subject) (by_ : List Char) (everywhere : Bool) :
    (steps i : Nat) → (past : Option Nat) → List Char × Nat
  | 0, i, _ => ((s.text.extract i s.text.size).toList, 0)
  | n + 1, i, past =>
    match e.find s i with
    | none => ((s.text.extract i s.text.size).toList, 0)
    | some (j, r) =>
      let front := (s.text.extract i j).toList
      let next := (s.text.extract j (j + 1)).toList
      if r.place = j && past == some j then
        -- nothing is matched right behind a match
        if s.text.size ≤ j then (front, 0)
        else
          let (rest, k) := replaced e s by_ everywhere n (j + 1) none
          (front ++ next ++ rest, k)
      else
        let new := replacement (s.text.extract j r.place).toList 0 by_
        if !everywhere then (front ++ new ++ (s.text.extract r.place s.text.size).toList, 1)
        else if r.place = j then
          if s.text.size ≤ j then (front ++ new, 1)
          else
            let (rest, k) := replaced e s by_ everywhere n (j + 1) none
            (front ++ new ++ next ++ rest, k + 1)
        else
          let (rest, k) := replaced e s by_ everywhere n r.place (some r.place)
          (front ++ new ++ rest, k + 1)

/-- The moment that a text with six numbers names: a year, a month, a day, an hour, a minute and a
second. -/
def momentOf (text : String) : Int :=
  match (Tool.wordsOf text.toList).map fun w => signedOf (leadingNumber (String.ofList w)) with
  | year :: month :: day :: hour :: minute :: second :: _ =>
    Tool.daysTo year month day * 86400 + hour * 3600 + minute * 60 + second
  | _ => -1

/-- The next number by chance. -/
def chance (seed : Nat) : Nat := (seed * 1103515245 + 12345) % Nat.pow 2 31

/-- A function of a number. -/
def numeric? : Builtin → Option (Float → Float)
  | .sin => some Float.sin
  | .cos => some Float.cos
  | .exp => some Float.exp
  | .log => some Float.log
  | .sqrt => some Float.sqrt
  | .int => some fun x => if x < 0 then x.ceil else x.floor
  | _ => none

/-! ## Expressions and statements -/

/-- Runs something as a turn of a loop; tells whether the loop goes on. -/
def turn (run : Step Unit) : Step Bool :=
  tryCatch (run *> pure true) fun
    | .leave => return false
    | .goOn => return true
    | j => throw j

mutual

/-- What an expression comes to. -/
def eval (c : Setup) : (steps : Nat) → Expr → Step Value
  | 0, _ => onShell (throw .endless)
  | n + 1, e => do
    match e with
    | .number x => return .number x
    | .text s => return .text s
    | .regex r => return truth (matches_ r (← textOf (← field 0)))
    | .read p => (← find c n p).value
    | .assign p op e =>
      let spot ← find c n p
      let v ← eval c n e
      let v ← match op with
        | none => pure v
        | some op => pure (.number (op.apply (← spot.value).toNumber v.toNumber))
      spot.give v
      return v
    | .step p op new =>
      let spot ← find c n p
      let old := (← spot.value).toNumber
      let x := op.apply old 1
      spot.give (.number x)
      return .number (if new then x else old)
    | .compute op a b =>
      let x ← eval c n a
      let y ← eval c n b
      return .number (op.apply x.toNumber y.toNumber)
    | .compare o a b =>
      let x ← eval c n a
      let y ← eval c n b
      return truth (o.fits (x.order (← setting "CONVFMT") y))
    | .join a b =>
      let x ← textOf (← eval c n a)
      let y ← textOf (← eval c n b)
      return .text (x ++ y)
    | .fits a b negated =>
      let text ← textOf (← eval c n a)
      let r ← regex c n b
      return truth (matches_ r text != negated)
    | .both a b =>
      if (← eval c n a).holds then return truth (← eval c n b).holds
      return truth false
    | .either a b =>
      if (← eval c n a).holds then return truth true
      return truth (← eval c n b).holds
    | .negation a => return truth !(← eval c n a).holds
    | .minus a => return .number (-(← eval c n a).toNumber)
    | .plus a => return .number (← eval c n a).toNumber
    | .choose a yes no => if (← eval c n a).holds then eval c n yes else eval c n no
    | .within subscripts array =>
      let key ← key c n subscripts
      let id ← arrayOf array
      let (a, found) := (← store id).reach false key
      setStore id a
      return truth found
    | .call f args => call c n f args
    | .apply name args => apply c n name args
    | .getline source p => getline c n source p

/-- The texts of expressions. -/
def texts (c : Setup) : (steps : Nat) → List Expr → Step (List String)
  | 0, _ => onShell (throw .endless)
  | _, [] => return []
  | n + 1, e :: es => do
    let text ← textOf (← eval c n e)
    return text :: (← texts c n es)

/-- The values of expressions. -/
def values (c : Setup) : (steps : Nat) → List Expr → Step (List Value)
  | 0, _ => onShell (throw .endless)
  | _, [] => return []
  | n + 1, e :: es => do
    let v ← eval c n e
    return v :: (← values c n es)

/-- The key that subscripts make. -/
def key (c : Setup) : (steps : Nat) → List Expr → Step Key
  | 0, _ => onShell (throw .endless)
  | n + 1, es => do
    match es with
    | [e] =>
      let v ← eval c n e
      match v with
      | .number x =>
        match whole? x with
        | some k => if k.natAbs < Nat.pow 2 31 then return .whole k else return .text (← textOf v)
        | none => return .text (← textOf v)
      | v => return .text (← textOf v)
    | es =>
      let ts ← texts c n es
      return .text (joinStrings (← setting "SUBSEP") ts)

/-- A spot with its subscripts known. -/
def find (c : Setup) : (steps : Nat) → Spot → Step Found
  | 0, _ => onShell (throw .endless)
  | n + 1, p => do
    match p with
    | .named name => return .named name
    | .element array subscripts =>
      let key ← key c n subscripts
      return .element (← arrayOf array) key
    | .field index => return .field (← fieldNumber (← eval c n index))

/-- The expression to match with that an expression stands for. -/
def regex (c : Setup) : (steps : Nat) → Expr → Step Expression
  | 0, _ => onShell (throw .endless)
  | n + 1, e => do
    match e with
    | .regex r => return r
    | e => expressionIn (← textOf (← eval c n e))

/-- What a function comes to that every program knows. -/
def call (c : Setup) : (steps : Nat) → Builtin → List Expr → Step Value
  | 0, _, _ => onShell (throw .endless)
  | n + 1, f, args => do
    let first := args.headD (.text "")
    match f, args with
    | .length, [] => return .number (Float.ofNat (← textOf (← field 0)).length)
    | .length, [.read (.named name)] =>
      match ← slot name with
      | .array id | .either id => return .number (Float.ofNat (← store id).entries.length)
      | .value _ => return .number (Float.ofNat (← textOf (← read name)).length)
    | .length, _ => return .number (Float.ofNat (← textOf (← eval c n first)).length)
    | .substr, _ =>
      let vs ← values c n args
      let text ← textOf (vs.headD .unset)
      match vs.tail.map fun v => signedOf v.toNumber with
      | [start] => return .text (part text start none)
      | start :: k :: _ => return .text (part text start (some k))
      | [] => return .text text
    | .index, _ =>
      let ts ← texts c n args
      let (text, sought) := (ts.headD "", (ts.tail.headD ""))
      if text.isEmpty then return .number 0
      return .number (Float.ofNat (placeOf sought.toList 1 text.toList))
    | .split, _ :: .read (.named array) :: rest =>
      let text ← textOf (← eval c n first)
      let sep ← match rest with
        | [] => separatorIn (← setting "FS")
        | .regex r :: _ => pure (.regex r)
        | e :: _ => separatorIn (← textOf (← eval c n e))
      let parts := sep.split text.toList
      let id ← arrayOf array
      setStore id (.ofList (parts.map fun cs => Value.given (String.ofList cs)))
      return .number (Float.ofNat parts.length)
    | .sub, _ :: by_ :: rest | .gsub, _ :: by_ :: rest =>
      let r ← regex c n first
      let new ← textOf (← eval c n by_)
      let spot ← match rest with
        | .read p :: _ => find c n p
        | _ => pure (.field 0)
      let text ← textOf (← spot.value)
      let s := subject text
      let (result, k) := replaced r s new.toList (f == .gsub) (s.text.size + 2) 0 none
      if k != 0 then spot.give (.text (String.ofList result))
      return .number (Float.ofNat k)
    | .match_, _ :: e :: _ =>
      let text ← textOf (← eval c n first)
      let r ← regex c n e
      let (start, length) := match r.find (subject text) 0 with
        | some (j, r) => (Float.ofNat (j + 1), Float.ofNat (r.place - j))
        | none => (0.0, -1.0)
      write "RSTART" (.number start)
      write "RLENGTH" (.number length)
      return .number start
    | .sprintf, _ =>
      let vs ← values c n args
      let form ← textOf (vs.headD .unset)
      let conversion ← setting "CONVFMT"
      match format conversion (form.length + 1) 1 form.toList vs.tail with
      | (text, none) => return .text text
      | (_, some what) => fault (what.text "sprintf" form)
    | .atan2, _ =>
      let vs ← values c n args
      return .number (Float.atan2 (vs.headD .unset).toNumber (vs.tail.headD .unset).toNumber)
    | .rand, _ =>
      let s ← getThe State
      let seed := chance s.seed
      set { s with seed }
      return .number (Float.ofNat seed / Float.ofNat (Nat.pow 2 31))
    | .srand, _ =>
      let v ← match args with
        | [] => pure (.number 0)
        | e :: _ => eval c n e
      let s ← getThe State
      set { s with asked := v, seed := unsignedOf v.toNumber + 1 }
      return s.asked
    | .toupper, _ => return .text (onString upperAscii (← textOf (← eval c n first)))
    | .tolower, _ => return .text (onString lowerAscii (← textOf (← eval c n first)))
    | .system, _ =>
      let command ← textOf (← eval c n first)
      passAll
      return .number (Float.ofNat (← onShell (c.commands.run command)))
    | .close, _ =>
      let name ← textOf (← eval c n first)
      let s ← getThe State
      set { s with
        inlets := s.inlets.filter fun i => i.key != name
        outlets := s.outlets.filter fun o => o.key != name }
      match s.inlets.find? fun i => i.key == name with
      | some i => return .number (Float.ofNat i.status)
      | none =>
        match s.outlets.find? fun o => o.key == name with
        | some o => return .number (Float.ofNat (← closeOutlet c.commands o))
        | none => return .number (-1)
    | .fflush, _ =>
      let _ ← values c n args
      passAll
      return .number 0
    | .strftime, _ =>
      let vs ← values c n args
      let form ← match vs with
        | [] => pure "%c"
        | v :: _ => textOf v
      let seconds := match vs.tail with
        | [] => 0
        | v :: _ => signedOf v.toNumber
      return .text (Tool.momentText seconds form.toList)
    | .mktime, _ =>
      return .number (Float.ofInt (momentOf (← textOf (← eval c n first))))
    | .systime, _ =>
      let g ← onShell get
      return .number (Float.ofInt (g.now / 1000))
    | f, _ =>
      let x := (← eval c n first).toNumber
      match numeric? f with
      | some g => return .number (g x)
      | none => return .unset

/-- The slots of a function's parameters. -/
def slots (c : Setup) : (steps : Nat) → List String → List Expr → Step (List (String × Slot))
  | 0, _, _ => onShell (throw .endless)
  | _, [], _ => return []
  | n + 1, p :: ps, [] => do return (p, default) :: (← slots c n ps [])
  | n + 1, p :: ps, e :: es => do
    let x ← match e with
      | .read (.named name) =>
        if name == "NF" then pure (.value (← read name))
        else
          match ← slot name with
          | .value .unset =>
            -- the function may make an array of it
            let s ← getThe State
            set { s with arrays := s.arrays.push {} }
            setSlot name (.either s.arrays.size)
            pure (.either s.arrays.size)
          | x => pure x
      | e => pure (.value (← eval c n e))
    return (p, x) :: (← slots c n ps es)

/-- What a function of the program comes to. -/
def apply (c : Setup) : (steps : Nat) → String → List Expr → Step Value
  | 0, _, _ => onShell (throw .endless)
  | n + 1, name, args => do
    match c.program.functions.lookup name with
    | none => fault s!"function {name} never defined"
    | some f =>
      let inner ← slots c n f.params args
      let outer := (← getThe State).locals
      modifyThe State fun s => { s with locals := inner }
      let v ← tryCatch (do exec c n f.body; pure Value.unset) fun
        | .giveBack v => pure v
        | j => throw j
      modifyThe State fun s => { s with locals := outer }
      return v

/-- Takes a record from somewhere: one, zero at the end, or less than zero if that is not
possible. -/
def getline (c : Setup) : (steps : Nat) → Source → Option Spot → Step Value
  | 0, _, _ => onShell (throw .endless)
  | n + 1, source, p => do
    let give := fun (text : String) =>
      match p with
      | some p => do (← find c n p).give (.given text)
      | none => setRecord (.given text)
    let taken := fun (i : Option Inlet) => do
      match i with
      | none => return Value.number (-1)
      | some i =>
        match ← takeRecord i with
        | none => return .number 0
        | some text =>
          give text
          return .number 1
    match source with
    | .input =>
      match ← nextLine 1000 with
      | none => return .number 0
      | some text =>
        give text
        return .number 1
    | .file path =>
      let path ← textOf (← eval c n path)
      taken (← inlet? path (do
        match ← onShell (Tool.contents path) with
        | .ok cs => return some { key := path, left := cs }
        | .error .isDirectory => throw (.failed "read error (Is a directory)")
        | .error _ => return none))
    | .command text =>
      let command ← textOf (← eval c n text)
      taken (← inlet? command (do
        passAll
        let (text, status) ← onShell (c.commands.take command)
        return some { key := command, left := text.toList, status }))

/-- Does what a statement asks for. -/
def exec (c : Setup) : (steps : Nat) → Stmt → Step Unit
  | 0, _ => onShell (throw .endless)
  | n + 1, st => do
    match st with
    | .expr e => let _ ← eval c n e
    | .print args target =>
      let text ← match args with
        | [] => textOf (← field 0)
        | args =>
          let form ← setting "OFMT"
          let vs ← values c n args
          pure (joinStrings (← setting "OFS") (vs.map fun v => v.toText form))
      send c n target (text ++ (← setting "ORS"))
    | .printf args target =>
      let vs ← values c n args
      let form ← textOf (vs.headD .unset)
      let conversion ← setting "CONVFMT"
      let (text, what) := format conversion (form.length + 1) 1 form.toList vs.tail
      send c n target text
      match what with
      | none => return
      | some what => fault (what.text "printf" form)
    | .block ss => execAll c n ss
    | .branch e yes no => if (← eval c n e).holds then exec c n yes else exec c n no
    | .whileTrue e body => again c n e body
    | .doWhile body e => if ← turn (exec c n body) then again c n e body
    | .turns first e after body =>
      exec c n first
      turns c n e after body
    | .each name array body =>
      let id ← arrayOf array
      let a := (← store id).withTexts
      setStore id a
      execEach c n name a.keys body
    | .next => throw .next
    | .nextFile => throw .nextFile
    | .exit e =>
      match e with
      | none => throw .exit
      | some e =>
        let status := signedOf (← eval c n e).toNumber
        modifyThe State fun s => { s with status := (status % 256).toNat }
        throw .exit
    | .giveBack e =>
      match e with
      | none => throw (.giveBack .unset)
      | some e => throw (.giveBack (← eval c n e))
    | .leave => throw .leave
    | .goOn => throw .goOn
    | .delete array subscripts =>
      let id ← arrayOf array
      match subscripts with
      | none => setStore id {}
      | some es =>
        let key ← key c n es
        setStore id ((← store id).erase key)

/-- Does what statements ask for, one after the other. -/
def execAll (c : Setup) : (steps : Nat) → List Stmt → Step Unit
  | 0, _ => onShell (throw .endless)
  | _, [] => return
  | n + 1, s :: ss => do
    exec c n s
    execAll c n ss

/-- Turns of a loop as long as a condition holds. -/
def again (c : Setup) : (steps : Nat) → Expr → Stmt → Step Unit
  | 0, _, _ => onShell (throw .endless)
  | n + 1, e, body => do
    if (← eval c n e).holds then
      if ← turn (exec c n body) then again c n e body

/-- Turns of a loop with something behind every one. -/
def turns (c : Setup) : (steps : Nat) → Option Expr → (after body : Stmt) → Step Unit
  | 0, _, _, _ => onShell (throw .endless)
  | n + 1, e, after, body => do
    let goesOn ← match e with
      | none => pure true
      | some e => do pure (← eval c n e).holds
    if goesOn then
      if ← turn (exec c n body) then
        exec c n after
        turns c n e after body

/-- A turn for every key of an array. -/
def execEach (c : Setup) : (steps : Nat) → String → List String → Stmt → Step Unit
  | 0, _, _, _ => onShell (throw .endless)
  | _, _, [], _ => return
  | n + 1, name, k :: ks, body => do
    write name (.text k)
    if ← turn (exec c n body) then execEach c n name ks body

/-- Writes a text to where it goes. -/
def send (c : Setup) : (steps : Nat) → Target → String → Step Unit
  | 0, _, _ => onShell (throw .endless)
  | n + 1, target, text => do
    match target with
    | .output => modifyThe State fun s => { s with pending := text :: s.pending }
    | .file path appends => writeFile (← textOf (← eval c n path)) text appends
    | .command command => writeCommand (← textOf (← eval c n command)) text

end

/-! ## Programs -/

/-- Whether a rule is for the record. `number` is that of the rule. -/
def isFor (c : Setup) (n : Nat) (r : Rule) (number : Nat) : Step Bool := do
  match r.choice with
  | .all => return true
  | .those e => return (← eval c n e).holds
  | .between first last =>
    let open_ := (← getThe State).within.contains number
    if !open_ && !(← eval c n first).holds then return false
    let ends := (← eval c n last).holds
    modifyThe State fun s =>
      let others := s.within.filter (· != number)
      { s with within := if ends then others else number :: others }
    return true

/-- Goes through the rules for the record. -/
def treat (c : Setup) (n : Nat) : (number : Nat) → List Rule → Step Unit
  | _, [] => return
  | number, r :: rest => do
    if ← isFor c n r number then exec c n (r.action.getD (.print [] .output))
    treat c n (number + 1) rest

/-- Goes through the records. -/
def treatAll (c : Setup) (n : Nat) : (steps : Nat) → Step Unit
  | 0 => onShell (throw .endless)
  | k + 1 => do
    match ← nextLine 1000 with
    | none => return
    | some text =>
      setRecord (.given text)
      tryCatch (treat c n 0 c.program.rules) fun
        | .next => pure ()
        | .nextFile => modifyThe State fun s => { s with left := none }
        | j => throw j
      treatAll c n k

/-- Runs a part of a program; tells whether the program goes on. -/
def runPart (run : Step Unit) : Step Bool :=
  tryCatch (run *> pure true) fun
    | .exit => return false
    | j => throw j

/-- How many steps a program may take. -/
def maxSteps : Nat := 1000000

/-- Runs a program from its beginning to its end. -/
def run (c : Setup) : Step Unit := do
  let n := maxSteps
  let p := c.program
  let goesOn ← runPart (execAll c n p.beginning)
  if !p.rules.isEmpty || !p.ending.isEmpty then
    if goesOn then
      let _ ← runPart (treatAll c n n)
    let _ ← runPart (execAll c n p.ending)

end Playbook.Shell.Tool.Records
