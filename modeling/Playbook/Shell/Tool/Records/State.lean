/-
  What a program that goes through records knows while it runs: its variables and arrays, the
  record and its fields, and the files and commands that it reads and writes.
-/
import Playbook.Shell.Tool.Records.Reading
import Playbook.Shell.Tool.Records.Store

namespace Playbook.Shell.Tool.Records

open Playbook.Text Playbook.Number

/-- Runs the commands that a program asks for. -/
structure Commands where
  /-- Runs a command; its exit status. -/
  run : String → Run Nat
  /-- What a command prints, and its exit status. -/
  take : String → Run (String × Nat)
  /-- Runs a command with a text as its input; its exit status. -/
  feed : String → String → Run Nat

/-- What a name stands for. -/
inductive Slot where
  | value (v : Value)
  | array (id : Nat)
  /-- No value yet, and an array if it is used as one. -/
  | either (id : Nat)

instance : Inhabited Slot := ⟨.value .unset⟩

/-- A file or a command that is read. -/
structure Inlet where
  key : String
  left : List Char
  status : Nat := 0

/-- A file or a command that is written to. -/
structure Outlet where
  key : String
  /-- The stream of a file; none for a command. -/
  stream : Option Nat
  /-- What was written and not passed on, the last text first. -/
  texts : List String := []

/-- What a program knows while it runs. -/
structure State where
  globals : Table Slot := .empty
  /-- The parameters of the function that runs. -/
  locals : List (String × Slot) := []
  arrays : Array Store := #[]
  record : Value := .unset
  fields : Array Value := #[]
  /-- The rules, by their numbers, that began with a record and did not end. -/
  within : List Nat := []
  /-- What is left of the file that is read. -/
  left : Option (List Char) := none
  /-- The next argument that may name a file. -/
  operand : Nat := 1
  /-- Whether a file was read. -/
  opened : Bool := false
  /-- What was printed and not passed on, the last text first. -/
  pending : List String := []
  inlets : List Inlet := []
  outlets : List Outlet := []
  nextStream : Nat := 1000
  status : Nat := 0
  /-- Where numbers by chance come from, and what was asked for them last. -/
  seed : Nat := 1
  asked : Value := .number 0

/-- How a statement ended, if it did not just end. -/
inductive Jump where
  | next
  | nextFile
  | exit
  | leave
  | goOn
  | giveBack (v : Value)
  /-- A fault ended the program. -/
  | failed (what : String)

abbrev Step := ExceptT Jump (StateT State Run)

/-- Runs something of the shell. -/
def onShell {α : Type} (run : Run α) : Step α := liftM (liftM run : StateT State Run α)

/-! ## Names -/

/-- What a name stands for. -/
def slot (name : String) : Step Slot := do
  let s ← getThe State
  match s.locals.lookup name with
  | some x => return x
  | none => return (s.globals.get? name).getD default

/-- Makes a name stand for something. -/
def setSlot (name : String) (x : Slot) : Step Unit :=
  modifyThe State fun s =>
    if (s.locals.lookup name).isSome then
      { s with locals := s.locals.map fun (k, y) => if k == name then (k, x) else (k, y) }
    else { s with globals := s.globals.insert name x }

/-- The array with a name. -/
def arrayOf (name : String) : Step Nat := do
  match ← slot name with
  | .array id | .either id => return id
  | .value _ =>
    let s ← getThe State
    set { s with arrays := s.arrays.push {} }
    setSlot name (.array s.arrays.size)
    return s.arrays.size

/-- The values of an array. -/
def store (id : Nat) : Step Store := do return ((← getThe State).arrays[id]?).getD {}

/-- Changes the values of an array. -/
def setStore (id : Nat) (a : Store) : Step Unit :=
  modifyThe State fun s => { s with arrays := s.arrays.setIfInBounds id a }

/-- The value of a variable that does not count fields. -/
def valueOf (name : String) : Step Value := do
  match ← slot name with
  | .value v => return v
  | _ => return .unset

/-- The text of a variable with a value of its own, whatever function runs. -/
def setting (name : String) : Step String := do
  match ((← getThe State).globals.get? name).getD default with
  | .value v => return v.toText "%.6g"
  | _ => return ""

/-- The text of a value. -/
def textOf (v : Value) : Step String := do
  match v with
  | .number _ => return v.toText (← setting "CONVFMT")
  | v => return v.toText ""

/-- Ends the program with a fault at the record that is treated. -/
def fault {α : Type} (what : String) : Step α := do
  let file ← setting "FILENAME"
  let here ← setting "FNR"
  let all ← setting "NR"
  throw (.failed ("run time error: " ++ what ++ "\n\tFILENAME=\"" ++ file ++ "\" FNR=" ++ here ++
    " NR=" ++ all))

/-- The expression that a text spells. -/
def expressionIn (text : String) : Step Expression :=
  match expressionOf text with
  | .ok e => return e
  | .error what => fault what

/-! ## Fields -/

/-- What separates fields. -/
inductive Separator where
  | blanks
  /-- Nothing: every character is a field. -/
  | nothing
  | char (c : Char)
  | regex (e : Expression)

/-- The separator that a text spells. -/
def separatorIn (text : String) : Step Separator :=
  match text.toList with
  | [] => return .nothing
  | [' '] => return .blanks
  | [c] => return .char c
  | _ => return .regex (← expressionIn text)

/-- The pieces of a text between matches that are not empty. `start` is where the piece begins,
and `i` where a match is looked for. -/
def piecesBetween (e : Expression) (s : Expression.Subject) : (steps start i : Nat) →
    List (List Char)
  | 0, _, _ => []
  | n + 1, start, i =>
    match e.find s i with
    | none => [(s.text.extract start s.text.size).toList]
    | some (j, r) =>
      if r.place = j then piecesBetween e s n start (j + 1)
      else (s.text.extract start j).toList :: piecesBetween e s n r.place r.place

/-- The parts of a text. -/
def Separator.split (sep : Separator) (cs : List Char) : List (List Char) :=
  if cs.isEmpty then []
  else
    match sep with
    | .blanks => Tool.wordsOf cs
    | .nothing => cs.map fun c => [c]
    | .char c => pieces c cs
    | .regex e => piecesBetween e { text := cs.toArray } (cs.length + 2) 0 0

/-- The fields of a record. -/
def fieldsOf (text : String) : Step (Array Value) := do
  let sep ← separatorIn (← setting "FS")
  return ((sep.split text.toList).map fun cs => Value.given (String.ofList cs)).toArray

/-- Makes a value the record. -/
def setRecord (v : Value) : Step Unit := do
  let text ← textOf v
  let v := match v with
    | .given _ => v
    | _ => .text text
  let fields ← fieldsOf text
  modifyThe State fun s => { s with record := v, fields }

/-- Puts fields together to the record. -/
def setFields (fields : Array Value) : Step Unit := do
  let conversion ← setting "CONVFMT"
  let text := joinStrings (← setting "OFS") (fields.toList.map fun v => v.toText conversion)
  modifyThe State fun s => { s with fields, record := .given text }

/-- Fields with empty ones behind them. -/
def filledUp (fields : Array Value) (size : Nat) : Array Value :=
  fields ++ Array.replicate (size - fields.size) (Value.given "")

/-- The number of a field. -/
def fieldNumber (v : Value) : Step Nat := do
  let n := signedOf v.toNumber
  if n < 0 then fault s!"negative field index ${toString n}"
  return n.toNat

/-- The value of a field; the field zero is the record. -/
def field (n : Nat) : Step Value := do
  let s ← getThe State
  if n = 0 then return s.record
  return (s.fields[n - 1]?).getD .unset

/-- Gives a field a value. -/
def setField (n : Nat) (v : Value) : Step Unit := do
  if n = 0 then setRecord v
  else
    let fields := filledUp (← getThe State).fields n
    setFields (fields.setIfInBounds (n - 1) v)

/-- The value of a variable. -/
def read (name : String) : Step Value := do
  let s ← getThe State
  if name == "NF" && (s.locals.lookup name).isNone then
    return .number (Float.ofNat s.fields.size)
  valueOf name

/-- Gives a variable a value. -/
def write (name : String) (v : Value) : Step Unit := do
  let s ← getThe State
  if name == "NF" && (s.locals.lookup name).isNone then
    let n := signedOf v.toNumber
    if n < 0 then fault "negative value assigned to NF"
    setFields ((filledUp s.fields n.toNat).extract 0 n.toNat)
  else setSlot name (.value v)

/-! ## Records -/

/-- A text without line feeds in front. -/
def withoutLines (cs : List Char) : List Char := cs.dropWhile (· == '\n')

/-- A paragraph and what follows it. -/
def paragraph : List Char → List Char × List Char
  | '\n' :: '\n' :: rest => ([], withoutLines rest)
  | '\n' :: [] => ([], [])
  | c :: rest =>
    let (body, after) := paragraph rest
    (c :: body, after)
  | [] => ([], [])

/-- The next record of a text and what follows it, none at the end. -/
def nextRecord (cs : List Char) : Step (Option (String × List Char)) := do
  let mark ← setting "RS"
  match mark.toList, cs with
  | _, [] => return none
  | [c], cs =>
    let body := cs.takeWhile (· != c)
    return some (String.ofList body, cs.drop (body.length + 1))
  | [], cs =>
    match withoutLines cs with
    | [] => return none
    | cs =>
      let (body, after) := paragraph cs
      return some (String.ofList body, after)
  | _, cs =>
    let e ← expressionIn mark
    let s : Expression.Subject := { text := cs.toArray }
    match e.find s 0 with
    | some (j, r) =>
      if j < r.place then return some (String.ofList (cs.take j), cs.drop r.place)
      else return some (String.ofList cs, [])
    | none => return some (String.ofList cs, [])

/-- Opens a file as the one that is read. -/
def openInput (path : String) : Step Unit := do
  match ← onShell (Tool.contents path) with
  | .ok cs => modifyThe State fun s => { s with left := some cs, opened := true }
  | .error .isDirectory => throw (.failed "read error (Is a directory)")
  | .error f => throw (.failed ("cannot open \"" ++ path ++ "\" (" ++ faultText f ++ ")"))

/-- The name and the value in an argument that assigns. -/
def assigned? (arg : String) : Option (String × String) :=
  match splitOnce '=' arg.toList with
  | some (name, value) =>
    let isName := match name with
      | c :: cs => (c.isAlpha || c == '_') && cs.all fun d => d.isAlphanum || d == '_'
      | [] => false
    if isName then some (String.ofList name, Token.unescaped (String.ofList value)) else none
  | none => none

/-- Goes to the next file that the arguments name, and does what they assign on the way; tells
whether there is one. -/
def nextInput : (steps : Nat) → Step Bool
  | 0 => return false
  | n + 1 => do
    let s ← getThe State
    let count := signedOf (← valueOf "ARGC").toNumber
    if count ≤ s.operand then
      if s.opened then return false
      openInput "-"
      return true
    else
      modifyThe State fun s => { s with operand := s.operand + 1 }
      let entry := (← store (← arrayOf "ARGV")).find? (toString s.operand)
      let arg ← textOf ((entry.map (·.value)).getD .unset)
      if arg.isEmpty then nextInput n
      else
        match assigned? arg with
        | some (name, value) =>
          write name (.given value)
          nextInput n
        | none =>
          setSlot "FILENAME" (.value (.text arg))
          setSlot "FNR" (.value (.number 0))
          openInput arg
          return true

/-- Counts a record. -/
def count (name : String) : Step Unit := do
  let x := (← valueOf name).toNumber
  setSlot name (.value (.number (x + 1)))

/-- The next record of the files, none at their end. -/
def nextLine : (steps : Nat) → Step (Option String)
  | 0 => return none
  | n + 1 => do
    match (← getThe State).left with
    | some cs =>
      match ← nextRecord cs with
      | some (text, rest) =>
        modifyThe State fun s => { s with left := some rest }
        count "NR"
        count "FNR"
        return some text
      | none =>
        modifyThe State fun s => { s with left := none }
        nextLine n
    | none => if ← nextInput 1000 then nextLine n else return none

/-! ## Files and commands -/

/-- Passes on what was printed. -/
def passOutput : Step Unit := do
  let s ← getThe State
  set { s with pending := [] }
  onShell (say (String.join s.pending.reverse))

/-- Passes on what was printed and what was written to files. -/
def passAll : Step Unit := do
  passOutput
  let s ← getThe State
  for o in s.outlets do
    match o.stream with
    | some k => onShell (modify fun g => g.writeTo k (String.join o.texts.reverse))
    | none => pure ()
  modifyThe State fun s => { s with
    outlets := s.outlets.map fun o => if o.stream.isSome then { o with texts := [] } else o }

/-- Opens a file to write to. -/
def openOutlet (path : String) (appends : Bool) : Step Outlet := do
  let s ← getThe State
  match openFile (← getThe Going) (if appends then .append else .overwrite) path with
  | .error f =>
    throw (.failed ("cannot open \"" ++ path ++ "\" for output (" ++ faultText f ++ ")"))
  | .ok (g, i) =>
    onShell (set { g with machine := g.machine.withStream s.nextStream i })
    modifyThe State fun s => { s with nextStream := s.nextStream + 1 }
    return { key := path, stream := some s.nextStream }

/-- Writes a text to a file or a command, which was opened by `open_` if it is not known. -/
def writeOutlet (key text : String) (isCommand : Bool) (open_ : Step Outlet) : Step Unit := do
  let same := fun (o : Outlet) => o.key == key && o.stream.isNone == isCommand
  let o ← match (← getThe State).outlets.find? same with
    | some o => pure o
    | none => open_
  modifyThe State fun s => { s with
    outlets := { o with texts := text :: o.texts } :: s.outlets.filter fun o => !same o }

/-- Writes a text to a file. -/
def writeFile (path text : String) (appends : Bool) : Step Unit :=
  if path == "/dev/stdout" || path == "-" then
    modifyThe State fun s => { s with pending := text :: s.pending }
  else if path == "/dev/stderr" then onShell (sayError text)
  else writeOutlet path text false (openOutlet path appends)

/-- Writes a text to a command. -/
def writeCommand (command text : String) : Step Unit :=
  writeOutlet command text true (do
    passAll
    return { key := command, stream := none })

/-- Ends writing to a file or a command; the exit status of the command. -/
def closeOutlet (c : Commands) (o : Outlet) : Step Nat := do
  let text := String.join o.texts.reverse
  match o.stream with
  | some k =>
    onShell (modify fun g =>
      let g := g.writeTo k text
      { g with machine := g.machine.closeStream k })
    return 0
  | none => onShell (c.feed o.key text)

/-- Ends writing everywhere. -/
def closeAll (c : Commands) : Step Unit := do
  let s ← getThe State
  set { s with outlets := [] }
  for o in s.outlets do
    let _ ← closeOutlet c o

/-- The inlet with a key, which is opened if it is not known; none if it cannot be opened. -/
def inlet? (key : String) (open_ : Step (Option Inlet)) : Step (Option Inlet) := do
  match (← getThe State).inlets.find? fun i => i.key == key with
  | some i => return some i
  | none => open_

/-- Takes a record from an inlet; none at its end. -/
def takeRecord (i : Inlet) : Step (Option String) := do
  let keep := fun (left : List Char) => modifyThe State fun s => { s with
    inlets := { i with left } :: s.inlets.filter fun j => j.key != i.key }
  match ← nextRecord i.left with
  | some (text, rest) =>
    keep rest
    return some text
  | none =>
    keep []
    return none

end Playbook.Shell.Tool.Records
