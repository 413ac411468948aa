/-
  Expansion: a word becomes the fields that a command is given. Dollars are replaced, the replaced
  text is split at separators unless it is quoted, and wildcards become names of files.
-/
import Playbook.Shell.Wildcard
import Playbook.Shell.Arithmetic

namespace Playbook.Shell

open Playbook.Text

/-- A part of an expanded word. -/
inductive Item where
  /-- A character; `split` tells whether a separator ends a field. -/
  | char (c : Char) (quoted split : Bool)
  /-- Quotes, which make a field even if they are empty. -/
  | quotes
  /-- The end of a field. -/
  | cut
  /-- A replaced text begins or ends. -/
  | edge
  deriving Repr, DecidableEq

/-- The characters of a text that is quoted or not. -/
def valueItems (quoted : Bool) (value : String) : List Item :=
  if quoted then value.toList.map fun c => .char c true false
  else .edge :: (value.toList.map fun c => .char c false true) ++ [.edge]

/-- The marked characters of items. -/
def markedOf (items : List Item) : List Marked :=
  items.filterMap fun i =>
    match i with
    | .char c quoted _ => some (c, quoted)
    | _ => none

/-- The text of items. -/
def textOf (items : List Item) : String := String.ofList ((markedOf items).map Prod.fst)

/-- A text without the line feeds at its end. -/
def withoutLastLines (s : String) : String := onString (dropRightWhile (· == '\n')) s

/-! ## Separators -/

/-- The characters that separate fields. -/
def separators (m : Machine) : List Char :=
  match m.vars.get? "IFS" with
  | some v => ((v.value.map String.toList).getD " \t\n".toList)
  | none => " \t\n".toList

/-- Whether a separator is a blank, of which many count as one. -/
def isWhite (c : Char) : Bool := c == ' ' || c == '\t' || c == '\n'

/-- Fields while they are split. -/
structure Splitting where
  /-- The fields so far, the last one first. -/
  fields : List (List Marked) := []
  /-- The open field, reversed. -/
  field : List Marked := []
  /-- Whether there is something in the open field. -/
  begun : Bool := false
  /-- Whether a blank has ended the last field. -/
  spaced : Bool := false
  /-- How many fields may still be ended; none for any number. -/
  most : Option Nat := none
  /-- The last field that is allowed, reversed, without the separators at its end. -/
  kept : Option (List Marked) := none

namespace Splitting

/-- The next character belongs to the open field. -/
def add (s : Splitting) (c : Marked) : Splitting :=
  { s with field := c :: s.field, begun := true, spaced := false }

/-- Ends the open field. -/
def finish (s : Splitting) (spaced : Bool) : Splitting :=
  { s with
    fields := s.field.reverse :: s.fields
    field := []
    begun := false
    spaced
    most := s.most.map (· - 1) }

/-- Takes a character of the last field that is allowed: separators at its end do not count. -/
def addLast (s : Splitting) (separates white : Bool) (c : Marked) : Splitting :=
  let kept := if white then some (s.kept.getD s.field)
    else if separates && s.spaced then s.kept
    else none
  { s with field := c :: s.field, begun := true, kept, spaced := white && s.spaced }

/-- Takes an item. -/
def take (seps : List Char) (s : Splitting) (i : Item) : Splitting :=
  match i with
  | .quotes => { s with begun := true }
  | .edge => { s with spaced := false }
  | .cut => s.finish false
  | .char c quoted split =>
    let separates := split && seps.contains c
    let white := separates && isWhite c
    if !split then { s.add (c, quoted) with kept := none }
    else if s.most == some 0 then s.addLast separates white (c, quoted)
    else if s.spaced then
      if white then s
      else if separates then { s with spaced := false }
      else s.add (c, quoted)
    else if separates then
      if white && !s.begun then s
      else if s.most == some 1 then
        { s with
          kept := some s.field
          field := (c, quoted) :: s.field
          spaced := white
          most := some 0 }
      else s.finish white
    else s.add (c, quoted)

/-- All fields. -/
def all (s : Splitting) : List (List Marked) :=
  let last := s.kept.getD s.field
  (if s.begun && (s.kept.isNone || !last.isEmpty) then last.reverse :: s.fields
    else s.fields).reverse

end Splitting

/-- The fields of items, at most so many. -/
def splitItems (seps : List Char) (most : Option Nat) (items : List Item) : List (List Marked) :=
  (items.foldl (Splitting.take seps) { most }).all

/-! ## Tildes -/

/-- The home directory of a user, the one who runs the shell if there is no name. -/
def homeOf? (m : Machine) (user : String) : Option String :=
  if user.isEmpty then m.value? "HOME"
  else if user == "root" then some "/root"
  else none

/-- A word with home directories in place of tildes in front, and behind colons if the word is
the value of a variable. -/
def tildesFrom (m : Machine) (assigns : Bool) : (steps : Nat) → (first : Bool) → Word → Word
  | 0, _, w => w
  | _, _, [] => []
  | n + 1, first, p :: rest =>
    match p with
    | .char '~' false =>
      let user := rest.takeWhile fun (p : Part) =>
        match p with
        | .char c false => c != '/' && !(assigns && c == ':')
        | _ => false
      let after := rest.drop user.length
      let ended := match after with
        | [] => true
        | .char '/' false :: _ => true
        | .char ':' false :: _ => assigns
        | _ => false
      match if first && ended then (plain? user).bind (homeOf? m) else none with
      | some home =>
        (.quotes :: home.toList.map fun c => Part.char c true) ++ tildesFrom m assigns n false after
      | none => p :: tildesFrom m assigns n false rest
    | .char ':' false => p :: tildesFrom m assigns n assigns rest
    | _ => p :: tildesFrom m assigns n false rest

/-- A word with home directories in place of its tildes. -/
def tildes (m : Machine) (assigns : Bool) (w : Word) : Word :=
  tildesFrom m assigns (w.length + 1) true w

/-! ## Parameters -/

/-- The longest or shortest beginning or end of a text that fits a pattern, cut off. -/
def cutOff (tokens : List Glob.Token) (atEnd longest : Bool) (text : List Char) : List Char :=
  let sizes := List.range (text.length + 1)
  let ordered := if longest then sizes.reverse else sizes
  let fitting := ordered.find? fun k =>
    Glob.fits tokens (if atEnd then text.drop (text.length - k) else text.take k)
  match fitting with
  | none => text
  | some k => if atEnd then text.take (text.length - k) else text.drop k

/-- All arguments with the first separator between them. -/
def joinedArgs (m : Machine) : String :=
  let sep := match m.vars.get? "IFS" with
    | some v => ((v.value.getD " ").toList.take 1)
    | none => [' ']
  joinStrings (String.ofList sep) m.args

/-- The value of a parameter, all arguments included. -/
def valueOf? (m : Machine) (name : String) : Option String :=
  if name == "@" || name == "*" then some (joinedArgs m) else m.parameter? name

/-- The items of all arguments, each a field of its own. -/
def argumentItems (args : List String) : List Item :=
  match args.map fun a => .quotes :: valueItems true a with
  | [] => []
  | first :: rest => first ++ rest.flatMap (.cut :: ·)

/-- The items of a parameter's value; `full` tells whether fields are made of it. -/
def parameterItems (m : Machine) (full quoted : Bool) (name value : String) : List Item :=
  if name == "@" && quoted && full then argumentItems m.args
  else if (name == "@" || name == "*") && !quoted && full && (separators m).isEmpty then
    argumentItems m.args
  else valueItems quoted value

/-- What cutting off leaves of all arguments: only the first one is looked at. -/
def trimmedArgs (cut : List Char → List Char) (atEnd : Bool) : List String → List String
  | [] => []
  | first :: rest =>
    let left := onString cut first
    if atEnd && left != first then [left] else left :: rest

/-- Runs a script and takes what it prints. -/
abbrev Taking := Script → Run String

/-- Whether a word is empty as it is written. -/
def isBlankWord (w : Word) : Bool :=
  match w with
  | [] => true
  | _ => false

mutual

/-- Expands a word. `full` tells whether fields are made of it, `splits` whether its own blanks
separate them. -/
def expandWord (taking : Taking) : (steps : Nat) → (full splits : Bool) → Word → Run (List Item)
  | 0, _, _, _ => throw .endless
  | n + 1, full, splits, w => do
    return (← w.mapM (expandPart taking n full splits)).flatten

/-- Expands a part of a word. -/
def expandPart (taking : Taking) : (steps : Nat) → (full splits : Bool) → Part → Run (List Item)
  | 0, _, _, _ => throw .endless
  | n + 1, full, splits, p => do
    match p with
    | .char c quoted => return [.char c quoted (splits && !quoted)]
    | .quotes => return [.quotes]
    | .command body quoted =>
      let text ← taking body
      return valueItems quoted (withoutLastLines text)
    | .arithmetic expression quoted =>
      let items ← expandWord taking n false false expression
      match Arithmetic.evaluate (← get).machine (textOf items).toList with
      | .error what => fail what
      | .ok (v, machine) =>
        modify fun g => { g with machine }
        return valueItems quoted (toString v)
    | .parameter name use word quoted => expandParameter taking n full name use word quoted

/-- Expands a parameter. -/
def expandParameter (taking : Taking) : (steps : Nat) → (full : Bool) → String → Use → Word →
    (quoted : Bool) → Run (List Item)
  | 0, _, _, _, _, _ => throw .endless
  | n + 1, full, name, use, word, quoted => do
    let m := (← get).machine
    let found := valueOf? m name
    let value := found.getD ""
    let word := if quoted then word else tildes m false word
    let missing := fun (colon : Bool) => found.isNone || (colon && value.isEmpty)
    let whole := parameterItems m full quoted name value
    let checked : Run Unit :=
      if found.isNone && m.has 'u' then fail (name ++ ": parameter not set") else pure ()
    match use with
    | .unknown => fail "Bad substitution"
    | .value =>
      checked
      return whole
    | .length =>
      checked
      return valueItems quoted (toString value.length)
    | .default colon =>
      if missing colon then expandWord taking n full (!quoted) word else return whole
    | .alternative colon =>
      if missing colon then return [] else expandWord taking n full (!quoted) word
    | .assign colon =>
      if missing colon then
        let text := textOf (← expandWord taking n false false word)
        if !isName name.toList then fail (name ++ ": bad variable name")
        assignVar name text
        return valueItems quoted text
      else return whole
    | .demand colon =>
      if missing colon then
        let text := textOf (← expandWord taking n false false word)
        let what := if isBlankWord word then
            "parameter not set" ++ (if colon then " or null" else "")
          else text
        fail (name ++ ": " ++ what)
      else return whole
    | .trim atEnd longest =>
      checked
      let pattern ← expandWord taking n false false (tildes m false word)
      let cut := cutOff (Wildcard.tokens (markedOf pattern)) atEnd longest
      if name == "@" && quoted && full then
        return argumentItems (trimmedArgs cut atEnd m.args)
      else return valueItems quoted (onString cut value)

end

/-! ## Words -/

/-- Expands a word to one text. -/
def expandText (taking : Taking) (steps : Nat) (assigns : Bool) (w : Word) : Run String := do
  let m := (← get).machine
  return textOf (← expandWord taking steps false false (tildes m assigns w))

/-- Expands a word to a pattern. -/
def expandPattern (taking : Taking) (steps : Nat) (w : Word) : Run (List Glob.Token) := do
  let m := (← get).machine
  let items ← expandWord taking steps false false (tildes m false w)
  return Wildcard.tokens (markedOf items)

/-- The texts that a field stands for. -/
def fieldTexts (g : Going) (field : List Marked) : List String :=
  let plain := String.ofList (field.map Prod.fst)
  if Wildcard.isWild field && !g.machine.has 'f' then
    match Wildcard.paths g.disk field with
    | [] => [plain]
    | names => names
  else [plain]

/-- Expands a word to fields. -/
def expandField (taking : Taking) (steps : Nat) (w : Word) : Run (List String) := do
  let m := (← get).machine
  let items ← expandWord taking steps true false (tildes m false w)
  let g ← get
  return (splitItems (separators g.machine) none items).flatMap (fieldTexts g)

/-- Expands words to fields. -/
def expandFields (taking : Taking) (steps : Nat) (ws : List Word) : Run (List String) := do
  return (← ws.mapM (expandField taking steps)).flatten

end Playbook.Shell
