/-
  The environment file: assignments, one on a line, that add to the environment what it does not
  have yet. Values may stand in quotes, where they may go on over several lines, and may refer to
  other variables. The first fault ends the reading; what stands before it is kept.
-/
import Playbook.Console
import Playbook.Text.WordChar

namespace Playbook.Program

open Playbook.Text

namespace EnvironmentFile

/-- The name of the file in the working directory. -/
def fileName : String := ".env"

/-! ## Statements -/

/-- Where a statement stands at a character: inside of quotes, or behind something that changes how
the next character is read. -/
inductive Position where
  | plain
  | escape
  /-- Behind a blank, where a comment may begin. -/
  | blank
  | weak
  | weakEscape
  | strong
  | strongEscape
  deriving Repr, DecidableEq

namespace Position

/-- The position behind one more character. -/
def next (p : Position) (c : Char) : Position :=
  let fresh := if c == '\\' then escape else if c == '"' then weak
    else if c == '\'' then strong else plain
  match p with
  | plain => if isBlank c && c != '\n' && c != '\r' then blank else fresh
  | blank => fresh
  | escape => plain
  | weak => if c == '\\' then weakEscape else if c == '"' then plain else weak
  | weakEscape => weak
  | strong => if c == '\\' then strongEscape else if c == '\'' then plain else strong
  | strongEscape => strong

/-- The position behind a line, or how many bytes of the line stand before a comment. -/
def afterLine (p : Position) (offset : Nat) : List Char → Except Nat Position
  | [] => .ok p
  | c :: cs =>
    if p = blank ∧ c = '#' then .error offset
    else afterLine (p.next c) (offset + c.utf8Size) cs

end Position

/-- The characters within the first `n` bytes. -/
def takeBytes : (n : Nat) → List Char → List Char
  | _, [] => []
  | n, c :: cs => if c.utf8Size ≤ n then c :: takeBytes (n - c.utf8Size) cs else []

/-- A line without its line feed and a carriage return before that. -/
def withoutEnd (cs : List Char) : List Char :=
  match cs.reverse with
  | '\n' :: '\r' :: rest => rest.reverse
  | '\n' :: rest => rest.reverse
  | _ => cs

/-! ## Values -/

/-- How the next character of a value is read. -/
inductive Mode where
  | plain
  | escaped
  | strong
  /-- In the name of a variable behind a dollar sign. -/
  | name
  /-- In the name of a variable between braces. -/
  | bracedName
  /-- Behind the value. -/
  | ended
  deriving Repr, DecidableEq

/-- A value while it is read. -/
structure Value where
  mode : Mode := .plain
  /-- Whether the place is between double quotes. -/
  weak : Bool := false
  /-- The name of a variable so far. -/
  naming : List Char := []
  text : List Char := []
  deriving Repr, DecidableEq

namespace Value

/-- The brace that opens a name. -/
def openBrace : Char := '\x7b'

/-- The brace that closes a name. -/
def closeBrace : Char := '\x7d'

def push (v : Value) (c : Char) : Value := { v with text := v.text ++ [c] }

/-- The value with the variable that was named. -/
def substitute (environment : Table String) (v : Value) : Value :=
  let text := (environment.get? (String.ofList v.naming)).getD ""
  { v with text := v.text ++ text.toList, naming := [] }

/-- A letter or digit of a name. -/
def isNameChar (c : Char) : Bool := isLetterOrNumber c

/-- The value after one more character; none if the character cannot stand there. -/
def take (environment : Table String) (v : Value) (c : Char) : Option Value :=
  match v.mode with
  | .ended =>
    if c == ' ' || c == '\t' then some v else none
  | .escaped =>
    if c == 'n' then some { v.push '\n' with mode := .plain }
    else if ['\\', '\'', '"', '$', ' '].contains c then some { v.push c with mode := .plain }
    else none
  | .strong => some (if c == '\'' then { v with mode := .plain } else v.push c)
  | .name =>
    if isNameChar c then some { v with naming := v.naming ++ [c] }
    else if c == openBrace && v.naming.isEmpty then some { v with mode := .bracedName }
    else
      let named := v.substitute environment
      some (if c == '$' then named else { named.push c with mode := .plain })
  | .bracedName =>
    if c == closeBrace then some { v.substitute environment with mode := .plain }
    else some { v with naming := v.naming ++ [c] }
  | .plain =>
    if c == '$' then some { v with mode := .name }
    else if c == '\\' then some { v with mode := .escaped }
    else if c == '"' then some { v with weak := !v.weak }
    else if v.weak then some (v.push c)
    else if c == '\'' then some { v with mode := .strong }
    else if c == ' ' || c == '\t' then some { v with mode := .ended }
    else some (v.push c)

/-- Reads a value to its end, or to the comment behind it. -/
def takeAll (environment : Table String) : Value → List Char → Option Value
  | v, [] => some v
  | v, c :: cs =>
    if v.mode = .ended ∧ c = '#' then some v
    else
      match v.take environment c with
      | some next => takeAll environment next cs
      | none => none

/-- The text of a value, if its quotes and braces are closed. -/
def ofChars? (environment : Table String) (cs : List Char) : Option String :=
  match ({} : Value).takeAll environment cs with
  | none => none
  | some v =>
    if v.weak || v.mode == .strong || v.mode == .bracedName then none
    else some (String.ofList (v.substitute environment).text)

end Value

/-! ## Assignments -/

/-- What a statement is. -/
inductive Statement where
  | nothing
  | assignment (key value : String)
  deriving Repr, DecidableEq

def isKeyStart (c : Char) : Bool := c.isAlpha || c == '_'

def isKeyChar (c : Char) : Bool := c.isAlphanum || c == '_' || c == '.'

/-- The key in front of a statement, and what comes after it and the blanks behind it. -/
def key? (cs : List Char) : Option (String × List Char) :=
  match cs with
  | [] => none
  | c :: _ =>
    if isKeyStart c then
      some (String.ofList (cs.takeWhile isKeyChar), trimLeft (cs.dropWhile isKeyChar))
    else none

/-- The key of an assignment and what stands behind the equals sign. -/
def target? (cs : List Char) : Option (String × List Char) :=
  match key? cs with
  | some (key, '=' :: rest) => some (key, trimLeft rest)
  | some ("export", rest) =>
    match key? rest with
    | some (key, '=' :: rest) => some (key, trimLeft rest)
    | _ => none
  | _ => none

/-- A text that holds nothing but perhaps a comment. -/
def isVoid (cs : List Char) : Bool := cs.isEmpty || cs.head? == some '#'

/-- The statement on a line; none if it is faulty. -/
def statement? (environment : Table String) (line : List Char) : Option Statement :=
  let cs := trim line
  if isVoid cs then some .nothing
  else
    match target? cs with
    | none => none
    | some (key, rest) =>
      if isVoid rest then some (.assignment key "")
      else (Value.ofChars? environment rest).map (Statement.assignment key)

/-! ## Loading -/

/-- The environment while the file is read. -/
structure Loading where
  environment : Table String
  /-- The lines of a statement that is not complete. -/
  unfinished : List Char := []
  position : Position := .plain

namespace Loading

/-- Executes a complete statement; none if it is faulty. -/
def execute (l : Loading) (line : List Char) : Option Loading :=
  match statement? l.environment line with
  | none => none
  | some .nothing => some { environment := l.environment }
  | some (.assignment key value) =>
    if l.environment.contains key then some { environment := l.environment }
    else some { environment := l.environment.insert key value }

/-- Reads one more line; none at a fault. -/
def take (l : Loading) (line : List Char) : Option Loading :=
  let all := l.unfinished ++ line
  if (trimLeft all).head? == some '#' then some { environment := l.environment }
  else
    match l.position.afterLine 0 line with
    | .error offset => l.execute (l.unfinished ++ takeBytes offset line)
    | .ok .plain => l.execute (withoutEnd all)
    | .ok position => some { l with unfinished := all, position }

/-- Reads lines up to a fault or to a line that is no text. -/
def takeAll : Loading → List (Option (List Char)) → Loading
  | l, [] => l
  | l, none :: _ => l
  | l, some line :: rest =>
    match l.take line with
    | some next => takeAll next rest
    | none => l

end Loading

/-- The lines of a file with their line feeds; none for one that is no text. -/
def linesOf (content : Content) : List (Option (List Char)) :=
  let bytes := match content with
    | .text s => Utf8.encode s
    | .binary bytes => bytes
  let bytes := match bytes with
    | 0xEF :: 0xBB :: 0xBF :: rest => rest
    | _ => bytes
  (rawLines bytes).map fun raw => (Utf8.decode raw).toOption.map String.toList

/-- The environment with what the environment file in the working directory adds to it. -/
def load (d : Disk) (environment : Table String) : Table String :=
  match d.find? fileName with
  | some (.file content) => (({ environment } : Loading).takeAll (linesOf content)).environment
  | _ => environment

end EnvironmentFile

end Playbook.Program
