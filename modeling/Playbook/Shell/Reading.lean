/-
  Reading scripts. Characters become tokens as the grammar asks for them, because what a word
  means hangs on where it stands: it can be one of the language's own words or an alias. A script
  that is not complete yet is told from one that can never be.
-/
import Playbook.Shell.Syntax
import Playbook.Table
import Playbook.Number.Unsigned

namespace Playbook.Shell

/-! ## The text that is read -/

/-- Why reading stops. -/
inductive Halt where
  /-- The text ends too early. -/
  | more
  | bad (line : Nat) (what : String)

/-- What a script is made of. -/
inductive Token where
  | ended
  | newline
  /-- A word, and whether quotes are in it. -/
  | word (w : Word) (quoted : Bool)
  | keyword (w : String)
  | operator (o : String)
  /-- The beginning of a redirection. -/
  | redirect (stream : Option Nat) (o : String)

/-- The text of an alias that is being read. -/
structure Enclosing where
  name : String
  /-- Whether the text ends in a blank, so that the next word can be an alias, too. -/
  spaced : Bool
  /-- What follows the alias. -/
  text : List Char

/-- A here-document whose text comes behind the line. -/
structure Awaited where
  number : Nat
  ending : List Char
  /-- Whether tabs in front of lines do not count. -/
  tabs : Bool
  expand : Bool

/-- A text while it is read. -/
structure Reading where
  text : List Char
  enclosing : List Enclosing := []
  /-- Whether the text will not go on. -/
  final : Bool := true
  line : Nat := 1
  aliases : Table String := .empty
  awaited : List Awaited := []
  /-- The texts of the here-documents, by their numbers. -/
  documents : List (Nat × Word) := []
  /-- The number of the next here-document. -/
  next : Nat := 0
  /-- A token that was read and given back. -/
  back : Option Token := none
  /-- Whether an alias that ends in a blank was read to its end. -/
  afterAlias : Bool := false

/-- Reads something from a text. -/
abbrev Reader := StateT Reading (Except Halt)

namespace Reader

/-- What is wrong with the text, on the line that was reached. -/
def fault {α : Type} (what : String) : Reader α := do throw (.bad (← get).line what)

/-- The text without line feeds behind backslashes, and the line that it begins on. -/
def joined : (line : Nat) → List Char → Nat × List Char
  | line, '\\' :: '\n' :: rest => joined (line + 1) rest
  | line, cs => (line, cs)

/-- The next character as it stands; none at the end of the text, or of an alias. -/
def peekRaw : Reader (Option Char) := do
  let r ← get
  match r.text with
  | c :: _ => return some c
  | [] =>
    if r.enclosing.isEmpty && !r.final then throw .more
    return none

/-- The next character; lines are joined where a backslash stands before their end. -/
def peek : Reader (Option Char) := do
  let r ← get
  let (line, text) := joined r.line r.text
  set { r with line, text }
  if text == ['\\'] && r.enclosing.isEmpty && !r.final then throw .more
  peekRaw

/-- Leaves out the next character. -/
def skip : Reader Unit :=
  modify fun r =>
    match r.text with
    | '\n' :: rest => { r with text := rest, line := r.line + 1 }
    | rest => { r with text := rest.tail }

/-- Leaves out the next character if it is the given one. -/
def skipIf (c : Char) : Reader Bool := do
  if (← peek) == some c then
    skip
    return true
  return false

/-- Goes on behind an alias that was read to its end; tells whether there was one. -/
def leaveAlias : Reader Bool := do
  let r ← get
  match r.text, r.enclosing with
  | [], e :: enclosing =>
    set { r with
      text := e.text
      enclosing
      afterAlias := r.afterAlias || e.spaced }
    return true
  | _, _ => return false

/-- Gives a token back. -/
def giveBack (t : Token) : Reader Unit := modify fun r => { r with back := some t }

/-- Leaves out the text up to the end of the line. -/
def skipLine : Reader Unit :=
  modify fun r => { r with text := r.text.dropWhile (· != '\n') }

end Reader

open Reader

/-! ## Words -/

/-- Where a part of a word stands. -/
inductive Setting where
  /-- Outside quotes and braces. -/
  | bare
  /-- The word that ends a here-document, where dollars mean nothing. -/
  | ending
  /-- In quotes, perhaps within braces outside quotes. -/
  | quoted (inBraces : Bool)
  /-- In braces outside quotes. -/
  | braced
  /-- In braces in quotes, perhaps within quotes of their own. -/
  | quotedBraced (inner : Bool)
  /-- In an expression, within parentheses of its own. -/
  | arithmetic (depth : Nat)
  /-- In the text of a here-document. -/
  | document
  deriving Repr, DecidableEq

namespace Setting

/-- Whether characters stand for themselves. -/
def isQuoted : Setting → Bool
  | bare => false
  | ending => false
  | braced => false
  | _ => true

/-- Whether a backslash takes the meaning of a character away. -/
def escapes (s : Setting) (c : Char) : Bool :=
  match s with
  | quoted inBraces => "\\\x60$\"".toList.contains c || (inBraces && c == '\x7d')
  | quotedBraced _ => "\\\x60$\"\x7d".toList.contains c
  | arithmetic _ => "\\\x60$\"".toList.contains c
  | document => "\\\x60$".toList.contains c
  | _ => true

/-- What is wrong with a text that ends here, if anything. -/
def endFault? : Setting → Option String
  | quoted _ => some "Unterminated quoted string"
  | quotedBraced _ => some "Unterminated quoted string"
  | braced => some "Missing '\x7d'"
  | arithmetic _ => some "Missing '))'"
  | _ => none

end Setting

/-- The characters that end a word. -/
def endsWord (c : Char) : Bool := " \t\n;&|<>()".toList.contains c

/-- The parameters whose names are signs. -/
def isSign (c : Char) : Bool := "?#@*$!-".toList.contains c

/-- The text in single quotes, behind the first one. -/
def single : (steps : Nat) → (seen : List Char) → Reader (List Char)
  | 0, _ => throw .more
  | n + 1, seen => do
    match ← peekRaw with
    | none =>
      if ← leaveAlias then single n seen
      else fault "Unterminated quoted string"
    | some c =>
      skip
      if c == '\'' then return seen.reverse else single n (c :: seen)

/-- The name of a parameter without braces. -/
def nameFrom (p : Char → Bool) : (steps : Nat) → (seen : List Char) → Reader String
  | 0, _ => throw .more
  | n + 1, seen => do
    match ← peek with
    | some c =>
      if p c then
        skip
        nameFrom p n (c :: seen)
      else return String.ofList seen.reverse
    | none => return String.ofList seen.reverse

/-- The name of a parameter in braces and whether its length is asked for; none if there is no
such parameter. -/
def bracedName (n : Nat) : Reader (Option (String × Bool)) := do
  match ← peek with
  | none => return none
  | some c =>
    if isNameStart c then return some (← nameFrom isNameChar n [], false)
    else if c.isDigit then return some (← nameFrom Char.isDigit n [], false)
    else if c == '#' then
      skip
      match ← peek with
      | none => return some ("#", false)
      | some d =>
        if isNameStart d then return some (← nameFrom isNameChar n [], true)
        else if d.isDigit then return some (← nameFrom Char.isDigit n [], true)
        else if isSign d then
          -- the sign is the parameter only if nothing follows it
          let before ← get
          skip
          if (← peek) == some '\x7d' then return some (String.singleton d, true)
          set before
          return some ("#", false)
        else return some ("#", false)
    else if isSign c then
      skip
      return some (String.singleton c, false)
    else return none

/-- The use that stands behind the name of a parameter. -/
def useOf : Reader Use := do
  let colon ← skipIf ':'
  let c ← peek
  match c with
  | some '-' => skip; return .default colon
  | some '+' => skip; return .alternative colon
  | some '=' => skip; return .assign colon
  | some '?' => skip; return .demand colon
  | some '\x7d' => return if colon then .unknown else .value
  | _ =>
    if colon then return .unknown
    match c with
    | some '%' => skip; return .trim true (← skipIf '%')
    | some '#' => skip; return .trim false (← skipIf '#')
    | _ => return .unknown

/-- The text of a command between backquotes, behind the first one. -/
def backquoted (inQuotes : Bool) : (steps : Nat) → (seen : List Char) → Reader (List Char)
  | 0, _ => throw .more
  | n + 1, seen => do
    match ← peek with
    | none =>
      if ← leaveAlias then backquoted inQuotes n seen
      else fault "EOF in backquote substitution"
    | some '\x60' =>
      skip
      return seen.reverse
    | some '\\' =>
      skip
      match ← peekRaw with
      | none => fault "EOF in backquote substitution"
      | some c =>
        skip
        if "\\\x60$".toList.contains c || (inQuotes && c == '"') then
          backquoted inQuotes n (c :: seen)
        else backquoted inQuotes n (c :: '\\' :: seen)
    | some c =>
      skip
      backquoted inQuotes n (c :: seen)

/-- The lines of a text up to an ending, reversed, and what follows; none if the ending is
missing. A line behind a joint cannot be the ending. -/
def linesUpTo (a : Awaited) : (steps : Nat) → (glued : Bool) → List (List Char) → List Char →
    List (List Char) × Option (List Char)
  | 0, _, seen, _ => (seen, none)
  | n + 1, glued, seen, cs =>
    let line := cs.takeWhile (· != '\n')
    let shown := if a.tabs then line.dropWhile (· == '\t') else line
    match cs.drop line.length with
    | [] => (if shown.isEmpty || shown == a.ending then seen else shown :: seen, none)
    | _ :: rest =>
      if shown == a.ending && !glued then (seen, some rest)
      else
        let slashes := (line.reverse.takeWhile (· == '\\')).length
        linesUpTo a n (a.expand && slashes % 2 == 1) ((shown ++ ['\n']) :: seen) rest

/-- What is said of a token that cannot stand where it stands. -/
def Token.describe : Token → String
  | .ended => "end of file"
  | .newline => "newline"
  | .word _ _ => "word"
  | .keyword w => "\"" ++ w ++ "\""
  | .operator o => "\"" ++ o ++ "\""
  | .redirect _ _ => "redirection"

/-- Reports a token that cannot stand where it stands. -/
def unexpected {α : Type} (t : Token) (expected : Option String := none) : Reader α :=
  let hint := match expected with
    | some w => " (expecting " ++ w ++ ")"
    | none => ""
  fault (t.describe ++ " unexpected" ++ hint)

/-- Whether a token ends a list of commands. -/
def Token.endsList : Token → Bool
  | .ended => true
  | .operator o => o == ")" || o == ";;"
  | .keyword w => ["do", "done", "elif", "else", "esac", "fi", "then", "\x7d"].contains w
  | _ => false

/-- Whether a token is an operator. -/
def Token.isOperator (t : Token) (o : String) : Bool :=
  match t with
  | .operator p => p == o
  | _ => false

/-- Whether a token is a word of the language. -/
def Token.isKeyword (t : Token) (w : String) : Bool :=
  match t with
  | .keyword v => v == w
  | _ => false

/-- What a word can be besides itself. -/
structure Look where
  /-- Whether newlines are left out. -/
  newlines : Bool := false
  keywords : Bool := false
  aliases : Bool := false

/-- Where a command begins. -/
def Look.command : Look := { keywords := true, aliases := true }

/-- Where a command begins, perhaps on a later line. -/
def Look.later : Look := { newlines := true, keywords := true, aliases := true }

/-- The name and the value of a word that assigns one. -/
def assignment? (w : Word) : Option (String × Word) :=
  let name := w.takeWhile fun (p : Part) =>
    match p with
    | .char c false => isNameChar c
    | _ => false
  match w.drop name.length, plain? name with
  | .char '=' false :: value, some text => if isName text.toList then some (text, value) else none
  | _, _ => none

/-- How many commands one may lie within another. -/
inductive ListKind where
  /-- A line of commands. -/
  | line
  /-- Commands up to what ends them, at least one. -/
  | full
  /-- Commands up to what ends them, perhaps none. -/
  | any
  deriving DecidableEq

mutual

/-- The parts of a word up to its end; `seen` are the ones before, reversed. -/
def parts : (steps : Nat) → Setting → (seen : Word) → Reader Word
  | 0, _, _ => throw .more
  | n + 1, s, seen => do
    let q := s.isQuoted
    match ← peek with
    | none =>
      if s != .bare && s != .ending && (← leaveAlias) then parts n s seen
      else
        match s.endFault? with
        | some what => fault what
        | none => return seen.reverse
    | some c =>
      match s, c with
      | .bare, _ | .ending, _ =>
        if endsWord c then return seen.reverse
      | .quoted _, '"' =>
        skip
        return seen.reverse
      | .braced, '\x7d' | .quotedBraced false, '\x7d' =>
        skip
        return seen.reverse
      | _, _ => pure ()
      skip
      if c == '\\' then
        match ← peekRaw with
        | none => parts n s (.char '\\' true :: seen)
        | some d =>
          skip
          if s.escapes d then parts n s (.char d true :: seen)
          else parts n s (.char d true :: .char '\\' true :: seen)
      else if c == '\'' && !q then
        let inner ← single n []
        parts n s ((inner.map fun c => Part.char c true).reverse ++ .quotes :: seen)
      else if c == '"' && !q then
        let inner ← parts n (.quoted (s == .braced)) []
        match inner with
        | [.parameter "@" .value [] true] => parts n s (inner ++ seen)
        | _ => parts n s (inner.reverse ++ .quotes :: seen)
      else if c == '$' && s != .ending then
        let found ← dollar n s
        parts n s (found :: seen)
      else if c == '\x60' && s != .ending then
        let inside ← backquoted (q && s != .document) n []
        let body ← apart n inside
        parts n s (.command body q :: seen)
      else
        match s, c with
        | .quotedBraced inner, '"' => parts n (.quotedBraced !inner) seen
        | .arithmetic depth, '(' => parts n (.arithmetic (depth + 1)) (.char c true :: seen)
        | .arithmetic 0, ')' =>
          if ← skipIf ')' then return seen.reverse
          else parts n s (.char c true :: seen)
        | .arithmetic (depth + 1), ')' => parts n (.arithmetic depth) (.char c true :: seen)
        | _, _ => parts n s (.char c q :: seen)

/-- What stands behind a dollar. -/
def dollar : (steps : Nat) → Setting → Reader Part
  | 0, _ => throw .more
  | n + 1, s => do
    let q := s.isQuoted
    match ← peek with
    | some '(' =>
      skip
      if ← skipIf '(' then return .arithmetic (← parts n (.arithmetic 0) []) q
      else
        let awaited := (← get).awaited
        modify fun r => { r with awaited := [] }
        let body ← commands n .any
        let t ← token n {}
        if !t.isOperator ")" then unexpected t (some "\")\"")
        modify fun r => { r with awaited }
        return .command body q
    | some '\x7b' =>
      skip
      match ← bracedName n with
      | none => return .parameter "" .unknown (← rest n q false) q
      | some (name, true) =>
        if ← skipIf '\x7d' then return .parameter name .length [] q
        else return .parameter name .unknown (← rest n q false) q
      | some (name, false) =>
        let use ← useOf
        match use with
        | .value =>
          skip
          return .parameter name use [] q
        | .trim _ _ => return .parameter name use (← rest n q true) q
        | _ => return .parameter name use (← rest n q false) q
    | some c =>
      if isNameStart c then return .parameter (← nameFrom isNameChar n []) .value [] q
      else if c.isDigit || isSign c then
        skip
        return .parameter (String.singleton c) .value [] q
      else return .char '$' q
    | none => return .char '$' q

/-- The word behind the use of a parameter. -/
def rest : (steps : Nat) → (quoted trims : Bool) → Reader Word
  | 0, _, _ => throw .more
  | n + 1, quoted, trims => parts n (if quoted && !trims then .quotedBraced false else .braced) []

/-- The script that a text of its own holds. -/
def apart : (steps : Nat) → List Char → Reader Script
  | 0, _ => throw .more
  | n + 1, text => do
    let outer ← get
    set { outer with
      text
      enclosing := []
      final := true
      line := 1
      awaited := []
      back := none
      afterAlias := false }
    let body ← commands n .any
    readDocuments n
    modify fun r => { outer with documents := r.documents, next := r.next }
    return body

/-- Reads the here-documents that begin on this line. -/
def readDocuments : (steps : Nat) → Reader Unit
  | 0 => throw .more
  | n + 1 => do
    match (← get).awaited with
    | [] => return ()
    | a :: awaited =>
      let r ← get
      let (reversed, after) := linesUpTo a (r.text.length + 1) false [] r.text
      if after.isNone && !r.final then throw .more
      let lines := reversed.reverse.flatten
      let doc ← if a.expand then do
          set { r with text := lines, enclosing := [], final := true, back := none }
          parts n .document []
        else pure (lines.map fun c => Part.char c true)
      let text := after.getD []
      let taken := (r.text.take (r.text.length - text.length)).count '\n'
      set { r with
        text
        awaited
        line := r.line + taken
        documents := (a.number, doc) :: (← get).documents
        next := (← get).next }
      readDocuments n

/-- The next token as it stands. -/
def rawToken : (steps : Nat) → Reader Token
  | 0 => throw .more
  | n + 1 => do
    match (← get).back with
    | some t =>
      modify fun r => { r with back := none }
      return t
    | none =>
      match ← peek with
      | none => if ← leaveAlias then rawToken n else return .ended
      | some c =>
        let doubled := fun (o : Char) => do
          skip
          let twice ← skipIf o
          return Token.operator (String.ofList (if twice then [o, o] else [o]))
        match c with
        | ' ' | '\t' =>
          skip
          rawToken n
        | '#' =>
          skipLine
          rawToken n
        | '\n' =>
          skip
          return .newline
        | '&' | '|' | ';' => doubled c
        | '(' | ')' =>
          skip
          return .operator (String.singleton c)
        | '<' | '>' => redirectToken none
        | _ =>
          let w ← parts n .bare []
          let next ← peek
          let redirects := next == some '<' || next == some '>'
          match w with
          | [.char d false] =>
            if redirects && d.isDigit then redirectToken (some (d.toNat - '0'.toNat))
            else return .word w false
          | _ =>
            return .word w (w.any fun (p : Part) =>
              match p with
              | .char _ false => false
              | .char _ true => true
              | .quotes => true
              | _ => false)

/-- The operator of a redirection. -/
def redirectToken (stream : Option Nat) : Reader Token := do
  let c ← peek
  skip
  if c == some '>' then
    if ← skipIf '>' then return .redirect stream ">>"
    if ← skipIf '|' then return .redirect stream ">|"
    if ← skipIf '&' then return .redirect stream ">&"
    return .redirect stream ">"
  else
    if ← skipIf '<' then
      if ← skipIf '-' then return .redirect stream "<<-"
      return .redirect stream "<<"
    if ← skipIf '&' then return .redirect stream "<&"
    if ← skipIf '>' then return .redirect stream "<>"
    return .redirect stream "<"

/-- The next token: a word can be one of the language's own, or an alias. -/
def token : (steps : Nat) → Look → Reader Token
  | 0, _ => throw .more
  | n + 1, look => do
    match ← rawToken n with
    | .newline =>
      if look.newlines then
        readDocuments n
        token n look
      else return .newline
    | .word w false =>
      let aliases := look.aliases || (← get).afterAlias
      modify fun r => { r with afterAlias := false }
      match plain? w with
      | none => return .word w false
      | some text =>
        if look.keywords && keywords.contains text then return .keyword text
        let r ← get
        match r.aliases.get? text with
        | none => return .word w false
        | some value =>
          if !aliases || (r.enclosing.any fun e => e.name == text) then return .word w false
          let last := value.toList.getLast?
          let spaced := last == some ' ' || last == some '\t'
          set { r with
            text := value.toList
            enclosing := ⟨text, spaced, r.text⟩ :: r.enclosing }
          token n look
    | t =>
      modify fun r => { r with afterAlias := false }
      return t

/-- The word that a redirection leads to, behind its operator. -/
def redirectFrom : (steps : Nat) → Option Nat → String → Reader Redirect
  | 0, _, _ => throw .more
  | n + 1, stream, o => do
    if o == "<<" || o == "<<-" then
      modify fun r => { r with afterAlias := false }
      let ending ← endingWord n
      let r ← get
      let quoted := ending.any fun (p : Part) =>
        match p with
        | .char _ false => false
        | _ => true
      let text := ending.filterMap fun (p : Part) =>
        match p with
        | .char c _ => some c
        | _ => none
      set { r with
        awaited := r.awaited ++ [(⟨r.next, text, o == "<<-", !quoted⟩ : Awaited)]
        next := r.next + 1 }
      return .mk (stream.getD 0) .read (.document r.next)
    else
      match ← token n {} with
      | .word w _ =>
        let (kind, usual) := match o with
          | "<" => (RedirectKind.read, 0)
          | ">" => (.write, 1)
          | ">|" => (.overwrite, 1)
          | ">>" => (.append, 1)
          | "<>" => (.both, 0)
          | "<&" => (.same, 0)
          | _ => (.same, 1)
        return .mk (stream.getD usual) kind (.word w)
      | t => unexpected t

/-- The word that ends a here-document. -/
def endingWord : (steps : Nat) → Reader Word
  | 0 => throw .more
  | n + 1 => do
    match ← peek with
    | some ' ' | some '\t' =>
      skip
      endingWord n
    | some c =>
      if endsWord c || c == '#' then unexpected (← token n {})
      else parts n .ending []
    | none => if ← leaveAlias then endingWord n else unexpected .ended

/-- The redirections that come next. -/
def redirects : (steps : Nat) → Reader (List Redirect)
  | 0 => throw .more
  | n + 1 => do
    match ← token n .command with
    | .redirect stream o =>
      let first ← redirectFrom n stream o
      return first :: (← redirects n)
    | t =>
      giveBack t
      return []

/-- Commands one after the other. -/
def commands : (steps : Nat) → ListKind → Reader Script
  | 0, _ => throw .more
  | n + 1, kind => do
    let look : Look := { newlines := kind != .line, keywords := true, aliases := true }
    match ← token n look with
    | .newline =>
      readDocuments n
      return .nothing
    | .ended =>
      giveBack .ended
      return .nothing
    | t =>
      giveBack t
      if kind == .any && t.endsList then return .nothing
      let first ← andOr n
      let after := if kind == .line then ListKind.line else .any
      let more := fun (first : Script) => do
        match ← commands n after with
        | .nothing => return first
        | others => return .seq first others
      match ← token n {} with
      | .newline =>
        if kind == .line then
          readDocuments n
          return first
        giveBack .newline
        more first
      | .ended =>
        giveBack .ended
        return first
      | .operator "&" => more (.background (← get).line first)
      | .operator ";" => more first
      | t =>
        if kind == .line then unexpected t
        giveBack t
        return first

/-- Pipelines joined by what came of the one before. -/
def andOr : (steps : Nat) → Reader Script
  | 0 => throw .more
  | n + 1 => do andOrFrom n (← pipeline n {})

/-- The rest of a list of joined pipelines. -/
def andOrFrom : (steps : Nat) → Script → Reader Script
  | 0, _ => throw .more
  | n + 1, first => do
    match ← token n {} with
    | .operator "&&" => andOrFrom n (.both first (← pipeline n .later))
    | .operator "||" => andOrFrom n (.either first (← pipeline n .later))
    | t =>
      giveBack t
      return first

/-- Commands joined by pipes, perhaps negated. -/
def pipeline : (steps : Nat) → Look → Reader Script
  | 0, _ => throw .more
  | n + 1, look => do
    let t ← token n look
    let negated := t.isKeyword "!"
    if !negated then giveBack t
    let first ← command n (if negated then .command else {})
    let others ← piped n
    let whole := if others.isEmpty then first else .pipe (first :: others)
    return if negated then .negate whole else whole

/-- The commands behind pipes. -/
def piped : (steps : Nat) → Reader (List Script)
  | 0 => throw .more
  | n + 1 => do
    match ← token n {} with
    | .operator "|" =>
      let first ← command n .later
      return first :: (← piped n)
    | t =>
      giveBack t
      return []

/-- One command. -/
def command : (steps : Nat) → Look → Reader Script
  | 0, _ => throw .more
  | n + 1, look => do
    let line := (← get).line
    let t ← token n look
    let closed := fun (body : Script) (t : Token) => do
      let got ← token n {}
      let same := match t with
        | .keyword w => got.isKeyword w
        | .operator o => got.isOperator o
        | _ => false
      if !same then unexpected got (some t.describe)
      return body
    let redirected := fun (body : Script) => do
      match ← redirects n with
      | [] => return body
      | rs => return Script.redirected line body rs
    match t with
    | .keyword "if" => redirected (← branches n)
    | .keyword "while" =>
      let condition ← commands n .full
      redirected (.loop false condition (← body n {}))
    | .keyword "until" =>
      let condition ← commands n .full
      redirected (.loop true condition (← body n {}))
    | .keyword "for" => redirected (← each n line)
    | .keyword "case" =>
      match ← token n {} with
      | .word w _ =>
        let t ← token n .later
        if !t.isKeyword "in" then unexpected t (some "\"in\"")
        redirected (.choose line w (← arms n))
      | t => unexpected t (some "word")
    | .operator "(" =>
      let inner ← commands n .full
      let body ← closed inner (.operator ")")
      return .subshell line body (← redirects n)
    | .keyword "\x7b" =>
      let inner ← commands n .full
      redirected (← closed inner (.keyword "\x7d"))
    | .word _ _ | .redirect _ _ =>
      giveBack t
      simple n (← get).line true [] [] []
    | t => unexpected t

/-- A condition and what follows from it, behind the first word. -/
def branches : (steps : Nat) → Reader Script
  | 0 => throw .more
  | n + 1 => do
    let condition ← commands n .full
    let t ← token n {}
    if !t.isKeyword "then" then unexpected t (some "\"then\"")
    let yes ← commands n .full
    match ← token n {} with
    | .keyword "elif" => return .branch condition yes (← branches n)
    | .keyword "else" =>
      let no ← commands n .full
      let t ← token n {}
      if !t.isKeyword "fi" then unexpected t (some "\"fi\"")
      return .branch condition yes no
    | .keyword "fi" => return .branch condition yes .nothing
    | t => unexpected t (some "\"fi\"")

/-- The body of a loop. -/
def body : (steps : Nat) → Look → Reader Script
  | 0, _ => throw .more
  | n + 1, look => do
    let t ← token n look
    if !t.isKeyword "do" then unexpected t (some "\"do\"")
    let inner ← commands n .full
    let t ← token n {}
    if !t.isKeyword "done" then unexpected t (some "\"done\"")
    return inner

/-- A loop over words, behind its first word. -/
def each : (steps line : Nat) → Reader Script
  | 0, _ => throw .more
  | n + 1, line => do
    let name? := match ← token n {} with
      | .word w false => (plain? w).filter fun name => isName name.toList
      | _ => none
    match name? with
    | none => fault "Bad for loop variable"
    | some name =>
      match ← token n .later with
      | .keyword "in" =>
        let words ← wordsToEnd n
        return .each line name words (← body n .later)
      | t =>
        if !t.isOperator ";" then giveBack t
        return .each line name [allArguments] (← body n .later)

/-- The words up to the end of a line. -/
def wordsToEnd : (steps : Nat) → Reader (List Word)
  | 0 => throw .more
  | n + 1 => do
    match ← token n {} with
    | .word w _ => return w :: (← wordsToEnd n)
    | .newline =>
      readDocuments n
      return []
    | .operator ";" => return []
    | t => unexpected t

/-- The arms of a choice. -/
def arms : (steps : Nat) → Reader (List (List Word × Script))
  | 0 => throw .more
  | n + 1 => do
    let t ← token n { newlines := true, keywords := true }
    if t.isKeyword "esac" then return []
    let first ← if t.isOperator "(" then token n {} else pure t
    let patterns ← alternatives n first
    let body ← commands n .any
    match ← token n { newlines := true, keywords := true } with
    | .keyword "esac" => return [(patterns, body)]
    | .operator ";;" => return (patterns, body) :: (← arms n)
    | t => unexpected t (some "\";;\"")

/-- The patterns of an arm, with the first token read. -/
def alternatives : (steps : Nat) → Token → Reader (List Word)
  | 0, _ => throw .more
  | n + 1, first => do
    let w : Word := match first with
      | .word w _ => w
      | .keyword w => w.toList.map fun c => .char c false
      | _ => []
    match ← token n {} with
    | .operator "|" => return w :: (← alternatives n (← token n {}))
    | .operator ")" => return [w]
    | t => unexpected t (some "\")\"")

/-- A simple command, or the definition of a function. `assigns` tells whether a word can be an
assignment; what was read is reversed. -/
def simple : (steps line : Nat) → (assigns : Bool) → List (String × Word) → List Word →
    List Redirect → Reader Script
  | 0, _, _, _, _, _ => throw .more
  | n + 1, line, assigns, assignments, words, rs => do
    match ← token n { aliases := assigns } with
    | .word w _ =>
      match if assigns then assignment? w else none with
      | some a => simple n line true (a :: assignments) words rs
      | none => simple n line false assignments (w :: words) rs
    | .redirect stream o =>
      simple n line assigns assignments words ((← redirectFrom n stream o) :: rs)
    | .operator "(" =>
      match assignments, words, rs with
      | [], [w], [] =>
        let t ← token n {}
        if !t.isOperator ")" then unexpected t (some "\")\"")
        match (plain? w).filter fun name =>
            isName name.toList && !specialCommands.contains name with
        | none => fault "Bad function name"
        | some name =>
          let line := (← get).line
          return .define line name (← command n .later)
      | _, _, _ => unexpected (.operator "(")
    | t =>
      giveBack t
      return .simple line assignments.reverse words.reverse rs.reverse

end

/-- What reading a line of commands comes to. -/
inductive LineRead where
  | script (s : Script) (rest : Reading)
  /-- Nothing is left to read. -/
  | finished
  | more
  | bad (line : Nat) (what : String)

/-- Reads a line of commands. -/
def readLine (r : Reading) : LineRead :=
  let steps := 16 * r.text.length + 256
  let line : Reader (Option Script) := do
    match ← token steps .command with
    | .ended => return none
    | t =>
      giveBack t
      let s ← commands steps .line
      modify fun r => { r with back := none }
      return some s
  match line.run r with
  | .ok (some s, rest) => .script s rest
  | .ok (none, _) => .finished
  | .error .more => .more
  | .error (.bad line what) => .bad line what

end Playbook.Shell
