/-
  Reading a pattern: groups and alternatives are kept on a stack while the text is read from left
  to right, so that the first fault found is the leftmost one that reading can see.
-/
import Playbook.Text.WordChar
import Playbook.Text.Blank
import Playbook.Pattern.Written

namespace Playbook.Pattern

open Playbook.Text

/-! ## The text and a place in it -/

/-- A pattern's text with a place in it. -/
structure Cursor where
  text : Array Char
  at_ : Nat := 0
  /-- Whether blanks and comments are passed over. -/
  spaced : Bool := false

namespace Cursor

def done (c : Cursor) : Bool := c.text.size ≤ c.at_

/-- The character at the place; NUL behind the end. -/
def char (c : Cursor) : Char := (c.text[c.at_]?).getD '\x00'

/-- Whether that character is here. -/
def sees (c : Cursor) (x : Char) : Bool := c.text[c.at_]? == some x

/-- One character further, unless at the end. -/
def bump (c : Cursor) : Cursor := if c.done then c else { c with at_ := c.at_ + 1 }

/-- Whether the text goes on with these characters. -/
def startsWith (c : Cursor) (cs : List Char) : Bool :=
  (c.text.extract c.at_ (c.at_ + cs.length)).toList == cs

def skip (c : Cursor) (n : Nat) : Cursor := { c with at_ := c.at_ + n }

/-- The end of the blanks and comments from `i` on. -/
def passSpace (text : Array Char) : (steps i : Nat) → (comment : Bool) → Nat
  | 0, i, _ => i
  | n + 1, i, comment =>
    match text[i]? with
    | none => i
    | some x =>
      if comment then passSpace text n (i + 1) (x != '\n')
      else if isBlank x then passSpace text n (i + 1) false
      else if x == '#' then passSpace text n (i + 1) true
      else i

/-- Past blanks and comments, where these do not count. -/
def space (c : Cursor) : Cursor :=
  if c.spaced then { c with at_ := passSpace c.text c.text.size c.at_ false } else c

/-- One character further and past blanks and comments. -/
def step (c : Cursor) : Cursor := c.bump.space

/-- The end of the characters from here on that satisfy `p`. -/
def passWhile (p : Char → Bool) : (steps : Nat) → Cursor → Cursor
  | 0, c => c
  | n + 1, c => if !c.done && p c.char then passWhile p n c.bump else c

/-- The characters between here and a later place. -/
def slice (c : Cursor) (past : Nat) : List Char := (c.text.extract c.at_ past).toList

/-- The stretch of the character here. -/
def charSpan (c : Cursor) : Span := ⟨c.at_, c.at_ + 1⟩

/-- The empty stretch here. -/
def hereSpan (c : Cursor) : Span := ⟨c.at_, c.at_⟩

/-- The character behind this one. -/
def peek (c : Cursor) : Option Char := c.text[c.at_ + 1]?

/-- The first character from `i` on that is neither blank nor the sign of a comment. -/
def peekPast (text : Array Char) : (steps i : Nat) → (comment : Bool) → Option Char
  | 0, _, _ => none
  | n + 1, i, comment =>
    match text[i]? with
    | none => none
    | some x =>
      if isBlank x then peekPast text n (i + 1) comment
      else if x == '#' && !comment then peekPast text n (i + 1) true
      else some x

/-- The next character that is taken for the one behind this. Where blanks and comments do not
count, they are looked through, but only up to the first character of a comment that is not blank;
if nothing else follows, the next character counts after all. -/
def peekSpace (c : Cursor) : Option Char :=
  if !c.spaced then c.peek
  else if c.done then none
  else (peekPast c.text c.text.size (c.at_ + 1) false).or c.peek

end Cursor

/-! ## Primitives -/

/-- What a single character or an escape stands for. -/
inductive Primitive where
  | letter (l : Letter)
  | point (span : Span)
  | edge (span : Span) (b : Boundary)
  | escaped (span : Span) (kind : LetterClass) (negated : Bool)
  | property (span : Span) (query : PropertyQuery) (negated : Bool)
  deriving Repr

/-- The characters that have a meaning of their own. -/
def isMeta (c : Char) : Bool := "\\.+*?()|[]\x7b\x7d^$#&-~".toList.contains c

/-- The characters that a backslash leaves as they are. -/
def isEscapable (c : Char) : Bool :=
  isMeta c || (c.toNat < 128 && !c.isAlphanum && c != '<' && c != '>')

def isHex (c : Char) : Bool :=
  c.isDigit || ('a' ≤ c && c ≤ 'f') || ('A' ≤ c && c ≤ 'F')

def hexValue (c : Char) : Nat :=
  if c.isDigit then c.toNat - '0'.toNat else c.toLower.toNat - 'a'.toNat + 10

/-- The character whose number the hexadecimal digits spell. -/
def charOfHex? (cs : List Char) : Option Char :=
  let n := cs.foldl (fun n c => n * 16 + hexValue c) 0
  if n < 0xD800 || (0xDFFF < n && n < 0x110000) then some (Char.ofNat n) else none

/-- Reads `count` hexadecimal digits; the last one is left under the cursor. -/
def hexDigitsOf : (count : Nat) → (first : Bool) → Cursor → List Char → Parse (Cursor × List Char)
  | 0, _, c, digits => .ok (c, digits.reverse)
  | n + 1, first, c, digits => do
    let c := if first then c else c.step
    if !first && c.done then fail .escapeUnfinished c.hereSpan
    else if !isHex c.char then fail .hexDigit c.charSpan
    else hexDigitsOf n false c (c.char :: digits)

/-- Reads hexadecimal digits up to the closing brace. -/
def hexBraceOf (opening : Nat) : (steps : Nat) → Cursor → List Char → Parse (Cursor × List Char)
  | 0, c, digits => .ok (c, digits.reverse)
  | n + 1, c, digits => do
    let c := c.step
    if c.done then fail .escapeUnfinished ⟨opening, c.at_⟩
    else if c.sees '\x7d' then .ok (c, digits.reverse)
    else if !isHex c.char then fail .hexDigit c.charSpan
    else hexBraceOf opening n c (c.char :: digits)

/-- A character by its number, after the letter that tells how many digits there are. -/
def readHex (start : Nat) (c : Cursor) : Parse (Cursor × Primitive) := do
  let asByte := c.sees 'x'
  let count := if asByte then 2 else if c.sees 'u' then 4 else 8
  let c := c.step
  if c.done then fail .escapeUnfinished c.hereSpan
  else if c.sees '\x7b' then
    let opening := c.at_
    let (c, digits) ← hexBraceOf opening (c.text.size + 1) c []
    let closing := c.at_
    let c := c.step
    if digits.isEmpty then fail .hexEmpty ⟨opening, c.at_⟩
    else match charOfHex? digits with
      | some x => return (c, .letter { char := x, span := ⟨start, c.at_⟩ })
      | none => fail .hexInvalid ⟨opening + 1, closing⟩
  else
    let first := c.at_
    let (c, digits) ← hexDigitsOf count true c []
    let c := c.step
    match charOfHex? digits with
    | some x => return (c, .letter { char := x, span := ⟨start, c.at_⟩, asByte })
    | none => fail .hexInvalid ⟨first, c.at_⟩

/-- The name of a property up to the closing brace. -/
def propertyName : (steps : Nat) → Cursor → List Char → Parse (Cursor × List Char)
  | 0, c, name => .ok (c, name.reverse)
  | n + 1, c, name => do
    let c := c.step
    if c.done then fail .escapeUnfinished c.hereSpan
    else if c.sees '\x7d' then .ok (c.bump, name.reverse)
    else propertyName n c (c.char :: name)

/-- The text before and after the first occurrence of `part`. -/
def cutAt? (part : List Char) : List Char → Option (List Char × List Char)
  | [] => if part.isEmpty then some ([], []) else none
  | c :: cs =>
    if part.isPrefixOf (c :: cs) then some ([], (c :: cs).drop part.length)
    else (cutAt? part cs).map fun (a, b) => (c :: a, b)

/-- What the text between the braces asks for. -/
def PropertyQuery.ofText (text : List Char) : PropertyQuery :=
  match cutAt? ['!', '='] text, cutAt? [':'] text, cutAt? ['='] text with
  | some (name, value), _, _ => .valued name value true
  | none, some (name, value), _ => .valued name value false
  | none, none, some (name, value) => .valued name value false
  | none, none, none => .named text

/-- A property between braces or of one letter. -/
def readProperty (start : Nat) (c : Cursor) : Parse (Cursor × Primitive) := do
  let negated := c.sees 'P'
  let c := c.step
  if c.done then fail .escapeUnfinished c.hereSpan
  else
    let (c, query) ←
      if c.sees '\x7b' then do
        let (c, asked) ← propertyName (c.text.size + 1) c []
        pure (c, PropertyQuery.ofText asked)
      else if c.sees '\\' then fail .propertyInvalid c.charSpan
      else pure (c.step, PropertyQuery.named [c.char])
    return (c, .property ⟨start, c.at_⟩ query negated)

/-- The letters of the named word boundaries. -/
def isEdgeLetter (c : Char) : Bool := c.isAlpha || c == '-'

/-- The letters of a named word boundary. -/
def edgeName : (steps : Nat) → Cursor → List Char → Cursor × List Char
  | 0, c, name => (c, name.reverse)
  | n + 1, c, name =>
    if !c.done && isEdgeLetter c.char then edgeName n c.step (c.char :: name)
    else (c, name.reverse)

/-- A name in braces behind a word boundary; none if the braces hold something else. -/
def readEdgeName? (start : Nat) (c : Cursor) : Parse (Option (Cursor × Boundary)) := do
  if !c.sees '\x7b' then return none
  let opening := c.at_
  let inside := c.step
  if inside.done then fail .edgeUnfinished ⟨start, inside.at_⟩
  else if !isEdgeLetter inside.char then return none
  else
    let (c, name) := edgeName (c.text.size + 1) inside []
    if !c.sees '\x7d' then fail .edgeUnclosed ⟨opening, c.at_⟩
    else match String.ofList name with
      | "start" => return some (c.bump, .wordStart)
      | "end" => return some (c.bump, .wordEnd)
      | "start-half" => return some (c.bump, .wordStartHalf)
      | "end-half" => return some (c.bump, .wordEndHalf)
      | _ => fail .edgeUnknown ⟨inside.at_, c.at_⟩

/-- The character that a letter behind a backslash stands for. -/
def controlOf? : Char → Option Char
  | 'a' => some '\x07'
  | 'f' => some '\x0c'
  | 't' => some '\t'
  | 'n' => some '\n'
  | 'r' => some '\r'
  | 'v' => some '\x0b'
  | _ => none

/-- The boundary that a character behind a backslash stands for. -/
def edgeOf? : Char → Option Boundary
  | 'A' => some .textStart
  | 'z' => some .textEnd
  | 'b' => some .wordEdge
  | 'B' => some .noWordEdge
  | '<' => some .wordStart
  | '>' => some .wordEnd
  | _ => none

/-- The class that a letter behind a backslash stands for; capital letters stand for the
opposite. -/
def letterClassOf? (letter : Char) : Option LetterClass :=
  match letter.toLower with
  | 'd' => some .digit
  | 's' => some .blank
  | 'w' => some .word
  | _ => none

/-- Reads from a backslash. -/
def readEscape (c : Cursor) : Parse (Cursor × Primitive) := do
  let start := c.at_
  let c := c.bump
  if c.done then fail .escapeUnfinished ⟨start, c.at_⟩
  else
    let x := c.char
    if x.isDigit then fail .backreference ⟨start, c.at_ + 1⟩
    else if x == 'x' || x == 'u' || x == 'U' then readHex start c
    else if x == 'p' || x == 'P' then readProperty start c
    else
      let c := c.bump
      let span : Span := ⟨start, c.at_⟩
      if isEscapable x then return (c, .letter { char := x, span })
      match letterClassOf? x, controlOf? x, edgeOf? x with
      | some kind, _, _ => return (c, .escaped span kind x.isUpper)
      | none, some y, _ => return (c, .letter { char := y, span })
      | none, none, some b =>
        match ← if x == 'b' then readEdgeName? start c else .ok none with
        | some (c, named) => return (c, .edge ⟨start, c.at_⟩ named)
        | none => return (c, .edge span b)
      | none, none, none => fail .escapeUnknown span

/-- Reads one character or escape outside classes. -/
def readPrimitive (c : Cursor) : Parse (Cursor × Primitive) :=
  match c.char with
  | '\\' => readEscape c
  | '.' => .ok (c.bump, .point c.charSpan)
  | '^' => .ok (c.bump, .edge c.charSpan .lineStart)
  | '$' => .ok (c.bump, .edge c.charSpan .lineEnd)
  | x => .ok (c.bump, .letter { char := x, span := c.charSpan })

namespace Primitive

def span : Primitive → Span
  | letter l => l.span
  | point s => s
  | edge s _ => s
  | escaped s _ _ => s
  | property s _ _ => s

/-- A primitive as a part of a pattern. -/
def asPart : Primitive → Written
  | letter l => .letter l
  | point s => .point s
  | edge s b => .edge s b
  | escaped s kind negated => .escaped s kind negated
  | property s query negated => .property s query negated

/-- A primitive as a member of a class. -/
def asMember : Primitive → Parse WrittenClass
  | letter l => .ok (.letter l)
  | escaped s kind negated => .ok (.escaped s kind negated)
  | property s query negated => .ok (.property s query negated)
  | point s => fail .classEscape s
  | edge s _ => fail .classEscape s

/-- A primitive as the end of a range. -/
def asBound : Primitive → Parse Letter
  | letter l => .ok l
  | p => fail .classBoundary p.span

end Primitive

/-! ## Classes -/

/-- The classes that have a name of their own inside a class. -/
def asciiClass? (name : List Char) : Option (List (Char × Char)) :=
  let numeral := ('0', '9')
  let small := ('a', 'z')
  let capital := ('A', 'Z')
  match String.ofList name with
  | "alnum" => some [numeral, capital, small]
  | "alpha" => some [capital, small]
  | "ascii" => some [('\x00', '\x7f')]
  | "blank" => some [('\t', '\t'), (' ', ' ')]
  | "cntrl" => some [('\x00', '\x1f'), ('\x7f', '\x7f')]
  | "digit" => some [numeral]
  | "graph" => some [('!', '~')]
  | "lower" => some [small]
  | "print" => some [(' ', '~')]
  | "punct" => some [('!', '/'), (':', '@'), ('[', '\x60'), ('\x7b', '~')]
  | "space" => some [('\t', '\r'), (' ', ' ')]
  | "upper" => some [capital]
  | "word" => some [numeral, capital, ('_', '_'), small]
  | "xdigit" => some [numeral, ('A', 'F'), ('a', 'f')]
  | _ => none

/-- A named class between `[:` and `:]`. -/
def readAsciiClass? (c : Cursor) : Option (Cursor × WrittenClass) :=
  let start := c.at_
  let c := c.bump
  if !c.sees ':' then none
  else
    let c := c.bump
    let negated := c.sees '^'
    let c := if negated then c.bump else c
    let past := c.passWhile (· != ':') c.text.size
    if past.startsWith [':', ']'] then
      (asciiClass? (c.slice past.at_)).map fun ranges =>
        (past.skip 2, .ascii ⟨start, (past.skip 2).at_⟩ ranges negated)
    else none

/-- The members of a class so far, the last one first, and where they begin if there are none. -/
structure Members where
  here : Nat
  items : List WrittenClass := []
  deriving Repr

/-- The members as one class. -/
def Members.whole (m : Members) : WrittenClass :=
  match m.items with
  | [] => .nothing ⟨m.here, m.here⟩
  | [item] => item
  | last :: items =>
    let first := (items.getLast?.map fun item => item.span.first).getD m.here
    .union ⟨first, last.span.past⟩ (last :: items).reverse

def Members.add (m : Members) (item : WrittenClass) : Members :=
  { m with items := item :: m.items }

/-- What is open while a class is read. -/
inductive ClassFrame where
  /-- An open bracket: the members before it and its stretch. -/
  | bracket (outer : Members) (span : Span) (negated : Bool)
  /-- An operator with its left side. -/
  | operator (op : ClassOperator) (left : WrittenClass)
  deriving Repr

/-- A class in the making. -/
structure ClassState where
  cursor : Cursor
  frames : List ClassFrame := []
  members : Members

/-- The frames without the operator on top, and what it makes of the members. -/
def ClassState.closeOperator (s : ClassState) : List ClassFrame × WrittenClass :=
  let right := s.members.whole
  match s.frames with
  | .operator op left :: rest =>
    (rest, .joined ⟨left.span.first, right.span.past⟩ op left right)
  | frames => (frames, right)

/-- The stretch of the innermost open bracket. -/
def openBracket : List ClassFrame → Span
  | [] => ⟨0, 0⟩
  | .bracket _ span _ :: _ => span
  | .operator _ _ :: rest => openBracket rest

/-- Hyphens at the beginning of a class stand for themselves. -/
def leadingHyphens (start : Nat) : (steps : Nat) → Cursor → Members → Parse (Cursor × Members)
  | 0, c, members => .ok (c, members)
  | n + 1, c, members => do
    if !c.sees '-' then return (c, members)
    let hyphen := WrittenClass.letter { char := '-', span := c.charSpan }
    let c := c.step
    if c.done then fail .classUnclosed ⟨start, start⟩
    else leadingHyphens start n c (members.add hyphen)

/-- Opens a bracket. -/
def openClass (s : ClassState) : Parse ClassState := do
  let start := s.cursor.at_
  let c := s.cursor.step
  if c.done then fail .classUnclosed ⟨start, c.at_⟩
  else
    let negated := c.sees '^'
    let c := if negated then c.step else c
    if c.done then fail .classUnclosed ⟨start, c.at_⟩
    else
      let (c, members) ← leadingHyphens start (c.text.size + 1) c { here := c.at_ }
      let bracketFirst := members.items.isEmpty && c.sees ']'
      let members :=
        if bracketFirst then members.add (.letter { char := ']', span := c.charSpan })
        else members
      let c := if bracketFirst then c.step else c
      if c.done then fail .classUnclosed ⟨start, c.at_⟩
      else
        let frame := ClassFrame.bracket s.members ⟨start, c.at_⟩ negated
        return { cursor := c, frames := frame :: s.frames, members }

/-- Reads one character or escape of a class. -/
def readClassItem (c : Cursor) : Parse (Cursor × Primitive) :=
  if c.sees '\\' then readEscape c
  else .ok (c.bump, .letter { char := c.char, span := c.charSpan })

/-- Reads a member or a range of a class. -/
def readRange (s : ClassState) : Parse ClassState := do
  let (c, first) ← readClassItem s.cursor
  let c := c.space
  if c.done then fail .classUnclosed (openBracket s.frames)
  else if !c.sees '-' || c.peekSpace == some ']' || c.peekSpace == some '-' then
    return { s with cursor := c, members := s.members.add (← first.asMember) }
  else
    let c := c.step
    if c.done then fail .classUnclosed (openBracket s.frames)
    else
      let (c, second) ← readClassItem c
      let lo ← first.asBound
      let hi ← second.asBound
      let span : Span := ⟨first.span.first, second.span.past⟩
      if hi.char < lo.char then fail .classRange span
      else return { s with cursor := c, members := s.members.add (.range span lo hi) }

/-- The operator that two equal characters stand for. -/
def classOperator? (c : Cursor) : Option ClassOperator :=
  if c.startsWith ['&', '&'] then some .intersection
  else if c.startsWith ['-', '-'] then some .difference
  else if c.startsWith ['~', '~'] then some .symmetricDifference
  else none

/-- Closes the innermost bracket. A class that is then complete is returned. -/
def closeClass (s : ClassState) : ClassState ⊕ (Cursor × WrittenClass) :=
  let (frames, body) := s.closeOperator
  let c := s.cursor.bump
  match frames with
  | .bracket outer span negated :: rest =>
    let whole := WrittenClass.bracket ⟨span.first, c.at_⟩ negated body
    if rest.isEmpty then .inr (c, whole)
    else .inl { cursor := c, frames := rest, members := outer.add whole }
  | _ => .inr (c, body)

/-- Reads a class from its opening bracket to the closing one. -/
def readClassFrom : (steps : Nat) → ClassState → Parse (Cursor × WrittenClass)
  | 0, s => .ok (s.cursor, s.members.whole)
  | n + 1, s => do
    let s := { s with cursor := s.cursor.space }
    let c := s.cursor
    if c.done then fail .classUnclosed (openBracket s.frames)
    else if c.sees '[' then
      match if s.frames.isEmpty then none else readAsciiClass? c with
      | some (c, named) => readClassFrom n { s with cursor := c, members := s.members.add named }
      | none => readClassFrom n (← openClass s)
    else if c.sees ']' then
      match closeClass s with
      | .inl s => readClassFrom n s
      | .inr whole => return whole
    else match classOperator? c with
      | some op =>
        let (frames, left) := s.closeOperator
        let c := c.skip 2
        readClassFrom n
          { cursor := c, frames := .operator op left :: frames, members := { here := c.at_ } }
      | none => readClassFrom n (← readRange s)

/-- Reads a class. -/
def readClass (c : Cursor) : Parse (Cursor × WrittenClass) :=
  readClassFrom (2 * c.text.size + 2) { cursor := c, members := { here := c.at_ } }

/-! ## Flags and names of groups -/

/-- Flag letters up to the colon or the closing parenthesis. -/
def readSwitches : (steps : Nat) → Cursor → List (Switch × Span) → (negation : Option Span) →
    Parse (Cursor × List Switch)
  | 0, c, _, _ => .ok (c, [])
  | n + 1, c, seen, negation => do
    if c.sees ':' || c.sees ')' then
      match negation with
      | some span => fail .flagDangling span
      | none => return (c, seen.reverse.map Prod.fst)
    else
      let isMinus := c.sees '-'
      if !isMinus && !"imsUuRx".toList.contains c.char then fail .flagUnknown c.charSpan
      else
        let switch := if isMinus then Switch.negation else .flag c.char
        match seen.reverse.lookup switch with
        | some span =>
          let kind := if isMinus then FaultKind.negationRepeated else .flagRepeated
          .error { kind, span := c.charSpan, earlier := some span }
        | none =>
          let span := c.charSpan
          let c := c.bump
          if c.done then fail .flagUnfinished c.hereSpan
          else readSwitches n c ((switch, span) :: seen) (if isMinus then some span else none)

/-- Whether a list of switches has blanks and comments passed over; none if it does not say. -/
def spacedBy? (on : Bool) : List Switch → Option Bool
  | [] => none
  | .negation :: rest => spacedBy? false rest
  | .flag letter :: rest => if letter == 'x' then some on else spacedBy? on rest

/-- The characters of a group's name. -/
def isNameChar (first : Bool) (c : Char) : Bool :=
  c == '_' || if first then isLetter c
    else c == '.' || c == '[' || c == ']' || isLetterOrNumber c

/-- The place of the first character that ends a name; it has to be its closing angle. -/
def passName (start : Nat) : (steps : Nat) → Cursor → Parse Cursor
  | 0, c => .ok c
  | n + 1, c => do
    if c.done then fail .nameUnfinished c.hereSpan
    else if c.sees '>' then return c
    else if !isNameChar (c.at_ == start) c.char then fail .nameInvalid c.charSpan
    else passName start n c.bump

/-- Reads the name of a group, different from the earlier ones. -/
def readName (earlier : List (List Char × Span)) (c : Cursor) :
    Parse (Cursor × List Char × Span) := do
  let past ← passName c.at_ (c.text.size + 1) c
  let name := c.slice past.at_
  let span : Span := ⟨c.at_, past.at_⟩
  if name.isEmpty then fail .nameEmpty c.hereSpan
  else match earlier.lookup name with
    | some before => .error { kind := .nameRepeated, span, earlier := some before }
    | none => return (past.bump, name, span)

/-! ## Groups and alternatives -/

/-- What is read of a group so far. -/
structure Level where
  /-- Where the first alternative begins. -/
  first : Nat
  /-- Where the current alternative begins. -/
  start : Nat
  /-- The finished alternatives, the last one first. -/
  alternatives : List Written := []
  /-- The parts of the current alternative, the last one first. -/
  parts : List Written := []
  deriving Repr

namespace Level

/-- An empty level. -/
def opening (here : Nat) : Level := { first := here, start := here }

/-- The current alternative, which ends here. -/
def sequence (l : Level) (past : Nat) : Written :=
  match l.parts with
  | [] => .empty ⟨l.start, past⟩
  | [part] => part
  | parts => .sequence ⟨l.start, past⟩ parts.reverse

/-- The whole level, which ends here. -/
def whole (l : Level) (past : Nat) : Written :=
  if l.alternatives.isEmpty then l.sequence past
  else .either ⟨l.first, past⟩ (l.sequence past :: l.alternatives).reverse

/-- The level with one more part. -/
def add (l : Level) (part : Written) : Level := { l with parts := part :: l.parts }

end Level

/-- A group that is open: what is around it. -/
structure Frame where
  outer : Level
  opening : Span
  kind : GroupKind
  /-- Whether blanks were passed over outside. -/
  spaced : Bool
  deriving Repr

/-- A pattern in the making. -/
structure State where
  cursor : Cursor
  level : Level := .opening 0
  frames : List Frame := []
  names : List (List Char × Span) := []
  /-- How many groups are numbered. -/
  groups : Nat := 0

namespace State

def push (s : State) (c : Cursor) (part : Written) : State :=
  { s with cursor := c, level := s.level.add part }

/-- Opens a group with the cursor behind its head. -/
def openGroup (s : State) (c : Cursor) (opening : Span) (kind : GroupKind) (spaced : Bool) :
    State :=
  let frame : Frame := ⟨s.level, opening, kind, s.cursor.spaced⟩
  { s with
    cursor := { c with spaced }, level := .opening c.at_, frames := frame :: s.frames }

/-- Opens a group that is remembered. -/
def openNumbered (s : State) (c : Cursor) (opening : Span) : State :=
  { s with groups := s.groups + 1 }.openGroup c opening (.numbered (s.groups + 1)) c.spaced

/-- Reads the head of a group, or a change of flags, from the opening parenthesis. -/
def group (s : State) : Parse State := do
  let opening := s.cursor.charSpan
  let c := s.cursor.step
  let lookAround := [['?', '='], ['?', '!'], ['?', '<', '='], ['?', '<', '!']]
  match lookAround.find? c.startsWith with
  | some head => fail .lookAround ⟨opening.first, c.at_ + head.length⟩
  | none =>
    let named :=
      if c.startsWith ['?', 'P', '<'] then some (c.skip 3)
      else if c.startsWith ['?', '<'] then some (c.skip 2)
      else none
    match named with
    | some c =>
      let (c, name, span) ← readName s.names c
      return { s with names := (name, span) :: s.names }.openNumbered c opening
    | none =>
      if !c.sees '?' then return s.openNumbered c opening
      else
        let question := c.hereSpan
        let c := c.bump
        if c.done then fail .groupUnclosed opening
        else
          let (c, switches) ← readSwitches (c.text.size + 1) c [] none
          let spaced := (spacedBy? true switches).getD c.spaced
          if c.sees ')' then
            if switches.isEmpty then fail .nothingToRepeat question
            else
              let c := c.bump
              return s.push { c with spaced } (.flags ⟨opening.first, c.at_⟩ switches)
          else return s.openGroup c.bump opening (.plain switches) spaced

/-- Closes the innermost group. -/
def close (s : State) : Parse State :=
  match s.frames with
  | [] => fail .groupUnopened s.cursor.charSpan
  | frame :: rest =>
    let body := s.level.whole s.cursor.at_
    let c := { s.cursor.bump with spaced := frame.spaced }
    let whole := Written.group ⟨frame.opening.first, c.at_⟩ frame.kind body
    .ok { s with cursor := c, level := frame.outer.add whole, frames := rest }

/-- Begins the next alternative. -/
def alternate (s : State) : State :=
  let c := s.cursor.bump
  let finished := s.level.sequence s.cursor.at_
  { s with
    cursor := c
    level :=
      { first := s.level.first, start := c.at_
        alternatives := finished :: s.level.alternatives } }

/-- The last part of the current alternative, and the level without it. A change of flags is no
part to repeat. -/
def repeated (s : State) : Parse (Written × Level) :=
  match s.level.parts with
  | [] => fail .nothingToRepeat s.cursor.hereSpan
  | .flags _ _ :: _ => fail .nothingToRepeat s.cursor.hereSpan
  | part :: rest => .ok (part, { s.level with parts := rest })

/-- Repeats the last part, with the cursor behind the operator. A question mark there makes the
repetition lazy. -/
def repetition (s : State) (c : Cursor) (part : Written) (level : Level) (least : Nat)
    (most : Option Nat) : State :=
  let eager := !c.sees '?'
  let c := if eager then c else c.bump
  { s with
    cursor := c, level := level.add (.repeated ⟨part.span.first, c.at_⟩ least most eager part) }

/-- Repeats the last part as an operator of one character says. -/
def uncounted (s : State) (least : Nat) (most : Option Nat) : Parse State := do
  let (part, level) ← s.repeated
  return s.repetition s.cursor.bump part level least most

/-- Past blanks, whatever the flags say. -/
def passBlanks (c : Cursor) : Cursor := c.passWhile isBlank c.text.size

/-- The digits from here on. -/
def countDigits : (steps : Nat) → Cursor → List Char → Cursor × List Char
  | 0, c, ds => (c, ds.reverse)
  | n + 1, c, ds =>
    if !c.done && c.char.isDigit then countDigits n c.step (c.char :: ds) else (c, ds.reverse)

/-- A count between blanks: where it ends, and its value or what is wrong with it. -/
def readCount (c : Cursor) : Cursor × Parse Nat :=
  let c := passBlanks c
  let (past, ds) := countDigits (c.text.size + 1) c []
  let span : Span := ⟨c.at_, past.at_⟩
  let value : Parse Nat :=
    if ds.isEmpty then fail .decimalEmpty span
    else
      let n := ds.foldl (fun n d => n * 10 + hexValue d) 0
      if n < Nat.pow 2 32 then .ok n else fail .decimalInvalid span
  (passBlanks past, value)

/-- Repeats the last part as often as the counts in braces say. -/
def counted (s : State) : Parse State := do
  let start := s.cursor.at_
  let (part, level) ← s.repeated
  let unclosed := fun (c : Cursor) => (fail .countUnclosed ⟨start, c.at_⟩ : Parse State)
  let finish := fun (c : Cursor) (least : Nat) (most : Option Nat) => (do
    if !c.sees '\x7d' then unclosed c
    else
      let s := s.repetition c.step part level least most
      if (most.map fun m => decide (m < least)).getD false then
        fail .countRange ⟨start, s.cursor.at_⟩
      else return s : Parse State)
  let c := s.cursor.step
  if c.done then unclosed c
  else
    let (c, first) := readCount c
    if c.done then unclosed c
    else if c.sees ',' then
      let c := c.step
      if c.done then unclosed c
      else if c.sees '\x7d' then finish c (← first) none
      else
        let least ← first
        let (c, second) := readCount c
        finish c least (some (← second))
    else
      let n ← first
      finish c n (some n)

/-- Reads the next part of a pattern. -/
def next (s : State) : Parse State := do
  match s.cursor.char with
  | '(' => s.group
  | ')' => s.close
  | '|' => return s.alternate
  | '[' =>
    let (c, whole) ← readClass s.cursor
    return s.push c (.bracket whole)
  | '?' => s.uncounted 0 (some 1)
  | '*' => s.uncounted 0 none
  | '+' => s.uncounted 1 none
  | '\x7b' => s.counted
  | _ =>
    let (c, found) ← readPrimitive s.cursor
    return s.push c found.asPart

/-- The pattern when the whole text is read: no group may be open, and nothing nested too
deep. -/
def finish (s : State) : Parse Written :=
  match s.frames with
  | frame :: _ => fail .groupUnclosed frame.opening
  | [] =>
    let whole := s.level.whole s.cursor.at_
    match whole.tooDeep? 0 with
    | some span => fail .nestedTooDeep span
    | none => .ok whole

/-- Reads part after part. -/
def run : (steps : Nat) → State → Parse Written
  | 0, s => s.finish
  | n + 1, s => do
    let s := { s with cursor := s.cursor.space }
    if s.cursor.done then s.finish else run n (← s.next)

end State

/-- The pattern that a text spells, as it is written, or what is wrong with it. -/
def Written.ofText (text : String) : Parse Written :=
  let cs := text.toList.toArray
  State.run (cs.size + 1) { cursor := { text := cs } }

end Playbook.Pattern
