/-
  The words and signs of programs that go through records. A slash begins a regular expression
  unless something that it could divide is in front of it.
-/
import Playbook.Shell.Tool.Records.Basic
import Playbook.Shell.Printing
import Playbook.Number.Bits

namespace Playbook.Shell.Tool.Records

open Playbook.Text Playbook.Number

/-- A word or a sign of a program. -/
inductive Token where
  | number (x : Float) (spelled : String)
  | text (s : String)
  | regex (source : String)
  /-- A name; `called` tells whether a parenthesis follows at once. -/
  | name (s : String) (called : Bool)
  | builtin (s : String)
  | keyword (s : String)
  | sign (s : String)
  | newline
  | finish
  /-- What is wrong here. -/
  | wrong (what : String)

instance : Inhabited Token := ⟨.finish⟩

/-- A token as it is shown when it is in the wrong place. -/
def Token.shown : Token → String
  | .number _ spelled => spelled
  | .text s => s
  | .regex source => "/" ++ source ++ "/"
  | .name s _ => if s == "NF" then "$" else s
  | .builtin s | .keyword s => s
  | .sign s => if s == ">>" then ">" else s
  | .newline => "end of line"
  | .finish => "end of file"
  | .wrong what => what

/-- Whether a slash behind a token divides. -/
def Token.canBeDivided : Token → Bool
  | .number _ _ | .text _ | .regex _ | .name _ _ => true
  | .keyword s => s == "getline"
  | .sign s => [")", "]", "++", "--"].contains s
  | _ => false

namespace Token

/-! ## Texts -/

/-- A text with its backslashes read. What they do not change stays as it is. -/
def unescape : (steps : Nat) → List Char → List Char
  | 0, cs => cs
  | _, [] => []
  | n + 1, '\\' :: c :: rest =>
    if c == '\n' then unescape n rest
    else if c == '"' || c == '\\' then c :: unescape n rest
    else if Printing.isOctal c then
      let ds := ((c :: rest).take 3).takeWhile Printing.isOctal
      Printing.octalChar ds :: unescape n ((c :: rest).drop ds.length)
    else if c == 'x' then
      match Expression.code? 'x' rest with
      | some (d, k) => d :: unescape n (rest.drop k)
      | none => '\\' :: c :: unescape n rest
    else
      match if c == 'e' then none else Printing.control? c with
      | some d => d :: unescape n rest
      | none => '\\' :: c :: unescape n rest
  | n + 1, c :: rest => c :: unescape n rest

/-- A text from outside with its backslashes read. -/
def unescaped (s : String) : String := String.ofList (unescape (s.length + 1) s.toList)

/-- The characters up to a quote, and what follows it; none if the line ends first. -/
def quoted : List Char → Option (List Char × List Char)
  | '"' :: rest => some ([], rest)
  | '\\' :: c :: rest => (quoted rest).map fun (body, after) => ('\\' :: c :: body, after)
  | '\n' :: _ => none
  | c :: rest => (quoted rest).map fun (body, after) => (c :: body, after)
  | [] => none

/-- The characters up to a slash that is in no brackets, and what follows it. `inside` tells
whether a bracket is open, and `first` whether nothing is in it. -/
def slashed : (inside first : Bool) → List Char → Option (List Char × List Char)
  | inside, _, '\\' :: c :: rest =>
    (slashed inside false rest).map fun (body, after) =>
      (if c == '/' then ('/' :: body, after) else ('\\' :: c :: body, after))
  | false, _, '/' :: rest => some ([], rest)
  | _, _, '\n' :: _ => none
  | false, _, '[' :: '^' :: rest =>
    (slashed true true rest).map fun (body, after) => ('[' :: '^' :: body, after)
  | inside, first, c :: rest =>
    let inside' := if inside then !(c == ']' && !first) else c == '['
    (slashed inside' (!inside && inside') rest).map fun (body, after) => (c :: body, after)
  | _, _, [] => none

/-- What is said of a text or an expression without an end. -/
def runaway (what : String) (cs : List Char) : String :=
  what ++ String.ofList ((cs.takeWhile (· != '\n')).take 10) ++ " ..."

/-! ## Numbers -/

/-- How many characters in front of a text spell an unsigned number with digits. -/
def decimalSize (cs : List Char) : Nat :=
  let whole := cs.takeWhile Char.isDigit
  let rest := cs.drop whole.length
  let places := match rest with
    | '.' :: more => 1 + (more.takeWhile Char.isDigit).length
    | _ => 0
  if whole.isEmpty && places ≤ 1 then 0
  else
    let size := whole.length + places
    match cs.drop size with
    | c :: more =>
      let signs := more.takeWhile fun d => d == '-' || d == '+'
      let ds := (more.drop signs.length).takeWhile Char.isDigit
      if (c == 'e' || c == 'E') && signs.length ≤ 1 && !ds.isEmpty then
        size + 1 + signs.length + ds.length
      else size
    | [] => size

/-- The number that a decimal spells. -/
def decimal (cs : List Char) : Float := ((Binary64.decimal? cs).getD (.finite 0)).toFloat

/-! ## Tokens -/

/-- The signs, longer ones first. -/
def signs : List String :=
  ["&&", "||", "++", "--", "+=", "-=", "*=", "/=", "%=", "^=", "==", "<=", ">=", "!=", "!~", ">>",
    "\x7b", "\x7d", "(", ")", "[", "]", ";", ",", "+", "-", "*", "/", "%", "^", "!", "<", ">", "|",
    "?", ":", "~", "$", "="]

/-- The token of a word. -/
def ofWord (word : String) (rest : List Char) : Token :=
  if keywords.contains word then .keyword word
  else if (builtins.lookup word).isSome then .builtin word
  else .name word (rest.head? == some '(')

/-- A character that stands for nothing. -/
def unexpected (c : Char) : String :=
  if ' ' < c && c.toNat < 127 then s!"unexpected character '{String.singleton c}'"
  else
    let ds := Nat.toDigits 16 c.toNat
    "unexpected character 0x" ++ (if ds.length < 2 then "0" else "") ++ String.ofList ds

/-- The next token of a text and what follows it. `divides` tells whether a slash divides. -/
def next (divides : Bool) (cs : List Char) : Token × List Char :=
  match cs with
  | [] => (.finish, [])
  | '\n' :: rest => (.newline, rest)
  | '"' :: rest =>
    match quoted rest with
    | some (body, after) => (.text (String.ofList (unescape (body.length + 1) body)), after)
    | none => (.wrong (runaway "runaway string constant \"" rest), [])
  | c :: rest =>
    let size := decimalSize cs
    if size != 0 then
      let spelled := cs.take size
      (.number (decimal spelled) (String.ofList spelled), cs.drop size)
    else if c.isAlpha || c == '_' then
      let word := cs.takeWhile fun d => d.isAlphanum || d == '_'
      let after := cs.drop word.length
      (ofWord (String.ofList word) after, after)
    else if c == '/' && !divides then
      match slashed false false rest with
      | some (body, after) => (.regex (String.ofList body), after)
      | none => (.wrong (runaway "runaway regular expression /" rest), [])
    else
      match signs.find? fun s => s.toList.isPrefixOf cs with
      | some s => (.sign s, cs.drop s.length)
      | none => (.wrong (unexpected c), [])

/-- How many lines end in the part of a text in front of another one. -/
def linesPassed (cs after : List Char) : Nat :=
  (cs.take (cs.length - after.length)).count '\n'

/-- The tokens of a text with the lines on which they end. -/
def all : (steps line : Nat) → (divides : Bool) → List Char → List (Token × Nat)
  | 0, line, _, _ => [(.finish, line)]
  | n + 1, line, divides, cs =>
    match cs with
    | '\\' :: '\n' :: rest => all n (line + 1) divides rest
    | c :: rest =>
      if c == ' ' || c == '\t' || c == '\r' then all n line divides rest
      else if c == '#' then all n line divides (rest.dropWhile (· != '\n'))
      else
        let (t, after) := next divides cs
        match t with
        | .newline => (t, line) :: all n (line + 1) false after
        | .wrong _ => [(t, line)]
        | t =>
          let line := line + linesPassed cs after
          (t, line) :: all n line t.canBeDivided after
    | [] => [(.finish, line)]

/-- The tokens of a program. -/
def ofText (text : List Char) : List (Token × Nat) :=
  all (text.length + 2) 1 false (text ++ ['\n'])

end Token

end Playbook.Shell.Tool.Records
