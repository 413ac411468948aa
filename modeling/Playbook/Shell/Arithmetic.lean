/-
  Arithmetic between doubled parentheses: whole numbers of 64 bits, variables and assignments. A
  part that does not count, as what stands behind a decided `&&`, changes nothing and has no
  faults of its own.
-/
import Playbook.Shell.Machine

namespace Playbook.Shell.Arithmetic

/-! ## Numbers -/

/-- The value of a digit in a base. -/
def digit? (base : Nat) (c : Char) : Option Nat :=
  let d := if c.isDigit then c.toNat - '0'.toNat else c.toLower.toNat - 'a'.toNat + 10
  if c.isAlphanum && d < base then some d else none

/-- The value of the digits at the beginning of a text after `n`, and what follows. -/
def digitsFrom (base : Nat) : (n : Nat) → List Char → Nat × List Char
  | n, [] => (n, [])
  | n, c :: cs =>
    match digit? base c with
    | some d => digitsFrom base (n * base + d) cs
    | none => (n, c :: cs)

/-- The number that begins a text, and what follows: hexadecimal behind 0x, octal behind 0, else
decimal. -/
def leading? (cs : List Char) : Option (Nat × List Char) :=
  match cs with
  | '0' :: x :: d :: rest =>
    if (x == 'x' || x == 'X') && (digit? 16 d).isSome then some (digitsFrom 16 0 (d :: rest))
    else some (digitsFrom 8 0 (x :: d :: rest))
  | '0' :: rest => some (digitsFrom 8 0 rest)
  | c :: rest => if c.isDigit then some (digitsFrom 10 0 (c :: rest)) else none
  | [] => none

/-- The least and the largest number. -/
def least : Int := -Int.pow 2 63

def most : Int := Int.pow 2 63 - 1

/-- The nearest number of 64 bits. -/
def clamp (n : Int) : Int := max least (min most n)

/-- A number of 64 bits, by the remainder. -/
def wrap (n : Int) : Int := n.bmod (Nat.pow 2 64)

/-- Whether a character is a blank around a number. -/
def isSpace (c : Char) : Bool := c == ' ' || ('\t' ≤ c && c ≤ '\r')

/-- The whole number that a text is, perhaps with a sign and blanks around it. `read?` takes its
digits. -/
def signed? (read? : List Char → Option (Nat × List Char)) (text : String) : Option Int :=
  let cs := text.toList.dropWhile isSpace
  let (negative, cs) := match cs with
    | '-' :: rest => (true, rest)
    | '+' :: rest => (false, rest)
    | _ => (false, cs)
  match read? cs with
  | none => none
  | some (n, rest) =>
    let v : Int := if negative then -n else n
    if rest.all isSpace && least ≤ v && v ≤ most then some v else none

/-- The decimal number at the beginning of a text. -/
def decimal? (cs : List Char) : Option (Nat × List Char) :=
  match cs with
  | c :: _ => if c.isDigit then some (digitsFrom 10 0 cs) else none
  | [] => none

/-- The decimal number that a text is. -/
def whole? (text : String) : Option Int := signed? decimal? text

/-- The number that the value of a variable is; a blank one is zero. -/
def valueOf? (text : String) : Option Int :=
  if text.toList.all isSpace then some 0 else signed? leading? text

/-! ## Expressions -/

/-- What an expression is made of. -/
inductive Lexeme where
  | number (n : Int)
  | name (s : String)
  | operator (s : String)
  /-- A character that belongs to nothing. -/
  | stray
  deriving Repr, DecidableEq

/-- The operators, the longer ones first. -/
def operators : List String := ["<<=", ">>=", "<<", ">>", "<=", ">=", "==", "!=", "&&", "||", "+=",
  "-=", "*=", "/=", "%=", "&=", "|=", "^=", "+", "-", "*", "/", "%", "<", ">", "=", "!", "~", "&",
  "|", "^", "?", ":", "(", ")"]

/-- The tokens of an expression. -/
def lexemes : (steps : Nat) → List Char → List Lexeme
  | 0, _ => []
  | _, [] => []
  | n + 1, c :: cs =>
    if isSpace c then lexemes n cs
    else if isNameStart c then
      let word := (c :: cs).takeWhile isNameChar
      .name (String.ofList word) :: lexemes n ((c :: cs).dropWhile isNameChar)
    else
      match leading? (c :: cs) with
      | some (v, rest) => .number (clamp v) :: lexemes n rest
      | none =>
        match operators.find? fun o => o.toList.isPrefixOf (c :: cs) with
        | none => [.stray]
        | some o => .operator o :: lexemes n ((c :: cs).drop o.length)

/-- What is left of an expression, and the shell whose variables it changes. -/
structure State where
  lexemes : List Lexeme
  machine : Machine

/-- Why an expression has no value. -/
inductive Fault where
  /-- The expression is wrong. -/
  | expression (what : String)
  /-- One of its variables is. -/
  | variable_ (what : String)

/-- Evaluates a part of an expression. -/
abbrev Eval := StateT State (Except Fault)

/-- The next token. -/
def next? : Eval (Option Lexeme) := do return (← get).lexemes.head?

/-- Leaves out the next token. -/
def skip : Eval Unit := modify fun s => { s with lexemes := s.lexemes.tail }

/-- Leaves out the next token if it is the operator. -/
def skipIf (o : String) : Eval Bool := do
  if (← next?) == some (.operator o) then
    skip
    return true
  return false

def wrong {α : Type} (what : String) : Eval α := throw (.expression what)

def truth (b : Bool) : Int := if b then 1 else 0

/-- The value of a binary operator. -/
def apply (o : String) (a b : Int) : Except Fault Int :=
  let divided := fun (f : Int → Int → Int) =>
    if b = 0 then .error (.expression "division by zero") else .ok (wrap (f a b))
  match o with
  | "+" => .ok (wrap (a + b))
  | "-" => .ok (wrap (a - b))
  | "*" => .ok (wrap (a * b))
  | "/" => divided Int.tdiv
  | "%" => divided Int.tmod
  | "<" => .ok (truth (a < b))
  | "<=" => .ok (truth (a ≤ b))
  | ">" => .ok (truth (b < a))
  | ">=" => .ok (truth (b ≤ a))
  | "==" => .ok (truth (a == b))
  | "!=" => .ok (truth (a != b))
  | "<<" => .ok (wrap (a * Int.pow 2 (b % 64).toNat))
  | ">>" => .ok (a / Int.pow 2 (b % 64).toNat)
  | "&" => .ok (Int64.ofInt a &&& Int64.ofInt b).toInt
  | "|" => .ok (Int64.ofInt a ||| Int64.ofInt b).toInt
  | _ => .ok (Int64.ofInt a ^^^ Int64.ofInt b).toInt

/-- How tightly a binary operator binds, zero for what is none. -/
def strength (o : String) : Nat :=
  match o with
  | "|" => 1
  | "^" => 2
  | "&" => 3
  | "==" | "!=" => 4
  | "<" | "<=" | ">" | ">=" => 5
  | "<<" | ">>" => 6
  | "+" | "-" => 7
  | "*" | "/" | "%" => 8
  | _ => 0

/-- The operator that an assignment applies, the empty text for none. -/
def assignment? (o : String) : Option String :=
  if o == "=" then some ""
  else if o.endsWith "=" && 0 < strength (o.dropEnd 1).toString && o != "<=" && o != ">=" &&
      o != "==" && o != "!=" then some (o.dropEnd 1).toString
  else none

/-- The value of a variable. -/
def valueOf (name : String) : Eval Int := do
  match (← get).machine.value? name with
  | none => return 0
  | some text =>
    match valueOf? text with
    | some n => return n
    | none => throw (.variable_ ("Illegal number: " ++ text))

mutual

/-- An assignment, a choice or a value. -/
def assignment : (steps : Nat) → (counts : Bool) → Eval Int
  | 0, _ => wrong "expecting primary"
  | n + 1, counts => do
    match (← get).lexemes with
    | .name x :: .operator o :: _ =>
      match assignment? o with
      | none => choice n counts
      | some applied =>
        skip
        skip
        let right ← assignment n counts
        if !counts then return right
        let value ← if applied.isEmpty then pure right
          else
            let left ← valueOf x
            apply applied left right
        let s ← get
        if ((s.machine.vars.get? x).map (·.constant)).getD false then
          throw (.variable_ (x ++ ": is read only"))
        set { s with machine := s.machine.setVar x (toString value) }
        return value
    | _ => choice n counts

/-- A condition with the two values that it chooses from, or a value. -/
def choice : (steps : Nat) → (counts : Bool) → Eval Int
  | 0, _ => wrong "expecting primary"
  | n + 1, counts => do
    let c ← either n counts
    if !(← skipIf "?") then return c
    let yes ← assignment n (counts && c != 0)
    if !(← skipIf ":") then wrong "expecting ':'"
    let no ← choice n (counts && c == 0)
    return if c != 0 then yes else no

/-- Values of which one is to be true. -/
def either : (steps : Nat) → (counts : Bool) → Eval Int
  | 0, _ => wrong "expecting primary"
  | n + 1, counts => do
    let a ← both n counts
    if !(← skipIf "||") then return a
    let b ← either n (counts && a == 0)
    return truth (a != 0 || b != 0)

/-- Values that are all to be true. -/
def both : (steps : Nat) → (counts : Bool) → Eval Int
  | 0, _ => wrong "expecting primary"
  | n + 1, counts => do
    let a ← binary n 1 counts
    if !(← skipIf "&&") then return a
    let b ← both n (counts && a != 0)
    return truth (a != 0 && b != 0)

/-- Operators that bind at least so tightly. -/
def binary : (steps least : Nat) → (counts : Bool) → Eval Int
  | 0, _, _ => wrong "expecting primary"
  | n + 1, least, counts => do binaryFrom n least counts (← operand n counts)

/-- The operators behind a value. -/
def binaryFrom : (steps least : Nat) → (counts : Bool) → Int → Eval Int
  | 0, _, _, a => return a
  | n + 1, least, counts, a => do
    match ← next? with
    | some (.operator o) =>
      let s := strength o
      if s = 0 || s < least then return a
      skip
      let b ← binary n (s + 1) counts
      let c ← if counts then
          apply o a b
        else pure b
      binaryFrom n least counts c
    | _ => return a

/-- A number, a variable, or an expression in parentheses, with signs in front. -/
def operand : (steps : Nat) → (counts : Bool) → Eval Int
  | 0, _ => wrong "expecting primary"
  | n + 1, counts => do
    match ← next? with
    | some (.number v) =>
      skip
      return v
    | some (.name x) =>
      skip
      if counts then valueOf x else return 0
    | some (.operator "(") =>
      skip
      let v ← assignment n counts
      if !(← skipIf ")") then wrong "expecting ')'"
      return v
    | some (.operator "-") =>
      skip
      return wrap (-(← operand n counts))
    | some (.operator "+") =>
      skip
      operand n counts
    | some (.operator "!") =>
      skip
      return truth ((← operand n counts) == 0)
    | some (.operator "~") =>
      skip
      return -(← operand n counts) - 1
    | _ => wrong "expecting primary"

end

/-- The value of an expression and the shell after it, or what is said of a fault. -/
def evaluate (m : Machine) (text : List Char) : Except String (Int × Machine) :=
  let ls := lexemes (text.length + 1) text
  let whole : Eval Int := do
    let v ← assignment (16 * ls.length + 16) true
    if (← next?).isSome then wrong "expecting EOF"
    return v
  match whole.run ⟨ls, m⟩ with
  | .ok (v, s) => .ok (v, s.machine)
  | .error (.variable_ what) => .error what
  | .error (.expression what) =>
    .error ("arithmetic expression: " ++ what ++ ": \"" ++ String.ofList text ++ "\"")

end Playbook.Shell.Arithmetic
