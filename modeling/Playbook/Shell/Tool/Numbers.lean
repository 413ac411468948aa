/-
  Programs that compute: numbers in a row, expressions of words, factors.
-/
import Playbook.Shell.Tool.Basic
import Playbook.Shell.Expression
import Playbook.Shell.Printing

namespace Playbook.Shell.Tool

open Playbook.Text

/-! ## Numbers in a row -/

/-- A decimal number: its digits without the point, and how many of them stand behind it. -/
structure Decimal where
  units : Int
  places : Nat := 0

/-- The decimal number that a text spells. -/
def Decimal.ofText? (text : String) : Option Decimal :=
  let cs := text.toList.dropWhile Arithmetic.isSpace
  let (negative, cs) := match cs with
    | '-' :: rest => (true, rest)
    | '+' :: rest => (false, rest)
    | _ => (false, cs)
  let (front, power) := match cs.span fun c => c != 'e' && c != 'E' with
    | (front, _ :: '-' :: ds) => (front, (Number.digits? ds).map fun n => -(n : Int))
    | (front, _ :: '+' :: ds) => (front, (Number.digits? ds).map fun n => (n : Int))
    | (front, _ :: ds) => (front, (Number.digits? ds).map fun n => (n : Int))
    | (front, []) => (front, some 0)
  let (whole, places) := match splitOnce '.' front with
    | some (a, b) => (a, b)
    | none => (front, [])
  match Number.digits? (whole ++ places), power with
  | some n, some e =>
    let scale := (places.length : Int) - e
    let units : Int := if scale < 0 then n * Nat.pow 10 (-scale).toNat else n
    some ⟨if negative then -units else units, scale.toNat⟩
  | _, _ => none

/-- The number with more places. -/
def Decimal.scaled (d : Decimal) (places : Nat) : Int := d.units * Nat.pow 10 (places - d.places)

/-- The numbers between two, with a step. -/
def steps : (count : Nat) → Int → Int → Int → List Int
  | 0, _, _, _ => []
  | n + 1, first, step, last =>
    if (0 ≤ step && last < first) || (step < 0 && first < last) then []
    else first :: steps n (first + step) step last

/-- A number of units with places behind the point. -/
def decimalText (places : Nat) (units : Int) : String :=
  let ds := Nat.toDigits 10 units.natAbs
  let ds := List.replicate (places + 1 - ds.length) '0' ++ ds
  (if units < 0 then "-" else "") ++ String.ofList (ds.take (ds.length - places)) ++
    (if places = 0 then "" else "." ++ String.ofList (ds.drop (ds.length - places)))

/-- Whether a word is an option of `seq` and not a negative number. -/
def isSeqOption (word : String) : Bool :=
  match word.toList with
  | '-' :: c :: _ => !c.isDigit && c != '.'
  | _ => false

/-- Prints numbers one below the other. -/
def seq : Tool := fun args =>
  let front := args.takeWhile isSeqOption
  let spec : Spec := { name := "seq", letters := "s:wf:", inFront := true
                       long := [("separator", 's'), ("equal-width", 'w'), ("format", 'f')] }
  -- the value of an option may stand behind the options
  let rest := args.drop front.length
  let parsed := match spec.parse (args.length + 1) (front ++ "--" :: rest) with
    | .ok (given, others) => .ok (given, others)
    | .error _ =>
      match spec.parse (args.length + 1) (front ++ rest.take 1 ++ "--" :: rest.drop 1) with
      | .ok r => Except.ok r
      | .error what => .error what
  let parsed := match front.getLast?, rest with
    | some "-s", between :: more =>
      spec.parse (args.length + 1) (front ++ between :: "--" :: more)
    | some "-f", form :: more => spec.parse (args.length + 1) (front ++ form :: "--" :: more)
    | _, _ => parsed
  match parsed with
  | .error what => misuse "seq" what
  | .ok (given, words) => do
    let words := words.filter (· != "--")
    match words.find? fun w => (Decimal.ofText? w).isNone with
    | some word => misuse "seq" s!"invalid floating point argument: '{word}'"
    | none =>
      match words.filterMap Decimal.ofText? with
      | [] => misuse "seq" "missing operand"
      | _ :: _ :: _ :: _ :: _ => misuse "seq" ("extra operand '" ++ words.getD 3 "" ++ "'")
      | ds =>
        let (first, step, last) : Decimal × Decimal × Decimal := match ds with
          | [a] => (⟨1, 0⟩, ⟨1, 0⟩, a)
          | [a, b] => (a, ⟨1, 0⟩, b)
          | a :: b :: c :: _ => (a, b, c)
          | [] => (⟨1, 0⟩, ⟨1, 0⟩, ⟨0, 0⟩)
        if step.units = 0 then
          misuse "seq" ("invalid Zero increment value: '" ++ words.getD 1 "" ++ "'")
        else
          let places := max first.places step.places
          let most := max places last.places
          let s := step.scaled most
          let span := last.scaled most - first.scaled most
          let count := if (0 < s) == (0 ≤ span) || span = 0 then (span / s).natAbs + 2 else 0
          let ns := steps count (first.scaled most) s (last.scaled most)
          let texts := ns.map fun n => decimalText places (n / Nat.pow 10 (most - places))
          let width := (texts.map String.length).foldl max 0
          let shown := match valueOf? given 'f' with
            | some form => texts.map fun t => String.ofList (Printing.printf form [t]).text
            | none =>
              if has given 'w' then texts.map fun (t : String) =>
                match t.toList with
                | '-' :: ds => String.ofList ('-' :: List.replicate (width - t.length) '0' ++ ds)
                | ds => String.ofList (List.replicate (width - t.length) '0' ++ ds)
              else texts
          let between := (valueOf? given 's').getD "\n"
          if !shown.isEmpty then say (joinStrings between shown ++ "\n")
          return 0

/-- The prime factors of a number, from a divisor on. -/
def factorsFrom : (steps divisor n : Nat) → List Nat
  | 0, _, n => [n]
  | k + 1, d, n =>
    if n ≤ 1 then []
    else if n < d * d then [n]
    else if n % d = 0 then d :: factorsFrom k d (n / d)
    else factorsFrom k (if d = 2 then 3 else d + 2) n

/-- Prints the prime factors of numbers. -/
def factor : Tool := fun args => do
  let words ← if args.isEmpty then (·.map String.ofList) <$> (wordsOf <$> input) else pure args
  let mut failed := false
  for w in words do
    match w.toNat? with
    | some n =>
      let factors := factorsFrom 100000 2 n
      say (toString n ++ ":" ++ String.join (factors.map fun f => s!" {f}") ++ "\n")
    | none =>
      report "factor" s!"'{w}' is not a valid positive integer"
      failed := true
  return statusOf failed

/-! ## Expressions of words -/

namespace Expr

/-- What is wrong with an expression. -/
abbrev Eval := StateT (List String) (Except String)

/-- The whole number that a text is. -/
def number? (s : String) : Option Int :=
  match s.toList with
  | '-' :: ds => (Number.digits? ds).map fun n => -(n : Int)
  | ds => (Number.digits? ds).map fun n => (n : Int)

/-- Whether a value is empty or zero. -/
def isNull (s : String) : Bool :=
  s.isEmpty || (let ds := (s.toList.dropWhile (· == '-')); !ds.isEmpty && ds.all (· == '0'))

def next? : Eval (Option String) := do return (← get).head?

def skip : Eval Unit := modify List.tail

/-- The next word if it is one of the given ones. -/
def oneOf (ws : List String) : Eval (Option String) := do
  match ← next? with
  | some w =>
    if ws.contains w then
      skip
      return some w
    return none
  | none => return none

/-- What a pattern that begins at the beginning of a text matches: the first group, or how many
characters. -/
def matched (text pattern : String) : Eval String := do
  match Expression.ofText {} pattern.toList with
  | .error what => throw what
  | .ok (e, groups) =>
    match e.matchAt { text := text.toList.toArray } 0 with
    | none => return if groups = 0 then "0" else ""
    | some r =>
      if groups = 0 then return toString r.place
      match r.group? 1 with
      | some (a, b) => return String.ofList ((text.toList.take b).drop a)
      | none => return ""

def truth (b : Bool) : String := if b then "1" else "0"

/-- The order of two values: by size if both are numbers. -/
def compareValues (a b : String) : Ordering :=
  match number? a, number? b with
  | some x, some y => compare x y
  | _, _ => compare a b

def arithmetic (o a b : String) : Eval String := do
  match number? a, number? b with
  | some x, some y =>
    match o with
    | "+" => return toString (x + y)
    | "-" => return toString (x - y)
    | "*" => return toString (x * y)
    | _ =>
      if y = 0 then throw "division by zero"
      return toString (if o == "/" then x.tdiv y else x.tmod y)
  | _, _ => throw "non-integer argument"

/-- The operators by how tightly they bind. -/
def levels : List (List String) := [["|"], ["&"], ["<", "<=", "=", "==", "!=", ">=", ">"],
  ["+", "-"], ["*", "/", "%"], [":"]]

/-- The value of two operands. -/
def combine (o a b : String) : Eval String :=
  match o with
  | "|" => return if !isNull a then a else if !isNull b then b else "0"
  | "&" => return if isNull a || isNull b then "0" else a
  | "<" => return truth (compareValues a b == .lt)
  | "<=" => return truth (compareValues a b != .gt)
  | "=" | "==" => return truth (compareValues a b == .eq)
  | "!=" => return truth (compareValues a b != .eq)
  | ">=" => return truth (compareValues a b != .lt)
  | ">" => return truth (compareValues a b == .gt)
  | ":" => matched a b
  | _ => arithmetic o a b

/-- The word that has to come next. -/
def argument (last : String) : Eval String := do
  match ← next? with
  | some w =>
    skip
    return w
  | none => throw s!"syntax error: missing argument after '{last}'"

mutual

/-- An operand with the operators behind it that bind at least so tightly. -/
def value : (steps level : Nat) → (last : String) → Eval String
  | 0, _, _ => throw "syntax error"
  | n + 1, level, last => do
    match levels[level]? with
    | none => primary n last
    | some os =>
      let first ← value n (level + 1) last
      valueFrom n level os first

/-- The operators behind a value. -/
def valueFrom : (steps level : Nat) → List String → String → Eval String
  | 0, _, _, _ => throw "syntax error"
  | n + 1, level, os, a => do
    match ← oneOf os with
    | none => return a
    | some o =>
      let b ← value n (level + 1) o
      valueFrom n level os (← combine o a b)

/-- A word, a function of words, or an expression in parentheses. -/
def primary : (steps : Nat) → (last : String) → Eval String
  | 0, _ => throw "syntax error"
  | n + 1, last => do
    match ← next? with
    | none =>
      throw (if last.isEmpty then "missing operand"
        else s!"syntax error: missing argument after '{last}'")
    | some "(" =>
      skip
      let v ← value n 0 "("
      match ← next? with
      | some ")" =>
        skip
        return v
      | some w => throw s!"syntax error: expecting ')' instead of '{w}'"
      | none => throw s!"syntax error: expecting ')' after '{v}'"
    | some ")" => throw "syntax error: unexpected ')'"
    | some "+" =>
      skip
      argument "+"
    | some "length" =>
      skip
      let v ← primary n "length"
      return toString v.length
    | some "match" =>
      skip
      let a ← primary n "match"
      let b ← primary n a
      matched a b
    | some "index" =>
      skip
      let a ← primary n "index"
      let b ← primary n a
      return toString (((a.toList.findIdx? b.toList.contains).map (· + 1)).getD 0)
    | some "substr" =>
      skip
      let a ← primary n "substr"
      let i ← primary n a
      let k ← primary n i
      match number? i, number? k with
      | some i, some k =>
        if i ≤ 0 || k ≤ 0 then return ""
        return String.ofList ((a.toList.drop (i.toNat - 1)).take k.toNat)
      | _, _ => return ""
    | some w =>
      skip
      return w

end

end Expr

/-- Prints the value of an expression of words. -/
def expr : Tool := fun args => do
  let args := if args.head? == some "--" then args.tail else args
  if args.isEmpty then
    misuse "expr" "missing operand" 2
  else
    match (Expr.value (16 * args.length + 16) 0 "").run args with
    | .error what =>
      report "expr" what
      return 2
    | .ok (v, []) =>
      say (v ++ "\n")
      return if Expr.isNull v then 1 else 0
    | .ok (_, w :: _) =>
      report "expr" s!"syntax error: unexpected argument '{w}'"
      return 2

end Playbook.Shell.Tool
