/-
  Regular expressions of the programs that a shell finds, in the basic and in the extended form.
  Of all matches that begin at the leftmost place the longest is taken, and of its groups the
  first are as long as they can be.
-/
import Playbook.Shell.Wildcard
import Playbook.Shell.Arithmetic
import Playbook.Number.Unsigned

namespace Playbook.Shell

/-- A regular expression. -/
inductive Expression where
  | empty
  /-- A character in one of the ranges, or in none of them. -/
  | one (negated : Bool) (ranges : List (Char × Char))
  | seq (a b : Expression)
  | either (a b : Expression)
  | many (e : Expression) (least : Nat) (most : Option Nat)
  | group (number : Nat) (e : Expression)
  /-- The text of a group again. -/
  | back (number : Nat)
  | lineStart
  | lineEnd
  | textStart
  | textEnd
  | wordStart
  | wordEnd
  | wordEdge
  | noWordEdge
  deriving Repr, Inhabited

namespace Expression

/-! ## Matching -/

/-- A place that was reached, and the groups on the way: number, beginning, end. -/
structure Reached where
  place : Nat
  groups : List (Nat × Nat × Nat) := []
  deriving Repr, Inhabited

/-- The text of a group. -/
def Reached.group? (r : Reached) (n : Nat) : Option (Nat × Nat) := r.groups.lookup n

/-- What a match is looked for in. -/
structure Subject where
  text : Array Char
  ignoreCase : Bool := false
  /-- Whether lines within the text have beginnings and ends. -/
  lines : Bool := false

/-- Whether a character belongs to words. -/
def isWord (c : Char) : Bool := c.isAlphanum || c == '_'

namespace Subject

/-- Whether a word character stands at a place. -/
def wordAt (s : Subject) (i : Nat) : Bool := (s.text[i]?.map isWord).getD false

/-- Whether a word character stands before a place. -/
def wordBefore (s : Subject) (i : Nat) : Bool := 0 < i && s.wordAt (i - 1)

/-- Whether a text stands again at a place. -/
def repeats (s : Subject) (from_ past at_ : Nat) : Bool :=
  let fold := fun (c : Char) => if s.ignoreCase then c.toLower else c
  (List.range (past - from_)).all fun k =>
    match s.text[from_ + k]?, s.text[at_ + k]? with
    | some a, some b => fold a == fold b
    | _, _ => false

end Subject

/-- The first of the ways that lead to each place. -/
def firsts (backs : Bool) (rs : List Reached) : List Reached :=
  if backs then rs
  else
    (rs.foldl (fun (seen, kept) r =>
      if seen.contains r.place then (seen, kept) else (r.place :: seen, r :: kept))
      (([] : List Nat), ([] : List Reached))).2.reverse

/-- The ways with the longer ones in front. -/
def longFirst (rs : List Reached) : List Reached :=
  rs.mergeSort fun a b => b.place ≤ a.place

/-- Repeats a step from ways that were reached, until nothing new is reached; `count` is the
number of repetitions so far. -/
def iterate (step : Reached → List Reached) (least : Nat) (most : Option Nat) :
    (steps count : Nat) → (seen : List Nat) → List Reached → List Reached
  | 0, _, _, _ => []
  | n + 1, count, seen, rs =>
    let here := if least ≤ count then rs else []
    if rs.isEmpty || most == some count then here
    else
      let next := (rs.flatMap fun r =>
        (step r).filter fun r' => count < least || r.place < r'.place)
      let fresh := (firsts false next).filter fun r => count < least || !seen.contains r.place
      iterate step least most n (count + 1)
        (if least ≤ count then fresh.map (·.place) ++ seen else seen) fresh ++ here

/-- The ways on from a place, the preferred ones first. `backs` tells whether groups are
repeated. -/
def ways (s : Subject) (backs : Bool) : Expression → Reached → List Reached
  | .empty, r => [r]
  | .one negated ranges, r =>
    match s.text[r.place]? with
    | some c =>
      if (Glob.inRanges ranges c) != negated then [{ r with place := r.place + 1 }] else []
    | none => []
  | .seq a b, r => firsts backs ((ways s backs a r).flatMap (ways s backs b))
  | .either a b, r => longFirst (firsts backs (ways s backs a r ++ ways s backs b r))
  | .many e least most, r =>
    longFirst (firsts backs
      (iterate (ways s backs e) least most (s.text.size + least + 2) 0 [r.place] [r]))
  | .group n e, r =>
    (ways s backs e r).map fun r' =>
      { r' with groups := (n, r.place, r'.place) :: r'.groups }
  | .back n, r =>
    match r.group? n with
    | none => []
    | some (from_, past) =>
      if s.repeats from_ past r.place then [{ r with place := r.place + (past - from_) }] else []
  | .lineStart, r =>
    if r.place = 0 || (s.lines && s.text[r.place - 1]? == some '\n') then [r] else []
  | .lineEnd, r =>
    if r.place = s.text.size || (s.lines && s.text[r.place]? == some '\n') then [r] else []
  | .textStart, r => if r.place = 0 then [r] else []
  | .textEnd, r => if r.place = s.text.size then [r] else []
  | .wordStart, r => if !s.wordBefore r.place && s.wordAt r.place then [r] else []
  | .wordEnd, r => if s.wordBefore r.place && !s.wordAt r.place then [r] else []
  | .wordEdge, r => if s.wordBefore r.place != s.wordAt r.place then [r] else []
  | .noWordEdge, r => if s.wordBefore r.place == s.wordAt r.place then [r] else []

/-- Whether groups are repeated. -/
def hasBacks : Expression → Bool
  | .seq a b => a.hasBacks || b.hasBacks
  | .either a b => a.hasBacks || b.hasBacks
  | .many e _ _ => e.hasBacks
  | .group _ e => e.hasBacks
  | .back _ => true
  | _ => false

/-- The longest of ways, the first of equals. -/
def longest (rs : List Reached) : Option Reached :=
  rs.foldl (fun best r =>
    match best with
    | none => some r
    | some b => if b.place < r.place then some r else best) none

/-- The longest match that begins at a place. -/
def matchAt (e : Expression) (s : Subject) (i : Nat) : Option Reached :=
  longest (ways s e.hasBacks e { place := i })

/-- The first match from a place on: where it begins, and how it goes. -/
def findFrom (e : Expression) (s : Subject) : (steps i : Nat) → Option (Nat × Reached)
  | 0, _ => none
  | n + 1, i =>
    if s.text.size < i then none
    else
      match e.matchAt s i with
      | some r => some (i, r)
      | none => findFrom e s n (i + 1)

/-- The first match from a place on. -/
def find (e : Expression) (s : Subject) (i : Nat) : Option (Nat × Reached) :=
  e.findFrom s (s.text.size + 2 - i) i

/-! ## Reading -/

/-- How expressions are written. -/
structure Flavor where
  /-- Whether parentheses, braces and signs mean something without a backslash. -/
  extended : Bool := false
  ignoreCase : Bool := false
  /-- Whether letters behind backslashes stand for control characters, also in brackets. -/
  controls : Bool := false
  /-- Whether words and repetitions are written with backslashes. -/
  signs : Bool := true
  /-- Whether characters can be written by their numbers. -/
  codes : Bool := false
  /-- Whether a closing parenthesis alone stands for itself. -/
  loose : Bool := false
  /-- Whether there is a sign for digits. -/
  digits : Bool := false

/-- The ranges with letters of the other case. -/
def bothCases (ranges : List (Char × Char)) : List (Char × Char) :=
  ranges ++ ranges.flatMap fun (lo, hi) =>
    let members := (List.range (hi.toNat + 1 - lo.toNat)).map fun k => Char.ofNat (lo.toNat + k)
    members.filterMap fun c =>
      if c.isLower then some (c.toUpper, c.toUpper)
      else if c.isUpper then some (c.toLower, c.toLower)
      else none

/-- One of the characters in ranges. -/
def oneOf (f : Flavor) (negated : Bool) (ranges : List (Char × Char)) : Expression :=
  .one negated (if f.ignoreCase then bothCases ranges else ranges)

/-- A character. -/
def char (f : Flavor) (c : Char) : Expression := oneOf f false [(c, c)]

/-- Any character. -/
def any : Expression := .one true []

/-- The characters of words. -/
def wordRanges : List (Char × Char) := classRanges "alnum" ++ [('_', '_')]

/-- The control character of a letter behind a backslash. -/
def control? : Char → Option Char
  | 'n' => some '\n'
  | 't' => some '\t'
  | 'r' => some '\r'
  | 'f' => some '\x0c'
  | 'v' => some '\x0b'
  | 'a' => some '\x07'
  | _ => none

/-- The digits of a base in front of a text, at most so many. -/
def digitsOf (base most : Nat) (cs : List Char) : List Nat :=
  ((cs.take most).map (Arithmetic.digit? base)).takeWhile Option.isSome |>.filterMap id

/-- The character that a letter and the digits behind it stand for, and how many they are. -/
def code? (c : Char) (rest : List Char) : Option (Char × Nat) :=
  let numbered := fun (base most : Nat) =>
    match digitsOf base most rest with
    | [] => none
    | ds => some (Char.ofNat (ds.foldl (fun v d => v * base + d) 0 % 256), ds.length)
  match c with
  | 'x' => numbered 16 2
  | 'o' => numbered 8 3
  | 'd' => numbered 10 3
  | 'c' => rest.head?.map fun d => (Char.ofNat (d.toUpper.toNat ^^^ 64), 1)
  | _ => none

/-- What is said of brackets without an end. -/
def openBracket : String := "Unmatched [, [^, [:, [., or [="

/-- The ranges in brackets, and what follows the closing one. -/
def bracketBody (f : Flavor) : (steps : Nat) → (first : Bool) → List Char →
    Except String (List (Char × Char) × List Char)
  | 0, _, _ => .error openBracket
  | _, _, [] => .error openBracket
  | n + 1, first, c :: rest => do
    let more := fun (ranges : List (Char × Char)) (rest : List Char) => do
      let (others, rest) ← bracketBody f n false rest
      return (ranges ++ others, rest)
    if c == ']' && !first then return ([], rest)
    match c, rest with
    | '[', ':' :: name =>
      let word := name.takeWhile (· != ':')
      match name.drop word.length with
      | ':' :: ']' :: rest =>
        let ranges := classRanges (String.ofList word)
        if ranges.isEmpty then throw "Invalid character class name"
        more ranges rest
      | _ => throw openBracket
    | '[', '.' :: d :: '.' :: ']' :: rest => more [(d, d)] rest
    | '[', '=' :: d :: '=' :: ']' :: rest => more [(d, d)] rest
    | _, _ =>
      let (lo, rest) := match c, rest with
        | '\\', d :: after =>
          if f.controls then
            match control? d with
            | some e => (e, after)
            | none => if "\\]/\"".toList.contains d then (d, after) else (c, rest)
          else (c, rest)
        | _, _ => (c, rest)
      match rest with
      | '-' :: hi :: after =>
        if hi == ']' then more [(lo, lo)] rest
        else
          let (hi, after) := match hi, after with
            | '[', '.' :: d :: '.' :: ']' :: after => (d, after)
            | _, _ => (hi, after)
          if hi < lo then throw "Invalid range end"
          more [(lo, hi)] after
      | _ => more [(lo, lo)] rest

/-- An expression while it is read: the number of groups that were opened, and what follows. -/
structure Reading where
  groups : Nat := 0
  rest : List Char

abbrev Reader := StateT Reading (Except String)

/-- The next characters. -/
def peek : Reader (List Char) := do return (← get).rest

/-- Leaves out characters. -/
def skip (n : Nat) : Reader Unit := modify fun r => { r with rest := r.rest.drop n }

/-- The operator that comes next, and how many characters it has: a sign alone or behind a
backslash, as the form asks for. -/
def sign? (f : Flavor) (signs : String) : Reader (Option (Char × Nat)) := do
  match f.extended, ← peek with
  | true, c :: _ => return if signs.toList.contains c then some (c, 1) else none
  | false, '\\' :: c :: _ => return if signs.toList.contains c then some (c, 2) else none
  | _, _ => return none

/-- The bounds of a repetition behind its opening brace. -/
def bounds? (f : Flavor) (cs : List Char) : Option (Nat × Option Nat × List Char) :=
  let low := cs.takeWhile Char.isDigit
  let rest := cs.drop low.length
  let (high, rest) := match rest with
    | ',' :: rest => (some (rest.takeWhile Char.isDigit), rest.dropWhile Char.isDigit)
    | _ => (none, rest)
  let closed := match f.extended, rest with
    | true, '\x7d' :: rest => some rest
    | false, '\\' :: '\x7d' :: rest => some rest
    | _, _ => none
  match closed with
  | none => none
  | some rest =>
    match Number.digits? low, high with
    | some n, none => some (n, some n, rest)
    | some n, some [] => some (n, none, rest)
    | some n, some ds => (Number.digits? ds).map fun m => (n, some m, rest)
    | none, some ds =>
      if low.isEmpty then some (0, Number.digits? ds, rest) else none
    | none, none => none

/-- The repetitions behind an expression. -/
def repetitions (f : Flavor) : (steps : Nat) → Expression → Reader Expression
  | 0, e => return e
  | n + 1, e => do
    match ← peek with
    | '*' :: _ =>
      skip 1
      repetitions f n (.many e 0 none)
    | _ =>
      match ← sign? f "+?\x7b" with
      | some ('+', k) =>
        skip k
        repetitions f n (.many e 1 none)
      | some ('?', k) =>
        skip k
        repetitions f n (.many e 0 (some 1))
      | some (_, k) =>
        match bounds? f ((← peek).drop k) with
        | some (least, most, rest) =>
          if most.any (· < least) then throw "Invalid content of \\\x7b\\\x7d"
          modify fun r => { r with rest }
          repetitions f n (.many e least most)
        | none =>
          if f.extended then return e
          throw (if ((← peek).drop k).all fun c => c != '\\' then "Unmatched \\\x7b"
            else "Invalid content of \\\x7b\\\x7d")
      | none => return e

mutual

/-- Expressions of which one is to match. -/
def alternatives (f : Flavor) : (steps depth : Nat) → Reader Expression
  | 0, _ => throw "Regular expression too big"
  | n + 1, depth => do
    let first ← sequence f n depth true .empty
    match ← sign? f "|" with
    | some (_, k) =>
      skip k
      return .either first (← alternatives f n depth)
    | none => return first

/-- Expressions one after the other; `first` tells whether nothing stands in front. -/
def sequence (f : Flavor) : (steps depth : Nat) → (first : Bool) → Expression → Reader Expression
  | 0, _, _, _ => throw "Regular expression too big"
  | n + 1, depth, first, before => do
    let joined := fun (e : Expression) =>
      match before with
      | .empty => e
      | _ => Expression.seq before e
    let cs ← peek
    match cs with
    | [] => return before
    | c :: rest =>
      if (← sign? f "|").isSome then return before
      if 0 < depth && (← sign? f ")").isSome then return before
      -- an anchor, or a sign that stands for itself because nothing is in front of it
      if c == '^' && (f.extended || first) then
        skip 1
        let e ← if !f.extended && rest.head? == some '*' then
            skip 1
            let star ← repetitions f n (char f '*')
            pure (.seq .lineStart star)
          else if f.extended then repetitions f n .lineStart
          else pure .lineStart
        sequence f n depth false (joined e)
      else if c == '$' && (f.extended || endsHere depth rest) then
        skip 1
        let e ← repetitions f n .lineEnd
        sequence f n depth false (joined e)
      else if first && f.extended && isRepetition cs then
        if !f.loose then throw "Invalid preceding regular expression"
        let e ← repetitions f n .empty
        sequence f n depth false (joined e)
      else if c == '*' && first then
        skip 1
        sequence f n depth false (joined (← repetitions f n (char f c)))
      else
        let e ← atom f n depth
        let e ← repetitions f (cs.length + 1) e
        sequence f n depth false (joined e)
where
  /-- Whether a sign of repetition comes next. -/
  isRepetition (cs : List Char) : Bool :=
    match cs with
    | '*' :: _ | '+' :: _ | '?' :: _ => true
    | '{' :: rest => (bounds? f rest).isSome
    | _ => false
  /-- Whether an expression in the basic form ends here. -/
  endsHere (depth : Nat) (rest : List Char) : Bool :=
    rest.isEmpty || "\\|".toList.isPrefixOf rest || (0 < depth && "\\)".toList.isPrefixOf rest)

/-- An expression that is not put together by signs behind it. -/
def atom (f : Flavor) : (steps depth : Nat) → Reader Expression
  | 0, _ => throw "Regular expression too big"
  | n + 1, depth => do
    match ← sign? f "()" with
    | some ('(', k) =>
      skip k
      let number := (← get).groups + 1
      modify fun r => { r with groups := number }
      let e ← alternatives f n (depth + 1)
      match ← sign? f ")" with
      | some (_, k) =>
        skip k
        return .group number e
      | none => throw "Unmatched ( or \\("
    | some (_, k) =>
      if f.extended && f.loose then
        skip k
        return char f ')'
      throw "Unmatched ) or \\)"
    | none =>
      match ← peek with
      | [] => return .empty
      | '.' :: _ =>
        skip 1
        return any
      | '[' :: rest =>
        let (negated, body) := match rest with
          | '^' :: body => (true, body)
          | _ => (false, rest)
        if body.isEmpty then throw "Invalid regular expression"
        let (ranges, rest) ← bracketBody f (body.length + 1) true body
        modify fun r => { r with rest }
        return oneOf f negated ranges
      | '\\' :: rest =>
        match rest with
        | [] => throw "Trailing backslash"
        | c :: _ =>
          skip 2
          if f.controls && (control? c).isSome then return char f ((control? c).getD c)
          let behind ← peek
          match if f.codes then code? c behind else none with
          | some (d, k) =>
            skip k
            return char f d
          | none => pure ()
          if !f.signs then return char f c
          if f.digits && (c == 'd' || c == 'D') then return .one (c == 'D') [('0', '9')]
          match c with
          | 'w' => return .one false wordRanges
          | 'W' => return .one true wordRanges
          | 's' => return .one false (classRanges "space")
          | 'S' => return .one true (classRanges "space")
          | '<' => return .wordStart
          | '>' => return .wordEnd
          | 'b' => return .wordEdge
          | 'B' => return .noWordEdge
          | '\x60' => return .textStart
          | '\'' => return .textEnd
          | _ =>
            if c.isDigit && c != '0' then
              let k := c.toNat - '0'.toNat
              if (← get).groups < k then throw "Invalid back reference"
              return .back k
            return char f c
      | c :: _ =>
        skip 1
        return char f c

end

/-- The expression that a text spells and the number of its groups, or what is wrong with it. -/
def ofText (f : Flavor) (text : List Char) : Except String (Expression × Nat) := do
  let (e, r) ← (alternatives f (16 * text.length + 16) 0).run { rest := text }
  if r.rest.isEmpty then return (e, r.groups)
  else throw "Unmatched ) or \\)"

/-- The expression that matches a text itself. -/
def literal (f : Flavor) (text : List Char) : Expression :=
  text.foldr (fun c e => .seq (char f c) e) .empty

end Expression

end Playbook.Shell
