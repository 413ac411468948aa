/-
  Reading programs that go through records. A sign behind an expression binds as strongly as its
  level says; two expressions without a sign between them are joined.
-/
import Playbook.Shell.Tool.Records.Token

namespace Playbook.Shell.Tool.Records

open Playbook.Text

/-! ## Expressions of texts -/

/-- Whether an expression misses an operand: one of two ways or a group is empty. -/
def lacksOperand : Expression → Bool
  | .either a b => isEmpty a || isEmpty b || lacksOperand a || lacksOperand b
  | .group _ e => isEmpty e || lacksOperand e
  | .seq a b => lacksOperand a || lacksOperand b
  | .many e _ _ => lacksOperand e
  | _ => false
where
  /-- Whether nothing is written. -/
  isEmpty : Expression → Bool
    | .empty => true
    | _ => false

/-- The expression that a text spells, or what is wrong with it. -/
def expressionOf (source : String) : Except String Expression :=
  let failed := fun (why : String) =>
    Except.error s!"regular expression compile failed ({why})\n{source}"
  match Expression.ofText { extended := true, controls := true, signs := false } source.toList with
  | .ok (e, _) => if lacksOperand e then failed "missing operand" else .ok e
  | .error what =>
    if what.startsWith "Unmatched (" then failed "missing ')'"
    else if what.startsWith "Invalid preceding" then failed "missing operand"
    else failed "bad class -- [], [^] or ["

/-! ## Readers -/

/-- The part of a program that is read. -/
inductive Part where
  | beginning
  | rule
  | ending
  | function
  deriving Repr, DecidableEq

/-- A program while it is read. -/
structure Reading where
  tokens : List (Token × Nat)
  /-- The file that the program is from, if it is from one. -/
  file : Option String := none
  part : Part := .rule
  /-- How many parentheses, braces and loops are open. -/
  parens : Nat := 0
  braces : Nat := 0
  loops : Nat := 0
  /-- Whether a sign for more sends what is printed to a file. -/
  printing : Bool := false
  /-- The names that are in use, and whether they name arrays. -/
  names : List (String × Bool) := []
  params : List String := []
  functions : List (String × Function) := []
  /-- The functions that were called, with the number of arguments and the line. -/
  calls : List (String × Nat × Nat) := []

/-- A reader; what is wrong is a list of faults. -/
abbrev Reader := StateT Reading (Except (List String))

namespace Reading

/-- What is left of the program. -/
def token (r : Reading) : Token := (r.tokens.head?.map Prod.fst).getD .finish

/-- The line that is read. -/
def line (r : Reading) : Nat := (r.tokens.head?.map Prod.snd).getD 0

/-- The tokens behind the next one. -/
def behind (r : Reading) : List Token := r.tokens.tail.map Prod.fst

/-- A fault on a line. -/
def fault (r : Reading) (line : Nat) (what : String) : String :=
  (r.file.map (· ++ ": ")).getD "" ++ s!"line {line}: {what}"

/-- What is wrong, on the line that is read. -/
def wrong {α : Type} (what : String) : Reader α := do
  let r ← get
  throw [r.fault r.line what]

/-- What is said of a token in the wrong place. -/
def misplacedText (r : Reading) : String :=
  let shown := r.token.shown
  match r.token with
  | .wrong what => what
  | .sign ")" => if r.parens = 0 then "extra ')'" else "syntax error at or near )"
  | .sign "\x7d" | .sign ";" | .newline =>
    if 0 < r.parens then "missing ) near " ++ shown
    else if shown == "\x7d" && r.braces = 0 then "extra '\x7d'"
    else "syntax error at or near " ++ shown
  | .finish | .keyword "BEGIN" | .keyword "END" =>
    if 0 < r.braces then "missing \x7d near " ++ shown else "syntax error at or near " ++ shown
  | _ => "syntax error at or near " ++ shown

/-- What is said at the end of a program in which braces are open. -/
def missingBrace : String := "missing \x7d near end of file"

/-- Refuses the next token. Reading goes on up to the end, where braces may be missing as well. -/
def misplaced {α : Type} : Reader α := do
  let r ← get
  match r.token, r.tokens.tail with
  | .wrong what, _ =>
    throw [if what.startsWith "unexpected" then s!"{r.line}: {what}" else r.fault r.line what]
  | .newline, [(.finish, line)] =>
    throw (r.fault r.line (misplacedText r) ::
      (if 0 < r.braces then [r.fault line missingBrace] else []))
  | _, _ => wrong (misplacedText r)

/-- The next token. -/
def peek : Reader Token := do return (← get).token

/-- Leaves out the next token. -/
def skip : Reader Unit := modify fun r => { r with tokens := r.tokens.tail }

/-- Whether the next token is a sign. -/
def seesSign (s : String) : Reader Bool := do
  match ← peek with
  | .sign t => return s == t
  | _ => return false

/-- Takes a sign if it is the next token. -/
def takeSign (s : String) : Reader Bool := do
  let seen ← seesSign s
  if seen then skip
  return seen

/-- Takes a sign. -/
def expectSign (s : String) : Reader Unit := do
  if !(← takeSign s) then misplaced

/-- Takes a keyword. -/
def expectKeyword (s : String) : Reader Unit := do
  match ← peek with
  | .keyword t => if s == t then skip else misplaced
  | _ => misplaced

/-- Leaves out the ends of lines. -/
def skipLines : Reader Unit :=
  modify fun r => { r with tokens := r.tokens.dropWhile fun (t, _) => t matches .newline }

/-- Reads something in parentheses. -/
def inParens {α : Type} (read : Reader α) : Reader α := do
  let printing := (← get).printing
  expectSign "("
  modify fun r => { r with parens := r.parens + 1, printing := false }
  let x ← read
  expectSign ")"
  modify fun r => { r with parens := r.parens - 1, printing }
  return x

/-- Notes that a name is in use for an array or for something else. -/
def useName (name : String) (isArray : Bool) : Reader Unit := do
  let r ← get
  if !r.params.contains name then
    match r.names.lookup name with
    | some known =>
      if known != isArray then
        let kind := if isArray then "variable" else "array"
        wrong s!"illegal reference to {kind} {name}"
    | none => set { r with names := (name, isArray) :: r.names }

/-- Whether a token begins an expression that is joined to the one in front. -/
def beginsOperand : Token → Bool
  | .number _ _ | .text _ | .regex _ | .name _ _ | .builtin _ => true
  | .keyword s => s == "getline"
  | .sign s => ["(", "!", "$", "++", "--"].contains s
  | _ => false

/-- What a sign between two expressions means on a level, from those that bind loosely on. -/
def operator? (level : Nat) (printing : Bool) : String → Option (Expr → Expr → Expr)
  | "||" => if level = 1 then some .either else none
  | "&&" => if level = 2 then some .both else none
  | "~" => if level = 4 then some (.fits · · false) else none
  | "!~" => if level = 4 then some (.fits · · true) else none
  | "<" => if level = 5 then some (.compare .less) else none
  | "<=" => if level = 5 then some (.compare .atMost) else none
  | "==" => if level = 5 then some (.compare .equal) else none
  | "!=" => if level = 5 then some (.compare .different) else none
  | ">" => if level = 5 && !printing then some (.compare .more) else none
  | ">=" => if level = 5 then some (.compare .atLeast) else none
  | "+" => if level = 7 then some (.compute .add) else none
  | "-" => if level = 7 then some (.compute .subtract) else none
  | "*" => if level = 8 then some (.compute .multiply) else none
  | "/" => if level = 8 then some (.compute .divide) else none
  | "%" => if level = 8 then some (.compute .remainder) else none
  | _ => none

/-- What a sign behind a spot assigns; the second part is none for the plain sign. -/
def assignment? : String → Option (Option Operation)
  | "=" => some none
  | "+=" => some (some .add)
  | "-=" => some (some .subtract)
  | "*=" => some (some .multiply)
  | "/=" => some (some .divide)
  | "%=" => some (some .remainder)
  | "^=" => some (some .power)
  | _ => none

/-! ## Expressions -/

mutual

/-- An expression. -/
def expr : (steps : Nat) → Reader Expr
  | 0 => misplaced
  | n + 1 => do
    let a ← onLevel n 1
    if ← takeSign "?" then
      let yes ← expr n
      expectSign ":"
      return .choose a yes (← expr n)
    return a

/-- An expression of a level. -/
def onLevel : (steps level : Nat) → Reader Expr
  | 0, _ => misplaced
  | n + 1, level => do
    if level = 9 then signed n
    else
      let a ← onLevel n (level + 1)
      goOn n level a

/-- An expression of a level with what is behind it. -/
def goOn : (steps level : Nat) → Expr → Reader Expr
  | 0, _, _ => misplaced
  | n + 1, level, a => do
    let r ← get
    match r.token with
    | .sign s =>
      match operator? level r.printing s with
      | some combine =>
        skip
        if level ≤ 2 then skipLines
        let b ← onLevel n (level + 1)
        goOn n level (combine a b)
      | none => joined n level a r.token
    | .keyword "in" =>
      if level = 3 then
        skip
        match ← peek with
        | .name array _ =>
          skip
          useName array true
          -- what is compared or matched then is whether the key is there
          let compared ← goOn n 5 (.within [a] array)
          goOn n level (← goOn n 4 compared)
        | _ => misplaced
      else return a
    | t => joined n level a t

/-- An expression joined to the one that begins with the next token. -/
def joined : (steps level : Nat) → Expr → Token → Reader Expr
  | 0, _, _, _ => misplaced
  | n + 1, level, a, t => do
    if level = 6 && beginsOperand t then
      let b ← onLevel n (level + 1)
      goOn n level (.join a b)
    else return a

/-- An expression behind signs. -/
def signed : (steps : Nat) → Reader Expr
  | 0 => misplaced
  | n + 1 => do
    if ← takeSign "!" then return .negation (← signed n)
    if ← takeSign "-" then return .minus (← signed n)
    if ← takeSign "+" then return .plus (← signed n)
    piped n (← power n)

/-- A command whose output is read, or an expression itself. -/
def piped : (steps : Nat) → Expr → Reader Expr
  | 0, _ => misplaced
  | n + 1, a => do
    let r ← get
    match r.token, r.behind with
    | .sign "|", .keyword "getline" :: _ =>
      skip
      skip
      let p ← spot? n
      piped n (.getline (.command a) p)
    | _, _ => return a

/-- An expression with a power. -/
def power : (steps : Nat) → Reader Expr
  | 0 => misplaced
  | n + 1 => do
    let a ← primary n
    if ← takeSign "^" then return .compute .power a (← exponent n)
    return a

/-- A power. -/
def exponent : (steps : Nat) → Reader Expr
  | 0 => misplaced
  | n + 1 => do
    if ← takeSign "!" then return .negation (← exponent n)
    if ← takeSign "-" then return .minus (← exponent n)
    if ← takeSign "+" then return .plus (← exponent n)
    power n

/-- Expressions with commas between them. -/
def exprs : (steps : Nat) → Reader (List Expr)
  | 0 => misplaced
  | n + 1 => do
    let e ← expr n
    if ← takeSign "," then
      skipLines
      return e :: (← exprs n)
    return [e]

/-- The arguments of a function. A name alone may be that of an array. -/
def arguments : (steps : Nat) → Reader (List Expr)
  | 0 => misplaced
  | n + 1 => do
    if ← seesSign ")" then return []
    let r ← get
    let e ← match r.token, r.behind with
      | .name s false, .sign "," :: _ | .name s false, .sign ")" :: _ =>
        skip
        pure (.read (.named s))
      | _, _ => expr n
    if ← takeSign "," then
      skipLines
      return e :: (← arguments n)
    return [e]

/-- The spot with a name. -/
def named : (steps : Nat) → String → Reader Spot
  | 0, _ => misplaced
  | n + 1, name => do
    if ← takeSign "[" then
      useName name true
      let r ← get
      set { r with printing := false }
      let subscripts ← exprs n
      expectSign "]"
      modify fun q => { q with printing := r.printing }
      return .element name subscripts
    useName name false
    return .named name

/-- The number of a field behind its sign. -/
def fieldNumber : (steps : Nat) → Reader Expr
  | 0 => misplaced
  | n + 1 => do
    match ← peek with
    | .name s false =>
      skip
      return .read (← named n s)
    | .sign "$" =>
      skip
      return .read (.field (← fieldNumber n))
    | .sign "-" =>
      skip
      return .minus (← fieldNumber n)
    | .sign "+" =>
      skip
      return .plus (← fieldNumber n)
    | .sign "!" =>
      skip
      return .negation (← fieldNumber n)
    | _ => primary n

/-- A spot, if one comes next. -/
def spot? : (steps : Nat) → Reader (Option Spot)
  | 0 => misplaced
  | n + 1 => do
    match ← peek with
    | .name s false =>
      skip
      return some (← named n s)
    | .sign "$" =>
      skip
      return some (.field (← fieldNumber n))
    | _ => return none

/-- What is done with a spot. -/
def used : (steps : Nat) → Spot → Reader Expr
  | 0, _ => misplaced
  | n + 1, p => do
    match ← peek with
    | .sign "++" =>
      skip
      return .step p .add false
    | .sign "--" =>
      skip
      return .step p .subtract false
    | .sign s =>
      match assignment? s with
      | some op =>
        skip
        return .assign p op (← expr n)
      | none => return .read p
    | _ => return .read p

/-- An expression in parentheses, or subscripts of an array in which they are looked for. -/
def grouped : (steps : Nat) → Reader Expr
  | 0 => misplaced
  | n + 1 => do
    let es ← inParens (exprs n)
    match es with
    | [e] => return e
    | es =>
      expectKeyword "in"
      match ← peek with
      | .name array _ =>
        skip
        useName array true
        return .within es array
      | _ => misplaced

/-- A call of a function that every program knows. -/
def builtinCall : (steps : Nat) → String → Reader Expr
  | 0, _ => misplaced
  | n + 1, name => do
    let args ← if (name == "length" || name == "fflush") && !(← seesSign "(") then pure []
      else inParens (arguments n)
    match builtins.lookup name with
    | none => misplaced
    | some (f, least, most) =>
      if args.length < least || most < args.length then
        if name == "length" then misplaced
        wrong s!"wrong number of arguments in call to {name}"
      if name == "split" then
        match args with
        | _ :: .read (.named array) :: _ => useName array true
        | _ => misplaced
      if name == "sub" || name == "gsub" then
        match args with
        | _ :: _ :: .read (.named s) :: _ => useName s false
        | _ :: _ :: .read _ :: _ | [_, _] => pure ()
        | _ => misplaced
      return .call f args

/-- An expression that is not put together by signs. -/
def primary : (steps : Nat) → Reader Expr
  | 0 => misplaced
  | n + 1 => do
    let r ← get
    match r.token with
    | .number x _ =>
      skip
      return .number x
    | .text s =>
      skip
      return .text s
    | .regex source =>
      match expressionOf source with
      | .ok e =>
        skip
        return .regex e
      | .error what => wrong what
    | .sign "(" => grouped n
    | .sign "$" =>
      skip
      used n (.field (← fieldNumber n))
    | .sign "++" | .sign "--" =>
      let op := if ← seesSign "++" then Operation.add else .subtract
      skip
      match ← spot? n with
      | some p => return .step p op true
      | none => misplaced
    | .name s called =>
      skip
      if called || ((r.functions.lookup s).isSome && (← seesSign "(")) then
        let args ← inParens (arguments n)
        modify fun q => { q with calls := (s, args.length, r.line) :: q.calls }
        return .apply s args
      used n (← named n s)
    | .builtin s =>
      skip
      builtinCall n s
    | .keyword "getline" =>
      skip
      let p ← spot? n
      if ← takeSign "<" then return .getline (.file (← power n)) p
      return .getline .input p
    | _ => misplaced

end

/-! ## Statements -/

/-- Whether a token ends what is printed. -/
def endsPrinting : Token → Bool
  | .newline | .finish => true
  | .sign s => [";", "\x7d", ">", ">>", "|"].contains s
  | _ => false

/-- The end of a statement. -/
def endStatement : Reader Unit := do
  match ← peek with
  | .sign ";" | .newline => skip
  | .sign "\x7d" => return
  | _ => misplaced

/-- What is printed: expressions, perhaps all in parentheses. -/
def printed (n : Nat) : Reader (List Expr) := do
  let before ← get
  if endsPrinting before.token then return []
  if ← seesSign "(" then
    match (inParens (do if ← seesSign ")" then pure [] else exprs n)).run before with
    | .ok (es, after) =>
      if endsPrinting after.token then
        set after
        return es
    | .error _ => pure ()
  set { before with printing := true }
  let es ← exprs n
  modify fun r => { r with printing := before.printing }
  return es

/-- Where what is printed goes. -/
def target (n : Nat) : Reader Target := do
  if ← takeSign ">" then return .file (← expr n) false
  if ← takeSign ">>" then return .file (← expr n) true
  if ← takeSign "|" then return .command (← expr n)
  return .output

/-- A statement that other statements do not belong to, without its end. -/
def simple (n : Nat) : Reader Stmt := do
  match ← peek with
  | .keyword "print" =>
    skip
    let es ← printed n
    return .print es (← target n)
  | .keyword "printf" =>
    skip
    let es ← printed n
    if es.isEmpty then wrong "no arguments in call to printf"
    return .printf es (← target n)
  | .keyword "delete" =>
    skip
    match ← peek with
    | .name s _ =>
      skip
      useName s true
      if ← takeSign "[" then
        let subscripts ← exprs n
        expectSign "]"
        return .delete s (some subscripts)
      return .delete s none
    | _ => misplaced
  | _ => return .expr (← expr n)

/-- A value behind a statement's name, if there is one. -/
def value? (n : Nat) : Reader (Option Expr) := do
  match ← peek with
  | .newline | .sign ";" | .sign "\x7d" => return none
  | _ => return some (← expr n)

/-- Reads something within a loop. -/
def inLoop {α : Type} (read : Reader α) : Reader α := do
  modify fun r => { r with loops := r.loops + 1 }
  let x ← read
  modify fun r => { r with loops := r.loops - 1 }
  return x

/-- A statement of one word, with what it needs to be in. -/
def word (n : Nat) (s : String) : Reader Stmt := do
  let r ← get
  let st : Stmt ← match s with
    | "next" | "nextfile" =>
      if r.part != .rule then wrong s!"improper use of {s}"
      skip
      pure (if s == "next" then .next else .nextFile)
    | "break" =>
      if r.loops = 0 then wrong "break statement outside of loop"
      skip
      pure .leave
    | "continue" =>
      if r.loops = 0 then wrong "continue statement outside of loop"
      skip
      pure .goOn
    | "exit" =>
      skip
      pure (.exit (← value? n))
    | _ =>
      if r.part != .function then wrong "return outside function body"
      skip
      pure (.giveBack (← value? n))
  endStatement
  return st

mutual

/-- A statement with its end. -/
def statement : (steps : Nat) → Reader Stmt
  | 0 => misplaced
  | n + 1 => do
    match ← peek with
    | .sign "\x7b" => block n
    | .sign ";" =>
      skip
      return .block []
    | .keyword "if" =>
      skip
      let c ← inParens (expr n)
      skipLines
      let yes ← statement n
      let before ← get
      skipLines
      match ← peek with
      | .keyword "else" =>
        skip
        skipLines
        return .branch c yes (← statement n)
      | _ =>
        set before
        return .branch c yes (.block [])
    | .keyword "while" =>
      skip
      let c ← inParens (expr n)
      skipLines
      return .whileTrue c (← inLoop (statement n))
    | .keyword "do" =>
      skip
      skipLines
      let body ← inLoop (statement n)
      skipLines
      expectKeyword "while"
      let c ← inParens (expr n)
      endStatement
      return .doWhile body c
    | .keyword "for" =>
      skip
      turns n
    | .keyword s =>
      if ["next", "nextfile", "break", "continue", "exit", "return"].contains s then word n s
      else
        let st ← simple n
        endStatement
        return st
    | _ =>
      let st ← simple n
      endStatement
      return st

/-- A loop behind its first word. -/
def turns : (steps : Nat) → Reader Stmt
  | 0 => misplaced
  | n + 1 => do
    let r ← get
    match r.tokens.map Prod.fst with
    | .sign "(" :: .name k _ :: .keyword "in" :: .name a _ :: .sign ")" :: _ =>
      set { r with tokens := r.tokens.drop 5 }
      useName k false
      useName a true
      skipLines
      return .each k a (← inLoop (statement n))
    | _ =>
      let (first, c, after) ← inParens (do
        let first ← if ← seesSign ";" then pure (.block []) else simple n
        expectSign ";"
        skipLines
        let c ← if ← seesSign ";" then pure none else some <$> expr n
        expectSign ";"
        skipLines
        let after ← if ← seesSign ")" then pure (.block []) else simple n
        return (first, c, after))
      skipLines
      return .turns first c after (← inLoop (statement n))

/-- Statements in braces. -/
def block : (steps : Nat) → Reader Stmt
  | 0 => misplaced
  | n + 1 => do
    expectSign "\x7b"
    modify fun r => { r with braces := r.braces + 1 }
    let ss ← statements n
    expectSign "\x7d"
    modify fun r => { r with braces := r.braces - 1 }
    return .block ss

/-- Statements up to a closing brace. -/
def statements : (steps : Nat) → Reader (List Stmt)
  | 0 => misplaced
  | n + 1 => do
    match ← peek with
    | .newline | .sign ";" =>
      skip
      statements n
    | .sign "\x7d" => return []
    | _ =>
      let s ← statement n
      return s :: (← statements n)

end

/-! ## Programs -/

/-- The names of a function's parameters. -/
def parameters : (steps : Nat) → Reader (List String)
  | 0 => misplaced
  | n + 1 => do
    match ← peek with
    | .name s _ =>
      skip
      if ← takeSign "," then
        skipLines
        return s :: (← parameters n)
      return [s]
    | _ => return []

/-- A function behind its first word. -/
def function (n : Nat) : Reader (String × Function) := do
  match ← peek with
  | .name s _ =>
    if ((← get).functions.lookup s).isSome then wrong s!"redefinition of {s}"
    skip
    let ps ← inParens (parameters n)
    skipLines
    modify fun r => { r with
      part := .function, params := ps, functions := r.functions ++ [(s, ⟨ps, .block []⟩)] }
    let body ← block n
    modify fun r => { r with
      params := []
      functions := r.functions.map fun (k, f) => if k == s then (k, ⟨ps, body⟩) else (k, f) }
    return (s, ⟨ps, body⟩)
  | _ => misplaced

/-- An action of a part of the program. -/
def action (n : Nat) (part : Part) : Reader Stmt := do
  modify fun r => { r with part }
  let s ← block n
  let _ ← takeSign ";"
  return s

/-- The rules and functions of a program. -/
def program : (steps : Nat) → Program → Reader Program
  | 0, _ => misplaced
  | n + 1, p => do
    match ← peek with
    | .finish => return p
    | .newline =>
      skip
      program n p
    | .keyword "BEGIN" =>
      skip
      let s ← action n .beginning
      program n { p with beginning := p.beginning ++ [s] }
    | .keyword "END" =>
      skip
      let s ← action n .ending
      program n { p with ending := p.ending ++ [s] }
    | .keyword "function" =>
      skip
      let f ← function n
      let _ ← takeSign ";"
      program n { p with functions := p.functions ++ [f] }
    | .sign "\x7b" =>
      let s ← action n .rule
      program n { p with rules := p.rules ++ [⟨.all, some s⟩] }
    | _ =>
      modify fun r => { r with part := .rule }
      let first ← expr n
      let choice ← if ← takeSign "," then
          skipLines
          pure (.between first (← expr n))
        else pure (.those first)
      match ← peek with
      | .sign "\x7b" =>
        let s ← action n .rule
        program n { p with rules := p.rules ++ [⟨choice, some s⟩] }
      | .sign ";" | .newline =>
        skip
        program n { p with rules := p.rules ++ [⟨choice, none⟩] }
      | .finish => return { p with rules := p.rules ++ [⟨choice, none⟩] }
      | _ => misplaced

/-- A program whose functions are all there. -/
def complete (n : Nat) : Reader Program := do
  let p ← program n {}
  let r ← get
  for (name, count, line) in r.calls.reverse do
    match p.functions.lookup name with
    | none => wrong s!"function {name} never defined"
    | some f =>
      if f.params.length < count then
        throw [r.fault line s!"too many arguments in call to {name}"]
  return p

end Reading

/-- The program that a text spells, or what is wrong with it. -/
def programOf (file : Option String) (text : List Char) : Except (List String) Program := do
  let tokens := Token.ofText text
  let (p, _) ← (Reading.complete (24 * tokens.length + 64)).run { tokens, file }
  return p

end Playbook.Shell.Tool.Records
