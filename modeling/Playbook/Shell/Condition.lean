/-
  Conditions on texts, numbers and files, as `test` and the brackets check them.
-/
import Playbook.Shell.Arithmetic

namespace Playbook.Shell.Condition

/-- Whether a path ends in a link. -/
def isLink (d : Disk) (path : String) : Bool :=
  match Files.find? d path false with
  | some (.link _) => true
  | _ => false

/-- A condition on one operand. -/
def unary? (g : Going) (o s : String) : Option Bool :=
  let d := g.disk
  let node := Files.find? d s
  let at_ := (Files.locate d s).toOption.getD []
  match o with
  | "-n" => some (!s.isEmpty)
  | "-z" => some s.isEmpty
  | "-f" => some (match node with
      | some (.file _) => true
      | some .shell => true
      | _ => false)
  | "-d" => some (node == some .directory)
  | "-e" | "-r" | "-w" | "-O" | "-G" => some node.isSome
  | "-x" => some (node == some .directory || Files.isProgram d at_)
  | "-s" => some (node == some .directory || node == some .shell ||
      !(Files.bytesAt d at_).isEmpty)
  | "-c" => some (node == some .device)
  | "-L" | "-h" => some (isLink d s)
  | _ => some false

/-- Whether two paths lead to the same place. -/
def isSame (d : Disk) (a b : String) : Bool :=
  match Files.locate d a, Files.locate d b with
  | .ok x, .ok y => (d.node? x).isSome && (Files.twins d x).contains y
  | _, _ => false

/-- Whether two paths lead to files of which the first was changed later. -/
def isNewer (d : Disk) (a b : String) : Bool :=
  match Files.locate d a, Files.locate d b with
  | .ok x, .ok y =>
    (d.node? x).isSome && (d.node? y).isSome && Files.time d y < Files.time d x
  | _, _ => false

/-- A condition on two operands, or what is wrong with one of them. -/
def binary? (g : Going) (a o b : String) : Option (Except String Bool) :=
  let numbers := fun (f : Int → Int → Bool) =>
    match Arithmetic.whole? a, Arithmetic.whole? b with
    | some x, some y => some (.ok (f x y))
    | none, _ => some (.error ("Illegal number: " ++ a))
    | _, none => some (.error ("Illegal number: " ++ b))
  match o with
  | "=" => some (.ok (a == b))
  | "-nt" => some (.ok (isNewer g.disk a b))
  | "-ot" => some (.ok (isNewer g.disk b a))
  | "-ef" => some (.ok (isSame g.disk a b))
  | "!=" => some (.ok (a != b))
  | "<" => some (.ok (a < b))
  | ">" => some (.ok (b < a))
  | "-eq" => numbers fun x y => x == y
  | "-ne" => numbers fun x y => x != y
  | "-lt" => numbers fun x y => x < y
  | "-le" => numbers fun x y => x ≤ y
  | "-gt" => numbers fun x y => y < x
  | "-ge" => numbers fun x y => y ≤ x
  | _ => none

/-- What a word is in a condition. -/
inductive Lexeme where
  | ended
  | operand
  | either
  | both
  | not_
  | opening
  | closing
  | unary (o : String)
  | binary (o : String)
  deriving Repr, DecidableEq

/-- Whether a word is an operator between two operands. -/
def isBinary (w : String) : Bool :=
  ["=", "!=", "<", ">", "-eq", "-ne", "-lt", "-le", "-gt", "-ge", "-nt", "-ot", "-ef"].contains w

/-- Whether a word is an operator in front of one operand. -/
def isUnary (w : String) : Bool :=
  (w.length = 2 && w.startsWith "-") &&
    "bcdefghknprstuwxzLGOS".toList.contains ((w.toList.drop 1).headD ' ')

/-- What the first word is; an operator at the end, or one in front of another, is an operand. -/
def lex : List String → Lexeme
  | [] => .ended
  | w :: rest =>
    if isBinary w then .binary w
    else if isUnary w then
      match rest with
      | [] => .operand
      | [_] => .unary w
      | next :: _ => if isBinary next then .operand else .unary w
    else
      match w with
      | "-a" => .both
      | "-o" => .either
      | "!" => .not_
      | "(" => if rest.isEmpty then .operand else .opening
      | ")" => .closing
      | _ => .operand

/-- The value of a part of a condition, and the words from its last one on. -/
abbrev Valued := Except String (Bool × List String)

mutual

/-- Conditions of which one is to hold. -/
def disjunction (g : Going) : (steps : Nat) → Lexeme → List String → Valued
  | 0, _, ws => .ok (false, ws)
  | n + 1, l, ws => do
    let (x, ws) ← conjunction g n l ws
    if lex ws.tail == .either then
      let (y, ws) ← disjunction g n (lex (ws.drop 2)) (ws.drop 2)
      return (x || y, ws)
    else return (x, ws)

/-- Conditions that are all to hold. -/
def conjunction (g : Going) : (steps : Nat) → Lexeme → List String → Valued
  | 0, _, ws => .ok (false, ws)
  | n + 1, l, ws => do
    let (x, ws) ← negation g n l ws
    if lex ws.tail == .both then
      let (y, ws) ← conjunction g n (lex (ws.drop 2)) (ws.drop 2)
      return (x && y, ws)
    else return (x, ws)

/-- A condition that may be negated. -/
def negation (g : Going) : (steps : Nat) → Lexeme → List String → Valued
  | 0, _, ws => .ok (false, ws)
  | n + 1, l, ws =>
    if l == .not_ then do
      let next := lex ws.tail
      let (x, ws) ← negation g n next (if next == .ended then ws else ws.tail)
      return (!x, ws)
    else primary g n l ws

/-- A condition without connectives. -/
def primary (g : Going) : (steps : Nat) → Lexeme → List String → Valued
  | 0, _, ws => .ok (false, ws)
  | n + 1, l, ws =>
    match l with
    | .ended => .ok (false, ws)
    | .opening =>
      if lex ws.tail == .closing then .ok (false, ws.tail)
      else do
        let (x, ws) ← disjunction g n (lex ws.tail) ws.tail
        if lex ws.tail == .closing then return (x, ws.tail)
        else .error "closing paren expected"
    | .unary o =>
      match ws.tail with
      | [] => .error (o ++ ": argument expected")
      | s :: _ => .ok ((unary? g o s).getD false, ws.tail)
    | _ =>
      match lex ws.tail with
      | .binary o =>
        match ws.drop 2 with
        | [] => .error (o ++ ": argument expected")
        | b :: _ =>
          match binary? g (ws.headD "") o b with
          | some (.ok x) => .ok (x, ws.drop 2)
          | some (.error e) => .error e
          | none => .ok (false, ws.drop 2)
      | _ => .ok (!(ws.headD "").isEmpty, ws)

end

/-- The value of a condition, or what is wrong with it. Three words with an operator in the middle
are an operation, whatever the first one is. -/
def evaluate (g : Going) : (steps : Nat) → List String → Except String Bool
  | 0, _ => .ok false
  | _, [] => .ok false
  | n + 1, ws => do
    let whole := fun (l : Lexeme) (ws : List String) => do
      let (x, rest) ← disjunction g (8 * ws.length + 8) l ws
      match rest with
      | w :: _ :: _ => Except.error (w ++ ": unexpected operator")
      | _ => return x
    let count := ws.length
    if count = 3 && isBinary (ws.tail.headD "") then whole .operand ws
    else if count = 3 || count = 4 then
      if ws.head? == some "(" && ws.getLast? == some ")" then
        whole (lex ws.tail.dropLast) ws.tail.dropLast
      else if ws.head? == some "!" then return !(← evaluate g n ws.tail)
      else whole (lex ws) ws
    else whole (lex ws) ws

end Playbook.Shell.Condition
