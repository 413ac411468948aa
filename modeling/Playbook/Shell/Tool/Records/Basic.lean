/-
  Programs that go through records: rules with patterns and actions, and the expressions and
  statements in them.
-/
import Playbook.Shell.Expression

namespace Playbook.Shell.Tool.Records

/-- An operation on two numbers. -/
inductive Operation where
  | add
  | subtract
  | multiply
  | divide
  | remainder
  | power
  deriving Repr, DecidableEq

/-- How two values are compared. -/
inductive Comparison where
  | less
  | atMost
  | equal
  | different
  | more
  | atLeast
  deriving Repr, DecidableEq

/-- A function that every program knows. -/
inductive Builtin where
  | length
  | substr
  | index
  | split
  | sub
  | gsub
  | match_
  | sprintf
  | sin
  | cos
  | atan2
  | exp
  | log
  | sqrt
  | int
  | rand
  | srand
  | toupper
  | tolower
  | system
  | close
  | fflush
  | strftime
  | mktime
  | systime
  deriving Repr, DecidableEq

mutual

/-- An expression. -/
inductive Expr where
  | number (x : Float)
  | text (s : String)
  /-- Whether the record matches. -/
  | regex (e : Expression)
  | read (p : Spot)
  /-- Puts a value at a spot, or combines the one that is there with it. -/
  | assign (p : Spot) (op : Option Operation) (e : Expr)
  /-- Changes a spot by one; the value is the new one or the old one. -/
  | step (p : Spot) (op : Operation) (new : Bool)
  | compute (op : Operation) (a b : Expr)
  | compare (c : Comparison) (a b : Expr)
  | join (a b : Expr)
  | fits (a b : Expr) (negated : Bool)
  | both (a b : Expr)
  | either (a b : Expr)
  | negation (a : Expr)
  | minus (a : Expr)
  | plus (a : Expr)
  | choose (condition yes no : Expr)
  | within (subscripts : List Expr) (array : String)
  | call (f : Builtin) (args : List Expr)
  | apply (name : String) (args : List Expr)
  | getline (source : Source) (p : Option Spot)

/-- Where a value is kept. -/
inductive Spot where
  | named (name : String)
  | element (array : String) (subscripts : List Expr)
  | field (index : Expr)

/-- Where a record is taken from. -/
inductive Source where
  | input
  | file (path : Expr)
  | command (text : Expr)

end

instance : Inhabited Expr := ⟨.text ""⟩

/-- Where a text is written to. -/
inductive Target where
  | output
  | file (path : Expr) (appends : Bool)
  | command (text : Expr)

/-- A statement. -/
inductive Stmt where
  | expr (e : Expr)
  | print (args : List Expr) (target : Target)
  | printf (args : List Expr) (target : Target)
  | block (ss : List Stmt)
  | branch (condition : Expr) (yes no : Stmt)
  | whileTrue (condition : Expr) (body : Stmt)
  | doWhile (body : Stmt) (condition : Expr)
  | turns (first : Stmt) (condition : Option Expr) (after body : Stmt)
  | each (name array : String) (body : Stmt)
  | next
  | nextFile
  | exit (status : Option Expr)
  | giveBack (value : Option Expr)
  | leave
  | goOn
  | delete (array : String) (subscripts : Option (List Expr))

instance : Inhabited Stmt := ⟨.block []⟩

/-- Which records a rule is for. -/
inductive Choice where
  | all
  | those (condition : Expr)
  /-- From a record that fits the one to a record that fits the other. -/
  | between (first last : Expr)

/-- A rule; without an action it prints the record. -/
structure Rule where
  choice : Choice
  action : Option Stmt

/-- A function of a program. -/
structure Function where
  params : List String
  body : Stmt

/-- A program. -/
structure Program where
  beginning : List Stmt := []
  rules : List Rule := []
  ending : List Stmt := []
  functions : List (String × Function) := []

/-! ## Names -/

/-- The functions that every program knows, with the least and the largest number of their
arguments. -/
def builtins : List (String × Builtin × Nat × Nat) :=
  [("length", .length, 0, 1), ("substr", .substr, 2, 3), ("index", .index, 2, 2),
    ("split", .split, 2, 3), ("sub", .sub, 2, 3), ("gsub", .gsub, 2, 3),
    ("match", .match_, 2, 2), ("sprintf", .sprintf, 1, 255), ("sin", .sin, 1, 1),
    ("cos", .cos, 1, 1), ("atan2", .atan2, 2, 2), ("exp", .exp, 1, 1), ("log", .log, 1, 1),
    ("sqrt", .sqrt, 1, 1), ("int", .int, 1, 1), ("rand", .rand, 0, 0), ("srand", .srand, 0, 1),
    ("toupper", .toupper, 1, 1), ("tolower", .tolower, 1, 1), ("system", .system, 1, 1),
    ("close", .close, 1, 1), ("fflush", .fflush, 0, 1), ("strftime", .strftime, 0, 3),
    ("mktime", .mktime, 1, 1), ("systime", .systime, 0, 0)]

/-- The words that no variable can have as its name. -/
def keywords : List String :=
  ["BEGIN", "END", "function", "if", "else", "while", "for", "do", "break", "continue", "next",
    "nextfile", "exit", "return", "delete", "in", "getline", "print", "printf"]

end Playbook.Shell.Tool.Records
