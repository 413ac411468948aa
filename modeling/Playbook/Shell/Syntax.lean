/-
  The language of the shell that runs command lines: words, in which dollars and backquotes stand
  for texts that are not known before they are expanded, and scripts made of words.
-/

namespace Playbook.Shell

/-- What becomes of the value of a parameter. A colon, where one is written, makes an empty value
count as a missing one. -/
inductive Use where
  | value
  | length
  /-- The word takes the place of a missing value. -/
  | default (colon : Bool)
  /-- The word takes the place of a value that is not missing. -/
  | alternative (colon : Bool)
  /-- The word becomes a missing value. -/
  | assign (colon : Bool)
  /-- A missing value is a fault. -/
  | demand (colon : Bool)
  /-- What fits the word is cut off. -/
  | trim (atEnd longest : Bool)
  /-- No use that exists. -/
  | unknown
  deriving Repr, DecidableEq

/-- What a redirection does with a stream. -/
inductive RedirectKind where
  | read
  | write
  /-- Writes to a file even if existing files are protected. -/
  | overwrite
  | append
  /-- Reads and writes a file. -/
  | both
  /-- The stream goes where another one goes. -/
  | same
  deriving Repr, DecidableEq

mutual

/-- A part of a word; `quoted` tells whether quotes enclose it. -/
inductive Part where
  | char (c : Char) (quoted : Bool)
  /-- Quotes begin here, so there is a field even if nothing is in them. -/
  | quotes
  | parameter (name : String) (use : Use) (word : List Part) (quoted : Bool)
  /-- The text that a script prints. -/
  | command (body : Script) (quoted : Bool)
  /-- The value of an expression. -/
  | arithmetic (expression : List Part) (quoted : Bool)

/-- What a redirection leads to. -/
inductive RedirectTarget where
  | word (parts : List Part)
  /-- The text of a here-document, by its number. -/
  | document (number : Nat)

/-- A redirection of a stream. -/
inductive Redirect where
  | mk (stream : Nat) (kind : RedirectKind) (target : RedirectTarget)

/-- A script. The numbers are lines. -/
inductive Script where
  | nothing
  /-- Assignments, the words of a command, and redirections. -/
  | simple (line : Nat) (assignments : List (String × List Part)) (words : List (List Part))
      (redirects : List Redirect)
  | seq (a b : Script)
  | both (a b : Script)
  | either (a b : Script)
  | negate (a : Script)
  | pipe (commands : List Script)
  | branch (condition yes no : Script)
  | loop (until_ : Bool) (condition body : Script)
  | each (line : Nat) (name : String) (words : List (List Part)) (body : Script)
  | choose (line : Nat) (word : List Part) (arms : List (List (List Part) × Script))
  | subshell (line : Nat) (a : Script) (redirects : List Redirect)
  /-- Runs beside what follows. -/
  | background (line : Nat) (a : Script)
  | redirected (line : Nat) (a : Script) (redirects : List Redirect)
  | define (line : Nat) (name : String) (body : Script)

end

instance : Inhabited Part := ⟨.quotes⟩

instance : Inhabited Script := ⟨.nothing⟩

/-- A word as it is written. -/
abbrev Word := List Part

namespace Redirect

def stream : Redirect → Nat
  | mk stream _ _ => stream

def kind : Redirect → RedirectKind
  | mk _ kind _ => kind

def target : Redirect → RedirectTarget
  | mk _ _ target => target

end Redirect

/-- The text of a word that consists of unquoted characters. -/
def plain? (w : Word) : Option String :=
  (w.mapM fun (p : Part) =>
    match p with
    | .char c false => some c
    | _ => none).map String.ofList

/-- The value of all arguments as one word. -/
def allArguments : Word := [.parameter "@" .value [] true]

/-! ## Names -/

/-- Whether a name can begin with a character. -/
def isNameStart (c : Char) : Bool := c.isAlpha || c == '_'

/-- Whether a name can go on with a character. -/
def isNameChar (c : Char) : Bool := c.isAlphanum || c == '_'

/-- Whether a text can be the name of a variable. -/
def isName (cs : List Char) : Bool :=
  match cs with
  | [] => false
  | c :: cs => isNameStart c && cs.all isNameChar

/-- The commands whose faults end the shell. -/
def specialCommands : List String := [".", ":", "break", "continue", "eval", "exec", "exit",
  "export", "readonly", "return", "set", "shift", "times", "trap", "unset"]

/-- The words of the language. -/
def keywords : List String := ["!", "case", "do", "done", "elif", "else", "esac", "fi", "for", "if",
  "in", "then", "until", "while", "\x7b", "\x7d"]

end Playbook.Shell
