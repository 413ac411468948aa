/-
  The console: lines of input that everybody who reads them shares, and the text printed so far.
  A person at the console can play the agent, whose replies end at a line with a single point, and
  the operator, whose answers are one line each.
-/
import Playbook.Conversation
import Playbook.Context
import Playbook.Text.Utf8

namespace Playbook

open Playbook.Text

/-! ## Colours -/

namespace Style

/-- What begins the code of a style. -/
def escape : String := "\x1b["

def reset : String := escape ++ "0m"
def bold : String := escape ++ "1m"
def gray : String := escape ++ "90m"
def red : String := escape ++ "31m"
def green : String := escape ++ "32m"
def yellow : String := escape ++ "33m"
def cyan : String := escape ++ "36m"
def brightCyan : String := escape ++ "38;5;14m"
def brightRed : String := escape ++ "38;5;9m"

/-- Moves to the beginning of the next line. -/
def nextLine : String := escape ++ "1E"

end Style

/-! ## Input -/

/-- Input with its line endings, cut behind every line feed. -/
def rawLines : List UInt8 → List (List UInt8)
  | [] => []
  | b :: bs =>
    if b == 10 then [b] :: rawLines bs
    else
      match rawLines bs with
      | [] => [[b]]
      | line :: rest => (b :: line) :: rest

/-- The text of a line without the carriage returns and line feeds at its end. -/
def lineText (raw : List UInt8) : Except Utf8.Fault String :=
  match Utf8.decode raw with
  | .ok s => .ok (onString (dropRightWhile fun c => c == '\r' || c == '\n') s)
  | .error f => .error f

/-- A console. -/
structure Console where
  /-- The lines that nobody has read yet. -/
  unread : List (List UInt8) := []
  printed : String := ""
  deriving Repr, DecidableEq

namespace Console

/-- A console with that input. -/
def ofBytes (bytes : List UInt8) : Console := { unread := rawLines bytes }

/-- The console with more text printed. -/
def print (c : Console) (text : String) : Console := { c with printed := c.printed ++ text }

/-- Reads a line; none at the end of the input. A line that is no text is read all the same. -/
def readLine (c : Console) : Except Utf8.Fault (Option String) × Console :=
  match c.unread with
  | [] => (.ok none, c)
  | raw :: rest => ((lineText raw).map some, { c with unread := rest })

/-! ## The operator -/

/-- Shows a text to the operator and reads the answer. -/
def askOperator (c : Console) (text : String) : Except Utf8.Fault (Option String) × Console :=
  (c.print (Style.brightCyan ++ text ++ Style.reset ++ "\n")).readLine

/-! ## The agent -/

/-- The line that ends a reply. -/
def endOfReply : String := "."

/-- Reads lines up to the one that ends the reply, or to the end of the input; `seen` are the lines
already read, the last one first. -/
def readReplyFrom (seen : List String) : List (List UInt8) →
    Except AgentFault String × List (List UInt8)
  | [] =>
    if seen.isEmpty then (.error .endOfInput, []) else (.ok (joinStrings "\n" seen.reverse), [])
  | raw :: rest =>
    match lineText raw with
    | .error f => (.error (.input f.message), rest)
    | .ok line =>
      if trimmed line == endOfReply then (.ok (joinStrings "\n" seen.reverse), rest)
      else readReplyFrom (line :: seen) rest

/-- Reads a reply. Nothing before the end of the input is no reply. -/
def readReply (c : Console) : Except AgentFault String × Console :=
  let (reply, unread) := readReplyFrom [] c.unread
  (reply, { c with unread })

end Console

/-- A person at the console in the part of the agent. -/
structure ConsoleAgent where
  conversation : Conversation := {}
  /-- Whether prompts are printed. -/
  echo : Bool := true
  deriving Repr, DecidableEq

namespace ConsoleAgent

/-- The name under which the agent's replies are reported. -/
def model : String := "console"

/-- A prompt under the name of its role. -/
def heading (role : Role) (prompt : String) : String :=
  Style.bold ++ Style.cyan ++ role.title ++ ":" ++ Style.reset ++ "\n" ++ prompt ++ "\n"

/-- How to reply. -/
def instruction : String :=
  Style.gray ++ "(type the answer, finish with a line holding a single '.')" ++ Style.reset ++ "\n"

def printIf (a : ConsoleAgent) (text : String) (c : Console) : Console :=
  if a.echo then c.print text else c

/-- Begins a new session under a system prompt. -/
def system (a : ConsoleAgent) (prompt : String) (c : Console) : ConsoleAgent × Console :=
  ({ a with conversation := a.conversation.reset prompt },
    a.printIf (heading .system prompt) c)

/-- Asks a question. Without a reply only the question is part of the conversation. -/
def ask (a : ConsoleAgent) (prompt : String) (c : Console) :
    Except AgentFault String × ConsoleAgent × Console :=
  let asked := { a with conversation := a.conversation.push .user prompt }
  let (reply, c) := (a.printIf (heading .user prompt ++ instruction) c).readReply
  match reply with
  | .error f => (.error f, asked, c)
  | .ok text =>
    let conversation := (asked.conversation.record prompt text 0 none).push .assistant text
    (.ok text, { asked with conversation }, c)

/-- Puts a question, an answer or both into the conversation. -/
def advise (a : ConsoleAgent) (question answer : Option String) : ConsoleAgent :=
  let asked := match question with
    | some q => a.conversation.push .user q
    | none => a.conversation
  let answered := match answer with
    | some t => asked.push .assistant t
    | none => asked
  { a with conversation := answered }

end ConsoleAgent

end Playbook
