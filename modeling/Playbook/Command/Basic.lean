/-
  Commands: what a fenced block of a reply asks to be run, and what running it comes to.
-/
import Playbook.Text.Quoted
import Playbook.Disk

namespace Playbook

open Playbook.Text

/-- The language of a fenced block. -/
inductive Language where
  /-- Anything that a shell session can run. -/
  | shell
  /-- Any other language, by its tag. -/
  | other (tag : String)
  deriving Repr, DecidableEq

namespace Language

/-- The tags of shell blocks. -/
def shellTags : List String := ["sh", "shell", "bash", "powershell", "cmd"]

/-- The language that a tag names, in any letter case and between blanks. -/
def ofTag (tag : List Char) : Language :=
  let word := trim tag
  if shellTags.contains (String.ofList (lowerAscii word)) then shell
  else other (String.ofList word)

/-- The tag by which the language is reported. -/
def name : Language → String
  | shell => "sh"
  | other tag => tag

def isShell : Language → Bool
  | shell => true
  | other _ => false

end Language

/-- A command to be run: one logical line of shell, or a whole block of another language. -/
structure Command where
  language : Language
  lines : List String
  deriving Repr, DecidableEq

namespace Command

/-- A command, unless there is nothing to run: no line at all, or only blank lines of shell. -/
def create? (language : Language) (lines : List String) : Option Command :=
  if lines.isEmpty then none
  else if language.isShell && lines.all (fun l => isAllBlank l.toList) then none
  else some ⟨language, lines⟩

/-- A command of one shell line. -/
def shell? (line : String) : Option Command := create? .shell [line]

/-- The command as it would be typed. -/
def text (c : Command) : String := joinStrings "\n" c.lines

/-- The command on one line, for people. -/
def describe (c : Command) : String := c.language.name ++ ": " ++ quoteList c.lines

end Command

/-- What running a command came to. -/
structure Outcome where
  exitCode : Int
  output : String
  deriving Repr, DecidableEq

/-- A command in another language than the shell's is not run, and that is no failure. -/
def Outcome.skipped (language : Language) : Outcome :=
  ⟨0, s!"(skipped: {language.name} blocks are not executed)"⟩

/-- The text without one line feed at its beginning and one at its end. -/
def stripBlankEdges (cs : List Char) : List Char :=
  let front := match cs with
    | '\n' :: rest => rest
    | _ => cs
  match front.reverse with
  | '\n' :: rest => rest.reverse
  | _ => front

/-- Why a session did not complete a command. -/
inductive SessionFault where
  | disk (f : Fault)
  | timeout (what : String)
  | terminated
  | channelClosed
  | connection (what : String)
  | notOpen
  deriving Repr, DecidableEq

namespace SessionFault

def message : SessionFault → String
  | disk f => "IO error: " ++ f.message
  | timeout what => "Command timed out: " ++ what
  | terminated => "Shell process terminated"
  | channelClosed => "Output channel closed"
  | connection what => "Connection failed: " ++ what
  | notOpen => "Executor is not open"

/-- The fault with what caused it. -/
def chain : SessionFault → String
  | disk f => (disk f).message ++ ": " ++ f.message
  | f => f.message

end SessionFault

/-- The outcome of a command during which a session failed: what was collected before, then the
fault on a line of its own. -/
def Outcome.failed (collected : String) (f : SessionFault) : Outcome :=
  let front := if collected.isEmpty then "" else collected ++ "\n"
  ⟨1, front ++ "[error] " ++ f.message⟩

end Playbook
