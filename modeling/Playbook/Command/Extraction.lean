/-
  Commands in free-form text: the contents of its closed fenced blocks.
-/
import Playbook.Command.Splitting
import Playbook.Notice

namespace Playbook

open Playbook.Text

namespace Command

/-- Whether a line opens or closes a fenced block. -/
def isFence (line : List Char) : Bool := "```".toList.isPrefixOf (trimLeft line)

/-- The language that the line of an opening fence names. -/
def fenceLanguage (line : List Char) : Language :=
  .ofTag ((trimLeft line).dropWhile (· == '`'))

/-- The commands of a closed block: each logical line of shell, or the nonempty lines of a block
in another language as one command. -/
def ofBlock (language : Language) (lines : List (List Char)) : List Command :=
  if language.isShell then (splitShell lines).filterMap shell?
  else
    let body := lines.filter (!·.isEmpty)
    if body.isEmpty then []
    else (create? language [String.ofList (joinWith ['\n'] body)]).toList

/-- A block that is still open, the last line first. -/
structure OpenBlock where
  language : Language
  lines : List (List Char) := []
  deriving Repr, DecidableEq

/-- The commands of the lines from here on, and the block that is still open at the end. -/
def scan (block : Option OpenBlock) : List (List Char) → List Command × Option OpenBlock
  | [] => ([], block)
  | line :: rest =>
    if isFence line then
      match block with
      | none => scan (some { language := fenceLanguage line }) rest
      | some b =>
        let (commands, last) := scan none rest
        (ofBlock b.language b.lines.reverse ++ commands, last)
    else scan (block.map fun b => { b with lines := line :: b.lines }) rest

/-- The commands of all closed blocks of a text. -/
def extract (text : String) : List Command := (scan none (Text.lines text.toList)).1

/-- What extraction tells: a block that is never closed is dropped. -/
def extractNotices (text : String) : List Notice :=
  match (scan none (Text.lines text.toList)).2 with
  | none => []
  | some b =>
    let size := s!"{b.language.name} block with {b.lines.length} lines"
    [⟨.debug, .extraction, s!"Dropping unclosed {size}"⟩]

end Command

end Playbook
