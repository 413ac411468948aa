/-
  Shell blocks as logical command lines. A backslash at the end continues a line, and indented
  lines belong to the control block opened above them, together with the one line that closes it.
-/
import Playbook.Command.Basic

namespace Playbook

open Playbook.Text

/-- A block that is being split. -/
structure Splitter where
  /-- The command that is being put together. -/
  buffer : List Char := []
  /-- Whether the last line is continued by the next. -/
  joining : Bool := false
  /-- Whether an indented line was the last one. -/
  inBlock : Bool := false
  /-- The finished commands, the last one first. -/
  done : List String := []
  deriving Repr, DecidableEq

namespace Splitter

/-- Ends the command that is being put together. -/
def emit (s : Splitter) : Splitter :=
  let command := trimRight s.buffer
  { done := if command.isEmpty then s.done else String.ofList command :: s.done }

/-- A backslash at the end of the buffer gives way to one blank and continues the line. -/
def settle (s : Splitter) : Splitter :=
  match s.buffer.reverse with
  | '\\' :: rest =>
    { s with buffer := (rest.dropWhile isBlank).reverse ++ [' '], joining := true }
  | _ => { s with joining := false }

/-- The next line of the block. Blank lines do not count, and a comment that begins no
continuation ends the command before it and is left out. -/
def feed (s : Splitter) (line : List Char) : Splitter :=
  if isAllBlank line then s
  else if s.joining then settle { s with buffer := s.buffer ++ trimLeft line }
  else if (line.head?.map isBlank).getD false && !s.buffer.isEmpty then
    settle { s with buffer := s.buffer ++ ['\n'] ++ trimRight line, inBlock := true }
  else if s.inBlock then
    settle { s with buffer := s.buffer ++ ['\n'] ++ trimRight line, inBlock := false }
  else
    let s := s.emit
    if (trimLeft line).head? == some '#' then s
    else settle { s with buffer := s.buffer ++ trim line }

/-- The commands of all the lines. -/
def finish (s : Splitter) : List String := s.emit.done.reverse

end Splitter

/-- The logical command lines of a shell block. -/
def splitShell (lines : List (List Char)) : List String :=
  (lines.foldl Splitter.feed {}).finish

end Playbook
