/-
  Shortened forms of a text, for one-line notices and for the records of the audit trail.
-/
import Playbook.Text.Blank

namespace Playbook.Text

/-- Every line feed as a visible backslash and `n`. -/
def escapeLineFeeds (s : String) : String :=
  String.ofList (s.toList.flatMap fun c => if c == '\n' then ['\\', 'n'] else [c])

/-- At most `length` characters; dots mark what was cut off. -/
def abridgeRight (s : String) (length : Nat) : String :=
  if s.toList.length > length then String.ofList (s.toList.take length) ++ "..." else s

/-- What stands for the characters that `abridgeMiddle` leaves out. -/
def truncationMark : String := "\n...(truncated)...\n"

/-- A text of more than `length` characters keeps its first and last `length / 2`. -/
def abridgeMiddle (s : String) (length : Nat) : String :=
  let cs := s.toList
  if cs.length ≤ length then s
  else
    let half := length / 2
    String.ofList (cs.take half) ++ truncationMark ++ String.ofList (cs.drop (cs.length - half))

/-- One line of at most a hundred characters. -/
def preview (s : String) : String := escapeLineFeeds (abridgeRight s 100)

end Playbook.Text
