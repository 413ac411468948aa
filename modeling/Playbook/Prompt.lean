/-
  Prompts: named blocks of text, each with the role in which a conversation takes it.
-/
import Playbook.Text.Quoted

namespace Playbook

open Playbook.Text

/-- Who speaks a text in a conversation. -/
inductive Role where
  | system
  | user
  | assistant
  deriving Repr, DecidableEq

namespace Role

/-- The role as the first word of a prompt's heading. -/
def title : Role → String
  | system => "System"
  | user => "User"
  | assistant => "Assistant"

/-- The role as a tag of a message. -/
def tag : Role → String
  | system => "system"
  | user => "user"
  | assistant => "assistant"

/-- The role that a word names, in any letter case and between blanks. -/
def ofWord? (cs : List Char) : Option Role :=
  let word := String.ofList (lowerAscii (trim cs))
  if word == "system" then some system
  else if word == "user" then some user
  else if word == "assistant" then some assistant
  else none

/-- What is said of a word that names no role. -/
def faultMessage (word : String) : String := "Invalid role: " ++ quote word

/-- The role that an id without a prompt suggests: `system` is the system's, an id that begins
with the word `assistant` the assistant's, any other the user's. -/
def ofId (id : String) : Role :=
  let lower := lowerAscii id.toList
  if lower == "system".toList then system
  else if "assistant ".toList.isPrefixOf lower then assistant
  else user

end Role

/-- A block of text and its role. -/
structure Prompt where
  role : Role
  content : String
  deriving Repr, DecidableEq

/-- A prompt holds its text without the blanks around it. -/
def Prompt.ofText (role : Role) (text : String) : Prompt := ⟨role, trimmed text⟩

end Playbook
