/-
  Parameters: values for a workflow's variables, each written as a name, an equals sign and the
  value.
-/
import Playbook.Table
import Playbook.Text.Blank

namespace Playbook

open Playbook.Text

namespace Parameters

/-- What is said of a text that is no parameter. -/
def faultMessage (text : String) : String :=
  s!"Invalid parameter format: {text}. Use key=value"

/-- The name, between its blanks, and the value of a parameter. -/
def pair? (text : String) : Option (String × String) :=
  match splitOnce '=' text.toList with
  | none => none
  | some (key, value) =>
    let name := trim key
    if name.isEmpty then none else some (String.ofList name, String.ofList value)

/-- The parameters in order, or what is said of the first text that is none. -/
def ofTexts (texts : List String) : Except String (Table String) :=
  go .empty texts
where
  /-- Adds the remaining texts to the parameters read so far. -/
  go (t : Table String) : List String → Except String (Table String)
    | [] => .ok t
    | text :: rest =>
      match pair? text with
      | some (key, value) => go (t.insert key value) rest
      | none => .error (faultMessage text)

end Parameters

end Playbook
