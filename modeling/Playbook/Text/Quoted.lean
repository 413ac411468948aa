/-
  Quoted text: a string between double quotes, with the characters that would be ambiguous or
  invisible written as escapes.
-/
import Playbook.Text.Blank
import Playbook.Text.Unprintable

namespace Playbook.Text

/-- A number in hexadecimal, lower case, without leading zeros. -/
def hexDigits (n : Nat) : List Char := Nat.toDigits 16 n

/-- How a character is written between double quotes. -/
def escapeChar (c : Char) : List Char :=
  match c with
  | '\x00' => ['\\', '0']
  | '\t' => ['\\', 't']
  | '\r' => ['\\', 'r']
  | '\n' => ['\\', 'n']
  | '\\' => ['\\', '\\']
  | '"' => ['\\', '"']
  | _ =>
    if isUnprintable c then ['\\', 'u', '\x7b'] ++ hexDigits c.toNat ++ ['\x7d'] else [c]

/-- The string between double quotes, with escapes. -/
def quote (s : String) : String :=
  String.ofList ('"' :: (s.toList.flatMap escapeChar ++ ['"']))

/-- A list of strings between brackets, each quoted. -/
def quoteList (ss : List String) : String := "[" ++ joinStrings ", " (ss.map quote) ++ "]"

end Playbook.Text
