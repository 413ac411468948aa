/-
  Word characters and decimal digits, as Unicode's recommendations for regular expressions
  (UTS 18, annex C) define them, by the sixteenth edition; letters and numbers of names by the
  seventeenth.
-/
import Playbook.Text.Trait

namespace Playbook.Text

open Category Trait

/-- Letters, marks, decimal digits, connector punctuation and the two join controls. -/
def wordChars : CharSet :=
  .unionOf [alphabeticIn .sixteenth, those (decimalNumber :: connectorPunctuation :: marks),
    joinControls]

/-- The decimal digits of all scripts. -/
def decimalDigits : CharSet := those [decimalNumber]

/-- Whether the character may be part of a word. -/
def isWordChar (c : Char) : Bool :=
  if c.toNat < 0x80 then c.isAlphanum || c == '_' else wordChars.mem c

/-- The letters of names. -/
def nameLetters : CharSet := alphabeticIn .seventeenth

/-- The numbers of names: digits and other numbers of all scripts. -/
def nameNumbers : CharSet := Edition.seventeenth.inCategories Category.numbers

/-- Whether the character is a letter or counts as one. -/
def isLetter (c : Char) : Bool := if c.toNat < 0x80 then c.isAlpha else nameLetters.mem c

/-- Whether the character is a letter or a number. -/
def isLetterOrNumber (c : Char) : Bool :=
  if c.toNat < 0x80 then c.isAlphanum else nameLetters.mem c || nameNumbers.mem c

end Playbook.Text
