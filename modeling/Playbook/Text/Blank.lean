/-
  Blank characters, trimming, and splitting a text into words and lines. The work is done
  on lists of characters; the forms on `String` only wrap it.
-/

namespace Playbook.Text

/-! ## Blanks -/

/-- The characters with the Unicode property White_Space. -/
def isBlank (c : Char) : Bool :=
  let n := c.toNat
  (9 ≤ n && n ≤ 13) || n == 0x20 || n == 0x85 || n == 0xA0 || n == 0x1680 ||
    (0x2000 ≤ n && n ≤ 0x200A) || n == 0x2028 || n == 0x2029 || n == 0x202F ||
    n == 0x205F || n == 0x3000

/-- The text without its leading blanks. -/
def trimLeft (cs : List Char) : List Char := cs.dropWhile isBlank

/-- The text without the trailing characters that satisfy `p`. -/
def dropRightWhile (p : Char → Bool) (cs : List Char) : List Char :=
  (cs.reverse.dropWhile p).reverse

/-- The text without its trailing blanks. -/
def trimRight (cs : List Char) : List Char := dropRightWhile isBlank cs

/-- The text without its leading and trailing blanks. -/
def trim (cs : List Char) : List Char := trimRight (trimLeft cs)

/-- Nothing but blanks. -/
def isAllBlank (cs : List Char) : Bool := cs.all isBlank

/-! ## Words -/

/-- The words of a text, given the reversed beginning of a word that is still open. -/
def wordsFrom : List Char → List Char → List (List Char)
  | part, [] => if part.isEmpty then [] else [part.reverse]
  | part, c :: cs =>
    if isBlank c then
      if part.isEmpty then wordsFrom [] cs else part.reverse :: wordsFrom [] cs
    else wordsFrom (c :: part) cs

/-- The maximal runs of non-blank characters, in order. -/
def words (cs : List Char) : List (List Char) := wordsFrom [] cs

/-- The first word, empty if there is none. -/
def firstWord (cs : List Char) : List Char := (trimLeft cs).takeWhile (!isBlank ·)

/-! ## Pieces and lines -/

/-- The pieces between the occurrences of `sep`: always one more than there are separators. -/
def pieces (sep : Char) : List Char → List (List Char)
  | [] => [[]]
  | c :: cs =>
    if c == sep then [] :: pieces sep cs
    else
      match pieces sep cs with
      | [] => [[c]]
      | p :: ps => (c :: p) :: ps

/-- One carriage return at the end belongs to the line ending. -/
def dropCarriageReturn (line : List Char) : List Char :=
  match line.reverse with
  | '\r' :: rest => rest.reverse
  | _ => line

/-- The lines of a text: pieces between line feeds, without the empty piece after a final line
feed; a carriage return right before a line feed belongs to the line ending. -/
def lines (cs : List Char) : List (List Char) :=
  go (pieces '\n' cs)
where
  /-- Only a piece that a line feed follows loses its carriage return. -/
  go : List (List Char) → List (List Char)
    | [] => []
    | [last] => if last.isEmpty then [] else [last]
    | p :: q :: ps => dropCarriageReturn p :: go (q :: ps)

/-- The text before and after the first `sep`, if there is one. -/
def splitOnce (sep : Char) : List Char → Option (List Char × List Char)
  | [] => none
  | c :: cs =>
    if c == sep then some ([], cs)
    else (splitOnce sep cs).map fun (a, b) => (c :: a, b)

/-- The rest of `cs` after `start`, if it begins with it. -/
def dropStart? : (start cs : List Char) → Option (List Char)
  | [], cs => some cs
  | _ :: _, [] => none
  | s :: ss, c :: cs => if s == c then dropStart? ss cs else none

/-- The beginning of `cs` before `ending`, if it ends with it. -/
def dropEnd? (ending cs : List Char) : Option (List Char) :=
  (dropStart? ending.reverse cs.reverse).map List.reverse

/-- Whether `part` occurs in the text. -/
def contains (part : List Char) : List Char → Bool
  | [] => part.isEmpty
  | c :: cs => part.isPrefixOf (c :: cs) || contains part cs

/-- Texts with `sep` between them. -/
def joinWith (sep : List Char) : List (List Char) → List Char
  | [] => []
  | [t] => t
  | t :: u :: ts => t ++ sep ++ joinWith sep (u :: ts)

/-! ## Letter case of ASCII -/

/-- ASCII letters in lower case, all else unchanged. -/
def lowerAscii (cs : List Char) : List Char := cs.map Char.toLower

/-- ASCII letters in upper case, all else unchanged. -/
def upperAscii (cs : List Char) : List Char := cs.map Char.toUpper

/-- Equal up to the case of ASCII letters. -/
def sameLetters (a b : List Char) : Bool := lowerAscii a == lowerAscii b

/-! ## Forms on strings -/

/-- A function on characters as a function on strings. -/
def onString (f : List Char → List Char) (s : String) : String := String.ofList (f s.toList)

/-- The string without its leading and trailing blanks. -/
def trimmed (s : String) : String := onString trim s

/-- The string without its trailing blanks. -/
def trimmedRight (s : String) : String := onString trimRight s

/-- Strings with `sep` between them. -/
def joinStrings (sep : String) : List String → String
  | [] => ""
  | [s] => s
  | s :: t :: ts => s ++ sep ++ joinStrings sep (t :: ts)

@[simp] theorem toList_onString (f : List Char → List Char) (s : String) :
    (onString f s).toList = f s.toList := by simp [onString]

end Playbook.Text
