/-
  The classes by which text is cut into user-perceived characters, words and sentences, as
  Unicode's annex on text segmentation derives them; sixteenth edition.
-/
import Playbook.Text.Trait
import Playbook.Text.Script

namespace Playbook.Text.Segment

open Category Trait

/-! ## Lists -/

/-- Spacing marks that begin a character of their own. -/
def exemptMarks : CharSet := .ofTable "EKz1b0B5226l03520a2CRg011BNKm010BDSi1"

/-- Letters that count as spacing marks. -/
def spacingVowels : CharSet := .ofTable "DWz0Dj0"

/-- Letters that form a character with the one behind them. -/
def prependedLetters : CharSet := .ofTable "DQm0CTG31Ol0BMl010Gw0C15Tg0Mb0"

/-- The syllables of Hangul. -/
def syllables : CharSet := .ofTable "BVB4LYb"

/-- Katakana and the marks that go with it. -/
def katakana : CharSet := .ofTable "NEp4Ct13Ci13GofFsBa1CfCDV2BjBWFu3161110Hz2Be0e3"

/-- Letters of scripts that are written without gaps between words. -/
def complexLetters : CharSet := .ofTable <| String.join [
    "DVlBb11c6Bm110141n101911902410l3I0B6k0g5433031724cc0BXdBfz040Kbt24bB74pCeBgCa0BNEg419a4Cpm3",
    "03Bd1031242010o2BDOyqB16"]

/-- Characters that are no letters but part of words. -/
def letterlike : CharSet := .ofTable "Tm3c56156101gQq210B70Cw0Hv0BRTke91Cv1BB40"

/-- Brackets and quotation marks beside those of the categories. -/
def closers : CharSet := .ofTable "KTv5BV314220EUVm2"

/-- Small letters that do not begin sentences in capitals. -/
def caselessSmalls : CharSet := .ofTable "EPkB622"

/-- Their capital letters. -/
def caselessCapitals : CharSet := .ofTable "HV4B622"

/-- Full stops. -/
def points : CharSet := .ofTable "Ba0IT90CITx0F70"

/-- Line ends other than line feed and carriage return. -/
def paragraphEnds : CharSet := .ofTable "Dp0IQy1"

/-- A set of listed characters. -/
def chars (cs : List Char) : CharSet := .unionOf (cs.map .single)

/-- The joiner that ties characters together. -/
def joiner : CharSet := .single '\u200d'

/-- The marks that span digits; the abbreviation mark of Syriac is none of them. -/
def numberMarks : CharSet := prependedMarks \ .single '\u070f'

/-! ## Characters -/

/-- What extends a character. -/
def extending : CharSet := extendingIn .sixteenth ∪ tones

/-- The first syllable of each row of Hangul: those without a final consonant. -/
def openSyllables : CharSet :=
  .ofRanges ((List.range 399).map fun i => (0xAC00 + 28 * i, 0xAC00 + 28 * i))

/-- The class of characters with this name, for cutting a text into characters. -/
def forCharacters? : String → Option CharSet
  | "cn" | "control" =>
    let hidden := those [unassigned] ∩ ignorable
    let kept := .unionOf [chars ['\r', '\n', '\u200c', '\u200d'], prependedMarks, extending]
    some (.unionOf [those [lineSeparator, paragraphSeparator, .control, .format], hidden] \ kept)
  | "cr" => some (.single '\r')
  | "lf" => some (.single '\n')
  | "ex" | "extend" => some extending
  | "l" => some (.ofTable "EQwCnBPOws")
  | "v" => some (.ofTable "ETkBzCCE8mBOXw033")
  | "t" => some (.ofTable "EVkCfCCCjBc")
  | "lv" => some openSyllables
  | "lvt" => some (syllables \ openSyllables)
  | "pp" | "prepend" => some (prependedMarks ∪ prependedLetters)
  | "ri" | "regionalindicator" => some (set .regionalIndicator)
  | "sm" | "spacingmark" =>
    some ((those [.spacingMark] \ .unionOf [extending, exemptMarks]) ∪ spacingVowels)
  | "zwj" => some joiner
  | _ => none

/-! ## Words -/

/-- What extends a character within a word. -/
def wordExtending : CharSet := (extending ∪ those [.spacingMark]) \ joiner

/-- Letters of the Hebrew script. -/
def hebrew : CharSet :=
  match scriptNamed? "hebr" with
  | some n => inScript n ∩ those [otherLetter]
  | none => .empty

def hiragana : CharSet :=
  match scriptNamed? "hira" with
  | some n => inScript n
  | none => .empty

/-- Digits and what goes with them. -/
def numeric : CharSet :=
  .unionOf [those [decimalNumber], numberMarks, chars ['\u066b', '\u19da']]

/-- Letters of words. -/
def wordLetters : CharSet :=
  let others := .unionOf
    [set .ideographic, katakana, hiragana, wordExtending, hebrew, complexLetters]
  (alphabeticIn .sixteenth \ others) ∪ letterlike

/-- The class of characters with this name, for cutting a text into words. -/
def forWords? : String → Option CharSet
  | "cr" => some (.single '\r')
  | "lf" => some (.single '\n')
  | "nl" | "newline" => some (.ofTable "b1Dc0IQy1")
  | "dq" | "doublequote" => some (.single '"')
  | "sq" | "singlequote" => some (.single '\'')
  | "ex" | "extendnumlet" => some (.ofTable "Cn0IS70f1j0CIRq1o2Gn0")
  | "extend" => some wordExtending
  | "fo" | "format" =>
    some (those [.format] \ .unionOf
      [wordExtending, chars ['\u200b', '\u200d'], prependedMarks])
  | "hl" | "hebrewletter" => some hebrew
  | "ka" | "katakana" => some katakana
  | "le" | "aletter" => some wordLetters
  | "mb" | "midnumlet" => some (.ofTable "Ba0ISx1a0CITx0F0060")
  | "ml" | "midletter" => some (.ofTable "Bm0Dg0Tz0N30E40HEa0CIS30Bt0Fg0")
  | "mn" | "midnum" => some (.ofTable "B80e0X60Oi0Dm1Cm0Kz0GQr0CISz030F30e0")
  | "nu" | "numeric" => some numeric
  | "ri" | "regionalindicator" => some (set .regionalIndicator)
  | "wsegspace" => some (.ofTable "w0GD30CPj612Cc0EH40")
  | "zwj" => some joiner
  | _ => none

/-! ## Sentences -/

/-- What extends a character within a sentence. -/
def sentenceExtending : CharSet :=
  .unionOf [extendingIn .sixteenth, those [.spacingMark], joiner]

def sentenceSmalls : CharSet := small \ .unionOf [extendingIn .sixteenth, caselessSmalls]

def sentenceCapitals : CharSet := (capital ∪ title) \ caselessCapitals

/-- The class of characters with this name, for cutting a text into sentences. -/
def forSentences? : String → Option CharSet
  | "cr" => some (.single '\r')
  | "lf" => some (.single '\n')
  | "at" | "aterm" => some points
  | "cl" | "close" =>
    let brackets := those [openPunctuation, closePunctuation, initialPunctuation,
      finalPunctuation]
    let wide := chars ['\uff02', '\uff07']
    some ((.unionOf [brackets, set .quotationMark] \ wide) ∪ closers)
  | "ex" | "extend" => some sentenceExtending
  | "fo" | "format" => some (those [.format] \ .unionOf [sentenceExtending, numberMarks])
  | "le" | "oletter" =>
    some ((alphabeticIn .sixteenth ∪ .single '\u05f3') \
      .unionOf [sentenceSmalls, sentenceCapitals, sentenceExtending])
  | "lo" | "lower" => some sentenceSmalls
  | "up" | "upper" => some sentenceCapitals
  | "nu" | "numeric" => some (numeric ∪ .single '\u066c')
  | "sc" | "scontinue" => some (.ofTable
      "B81c1X60Na0Eu1Nm0EK1050CF61EJ80CEJa111s1t12120a0Eo1c1C00")
  | "se" | "sep" => some paragraphEnds
  | "sp" => some (blanks \ .unionOf [paragraphEnds, chars ['\r', '\n']])
  | "st" | "sterm" => some (set .sentenceTerminal \ points)
  | _ => none

end Playbook.Text.Segment
