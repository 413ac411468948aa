/-
  Templates: text with placeholders, each a word between doubled braces. A placeholder's word may
  be empty; anything else between braces is plain text.
-/
import Playbook.Text.Blank
import Playbook.Text.WordChar

namespace Playbook

open Playbook.Text

/-- A part of a template. -/
inductive Piece where
  /-- A character that stands for itself. -/
  | char (c : Char)
  /-- A word between doubled braces. -/
  | placeholder (word : List Char)
  deriving Repr, DecidableEq

namespace Template

/-- The word of a placeholder that the text begins with, and what follows it. -/
def opening? (cs : List Char) : Option (List Char × List Char) :=
  match dropStart? ['\x7b', '\x7b'] cs with
  | none => none
  | some inner =>
    match dropStart? ['\x7d', '\x7d'] (inner.dropWhile isWordChar) with
    | none => none
    | some rest => some (inner.takeWhile isWordChar, rest)

theorem length_dropStart? {start cs rest : List Char} (h : dropStart? start cs = some rest) :
    rest.length + start.length = cs.length := by
  induction start generalizing cs with
  | nil => simp [dropStart?] at h; simp [h]
  | cons s ss ih =>
    cases cs with
    | nil => simp [dropStart?] at h
    | cons c cs =>
      simp only [dropStart?] at h
      split at h
      · simp [← ih h]; omega
      · simp at h

theorem length_dropWhile_le {p : Char → Bool} (cs : List Char) :
    (cs.dropWhile p).length ≤ cs.length := by
  induction cs with
  | nil => simp
  | cons c cs ih =>
    by_cases h : p c
    · simp only [List.dropWhile_cons, h, if_true, List.length_cons]; omega
    · simp [h]

/-- What follows a placeholder is shorter than the text that begins with it. -/
theorem length_opening? {cs word rest : List Char} (h : opening? cs = some (word, rest)) :
    rest.length < cs.length := by
  unfold opening? at h
  split at h
  · simp at h
  · next inner hinner =>
    split at h
    · simp at h
    · next rest' hrest =>
      simp only [Option.some.injEq, Prod.mk.injEq] at h
      have h1 := length_dropStart? hinner
      have h2 := length_dropStart? hrest
      have h3 := length_dropWhile_le (p := isWordChar) inner
      simp only [List.length_cons, List.length_nil] at h1 h2
      rw [← h.2]; omega

/-- The pieces of a text, read once from left to right. -/
def pieces (cs : List Char) : List Piece :=
  match _h : opening? cs with
  | some (word, rest) => .placeholder word :: pieces rest
  | none =>
    match cs with
    | [] => []
    | c :: rest => .char c :: pieces rest
  termination_by cs.length
  decreasing_by
    · exact length_opening? ‹_›
    · simp

/-- The words of the placeholders, in order. -/
def placeholders (text : String) : List String :=
  (pieces text.toList).filterMap fun p =>
    match p with
    | .placeholder word => some (String.ofList word)
    | .char _ => none

/-- A piece as it is written. -/
def written : Piece → List Char
  | .char c => [c]
  | .placeholder word => ['\x7b', '\x7b'] ++ word ++ ['\x7d', '\x7d']

/-- A piece with the value of its word, if the word has one, in its place. -/
def filled (value? : String → Option String) : Piece → List Char
  | .char c => [c]
  | .placeholder word =>
    match value? (String.ofList word) with
    | some v => v.toList
    | none => written (.placeholder word)

/-- The text with the values of the placeholders that have one. Values are not read again. -/
def fill (value? : String → Option String) (text : String) : String :=
  String.ofList ((pieces text.toList).flatMap (filled value?))

end Template

end Playbook
