/-
  Sessions: what both kinds of shell session share. The far side of a session takes what is
  written to it and answers with lines; a session frames every command with words that nobody else
  uses, so that it knows which lines are the command's.
-/
import Playbook.Command.Basic

namespace Playbook.Session

open Playbook.Text

/-- What the far side does after something was written to it. -/
structure Reaction (α : Type) where
  /-- Why it could not be written. -/
  fault : Option Fault := none
  /-- What arrives before the session would give up waiting. -/
  arrivals : List α := []
  /-- Whether nothing will ever arrive after that. -/
  ended : Bool := false
  deriving Repr

/-- The far side of a session, with a state of its own: its reaction to a text. -/
abbrev FarSide (α τ : Type) := String → τ → Reaction α × τ

/-- The process behind a session on this machine. -/
structure Process (α τ : Type) where
  write : FarSide α τ
  /-- Waits for the end of the process after nothing more can be written: its exit status. -/
  wait : τ → Nat × τ

/-- The channel behind a session on another machine. -/
structure Channel (α τ : Type) where
  write : FarSide α τ
  /-- Closes the channel; tells why it could not be closed in order. -/
  close : τ → Option Fault × τ

/-- A word that nobody else uses, from a number that is used once. -/
def token (n : Nat) : String :=
  let digits := Nat.toDigits 16 n
  String.ofList (List.replicate (32 - digits.length) '0' ++ digits)

/-- A span of time, given in milliseconds, in its largest unit. -/
def durationText (millis : Nat) : String :=
  if millis = 0 then "0ns"
  else if millis < 1000 then s!"{millis}ms"
  else
    let places := Nat.toDigits 10 (millis % 1000 + 1000)
    let kept := dropRightWhile (· == '0') places.tail
    let fraction := if kept.isEmpty then [] else '.' :: kept
    toString (millis / 1000) ++ String.ofList fraction ++ "s"

/-- Lines one below the other, each with a line feed behind it. -/
def stacked (lines : List String) : String := String.join (lines.map (· ++ "\n"))

/-- The outcome of a session's command: its output, and behind it what went wrong, if something
did. -/
def outcome (output : String) : Option SessionFault → Outcome
  | none => ⟨0, output⟩
  | some f => .failed output f

end Playbook.Session
