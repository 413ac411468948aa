/-
  Conversations: the messages exchanged with an agent, and counts of what the exchange took.
-/
import Playbook.Prompt
import Playbook.Number.Binary64

namespace Playbook

open Playbook.Number

/-- One message of a conversation. -/
structure Message where
  role : Role
  content : String
  deriving Repr, DecidableEq

/-- What the questions and replies of a conversation took. -/
structure Usage where
  iterations : Nat := 0
  promptTokens : Nat := 0
  completionTokens : Nat := 0
  tokens : Nat := 0
  promptChars : Nat := 0
  completionChars : Nat := 0
  chars : Nat := 0
  /-- The time between questions and replies, in seconds. -/
  seconds : Binary64 := .finite 0
  deriving Repr, DecidableEq

/-- A number of milliseconds in seconds: the whole seconds and the fraction, each as a number of
its own, and their sum. -/
def secondsOfMillis (millis : Nat) : Binary64 :=
  (Binary64.nearest (millis / 1000) 1).add (Binary64.nearest (millis % 1000) 1000)

namespace Usage

/-- The time with a fixed count of places. -/
def durationText (u : Usage) (places : Nat) : String :=
  match u.seconds with
  | .finite units => Binary64.fixedText places units.natAbs
  | _ => "inf"

/-- The time in seconds with six decimals. -/
def duration (u : Usage) : String := u.durationText 6

/-- The time in seconds with one decimal. -/
def shortDuration (u : Usage) : String := u.durationText 1

/-- A sum of two counts, which are counted in words of 64 bits. -/
def plus (a b : Nat) : Nat := (a + b) % Nat.pow 2 64

/-- The counts after one more question and reply. Tokens count only where they are known. -/
def record (u : Usage) (prompt completion : String) (millis : Nat) (tokens : Option (Nat × Nat)) :
    Usage :=
  let asked := prompt.toList.length
  let replied := completion.toList.length
  let (promptTokens, completionTokens) := tokens.getD (0, 0)
  { iterations := u.iterations + 1
    promptTokens := plus u.promptTokens promptTokens
    completionTokens := plus u.completionTokens completionTokens
    tokens := plus u.tokens (plus promptTokens completionTokens)
    promptChars := u.promptChars + asked
    completionChars := u.completionChars + replied
    chars := u.chars + asked + replied
    seconds := u.seconds.add (secondsOfMillis millis) }

end Usage

/-- The messages of a session with an agent, and the counts of all its sessions. -/
structure Conversation where
  messages : List Message := []
  usage : Usage := {}
  deriving Repr, DecidableEq

namespace Conversation

/-- The conversation with one more message; an empty one does not count. -/
def push (c : Conversation) (role : Role) (content : String) : Conversation :=
  if content.isEmpty then c else { c with messages := c.messages ++ [⟨role, content⟩] }

/-- A new session under a system prompt. -/
def reset (c : Conversation) (system : String) : Conversation :=
  { c with messages := [] }.push .system system

/-- The conversation with the counts of one more question and reply. -/
def record (c : Conversation) (prompt completion : String) (millis : Nat)
    (tokens : Option (Nat × Nat)) : Conversation :=
  { c with usage := c.usage.record prompt completion millis tokens }

end Conversation

end Playbook
