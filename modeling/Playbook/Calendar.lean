/-
  Moments of time as text: the date in the Gregorian calendar and the time of day, in universal
  time.
-/

namespace Playbook

/-- A moment: microseconds since the beginning of 1970. -/
structure Moment where
  micros : Int := 0
  deriving Repr, DecidableEq

/-- A day of the Gregorian calendar. -/
structure Date where
  year : Int
  month : Nat
  day : Nat
  deriving Repr, DecidableEq

/-- The date of a day counted from the first of January 1970. Years begin in March here, so that
a leap day is the last day of its year; 400 of them have 146097 days. -/
def Date.ofDays (days : Int) : Date :=
  let shifted := days + 719468
  let era := shifted / 146097
  let dayOfEra := (shifted % 146097).toNat
  let yearOfEra :=
    (dayOfEra - dayOfEra / 1460 + dayOfEra / 36524 - dayOfEra / 146096) / 365
  let dayOfYear := dayOfEra - (365 * yearOfEra + yearOfEra / 4 - yearOfEra / 100)
  let shiftedMonth := (5 * dayOfYear + 2) / 153
  let month := if shiftedMonth < 10 then shiftedMonth + 3 else shiftedMonth - 9
  let year := yearOfEra + era * 400
  { year := if month ≤ 2 then year + 1 else year
    month
    day := dayOfYear - (153 * shiftedMonth + 2) / 5 + 1 }

/-- A number with zeros in front, `width` digits at least. -/
def zeroPadded (width n : Nat) : String :=
  let digits := Nat.toDigits 10 n
  String.ofList (List.replicate (width - digits.length) '0' ++ digits)

/-- A year of four digits, signed when these do not suffice. -/
def yearText (year : Int) : String :=
  if year < 0 then "-" ++ zeroPadded 4 year.natAbs
  else if 9999 < year then "+" ++ zeroPadded 4 year.toNat
  else zeroPadded 4 year.toNat

namespace Moment

/-- The days of the calendar: from the last but one of the year -262143 to the last of 262142. -/
def firstMicros : Int := -8334601228800000000

def lastMicros : Int := 8210266876799999999

/-- The moment so many microseconds after the beginning of 1970, if the calendar has it. -/
def ofMicros? (micros : Int) : Option Moment :=
  if firstMicros ≤ micros ∧ micros ≤ lastMicros then some ⟨micros⟩ else none

/-- Date and time with microseconds. -/
def text (m : Moment) : String :=
  let seconds := m.micros / 1000000
  let micros := (m.micros % 1000000).toNat
  let date := Date.ofDays (seconds / 86400)
  let second := (seconds % 86400).toNat
  let clock := zeroPadded 2 (second / 3600) ++ ":" ++ zeroPadded 2 (second / 60 % 60) ++ ":" ++
    zeroPadded 2 (second % 60)
  yearText date.year ++ "-" ++ zeroPadded 2 date.month ++ "-" ++ zeroPadded 2 date.day ++ " " ++
    clock ++ "." ++ zeroPadded 6 micros

end Moment

end Playbook
