/-
  Moments as people write them: in a form with letters for their parts, and as dates, times of day
  and distances from now in words. All is universal time, in seconds since the beginning of 1970.
-/
import Playbook.Shell.Arithmetic
import Playbook.Calendar

namespace Playbook.Shell.Tool

open Playbook.Text

/-! ## Spans -/

/-- The number of milliseconds that a text with a unit spells. -/
def millis? (text : String) : Option Nat :=
  let cs := text.toList
  let (ds, unit) := match cs.getLast? with
    | some 's' => (cs.dropLast, 1)
    | some 'm' => (cs.dropLast, 60)
    | some 'h' => (cs.dropLast, 3600)
    | some 'd' => (cs.dropLast, 86400)
    | _ => (cs, 1)
  let (whole, part) := (splitOnce '.' ds).getD (ds, [])
  if (whole ++ part).isEmpty then none
  else
    (Number.digits? (whole ++ part)).map fun n =>
      n * 1000 * unit / Nat.pow 10 part.length

/-! ## Forms -/

/-- The days from the beginning of 1970 to a date. -/
def daysTo (year month day : Int) : Int :=
  let y := if month ≤ 2 then year - 1 else year
  let shifted := (month + 9) % 12
  let inYear := (153 * shifted + 2) / 5 + day - 1
  365 * y + y / 4 - y / 100 + y / 400 + inYear - 719468

/-- The days of the week. -/
def weekdayNames : List String :=
  ["Sunday", "Monday", "Tuesday", "Wednesday", "Thursday", "Friday", "Saturday"]

/-- The months of the year. -/
def monthNames : List String := ["January", "February", "March", "April", "May", "June", "July",
  "August", "September", "October", "November", "December"]

/-- A number with blanks in front. -/
def spaced (width n : Nat) : String :=
  let s := toString n
  String.ofList (List.replicate (width - s.length) ' ') ++ s

/-- A part of a moment by its letter. -/
def momentPart (seconds : Int) (c : Char) : Option String :=
  let days := seconds / 86400
  let date := Date.ofDays days
  let inDay := (seconds % 86400).toNat
  let (hour, minute, second) := (inDay / 3600, inDay / 60 % 60, inDay % 60)
  let weekday := ((days + 4) % 7).toNat
  let yearDay := (days - daysTo date.year 1 1).toNat + 1
  let half := if hour % 12 = 0 then 12 else hour % 12
  let year := zeroPadded 4 date.year.toNat
  let short := fun (s : String) => String.ofList (s.toList.take 3)
  let clock := s!"{zeroPadded 2 hour}:{zeroPadded 2 minute}:{zeroPadded 2 second}"
  let monday := (weekday + 6) % 7
  -- weeks belong to the year in which their Thursday lies
  let thursday := days - (monday : Int) + 3
  let isoYear := (Date.ofDays thursday).year
  let isoWeek := ((thursday - daysTo isoYear 1 1) / 7).toNat + 1
  match c with
  | 'Y' => some (toString date.year)
  | 'C' => some (zeroPadded 2 (date.year.toNat / 100))
  | 'y' => some (zeroPadded 2 (date.year.toNat % 100))
  | 'm' => some (zeroPadded 2 date.month)
  | 'd' => some (zeroPadded 2 date.day)
  | 'e' => some (spaced 2 date.day)
  | 'H' => some (zeroPadded 2 hour)
  | 'I' => some (zeroPadded 2 half)
  | 'k' => some (spaced 2 hour)
  | 'l' => some (spaced 2 half)
  | 'M' => some (zeroPadded 2 minute)
  | 'S' => some (zeroPadded 2 second)
  | 's' => some (toString seconds)
  | 'N' => some "000000000"
  | 'p' => some (if hour < 12 then "AM" else "PM")
  | 'P' => some (if hour < 12 then "am" else "pm")
  | 'j' => some (zeroPadded 3 yearDay)
  | 'a' => some (short (weekdayNames.getD weekday ""))
  | 'A' => some (weekdayNames.getD weekday "")
  | 'b' | 'h' => some (short (monthNames.getD (date.month - 1) ""))
  | 'B' => some (monthNames.getD (date.month - 1) "")
  | 'u' => some (toString (if weekday = 0 then 7 else weekday))
  | 'w' => some (toString weekday)
  | 'U' => some (zeroPadded 2 ((yearDay + 6 - weekday) / 7))
  | 'W' => some (zeroPadded 2 ((yearDay + 6 - monday) / 7))
  | 'V' => some (zeroPadded 2 isoWeek)
  | 'G' => some (toString isoYear)
  | 'F' => some s!"{year}-{zeroPadded 2 date.month}-{zeroPadded 2 date.day}"
  | 'T' | 'X' => some clock
  | 'R' => some s!"{zeroPadded 2 hour}:{zeroPadded 2 minute}"
  | 'r' => some (s!"{zeroPadded 2 half}:{zeroPadded 2 minute}:{zeroPadded 2 second} " ++
      (if hour < 12 then "AM" else "PM"))
  | 'D' | 'x' =>
    some (zeroPadded 2 date.month ++ "/" ++ zeroPadded 2 date.day ++ "/" ++
      zeroPadded 2 (date.year.toNat % 100))
  | 'c' =>
    some (short (weekdayNames.getD weekday "") ++ " " ++
      short (monthNames.getD (date.month - 1) "") ++ s!" {spaced 2 date.day} {clock} {year}")
  | 'Z' => some "UTC"
  | 'z' => some "+0000"
  | 'n' => some "\n"
  | 't' => some "\t"
  | '%' => some "%"
  | _ => none

/-- How a part of a moment is written: signs, and a width. -/
structure PartForm where
  signs : List Char := []
  width : Nat := 0
  colons : Nat := 0

namespace PartForm

/-- Whether a part is a text and no number. -/
def isText (c : Char) : Bool := "aAbBhcpPZrDFTRxX".toList.contains c

/-- The part of a moment in this form. -/
def lay (f : PartForm) (c : Char) (text : String) : String :=
  let cs := text.toList
  let blank := fun (d : Char) => d == '0' || d == ' '
  let bare := match cs.dropWhile blank with
    | [] => cs.drop (cs.length - 1)
    | rest => rest
  let cs := if isText c then cs
    else match f.signs.getLast? with
      | some '-' => bare
      | some '_' => List.replicate (cs.length - bare.length) ' ' ++ bare
      | some '0' => List.replicate (cs.length - bare.length) '0' ++ bare
      | _ => cs
  let cs := if f.signs.contains '^' then cs.map Char.toUpper
    else if f.signs.contains '#' then
      (if c == 'Z' || c == 'p' then cs.map Char.toLower else cs.map Char.toUpper)
    else cs
  let fill := if f.signs.getLast? == some '_' || (isText c && f.signs.getLast? != some '0')
    then ' ' else '0'
  String.ofList (if f.signs.getLast? == some '-' then cs
    else List.replicate (f.width - cs.length) fill ++ cs)

end PartForm

/-- A moment in a form. -/
def momentFrom (seconds : Int) : (steps : Nat) → List Char → List Char
  | 0, cs => cs
  | _, [] => []
  | n + 1, '%' :: rest =>
    let signs := rest.takeWhile "-_0^#".toList.contains
    let behind := rest.drop signs.length
    let width := behind.takeWhile Char.isDigit
    let behind := behind.drop width.length
    let colons := behind.takeWhile (· == ':')
    let form : PartForm := ⟨signs, (Number.digits? width).getD 0, colons.length⟩
    match behind.drop colons.length with
    | [] => '%' :: rest
    | c :: after =>
      let part? := match c, colons.length with
        | 'z', 0 => some "+0000"
        | 'z', 1 => some "+00:00"
        | 'z', 2 => some "+00:00:00"
        | 'N', 0 => some (String.ofList (List.replicate (if form.width = 0 then 9 else form.width)
            '0'))
        | c, 0 => momentPart seconds c
        | _, _ => none
      match part? with
      | some part => (form.lay c part).toList ++ momentFrom seconds n after
      | none =>
        '%' :: rest.take (rest.length - after.length) ++ momentFrom seconds n after
  | n + 1, c :: rest => c :: momentFrom seconds n rest

/-- A moment in a form. -/
def momentText (seconds : Int) (form : List Char) : String :=
  String.ofList (momentFrom seconds (form.length + 1) form)

/-! ## Words -/

/-- What words say of a moment. -/
structure Described where
  /-- Year, month and day. -/
  date : Option (Int × Nat × Nat) := none
  /-- The second of the day. -/
  clock : Option Int := none
  /-- How many seconds its clocks are ahead. -/
  zone : Int := 0
  /-- A day of the week, and which of those to come. -/
  weekday : Option (Nat × Int) := none
  years : Int := 0
  months : Int := 0
  days : Int := 0
  seconds : Int := 0
  /-- Whether it is described from now. -/
  relative : Bool := false
  /-- The moment in seconds itself. -/
  itself : Option Int := none

namespace Described

/-- A moment so many units further. -/
def further? (d : Described) (n : Int) (unit : String) : Option Described :=
  let one := match unit.toList.reverse with
    | 's' :: cs => if 1 < cs.length then String.ofList cs.reverse else unit
    | _ => unit
  let d := { d with relative := true }
  match one with
  | "year" => some { d with years := d.years + n }
  | "month" => some { d with months := d.months + n }
  | "fortnight" => some { d with days := d.days + 14 * n }
  | "week" => some { d with days := d.days + 7 * n }
  | "day" => some { d with days := d.days + n }
  | "hour" => some { d with seconds := d.seconds + 3600 * n }
  | "minute" | "min" => some { d with seconds := d.seconds + 60 * n }
  | "second" | "sec" => some { d with seconds := d.seconds + n }
  | _ => none

/-- The same distance to the past. -/
def ago (d : Described) : Described :=
  { d with years := -d.years, months := -d.months, days := -d.days, seconds := -d.seconds }

/-- The place of a name or its first three letters in a list. -/
def place? (names : List String) (word : String) : Option Nat :=
  names.findIdx? fun name =>
    let whole := name.toList.map Char.toLower
    word.toList == whole || word.toList == whole.take 3

/-- A year that may have been cut to two digits. -/
def yearOf (ds : List Char) : Option Int :=
  (Number.digits? ds).map fun n =>
    if ds.length ≤ 2 then (if n < 69 then 2000 + n else 1900 + n : Nat) else n

/-- How many hours clocks are ahead where they have a name. -/
def zoneNames : List (String × Int) :=
  [("utc", 0), ("gmt", 0), ("z", 0), ("wet", 0), ("est", -5), ("edt", -4), ("cst", -6), ("cdt", -5),
    ("mst", -7), ("mdt", -6), ("pst", -8), ("pdt", -7), ("bst", 1), ("cet", 1), ("cest", 2),
    ("met", 1), ("eet", 2), ("eest", 3), ("msk", 3), ("sgt", 8), ("jst", 9), ("nzst", 12)]

/-- The moment on a date, if there is such a date. -/
def onDate? (d : Described) (year : Int) (month day : Nat) : Option Described :=
  if d.date.isSome || month < 1 || 12 < month || day < 1 || 31 < day then none
  else some { d with date := some (year, month, day) }

/-- How far clocks are ahead behind a sign: hours, or hours and minutes. -/
def zone? (sign : Char) (ds : List Char) : Option Int :=
  let seconds : Option Nat := match pieces ':' ds, ds.length with
    | [h, m], _ =>
      (Number.digits? h).bind fun h => (Number.digits? m).map fun m => h * 3600 + m * 60
    | _, n =>
      (Number.digits? ds).map fun v =>
        if n ≤ 2 then v * 3600 else v / 100 * 3600 + v % 100 * 60
  seconds.map fun (s : Nat) => if sign == '-' then -(s : Int) else s

/-- The time of day that is spelled with colons, perhaps with a zone behind it. -/
def atClock? (d : Described) (cs : List Char) : Option Described :=
  let clock := cs.takeWhile fun c => c.isDigit || c == ':' || c == '.' || c == ','
  let behind := cs.drop clock.length
  let hms := (pieces ':' clock).map fun ds =>
    Number.digits? (ds.takeWhile fun c => c != '.' && c != ',')
  let seconds : Option Nat := match hms with
    | [some h, some m] => if h < 24 && m < 60 then some (h * 3600 + m * 60) else none
    | [some h, some m, some s] =>
      if h < 24 && m < 60 && s ≤ 60 then some (h * 3600 + m * 60 + s) else none
    | _ => none
  match seconds with
  | none => none
  | some seconds =>
    if d.clock.isSome then none
    else
      let d := { d with clock := some (seconds : Int) }
      match behind with
      | [] | ['z'] => some d
      | sign :: ds =>
        if sign == '+' || sign == '-' then
          (zone? sign ds).map fun zone => { d with zone }
        else if behind == "am".toList || behind == "pm".toList then
          -- the hour that is called twelve comes before the others of its half
          let inHalf := (seconds : Int) - (if seconds / 3600 = 12 then 43200 else 0)
          some { d with clock := some (inHalf + (if behind == "pm".toList then 43200 else 0)) }
        else none

/-- The date that is spelled with hyphens or slashes. -/
def atDate? (d : Described) (cs : List Char) : Option Described :=
  let number := fun (ds : List Char) => Number.digits? ds
  match pieces '-' cs, pieces '/' cs with
  | [y, m, day], _ =>
    match number m, place? monthNames (String.ofList m) with
    | some m, _ => (yearOf y).bind fun y => (number day).bind fun day => d.onDate? y m day
    | none, some m => (yearOf day).bind fun year => (number y).bind fun day =>
        d.onDate? year (m + 1) day
    | none, none => none
  | _, [a, b, c] =>
    if a.length = 4 then
      (yearOf a).bind fun y => (number b).bind fun m => (number c).bind fun day => d.onDate? y m day
    else
      (yearOf c).bind fun y => (number a).bind fun m => (number b).bind fun day => d.onDate? y m day
  | _, _ => none

/-- A moment described by words. -/
def ofWords (thisYear : Int) : (steps : Nat) → Described → List String → Option Described
  | 0, _, _ => none
  | _, d, [] => some d
  | n + 1, d, word :: rest =>
    let next := ofWords thisYear n
    let cs := word.toList
    let ds := cs.takeWhile Char.isDigit
    let behind := String.ofList (cs.drop ds.length)
    let unitOf := fun (unit : String) (count : Int) => d.further? count unit
    match word with
    | "now" | "today" => next { d with relative := true } rest
    | "yesterday" => next { d with relative := true, days := d.days - 1 } rest
    | "tomorrow" => next { d with relative := true, days := d.days + 1 } rest
    | "at" | "of" => next d rest
    | "noon" => if d.clock.isSome then none else next { d with clock := some 43200 } rest
    | "midnight" => if d.clock.isSome then none else next { d with clock := some 0 } rest
    | "ago" => next d.ago rest
    | "next" | "last" | "this" =>
      let count : Int := if word == "next" then 1 else if word == "last" then -1 else 0
      match rest with
      | [] => none
      | unit :: rest =>
        match unitOf unit count, place? weekdayNames unit with
        | some d, _ => next d rest
        | none, some day => next { d with weekday := some (day, count) } rest
        | none, none => none
    | _ =>
      if let some hours := zoneNames.lookup word then
        next { d with zone := 3600 * hours } rest
      else
      match place? monthNames word, place? weekdayNames word, cs with
      | some month, _, _ =>
        match rest with
        | day :: more =>
          match Number.digits? day.toList, more with
          | some day, year :: others =>
            if 2 < year.length && (Number.digits? year.toList).isSome then
              ((yearOf year.toList).bind fun y => d.onDate? y (month + 1) day).bind (next · others)
            else (d.onDate? thisYear (month + 1) day).bind (next · more)
          | some day, [] => (d.onDate? thisYear (month + 1) day).bind (next · [])
          | none, _ => none
        | [] => none
      | none, some day, _ => next { d with weekday := some (day, 0) } rest
      | none, none, '@' :: seconds =>
        let (sign, ds) := match seconds with
          | '-' :: ds => ((-1 : Int), ds)
          | ds => (1, ds)
        (Number.digits? (ds.takeWhile (· != '.'))).bind fun v =>
          next { d with itself := some (sign * v) } rest
      | none, none, _ =>
        if cs.head? == some '+' || cs.head? == some '-' then
          let sign := cs.headD '+'
          let ds := (cs.drop 1).takeWhile Char.isDigit
          let unit := String.ofList (cs.drop (1 + ds.length))
          let isZone := d.clock.isSome && (unit.startsWith ":" ||
            (unit.isEmpty && !(rest.head?.bind fun u => d.further? 1 u).isSome))
          if isZone then (zone? sign (cs.drop 1)).bind fun zone => next { d with zone } rest
          else
            match Number.digits? ds with
            | none =>
              if ds.isEmpty && unit.isEmpty then
                match rest with
                | w :: more => next d ((String.singleton sign ++ w) :: more)
                | [] => none
              else none
            | some v =>
              let count : Int := if sign == '-' then -(v : Int) else v
              if unit.isEmpty then
                match rest with
                | u :: more => (unitOf u count).bind (next · more)
                | [] => none
              else (unitOf unit count).bind (next · rest)
        else if cs.contains ':' then
          match cs.span fun c => c != 't' with
          | (date, _ :: clock) =>
            ((d.atDate? date).bind fun (d : Described) => d.atClock? clock).bind (next · rest)
          | (_, []) =>
            match rest with
            | "am" :: more => (d.atClock? (cs ++ "am".toList)).bind (next · more)
            | "pm" :: more => (d.atClock? (cs ++ "pm".toList)).bind (next · more)
            | _ => (d.atClock? cs).bind (next · rest)
        else if cs.contains '-' || cs.contains '/' then (d.atDate? cs).bind (next · rest)
        else
          match Number.digits? ds with
          | none => none
          | some v =>
            if !behind.isEmpty then
              if behind == "am" || behind == "pm" then
                (d.atClock? (ds ++ ":00".toList ++ behind.toList)).bind (next · rest)
              else (unitOf behind v).bind (next · rest)
            else
              match rest with
              | u :: more =>
                if u == "am" || u == "pm" then
                  (d.atClock? (ds ++ ":00".toList ++ u.toList)).bind (next · more)
                else
                  match unitOf u v, place? monthNames u with
                  | some d, _ => next d more
                  | none, some month =>
                    match more with
                    | year :: others =>
                      if 2 < year.length && (Number.digits? year.toList).isSome then
                        ((yearOf year.toList).bind fun y =>
                          d.onDate? y (month + 1) v).bind (next · others)
                      else (d.onDate? thisYear (month + 1) v).bind (next · more)
                    | [] => (d.onDate? thisYear (month + 1) v).bind (next · [])
                  | none, none => (plain d ds).bind (next · rest)
              | [] => (plain d ds).bind (next · [])
where
  /-- A number alone: a date of eight digits, or a time of day. -/
  plain (d : Described) (ds : List Char) : Option Described :=
    let part := fun (from_ count : Nat) => (Number.digits? ((ds.drop from_).take count)).getD 0
    if ds.length = 8 then d.onDate? (part 0 4) (part 4 2) (part 6 2)
    else if ds.length = 4 then d.atClock? (ds.take 2 ++ ':' :: ds.drop 2)
    else if ds.length ≤ 2 then d.atClock? (ds ++ ":00".toList)
    else none

/-- The moment that is described, in seconds, when it is `now`. -/
def resolve (d : Described) (now : Int) : Int :=
  match d.itself with
  | some n => n + d.days * 86400 + d.seconds
  | none =>
    let today := Date.ofDays (now / 86400)
    let (year, month, day) := d.date.getD (today.year, today.month, today.day)
    let fromNow := d.relative && d.date.isNone && d.weekday.isNone
    let clock := d.clock.getD (if fromNow then now % 86400 else 0)
    let months := (month : Int) - 1 + d.months
    let days := daysTo (year + d.years + months / 12) (months % 12 + 1) day + d.days
    let days := match d.weekday, d.date with
      | some (weekday, count), none =>
        let current := (days + 4) % 7
        let ahead := ((weekday : Int) - current + 7) % 7
        days + ahead + 7 * (count - (if 0 < count && ahead != 0 then 1 else 0))
      | _, _ => days
    days * 86400 + clock + d.seconds - d.zone

/-- Whether the date that is described is in the calendar. -/
def isProper (d : Described) : Bool :=
  match d.date with
  | some (year, month, day) => (Date.ofDays (daysTo year month day)).day == day
  | none => true

end Described

/-- The number of seconds that a text names, when it is `now`. -/
def secondsOf? (now : Int) (text : String) : Option Int :=
  let cs := text.toList.map fun c => if c == ',' then ' ' else c.toLower
  let words := (pieces ' ' cs).filterMap fun w =>
    if w.isEmpty then none else some (String.ofList w)
  let year := (Date.ofDays (now / 86400)).year
  match Described.ofWords year (2 * words.length + 2) {} words with
  | some d => if d.isProper then some (d.resolve now) else none
  | none => none

/-- The number of seconds that digits name: month, day, hour and minute, perhaps behind a year and
before a point and seconds. -/
def secondsOfDigits? (now : Int) (text : String) : Option Int :=
  let (ds, seconds?) := match splitOnce '.' text.toList with
    | some (ds, s) => (ds, if s.length = 2 then Number.digits? s else none)
    | none => (text.toList, some 0)
  let thisYear := (Date.ofDays (now / 86400)).year
  let year? := match ds.length with
    | 8 => some thisYear
    | 10 => Described.yearOf (ds.take 2)
    | 12 => Described.yearOf (ds.take 4)
    | _ => none
  let rest := ds.drop (ds.length - 8)
  let part := fun (i : Nat) => (Number.digits? ((rest.drop (2 * i)).take 2)).getD 99
  match year?, seconds?, ds.all Char.isDigit with
  | some year, some s, true =>
    if 1 ≤ part 0 && part 0 ≤ 12 && 1 ≤ part 1 && part 1 ≤ 31 && part 2 < 24 && part 3 < 60 &&
      s ≤ 60 then
      some (daysTo year (part 0) (part 1) * 86400 + part 2 * 3600 + part 3 * 60 + s)
    else none
  | _, _, _ => none

end Playbook.Shell.Tool
