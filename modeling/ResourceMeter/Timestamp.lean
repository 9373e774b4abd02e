import ResourceMeter.Decimal

/-!
# Timestamps

A `Timestamp` is an instant of universal time, in seconds since the start of 1970 and nanoseconds. A
leap second is the second before it with a thousand million nanoseconds or more.

The text is that of RFC 3339, with no fraction or with three, six or nine digits, the fewest that
are exact. Years outside the range from 0 to 9999 have a sign.
-/

namespace ResourceMeter

/-- An instant of universal time. -/
structure Timestamp where
  /-- Seconds since the start of 1970. -/
  seconds : Int
  /-- Nanoseconds; a thousand million and more mark a leap second. -/
  nanoseconds : Nat
  deriving DecidableEq

/-- A date of the Gregorian calendar. -/
structure CivilDate where
  year : Int
  month : Nat
  day : Nat
  deriving DecidableEq

namespace CivilDate

/-- The date of a day, counted from the first of January 1970. The years start in March, so that a
leap day is the last of its year; four hundred years have 146097 days. -/
def ofDays (days : Int) : CivilDate :=
  let shifted := days + 719468
  let era := shifted.fdiv 146097
  let dayOfEra := (shifted.fmod 146097).toNat
  let yearOfEra := (dayOfEra - dayOfEra / 1460 + dayOfEra / 36524 - dayOfEra / 146096) / 365
  let dayOfYear := dayOfEra - (365 * yearOfEra + yearOfEra / 4 - yearOfEra / 100)
  let shiftedMonth := (5 * dayOfYear + 2) / 153
  let month := if shiftedMonth < 10 then shiftedMonth + 3 else shiftedMonth - 9
  { year := yearOfEra + era * 400 + (if month ≤ 2 then 1 else 0)
    month
    day := dayOfYear - (153 * shiftedMonth + 2) / 5 + 1 }

/-- The day of a date, counted from the first of January 1970. -/
def toDays (date : CivilDate) : Int :=
  let year := if date.month ≤ 2 then date.year - 1 else date.year
  let era := year.fdiv 400
  let yearOfEra := (year.fmod 400).toNat
  let shiftedMonth := if 2 < date.month then date.month - 3 else date.month + 9
  let dayOfYear := (153 * shiftedMonth + 2) / 5 + date.day - 1
  let dayOfEra := yearOfEra * 365 + yearOfEra / 4 - yearOfEra / 100 + dayOfYear
  era * 146097 + dayOfEra - 719468

/-- The year has a leap day. -/
def isLeapYear (year : Int) : Bool :=
  year % 4 = 0 && (year % 100 != 0 || year % 400 = 0)

/-- The number of days of a month. -/
def daysInMonth (year : Int) (month : Nat) : Nat :=
  if month = 2 then (if isLeapYear year then 29 else 28)
  else if month = 4 ∨ month = 6 ∨ month = 9 ∨ month = 11 then 30
  else 31

end CivilDate

namespace Timestamp

/-- A number with at least the given number of digits. -/
def padded (width n : Nat) : String :=
  let text := Decimal.digits n
  Decimal.zeros (width - text.length) ++ text

/-- The year; outside the range from 0 to 9999 it has a sign. -/
def yearText (year : Int) : String :=
  if 0 ≤ year ∧ year ≤ 9999 then padded 4 year.toNat
  else (if year < 0 then "-" else "+") ++ padded 4 year.natAbs

/-- The fraction of a second, in the fewest of 0, 3, 6 and 9 digits that are exact. -/
def fractionText (nanoseconds : Nat) : String :=
  if nanoseconds = 0 then ""
  else if nanoseconds % 1000000 = 0 then "." ++ padded 3 (nanoseconds / 1000000)
  else if nanoseconds % 1000 = 0 then "." ++ padded 6 (nanoseconds / 1000)
  else "." ++ padded 9 nanoseconds

/-- The text of an instant, with the given text for the zone. -/
def text (t : Timestamp) (zone : String) : String :=
  let date := CivilDate.ofDays (t.seconds.fdiv 86400)
  let secondOfDay := (t.seconds.fmod 86400).toNat
  let second := secondOfDay % 60 + t.nanoseconds / 1000000000
  yearText date.year ++ "-" ++ padded 2 date.month ++ "-" ++ padded 2 date.day ++ "T" ++
    padded 2 (secondOfDay / 3600) ++ ":" ++ padded 2 (secondOfDay / 60 % 60) ++ ":" ++
    padded 2 second ++ fractionText (t.nanoseconds % 1000000000) ++ zone

/-- The value of a run of digits, none of which may be anything else. -/
def number? (cs : List Char) : Option Nat :=
  if cs.all Char.isDigit ∧ cs ≠ [] then
    some (cs.foldl (fun n c => 10 * n + (c.toNat - '0'.toNat)) 0)
  else none

/-- The year of a text that starts with one, and the text behind it. -/
def year? (cs : List Char) : Option (Int × List Char) :=
  let (negative, signed, cs) := match cs with
    | '-' :: cs => (true, true, cs)
    | '+' :: cs => (false, true, cs)
    | cs => (false, false, cs)
  let digits := cs.takeWhile Char.isDigit
  if digits.length = 4 ∨ signed ∧ 4 < digits.length ∧ digits.length < 7 then
    (number? digits).map fun n => (if negative then -(n : Int) else n, cs.dropWhile Char.isDigit)
  else none

/-- The nanoseconds of a fraction, of which the first nine digits count, and the text behind it. -/
def fraction? : List Char → Option (Nat × List Char)
  | '.' :: cs =>
    let digits := cs.takeWhile Char.isDigit
    (number? ((digits ++ List.replicate 9 '0').take 9)).bind fun n =>
      if digits.isEmpty then none else some (n, cs.dropWhile Char.isDigit)
  | cs => some (0, cs)

/-- The seconds by which a zone is ahead of universal time. -/
def zone? : List Char → Option Int
  | ['Z'] => some 0
  | ['z'] => some 0
  | [sign, a, b, ':', c, d] => do
    let hours ← number? [a, b]
    let minutes ← number? [c, d]
    let offset : Int := hours * 3600 + minutes * 60
    if hours ≤ 23 ∧ minutes ≤ 59 then
      if sign = '+' then some offset else if sign = '-' then some (-offset) else none
    else none
  | _ => none

/-- The second of the day and the leap nanoseconds of a time of day. -/
def timeOfDay? (hour minute second : Nat) : Option (Nat × Nat) :=
  if hour ≤ 23 ∧ minute ≤ 59 ∧ second ≤ 59 then
    some (hour * 3600 + minute * 60 + second, 0)
  else if hour ≤ 23 ∧ minute ≤ 59 ∧ second = 60 then
    some (hour * 3600 + minute * 60 + 59, 1000000000)
  else none

/-- Reads the text of an instant. -/
def ofText? (s : String) : Option Timestamp := do
  let (year, cs) ← year? s.toList
  match cs with
  | '-' :: m₁ :: m₂ :: '-' :: d₁ :: d₂ :: t :: h₁ :: h₂ :: ':' :: n₁ :: n₂ :: ':' :: s₁ :: s₂ ::
      cs =>
    let month ← number? [m₁, m₂]
    let day ← number? [d₁, d₂]
    let hour ← number? [h₁, h₂]
    let minute ← number? [n₁, n₂]
    let second ← number? [s₁, s₂]
    let (nanoseconds, cs) ← fraction? cs
    let offset ← zone? cs
    let (secondOfDay, leap) ← timeOfDay? hour minute second
    if (t = 'T' ∨ t = 't' ∨ t = ' ') ∧ 1 ≤ month ∧ month ≤ 12 ∧ 1 ≤ day ∧
        day ≤ CivilDate.daysInMonth year month then
      some ⟨(CivilDate.mk year month day).toDays * 86400 + secondOfDay - offset, nanoseconds + leap⟩
    else none
  | _ => none

end Timestamp

end ResourceMeter
