import AdvisoryFeed.Decimal.Numeral
import AdvisoryFeed.Text.Search

/-!
# Instants

Points of time in the Gregorian calendar, to the microsecond. `Instant.micros` counts the
microseconds since the start of the year 1, so that differences of instants are differences of
counts.
-/

namespace AdvisoryFeed.Time

open AdvisoryFeed.Decimal AdvisoryFeed.Text

/-- A point of time. -/
structure Instant where
  year : Nat
  month : Nat
  day : Nat
  hour : Nat
  minute : Nat
  second : Nat
  micro : Nat
deriving DecidableEq, Repr

/-- A year with a day more. -/
def isLeapYear (year : Nat) : Bool :=
  year % 4 == 0 && (year % 100 != 0 || year % 400 == 0)

/-- The number of days of a month. -/
def daysInMonth (year month : Nat) : Nat :=
  if month = 2 then (if isLeapYear year then 29 else 28)
  else if [4, 6, 9, 11].contains month then 30
  else 31

/-- The fields name a point of time in the years 1 to 9999. -/
def Instant.isValid (t : Instant) : Bool :=
  1 ≤ t.year && t.year ≤ 9999 && 1 ≤ t.month && t.month ≤ 12 && 1 ≤ t.day &&
    t.day ≤ daysInMonth t.year t.month && t.hour ≤ 23 && t.minute ≤ 59 && t.second ≤ 59 &&
    t.micro ≤ 999999

/-- The number of days before a year. -/
def daysBeforeYear (year : Nat) : Nat :=
  let past := year - 1
  past * 365 + past / 4 - past / 100 + past / 400

/-- The number of days before a month in its year. -/
def daysBeforeMonth (year month : Nat) : Nat :=
  (List.range (month - 1)).foldl (fun days m => days + daysInMonth year (m + 1)) 0

/-- The microseconds since the start of the year 1. -/
def Instant.micros (t : Instant) : Int :=
  let days := daysBeforeYear t.year + daysBeforeMonth t.year t.month + (t.day - 1)
  (((days * 24 + t.hour) * 60 + t.minute) * 60 + t.second) * 1000000 + t.micro

/-- A number of microseconds in seconds, as the nearest double. -/
def microsToSeconds (n : Int) : Float :=
  let magnitude := Float.ofScientific n.natAbs true 6
  if n < 0 then -magnitude else magnitude

/-- The seconds from one instant to another. -/
def Instant.secondsUntil (start finish : Instant) : Float :=
  microsToSeconds (finish.micros - start.micros)

/-- A number with at least `width` digits. -/
def padded (width n : Nat) : List Char :=
  let digits := decimal n
  List.replicate (width - digits.length) '0' ++ digits

/-- An instant as a date and a time with a `T` between them. Microseconds are shown when there are
any. -/
def Instant.text (t : Instant) : String :=
  String.ofList (padded 4 t.year ++ '-' :: padded 2 t.month ++ '-' :: padded 2 t.day ++
    'T' :: padded 2 t.hour ++ ':' :: padded 2 t.minute ++ ':' :: padded 2 t.second ++
    if t.micro = 0 then [] else '.' :: padded 6 t.micro)

/-- An instant to the second, without marks but one between the date and the time. -/
def Instant.stamp (mark : Char) (t : Instant) : String :=
  String.ofList (decimal t.year ++ padded 2 t.month ++ padded 2 t.day ++
    mark :: padded 2 t.hour ++ padded 2 t.minute ++ padded 2 t.second)

/-- The number that ASCII digits stand for. -/
def field? (s : List Char) : Option Nat :=
  if !s.isEmpty && s.all Char.isDigit then some (digitsValue s) else none

/-- The microseconds that the digits behind the seconds stand for. -/
def microField? (s : List Char) : Option Nat :=
  if s.length ≤ 6 then field? (s ++ List.replicate (6 - s.length) '0') else none

/-- Reads an instant as `Instant.text` writes it. -/
def Instant.ofText? (text : String) : Option Instant := do
  let (date, time) ← splitFirst ['T'] text.toList
  let (clock, micro) := (splitFirst ['.'] time).getD (time, ['0'])
  match splitAll '-' date, splitAll ':' clock with
  | [year, month, day], [hour, minute, second] =>
    some ⟨← field? year, ← field? month, ← field? day, ← field? hour, ← field? minute,
      ← field? second, ← microField? micro⟩
  | _, _ => none

end AdvisoryFeed.Time
