import AdvisoryFeed.Text.Digit
import AdvisoryFeed.Time.Instant

/-!
# Dates of mail headers

Reads the dates that headers of mail and of web servers carry, with a day of the week or without, in
the present form and in two older ones. The fields are numerals of any size; `MailDate.instant?`
makes an instant of them.
-/

namespace AdvisoryFeed.Time

open AdvisoryFeed.Text AdvisoryFeed.Decimal

/-- The fields of a date. -/
structure MailDate where
  year : Int
  month : Nat
  day : Int
  hour : Int
  minute : Int
  second : Int
  /-- The seconds by which the clock of the date is ahead, if it says so. -/
  offset : Option Int
deriving DecidableEq, Repr

/-- The names of the days. -/
def dayNames : List String :=
  ["mon", "tue", "wed", "thu", "fri", "sat", "sun"]

/-- The short names of the months, then the long ones. -/
def monthNames : List String :=
  ["jan", "feb", "mar", "apr", "may", "jun", "jul", "aug", "sep", "oct", "nov", "dec",
    "january", "february", "march", "april", "may", "june", "july", "august", "september",
    "october", "november", "december"]

/-- The clocks that have a name, in hours and minutes. -/
def zoneNames : List (String × Int) :=
  [("UT", 0), ("UTC", 0), ("GMT", 0), ("Z", 0), ("AST", -400), ("ADT", -300), ("EST", -500),
    ("EDT", -400), ("CST", -600), ("CDT", -500), ("MST", -700), ("MDT", -600), ("PST", -800),
    ("PDT", -700)]

/-- A word in lower case. -/
def lower (word : List Char) : String :=
  String.ofList (word.map Char.toLower)

/-- Removes a comma at the end of a word. -/
def dropComma (word : List Char) : List Char :=
  if word.getLast? = some ',' then word.dropLast else word

/-- The words of a date without the day of the week. -/
def dropDay : List (List Char) → List (List Char)
  | [] => []
  | first :: rest =>
    if first.getLast? = some ',' || dayNames.contains (lower first) then rest
    else afterLast ',' first :: rest

/-- The words of a date of which the first one holds day, month and year. -/
def splitDate : List (List Char) → List (List Char)
  | [date, time, zone] =>
    match splitAll '-' date with
    | [day, month, year] => [day, month, year, time, zone]
    | _ => [date, time, zone]
  | words => words

/-- Cuts a word before a character that stands in it but not at its front. -/
def cutBefore? (mark : Char) (word : List Char) : Option (Option (List Char × List Char)) :=
  match word.takeWhile (· != mark), word.dropWhile (· != mark) with
  | _, [] => none
  | [], _ :: _ => some none
  | head, tail => some (some (head, tail))

/-- The words of a date with the zone, perhaps empty, as the fifth one. -/
def splitZone : List (List Char) → List (List Char)
  | [day, month, year, time] =>
    match (cutBefore? '+' time).orElse fun _ => cutBefore? '-' time with
    | some (some (clock, zone)) => [day, month, year, clock, zone]
    | _ => [day, month, year, time, []]
  | words => words

/-- The hour, minute and second of a clock. -/
def clockFields? (clock : List Char) : Option (List Char × List Char × List Char) :=
  match splitAll ':' clock with
  | [hour, minute] => some (hour, minute, ['0'])
  | [hour, minute, second] => some (hour, minute, second)
  | [only] =>
    match splitAll '.' only with
    | [hour, minute] => some (hour, minute, ['0'])
    | [hour, minute, second] => some (hour, minute, second)
    | _ => none
  | _ => none

/-- A number of hundreds of hours and of minutes in seconds, towards the sign. -/
def zoneSeconds (n : Int) : Int :=
  let magnitude : Int := n.natAbs / 100 * 3600 + n.natAbs % 100 * 60
  if n < 0 then -magnitude else magnitude

/-- The seconds by which the clock of a zone is ahead. A zone of nothing with a minus sign does not
say so. -/
def zoneOffset? (zone : List Char) : Option Int :=
  match zoneNames.lookup (String.ofList (zone.map Char.toUpper)) with
  | some n => some (zoneSeconds n)
  | none =>
    match readInt (String.ofList zone) with
    | .ok n => if n = 0 && zone.head? = some '-' then none else some (zoneSeconds n)
    | .error _ => none

/-- A year of two digits is one of the years 1969 to 2068. -/
def fullYear (year : Int) : Int :=
  if year < 100 then (if 68 < year then year + 1900 else year + 2000) else year

/-- The place of a month, from one. -/
def monthOf? (word : List Char) : Option Nat :=
  (monthNames.findIdx? (· == lower word)).map fun n => n % 12 + 1

/-- A number of a date. -/
def numeral? (word : List Char) : Option Int :=
  (readInt (String.ofList word)).toOption

/-- Reads a date from its five words. -/
def MailDate.ofWords? (day month year time zone : List Char) : Option MailDate := do
  if day.isEmpty || month.isEmpty || year.isEmpty then none
  else
    let (day, month) := if (monthOf? month).isSome then (day, month) else (month, day)
    let month ← monthOf? month
    let day := dropComma day
    let (year, time) :=
      if year.contains ':' && year.head? != some ':' then (time, year) else (year, time)
    let year := dropComma year
    let first ← year.head?
    let (year, zone) := if isDigit first then (year, zone) else (zone, year)
    let (hour, minute, second) ← clockFields? (dropComma time)
    some ⟨fullYear (← numeral? year), month, ← numeral? day, ← numeral? hour, ← numeral? minute,
      ← numeral? second, zoneOffset? zone⟩

/-- Reads a date. -/
def MailDate.ofText? (text : String) : Option MailDate :=
  match (splitZone (splitDate (dropDay (words text.toList)))).take 5 with
  | [day, month, year, time, zone] => MailDate.ofWords? day month year time zone
  | _ => none

/-- Why a date is none although its fields are numerals. -/
inductive DateError where
  /-- A field is no part of a date. -/
  | invalid
  /-- A field is beyond the numbers that dates are made from. -/
  | tooLarge (message : String)
deriving DecidableEq, Repr

/-- The number of values of a field with its sign apart, in 32 bits. -/
def shortBound : Int := 0x80000000

/-- The number of values of a field with its sign apart, in 64 bits. -/
def longBound : Int := 0x8000000000000000

/-- Refuses a field that does not fit into 32 bits. -/
def checkField (n : Int) : Except DateError Unit :=
  if n < -longBound || longBound ≤ n then
    .error (.tooLarge "Python int too large to convert to C long")
  else if n < -shortBound then .error (.tooLarge "signed integer is less than minimum")
  else if shortBound ≤ n then .error (.tooLarge "signed integer is greater than maximum")
  else .ok ()

/-- Refuses an offset of a day or more. -/
def checkOffset (offset : Int) : Except DateError Unit :=
  let days := offset.fdiv 86400
  if days < -shortBound || shortBound ≤ days then
    .error (.tooLarge "Python int too large to convert to C int")
  else if 999999999 < days.natAbs then
    .error (.tooLarge ("days=" ++ showInt days ++ "; must have magnitude <= 999999999"))
  else if offset.natAbs < 86400 then .ok ()
  else .error .invalid

/-- The microseconds since the start of the year 1, by a clock that is not ahead. -/
def MailDate.micros (date : MailDate) : Except DateError Int := do
  checkOffset (date.offset.getD 0)
  checkField date.year
  checkField date.day
  checkField date.hour
  checkField date.minute
  checkField date.second
  if date.year < 0 || date.day < 0 || date.hour < 0 || date.minute < 0 || date.second < 0 then
    .error .invalid
  else
    let t : Instant := ⟨date.year.toNat, date.month, date.day.toNat, date.hour.toNat,
      date.minute.toNat, date.second.toNat, 0⟩
    if t.isValid then .ok (t.micros - date.offset.getD 0 * 1000000) else .error .invalid

end AdvisoryFeed.Time
