import AdvisoryFeed.Time.Instant

/-!
# Calendars

The instant at a number of microseconds: `Instant.ofMicros` goes the way of `Instant.micros` back.
-/

namespace AdvisoryFeed.Time

/-- The greatest of some numbers with property `p`, or zero. -/
def lastWith (p : Nat → Bool) (numbers : List Nat) : Nat :=
  (numbers.filter p).getLast?.getD 0

/-- The year of a day, given by the number of days before it. -/
def yearOfDay (day : Nat) : Nat :=
  let guess := day * 400 / 146097
  lastWith (fun year => daysBeforeYear year ≤ day) [guess, guess + 1, guess + 2]

/-- The month of a day in its year, given by the number of days before it in the year. -/
def monthOfDay (year day : Nat) : Nat :=
  lastWith (fun month => daysBeforeMonth year month ≤ day) ((List.range 12).map (· + 1))

/-- The instant at a number of microseconds since the start of the year 1. -/
def Instant.ofMicros (n : Nat) : Instant :=
  let seconds := n / 1000000
  let day := seconds / 86400
  let year := yearOfDay day
  let yearDay := day - daysBeforeYear year
  let month := monthOfDay year yearDay
  { year := year
    month := month
    day := yearDay - daysBeforeMonth year month + 1
    hour := seconds / 3600 % 24
    minute := seconds / 60 % 60
    second := seconds % 60
    micro := n % 1000000 }

/-- The start of the year 1970. -/
def epoch : Instant :=
  ⟨1970, 1, 1, 0, 0, 0, 0⟩

end AdvisoryFeed.Time
