import AdvisoryFeed.Time.Calendar

/-!
# Machines

A client runs on a machine, which waits for it and has the clocks. A machine counts the time that it
waits in nanoseconds, in an integer of 64 bits; it refuses to wait for a time that it cannot count,
and for one that is less than none.
-/

namespace AdvisoryFeed.Http

open AdvisoryFeed.Time

/-- Why a machine does not wait. -/
inductive WaitError where
  /-- The time is no number. -/
  | notNumber
  /-- The time cannot be counted. -/
  | tooLarge
  /-- The time is less than none. -/
  | negative
  /-- The system below the machine does not take the time. -/
  | invalid
deriving DecidableEq, Repr

/-- The name of the kind of error. -/
def WaitError.name : WaitError → String
  | .tooLarge => "OverflowError"
  | .notNumber | .negative => "ValueError"
  | .invalid => "OSError"

/-- The wording of the error. -/
def WaitError.message : WaitError → String
  | .notNumber => "Invalid value NaN (not a number)"
  | .tooLarge => "timestamp too large to convert to C _PyTime_t"
  | .negative => "sleep length must be non-negative"
  | .invalid => "[Errno 22] Invalid argument"

/-- What a machine does when it is told to wait. -/
structure Machine where
  /-- Why it does not wait for some seconds, if it does not. -/
  refusal? : Float → Option WaitError
  /-- What its clock that only goes on shows after a wait of some seconds. -/
  clockAfter : Float → Float → Float
  /-- The date and time after a wait of some seconds. -/
  nowAfter : Instant → Float → Instant

/-- One more than the greatest integer of 64 bits with a sign. -/
def integerLimit : Float := 9223372036854775808.0

/-- Why a time is not waited for, if it is not. -/
def waitError? (seconds : Float) : Option WaitError :=
  let nanoseconds := seconds * 1000000000.0
  if seconds.isNaN then some .notNumber
  else if nanoseconds < -integerLimit || nanoseconds >= integerLimit then some .tooLarge
  else if seconds < 0.0 then some .negative
  else none

/-- An instant that comes some seconds later. -/
def laterBy (now : Instant) (seconds : Float) : Instant :=
  Instant.ofMicros (now.micros.toNat + (seconds * 1000000.0).toUInt64.toNat)

/-- A machine that waits for as long as it is told. -/
def Machine.system : Machine :=
  ⟨waitError?, (· + ·), laterBy⟩

end AdvisoryFeed.Http
