import AdvisoryFeed.Decimal.Real
import AdvisoryFeed.Http.Answer
import AdvisoryFeed.Http.Limiter
import AdvisoryFeed.Time.MailDate

/-!
# Retry-After

A server may say how long to wait before the next attempt: as a number of seconds, or as the date
from which on it answers again.
-/

namespace AdvisoryFeed.Http

open AdvisoryFeed.Decimal AdvisoryFeed.Time

/-- The seconds from now until a date, and not less than none. A date that is none says nothing. -/
def secondsUntilDate (now : Instant) (text : String) : Except String (Option Float) :=
  match MailDate.ofText? text with
  | none => .ok none
  | some date =>
    match date.micros with
    | .ok micros => .ok (some (greatest 0.0 (microsToSeconds (micros - now.micros))))
    | .error .invalid => .ok none
    | .error (.tooLarge message) => .error message

/-- The seconds that a response asks to wait. -/
def retryAfter (headers : Headers) (now : Instant) : Except String (Option Float) :=
  match headers.value? "Retry-After" with
  | none => .ok none
  | some value =>
    if value.isEmpty then .ok none
    else match readReal? value with
      | some seconds => .ok (some seconds)
      | none => secondsUntilDate now value

end AdvisoryFeed.Http
