/-!
# Rate limiter

A bucket of tokens that refills at a steady rate and never holds more than the burst. Each request
takes a token; when there is none it waits for one. Without a rate or a burst nothing is limited.
-/

namespace AdvisoryFeed.Http

/-- A rate limiter. -/
structure Limiter where
  /-- Tokens per minute. -/
  rate : Option Int
  /-- The most tokens that the bucket holds. -/
  burst : Option Int
  tokens : Float
  /-- When the bucket was refilled last. -/
  refilledAt : Float

/-- A number as a double. -/
def ofInt (n : Int) : Float :=
  if n < 0 then -(Float.ofNat n.natAbs) else Float.ofNat n.natAbs

/-- What is said of a number that no double can hold. -/
def tooLargeForDouble : String := "int too large to convert to float"

/-- A limiter with a full bucket. -/
def Limiter.full (rate burst : Option Int) (now : Float) : Limiter :=
  ⟨rate, burst, ofInt (burst.getD 0), now⟩

/-- The rate and the burst, if there is a limit. -/
def Limiter.limit? (limiter : Limiter) : Option (Float × Float) :=
  match limiter.rate, limiter.burst with
  | some rate, some burst => if rate = 0 || burst = 0 then none else some (ofInt rate, ofInt burst)
  | _, _ => none

/-- The limit, if there is one, is of numbers that doubles can hold. -/
def Limiter.isFinite (limiter : Limiter) : Bool :=
  match limiter.limit? with
  | none => true
  | some (rate, burst) => rate.isFinite && burst.isFinite

/-- The smaller of two numbers; the first one when they do not compare. -/
def least (x y : Float) : Float :=
  if y < x then y else x

/-- The greater of two numbers; the first one when they do not compare. -/
def greatest (x y : Float) : Float :=
  if y > x then y else x

/-- The bucket at a later time. -/
def Limiter.refill (limiter : Limiter) (rate burst now : Float) : Limiter :=
  let elapsed := now - limiter.refilledAt
  { limiter with
    tokens := least burst (limiter.tokens + elapsed * (rate / 60.0))
    refilledAt := now }

/-- The seconds until the bucket holds a token, if it holds none yet. -/
def Limiter.shortage? (limiter : Limiter) (rate : Float) : Option Float :=
  if limiter.tokens < 1.0 then some ((1.0 - limiter.tokens) / (rate / 60.0)) else none

/-- The bucket without the token that is taken. -/
def Limiter.take (limiter : Limiter) : Limiter :=
  { limiter with tokens := limiter.tokens - 1.0 }

end AdvisoryFeed.Http
