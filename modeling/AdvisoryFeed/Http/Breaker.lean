/-!
# Circuit breaker

After some failures in a row a breaker opens and grants no attempt. Once it has been open for long
enough it grants a single one, the probe; the outcome of the probe closes the breaker or opens it
anew.
-/

namespace AdvisoryFeed.Http

/-- A circuit breaker. -/
structure Breaker where
  /-- The number of failures in a row that opens it. -/
  threshold : Int
  /-- The seconds for which it stays open. -/
  openSeconds : Float
  /-- The failures since the last success. -/
  failures : Nat
  /-- When it has opened, if it is open. -/
  openedAt : Option Float
  /-- The probe is granted and has no outcome yet. -/
  halfOpen : Bool

/-- A breaker without failures. -/
def Breaker.fresh (threshold : Int) (openSeconds : Float) : Breaker :=
  ⟨threshold, openSeconds, 0, none, false⟩

/-- The threshold unless another is asked for. -/
def defaultThreshold : Int := 5

/-- The seconds for which a breaker stays open unless others are asked for. -/
def defaultOpenSeconds : Float := 900.0

/-- Whether an attempt is granted, and the breaker after that. -/
def Breaker.attempt (breaker : Breaker) (now : Float) : Bool × Breaker :=
  match breaker.openedAt with
  | none => (true, breaker)
  | some opened =>
    if now - opened >= breaker.openSeconds && !breaker.halfOpen then
      (true, { breaker with halfOpen := true })
    else (false, breaker)

/-- An attempt has succeeded: the breaker closes. -/
def Breaker.succeed (breaker : Breaker) : Breaker :=
  { breaker with failures := 0, openedAt := none, halfOpen := false }

/-- An attempt has failed: at the threshold the breaker opens. -/
def Breaker.fail (breaker : Breaker) (now : Float) : Breaker :=
  let failures := breaker.failures + 1
  if breaker.threshold ≤ failures then
    { breaker with failures := failures, openedAt := some now, halfOpen := false }
  else { breaker with failures := failures }

end AdvisoryFeed.Http
