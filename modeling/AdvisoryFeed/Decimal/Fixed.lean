import AdvisoryFeed.Decimal.Binary
import AdvisoryFeed.Decimal.Numeral

/-!
# Fixed places

Doubles written with a fixed number of places: the exact value is rounded once, a half to the even
neighbour.
-/

namespace AdvisoryFeed.Decimal

/-- How doubles are written: the number of places, and whether the sign of a zero is shown. -/
structure FixedFormat where
  places : Nat
  signOfZero : Bool

/-- The digits of a number of units of the last place, with a point before the places. -/
def placePoint (places units : Nat) : List Char :=
  let fraction := decimal (units % Nat.pow 10 places)
  decimal (units / Nat.pow 10 places) ++
    if places = 0 then [] else '.' :: List.replicate (places - fraction.length) '0' ++ fraction

/-- Writes a double. -/
def FixedFormat.write (format : FixedFormat) (x : Float) : String :=
  match Binary.ofFloat x with
  | .nan => "nan"
  | .infinite negative => if negative then "-inf" else "inf"
  | .finite negative significand exponent =>
    let units := scaledRound significand exponent (Nat.pow 10 format.places)
    let body := placePoint format.places units
    if negative && (format.signOfZero || units != 0) then String.ofList ('-' :: body)
    else String.ofList body

end AdvisoryFeed.Decimal
