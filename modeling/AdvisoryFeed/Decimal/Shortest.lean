import AdvisoryFeed.Decimal.Binary
import AdvisoryFeed.Decimal.Numeral

/-!
# Shortest numerals

The shortest decimal numeral that is read back as a double. The doubles next to it bound an interval
of numbers that are rounded to it; on the grids of one digit, two digits and so on, the two points
next to the double are tried, and the first grid with a point in the interval gives the numeral.
-/

namespace AdvisoryFeed.Decimal

/-- The numbers that are rounded to a double, as numerators over one denominator. The ends belong to
them if `closed`. -/
structure Interval where
  low : Nat
  value : Nat
  high : Nat
  denominator : Nat
  closed : Bool

/-- The numbers that are rounded to `significand * 2 ^ exponent`. -/
def Interval.around (significand : Nat) (exponent : Int) : Interval :=
  let scale := Nat.pow 2 (exponent - 2).toNat
  let below := if significand = Nat.pow 2 52 ∧ -1074 < exponent then 1 else 2
  { low := (4 * significand - below) * scale
    value := 4 * significand * scale
    high := (4 * significand + 2) * scale
    denominator := Nat.pow 2 (2 - exponent).toNat
    closed := significand % 2 == 0 }

/-- The exponent of the first digit. -/
def Interval.leading (i : Interval) : Int :=
  let estimate : Int := ((decimal i.value).length : Int) - (decimal i.denominator).length
  let power := i.denominator * Nat.pow 10 estimate.toNat
  if power ≤ i.value * Nat.pow 10 (-estimate).toNat then estimate else estimate - 1

/-- Whether `point * 10 ^ exponent` is in the interval. -/
def Interval.holds (i : Interval) (exponent : Int) (point : Nat) : Bool :=
  let p := point * i.denominator * Nat.pow 10 exponent.toNat
  let scale := Nat.pow 10 (-exponent).toNat
  if i.closed then i.low * scale ≤ p && p ≤ i.high * scale
  else i.low * scale < p && p < i.high * scale

/-- The point of the grid `10 ^ exponent` in the interval that is nearest to the value, of two
equally near ones the even one. -/
def Interval.nearest? (i : Interval) (exponent : Int) : Option Nat :=
  let unit := i.denominator * Nat.pow 10 exponent.toNat
  let scaled := i.value * Nat.pow 10 (-exponent).toNat
  let floor := scaled / unit
  let rounded := roundDiv scaled unit
  if i.holds exponent rounded then some rounded
  else if i.holds exponent floor then some floor
  else if i.holds exponent (floor + 1) then some (floor + 1)
  else none

/-- The first grid with a point in the interval: the point and the exponent of its last digit. -/
def Interval.shortest (i : Interval) : Nat × Int :=
  let grids := (List.range 17).map fun (n : Nat) => i.leading - n
  (grids.findSome? fun exponent => (i.nearest? exponent).map fun point => (point, exponent)).getD
    (0, 0)

/-- How a numeral is laid out: the exponents of the first digit from `least` on and before `beyond`
are written with a point at its place, others with an exponent of at least `exponentWidth` digits.
-/
structure NumeralLayout where
  least : Int
  beyond : Int
  exponentWidth : Nat

/-- A signed exponent. -/
def exponentText (width : Nat) (exponent : Int) : List Char :=
  let digits := decimal exponent.natAbs
  'e' :: (if exponent < 0 then '-' else '+') ::
    (List.replicate (width - digits.length) '0' ++ digits)

/-- Lays out digits of which the first one has an exponent. -/
def NumeralLayout.place (layout : NumeralLayout) (digits : List Char) (exponent : Int) :
    List Char :=
  if layout.least ≤ exponent ∧ exponent < layout.beyond then
    if exponent < 0 then '0' :: '.' :: (List.replicate (-exponent - 1).toNat '0' ++ digits)
    else
      let whole := exponent.toNat + 1
      let fraction := digits.drop whole
      digits.take whole ++ List.replicate (whole - digits.length) '0' ++
        '.' :: (if fraction.isEmpty then ['0'] else fraction)
  else
    digits.take 1 ++ (if digits.length ≤ 1 then [] else '.' :: digits.drop 1) ++
      exponentText layout.exponentWidth exponent

/-- Writes a double. -/
def NumeralLayout.write (layout : NumeralLayout) (x : Float) : List Char :=
  match Binary.ofFloat x with
  | .nan => "nan".toList
  | .infinite negative => if negative then "-inf".toList else "inf".toList
  | .finite negative significand exponent =>
    let body :=
      if significand = 0 then ['0', '.', '0']
      else
        let (point, last) := (Interval.around significand exponent).shortest
        let all := decimal point
        let digits := (all.reverse.dropWhile (· == '0')).reverse
        layout.place digits (last + all.length - 1)
    if negative then '-' :: body else body

end AdvisoryFeed.Decimal
