/-!
# Binary fractions

A finite double is `significand * 2 ^ exponent` with a sign. `ofFloat` takes a double apart, and
`roundDiv` rounds a quotient of natural numbers to the nearest one, a half to the even neighbour.
-/

namespace AdvisoryFeed.Decimal

/-- A double taken apart. -/
inductive Binary where
  | nan
  | infinite (negative : Bool)
  | finite (negative : Bool) (significand : Nat) (exponent : Int)
deriving DecidableEq, Repr

/-- Takes a double apart by the fields of its bits. -/
def Binary.ofFloat (x : Float) : Binary :=
  let bits : Nat := x.toBits.toNat
  let negative := bits / Nat.pow 2 63 == 1
  let biased : Nat := bits / Nat.pow 2 52 % Nat.pow 2 11
  let fraction : Nat := bits % Nat.pow 2 52
  if biased = 2047 then
    if fraction = 0 then .infinite negative else .nan
  else if biased = 0 then .finite negative fraction (-1074)
  else .finite negative (Nat.pow 2 52 + fraction) ((biased : Int) - 1075)

/-- The number without its fraction; zero for what is no finite number. -/
def Binary.truncate : Binary → Int
  | .finite negative significand exponent =>
    let magnitude : Nat := match exponent with
      | .ofNat e => significand * Nat.pow 2 e
      | .negSucc e => significand / Nat.pow 2 (e + 1)
    if negative then -(magnitude : Int) else magnitude
  | _ => 0

/-- The quotient rounded to the nearest natural number, a half to the even one. -/
def roundDiv (num den : Nat) : Nat :=
  let q := num / den
  let twice := 2 * (num % den)
  if twice < den then q
  else if twice = den then q + q % 2
  else q + 1

/-- The rounded quotient is the quotient or one more. -/
theorem roundDiv_eq_or (num den : Nat) :
    roundDiv num den = num / den ∨ roundDiv num den = num / den + 1 := by
  unfold roundDiv
  simp only
  have : (num / den) % 2 = 0 ∨ (num / den) % 2 = 1 := by omega
  split
  · exact Or.inl rfl
  · split
    · omega
    · exact Or.inr rfl

/-- `significand * 2 ^ exponent * scale` rounded to the nearest natural number. -/
def scaledRound (significand : Nat) (exponent : Int) (scale : Nat) : Nat :=
  match exponent with
  | .ofNat e => significand * Nat.pow 2 e * scale
  | .negSucc e => roundDiv (significand * scale) (Nat.pow 2 (e + 1))

end AdvisoryFeed.Decimal
