import AdvisoryFeed.Decimal.Numeral

/-!
# Real numerals

`readReal?` reads a double from a text: blanks around it, one sign, and decimal digits with a point
and an exponent, between which single underscores may stand; or a word for infinity or for no
number. The nearest double is the result.
-/

namespace AdvisoryFeed.Decimal

open AdvisoryFeed.Text

/-- The ASCII digit with the value of a decimal digit, and any other character as it is. -/
def asciiDigit (c : Char) : Char :=
  match digitValue? c with
  | some d => Nat.digitChar d
  | none => c

/-- Removes the underscores, of which each must stand between two digits. -/
def dropUnderscores : List Char → Option (List Char)
  | [] => some []
  | '_' :: _ => none
  | c :: '_' :: d :: s =>
    if c.isDigit && d.isDigit then (dropUnderscores (d :: s)).map (c :: ·) else none
  | c :: s => (dropUnderscores s).map (c :: ·)

/-- `mantissa * 10 ^ exponent` as the nearest double. A number beyond all doubles is infinite, and
one too small for any is zero. -/
def scientific (mantissa : Nat) (exponent : Int) : Float :=
  let digits : Int := (decimal mantissa).length
  if mantissa = 0 then 0.0
  else if 320 < digits + exponent then 1.0 / 0.0
  else if digits + exponent < -400 then 0.0
  else match exponent with
    | .ofNat e => Float.ofScientific mantissa false e
    | .negSucc e => Float.ofScientific mantissa true (e + 1)

/-- The exponent of a numeral: nothing, or the letter `e` with a signed number behind it. -/
def exponent? : List Char → Option Int
  | [] => some 0
  | e :: s =>
    let signed := splitSign s
    if (e == 'e' || e == 'E') && !signed.2.isEmpty && signed.2.all Char.isDigit then
      let value : Int := digitsValue signed.2
      some (if signed.1 then -value else value)
    else none

/-- The number of an unsigned numeral. -/
def magnitude? (s : List Char) : Option Float :=
  let whole := s.takeWhile Char.isDigit
  let rest := s.dropWhile Char.isDigit
  let fraction := match rest with
    | '.' :: t => t.takeWhile Char.isDigit
    | _ => []
  let tail := match rest with
    | '.' :: t => t.dropWhile Char.isDigit
    | _ => rest
  if whole.isEmpty && fraction.isEmpty then none
  else (exponent? tail).map fun e =>
    scientific (digitsValue (whole ++ fraction)) (e - fraction.length)

/-- The words for infinity and for no number. -/
def word? (s : List Char) : Option Float :=
  let lower := s.map Char.toLower
  if lower = "inf".toList || lower = "infinity".toList then some (1.0 / 0.0)
  else if lower = "nan".toList then some (0.0 / 0.0)
  else none

/-- Reads a double. -/
def readReal? (text : String) : Option Float :=
  match dropUnderscores ((trimBy isPadding text.toList).map asciiDigit) with
  | none => none
  | some s =>
    let signed := splitSign s
    ((word? signed.2).orElse fun _ => magnitude? signed.2).map fun x => if signed.1 then -x else x

end AdvisoryFeed.Decimal
