import AdvisoryFeed.Config.Value
import AdvisoryFeed.Decimal.Real

/-!
# Plain scalars

What a text without quotes stands for: null, a truth value, an integer, a double, or itself. A
double has a point, and a sign in its exponent.
-/

namespace AdvisoryFeed.Config

open AdvisoryFeed.Decimal

/-- The words for null. -/
def nullWords : List String :=
  ["", "~", "null", "Null", "NULL"]

/-- The words for true. -/
def trueWords : List String :=
  ["yes", "Yes", "YES", "true", "True", "TRUE", "on", "On", "ON"]

/-- The words for false. -/
def falseWords : List String :=
  ["no", "No", "NO", "false", "False", "FALSE", "off", "Off", "OFF"]

/-- An ASCII digit or an underscore between digits. -/
def isDigitOrGap (c : Char) : Bool :=
  c.isDigit || c == '_'

/-- The integer of a numeral without leading zeros. -/
def plainInt? (s : List Char) : Option Int :=
  let signed := splitSign s
  let isNumeral := match signed.2 with
    | ['0'] => true
    | c :: rest => '1' ≤ c && c ≤ '9' && rest.all isDigitOrGap
    | [] => false
  if isNumeral then
    let value : Int := digitsValue (signed.2.filter Char.isDigit)
    some (if signed.1 then -value else value)
  else none

/-- The exponent of a double: nothing, or the letter `e` with a sign and digits behind it. -/
def isPlainExponent : List Char → Bool
  | [] => true
  | e :: sign :: digits =>
    (e == 'e' || e == 'E') && (sign == '-' || sign == '+') && !digits.isEmpty &&
      digits.all Char.isDigit
  | _ => false

/-- A double with digits, a point and perhaps an exponent. A sign stands only before a digit. -/
def isPlainReal (s : List Char) : Bool :=
  let unsigned := (splitSign s).2
  match unsigned.dropWhile isDigitOrGap with
  | '.' :: rest =>
    let whole := unsigned.takeWhile isDigitOrGap
    let fraction := rest.takeWhile isDigitOrGap
    isPlainExponent (rest.dropWhile isDigitOrGap) &&
      match whole, fraction with
      | [], c :: _ => c.isDigit && unsigned.length == s.length
      | c :: _, _ => c.isDigit
      | [], [] => false
  | _ => false

/-- The double of a plain scalar. -/
def plainReal? (s : List Char) : Option Float :=
  if isPlainReal s then readReal? (String.ofList (s.filter (· != '_')))
  else none

/-- What a plain scalar stands for. -/
def plainValue (s : List Char) : Value :=
  let text := String.ofList s
  if nullWords.contains text then .null
  else if trueWords.contains text then .bool true
  else if falseWords.contains text then .bool false
  else match plainInt? s, plainReal? s with
    | some n, _ => .int n
    | none, some x => .real x
    | none, none => .text text

end AdvisoryFeed.Config
