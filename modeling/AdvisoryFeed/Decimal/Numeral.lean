import AdvisoryFeed.Text.Blank
import AdvisoryFeed.Text.Digit
import AdvisoryFeed.Text.Quoted
import AdvisoryFeed.Text.Search

/-!
# Integer numerals

`readInt` reads an integer from a text: blanks around it, one sign, and decimal digits of any
scripts, between which single underscores may stand. A numeral of more than `digitLimit` digits is
refused, and so is writing one (`writeInt`). `decimal` writes a number with ASCII digits.
-/

namespace AdvisoryFeed.Decimal

open AdvisoryFeed.Text

/-- The greatest number of digits that a numeral may have. -/
def digitLimit : Nat := 4300

/-- Why a text is no integer. -/
inductive NumeralError where
  /-- The text is not written as a numeral. -/
  | malformed (text : String)
  /-- The numeral has more digits than are allowed. -/
  | tooLong (digits : Nat)
  /-- The number has more digits than are written. -/
  | unwritable
deriving DecidableEq, Repr

/-- The wording of the error; of a long text only the start is shown. -/
def NumeralError.message : NumeralError → String
  | .malformed text =>
    "invalid literal for int() with base 10: " ++ String.ofList ((quoted text.toList).take 200)
  | .tooLong digits =>
    "Exceeds the limit (" ++ toString digitLimit ++
      " digits) for integer string conversion: value has " ++ toString digits ++
      " digits; use sys.set_int_max_str_digits() to increase the limit"
  | .unwritable =>
    "Exceeds the limit (" ++ toString digitLimit ++
      " digits) for integer string conversion; use sys.set_int_max_str_digits() to increase the limit"

/-- A blank that may stand around a numeral. -/
def isPadding (c : Char) : Bool :=
  isBlank c && !(0x1c ≤ c.toNat && c.toNat ≤ 0x1f)

/-- A character that may stand in the digits of a numeral. -/
def isNumeralChar (c : Char) : Bool :=
  isDecimal c || c == '_'

/-- Underscores stand only between two digits, and there is a digit. -/
def underscoresSeparate (run : List Char) : Bool :=
  (splitAll '_' run).all fun piece => !piece.isEmpty

/-- The number that a list of digits stands for, digits without a value passed over. -/
def digitsValue (digits : List Char) : Nat :=
  digits.foldl (fun acc c => acc * 10 + (digitValue? c).getD 0) 0

/-- The sign in front of a numeral and what follows it. -/
def splitSign : List Char → Bool × List Char
  | '-' :: s => (true, s)
  | '+' :: s => (false, s)
  | s => (false, s)

/-- Reads an integer. -/
def readInt (text : String) : Except NumeralError Int :=
  let signed := splitSign (text.toList.dropWhile isPadding)
  let run := signed.2.takeWhile isNumeralChar
  let rest := signed.2.dropWhile isNumeralChar
  let digits := run.filter (· != '_')
  if !underscoresSeparate run then .error (.malformed text)
  else if digitLimit < digits.length then .error (.tooLong digits.length)
  else if !rest.all isPadding then .error (.malformed text)
  else
    let value : Int := digitsValue digits
    .ok (if signed.1 then -value else value)

/-- A natural number in ASCII digits. -/
def decimal (n : Nat) : List Char :=
  Nat.toDigits 10 n

/-- An integer in ASCII digits, with a sign when it is negative. -/
def decimalInt : Int → List Char
  | .ofNat n => decimal n
  | .negSucc n => '-' :: decimal (n + 1)

/-- Writes an integer that has no more digits than a numeral may have. -/
def writeInt (n : Int) : Except NumeralError (List Char) :=
  if digitLimit < (decimal n.natAbs).length then .error .unwritable else .ok (decimalInt n)

/-- An integer in ASCII digits as a string. -/
def showInt (n : Int) : String :=
  String.ofList (decimalInt n)

end AdvisoryFeed.Decimal
