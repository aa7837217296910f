import AdvisoryFeed.Decimal.Numeral
import AdvisoryFeed.Notice

/-!
# Cursors

Advisories are numbered, and a cursor is the number of the last one that was taken in. Numbers are
compared digit by digit (`compareIds`), whether they are at hand as texts or as integers
(`AdvisoryId.compare`), and a stored cursor that is no numeral gives way to a baseline
(`loadCursor`).
-/

namespace AdvisoryFeed.Ingest

open AdvisoryFeed.Text AdvisoryFeed.Decimal

/-- The digits of a number that count: without blanks around them and zeros in front. -/
def significant (id : List Char) : List Char :=
  let digits := (strip id).dropWhile (· == '0')
  if digits.isEmpty then ['0'] else digits

/-- Compares texts of one length by their first difference. -/
def compareDigits : List Char → List Char → Int
  | c :: s, d :: t => if c = d then compareDigits s t else if d < c then 1 else -1
  | _, _ => 0

/-- Compares two numbers: below zero when the left one is smaller, above when it is greater. A
number with more digits is greater, and the result then tells by how many. -/
def compareIds (left right : List Char) : Int :=
  let l := significant left
  let r := significant right
  if l.length = r.length then compareDigits l r else (l.length : Int) - (r.length : Int)

/-- The number of an advisory as it is at hand. -/
inductive AdvisoryId where
  | written (text : List Char)
  | number (n : Int)

/-- The text of a number; an integer is written. -/
def AdvisoryId.text : AdvisoryId → Except NumeralError (List Char)
  | .written text => .ok text
  | .number n => writeInt n

/-- Compares two numbers in their texts. -/
def AdvisoryId.compare (left right : AdvisoryId) : Except NumeralError Int :=
  match left.text, right.text with
  | .error error, _ => .error error
  | .ok _, .error error => .error error
  | .ok l, .ok r => .ok (compareIds l r)

/-- The number of the first advisory of the feed, less one. -/
def defaultBaseline : Int := 20070057

/-- The cursor that a stored value stands for: the baseline if there is none or if it is not written
in ASCII digits. -/
def loadCursor (value : Option String) (baseline : Int) : Except NumeralError Int × List Notice :=
  match value with
  | none => (.ok baseline, [])
  | some value =>
    let digits := strip value.toList
    if !digits.isEmpty && digits.all Char.isDigit then (readInt (String.ofList digits), [])
    else (.ok baseline, [.badCursor value])

end AdvisoryFeed.Ingest
