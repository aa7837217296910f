import AdvisoryFeed.Ingest.Cursor
import AdvisoryFeed.Text.Lines

/-!
# Listings

A listing names the files of a feed, line by line. The first file name of each line counts:
`candidates` gives the numbers of the advisories behind a cursor, in ascending order and once each.
-/

namespace AdvisoryFeed.Ingest

open AdvisoryFeed.Text AdvisoryFeed.Decimal

/-- The end of a file name. -/
def fileSuffix : List Char := ".xml".toList

/-- The digits of a file name at the front of a text. -/
def digitsAt? (filePrefix s : List Char) : Option (List Char) :=
  if filePrefix.isPrefixOf s then
    let rest := s.drop filePrefix.length
    let digits := rest.takeWhile isDecimal
    if !digits.isEmpty && fileSuffix.isPrefixOf (rest.dropWhile isDecimal) then some digits
    else none
  else none

/-- The digits of the first file name in a text. -/
def firstDigits? (filePrefix : List Char) : List Char → Option (List Char)
  | [] => digitsAt? filePrefix []
  | c :: s => (digitsAt? filePrefix (c :: s)).orElse fun _ => firstDigits? filePrefix s

/-- Puts a number into an ascending list, unless it is there. -/
def insertId (id : Int) : List Int → List Int
  | [] => [id]
  | x :: xs => if id < x then id :: x :: xs else if id = x then x :: xs else x :: insertId id xs

/-- Takes in a line of a listing. -/
def takeLine (filePrefix : List Char) (cursor : Int) (found : List Int) (line : List Char) :
    Except NumeralError (List Int) :=
  match firstDigits? filePrefix line with
  | none => .ok found
  | some digits =>
    match (AdvisoryId.written digits).compare (.number cursor) with
    | .error error => .error error
    | .ok order =>
      if 0 < order then
        (readInt (String.ofList digits)).map fun id => insertId id found
      else .ok found

/-- The numbers behind the cursor that the lines name. -/
def candidatesOf (filePrefix : List Char) (cursor : Int) (lines : List (List Char)) :
    Except NumeralError (List Int) :=
  lines.foldlM (takeLine filePrefix cursor) []

/-- The numbers behind the cursor that a listing names. -/
def candidates (filePrefix : String) (cursor : Int) (listing : String) :
    Except NumeralError (List Int) :=
  candidatesOf filePrefix.toList cursor (lines listing.toList)

end AdvisoryFeed.Ingest
