/-!
# Lines

A text falls into lines at line feeds, carriage returns, a carriage return with a line feed behind
it, and at the other line ends of Unicode. A line end at the end of the text opens no further line.
-/

namespace AdvisoryFeed.Text

/-- A character that ends a line. -/
def isLineEnd (c : Char) : Bool :=
  (0xa ≤ c.toNat && c.toNat ≤ 0xd) || (0x1c ≤ c.toNat && c.toNat ≤ 0x1e) || c.toNat == 0x85 ||
    c.toNat == 0x2028 || c.toNat == 0x2029

/-- Opens the first line of a text with one more character. -/
def consLine (c : Char) : List (List Char) → List (List Char)
  | [] => [[c]]
  | line :: lines => (c :: line) :: lines

/-- The lines of a text, without their ends. -/
def lines : List Char → List (List Char)
  | [] => []
  | '\r' :: '\n' :: s => [] :: lines s
  | c :: s => if isLineEnd c then [] :: lines s else consLine c (lines s)

end AdvisoryFeed.Text
