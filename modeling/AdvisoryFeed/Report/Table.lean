import AdvisoryFeed.Decimal.Numeral

/-!
# Tables of text

Tables with a header, drawn with bars and hyphens. A column of integers stands at the right, any
other one at the left.
-/

namespace AdvisoryFeed.Report

open AdvisoryFeed.Decimal AdvisoryFeed.Text

/-- A table: the names of the columns, and the cells row by row. -/
structure TextTable where
  header : List String
  rows : List (List String)
deriving DecidableEq, Repr

/-- The least number of blanks that a column is wider than its name. -/
def headerMargin : Nat := 2

/-- A column of integers: it has some, and nothing else but empty cells. -/
def isNumeric (cells : List String) : Bool :=
  let filled := cells.filter fun cell => !cell.isEmpty
  !filled.isEmpty && filled.all fun cell => (readInt cell).isOk

/-- Fills a text up to a width, on the left side if `right`. -/
def align (right : Bool) (width : Nat) (s : List Char) : List Char :=
  let blanks := List.replicate (width - s.length) ' '
  if right then blanks ++ s else s ++ blanks

/-- A column drawn: its width, its name, and its cells. -/
structure DrawnColumn where
  width : Nat
  name : List Char
  cells : List (List Char)
deriving DecidableEq, Repr

/-- Draws a column. Integers are kept as they are written, and other cells lose the blanks at their
ends. -/
def drawColumn (name : String) (cells : List String) : DrawnColumn :=
  let right := isNumeric cells
  let texts := cells.map fun cell => if right then cell.toList else strip cell.toList
  let width := (texts.map List.length).foldl max (name.length + headerMargin)
  ⟨width, align right width name.toList, texts.map (align right width)⟩

/-- The cells of a column. -/
def TextTable.column (table : TextTable) (i : Nat) : List String :=
  table.rows.map fun row => row.getD i ""

/-- A row drawn from its cells. -/
def drawRow (cells : List (List Char)) : List Char :=
  '|' :: ' ' :: ([' ', '|', ' '].intercalate cells ++ [' ', '|'])

/-- The rule below the header. -/
def drawRule (columns : List DrawnColumn) : List Char :=
  '|' :: (['|'].intercalate (columns.map fun column => List.replicate (column.width + 2) '-') ++
    ['|'])

/-- The lines of a table. -/
def TextTable.lines (table : TextTable) : List (List Char) :=
  let columns := table.header.zipIdx.map fun entry => drawColumn entry.1 (table.column entry.2)
  let rows := (List.range table.rows.length).map fun i =>
    drawRow (columns.map fun column => column.cells.getD i [])
  drawRow (columns.map DrawnColumn.name) :: drawRule columns :: rows

/-- Draws a table. -/
def TextTable.draw (table : TextTable) : String :=
  String.ofList (['\n'].intercalate table.lines)

end AdvisoryFeed.Report
