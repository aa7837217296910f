import AdvisoryFeed.Store.Tables

/-!
# Listings of tables

The rows of tables column by column, in ascending order: an absent value stands before all others,
and texts are compared by their characters.
-/

namespace AdvisoryFeed.Store

/-- The columns of a row. -/
abbrev Columns := List (Option String)

/-- A column does not stand behind another. -/
def columnLe : Option String → Option String → Bool
  | none, _ => true
  | some _, none => false
  | some s, some t => decide (s ≤ t)

/-- A row does not stand behind another. -/
def rowLe : Columns → Columns → Bool
  | [], _ => true
  | _ :: _, [] => false
  | x :: xs, y :: ys => if x = y then rowLe xs ys else columnLe x y

/-- Rows in ascending order. -/
def sortRows (rows : List Columns) : List Columns :=
  rows.mergeSort rowLe

/-- The columns of a stored value. -/
def KeyRow.columns (row : KeyRow) : Columns :=
  [some row.key, row.value]

/-- The columns of a stored vulnerability. -/
def VulnerabilityRow.columns (row : VulnerabilityRow) : Columns :=
  [some row.id, some row.updater, some row.name, row.link, row.severity, row.description, row.run]

/-- The columns of a stored package. -/
def AffectedRow.columns (row : AffectedRow) : Columns :=
  [some row.id, some row.platform, row.format, some row.feature, row.kind, row.affected,
    row.fixedIn, row.run]

end AdvisoryFeed.Store
