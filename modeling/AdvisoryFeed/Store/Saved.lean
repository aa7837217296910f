import AdvisoryFeed.Config.Block
import AdvisoryFeed.Config.Json
import AdvisoryFeed.Store.Listing

/-!
# Saved tables

Tables as a document, so that they outlive a run: the rows are lists of their columns.
`KeyRow.ofColumns?_columns` and its companions say that a row is found again in its columns.
-/

namespace AdvisoryFeed.Store

open AdvisoryFeed.Config

/-- The stored value that columns stand for. -/
def KeyRow.ofColumns? : Columns → Option KeyRow
  | [some key, value] => some ⟨key, value⟩
  | _ => none

/-- The stored vulnerability that columns stand for. -/
def VulnerabilityRow.ofColumns? : Columns → Option VulnerabilityRow
  | [some id, some updater, some name, link, severity, description, run] =>
    some ⟨id, updater, name, link, severity, description, run⟩
  | _ => none

/-- The stored package that columns stand for. -/
def AffectedRow.ofColumns? : Columns → Option AffectedRow
  | [some id, some platform, format, some feature, kind, affected, fixedIn, run] =>
    some ⟨id, platform, format, feature, kind, affected, fixedIn, run⟩
  | _ => none

/-- A stored value is found in its columns. -/
theorem KeyRow.ofColumns?_columns (row : KeyRow) : KeyRow.ofColumns? row.columns = some row := rfl

/-- A stored vulnerability is found in its columns. -/
theorem VulnerabilityRow.ofColumns?_columns (row : VulnerabilityRow) :
    VulnerabilityRow.ofColumns? row.columns = some row := rfl

/-- A stored package is found in its columns. -/
theorem AffectedRow.ofColumns?_columns (row : AffectedRow) :
    AffectedRow.ofColumns? row.columns = some row := rfl

/-- Columns as a value. -/
def columnsValue (columns : Columns) : Value :=
  .list (columns.map fun column => (column.map Value.text).getD .null)

/-- The columns that a value stands for. -/
def columnsOf : Value → Columns
  | .list items => items.map Value.text?
  | _ => []

/-- A run as a value. -/
def RunRow.toValue (row : RunRow) : Value :=
  .list [.text row.run, .text row.status, .int row.vulnerabilities, .int row.errors, row.metadata]

/-- The run that a value stands for. -/
def RunRow.ofValue? : Value → Option RunRow
  | .list [.text run, .text status, .int vulnerabilities, .int errors, metadata] =>
    some ⟨run, status, vulnerabilities.toNat, errors.toNat, metadata⟩
  | _ => none

/-- A stored run is found in its value. -/
theorem RunRow.ofValue?_toValue (row : RunRow) : RunRow.ofValue? row.toValue = some row := rfl

/-- The names of the tables. -/
def tableNames : List String :=
  ["key_values", "vulnerabilities", "vulnerability_affected", "pipeline_runs"]

/-- Tables as a value. -/
def Tables.toValue (tables : Tables) : Value :=
  .table (tableNames.zip
    [.list (tables.keyValues.map fun row => columnsValue row.columns),
      .list (tables.vulnerabilities.map fun row => columnsValue row.columns),
      .list (tables.affected.map fun row => columnsValue row.columns),
      .list (tables.runs.map RunRow.toValue)])

/-- The items of a list, each of which must stand for something. -/
def itemsOf? {α : Type} (read : Value → Option α) : Value → Option (List α)
  | .list items => items.mapM read
  | _ => none

/-- The tables that a value stands for. -/
def Tables.ofValue? (value : Value) : Option Tables := do
  let entries ← value.entries.toOption
  match tableNames.map fun name => entries.lookup name with
  | [some keys, some vulnerabilities, some affected, some runs] =>
    let keys ← itemsOf? (fun item => KeyRow.ofColumns? (columnsOf item)) keys
    let vulnerabilities ←
      itemsOf? (fun item => VulnerabilityRow.ofColumns? (columnsOf item)) vulnerabilities
    let affected ← itemsOf? (fun item => AffectedRow.ofColumns? (columnsOf item)) affected
    let runs ← itemsOf? RunRow.ofValue? runs
    some ⟨keys, vulnerabilities, affected, runs⟩
  | _ => none

/-- Writes tables. -/
def Tables.save (tables : Tables) : String :=
  tables.toValue.json

/-- Reads tables as `Tables.save` writes them; an empty text has none. -/
def Tables.ofText? (text : String) : Option Tables :=
  if text.isEmpty then some Tables.empty
  else (Value.ofText? text).bind Tables.ofValue?

end AdvisoryFeed.Store
