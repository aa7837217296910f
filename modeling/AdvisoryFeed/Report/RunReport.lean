import AdvisoryFeed.Config.Json
import AdvisoryFeed.Decimal.Fixed
import AdvisoryFeed.Quality.Check
import AdvisoryFeed.Report.Metrics
import AdvisoryFeed.Report.Table
import AdvisoryFeed.Store.Listing

/-!
# Reports of runs

The metrics of a run and the results of its quality checks as a text with headings and tables.
-/

namespace AdvisoryFeed.Report

open AdvisoryFeed.Config AdvisoryFeed.Decimal AdvisoryFeed.Quality AdvisoryFeed.Store
open AdvisoryFeed.Time

/-- Durations have one place. -/
def durationFormat : FixedFormat :=
  ⟨1, true⟩

/-- The mark of what is well and what is not. -/
def statusMark (good : Bool) : String :=
  if good then "✓" else "✗"

/-- The lines of a section: its heading, its table, and an empty line. -/
def sectionLines (heading : String) (header : List String) (rows : List (List String)) :
    List String :=
  ["## " ++ heading, (TextTable.mk header rows).draw, ""]

/-- The lines of a section that is left out if its table has no rows. -/
def optionalSection (heading : String) (header : List String) (rows : List (List String)) :
    List String :=
  if rows.isEmpty then [] else sectionLines heading header rows

/-- The lines above the sections. -/
def headLines (metrics : Metrics) : List String :=
  let duration := match metrics.completed with
    | some completed =>
      ["**Duration:** " ++ durationFormat.write (metrics.started.secondsUntil completed) ++
        " seconds"]
    | none => []
  ["# Pipeline Run Report", "**Run ID:** " ++ metrics.run,
    "**Started:** " ++ metrics.started.text] ++ duration ++ [""]

/-- The rows of the summary. -/
def summaryRows (metrics : Metrics) : List (List String) :=
  [["Candidate Documents", showNat metrics.candidates],
    ["Advisories Decoded", showNat metrics.advisoriesDecoded],
    ["Vulnerabilities", showNat metrics.vulnerabilities],
    ["Affected Packages", showNat metrics.affected],
    ["Discarded Possibilities", showNat metrics.possibilitiesDiscarded],
    ["Errors", showNat metrics.errors]]

/-- The number of vulnerabilities of each severity, by the names of the severities. -/
def Metrics.sortedSeverities (metrics : Metrics) : List (String × Nat) :=
  (metrics.severities.map fun entry => (entry.1.name, entry.2)).mergeSort fun a b =>
    decide (a.1 ≤ b.1)

/-- The proposed cursors, by their keys. -/
def Metrics.sortedCursors (metrics : Metrics) : List (Option String × Option String) :=
  metrics.cursors.mergeSort fun a b => columnLe a.1 b.1

/-- The row of a quality check. -/
def checkRow (check : Check) : List String :=
  [statusMark check.passed, check.name, check.message]

/-- The row of an updater's health. -/
def healthRow (updater : String) (entries : List (String × Value)) : List String :=
  let field (key : String) (default : Value) : Value := (entries.lookup key).getD default
  let error := field "error" .null
  [statusMark (!(field "healthy" (.bool false)).isFalsy), updater,
    shown (field "vulnerabilities" (countValue 0)), if error.isFalsy then "" else shown error]
where
  /-- The text of a cell. -/
  shown : Value → String
    | .null => ""
    | value => value.label?.getD ""

/-- The lines of a report. -/
def reportLines (metrics : Metrics) (checks : List Check) : List String :=
  headLines metrics ++ sectionLines "Summary" ["Metric", "Value"] (summaryRows metrics) ++
    optionalSection "Severity Distribution" ["Severity", "Count"]
      (metrics.sortedSeverities.map fun entry => [entry.1, showNat entry.2]) ++
    optionalSection "Cursors" ["Key", "Value"]
      (metrics.sortedCursors.map fun entry => [entry.1.getD "", entry.2.getD ""]) ++
    sectionLines "Data Quality Checks" ["Status", "Check", "Details"] (checks.map checkRow) ++
    optionalSection "Updater Health" ["Status", "Updater", "Vulnerabilities", "Error"]
      (metrics.health.map fun entry => healthRow entry.1 entry.2)

/-- The report of a run. -/
def report (metrics : Metrics) (checks : List Check) : String :=
  "\n".intercalate (reportLines metrics checks)

end AdvisoryFeed.Report
