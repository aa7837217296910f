import AdvisoryFeed.Report.Metrics

/-!
# Exports

The vulnerabilities that a run has stored, as a document.
-/

namespace AdvisoryFeed.Run

open AdvisoryFeed.Config AdvisoryFeed.Report AdvisoryFeed.Time

/-- A package as a value. -/
def packageValue (package : Package) : Value :=
  .table [("namespace", textValue package.platform), ("version_format", .text package.format),
    ("feature_name", textValue package.feature), ("feature_type", .text package.kind),
    ("affected_version", .text package.affected), ("fixed_in_version", .text package.fixedIn)]

/-- A vulnerability as a value. -/
def vulnerabilityValue (v : Vulnerability) : Value :=
  .table [("name", textValue v.name), ("link", textValue v.link),
    ("severity", .text v.severity.name), ("description", textValue v.description),
    ("affected", .list (v.affected.map packageValue))]

/-- The document of a run's vulnerabilities, written at a time. -/
def exportValue (now : Instant) (run : String) (vulnerabilities : List Vulnerability) : Value :=
  .table [("generated_at", .text (now.text ++ "Z")), ("run_id", .text run),
    ("vulnerability_count", countValue vulnerabilities.length),
    ("vulnerabilities", .list (vulnerabilities.map vulnerabilityValue))]

/-- The file name of a run's vulnerabilities. -/
def exportName (run : String) : String :=
  "vulnerabilities-" ++ run ++ ".json"

/-- The file name of a report that is written at a time. -/
def reportName (now : Instant) : String :=
  "run-report-" ++ now.stamp '-' ++ ".md"

end AdvisoryFeed.Run
