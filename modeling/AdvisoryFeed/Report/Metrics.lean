import AdvisoryFeed.Config.Value
import AdvisoryFeed.Ingest.Update
import AdvisoryFeed.Keyed

/-!
# Metrics of a run

What a run counts while it goes on: `Metrics.recordUpdate` adds what an updater gave, and
`Metrics.recordError` an error.
-/

namespace AdvisoryFeed.Report

open AdvisoryFeed.Config AdvisoryFeed.Ingest AdvisoryFeed.Time

/-- An error of a run, with what is known about it. -/
structure Issue where
  message : String
  context : List (String × Value)

/-- The metrics of a run. -/
structure Metrics where
  run : String
  started : Instant
  completed : Option Instant
  candidates : Nat
  advisoriesDecoded : Nat
  vulnerabilities : Nat
  affected : Nat
  possibilitiesDiscarded : Nat
  errors : Nat
  /-- The number of vulnerabilities of each severity. -/
  severities : List (Severity × Nat)
  /-- The proposed cursors by their keys. -/
  cursors : List (Option String × Option String)
  /-- What is known about the health of each updater. -/
  health : List (String × List (String × Value))
  issues : List Issue

/-- The metrics at the start of a run. -/
def Metrics.start (run : String) (started : Instant) : Metrics :=
  ⟨run, started, none, 0, 0, 0, 0, 0, 0, [], [], [], []⟩

/-- Counts one more of a severity. -/
def countSeverity (counts : List (Severity × Nat)) (severity : Severity) : List (Severity × Nat) :=
  putPair severity ((counts.lookup severity).getD 0 + 1) counts

/-- Adds what an updater gave. -/
def Metrics.recordUpdate (metrics : Metrics) (update : Update) : Metrics :=
  { metrics with
    candidates := metrics.candidates + update.candidates.length
    advisoriesDecoded := metrics.advisoriesDecoded + update.advisoriesDecoded
    possibilitiesDiscarded := metrics.possibilitiesDiscarded + update.possibilitiesDiscarded
    vulnerabilities := metrics.vulnerabilities + update.vulnerabilities.length
    affected := update.vulnerabilities.foldl (fun n v => n + v.affected.length) metrics.affected
    severities := (update.vulnerabilities.map Vulnerability.severity).foldl countSeverity
      metrics.severities
    cursors := update.flags.foldl (fun cursors flag => putPair flag.1 flag.2 cursors)
      metrics.cursors }

/-- Adds an error. -/
def Metrics.recordError (metrics : Metrics) (message : String) (context : List (String × Value)) :
    Metrics :=
  { metrics with
    errors := metrics.errors + 1
    issues := metrics.issues ++ [⟨message, context⟩] }

/-- Sets what is known about the health of an updater. -/
def Metrics.setHealth (metrics : Metrics) (updater : String) (entries : List (String × Value)) :
    Metrics :=
  { metrics with health := putPair updater entries metrics.health }

/-- Ends a run. -/
def Metrics.complete (metrics : Metrics) (now : Instant) : Metrics :=
  { metrics with completed := some now }

/-- A number as a value. -/
def countValue (n : Nat) : Value :=
  .int n

/-- A text or null as a value. -/
def textValue (text : Option String) : Value :=
  (text.map Value.text).getD .null

/-- The key of an entry for a key that may be null. -/
def keyName (key : Option String) : String :=
  key.getD "null"

/-- An issue as a value. -/
def Issue.toValue (issue : Issue) : Value :=
  .table [("type", .text "error"), ("message", .text issue.message),
    ("context", .table issue.context)]

/-- The metrics as a value. -/
def Metrics.toValue (metrics : Metrics) : Value :=
  .table [("run_id", .text metrics.run), ("started_at", .text metrics.started.text),
    ("completed_at", textValue (metrics.completed.map Instant.text)),
    ("candidates", countValue metrics.candidates),
    ("advisories_decoded", countValue metrics.advisoriesDecoded),
    ("vulnerabilities_total", countValue metrics.vulnerabilities),
    ("affected_packages", countValue metrics.affected),
    ("possibilities_discarded", countValue metrics.possibilitiesDiscarded),
    ("errors", countValue metrics.errors),
    ("severity_counts",
      .table (metrics.severities.map fun entry => (entry.1.name, countValue entry.2))),
    ("cursors",
      .table (metrics.cursors.map fun entry => (keyName entry.1, textValue entry.2))),
    ("updater_health", .table (metrics.health.map fun entry => (entry.1, .table entry.2))),
    ("issues", .list (metrics.issues.map Issue.toValue))]

end AdvisoryFeed.Report
