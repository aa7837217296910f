import AdvisoryFeed.Report.RunReport

/-!
# Summaries

What the command prints after a run.
-/

namespace AdvisoryFeed.Command

open AdvisoryFeed.Quality AdvisoryFeed.Report

/-- The line above and below a heading. -/
def rule : String :=
  String.ofList (List.replicate 60 '=')

/-- A severity on the left and its number on the right. -/
def severityLine (name : String) (count : Nat) : String :=
  String.ofList (' ' :: ' ' :: (align false 20 name.toList ++ ' ' ::
    align true 4 (showNat count).toList))

/-- The lines of a summary. -/
def summaryLines (metrics : Metrics) : List String :=
  ["", rule, "Pipeline Summary", rule, "Run ID: " ++ metrics.run,
    "Candidate documents: " ++ showNat metrics.candidates,
    "Vulnerabilities: " ++ showNat metrics.vulnerabilities, "Errors: " ++ showNat metrics.errors,
    "", "Severity Distribution:"] ++
    (metrics.sortedSeverities.map fun entry => severityLine entry.1 entry.2) ++ [rule]

/-- The summary of a run. -/
def summary (metrics : Metrics) : String :=
  String.join ((summaryLines metrics).map fun line => line ++ "\n")

end AdvisoryFeed.Command
