import AdvisoryFeed.Text.Blank

/-!
# Severities

The severities of vulnerabilities and the labels by which vendors name them.
-/

namespace AdvisoryFeed

open AdvisoryFeed.Text

/-- How severe a vulnerability is. -/
inductive Severity where
  | unknown
  | negligible
  | low
  | medium
  | high
  | critical
deriving DecidableEq, Repr

/-- All severities. -/
def Severity.all : List Severity :=
  [.unknown, .negligible, .low, .medium, .high, .critical]

/-- The name of a severity. -/
def Severity.name : Severity → String
  | .unknown => "Unknown"
  | .negligible => "Negligible"
  | .low => "Low"
  | .medium => "Medium"
  | .high => "High"
  | .critical => "Critical"

/-- The severity with a name. -/
def Severity.ofName? (name : String) : Option Severity :=
  Severity.all.find? fun severity => severity.name = name

/-- The labels of vendors, in lower case. -/
def vendorLabels : List (String × Severity) :=
  [("n/a", .negligible), ("low", .low), ("moderate", .medium), ("important", .high),
    ("high", .high), ("critical", .critical)]

/-- The severity that a label names; blanks around it and its case do not count. -/
def Severity.ofLabel? (label : String) : Option Severity :=
  vendorLabels.lookup (String.ofList ((strip label.toList).map Char.toLower))

/-- A severity is found by its name. -/
theorem Severity.ofName?_name (severity : Severity) :
    Severity.ofName? severity.name = some severity := by
  cases severity <;> decide

end AdvisoryFeed
