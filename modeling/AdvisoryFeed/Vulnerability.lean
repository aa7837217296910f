import AdvisoryFeed.Advisory
import AdvisoryFeed.Notice
import AdvisoryFeed.Package
import AdvisoryFeed.Severity

/-!
# Vulnerabilities

The records made from an advisory: one for each vulnerability that it lists, or one for the advisory
itself when it lists none; and no record when no package is affected.
-/

namespace AdvisoryFeed

open AdvisoryFeed.Text

/-- A vulnerability and the packages it affects. -/
structure Vulnerability where
  name : Option String
  link : Option String
  severity : Severity
  description : Option String
  affected : List Package
deriving DecidableEq, Repr

/-- The source of references that are links, unless another is asked for. -/
def defaultReferenceSource : String := "elsa"

/-- The name of an advisory: its title up to the first colon with a space behind it. -/
def Advisory.name (advisory : Advisory) : String :=
  String.ofList (strip (before ": ".toList advisory.title.toList))

/-- The link of an advisory: the first reference of a source. -/
def Advisory.link (advisory : Advisory) (source : Option String) : String :=
  match advisory.references.find? fun reference => some reference.source = source with
  | some reference => reference.uri
  | none => ""

/-- A character that breaks a line of a description. -/
def isBreak (c : Char) : Bool :=
  c == '\n' || c == '\r'

/-- A single space for each run of line breaks. -/
def joinLines : List Char → List Char
  | [] => []
  | c :: s =>
    if isBreak c then
      if (s.head?.map isBreak).getD false then joinLines s else ' ' :: joinLines s
    else c :: joinLines s

/-- The description of an advisory on one line. -/
def Advisory.summary (advisory : Advisory) : String :=
  String.ofList (joinLines advisory.description.toList)

/-- The severity of a label, or a notice that it names none. -/
def severityOf (label : String) : Severity × List Notice :=
  match Severity.ofLabel? label with
  | some severity => (severity, [])
  | none => (.unknown, [.unknownSeverity label])

/-- The record of a vulnerability that an advisory lists. What it does not say itself, it takes from
the record of the advisory. -/
def CveReference.record (base : Vulnerability) (cve : CveReference) : Vulnerability × List Notice :=
  let severity := if cve.impact.isEmpty then (base.severity, []) else severityOf cve.impact
  ({ base with
      name := some (String.ofList (strip cve.id.toList))
      link := some cve.href
      severity := severity.1 }, severity.2)

/-- The records of an advisory that affects the packages. -/
def Advisory.vulnerabilities (advisory : Advisory) (affected : List Package)
    (source : Option String) : List Vulnerability × List Notice :=
  if affected.isEmpty then ([], [])
  else
    let severity := severityOf advisory.severity
    let base : Vulnerability :=
      ⟨some advisory.name, some (advisory.link source), severity.1, some advisory.summary, affected⟩
    if advisory.cves.isEmpty then ([base], severity.2)
    else
      let records := advisory.cves.map (CveReference.record base)
      (records.map Prod.fst, severity.2 ++ records.flatMap Prod.snd)

end AdvisoryFeed
