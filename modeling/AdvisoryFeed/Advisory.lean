import AdvisoryFeed.Criteria

/-!
# Advisories

What a vendor publishes about vulnerabilities: texts, a condition that tells which packages are
affected, and references.
-/

namespace AdvisoryFeed

/-- A reference to a document. -/
structure Reference where
  source : String
  uri : String
  id : String
deriving DecidableEq, Repr

/-- A vulnerability that an advisory lists. -/
structure CveReference where
  id : String
  impact : String
  href : String
deriving DecidableEq, Repr

/-- A published advisory. -/
structure Advisory where
  title : String
  description : String
  severity : String
  criteria : Criteria
  references : List Reference
  cves : List CveReference

end AdvisoryFeed
