import AdvisoryFeed.Decimal.Numeral
import AdvisoryFeed.Store.Tables
import AdvisoryFeed.Text.Blank

/-!
# Quality checks

Checks of the stored rows. Each counts the rows that break its rule; the last one compares the share
of vulnerabilities with an unknown severity to the share that is accepted.
-/

namespace AdvisoryFeed.Quality

open AdvisoryFeed.Store AdvisoryFeed.Text AdvisoryFeed.Decimal

/-- The result of a check. -/
structure Check where
  name : String
  passed : Bool
  message : String
  /-- Counts by their names. -/
  details : List (String × Nat)
deriving DecidableEq, Repr

/-- A number as a text. -/
def showNat (n : Nat) : String :=
  String.ofList (decimal n)

/-- The check that no rows break a rule. -/
def countCheck (name label complaint praise : String) (count : Nat) : Check where
  name := name
  passed := count == 0
  message := if count = 0 then praise else showNat count ++ " " ++ complaint
  details := [(label, count)]

/-- A name with nothing but spaces. -/
def isBlankName (name : String) : Bool :=
  name.toList.all isSpaceSeparator

/-- The vulnerabilities have names. -/
def namedVulnerabilities (tables : Tables) : Check :=
  countCheck "named_vulnerabilities" "unnamed_count" "vulnerabilities without name"
    "All vulnerabilities are named"
    (tables.vulnerabilities.countP fun row => isBlankName row.name)

/-- The vulnerabilities have packages. -/
def vulnerabilitiesHavePackages (tables : Tables) : Check :=
  countCheck "vulnerabilities_have_packages" "missing_count" "vulnerabilities without packages"
    "All vulnerabilities have packages"
    (tables.vulnerabilities.countP fun row => !tables.affected.any (·.id == row.id))

/-- The packages have vulnerabilities. -/
def noOrphanPackages (tables : Tables) : Check :=
  countCheck "no_orphan_packages" "orphan_count" "orphan affected packages"
    "No orphan affected packages"
    (tables.affected.countP fun row => !tables.vulnerabilities.any (·.id == row.id))

/-- A platform: lower-case letters, a colon and digits. -/
def isPlatform (s : List Char) : Bool :=
  let family := s.takeWhile Char.isLower
  match s.dropWhile Char.isLower with
  | ':' :: release => !family.isEmpty && !release.isEmpty && release.all Char.isDigit
  | _ => false

/-- The platforms of packages are well-formed. -/
def platformFormat (tables : Tables) : Check :=
  countCheck "namespace_format" "invalid_count" "invalid namespaces" "All namespaces valid"
    (tables.affected.countP fun row => !isPlatform row.platform.toList)

/-- How the names of common vulnerabilities start. -/
def cveMarker : List Char := "CVE-".toList

/-- A year of four digits, a hyphen and at least four digits. -/
def isCveNumber (s : List Char) : Bool :=
  let year := s.takeWhile Char.isDigit
  match s.dropWhile Char.isDigit with
  | '-' :: number => year.length == 4 && 4 ≤ number.length && number.all Char.isDigit
  | _ => false

/-- A name that starts like the name of a common vulnerability but is none. -/
def isBadCve (name : List Char) : Bool :=
  cveMarker.isPrefixOf name && !isCveNumber (name.drop cveMarker.length)

/-- The names of common vulnerabilities are well-formed. -/
def cveFormat (tables : Tables) : Check :=
  countCheck "cve_format" "invalid_count" "invalid CVE formats" "All CVE IDs valid"
    (tables.vulnerabilities.countP fun row => isBadCve row.name.toList)

/-- The share of unknown severities that is accepted unless another is asked for. -/
def defaultRatio : Float := 0.05

/-- The severities are known, but for an accepted share. -/
def unknownSeverities (ratio : Float) (tables : Tables) : Check :=
  let total := tables.vulnerabilities.length
  let unknown := tables.vulnerabilities.countP fun row => row.severity == some Severity.unknown.name
  let share := if total = 0 then 0.0 else Float.ofNat unknown / Float.ofNat total
  { name := "unknown_severities"
    passed := share <= ratio
    message :=
      if unknown = 0 then "All severities mapped"
      else showNat unknown ++ " of " ++ showNat total ++ " vulnerabilities with unknown severity"
    details := [("unknown_count", unknown), ("total", total)] }

/-- All checks. -/
def allChecks (ratio : Float) (tables : Tables) : List Check :=
  [namedVulnerabilities tables, vulnerabilitiesHavePackages tables, noOrphanPackages tables,
    platformFormat tables, cveFormat tables, unknownSeverities ratio tables]

end AdvisoryFeed.Quality
