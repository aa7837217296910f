import AdvisoryFeed.Criteria
import AdvisoryFeed.Notice
import AdvisoryFeed.Package

/-!
# Extraction of packages

The leaves of a condition are free text. Two shapes count: that a release of the distribution is
installed, and that a package is earlier than a version. A possibility with a leaf of each shape
names an affected package (`Extractor.resolve`); the packages of all possibilities are merged by
their keys (`Extractor.extract`), of which the last one with a key counts.
-/

namespace AdvisoryFeed

open AdvisoryFeed.Text AdvisoryFeed.Decimal

/-- The mark of leaves about releases. -/
def installedMarker : String := " is installed"

/-- The mark of leaves about versions. -/
def earlierMarker : String := " is earlier than "

/-- How packages are read from conditions. -/
structure Extractor where
  /-- The name of the distribution, which stands before the release. -/
  distribution : String
  /-- The name that platforms start with. -/
  family : String
  /-- The format of versions. -/
  format : String
  /-- Refuses versions that do not follow a format. -/
  check : String → VersionCheck
  /-- The markers of leaves that do not count. -/
  ignored : List String

/-- The extractor for Oracle Linux, with the given grammars of versions. -/
def Extractor.default (formats : Formats) : Extractor :=
  ⟨"Oracle Linux", "oracle", rpmFormat, formats.check, defaultIgnored⟩

/-- The name of the distribution without blanks around it. -/
def Extractor.distributionName (extractor : Extractor) : String :=
  String.ofList (strip extractor.distribution.toList)

/-- What stands before a release in a comment. -/
def Extractor.releaseMarker (extractor : Extractor) : String :=
  extractor.distributionName ++ " "

/-- The release that a comment names. -/
def Extractor.releaseOf? (extractor : Extractor) (comment : String) : Option Int :=
  match splitFirst extractor.releaseMarker.toList comment.toList with
  | none => none
  | some (_, rest) => (readInt (String.ofList (before [' '] (strip rest)))).toOption

/-- The release that a comment names, or a notice that it names none. -/
def Extractor.release (extractor : Extractor) (comment : String) : Option Int × List Notice :=
  match extractor.releaseOf? comment with
  | some release => (some release, [])
  | none => (none, [.noRelease extractor.distributionName comment])

/-- What the leaves of a possibility have said so far. -/
structure Findings where
  release : Option Int
  feature : String
  /-- The version of the last leaf about versions, if it is accepted. -/
  version : Option String
deriving DecidableEq, Repr

/-- Before any leaf. -/
def Findings.none : Findings :=
  ⟨Option.none, "", Option.none⟩

/-- The name and version of a leaf about versions, without blanks around them. -/
def versionLeaf? (comment : String) : Option (String × String) :=
  (splitFirst earlierMarker.toList comment.toList).map fun parts =>
    (String.ofList (strip parts.1), String.ofList (strip parts.2))

/-- Takes in one more leaf. -/
def Extractor.read (extractor : Extractor) (findings : Findings) (comment : String) :
    Findings × List Notice :=
  if contains installedMarker.toList comment.toList then
    let release := extractor.release comment
    ({ findings with release := release.1 }, release.2)
  else match versionLeaf? comment with
    | Option.none => (findings, [])
    | some (feature, version) =>
      match extractor.check extractor.format version with
      | .ok _ => ({ findings with feature := feature, version := some version }, [])
      | .error error =>
        ({ findings with feature := feature, version := Option.none },
          [.badVersion version error])

/-- What all leaves of a possibility say. -/
def Extractor.readAll (extractor : Extractor) (possibility : Possibility) :
    Findings × List Notice :=
  possibility.foldl (fun acc comment =>
    let next := extractor.read acc.1 comment
    (next.1, acc.2 ++ next.2)) (Findings.none, [])

/-- The package that findings name, if they are complete. -/
def Extractor.packageOf? (extractor : Extractor) (findings : Findings) : Option Package :=
  match findings.release, findings.version with
  | some release, some version =>
    if findings.feature.isEmpty then none
    else some {
      platform := some (extractor.family ++ ":" ++ showInt release)
      feature := some findings.feature
      fixedIn := if version = maxVersion then "" else version
      format := extractor.format
      kind := binaryKind
      affected := vulnerableMark }
  | _, _ => none

/-- The package that a possibility names. -/
def Extractor.resolve (extractor : Extractor) (possibility : Possibility) :
    Option Package × List Notice :=
  let findings := extractor.readAll possibility
  (extractor.packageOf? findings.1, findings.2)

/-- The packages of a condition. -/
structure Extraction where
  packages : List Package
  /-- The number of possibilities. -/
  possibilities : Nat
  /-- The number of possibilities that name no package. -/
  discarded : Nat
deriving DecidableEq, Repr

/-- Before any possibility. -/
def Extraction.empty : Extraction :=
  ⟨[], 0, 0⟩

/-- Takes in one more possibility. -/
def Extractor.merge (extractor : Extractor) (extraction : Extraction) (possibility : Possibility) :
    Extraction × List Notice :=
  let resolved := extractor.resolve possibility
  match resolved.1 with
  | some package =>
    ({ extraction with
        packages := putBy Package.key package extraction.packages
        possibilities := extraction.possibilities + 1 }, resolved.2)
  | none =>
    ({ extraction with
        possibilities := extraction.possibilities + 1
        discarded := extraction.discarded + 1 }, resolved.2 ++ [.noPackage possibility])

/-- The packages that a condition names. -/
def Extractor.extract (extractor : Extractor) (criteria : Criteria) : Extraction × List Notice :=
  (criteria.possibilities extractor.ignored).foldl (fun acc possibility =>
    let next := extractor.merge acc.1 possibility
    (next.1, acc.2 ++ next.2)) (Extraction.empty, [])

end AdvisoryFeed
