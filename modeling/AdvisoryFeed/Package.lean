/-!
# Affected packages

A package of a platform, with the version in which its vendor has mended it.
-/

namespace AdvisoryFeed

/-- A package that a vulnerability affects. -/
structure Package where
  /-- The release of the distribution, such as `oracle:7`. -/
  platform : Option String
  feature : Option String
  /-- The version from which on the package is not affected; empty when there is none. -/
  fixedIn : String
  /-- The format of the version. -/
  format : String
  /-- What kind of package it is. -/
  kind : String
  /-- The mark of the affected versions. -/
  affected : String
deriving DecidableEq, Repr

/-- Packages of this feed are binary packages. -/
def binaryKind : String := "binary"

/-- The mark of affected versions. -/
def vulnerableMark : String := "vulnerable"

/-- What tells the packages of an advisory apart. -/
def Package.key (package : Package) : Option String × Option String :=
  (package.platform, package.feature)

end AdvisoryFeed
