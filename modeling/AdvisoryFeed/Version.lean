import AdvisoryFeed.Decimal.Numeral
import AdvisoryFeed.Keyed
import AdvisoryFeed.Text.Letter

/-!
# Versions of packages

A version of a package follows the grammar of a format. The format `rpm` has an epoch before a
colon, which may be missing, then a version, and a release behind a hyphen, which may be missing
too. `checkRpm` refuses what does not follow that grammar; `Formats` finds the grammar of a format
by its name.
-/

namespace AdvisoryFeed

open AdvisoryFeed.Text AdvisoryFeed.Decimal

/-- The version above all versions. -/
def maxVersion : String := "#MAXV#"

/-- The version below all versions. -/
def minVersion : String := "#MINV#"

/-- The name of the format of RPM packages. -/
def rpmFormat : String := "rpm"

/-- Why a version is refused. -/
inductive VersionError where
  | blank
  | epochMalformed (version : String)
  | epochNegative (version : String)
  /-- Nothing stands between the epoch and the release. -/
  | missing (version : String)
  /-- A character that may not stand in a part of the version. -/
  | badCharacter (c : Char) (part version : String)
  | unknownFormat (name : String)
  /-- A rule of its own refuses the version. -/
  | rejected (reason : String)
deriving DecidableEq, Repr

/-- The wording of the error. -/
def VersionError.message : VersionError → String
  | .blank => "version string is empty"
  | .epochMalformed version => "epoch in " ++ quote version ++ " is not a number"
  | .epochNegative version => "epoch in " ++ quote version ++ " is negative"
  | .missing version => "no version in " ++ quote version
  | .badCharacter c part version =>
    "invalid character " ++ quote (String.singleton c) ++ " in " ++ part ++ " of " ++ quote version
  | .unknownFormat name => "unknown version format: " ++ name
  | .rejected reason => reason

/-- A character that may stand in a version or release. -/
def isVersionChar (c : Char) : Bool :=
  isDigit c || isLetter c || c == '.' || c == '-' || c == '+' || c == '~' || c == ':' || c == '_'

/-- Refuses a part of a version with a character that may not stand in it. -/
def checkPart (label version : String) (part : List Char) : Except VersionError Unit :=
  match part.find? fun c => !isVersionChar c with
  | some c => .error (.badCharacter c label version)
  | none => .ok ()

/-- Refuses a version behind its epoch. -/
def checkRest (version : String) (rest : List Char) : Except VersionError Unit :=
  let main := rest.takeWhile (· != '-')
  let release := (rest.dropWhile (· != '-')).drop 1
  if main.isEmpty then .error (.missing version)
  else do
    checkPart "version" version main
    checkPart "release" version release

/-- Refuses an epoch that is no number or is below zero. -/
def checkEpoch (version : String) (epoch : List Char) : Except VersionError Unit :=
  match readInt (String.ofList epoch) with
  | .error _ => .error (.epochMalformed version)
  | .ok n => if n < 0 then .error (.epochNegative version) else .ok ()

/-- Refuses what is no version of an RPM package. Blanks around it do not count. -/
def checkRpm (version : String) : Except VersionError Unit :=
  let value := strip version.toList
  if value.isEmpty then .error .blank
  else if value = maxVersion.toList || value = minVersion.toList then .ok ()
  else
    match splitFirst [':'] value with
    | none => checkRest version value
    | some (epoch, rest) => do
      checkEpoch version epoch
      checkRest version rest

/-- What refuses versions that do not follow a grammar. -/
abbrev VersionCheck := String → Except VersionError Unit

/-- The grammars of formats by their names. A name may stand for no grammar. -/
abbrev Formats := List (String × Option VersionCheck)

/-- The formats that are known from the start. -/
def Formats.default : Formats :=
  [(rpmFormat, some checkRpm)]

/-- Makes a format known, or takes its grammar away. -/
def Formats.register (formats : Formats) (name : String) (check : Option VersionCheck) : Formats :=
  putPair name check formats

/-- The names of the formats, in ascending order. -/
def Formats.names (formats : Formats) : List String :=
  (formats.map Prod.fst).mergeSort fun a b => decide (a ≤ b)

/-- Refuses a version that does not follow the grammar of a format. -/
def Formats.check (formats : Formats) (name version : String) : Except VersionError Unit :=
  match formats.lookup name with
  | some (some check) => check version
  | _ => .error (.unknownFormat name)

end AdvisoryFeed
