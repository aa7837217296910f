import AdvisoryFeed.Http.Client
import AdvisoryFeed.Oval
import AdvisoryFeed.Vulnerability

/-!
# Updates

What an updater gives for one batch, and why it may fail to give it.
-/

namespace AdvisoryFeed.Ingest

open AdvisoryFeed.Http AdvisoryFeed.Decimal

/-- The result of a batch. -/
structure Update where
  vulnerabilities : List Vulnerability
  /-- The values to be stored together with the vulnerabilities, by their keys. -/
  flags : List (Option String × Option String)
  /-- The numbers of the advisories that were selected. -/
  candidates : List Int
  advisoriesDecoded : Nat
  possibilitiesDiscarded : Nat
deriving DecidableEq, Repr

/-- A batch without anything. -/
def Update.empty : Update :=
  ⟨[], [], [], 0, 0⟩

/-- Why a batch fails. -/
inductive UpdateError where
  /-- A listing or a document could not be downloaded. -/
  | transport (url : String) (cause : HttpError)
  /-- A document gives no advisories. -/
  | document (error : OvalError)
  /-- A number is written with too many digits. -/
  | numeral (error : NumeralError)
  /-- Something went wrong that is no outcome of a request. -/
  | http (error : HttpError)
  /-- An updater of another kind has failed. -/
  | other (name message : String)
deriving DecidableEq, Repr

/-- The name of the kind of error. -/
def UpdateError.name : UpdateError → String
  | .transport _ _ => "TransportError"
  | .document _ => "DocumentParseError"
  | .numeral _ => "ValueError"
  | .http error => error.name
  | .other name _ => name

/-- The wording of the error. -/
def UpdateError.message : UpdateError → String
  | .transport url cause => "could not download " ++ url ++ ": " ++ cause.message
  | .document error => error.message
  | .numeral error => error.message
  | .http error => error.message
  | .other _ message => message

/-- The names of the errors that updaters are expected to fail with. -/
def expectedErrors : List String :=
  ["UpdaterError", "TransportError", "DocumentParseError"]

/-- The error is one that updaters are expected to fail with. -/
def UpdateError.isExpected (error : UpdateError) : Bool :=
  expectedErrors.contains error.name

end AdvisoryFeed.Ingest
