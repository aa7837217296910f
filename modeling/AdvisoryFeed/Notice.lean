import AdvisoryFeed.Text.Quoted
import AdvisoryFeed.Version

/-!
# Notices

What is worth telling about a feed although it does not, or not alone, stop the work. Functions that
give notices return them beside their result, in the order in which they arise.
-/

namespace AdvisoryFeed

open AdvisoryFeed.Text

/-- Something worth telling. -/
inductive Notice where
  | badVersion (version : String) (error : VersionError)
  | noRelease (distribution comment : String)
  | noPackage (leaves : List String)
  | unknownSeverity (label : String)
  | badCursor (value : String)
  /-- A document is not well-formed or is refused. -/
  | undecodable (reason : String)
  /-- The root of a document has another name. -/
  | otherRoot (tag : String)
deriving DecidableEq, Repr

/-- The wording of the notice. -/
def Notice.message : Notice → String
  | .badVersion version error =>
    "could not parse package version " ++ quote version ++ ", skipping: " ++ error.message
  | .noRelease distribution comment =>
    "could not parse " ++ distribution ++ " release version from comment: " ++ quote comment
  | .noPackage leaves =>
    "could not determine a valid package from criterions: " ++ quoteAll leaves
  | .unknownSeverity label =>
    "could not determine vulnerability severity from " ++ quote label
  | .badCursor value => "ignoring malformed cursor value " ++ quote value
  | .undecodable reason => "could not decode OVAL XML: " ++ reason
  | .otherRoot tag => "unexpected OVAL root element: " ++ tag

end AdvisoryFeed
