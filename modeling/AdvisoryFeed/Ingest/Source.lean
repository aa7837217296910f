import AdvisoryFeed.Extraction
import AdvisoryFeed.Ingest.Listing
import AdvisoryFeed.Ingest.Update

/-!
# Sources

A source of OVAL documents has a listing at its base URL, and a document for each advisory that the
listing names. `Source.update` fetches the documents behind a cursor, in ascending order; the first
failure ends the batch and leaves nothing.
-/

namespace AdvisoryFeed.Ingest

open AdvisoryFeed.Http AdvisoryFeed.Decimal

/-- A source of documents. -/
structure Source where
  baseUrl : String
  filePrefix : String
  /-- The cursor when none is stored. -/
  baseline : Int
  /-- The source of references that are links; none matches where there is none. -/
  referenceSource : Option String
  /-- The greatest number of downloads at a time. -/
  workers : Int
  /-- The key under which the cursor is stored. -/
  cursorKey : Option String
  extractor : Extractor

/-- The URL of the document of an advisory. -/
def Source.documentUrl (source : Source) (id : Int) : String :=
  source.baseUrl ++ source.filePrefix ++ showInt id ++ ".xml"

/-- What documents give: the vulnerabilities, and how many advisories and possibilities without a
package they hold. -/
structure Yield where
  vulnerabilities : List Vulnerability
  advisories : Nat
  discarded : Nat
deriving DecidableEq, Repr

/-- What no document gives. -/
def Yield.zero : Yield :=
  ⟨[], 0, 0⟩

/-- What two documents give together. -/
def Yield.add (x y : Yield) : Yield :=
  ⟨x.vulnerabilities ++ y.vulnerabilities, x.advisories + y.advisories, x.discarded + y.discarded⟩

/-- What an advisory gives. -/
def Source.yieldOf (source : Source) (advisory : Advisory) : Yield × List Notice :=
  let extracted := source.extractor.extract advisory.criteria
  let built := advisory.vulnerabilities extracted.1.packages source.referenceSource
  (⟨built.1, 1, extracted.1.discarded⟩, extracted.2 ++ built.2)

/-- What several advisories give. -/
def Source.yieldOfAll (source : Source) (advisories : List Advisory) : Yield × List Notice :=
  advisories.foldl (fun acc advisory =>
    let next := source.yieldOf advisory
    (acc.1.add next.1, acc.2 ++ next.2)) (Yield.zero, [])

/-- What a document gives. -/
def Source.process (source : Source) (bytes : List UInt8) :
    Except OvalError Yield × List Notice :=
  match readAdvisories bytes with
  | .error error => (.error error, [error.notice])
  | .ok advisories =>
    let all := source.yieldOfAll advisories
    (.ok all.1, all.2)

/-- Downloads from a URL. -/
def download (url : String) (session : Session) : Except UpdateError Response × Session :=
  let answered := session.request url none
  match answered.1 with
  | .ok response => (.ok response, answered.2)
  | .error error =>
    (.error (if error.isTransport then .transport url error else .http error), answered.2)

/-- Downloads and processes the document of an advisory. -/
def Source.fetch (source : Source) (id : Int) (session : Session) :
    Except UpdateError Yield × Session :=
  let answered := download (source.documentUrl id) session
  match answered.1 with
  | .error error => (.error error, answered.2)
  | .ok response => ((source.process response.body).1.mapError .document, answered.2)

/-- Downloads under way: whether one of them has failed, what the others gave, and the session. -/
structure Fetching where
  cancelled : Bool
  gathered : Yield
  session : Session

/-- Takes on the document of an advisory, and gives the failure if it fails. Once a document has
failed, nothing is done. -/
def Source.work (source : Source) (fetching : Fetching) (id : Int) :
    Option UpdateError × Fetching :=
  if fetching.cancelled then (none, fetching)
  else
    let fetched := source.fetch id fetching.session
    match fetched.1 with
    | .error error => (some error, { fetching with cancelled := true, session := fetched.2 })
    | .ok yield =>
      (none, { fetching with gathered := fetching.gathered.add yield, session := fetched.2 })

/-- Takes on the documents of advisories in their order, and gives what each of them came to. -/
def Source.workAll (source : Source) : List Int → Fetching → List (Option UpdateError) × Fetching
  | [], fetching => ([], fetching)
  | id :: ids, fetching =>
    let first := source.work fetching id
    let others := source.workAll ids first.2
    (first.1 :: others.1, others.2)

/-- Downloads and processes the documents of advisories, one at a time. If any has failed, the first
failure is all that comes of them. -/
def Source.fetchAll (source : Source) (ids : List Int) (session : Session) :
    Except UpdateError Yield × Session :=
  let worked := source.workAll ids ⟨false, Yield.zero, session⟩
  match worked.1.findSome? id with
  | some error => (.error error, worked.2.session)
  | none => (.ok worked.2.gathered, worked.2.session)

/-- The flags of a batch: the cursor behind the greatest number, if there is any. -/
def Source.flags (source : Source) (ids : List Int) : List (Option String × Option String) :=
  match ids.getLast? with
  | none => []
  | some greatest => [(source.cursorKey, some (showInt greatest))]

/-- The advisories that the listing names behind the cursor. -/
def Source.select (source : Source) (cursor : Option String) (session : Session) :
    Except UpdateError (List Int) × Session :=
  match (loadCursor cursor source.baseline).1 with
  | .error error => (.error (.numeral error), session)
  | .ok first =>
    let answered := download source.baseUrl session
    match answered.1 with
    | .error error => (.error error, answered.2)
    | .ok listing =>
      ((candidates source.filePrefix first listing.text).mapError .numeral, answered.2)

/-- Fetches what is behind the cursor. -/
def Source.update (source : Source) (cursor : Option String) (session : Session) :
    Except UpdateError Update × Session :=
  let selected := source.select cursor session
  match selected.1 with
  | .error error => (.error error, selected.2)
  | .ok ids =>
    let fetched := source.fetchAll ids selected.2
    (fetched.1.map fun yield =>
      ⟨yield.vulnerabilities, source.flags ids, ids, yield.advisories, yield.discarded⟩, fetched.2)

end AdvisoryFeed.Ingest
