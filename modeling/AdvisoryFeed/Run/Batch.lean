import AdvisoryFeed.Ingest.Updater
import AdvisoryFeed.Report.Metrics
import AdvisoryFeed.Store.Database

/-!
# Batches

In a run every updater gives one batch. What it gives is taken into the tables, and only then
counted and kept for the export. A failure is counted, and the other updaters go on.
-/

namespace AdvisoryFeed.Run

open AdvisoryFeed.Config AdvisoryFeed.Http AdvisoryFeed.Ingest AdvisoryFeed.Report
open AdvisoryFeed.Store

/-- Why a batch is not stored. -/
inductive BatchError where
  | update (error : UpdateError)
  | store (error : StoreError)
deriving DecidableEq, Repr

/-- The wording of the error. The kind is shown unless updaters are expected to fail with it. -/
def BatchError.message : BatchError → String
  | .update error =>
    if error.isExpected then error.message else error.name ++ ": " ++ error.message
  | .store error => error.name ++ ": " ++ error.message

/-- What a run has done so far. -/
structure Progress where
  tables : Tables
  metrics : Metrics
  /-- The vulnerabilities that are stored. -/
  stored : List Vulnerability
  network : Network

/-- What an updater gives, and the tables with it. -/
def takeIn (run : String) (updater : Updater) (tables : Tables) (network : Network) :
    Except BatchError (Update × Tables) × Updater × Network :=
  let (result, updater', network') := updater.run (tables.getKey updater.cursorKey) network
  let taken : Except BatchError (Update × Tables) :=
    match result with
    | .error error => .error (.update error)
    | .ok update =>
      match commit (some updater.id) update (some run) tables with
      | .ok tables => .ok (update, tables)
      | .error error => .error (.store error)
  (taken, updater', network')

/-- The health of an updater for the metrics, after a failure with a wording or none. -/
def healthEntries (health : Health) (failure : Option String) : List (String × Value) :=
  [("healthy", .bool (health.isHealthy && failure.isNone)),
    ("vulnerabilities", countValue health.fetched),
    ("error", textValue (health.lastError.or failure))]

/-- The wording of a failure in the metrics. -/
def failureText (updater : String) (error : BatchError) : String :=
  "Update failed for " ++ updater ++ ": " ++ error.message

/-- Runs the batch of an updater. -/
def Progress.step (run : String) (progress : Progress) (updater : Updater) : Updater × Progress :=
  let (taken, updater', network) := takeIn run updater progress.tables progress.network
  match taken with
  | .ok (update, tables) =>
    let metrics := progress.metrics.recordUpdate update
    (updater',
      { tables := tables
        metrics := metrics.setHealth updater.id (healthEntries updater'.health none)
        stored := progress.stored ++ update.vulnerabilities
        network := network })
  | .error error =>
    let text := failureText updater.id error
    let metrics := progress.metrics.recordError text [("updater", .text updater.id)]
    (updater',
      { progress with
        metrics := metrics.setHealth updater.id (healthEntries updater'.health (some text))
        network := network })

/-- Runs the batches of updaters one after the other. -/
def runBatches (run : String) : List Updater → Progress → List Updater × Progress
  | [], progress => ([], progress)
  | updater :: updaters, progress =>
    let (updater, progress) := progress.step run updater
    let (updaters, progress) := runBatches run updaters progress
    (updater :: updaters, progress)

end AdvisoryFeed.Run
