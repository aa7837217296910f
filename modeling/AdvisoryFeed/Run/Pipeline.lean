import AdvisoryFeed.Report.RunReport
import AdvisoryFeed.Run.Batch
import AdvisoryFeed.Run.Export
import AdvisoryFeed.Run.Setup

/-!
# Runs of pipelines

A run opens the store, runs the batches of the updaters, writes the vulnerabilities that are stored,
checks the tables, writes a report, and keeps a row about itself.
-/

namespace AdvisoryFeed.Run

open AdvisoryFeed.Files AdvisoryFeed.Http AdvisoryFeed.Ingest AdvisoryFeed.Quality
open AdvisoryFeed.Report AdvisoryFeed.Store AdvisoryFeed.Text

/-- Why a run fails as a whole. -/
inductive RunError where
  /-- The store cannot be opened. -/
  | noStore
  /-- The directory for what is written cannot be made. -/
  | directory (error : DirectoryError) (path : String)
deriving DecidableEq, Repr

/-- What keeps a directory from being made, in words. -/
def directoryText (error : DirectoryError) (path : String) : String :=
  match error with
  | .isFile => "[Errno 17] File exists: " ++ quote path
  | .notDirectory => "[Errno 20] Not a directory: " ++ quote path

/-- The wording of the error. -/
def RunError.message : RunError → String
  | .noStore => "Pipeline execution failed: the database cannot be opened"
  | .directory error path => "Pipeline execution failed: " ++ directoryText error path

/-- What a run finds around it and changes. -/
structure World where
  workspace : Workspace
  network : Network

/-- Opens the store at a place. A file that is not there is made. -/
def openStore (place : StorePlace) (workspace : Workspace) : Except RunError (Tables × Workspace) :=
  match place with
  | .memory => .ok (Tables.empty, workspace)
  | .nowhere => .error .noStore
  | .file path =>
    match workspace.find? path with
    | some (.database tables) => .ok (tables, workspace)
    | some (.text _) => .error .noStore
    | none =>
      if !workspace.isDirectory path && workspace.isDirectory (parentPath path) then
        .ok (Tables.empty, workspace.put path (.database Tables.empty))
      else .error .noStore

/-- Opens the store of a pipeline, unless it is open. -/
def Pipeline.connect (pipeline : Pipeline) (workspace : Workspace) :
    Except RunError (Tables × Workspace) :=
  match pipeline.store with
  | some tables => .ok (tables, workspace)
  | none => openStore pipeline.place workspace

/-- The row that a run keeps about itself. -/
def runRow (metrics : Metrics) : RunRow :=
  { run := metrics.run
    status := if metrics.errors = 0 then "success" else "failed"
    vulnerabilities := metrics.vulnerabilities
    errors := metrics.errors
    metadata := metrics.toValue }

/-- A run that has come to its end. -/
structure Finished where
  metrics : Metrics
  checks : List Check
  tables : Tables
  workspace : Workspace

/-- Ends a run after its batches: writes the vulnerabilities and the report, and keeps the row. -/
def finish (directory : String) (progress : Progress) (workspace : Workspace) :
    Except RunError Finished :=
  match workspace.obstacle? directory with
  | some error => .error (.directory error directory)
  | none =>
    let now := progress.network.now
    let run := progress.metrics.run
    let document := (exportValue now run progress.stored).json
    let checks := allChecks defaultRatio progress.tables
    let metrics := progress.metrics.complete now
    .ok
      { metrics := metrics
        checks := checks
        tables := progress.tables.putRun (runRow metrics)
        workspace :=
          (workspace.put (inDirectory directory (exportName run)) (.text document)).put
            (inDirectory directory (reportName now)) (.text (report metrics checks)) }

/-- The start of a run. -/
def Progress.start (tables : Tables) (network : Network) : Progress :=
  ⟨tables, Metrics.start (runId network.now) network.now, [], network⟩

/-- Runs a pipeline once. -/
def Pipeline.run (pipeline : Pipeline) (world : World) :
    Except RunError Metrics × Pipeline × World :=
  match pipeline.connect world.workspace with
  | .error error => (.error error, pipeline, world)
  | .ok (tables, workspace) =>
    let start := Progress.start tables world.network
    let (updaters, progress) := runBatches start.metrics.run pipeline.updaters start
    match finish pipeline.directory progress workspace with
    | .error error =>
      (.error error, { pipeline with updaters := updaters, store := some progress.tables },
        ⟨workspace, progress.network⟩)
    | .ok finished =>
      (.ok finished.metrics, { pipeline with updaters := updaters, store := some finished.tables },
        ⟨finished.workspace, progress.network⟩)

/-- Closes the store of a pipeline. A store in a file stays. -/
def Pipeline.close (pipeline : Pipeline) (workspace : Workspace) : Workspace :=
  match pipeline.place, pipeline.store with
  | .file path, some tables => workspace.put path (.database tables)
  | _, _ => workspace

end AdvisoryFeed.Run
