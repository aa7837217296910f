import AdvisoryFeed.Command.Invocation
import AdvisoryFeed.Http.Recorded
import AdvisoryFeed.Store.Saved
import AdvisoryFeed.Time.Calendar
import Std.Time.DateTime.Timestamp

/-!
# The command

Runs the pipeline of a configuration file once. Requests are answered from a recorded feed, a
document of which the path is the value of a variable of the environment.
-/

namespace AdvisoryFeed

open AdvisoryFeed.Command AdvisoryFeed.Config AdvisoryFeed.Files AdvisoryFeed.Http
open AdvisoryFeed.Run AdvisoryFeed.Store AdvisoryFeed.Time

/-- The variable with the path of the recorded feed. -/
def feedVariable : String := "ADVISORY_FEED"

/-- How the command is used. -/
def usage : String :=
  "usage: advisory-feed [-h] [--config CONFIG] [--log-level \x7bDEBUG,INFO,WARNING,ERROR\x7d]"

/-- The text of a file, if it can be read. -/
def readText? (path : String) : IO (Option String) := do
  try
    let text ← IO.FS.readFile path
    return some text
  catch _ => return none

/-- The variables of the environment that a path names. -/
def readEnvironment (path : String) : IO (List (String × String)) := do
  let found ← (variablesIn path.toList).mapM fun name => do
    return (← IO.getEnv name).map fun value => (name, value)
  return found.filterMap id

/-- The recorded feed. -/
def readRecordedFeed : IO Feed := do
  match ← IO.getEnv feedVariable with
  | none => return []
  | some path => return (((← readText? path).bind Value.ofText?).map Feed.ofValue).getD []

/-- The date and time now. -/
def readNow : IO Instant := do
  let now ← Std.Time.Timestamp.now
  let micros := now.toNanosecondsSinceUnixEpoch.val / 1000
  return Instant.ofMicros (epoch.micros + micros).toNat

/-- Adds the texts at some paths to a workspace. -/
def readTexts (workspace : Workspace) (paths : List String) : IO Workspace :=
  paths.foldlM (fun workspace path => do
    match ← readText? path with
    | some text => return workspace.put path (.text text)
    | none => return workspace) workspace

/-- The store in a file, which is made if it is not there and can be made. -/
def readStore (workspace : Workspace) (path : String) : IO Workspace := do
  try IO.FS.withFile path .append fun _ => pure ()
  catch _ => pure ()
  match ← readText? path with
  | none => return workspace
  | some text =>
    match Tables.ofText? text with
    | some tables => return workspace.put path (.database tables)
    | none => return workspace.put path (.text text)

/-- Adds to a workspace what a pipeline will find. -/
def readSurroundings (pipeline : Pipeline) (workspace : Workspace) : IO Workspace := do
  let workspace ← readTexts workspace (pathsUpTo pipeline.directory)
  match pipeline.place with
  | .file path => readStore workspace path
  | _ => return workspace

/-- Writes the files of a workspace that are new or hold a store. -/
def writeFiles (directory : String) (before after : Workspace) : IO Unit := do
  for (path, file) in after.files do
    match file with
    | .database tables => IO.FS.writeFile path tables.save
    | .text content =>
      if (before.find? path).isNone then
        IO.FS.createDirAll directory
        IO.FS.writeFile path content

/-- Runs the pipeline with the configuration at a path. -/
def runCommand (arguments : List String) (path : String) : IO UInt32 := do
  let environment ← readEnvironment path
  let place := normalPath (expandVariables environment path)
  let network : Network := ⟨← readRecordedFeed, 0.0, ← readNow, Machine.system, fun _ => 0.5,
    [], []⟩
  let configured ← readTexts ⟨[]⟩ [place]
  match loadPipeline environment path ⟨configured, network⟩ with
  | .error error =>
    IO.eprintln ("Pipeline failed: " ++ error.message)
    return 1
  | .ok pipeline =>
    let workspace ← readSurroundings pipeline configured
    let (ending, world) := invoke environment arguments ⟨workspace, network⟩
    writeFiles pipeline.directory workspace world.workspace
    IO.print ending.output
    return ending.exitCode.toUInt32

end AdvisoryFeed

open AdvisoryFeed AdvisoryFeed.Command in
/-- The command. -/
def main (arguments : List String) : IO UInt32 := do
  match Request.ofArguments arguments with
  | .refused =>
    IO.eprintln usage
    return 2
  | .help =>
    IO.println usage
    return 0
  | .run path _ => runCommand arguments path
