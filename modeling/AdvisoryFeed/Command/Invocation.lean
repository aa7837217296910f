import AdvisoryFeed.Command.Arguments
import AdvisoryFeed.Command.Summary
import AdvisoryFeed.Config.Load
import AdvisoryFeed.Run.Pipeline

/-!
# Invocations

The command reads its arguments, sets up the pipeline that its configuration describes, runs it
once, and prints a summary.
-/

namespace AdvisoryFeed.Command

open AdvisoryFeed.Config AdvisoryFeed.Report AdvisoryFeed.Run

/-- How an invocation ends. -/
structure Ending where
  exitCode : Nat
  output : String
deriving DecidableEq, Repr

/-- The arguments are not understood. -/
def Ending.refused : Ending :=
  ⟨2, ""⟩

/-- There is no run, or it fails as a whole. -/
def Ending.failed : Ending :=
  ⟨1, ""⟩

/-- The end of a run. -/
def Ending.ofMetrics (metrics : Metrics) : Ending :=
  ⟨if metrics.errors = 0 then 0 else 1, summary metrics⟩

/-- Sets up a pipeline from the configuration at a path. -/
def loadPipeline (environment : List (String × String)) (path : String) (world : World) :
    Except ConfigError Pipeline := do
  let config ← loadConfig world.workspace environment path
  Pipeline.ofConfig config none world.network.clock

/-- Runs the pipeline with the configuration at a path. -/
def runAt (environment : List (String × String)) (path : String) (world : World) : Ending × World :=
  match loadPipeline environment path world with
  | .error _ => (Ending.failed, world)
  | .ok pipeline =>
    let (result, pipeline, world) := pipeline.run world
    let ending := match result with
      | .ok metrics => Ending.ofMetrics metrics
      | .error _ => Ending.failed
    (ending, { world with workspace := pipeline.close world.workspace })

/-- Invokes the command. -/
def invoke (environment : List (String × String)) (arguments : List String) (world : World) :
    Ending × World :=
  match Request.ofArguments arguments with
  | .refused => (Ending.refused, world)
  | .help => (⟨0, ""⟩, world)
  | .run path _ => runAt environment path world

end AdvisoryFeed.Command
