import AdvisoryFeed.Ingest.Source

/-!
# Updaters

An updater has a name and a place for its cursor, and remembers how its last batch went. Most
updaters ask a source; others have their result prepared.
-/

namespace AdvisoryFeed.Ingest

open AdvisoryFeed.Http AdvisoryFeed.Time

/-- How far an updater is. -/
inductive Stage where
  | start
  | done
  | failed
deriving DecidableEq, Repr

/-- The name of a stage. -/
def Stage.name : Stage → String
  | .start => "start"
  | .done => "done"
  | .failed => "failed"

/-- How the last batch of an updater went. -/
structure Health where
  lastUpdate : Option Instant
  lastError : Option String
  /-- The number of vulnerabilities that it gave. -/
  fetched : Nat
deriving DecidableEq, Repr

/-- Before any batch. -/
def Health.fresh : Health :=
  ⟨none, none, 0⟩

/-- Nothing went wrong in the last batch. -/
def Health.isHealthy (health : Health) : Bool :=
  health.lastError.isNone

/-- Where the result of an updater comes from. -/
inductive Origin where
  | source (source : Source) (client : Client)
  | prepared (result : Except UpdateError Update)

/-- An updater. -/
structure Updater where
  id : String
  /-- The key under which its cursor is stored. -/
  cursorKey : Option String
  origin : Origin
  stage : Stage
  health : Health

/-- The name of the updater for Oracle Linux. -/
def oracleId : String := "oracle"

/-- The key of a cursor unless another is asked for. -/
def defaultCursorKey (id : String) : String :=
  id ++ "Updater"

/-- The client of an updater, if it has one. -/
def Updater.client? (updater : Updater) : Option Client :=
  match updater.origin with
  | .source _ client => some client
  | .prepared _ => none

/-- Fetches a batch. -/
def Updater.update (updater : Updater) (cursor : Option String) (network : Network) :
    Except UpdateError Update × Updater × Network :=
  match updater.origin with
  | .prepared result => (result, updater, network)
  | .source source client =>
    let updated := source.update cursor ⟨client, network⟩
    let stage := match updated.1 with
      | .ok _ => Stage.done
      | .error _ => Stage.failed
    (updated.1, { updater with origin := .source source updated.2.client, stage := stage },
      updated.2.network)

/-- The health after a batch that was started at a time. -/
def Health.after (now : Instant) : Except UpdateError Update → Health
  | .ok update => ⟨some now, none, update.vulnerabilities.length⟩
  | .error error => ⟨some now, some (error.name ++ ": " ++ error.message), 0⟩

/-- Fetches a batch and remembers how it went. -/
def Updater.run (updater : Updater) (cursor : Option String) (network : Network) :
    Except UpdateError Update × Updater × Network :=
  let (result, updater, network') := updater.update cursor network
  (result, { updater with health := Health.after network.now result }, network')

end AdvisoryFeed.Ingest
