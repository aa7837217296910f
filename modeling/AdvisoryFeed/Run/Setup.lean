import AdvisoryFeed.Config.Json
import AdvisoryFeed.Files.Workspace
import AdvisoryFeed.Ingest.Settings
import AdvisoryFeed.Store.Database

/-!
# Setting up pipelines

A pipeline has updaters, a place for its store, and a directory for what it writes. All three are
described by a configuration.
-/

namespace AdvisoryFeed.Run

open AdvisoryFeed.Config AdvisoryFeed.Files AdvisoryFeed.Ingest AdvisoryFeed.Store

/-- Where a store is kept. -/
inductive StorePlace where
  /-- In memory, for as long as it is open. -/
  | memory
  | file (path : String)
  /-- A value that names no place. -/
  | nowhere
deriving DecidableEq, Repr

/-- How the names of stores in memory start. -/
def memoryMark : String := ":memory:"

/-- The place that a value names. -/
def StorePlace.ofValue : Value → StorePlace
  | .text s =>
    if s.isEmpty || memoryMark.toList.isPrefixOf s.toList then .memory else .file (normalPath s)
  | _ => .nowhere

/-- A pipeline. -/
structure Pipeline where
  updaters : List Updater
  place : StorePlace
  /-- The path in normal form. -/
  directory : String
  /-- The tables, while the store is open. -/
  store : Option Tables

/-- The directory for what is written unless a configuration says so. -/
def defaultDirectory : String := "output"

/-- The value of a key, which must be there. -/
def requiredEntry (value : Value) (key : String) : Except ConfigError Value :=
  match value with
  | .table entries =>
    match entries.lookup key with
    | some entry => .ok entry
    | none => .error (.missing key)
  | _ => .error .wrongKind

/-- The place for the store that a configuration describes. -/
def placeOf (config : Value) : Except ConfigError StorePlace := do
  let database ← requiredEntry config "database"
  let path ← requiredEntry database "path"
  .ok (StorePlace.ofValue path)

/-- The directory that a configuration describes. -/
def directoryOf (config : Value) : Except ConfigError String := do
  let entries ← config.entries
  let output ← ((entries.lookup "output").getD (.table [])).entries
  match output.lookup "dir" with
  | none => .ok defaultDirectory
  | some (.text s) => .ok (normalPath s)
  | some _ => .error .wrongKind

/-- The names of the updaters that a value lists: its items, its keys, or its characters. -/
def listedUpdaters : Value → Except ConfigError (List Value)
  | .list items => .ok items
  | .table entries => .ok (entries.map fun entry => .text entry.1)
  | .text s => .ok (s.toList.map fun c => .text (String.singleton c))
  | _ => .error .wrongKind

/-- The names of the updaters that a configuration asks for; all updaters, if it names none. -/
def enabledUpdaters (config : Value) : Except ConfigError (List Value) := do
  let entries ← config.entries
  let updater ← ((entries.lookup "updater").getD .null).optionalEntries
  match updater.lookup "enabled_updaters" with
  | none => .ok [.text oracleId]
  | some value => if value.isFalsy then .ok [.text oracleId] else listedUpdaters value

/-- The updater of a name with its settings in a configuration, made at a time. -/
def updaterNamed (config : Value) (clock : Float) (name : Value) : Except ConfigError Updater :=
  match name.label? with
  | none => .error .wrongKind
  | some label =>
    if name.text? = some oracleId then do
      let sources ← (← requiredEntry config "sources").entries
      Updater.ofConfig ((sources.lookup oracleId).getD .null) clock
    else .error (.unknownUpdater label)

/-- The updaters that a configuration describes, made at a time. -/
def updatersOf (config : Value) (clock : Float) : Except ConfigError (List Updater) := do
  let names ← enabledUpdaters config
  names.mapM (updaterNamed config clock)

/-- The pipeline that a configuration describes, made at a time. Updaters that are given stand in
for those of the configuration. -/
def Pipeline.ofConfig (config : Value) (given : Option (List Updater)) (clock : Float) :
    Except ConfigError Pipeline := do
  let place ← placeOf config
  let directory ← directoryOf config
  let updaters ← match given with
    | some updaters => .ok updaters
    | none => updatersOf config clock
  .ok ⟨updaters, place, directory, none⟩

end AdvisoryFeed.Run
