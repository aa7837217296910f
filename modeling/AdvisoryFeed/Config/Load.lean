import AdvisoryFeed.Config.Block
import AdvisoryFeed.Files.Workspace

/-!
# Loading configurations

A configuration is the document in a file, of which the path may have variables in it. It must have
the required keys.
-/

namespace AdvisoryFeed.Config

open AdvisoryFeed.Files AdvisoryFeed.Text

/-- The keys that every configuration has. -/
def requiredKeys : List String :=
  ["database", "sources"]

/-- A key is in a value: as the key of an entry, as an item, or as a part of a text. -/
def Value.has (key : String) : Value → Except ConfigError Bool
  | .table entries => .ok (entries.lookup key).isSome
  | .list items => .ok (items.any fun item => item.text? == some key)
  | .text s => .ok (contains key.toList s.toList)
  | _ => .error .wrongKind

/-- Requires keys of a value. -/
def requireKeys (value : Value) : List String → Except ConfigError Unit
  | [] => .ok ()
  | key :: keys =>
    match value.has key with
    | .error error => .error error
    | .ok false => .error (.requiredKey key)
    | .ok true => requireKeys value keys

/-- The configuration of a document; a document that counts as nothing is a table without entries.
-/
def Value.toConfig (value : Value) : Except ConfigError Value :=
  let value := if value.isFalsy then .table [] else value
  (requireKeys value requiredKeys).map fun _ => value

/-- Loads the configuration at a path. -/
def loadConfig (workspace : Workspace) (environment : List (String × String)) (path : String) :
    Except ConfigError Value :=
  let place := normalPath (expandVariables environment path)
  match workspace.find? place with
  | some (.text content) =>
    match Value.ofText? content with
    | some value => value.toConfig
    | none => .error .unreadable
  | some (.database _) => .error .unreadable
  | none =>
    if workspace.isDirectory place then .error (.isDirectory place) else .error (.noFile path)

end AdvisoryFeed.Config
