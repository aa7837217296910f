import AdvisoryFeed.Decimal.Binary
import AdvisoryFeed.Decimal.Numeral

/-!
# Configuration values

The values of a configuration and of the documents written by the program, and how settings are read
from them. A setting of the wrong kind is an error (`ConfigError`).
-/

namespace AdvisoryFeed.Config

open AdvisoryFeed.Decimal AdvisoryFeed.Text

/-- A value. The entries of a table have different keys. -/
inductive Value where
  | null
  | bool (b : Bool)
  | int (n : Int)
  | real (x : Float)
  | text (s : String)
  | list (items : List Value)
  | table (entries : List (String × Value))

instance : Inhabited Value :=
  ⟨.null⟩

/-- Why a configuration is refused. -/
inductive ConfigError where
  /-- A value of a kind that cannot be used here. -/
  | wrongKind
  /-- A value that has no entries stands in the place of a table, or one without text in the place
  of a text. -/
  | noEntries
  | numeral (error : NumeralError)
  /-- A key is not there. -/
  | missing (key : String)
  | unknownUpdater (name : String)
  | requiredKey (key : String)
  /-- There is no file of the name. -/
  | noFile (path : String)
  | isDirectory (path : String)
  /-- The file is not written as a configuration. -/
  | unreadable
deriving DecidableEq, Repr

/-- The wording of the error. -/
def ConfigError.message : ConfigError → String
  | .wrongKind => "a value is of a kind that cannot be used here"
  | .noEntries => "a value stands in the place of a table or a text"
  | .numeral error => error.message
  | .missing key => quote key
  | .unknownUpdater name => "Unknown updater: " ++ name
  | .requiredKey key => "Missing required config key: " ++ key
  | .noFile path => "Config file not found: " ++ path
  | .isDirectory path => "[Errno 21] Is a directory: " ++ quote path
  | .unreadable => "the configuration cannot be read"

/-- The value counts as nothing: it is empty, zero, false or null. -/
def Value.isFalsy : Value → Bool
  | .null => true
  | .bool b => !b
  | .int n => n == 0
  | .real x => x == 0.0
  | .text s => s.isEmpty
  | .list items => items.isEmpty
  | .table entries => entries.isEmpty

/-- The entries of a table. -/
def Value.entries : Value → Except ConfigError (List (String × Value))
  | .table entries => .ok entries
  | _ => .error .noEntries

/-- The entries of a table, none if the value counts as nothing. -/
def Value.optionalEntries (value : Value) : Except ConfigError (List (String × Value)) :=
  if value.isFalsy then .ok [] else value.entries

/-- The integer that a value stands for. -/
def Value.toInt : Value → Except ConfigError Int
  | .bool b => .ok (if b then 1 else 0)
  | .int n => .ok n
  | .real x => .ok (Binary.ofFloat x).truncate
  | .text s => (readInt s).mapError .numeral
  | _ => .error .wrongKind

/-- The number that a value stands for; the default for a value of another kind. -/
def Value.toReal (default : Float) : Value → Float
  | .int n => if n < 0 then -(Float.ofNat n.natAbs) else Float.ofNat n.natAbs
  | .real x => x
  | _ => default

/-- The text of a value, if it is one. -/
def Value.text? : Value → Option String
  | .text s => some s
  | _ => none

/-- The integer of a value, if it is one. -/
def Value.int? : Value → Option Int
  | .int n => some n
  | _ => none

end AdvisoryFeed.Config
