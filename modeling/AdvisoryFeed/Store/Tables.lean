import AdvisoryFeed.Config.Value
import AdvisoryFeed.Digest.Md5
import AdvisoryFeed.Text.Quoted
import AdvisoryFeed.Vulnerability

/-!
# Tables

What is stored: values by keys, vulnerabilities, the packages that they affect, and the runs. A row
is replaced by erasing the rows with its key and adding it.
-/

namespace AdvisoryFeed.Store

open AdvisoryFeed.Config AdvisoryFeed.Text

/-- A stored value. -/
structure KeyRow where
  key : String
  value : Option String
deriving DecidableEq, Repr

/-- A stored vulnerability. -/
structure VulnerabilityRow where
  id : String
  updater : String
  name : String
  link : Option String
  severity : Option String
  description : Option String
  run : Option String
deriving DecidableEq, Repr

/-- A stored package of a vulnerability. -/
structure AffectedRow where
  id : String
  platform : String
  format : Option String
  feature : String
  kind : Option String
  affected : Option String
  fixedIn : Option String
  run : Option String
deriving DecidableEq, Repr

/-- A stored run. -/
structure RunRow where
  run : String
  status : String
  vulnerabilities : Nat
  errors : Nat
  metadata : Value

/-- All tables. -/
structure Tables where
  keyValues : List KeyRow
  vulnerabilities : List VulnerabilityRow
  affected : List AffectedRow
  runs : List RunRow

/-- Tables without rows. -/
def Tables.empty : Tables :=
  ⟨[], [], [], []⟩

/-- Why a statement fails. -/
inductive StoreError where
  /-- A column that must have a value has none. -/
  | nullValue (column : String)
  /-- The tables are not there. -/
  | noTable
deriving DecidableEq, Repr

/-- The name of the kind of error. -/
def StoreError.name : StoreError → String
  | .nullValue _ => "ConstraintException"
  | .noTable => "CatalogException"

/-- The wording of the error. -/
def StoreError.message : StoreError → String
  | .nullValue column => "Constraint Error: NOT NULL constraint failed: " ++ column
  | .noTable => "Catalog Error: Table does not exist!"

/-- What tells the rows of packages apart. -/
def AffectedRow.key (row : AffectedRow) : String × String × String :=
  (row.id, row.platform, row.feature)

/-- Puts a vulnerability in the place of those with its id. -/
def Tables.putVulnerability (tables : Tables) (row : VulnerabilityRow) : Tables :=
  { tables with vulnerabilities := tables.vulnerabilities.filter (·.id != row.id) ++ [row] }

/-- Erases the vulnerabilities with an id. -/
def Tables.eraseVulnerability (tables : Tables) (id : String) : Tables :=
  { tables with vulnerabilities := tables.vulnerabilities.filter (·.id != id) }

/-- Puts a package in the place of those with its key. -/
def Tables.putAffected (tables : Tables) (row : AffectedRow) : Tables :=
  { tables with affected := tables.affected.filter (·.key != row.key) ++ [row] }

/-- Puts a value in the place of those with its key. -/
def Tables.putKey (tables : Tables) (row : KeyRow) : Tables :=
  { tables with keyValues := tables.keyValues.filter (·.key != row.key) ++ [row] }

/-- Puts a run in the place of those with its id. -/
def Tables.putRun (tables : Tables) (row : RunRow) : Tables :=
  { tables with runs := tables.runs.filter (·.run != row.run) ++ [row] }

/-- The value of a key; none also for a key that is null. -/
def Tables.getKey (tables : Tables) (key : Option String) : Option String :=
  key.bind fun key => (tables.keyValues.find? (·.key == key)).bind KeyRow.value

/-- Sets the value of a key, which must not be null. -/
def Tables.setKey (tables : Tables) (key : Option String) (value : Option String) :
    Except StoreError Tables :=
  match key with
  | some key => .ok (tables.putKey ⟨key, value⟩)
  | none => .error (.nullValue "key_values.key")

/-- Adds a vulnerability of which only some columns are given. -/
def Tables.addVulnerability (tables : Tables) (id updater name severity : Option String) :
    Except StoreError Tables :=
  match id, updater, name with
  | some id, some updater, some name =>
    .ok { tables with vulnerabilities :=
            tables.vulnerabilities ++ [⟨id, updater, name, none, severity, none, none⟩] }
  | none, _, _ => .error (.nullValue "vulnerabilities.vulnerability_id")
  | some _, none, _ => .error (.nullValue "vulnerabilities.updater")
  | some _, some _, none => .error (.nullValue "vulnerabilities.name")

/-- Adds a package of which only some columns are given. -/
def Tables.addAffected (tables : Tables) (id platform feature : Option String) :
    Except StoreError Tables :=
  match id, platform, feature with
  | some id, some platform, some feature =>
    .ok { tables with affected :=
            tables.affected ++ [⟨id, platform, none, feature, none, none, none, none⟩] }
  | none, _, _ => .error (.nullValue "vulnerability_affected.vulnerability_id")
  | some _, none, _ => .error (.nullValue "vulnerability_affected.namespace")
  | some _, some _, none => .error (.nullValue "vulnerability_affected.feature_name")

/-- What an absent name is taken for in ids. -/
def absentName : String := "None"

/-- The hexadecimal digits of bytes. -/
def hexText (bytes : List UInt8) : List Char :=
  bytes.flatMap fun byte => hex 2 byte.toNat

/-- The id of a vulnerability: the first digits of the digest of the updater and the name. -/
def vulnerabilityId (updater name : Option String) : String :=
  let text := updater.getD absentName ++ ":" ++ name.getD absentName
  String.ofList ((hexText (Digest.md5 text.toUTF8.toList)).take 16)

end AdvisoryFeed.Store
