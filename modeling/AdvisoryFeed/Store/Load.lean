import AdvisoryFeed.Ingest.Update
import AdvisoryFeed.Store.Tables

/-!
# Loading

Updates are written to the tables record by record. `loadAll` keeps what it has written before an
error; `commit` takes in all of an update or nothing of it.
-/

namespace AdvisoryFeed.Store

open AdvisoryFeed.Ingest

/-- The tables after some statements, and the error that ended them, if there was one. -/
structure Written where
  tables : Tables
  error : Option StoreError

/-- Goes on unless there was an error. -/
def Written.andThen (written : Written) (next : Tables → Written) : Written :=
  match written.error with
  | none => next written.tables
  | some _ => written

/-- Writes the packages of a vulnerability. -/
def loadPackages (id : String) (run : Option String) : List Package → Tables → Written
  | [], tables => ⟨tables, none⟩
  | package :: packages, tables =>
    match package.platform, package.feature with
    | some platform, some feature =>
      loadPackages id run packages (tables.putAffected
        ⟨id, platform, some package.format, feature, some package.kind, some package.affected,
          some package.fixedIn, run⟩)
    | none, _ => ⟨tables, some (.nullValue "vulnerability_affected.namespace")⟩
    | some _, none => ⟨tables, some (.nullValue "vulnerability_affected.feature_name")⟩

/-- Writes a vulnerability in the place of the one with its id, and then its packages. -/
def loadRecord (updater run : Option String) (v : Vulnerability) (tables : Tables) : Written :=
  let id := vulnerabilityId updater v.name
  match updater, v.name with
  | some updater, some name =>
    loadPackages id run v.affected (tables.putVulnerability
      ⟨id, updater, name, v.link, some v.severity.name, v.description, run⟩)
  | none, _ => ⟨tables.eraseVulnerability id, some (.nullValue "vulnerabilities.updater")⟩
  | some _, none => ⟨tables.eraseVulnerability id, some (.nullValue "vulnerabilities.name")⟩

/-- Writes vulnerabilities one after the other, up to the first error. -/
def loadAll (updater run : Option String) : List Vulnerability → Tables → Written
  | [], tables => ⟨tables, none⟩
  | v :: vs, tables => (loadRecord updater run v tables).andThen (loadAll updater run vs)

/-- Sets the values of keys one after the other, up to the first error. -/
def setKeys : List (Option String × Option String) → Tables → Written
  | [], tables => ⟨tables, none⟩
  | (key, value) :: flags, tables =>
    match tables.setKey key value with
    | .ok tables => setKeys flags tables
    | .error error => ⟨tables, some error⟩

/-- Takes in an update, all of it or nothing. -/
def commit (updater : Option String) (update : Update) (run : Option String) (tables : Tables) :
    Except StoreError Tables :=
  let written := (loadAll updater run update.vulnerabilities tables).andThen (setKeys update.flags)
  match written.error with
  | none => .ok written.tables
  | some error => .error error

end AdvisoryFeed.Store
