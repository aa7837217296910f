import AdvisoryFeed.Store.Load

/-!
# Databases

A database has its tables once they are made. A statement on a database without tables fails.
-/

namespace AdvisoryFeed.Store

open AdvisoryFeed.Ingest AdvisoryFeed.Time

/-- The id of a run that is started at a time. -/
def runId (now : Instant) : String :=
  "run_" ++ now.stamp '_'

/-- A database: the tables, if they are made. -/
abbrev Database := Option Tables

/-- The tables of the database, made if they are not there. -/
def Database.ensureTables (database : Database) : Tables :=
  database.getD Tables.empty

/-- Runs a statement that reads. -/
def Database.read {α : Type} (database : Database) (query : Tables → α) : Except StoreError α :=
  match database with
  | some tables => .ok (query tables)
  | none => .error .noTable

/-- Runs a statement that writes, or leaves the database as it is. -/
def Database.write (database : Database) (statement : Tables → Except StoreError Tables) :
    Except StoreError Unit × Database :=
  match database with
  | none => (.error .noTable, none)
  | some tables =>
    match statement tables with
    | .ok tables => (.ok (), some tables)
    | .error error => (.error error, some tables)

/-- Writes vulnerabilities and gives their number. What is written before an error stays. -/
def Database.load (database : Database) (updater run : Option String)
    (vulnerabilities : List Vulnerability) : Except StoreError Nat × Database :=
  match database with
  | none => (if vulnerabilities.isEmpty then .ok 0 else .error .noTable, none)
  | some tables =>
    let written := loadAll updater run vulnerabilities tables
    (match written.error with
      | none => .ok vulnerabilities.length
      | some error => .error error, some written.tables)

/-- Takes in an update, all of it or nothing, and gives the number of vulnerabilities. -/
def Database.commit (database : Database) (updater : Option String) (update : Update)
    (run : Option String) : Except StoreError Nat × Database :=
  match database with
  | none =>
    let isVoid := update.vulnerabilities.isEmpty && update.flags.isEmpty
    (if isVoid then .ok 0 else .error .noTable, none)
  | some tables =>
    match Store.commit updater update run tables with
    | .ok tables => (.ok update.vulnerabilities.length, some tables)
    | .error error => (.error error, some tables)

end AdvisoryFeed.Store
