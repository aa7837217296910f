import AdvisoryFeed.Proofs.Store.Commits
import AdvisoryFeed.Store.Database

/-!
# The last writer wins

A `Commit` is an update with the updater that gives it and the run that it belongs to. Commits reach
a database one after the other, and some of them fail (`commitAll`). What the database shows depends
only on the commits that succeed (`succeeded`), read as three lists in their order: the records, the
packages that the records list, and the flags. Records with one id replace each other, and so do
flags with one key, but the packages of one id accumulate, and only those with one platform and
feature replace each other.

A commit that succeeds is a row of statements, each of which writes one row. What all of them keep
(`Kept`) is therefore kept by the commit, with its records, its packages and its flags added to the
three lists (`Kept.commit`), and by any commits one after the other (`Kept.commitAll`).

`Reflects` states what the database shows for lists written so far; it is the invariant of the
simulation. It holds of empty tables, and each statement that writes extends one list by one item. So
it holds, after any commits to a database with empty tables, of those that have succeeded
(`lastWriter_commitAll`).
-/

namespace AdvisoryFeed.Store

open AdvisoryFeed.Ingest

/-! ## What is written -/

/-- The last item of a list with a key. -/
def lastBy? {α κ : Type} [BEq κ] (key : α → κ) (k : κ) (items : List α) : Option α :=
  items.reverse.find? fun item => key item == k

theorem lastBy?_concat {α κ : Type} [BEq κ] (key : α → κ) (k : κ) (items : List α) (item : α) :
    lastBy? key k (items ++ [item]) = if key item == k then some item else lastBy? key k items := by
  rw [lastBy?, List.reverse_concat, List.find?_cons]
  cases key item == k <;> rfl

/-- A vulnerability as an updater gives it in a run. -/
structure Record where
  updater : Option String
  run : Option String
  vulnerability : Vulnerability

/-- The id under which a record is stored. -/
def Record.id (record : Record) : String :=
  vulnerabilityId record.updater record.vulnerability.name

/-- The columns that a record is stored with. -/
def Record.columns (record : Record) : Columns :=
  [some record.id, record.updater, record.vulnerability.name, record.vulnerability.link,
    some record.vulnerability.severity.name, record.vulnerability.description, record.run]

/-- A package that a record lists. -/
structure Listed where
  record : Record
  package : Package

/-- The packages that a record lists. -/
def Record.listed (record : Record) : List Listed :=
  record.vulnerability.affected.map fun package => ⟨record, package⟩

/-- What tells listed packages apart. -/
def Listed.key (listed : Listed) : String × Option String × Option String :=
  (listed.record.id, listed.package.platform, listed.package.feature)

/-- The columns that a listed package is stored with. -/
def Listed.columns (listed : Listed) : Columns :=
  [some listed.record.id, listed.package.platform, some listed.package.format,
    listed.package.feature, some listed.package.kind, some listed.package.affected,
    some listed.package.fixedIn, listed.record.run]

/-- A value to be stored under a key. -/
abbrev Flag := Option String × Option String

/-- An update on its way to a database. -/
structure Commit where
  updater : Option String
  update : Update
  run : Option String

/-- The records of a commit. -/
def Commit.records (commit : Commit) : List Record :=
  commit.update.vulnerabilities.map fun vulnerability => ⟨commit.updater, commit.run, vulnerability⟩

/-- Takes in a commit: whether it succeeds, and the database after it. -/
def Commit.apply (commit : Commit) (database : Database) : Except StoreError Nat × Database :=
  database.commit commit.updater commit.update commit.run

/-- The database after commits one after the other. -/
def commitAll : List Commit → Database → Database
  | [], database => database
  | commit :: commits, database => commitAll commits (commit.apply database).2

/-- The commits that succeed when they are taken in one after the other. -/
def succeeded : List Commit → Database → List Commit
  | [], _ => []
  | commit :: commits, database =>
    let applied := commit.apply database
    let others := succeeded commits applied.2
    if applied.1.isOk then commit :: others else others

/-! ## Statement by statement -/

/-- What holds of tables and of what was written to them is kept by every statement that writes. -/
structure Kept (Holds : Tables → List Record → List Listed → List Flag → Prop) : Prop where
  putVulnerability : ∀ {tables records listed flags}, Holds tables records listed flags →
    ∀ (row : VulnerabilityRow) (record : Record), row.columns = record.columns →
      Holds (tables.putVulnerability row) (records ++ [record]) listed flags
  putAffected : ∀ {tables records listed flags}, Holds tables records listed flags →
    ∀ (row : AffectedRow) (package : Listed), row.columns = package.columns →
      Holds (tables.putAffected row) records (listed ++ [package]) flags
  putKey : ∀ {tables records listed flags}, Holds tables records listed flags →
    ∀ row : KeyRow,
      Holds (tables.putKey row) records listed (flags ++ [(some row.key, row.value)])

section Kept

variable {Holds : Tables → List Record → List Listed → List Flag → Prop}
  {records : List Record} {flags : List Flag}

/-- Writing the packages of a record to their end lists them all. -/
theorem Kept.loadPackages (hkept : Kept Holds) (record : Record) (packages : List Package) :
    ∀ {tables : Tables} {listed : List Listed}, Holds tables records listed flags →
      (loadPackages record.id record.run packages tables).error = none →
      Holds (Store.loadPackages record.id record.run packages tables).tables records
        (listed ++ packages.map fun package => ⟨record, package⟩) flags := by
  induction packages with
  | nil =>
    intro tables listed h _
    rw [Store.loadPackages, List.map_nil, List.append_nil]
    exact h
  | cons package packages ih =>
    intro tables listed h herror
    -- A package without a platform or a feature would have ended the loading.
    rw [Store.loadPackages] at herror ⊢
    cases hplatform : package.platform with
    | none => simp [hplatform] at herror
    | some platform =>
      cases hfeature : package.feature with
      | none => simp [hplatform, hfeature] at herror
      | some feature =>
        simp only [hplatform, hfeature] at herror ⊢
        have hput := hkept.putAffected h ⟨record.id, platform, some package.format, feature,
          some package.kind, some package.affected, some package.fixedIn, record.run⟩
          ⟨record, package⟩ (by simp [AffectedRow.columns, Listed.columns, hplatform, hfeature])
        have hrest := ih hput herror
        rwa [List.append_assoc, List.singleton_append] at hrest

/-- Writing a record to its end adds it and all that it lists. -/
theorem Kept.loadRecord (hkept : Kept Holds) {tables : Tables} {listed : List Listed}
    (h : Holds tables records listed flags) (record : Record)
    (herror : (loadRecord record.updater record.run record.vulnerability tables).error = none) :
    Holds (Store.loadRecord record.updater record.run record.vulnerability tables).tables
      (records ++ [record]) (listed ++ record.listed) flags := by
  unfold Store.loadRecord at herror ⊢
  cases hupdater : record.updater with
  | none => simp [hupdater] at herror
  | some updater =>
    cases hname : record.vulnerability.name with
    | none => simp [hupdater, hname] at herror
    | some name =>
      have hid : vulnerabilityId (some updater) (some name) = record.id := by
        rw [Record.id, hupdater, hname]
      simp only [hupdater, hname, hid] at herror ⊢
      have hput := hkept.putVulnerability h ⟨record.id, updater, name, record.vulnerability.link,
        some record.vulnerability.severity.name, record.vulnerability.description, record.run⟩
        record (by simp [VulnerabilityRow.columns, Record.columns, hupdater, hname])
      exact hkept.loadPackages record record.vulnerability.affected hput herror

theorem Kept.loadAll (hkept : Kept Holds) (updater run : Option String)
    (vulnerabilities : List Vulnerability) :
    ∀ {tables : Tables} {records : List Record} {listed : List Listed},
      Holds tables records listed flags →
      (loadAll updater run vulnerabilities tables).error = none →
      let loaded : List Record :=
        vulnerabilities.map fun vulnerability => ⟨updater, run, vulnerability⟩
      Holds (Store.loadAll updater run vulnerabilities tables).tables (records ++ loaded)
        (listed ++ loaded.flatMap Record.listed) flags := by
  induction vulnerabilities with
  | nil =>
    intro tables records listed h _
    simp only [Store.loadAll, List.map_nil, List.flatMap_nil, List.append_nil]
    exact h
  | cons vulnerability vulnerabilities ih =>
    intro tables records listed h herror
    rw [Store.loadAll] at herror ⊢
    obtain ⟨hfirst, hboth⟩ := Written.andThen_eq_none herror
    rw [hboth] at herror ⊢
    have hrest := ih (hkept.loadRecord h ⟨updater, run, vulnerability⟩ hfirst) herror
    simpa [List.append_assoc] using hrest

theorem Kept.setKeys (hkept : Kept Holds) {listed : List Listed} (more : List Flag) :
    ∀ {tables : Tables} {flags : List Flag}, Holds tables records listed flags →
      (setKeys more tables).error = none →
      Holds (Store.setKeys more tables).tables records listed (flags ++ more) := by
  induction more with
  | nil =>
    intro tables flags h _
    rw [Store.setKeys, List.append_nil]
    exact h
  | cons flag more ih =>
    intro tables flags h herror
    obtain ⟨key, value⟩ := flag
    rw [Store.setKeys] at herror ⊢
    cases key with
    | none => simp [Tables.setKey] at herror
    | some key =>
      simp only [Tables.setKey] at herror ⊢
      have hrest := ih (hkept.putKey h ⟨key, value⟩) herror
      rwa [List.append_assoc, List.singleton_append] at hrest

/-- A commit that succeeds adds its records, all that they list, and its flags. -/
theorem Kept.commit (hkept : Kept Holds) {tables after : Tables} {listed : List Listed}
    (h : Holds tables records listed flags) {c : Commit}
    (hcommit : Store.commit c.updater c.update c.run tables = .ok after) :
    Holds after (records ++ c.records) (listed ++ c.records.flatMap Record.listed)
      (flags ++ c.update.flags) := by
  obtain ⟨hload, hkeys, rfl⟩ := commit_eq_ok hcommit
  have hloaded := hkept.loadAll c.updater c.run c.update.vulnerabilities h hload
  exact hkept.setKeys c.update.flags hloaded hkeys

end Kept

/-! ## The invariant -/

/-- The tables show of each key what was written last under it. -/
structure Reflects (tables : Tables) (records : List Record) (listed : List Listed)
    (flags : List Flag) : Prop where
  /-- No key stands on two rows. -/
  keyed : tables.Keyed
  /-- Of each id the last record is stored. -/
  vulnerability : ∀ id, tables.vulnerability? id =
    (lastBy? Record.id id records).map Record.columns
  /-- Of each id, platform and feature the last package is stored, whichever record lists it. -/
  affected : ∀ id platform feature, tables.affected? id platform feature =
    (lastBy? Listed.key (id, some platform, some feature) listed).map Listed.columns
  /-- Of each key the last value is stored. -/
  value : ∀ key, tables.getKey (some key) = (lastBy? Prod.fst (some key) flags).bind Prod.snd

theorem reflects_empty : Reflects Tables.empty [] [] [] where
  keyed := Tables.keyed_empty
  vulnerability _ := rfl
  affected _ _ _ := rfl
  value _ := rfl

section Steps

variable {tables : Tables} {records : List Record} {listed : List Listed} {flags : List Flag}

/-- Writing the row of a record is one more record. -/
theorem Reflects.putVulnerability (h : Reflects tables records listed flags)
    (row : VulnerabilityRow) (record : Record) (hrow : row.columns = record.columns) :
    Reflects (tables.putVulnerability row) (records ++ [record]) listed flags where
  keyed := h.keyed.putVulnerability row
  vulnerability id := by
    have hid : row.id = record.id := by
      have := congrArg List.head? hrow
      simpa [VulnerabilityRow.columns, Record.columns] using this
    rw [Tables.vulnerability?_putVulnerability, lastBy?_concat, hid, hrow, h.vulnerability]
    split <;> rfl
  affected id platform feature := by
    rw [Tables.affected?_putVulnerability, h.affected]
  value key := by
    rw [Tables.getKey_putVulnerability, h.value]

/-- Writing the row of a listed package is one more listed package. -/
theorem Reflects.putAffected (h : Reflects tables records listed flags)
    (row : AffectedRow) (package : Listed) (hrow : row.columns = package.columns) :
    Reflects (tables.putAffected row) records (listed ++ [package]) flags where
  keyed := h.keyed.putAffected row
  vulnerability id := by
    rw [Tables.vulnerability?_putAffected, h.vulnerability]
  affected id platform feature := by
    have hkey : package.key = (row.id, some row.platform, some row.feature) := by
      simp only [AffectedRow.columns, Listed.columns, List.cons.injEq, Option.some.injEq] at hrow
      obtain ⟨hid, hplatform, -, hfeature, -⟩ := hrow
      rw [Listed.key, hid, hplatform, hfeature]
    rw [Tables.affected?_putAffected, lastBy?_concat, hkey, hrow, h.affected]
    -- Rows have platforms and features, whereas packages may lack them.
    have hsame : ((row.id, some row.platform, some row.feature) ==
        (id, some platform, some feature)) = (row.key == (id, platform, feature)) := by
      rw [Bool.eq_iff_iff, beq_iff_eq, beq_iff_eq]
      simp [AffectedRow.key]
    rw [hsame]
    split <;> rfl
  value key := by
    rw [Tables.getKey_putAffected, h.value]

/-- Setting a key is one more flag. -/
theorem Reflects.putKey (h : Reflects tables records listed flags) (row : KeyRow) :
    Reflects (tables.putKey row) records listed (flags ++ [(some row.key, row.value)]) where
  keyed := h.keyed.putKey row
  vulnerability id := by
    rw [Tables.vulnerability?_putKey, h.vulnerability]
  affected id platform feature := by
    rw [Tables.affected?_putKey, h.affected]
  value key := by
    rw [Tables.getKey_putKey, lastBy?_concat, h.value]
    by_cases hkey : row.key = key
    · simp [hkey]
    · simp [hkey]

end Steps

theorem kept_reflects : Kept Reflects where
  putVulnerability := Reflects.putVulnerability
  putAffected := Reflects.putAffected
  putKey := Reflects.putKey

/-! ## Commits one after the other -/

/-- A commit either succeeds and gives other tables, or fails and leaves the tables as they were. -/
theorem Commit.apply_some (c : Commit) (tables : Tables) :
    (∃ after, Store.commit c.updater c.update c.run tables = .ok after ∧
      (c.apply (some tables)).1.isOk = true ∧ (c.apply (some tables)).2 = some after) ∨
    ((c.apply (some tables)).1.isOk = false ∧ (c.apply (some tables)).2 = some tables) := by
  unfold Commit.apply Database.commit
  cases hcommit : Store.commit c.updater c.update c.run tables with
  | ok after =>
    refine Or.inl ⟨after, rfl, ?_, ?_⟩
    · simp [hcommit, Except.isOk, Except.toBool]
    · simp [hcommit]
  | error error =>
    refine Or.inr ⟨?_, ?_⟩
    · simp [hcommit, Except.isOk, Except.toBool]
    · simp [hcommit]

theorem mem_of_mem_succeeded {c : Commit} (commits : List Commit) :
    ∀ database : Database, c ∈ succeeded commits database → c ∈ commits := by
  induction commits with
  | nil =>
    intro database h
    exact h
  | cons first commits ih =>
    intro database h
    rw [succeeded] at h
    split at h
    · rcases List.mem_cons.1 h with rfl | hlater
      · exact List.mem_cons_self
      · exact List.mem_cons_of_mem first (ih _ hlater)
    · exact List.mem_cons_of_mem first (ih _ h)

/-- What is kept holds of the tables and of commits: their records, what the records list, and their
flags. -/
def HoldsOf (Holds : Tables → List Record → List Listed → List Flag → Prop) (tables : Tables)
    (commits : List Commit) : Prop :=
  Holds tables (commits.flatMap Commit.records)
    ((commits.flatMap Commit.records).flatMap Record.listed) (commits.flatMap (·.update.flags))

/-- What holds of the commits `done` holds, after further commits, of these and of those that have
succeeded since. -/
theorem Kept.commitAll {Holds : Tables → List Record → List Listed → List Flag → Prop}
    (hkept : Kept Holds) (commits : List Commit) :
    ∀ (done : List Commit) (tables : Tables), HoldsOf Holds tables done →
      ∃ after, commitAll commits (some tables) = some after ∧
        HoldsOf Holds after (done ++ succeeded commits (some tables)) := by
  induction commits with
  | nil =>
    intro done tables h
    exact ⟨tables, rfl, by simpa [succeeded] using h⟩
  | cons c commits ih =>
    intro done tables h
    rw [Store.commitAll, succeeded]
    rcases c.apply_some tables with ⟨next, hcommit, hok, hnext⟩ | ⟨hfail, hnext⟩
    · -- A commit that succeeds is done from here on.
      have hstep : HoldsOf Holds next (done ++ [c]) := by
        simpa [HoldsOf] using hkept.commit h hcommit
      obtain ⟨after, hafter, hholds⟩ := ih (done ++ [c]) next hstep
      refine ⟨after, by rw [hnext, hafter], ?_⟩
      simpa [hok, hnext] using hholds
    · obtain ⟨after, hafter, hholds⟩ := ih done tables h
      refine ⟨after, by rw [hnext, hafter], ?_⟩
      simpa [hfail, hnext] using hholds

/-- Whatever commits reach a database with empty tables, and whichever of them fail: its tables have
one row for each key, and show of each id, of each package of an id, and of each key what the
commits that have succeeded wrote last. -/
theorem lastWriter_commitAll (commits : List Commit) :
    ∃ tables, commitAll commits (some Tables.empty) = some tables ∧
      HoldsOf Reflects tables (succeeded commits (some Tables.empty)) :=
  kept_reflects.commitAll commits [] Tables.empty reflects_empty

end AdvisoryFeed.Store
