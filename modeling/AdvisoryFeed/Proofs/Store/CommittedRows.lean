import AdvisoryFeed.Proofs.Store.Atomicity
import AdvisoryFeed.Proofs.Store.LastWriter
import AdvisoryFeed.Proofs.Store.Replacement
import AdvisoryFeed.Store.Saved

/-!
# The rows that a commit writes

A commit that succeeds writes a row for each of its records, for each package that they list and for
each flag, and each row takes the place of those with its key. Which rows these are does not depend
on the tables (`Record.row?`, `Listed.row?`, `flagRow?`). So what a commit leaves is given in one
equation, for tables with whatever rows (`Commit.apply_eq_ok_iff`). Where the tables were empty
before, every row is one that was written (`Origins`).
-/

namespace AdvisoryFeed.Store

/-! ## Rows -/

/-- The row of a record, unless the record lacks a value that a row must have. -/
def Record.row? (record : Record) : Option VulnerabilityRow :=
  VulnerabilityRow.ofColumns? record.columns

/-- The row of a listed package, unless the package lacks a value that a row must have. -/
def Listed.row? (listed : Listed) : Option AffectedRow :=
  AffectedRow.ofColumns? listed.columns

/-- The row of a flag, unless the flag lacks its key. -/
def flagRow? (flag : Flag) : Option KeyRow :=
  KeyRow.ofColumns? [flag.1, flag.2]

theorem Record.row?_eq_some_iff {record : Record} {row : VulnerabilityRow} :
    record.row? = some row ↔ row.columns = record.columns := by
  constructor
  · intro h
    unfold Record.row? VulnerabilityRow.ofColumns? at h
    split at h
    · next hcolumns =>
      rw [hcolumns, ← Option.some.inj h]
      rfl
    · exact absurd h (by simp)
  · intro h
    rw [Record.row?, ← h]
    exact row.ofColumns?_columns

theorem Listed.row?_eq_some_iff {listed : Listed} {row : AffectedRow} :
    listed.row? = some row ↔ row.columns = listed.columns := by
  constructor
  · intro h
    unfold Listed.row? AffectedRow.ofColumns? at h
    split at h
    · next hcolumns =>
      rw [hcolumns, ← Option.some.inj h]
      rfl
    · exact absurd h (by simp)
  · intro h
    rw [Listed.row?, ← h]
    exact row.ofColumns?_columns

/-- Rows with the same columns are the same. -/
theorem VulnerabilityRow.columns_injective : Function.Injective VulnerabilityRow.columns := by
  intro row other h
  have hsame := congrArg VulnerabilityRow.ofColumns? h
  rw [ofColumns?_columns, ofColumns?_columns] at hsame
  exact Option.some.inj hsame

theorem AffectedRow.columns_injective : Function.Injective AffectedRow.columns := by
  intro row other h
  have hsame := congrArg AffectedRow.ofColumns? h
  rw [ofColumns?_columns, ofColumns?_columns] at hsame
  exact Option.some.inj hsame

/-! ## The rows of a commit -/

theorem Commit.mem_rows_iff {c : Commit} {row : VulnerabilityRow} :
    row ∈ c.records.filterMap Record.row? ↔ ∃ v ∈ c.update.vulnerabilities,
      row.columns = (⟨c.updater, c.run, v⟩ : Record).columns := by
  simp only [List.mem_filterMap, Commit.records, List.mem_map, Record.row?_eq_some_iff]
  constructor
  · rintro ⟨_, ⟨v, hv, rfl⟩, hrow⟩
    exact ⟨v, hv, hrow⟩
  · rintro ⟨v, hv, hrow⟩
    exact ⟨_, ⟨v, hv, rfl⟩, hrow⟩

theorem Commit.mem_packageRows_iff {c : Commit} {row : AffectedRow} :
    row ∈ (c.records.flatMap Record.listed).filterMap Listed.row? ↔
      ∃ v ∈ c.update.vulnerabilities, ∃ package ∈ v.affected,
        row.columns = (⟨⟨c.updater, c.run, v⟩, package⟩ : Listed).columns := by
  simp only [List.mem_filterMap, Commit.records, Record.listed, List.mem_flatMap, List.mem_map,
    Listed.row?_eq_some_iff]
  constructor
  · rintro ⟨_, ⟨_, ⟨v, hv, rfl⟩, package, hpackage, rfl⟩, hrow⟩
    exact ⟨v, hv, package, hpackage, hrow⟩
  · rintro ⟨v, hv, package, hpackage, hrow⟩
    exact ⟨_, ⟨_, ⟨v, hv, rfl⟩, package, hpackage, rfl⟩, hrow⟩

/-! ## Where rows come from -/

/-- Every row is one that was written. -/
structure Origins (tables : Tables) (records : List Record) (listed : List Listed)
    (_flags : List Flag) : Prop where
  vulnerabilities : ∀ row ∈ tables.vulnerabilities, ∃ record ∈ records,
    row.columns = record.columns
  affected : ∀ row ∈ tables.affected, ∃ item ∈ listed, row.columns = item.columns

theorem origins_empty : Origins Tables.empty [] [] [] where
  vulnerabilities := fun _ h => absurd h List.not_mem_nil
  affected := fun _ h => absurd h List.not_mem_nil

/-- What holds of the rows and of the row that is put among them holds of all of them then. -/
theorem forall_mem_replaceBy {α κ : Type} [BEq κ] {key : α → κ} {P : α → Prop} {rows : List α}
    {row : α} (hrows : ∀ other ∈ rows, P other) (hrow : P row) :
    ∀ other ∈ replaceBy key rows row, P other := by
  intro other hother
  rcases List.mem_append.1 hother with hold | hnew
  · exact hrows other (List.mem_of_mem_filter hold)
  · rw [List.mem_singleton.1 hnew]
    exact hrow

/-- Every statement keeps the origins: it erases rows, and adds the one that it writes. -/
theorem kept_origins : Kept Origins where
  putVulnerability := by
    intro tables records listed flags h row record hrow
    refine ⟨forall_mem_replaceBy ?_ ⟨record, by simp, hrow⟩, h.affected⟩
    intro other hother
    obtain ⟨found, hfound, heq⟩ := h.vulnerabilities other hother
    exact ⟨found, List.mem_append_left _ hfound, heq⟩
  putAffected := by
    intro tables records listed flags h row package hrow
    refine ⟨h.vulnerabilities, forall_mem_replaceBy ?_ ⟨package, by simp, hrow⟩⟩
    intro other hother
    obtain ⟨found, hfound, heq⟩ := h.affected other hother
    exact ⟨found, List.mem_append_left _ hfound, heq⟩
  putKey := by
    intro tables records listed flags h row
    exact ⟨h.vulnerabilities, h.affected⟩

/-- After any commits to empty tables, every row of a vulnerability is that of a record of them. -/
theorem exists_record_of_commitAll {commits : List Commit} {tables : Tables}
    (h : commitAll commits (some Tables.empty) = some tables) :
    ∀ row ∈ tables.vulnerabilities, ∃ record ∈ commits.flatMap Commit.records,
      row.columns = record.columns := by
  intro row hrow
  obtain ⟨after, hafter, horigins⟩ := kept_origins.commitAll commits [] Tables.empty origins_empty
  obtain rfl : after = tables := Option.some.inj (hafter.symm.trans h)
  obtain ⟨record, hrecord, hcolumns⟩ := horigins.vulnerabilities row hrow
  obtain ⟨c, hc, hof⟩ := List.mem_flatMap.1 hrecord
  exact ⟨record, List.mem_flatMap.2 ⟨c, mem_of_mem_succeeded commits _ hc, hof⟩, hcolumns⟩

/-! ## What a commit leaves -/

/-- Puts the rows of records, of listed packages and of flags into tables. -/
def Tables.putRows (tables : Tables) (records : List Record) (listed : List Listed)
    (flags : List Flag) : Tables where
  keyValues := (flags.filterMap flagRow?).foldl (replaceBy KeyRow.key) tables.keyValues
  vulnerabilities :=
    (records.filterMap Record.row?).foldl (replaceBy VulnerabilityRow.id) tables.vulnerabilities
  affected := (listed.filterMap Listed.row?).foldl (replaceBy AffectedRow.key) tables.affected
  runs := tables.runs

/-- Every statement of a commit puts one row. -/
theorem kept_putRows (before : Tables) :
    Kept fun tables records listed flags => tables = before.putRows records listed flags where
  putVulnerability := by
    rintro _ records listed flags rfl row record hrow
    simp only [Tables.putRows, Tables.putVulnerability, List.filterMap_append,
      List.filterMap_cons_some (Record.row?_eq_some_iff.2 hrow), List.filterMap_nil,
      List.foldl_append, List.foldl_cons, List.foldl_nil]
    rfl
  putAffected := by
    rintro _ records listed flags rfl row package hrow
    simp only [Tables.putRows, Tables.putAffected, List.filterMap_append,
      List.filterMap_cons_some (Listed.row?_eq_some_iff.2 hrow), List.filterMap_nil,
      List.foldl_append, List.foldl_cons, List.foldl_nil]
    rfl
  putKey := by
    rintro _ records listed flags rfl row
    have hrow : flagRow? (some row.key, row.value) = some row := rfl
    simp only [Tables.putRows, Tables.putKey, List.filterMap_append,
      List.filterMap_cons_some hrow, List.filterMap_nil, List.foldl_append, List.foldl_cons,
      List.foldl_nil]
    rfl

/-- The tables after a commit that succeeds. -/
def Commit.put (c : Commit) (tables : Tables) : Tables :=
  tables.putRows c.records (c.records.flatMap Record.listed) c.update.flags

theorem Commit.vulnerabilities_put (c : Commit) (tables : Tables) :
    (c.put tables).vulnerabilities =
      (c.records.filterMap Record.row?).foldl (replaceBy VulnerabilityRow.id)
        tables.vulnerabilities := rfl

theorem Commit.affected_put (c : Commit) (tables : Tables) :
    (c.put tables).affected =
      ((c.records.flatMap Record.listed).filterMap Listed.row?).foldl (replaceBy AffectedRow.key)
        tables.affected := rfl

theorem Commit.put_of_commit {c : Commit} {tables after : Tables}
    (h : commit c.updater c.update c.run tables = .ok after) : after = c.put tables :=
  @Kept.commit _ [] [] (kept_putRows tables) tables after [] rfl c h

/-- A commit succeeds exactly when its update is complete, whatever the tables hold, and then leaves
the tables with its rows. -/
theorem Commit.apply_eq_ok_iff {c : Commit} {tables : Tables} {count : Nat} {database : Database} :
    c.apply (some tables) = (.ok count, database) ↔
      IsComplete c.updater c.update ∧ count = c.update.vulnerabilities.length ∧
        database = some (c.put tables) := by
  rcases commit_eq_firstGap c.updater c.run c.update tables with
    ⟨after, hgaps, hcommit⟩ | ⟨column, rest, hgaps, hcommit⟩
  · have hcomplete := gaps_eq_nil_iff.1 hgaps
    have happly : c.apply (some tables) =
        (.ok c.update.vulnerabilities.length, some (c.put tables)) := by
      simp [Commit.apply, Database.commit, hcommit, Commit.put_of_commit hcommit]
    rw [happly, Prod.mk.injEq, Except.ok.injEq]
    constructor
    · rintro ⟨rfl, rfl⟩
      exact ⟨hcomplete, rfl, rfl⟩
    · rintro ⟨-, rfl, rfl⟩
      exact ⟨rfl, rfl⟩
  · have happly : c.apply (some tables) = (.error (.nullValue column), some tables) := by
      simp [Commit.apply, Database.commit, hcommit]
    rw [happly]
    constructor
    · intro h
      exact absurd (congrArg Prod.fst h) (by simp)
    · rintro ⟨hcomplete, -⟩
      rw [gaps_eq_nil_iff.2 hcomplete] at hgaps
      exact absurd hgaps (by simp)

end AdvisoryFeed.Store
