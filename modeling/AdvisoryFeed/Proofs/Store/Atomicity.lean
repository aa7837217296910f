import AdvisoryFeed.Proofs.Store.Commits
import AdvisoryFeed.Store.Database

/-!
# Commits are atomic

Some columns must have a value. The `gaps` of an update are those for which it gives none, in the
order in which they would be written. Every statement of a commit fails exactly when what it writes
has a gap, so the first gap of the update is the error of the commit, wherever it stands
(`commit_eq_firstGap`). An update without gaps is complete (`IsComplete`, `gaps_eq_nil_iff`).

`Database.commit_atomic` joins the two: a commit succeeds exactly when the update is complete, and
otherwise leaves the database as it was.
-/

namespace AdvisoryFeed.Store

open AdvisoryFeed.Ingest

/-! ## Gaps -/

/-- A column that must have a value, if it has none. -/
def gap (column : String) (value : Option String) : List String :=
  if value.isNone then [column] else []

/-- The gaps of a package. -/
def packageGaps (package : Package) : List String :=
  gap "vulnerability_affected.namespace" package.platform ++
    gap "vulnerability_affected.feature_name" package.feature

/-- The gaps of a vulnerability and its packages. -/
def recordGaps (updater : Option String) (vulnerability : Vulnerability) : List String :=
  gap "vulnerabilities.updater" updater ++ gap "vulnerabilities.name" vulnerability.name ++
    vulnerability.affected.flatMap packageGaps

/-- The gaps of a flag. -/
def flagGaps (flag : Option String × Option String) : List String :=
  gap "key_values.key" flag.1

/-- The gaps of an update, in the order in which they would be written. -/
def gaps (updater : Option String) (update : Update) : List String :=
  update.vulnerabilities.flatMap (recordGaps updater) ++ update.flags.flatMap flagGaps

@[simp] theorem gap_none (column : String) : gap column none = [column] := rfl

@[simp] theorem gap_some (column value : String) : gap column (some value) = [] := rfl

theorem gap_eq_nil_iff {column : String} {value : Option String} :
    gap column value = [] ↔ value ≠ none := by
  cases value with
  | none => simp
  | some value => simp

/-- The error of a statement that meets gaps: it names the first of them. -/
def gapError (columns : List String) : Option StoreError :=
  columns.head?.map .nullValue

@[simp] theorem gapError_nil : gapError [] = none := rfl

@[simp] theorem gapError_cons (column : String) (columns : List String) :
    gapError (column :: columns) = some (.nullValue column) := rfl

theorem gapError_append (columns more : List String) :
    gapError (columns ++ more) = (gapError columns).or (gapError more) := by
  cases columns with
  | nil => simp
  | cons column columns => simp

/-! ## Errors of statements -/

/-- The error of two parts is the error of the first part, or else that of the second. -/
theorem Written.error_andThen (written : Written) (next : Tables → Written) :
    (written.andThen next).error = written.error.or (next written.tables).error := by
  rw [Written.andThen]
  cases herror : written.error with
  | none => simp
  | some error => simp [herror]

section Errors

variable (updater run : Option String)

theorem error_loadPackages (id : String) (packages : List Package) :
    ∀ tables : Tables,
      (loadPackages id run packages tables).error = gapError (packages.flatMap packageGaps) := by
  induction packages with
  | nil =>
    intro tables
    rfl
  | cons package packages ih =>
    intro tables
    rw [loadPackages, List.flatMap_cons, packageGaps]
    -- The platform is checked first, then the feature; with both the package is written.
    cases package.platform with
    | none => simp
    | some platform =>
      cases package.feature with
      | none => simp
      | some feature => simpa using ih _

theorem error_loadRecord (vulnerability : Vulnerability) (tables : Tables) :
    (loadRecord updater run vulnerability tables).error =
      gapError (recordGaps updater vulnerability) := by
  unfold loadRecord recordGaps
  -- The older row is erased before these checks, so a failing record has changed the tables by then.
  cases updater with
  | none => simp
  | some updater =>
    cases hname : vulnerability.name with
    | none => simp
    | some name => simpa using error_loadPackages run _ vulnerability.affected _

theorem error_loadAll (vulnerabilities : List Vulnerability) :
    ∀ tables : Tables, (loadAll updater run vulnerabilities tables).error =
      gapError (vulnerabilities.flatMap (recordGaps updater)) := by
  induction vulnerabilities with
  | nil =>
    intro tables
    rfl
  | cons vulnerability vulnerabilities ih =>
    intro tables
    rw [loadAll, Written.error_andThen, error_loadRecord, ih, List.flatMap_cons, gapError_append]

theorem error_setKeys (flags : List (Option String × Option String)) :
    ∀ tables : Tables, (setKeys flags tables).error = gapError (flags.flatMap flagGaps) := by
  induction flags with
  | nil =>
    intro tables
    rfl
  | cons flag flags ih =>
    intro tables
    obtain ⟨key, value⟩ := flag
    rw [setKeys, List.flatMap_cons, flagGaps]
    cases key with
    | none => simp [Tables.setKey]
    | some key => simpa [Tables.setKey] using ih _

/-- A commit fails with the first gap of the update, and succeeds when there is none. -/
theorem commit_eq_firstGap (update : Update) (tables : Tables) :
    (∃ after, gaps updater update = [] ∧ commit updater update run tables = .ok after) ∨
      ∃ column rest, gaps updater update = column :: rest ∧
        commit updater update run tables = .error (.nullValue column) := by
  obtain ⟨written, hwritten⟩ : ∃ written, written =
      (loadAll updater run update.vulnerabilities tables).andThen (setKeys update.flags) :=
    ⟨_, rfl⟩
  -- The keys are set only after all records, so their gaps come last.
  have herror : written.error = gapError (gaps updater update) := by
    rw [hwritten, Written.error_andThen, error_loadAll, error_setKeys, gaps, gapError_append]
  rw [commit, ← hwritten]
  cases hgaps : gaps updater update with
  | nil =>
    rw [hgaps, gapError_nil] at herror
    exact Or.inl ⟨written.tables, rfl, by simp [herror]⟩
  | cons column rest =>
    rw [hgaps, gapError_cons] at herror
    exact Or.inr ⟨column, rest, rfl, by simp [herror]⟩

end Errors

/-! ## Complete updates -/

/-- An update gives a value for every column that must have one. -/
structure IsComplete (updater : Option String) (update : Update) : Prop where
  updater : update.vulnerabilities ≠ [] → updater ≠ none
  names : ∀ vulnerability ∈ update.vulnerabilities, vulnerability.name ≠ none
  packages : ∀ vulnerability ∈ update.vulnerabilities, ∀ package ∈ vulnerability.affected,
    package.platform ≠ none ∧ package.feature ≠ none
  flags : ∀ flag ∈ update.flags, flag.1 ≠ none

theorem packageGaps_eq_nil_iff {package : Package} :
    packageGaps package = [] ↔ package.platform ≠ none ∧ package.feature ≠ none := by
  rw [packageGaps, List.append_eq_nil_iff, gap_eq_nil_iff, gap_eq_nil_iff]

theorem recordGaps_eq_nil_iff {updater : Option String} {vulnerability : Vulnerability} :
    recordGaps updater vulnerability = [] ↔ updater ≠ none ∧ vulnerability.name ≠ none ∧
      ∀ package ∈ vulnerability.affected, package.platform ≠ none ∧ package.feature ≠ none := by
  simp only [recordGaps, List.append_eq_nil_iff, gap_eq_nil_iff, List.flatMap_eq_nil_iff,
    packageGaps_eq_nil_iff, and_assoc]

theorem gaps_eq_nil_iff {updater : Option String} {update : Update} :
    gaps updater update = [] ↔ IsComplete updater update := by
  simp only [gaps, List.append_eq_nil_iff, List.flatMap_eq_nil_iff, recordGaps_eq_nil_iff,
    flagGaps, gap_eq_nil_iff]
  constructor
  · rintro ⟨hrecords, hflags⟩
    refine ⟨?_, ?_, ?_, hflags⟩
    · -- Any record will do, for all of them have the same updater.
      intro hne
      obtain ⟨vulnerability, hmem⟩ := List.exists_mem_of_ne_nil _ hne
      exact (hrecords vulnerability hmem).1
    · intro vulnerability hmem
      exact (hrecords vulnerability hmem).2.1
    · intro vulnerability hmem
      exact (hrecords vulnerability hmem).2.2
  · intro h
    refine ⟨?_, h.flags⟩
    intro vulnerability hmem
    exact ⟨h.updater (List.ne_nil_of_mem hmem), h.names vulnerability hmem,
      h.packages vulnerability hmem⟩

instance (updater : Option String) (update : Update) : Decidable (IsComplete updater update) :=
  decidable_of_iff (gaps updater update = []) gaps_eq_nil_iff

/-- What is committed was complete. -/
theorem isComplete_of_commit {updater run : Option String} {update : Update}
    {tables after : Tables} (h : commit updater update run tables = .ok after) :
    IsComplete updater update := by
  rcases commit_eq_firstGap updater run update tables with
    ⟨-, hnone, -⟩ | ⟨column, rest, -, hfail⟩
  · exact gaps_eq_nil_iff.1 hnone
  · rw [hfail] at h
    exact absurd h (by simp)

/-- A commit succeeds exactly when the update is complete, and then gives the number of its
vulnerabilities. Otherwise it fails with the first gap, wherever that stands, and the database is
what it was before. -/
theorem Database.commit_atomic (tables : Tables) (updater run : Option String) (update : Update) :
    let result := Database.commit (some tables) updater update run
    ((∃ count, result.1 = .ok count) ↔ IsComplete updater update) ∧
    (∀ count, result.1 = .ok count → count = update.vulnerabilities.length) ∧
    (¬ IsComplete updater update → ∃ column, (gaps updater update).head? = some column ∧
      result = (.error (.nullValue column), some tables)) := by
  intro result
  rcases commit_eq_firstGap updater run update tables with
    ⟨after, hnone, hcommit⟩ | ⟨column, rest, hgaps, hcommit⟩
  · have hcomplete := gaps_eq_nil_iff.1 hnone
    have hresult : result = (.ok update.vulnerabilities.length, some after) := by
      simp [result, Database.commit, hcommit]
    rw [hresult]
    refine ⟨⟨fun _ => hcomplete, fun _ => ⟨_, rfl⟩⟩, ?_, fun hnot => absurd hcomplete hnot⟩
    intro count hcount
    exact (Except.ok.inj hcount).symm
  · have hnot : ¬ IsComplete updater update := by
      intro hcomplete
      rw [gaps_eq_nil_iff.2 hcomplete] at hgaps
      exact absurd hgaps (by simp)
    have hresult : result = (.error (.nullValue column), some tables) := by
      simp [result, Database.commit, hcommit]
    rw [hresult]
    refine ⟨⟨?_, fun hcomplete => absurd hcomplete hnot⟩, ?_, ?_⟩
    · rintro ⟨count, hcount⟩
      exact absurd hcount (by simp)
    · intro count hcount
      exact absurd hcount (by simp)
    · intro _
      exact ⟨column, by rw [hgaps, List.head?_cons], rfl⟩

end AdvisoryFeed.Store
