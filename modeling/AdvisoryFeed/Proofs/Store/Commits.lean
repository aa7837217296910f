import AdvisoryFeed.Proofs.Store.Rows
import AdvisoryFeed.Store.Load

/-!
# Commits that succeed

A commit writes the records of an update and then its flags. It succeeds when both are written to
their end, and what it gives are then the tables after both (`commit_eq_ok`). Records leave the
values of keys alone (`getKey_loadAll`), so after a commit a key has the value of its flag
(`getKey_commit_flag`), or the value from before when there is no flag (`getKey_commit_noFlags`).
-/

namespace AdvisoryFeed.Store

open AdvisoryFeed.Ingest

/-! ## Writing one after the other -/

/-- What comes after an error is not done; what is done to its end is both parts. -/
theorem Written.andThen_eq_none {written : Written} {next : Tables → Written}
    (h : (written.andThen next).error = none) :
    written.error = none ∧ written.andThen next = next written.tables := by
  rw [Written.andThen] at h ⊢
  cases hfirst : written.error with
  | none => exact ⟨rfl, rfl⟩
  | some error => simp [hfirst] at h

/-- What both parts keep is kept. -/
theorem Written.andThen_keeps {α : Type} (shown : Tables → α) {written : Written}
    {next : Tables → Written} (h : ∀ tables, shown (next tables).tables = shown tables) :
    shown (written.andThen next).tables = shown written.tables := by
  rw [Written.andThen]
  cases written.error with
  | none => exact h written.tables
  | some error => rfl

/-- A commit succeeds when its records and flags are written to their end, and gives the tables with
all of them. -/
theorem commit_eq_ok {updater run : Option String} {update : Update} {tables after : Tables}
    (h : commit updater update run tables = .ok after) :
    (loadAll updater run update.vulnerabilities tables).error = none ∧
      (setKeys update.flags
        (loadAll updater run update.vulnerabilities tables).tables).error = none ∧
      after = (setKeys update.flags
        (loadAll updater run update.vulnerabilities tables).tables).tables := by
  unfold commit at h
  dsimp only at h
  split at h
  · next herror =>
    obtain ⟨hload, hboth⟩ := Written.andThen_eq_none herror
    rw [hboth] at herror h
    exact ⟨hload, herror, (Except.ok.inj h).symm⟩
  · exact absurd h (by simp)

/-! ## Values of keys -/

section Keys

variable (updater run : Option String) (key : Option String)

theorem getKey_loadPackages (id : String) (packages : List Package) :
    ∀ tables : Tables,
      (loadPackages id run packages tables).tables.getKey key = tables.getKey key := by
  induction packages with
  | nil =>
    intro tables
    rfl
  | cons package packages ih =>
    intro tables
    rw [loadPackages]
    split
    · rw [ih, Tables.getKey_putAffected]
    · rfl
    · rfl

theorem getKey_loadRecord (vulnerability : Vulnerability) (tables : Tables) :
    (loadRecord updater run vulnerability tables).tables.getKey key = tables.getKey key := by
  unfold loadRecord
  dsimp only
  split
  · rw [getKey_loadPackages, Tables.getKey_putVulnerability]
  · rfl
  · rfl

/-- Writing records leaves the values of keys as they are, also when it ends in an error. -/
theorem getKey_loadAll (vulnerabilities : List Vulnerability) :
    ∀ tables : Tables,
      (loadAll updater run vulnerabilities tables).tables.getKey key = tables.getKey key := by
  induction vulnerabilities with
  | nil =>
    intro tables
    rfl
  | cons vulnerability vulnerabilities ih =>
    intro tables
    rw [loadAll, Written.andThen_keeps (Tables.getKey · key) ih, getKey_loadRecord]

end Keys

section Flags

variable {updater run : Option String} {update : Update} {tables after : Tables}

/-- Without flags a commit leaves the values of keys as they are. -/
theorem getKey_commit_noFlags (h : commit updater update run tables = .ok after)
    (hflags : update.flags = []) (key : Option String) :
    after.getKey key = tables.getKey key := by
  obtain ⟨-, -, rfl⟩ := commit_eq_ok h
  rw [hflags]
  exact getKey_loadAll updater run key update.vulnerabilities tables

/-- A commit with a single flag gives its key the value. -/
theorem getKey_commit_flag (h : commit updater update run tables = .ok after) {key : String}
    {value : Option String} (hflags : update.flags = [(some key, value)]) :
    after.getKey (some key) = value := by
  obtain ⟨-, -, rfl⟩ := commit_eq_ok h
  rw [hflags, setKeys]
  dsimp only [Tables.setKey, setKeys]
  rw [Tables.getKey_putKey]
  simp

end Flags

end AdvisoryFeed.Store
