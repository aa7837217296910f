import AdvisoryFeed.Proofs.Store.CommittedRows

/-!
# Commits that are repeated or reordered

A commit leaves its rows in the place of those with their keys, whatever the tables held before
(`Commit.put`). Taken in twice it therefore leaves what it leaves once. And the order of its
vulnerabilities decides only which of several rows with one key is left: under any order the same
keys are there, and the same rows when the update says nothing twice in different ways
(`IsConsistent`). `Commit.replay` puts this together.
-/

namespace AdvisoryFeed.Store

open AdvisoryFeed.Ingest

/-! ## Tables up to the order of their rows -/

/-- The tables have the same rows, in whatever order. -/
structure Tables.SameRows (tables other : Tables) : Prop where
  vulnerabilities : tables.vulnerabilities.Perm other.vulnerabilities
  affected : tables.affected.Perm other.affected
  keyValues : tables.keyValues.Perm other.keyValues
  runs : tables.runs.Perm other.runs

/-- The tables have the same ids of vulnerabilities and the same keys of packages. -/
structure Tables.SameKeys (tables other : Tables) : Prop where
  ids : ∀ id, id ∈ tables.vulnerabilities.map VulnerabilityRow.id ↔
    id ∈ other.vulnerabilities.map VulnerabilityRow.id
  packages : ∀ key, key ∈ tables.affected.map AffectedRow.key ↔
    key ∈ other.affected.map AffectedRow.key

/-! ## Updates that say nothing twice in different ways -/

/-- What an update says of one id is the same wherever it says it: the vulnerability itself, and
each of its packages. -/
structure IsConsistent (updater : Option String) (vulnerabilities : List Vulnerability) : Prop where
  records : ∀ v ∈ vulnerabilities, ∀ w ∈ vulnerabilities,
    vulnerabilityId updater v.name = vulnerabilityId updater w.name →
      v.name = w.name ∧ v.link = w.link ∧ v.severity = w.severity ∧ v.description = w.description
  packages : ∀ v ∈ vulnerabilities, ∀ package ∈ v.affected,
    ∀ w ∈ vulnerabilities, ∀ other ∈ w.affected,
      vulnerabilityId updater v.name = vulnerabilityId updater w.name →
        package.key = other.key → package = other

section Consistent

variable {c : Commit} (h : IsConsistent c.updater c.update.vulnerabilities)

include h

/-- Rows of vulnerabilities with one id are the same. -/
theorem IsConsistent.rows_eq :
    ∀ row ∈ c.records.filterMap Record.row?, ∀ other ∈ c.records.filterMap Record.row?,
      row.id = other.id → row = other := by
  intro row hrow other hother hid
  -- A row is told by its columns, and these say no more than what is written and by whom.
  obtain ⟨v, hv, hcolumns⟩ := Commit.mem_rows_iff.1 hrow
  obtain ⟨w, hw, hothers⟩ := Commit.mem_rows_iff.1 hother
  apply VulnerabilityRow.columns_injective
  rw [hcolumns, hothers]
  simp only [VulnerabilityRow.columns, Record.columns, List.cons.injEq, Option.some.injEq]
    at hcolumns hothers
  have hids : vulnerabilityId c.updater v.name = vulnerabilityId c.updater w.name :=
    hcolumns.1.symm.trans (hid.trans hothers.1)
  obtain ⟨hname, hlink, hseverity, hdescription⟩ := h.records v hv w hw hids
  simp only [Record.columns, Record.id, hname, hlink, hseverity, hdescription]

/-- Rows of packages with one key are the same. -/
theorem IsConsistent.packageRows_eq :
    ∀ row ∈ (c.records.flatMap Record.listed).filterMap Listed.row?,
      ∀ other ∈ (c.records.flatMap Record.listed).filterMap Listed.row?,
        row.key = other.key → row = other := by
  intro row hrow other hother hkey
  obtain ⟨v, hv, package, hpackage, hcolumns⟩ := Commit.mem_packageRows_iff.1 hrow
  obtain ⟨w, hw, second, hsecond, hothers⟩ := Commit.mem_packageRows_iff.1 hother
  apply AffectedRow.columns_injective
  rw [hcolumns, hothers]
  simp only [AffectedRow.columns, Listed.columns, List.cons.injEq, Option.some.injEq]
    at hcolumns hothers
  obtain ⟨hid, hplatform, -, hfeature, -⟩ := hcolumns
  obtain ⟨hotherId, hotherPlatform, -, hotherFeature, -⟩ := hothers
  obtain ⟨hsameId, hsamePlatform, hsameFeature⟩ :
      row.id = other.id ∧ row.platform = other.platform ∧ row.feature = other.feature := by
    simpa [AffectedRow.key] using hkey
  have hids : vulnerabilityId c.updater v.name = vulnerabilityId c.updater w.name :=
    hid.symm.trans (hsameId.trans hotherId)
  have hkeys : package.key = second.key := by
    rw [Package.key, Package.key, ← hplatform, ← hfeature, ← hotherPlatform, ← hotherFeature,
      hsamePlatform, hsameFeature]
  obtain rfl := h.packages v hv package hpackage w hw second hsecond hids hkeys
  simp only [Listed.columns, Record.id, hids]

end Consistent

/-! ## Other orders -/

/-- The commit with other vulnerabilities. -/
def Commit.withVulnerabilities (c : Commit) (vulnerabilities : List Vulnerability) : Commit :=
  { c with update := { c.update with vulnerabilities := vulnerabilities } }

section Reordered

variable {c : Commit} {vulnerabilities : List Vulnerability}
  (hperm : vulnerabilities.Perm c.update.vulnerabilities)

include hperm

theorem IsComplete.withVulnerabilities (h : IsComplete c.updater c.update) :
    IsComplete (c.withVulnerabilities vulnerabilities).updater
      (c.withVulnerabilities vulnerabilities).update where
  updater := by
    intro hne
    refine h.updater fun hnil => hne ?_
    rw [hnil] at hperm
    exact hperm.eq_nil
  names v hv := h.names v (hperm.mem_iff.1 hv)
  packages v hv := h.packages v (hperm.mem_iff.1 hv)
  flags := h.flags

theorem Commit.perm_records :
    c.records.Perm (c.withVulnerabilities vulnerabilities).records :=
  (hperm.map _).symm

/-- Under any order of the vulnerabilities the same keys are written. -/
theorem Commit.sameKeys_put (tables : Tables) :
    (c.put tables).SameKeys ((c.withVulnerabilities vulnerabilities).put tables) where
  ids id := by
    have hrows := (Commit.perm_records hperm).filterMap Record.row?
    rw [Commit.vulnerabilities_put, Commit.vulnerabilities_put, mem_map_foldl_replaceBy_iff,
      mem_map_foldl_replaceBy_iff, (hrows.map _).mem_iff]
  packages key := by
    have hrows := ((Commit.perm_records hperm).flatMap_right Record.listed).filterMap Listed.row?
    rw [Commit.affected_put, Commit.affected_put, mem_map_foldl_replaceBy_iff,
      mem_map_foldl_replaceBy_iff, (hrows.map _).mem_iff]

/-- Under any order of the vulnerabilities the same rows are left when the update is consistent. -/
theorem Commit.sameRows_put (hsame : IsConsistent c.updater c.update.vulnerabilities)
    (tables : Tables) :
    (c.put tables).SameRows ((c.withVulnerabilities vulnerabilities).put tables) where
  vulnerabilities :=
    perm_foldl_replaceBy tables.vulnerabilities
      ((Commit.perm_records hperm).filterMap Record.row?) hsame.rows_eq
  affected :=
    perm_foldl_replaceBy tables.affected
      (((Commit.perm_records hperm).flatMap_right Record.listed).filterMap Listed.row?)
      hsame.packageRows_eq
  keyValues := List.Perm.refl _
  runs := List.Perm.refl _

end Reordered

/-! ## Commits once more -/

theorem Commit.put_put (c : Commit) (tables : Tables) : c.put (c.put tables) = c.put tables := by
  simp only [Commit.put, Tables.putRows, foldl_replaceBy_idem]

/-- A commit that succeeds, on tables with whatever rows, succeeds once more and then changes
nothing. With its vulnerabilities in any other order it succeeds as well, and leaves the same ids of
vulnerabilities and the same keys of packages; and the same rows when the update says nothing twice
in different ways. -/
theorem Commit.replay {c : Commit} {tables after : Tables} {count : Nat}
    (h : c.apply (some tables) = (.ok count, some after)) :
    c.apply (some after) = (.ok count, some after) ∧
    ∀ vulnerabilities : List Vulnerability, vulnerabilities.Perm c.update.vulnerabilities →
      ∃ other, (c.withVulnerabilities vulnerabilities).apply (some tables) =
          (.ok count, some other) ∧
        after.SameKeys other ∧
        (IsConsistent c.updater c.update.vulnerabilities → after.SameRows other) := by
  obtain ⟨hcomplete, rfl, hafter⟩ := Commit.apply_eq_ok_iff.1 h
  obtain rfl := Option.some.inj hafter
  constructor
  · rw [Commit.apply_eq_ok_iff, Commit.put_put]
    exact ⟨hcomplete, rfl, rfl⟩
  · intro vulnerabilities hperm
    refine ⟨(c.withVulnerabilities vulnerabilities).put tables, ?_, ?_, ?_⟩
    · rw [Commit.apply_eq_ok_iff]
      exact ⟨hcomplete.withVulnerabilities hperm, hperm.length_eq.symm, rfl⟩
    · exact Commit.sameKeys_put hperm tables
    · intro hsame
      exact Commit.sameRows_put hperm hsame tables

/-! ## Records of one id, on tables with rows that nobody has written -/

/-- Tables with two rows under one id, and with a package of no vulnerability. -/
def strayTables : Tables where
  keyValues := [⟨"k", none⟩, ⟨"k", some "1"⟩]
  vulnerabilities :=
    [⟨"0", "", "stray", none, none, none, none⟩, ⟨"0", "", "stray", none, none, none, some "r"⟩]
  affected := [⟨"1", "", none, "stray", none, none, none, none⟩]
  runs := []

/-- A vulnerability with one package. -/
def listedOnce (name feature : String) : Vulnerability :=
  ⟨some name, none, .unknown, none,
    [⟨some "oracle:7", some feature, "4.2", rpmFormat, binaryKind, vulnerableMark⟩]⟩

/-- One vulnerability twice, with different packages, and another one between. -/
def repeatedCommit : Commit where
  updater := some "oracle"
  update :=
    { Update.empty with
      vulnerabilities := [listedOnce "A" "bash", listedOnce "B" "bash", listedOnce "A" "zsh"]
      flags := [(some "k", some "2")] }
  run := some "r"

/-- Rows that nobody has written stay, and in the opposite order the commit leaves the same rows. -/
theorem replay_repeatedCommit :
    ∃ after, repeatedCommit.apply (some strayTables) = (.ok 3, some after) ∧
      after.vulnerabilities.map VulnerabilityRow.name = ["stray", "stray", "B", "A"] ∧
      repeatedCommit.apply (some after) = (.ok 3, some after) ∧
      ∃ other, (repeatedCommit.withVulnerabilities
          repeatedCommit.update.vulnerabilities.reverse).apply (some strayTables) =
            (.ok 3, some other) ∧
        after.SameKeys other ∧ after.SameRows other := by
  have hcomplete : IsComplete repeatedCommit.updater repeatedCommit.update := by decide +kernel
  have happly : repeatedCommit.apply (some strayTables) =
      (.ok 3, some (repeatedCommit.put strayTables)) :=
    Commit.apply_eq_ok_iff.2 ⟨hcomplete, rfl, rfl⟩
  have hnames : (repeatedCommit.put strayTables).vulnerabilities.map VulnerabilityRow.name =
      ["stray", "stray", "B", "A"] := by decide +kernel
  have hsame : IsConsistent repeatedCommit.updater repeatedCommit.update.vulnerabilities :=
    ⟨by decide +kernel, by decide +kernel⟩
  obtain ⟨hagain, hreordered⟩ := Commit.replay happly
  obtain ⟨other, hother, hkeys, hrows⟩ := hreordered _ (List.reverse_perm _)
  exact ⟨_, happly, hnames, hagain, other, hother, hkeys, hrows hsame⟩

end AdvisoryFeed.Store
