import AdvisoryFeed.Proofs.Ingest.Advance
import AdvisoryFeed.Proofs.Ingest.Provenance
import AdvisoryFeed.Proofs.Quality.Checks
import AdvisoryFeed.Proofs.Store.Atomicity
import AdvisoryFeed.Proofs.Store.LastWriter

/-!
# References between tables

No constraint ties packages to vulnerabilities. Tables are `Linked` when every vulnerability has a
package and every package a vulnerability. Tables that reflect commits have a vulnerability for each
id that was committed, and a package for each id, platform and feature that was listed
(`Reflects.exists_vulnerability_iff`, `Reflects.exists_affected_iff`), so they are linked as soon as
every record that was committed lists a package with a platform and a feature.

Both follow for the updates that sources give: a source builds no record without packages, and what
was committed has no gaps. So any commits of such updates leave linked tables (`linked_commitAll`).
-/

namespace AdvisoryFeed.Store

open AdvisoryFeed.Http AdvisoryFeed.Ingest AdvisoryFeed.Quality

/-- Every vulnerability has a package, and every package has a vulnerability. -/
structure Tables.Linked (tables : Tables) : Prop where
  packaged : ∀ row ∈ tables.vulnerabilities, ∃ package ∈ tables.affected, package.id = row.id
  owned : ∀ package ∈ tables.affected, ∃ row ∈ tables.vulnerabilities, row.id = package.id

/-! ## Rows and what was written -/

theorem lastBy?_isSome_iff {α κ : Type} [BEq κ] [LawfulBEq κ] {key : α → κ} {k : κ}
    {items : List α} : (lastBy? key k items).isSome ↔ ∃ item ∈ items, key item = k := by
  rw [lastBy?, List.find?_isSome]
  simp

section Reflected

variable {tables : Tables} {records : List Record} {listed : List Listed} {flags : List Flag}

/-- The ids of vulnerabilities are those of the records. -/
theorem Reflects.exists_vulnerability_iff (h : Reflects tables records listed flags) (id : String) :
    (∃ row ∈ tables.vulnerabilities, row.id = id) ↔ ∃ record ∈ records, record.id = id := by
  have hshown := congrArg Option.isSome (h.vulnerability id)
  rw [Tables.vulnerability?, Option.isSome_map, Option.isSome_map, Bool.eq_iff_iff,
    List.find?_isSome, lastBy?_isSome_iff] at hshown
  simpa using hshown

/-- The keys of packages are those that were listed. -/
theorem Reflects.exists_affected_iff (h : Reflects tables records listed flags)
    (id platform feature : String) :
    (∃ row ∈ tables.affected, row.key = (id, platform, feature)) ↔
      ∃ item ∈ listed, item.key = (id, some platform, some feature) := by
  have hshown := congrArg Option.isSome (h.affected id platform feature)
  rw [Tables.affected?, Option.isSome_map, Option.isSome_map, Bool.eq_iff_iff,
    List.find?_isSome, lastBy?_isSome_iff] at hshown
  simpa using hshown

end Reflected

theorem mem_flatMap_listed_iff {item : Listed} {records : List Record} :
    item ∈ records.flatMap Record.listed ↔
      item.record ∈ records ∧ item.package ∈ item.record.vulnerability.affected := by
  rw [List.mem_flatMap]
  constructor
  · rintro ⟨record, hrecord, hitem⟩
    obtain ⟨package, hpackage, rfl⟩ := List.mem_map.1 hitem
    exact ⟨hrecord, hpackage⟩
  · rintro ⟨hrecord, hpackage⟩
    exact ⟨item.record, hrecord, List.mem_map.2 ⟨item.package, hpackage, rfl⟩⟩

/-- Tables are linked when each record that was committed lists a package, and no package lacks its
platform or its feature. -/
theorem HoldsOf.linked {tables : Tables} {commits : List Commit}
    (h : HoldsOf Reflects tables commits)
    (hcomplete : ∀ c ∈ commits, IsComplete c.updater c.update)
    (hpackaged : ∀ c ∈ commits, ∀ vulnerability ∈ c.update.vulnerabilities,
      vulnerability.affected ≠ []) : tables.Linked := by
  have hreflects : Reflects tables (commits.flatMap Commit.records)
      ((commits.flatMap Commit.records).flatMap Record.listed)
      (commits.flatMap (·.update.flags)) := h
  constructor
  · intro row hrow
    obtain ⟨record, hrecord, hid⟩ := (hreflects.exists_vulnerability_iff row.id).1 ⟨row, hrow, rfl⟩
    -- The record comes from a commit, which says that it lists a package and names its key.
    obtain ⟨c, hc, hof⟩ := List.mem_flatMap.1 hrecord
    obtain ⟨vulnerability, hvulnerability, rfl⟩ := List.mem_map.1 hof
    obtain ⟨package, hpackage⟩ :=
      List.exists_mem_of_ne_nil _ (hpackaged c hc vulnerability hvulnerability)
    obtain ⟨hplatform, hfeature⟩ :=
      (hcomplete c hc).packages vulnerability hvulnerability package hpackage
    obtain ⟨platform, hplatform⟩ := Option.ne_none_iff_exists'.1 hplatform
    obtain ⟨feature, hfeature⟩ := Option.ne_none_iff_exists'.1 hfeature
    have hitem : (⟨⟨c.updater, c.run, vulnerability⟩, package⟩ : Listed) ∈
        (commits.flatMap Commit.records).flatMap Record.listed :=
      mem_flatMap_listed_iff.2 ⟨hrecord, hpackage⟩
    obtain ⟨stored, hstored, hkey⟩ :=
      (hreflects.exists_affected_iff row.id platform feature).2
        ⟨_, hitem, by rw [Listed.key, hid, hplatform, hfeature]⟩
    exact ⟨stored, hstored, congrArg Prod.fst hkey⟩
  · intro stored hstored
    obtain ⟨item, hitem, hkey⟩ :=
      (hreflects.exists_affected_iff stored.id stored.platform stored.feature).1
        ⟨stored, hstored, rfl⟩
    have hrecord := (mem_flatMap_listed_iff.1 hitem).1
    exact (hreflects.exists_vulnerability_iff stored.id).2
      ⟨item.record, hrecord, congrArg Prod.fst hkey⟩

/-! ## Commits that succeed -/

/-- What has succeeded was complete. -/
theorem isComplete_of_mem_succeeded {c : Commit} (commits : List Commit) :
    ∀ tables : Tables, c ∈ succeeded commits (some tables) → IsComplete c.updater c.update := by
  induction commits with
  | nil =>
    intro tables h
    exact absurd h List.not_mem_nil
  | cons first commits ih =>
    intro tables h
    rw [succeeded] at h
    rcases first.apply_some tables with ⟨next, hcommit, hok, hnext⟩ | ⟨hfail, hnext⟩
    · rw [if_pos hok, hnext] at h
      rcases List.mem_cons.1 h with rfl | hlater
      · exact isComplete_of_commit hcommit
      · exact ih next hlater
    · rw [if_neg (by simp [hfail]), hnext] at h
      exact ih tables h

/-- Whatever sources give, and whichever updaters commit it: commits to a database with empty tables
leave linked tables, also when some of them fail, and the checks of both references count nothing. -/
theorem linked_commitAll (commits : List Commit)
    (hgiven : ∀ c ∈ commits, ∃ source : Source, source.Gives c.update) :
    ∃ tables, commitAll commits (some Tables.empty) = some tables ∧ tables.Linked ∧
      (vulnerabilitiesHavePackages tables).IsClean "missing_count" ∧
      (noOrphanPackages tables).IsClean "orphan_count" := by
  obtain ⟨tables, htables, hreflects⟩ :=
    kept_reflects.commitAll commits [] Tables.empty reflects_empty
  rw [List.nil_append] at hreflects
  have hlinked : tables.Linked := by
    apply hreflects.linked
    · intro c hc
      exact isComplete_of_mem_succeeded commits Tables.empty hc
    · intro c hc vulnerability hvulnerability
      obtain ⟨source, hgives⟩ := hgiven c (mem_of_mem_succeeded commits _ hc)
      exact (hgives.builds hvulnerability).affected_ne_nil
  exact ⟨tables, htables, hlinked, isClean_vulnerabilitiesHavePackages_iff.2 hlinked.packaged,
    isClean_noOrphanPackages_iff.2 hlinked.owned⟩

/-! ## A record with a package -/

/-- The default source under a short address, with a cursor that starts at zero. -/
def bashSource : Source :=
  { oracleSource with baseUrl := "u/", filePrefix := "a-", baseline := 0 }

/-- A document with one advisory, of which one package is affected. -/
def bashDocument : String :=
  "<oval_definitions><definitions><definition><metadata><title>E</title></metadata>" ++
  "<criteria operator='AND'><criterion comment='Oracle Linux 7 is installed'/>" ++
  "<criterion comment='bash is earlier than 4.2'/></criteria></definition></definitions>" ++
  "</oval_definitions>"

/-- A session in which the document is listed. -/
def bashSession : Session where
  client := clientOf [] 0.0
  network :=
    { feed := [("u/", [.response ⟨200, [], "a-5.xml".toUTF8.toList⟩]),
        ("u/a-5.xml", [.response ⟨200, [], bashDocument.toUTF8.toList⟩])]
      clock := 0.0
      now := ⟨2024, 1, 1, 0, 0, 0, 0⟩
      machine := Machine.system
      jitter := fun _ => 0.0
      calls := []
      sleeps := [] }

/-- The update that takes in the document. -/
def bashUpdate : Update where
  vulnerabilities :=
    [⟨some "E", some "", .unknown, some "",
      [⟨some "oracle:7", some "bash", "4.2", rpmFormat, binaryKind, vulnerableMark⟩]⟩]
  flags := [(bashSource.cursorKey, some "5")]
  candidates := [5]
  advisoriesDecoded := 1
  possibilitiesDiscarded := 0

/-- The update is committed, and once more by an updater without a name, which fails. -/
def bashCommits : List Commit :=
  [⟨some oracleId, bashUpdate, some "r"⟩, ⟨none, bashUpdate, some "s"⟩]

theorem linked_commitAll_bash :
    (∀ c ∈ bashCommits, ∃ source : Source, source.Gives c.update) ∧
      ∃ tables, commitAll bashCommits (some Tables.empty) = some tables ∧
        tables.vulnerabilities.map VulnerabilityRow.name = ["E"] ∧ tables.Linked ∧
        (vulnerabilitiesHavePackages tables).IsClean "missing_count" ∧
        (noOrphanPackages tables).IsClean "orphan_count" := by
  have hupdate : (bashSource.update none bashSession).1 = .ok bashUpdate := by decide +kernel
  have hgives : bashSource.Gives bashUpdate :=
    ⟨none, bashSession, bashUpdate, hupdate, List.Perm.refl _, rfl⟩
  have hgiven : ∀ c ∈ bashCommits, ∃ source : Source, source.Gives c.update := by
    intro c hc
    have hsame : c.update = bashUpdate := by
      simp only [bashCommits, List.mem_cons, List.not_mem_nil, or_false] at hc
      rcases hc with rfl | rfl <;> rfl
    exact ⟨bashSource, by rw [hsame]; exact hgives⟩
  have hnames : (commitAll bashCommits (some Tables.empty)).map
      (fun tables => tables.vulnerabilities.map VulnerabilityRow.name) = some ["E"] := by
    decide +kernel
  obtain ⟨tables, htables, hlinked, hpackaged, howned⟩ := linked_commitAll bashCommits hgiven
  rw [htables] at hnames
  exact ⟨hgiven, tables, htables, Option.some.inj hnames, hlinked, hpackaged, howned⟩

end AdvisoryFeed.Store
