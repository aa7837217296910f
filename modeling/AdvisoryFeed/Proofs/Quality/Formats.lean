import AdvisoryFeed.Proofs.Extraction.Merge
import AdvisoryFeed.Proofs.Extraction.Resolution
import AdvisoryFeed.Proofs.Store.CommittedRows
import AdvisoryFeed.Proofs.Store.References

/-!
# Formats of what documents give

The names and the platforms that are checked come from free text: a name from a title or from an
item of an advisory, a platform from the number behind the name of a distribution. Nothing on the
way from a document to the tables refuses an empty name or a negative number.

Every stored row is one that was written (`Origins`), so what is stored of a document has the names
and the releases of its advisories (`Source.recordNames`, `Source.releases`). When none of these
names is empty, the check of names passes, and when none of these releases is negative, the check of
platforms does (`commit_passes_formats`). Records without a name share one id, so they leave a
single row.
-/

namespace AdvisoryFeed

open AdvisoryFeed.Decimal AdvisoryFeed.Text

/-! ## Names of records -/

/-- The names of the records of an advisory: those of the vulnerabilities that it lists, or its own
when it lists none. -/
def Advisory.recordNames (advisory : Advisory) : List String :=
  if advisory.cves.isEmpty then [advisory.name]
  else advisory.cves.map fun cve => String.ofList (strip cve.id.toList)

/-- The names of records are stripped, so they are blank only when they are empty. -/
theorem Advisory.isBlankName_iff {advisory : Advisory} {name : String}
    (h : name ∈ advisory.recordNames) : Quality.isBlankName name = true ↔ name = "" := by
  obtain ⟨s, rfl⟩ : ∃ s, name = String.ofList (strip s) := by
    rw [Advisory.recordNames] at h
    split at h
    · exact ⟨_, List.mem_singleton.1 h⟩
    · obtain ⟨cve, -, rfl⟩ := List.mem_map.1 h
      exact ⟨_, rfl⟩
  rw [Quality.isBlankName_strip_iff, ← String.toList_eq_nil_iff, String.toList_ofList]

/-- The records of an advisory that affects packages have its names, in their order. -/
theorem Advisory.map_name_vulnerabilities (advisory : Advisory) (affected : List Package)
    (source : Option String) :
    (advisory.vulnerabilities affected source).1.map Vulnerability.name =
      if affected.isEmpty then [] else advisory.recordNames.map some := by
  rw [Advisory.vulnerabilities, Advisory.recordNames]
  split
  · rfl
  · dsimp only
    split
    · rfl
    · rw [List.map_map, List.map_map, List.map_map]
      rfl

/-! ## Platforms of packages -/

/-- The releases of the packages that a condition names. -/
def Extractor.releases (extractor : Extractor) (criteria : Criteria) : List Int :=
  (criteria.possibilities extractor.ignored).filterMap fun possibility =>
    (extractor.resolve possibility).1.bind fun _ => (extractor.readAll possibility).1.release

/-- A package that a condition names has a platform of one of its releases. -/
theorem Extractor.platform_of_mem_packages {extractor : Extractor} {criteria : Criteria}
    {package : Package} (h : package ∈ (extractor.extract criteria).1.packages) :
    ∃ release ∈ extractor.releases criteria,
      package.platform = some (extractor.family ++ ":" ++ showInt release) ∧
      package.feature ≠ none := by
  obtain ⟨possibility, hmem, hresolve⟩ := extractor.exists_possibility_of_mem_packages h
  have hpackage : extractor.packageOf? (extractor.readAll possibility).1 = some package := hresolve
  obtain ⟨release, version, hrelease, -, -, rfl⟩ :=
    extractor.packageOf?_eq_some_iff.1 hpackage
  refine ⟨release, List.mem_filterMap.2 ⟨possibility, hmem, ?_⟩, rfl, by simp [packageFor]⟩
  rw [hresolve]
  exact hrelease

end AdvisoryFeed

namespace AdvisoryFeed.Ingest

open AdvisoryFeed.Decimal

section Records

variable (source : Source) (advisories : List Advisory)

/-- The names of the records that advisories give. An advisory that affects no package gives none. -/
def Source.recordNames : List String :=
  advisories.flatMap fun advisory =>
    if (source.extractor.extract advisory.criteria).1.packages.isEmpty then []
    else advisory.recordNames

/-- The releases of the packages that advisories affect. -/
def Source.releases : List Int :=
  advisories.flatMap fun advisory => source.extractor.releases advisory.criteria

variable {source advisories}

theorem Source.map_name_yieldOfAll :
    (source.yieldOfAll advisories).1.vulnerabilities.map Vulnerability.name =
      (source.recordNames advisories).map some := by
  rw [Source.vulnerabilities_yieldOfAll, Source.recordNames, List.map_flatMap, List.map_flatMap]
  congr 1
  funext advisory
  rw [Source.yieldOf]
  dsimp only
  rw [Advisory.map_name_vulnerabilities]
  split <;> rfl

/-- A name is one of the advisories exactly when a record has it. -/
theorem Source.mem_recordNames_iff {name : String} :
    name ∈ source.recordNames advisories ↔
      ∃ vulnerability ∈ (source.yieldOfAll advisories).1.vulnerabilities,
        vulnerability.name = some name := by
  rw [← List.mem_map_of_injective (Option.some_injective String), ← Source.map_name_yieldOfAll,
    List.mem_map]

/-- A record that advisories give has one of their names, and platforms of their releases. -/
theorem Source.record_of_mem_yieldOfAll {vulnerability : Vulnerability}
    (h : vulnerability ∈ (source.yieldOfAll advisories).1.vulnerabilities) :
    (∃ name ∈ source.recordNames advisories, vulnerability.name = some name) ∧
      ∀ package ∈ vulnerability.affected, ∃ release ∈ source.releases advisories,
        package.platform = some (source.extractor.family ++ ":" ++ showInt release) ∧
        package.feature ≠ none := by
  constructor
  · have hname : vulnerability.name ∈ (source.recordNames advisories).map some := by
      rw [← Source.map_name_yieldOfAll]
      exact List.mem_map_of_mem h
    obtain ⟨name, hmem, heq⟩ := List.mem_map.1 hname
    exact ⟨name, hmem, heq.symm⟩
  · intro package hpackage
    rw [Source.vulnerabilities_yieldOfAll, List.mem_flatMap] at h
    obtain ⟨advisory, hadvisory, hrecord⟩ := h
    rw [(Advisory.affected_of_mem_vulnerabilities hrecord).1] at hpackage
    obtain ⟨release, hrelease, hplatform⟩ := Extractor.platform_of_mem_packages hpackage
    exact ⟨release, List.mem_flatMap.2 ⟨advisory, hadvisory, hrelease⟩, hplatform⟩

theorem Source.isBlankName_iff {name : String} (h : name ∈ source.recordNames advisories) :
    Quality.isBlankName name = true ↔ name = "" := by
  obtain ⟨advisory, -, hname⟩ := List.mem_flatMap.1 h
  split at hname
  · exact absurd hname List.not_mem_nil
  · exact Advisory.isBlankName_iff hname

end Records

end AdvisoryFeed.Ingest

namespace AdvisoryFeed.Store

open AdvisoryFeed.Decimal AdvisoryFeed.Ingest AdvisoryFeed.Quality

/-! ## Rows of a document -/

/-- Of rows with different keys at most one has a property that only one key has. -/
theorem countP_le_one {α κ : Type} {key : α → κ} {rows : List α} (h : (rows.map key).Nodup)
    {p : α → Bool} {k : κ} (hkey : ∀ row ∈ rows, p row = true → key row = k) :
    rows.countP p ≤ 1 := by
  have hsame : (rows.filter p).map key = List.replicate (rows.filter p).length k := by
    rw [List.eq_replicate_iff]
    refine ⟨List.length_map key, ?_⟩
    intro found hfound
    obtain ⟨row, hrow, rfl⟩ := List.mem_map.1 hfound
    obtain ⟨hmem, hp⟩ := List.mem_filter.1 hrow
    exact hkey row hmem hp
  have hnodup : ((rows.filter p).map key).Nodup := h.sublist (List.filter_sublist.map key)
  rw [hsame, List.nodup_replicate] at hnodup
  rw [List.countP_eq_length_filter]
  exact hnodup

/-! ## What is stored of documents -/

section Stored

variable {source : Source} {advisories : List Advisory} {updater : String} {run : Option String}
  {update : Update} {tables : Tables}

/-- What advisories give has no gaps, so it is committed. -/
theorem exists_commit_of_yieldOfAll
    (hgiven : update.vulnerabilities = (source.yieldOfAll advisories).1.vulnerabilities)
    (hflags : ∀ flag ∈ update.flags, flag.1 ≠ none) :
    ∃ tables, commit (some updater) update run Tables.empty = .ok tables := by
  have hcomplete : IsComplete (some updater) update := by
    refine ⟨by simp, ?_, ?_, hflags⟩
    · intro vulnerability hmem
      rw [hgiven] at hmem
      obtain ⟨⟨name, -, hname⟩, -⟩ := Source.record_of_mem_yieldOfAll hmem
      simp [hname]
    · intro vulnerability hmem package hpackage
      rw [hgiven] at hmem
      obtain ⟨-, hplatforms⟩ := Source.record_of_mem_yieldOfAll hmem
      obtain ⟨release, -, hplatform, hfeature⟩ := hplatforms package hpackage
      exact ⟨by simp [hplatform], hfeature⟩
  rcases commit_eq_firstGap (some updater) run update Tables.empty with
    ⟨tables, -, hcommit⟩ | ⟨column, rest, hgaps, -⟩
  · exact ⟨tables, hcommit⟩
  · rw [gaps_eq_nil_iff.2 hcomplete] at hgaps
    exact absurd hgaps (by simp)

/-- The rows of a commit have the names and the releases of the advisories, and the ids of their
names. -/
theorem rows_of_commit
    (hgiven : update.vulnerabilities = (source.yieldOfAll advisories).1.vulnerabilities)
    (hcommit : commit (some updater) update run Tables.empty = .ok tables) :
    (∀ row ∈ tables.vulnerabilities, row.name ∈ source.recordNames advisories ∧
      row.id = vulnerabilityId (some updater) (some row.name)) ∧
    ∀ row ∈ tables.affected, ∃ release ∈ source.releases advisories,
      row.platform = source.extractor.family ++ ":" ++ showInt release := by
  let c : Commit := ⟨some updater, update, run⟩
  have horigins := kept_origins.commit (c := c) origins_empty hcommit
  simp only [List.nil_append] at horigins
  have hrecord : ∀ vulnerability ∈ update.vulnerabilities,
      (∃ name ∈ source.recordNames advisories, vulnerability.name = some name) ∧
      ∀ package ∈ vulnerability.affected, ∃ release ∈ source.releases advisories,
        package.platform = some (source.extractor.family ++ ":" ++ showInt release) ∧
        package.feature ≠ none := by
    intro vulnerability hmem
    exact Source.record_of_mem_yieldOfAll (hgiven ▸ hmem)
  -- The columns of a row are those of what was written, and these are known of what is given.
  constructor
  · intro row hrow
    obtain ⟨record, hwritten, hcolumns⟩ := horigins.vulnerabilities row hrow
    obtain ⟨vulnerability, hmem, rfl⟩ := List.mem_map.1 hwritten
    obtain ⟨name, hname, heq⟩ := (hrecord vulnerability hmem).1
    simp only [VulnerabilityRow.columns, Record.columns, Record.id, heq, List.cons.injEq,
      Option.some.injEq] at hcolumns
    obtain ⟨hid, -, rfl, -⟩ := hcolumns
    exact ⟨hname, hid⟩
  · intro row hrow
    obtain ⟨item, hitem, hcolumns⟩ := horigins.affected row hrow
    obtain ⟨hwritten, hpackage⟩ := mem_flatMap_listed_iff.1 hitem
    obtain ⟨vulnerability, hmem, heq⟩ := List.mem_map.1 hwritten
    rw [← heq] at hpackage
    obtain ⟨release, hrelease, hplatform, -⟩ :=
      (hrecord vulnerability hmem).2 item.package hpackage
    simp only [AffectedRow.columns, Listed.columns, hplatform, List.cons.injEq,
      Option.some.injEq] at hcolumns
    exact ⟨release, hrelease, hcolumns.2.1⟩

/-- Every name of the advisories has a row under its id, and no other row has that id. -/
theorem ids_of_commit
    (hgiven : update.vulnerabilities = (source.yieldOfAll advisories).1.vulnerabilities)
    (hcommit : commit (some updater) update run Tables.empty = .ok tables) :
    tables.Keyed ∧ ∀ name ∈ source.recordNames advisories,
      ∃ row ∈ tables.vulnerabilities, row.id = vulnerabilityId (some updater) (some name) := by
  let c : Commit := ⟨some updater, update, run⟩
  have hreflects := kept_reflects.commit (c := c) reflects_empty hcommit
  refine ⟨hreflects.keyed, ?_⟩
  intro name hname
  obtain ⟨vulnerability, hmem, heq⟩ := Source.mem_recordNames_iff.1 hname
  rw [← hgiven] at hmem
  refine (hreflects.exists_vulnerability_iff _).2 ⟨⟨some updater, run, vulnerability⟩, ?_, ?_⟩
  · rw [List.nil_append]
    exact List.mem_map_of_mem hmem
  · rw [Record.id, heq]

end Stored

/-- What a document gives is committed to empty tables. The names that are stored are among those
that its advisories give, each of which has its id stored, and at most one row is without a name.
When no name is empty, all vulnerabilities are named; when no release is negative, all platforms are
well-formed. -/
theorem commit_passes_formats {bytes : List UInt8} {advisories : List Advisory}
    (hread : readAdvisories bytes = .ok advisories) (updater : String) (run : Option String) :
    ∃ yield, (oracleSource.process bytes).1 = .ok yield ∧
      ∀ update : Update, update.vulnerabilities = yield.vulnerabilities →
        (∀ flag ∈ update.flags, flag.1 ≠ none) →
      ∃ tables, commit (some updater) update run Tables.empty = .ok tables ∧
        (∀ row ∈ tables.vulnerabilities, row.name ∈ oracleSource.recordNames advisories) ∧
        (∀ name ∈ oracleSource.recordNames advisories,
          ∃ row ∈ tables.vulnerabilities, row.id = vulnerabilityId (some updater) (some name)) ∧
        (tables.vulnerabilities.countP fun row => isBlankName row.name) ≤ 1 ∧
        ((∀ name ∈ oracleSource.recordNames advisories, name ≠ "") →
          (∀ row ∈ tables.vulnerabilities, isBlankName row.name = false) ∧
          (namedVulnerabilities tables).IsClean "unnamed_count") ∧
        ((∀ release ∈ oracleSource.releases advisories, 0 ≤ release) →
          (∀ row ∈ tables.affected, ∃ release : Nat,
            row.platform = "oracle:" ++ String.ofList (decimal release)) ∧
          (platformFormat tables).IsClean "invalid_count") := by
  refine ⟨(oracleSource.yieldOfAll advisories).1, by rw [Source.process, hread], ?_⟩
  intro update hgiven hflags
  obtain ⟨tables, hcommit⟩ := exists_commit_of_yieldOfAll hgiven hflags
  obtain ⟨hnames, hplatforms⟩ := rows_of_commit hgiven hcommit
  obtain ⟨hkeyed, hids⟩ := ids_of_commit hgiven hcommit
  refine ⟨tables, hcommit, fun row hrow => (hnames row hrow).1, hids, ?_, ?_, ?_⟩
  · -- All rows without a name have the id of the empty one.
    refine countP_le_one (k := vulnerabilityId (some updater) (some "")) hkeyed.vulnerabilities ?_
    intro row hrow hblank
    obtain ⟨hname, hid⟩ := hnames row hrow
    rw [hid, (Source.isBlankName_iff hname).1 hblank]
  · intro hfull
    have hnamed : ∀ row ∈ tables.vulnerabilities, isBlankName row.name = false := by
      intro row hrow
      have hname := (hnames row hrow).1
      rw [Bool.eq_false_iff, ne_eq, Source.isBlankName_iff hname]
      exact hfull row.name hname
    exact ⟨hnamed, isClean_namedVulnerabilities_iff.2 hnamed⟩
  · intro hnonneg
    constructor
    · intro row hrow
      obtain ⟨release, hrelease, hplatform⟩ := hplatforms row hrow
      obtain ⟨n, rfl⟩ := Int.eq_ofNat_of_zero_le (hnonneg release hrelease)
      exact ⟨n, hplatform⟩
    · rw [isClean_platformFormat_iff]
      intro row hrow
      obtain ⟨release, hrelease, hplatform⟩ := hplatforms row hrow
      rw [hplatform, isPlatform_showInt_iff (by decide) (by decide)]
      exact hnonneg release hrelease

/-! ## Two documents -/

/-- The names and the releases that a document gives, if it can be read. -/
def namesAndReleases? (bytes : List UInt8) : Option (List String × List Int) :=
  (readAdvisories bytes).toOption.map fun advisories =>
    (oracleSource.recordNames advisories, oracleSource.releases advisories)

theorem exists_advisories {bytes : List UInt8} {names : List String} {releases : List Int}
    (h : namesAndReleases? bytes = some (names, releases)) :
    ∃ advisories, readAdvisories bytes = .ok advisories ∧
      oracleSource.recordNames advisories = names ∧
      oracleSource.releases advisories = releases := by
  rw [namesAndReleases?] at h
  cases hread : readAdvisories bytes with
  | error error =>
    rw [hread] at h
    exact absurd h (by simp [Except.toOption])
  | ok advisories =>
    rw [hread] at h
    obtain ⟨hnames, hreleases⟩ := Prod.mk.inj (Option.some.inj h)
    exact ⟨advisories, rfl, hnames, hreleases⟩

/-- An update with vulnerabilities and without flags. -/
def bareUpdate (vulnerabilities : List Vulnerability) : Update :=
  { Update.empty with vulnerabilities := vulnerabilities }

theorem commit_passes_formats_bash :
    ∃ advisories, readAdvisories bashDocument.toUTF8.toList = .ok advisories ∧
      oracleSource.recordNames advisories = ["E"] ∧ oracleSource.releases advisories = [7] ∧
      ∃ yield tables, (oracleSource.process bashDocument.toUTF8.toList).1 = .ok yield ∧
        commit (some oracleId) (bareUpdate yield.vulnerabilities) (some "r") Tables.empty =
          .ok tables ∧
        (namedVulnerabilities tables).IsClean "unnamed_count" ∧
        (platformFormat tables).IsClean "invalid_count" := by
  have hgives : namesAndReleases? bashDocument.toUTF8.toList = some (["E"], [7]) := by
    decide +kernel
  obtain ⟨advisories, hread, hnames, hreleases⟩ := exists_advisories hgives
  obtain ⟨yield, hprocess, hcommits⟩ := commit_passes_formats hread oracleId (some "r")
  obtain ⟨tables, hcommit, -, -, -, hnamed, hformat⟩ :=
    hcommits (bareUpdate yield.vulnerabilities) rfl (by simp [bareUpdate, Update.empty])
  rw [hnames] at hnamed
  rw [hreleases] at hformat
  exact ⟨advisories, hread, hnames, hreleases, yield, tables, hprocess, hcommit,
    (hnamed (by decide)).2, (hformat (by decide)).2⟩

/-- A document with one advisory, which has neither a title nor an item, and of which a package is
affected on a release below zero. -/
def strayDocument : String :=
  "<oval_definitions><definitions><definition><criteria operator='AND'>" ++
  "<criterion comment='Oracle Linux -5 is installed'/>" ++
  "<criterion comment='a is earlier than 1'/></criteria></definition></definitions>" ++
  "</oval_definitions>"

/-- The document is committed, and both checks fail. -/
theorem commit_fails_formats_stray :
    ∃ yield tables, (oracleSource.process strayDocument.toUTF8.toList).1 = .ok yield ∧
      commit (some oracleId) (bareUpdate yield.vulnerabilities) (some "r") Tables.empty =
        .ok tables ∧
      tables.vulnerabilities.map VulnerabilityRow.name = [""] ∧
      tables.affected.map AffectedRow.platform = ["oracle:-5"] ∧
      (namedVulnerabilities tables).passed = false ∧ (platformFormat tables).passed = false := by
  have hprocess : (oracleSource.process strayDocument.toUTF8.toList).1 = .ok
      ⟨[⟨some "", some "", .unknown, some "",
        [⟨some "oracle:-5", some "a", "1", rpmFormat, binaryKind, vulnerableMark⟩]⟩], 1, 0⟩ := by
    decide +kernel
  exact ⟨_, _, hprocess, rfl, rfl, rfl, by decide +kernel, by decide +kernel⟩

end AdvisoryFeed.Store
