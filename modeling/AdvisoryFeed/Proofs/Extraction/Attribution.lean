import AdvisoryFeed.Proofs.Criteria.CommonAncestor
import AdvisoryFeed.Proofs.Extraction.Merge
import AdvisoryFeed.Proofs.Extraction.Resolution

/-!
# Attribution of packages

A package is read from two leaves, one of which names the release and the other the package and its
version (`Extractor.Says`). Both stand in one possibility. In a condition of which the leaves are
different comments they therefore meet at a conjunction, so that no package is attributed to the
release of another alternative (`Extractor.package_attributed`).
-/

namespace AdvisoryFeed

open AdvisoryFeed.Text AdvisoryFeed.Decimal

/-- Two leaves say what a package is: the first one names its release, and the second one its name
and the version in which it is mended. -/
structure Extractor.Says (extractor : Extractor) (releaseLeaf versionLeaf : String)
    (package : Package) : Prop where
  installed : installedMarker.toList <:+: releaseLeaf.toList
  platform : ∃ release, extractor.releaseOf? releaseLeaf = some release ∧
    package.platform = some (extractor.family ++ ":" ++ showInt release)
  /-- The name stands before the first mark and the version behind it. -/
  earlier : ∃ head tail, splitFirst earlierMarker.toList versionLeaf.toList = some (head, tail) ∧
    strip head ≠ [] ∧ package.feature = some (String.ofList (strip head)) ∧
    extractor.check extractor.format (String.ofList (strip tail)) = .ok () ∧
    (package.fixedIn = "" ↔ String.ofList (strip tail) = maxVersion) ∧
    (String.ofList (strip tail) ≠ maxVersion → package.fixedIn = String.ofList (strip tail))

section Attribution

variable {extractor : Extractor}

/-- A package has no mended version exactly when the version is the greatest of all, since the empty
version is refused. -/
theorem Extractor.packageFor_fixedIn (hblank : extractor.check extractor.format "" ≠ .ok ())
    {release : Int} {feature version : String}
    (hcheck : extractor.check extractor.format version = .ok ()) :
    ((extractor.packageFor release feature version).fixedIn = "" ↔ version = maxVersion) ∧
      (version ≠ maxVersion → (extractor.packageFor release feature version).fixedIn = version) := by
  rw [Extractor.packageFor]
  dsimp only
  by_cases hmax : version = maxVersion
  · rw [if_pos hmax]
    exact ⟨⟨fun _ => hmax, fun _ => rfl⟩, fun hne => absurd hmax hne⟩
  · rw [if_neg hmax]
    refine ⟨⟨?_, fun h => absurd h hmax⟩, fun _ => rfl⟩
    rintro rfl
    exact absurd hcheck hblank

/-- The package of a possibility is said by two of its leaves, which are different. -/
theorem Extractor.exists_says_of_resolve (hblank : extractor.check extractor.format "" ≠ .ok ())
    {possibility : Possibility} {package : Package}
    (h : (extractor.resolve possibility).1 = some package) :
    ∃ releaseLeaf ∈ possibility, ∃ versionLeaf ∈ possibility, releaseLeaf ≠ versionLeaf ∧
      extractor.Says releaseLeaf versionLeaf package := by
  obtain ⟨releaseLeaf, release, feature, version, hlast, hrelease, hsaid, hcheck, hfeature, rfl⟩ :=
    extractor.resolve_eq_some_iff.1 h
  obtain ⟨hreleaseMem, hisRelease⟩ := List.mem_filter.1 (List.mem_of_getLast? hlast)
  obtain ⟨versionLeaf, hversionMem, hversion⟩ :=
    List.mem_filterMap.1 (List.mem_of_getLast? hsaid)
  obtain ⟨hnotRelease, head, tail, hcut, rfl, rfl⟩ := saidVersion?_eq_some_iff.1 hversion
  refine ⟨releaseLeaf, hreleaseMem, versionLeaf, hversionMem, ?_, ?_, ?_, ?_⟩
  · rintro rfl
    rw [hisRelease] at hnotRelease
    exact absurd hnotRelease (by simp)
  · exact isReleaseLeaf_iff.1 hisRelease
  · exact ⟨release, hrelease, rfl⟩
  · have hname : strip head ≠ [] := by
      intro hnil
      rw [hnil] at hfeature
      exact hfeature rfl
    obtain ⟨hempty, hgiven⟩ := Extractor.packageFor_fixedIn hblank hcheck
    exact ⟨head, tail, hcut, hname, rfl, hcheck, hempty, hgiven⟩

end Attribution

/-- The empty version is none. -/
theorem Extractor.default_check_empty :
    (Extractor.default Formats.default).check (Extractor.default Formats.default).format "" ≠
      .ok () := by
  decide

/-- A package of a condition with different leaves is said by two of them, which are not the same.
Neither bears an ignored marker, they stand in one possibility, and their lowest common ancestor is a
conjunction. -/
theorem Extractor.package_attributed {criteria : Criteria} (hdistinct : criteria.allLeaves.Nodup)
    {package : Package}
    (hpackage : package ∈ ((Extractor.default Formats.default).extract criteria).1.packages) :
    ∃ releaseLeaf ∈ unmarkedLeaves defaultIgnored criteria.allLeaves,
      ∃ versionLeaf ∈ unmarkedLeaves defaultIgnored criteria.allLeaves,
        releaseLeaf ≠ versionLeaf ∧
        (∃ possibility ∈ criteria.possibilities defaultIgnored,
          releaseLeaf ∈ possibility ∧ versionLeaf ∈ possibility) ∧
        (∃ children leaves,
          criteria.MeetAt releaseLeaf versionLeaf (some .conj) children leaves) ∧
        (Extractor.default Formats.default).Says releaseLeaf versionLeaf package := by
  obtain ⟨possibility, hpossibility, hresolve⟩ :=
    Extractor.exists_possibility_of_mem_packages _ hpackage
  obtain ⟨releaseLeaf, hrelease, versionLeaf, hversion, hne, hsays⟩ :=
    Extractor.exists_says_of_resolve Extractor.default_check_empty hresolve
  refine ⟨releaseLeaf, ?_, versionLeaf, ?_, hne, ?_, ?_, hsays⟩
  · exact Criteria.mem_unmarked_of_mem_possibility hpossibility hrelease
  · exact Criteria.mem_unmarked_of_mem_possibility hpossibility hversion
  · exact ⟨possibility, hpossibility, hrelease, hversion⟩
  · exact Criteria.exists_meet_conj hdistinct hpossibility hrelease hversion hne

/-- Packages for two releases, each in an alternative of its own. -/
def twoReleases : Criteria :=
  .node (some .disj)
    [.node (some .conj) [.node (some .disj) [] ["foo is earlier than 0:1.0-1.el6"]]
      ["Oracle Linux 6 is installed"],
    .node (some .conj)
      [.node (some .disj) [] ["bar is earlier than #MAXV#", "foo is earlier than 0:1.0-1.el7"]]
      ["Oracle Linux 7 is installed", "bar is signed with the Oracle Linux 7 key"]] []

/-- A package of the second release. -/
def packageOfTwo : Package :=
  (Extractor.default Formats.default).packageFor 7 "foo" "0:1.0-1.el7"

theorem Extractor.package_attributed_twoReleases :
    twoReleases.allLeaves.Nodup ∧
    packageOfTwo ∈ ((Extractor.default Formats.default).extract twoReleases).1.packages ∧
    ∃ releaseLeaf ∈ unmarkedLeaves defaultIgnored twoReleases.allLeaves,
      ∃ versionLeaf ∈ unmarkedLeaves defaultIgnored twoReleases.allLeaves,
        releaseLeaf ≠ versionLeaf ∧
        (∃ possibility ∈ twoReleases.possibilities defaultIgnored,
          releaseLeaf ∈ possibility ∧ versionLeaf ∈ possibility) ∧
        (∃ children leaves,
          twoReleases.MeetAt releaseLeaf versionLeaf (some .conj) children leaves) ∧
        (Extractor.default Formats.default).Says releaseLeaf versionLeaf packageOfTwo := by
  have hdistinct : twoReleases.allLeaves.Nodup := by decide
  have hpackage :
      packageOfTwo ∈ ((Extractor.default Formats.default).extract twoReleases).1.packages := by
    decide +kernel
  exact ⟨hdistinct, hpackage, Extractor.package_attributed hdistinct hpackage⟩

end AdvisoryFeed
