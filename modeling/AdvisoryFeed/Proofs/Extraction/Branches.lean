import AdvisoryFeed.Proofs.Criteria.Product
import AdvisoryFeed.Proofs.Decimal.Numerals
import AdvisoryFeed.Proofs.Extraction.Merge
import AdvisoryFeed.Proofs.Extraction.Resolution
import AdvisoryFeed.Proofs.Text.Search

/-!
# Advisories in branches

An advisory of the feed has a branch for each release, and in it the builds of packages for that
release (`Branch`). Its condition is a disjunction of the branches, each of which joins the release
with a disjunction of its builds, and each build joins its version with its signing key
(`conditionOf`).

The signing keys are dropped, so there is one possibility for each build, made up of its version and
its release (`possibilities_conditionOf`). Each of them names the package of the build
(`Entry.resolve_possibility`). Nothing is lost: extraction gives a package for each release and name
in the order in which they come first, and its version is that of the last build
(`extract_conditionOf`).
-/

namespace AdvisoryFeed

open AdvisoryFeed.Text AdvisoryFeed.Decimal

/-! ## Branches -/

/-- A build of a package. -/
structure Build where
  name : String
  version : String
deriving DecidableEq, Repr

/-- A release with the builds for it. -/
structure Branch where
  release : Nat
  builds : List Build
deriving DecidableEq, Repr

/-- A text without blanks in which nothing is said about patching a running system. -/
structure IsPlainWord (word : String) : Prop where
  noBlank : ∀ c ∈ word.toList, isBlank c = false
  noPatch : contains ".ksplice1.".toList word.toList = false

/-- A build has a name, and a version that is accepted. -/
structure Build.WellFormed (build : Build) : Prop where
  named : build.name ≠ ""
  name : IsPlainWord build.name
  version : IsPlainWord build.version
  accepted : checkRpm build.version = .ok ()

/-- The release of a branch has no more digits than a numeral may have, and its builds are well
formed. -/
structure Branch.WellFormed (branch : Branch) : Prop where
  release : (decimal branch.release).length ≤ digitLimit
  builds : ∀ build ∈ branch.builds, build.WellFormed

instance (word : String) : Decidable (IsPlainWord word) :=
  decidable_of_iff (word.toList.any isBlank = false ∧
      contains ".ksplice1.".toList word.toList = false)
    ⟨fun h => ⟨by simpa using h.1, h.2⟩, fun h => ⟨by simpa using h.noBlank, h.noPatch⟩⟩

instance (build : Build) : Decidable build.WellFormed :=
  decidable_of_iff (build.name ≠ "" ∧ IsPlainWord build.name ∧ IsPlainWord build.version ∧
      checkRpm build.version = .ok ())
    ⟨fun h => ⟨h.1, h.2.1, h.2.2.1, h.2.2.2⟩, fun h => ⟨h.named, h.name, h.version, h.accepted⟩⟩

instance (branch : Branch) : Decidable branch.WellFormed :=
  decidable_of_iff ((decimal branch.release).length ≤ digitLimit ∧
      ∀ build ∈ branch.builds, build.WellFormed)
    ⟨fun h => ⟨h.1, h.2⟩, fun h => ⟨h.release, h.builds⟩⟩

/-! ## Conditions -/

/-- The leaf that a release is installed. -/
def releaseLeaf (release : Nat) : String :=
  "Oracle Linux " ++ showInt release ++ " is installed"

/-- The leaf that a package is earlier than the build. -/
def Build.versionLeaf (build : Build) : String :=
  build.name ++ " is earlier than " ++ build.version

/-- The leaf that a package is signed with the key of a release. -/
def Build.keyLeaf (build : Build) (release : Nat) : String :=
  build.name ++ " is signed with the Oracle Linux " ++ showInt release ++ " key"

/-- The condition of a build for a release. -/
def Build.condition (build : Build) (release : Nat) : Criteria :=
  .node (some .conj) [] [build.versionLeaf, build.keyLeaf release]

/-- The condition of a branch. -/
def Branch.condition (branch : Branch) : Criteria :=
  .node (some .conj)
    [.node (some .disj) (branch.builds.map fun build => build.condition branch.release) []]
    [releaseLeaf branch.release]

/-- The condition of an advisory with these branches. -/
def conditionOf (branches : List Branch) : Criteria :=
  .node (some .disj) (branches.map Branch.condition) []

/-! ## Entries -/

/-- A build with its release. -/
structure Entry where
  release : Nat
  build : Build
deriving DecidableEq, Repr

/-- The entries of a branch. -/
def Branch.entries (branch : Branch) : List Entry :=
  branch.builds.map fun build => ⟨branch.release, build⟩

/-- The entries of branches, in their order. -/
def entriesOf (branches : List Branch) : List Entry :=
  branches.flatMap Branch.entries

/-- The platform and the name of an entry. -/
def Entry.key (entry : Entry) : Option String × Option String :=
  (some ("oracle:" ++ showInt entry.release), some entry.build.name)

/-- The package of an entry. -/
def Entry.package (entry : Entry) : Package where
  platform := some ("oracle:" ++ showInt entry.release)
  feature := some entry.build.name
  fixedIn := if entry.build.version = "#MAXV#" then "" else entry.build.version
  format := "rpm"
  kind := "binary"
  affected := "vulnerable"

/-- The leaves that say what an entry is. -/
def Entry.possibility (entry : Entry) : Possibility :=
  [entry.build.versionLeaf, releaseLeaf entry.release]

/-- An entry of a well-formed branch. -/
structure Entry.WellFormed (entry : Entry) : Prop where
  release : (decimal entry.release).length ≤ digitLimit
  build : entry.build.WellFormed

theorem wellFormed_of_mem_entriesOf {branches : List Branch}
    (h : ∀ branch ∈ branches, branch.WellFormed) {entry : Entry}
    (hentry : entry ∈ entriesOf branches) : entry.WellFormed := by
  obtain ⟨branch, hbranch, hmem⟩ := List.mem_flatMap.1 hentry
  obtain ⟨build, hbuild, rfl⟩ := List.mem_map.1 hmem
  exact ⟨(h branch hbranch).release, (h branch hbranch).builds build hbuild⟩

/-! ## Leaves -/

section Words

variable {word : String}

theorem IsPlainWord.strip_eq (h : IsPlainWord word) : strip word.toList = word.toList :=
  strip_eq_self h.noBlank

theorem IsPlainWord.space_not_mem (h : IsPlainWord word) : ' ' ∉ word.toList := by
  intro hmem
  have hblank : isBlank ' ' = false := h.noBlank ' ' hmem
  exact absurd hblank (by decide)

end Words

section VersionLeaves

variable {build : Build}

theorem Build.toList_versionLeaf (build : Build) :
    build.versionLeaf.toList =
      build.name.toList ++ (earlierMarker.toList ++ build.version.toList) := by
  rw [Build.versionLeaf, String.toList_append, String.toList_append, List.append_assoc]
  rfl

/-- The words of a leaf about a version, each behind a space. -/
theorem Build.words_versionLeaf (build : Build) :
    build.versionLeaf.toList =
      build.name.toList ++ ' ' :: ("is".toList ++ ' ' :: ("earlier".toList ++
        ' ' :: ("than".toList ++ ' ' :: build.version.toList))) := by
  rw [Build.toList_versionLeaf]
  rfl

/-- A marker that goes on otherwise than the mark of versions is not in a leaf about a version. -/
theorem Build.contains_versionLeaf (h : build.WellFormed) {c : Char} {marker : List Char}
    (hc : c ≠ 'e') :
    contains (' ' :: ("is ".toList ++ c :: marker)) build.versionLeaf.toList = false := by
  have hversion : (' ' :: ("is ".toList ++ c :: marker)).isPrefixOf
      (' ' :: build.version.toList) = false := by
    rw [Bool.eq_false_iff]
    intro hstart
    have hrest := (List.cons_prefix_cons.1 (List.isPrefixOf_iff_prefix.1 hstart)).2
    exact h.version.space_not_mem (hrest.subset (by simp))
  -- The marker can only begin at a space, and behind each of them stands another word.
  rw [Build.words_versionLeaf, contains_append h.name.space_not_mem]
  rw [contains_cons (by simp [List.isPrefixOf, hc]), contains_append (by decide)]
  rw [contains_cons (by simp [List.isPrefixOf]), contains_append (by decide)]
  rw [contains_cons (by simp [List.isPrefixOf]), contains_append (by decide)]
  rw [contains_cons hversion, contains_eq_false List.mem_cons_self h.version.space_not_mem]

/-- A leaf about a version is not about patching, since none of its words is. -/
theorem Build.patch_versionLeaf (h : build.WellFormed) :
    contains ".ksplice1.".toList build.versionLeaf.toList = false := by
  have hspace : ' ' ∉ ".ksplice1.".toList := by decide
  rw [Build.words_versionLeaf]
  simp only [contains_append_cons hspace, h.name.noPatch, h.version.noPatch]
  decide

/-- A leaf about a version is kept. -/
theorem Build.bearsMarker_versionLeaf (h : build.WellFormed) :
    bearsMarker defaultIgnored build.versionLeaf = false := by
  have hkey : contains " is signed with the Oracle Linux".toList build.versionLeaf.toList = false :=
    Build.contains_versionLeaf h (by decide)
  have hpatch := Build.patch_versionLeaf h
  rw [bearsMarker, defaultIgnored, List.any_cons, List.any_cons, List.any_nil, hkey, hpatch]
  rfl

/-- A leaf about a version says the name and the version of the build. -/
theorem Build.saidVersion?_versionLeaf (h : build.WellFormed) :
    saidVersion? build.versionLeaf = some (build.name, build.version) := by
  have hrelease : contains " is installed".toList build.versionLeaf.toList = false :=
    Build.contains_versionLeaf h (by decide)
  have hspace : earlierMarker.toList = ' ' :: "is earlier than ".toList := rfl
  have hcut : splitFirst earlierMarker.toList build.versionLeaf.toList =
      some (build.name.toList, build.version.toList) := by
    rw [Build.toList_versionLeaf, hspace, splitFirst_append h.name.space_not_mem,
      splitFirst_marker, Option.map_some, List.append_nil]
  refine saidVersion?_eq_some_iff.2 ⟨hrelease, _, _, hcut, ?_, ?_⟩
  · rw [h.name.strip_eq, String.ofList_toList]
  · rw [h.version.strip_eq, String.ofList_toList]

/-- A leaf about a key is dropped. -/
theorem Build.bearsMarker_keyLeaf (build : Build) (release : Nat) :
    bearsMarker defaultIgnored (build.keyLeaf release) = true := by
  have hkey : contains " is signed with the Oracle Linux".toList
      (build.keyLeaf release).toList = true := by
    rw [contains_iff_isInfix]
    refine ⟨build.name.toList, (" ".toList ++ (showInt release).toList) ++ " key".toList, ?_⟩
    rw [Build.keyLeaf]
    simp
  rw [bearsMarker, defaultIgnored, List.any_cons, hkey, Bool.true_or]

end VersionLeaves

section ReleaseLeaves

theorem toList_releaseLeaf (release : Nat) :
    (releaseLeaf release).toList =
      "Oracle Linux ".toList ++ (decimal release ++ " is installed".toList) := by
  have hnumber : (showInt release).toList = decimal release := by
    rw [showInt, String.toList_ofList]
    rfl
  rw [releaseLeaf, String.toList_append, String.toList_append, hnumber, List.append_assoc]

theorem isReleaseLeaf_releaseLeaf (release : Nat) : isReleaseLeaf (releaseLeaf release) = true := by
  rw [isReleaseLeaf_iff, toList_releaseLeaf, ← List.append_assoc]
  exact (List.suffix_append _ _).isInfix

theorem not_mem_decimal {c : Char} (hc : c.isDigit = false) (n : Nat) : c ∉ decimal n := by
  intro hmem
  rw [isDigit_of_mem_decimal hmem] at hc
  exact absurd hc (by simp)

/-- A leaf about a release is kept: nothing in it is signed, and there is no dot in it. -/
theorem bearsMarker_releaseLeaf (release : Nat) :
    bearsMarker defaultIgnored (releaseLeaf release) = false := by
  have hmissing : ∀ c : Char, c.isDigit = false → c ∉ "Oracle Linux ".toList →
      c ∉ " is installed".toList → c ∉ (releaseLeaf release).toList := by
    intro c hdigit hfront hback
    rw [toList_releaseLeaf, List.mem_append, List.mem_append, not_or, not_or]
    exact ⟨hfront, not_mem_decimal hdigit release, hback⟩
  have hkey : contains " is signed with the Oracle Linux".toList
      (releaseLeaf release).toList = false :=
    contains_eq_false (c := 'g') (by decide) (hmissing 'g' (by decide) (by decide) (by decide))
  have hpatch : contains ".ksplice1.".toList (releaseLeaf release).toList = false :=
    contains_eq_false (c := '.') (by decide) (hmissing '.' (by decide) (by decide) (by decide))
  rw [bearsMarker, defaultIgnored, List.any_cons, List.any_cons, List.any_nil, hkey, hpatch]
  rfl

/-- The release is read back from its leaf. -/
theorem releaseOf?_releaseLeaf {release : Nat} (h : (decimal release).length ≤ digitLimit) :
    (Extractor.default Formats.default).releaseOf? (releaseLeaf release) =
      some (release : Int) := by
  have hmarker : (Extractor.default Formats.default).releaseMarker = "Oracle Linux " := by decide
  have hne : decimal release ≠ [] := Nat.toDigits_ne_nil
  have hstrip : strip (decimal release ++ " is installed".toList) =
      decimal release ++ " is installed".toList := by
    refine strip_of_ends ?_ ?_
    · intro c hc
      rw [List.head?_append_of_ne_nil _ hne] at hc
      have hdigit := isDigit_of_mem_decimal (List.mem_of_mem_head? hc)
      exact isBlank_of_isDecimal (isDecimal_of_isDigit hdigit)
    · intro c hc
      rw [List.getLast?_append_of_ne_nil _ (by decide)] at hc
      obtain rfl : 'd' = c := Option.some.inj hc
      decide
  have hbefore : before [' '] (decimal release ++ " is installed".toList) = decimal release := by
    rw [before, splitFirst_append (not_mem_decimal (by decide) release)]
    have hrest : splitFirst [' '] " is installed".toList = some ([], "is installed".toList) := by
      decide
    rw [hrest, Option.map_some, List.append_nil]
  rw [Extractor.releaseOf?, hmarker, toList_releaseLeaf, splitFirst_marker]
  dsimp only
  rw [hstrip, hbefore, readInt_showInt h]
  rfl

end ReleaseLeaves

/-! ## Possibilities -/

section Possibilities

theorem Build.possibilities_condition {build : Build} (h : build.WellFormed) (release : Nat) :
    (build.condition release).possibilities defaultIgnored = [[build.versionLeaf]] := by
  have hkeep : keep defaultIgnored [build.versionLeaf, build.keyLeaf release] =
      [build.versionLeaf] := by
    simp [keep, Build.bearsMarker_versionLeaf h, Build.bearsMarker_keyLeaf]
  rw [Build.condition, Criteria.possibilities, if_pos List.isEmpty_nil, ownPossibilities, hkeep]

/-- The builds of a branch are alternatives, each of them joined with the release. -/
theorem Branch.possibilities_condition {branch : Branch} (h : branch.WellFormed) :
    branch.condition.possibilities defaultIgnored = branch.entries.map Entry.possibility := by
  obtain ⟨release, builds⟩ := branch
  have hbuilds : builds.flatMap (fun build =>
      (build.condition release).possibilities defaultIgnored) =
      builds.map fun build => [build.versionLeaf] := by
    rw [← List.flatMap_pure_eq_map]
    refine List.flatMap_congr ?_
    intro build hbuild
    exact Build.possibilities_condition (h.builds build hbuild) release
  have hrelease : ownPossibilities defaultIgnored (some .conj) [releaseLeaf release] =
      [[releaseLeaf release]] := by
    simp [ownPossibilities, keep, bearsMarker_releaseLeaf]
  -- The leaf of the release is the last factor, so it stands behind the leaf of each build.
  calc (Branch.condition ⟨release, builds⟩).possibilities defaultIgnored
      = extendBy (builds.map fun build => [build.versionLeaf]) [[releaseLeaf release]] := by
        rw [Branch.condition, Criteria.possibilities_node, partGroups, childGroups_eq_map, hrelease,
          combine_conj_append, combine_conj_singleton, List.map_singleton, combine_conj_singleton,
          Criteria.possibilities_alternatives, List.flatMap_map, hbuilds]
    _ = (Branch.entries ⟨release, builds⟩).map Entry.possibility := by
        rw [extendBy, List.flatMap_map, Branch.entries, List.map_map]
        exact List.flatMap_pure_eq_map _ _

/-- There is a possibility for each build. -/
theorem possibilities_conditionOf {branches : List Branch}
    (h : ∀ branch ∈ branches, branch.WellFormed) :
    (conditionOf branches).possibilities defaultIgnored =
      (entriesOf branches).map Entry.possibility := by
  rw [conditionOf, Criteria.possibilities_alternatives, List.flatMap_map, entriesOf,
    List.map_flatMap]
  refine List.flatMap_congr ?_
  intro branch hbranch
  exact Branch.possibilities_condition (h branch hbranch)

end Possibilities

/-! ## Packages -/

section Packages

/-- The possibility of a build names its package. -/
theorem Entry.resolve_possibility {entry : Entry} (h : entry.WellFormed) :
    ((Extractor.default Formats.default).resolve entry.possibility).1 = some entry.package := by
  have hsaid := Build.saidVersion?_versionLeaf h.build
  have hrelease := isReleaseLeaf_releaseLeaf entry.release
  have hother : isReleaseLeaf entry.build.versionLeaf = false :=
    (saidVersion?_eq_some_iff.1 hsaid).1
  have hnothing : saidVersion? (releaseLeaf entry.release) = none := by
    rw [saidVersion?, hrelease, if_pos rfl]
  -- Neither leaf is of the shape of the other one, so each is the last of its shape.
  refine (Extractor.resolve_eq_some_iff _).2
    ⟨releaseLeaf entry.release, entry.release, entry.build.name, entry.build.version, ?_, ?_, ?_,
      ?_, h.build.named, rfl⟩
  · simp [Entry.possibility, hrelease, hother]
  · exact releaseOf?_releaseLeaf h.release
  · simp [Entry.possibility, hsaid, hnothing]
  · exact h.build.accepted

/-- What the possibilities of entries come to. -/
theorem Extractor.extractionOf_entries {entries : List Entry}
    (h : ∀ entry ∈ entries, entry.WellFormed) :
    (Extractor.default Formats.default).extractionOf (entries.map Entry.possibility) =
      ⟨putAll Package.key (entries.map Entry.package), entries.length, 0⟩ := by
  have hresolved : (Extractor.default Formats.default).resolved (entries.map Entry.possibility) =
      entries.map Entry.package := by
    rw [Extractor.resolved, List.filterMap_map, ← List.filterMap_eq_map]
    refine List.filterMap_congr ?_
    intro entry hentry
    exact Entry.resolve_possibility (h entry hentry)
  have hnone : (entries.map Entry.possibility).countP (fun possibility =>
      ((Extractor.default Formats.default).resolve possibility).1.isNone) = 0 := by
    rw [List.countP_eq_zero, List.forall_mem_map]
    intro entry hentry
    rw [Entry.resolve_possibility (h entry hentry)]
    exact Bool.false_ne_true
  rw [Extractor.extractionOf, hresolved, hnone, List.length_map]

/-- Extraction loses no build and alters none. There is a possibility for each build, and none is
discarded; there is one package for each release and name, in the order in which they come first,
and it is that of the last build of that name for the release. -/
theorem Extractor.extract_conditionOf {branches : List Branch}
    (h : ∀ branch ∈ branches, branch.WellFormed) :
    let extraction := ((Extractor.default Formats.default).extract (conditionOf branches)).1
    extraction.possibilities = (branches.map (·.builds.length)).sum ∧
    extraction.discarded = 0 ∧
    extraction.packages.map Package.key = ((entriesOf branches).map Entry.key).eraseDups ∧
    ∀ package ∈ extraction.packages,
      ∃ entry, IsLastBy Entry.key (entriesOf branches) entry ∧ package = entry.package := by
  intro extraction
  have hextraction : extraction =
      ⟨putAll Package.key ((entriesOf branches).map Entry.package), (entriesOf branches).length,
        0⟩ := by
    have hpossibilities := possibilities_conditionOf h
    have hentries : ∀ entry ∈ entriesOf branches, entry.WellFormed :=
      fun entry hentry => wellFormed_of_mem_entriesOf h hentry
    calc extraction
        = (Extractor.default Formats.default).extractionOf
            ((conditionOf branches).possibilities defaultIgnored) := Extractor.extract_eq _ _
      _ = _ := by rw [hpossibilities, Extractor.extractionOf_entries hentries]
  -- What is left is about keyed lists alone.
  rw [hextraction]
  refine ⟨?_, rfl, ?_, ?_⟩
  · simp [entriesOf, List.length_flatMap, Branch.entries]
  · rw [map_putAll, List.map_map]
    rfl
  · intro package hpackage
    exact isLastBy_map_iff.1 (mem_putAll_iff.1 hpackage)

/-- Two branches for one release, with a build of a name that came before, and a branch for which
nothing was built. -/
def sampleBranches : List Branch :=
  [⟨7, [⟨"kernel", "0:3.10.0-1.el7"⟩, ⟨"perf", "#MAXV#"⟩]⟩, ⟨8, []⟩,
    ⟨7, [⟨"kernel", "0:3.10.0-2.el7"⟩]⟩, ⟨6, [⟨"kernel", "0:2.6.32-1.el6"⟩]⟩]

theorem extract_conditionOf_sampleBranches :
    (∀ branch ∈ sampleBranches, branch.WellFormed) ∧
    let extraction := ((Extractor.default Formats.default).extract (conditionOf sampleBranches)).1
    extraction.possibilities = (sampleBranches.map (·.builds.length)).sum ∧
    extraction.discarded = 0 ∧
    extraction.packages.map Package.key = ((entriesOf sampleBranches).map Entry.key).eraseDups ∧
    ∀ package ∈ extraction.packages,
      ∃ entry, IsLastBy Entry.key (entriesOf sampleBranches) entry ∧ package = entry.package := by
  have h : ∀ branch ∈ sampleBranches, branch.WellFormed := by
    decide +kernel
  exact ⟨h, Extractor.extract_conditionOf h⟩

end Packages

end AdvisoryFeed
