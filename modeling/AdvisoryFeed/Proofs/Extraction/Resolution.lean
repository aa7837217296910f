import AdvisoryFeed.Extraction
import AdvisoryFeed.Proofs.Text.Search
import Mathlib.Data.List.Induction

/-!
# Resolution of possibilities

The leaves of a possibility are read one after the other, and each overwrites what the leaves of its
shape have said before it. In the end it is the last leaf about releases and the last one about
versions that count (`Extractor.readAll_eq_last`), whatever the leaves before them say. A
possibility names a package exactly when both are there and sound
(`Extractor.resolve_eq_some_iff`). The last statement says the same of the texts alone: which leaf
is the last one with a mark (`IsLastWith`), and where it is cut.
-/

namespace AdvisoryFeed

open AdvisoryFeed.Text AdvisoryFeed.Decimal

/-! ## Shapes of leaves -/

/-- A leaf says that a release is installed. -/
def isReleaseLeaf (leaf : String) : Bool :=
  contains installedMarker.toList leaf.toList

/-- The name and version that a leaf speaks of, unless it is about a release. -/
def saidVersion? (leaf : String) : Option (String × String) :=
  if isReleaseLeaf leaf then none else versionLeaf? leaf

section Shapes

variable {leaf : String}

theorem isReleaseLeaf_iff : isReleaseLeaf leaf = true ↔ installedMarker.toList <:+: leaf.toList :=
  contains_iff_isInfix _ _

/-- A leaf about a version is none about a release, and its name and version stand before and behind
the first mark. -/
theorem saidVersion?_eq_some_iff {feature version : String} :
    saidVersion? leaf = some (feature, version) ↔
      isReleaseLeaf leaf = false ∧ ∃ head tail,
        splitFirst earlierMarker.toList leaf.toList = some (head, tail) ∧
        String.ofList (strip head) = feature ∧ String.ofList (strip tail) = version := by
  rw [saidVersion?]
  cases hrelease : isReleaseLeaf leaf with
  | true => simp
  | false =>
    rw [if_neg Bool.false_ne_true, versionLeaf?, Option.map_eq_some_iff, Prod.exists]
    simp only [Prod.mk.injEq, true_and]

end Shapes

/-! ## Reading -/

section Reading

variable (extractor : Extractor)

/-- A version, unless it is refused. -/
def Extractor.accepted? (version : String) : Option String :=
  match extractor.check extractor.format version with
  | .ok _ => some version
  | .error _ => none

theorem Extractor.accepted?_eq_some_iff {version accepted : String} :
    extractor.accepted? version = some accepted ↔
      extractor.check extractor.format version = .ok () ∧ accepted = version := by
  rw [Extractor.accepted?]
  cases hcheck : extractor.check extractor.format version with
  | error error => simp
  | ok _ => simp [eq_comm]

/-- A leaf about a release overwrites the release. -/
theorem Extractor.read_release {leaf : String} (h : isReleaseLeaf leaf = true)
    (findings : Findings) :
    (extractor.read findings leaf).1 = { findings with release := extractor.releaseOf? leaf } := by
  rw [isReleaseLeaf] at h
  rw [Extractor.read, if_pos h, Extractor.release]
  cases extractor.releaseOf? leaf <;> rfl

/-- A leaf about a version overwrites the name and the version. -/
theorem Extractor.read_version {leaf feature version : String}
    (h : saidVersion? leaf = some (feature, version)) (findings : Findings) :
    (extractor.read findings leaf).1 =
      { findings with feature := feature, version := extractor.accepted? version } := by
  rw [saidVersion?] at h
  split at h
  · exact absurd h (by simp)
  · next hrelease =>
    rw [isReleaseLeaf] at hrelease
    rw [Extractor.read, if_neg hrelease, h, Extractor.accepted?]
    dsimp only
    cases extractor.check extractor.format version <;> rfl

/-- A leaf of neither shape says nothing. -/
theorem Extractor.read_other {leaf : String} (hrelease : isReleaseLeaf leaf = false)
    (hversion : saidVersion? leaf = none) (findings : Findings) :
    (extractor.read findings leaf).1 = findings := by
  rw [saidVersion?, hrelease, if_neg Bool.false_ne_true] at hversion
  rw [isReleaseLeaf] at hrelease
  rw [Extractor.read, hrelease, if_neg Bool.false_ne_true, hversion]

theorem Extractor.readAll_concat (possibility : Possibility) (leaf : String) :
    (extractor.readAll (possibility ++ [leaf])).1 =
      (extractor.read (extractor.readAll possibility).1 leaf).1 := by
  rw [Extractor.readAll, List.foldl_append]
  rfl

/-- What the last leaf about releases and the last leaf about versions say. -/
def Extractor.lastFindings (possibility : Possibility) : Findings where
  release := (possibility.filter isReleaseLeaf).getLast?.bind extractor.releaseOf?
  feature := ((possibility.filterMap saidVersion?).getLast?.map Prod.fst).getD ""
  version := (possibility.filterMap saidVersion?).getLast?.bind fun said =>
    extractor.accepted? said.2

/-- Reading a possibility finds what the last leaf of each shape says. The induction takes the
leaves from the end, since the last one overwrites. -/
theorem Extractor.readAll_eq_last (possibility : Possibility) :
    (extractor.readAll possibility).1 = extractor.lastFindings possibility := by
  induction possibility using List.reverseRecOn with
  | nil => rfl
  | append_singleton possibility leaf ih =>
    rw [Extractor.readAll_concat, ih]
    cases hrelease : isReleaseLeaf leaf with
    | true =>
      have hversion : saidVersion? leaf = none := by
        rw [saidVersion?, hrelease, if_pos rfl]
      rw [extractor.read_release hrelease]
      simp [Extractor.lastFindings, hrelease, hversion]
    | false =>
      cases hversion : saidVersion? leaf with
      | none =>
        rw [extractor.read_other hrelease hversion]
        simp [Extractor.lastFindings, hrelease, hversion]
      | some said =>
        rw [extractor.read_version hversion]
        simp [Extractor.lastFindings, hrelease, hversion]

end Reading

/-! ## Packages -/

section Packages

variable (extractor : Extractor)

/-- The package of a release, with its name and the version in which it is mended. -/
def Extractor.packageFor (release : Int) (feature version : String) : Package where
  platform := some (extractor.family ++ ":" ++ showInt release)
  feature := some feature
  fixedIn := if version = maxVersion then "" else version
  format := extractor.format
  kind := binaryKind
  affected := vulnerableMark

theorem Extractor.packageOf?_eq_some_iff {findings : Findings} {package : Package} :
    extractor.packageOf? findings = some package ↔ ∃ release version,
      findings.release = some release ∧ findings.version = some version ∧
      findings.feature ≠ "" ∧ package = extractor.packageFor release findings.feature version := by
  rw [Extractor.packageOf?]
  split
  · next release version hrelease hversion =>
    rw [hrelease, hversion]
    split
    · next hempty => simp [String.isEmpty_iff.1 hempty]
    · next hempty =>
      rw [String.isEmpty_iff] at hempty
      simp [hempty, Extractor.packageFor, eq_comm]
  · next hmissing =>
    constructor
    · intro h
      exact absurd h (by simp)
    · rintro ⟨release, version, hrelease, hversion, -, -⟩
      exact absurd hversion (hmissing release version hrelease)

/-- A possibility names a package exactly when its last leaf about releases has a release, and its
last leaf about versions a name and an accepted version. -/
theorem Extractor.resolve_eq_some_iff {possibility : Possibility} {package : Package} :
    (extractor.resolve possibility).1 = some package ↔
      ∃ leaf release feature version,
        (possibility.filter isReleaseLeaf).getLast? = some leaf ∧
        extractor.releaseOf? leaf = some release ∧
        (possibility.filterMap saidVersion?).getLast? = some (feature, version) ∧
        extractor.check extractor.format version = .ok () ∧ feature ≠ "" ∧
        package = extractor.packageFor release feature version := by
  change extractor.packageOf? (extractor.readAll possibility).1 = some package ↔ _
  rw [Extractor.packageOf?_eq_some_iff, Extractor.readAll_eq_last]
  constructor
  · rintro ⟨release, version, hrelease, hversion, hfeature, rfl⟩
    obtain ⟨leaf, hleaf, hnumber⟩ := Option.bind_eq_some_iff.1 hrelease
    obtain ⟨⟨feature, said⟩, hsaid, haccepted⟩ := Option.bind_eq_some_iff.1 hversion
    obtain ⟨hcheck, rfl⟩ := extractor.accepted?_eq_some_iff.1 haccepted
    have hname : (extractor.lastFindings possibility).feature = feature := by
      simp [Extractor.lastFindings, hsaid]
    rw [hname] at hfeature ⊢
    exact ⟨leaf, release, feature, version, hleaf, hnumber, hsaid, hcheck, hfeature, rfl⟩
  · rintro ⟨leaf, release, feature, version, hleaf, hnumber, hsaid, hcheck, hfeature, rfl⟩
    have hname : (extractor.lastFindings possibility).feature = feature := by
      simp [Extractor.lastFindings, hsaid]
    refine ⟨release, version, ?_, ?_, ?_, ?_⟩
    · exact Option.bind_eq_some_iff.2 ⟨leaf, hleaf, hnumber⟩
    · exact Option.bind_eq_some_iff.2
        ⟨(feature, version), hsaid, extractor.accepted?_eq_some_iff.2 ⟨hcheck, rfl⟩⟩
    · rwa [hname]
    · rw [hname]

end Packages

/-! ## The last leaves -/

/-- The item is in the list with the property, and no item behind it has the property. -/
def IsLastWith {α : Type} (p : α → Prop) (items : List α) (x : α) : Prop :=
  ∃ before after, items = before ++ x :: after ∧ p x ∧ ∀ later ∈ after, ¬ p later

/-- The last value is that of the last item with a value. -/
theorem getLast?_filterMap_eq_some_iff {α β : Type} {f : α → Option β} {items : List α} {y : β} :
    (items.filterMap f).getLast? = some y ↔
      ∃ x, IsLastWith (fun x => (f x).isSome) items x ∧ f x = some y := by
  rw [List.getLast?_eq_some_iff]
  constructor
  · rintro ⟨values, hvalues⟩
    obtain ⟨front, rest, rfl, -, hrest⟩ := List.filterMap_eq_append_iff.1 hvalues
    obtain ⟨between, x, after, rfl, -, hx, hafter⟩ := List.filterMap_eq_cons_iff.1 hrest
    rw [List.filterMap_eq_nil_iff] at hafter
    refine ⟨x, ⟨front ++ between, after, by simp, by simp [hx], ?_⟩, hx⟩
    intro later hlater
    simp [hafter later hlater]
  · rintro ⟨x, ⟨before, after, rfl, -, hafter⟩, hx⟩
    refine ⟨before.filterMap f, ?_⟩
    have hnone : after.filterMap f = [] := by
      rw [List.filterMap_eq_nil_iff]
      intro later hlater
      simpa using hafter later hlater
    rw [List.filterMap_append, List.filterMap_cons_some hx, hnone]

theorem getLast?_filter_eq_some_iff {α : Type} {p : α → Bool} {items : List α} {x : α} :
    (items.filter p).getLast? = some x ↔ IsLastWith (fun x => p x = true) items x := by
  rw [← List.filterMap_eq_filter, getLast?_filterMap_eq_some_iff]
  simp only [Option.isSome_guard, Option.guard_eq_some_iff]
  constructor
  · rintro ⟨last, hlast, rfl, -⟩
    exact hlast
  · intro hlast
    obtain ⟨-, -, -, hx, -⟩ := id hlast
    exact ⟨x, hlast, rfl, hx⟩

/-- A leaf with the mark of versions that is not about a release. -/
structure IsVersionLeaf (leaf : String) : Prop where
  earlier : earlierMarker.toList <:+: leaf.toList
  notRelease : ¬ installedMarker.toList <:+: leaf.toList

theorem isSome_saidVersion?_iff {leaf : String} :
    (saidVersion? leaf).isSome = true ↔ IsVersionLeaf leaf := by
  rw [saidVersion?]
  split
  · next hrelease =>
    refine iff_of_false (by simp) fun h => h.notRelease (isReleaseLeaf_iff.1 hrelease)
  · next hrelease =>
    rw [isReleaseLeaf_iff] at hrelease
    rw [versionLeaf?, Option.isSome_map]
    exact ⟨fun h => ⟨(contains_iff_isInfix _ _).1 h, hrelease⟩,
      fun h => (contains_iff_isInfix _ _).2 h.earlier⟩

section Last

variable (extractor : Extractor)

/-- The leaf names the release: the first word behind the name of the distribution is a numeral of
it. -/
def Extractor.NamesRelease (leaf : String) (release : Int) : Prop :=
  ∃ head tail, CutAt extractor.releaseMarker.toList leaf.toList head tail ∧
    readInt (String.ofList (before [' '] (strip tail))) = .ok release

theorem Extractor.releaseOf?_eq_some_iff {leaf : String} {release : Int} :
    extractor.releaseOf? leaf = some release ↔ extractor.NamesRelease leaf release := by
  rw [Extractor.releaseOf?, Extractor.NamesRelease]
  simp only [← splitFirst_eq_some_iff]
  cases splitFirst extractor.releaseMarker.toList leaf.toList with
  | none => simp
  | some parts =>
    obtain ⟨head, tail⟩ := parts
    dsimp only
    cases hread : readInt (String.ofList (before [' '] (strip tail))) with
    | error error => simp [Except.toOption, hread]
    | ok found => simp [Except.toOption, hread]

/-- A possibility names a package exactly when its last leaf with the mark of releases names a
release, and the last one with the mark of versions among the others has a name before its first
mark and an accepted version behind it. The package is made of these three alone. -/
theorem Extractor.resolve_some_iff_last {possibility : Possibility} {package : Package} :
    (extractor.resolve possibility).1 = some package ↔
      ∃ releaseLeaf release versionLeaf head tail,
        IsLastWith (fun leaf => installedMarker.toList <:+: leaf.toList) possibility releaseLeaf ∧
        extractor.NamesRelease releaseLeaf release ∧
        IsLastWith IsVersionLeaf possibility versionLeaf ∧
        CutAt earlierMarker.toList versionLeaf.toList head tail ∧ strip head ≠ [] ∧
        extractor.check extractor.format (String.ofList (strip tail)) = .ok () ∧
        package = extractor.packageFor release (String.ofList (strip head))
          (String.ofList (strip tail)) := by
  rw [Extractor.resolve_eq_some_iff]
  simp only [getLast?_filter_eq_some_iff, getLast?_filterMap_eq_some_iff, isReleaseLeaf_iff,
    isSome_saidVersion?_iff, extractor.releaseOf?_eq_some_iff]
  constructor
  · rintro ⟨releaseLeaf, release, feature, version, hlast, hnames, ⟨versionLeaf, hversion, hsaid⟩,
      hcheck, hfeature, hpackage⟩
    obtain ⟨-, head, tail, hcut, rfl, rfl⟩ := saidVersion?_eq_some_iff.1 hsaid
    refine ⟨releaseLeaf, release, versionLeaf, head, tail, hlast, hnames, hversion,
      splitFirst_eq_some_iff.1 hcut, ?_, hcheck, hpackage⟩
    intro hnil
    rw [hnil] at hfeature
    exact hfeature rfl
  · rintro ⟨releaseLeaf, release, versionLeaf, head, tail, hlast, hnames, hversion, hcut, hhead,
      hcheck, hpackage⟩
    have hleaf : IsVersionLeaf versionLeaf := by
      obtain ⟨-, -, -, hleaf, -⟩ := hversion
      exact hleaf
    have hrelease : isReleaseLeaf versionLeaf = false := by
      rw [Bool.eq_false_iff, ne_eq, isReleaseLeaf_iff]
      exact hleaf.notRelease
    have hsaid : saidVersion? versionLeaf =
        some (String.ofList (strip head), String.ofList (strip tail)) :=
      saidVersion?_eq_some_iff.2 ⟨hrelease, head, tail, splitFirst_eq_some_iff.2 hcut, rfl, rfl⟩
    refine ⟨releaseLeaf, release, _, _, hlast, hnames, ⟨versionLeaf, hversion, hsaid⟩, hcheck, ?_,
      hpackage⟩
    rwa [ne_eq, String.ofList_eq_empty_iff]

end Last

/-- A version that is refused takes the place of an accepted one before it, and so does a release
that cannot be read. -/
example :
    let resolve := fun possibility => ((Extractor.default Formats.default).resolve possibility).1
    resolve ["Oracle Linux 7 is installed", "foo is earlier than 1", "foo is earlier than x:1"] =
        none ∧
      resolve ["Oracle Linux 7 is installed", "Oracle Linux x is installed",
        "foo is earlier than 1"] = none ∧
      (resolve ["foo is earlier than x:1", "Oracle Linux 7 is installed",
        "foo is earlier than 1"]).isSome = true := by
  decide +kernel

end AdvisoryFeed
