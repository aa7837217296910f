import AdvisoryFeed.Proofs.Criteria.SiblingOrder
import AdvisoryFeed.Proofs.Extraction.Attribution

/-!
# Packages and the order of siblings

Which package a possibility names may depend on the order of its leaves, because the last leaf of
each shape counts. It does not where at most one comment is about a release and at most one about a
version (`IsUnambiguous`, `Extractor.resolve_of_perm`). When all possibilities of a condition are
so, extraction gives the same numbers and keys whatever the order of siblings is, and the same
packages when no two packages fight for one key (`Criteria.Reordered.extract_agrees`).
-/

namespace AdvisoryFeed

/-! ## Unambiguous possibilities -/

/-- At most one comment is about a release, and at most one of the others about a version. -/
structure IsUnambiguous (possibility : Possibility) : Prop where
  release : ∀ a ∈ possibility, ∀ b ∈ possibility, installedMarker.toList <:+: a.toList →
    installedMarker.toList <:+: b.toList → a = b
  version : ∀ a ∈ possibility, ∀ b ∈ possibility, IsVersionLeaf a → IsVersionLeaf b → a = b

instance (leaf : String) : Decidable (IsVersionLeaf leaf) :=
  decidable_of_iff ((saidVersion? leaf).isSome = true) isSome_saidVersion?_iff

instance (possibility : Possibility) : Decidable (IsUnambiguous possibility) :=
  decidable_of_iff
    ((∀ a ∈ possibility, ∀ b ∈ possibility, isReleaseLeaf a = true → isReleaseLeaf b = true →
        a = b) ∧
      ∀ a ∈ possibility, ∀ b ∈ possibility, IsVersionLeaf a → IsVersionLeaf b → a = b) (by
    simp only [isReleaseLeaf_iff]
    exact ⟨fun h => ⟨h.1, h.2⟩, fun h => ⟨h.release, h.version⟩⟩)

/-- The last item does not depend on the order of items that are all the same. -/
theorem getLast?_of_perm {α : Type} {items moved : List α} (h : items.Perm moved)
    (hsame : ∀ a ∈ items, ∀ b ∈ items, a = b) : items.getLast? = moved.getLast? := by
  cases items with
  | nil => rw [h.nil_eq]
  | cons a items =>
    have hcopies : a :: items = List.replicate (items.length + 1) a :=
      List.eq_replicate_of_mem fun b hb => hsame b hb a List.mem_cons_self
    rw [hcopies] at h ⊢
    rw [List.replicate_perm.1 h]

section Resolve

variable (extractor : Extractor) {possibility moved : Possibility}

/-- In another order the leaves of an unambiguous possibility name the same package. -/
theorem Extractor.resolve_of_perm (h : possibility.Perm moved)
    (hclear : IsUnambiguous possibility) :
    (extractor.resolve possibility).1 = (extractor.resolve moved).1 := by
  have hrelease : (possibility.filter isReleaseLeaf).getLast? =
      (moved.filter isReleaseLeaf).getLast? := by
    refine getLast?_of_perm (h.filter _) fun a ha b hb => ?_
    rw [List.mem_filter, isReleaseLeaf_iff] at ha hb
    exact hclear.release a ha.1 b hb.1 ha.2 hb.2
  have hversion : (possibility.filterMap saidVersion?).getLast? =
      (moved.filterMap saidVersion?).getLast? := by
    refine getLast?_of_perm (h.filterMap _) fun x hx y hy => ?_
    obtain ⟨a, ha, hax⟩ := List.mem_filterMap.1 hx
    obtain ⟨b, hb, hby⟩ := List.mem_filterMap.1 hy
    have hsame : a = b := hclear.version a ha b hb (isSome_saidVersion?_iff.1 (by simp [hax]))
      (isSome_saidVersion?_iff.1 (by simp [hby]))
    rw [hsame, hby] at hax
    exact (Option.some.inj hax).symm
  change extractor.packageOf? (extractor.readAll possibility).1 =
    extractor.packageOf? (extractor.readAll moved).1
  rw [extractor.readAll_eq_last, extractor.readAll_eq_last, Extractor.lastFindings, hrelease,
    hversion, ← Extractor.lastFindings]

end Resolve

/-! ## Extraction -/

section Extract

variable {extractor : Extractor} {criteria other : Criteria}

/-- What the possibilities name does not depend on the order of siblings, when all of them are
unambiguous. -/
theorem Criteria.Reordered.perm_resolve (h : criteria.Reordered other)
    (hclear : ∀ possibility ∈ criteria.possibilities extractor.ignored,
      IsUnambiguous possibility) :
    ((criteria.possibilities extractor.ignored).map fun possibility =>
        (extractor.resolve possibility).1).Perm
      ((other.possibilities extractor.ignored).map fun possibility =>
        (extractor.resolve possibility).1) := by
  apply perm_map_of_unordered_eq (h.unordered_possibilities extractor.ignored)
  intro possibility hpossibility moved hmoved
  exact extractor.resolve_of_perm hmoved (hclear possibility hpossibility)

theorem Extractor.discarded_extractionOf (possibilities : List Possibility) :
    (extractor.extractionOf possibilities).discarded =
      (possibilities.map fun possibility => (extractor.resolve possibility).1).countP
        Option.isNone := by
  rw [List.countP_map]
  rfl

theorem Extractor.resolved_eq_filterMap (possibilities : List Possibility) :
    extractor.resolved possibilities =
      (possibilities.map fun possibility => (extractor.resolve possibility).1).filterMap id := by
  rw [List.filterMap_map]
  rfl

/-- Keyed lists of the same items have the same keys, whatever the order of the items. -/
theorem perm_map_putAll {α κ : Type} [DecidableEq κ] {key : α → κ} {items moved : List α}
    (h : items.Perm moved) : ((putAll key items).map key).Perm ((putAll key moved).map key) := by
  rw [List.perm_ext_iff_of_nodup (nodup_putAll items) (nodup_putAll moved)]
  intro k
  rw [map_putAll, map_putAll, List.mem_eraseDups, List.mem_eraseDups]
  exact (h.map key).mem_iff

/-- When items with one key are the same, keyed lists of them have the same items. -/
theorem perm_putAll {α κ : Type} [DecidableEq κ] {key : α → κ} {items moved : List α}
    (h : items.Perm moved) (hsame : ∀ x ∈ items, ∀ y ∈ items, key x = key y → x = y) :
    (putAll key items).Perm (putAll key moved) := by
  have hmoved : ∀ x ∈ moved, ∀ y ∈ moved, key x = key y → x = y := by
    intro x hx y hy
    exact hsame x (h.mem_iff.2 hx) y (h.mem_iff.2 hy)
  rw [List.perm_ext_iff_of_nodup (nodup_putAll items).of_map (nodup_putAll moved).of_map]
  intro x
  rw [mem_putAll_iff, mem_putAll_iff, isLastBy_iff_mem hsame, isLastBy_iff_mem hmoved, h.mem_iff]

/-- The order in which siblings are written does not matter. The possibilities are the same without
their order and that of their leaves. When each of them has at most one comment about a release and
one about a version, extraction counts the same numbers and finds the same keys; and it finds the
same packages when no key has two of them. -/
theorem Criteria.Reordered.extract_agrees (h : criteria.Reordered other) :
    (∀ ignored, unordered (criteria.possibilities ignored) =
      unordered (other.possibilities ignored)) ∧
    ∀ extractor : Extractor,
      (∀ possibility ∈ criteria.possibilities extractor.ignored, IsUnambiguous possibility) →
      let first := (extractor.extract criteria).1
      let second := (extractor.extract other).1
      first.possibilities = second.possibilities ∧ first.discarded = second.discarded ∧
      (first.packages.map Package.key).Perm (second.packages.map Package.key) ∧
      ((∀ x ∈ extractor.resolved (criteria.possibilities extractor.ignored),
          ∀ y ∈ extractor.resolved (criteria.possibilities extractor.ignored),
          x.key = y.key → x = y) →
        first.packages.Perm second.packages) := by
  refine ⟨h.unordered_possibilities, fun extractor hclear => ?_⟩
  dsimp only
  have hnamed := h.perm_resolve hclear
  have hresolved : (extractor.resolved (criteria.possibilities extractor.ignored)).Perm
      (extractor.resolved (other.possibilities extractor.ignored)) := by
    rw [extractor.resolved_eq_filterMap, extractor.resolved_eq_filterMap]
    exact hnamed.filterMap id
  rw [extractor.extract_eq, extractor.extract_eq]
  refine ⟨?_, ?_, perm_map_putAll hresolved, perm_putAll hresolved⟩
  · simpa [Extractor.extractionOf] using hnamed.length_eq
  · rw [extractor.discarded_extractionOf, extractor.discarded_extractionOf]
    exact hnamed.countP_eq _

end Extract

/-- The two releases in the other order, with their leaves in another order too. -/
def twoReleasesReordered : Criteria :=
  .node (some .disj)
    [.node (some .conj)
      [.node (some .disj) [] ["foo is earlier than 0:1.0-1.el7", "bar is earlier than #MAXV#"]]
      ["bar is signed with the Oracle Linux 7 key", "Oracle Linux 7 is installed"],
    .node (some .conj) [.node (some .disj) [] ["foo is earlier than 0:1.0-1.el6"]]
      ["Oracle Linux 6 is installed"]] []

/-- What the condition of the two releases gives in one order it gives in the other. The order of
the packages is another one. -/
theorem Criteria.extract_agrees_twoReleases :
    twoReleases.Reordered twoReleasesReordered ∧
    unordered (twoReleases.possibilities []) = unordered (twoReleasesReordered.possibilities []) ∧
    let extractor := Extractor.default Formats.default
    let possibilities := twoReleases.possibilities extractor.ignored
    let first := (extractor.extract twoReleases).1
    let second := (extractor.extract twoReleasesReordered).1
    (∀ possibility ∈ possibilities, IsUnambiguous possibility) ∧
    (∀ x ∈ extractor.resolved possibilities, ∀ y ∈ extractor.resolved possibilities,
      x.key = y.key → x = y) ∧
    first.packages ≠ second.packages ∧
    first.possibilities = second.possibilities ∧ first.discarded = second.discarded ∧
    (first.packages.map Package.key).Perm (second.packages.map Package.key) ∧
    first.packages.Perm second.packages := by
  have hbuilds : (Criteria.node (some .disj) []
      ["bar is earlier than #MAXV#", "foo is earlier than 0:1.0-1.el7"]).Reordered
      (.node (some .disj) []
        ["foo is earlier than 0:1.0-1.el7", "bar is earlier than #MAXV#"]) :=
    .node .nil (List.Perm.refl _) (List.Perm.swap _ _ _)
  have hreordered : twoReleases.Reordered twoReleasesReordered := by
    refine .node (.cons (.refl _) (.cons ?_ .nil)) (List.Perm.swap _ _ _) (List.Perm.refl _)
    exact .node (.cons hbuilds .nil) (List.Perm.refl _) (List.Perm.swap _ _ _)
  have hclear : ∀ possibility ∈
      twoReleases.possibilities (Extractor.default Formats.default).ignored,
      IsUnambiguous possibility := by
    decide +kernel
  have hkeys : ∀ x ∈ (Extractor.default Formats.default).resolved
        (twoReleases.possibilities (Extractor.default Formats.default).ignored),
      ∀ y ∈ (Extractor.default Formats.default).resolved
        (twoReleases.possibilities (Extractor.default Formats.default).ignored),
      x.key = y.key → x = y := by
    decide +kernel
  obtain ⟨hsame, hextract⟩ := Criteria.Reordered.extract_agrees hreordered
  obtain ⟨hcount, hdiscarded, hfound, hpackages⟩ := hextract _ hclear
  exact ⟨hreordered, hsame [], hclear, hkeys, by decide +kernel, hcount, hdiscarded, hfound,
    hpackages hkeys⟩

end AdvisoryFeed
