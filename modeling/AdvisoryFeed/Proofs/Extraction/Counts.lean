import AdvisoryFeed.Proofs.Extraction.Merge
import AdvisoryFeed.Proofs.Extraction.Resolution

/-!
# Counts of extraction

Every possibility of a condition is counted, and each of them either names a package or is
discarded with a notice (`Extractor.told_extract`). The packages that are named are merged by their
keys: a key stands where a possibility names it first, and has the package of the possibility that
names it last. So a possibility is accounted for by a package, by a notice, or by a later one with
its key, and the numbers add up exactly when no two name one key (`Extractor.extract_addsUp`).
-/

namespace AdvisoryFeed

open AdvisoryFeed.Text

/-! ## Notices of discarded possibilities -/

/-- How the notice about a discarded possibility begins. -/
def discardText : String := "could not determine a valid package"

/-- The notice is about a discarded possibility, as its wording begins. -/
def Notice.tellsDiscard (notice : Notice) : Bool :=
  discardText.toList.isPrefixOf notice.message.toList

/-- A text does not begin with a start that parts from its first words. -/
theorem isPrefixOf_eq_false {start front : List Char} (rest : List Char)
    (hstart : ¬ start <+: front) (hfront : ¬ front <+: start) :
    start.isPrefixOf (front ++ rest) = false := by
  rw [Bool.eq_false_iff, ne_eq, List.isPrefixOf_iff_prefix]
  intro h
  rcases List.prefix_or_prefix_of_prefix h (List.prefix_append front rest) with hshort | hlong
  · exact hstart hshort
  · exact hfront hlong

theorem Notice.tellsDiscard_badVersion (version : String) (error : VersionError) :
    (Notice.badVersion version error).tellsDiscard = false := by
  change discardText.toList.isPrefixOf ("could not parse package version " ++ quote version ++
    ", skipping: " ++ error.message).toList = false
  rw [String.append_assoc, String.append_assoc, String.toList_append]
  exact isPrefixOf_eq_false _ (by decide) (by decide)

theorem Notice.tellsDiscard_noRelease (distribution comment : String) :
    (Notice.noRelease distribution comment).tellsDiscard = false := by
  change discardText.toList.isPrefixOf ("could not parse " ++ distribution ++
    " release version from comment: " ++ quote comment).toList = false
  rw [String.append_assoc, String.append_assoc, String.toList_append]
  exact isPrefixOf_eq_false _ (by decide) (by decide)

theorem Notice.tellsDiscard_noPackage (leaves : List String) :
    (Notice.noPackage leaves).tellsDiscard = true := by
  have hfront : "could not determine a valid package from criterions: ".toList =
      discardText.toList ++ " from criterions: ".toList := by
    decide
  change discardText.toList.isPrefixOf
    ("could not determine a valid package from criterions: " ++ quoteAll leaves).toList = true
  rw [String.toList_append, hfront, List.append_assoc, List.isPrefixOf_iff_prefix]
  exact List.prefix_append _ _

section Told

variable (extractor : Extractor)

/-- Reading a leaf tells of no discarded possibility. -/
theorem Extractor.filter_read (findings : Findings) (leaf : String) :
    (extractor.read findings leaf).2.filter Notice.tellsDiscard = [] := by
  rw [Extractor.read]
  split
  · rw [Extractor.release]
    dsimp only
    cases extractor.releaseOf? leaf with
    | some release => rfl
    | none => simp [Notice.tellsDiscard_noRelease]
  · split
    · rfl
    · split
      · rfl
      · simp [Notice.tellsDiscard_badVersion]

theorem Extractor.filter_readAll (possibility : Possibility) :
    (extractor.readAll possibility).2.filter Notice.tellsDiscard = [] := by
  induction possibility using List.reverseRecOn with
  | nil => rfl
  | append_singleton possibility leaf ih =>
    have hnotices : (extractor.readAll (possibility ++ [leaf])).2 =
        (extractor.readAll possibility).2 ++
          (extractor.read (extractor.readAll possibility).1 leaf).2 := by
      rw [Extractor.readAll, List.foldl_append]
      rfl
    rw [hnotices, List.filter_append, ih, Extractor.filter_read, List.append_nil]

/-- The possibility names no package. -/
def Extractor.discards (possibility : Possibility) : Bool :=
  (extractor.resolve possibility).1.isNone

/-- Taking in a possibility tells of it exactly when it is discarded. -/
theorem Extractor.filter_merge (extraction : Extraction) (possibility : Possibility) :
    (extractor.merge extraction possibility).2.filter Notice.tellsDiscard =
      if extractor.discards possibility then [.noPackage possibility] else [] := by
  have hread : (extractor.resolve possibility).2.filter Notice.tellsDiscard = [] :=
    extractor.filter_readAll possibility
  rw [Extractor.merge, Extractor.discards]
  cases (extractor.resolve possibility).1 with
  | some package => simpa using hread
  | none => simp [List.filter_append, hread, Notice.tellsDiscard_noPackage]

/-- Extraction tells of each discarded possibility once, in their order. -/
theorem Extractor.told_extract (criteria : Criteria) :
    (extractor.extract criteria).2.filter Notice.tellsDiscard =
      ((criteria.possibilities extractor.ignored).filter extractor.discards).map .noPackage := by
  rw [Extractor.extract]
  generalize criteria.possibilities extractor.ignored = possibilities
  induction possibilities using List.reverseRecOn with
  | nil => rfl
  | append_singleton possibilities possibility ih =>
    rw [List.foldl_append, List.foldl_cons, List.foldl_nil]
    dsimp only
    rw [List.filter_append, ih, Extractor.filter_merge, List.filter_append, List.map_append]
    cases hdiscards : extractor.discards possibility with
    | true => simp [hdiscards]
    | false => simp [hdiscards]

end Told

/-! ## Accounts -/

/-- The last of the values that items have, by keys of the values, is that of the last item whose
value has the key. -/
theorem isLastBy_filterMap_iff {α β κ : Type} {key : β → κ} {f : α → Option β} {items : List α}
    {y : β} : IsLastBy key (items.filterMap f) y ↔
      ∃ x, IsLastWith (fun x => (f x).map key = some (key y)) items x ∧ f x = some y := by
  constructor
  · rintro ⟨before, after, hvalues, hafter⟩
    obtain ⟨front, rest, rfl, -, hrest⟩ := List.filterMap_eq_append_iff.1 hvalues
    obtain ⟨between, x, back, rfl, -, hx, hback⟩ := List.filterMap_eq_cons_iff.1 hrest
    refine ⟨x, ⟨front ++ between, back, by simp, by simp [hx], ?_⟩, hx⟩
    intro later hlater hkey
    obtain ⟨z, hz, hsame⟩ := Option.map_eq_some_iff.1 hkey
    exact hafter z (hback ▸ List.mem_filterMap.2 ⟨later, hlater, hz⟩) hsame
  · rintro ⟨x, ⟨before, after, rfl, -, hafter⟩, hx⟩
    refine ⟨before.filterMap f, after.filterMap f, ?_, ?_⟩
    · rw [List.filterMap_append, List.filterMap_cons_some hx]
    · intro z hz hkey
      obtain ⟨later, hlater, hvalue⟩ := List.mem_filterMap.1 hz
      exact hafter later hlater (by simp [hvalue, hkey])

/-- The values of items are different when no two items have the same value. -/
theorem nodup_filterMap_iff {α β : Type} {f : α → Option β} {items : List α} :
    (items.filterMap f).Nodup ↔
      items.Pairwise fun first second => ∀ y, f first = some y → f second ≠ some y := by
  rw [List.Nodup, List.pairwise_filterMap]
  refine List.Pairwise.iff ?_
  intro first second
  constructor
  · intro h y hfirst hsecond
    exact h y hfirst y hsecond rfl
  · rintro h y hfirst z hsecond rfl
    exact h y hfirst hsecond

section Accounts

variable (extractor : Extractor)

/-- The key of the package that a possibility names. -/
def Extractor.keyOf? (possibility : Possibility) : Option (Option String × Option String) :=
  (extractor.resolve possibility).1.map Package.key

/-- What extraction gives of possibilities adds up. -/
structure Extractor.AddsUp (possibilities : List Possibility) (extraction : Extraction)
    (notices : List Notice) : Prop where
  counted : extraction.possibilities = possibilities.length
  discarded : extraction.discarded = (possibilities.filter extractor.discards).length
  /-- Of each discarded possibility one notice tells, in their order. -/
  told : notices.filter Notice.tellsDiscard =
    (possibilities.filter extractor.discards).map .noPackage
  /-- No two packages have one key. -/
  once : (extraction.packages.map Package.key).Nodup
  /-- The keys are those that a possibility names. -/
  named : ∀ key, key ∈ extraction.packages.map Package.key ↔
    ∃ possibility ∈ possibilities, extractor.keyOf? possibility = some key
  /-- Each key stands where it is named first. -/
  first : extraction.packages.map Package.key =
    (possibilities.filterMap extractor.keyOf?).eraseDups
  /-- Each package is that of the last possibility that names its key. -/
  last : ∀ package, package ∈ extraction.packages ↔ ∃ possibility,
    IsLastWith (fun other => extractor.keyOf? other = some package.key) possibilities possibility ∧
      (extractor.resolve possibility).1 = some package
  bound : extraction.packages.length + extraction.discarded ≤ extraction.possibilities
  /-- Nothing is lost in merging exactly when no two possibilities name one key. -/
  exact : extraction.packages.length + extraction.discarded = extraction.possibilities ↔
    possibilities.Pairwise fun first second => ∀ key, extractor.keyOf? first = some key →
      extractor.keyOf? second ≠ some key

theorem Extractor.map_key_resolved (possibilities : List Possibility) :
    (extractor.resolved possibilities).map Package.key =
      possibilities.filterMap extractor.keyOf? := by
  rw [Extractor.resolved, List.map_filterMap]
  rfl

/-- Every possibility names a package or is discarded. -/
theorem Extractor.length_resolved_add_discarded (possibilities : List Possibility) :
    (extractor.resolved possibilities).length +
      (possibilities.filter extractor.discards).length = possibilities.length := by
  have hdiscards : ∀ possibility, extractor.discards possibility =
      !(extractor.resolve possibility).1.isSome := by
    intro possibility
    rw [Extractor.discards, Option.not_isSome]
  rw [Extractor.resolved, List.length_filterMap_eq_countP, ← List.countP_eq_length_filter,
    List.length_eq_countP_add_countP fun possibility => (extractor.resolve possibility).1.isSome]
  congr 1
  refine List.countP_congr fun possibility _ => ?_
  simp [hdiscards]

/-- The accounts of extraction: every possibility is counted and either named or told of as
discarded; the packages have different keys, in the order in which they are named first, and each is
the one that is named last. The numbers of packages and of discarded possibilities make up all
possibilities exactly when no two of these name one key. -/
theorem Extractor.extract_addsUp (criteria : Criteria) :
    extractor.AddsUp (criteria.possibilities extractor.ignored) (extractor.extract criteria).1
      (extractor.extract criteria).2 := by
  have htold := extractor.told_extract criteria
  rw [extractor.extract_eq]
  generalize criteria.possibilities extractor.ignored = possibilities at htold ⊢
  have hdiscarded : (extractor.extractionOf possibilities).discarded =
      (possibilities.filter extractor.discards).length := List.countP_eq_length_filter
  have hkeys : (extractor.extractionOf possibilities).packages.map Package.key =
      (possibilities.filterMap extractor.keyOf?).eraseDups := by
    rw [← extractor.map_key_resolved]
    exact map_putAll _
  have htotal := extractor.length_resolved_add_discarded possibilities
  constructor
  case counted => rfl
  case discarded => exact hdiscarded
  case told => exact htold
  case once => exact nodup_putAll _
  case named =>
    intro key
    rw [hkeys, List.mem_eraseDups, List.mem_filterMap]
  case first => exact hkeys
  case last =>
    intro package
    exact mem_putAll_iff.trans isLastBy_filterMap_iff
  case bound =>
    have hmerged : (putAll Package.key (extractor.resolved possibilities)).length ≤
        (extractor.resolved possibilities).length := length_putAll_le _
    rw [hdiscarded]
    change (putAll Package.key (extractor.resolved possibilities)).length + _ ≤
      possibilities.length
    omega
  case exact =>
    have hmerged : (extractor.extractionOf possibilities).packages.length +
        (extractor.extractionOf possibilities).discarded = possibilities.length ↔
        (putAll Package.key (extractor.resolved possibilities)).length =
          (extractor.resolved possibilities).length := by
      rw [hdiscarded, ← htotal, Nat.add_right_cancel_iff]
      rfl
    rw [length_putAll_eq_iff, extractor.map_key_resolved, nodup_filterMap_iff] at hmerged
    exact hmerged

end Accounts

end AdvisoryFeed
