import AdvisoryFeed.Extraction
import AdvisoryFeed.Proofs.Keyed

/-!
# Merging of packages

Extraction takes in the possibilities of a condition one after the other. What it gives is the keyed
list of the packages that they name, how many possibilities there are, and how many of them name
none (`Extractor.extract_eq`).
-/

namespace AdvisoryFeed

section Merge

variable (extractor : Extractor)

/-- The packages that possibilities name, in their order. -/
def Extractor.resolved (possibilities : List Possibility) : List Package :=
  possibilities.filterMap fun possibility => (extractor.resolve possibility).1

/-- What possibilities come to. -/
def Extractor.extractionOf (possibilities : List Possibility) : Extraction where
  packages := putAll Package.key (extractor.resolved possibilities)
  possibilities := possibilities.length
  discarded := possibilities.countP fun possibility => (extractor.resolve possibility).1.isNone

/-- A further possibility is taken in behind those before it. -/
theorem Extractor.merge_extractionOf (possibilities : List Possibility)
    (possibility : Possibility) :
    (extractor.merge (extractor.extractionOf possibilities) possibility).1 =
      extractor.extractionOf (possibilities ++ [possibility]) := by
  rw [Extractor.merge]
  cases hpackage : (extractor.resolve possibility).1 with
  | none =>
    simp [Extractor.extractionOf, Extractor.resolved, hpackage]
  | some package =>
    simp [Extractor.extractionOf, Extractor.resolved, hpackage, putAll_concat]

/-- Extraction gives what the possibilities of the condition come to. -/
theorem Extractor.extract_eq (criteria : Criteria) :
    (extractor.extract criteria).1 =
      extractor.extractionOf (criteria.possibilities extractor.ignored) := by
  rw [Extractor.extract]
  generalize criteria.possibilities extractor.ignored = possibilities
  induction possibilities using List.reverseRecOn with
  | nil => rfl
  | append_singleton possibilities possibility ih =>
    rw [List.foldl_append, List.foldl_cons, List.foldl_nil]
    dsimp only
    rw [ih, Extractor.merge_extractionOf]

/-- Each package of a condition is named by one of its possibilities. -/
theorem Extractor.exists_possibility_of_mem_packages {criteria : Criteria} {package : Package}
    (h : package ∈ (extractor.extract criteria).1.packages) :
    ∃ possibility ∈ criteria.possibilities extractor.ignored,
      (extractor.resolve possibility).1 = some package := by
  rw [Extractor.extract_eq] at h
  exact List.mem_filterMap.1 (mem_putAll_iff.1 h).mem

end Merge

end AdvisoryFeed
