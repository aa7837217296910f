import AdvisoryFeed.Proofs.Decimal.Numerals
import AdvisoryFeed.Quality.Check

/-!
# Checks that pass

A check counts the rows that break its rule. It passes without a hit (`Check.IsClean`) exactly when
every row follows the rule; each rule is stated here by what the rows have to do with each other, or
by what a single row has to be like.

A name that was stripped is blank only when it is empty (`isBlankName_strip_iff`). A platform made of
a family and a number is well-formed unless the number is negative (`isPlatform_showInt_iff`).
-/

namespace AdvisoryFeed.Quality

open AdvisoryFeed.Decimal AdvisoryFeed.Store AdvisoryFeed.Text

/-- The check passes and counts nothing. -/
structure Check.IsClean (check : Check) (label : String) : Prop where
  passed : check.passed = true
  details : check.details = [(label, 0)]

theorem isClean_countCheck_iff {name label complaint praise : String} {count : Nat} :
    (countCheck name label complaint praise count).IsClean label ↔ count = 0 := by
  constructor
  · intro h
    simpa [countCheck] using h.passed
  · rintro rfl
    exact ⟨rfl, rfl⟩

/-- Every vulnerability has a package. -/
theorem isClean_vulnerabilitiesHavePackages_iff {tables : Tables} :
    (vulnerabilitiesHavePackages tables).IsClean "missing_count" ↔
      ∀ row ∈ tables.vulnerabilities, ∃ package ∈ tables.affected, package.id = row.id := by
  rw [vulnerabilitiesHavePackages, isClean_countCheck_iff, List.countP_eq_zero]
  simp

/-- Every package has a vulnerability. -/
theorem isClean_noOrphanPackages_iff {tables : Tables} :
    (noOrphanPackages tables).IsClean "orphan_count" ↔
      ∀ package ∈ tables.affected, ∃ row ∈ tables.vulnerabilities, row.id = package.id := by
  rw [noOrphanPackages, isClean_countCheck_iff, List.countP_eq_zero]
  simp

/-- No vulnerability has a blank name. -/
theorem isClean_namedVulnerabilities_iff {tables : Tables} :
    (namedVulnerabilities tables).IsClean "unnamed_count" ↔
      ∀ row ∈ tables.vulnerabilities, isBlankName row.name = false := by
  rw [namedVulnerabilities, isClean_countCheck_iff, List.countP_eq_zero]
  simp

/-- Every platform is well-formed. -/
theorem isClean_platformFormat_iff {tables : Tables} :
    (platformFormat tables).IsClean "invalid_count" ↔
      ∀ row ∈ tables.affected, isPlatform row.platform.toList = true := by
  rw [platformFormat, isClean_countCheck_iff, List.countP_eq_zero]
  simp

/-! ## Names and platforms -/

/-- A name without blanks around it is blank only when it is empty. -/
theorem isBlankName_strip_iff {s : List Char} :
    isBlankName (String.ofList (strip s)) = true ↔ strip s = [] := by
  rw [isBlankName, String.toList_ofList]
  constructor
  · intro hall
    by_contra hne
    obtain ⟨c, hc, hblank⟩ := exists_not_isBlank_of_strip hne
    have hspace := isBlank_of_isSpaceSeparator (List.all_eq_true.1 hall c hc)
    rw [hblank] at hspace
    exact absurd hspace Bool.false_ne_true
  · intro hnil
    rw [hnil]
    rfl

/-- A family in lower-case letters and a number make a platform, unless the number is negative. -/
theorem isPlatform_showInt_iff {family : String} (hne : family.toList ≠ [])
    (hlower : family.toList.all Char.isLower = true) (release : Int) :
    isPlatform (family ++ ":" ++ showInt release).toList = true ↔ 0 ≤ release := by
  rw [List.all_eq_true] at hlower
  have htext : (family ++ ":" ++ showInt release).toList =
      family.toList ++ ':' :: decimalInt release := by
    simp [showInt]
  have hfamily : (family.toList ++ ':' :: decimalInt release).takeWhile Char.isLower =
      family.toList := by
    rw [List.takeWhile_append_of_pos hlower, List.takeWhile_cons_of_neg (by decide),
      List.append_nil]
  have hrest : (family.toList ++ ':' :: decimalInt release).dropWhile Char.isLower =
      ':' :: decimalInt release := by
    rw [List.dropWhile_append_of_pos hlower, List.dropWhile_cons_of_neg (by decide)]
  rw [htext, isPlatform, hfamily, hrest]
  cases release with
  | ofNat n =>
    have hdigits : (decimal n).all Char.isDigit = true :=
      List.all_eq_true.2 fun c hc => isDigit_of_mem_decimal hc
    have hsome : decimal n ≠ [] := Nat.toDigits_ne_nil
    simp [decimalInt, hne, hdigits, hsome]
  | negSucc n => simp [decimalInt]

end AdvisoryFeed.Quality
