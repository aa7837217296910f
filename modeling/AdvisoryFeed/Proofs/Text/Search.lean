import AdvisoryFeed.Text.Blank
import AdvisoryFeed.Text.Search
import Mathlib.Data.List.Infix

/-!
# Where a text is cut

A text is cut where the marker stands first (`CutAt`, `splitFirst_eq_some_iff`). A marker cannot
begin in a stretch without its first character, so a text is cut behind such a stretch
(`splitFirst_append`). A marker without a certain character stands on one side of each such
character in a text (`contains_append_cons`). A text with no blank at either end is not changed by
stripping (`strip_of_ends`).
-/

namespace AdvisoryFeed.Text

/-! ## Stretches -/

/-- A text is parted behind its first stretch of characters with a property. -/
theorem span_append {p : Char → Bool} {s t : List Char} (hs : ∀ c ∈ s, p c = true)
    (ht : ∀ c ∈ t.head?, p c = false) :
    (s ++ t).takeWhile p = s ∧ (s ++ t).dropWhile p = t := by
  rw [List.takeWhile_append_of_pos hs, List.dropWhile_append_of_pos hs]
  cases t with
  | nil => exact ⟨List.append_nil s, rfl⟩
  | cons c t =>
    have hc : ¬ p c = true := by simpa using ht c rfl
    rw [List.takeWhile_cons_of_neg hc, List.dropWhile_cons_of_neg hc, List.append_nil]
    exact ⟨rfl, rfl⟩

/-! ## Cutting -/

section Cutting

variable {m : Char} {marker : List Char}

/-- A text is cut at a marker in front of it. -/
theorem splitFirst_marker (marker s : List Char) :
    splitFirst marker (marker ++ s) = some ([], s) := by
  have hfront : marker.isPrefixOf (marker ++ s) = true :=
    List.isPrefixOf_iff_prefix.2 (List.prefix_append marker s)
  have hrest : (marker ++ s).drop marker.length = s := List.drop_left
  cases htext : marker ++ s with
  | nil =>
    obtain ⟨rfl, rfl⟩ := List.append_eq_nil_iff.1 htext
    rfl
  | cons c t =>
    rw [htext] at hfront hrest
    rw [splitFirst, if_pos hfront, hrest]

/-- Where the marker does not stand in front, the first character is passed over. -/
theorem splitFirst_cons {c : Char} {s : List Char} (h : marker.isPrefixOf (c :: s) = false) :
    splitFirst marker (c :: s) =
      (splitFirst marker s).map fun parts => (c :: parts.1, parts.2) := by
  rw [splitFirst, if_neg (by simp [h])]

/-- A stretch without the first character of the marker is passed over. -/
theorem splitFirst_append {front : List Char} (h : m ∉ front) (s : List Char) :
    splitFirst (m :: marker) (front ++ s) =
      (splitFirst (m :: marker) s).map fun parts => (front ++ parts.1, parts.2) := by
  induction front with
  | nil => simp
  | cons c front ih =>
    rw [List.mem_cons, not_or] at h
    have hfront : (m :: marker).isPrefixOf (c :: (front ++ s)) = false := by
      rw [List.isPrefixOf, beq_false_of_ne h.1, Bool.false_and]
    rw [List.cons_append, splitFirst_cons hfront, ih h.2, Option.map_map]
    rfl

end Cutting

/-- The marker stands first in the text between the two parts. -/
structure CutAt (marker s head tail : List Char) : Prop where
  parts : s = head ++ marker ++ tail
  first : ∀ earlier rest, s = earlier ++ marker ++ rest → head.length ≤ earlier.length

section CutAt

variable {marker s head tail : List Char}

/-- A text is cut no later than at any place where the marker stands. -/
theorem length_le_of_splitFirst (h : splitFirst marker s = some (head, tail))
    {earlier rest : List Char} (hstands : s = earlier ++ marker ++ rest) :
    head.length ≤ earlier.length := by
  induction s generalizing head tail earlier with
  | nil =>
    have hparts := append_eq_of_splitFirst h
    simp only [List.append_eq_nil_iff] at hparts
    simp [hparts.1.1]
  | cons c s ih =>
    cases hfront : marker.isPrefixOf (c :: s) with
    | true =>
      rw [splitFirst, if_pos hfront] at h
      obtain ⟨rfl, -⟩ := Prod.mk.inj (Option.some.inj h)
      exact Nat.zero_le _
    | false =>
      rw [splitFirst_cons hfront] at h
      obtain ⟨⟨x, y⟩, hcut, heq⟩ := Option.map_eq_some_iff.1 h
      obtain ⟨rfl, rfl⟩ := Prod.mk.inj heq
      cases earlier with
      | nil =>
        -- The marker would stand in front of the text, where it has not been found.
        have hprefix : marker <+: c :: s := ⟨rest, hstands.symm⟩
        rw [List.isPrefixOf_iff_prefix.2 hprefix] at hfront
        exact absurd hfront (by simp)
      | cons d earlier =>
        obtain ⟨-, hrest⟩ := List.cons.inj hstands
        exact Nat.succ_le_succ (ih hcut hrest)

/-- A text is cut at a place exactly when the marker stands there, and nowhere before. -/
theorem splitFirst_eq_some_iff :
    splitFirst marker s = some (head, tail) ↔ CutAt marker s head tail := by
  constructor
  · intro h
    exact ⟨(append_eq_of_splitFirst h).symm, fun _ _ => length_le_of_splitFirst h⟩
  · intro h
    have hstands : contains marker s = true :=
      (contains_iff_isInfix marker s).2 ⟨head, tail, h.parts.symm⟩
    obtain ⟨⟨front, back⟩, hcut⟩ := Option.isSome_iff_exists.1 hstands
    have hparts := append_eq_of_splitFirst hcut
    have hlength : front.length = head.length :=
      Nat.le_antisymm (length_le_of_splitFirst hcut h.parts) (h.first _ _ hparts.symm)
    rw [h.parts, List.append_assoc, List.append_assoc] at hparts
    obtain ⟨rfl, hrest⟩ := List.append_inj hparts hlength
    rw [hcut, List.append_cancel_left hrest]

end CutAt

section CutAtCharacter

variable {m : Char} {s head tail : List Char}

/-- A text is cut at a character exactly when nothing before it is that character. -/
theorem splitFirst_singleton_eq_some_iff :
    splitFirst [m] s = some (head, tail) ↔ s = head ++ m :: tail ∧ m ∉ head := by
  constructor
  · intro h
    have hparts : s = head ++ m :: tail := by simpa using (append_eq_of_splitFirst h).symm
    refine ⟨hparts, fun hmem => ?_⟩
    obtain ⟨front, back, rfl⟩ := List.append_of_mem hmem
    have hstands : s = front ++ [m] ++ (back ++ m :: tail) := by simpa using hparts
    have hlength := length_le_of_splitFirst h hstands
    rw [List.length_append, List.length_cons] at hlength
    omega
  · rintro ⟨rfl, hmem⟩
    have hcut : splitFirst [m] (m :: tail) = some ([], tail) := splitFirst_marker [m] tail
    rw [splitFirst_append hmem, hcut, Option.map_some, List.append_nil]

theorem splitFirst_singleton_eq_none_iff : splitFirst [m] s = none ↔ m ∉ s := by
  rw [← Option.not_isSome_iff_eq_none, ← contains, contains_iff_isInfix,
    List.singleton_infix_iff]

end CutAtCharacter

/-! ## Containing -/

section Containing

variable {m : Char} {marker : List Char}

theorem contains_cons {c : Char} {s : List Char} (h : marker.isPrefixOf (c :: s) = false) :
    contains marker (c :: s) = contains marker s := by
  rw [contains, contains, splitFirst_cons h, Option.isSome_map]

theorem contains_append {front : List Char} (h : m ∉ front) (s : List Char) :
    contains (m :: marker) (front ++ s) = contains (m :: marker) s := by
  rw [contains, contains, splitFirst_append h, Option.isSome_map]

/-- A text without one of the characters of the marker does not contain it. -/
theorem contains_eq_false {c : Char} {s : List Char} (hc : c ∈ marker) (h : c ∉ s) :
    contains marker s = false := by
  rw [Bool.eq_false_iff, ne_eq, contains_iff_isInfix]
  intro hpart
  exact h (hpart.subset hc)

/-- A marker without a certain character stands before or behind that character. -/
theorem contains_append_cons {b : Char} (h : b ∉ marker) (s t : List Char) :
    contains marker (s ++ b :: t) = (contains marker s || contains marker t) := by
  rw [Bool.eq_iff_iff, Bool.or_eq_true]
  simp only [contains_iff_isInfix]
  constructor
  · intro hpart
    rcases List.infix_append_iff.1 hpart with hleft | hright | ⟨left, right, rfl, hleft, hright⟩
    · exact Or.inl hleft
    · rcases List.infix_cons_iff.1 hright with hfront | hbehind
      · cases marker with
        | nil => exact Or.inr List.nil_infix
        | cons c marker =>
          obtain ⟨rfl, -⟩ := List.cons_prefix_cons.1 hfront
          exact absurd List.mem_cons_self h
      · exact Or.inr hbehind
    · -- A marker across the place would hold the character, or end before it.
      cases right with
      | nil =>
        rw [List.append_nil]
        exact Or.inl hleft.isInfix
      | cons c right =>
        obtain ⟨rfl, -⟩ := List.cons_prefix_cons.1 hright
        exact absurd (List.mem_append_right left List.mem_cons_self) h
  · rintro (hleft | hright)
    · exact hleft.trans (List.prefix_append s (b :: t)).isInfix
    · exact hright.trans ((List.suffix_cons b t).trans (List.suffix_append s (b :: t))).isInfix

end Containing

/-! ## Stripping -/

theorem dropWhile_isBlank_of_head {s : List Char} (h : ∀ c ∈ s.head?, isBlank c = false) :
    s.dropWhile isBlank = s := by
  cases s with
  | nil => rfl
  | cons c s =>
    have hc : isBlank c = false := h c rfl
    rw [List.dropWhile_cons_of_neg (by simp [hc])]

/-- Nothing is stripped from a text that neither begins nor ends with a blank. -/
theorem strip_of_ends {s : List Char} (hfirst : ∀ c ∈ s.head?, isBlank c = false)
    (hlast : ∀ c ∈ s.getLast?, isBlank c = false) : strip s = s := by
  have hreverse : ∀ c ∈ s.reverse.head?, isBlank c = false := by
    rw [List.head?_reverse]
    exact hlast
  rw [strip, trimBy, dropWhile_isBlank_of_head hfirst, dropWhile_isBlank_of_head hreverse,
    List.reverse_reverse]

/-- Nothing is stripped from a text without blanks. -/
theorem strip_eq_self {s : List Char} (h : ∀ c ∈ s, isBlank c = false) : strip s = s :=
  strip_of_ends (fun c hc => h c (List.mem_of_mem_head? hc))
    fun c hc => h c (List.mem_of_getLast? hc)

/-- Blanks around a text without blanks are stripped. -/
theorem strip_append_blanks {before s after : List Char} (hbefore : ∀ c ∈ before, isBlank c = true)
    (hs : ∀ c ∈ s, isBlank c = false) (hne : s ≠ []) (hafter : ∀ c ∈ after, isBlank c = true) :
    strip (before ++ s ++ after) = s := by
  have hfirst : (s ++ after).dropWhile isBlank = s ++ after := by
    refine dropWhile_isBlank_of_head fun c hc => hs c ?_
    rw [List.head?_append_of_ne_nil _ hne] at hc
    exact List.mem_of_mem_head? hc
  have hlast : s.reverse.dropWhile isBlank = s.reverse := by
    refine dropWhile_isBlank_of_head fun c hc => hs c ?_
    exact List.mem_reverse.1 (List.mem_of_mem_head? hc)
  rw [strip, trimBy, List.append_assoc, List.dropWhile_append_of_pos hbefore, hfirst,
    List.reverse_append,
    List.dropWhile_append_of_pos fun c hc => hafter c (List.mem_reverse.1 hc), hlast,
    List.reverse_reverse]

/-- What stripping leaves of a text, if anything, is more than blanks. -/
theorem exists_not_isBlank_of_strip {s : List Char} (h : strip s ≠ []) :
    ∃ c ∈ strip s, isBlank c = false := by
  rw [strip, trimBy] at h ⊢
  generalize (s.dropWhile isBlank).reverse = reversed at h ⊢
  have hne : reversed.dropWhile isBlank ≠ [] := fun hnil => h (by rw [hnil]; rfl)
  refine ⟨(reversed.dropWhile isBlank).head hne, ?_, List.head_dropWhile_not isBlank hne⟩
  exact List.mem_reverse.2 (List.head_mem hne)

/-- The space separators are blanks. -/
theorem isBlank_of_isSpaceSeparator {c : Char} (h : isSpaceSeparator c = true) :
    isBlank c = true := by
  have hwithin : ∀ span ∈ spaceSpans, ∃ wide ∈ blankSpans, wide.1 ≤ span.1 ∧ span.2 ≤ wide.2 := by
    decide
  obtain ⟨span, hspan, hfirst, hlast⟩ := (Spans.has_iff spaceSpans c).1 h
  obtain ⟨wide, hwide, hbefore, hbehind⟩ := hwithin span hspan
  exact (Spans.has_iff blankSpans c).2
    ⟨wide, hwide, hbefore.trans hfirst, hlast.trans hbehind⟩

end AdvisoryFeed.Text
