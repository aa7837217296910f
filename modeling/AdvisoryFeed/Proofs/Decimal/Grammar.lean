import AdvisoryFeed.Proofs.Decimal.Numerals

/-!
# Which texts are integers

`Numeral` is what a text must be made of to be read as an integer: padding, at most one sign, groups
of decimal digits with single underscores between them, and padding again. `Numeral.text` writes it,
and `Numeral.value` is the integer that it stands for. Reading accepts the texts of numerals and no
others, and gives their values (`readInt_eq_ok_iff`).
-/

namespace AdvisoryFeed.Text

/-! ## Pieces -/

/-- Splitting gives the stretches between the marks. -/
theorem splitAll_eq_splitOn (mark : Char) (s : List Char) : splitAll mark s = s.splitOn mark := by
  induction s with
  | nil => rfl
  | cons c s ih =>
    rw [splitAll, ih, List.splitOn, List.splitOn, List.splitOnP_cons_eq_if_modifyHead]
    by_cases hc : c = mark
    · simp [hc]
    · obtain ⟨piece, pieces, hpieces⟩ :=
        List.exists_cons_of_ne_nil (List.splitOnP_ne_nil (fun x => x == mark) s)
      rw [if_neg hc, if_neg (by simpa using hc), hpieces]
      rfl

theorem splitAll_ne_nil (mark : Char) (s : List Char) : splitAll mark s ≠ [] := by
  rw [splitAll_eq_splitOn, List.splitOn]
  exact List.splitOnP_ne_nil _ s

theorem intercalate_splitAll (mark : Char) (s : List Char) :
    [mark].intercalate (splitAll mark s) = s := by
  rw [splitAll_eq_splitOn, List.intercalate_splitOn]

theorem splitAll_intercalate {mark : Char} {pieces : List (List Char)} (hne : pieces ≠ [])
    (h : ∀ piece ∈ pieces, mark ∉ piece) : splitAll mark ([mark].intercalate pieces) = pieces := by
  rw [splitAll_eq_splitOn, List.splitOn_intercalate mark h hne]

/-- The pieces without the marks are the text without the marks. -/
theorem flatten_splitAll (mark : Char) (s : List Char) :
    (splitAll mark s).flatten = s.filter (· != mark) := by
  induction s with
  | nil => rfl
  | cons c s ih =>
    rw [splitAll]
    by_cases hc : c = mark
    · simp [hc, ih]
    · rw [if_neg hc, List.filter_cons_of_pos (by simpa using hc), ← ih]
      cases splitAll mark s <;> rfl

end AdvisoryFeed.Text

namespace AdvisoryFeed.Decimal

open AdvisoryFeed.Text

/-! ## Numerals -/

/-- What stands in front of the digits. -/
inductive Sign where
  | none
  | plus
  | minus
deriving DecidableEq, Repr

/-- The text of a sign. -/
def Sign.text : Sign → List Char
  | none => []
  | plus => ['+']
  | minus => ['-']

/-- The integer of a sign and a number. -/
def Sign.apply : Sign → Nat → Int
  | minus, n => -n
  | _, n => n

/-- The parts of an integer that is written out. -/
structure Numeral where
  front : List Char
  sign : Sign
  /-- The digits, with an underscore between one group and the next. -/
  groups : List (List Char)
  back : List Char
  isPadding_front : ∀ c ∈ front, isPadding c = true
  isPadding_back : ∀ c ∈ back, isPadding c = true
  groups_ne_nil : groups ≠ []
  group_ne_nil : ∀ group ∈ groups, group ≠ []
  isDecimal : ∀ group ∈ groups, ∀ c ∈ group, isDecimal c = true
  length_le : groups.flatten.length ≤ digitLimit

namespace Numeral

/-- The digits with the underscores between their groups. -/
def run (numeral : Numeral) : List Char :=
  ['_'].intercalate numeral.groups

/-- The text of a numeral. -/
def text (numeral : Numeral) : List Char :=
  numeral.front ++ (numeral.sign.text ++ (numeral.run ++ numeral.back))

/-- The integer that a numeral stands for. -/
def value (numeral : Numeral) : Int :=
  numeral.sign.apply (digitsValue numeral.groups.flatten)

end Numeral

/-! ## Characters of numerals -/

section Characters

theorem isBlank_of_isPadding {c : Char} (h : isPadding c = true) : isBlank c = true := by
  rw [isPadding, Bool.and_eq_true] at h
  exact h.1

theorem isNumeralChar_of_isPadding {c : Char} (h : isPadding c = true) :
    isNumeralChar c = false := by
  have hblank := isBlank_of_isPadding h
  rw [Bool.eq_false_iff, isNumeralChar]
  intro hchar
  rcases Bool.or_eq_true_iff.1 hchar with hdecimal | hunderscore
  · rw [isBlank_of_isDecimal hdecimal] at hblank
    exact absurd hblank (by simp)
  · rw [beq_iff_eq.1 hunderscore] at hblank
    exact absurd hblank (by decide)

theorem isPadding_of_isDecimal {c : Char} (h : isDecimal c = true) : isPadding c = false := by
  rw [isPadding, isBlank_of_isDecimal h, Bool.false_and]

theorem underscore_not_mem {group : List Char} (h : ∀ c ∈ group, isDecimal c = true) :
    '_' ∉ group := by
  intro hmem
  exact absurd (h '_' hmem) (by decide)

end Characters

/-! ## Reading -/

/-- A sign is split from what follows it, unless that begins with a sign too. -/
theorem splitSign_text (sign : Sign) {s : List Char} (h : ∀ c ∈ s.head?, isDecimal c = true) :
    splitSign (sign.text ++ s) = (decide (sign = .minus), s) := by
  cases sign with
  | plus => rfl
  | minus => rfl
  | none =>
    rw [Sign.text, List.nil_append]
    unfold splitSign
    split
    · exact absurd (h '-' rfl) (by decide)
    · exact absurd (h '+' rfl) (by decide)
    · rfl

/-- What is split is a sign and what follows it. -/
theorem exists_sign (s : List Char) :
    ∃ sign : Sign, s = sign.text ++ (splitSign s).2 ∧ (splitSign s).1 = decide (sign = .minus) := by
  unfold splitSign
  split
  · exact ⟨.minus, rfl, rfl⟩
  · exact ⟨.plus, rfl, rfl⟩
  · exact ⟨.none, rfl, rfl⟩

theorem Sign.apply_eq (sign : Sign) (n : Nat) :
    sign.apply n = if decide (sign = .minus) then -(n : Int) else n := by
  cases sign <;> rfl

section Read

variable (numeral : Numeral)

/-- The digits stand in the run without the underscores. -/
theorem Numeral.splitAll_run : splitAll '_' numeral.run = numeral.groups :=
  splitAll_intercalate numeral.groups_ne_nil fun group hgroup =>
    underscore_not_mem (numeral.isDecimal group hgroup)

theorem Numeral.filter_run : numeral.run.filter (· != '_') = numeral.groups.flatten := by
  rw [← flatten_splitAll, numeral.splitAll_run]

theorem Numeral.isNumeralChar_run : ∀ c ∈ numeral.run, isNumeralChar c = true := by
  intro c hc
  -- A character of the run is an underscore, or it is left when the underscores are taken out.
  by_cases hunderscore : c = '_'
  · rw [hunderscore]
    decide
  · have hmem : c ∈ numeral.groups.flatten := by
      rw [← numeral.filter_run, List.mem_filter]
      exact ⟨hc, by simpa using hunderscore⟩
    obtain ⟨group, hgroup, hin⟩ := List.mem_flatten.1 hmem
    exact isNumeralChar_of_isDecimal (numeral.isDecimal group hgroup c hin)

theorem Numeral.underscoresSeparate_run : underscoresSeparate numeral.run = true := by
  rw [underscoresSeparate, numeral.splitAll_run, List.all_eq_true]
  intro group hgroup
  simpa using numeral.group_ne_nil group hgroup

/-- The run begins with a digit. -/
theorem Numeral.exists_head : ∃ c rest, numeral.run = c :: rest ∧ Text.isDecimal c = true := by
  obtain ⟨group, groups, hgroups⟩ := List.exists_cons_of_ne_nil numeral.groups_ne_nil
  have hmem : group ∈ numeral.groups := by
    rw [hgroups]
    exact List.mem_cons_self
  obtain ⟨c, digits, rfl⟩ := List.exists_cons_of_ne_nil (numeral.group_ne_nil group hmem)
  have hdecimal := numeral.isDecimal _ hmem c List.mem_cons_self
  rw [Numeral.run, hgroups]
  cases groups with
  | nil => exact ⟨c, digits, List.intercalate_singleton, hdecimal⟩
  | cons next groups => exact ⟨c, _, List.intercalate_cons_cons, hdecimal⟩

/-- The text of a numeral is read as its value. -/
theorem Numeral.readInt_text :
    readInt (String.ofList numeral.text) = .ok numeral.value := by
  obtain ⟨c, rest, hrun, hdecimal⟩ := numeral.exists_head
  have hhead : ∀ d ∈ (numeral.run ++ numeral.back).head?, Text.isDecimal d = true := by
    intro d hd
    rw [hrun] at hd
    obtain rfl : c = d := Option.some.inj hd
    exact hdecimal
  have hsigned : ∀ d ∈ (numeral.sign.text ++ (numeral.run ++ numeral.back)).head?,
      isPadding d = false := by
    intro d hd
    cases hsign : numeral.sign with
    | none =>
      rw [hsign] at hd
      exact isPadding_of_isDecimal (hhead d hd)
    | plus =>
      rw [hsign] at hd
      obtain rfl : '+' = d := Option.some.inj hd
      decide
    | minus =>
      rw [hsign] at hd
      obtain rfl : '-' = d := Option.some.inj hd
      decide
  have hback : ∀ d ∈ numeral.back.head?, isNumeralChar d = false := by
    intro d hd
    exact isNumeralChar_of_isPadding (numeral.isPadding_back d (List.mem_of_mem_head? hd))
  obtain ⟨htake, hdrop⟩ := span_append numeral.isNumeralChar_run hback
  have hpadding : numeral.back.all isPadding = true := List.all_eq_true.2 numeral.isPadding_back
  rw [readInt]
  simp only [String.toList_ofList, Numeral.text,
    (span_append numeral.isPadding_front hsigned).2, splitSign_text numeral.sign hhead, htake,
    hdrop, numeral.underscoresSeparate_run, numeral.filter_run, hpadding]
  rw [if_neg (by simp), if_neg (Nat.not_lt.2 numeral.length_le), if_neg (by simp),
    Numeral.value, Sign.apply_eq]

end Read

/-- What is read as an integer is the text of a numeral. -/
theorem exists_numeral_of_readInt {text : String} {n : Int} (h : readInt text = .ok n) :
    ∃ numeral : Numeral, numeral.text = text.toList ∧ numeral.value = n := by
  obtain ⟨signed, hsigned⟩ : ∃ signed, signed = text.toList.dropWhile isPadding := ⟨_, rfl⟩
  obtain ⟨sign, hsign, hminus⟩ := exists_sign signed
  obtain ⟨digits, hdigits⟩ : ∃ digits, digits = (splitSign signed).2 := ⟨_, rfl⟩
  rw [readInt] at h
  simp only [← hsigned, ← hdigits, hminus] at h
  rw [← hdigits] at hsign
  split at h
  · exact absurd h (by simp)
  · next hseparate =>
    split at h
    · exact absurd h (by simp)
    · next hshort =>
      split at h
      · exact absurd h (by simp)
      · next hrest =>
        rw [underscoresSeparate, Bool.not_eq_true', Bool.not_eq_false, List.all_eq_true]
          at hseparate
        rw [Bool.not_eq_true', Bool.not_eq_false, List.all_eq_true] at hrest
        have hflatten := flatten_splitAll '_' (digits.takeWhile isNumeralChar)
        rw [← hflatten] at hshort h
        refine ⟨{
          front := text.toList.takeWhile isPadding
          sign := sign
          groups := splitAll '_' (digits.takeWhile isNumeralChar)
          back := digits.dropWhile isNumeralChar
          isPadding_front := fun c hc => List.mem_takeWhile_imp hc
          isPadding_back := hrest
          groups_ne_nil := splitAll_ne_nil _ _
          group_ne_nil := ?_
          isDecimal := ?_
          length_le := Nat.not_lt.1 hshort }, ?_, ?_⟩
        · intro group hgroup
          simpa using hseparate group hgroup
        · intro group hgroup c hc
          have hmem : c ∈ (digits.takeWhile isNumeralChar).filter (· != '_') := by
            rw [← hflatten]
            exact List.mem_flatten.2 ⟨group, hgroup, hc⟩
          obtain ⟨hrun, hother⟩ := List.mem_filter.1 hmem
          have hchar := List.mem_takeWhile_imp hrun
          rw [isNumeralChar, Bool.or_eq_true] at hchar
          exact hchar.resolve_right (by simpa using hother)
        · rw [Numeral.text, Numeral.run]
          dsimp only
          rw [intercalate_splitAll, List.takeWhile_append_dropWhile, ← hsign, hsigned,
            List.takeWhile_append_dropWhile]
        · rw [Numeral.value, Sign.apply_eq]
          exact Except.ok.inj h

/-- Reading accepts the texts of numerals and no others, and gives their values. -/
theorem readInt_eq_ok_iff {text : String} {n : Int} :
    readInt text = .ok n ↔
      ∃ numeral : Numeral, numeral.text = text.toList ∧ numeral.value = n := by
  constructor
  · exact exists_numeral_of_readInt
  · rintro ⟨numeral, htext, rfl⟩
    rw [← numeral.readInt_text, htext, String.ofList_toList]

end AdvisoryFeed.Decimal
