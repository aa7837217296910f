import AdvisoryFeed.Decimal.Numeral
import AdvisoryFeed.Proofs.Text.Search
import Mathlib.Data.List.TakeWhile
import Mathlib.Tactic.Ring

/-!
# Values of numerals

Digits stand for the number that `digitsValue` gives, which is less than the power of ten of their
count (`digitsValue_lt_pow`). Reading digits of any script gives their value, unless there are too
many of them (`readInt_of_isDecimal`). Of the ASCII digits that `decimal` writes the value is the
number itself (`digitsValue_decimal`), so what was written is read back (`readInt_showInt`).
-/

namespace AdvisoryFeed.Text

/-- The value of an ASCII digit. -/
theorem digitValue?_of_isDigit {c : Char} (h : c.isDigit = true) :
    digitValue? c = some (c.toNat - '0'.toNat) := by
  have hbounds : 0x30 ≤ c.toNat ∧ c.toNat ≤ 0x30 + 9 := by
    simp only [Char.isDigit, Bool.and_eq_true, decide_eq_true_eq, UInt32.le_iff_toNat_le] at h
    exact h
  rw [digitValue?, decimalZeros, List.find?_cons_of_pos (by simpa using hbounds)]
  rfl

/-- An ASCII digit is a decimal digit. -/
theorem isDecimal_of_isDigit {c : Char} (h : c.isDigit = true) : isDecimal c = true := by
  rw [isDecimal, digitValue?_of_isDigit h]
  rfl

/-- No decimal digit of any script is a blank. -/
theorem isBlank_of_isDecimal {c : Char} (h : isDecimal c = true) : isBlank c = false := by
  -- Digits come in runs of ten, and no run meets a span of blanks.
  have hapart : ∀ z ∈ decimalZeros, ∀ span ∈ blankSpans, z + 9 < span.1 ∨ span.2 < z := by
    decide
  obtain ⟨value, hvalue⟩ := Option.isSome_iff_exists.1 h
  obtain ⟨z, hz, -⟩ := Option.map_eq_some_iff.1 hvalue
  have hrange := List.find?_some hz
  simp only [Bool.and_eq_true, decide_eq_true_eq] at hrange
  rw [isBlank, Spans.has, List.any_eq_false]
  intro span hspan
  have := hapart z (List.mem_of_find?_eq_some hz) span hspan
  simp only [Bool.and_eq_true, decide_eq_true_eq]
  omega

end AdvisoryFeed.Text

namespace AdvisoryFeed.Decimal

open AdvisoryFeed.Text

/-! ## Values -/

/-- A further digit in front counts by its place. -/
theorem digitsValue_cons (c : Char) (s : List Char) :
    digitsValue (c :: s) = (digitValue? c).getD 0 * 10 ^ s.length + digitsValue s := by
  -- The fold starts behind the first digit, so what it adds is stated for any start.
  have hfold : ∀ (s : List Char) (n : Nat),
      s.foldl (fun acc c => acc * 10 + (digitValue? c).getD 0) n =
        n * 10 ^ s.length + digitsValue s := by
    intro s
    induction s with
    | nil => simp [digitsValue]
    | cons d s ih =>
      intro n
      rw [digitsValue, List.foldl_cons, List.foldl_cons, ih, ih, List.length_cons]
      ring
  rw [digitsValue, List.foldl_cons, hfold, Nat.zero_mul, Nat.zero_add]

theorem digitValue?_getD_lt (c : Char) : (digitValue? c).getD 0 < 10 := by
  cases h : digitValue? c with
  | none => decide
  | some d => exact digitValue?_lt h

/-- Digits stand for less than the power of ten of their count. -/
theorem digitsValue_lt_pow (s : List Char) : digitsValue s < 10 ^ s.length := by
  induction s with
  | nil => decide
  | cons c s ih =>
    rw [digitsValue_cons, List.length_cons, Nat.pow_succ]
    have hdigit := digitValue?_getD_lt c
    calc (digitValue? c).getD 0 * 10 ^ s.length + digitsValue s
        < (digitValue? c).getD 0 * 10 ^ s.length + 10 ^ s.length := by omega
      _ = ((digitValue? c).getD 0 + 1) * 10 ^ s.length := by rw [Nat.succ_mul]
      _ ≤ 10 * 10 ^ s.length := Nat.mul_le_mul_right _ hdigit
      _ = 10 ^ s.length * 10 := Nat.mul_comm _ _

/-- On ASCII digits the value is the one of the usual numeral. -/
theorem digitsValue_eq_ofDigitChars {s : List Char} (h : ∀ c ∈ s, c.isDigit = true) :
    digitsValue s = Nat.ofDigitChars 10 s 0 := by
  induction s with
  | nil => simp [digitsValue]
  | cons c s ih =>
    have hc := digitValue?_of_isDigit (h c List.mem_cons_self)
    have hshift := @Nat.ofDigitChars_eq_ofDigitChars_zero s (10 * 0 + (c.toNat - '0'.toNat))
    rw [digitsValue_cons, ih fun d hd => h d (List.mem_cons_of_mem c hd), hc,
      Nat.ofDigitChars_cons, hshift, Option.getD_some]
    ring

theorem isDigit_of_mem_decimal {n : Nat} {c : Char} (h : c ∈ decimal n) : c.isDigit = true :=
  Nat.isDigit_of_mem_toDigits (by decide) (by decide) h

/-- The digits of a number stand for it. -/
theorem digitsValue_decimal (n : Nat) : digitsValue (decimal n) = n := by
  rw [digitsValue_eq_ofDigitChars fun c hc => isDigit_of_mem_decimal hc]
  exact Nat.ofDigitChars_ten_toDigits

theorem decimal_injective : Function.Injective decimal := by
  intro m n h
  rw [← digitsValue_decimal m, h, digitsValue_decimal]

/-- Zeros in front leave the value as it is. -/
theorem digitsValue_replicate_zero (count : Nat) (digits : List Char) :
    digitsValue (List.replicate count '0' ++ digits) = digitsValue digits := by
  have hzero : (digitValue? '0').getD 0 = 0 := by decide
  induction count with
  | zero => rfl
  | succ count ih =>
    rw [List.replicate_succ, List.cons_append, digitsValue_cons, hzero, Nat.zero_mul, Nat.zero_add,
      ih]

/-- The value of at most as many digits as a numeral may have is written with no more digits. -/
theorem length_decimal_digitsValue_le {s : List Char} (h : s.length ≤ digitLimit) :
    (decimal (digitsValue s)).length ≤ digitLimit := by
  rw [decimal, Nat.length_toDigits_le_iff (by decide) (by decide)]
  exact (digitsValue_lt_pow s).trans_le (Nat.pow_le_pow_right (by decide) h)

/-! ## Reading -/

theorem isNumeralChar_of_isDecimal {c : Char} (h : isDecimal c = true) :
    isNumeralChar c = true := by
  rw [isNumeralChar, h, Bool.true_or]

theorem ne_of_isDecimal {c d : Char} (h : isDecimal c = true) (hd : isDecimal d = false) :
    c ≠ d := by
  rintro rfl
  simp [h] at hd

/-- A text without the mark is a single piece. -/
theorem splitAll_eq_singleton {mark : Char} {s : List Char} (h : ∀ c ∈ s, c ≠ mark) :
    splitAll mark s = [s] := by
  induction s with
  | nil => rfl
  | cons c s ih =>
    rw [splitAll, if_neg (h c List.mem_cons_self), ih fun d hd => h d (List.mem_cons_of_mem c hd)]

/-- Decimal digits of any scripts are read as their value, unless there are too many. -/
theorem readInt_of_isDecimal {s : List Char} (hne : s ≠ []) (h : ∀ c ∈ s, isDecimal c = true) :
    readInt (String.ofList s) =
      if digitLimit < s.length then .error (.tooLong s.length) else .ok (digitsValue s) := by
  obtain ⟨c, t, rfl⟩ := List.exists_cons_of_ne_nil hne
  have hc := h c List.mem_cons_self
  -- Of a text of digits alone, reading takes no padding, no sign and no underscore away.
  have hstart : (c :: t).dropWhile isPadding = c :: t := by
    refine List.dropWhile_cons_of_neg ?_
    simp [isPadding, isBlank_of_isDecimal hc]
  have hsign : splitSign (c :: t) = (false, c :: t) := by
    unfold splitSign
    split
    · next heq => exact absurd (List.cons.inj heq).1 (ne_of_isDecimal hc (by decide))
    · next heq => exact absurd (List.cons.inj heq).1 (ne_of_isDecimal hc (by decide))
    · rfl
  have hrun : (c :: t).takeWhile isNumeralChar = c :: t :=
    List.takeWhile_eq_self_iff.2 fun d hd => isNumeralChar_of_isDecimal (h d hd)
  have hrest : (c :: t).dropWhile isNumeralChar = [] :=
    List.dropWhile_eq_nil_iff.2 fun d hd => isNumeralChar_of_isDecimal (h d hd)
  have hgap : ∀ d ∈ c :: t, d ≠ '_' := fun d hd => ne_of_isDecimal (h d hd) (by decide)
  have hdigits : (c :: t).filter (· != '_') = c :: t :=
    List.filter_eq_self.2 fun d hd => bne_iff_ne.2 (hgap d hd)
  have hseparate : underscoresSeparate (c :: t) = true := by
    rw [underscoresSeparate, splitAll_eq_singleton hgap]
    rfl
  rw [readInt]
  simp only [String.toList_ofList, hstart, hsign, hrun, hrest, hdigits, hseparate]
  simp

/-- What is written of a number with no more digits than a numeral may have is read back. -/
theorem readInt_showInt {n : Nat} (h : (decimal n).length ≤ digitLimit) :
    readInt (String.ofList (decimal n)) = .ok (n : Int) := by
  have hne : decimal n ≠ [] := Nat.toDigits_ne_nil
  rw [readInt_of_isDecimal hne fun c hc => isDecimal_of_isDigit (isDigit_of_mem_decimal hc),
    if_neg (by omega), digitsValue_decimal]

end AdvisoryFeed.Decimal
