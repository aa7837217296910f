import AdvisoryFeed.Ingest.Cursor
import AdvisoryFeed.Proofs.Decimal.Numerals

/-!
# Order of cursors

Comparing two numerals of ASCII digits digit by digit is comparing the numbers that they stand for,
whatever blanks stand around them and however many zeros in front (`sign_compareIds`). The digits
that count are as many as the number needs, so of two counts the greater belongs to the greater
number (`digitsValue_lt_of_length_lt`), and digits of one count compare by the first difference
(`compareDigits_eq_sign`). Digits of other scripts have greater code points than these, so a
numeral that is written in them may compare too great, but never too small
(`compareIds_pos_of_lt`).

Numbers are compared as texts or as integers, and either way the comparison has a result with the
sign of their difference (`AdvisoryId.Denotes.sign_compare`).

A cursor is written in the digits that `loadCursor` reads, so what was stored is found again
(`loadCursor_showInt`).
-/

namespace AdvisoryFeed.Ingest

open AdvisoryFeed.Text AdvisoryFeed.Decimal

/-- A text of ASCII digits, at least one. -/
structure IsNumeral (s : List Char) : Prop where
  ne_nil : s ≠ []
  isDigit : ∀ c ∈ s, c.isDigit = true

instance (s : List Char) : Decidable (IsNumeral s) :=
  decidable_of_iff (s ≠ [] ∧ s.all Char.isDigit = true)
    ⟨fun h => ⟨h.1, List.all_eq_true.1 h.2⟩, fun h => ⟨h.ne_nil, List.all_eq_true.2 h.isDigit⟩⟩

theorem isNumeral_decimal (n : Nat) : IsNumeral (decimal n) :=
  ⟨Nat.toDigits_ne_nil, fun _ hc => isDigit_of_mem_decimal hc⟩

theorem IsNumeral.isBlank_eq_false {s : List Char} (h : IsNumeral s) :
    ∀ c ∈ s, isBlank c = false :=
  fun c hc => isBlank_of_isDecimal (isDecimal_of_isDigit (h.isDigit c hc))

theorem IsNumeral.strip_eq {s : List Char} (h : IsNumeral s) : strip s = s :=
  strip_eq_self h.isBlank_eq_false

theorem strip_decimal (n : Nat) : strip (decimal n) = decimal n :=
  (isNumeral_decimal n).strip_eq

theorem isNumeral_strip_decimal (n : Nat) : IsNumeral (strip (decimal n)) := by
  rw [strip_decimal]
  exact isNumeral_decimal n

/-! ## Digits of one count -/

theorem char_lt_of_not_lt_of_ne {c d : Char} (hle : ¬ d < c) (hne : c ≠ d) : c < d := by
  have hne' : c.toNat ≠ d.toNat := fun h => hne (Char.toNat_inj.1 h)
  have hle' : ¬ d.toNat < c.toNat := hle
  have hlt : c.toNat < d.toNat := by omega
  exact hlt

/-- ASCII digits are ordered as the numbers that they count. -/
theorem digitValue_lt_of_lt {c d : Char} (hc : c.isDigit = true) (hd : d.isDigit = true)
    (h : d < c) : (digitValue? d).getD 0 + 1 ≤ (digitValue? c).getD 0 := by
  have hbound : '0'.toNat ≤ d.toNat := by
    simp only [Char.isDigit, Bool.and_eq_true, decide_eq_true_eq, UInt32.le_iff_toNat_le] at hd
    exact hd.1
  have hlt : d.toNat < c.toNat := h
  rw [digitValue?_of_isDigit hc, digitValue?_of_isDigit hd, Option.getD_some, Option.getD_some]
  omega

/-- A greater digit in front outweighs all digits behind it. -/
theorem digitsValue_cons_lt {c d : Char} {s t : List Char} (hlength : s.length = t.length)
    (h : (digitValue? d).getD 0 + 1 ≤ (digitValue? c).getD 0) :
    digitsValue (d :: t) < digitsValue (c :: s) := by
  rw [digitsValue_cons, digitsValue_cons, hlength]
  calc (digitValue? d).getD 0 * 10 ^ t.length + digitsValue t
      < (digitValue? d).getD 0 * 10 ^ t.length + 10 ^ t.length := by
        exact Nat.add_lt_add_left (digitsValue_lt_pow t) _
    _ = ((digitValue? d).getD 0 + 1) * 10 ^ t.length := by rw [Nat.succ_mul]
    _ ≤ (digitValue? c).getD 0 * 10 ^ t.length := Nat.mul_le_mul_right _ h
    _ ≤ (digitValue? c).getD 0 * 10 ^ t.length + digitsValue s := Nat.le_add_right _ _

/-- Digits of one count compare as the numbers that they stand for. -/
theorem compareDigits_eq_sign {s : List Char} :
    ∀ {t : List Char}, s.length = t.length → (∀ c ∈ s, c.isDigit = true) →
      (∀ c ∈ t, c.isDigit = true) →
      compareDigits s t = ((digitsValue s : Int) - digitsValue t).sign := by
  induction s with
  | nil =>
    intro t hlength _ _
    obtain rfl : t = [] := List.length_eq_zero_iff.1 hlength.symm
    simp [compareDigits]
  | cons c s ih =>
    intro t hlength hs ht
    cases t with
    | nil => simp at hlength
    | cons d t =>
      have hrest : s.length = t.length := by simpa using hlength
      have hc := hs c List.mem_cons_self
      have hd := ht d List.mem_cons_self
      rw [compareDigits]
      split
      · next heq =>
        subst heq
        rw [ih hrest (fun e he => hs e (List.mem_cons_of_mem c he))
          fun e he => ht e (List.mem_cons_of_mem c he), digitsValue_cons, digitsValue_cons, hrest]
        congr 1
        push_cast
        ring
      · next hne =>
        -- The first difference decides, however great the digits behind it are.
        split
        · next hlt =>
          have := digitsValue_cons_lt hrest (digitValue_lt_of_lt hc hd hlt)
          rw [Int.sign_eq_one_of_pos (by omega)]
        · next hge =>
          have hlt := digitValue_lt_of_lt hd hc (char_lt_of_not_lt_of_ne hge hne)
          have := digitsValue_cons_lt hrest.symm hlt
          rw [Int.sign_eq_neg_one_of_neg (by omega)]

/-! ## Digits that count -/

theorem digitsValue_dropWhile_zero (s : List Char) :
    digitsValue (s.dropWhile (· == '0')) = digitsValue s := by
  induction s with
  | nil => rfl
  | cons c s ih =>
    by_cases hc : c = '0'
    · subst hc
      have hvalue : (digitValue? '0').getD 0 = 0 := by decide
      rw [List.dropWhile_cons_of_pos (by rfl), ih, digitsValue_cons, hvalue]
      omega
    · rw [List.dropWhile_cons_of_neg (by simpa using hc)]

theorem significant_ne_nil (id : List Char) : significant id ≠ [] := by
  rw [significant]
  split
  · exact List.cons_ne_nil '0' []
  · next hdigits => simpa using hdigits

/-- The digits that count stand for the same number. -/
theorem digitsValue_significant (id : List Char) :
    digitsValue (significant id) = digitsValue (strip id) := by
  have hvalue := digitsValue_dropWhile_zero (strip id)
  rw [significant]
  cases hdigits : (strip id).dropWhile (· == '0') with
  | nil =>
    rw [hdigits] at hvalue
    have hzero : digitsValue ['0'] = digitsValue [] := by decide
    exact hzero.trans hvalue
  | cons c s =>
    rw [hdigits] at hvalue
    exact hvalue

/-- A character that counts stands in the text, unless it is the zero of a text without any. -/
theorem mem_of_mem_significant {id : List Char} {c : Char} (hc : c ∈ significant id) :
    c ∈ strip id ∨ c = '0' := by
  rw [significant] at hc
  split at hc
  · exact Or.inr (List.mem_singleton.1 hc)
  · exact Or.inl ((List.dropWhile_sublist _).subset hc)

/-- The digits that count are a numeral, with no zero in front unless it is alone. -/
theorem significant_spec {id : List Char} (h : IsNumeral (strip id)) :
    IsNumeral (significant id) ∧
      (significant id = ['0'] ∨ ∃ c s, significant id = c :: s ∧ c ≠ '0') := by
  refine ⟨⟨significant_ne_nil id, ?_⟩, ?_⟩
  · intro c hc
    rcases mem_of_mem_significant hc with hmem | rfl
    · exact h.isDigit c hmem
    · rfl
  · rw [significant]
    cases hdigits : (strip id).dropWhile (· == '0') with
    | nil => exact Or.inl rfl
    | cons c s =>
      have hhead : c ≠ '0' := by
        have := List.head?_dropWhile_not (· == '0') (strip id)
        rw [hdigits] at this
        simpa using this
      exact Or.inr ⟨c, s, rfl, hhead⟩

theorem digitValue_pos {c : Char} (h : c.isDigit = true) (hc : c ≠ '0') :
    1 ≤ (digitValue? c).getD 0 := by
  have hle : ¬ c < '0' := by
    simp only [Char.isDigit, Bool.and_eq_true, decide_eq_true_eq, UInt32.le_iff_toNat_le] at h
    exact Nat.not_lt.2 h.1
  have := digitValue_lt_of_lt h (by decide) (char_lt_of_not_lt_of_ne hle hc.symm)
  omega

/-- A numeral with more digits that count stands for a greater number. -/
theorem digitsValue_lt_of_length_lt {left right : List Char} (hl : IsNumeral (strip left))
    (h : (significant right).length < (significant left).length) :
    digitsValue (strip right) < digitsValue (strip left) := by
  obtain ⟨hnumeral, hshape⟩ := significant_spec hl
  rw [← digitsValue_significant left, ← digitsValue_significant right]
  have hpositive : 0 < (significant right).length := List.length_pos_iff.2 (significant_ne_nil _)
  rcases hshape with hzero | ⟨c, s, hcons, hc⟩
  · rw [hzero, List.length_singleton] at h
    omega
  · rw [hcons, List.length_cons] at h
    rw [hcons] at hnumeral ⊢
    calc digitsValue (significant right)
        < 10 ^ (significant right).length := digitsValue_lt_pow _
      _ ≤ 10 ^ s.length := Nat.pow_le_pow_right (by decide) (by omega)
      _ = 1 * 10 ^ s.length := (Nat.one_mul _).symm
      _ ≤ (digitValue? c).getD 0 * 10 ^ s.length :=
        Nat.mul_le_mul_right _ (digitValue_pos (hnumeral.isDigit c List.mem_cons_self) hc)
      _ ≤ digitsValue (c :: s) := by
        rw [digitsValue_cons]
        exact Nat.le_add_right _ _

/-- Where the counts of digits differ, they decide. -/
theorem compareIds_of_length_ne {left right : List Char}
    (h : (significant left).length ≠ (significant right).length) :
    compareIds left right = ((significant left).length : Int) - (significant right).length := by
  rw [compareIds, if_neg h]

theorem compareIds_of_length_eq {left right : List Char}
    (h : (significant left).length = (significant right).length) :
    compareIds left right = compareDigits (significant left) (significant right) := by
  rw [compareIds, if_pos h]

/-- Numerals compare as the numbers that they stand for. -/
theorem sign_compareIds {left right : List Char} (hl : IsNumeral (strip left))
    (hr : IsNumeral (strip right)) :
    (compareIds left right).sign =
      ((digitsValue (strip left) : Int) - digitsValue (strip right)).sign := by
  rcases Nat.lt_trichotomy (significant left).length (significant right).length with h | h | h
  · have := digitsValue_lt_of_length_lt hr h
    rw [compareIds_of_length_ne (by omega), Int.sign_eq_neg_one_of_neg (by omega),
      Int.sign_eq_neg_one_of_neg (by omega)]
  · have hleft := (significant_spec hl).1
    have hright := (significant_spec hr).1
    rw [compareIds_of_length_eq h, compareDigits_eq_sign h hleft.isDigit hright.isDigit,
      digitsValue_significant, digitsValue_significant, Int.sign_sign]
  · have := digitsValue_lt_of_length_lt hl h
    rw [compareIds_of_length_ne (by omega), Int.sign_eq_one_of_pos (by omega),
      Int.sign_eq_one_of_pos (by omega)]

/-- A numeral is behind a cursor when its number is greater. -/
theorem compareIds_pos_iff {digits : List Char} (h : IsNumeral digits) (n : Nat) :
    0 < compareIds digits (decimal n) ↔ n < digitsValue digits := by
  have hleft : IsNumeral (strip digits) := by rwa [h.strip_eq]
  have hsign := sign_compareIds hleft (isNumeral_strip_decimal n)
  rw [h.strip_eq, strip_decimal, digitsValue_decimal] at hsign
  rw [← Int.sign_eq_one_iff_pos, hsign, Int.sign_eq_one_iff_pos]
  omega

/-! ## Numbers at hand -/

/-- A number at hand stands for a natural number: a text of ASCII digits, with blanks around them,
for the one that they write in base ten, and an integer that can be written for itself. -/
inductive AdvisoryId.Denotes : AdvisoryId → Nat → Prop where
  | written {before digits after : List Char} : (∀ c ∈ before, isBlank c = true) →
      IsNumeral digits → (∀ c ∈ after, isBlank c = true) →
      AdvisoryId.Denotes (.written (before ++ digits ++ after)) (Nat.ofDigitChars 10 digits 0)
  | number {n : Nat} : (decimal n).length ≤ digitLimit → AdvisoryId.Denotes (.number n) n

/-- A number that stands for a natural number has a text, which is a numeral of it but for blanks. -/
theorem AdvisoryId.Denotes.exists_text {id : AdvisoryId} {n : Nat} (h : id.Denotes n) :
    ∃ text, id.text = .ok text ∧ IsNumeral (strip text) ∧ digitsValue (strip text) = n := by
  cases h with
  | @written before digits after hbefore hdigits hafter =>
    have hstrip : strip (before ++ digits ++ after) = digits :=
      strip_append_blanks hbefore hdigits.isBlank_eq_false hdigits.ne_nil hafter
    refine ⟨_, rfl, ?_, ?_⟩
    · rwa [hstrip]
    · rw [hstrip, digitsValue_eq_ofDigitChars hdigits.isDigit]
  | number hlength =>
    refine ⟨decimal n, if_neg (Nat.not_lt.2 hlength), isNumeral_strip_decimal n, ?_⟩
    rw [strip_decimal, digitsValue_decimal]

/-- Numbers at hand are compared, and the result has the sign of the difference of the numbers that
they stand for. -/
theorem AdvisoryId.Denotes.sign_compare {left right : AdvisoryId} {m n : Nat}
    (hleft : left.Denotes m) (hright : right.Denotes n) :
    ∃ order, left.compare right = .ok order ∧ order.sign = ((m : Int) - n).sign := by
  obtain ⟨l, hl, hlnumeral, hlvalue⟩ := hleft.exists_text
  obtain ⟨r, hr, hrnumeral, hrvalue⟩ := hright.exists_text
  refine ⟨compareIds l r, ?_, ?_⟩
  · rw [AdvisoryId.compare, hl, hr]
  · rw [sign_compareIds hlnumeral hrnumeral, hlvalue, hrvalue]

/-- A text with blanks around it and zeros in front, compared with an integer of fewer characters
that is greater. -/
theorem sign_compare_zeroLed :
    (AdvisoryId.written ([' '] ++ ['0', '0', '9', '9'] ++ ['\n'])).Denotes 99 ∧
      (AdvisoryId.number 100).Denotes 100 ∧
      ∃ order, (AdvisoryId.written ([' '] ++ ['0', '0', '9', '9'] ++ ['\n'])).compare
        (.number 100) = .ok order ∧ order.sign = -1 := by
  have hleft : (AdvisoryId.written ([' '] ++ ['0', '0', '9', '9'] ++ ['\n'])).Denotes 99 :=
    .written (List.forall_mem_singleton.2 rfl) (by decide) (List.forall_mem_singleton.2 rfl)
  have hright : (AdvisoryId.number 100).Denotes 100 := .number (by decide)
  exact ⟨hleft, hright, hleft.sign_compare hright⟩

/-! ## Digits of other scripts -/

/-- A decimal digit below an ASCII digit is one. -/
theorem isDigit_of_lt {c d : Char} (hc : isDecimal c = true) (hd : d.isDigit = true) (h : c < d) :
    c.isDigit = true := by
  have hzeros : ∀ z ∈ decimalZeros, 0x30 ≤ z := by decide
  obtain ⟨value, hvalue⟩ := Option.isSome_iff_exists.1 hc
  obtain ⟨z, hz, -⟩ := Option.map_eq_some_iff.1 hvalue
  have hrange := List.find?_some hz
  have hzero := hzeros z (List.mem_of_find?_eq_some hz)
  have hlt : c.toNat < d.toNat := h
  simp only [Bool.and_eq_true, decide_eq_true_eq] at hrange
  simp only [Char.isDigit, Bool.and_eq_true, decide_eq_true_eq, UInt32.le_iff_toNat_le] at hd ⊢
  exact ⟨Nat.le_trans hzero hrange.1, Nat.le_trans (Nat.le_of_lt hlt) hd.2⟩

/-- Digits that do not compare greater than as many ASCII digits stand for no greater number. Those
of other scripts have greater code points, so they can only compare too great. -/
theorem digitsValue_le_of_compareDigits {s : List Char} :
    ∀ {t : List Char}, s.length = t.length → (∀ c ∈ s, isDecimal c = true) →
      (∀ c ∈ t, c.isDigit = true) → ¬ 0 < compareDigits s t → digitsValue s ≤ digitsValue t := by
  induction s with
  | nil =>
    intro t hlength _ _ _
    obtain rfl : t = [] := List.length_eq_zero_iff.1 hlength.symm
    exact Nat.le_refl _
  | cons c s ih =>
    intro t hlength hs ht hcompare
    cases t with
    | nil => simp at hlength
    | cons d t =>
      obtain ⟨hc, hs'⟩ := List.forall_mem_cons.1 hs
      obtain ⟨hd, ht'⟩ := List.forall_mem_cons.1 ht
      have hrest : s.length = t.length := by simpa using hlength
      rw [compareDigits] at hcompare
      split at hcompare
      · next heq =>
        subst heq
        have := ih hrest hs' ht' hcompare
        rw [digitsValue_cons, digitsValue_cons, hrest]
        omega
      · next hne =>
        split at hcompare
        · exact absurd hcompare (by decide)
        · next hge =>
          have hlt := char_lt_of_not_lt_of_ne hge hne
          have hdigit := digitValue_lt_of_lt hd (isDigit_of_lt hc hd hlt) hlt
          exact Nat.le_of_lt (digitsValue_cons_lt hrest.symm hdigit)

/-- No number greater than a cursor is missed, whatever scripts its digits are of. -/
theorem compareIds_pos_of_lt {digits : List Char} (h : ∀ c ∈ digits, isDecimal c = true) {n : Nat}
    (hlt : n < digitsValue digits) : 0 < compareIds digits (decimal n) := by
  have hdecimal := isNumeral_strip_decimal n
  have hvalue : digitsValue (significant (decimal n)) = n := by
    rw [digitsValue_significant, strip_decimal, digitsValue_decimal]
  have hstrip : strip digits = digits := strip_eq_self fun c hc => isBlank_of_isDecimal (h c hc)
  have hdigits : ∀ c ∈ significant digits, isDecimal c = true := by
    intro c hc
    rcases mem_of_mem_significant hc with hmem | rfl
    · rw [hstrip] at hmem
      exact h c hmem
    · decide
  rcases Nat.lt_trichotomy (significant digits).length (significant (decimal n)).length with
    hlength | hlength | hlength
  · have := digitsValue_lt_of_length_lt hdecimal hlength
    rw [hstrip, strip_decimal, digitsValue_decimal] at this
    omega
  · rw [compareIds_of_length_eq hlength]
    by_contra hcompare
    have hle := digitsValue_le_of_compareDigits hlength hdigits
      (significant_spec hdecimal).1.isDigit hcompare
    rw [digitsValue_significant, hstrip, hvalue] at hle
    omega
  · rw [compareIds_of_length_ne (by omega)]
    omega

/-! ## Stored cursors -/

/-- A cursor is the baseline or not negative. -/
theorem loadCursor_spec {value : Option String} {baseline cursor : Int}
    (h : (loadCursor value baseline).1 = .ok cursor) :
    cursor = baseline ∨ 0 ≤ cursor := by
  unfold loadCursor at h
  cases value with
  | none => exact Or.inl (Except.ok.inj h).symm
  | some value =>
    dsimp only at h
    split at h
    · next hdigits =>
      rw [Bool.and_eq_true, Bool.not_eq_true', List.isEmpty_eq_false_iff,
        List.all_eq_true] at hdigits
      dsimp only at h
      rw [readInt_of_isDecimal hdigits.1 fun c hc => isDecimal_of_isDigit (hdigits.2 c hc)] at h
      split at h
      · exact absurd h (by simp)
      · have := Except.ok.inj h
        exact Or.inr (by omega)
    · exact Or.inl (Except.ok.inj h).symm

/-- A cursor that was stored is found again. -/
theorem loadCursor_showInt {n : Nat} (h : (decimal n).length ≤ digitLimit) (baseline : Int) :
    (loadCursor (some (showInt n)) baseline).1 = .ok (n : Int) := by
  have hnumeral := isNumeral_decimal n
  have htext : strip (showInt n).toList = decimal n := by
    rw [showInt, String.toList_ofList]
    exact hnumeral.strip_eq
  have hdigits : (!(decimal n).isEmpty && (decimal n).all Char.isDigit) = true := by
    rw [Bool.and_eq_true, Bool.not_eq_true', List.isEmpty_eq_false_iff, List.all_eq_true]
    exact ⟨hnumeral.ne_nil, hnumeral.isDigit⟩
  rw [loadCursor]
  simp only [htext, hdigits, if_true]
  exact readInt_showInt h

end AdvisoryFeed.Ingest
