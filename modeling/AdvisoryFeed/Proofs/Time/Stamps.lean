import AdvisoryFeed.Proofs.Decimal.Numerals
import AdvisoryFeed.Time.Instant

/-!
# Stamps

A stamp shows an instant to the second. The fields behind the year have two digits each, whatever
they are (`length_padded`), and the digits of a field give it back (`digitsValue_padded`). So a stamp
can be read from its end, and two instants have one stamp exactly when they lie in one second
(`Instant.stamp_eq_iff`).
-/

namespace AdvisoryFeed.Time

open AdvisoryFeed.Decimal

/-! ## Padded numbers -/

/-- A padded number stands for the number. -/
theorem digitsValue_padded (width n : Nat) : digitsValue (padded width n) = n := by
  rw [padded, digitsValue_replicate_zero, digitsValue_decimal]

/-- A number that has no more digits than the width is padded to the width. -/
theorem length_padded {width n : Nat} (hwidth : 0 < width) (h : n < 10 ^ width) :
    (padded width n).length = width := by
  have hle : (decimal n).length ≤ width := by
    rw [decimal, Nat.length_toDigits_le_iff (by decide) hwidth]
    exact h
  rw [padded, List.length_append, List.length_replicate]
  omega

theorem padded_injective (width : Nat) : Function.Injective (padded width) := by
  intro m n h
  rw [← digitsValue_padded width m, h, digitsValue_padded]

/-- Behind any front, a number of two digits is told from every other one. -/
theorem append_padded_inj {front front' : List Char} {m n : Nat} (hm : m < 100) (hn : n < 100) :
    front ++ padded 2 m = front' ++ padded 2 n ↔ front = front' ∧ m = n := by
  have hlength : (padded 2 m).length = (padded 2 n).length := by
    rw [length_padded (by decide) hm, length_padded (by decide) hn]
  constructor
  · intro h
    obtain ⟨hfront, hlast⟩ := List.append_inj' h hlength
    exact ⟨hfront, padded_injective 2 hlast⟩
  · rintro ⟨rfl, rfl⟩
    rfl

/-! ## Instants to the second -/

/-- The second in which an instant lies. -/
def Instant.toSecond (t : Instant) : Instant :=
  { t with micro := 0 }

theorem daysInMonth_le (year month : Nat) : daysInMonth year month ≤ 31 := by
  unfold daysInMonth
  split
  · split <;> decide
  · split <;> decide

/-- The fields of a stamp behind the year have at most two digits. -/
theorem Instant.fields_lt {t : Instant} (h : t.isValid = true) :
    t.month < 100 ∧ t.day < 100 ∧ t.hour < 100 ∧ t.minute < 100 ∧ t.second < 100 := by
  have hdays := daysInMonth_le t.year t.month
  simp only [Instant.isValid, Bool.and_eq_true, decide_eq_true_eq] at h
  omega

/-- Instants have one stamp exactly when they lie in one second. -/
theorem Instant.stamp_eq_iff {mark : Char} {s t : Instant} (hs : s.isValid = true)
    (ht : t.isValid = true) : s.stamp mark = t.stamp mark ↔ s.toSecond = t.toSecond := by
  obtain ⟨hmonth, hday, hhour, hminute, hsecond⟩ := Instant.fields_lt hs
  obtain ⟨hmonth', hday', hhour', hminute', hsecond'⟩ := Instant.fields_lt ht
  rw [Instant.stamp, Instant.stamp, String.ofList_inj]
  -- The year has no fixed number of digits, so the fields are taken off from the end.
  rw [append_padded_inj hsecond hsecond', append_padded_inj hminute hminute',
    List.append_cons _ mark (padded 2 s.hour), List.append_cons _ mark (padded 2 t.hour),
    append_padded_inj hhour hhour', List.append_left_inj, append_padded_inj hday hday',
    append_padded_inj hmonth hmonth', decimal_injective.eq_iff, Instant.toSecond, Instant.toSecond,
    Instant.mk.injEq]
  tauto

end AdvisoryFeed.Time
