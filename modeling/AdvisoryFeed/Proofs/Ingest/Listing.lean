import AdvisoryFeed.Ingest.Listing
import AdvisoryFeed.Proofs.Ingest.Cursor

/-!
# What a listing names

A line names the number of the first file name in it. `Selected` says what the candidates behind a
cursor are: they ascend, each of them is named by a line and compares greater than the cursor, and
of each line with a file name the number is a candidate if it compares greater. The fold over the
lines keeps it (`Selected.takeLine`), so it holds of every list of candidates that is given
(`selected_of_candidatesOf`). A greater number never compares less, so none that is named is missed
(`Selected.mem_of_lt`).

A listing is plain when its file names are written in ASCII digits, and in no more of them than a
numeral may have (`IsPlain`). In a plain listing comparing digits is comparing numbers, so the
candidates are the numbers named that are greater than the cursor (`Selected.mem_iff_of_plain`).
-/

namespace AdvisoryFeed.Ingest

open AdvisoryFeed.Text AdvisoryFeed.Decimal

/-! ## Ascending lists -/

theorem mem_insertId (id x : Int) (xs : List Int) : x ∈ insertId id xs ↔ x = id ∨ x ∈ xs := by
  induction xs with
  | nil => simp [insertId]
  | cons y ys ih =>
    rw [insertId]
    split
    · simp
    · split
      · next heq =>
        subst heq
        simp
      · rw [List.mem_cons, ih, List.mem_cons]
        exact or_left_comm

theorem pairwise_insertId {xs : List Int} (h : xs.Pairwise (· < ·)) (id : Int) :
    (insertId id xs).Pairwise (· < ·) := by
  induction xs with
  | nil => simp [insertId]
  | cons y ys ih =>
    obtain ⟨hy, hys⟩ := List.pairwise_cons.1 h
    rw [insertId]
    split
    · next hlt =>
      refine List.pairwise_cons.2 ⟨?_, h⟩
      intro x hx
      rcases List.mem_cons.1 hx with rfl | hx
      · exact hlt
      · exact Int.lt_trans hlt (hy x hx)
    · split
      · exact h
      · next hge hne =>
        refine List.pairwise_cons.2 ⟨?_, ih hys⟩
        intro x hx
        rcases (mem_insertId id x ys).1 hx with rfl | hx
        · omega
        · exact hy x hx

/-! ## File names -/

/-- The digits of a file name are decimal digits, at least one. -/
theorem isDecimal_of_digitsAt? {filePrefix s digits : List Char}
    (h : digitsAt? filePrefix s = some digits) :
    digits ≠ [] ∧ ∀ c ∈ digits, isDecimal c = true := by
  rw [digitsAt?] at h
  split at h
  · dsimp only at h
    split at h
    · next hdigits =>
      obtain rfl := Option.some.inj h
      rw [Bool.and_eq_true, Bool.not_eq_true', List.isEmpty_eq_false_iff] at hdigits
      exact ⟨hdigits.1, fun c hc => List.mem_takeWhile_imp hc⟩
    · exact absurd h (by simp)
  · exact absurd h (by simp)

theorem isDecimal_of_firstDigits? {filePrefix s digits : List Char}
    (h : firstDigits? filePrefix s = some digits) :
    digits ≠ [] ∧ ∀ c ∈ digits, isDecimal c = true := by
  induction s with
  | nil => exact isDecimal_of_digitsAt? h
  | cons c s ih =>
    rw [firstDigits?] at h
    cases hhere : digitsAt? filePrefix (c :: s) with
    | none =>
      rw [hhere] at h
      exact ih h
    | some found =>
      rw [hhere] at h
      exact isDecimal_of_digitsAt? (hhere.trans h)

/-- The number of a file name is not negative and written in no more digits than a numeral may
have. -/
theorem readInt_firstDigits? {filePrefix s digits : List Char} {id : Int}
    (h : firstDigits? filePrefix s = some digits) (hid : readInt (String.ofList digits) = .ok id) :
    digits.length ≤ digitLimit ∧ id = digitsValue digits := by
  obtain ⟨hne, hdecimal⟩ := isDecimal_of_firstDigits? h
  rw [readInt_of_isDecimal hne hdecimal] at hid
  split at hid
  · exact absurd hid (by simp)
  · exact ⟨by omega, (Except.ok.inj hid).symm⟩

/-! ## Candidates -/

/-- A line names a number that compares greater than the cursor. -/
def NamesBehind (filePrefix : List Char) (cursor : Int) (line : List Char) (id : Int) : Prop :=
  ∃ digits written, firstDigits? filePrefix line = some digits ∧ writeInt cursor = .ok written ∧
    0 < compareIds digits written ∧ readInt (String.ofList digits) = .ok id

/-- The numbers are the candidates of lines behind a cursor. -/
structure Selected (filePrefix : List Char) (cursor : Int) (lines : List (List Char))
    (ids : List Int) : Prop where
  ascending : ids.Pairwise (· < ·)
  /-- Each candidate is named by a line. -/
  named : ∀ id ∈ ids, ∃ line ∈ lines, NamesBehind filePrefix cursor line id
  /-- No line with a file name is passed over. -/
  complete : ∀ line ∈ lines, ∀ digits, firstDigits? filePrefix line = some digits →
    ∃ written, writeInt cursor = .ok written ∧ (0 < compareIds digits written →
      ∃ id ∈ ids, readInt (String.ofList digits) = .ok id)

section Selection

variable {filePrefix : List Char} {cursor : Int}

/-- What a line adds: nothing, or the number that it names behind the cursor. -/
theorem takeLine_cases {found after : List Int} {line : List Char}
    (h : takeLine filePrefix cursor found line = .ok after) :
    (firstDigits? filePrefix line = none ∧ after = found) ∨
    (∃ digits written, firstDigits? filePrefix line = some digits ∧
      writeInt cursor = .ok written ∧ ¬ 0 < compareIds digits written ∧ after = found) ∨
    (∃ digits written id, firstDigits? filePrefix line = some digits ∧
      writeInt cursor = .ok written ∧ 0 < compareIds digits written ∧
      readInt (String.ofList digits) = .ok id ∧ after = insertId id found) := by
  simp only [takeLine, AdvisoryId.compare, AdvisoryId.text] at h
  cases hdigits : firstDigits? filePrefix line with
  | none =>
    simp only [hdigits] at h
    exact Or.inl ⟨rfl, (Except.ok.inj h).symm⟩
  | some digits =>
    cases hwritten : writeInt cursor with
    | error error => simp [hdigits, hwritten] at h
    | ok written =>
      simp only [hdigits, hwritten] at h
      split at h
      · next hbehind =>
        cases hid : readInt (String.ofList digits) with
        | error error => simp [hid, Except.map] at h
        | ok id =>
          rw [hid] at h
          exact Or.inr (Or.inr ⟨digits, written, id, rfl, rfl, hbehind, hid,
            (Except.ok.inj h).symm⟩)
      · next hbehind =>
        exact Or.inr (Or.inl ⟨digits, written, rfl, rfl, hbehind, (Except.ok.inj h).symm⟩)

theorem selected_nil : Selected filePrefix cursor [] [] where
  ascending := List.Pairwise.nil
  named := by simp
  complete := by simp

/-- A further line keeps the candidates complete. -/
theorem Selected.takeLine {lines : List (List Char)} {found after : List Int} {line : List Char}
    (h : Selected filePrefix cursor lines found)
    (hline : takeLine filePrefix cursor found line = .ok after) :
    Selected filePrefix cursor (lines ++ [line]) after := by
  -- No candidate is lost, so what the lines before have named stays complete.
  have hgrow : ∀ id ∈ found, id ∈ after := by
    intro id hid
    rcases takeLine_cases hline with ⟨-, rfl⟩ | ⟨_, _, -, -, -, rfl⟩ | ⟨_, _, _, -, -, -, -, rfl⟩
    · exact hid
    · exact hid
    · exact (mem_insertId _ id found).2 (Or.inr hid)
  refine ⟨?_, ?_, ?_⟩
  · rcases takeLine_cases hline with ⟨-, rfl⟩ | ⟨_, _, -, -, -, rfl⟩ | ⟨_, _, _, -, -, -, -, rfl⟩
    · exact h.ascending
    · exact h.ascending
    · exact pairwise_insertId h.ascending _
  · intro id hid
    have hold : id ∈ found → ∃ other ∈ lines ++ [line], NamesBehind filePrefix cursor other id := by
      intro hfound
      obtain ⟨other, hother, hnames⟩ := h.named id hfound
      exact ⟨other, List.mem_append_left _ hother, hnames⟩
    rcases takeLine_cases hline with ⟨-, rfl⟩ | ⟨_, _, -, -, -, rfl⟩ |
      ⟨digits, written, new, hdigits, hwritten, hbehind, hread, rfl⟩
    · exact hold hid
    · exact hold hid
    · rcases (mem_insertId new id found).1 hid with rfl | hfound
      · exact ⟨line, by simp, digits, written, hdigits, hwritten, hbehind, hread⟩
      · exact hold hfound
  · intro other hother digits hdigits
    rcases List.mem_append.1 hother with hother | hother
    · obtain ⟨written, hwritten, htaken⟩ := h.complete other hother digits hdigits
      refine ⟨written, hwritten, fun hbehind => ?_⟩
      obtain ⟨id, hid, hread⟩ := htaken hbehind
      exact ⟨id, hgrow id hid, hread⟩
    · obtain rfl := List.mem_singleton.1 hother
      rcases takeLine_cases hline with ⟨hnone, -⟩ | ⟨d, written, hd, hwritten, hbehind, -⟩ |
        ⟨d, written, new, hd, hwritten, -, hread, rfl⟩
      · simp [hnone] at hdigits
      · obtain rfl := Option.some.inj (hd.symm.trans hdigits)
        exact ⟨written, hwritten, fun h => absurd h hbehind⟩
      · obtain rfl := Option.some.inj (hd.symm.trans hdigits)
        have hnew : new ∈ insertId new found := (mem_insertId new new found).2 (Or.inl rfl)
        exact ⟨written, hwritten, fun _ => ⟨new, hnew, hread⟩⟩

theorem Selected.foldlM (more : List (List Char)) {ids : List Int} :
    ∀ {lines : List (List Char)} {found : List Int}, Selected filePrefix cursor lines found →
      more.foldlM (Ingest.takeLine filePrefix cursor) found = .ok ids →
      Selected filePrefix cursor (lines ++ more) ids := by
  induction more with
  | nil =>
    intro lines found h hfold
    obtain rfl : found = ids := Except.ok.inj hfold
    simpa using h
  | cons line more ih =>
    intro lines found h hfold
    rw [List.foldlM_cons] at hfold
    cases hline : Ingest.takeLine filePrefix cursor found line with
    | error error =>
      rw [hline] at hfold
      exact absurd hfold (by simp [bind, Except.bind])
    | ok after =>
      rw [hline] at hfold
      have hrest := ih (h.takeLine hline) hfold
      rwa [List.append_assoc, List.singleton_append] at hrest

/-- What is given for lines are their candidates behind the cursor. -/
theorem selected_of_candidatesOf {lines : List (List Char)} {ids : List Int}
    (h : candidatesOf filePrefix cursor lines = .ok ids) :
    Selected filePrefix cursor lines ids := by
  simpa using Selected.foldlM lines selected_nil h

/-- A candidate is not negative, and is written in no more digits than a numeral may have. -/
theorem Selected.exists_nat {lines : List (List Char)} {ids : List Int}
    (h : Selected filePrefix cursor lines ids) {id : Int} (hid : id ∈ ids) :
    ∃ n : Nat, id = n ∧ (decimal n).length ≤ digitLimit := by
  obtain ⟨line, -, digits, written, hdigits, -, -, hread⟩ := h.named id hid
  obtain ⟨hlength, rfl⟩ := readInt_firstDigits? hdigits hread
  exact ⟨digitsValue digits, rfl, length_decimal_digitsValue_le hlength⟩

/-- What is written of an integer are its digits. -/
theorem eq_decimalInt_of_writeInt {n : Int} {written : List Char} (h : writeInt n = .ok written) :
    written = decimalInt n := by
  rw [writeInt] at h
  split at h
  · exact absurd h (by simp)
  · exact (Except.ok.inj h).symm

/-- A cursor that can be written is written in its digits. -/
theorem writeInt_natCast {n : Nat} {written : List Char} (h : writeInt n = .ok written) :
    written = decimal n :=
  eq_decimalInt_of_writeInt h

/-- A number named whose digits compare greater than the cursor is a candidate. -/
theorem Selected.mem_of_compareIds {lines : List (List Char)} {ids : List Int}
    (h : Selected filePrefix cursor lines ids) {line digits : List Char} (hline : line ∈ lines)
    (hdigits : firstDigits? filePrefix line = some digits)
    (hbehind : 0 < compareIds digits (decimalInt cursor)) : (digitsValue digits : Int) ∈ ids := by
  obtain ⟨written, hwritten, htaken⟩ := h.complete line hline digits hdigits
  obtain rfl := eq_decimalInt_of_writeInt hwritten
  obtain ⟨id, hid, hread⟩ := htaken hbehind
  obtain ⟨-, rfl⟩ := readInt_firstDigits? hdigits hread
  exact hid

/-- Every number named that is greater than the cursor is a candidate, whatever scripts its digits
are of. -/
theorem Selected.mem_of_lt {lines : List (List Char)} {ids : List Int} {n : Nat}
    (h : Selected filePrefix n lines ids) {line digits : List Char} (hline : line ∈ lines)
    (hdigits : firstDigits? filePrefix line = some digits) (hlt : n < digitsValue digits) :
    (digitsValue digits : Int) ∈ ids :=
  have hdecimal := (isDecimal_of_firstDigits? hdigits).2
  h.mem_of_compareIds hline hdigits (compareIds_pos_of_lt hdecimal hlt)

end Selection

/-! ## Plain listings -/

/-- The first file names of the lines are written in ASCII digits, and in no more of them than a
numeral may have. -/
def IsPlain (filePrefix : List Char) (lines : List (List Char)) : Prop :=
  ∀ line ∈ lines, ∀ digits ∈ firstDigits? filePrefix line,
    digits.length ≤ digitLimit ∧ digits.all Char.isDigit = true

instance (filePrefix : List Char) (lines : List (List Char)) :
    Decidable (IsPlain filePrefix lines) :=
  inferInstanceAs (Decidable (∀ line ∈ lines, ∀ digits ∈ firstDigits? filePrefix line,
    digits.length ≤ digitLimit ∧ digits.all Char.isDigit = true))

/-- The first file name of a line has the number. -/
def Names (filePrefix : List Char) (lines : List (List Char)) (id : Int) : Prop :=
  ∃ line ∈ lines, ∃ digits ∈ firstDigits? filePrefix line, id = digitsValue digits

section Plain

variable {filePrefix : List Char} {lines : List (List Char)} {ids : List Int}

theorem IsPlain.isNumeral (h : IsPlain filePrefix lines) {line digits : List Char}
    (hline : line ∈ lines) (hdigits : firstDigits? filePrefix line = some digits) :
    IsNumeral digits :=
  ⟨(isDecimal_of_firstDigits? hdigits).1, List.all_eq_true.1 (h line hline digits hdigits).2⟩

/-- Every candidate is greater than the cursor. -/
theorem Selected.lt_of_plain {cursor : Nat} (h : Selected filePrefix cursor lines ids)
    (hplain : IsPlain filePrefix lines) : ∀ id ∈ ids, (cursor : Int) < id := by
  intro id hid
  obtain ⟨line, hline, digits, written, hdigits, hwritten, hbehind, hread⟩ := h.named id hid
  obtain rfl := writeInt_natCast hwritten
  obtain ⟨-, rfl⟩ := readInt_firstDigits? hdigits hread
  have := (compareIds_pos_iff (hplain.isNumeral hline hdigits) cursor).1 hbehind
  omega

/-- The candidates are the numbers named that are greater than the cursor. -/
theorem Selected.mem_iff_of_plain {cursor : Nat} (h : Selected filePrefix cursor lines ids)
    (hplain : IsPlain filePrefix lines) (id : Int) :
    id ∈ ids ↔ (cursor : Int) < id ∧ Names filePrefix lines id := by
  constructor
  · intro hid
    obtain ⟨line, hline, digits, written, hdigits, -, -, hread⟩ := h.named id hid
    obtain ⟨-, hvalue⟩ := readInt_firstDigits? hdigits hread
    exact ⟨h.lt_of_plain hplain id hid, line, hline, digits, hdigits, hvalue⟩
  · rintro ⟨hlt, line, hline, digits, hdigits, rfl⟩
    exact h.mem_of_lt hline hdigits (by omega)

end Plain

end AdvisoryFeed.Ingest
