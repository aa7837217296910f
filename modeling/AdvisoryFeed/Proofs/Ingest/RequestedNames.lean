import AdvisoryFeed.Proofs.Ingest.FileNames

/-!
# Names that are requested

A listing names files, and from the number of a file its name is made anew when the document is
requested. The two names are the same when the number is listed in the digits that it is written
with: ASCII digits, and no zero in front of others (`IsCanonical`, `decimal_digitsValue_eq_iff`).
Otherwise the line drifts (`Drifts`), unless the listing has a file of the other name as well. All
names that are requested stand in the listing exactly when none of its lines drifts
(`Source.requested_listed_iff`).
-/

namespace AdvisoryFeed.Ingest

open AdvisoryFeed.Text AdvisoryFeed.Decimal AdvisoryFeed.Http

/-! ## Digits that numbers are written with -/

/-- A numeral with no zero in front, unless the zero is all there is. -/
structure IsCanonical (s : List Char) : Prop where
  numeral : IsNumeral s
  first : s.head? = some '0' → s = ['0']

instance (s : List Char) : Decidable (IsCanonical s) :=
  decidable_of_iff (IsNumeral s ∧ (s.head? = some '0' → s = ['0']))
    ⟨fun h => ⟨h.1, h.2⟩, fun h => ⟨h.numeral, h.first⟩⟩

/-- A number is written as the number without its last digit, and that digit. -/
theorem decimal_mul_ten_add {n d : Nat} (hn : 0 < n) (hd : d < 10) :
    decimal (n * 10 + d) = decimal n ++ [Nat.digitChar d] := by
  rw [Nat.mul_comm, decimal, ← Nat.toDigits_append_toDigits (by decide) hn hd,
    Nat.toDigits_of_lt_base hd]
  rfl

theorem decimal_of_lt_ten {n : Nat} (h : n < 10) : decimal n = [Nat.digitChar n] :=
  Nat.toDigits_of_lt_base h

/-- A number is written with no zero in front of other digits. -/
theorem isCanonical_decimal (n : Nat) : IsCanonical (decimal n) := by
  refine ⟨isNumeral_decimal n, ?_⟩
  induction n using Nat.strongRecOn with
  | ind n ih =>
    intro hzero
    by_cases hsmall : n < 10
    · rw [decimal_of_lt_ten hsmall] at hzero ⊢
      rw [List.head?_cons] at hzero
      rw [Option.some.inj hzero]
    · -- Without its last digit the number would be written as zero, and be zero.
      have hsplit : decimal n = decimal (n / 10) ++ [Nat.digitChar (n % 10)] := by
        rw [← decimal_mul_ten_add (by omega) (by omega), Nat.div_add_mod']
      rw [hsplit, List.head?_append_of_ne_nil _ (isNumeral_decimal _).ne_nil] at hzero
      have hfront := ih (n / 10) (by omega) hzero
      have hvalue := digitsValue_decimal (n / 10)
      rw [hfront, show digitsValue ['0'] = 0 by decide] at hvalue
      omega

/-- An ASCII digit is what its value is written with. -/
theorem digitChar_of_isDigit {c : Char} (h : c.isDigit = true) :
    Nat.digitChar ((digitValue? c).getD 0) = c := by
  have hbounds : 48 ≤ c.toNat ∧ c.toNat ≤ 57 := by
    simp only [Char.isDigit, Bool.and_eq_true, decide_eq_true_eq, UInt32.le_iff_toNat_le] at h
    exact h
  have hvalue : c.toNat - '0'.toNat < 10 := by
    have hzero : '0'.toNat = 48 := rfl
    omega
  have hchar := Nat.toNat_digitChar_of_lt_ten hvalue
  rw [digitValue?_of_isDigit h, Option.getD_some]
  refine Char.toNat_inj.1 ?_
  rw [hchar]
  have hzero : '0'.toNat = 48 := rfl
  omega

/-- Behind a number that is not zero, further digits continue its digits. -/
theorem decimal_append {s : List Char} (h : ∀ c ∈ s, c.isDigit = true) :
    ∀ {n : Nat}, 0 < n → decimal n ++ s = decimal (n * 10 ^ s.length + digitsValue s) := by
  induction s with
  | nil =>
    intro n _
    simp [digitsValue]
  | cons c s ih =>
    intro n hn
    have hc := digitChar_of_isDigit (h c List.mem_cons_self)
    have hrest : ∀ d ∈ s, d.isDigit = true := fun d hd => h d (List.mem_cons_of_mem c hd)
    calc decimal n ++ c :: s
        = decimal (n * 10 + (digitValue? c).getD 0) ++ s := by
          rw [decimal_mul_ten_add hn (digitValue?_getD_lt c), hc, List.append_assoc]
          rfl
      _ = decimal ((n * 10 + (digitValue? c).getD 0) * 10 ^ s.length + digitsValue s) :=
          ih hrest (by omega)
      _ = decimal (n * 10 ^ (c :: s).length + digitsValue (c :: s)) := by
          rw [digitsValue_cons, List.length_cons]
          congr 1
          ring

/-- Digits are what their number is written with exactly when they are canonical. -/
theorem decimal_digitsValue_eq_iff {s : List Char} :
    decimal (digitsValue s) = s ↔ IsCanonical s := by
  constructor
  · intro h
    rw [← h]
    exact isCanonical_decimal _
  · intro h
    obtain ⟨c, t, rfl⟩ := List.exists_cons_of_ne_nil h.numeral.ne_nil
    have hdigit := digitChar_of_isDigit (h.numeral.isDigit c List.mem_cons_self)
    -- A zero in front is all there is; behind any other digit the rest continues a number.
    by_cases hzero : c = '0'
    · subst hzero
      rw [h.first rfl]
      decide
    · have hpos : 0 < (digitValue? c).getD 0 := by
        refine Nat.pos_of_ne_zero fun hvalue => hzero ?_
        rw [← hdigit, hvalue]
        rfl
      have hrest : ∀ d ∈ t, d.isDigit = true := fun d hd =>
        h.numeral.isDigit d (List.mem_cons_of_mem c hd)
      rw [digitsValue_cons, ← decimal_append hrest hpos,
        decimal_of_lt_ten (digitValue?_getD_lt c), hdigit]
      rfl

/-! ## Lines that drift -/

/-- The file name of which the digits are read stands in the text. -/
theorem isInfix_of_firstDigits? {filePrefix s digits : List Char}
    (h : firstDigits? filePrefix s = some digits) : fileName filePrefix digits <:+: s := by
  induction s with
  | nil =>
    obtain ⟨-, rest, hrest⟩ := digitsAt?_eq_some_iff.1 h
    exact hrest ▸ (List.prefix_append _ rest).isInfix
  | cons c s ih =>
    rw [firstDigits?] at h
    cases hhere : digitsAt? filePrefix (c :: s) with
    | none =>
      rw [hhere] at h
      exact List.infix_cons (ih h)
    | some found =>
      rw [hhere] at h
      obtain rfl : found = digits := Option.some.inj h
      obtain ⟨-, rest, hrest⟩ := digitsAt?_eq_some_iff.1 hhere
      exact hrest ▸ (List.prefix_append _ rest).isInfix

/-- The line names a number behind the cursor in other digits than it is written with, and the file
name of those is not in the listing either. -/
def Drifts (filePrefix : List Char) (cursor : Int) (listing line : List Char) : Prop :=
  ∃ digits ∈ firstDigits? filePrefix line, 0 < compareIds digits (decimalInt cursor) ∧
    ¬ IsCanonical digits ∧
    contains (fileName filePrefix (decimal (digitsValue digits))) listing = false

instance (filePrefix : List Char) (cursor : Int) (listing line : List Char) :
    Decidable (Drifts filePrefix cursor listing line) :=
  inferInstanceAs (Decidable (∃ digits ∈ firstDigits? filePrefix line,
    0 < compareIds digits (decimalInt cursor) ∧ ¬ IsCanonical digits ∧
    contains (fileName filePrefix (decimal (digitsValue digits))) listing = false))

/-- The name of the file that is requested for an advisory. -/
def Source.requestedName (source : Source) (id : Int) : String :=
  source.filePrefix ++ showInt id ++ ".xml"

theorem Source.documentUrl_eq (source : Source) (id : Int) :
    source.documentUrl id = source.baseUrl ++ source.requestedName id := by
  rw [Source.documentUrl, Source.requestedName, String.append_assoc, String.append_assoc,
    String.append_assoc]

theorem Source.toList_requestedName (source : Source) (n : Nat) :
    (source.requestedName n).toList = fileName source.filePrefix.toList (decimal n) := by
  rw [Source.requestedName, String.toList_append, String.toList_append, showInt,
    String.toList_ofList, List.append_assoc]
  rfl

section Selected

variable {filePrefix listing : List Char} {cursor : Int} {ids : List Int}

/-- Each candidate is the number of a file name that stands in the listing. -/
theorem Selected.exists_listed (h : Selected filePrefix cursor (lines listing) ids) {id : Int}
    (hid : id ∈ ids) :
    ∃ line ∈ lines listing, ∃ digits, firstDigits? filePrefix line = some digits ∧
      0 < compareIds digits (decimalInt cursor) ∧ id = digitsValue digits ∧
      fileName filePrefix digits <:+: listing := by
  obtain ⟨line, hline, digits, written, hdigits, hwritten, hbehind, hread⟩ := h.named id hid
  obtain rfl := eq_decimalInt_of_writeInt hwritten
  obtain ⟨-, hvalue⟩ := readInt_firstDigits? hdigits hread
  exact ⟨line, hline, digits, hdigits, hbehind, hvalue,
    (isInfix_of_firstDigits? hdigits).trans (isInfix_of_mem_lines hline)⟩

/-- The names of all candidates stand in the listing exactly when no line drifts. -/
theorem Selected.listed_iff (h : Selected filePrefix cursor (lines listing) ids) :
    (∀ n : Nat, (n : Int) ∈ ids → fileName filePrefix (decimal n) <:+: listing) ↔
      ∀ line ∈ lines listing, ¬ Drifts filePrefix cursor listing line := by
  constructor
  · rintro hlisted line hline ⟨digits, hdigits, hbehind, -, habsent⟩
    have hname := hlisted _ (h.mem_of_compareIds hline hdigits hbehind)
    rw [← contains_iff_isInfix, habsent] at hname
    exact absurd hname (by simp)
  · intro hsteady n hn
    obtain ⟨line, hline, digits, hdigits, hbehind, hvalue, hlisted⟩ := h.exists_listed hn
    obtain rfl : n = digitsValue digits := Int.ofNat_inj.1 hvalue
    -- Canonical digits are requested as they are listed. Of any others the name that is requested
    -- is listed elsewhere, since their line would drift.
    by_cases hcanonical : IsCanonical digits
    · rw [decimal_digitsValue_eq_iff.2 hcanonical]
      exact hlisted
    · by_contra habsent
      refine hsteady line hline ⟨digits, hdigits, hbehind, hcanonical, ?_⟩
      rw [← contains_iff_isInfix] at habsent
      exact Bool.eq_false_iff.2 habsent

end Selected

/-- Each candidate is the number of a file name in the listing, and the names that are requested for
the candidates all stand in the listing exactly when no line drifts. -/
theorem Source.requested_listed_iff {source : Source} {cursor : Int} {listing : String}
    {ids : List Int} (h : candidates source.filePrefix cursor listing = .ok ids) :
    (∀ id ∈ ids, ∃ digits, IsDecimals digits ∧ id = digitsValue digits ∧
      fileName source.filePrefix.toList digits <:+: listing.toList) ∧
    ((∀ id ∈ ids, ∃ name, source.documentUrl id = source.baseUrl ++ name ∧
        name.toList <:+: listing.toList) ↔
      ∀ line ∈ lines listing.toList,
        ¬ Drifts source.filePrefix.toList cursor listing.toList line) := by
  have hselected := selected_of_candidatesOf h
  constructor
  · intro id hid
    obtain ⟨line, -, digits, hdigits, -, hvalue, hlisted⟩ := hselected.exists_listed hid
    obtain ⟨hne, hdecimal⟩ := isDecimal_of_firstDigits? hdigits
    exact ⟨digits, ⟨hne, hdecimal⟩, hvalue, hlisted⟩
  · rw [← hselected.listed_iff]
    constructor
    · intro hrequested n hn
      obtain ⟨name, hurl, hname⟩ := hrequested n hn
      rw [source.documentUrl_eq, String.append_right_inj] at hurl
      rw [← source.toList_requestedName, hurl]
      exact hname
    · intro hlisted id hid
      obtain ⟨n, rfl, -⟩ := hselected.exists_nat hid
      refine ⟨source.requestedName n, source.documentUrl_eq n, ?_⟩
      rw [source.toList_requestedName]
      exact hlisted n hid

/-- An advisory whose number is listed with a zero in front, and on a line of its own without. -/
def zeroLedTwice : String :=
  "com.oracle.elsa-020150001.xml\ncom.oracle.elsa-20150001.xml"

theorem requested_listed_zeroLedTwice :
    candidates oracleSource.filePrefix 20070057 zeroLedTwice = .ok [20150001] ∧
    ∀ id ∈ [20150001], ∃ name, oracleSource.documentUrl id = oracleSource.baseUrl ++ name ∧
      name.toList <:+: zeroLedTwice.toList := by
  have hcandidates : candidates oracleSource.filePrefix 20070057 zeroLedTwice = .ok [20150001] := by
    decide +kernel
  refine ⟨hcandidates, (Source.requested_listed_iff hcandidates).2.2 ?_⟩
  decide +kernel

/-- A candidate of the listing has a document whose name stands nowhere in the listing. -/
def Source.RequestsUnlisted (source : Source) (cursor : Int) (listing : String) (id : Int) : Prop :=
  ∃ ids name, candidates source.filePrefix cursor listing = .ok ids ∧ id ∈ ids ∧
    source.documentUrl id = source.baseUrl ++ name ∧ ¬ name.toList <:+: listing.toList

/-- A zero in front of a number is not in the name that is requested for it, and its digits are
ASCII digits there, whatever script they are listed in. -/
theorem oracleSource_requestsUnlisted :
    oracleSource.RequestsUnlisted 20070057 "com.oracle.elsa-020150001.xml" 20150001 ∧
    oracleSource.RequestsUnlisted 20070057 "com.oracle.elsa-٢٠١٥٠٠٠١.xml" 20150001 := by
  constructor <;>
  · refine ⟨[20150001], "com.oracle.elsa-20150001.xml", ?_, ?_, ?_, ?_⟩
    · decide +kernel
    · decide
    · decide +kernel
    · rw [← contains_iff_isInfix]
      decide +kernel

end AdvisoryFeed.Ingest
