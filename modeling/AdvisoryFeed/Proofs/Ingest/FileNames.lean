import AdvisoryFeed.Proofs.Ingest.Advance
import AdvisoryFeed.Proofs.Text.Lines

/-!
# File names in a listing

A file name is a prefix, decimal digits of any scripts and the suffix (`fileName`). Of a line only
the first file name is read, so a name is passed over when one of another number stands before it on
its line. No other name is: whatever the lines of a listing are, a number behind the cursor is taken
in when no file name of another number stands before it on its line (`Source.listed_taken`). For
this the prefix must not overlap with itself or with what follows it (`IsRigid`), or a name that
begins within another one would be passed over too.
-/

namespace AdvisoryFeed.Ingest

open AdvisoryFeed.Text AdvisoryFeed.Decimal AdvisoryFeed.Http

/-! ## File names -/

/-- The file name with these digits. -/
def fileName (filePrefix digits : List Char) : List Char :=
  filePrefix ++ (digits ++ fileSuffix)

/-- A text of decimal digits of any scripts, at least one. -/
structure IsDecimals (s : List Char) : Prop where
  ne_nil : s ≠ []
  isDecimal : ∀ c ∈ s, isDecimal c = true

theorem IsNumeral.isDecimals {s : List Char} (h : IsNumeral s) : IsDecimals s :=
  ⟨h.ne_nil, fun c hc => isDecimal_of_isDigit (h.isDigit c hc)⟩

section FileNames

variable {filePrefix : List Char}

/-- Digits in front of the suffix are all digits that there are. -/
theorem takeWhile_isDecimal_append {digits : List Char} (h : ∀ c ∈ digits, isDecimal c = true)
    (s : List Char) :
    (digits ++ (fileSuffix ++ s)).takeWhile isDecimal = digits ∧
      (digits ++ (fileSuffix ++ s)).dropWhile isDecimal = fileSuffix ++ s := by
  apply span_append h
  intro c hc
  obtain rfl : '.' = c := Option.some.inj hc
  decide

/-- A file name is found at the front of a text exactly when it stands there. -/
theorem digitsAt?_eq_some_iff {s digits : List Char} :
    digitsAt? filePrefix s = some digits ↔
      IsDecimals digits ∧ ∃ rest, s = fileName filePrefix digits ++ rest := by
  constructor
  · intro h
    have hdecimal := isDecimal_of_digitsAt? h
    refine ⟨⟨hdecimal.1, hdecimal.2⟩, ?_⟩
    rw [digitsAt?] at h
    split at h
    · next hstart =>
      obtain ⟨behind, rfl⟩ := List.isPrefixOf_iff_prefix.1 hstart
      rw [List.drop_left] at h
      dsimp only at h
      split at h
      · next hfound =>
        rw [Bool.and_eq_true] at hfound
        obtain ⟨rest, hrest⟩ := List.isPrefixOf_iff_prefix.1 hfound.2
        obtain rfl := Option.some.inj h
        refine ⟨rest, ?_⟩
        rw [fileName, List.append_assoc, List.append_assoc, hrest, List.takeWhile_append_dropWhile]
      · exact absurd h (by simp)
    · exact absurd h (by simp)
  · rintro ⟨hdigits, rest, rfl⟩
    obtain ⟨htake, hdrop⟩ := takeWhile_isDecimal_append hdigits.isDecimal rest
    have hstart : filePrefix.isPrefixOf (filePrefix ++ (digits ++ (fileSuffix ++ rest))) = true :=
      List.isPrefixOf_iff_prefix.2 (List.prefix_append _ _)
    have hsuffix : fileSuffix.isPrefixOf (fileSuffix ++ rest) = true :=
      List.isPrefixOf_iff_prefix.2 (List.prefix_append _ _)
    rw [fileName, List.append_assoc, List.append_assoc, digitsAt?, if_pos hstart, List.drop_left]
    dsimp only
    rw [htake, hdrop, hsuffix, if_pos (by simp [hdigits.ne_nil])]

/-- In a text with a file name that name is found first, or one that begins before it. -/
theorem firstDigits?_append {rest digits : List Char}
    (h : digitsAt? filePrefix rest = some digits) :
    ∀ front : List Char, ∃ found, firstDigits? filePrefix (front ++ rest) = some found ∧
      (found = digits ∨ ∃ before across, front = before ++ across ∧ across ≠ [] ∧
        digitsAt? filePrefix (across ++ rest) = some found) := by
  intro front
  induction front with
  | nil =>
    refine ⟨digits, ?_, Or.inl rfl⟩
    cases rest with
    | nil => exact h
    | cons c rest => rw [List.nil_append, firstDigits?, h, Option.orElse_some]
  | cons c front ih =>
    rw [List.cons_append, firstDigits?]
    cases hhere : digitsAt? filePrefix (c :: (front ++ rest)) with
    | some found =>
      exact ⟨found, rfl, Or.inr ⟨[], c :: front, rfl, List.cons_ne_nil c front, hhere⟩⟩
    | none =>
      obtain ⟨found, hfound, hwhere⟩ := ih
      refine ⟨found, hfound, ?_⟩
      rcases hwhere with hsame | ⟨before, across, rfl, hne, hat⟩
      · exact Or.inl hsame
      · exact Or.inr ⟨c :: before, across, rfl, hne, hat⟩

end FileNames

/-! ## Rigid prefixes -/

/-- No file name with the prefix begins within another one: no end of the prefix is also its front,
and its first character is neither a digit nor in the suffix. -/
structure IsRigid (filePrefix : List Char) : Prop where
  ne_nil : filePrefix ≠ []
  noBorder : ∀ n < filePrefix.length, 0 < n → ¬ filePrefix.drop n <+: filePrefix
  first : ∀ c ∈ filePrefix.head?, isDecimal c = false ∧ c ∉ fileSuffix

section Rigid

variable {filePrefix : List Char}

/-- What follows the prefix in a file name is no front of a file name. -/
theorem IsRigid.not_prefix_of_rest (h : IsRigid filePrefix) {digits : List Char}
    (hdigits : IsDecimals digits) {back : List Char} (hback : back <:+ digits ++ fileSuffix)
    (hne : back ≠ []) : back.head? ≠ filePrefix.head? := by
  obtain ⟨c, t, rfl⟩ := List.exists_cons_of_ne_nil hne
  intro hhead
  obtain ⟨hdecimal, hsuffix⟩ := h.first c hhead.symm
  have hmem : c ∈ digits ++ fileSuffix := hback.subset List.mem_cons_self
  rcases List.mem_append.1 hmem with hmem | hmem
  · rw [hdigits.isDecimal c hmem] at hdecimal
    exact absurd hdecimal (by simp)
  · exact hsuffix hmem

/-- A file name that begins before another one ends before it: the other one can begin neither
within the prefix nor behind it. -/
theorem IsRigid.ends_before (h : IsRigid filePrefix) {across rest digits behind : List Char}
    (hdigits : IsDecimals digits) (hne : across ≠ []) (hrest : filePrefix <+: rest)
    (heq : across ++ rest = fileName filePrefix digits ++ behind) :
    ∃ between, across = fileName filePrefix digits ++ between := by
  rcases List.append_eq_append_iff.1 heq with ⟨inner, hname, hinner⟩ | ⟨between, hacross, -⟩
  · by_cases hnil : inner = []
    · rw [hnil, List.append_nil] at hname
      exact ⟨[], by rw [List.append_nil, hname]⟩
    have hhead : inner.head? = filePrefix.head? := by
      obtain ⟨tail, rfl⟩ := hrest
      rw [← List.head?_append_of_ne_nil inner hnil, ← hinner,
        List.head?_append_of_ne_nil filePrefix h.ne_nil]
    rcases List.append_eq_append_iff.1 hname with ⟨front, -, hback⟩ | ⟨border, hborder, htail⟩
    · exact absurd hhead (h.not_prefix_of_rest hdigits ⟨front, hback.symm⟩ hnil)
    · by_cases hempty : border = []
      · rw [hempty, List.nil_append] at htail
        exact absurd hhead (h.not_prefix_of_rest hdigits (htail ▸ List.suffix_rfl) hnil)
      · -- What the two names share of the prefix would be its end and its front.
        have hends : filePrefix.drop across.length = border := by
          rw [hborder, List.drop_left]
        have hfront : border <+: rest := by
          rw [hinner, htail, List.append_assoc]
          exact List.prefix_append border _
        have hlength : filePrefix.length = across.length + border.length := by
          rw [hborder, List.length_append]
        have hpositive := List.length_pos_iff.2 hne
        have hshorter := List.length_pos_iff.2 hempty
        refine absurd ?_ (h.noBorder across.length (by omega) hpositive)
        rw [hends]
        exact List.prefix_of_prefix_length_le hfront hrest (by omega)
  · exact ⟨between, hacross⟩

/-- Of a text with a file name that name is read, or one that ends before it. -/
theorem IsRigid.firstDigits? (h : IsRigid filePrefix) {digits : List Char}
    (hdigits : IsDecimals digits) (front back : List Char) :
    ∃ found, Ingest.firstDigits? filePrefix (front ++ (fileName filePrefix digits ++ back)) =
        some found ∧
      (found = digits ∨ IsDecimals found ∧ ∃ before between,
        front = before ++ (fileName filePrefix found ++ between)) := by
  have hhere : digitsAt? filePrefix (fileName filePrefix digits ++ back) = some digits :=
    digitsAt?_eq_some_iff.2 ⟨hdigits, back, rfl⟩
  obtain ⟨found, hfound, hwhere⟩ := firstDigits?_append hhere front
  refine ⟨found, hfound, ?_⟩
  rcases hwhere with hsame | ⟨before, across, rfl, hne, hat⟩
  · exact Or.inl hsame
  · obtain ⟨hdecimals, behind, heq⟩ := digitsAt?_eq_some_iff.1 hat
    have hrest : filePrefix <+: fileName filePrefix digits ++ back := by
      rw [fileName, List.append_assoc]
      exact List.prefix_append filePrefix _
    obtain ⟨between, rfl⟩ := h.ends_before hdecimals hne hrest heq
    exact Or.inr ⟨hdecimals, before, between, rfl⟩

end Rigid

/-! ## Completeness -/

/-- On the line in which a text stops no file name of another number stands. -/
def FirstOnLine (filePrefix before : List Char) (n : Nat) : Prop :=
  ∀ earlier digits between, before = earlier ++ (fileName filePrefix digits ++ between) →
    IsDecimals digits → InLine between → digitsValue digits = n

section Completeness

variable {filePrefix : List Char} {cursor : Int} {ids : List Int}

/-- A file name with which a line begins has none before it. -/
theorem firstOnLine_of_endsLine {before : List Char} (h : EndsLine before) (n : Nat) :
    FirstOnLine filePrefix before n := by
  rintro earlier digits between rfl - hbetween
  have htail : InLine (fileSuffix ++ between) := InLine.append (by decide) hbetween
  have hne : fileSuffix ++ between ≠ [] := by simp [fileSuffix]
  have hlast : (earlier ++ (fileName filePrefix digits ++ between)).getLast? =
      some ((fileSuffix ++ between).getLast hne) := by
    rw [fileName, List.append_assoc, List.append_assoc, ← List.append_assoc, ← List.append_assoc,
      List.getLast?_append_of_ne_nil _ hne, List.getLast?_eq_some_getLast hne]
  have hend := h _ hlast
  rw [htail _ (List.getLast_mem hne)] at hend
  exact absurd hend (by simp)

/-- A file name has no line end in it, if its prefix has none. -/
theorem inLine_fileName (hplain : InLine filePrefix) {digits : List Char}
    (hdigits : IsDecimals digits) : InLine (fileName filePrefix digits) := by
  have hmiddle : InLine digits := fun c hc =>
    isLineEnd_of_not_isBlank (isBlank_of_isDecimal (hdigits.isDecimal c hc))
  have hsuffix : InLine fileSuffix := by decide
  exact hplain.append (hmiddle.append hsuffix)

/-- A number behind the cursor is a candidate when no file name of another number stands before it
on its line. -/
theorem Selected.mem_of_firstOnLine (hrigid : IsRigid filePrefix) (hplain : InLine filePrefix)
    (hcursor : 0 ≤ cursor) {before digits after : List Char}
    (h : Selected filePrefix cursor (lines (before ++ (fileName filePrefix digits ++ after))) ids)
    (hdigits : IsDecimals digits) (hbehind : cursor < digitsValue digits)
    (hfirst : FirstOnLine filePrefix before (digitsValue digits)) :
    (digitsValue digits : Int) ∈ ids := by
  obtain ⟨n, rfl⟩ := Int.eq_ofNat_of_zero_le hcursor
  -- The line of the name begins behind the last line end before it, and goes on behind the name.
  obtain ⟨ended, front, rfl, hended, hfront⟩ := exists_lineStart before
  have hname : InLine (front ++ fileName filePrefix digits) :=
    hfront.append (inLine_fileName hplain hdigits)
  have hne : front ++ fileName filePrefix digits ≠ [] := by
    simp [fileName, hdigits.ne_nil]
  obtain ⟨back, hline⟩ := exists_line_of_inLine hended hname hne after
  -- Another name may be read in its place, but one of the same number.
  obtain ⟨found, hfound, hwhere⟩ := hrigid.firstDigits? hdigits front back
  have hvalue : digitsValue found = digitsValue digits := by
    rcases hwhere with rfl | ⟨hdecimals, earlier, between, rfl⟩
    · rfl
    · have hbetween : InLine between := by
        intro c hc
        exact hfront c (by simp [hc])
      exact hfirst (ended ++ earlier) found between (by simp) hdecimals hbetween
  simp only [List.append_assoc] at h hline
  rw [← hvalue]
  exact h.mem_of_lt hline hfound (by omega)

end Completeness

/-- The prefix of the default source is rigid. -/
theorem isRigid_defaultFilePrefix : IsRigid defaultFilePrefix.toList where
  ne_nil := by decide
  noBorder := by decide
  first := by
    intro c hc
    obtain rfl : 'c' = c := Option.some.inj hc
    decide

theorem inLine_defaultFilePrefix : InLine defaultFilePrefix.toList := by
  decide

section Updates

variable {source : Source} {cursor : Option String} {session : Session}

/-- A number that is listed behind the cursor is taken in, and its document obtained, when no file
name of another number stands before it on its line. -/
theorem Source.listed_taken {first : Int} {listing : Response} {update : Update}
    {before digits after : List Char} (hdefault : source.filePrefix = defaultFilePrefix)
    (hfirst : (loadCursor cursor source.baseline).1 = .ok first) (hcursor : 0 ≤ first)
    (hlisting : (download source.baseUrl session).1 = .ok listing)
    (hupdate : (source.update cursor session).1 = .ok update)
    (htext : listing.text.toList = before ++ (fileName defaultFilePrefix.toList digits ++ after))
    (hdigits : IsDecimals digits) (hbehind : first < digitsValue digits)
    (hline : FirstOnLine defaultFilePrefix.toList before (digitsValue digits)) :
    (digitsValue digits : Int) ∈ update.candidates ∧
    ∃ documents, source.Obtains (session.askAll [source.baseUrl]) documents ∧
      update.Gathers source documents ∧
      ∃ document ∈ documents, document.id = digitsValue digits := by
  have hselected := Source.selected_of_update hfirst hlisting hupdate
  rw [hdefault, htext] at hselected
  have hmem : (digitsValue digits : Int) ∈ update.candidates :=
    hselected.mem_of_firstOnLine isRigid_defaultFilePrefix inLine_defaultFilePrefix hcursor
      hdigits hbehind hline
  obtain ⟨documents, -, hobtains, hgathers, -⟩ := Source.gathers_of_update hupdate
  refine ⟨hmem, documents, hobtains, hgathers, ?_⟩
  rw [hgathers.candidates] at hmem
  exact List.mem_map.1 hmem

end Updates

/-- Two advisories on lines of their own, which a vertical tab parts. -/
def twoLines : String :=
  "com.oracle.elsa-20150002.xml\x0bcom.oracle.elsa-20150001.xml"

theorem listed_taken_twoLines :
    let session := listedSession oracleSource twoLines [20150001, 20150002]
    let update := emptyUpdate oracleSource [20150001, 20150002]
    let listing : Response := ⟨200, [], twoLines.toUTF8.toList⟩
    let digits := "20150001".toList
    let before := "com.oracle.elsa-20150002.xml\x0b".toList
    oracleSource.filePrefix = defaultFilePrefix ∧
    (loadCursor none oracleSource.baseline).1 = .ok 20070057 ∧
    (download oracleSource.baseUrl session).1 = .ok listing ∧
    (oracleSource.update none session).1 = .ok update ∧
    listing.text.toList = before ++ (fileName defaultFilePrefix.toList digits ++ []) ∧
    IsDecimals digits ∧ (20070057 : Int) < digitsValue digits ∧
    FirstOnLine defaultFilePrefix.toList before (digitsValue digits) ∧
    ((digitsValue digits : Int) ∈ update.candidates ∧
      ∃ documents, oracleSource.Obtains (session.askAll [oracleSource.baseUrl]) documents ∧
        update.Gathers oracleSource documents ∧
        ∃ document ∈ documents, document.id = digitsValue digits) := by
  intro session update listing digits before
  have hlisting : (download oracleSource.baseUrl session).1 = .ok listing := by decide +kernel
  have hupdate : (oracleSource.update none session).1 = .ok update := by decide +kernel
  have htext : listing.text.toList =
      before ++ (fileName defaultFilePrefix.toList digits ++ []) := by decide +kernel
  have hdigits : IsDecimals digits := IsNumeral.isDecimals (by decide)
  have hbehind : (20070057 : Int) < digitsValue digits := by decide
  have hline : FirstOnLine defaultFilePrefix.toList before (digitsValue digits) :=
    firstOnLine_of_endsLine (by decide) _
  exact ⟨rfl, rfl, hlisting, hupdate, htext, hdigits, hbehind, hline,
    Source.listed_taken rfl rfl (by decide) hlisting hupdate htext hdigits hbehind hline⟩

/-- The listing names a number behind the cursor in ASCII digits, but an update that is given does
not take it in. -/
def Source.JumpsOver (source : Source) (cursor : Option String) (session : Session) (n : Nat) :
    Prop :=
  ∃ first listing update before digits after,
    (loadCursor cursor source.baseline).1 = .ok first ∧
    (download source.baseUrl session).1 = .ok listing ∧
    (source.update cursor session).1 = .ok update ∧
    listing.text.toList = before ++ (fileName source.filePrefix.toList digits ++ after) ∧
    IsNumeral digits ∧ digitsValue digits = n ∧ first < n ∧ (n : Int) ∉ update.candidates

/-- The default source, with a baseline below zero. -/
def lowestSource : Source :=
  { oracleSource with baseline := -5 }

/-- An update jumps over a number when another one stands before it on its line, and when its cursor
is below zero. -/
theorem update_jumpsOver :
    oracleSource.JumpsOver none (listedSession oracleSource
      "com.oracle.elsa-20150002.xml com.oracle.elsa-20150001.xml" [20150002]) 20150001 ∧
    lowestSource.JumpsOver none (listedSession lowestSource "com.oracle.elsa-1.xml" []) 1 := by
  constructor
  · refine ⟨20070057, _, emptyUpdate oracleSource [20150002],
      "com.oracle.elsa-20150002.xml ".toList, "20150001".toList, [], rfl, rfl, ?_, ?_, ?_, ?_, ?_,
      ?_⟩ <;> decide +kernel
  · refine ⟨-5, _, emptyUpdate lowestSource [], [], "1".toList, [], rfl, rfl, ?_, ?_, ?_, ?_, ?_,
      ?_⟩ <;> decide +kernel

end AdvisoryFeed.Ingest
