import AdvisoryFeed.Proofs.Http.Overruns
import AdvisoryFeed.Proofs.Ingest.RequestedNames

/-!
# Errors that an update is expected to leave

An update is expected to fail with the errors of downloads and of documents only
(`UpdateError.isDocumented`). In an ordinary session there are four ways in which another error
leaves it (`Source.Stumbles`): the cursor is a numeral of too many digits, a line of the listing
names such a number and it has to be read (`Unreadable`), or a request overruns, for the listing or
for a document. There are no more (`Source.update_undocumented_iff`): a cursor that is no numeral
gives way to the baseline (`loadCursor_of_not_isNumeral`), and whatever else a document holds, its
processing fails with an error of documents.

Conditions are decoded and expanded by recursion, and a machine has a stack for only so many calls.
An ordinary session is one in which the documents have conditions of few levels
(`Criteria.levels`), which every machine can follow.
-/

namespace AdvisoryFeed

mutual

/-- How deep a condition is nested. -/
def Criteria.levels : Criteria → Nat
  | .node _ children _ => childLevels children + 1

/-- How deep the deepest of several conditions is nested. -/
def childLevels : List Criteria → Nat
  | [] => 0
  | child :: children => max child.levels (childLevels children)

end

example : (Criteria.node none [.empty, .node none [.empty] []] []).levels = 3 := by decide

end AdvisoryFeed

namespace AdvisoryFeed.Text

/-- The bytes of a text in ASCII characters. -/
def asciiBytes (s : List Char) : List UInt8 :=
  s.map fun c => UInt8.ofNat c.toNat

/-- ASCII characters are read back from their bytes. -/
theorem decodeLossy_asciiBytes (mark : Char) {s : List Char} (h : ∀ c ∈ s, c.toNat < 0x80) :
    decodeLossy mark (asciiBytes s) = s := by
  induction s with
  | nil =>
    rw [asciiBytes, List.map_nil, decodeLossy]
  | cons c s ih =>
    have hc := h c List.mem_cons_self
    have hbyte : (UInt8.ofNat c.toNat).toNat = c.toNat :=
      UInt8.toNat_ofNat_of_lt' (Nat.lt_trans hc (by decide))
    have hascii : UInt8.ofNat c.toNat < 0x80 := by
      rw [UInt8.lt_iff_toNat_lt, hbyte]
      exact hc
    have hstep : utf8Step (UInt8.ofNat c.toNat) (asciiBytes s) = .char c 1 := by
      rw [utf8Step, if_pos hascii, hbyte, Char.ofNat_toNat]
    change decodeLossy mark (UInt8.ofNat c.toNat :: asciiBytes s) = c :: s
    rw [decodeLossy, hstep]
    exact congrArg (c :: ·) (ih fun d hd => h d (List.mem_cons_of_mem c hd))

end AdvisoryFeed.Text

namespace AdvisoryFeed.Ingest

open AdvisoryFeed.Text AdvisoryFeed.Decimal AdvisoryFeed.Http

/-- The error is the one of a download or of a document. -/
def UpdateError.isDocumented : UpdateError → Bool
  | .transport _ _ | .document _ => true
  | .numeral _ | .http _ | .other _ _ => false

/-! ## Numerals that are too long -/

/-- The text is a numeral, of more digits than one may have. -/
structure IsTooLong (s : List Char) : Prop where
  numeral : IsNumeral s
  long : digitLimit < s.length

instance (s : List Char) : Decidable (IsTooLong s) :=
  decidable_of_iff (IsNumeral s ∧ digitLimit < s.length)
    ⟨fun h => ⟨h.1, h.2⟩, fun h => ⟨h.numeral, h.long⟩⟩

/-- The line names a number that has to be compared with a cursor that cannot be written, or that is
behind the cursor and cannot be read. -/
def Unreadable (filePrefix : List Char) (cursor : Int) (line : List Char) : Prop :=
  ∃ digits ∈ firstDigits? filePrefix line, digitLimit < (decimal cursor.natAbs).length ∨
    0 < compareIds digits (decimalInt cursor) ∧ digitLimit < digits.length

section Numerals

variable {filePrefix : List Char} {cursor baseline : Int}

/-- A stored text is taken for a cursor if it is a numeral, and for nothing otherwise. -/
theorem loadCursor_of_not_isNumeral {text : String} (h : ¬ IsNumeral (strip text.toList)) :
    (loadCursor (some text) baseline).1 = .ok baseline := by
  rw [loadCursor, if_neg]
  intro hdigits
  rw [Bool.and_eq_true, Bool.not_eq_true', List.isEmpty_eq_false_iff] at hdigits
  exact h ⟨hdigits.1, List.all_eq_true.1 hdigits.2⟩

/-- Only a numeral that is too long is no cursor. -/
theorem loadCursor_error_iff {value : Option String} :
    (∃ error, (loadCursor value baseline).1 = .error error) ↔
      ∃ text, value = some text ∧ IsTooLong (strip text.toList) := by
  cases value with
  | none => simp [loadCursor]
  | some text =>
    by_cases hnumeral : IsNumeral (strip text.toList)
    · have hdecimal : ∀ c ∈ strip text.toList, isDecimal c = true := fun c hc =>
        isDecimal_of_isDigit (hnumeral.isDigit c hc)
      have htaken : (!(strip text.toList).isEmpty &&
          (strip text.toList).all Char.isDigit) = true := by
        rw [Bool.and_eq_true, Bool.not_eq_true', List.isEmpty_eq_false_iff]
        exact ⟨hnumeral.ne_nil, List.all_eq_true.2 hnumeral.isDigit⟩
      rw [loadCursor, if_pos htaken, readInt_of_isDecimal hnumeral.ne_nil hdecimal]
      split
      · next hlong => exact iff_of_true ⟨_, rfl⟩ ⟨text, rfl, hnumeral, hlong⟩
      · next hshort =>
        refine iff_of_false (by simp) ?_
        rintro ⟨other, hother, hlong⟩
        obtain rfl := Option.some.inj hother
        exact hshort hlong.long
    · rw [loadCursor_of_not_isNumeral hnumeral]
      refine iff_of_false (by simp) ?_
      rintro ⟨other, hother, hlong⟩
      obtain rfl := Option.some.inj hother
      exact hnumeral hlong.numeral

/-- A file name with too many digits to be read is behind every cursor that can be written. -/
theorem unreadable_fileName {digits : List Char} (hdigits : IsCanonical digits)
    (hlong : digitLimit < digits.length) (n : Nat) (rest : List Char) :
    Unreadable filePrefix n (fileName filePrefix digits ++ rest) := by
  have hfound : firstDigits? filePrefix (fileName filePrefix digits ++ rest) = some digits := by
    have hhere : digitsAt? filePrefix (fileName filePrefix digits ++ rest) = some digits :=
      digitsAt?_eq_some_iff.2 ⟨hdigits.numeral.isDecimals, rest, rfl⟩
    obtain ⟨found, hfound, rfl | ⟨before, across, hnil, hne, -⟩⟩ := firstDigits?_append hhere []
    · exact hfound
    · exact absurd (List.append_eq_nil_iff.1 hnil.symm).2 hne
  refine ⟨digits, hfound, ?_⟩
  by_cases hcursor : digitLimit < (decimal n).length
  · exact Or.inl hcursor
  · -- The cursor has no more digits than a numeral may have, so the number is greater.
    refine Or.inr ⟨(compareIds_pos_iff hdigits.numeral n).2 ?_, hlong⟩
    have hsmall : n < 10 ^ digitLimit :=
      (Nat.length_toDigits_le_iff (by decide) (by decide)).1 (Nat.le_of_not_lt hcursor)
    have hgreat : ¬ digitsValue digits < 10 ^ digitLimit := by
      intro hless
      have hlength := (Nat.length_toDigits_le_iff (by decide) (by decide)).2 hless
      change (decimal (digitsValue digits)).length ≤ digitLimit at hlength
      rw [decimal_digitsValue_eq_iff.2 hdigits] at hlength
      exact Nat.not_lt.2 hlength hlong
    exact Nat.lt_of_lt_of_le hsmall (Nat.le_of_not_lt hgreat)

/-- A line is not taken in exactly when it cannot be read, whatever was found before. -/
theorem takeLine_error_iff (found : List Int) {line : List Char} :
    (∃ error, takeLine filePrefix cursor found line = .error error) ↔
      Unreadable filePrefix cursor line := by
  simp only [Unreadable, takeLine, AdvisoryId.compare, AdvisoryId.text]
  cases hdigits : firstDigits? filePrefix line with
  | none => simp
  | some digits =>
    obtain ⟨hne, hdecimal⟩ := isDecimal_of_firstDigits? hdigits
    -- The cursor is written for the comparison, and only a number behind it is read.
    by_cases hcursor : digitLimit < (decimal cursor.natAbs).length
    · simp [writeInt, hcursor]
    · by_cases hbehind : 0 < compareIds digits (decimalInt cursor)
      · by_cases hlong : digitLimit < digits.length
        · simp [writeInt, hcursor, hbehind, hlong, readInt_of_isDecimal hne hdecimal, Except.map]
        · simp [writeInt, hcursor, hbehind, hlong, readInt_of_isDecimal hne hdecimal, Except.map]
      · simp [writeInt, hcursor, hbehind]

/-- Lines have no candidates exactly when one of them cannot be read. -/
theorem foldlM_takeLine_error_iff (lines : List (List Char)) : ∀ found : List Int,
    (∃ error, lines.foldlM (takeLine filePrefix cursor) found = .error error) ↔
      ∃ line ∈ lines, Unreadable filePrefix cursor line := by
  induction lines with
  | nil =>
    intro found
    simp [pure, Except.pure]
  | cons line lines ih =>
    intro found
    rw [List.foldlM_cons, List.exists_mem_cons_iff, ← takeLine_error_iff found]
    cases hline : takeLine filePrefix cursor found line with
    | error error => simp [bind, Except.bind]
    | ok after => simpa [bind, Except.bind] using ih after

end Numerals

/-! ## Ordinary sessions of a source -/

/-- The levels of a condition that every machine can follow. A level takes two calls, of the thousand
for which a machine has a stack. -/
def stackLevels : Nat := 150

/-- The feed has no documents with conditions of more levels than every machine can follow. -/
def Source.FitsStack (source : Source) (feed : Feed) : Prop :=
  ∀ id response, feed.Serves (source.documentUrl id) response →
    ∀ advisories, readAdvisories response.body = .ok advisories →
      ∀ advisory ∈ advisories, advisory.criteria.levels ≤ stackLevels

/-- The session is ordinary, and so are the documents of the source. -/
structure Source.Ordinary (source : Source) (session : Session) : Prop
    extends session.Ordinary where
  fits : source.FitsStack session.network.feed

/-! ## Downloads -/

section Updates

variable {source : Source} {cursor : Option String} {session : Session}

/-- A download fails with another error exactly when its request overruns. -/
theorem download_undocumented_iff (h : session.Ordinary) (url : String) :
    (∃ error, (download url session).1 = .error error ∧ error.isDocumented = false) ↔
      session.Overruns url := by
  rw [← h.request_other_iff url]
  unfold download
  dsimp only
  cases hanswer : (session.request url none).1 with
  | ok response => simp
  | error error =>
    cases htransport : error.isTransport with
    | true => simp [htransport, UpdateError.isDocumented]
    | false => simp [htransport, UpdateError.isDocumented]

/-- A document fails with another error exactly when the request for it overruns. -/
theorem Source.fails_undocumented_iff (h : session.Ordinary) (id : Int) :
    (∃ error, source.Fails session id error ∧ error.isDocumented = false) ↔
      session.Overruns (source.documentUrl id) := by
  rw [← download_undocumented_iff h]
  constructor
  · rintro ⟨error, hdownload | ⟨response, cause, -, -, rfl⟩, hother⟩
    · exact ⟨error, hdownload, hother⟩
    · exact absurd hother.symm Bool.false_ne_true
  · rintro ⟨error, hdownload, hother⟩
    exact ⟨error, Or.inl hdownload, hother⟩

/-! ## Updates -/

/-- Something that is no outcome of a download or of a document ends the update. -/
inductive Source.Stumbles (source : Source) (cursor : Option String) (session : Session) :
    Prop where
  /-- The cursor is a numeral that is too long. -/
  | cursor {text : String} : cursor = some text → IsTooLong (strip text.toList) →
      Stumbles source cursor session
  /-- The request for the listing overruns. -/
  | listing {first : Int} : (loadCursor cursor source.baseline).1 = .ok first →
      session.Overruns source.baseUrl → Stumbles source cursor session
  /-- A line of the listing cannot be read. -/
  | line {first : Int} {listing : Response} {line : List Char} :
      (loadCursor cursor source.baseline).1 = .ok first →
      (download source.baseUrl session).1 = .ok listing → line ∈ lines listing.text.toList →
      Unreadable source.filePrefix.toList first line → Stumbles source cursor session
  /-- The request for a document overruns, behind documents that are obtained. -/
  | document {documents : List Document} {id : Int} {rest : List Int} :
      source.Selects cursor session (documents.map Document.id ++ id :: rest) →
      source.Obtains (session.askAll [source.baseUrl]) documents →
      (session.askAll (source.baseUrl :: source.urls (documents.map Document.id))).Overruns
        (source.documentUrl id) →
      Stumbles source cursor session

/-- The update fails with an error that is none of a download or of a document. -/
def Source.FailsOtherwise (source : Source) (cursor : Option String) (session : Session) : Prop :=
  ∃ error, (source.update cursor session).1 = .error error ∧ error.isDocumented = false

/-- An error that leaves the selection comes from one of its three steps. -/
theorem Source.select_error_iff {error : UpdateError} :
    (source.select cursor session).1 = .error error ↔
    (∃ cause, (loadCursor cursor source.baseline).1 = .error cause ∧ error = .numeral cause) ∨
    (∃ first, (loadCursor cursor source.baseline).1 = .ok first ∧
      (download source.baseUrl session).1 = .error error) ∨
    ∃ first listing cause, (loadCursor cursor source.baseline).1 = .ok first ∧
      (download source.baseUrl session).1 = .ok listing ∧
      candidates source.filePrefix first listing.text = .error cause ∧ error = .numeral cause := by
  unfold Source.select
  cases (loadCursor cursor source.baseline).1 with
  | error cause => simp [eq_comm]
  | ok first =>
    dsimp only
    cases (download source.baseUrl session).1 with
    | error cause => simp
    | ok listing =>
      cases hcandidates : candidates source.filePrefix first listing.text with
      | error cause => simp [hcandidates, Except.mapError, eq_comm]
      | ok ids => simp [hcandidates, Except.mapError]

/-- The selection fails with another error exactly when the update stumbles before the documents. -/
theorem Source.select_undocumented_iff (h : session.Ordinary) :
    (∃ error, (source.select cursor session).1 = .error error ∧ error.isDocumented = false) ↔
      (∃ text, cursor = some text ∧ IsTooLong (strip text.toList)) ∨
      (∃ first, (loadCursor cursor source.baseline).1 = .ok first ∧
        session.Overruns source.baseUrl) ∨
      ∃ first listing, (loadCursor cursor source.baseline).1 = .ok first ∧
        (download source.baseUrl session).1 = .ok listing ∧
        ∃ line ∈ lines listing.text.toList, Unreadable source.filePrefix.toList first line := by
  constructor
  · rintro ⟨error, hselect, hother⟩
    rcases Source.select_error_iff.1 hselect with ⟨cause, hcursor, -⟩ | ⟨first, hfirst, hlisting⟩ |
      ⟨first, listing, cause, hfirst, hlisting, hcandidates, -⟩
    · exact Or.inl (loadCursor_error_iff.1 ⟨cause, hcursor⟩)
    · exact Or.inr (Or.inl ⟨first, hfirst,
        (download_undocumented_iff h _).1 ⟨error, hlisting, hother⟩⟩)
    · exact Or.inr (Or.inr ⟨first, listing, hfirst, hlisting,
        (foldlM_takeLine_error_iff _ []).1 ⟨cause, hcandidates⟩⟩)
  · rintro (hcursor | ⟨first, hfirst, hoverruns⟩ | ⟨first, listing, hfirst, hlisting, hline⟩)
    · obtain ⟨cause, hcause⟩ := loadCursor_error_iff.2 hcursor
      exact ⟨_, Source.select_error_iff.2 (Or.inl ⟨cause, hcause, rfl⟩), rfl⟩
    · obtain ⟨error, herror, hother⟩ := (download_undocumented_iff h _).2 hoverruns
      exact ⟨error, Source.select_error_iff.2 (Or.inr (Or.inl ⟨first, hfirst, herror⟩)), hother⟩
    · obtain ⟨cause, hcause⟩ := (foldlM_takeLine_error_iff _ []).2 hline
      exact ⟨_, Source.select_error_iff.2
        (Or.inr (Or.inr ⟨first, listing, cause, hfirst, hlisting, hcause, rfl⟩)), rfl⟩

/-- An update fails when its selection fails, or when one of the documents does. -/
theorem Source.update_error_iff {error : UpdateError} :
    (source.update cursor session).1 = .error error ↔
      (source.select cursor session).1 = .error error ∨
      ∃ (documents : List Document) (id : Int) (rest : List Int),
        source.Selects cursor session (documents.map Document.id ++ id :: rest) ∧
        source.Obtains (session.askAll [source.baseUrl]) documents ∧
        source.Fails (session.askAll (source.baseUrl :: source.urls (documents.map Document.id)))
          id error := by
  constructor
  · intro hupdate
    cases hselect : (source.select cursor session).1 with
    | error found =>
      rw [Source.update] at hupdate
      simp only [hselect] at hupdate
      exact Or.inl (congrArg Except.error (Except.error.inj hupdate))
    | ok ids =>
      -- Once numbers are selected only their documents can fail, and the first that does decides.
      have hselects := Source.selects_of_select hselect
      rcases source.obtains_or_fails ids (session.askAll [source.baseUrl]) with
        ⟨documents, rfl, hobtains⟩ | ⟨documents, failing, rest, found, rfl, hobtains, hfails⟩
      · obtain ⟨update, hgiven, -⟩ := Source.update_of_obtains hselects hobtains
        rw [hgiven] at hupdate
        exact absurd hupdate (by simp)
      · rw [Source.update_of_fails hselects hobtains hfails] at hupdate
        obtain rfl := Except.error.inj hupdate
        exact Or.inr ⟨documents, failing, rest, hselects, hobtains, hfails⟩
  · rintro (hselect | ⟨documents, id, rest, hselects, hobtains, hfails⟩)
    · rw [Source.update]
      simp only [hselect]
    · rw [Source.update_of_fails hselects hobtains hfails]

/-- What ends the selection ends the update. -/
theorem Source.failsOtherwise_of_select
    (h : ∃ error, (source.select cursor session).1 = .error error ∧ error.isDocumented = false) :
    source.FailsOtherwise cursor session := by
  obtain ⟨error, herror, hother⟩ := h
  exact ⟨error, Source.update_error_iff.2 (Or.inl herror), hother⟩

end Updates

/-! ## Sessions in which an update stumbles -/

/-- Digits that are one too many for a numeral. -/
def longDigits : List Char :=
  List.replicate (digitLimit + 1) '1'

theorem isTooLong_longDigits : IsTooLong longDigits where
  numeral := by
    refine ⟨by simp [longDigits], ?_⟩
    intro c hc
    rw [List.eq_of_mem_replicate hc]
    decide
  long := by
    rw [longDigits, List.length_replicate]
    exact Nat.lt_succ_self digitLimit

theorem isTooLong_strip_longDigits : IsTooLong (strip (String.ofList longDigits).toList) := by
  rw [String.toList_ofList, isTooLong_longDigits.numeral.strip_eq]
  exact isTooLong_longDigits

theorem isCanonical_longDigits : IsCanonical longDigits where
  numeral := isTooLong_longDigits.numeral
  first := by
    intro hzero
    rw [longDigits, List.replicate_succ, List.head?_cons] at hzero
    exact absurd (Option.some.inj hzero) (by decide)

/-- A session of the default source in which the listing has the answers. -/
def answeredSession (answers : List Answer) : Session :=
  let listed := listedSession oracleSource "" []
  { listed with network := { listed.network with feed := [(oracleSource.baseUrl, answers)] } }

/-- The listing is no document. -/
theorem Source.documentUrl_ne_baseUrl (source : Source) (id : Int) :
    source.documentUrl id ≠ source.baseUrl := by
  intro hsame
  have hlength := congrArg String.length hsame
  simp only [Source.documentUrl, String.length_append] at hlength
  have hxml : (".xml" : String).length = 4 := by decide
  omega

theorem ordinary_answeredSession {answers : List Answer}
    (h : ∀ answer ∈ answers, answer.isExchange = true) :
    oracleSource.Ordinary (answeredSession answers) where
  retries := show (0 : Int) ≤ 3 by decide
  fewRetries := show (3 : Int) ≤ 1024 by decide
  unlimited := rfl
  feed := by
    apply Feed.isExchange_of_forall
    intro entry hentry
    rw [List.mem_singleton.1 hentry]
    exact h
  fits := by
    rintro id response ⟨served, hlookup, -⟩
    obtain ⟨before, after, hfeed, -⟩ := List.lookup_eq_some_iff.1 hlookup
    have hentry : (oracleSource.documentUrl id, served) ∈ [(oracleSource.baseUrl, answers)] := by
      change [(oracleSource.baseUrl, answers)] = _ at hfeed
      rw [hfeed]
      simp
    exact absurd (congrArg Prod.fst (List.mem_singleton.1 hentry))
      (oracleSource.documentUrl_ne_baseUrl id)

theorem download_answeredSession (body : List UInt8) :
    (download oracleSource.baseUrl (answeredSession [.response ⟨200, [], body⟩])).1 =
      .ok ⟨200, [], body⟩ := by
  rfl

/-- A listing with a file name of too many digits. -/
def longListing : Response :=
  ⟨200, [], asciiBytes (fileName defaultFilePrefix.toList longDigits)⟩

theorem toList_longListing :
    longListing.text.toList = fileName defaultFilePrefix.toList longDigits := by
  have hprefix : defaultFilePrefix.toList.all (·.toNat < 0x80) = true := by decide
  have hsuffix : fileSuffix.all (·.toNat < 0x80) = true := by decide
  rw [Response.text, utf8Text, String.toList_ofList]
  apply decodeLossy_asciiBytes
  intro c hc
  rcases List.mem_append.1 hc with hc | hc
  · simpa using List.all_eq_true.1 hprefix c hc
  · rcases List.mem_append.1 hc with hc | hc
    · rw [List.eq_of_mem_replicate hc]
      decide
    · simpa using List.all_eq_true.1 hsuffix c hc

/-- Whatever the cursor is, a line of the listing cannot be read. -/
theorem exists_unreadable_longListing (n : Nat) : ∃ line ∈ lines longListing.text.toList,
    Unreadable defaultFilePrefix.toList n line := by
  have hplain : InLine (fileName defaultFilePrefix.toList longDigits) :=
    inLine_fileName inLine_defaultFilePrefix isCanonical_longDigits.numeral.isDecimals
  have hne : fileName defaultFilePrefix.toList longDigits ≠ [] := by
    simp [fileName, isCanonical_longDigits.numeral.ne_nil]
  obtain ⟨back, hline⟩ := exists_line_of_inLine (by decide : EndsLine []) hplain hne []
  rw [List.nil_append, List.append_nil] at hline
  refine ⟨_, ?_, unreadable_fileName isCanonical_longDigits isTooLong_longDigits.long n back⟩
  rw [toList_longListing]
  exact hline

/-- An answer that asks to come back in a year that is beyond all numbers. -/
def farAnswer : Answer :=
  .response ⟨503, [("Retry-After", "Mon, 01 Jan 99999999999 00:00:00 GMT")], []⟩

/-- An answer that asks to come back after more seconds than the machine can count. -/
def lateAnswer : Answer :=
  .response ⟨503, [("Retry-After", "99999999999")], []⟩

/-- A session of the default source in which the listing has the answers, with a client whose delays
are less than none. -/
def impatientSession (answers : List Answer) : Session :=
  let answered := answeredSession answers
  { answered with
    client := { answered.client with
      policy := { answered.client.policy with baseDelay := -1.0 } } }

/-- An update fails with another error, though the session is an ordinary one. -/
structure Source.Surprises (source : Source) (cursor : Option String) (session : Session) :
    Prop where
  ordinary : source.Ordinary session
  fails : source.FailsOtherwise cursor session

end AdvisoryFeed.Ingest
