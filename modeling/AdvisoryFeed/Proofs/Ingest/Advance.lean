import AdvisoryFeed.Ingest.Settings
import AdvisoryFeed.Proofs.Ingest.AllOrNothing
import AdvisoryFeed.Proofs.Ingest.Listing

/-!
# The way of the cursor

An update advances when all that it takes in is greater than the cursor, and the cursor that it
proposes is too (`Update.Advances`). The number of a file name is compared as a text of code points
and read as a numeral of any script. Of ASCII digits both are the same; in digits of another script
a number may compare greater than a cursor that it does not exceed (`Misleads`), and a listing that
names such a number leads the cursor back. An update advances exactly when its listing has no line
that misleads (`Source.update_advances_iff`).
-/

namespace AdvisoryFeed.Ingest

open AdvisoryFeed.Text AdvisoryFeed.Decimal AdvisoryFeed.Http

/-- The candidates of an update are greater than the cursor that it started from, and so is what is
read back of the cursor that it proposes. -/
structure Update.Advances (update : Update) (source : Source) (first : Int) : Prop where
  candidates : ∀ id ∈ update.candidates, first < id
  flags : ∀ flag ∈ update.flags, ∃ value next, flag = (source.cursorKey, some value) ∧
    (loadCursor (some value) source.baseline).1 = .ok next ∧ first < next

/-- A line names a number that is not written in ASCII digits and compares greater than the cursor,
but is not greater. -/
def Misleads (filePrefix : List Char) (cursor : Int) (line : List Char) : Prop :=
  ∃ digits, firstDigits? filePrefix line = some digits ∧ ¬ IsNumeral digits ∧
    0 < compareIds digits (decimalInt cursor) ∧ (digitsValue digits : Int) ≤ cursor

section Candidates

variable {filePrefix : List Char} {cursor : Int} {lines : List (List Char)} {ids : List Int}

/-- The candidates are greater than the cursor exactly when no line misleads. -/
theorem Selected.forall_lt_iff (h : Selected filePrefix cursor lines ids) (hcursor : 0 ≤ cursor) :
    (∀ id ∈ ids, cursor < id) ↔ ∀ line ∈ lines, ¬ Misleads filePrefix cursor line := by
  obtain ⟨n, rfl⟩ := Int.eq_ofNat_of_zero_le hcursor
  constructor
  · rintro hgreater line hline ⟨digits, hdigits, -, hbehind, hle⟩
    obtain ⟨written, hwritten, htaken⟩ := h.complete line hline digits hdigits
    obtain rfl := writeInt_natCast hwritten
    obtain ⟨id, hid, hread⟩ := htaken hbehind
    obtain ⟨-, rfl⟩ := readInt_firstDigits? hdigits hread
    have := hgreater _ hid
    omega
  · intro hlines id hid
    obtain ⟨line, hline, digits, written, hdigits, hwritten, hbehind, hread⟩ := h.named id hid
    obtain rfl := writeInt_natCast hwritten
    obtain ⟨-, rfl⟩ := readInt_firstDigits? hdigits hread
    by_contra hle
    -- ASCII digits compare as their number, so only others can be taken in wrongly.
    by_cases hnumeral : IsNumeral digits
    · have := (compareIds_pos_iff hnumeral n).1 hbehind
      omega
    · exact hlines line hline ⟨digits, hdigits, hnumeral, hbehind, by omega⟩

end Candidates

section Updates

variable {source : Source} {cursor : Option String} {session : Session}

/-- The candidates of an update are those of its listing. -/
theorem Source.selected_of_update {first : Int} {listing : Response} {update : Update}
    (hfirst : (loadCursor cursor source.baseline).1 = .ok first)
    (hlisting : (download source.baseUrl session).1 = .ok listing)
    (hupdate : (source.update cursor session).1 = .ok update) :
    Selected source.filePrefix.toList first (lines listing.text.toList) update.candidates := by
  obtain ⟨documents, ⟨_, _, hfirst', hlisting', hcandidates⟩, -, hgathers, -⟩ :=
    Source.gathers_of_update hupdate
  obtain rfl := Except.ok.inj (hfirst.symm.trans hfirst')
  obtain rfl := Except.ok.inj (hlisting.symm.trans hlisting')
  rw [hgathers.candidates]
  exact selected_of_candidatesOf hcandidates

/-- An update advances when its candidates do, since what it proposes is read back as the greatest
of them. -/
theorem Update.Gathers.advances_iff {update : Update} {documents : List Document}
    (h : update.Gathers source documents) {first : Int} {lines : List (List Char)}
    (hselected : Selected source.filePrefix.toList first lines update.candidates) :
    update.Advances source first ↔ ∀ id ∈ update.candidates, first < id := by
  constructor
  · exact Update.Advances.candidates
  · intro hgreater
    refine ⟨hgreater, ?_⟩
    intro flag hflag
    rcases h.flags_cases with ⟨-, hnone⟩ | ⟨greatest, hmem, -, hone⟩
    · rw [hnone] at hflag
      exact absurd hflag List.not_mem_nil
    · rw [hone, List.mem_singleton] at hflag
      obtain ⟨n, rfl, hlength⟩ := hselected.exists_nat hmem
      exact ⟨showInt n, n, hflag, loadCursor_showInt hlength source.baseline, hgreater n hmem⟩

/-- An update advances exactly when no line of its listing misleads. -/
theorem Source.update_advances_iff {first : Int} {listing : Response} {update : Update}
    (hbaseline : 0 ≤ source.baseline) (hfirst : (loadCursor cursor source.baseline).1 = .ok first)
    (hlisting : (download source.baseUrl session).1 = .ok listing)
    (hupdate : (source.update cursor session).1 = .ok update) :
    update.Advances source first ↔
      ∀ line ∈ lines listing.text.toList, ¬ Misleads source.filePrefix.toList first line := by
  have hcursor : 0 ≤ first := by
    rcases loadCursor_spec hfirst with rfl | hnonneg
    · exact hbaseline
    · exact hnonneg
  have hselected := Source.selected_of_update hfirst hlisting hupdate
  obtain ⟨documents, -, -, hgathers, -⟩ := Source.gathers_of_update hupdate
  rw [hgathers.advances_iff hselected]
  exact hselected.forall_lt_iff hcursor

end Updates

/-! ## Listings of the default source -/

/-- The source that an empty configuration describes. -/
def oracleSource : Source where
  baseUrl := defaultBaseUrl
  filePrefix := defaultFilePrefix
  baseline := defaultBaseline
  referenceSource := some defaultReferenceSource
  workers := defaultWorkers
  cursorKey := some (defaultCursorKey oracleId)
  extractor := Extractor.default Formats.default

theorem sourceOf_nil : sourceOf [] = .ok oracleSource := rfl

/-- A session in which the source has a listing, and documents that hold no advisories. -/
def listedSession (source : Source) (listing : String) (ids : List Int) : Session where
  client := clientOf [] 0.0
  network :=
    { feed := (source.baseUrl, [.response ⟨200, [], listing.toUTF8.toList⟩]) ::
        ids.map fun id => (source.documentUrl id,
          [.response ⟨200, [], "<oval_definitions/>".toUTF8.toList⟩])
      clock := 0.0
      now := ⟨2024, 1, 1, 0, 0, 0, 0⟩
      machine := Machine.system
      jitter := fun _ => 0.0
      calls := []
      sleeps := [] }

/-- The update that takes in documents without advisories. -/
def emptyUpdate (source : Source) (ids : List Int) : Update :=
  { Update.empty with candidates := ids, flags := source.flags ids }

/-- In ASCII digits a number behind the cursor leads it on. -/
theorem update_advances_iff_ascii :
    let session := listedSession oracleSource "com.oracle.elsa-20070058.xml" [20070058]
    let listing : Response := ⟨200, [], "com.oracle.elsa-20070058.xml".toUTF8.toList⟩
    0 ≤ oracleSource.baseline ∧
    (loadCursor none oracleSource.baseline).1 = .ok 20070057 ∧
    (download oracleSource.baseUrl session).1 = .ok listing ∧
    (oracleSource.update none session).1 = .ok (emptyUpdate oracleSource [20070058]) ∧
    ((emptyUpdate oracleSource [20070058]).Advances oracleSource 20070057 ↔
      ∀ line ∈ lines listing.text.toList,
        ¬ Misleads oracleSource.filePrefix.toList 20070057 line) := by
  intro session listing
  have hlisting : (download oracleSource.baseUrl session).1 = .ok listing := by decide +kernel
  have hupdate : (oracleSource.update none session).1 =
      .ok (emptyUpdate oracleSource [20070058]) := by decide +kernel
  exact ⟨by decide, rfl, hlisting, hupdate,
    Source.update_advances_iff (by decide) rfl hlisting hupdate⟩

/-- In Arabic-Indic digits a number before the cursor leads it back. -/
theorem update_arabic_moves_back :
    let session := listedSession oracleSource
      "com.oracle.elsa-\u0662\u0660\u0660\u0667\u0660\u0660\u0665\u0666.xml" [20070056]
    (loadCursor none oracleSource.baseline).1 = .ok 20070057 ∧
    (oracleSource.update none session).1 = .ok (emptyUpdate oracleSource [20070056]) ∧
    ¬ (emptyUpdate oracleSource [20070056]).Advances oracleSource 20070057 := by
  refine ⟨rfl, by decide +kernel, ?_⟩
  intro hadvances
  have hlt : (20070057 : Int) < 20070056 := hadvances.candidates 20070056 (by simp [emptyUpdate])
  exact absurd hlt (by decide)

end AdvisoryFeed.Ingest
