import AdvisoryFeed.Proofs.Ingest.AllOrNothing
import AdvisoryFeed.Proofs.Store.Commits
import AdvisoryFeed.Run.Batch

/-!
# Every advisory once

An updater gives one batch after the other, each to tables in which others have written since the
batch before, and each against a feed of its own (`Visit`, `batches`). A batch that fails leaves the
tables as they were. A batch that succeeds takes the cursor from one number to another that is no
smaller, and takes in the advisories that its listing names between the two, all of them
(`Intake.Explains`).

The cursor is the invariant that joins the batches: whatever is taken in later is greater than it
(`candidates_batches`). So over all batches the candidates ascend, and no advisory is taken in twice
(`TakenOnce`).
-/

namespace AdvisoryFeed.Ingest

open AdvisoryFeed.Decimal AdvisoryFeed.Http AdvisoryFeed.Store

/-! ## Updaters of a source -/

/-- The updater asks the source through the client, and its cursor is the one of the source. -/
structure Updater.Asks (updater : Updater) (source : Source) (client : Client) : Prop where
  origin : updater.origin = .source source client
  cursorKey : updater.cursorKey = source.cursorKey

/-- After a batch the updater asks the same source. -/
theorem Updater.Asks.run {updater : Updater} {source : Source} {client : Client}
    (h : updater.Asks source client) (cursor : Option String) (network : Network) :
    (updater.run cursor network).1 = (source.update cursor ⟨client, network⟩).1 ∧
      ∃ next, (updater.run cursor network).2.1.Asks source next := by
  rw [Updater.run, Updater.update, h.origin]
  exact ⟨rfl, _, rfl, h.cursorKey⟩

/-- The cursor of a source that the tables hold. -/
def Source.cursorIn (source : Source) (tables : Tables) : Except NumeralError Int :=
  (loadCursor (tables.getKey source.cursorKey) source.baseline).1

/-- A cursor that is loaded is not negative when the baseline is not. -/
theorem Source.exists_nat_of_cursorIn {source : Source} {tables : Tables} {cursor : Int}
    (hbaseline : 0 ≤ source.baseline) (h : source.cursorIn tables = .ok cursor) :
    ∃ n : Nat, cursor = n := by
  have hnonneg : 0 ≤ cursor := by
    rcases loadCursor_spec h with hsame | hnonneg
    · omega
    · exact hnonneg
  exact ⟨cursor.toNat, by omega⟩

/-- A commit of what was gathered behind a cursor moves the cursor to the greatest candidate, and
leaves it where it is when there is none. -/
theorem Update.Gathers.cursorIn_commit {update : Update} {source : Source}
    {documents : List Document} (h : update.Gathers source documents)
    {updater run : Option String} {tables after : Tables}
    (hcommit : commit updater update run tables = .ok after) (hkey : source.cursorKey ≠ none)
    {first : Int} (hfirst : source.cursorIn tables = .ok first)
    (hbehind : ∀ id ∈ update.candidates, first < id)
    (hwritten : ∀ id ∈ update.candidates, ∃ n : Nat, id = n ∧ (decimal n).length ≤ digitLimit) :
    ∃ last, source.cursorIn after = .ok last ∧ first ≤ last ∧
      ∀ id ∈ update.candidates, id ≤ last := by
  rcases h.flags_cases with ⟨hnil, hflags⟩ | ⟨greatest, hgreatest, hle, hflags⟩
  · refine ⟨first, ?_, Int.le_refl first, by simp [hnil]⟩
    rw [Source.cursorIn, getKey_commit_noFlags hcommit hflags]
    exact hfirst
  · refine ⟨greatest, ?_, Int.le_of_lt (hbehind greatest hgreatest), hle⟩
    obtain ⟨key, hkey⟩ := Option.ne_none_iff_exists'.1 hkey
    obtain ⟨n, rfl, hdigits⟩ := hwritten greatest hgreatest
    rw [Source.cursorIn]
    rw [hkey] at hflags ⊢
    rw [getKey_commit_flag hcommit hflags]
    exact loadCursor_showInt hdigits source.baseline

end AdvisoryFeed.Ingest

namespace AdvisoryFeed.Run

open AdvisoryFeed.Decimal AdvisoryFeed.Http AdvisoryFeed.Ingest AdvisoryFeed.Report
open AdvisoryFeed.Store AdvisoryFeed.Text

/-! ## Batches one after the other -/

/-- What an updater meets when its turn comes. -/
structure Visit where
  run : String
  /-- What others have written to the tables since the batch before. -/
  others : Tables → Tables
  metrics : Metrics
  stored : List Vulnerability
  network : Network

/-- Others leave the cursor of the source alone, and the listings in the feed are plain. -/
structure Visit.Regular (visit : Visit) (source : Source) : Prop where
  alone : ∀ tables : Tables,
    (visit.others tables).getKey source.cursorKey = tables.getKey source.cursorKey
  plain : ∀ listing : Response, visit.network.feed.Serves source.baseUrl listing →
    IsPlain source.filePrefix.toList (lines listing.text.toList)

/-- A batch of an updater, and what the run has done before it. -/
structure Batch where
  run : String
  updater : Updater
  before : Progress

/-- The updater after the batch, and what the run has done then. -/
def Batch.step (batch : Batch) : Updater × Progress :=
  batch.before.step batch.run batch.updater

/-- What the run has done after the batch. -/
def Batch.after (batch : Batch) : Progress :=
  batch.step.2

/-- What the batch takes in, unless it fails. -/
def Batch.taken? (batch : Batch) : Option Update :=
  match (takeIn batch.run batch.updater batch.before.tables batch.before.network).1 with
  | .ok taken => some taken.1
  | .error _ => none

/-- The numbers of the advisories that the batch takes in. -/
def Batch.candidates (batch : Batch) : List Int :=
  (batch.taken?.map Update.candidates).getD []

/-- The vulnerabilities that the batch takes in. -/
def Batch.vulnerabilities (batch : Batch) : List Vulnerability :=
  (batch.taken?.map Update.vulnerabilities).getD []

/-- The batch that an updater gives when it is visited. -/
def Visit.batch (visit : Visit) (updater : Updater) (tables : Tables) : Batch :=
  ⟨visit.run, updater, ⟨visit.others tables, visit.metrics, visit.stored, visit.network⟩⟩

/-- The batches of an updater that is visited again and again, the first time with given tables. -/
def batches : List Visit → Updater → Tables → List Batch
  | [], _, _ => []
  | visit :: visits, updater, tables =>
    let batch := visit.batch updater tables
    batch :: batches visits batch.step.1 batch.after.tables

/-- What happens in a batch: it fails and leaves the tables as they were, or it takes in an update
of its updater by a commit that succeeds. -/
theorem Batch.step_cases (batch : Batch) :
    (batch.taken? = none ∧ batch.after.tables = batch.before.tables) ∨
    ∃ update, batch.taken? = some update ∧
      (batch.updater.run (batch.before.tables.getKey batch.updater.cursorKey)
        batch.before.network).1 = .ok update ∧
      commit (some batch.updater.id) update (some batch.run) batch.before.tables =
        .ok batch.after.tables := by
  rw [Batch.taken?, Batch.after, Batch.step, Progress.step, takeIn]
  dsimp only
  cases hrun : (batch.updater.run (batch.before.tables.getKey batch.updater.cursorKey)
      batch.before.network).1 with
  | error error => exact Or.inl ⟨rfl, rfl⟩
  | ok update =>
    dsimp only
    cases hcommit : commit (some batch.updater.id) update (some batch.run) batch.before.tables with
    | error error => exact Or.inl ⟨rfl, rfl⟩
    | ok tables => exact Or.inr ⟨update, rfl, rfl, hcommit⟩

/-- After a batch the updater asks the same source. -/
theorem Batch.asks_step (batch : Batch) {source : Source} {client : Client}
    (h : batch.updater.Asks source client) : ∃ next, batch.step.1.Asks source next := by
  obtain ⟨-, next, hnext⟩ :=
    h.run (batch.before.tables.getKey batch.updater.cursorKey) batch.before.network
  have hsame : batch.step.1 = (batch.updater.run
      (batch.before.tables.getKey batch.updater.cursorKey) batch.before.network).2.1 := by
    rw [Batch.step, Progress.step, takeIn]
    dsimp only
    split <;> rfl
  exact ⟨next, hsame ▸ hnext⟩

/-! ## Batches that succeed -/

/-- How a batch that succeeds comes about: the listing that it downloads, the documents that it
obtains, and the cursors before and after it. -/
structure Intake where
  client : Client
  listing : Response
  documents : List Document
  first : Int
  last : Int

/-- The numbers that the listing of a batch names. -/
def Intake.Names (intake : Intake) (source : Source) (id : Int) : Prop :=
  Ingest.Names source.filePrefix.toList (lines intake.listing.text.toList) id

/-- The batch takes in the update by way of the intake: it downloads the listing, obtains the
documents of what the listing names behind the first cursor, commits what they give, and leaves the
last cursor, which nothing in the listing is behind. -/
structure Intake.Explains (intake : Intake) (batch : Batch) (source : Source) (update : Update) :
    Prop where
  origin : batch.updater.origin = .source source intake.client
  listed : (download source.baseUrl ⟨intake.client, batch.before.network⟩).1 = .ok intake.listing
  obtained : source.Obtains
    (Session.askAll [source.baseUrl] ⟨intake.client, batch.before.network⟩) intake.documents
  gathers : update.Gathers source intake.documents
  committed : commit (some batch.updater.id) update (some batch.run) batch.before.tables =
    .ok batch.after.tables
  before : source.cursorIn batch.before.tables = .ok intake.first
  after : source.cursorIn batch.after.tables = .ok intake.last
  ordered : intake.first ≤ intake.last
  /-- No number that the listing names is behind the last cursor. -/
  covered : ∀ id, intake.Names source id → id ≤ intake.last
  /-- What is taken in is what the listing names behind the first cursor. -/
  taken : ∀ id, id ∈ update.candidates ↔ intake.first < id ∧ intake.Names source id

theorem Batch.exists_intake {batch : Batch} {source : Source} {client : Client}
    (hasks : batch.updater.Asks source client) (hbaseline : 0 ≤ source.baseline)
    (hkey : source.cursorKey ≠ none)
    (hplain : ∀ listing : Response, batch.before.network.feed.Serves source.baseUrl listing →
      IsPlain source.filePrefix.toList (lines listing.text.toList))
    {update : Update} (htaken : batch.taken? = some update) :
    ∃ intake : Intake, intake.Explains batch source update := by
  rcases batch.step_cases with ⟨hnone, -⟩ | ⟨found, hfound, hrun, hcommit⟩
  · rw [hnone] at htaken
    exact absurd htaken (by simp)
  · obtain rfl : found = update := Option.some.inj (hfound.symm.trans htaken)
    rw [hasks.cursorKey, (hasks.run _ _).1] at hrun
    obtain ⟨documents, ⟨first, listing, hfirst, hlisting, hcandidates⟩, hobtains, hgathers, -⟩ :=
      Source.gathers_of_update hrun
    have hserves := Session.request_ok_serves _ _ (download_eq_ok_iff.1 hlisting)
    have hselected := selected_of_candidatesOf hcandidates
    obtain ⟨n, rfl⟩ := Source.exists_nat_of_cursorIn hbaseline hfirst
    -- The listing is one of the feed, so it is plain, and comparing digits is comparing numbers.
    have hmem : ∀ id, id ∈ found.candidates ↔ (n : Int) < id ∧
        Ingest.Names source.filePrefix.toList (lines listing.text.toList) id := by
      intro id
      rw [hgathers.candidates]
      exact hselected.mem_iff_of_plain (hplain listing hserves) id
    obtain ⟨last, hlast, hordered, hbound⟩ := hgathers.cursorIn_commit hcommit hkey hfirst
      (fun id hid => ((hmem id).1 hid).1)
      fun id hid => hselected.exists_nat (hgathers.candidates ▸ hid)
    refine ⟨⟨client, listing, documents, n, last⟩, ⟨hasks.origin, hlisting, hobtains, hgathers,
      hcommit, hfirst, hlast, hordered, ?_, hmem⟩⟩
    intro id hnames
    by_cases hbehind : (n : Int) < id
    · exact hbound id ((hmem id).2 ⟨hbehind, hnames⟩)
    · exact Int.le_trans (Int.not_lt.1 hbehind) hordered

/-- The listing that the batch downloads names the advisory, and its number is behind the cursor. -/
def Batch.Offers (batch : Batch) (source : Source) (id : Int) : Prop :=
  ∃ client listing first, batch.updater.origin = .source source client ∧
    (download source.baseUrl ⟨client, batch.before.network⟩).1 = .ok listing ∧
    source.cursorIn batch.before.tables = .ok first ∧ first < id ∧
    Ingest.Names source.filePrefix.toList (lines listing.text.toList) id

/-- A batch that succeeds takes in what it is offered. -/
theorem Intake.Explains.mem_iff_offers {intake : Intake} {batch : Batch} {source : Source}
    {update : Update} (h : intake.Explains batch source update) (id : Int) :
    id ∈ update.candidates ↔ batch.Offers source id := by
  rw [h.taken]
  constructor
  · rintro ⟨hbehind, hnames⟩
    exact ⟨intake.client, intake.listing, intake.first, h.origin, h.listed, h.before, hbehind,
      hnames⟩
  · rintro ⟨client, listing, first, horigin, hlisted, hfirst, hbehind, hnames⟩
    obtain rfl : intake.client = client := by
      have := h.origin.symm.trans horigin
      exact (Origin.source.inj this).2
    obtain rfl : intake.listing = listing := Except.ok.inj (h.listed.symm.trans hlisted)
    obtain rfl : intake.first = first := Except.ok.inj (h.before.symm.trans hfirst)
    exact ⟨hbehind, hnames⟩

/-- A batch that fails takes in nothing. -/
theorem Batch.taken_eq_nil {batch : Batch} (h : batch.taken? = none) :
    batch.candidates = [] ∧ batch.vulnerabilities = [] := by
  rw [Batch.candidates, Batch.vulnerabilities, h]
  exact ⟨rfl, rfl⟩

theorem Batch.taken_eq {batch : Batch} {update : Update} (h : batch.taken? = some update) :
    batch.candidates = update.candidates ∧ batch.vulnerabilities = update.vulnerabilities := by
  rw [Batch.candidates, Batch.vulnerabilities, h]
  exact ⟨rfl, rfl⟩

/-- A batch takes in what it is offered, unless it fails. -/
theorem Batch.mem_candidates_iff (batch : Batch) {source : Source}
    (h : ∀ update, batch.taken? = some update →
      ∃ intake : Intake, intake.Explains batch source update) (id : Int) :
    id ∈ batch.candidates ↔ batch.taken?.isSome ∧ batch.Offers source id := by
  cases htaken : batch.taken? with
  | none => simp [(Batch.taken_eq_nil htaken).1]
  | some update =>
    obtain ⟨intake, hintake⟩ := h update htaken
    rw [(Batch.taken_eq htaken).1, ← hintake.mem_iff_offers]
    simp

/-! ## The cursor over all batches -/

section Batches

variable {source : Source}

/-- Each batch belongs to a visit, and its updater asks the source. -/
theorem exists_visit_of_mem_batches {batch : Batch} {visits : List Visit} :
    ∀ {updater : Updater} {client : Client} {tables : Tables}, updater.Asks source client →
      batch ∈ batches visits updater tables →
      ∃ visit ∈ visits, ∃ reached next, batch = visit.batch batch.updater reached ∧
        batch.updater.Asks source next := by
  induction visits with
  | nil =>
    intro updater client tables _ hbatch
    exact absurd hbatch List.not_mem_nil
  | cons visit visits ih =>
    intro updater client tables hasks hbatch
    rcases List.mem_cons.1 hbatch with rfl | hlater
    · exact ⟨visit, List.mem_cons_self, tables, client, rfl, hasks⟩
    · obtain ⟨next, hnext⟩ := (visit.batch updater tables).asks_step hasks
      obtain ⟨later, hmem, hvisit⟩ := ih hnext hlater
      exact ⟨later, List.mem_cons_of_mem visit hmem, hvisit⟩

/-- What batches take in ascends from one to the next, and is greater than the cursor before
them. -/
theorem candidates_batches (hbaseline : 0 ≤ source.baseline) (hkey : source.cursorKey ≠ none)
    {visits : List Visit} :
    ∀ {updater : Updater} {client : Client} (tables : Tables), updater.Asks source client →
      (∀ visit ∈ visits, visit.Regular source) →
      ((batches visits updater tables).flatMap Batch.candidates).Pairwise (· < ·) ∧
        ∀ first, source.cursorIn tables = .ok first →
          ∀ id ∈ (batches visits updater tables).flatMap Batch.candidates, first < id := by
  -- The updater and the tables vary in the induction: a batch hands both on to the next one, and
  -- with the tables the cursor that everything behind it has to be greater than.
  induction visits with
  | nil =>
    intro updater client tables _ _
    exact ⟨List.Pairwise.nil, fun _ _ _ hid => absurd hid List.not_mem_nil⟩
  | cons visit visits ih =>
    intro updater client tables hasks hvisits
    have hregular := hvisits visit List.mem_cons_self
    obtain ⟨next, hnext⟩ := (visit.batch updater tables).asks_step hasks
    obtain ⟨hascending, hlater⟩ := ih (visit.batch updater tables).after.tables hnext
      fun visit hvisit => hvisits visit (List.mem_cons_of_mem _ hvisit)
    have hbefore : source.cursorIn (visit.batch updater tables).before.tables =
        source.cursorIn tables := by
      rw [Source.cursorIn, Source.cursorIn, ← hregular.alone tables]
      rfl
    rw [batches, List.flatMap_cons]
    rcases (visit.batch updater tables).step_cases with ⟨hnone, hsame⟩ | ⟨update, htaken, -⟩
    · -- A batch that fails takes in nothing and leaves the cursor to the next one.
      rw [(Batch.taken_eq_nil hnone).1, List.nil_append]
      refine ⟨hascending, ?_⟩
      rw [← hbefore, ← hsame]
      exact hlater
    · -- A batch that succeeds takes in what lies between its cursors.
      obtain ⟨intake, hintake⟩ := Batch.exists_intake hasks hbaseline hkey hregular.plain htaken
      have hbehind := hlater intake.last hintake.after
      rw [(Batch.taken_eq htaken).1]
      constructor
      · apply List.pairwise_append.2
        refine ⟨hintake.gathers.ascending, hascending, ?_⟩
        intro id hid other hother
        have hle := hintake.covered id ((hintake.taken id).1 hid).2
        exact Int.lt_of_le_of_lt hle (hbehind other hother)
      · intro first hfirst id hid
        obtain rfl : intake.first = first :=
          Except.ok.inj (hintake.before.symm.trans (hbefore.trans hfirst))
        rcases List.mem_append.1 hid with hid | hid
        · exact ((hintake.taken id).1 hid).1
        · exact Int.lt_of_le_of_lt hintake.ordered (hbehind id hid)

/-- What batches take in is made up of what documents give, each of which is obtained for one of the
candidates. -/
theorem exists_documents {history : List Batch}
    (h : ∀ batch ∈ history, ∀ update, batch.taken? = some update →
      ∃ intake : Intake, intake.Explains batch source update) :
    ∃ documents : List Document,
      history.flatMap Batch.candidates = documents.map Document.id ∧
      history.flatMap Batch.vulnerabilities = documents.flatMap (·.yield.vulnerabilities) := by
  induction history with
  | nil => exact ⟨[], rfl, rfl⟩
  | cons batch history ih =>
    obtain ⟨documents, hids, hyields⟩ :=
      ih fun other hother => h other (List.mem_cons_of_mem batch hother)
    rw [List.flatMap_cons, List.flatMap_cons, hids, hyields]
    cases htaken : batch.taken? with
    | none =>
      refine ⟨documents, ?_, ?_⟩
      · rw [(Batch.taken_eq_nil htaken).1, List.nil_append]
      · rw [(Batch.taken_eq_nil htaken).2, List.nil_append]
    | some update =>
      obtain ⟨intake, hintake⟩ := h batch List.mem_cons_self update htaken
      refine ⟨intake.documents ++ documents, ?_, ?_⟩
      · rw [(Batch.taken_eq htaken).1, hintake.gathers.candidates, List.map_append]
      · rw [(Batch.taken_eq htaken).2, hintake.gathers.vulnerabilities, List.flatMap_append]

/-- In a history of batches every advisory of the source is taken in once. -/
structure TakenOnce (source : Source) (history : List Batch) : Prop where
  /-- A batch that fails leaves the tables as they were. -/
  failed : ∀ batch ∈ history, batch.taken? = none → batch.after.tables = batch.before.tables
  /-- A batch that succeeds leaves a cursor that nothing in its listing is behind. -/
  explained : ∀ batch ∈ history, ∀ update, batch.taken? = some update →
    ∃ intake : Intake, intake.Explains batch source update
  /-- From batch to batch the candidates ascend. -/
  ascending : (history.flatMap Batch.candidates).Pairwise (· < ·)
  /-- An advisory is taken in when a batch that succeeds is offered it, and never a second time. -/
  once : ∀ id, (history.flatMap Batch.candidates).count id ≤ 1 ∧
    ((history.flatMap Batch.candidates).count id = 1 ↔
      ∃ batch ∈ history, batch.taken?.isSome ∧ batch.Offers source id)
  /-- What is taken in is what the documents of the candidates give. -/
  gathered : ∃ documents : List Document,
    history.flatMap Batch.candidates = documents.map Document.id ∧
    history.flatMap Batch.vulnerabilities = documents.flatMap (·.yield.vulnerabilities)

/-- Of an updater that has its cursor for itself the batches take in every advisory once, whatever
the feeds give and whichever batches fail. -/
theorem batches_exactly_once {updater : Updater} {client : Client} (visits : List Visit)
    (tables : Tables) (hasks : updater.Asks source client) (hbaseline : 0 ≤ source.baseline)
    (hkey : source.cursorKey ≠ none) (hvisits : ∀ visit ∈ visits, visit.Regular source) :
    TakenOnce source (batches visits updater tables) := by
  have hexplained : ∀ batch ∈ batches visits updater tables, ∀ update,
      batch.taken? = some update → ∃ intake : Intake, intake.Explains batch source update := by
    intro batch hbatch update htaken
    obtain ⟨visit, hvisit, reached, next, hsame, hnext⟩ := exists_visit_of_mem_batches hasks hbatch
    refine Batch.exists_intake hnext hbaseline hkey ?_ htaken
    rw [hsame]
    exact (hvisits visit hvisit).plain
  -- What ascends is there once, which leaves the question which batch takes it in.
  have hascending := (candidates_batches hbaseline hkey tables hasks hvisits).1
  have hnodup : ((batches visits updater tables).flatMap Batch.candidates).Nodup :=
    hascending.imp fun hlt => Int.ne_of_lt hlt
  refine ⟨?_, hexplained, hascending, ?_, exists_documents hexplained⟩
  · intro batch _ hnone
    rcases batch.step_cases with ⟨-, hsame⟩ | ⟨update, htaken, -⟩
    · exact hsame
    · rw [htaken] at hnone
      exact absurd hnone (by simp)
  · intro id
    refine ⟨List.nodup_iff_count_le_one.1 hnodup id, ?_⟩
    constructor
    · intro hone
      have hmem : id ∈ (batches visits updater tables).flatMap Batch.candidates :=
        List.count_pos_iff.1 (by omega)
      obtain ⟨batch, hbatch, hid⟩ := List.mem_flatMap.1 hmem
      exact ⟨batch, hbatch, (batch.mem_candidates_iff (hexplained batch hbatch) id).1 hid⟩
    · rintro ⟨batch, hbatch, hoffered⟩
      have hid := (batch.mem_candidates_iff (hexplained batch hbatch) id).2 hoffered
      exact List.count_eq_one_of_mem hnodup (List.mem_flatMap.2 ⟨batch, hbatch, hid⟩)

end Batches

/-! ## Three visits -/

/-- A source with a prefix of its own and a cursor that starts at zero. -/
def sampleSource : Source where
  baseUrl := "u/"
  filePrefix := "a-"
  baseline := 0
  referenceSource := none
  workers := 1
  cursorKey := some "k"
  extractor := Extractor.default Formats.default

/-- A client that is not limited. -/
def sampleClient : Client :=
  ⟨oracleId, defaultUserAgent, RetryPolicy.default, Limiter.full none none 0.0,
    Breaker.fresh defaultThreshold defaultOpenSeconds⟩

/-- An updater for the source. -/
def sampleUpdater : Updater :=
  ⟨oracleId, sampleSource.cursorKey, .source sampleSource sampleClient, .start, Health.fresh⟩

/-- A response with a text. -/
def sampleResponse (text : String) : Response :=
  ⟨200, [], text.toUTF8.toList⟩

/-- A visit with a listing, and with documents that hold no advisories. -/
def sampleVisit (listing : String) (ids : List Int) : Visit where
  run := "r"
  others := id
  metrics := Metrics.start "r" ⟨2024, 1, 1, 0, 0, 0, 0⟩
  stored := []
  network :=
    { feed := ("u/", [.response (sampleResponse listing)]) ::
        ids.map fun id => (sampleSource.documentUrl id,
          [.response (sampleResponse "<oval_definitions/>")])
      clock := 0.0
      now := ⟨2024, 1, 1, 0, 0, 0, 0⟩
      machine := Machine.system
      jitter := fun _ => 0.0
      calls := []
      sleeps := [] }

theorem sampleVisit_regular {listing : String} (ids : List Int)
    (h : IsPlain sampleSource.filePrefix.toList
      (lines (sampleResponse listing).text.toList)) :
    (sampleVisit listing ids).Regular sampleSource := by
  refine ⟨fun _ => rfl, ?_⟩
  rintro response ⟨answers, hlookup, hmem⟩
  obtain rfl : [.response (sampleResponse listing)] = answers := Option.some.inj hlookup
  obtain rfl : response = sampleResponse listing := by simpa using hmem
  exact h

/-- In the first visit two advisories are listed, in the second one more, the document of which is
missing, and in the third it is there. -/
def sampleVisits : List Visit :=
  [sampleVisit "a-5.xml\na-3.xml" [3, 5], sampleVisit "a-5.xml\na-7.xml" [],
    sampleVisit "a-5.xml\na-7.xml" [7]]

theorem batches_exactly_once_sample :
    (batches sampleVisits sampleUpdater Tables.empty).map Batch.candidates = [[3, 5], [], [7]] ∧
      TakenOnce sampleSource (batches sampleVisits sampleUpdater Tables.empty) := by
  have hregular : ∀ visit ∈ sampleVisits, visit.Regular sampleSource := by
    have hfirst : (sampleVisit "a-5.xml\na-3.xml" [3, 5]).Regular sampleSource :=
      sampleVisit_regular [3, 5] (by decide +kernel)
    have hsecond : ∀ ids, (sampleVisit "a-5.xml\na-7.xml" ids).Regular sampleSource :=
      fun ids => sampleVisit_regular ids (by decide +kernel)
    simp only [sampleVisits, List.forall_mem_cons, List.not_mem_nil, false_imp_iff, implies_true,
      and_true]
    exact ⟨hfirst, hsecond [], hsecond [7]⟩
  refine ⟨by decide +kernel, ?_⟩
  exact batches_exactly_once sampleVisits Tables.empty ⟨rfl, rfl⟩ (by decide) (by decide) hregular

end AdvisoryFeed.Run
