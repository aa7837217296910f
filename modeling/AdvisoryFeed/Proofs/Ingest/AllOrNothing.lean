import AdvisoryFeed.Ingest.Updater
import AdvisoryFeed.Proofs.Http.Requests
import AdvisoryFeed.Proofs.Ingest.Listing

/-!
# Updates are all or nothing

An update takes on the documents of its candidates as jobs that share a flag for cancellation
(`Source.workAll`). Seen one after the other, either every document is obtained, that is, downloaded
and processed (`Source.Obtains`), or there is a first one that fails (`Source.Fails`). In the first
case the jobs gather what the documents give on their own, in order; in the second the first failure
is what comes of all of them, and the jobs behind it leave the session as it is
(`Source.fetchAll_of_obtains`, `Source.fetchAll_of_fails`).

The last theorem says this of the updater: when it gives an update and what stands in it
(`Update.Gathers`), and otherwise which error leaves it, which URLs the client was asked for
(`Asked`), and how the updater is left (`Updater.left`).
-/

namespace AdvisoryFeed.Ingest

open AdvisoryFeed.Http AdvisoryFeed.Decimal

/-! ## Downloads -/

/-- After a download the client has been asked for the URL once. -/
theorem download_session (url : String) (session : Session) :
    (download url session).2 = session.askAll [url] := by
  unfold download
  dsimp only
  split <;> rfl

theorem download_eq_ok_iff {url : String} {session : Session} {response : Response} :
    (download url session).1 = .ok response ↔ (session.request url none).1 = .ok response := by
  unfold download
  dsimp only
  split
  · next found hfound => simp [hfound]
  · next error herror => simp [herror]

/-! ## Documents -/

/-- A document as it was taken in. -/
structure Document where
  /-- The number of the advisory. -/
  id : Int
  response : Response
  /-- What the document gives on its own. -/
  yield : Yield

section Fetching

variable (source : Source)

/-- The documents are downloaded and processed one after the other. -/
inductive Source.Obtains : Session → List Document → Prop where
  | nil (session : Session) : Obtains session []
  | cons {session : Session} {document : Document} {documents : List Document} :
      (download (source.documentUrl document.id) session).1 = .ok document.response →
      (source.process document.response.body).1 = .ok document.yield →
      Obtains (download (source.documentUrl document.id) session).2 documents →
      Obtains session (document :: documents)

/-- The document of an advisory cannot be downloaded, or gives no advisories. -/
def Source.Fails (session : Session) (id : Int) (error : UpdateError) : Prop :=
  (download (source.documentUrl id) session).1 = .error error ∨
    ∃ response cause, (download (source.documentUrl id) session).1 = .ok response ∧
      (source.process response.body).1 = .error cause ∧ error = .document cause

/-- The URLs of the documents of advisories. -/
def Source.urls (ids : List Int) : List String :=
  ids.map source.documentUrl

variable {source}

theorem Source.fetch_session (id : Int) (session : Session) :
    (source.fetch id session).2 = session.askAll (source.urls [id]) := by
  rw [← show (download (source.documentUrl id) session).2 = session.askAll (source.urls [id]) from
    download_session (source.documentUrl id) session]
  unfold Source.fetch
  dsimp only
  split <;> rfl

theorem Source.fetch_eq_ok_iff {id : Int} {session : Session} {yield : Yield} :
    (source.fetch id session).1 = .ok yield ↔
      ∃ response, (download (source.documentUrl id) session).1 = .ok response ∧
        (source.process response.body).1 = .ok yield := by
  unfold Source.fetch
  dsimp only
  split
  · next error herror => simp [herror]
  · next response hresponse =>
    cases hprocess : (source.process response.body).1 with
    | error cause => simp [hresponse, hprocess, Except.mapError]
    | ok found => simp [hresponse, hprocess, Except.mapError]

theorem Source.fetch_eq_error_iff {id : Int} {session : Session} {error : UpdateError} :
    (source.fetch id session).1 = .error error ↔ source.Fails session id error := by
  unfold Source.fetch Source.Fails
  dsimp only
  split
  · next found hfound => simp [hfound]
  · next response hresponse =>
    cases hprocess : (source.process response.body).1 with
    | error cause =>
      simp only [hresponse, Except.mapError, Except.error.injEq, reduceCtorEq, Except.ok.injEq,
        false_or, exists_and_left, exists_eq_left', hprocess]
      exact eq_comm
    | ok found => simp [hresponse, hprocess, Except.mapError]

/-- Either all documents are obtained, or a first one fails. -/
theorem Source.obtains_or_fails (ids : List Int) :
    ∀ session : Session,
      (∃ documents : List Document, ids = documents.map Document.id ∧
        source.Obtains session documents) ∨
      ∃ (documents : List Document) (failing : Int) (rest : List Int) (error : UpdateError),
        ids = documents.map Document.id ++ failing :: rest ∧ source.Obtains session documents ∧
        source.Fails (session.askAll (source.urls (documents.map Document.id))) failing error := by
  induction ids with
  | nil =>
    intro session
    exact Or.inl ⟨[], rfl, .nil session⟩
  | cons id ids ih =>
    intro session
    cases hfetch : (source.fetch id session).1 with
    | error error =>
      exact Or.inr ⟨[], id, ids, error, rfl, .nil session, Source.fetch_eq_error_iff.1 hfetch⟩
    | ok yield =>
      obtain ⟨response, hdownload, hprocess⟩ := Source.fetch_eq_ok_iff.1 hfetch
      -- The document in front is obtained, so the documents behind it decide.
      have hfirst : ∀ documents, source.Obtains (session.askAll (source.urls [id])) documents →
          source.Obtains session (⟨id, response, yield⟩ :: documents) := by
        intro documents h
        refine .cons hdownload hprocess ?_
        rw [download_session]
        exact h
      rcases ih (session.askAll (source.urls [id])) with
        ⟨documents, rfl, hobtains⟩ | ⟨documents, failing, rest, error, rfl, hobtains, hfails⟩
      · exact Or.inl ⟨_, rfl, hfirst documents hobtains⟩
      · exact Or.inr ⟨_, failing, rest, error, rfl, hfirst documents hobtains, hfails⟩

/-! ## Jobs -/

/-- Once the flag is set, the jobs that are left do nothing. -/
theorem Source.workAll_of_cancelled {fetching : Fetching} (h : fetching.cancelled = true)
    (ids : List Int) : source.workAll ids fetching = (ids.map fun _ => none, fetching) := by
  induction ids with
  | nil => rfl
  | cons id ids ih =>
    have hwork : source.work fetching id = (none, fetching) := by
      rw [Source.work, if_pos h]
    rw [Source.workAll, hwork, ih]
    rfl

theorem Source.workAll_append (ids more : List Int) (fetching : Fetching) :
    source.workAll (ids ++ more) fetching =
      ((source.workAll ids fetching).1 ++
          (source.workAll more (source.workAll ids fetching).2).1,
        (source.workAll more (source.workAll ids fetching).2).2) := by
  induction ids generalizing fetching with
  | nil => rfl
  | cons id ids ih =>
    rw [List.cons_append, Source.workAll, ih, Source.workAll]
    rfl

/-- Obtained documents are gathered in order, and no job of theirs fails. -/
theorem Source.Obtains.workAll {session : Session} {documents : List Document}
    (h : source.Obtains session documents) (gathered : Yield) :
    source.workAll (documents.map Document.id) ⟨false, gathered, session⟩ =
      (documents.map fun _ => none,
        ⟨false, documents.foldl (fun sum document => sum.add document.yield) gathered,
          session.askAll (source.urls (documents.map Document.id))⟩) := by
  induction h generalizing gathered with
  | nil session => rfl
  | @cons session document documents hdownload hprocess _ ih =>
    have hwork : source.work ⟨false, gathered, session⟩ document.id =
        (none, ⟨false, gathered.add document.yield,
          (download (source.documentUrl document.id) session).2⟩) := by
      have hok := Source.fetch_eq_ok_iff.2 ⟨document.response, hdownload, hprocess⟩
      have hsession := source.fetch_session document.id session
      rw [Source.urls, List.map_singleton, ← download_session] at hsession
      simp [Source.work, hok, hsession]
    rw [List.map_cons, Source.workAll, hwork, ih, download_session]
    rfl

/-- When all documents are obtained, what comes of them is what they gave. -/
theorem Source.fetchAll_of_obtains {session : Session} {documents : List Document}
    (h : source.Obtains session documents) :
    source.fetchAll (documents.map Document.id) session =
      (.ok (documents.foldl (fun sum document => sum.add document.yield) Yield.zero),
        session.askAll (source.urls (documents.map Document.id))) := by
  have hnone : (documents.map fun _ => (none : Option UpdateError)).findSome? id = none := by
    simp
  rw [Source.fetchAll, h.workAll Yield.zero]
  simp only [hnone]

/-- When a document fails, its error is what comes of all, and nothing is asked for after it. -/
theorem Source.fetchAll_of_fails {session : Session} {documents : List Document} {failing : Int}
    {error : UpdateError} (h : source.Obtains session documents)
    (hfails : source.Fails (session.askAll (source.urls (documents.map Document.id))) failing error)
    (rest : List Int) :
    source.fetchAll (documents.map Document.id ++ failing :: rest) session =
      (.error error, session.askAll (source.urls (documents.map Document.id ++ [failing]))) := by
  have herror := Source.fetch_eq_error_iff.2 hfails
  -- The failing job sets the flag, and with it ends what is asked for.
  have hwork : ∀ gathered, source.work
      ⟨false, gathered, session.askAll (source.urls (documents.map Document.id))⟩ failing =
        (some error, ⟨true, gathered,
          session.askAll (source.urls (documents.map Document.id ++ [failing]))⟩) := by
    intro gathered
    have hsession : session.askAll (source.urls (documents.map Document.id ++ [failing])) =
        (source.fetch failing
          (session.askAll (source.urls (documents.map Document.id)))).2 := by
      rw [Source.fetch_session, Source.urls, List.map_append, Session.askAll_append]
      rfl
    simp [Source.work, herror, hsession]
  rw [Source.fetchAll, Source.workAll_append, h.workAll Yield.zero]
  simp only [Source.workAll, hwork, Source.workAll_of_cancelled]
  simp [List.findSome?_append]

end Fetching

/-! ## Selection -/

/-- The cursor is loaded, the listing is downloaded, and the numbers are its candidates. -/
def Source.Selects (source : Source) (cursor : Option String) (session : Session)
    (ids : List Int) : Prop :=
  ∃ first listing, (loadCursor cursor source.baseline).1 = .ok first ∧
    (download source.baseUrl session).1 = .ok listing ∧
    candidates source.filePrefix first listing.text = .ok ids

section Selection

variable {source : Source} {cursor : Option String} {session : Session}

theorem Source.Selects.ascending {ids : List Int} (h : source.Selects cursor session ids) :
    ids.Pairwise (· < ·) := by
  obtain ⟨first, listing, -, -, hcandidates⟩ := h
  exact (selected_of_candidatesOf hcandidates).ascending

theorem Source.select_of_selects {ids : List Int} (h : source.Selects cursor session ids) :
    source.select cursor session = (.ok ids, session.askAll [source.baseUrl]) := by
  obtain ⟨first, listing, hcursor, hlisting, hcandidates⟩ := h
  rw [Source.select]
  simp [hcursor, hlisting, hcandidates, download_session, Except.mapError]

theorem Source.selects_of_select {ids : List Int}
    (h : (source.select cursor session).1 = .ok ids) : source.Selects cursor session ids := by
  rw [Source.select] at h
  split at h
  · exact absurd h (by simp)
  · next first hfirst =>
    dsimp only at h
    split at h
    · exact absurd h (by simp)
    · next listing hlisting =>
      cases hcandidates : candidates source.filePrefix first listing.text with
      | error error => simp [hcandidates, Except.mapError] at h
      | ok found =>
        rw [hcandidates] at h
        obtain rfl := Except.ok.inj h
        exact ⟨first, listing, hfirst, hlisting, hcandidates⟩

end Selection

/-! ## Updates -/

/-- An update holds what the documents of its candidates give, and the greatest of these numbers as
the new cursor. -/
structure Update.Gathers (update : Update) (source : Source) (documents : List Document) :
    Prop where
  candidates : update.candidates = documents.map Document.id
  ascending : update.candidates.Pairwise (· < ·)
  vulnerabilities : update.vulnerabilities = documents.flatMap (·.yield.vulnerabilities)
  advisories : update.advisoriesDecoded = (documents.map (·.yield.advisories)).sum
  discarded : update.possibilitiesDiscarded = (documents.map (·.yield.discarded)).sum
  /-- Without candidates there is no new cursor. -/
  noFlags : update.candidates = [] → update.flags = []
  flags : ∀ greatest ∈ update.candidates, (∀ id ∈ update.candidates, id ≤ greatest) →
    update.flags = [(source.cursorKey, some (showInt greatest))]

/-- What documents give together is made up of what each gives, whatever was gathered before. -/
theorem foldl_add_yield (documents : List Document) : ∀ gathered : Yield,
    documents.foldl (fun sum document => sum.add document.yield) gathered =
      ⟨gathered.vulnerabilities ++ documents.flatMap (·.yield.vulnerabilities),
        gathered.advisories + (documents.map (·.yield.advisories)).sum,
        gathered.discarded + (documents.map (·.yield.discarded)).sum⟩ := by
  induction documents with
  | nil => simp
  | cons document documents ih =>
    intro gathered
    rw [List.foldl_cons, ih]
    simp [Yield.add, Nat.add_assoc]

/-- In an ascending list the last number is the greatest. -/
theorem exists_greatest {ids : List Int} (h : ids.Pairwise (· < ·)) (hne : ids ≠ []) :
    ∃ last ∈ ids, ids.getLast? = some last ∧ ∀ id ∈ ids, id ≤ last := by
  obtain ⟨front, last, rfl⟩ : ∃ front last, ids = front ++ [last] :=
    ⟨ids.dropLast, ids.getLast hne, (List.dropLast_append_getLast hne).symm⟩
  refine ⟨last, by simp, List.getLast?_concat, ?_⟩
  intro id hid
  rcases List.mem_append.1 hid with hfront | hsame
  · exact Int.le_of_lt ((List.pairwise_append.1 h).2.2 id hfront last (by simp))
  · exact Int.le_of_eq (List.mem_singleton.1 hsame)

theorem flags_of_greatest (source : Source) {ids : List Int} (h : ids.Pairwise (· < ·))
    {greatest : Int} (hmem : greatest ∈ ids) (hle : ∀ id ∈ ids, id ≤ greatest) :
    source.flags ids = [(source.cursorKey, some (showInt greatest))] := by
  obtain ⟨last, hlast, hget, hbound⟩ := exists_greatest h (List.ne_nil_of_mem hmem)
  have hsame : greatest = last := Int.le_antisymm (hbound greatest hmem) (hle last hlast)
  rw [Source.flags, hget, hsame]

/-- Either there are no candidates and no flags, or the greatest candidate is the new cursor. -/
theorem Update.Gathers.flags_cases {update : Update} {source : Source} {documents : List Document}
    (h : update.Gathers source documents) :
    (update.candidates = [] ∧ update.flags = []) ∨
    ∃ greatest ∈ update.candidates, (∀ id ∈ update.candidates, id ≤ greatest) ∧
      update.flags = [(source.cursorKey, some (showInt greatest))] := by
  by_cases hnil : update.candidates = []
  · exact Or.inl ⟨hnil, h.noFlags hnil⟩
  · obtain ⟨greatest, hmem, -, hle⟩ := exists_greatest h.ascending hnil
    exact Or.inr ⟨greatest, hmem, hle, h.flags greatest hmem hle⟩

section Updates

variable {source : Source} {cursor : Option String} {session : Session}

/-- What the update over obtained documents holds, and where it leaves the session. -/
theorem Source.update_of_obtains {documents : List Document}
    (hselects : source.Selects cursor session (documents.map Document.id))
    (hobtains : source.Obtains (session.askAll [source.baseUrl]) documents) :
    ∃ update, source.update cursor session =
        (.ok update, session.askAll (source.baseUrl :: source.urls (documents.map Document.id))) ∧
      update.Gathers source documents := by
  rw [Source.update, Source.select_of_selects hselects]
  dsimp only
  rw [Source.fetchAll_of_obtains hobtains, foldl_add_yield]
  refine ⟨_, rfl, ⟨rfl, hselects.ascending, ?_, ?_, ?_, ?_, ?_⟩⟩
  · simp [Yield.zero]
  · simp [Yield.zero]
  · simp [Yield.zero]
  · intro hnil
    change source.flags (documents.map Document.id) = []
    change documents.map Document.id = [] at hnil
    rw [hnil]
    rfl
  · intro greatest hmem hle
    exact flags_of_greatest source hselects.ascending hmem hle

/-- The error that a failing document leaves, and where it leaves the session. -/
theorem Source.update_of_fails {documents : List Document} {failing : Int} {rest : List Int}
    {error : UpdateError}
    (hselects : source.Selects cursor session (documents.map Document.id ++ failing :: rest))
    (hobtains : source.Obtains (session.askAll [source.baseUrl]) documents)
    (hfails : source.Fails
      (session.askAll (source.baseUrl :: source.urls (documents.map Document.id))) failing error) :
    source.update cursor session = (.error error, session.askAll
      (source.baseUrl :: source.urls (documents.map Document.id ++ [failing]))) := by
  rw [Source.update, Source.select_of_selects hselects]
  dsimp only
  rw [Source.fetchAll_of_fails hobtains hfails]
  rfl

/-- An update that is given is one over obtained documents. -/
theorem Source.gathers_of_update {update : Update}
    (h : (source.update cursor session).1 = .ok update) :
    ∃ documents, source.Selects cursor session (documents.map Document.id) ∧
      source.Obtains (session.askAll [source.baseUrl]) documents ∧ update.Gathers source documents ∧
      source.update cursor session = (.ok update,
        session.askAll (source.baseUrl :: source.urls (documents.map Document.id))) := by
  cases hselect : (source.select cursor session).1 with
  | error error =>
    rw [Source.update] at h
    simp [hselect] at h
  | ok ids =>
    have hselects := Source.selects_of_select hselect
    rcases source.obtains_or_fails ids (session.askAll [source.baseUrl]) with
      ⟨documents, rfl, hobtains⟩ | ⟨documents, failing, rest, error, rfl, hobtains, hfails⟩
    · obtain ⟨found, hfound, hgathers⟩ := Source.update_of_obtains hselects hobtains
      obtain rfl : found = update := by
        rw [hfound] at h
        exact Except.ok.inj h
      exact ⟨documents, hselects, hobtains, hgathers, hfound⟩
    · rw [Source.update_of_fails hselects hobtains hfails] at h
      exact absurd h (by simp)

end Updates

/-- From one session to another the client was asked for URLs one after the other, and for nothing
else; the calls that it sent fall into a block for each URL. -/
def Asked (session : Session) (urls : List String) (last : Session) : Prop :=
  last = session.askAll urls ∧ ∃ blocks : List (List Call),
    last.network.calls = session.network.calls ++ blocks.flatten ∧
    List.Forall₂ (fun url block => ∀ call ∈ block, call.url = url) urls blocks

theorem asked_askAll (session : Session) (urls : List String) :
    Asked session urls (session.askAll urls) :=
  ⟨rfl, session.calls_askAll urls⟩

/-- The updater after a batch: the client is where its session ended, and the stage is set. -/
def Updater.left (updater : Updater) (source : Source) (last : Session) (stage : Stage) : Updater :=
  { updater with origin := .source source last.client, stage := stage }

/-- An updater gives an update exactly when the cursor is loaded, the listing is downloaded, its
candidates are found, and every document of them is downloaded and processed. The update then holds
what each document gives on its own, in ascending order of the candidates. When a document fails,
its error leaves the updater, which has failed, and the client was asked for the listing and for the
documents up to this one, and for nothing else. -/
theorem Updater.update_all_or_nothing (updater : Updater) (source : Source) (client : Client)
    (cursor : Option String) (network : Network) :
    let session : Session := ⟨client, network⟩
    let listed := session.askAll [source.baseUrl]
    let asking : Updater := { updater with origin := .source source client }
    let updated := asking.update cursor network
    ((∃ update, updated.1 = .ok update) ↔
      ∃ documents, source.Selects cursor session (documents.map Document.id) ∧
        source.Obtains listed documents) ∧
    (∀ update, updated.1 = .ok update →
      ∃ documents last, source.Selects cursor session (documents.map Document.id) ∧
        source.Obtains listed documents ∧ update.Gathers source documents ∧
        Asked session (source.baseUrl :: source.urls (documents.map Document.id)) last ∧
        updated.2 = (updater.left source last .done, last.network)) ∧
    ∀ documents failing rest error,
      source.Selects cursor session (documents.map Document.id ++ failing :: rest) →
      source.Obtains listed documents →
      source.Fails (listed.askAll (source.urls (documents.map Document.id))) failing error →
      updated.1 = .error error ∧ (documents.map Document.id ++ failing :: rest).Pairwise (· < ·) ∧
      ∃ last, Asked session
          (source.baseUrl :: source.urls (documents.map Document.id ++ [failing])) last ∧
        updated.2 = (updater.left source last .failed, last.network) := by
  intro session listed asking updated
  have hresult : updated.1 = (source.update cursor session).1 := rfl
  refine ⟨⟨?_, ?_⟩, ?_, ?_⟩
  · rintro ⟨update, hupdate⟩
    rw [hresult] at hupdate
    obtain ⟨documents, hselects, hobtains, -, -⟩ := Source.gathers_of_update hupdate
    exact ⟨documents, hselects, hobtains⟩
  · rintro ⟨documents, hselects, hobtains⟩
    obtain ⟨update, hupdate, -⟩ := Source.update_of_obtains hselects hobtains
    exact ⟨update, by rw [hresult, hupdate]⟩
  · intro update hupdate
    rw [hresult] at hupdate
    obtain ⟨documents, hselects, hobtains, hgathers, hwhole⟩ := Source.gathers_of_update hupdate
    refine ⟨documents, _, hselects, hobtains, hgathers, asked_askAll session _, ?_⟩
    simp only [updated, asking, Updater.update, Updater.left]
    rw [show source.update cursor ⟨client, network⟩ = _ from hwhole]
  · intro documents failing rest error hselects hobtains hfails
    have hupdate := Source.update_of_fails hselects hobtains hfails
    refine ⟨by rw [hresult, hupdate], hselects.ascending, _, asked_askAll session _, ?_⟩
    simp only [updated, asking, Updater.update, Updater.left]
    rw [show source.update cursor ⟨client, network⟩ = _ from hupdate]

end AdvisoryFeed.Ingest
