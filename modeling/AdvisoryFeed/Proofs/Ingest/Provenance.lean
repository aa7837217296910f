import AdvisoryFeed.Proofs.Ingest.AllOrNothing

/-!
# Where records come from

A source builds records from the advisories of its documents (`Source.Builds`), and all records of
the updates that it gives are built so (`Source.Gives.builds`). The records of an advisory share the
packages that were extracted from its condition; without packages there are no records, so a record
that a source builds affects some package (`Source.Builds.affected_ne_nil`).
-/

namespace AdvisoryFeed

/-- The records of an advisory affect the packages that were extracted, of which there are some. -/
theorem Advisory.affected_of_mem_vulnerabilities {advisory : Advisory} {affected : List Package}
    {source : Option String} {vulnerability : Vulnerability}
    (h : vulnerability ∈ (advisory.vulnerabilities affected source).1) :
    vulnerability.affected = affected ∧ affected ≠ [] := by
  unfold Advisory.vulnerabilities at h
  cases affected with
  | nil => simp at h
  | cons package packages =>
    refine ⟨?_, by simp⟩
    rw [if_neg (by simp)] at h
    dsimp only at h
    split at h
    · -- An advisory that lists nothing is the only record itself.
      obtain rfl := List.mem_singleton.1 h
      rfl
    · obtain ⟨built, hbuilt, rfl⟩ := List.mem_map.1 h
      obtain ⟨cve, -, rfl⟩ := List.mem_map.1 hbuilt
      rfl

end AdvisoryFeed

namespace AdvisoryFeed.Ingest

open AdvisoryFeed.Http

section Records

variable {source : Source}

/-- The advisories of a document give their records in order. -/
theorem Source.vulnerabilities_yieldOfAll (advisories : List Advisory) :
    (source.yieldOfAll advisories).1.vulnerabilities =
      advisories.flatMap fun advisory => (source.yieldOf advisory).1.vulnerabilities := by
  -- The sum so far varies in the induction, because each advisory adds to it.
  suffices h : ∀ gathered : Yield × List Notice,
      (advisories.foldl (fun acc advisory =>
        let next := source.yieldOf advisory
        (acc.1.add next.1, acc.2 ++ next.2)) gathered).1.vulnerabilities =
      gathered.1.vulnerabilities ++
        advisories.flatMap fun advisory => (source.yieldOf advisory).1.vulnerabilities from
    h (Yield.zero, [])
  induction advisories with
  | nil =>
    intro gathered
    simp
  | cons advisory advisories ih =>
    intro gathered
    rw [List.foldl_cons, ih]
    simp [Yield.add]

/-- The record is one of an advisory that stands in a document. -/
def Source.Builds (source : Source) (vulnerability : Vulnerability) : Prop :=
  ∃ (bytes : List UInt8) (advisories : List Advisory) (advisory : Advisory),
    readAdvisories bytes = .ok advisories ∧ advisory ∈ advisories ∧
      vulnerability ∈ (source.yieldOf advisory).1.vulnerabilities

theorem Source.builds_of_mem_process {bytes : List UInt8} {yield : Yield}
    (h : (source.process bytes).1 = .ok yield) {vulnerability : Vulnerability}
    (hmem : vulnerability ∈ yield.vulnerabilities) : source.Builds vulnerability := by
  rw [Source.process] at h
  cases hread : readAdvisories bytes with
  | error error =>
    rw [hread] at h
    exact absurd h (by simp)
  | ok advisories =>
    rw [hread] at h
    obtain rfl := Except.ok.inj h
    rw [Source.vulnerabilities_yieldOfAll, List.mem_flatMap] at hmem
    obtain ⟨advisory, hadvisory, hrecord⟩ := hmem
    exact ⟨bytes, advisories, advisory, hread, hadvisory, hrecord⟩

/-- What is obtained is what the documents give when they are processed. -/
theorem Source.Obtains.process_of_mem {session : Session} {documents : List Document}
    (h : source.Obtains session documents) :
    ∀ document ∈ documents, (source.process document.response.body).1 = .ok document.yield := by
  induction h with
  | nil session =>
    intro document hmem
    exact absurd hmem List.not_mem_nil
  | cons _ hprocess _ ih =>
    intro document hmem
    rcases List.mem_cons.1 hmem with rfl | hrest
    · exact hprocess
    · exact ih document hrest

/-- The records of an update are built from advisories. -/
theorem Source.builds_of_mem_update {cursor : Option String} {session : Session} {update : Update}
    (h : (source.update cursor session).1 = .ok update) {vulnerability : Vulnerability}
    (hmem : vulnerability ∈ update.vulnerabilities) : source.Builds vulnerability := by
  obtain ⟨documents, -, hobtains, hgathers, -⟩ := Source.gathers_of_update h
  rw [hgathers.vulnerabilities, List.mem_flatMap] at hmem
  obtain ⟨document, hdocument, hrecord⟩ := hmem
  exact Source.builds_of_mem_process (hobtains.process_of_mem document hdocument) hrecord

/-- The source has given the update for some cursor in some session. Documents that are fetched at
the same time come in any order, and their records with them. -/
def Source.Gives (source : Source) (update : Update) : Prop :=
  ∃ (cursor : Option String) (session : Session) (given : Update),
    (source.update cursor session).1 = .ok given ∧
      update.vulnerabilities.Perm given.vulnerabilities ∧ update.flags = given.flags

/-- The records of an update that a source gives are built from advisories. -/
theorem Source.Gives.builds {update : Update} (h : source.Gives update)
    {vulnerability : Vulnerability} (hmem : vulnerability ∈ update.vulnerabilities) :
    source.Builds vulnerability := by
  obtain ⟨cursor, session, given, hgiven, horder, -⟩ := h
  exact Source.builds_of_mem_update hgiven (horder.mem_iff.1 hmem)

/-- A record without packages is never built. -/
theorem Source.Builds.affected_ne_nil {vulnerability : Vulnerability}
    (h : source.Builds vulnerability) : vulnerability.affected ≠ [] := by
  obtain ⟨bytes, advisories, advisory, -, -, hrecord⟩ := h
  obtain ⟨haffected, hne⟩ := Advisory.affected_of_mem_vulnerabilities hrecord
  rw [haffected]
  exact hne

end Records

end AdvisoryFeed.Ingest
