import AdvisoryFeed.Proofs.Store.CommittedRows

/-!
# Updaters and the rows of others

Rows of vulnerabilities are erased by their ids, whichever updater they are of. An id is the digest
of a text that joins the updater and the name by a colon, and colons in either are left as they are.
So, as far as digests tell texts apart (`NoCollision`), a commit keeps the rows of another updater
exactly when none of its records has the text of one of them (`Commit.keepsRowsOf_put_iff_texts`).

Two updaters can have a text in common exactly when the id of one goes on from that of the other
behind a colon (`Continues`), for then the name may hold the rest. Where neither does, no commit of
one changes rows of the other, after whatever commits; where one does, some commit loses a row of
the other (`isolated_iff`).
-/

namespace AdvisoryFeed.Store

open AdvisoryFeed.Ingest

/-! ## Texts of ids -/

/-- The text of which an id is the digest. -/
def idText (updater name : Option String) : String :=
  updater.getD absentName ++ ":" ++ name.getD absentName

/-- The digits of a digest that make an id. -/
def shortDigest (text : String) : String :=
  String.ofList ((hexText (Digest.md5 text.toUTF8.toList)).take 16)

/-- The text of which the id of a record is the digest. -/
def Record.text (record : Record) : String :=
  idText record.updater record.vulnerability.name

theorem Record.id_eq (record : Record) : record.id = shortDigest record.text := rfl

/-- The texts of which commits take digests. -/
def textsOf (commits : List Commit) : List String :=
  (commits.flatMap Commit.records).map Record.text

/-- No two different texts that the commits take digests of have the same digest. -/
def NoCollision (commits : List Commit) : Prop :=
  ∀ text ∈ textsOf commits, ∀ other ∈ textsOf commits,
    shortDigest text = shortDigest other → text = other

instance (commits : List Commit) : Decidable (NoCollision commits) :=
  inferInstanceAs (Decidable (∀ text ∈ textsOf commits, ∀ other ∈ textsOf commits,
    shortDigest text = shortDigest other → text = other))

/-- The id of an updater goes on from that of another one behind a colon. -/
def Continues (u w : String) : Prop :=
  u.toList ++ [':'] <+: w.toList

instance (u w : String) : Decidable (Continues u w) :=
  inferInstanceAs (Decidable (u.toList ++ [':'] <+: w.toList))

theorem toList_idText (updater : String) (name : Option String) :
    (idText (some updater) name).toList =
      (updater.toList ++ [':']) ++ (name.getD absentName).toList := by
  simp [idText]

theorem continues_of_isPrefix {u w : String} (hne : u ≠ w)
    (h : u.toList ++ [':'] <+: w.toList ++ [':']) : Continues u w := by
  rcases List.prefix_concat_iff.1 h with heq | hprefix
  · exact absurd (String.toList_injective (List.append_cancel_right heq)) hne
  · exact hprefix

/-- Different updaters have a text in common only when the id of one goes on from the other. -/
theorem continues_of_idText_eq {u w : String} (hne : u ≠ w) {name other : Option String}
    (h : idText (some u) name = idText (some w) other) : Continues u w ∨ Continues w u := by
  have htexts := congrArg String.toList h
  rw [toList_idText, toList_idText] at htexts
  -- Both ids, with the colon behind them, begin one text, so one of them begins the other.
  have hfirst : u.toList ++ [':'] <+: (u.toList ++ [':']) ++ (name.getD absentName).toList :=
    List.prefix_append _ _
  have hsecond : w.toList ++ [':'] <+: (u.toList ++ [':']) ++ (name.getD absentName).toList := by
    rw [htexts]
    exact List.prefix_append _ _
  rcases List.prefix_or_prefix_of_prefix hfirst hsecond with hprefix | hprefix
  · exact Or.inl (continues_of_isPrefix hne hprefix)
  · exact Or.inr (continues_of_isPrefix hne.symm hprefix)

/-- The name takes the rest of the longer id, and the colon behind it. -/
theorem exists_idText_eq {u w : String} (h : Continues u w) :
    ∃ name : String, idText (some u) (some name) = idText (some w) (some "") := by
  obtain ⟨rest, hrest⟩ := h
  refine ⟨String.ofList (rest ++ [':']), String.toList_injective ?_⟩
  rw [toList_idText, toList_idText, ← hrest]
  simp

theorem exists_idText_eq_of_or {u w : String} (h : Continues u w ∨ Continues w u) :
    ∃ name other : String, idText (some u) (some name) = idText (some w) (some other) := by
  rcases h with h | h
  · obtain ⟨name, heq⟩ := exists_idText_eq h
    exact ⟨name, "", heq⟩
  · obtain ⟨name, heq⟩ := exists_idText_eq h
    exact ⟨"", name, heq.symm⟩

/-! ## Rows of an updater -/

/-- The vulnerabilities of an updater. -/
def Tables.rowsOf (tables : Tables) (updater : String) : List VulnerabilityRow :=
  tables.vulnerabilities.filter (·.updater == updater)

/-- The packages of the vulnerabilities of an updater. -/
def Tables.packagesOf (tables : Tables) (updater : String) : List AffectedRow :=
  tables.affected.filter fun package => (tables.rowsOf updater).any (·.id == package.id)

/-- The vulnerabilities of an updater and their packages are what they were before. -/
structure Tables.KeepsRowsOf (before : Tables) (updater : String) (after : Tables) : Prop where
  vulnerabilities : after.rowsOf updater = before.rowsOf updater
  packages : after.packagesOf updater = before.packagesOf updater

theorem Tables.keepsRowsOf_refl (tables : Tables) (updater : String) :
    tables.KeepsRowsOf updater tables :=
  ⟨rfl, rfl⟩

section Commit

variable {c : Commit} {u w : String} (hupdater : c.updater = some u) (hne : u ≠ w)
  {before : Tables}

include hupdater hne

theorem Commit.updater_ne_of_mem_rows {row : VulnerabilityRow}
    (h : row ∈ c.records.filterMap Record.row?) : (row.updater == w) = false := by
  obtain ⟨v, -, hcolumns⟩ := Commit.mem_rows_iff.1 h
  simp only [VulnerabilityRow.columns, Record.columns, List.cons.injEq] at hcolumns
  rw [hupdater] at hcolumns
  rw [Option.some.inj hcolumns.2.1]
  exact beq_false_of_ne hne

/-- A commit keeps the rows of another updater when it has no record with the id of one. -/
theorem Commit.keepsRowsOf_put
    (hapart : ∀ row ∈ before.rowsOf w, ∀ record ∈ c.records, row.id ≠ record.id) :
    before.KeepsRowsOf w (c.put before) := by
  have hids : ∀ row ∈ c.records.filterMap Record.row?, ∃ record ∈ c.records,
      row.id = record.id := by
    intro row hrow
    obtain ⟨v, hv, hcolumns⟩ := Commit.mem_rows_iff.1 hrow
    simp only [VulnerabilityRow.columns, Record.columns, List.cons.injEq, Option.some.injEq]
      at hcolumns
    exact ⟨_, List.mem_map_of_mem hv, hcolumns.1⟩
  have hpackageIds : ∀ row ∈ (c.records.flatMap Record.listed).filterMap Listed.row?,
      ∃ record ∈ c.records, row.id = record.id := by
    intro row hrow
    obtain ⟨v, hv, package, -, hcolumns⟩ := Commit.mem_packageRows_iff.1 hrow
    simp only [AffectedRow.columns, Listed.columns, List.cons.injEq, Option.some.injEq]
      at hcolumns
    exact ⟨_, List.mem_map_of_mem hv, hcolumns.1⟩
  have hrows : (c.put before).rowsOf w = before.rowsOf w := by
    refine filter_foldl_replaceBy ?_ fun row hrow => Commit.updater_ne_of_mem_rows hupdater hne hrow
    intro row hrow hof hid
    obtain ⟨new, hnew, heq⟩ := List.mem_map.1 hid
    obtain ⟨record, hrecord, hrecordId⟩ := hids new hnew
    exact hapart row (List.mem_filter.2 ⟨hrow, hof⟩) record hrecord (heq.symm.trans hrecordId)
  -- A package that the commit writes is of one of its records, and so of none of these rows.
  have hpackages : ∀ package : AffectedRow, (before.rowsOf w).any (·.id == package.id) = true →
      ∀ record ∈ c.records, package.id ≠ record.id := by
    intro package hof record hrecord hid
    obtain ⟨row, hrow, heq⟩ := List.any_eq_true.1 hof
    exact hapart row hrow record hrecord ((beq_iff_eq.1 heq).trans hid)
  refine ⟨hrows, ?_⟩
  rw [Tables.packagesOf, Tables.packagesOf, hrows]
  apply filter_foldl_replaceBy
  · intro package _ hof hkey
    obtain ⟨new, hnew, heq⟩ := List.mem_map.1 hkey
    obtain ⟨record, hrecord, hrecordId⟩ := hpackageIds new hnew
    exact hpackages package hof record hrecord ((congrArg Prod.fst heq).symm.trans hrecordId)
  · intro package hpackage
    obtain ⟨record, hrecord, hrecordId⟩ := hpackageIds package hpackage
    rw [Bool.eq_false_iff]
    intro hof
    exact hpackages package hof record hrecord hrecordId

/-- A row with the id of a record is lost. -/
theorem Commit.not_keepsRowsOf_put (hcomplete : IsComplete c.updater c.update)
    {row : VulnerabilityRow} (hrow : row ∈ before.rowsOf w) {record : Record}
    (hrecord : record ∈ c.records) (hid : row.id = record.id) :
    ¬ before.KeepsRowsOf w (c.put before) := by
  intro hkeeps
  obtain ⟨v, hv, rfl⟩ := List.mem_map.1 hrecord
  obtain ⟨name, hname⟩ := Option.ne_none_iff_exists'.1 (hcomplete.names v hv)
  have hnew : (⟨row.id, u, name, v.link, some v.severity.name, v.description, c.run⟩ :
      VulnerabilityRow) ∈ c.records.filterMap Record.row? := by
    refine Commit.mem_rows_iff.2 ⟨v, hv, ?_⟩
    simp [VulnerabilityRow.columns, Record.columns, hid, hupdater, hname]
  have hkept : row ∈ (c.put before).rowsOf w := by
    rw [hkeeps.vulnerabilities]
    exact hrow
  obtain ⟨hmem, hof⟩ := List.mem_filter.1 hkept
  -- What is left after the commit has another id, or is one of its own rows.
  rw [Commit.vulnerabilities_put, foldl_replaceBy, List.mem_append, List.mem_filter] at hmem
  rcases hmem with ⟨-, hother⟩ | hown
  · have hmissing : row.id ∉ (c.records.filterMap Record.row?).map VulnerabilityRow.id := by
      simpa using hother
    exact hmissing (List.mem_map.2 ⟨_, hnew, rfl⟩)
  · have hmine := Commit.updater_ne_of_mem_rows hupdater hne (mem_replaceAll_iff.1 hown).mem
    rw [hof] at hmine
    exact absurd hmine (by simp)

/-- A commit that succeeds keeps the rows of another updater exactly when it has no record with the
id of one. -/
theorem Commit.keepsRowsOf_put_iff (hcomplete : IsComplete c.updater c.update) :
    before.KeepsRowsOf w (c.put before) ↔
      ∀ row ∈ before.rowsOf w, ∀ record ∈ c.records, row.id ≠ record.id :=
  ⟨fun hkeeps _ hrow _ hrecord hid =>
      Commit.not_keepsRowsOf_put hupdater hne hcomplete hrow hrecord hid hkeeps,
    Commit.keepsRowsOf_put hupdater hne⟩

end Commit

/-! ## Rows and their texts -/

/-- After any commits to empty tables, the id of each row is the digest of its updater and its name,
and of this text one of the commits has taken it. -/
theorem text_of_commitAll {commits : List Commit} {tables : Tables}
    (h : commitAll commits (some Tables.empty) = some tables) :
    ∀ row ∈ tables.vulnerabilities,
      row.id = shortDigest (idText (some row.updater) (some row.name)) ∧
      idText (some row.updater) (some row.name) ∈ textsOf commits := by
  intro row hrow
  obtain ⟨record, hrecord, hcolumns⟩ := exists_record_of_commitAll h row hrow
  simp only [VulnerabilityRow.columns, Record.columns, List.cons.injEq, Option.some.injEq]
    at hcolumns
  obtain ⟨hid, hupdater, hname, -⟩ := hcolumns
  have htext : record.text = idText (some row.updater) (some row.name) := by
    rw [Record.text, hupdater, hname]
  rw [hid, Record.id_eq, htext]
  exact ⟨rfl, List.mem_map.2 ⟨record, hrecord, htext⟩⟩

theorem textsOf_append (commits : List Commit) (c : Commit) :
    textsOf (commits ++ [c]) = textsOf commits ++ c.records.map Record.text := by
  simp [textsOf]

/-- After any commits to empty tables, a commit that succeeds keeps the rows of another updater
exactly when it has no record with the text of one. -/
theorem Commit.keepsRowsOf_put_iff_texts {commits : List Commit} {c : Commit} {u w : String}
    {before : Tables} (hupdater : c.updater = some u) (hne : u ≠ w)
    (hcomplete : IsComplete c.updater c.update) (hclear : NoCollision (commits ++ [c]))
    (hbefore : commitAll commits (some Tables.empty) = some before) :
    before.KeepsRowsOf w (c.put before) ↔ ∀ row ∈ before.rowsOf w,
      idText (some w) (some row.name) ∉ c.records.map Record.text := by
  rw [Commit.keepsRowsOf_put_iff hupdater hne hcomplete]
  refine forall₂_congr fun row hrow => ?_
  obtain ⟨hmem, hof⟩ := List.mem_filter.1 hrow
  obtain ⟨hrowId, htext⟩ := text_of_commitAll hbefore row hmem
  rw [beq_iff_eq.1 hof] at hrowId htext
  rw [NoCollision, textsOf_append] at hclear
  -- One text always gives one id; that one id comes from one text is what digests must not spoil.
  constructor
  · intro hapart hshared
    obtain ⟨record, hrecord, heq⟩ := List.mem_map.1 hshared
    refine hapart record hrecord ?_
    rw [hrowId, Record.id_eq, heq]
  · intro hapart record hrecord hid
    have hshared : record.text ∈ c.records.map Record.text := List.mem_map_of_mem hrecord
    rw [hrowId, Record.id_eq] at hid
    rw [hclear _ (List.mem_append_left _ htext) _ (List.mem_append_right _ hshared) hid] at hapart
    exact hapart hshared

/-! ## One text for two updaters -/

/-- A commit of a vulnerability that has nothing but a name. -/
def naming (updater name : String) : Commit :=
  ⟨some updater, { Update.empty with vulnerabilities := [⟨some name, none, .unknown, none, []⟩] },
    none⟩

theorem naming_isComplete (updater name : String) :
    IsComplete (naming updater name).updater (naming updater name).update := by
  rw [← gaps_eq_nil_iff]
  rfl

theorem naming_apply (updater name : String) (tables : Tables) :
    (naming updater name).apply (some tables) =
      (.ok 1, some ((naming updater name).put tables)) :=
  Commit.apply_eq_ok_iff.2 ⟨naming_isComplete updater name, rfl, rfl⟩

theorem rowsOf_naming (updater name : String) :
    ((naming updater name).put Tables.empty).rowsOf updater =
      [⟨shortDigest (idText (some updater) (some name)), updater, name, none,
        some Severity.unknown.name, none, none⟩] := by
  have hall : ∀ row ∈ ((naming updater name).put Tables.empty).vulnerabilities,
      (row.updater == updater) = true := by
    intro row hrow
    rw [List.mem_singleton.1 hrow]
    exact beq_self_eq_true updater
  exact List.filter_eq_self.2 hall

/-- Whatever commits have reached empty tables: as far as digests tell texts apart, no commit of an
updater changes the vulnerabilities of another one, or their packages, if and only if the id of
neither goes on from that of the other behind a colon. -/
theorem isolated_iff {u w : String} (hne : u ≠ w) :
    (∀ (commits : List Commit) (c : Commit) (before : Tables), c.updater = some u →
      NoCollision (commits ++ [c]) → commitAll commits (some Tables.empty) = some before →
      ∃ after, (c.apply (some before)).2 = some after ∧ before.KeepsRowsOf w after) ↔
    ¬ Continues u w ∧ ¬ Continues w u := by
  rw [← not_or]
  constructor
  · intro hkeeps hor
    obtain ⟨name, other, htexts⟩ := exists_idText_eq_of_or hor
    -- Both commits take the digest of one text, so there are no two that could collide.
    have hall : ∀ text ∈ textsOf ([naming w other] ++ [naming u name]),
        text = idText (some w) (some other) := by
      intro text htext
      rcases List.mem_cons.1 htext with rfl | htext
      · rfl
      · exact (List.mem_singleton.1 htext).trans htexts
    have hclear : NoCollision ([naming w other] ++ [naming u name]) := by
      intro text htext another hanother _
      rw [hall text htext, hall another hanother]
    have hbefore : commitAll [naming w other] (some Tables.empty) =
        some ((naming w other).put Tables.empty) := by
      rw [commitAll, naming_apply, commitAll]
    obtain ⟨after, hafter, hkept⟩ := hkeeps _ (naming u name) _ rfl hclear hbefore
    rw [naming_apply] at hafter
    obtain rfl := Option.some.inj hafter
    rw [Commit.keepsRowsOf_put_iff_texts rfl hne (naming_isComplete u name) hclear hbefore,
      rowsOf_naming] at hkept
    exact hkept _ (List.mem_singleton_self _) (List.mem_singleton.2 htexts.symm)
  · intro hapart commits c before hupdater hclear hbefore
    rcases c.apply_some before with ⟨after, hcommit, -, hafter⟩ | ⟨-, hafter⟩
    · refine ⟨after, hafter, ?_⟩
      rw [Commit.put_of_commit hcommit, Commit.keepsRowsOf_put_iff_texts hupdater hne
        (isComplete_of_commit hcommit) hclear hbefore]
      intro row _ hshared
      obtain ⟨record, hrecord, htexts⟩ := List.mem_map.1 hshared
      obtain ⟨v, -, rfl⟩ := List.mem_map.1 hrecord
      change idText c.updater v.name = _ at htexts
      rw [hupdater] at htexts
      exact hapart (continues_of_idText_eq hne htexts)
    · exact ⟨before, hafter, before.keepsRowsOf_refl w⟩

/-! ## Ids with a colon -/

/-- A commit of a vulnerability with one package. -/
def packagedCommit (updater name fixedIn : String) : Commit where
  updater := some updater
  update :=
    { Update.empty with
      vulnerabilities := [⟨some name, some "l", .high, some "d",
        [⟨some "oracle:7", some "bash", fixedIn, rpmFormat, binaryKind, vulnerableMark⟩]⟩] }
  run := some "r"

/-- The names of the vulnerabilities of an updater, and the versions that mend their packages. -/
def Tables.shownOf (tables : Tables) (updater : String) : List String × List (Option String) :=
  ((tables.rowsOf updater).map VulnerabilityRow.name,
    (tables.packagesOf updater).map AffectedRow.fixedIn)

/-- Colons in names do no harm as long as no id goes on behind one. -/
theorem isolated_packagedCommit :
    let commits := [packagedCommit "suse" "7:ELSA-1" "1", packagedCommit "oracle" "ELSA-1" "2"]
    let c := packagedCommit "oracle" "7:ELSA-1" "3"
    ("oracle" ≠ "suse" ∧ NoCollision (commits ++ [c])) ∧
      ∃ before after, commitAll commits (some Tables.empty) = some before ∧
        (c.apply (some before)).2 = some after ∧
        before.shownOf "suse" = (["7:ELSA-1"], [some "1"]) ∧ before.KeepsRowsOf "suse" after := by
  intro commits c
  have hne : "oracle" ≠ "suse" := by decide
  have hclear : NoCollision (commits ++ [c]) := by decide +kernel
  have hshown : (commitAll commits (some Tables.empty)).map (Tables.shownOf · "suse") =
      some (["7:ELSA-1"], [some "1"]) := by decide +kernel
  obtain ⟨before, hbefore, hof⟩ := Option.map_eq_some_iff.1 hshown
  obtain ⟨after, hafter, hkept⟩ := (isolated_iff hne).2 ⟨by decide, by decide⟩ commits c before rfl
    hclear hbefore
  exact ⟨⟨hne, hclear⟩, before, after, hbefore, hafter, hof, hkept⟩

/-- The id of the first updater goes on behind a colon, and the name of the second has the rest: the
row of the first is lost, and its package with it, though no two digests collide. -/
theorem not_isolated_packagedCommit :
    let commits := [packagedCommit "oracle:7" "ELSA-1" "1"]
    let c := packagedCommit "oracle" "7:ELSA-1" "2"
    NoCollision (commits ++ [c]) ∧
      ∃ before after, commitAll commits (some Tables.empty) = some before ∧
        (c.apply (some before)).2 = some after ∧
        before.shownOf "oracle:7" = (["ELSA-1"], [some "1"]) ∧
        after.shownOf "oracle:7" = ([], []) ∧ ¬ before.KeepsRowsOf "oracle:7" after := by
  intro commits c
  have hclear : NoCollision (commits ++ [c]) := by decide +kernel
  have hshown : (commitAll commits (some Tables.empty)).map (Tables.shownOf · "oracle:7") =
      some (["ELSA-1"], [some "1"]) := by decide +kernel
  have hlost : (commitAll (commits ++ [c]) (some Tables.empty)).map
      (Tables.shownOf · "oracle:7") = some ([], []) := by decide +kernel
  obtain ⟨before, hbefore, hof⟩ := Option.map_eq_some_iff.1 hshown
  obtain ⟨after, hafter, hnone⟩ := Option.map_eq_some_iff.1 hlost
  have hstep : (c.apply (some before)).2 = some after := by
    change (c.apply (commitAll commits (some Tables.empty))).2 = some after at hafter
    rwa [hbefore] at hafter
  refine ⟨hclear, before, after, hbefore, hstep, hof, hnone, ?_⟩
  intro hkeeps
  rw [Tables.shownOf, hkeeps.vulnerabilities, hkeeps.packages, ← Tables.shownOf, hof] at hnone
  exact absurd hnone (by decide)

end AdvisoryFeed.Store
