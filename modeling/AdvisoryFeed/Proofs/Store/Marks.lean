import AdvisoryFeed.Proofs.Keyed
import AdvisoryFeed.Proofs.Store.LastWriter

/-!
# Rows of a run

Rows of vulnerabilities and of packages name the run that has written them. When no row names a run
yet, those that name it afterwards are the rows under the keys that were written in it, and each of
these keys stands on one row (`Carried`). The rows of values name no run; of each key that was set
there is one row, and it has the value that was set last (`Marks`). A replaced row loses the run
that it named, so every statement of the run keeps this (`kept_marks`), and with the statements a
commit does.
-/

namespace AdvisoryFeed.Store

/-! ## Rows that carry a run -/

/-- The rows that carry the run are those with one of the keys, and there is one for each key. -/
structure Carried {α κ : Type} [BEq κ] (key : α → κ) (mark : α → Option String) (run : String)
    (keys : List κ) (rows : List α) : Prop where
  mark_iff : ∀ row ∈ rows, mark row = some run ↔ key row ∈ keys
  once : ∀ k ∈ keys, ∃ row, rows.filter (fun other => key other == k) = [row]

theorem carried_nil {α κ : Type} [BEq κ] {key : α → κ} {mark : α → Option String} {run : String}
    {rows : List α} (h : ∀ row ∈ rows, mark row ≠ some run) : Carried key mark run [] rows where
  mark_iff := by
    intro row hrow
    exact iff_of_false (h row hrow) List.not_mem_nil
  once := by
    intro k hk
    exact absurd hk List.not_mem_nil

/-! ## Replaced rows -/

section Replacement

variable {α κ : Type} [BEq κ] [LawfulBEq κ] {key : α → κ}

/-- Under its key the new row is alone, and under every other key the rows stay. -/
theorem filter_replaceBy (rows : List α) (row : α) (k : κ) :
    (replaceBy key rows row).filter (fun other => key other == k) =
      if key row == k then [row] else rows.filter fun other => key other == k := by
  rw [replaceBy, List.filter_append, List.filter_filter]
  by_cases h : key row = k
  · subst h
    have hnone : rows.filter (fun other => (key other == key row) && (key other != key row)) =
        [] := by
      rw [List.filter_eq_nil_iff]
      simp
    rw [hnone]
    simp
  · have hlast : [row].filter (fun other => key other == k) = [] := by simp [h]
    rw [hlast, List.append_nil, if_neg (by simpa using h)]
    apply List.filter_congr
    intro other _
    by_cases hother : key other = k
    · simp [hother, Ne.symm h]
    · simp [hother]

/-- Keys that tell the same rows apart replace the same rows. -/
theorem replaceBy_of_injective {κ' : Type} [BEq κ'] [LawfulBEq κ'] {f : κ → κ'}
    (hf : Function.Injective f) (rows : List α) (row : α) :
    replaceBy (fun other => f (key other)) rows row = replaceBy key rows row := by
  rw [replaceBy, replaceBy]
  congr 2
  funext other
  rw [Bool.eq_iff_iff, bne_iff_ne, bne_iff_ne, hf.ne_iff]

variable {mark : α → Option String} {run : String} {keys : List κ} {rows : List α}

/-- A row that is written in the run adds its key. -/
theorem Carried.replaceBy (h : Carried key mark run keys rows) {row : α}
    (hrow : mark row = some run) :
    Carried key mark run (keys ++ [key row]) (replaceBy key rows row) where
  mark_iff := by
    intro other hother
    -- The rows that stay have other keys than the new row, so its key tells nothing about them.
    rcases List.mem_append.1 hother with hother | hother
    · obtain ⟨hold, hne⟩ := List.mem_filter.1 hother
      rw [h.mark_iff other hold, List.mem_append, List.mem_singleton]
      exact (or_iff_left (bne_iff_ne.1 hne)).symm
    · rw [List.mem_singleton.1 hother]
      exact iff_of_true hrow (by simp)
  once := by
    intro k hk
    rw [filter_replaceBy]
    split
    · exact ⟨row, rfl⟩
    · next hother =>
      rcases List.mem_append.1 hk with hk | hk
      · exact h.once k hk
      · rw [List.mem_singleton.1 hk] at hother
        exact absurd (beq_self_eq_true _) hother

end Replacement

/-! ## Tables of a run -/

/-- What tells stored packages apart, in the form that it has in listed ones. -/
def AffectedRow.listedKey (row : AffectedRow) : String × Option String × Option String :=
  (row.id, some row.platform, some row.feature)

/-- What the rows of a key set. -/
def Tables.flagsOf (tables : Tables) (key : Option String) : List Flag :=
  (tables.keyValues.filter fun row => some row.key == key).map fun row => (some row.key, row.value)

/-- No row of a vulnerability or of a package names the run. -/
structure Tables.Lacks (tables : Tables) (run : String) : Prop where
  vulnerabilities : ∀ row ∈ tables.vulnerabilities, row.run ≠ some run
  affected : ∀ row ∈ tables.affected, row.run ≠ some run

/-- The rows of the run are those of the records and of the listed packages, and each key that was
set has the value that was set last. -/
structure Marks (run : String) (tables : Tables) (records : List Record) (listed : List Listed)
    (flags : List Flag) : Prop where
  vulnerabilities : Carried VulnerabilityRow.id VulnerabilityRow.run run (records.map Record.id)
    tables.vulnerabilities
  affected : Carried AffectedRow.listedKey AffectedRow.run run (listed.map Listed.key)
    tables.affected
  values : ∀ flag, IsLastBy Prod.fst flags flag → tables.flagsOf flag.1 = [flag]

section Marks

variable {run : String} {tables : Tables} {records : List Record} {listed : List Listed}
  {flags : List Flag}

theorem marks_of_lacks (h : tables.Lacks run) : Marks run tables [] [] [] where
  vulnerabilities := carried_nil h.vulnerabilities
  affected := carried_nil h.affected
  values := by
    rintro flag ⟨before, after, hflags, -⟩
    exact absurd hflags (by simp)

/-- Under its key the new value is alone, and under every other key what was set stays. -/
theorem Tables.flagsOf_putKey (tables : Tables) (row : KeyRow) (key : Option String) :
    (tables.putKey row).flagsOf key =
      if some row.key == key then [(some row.key, row.value)] else tables.flagsOf key := by
  have hrows : (tables.putKey row).keyValues =
      replaceBy (fun other : KeyRow => some other.key) tables.keyValues row :=
    (replaceBy_of_injective (fun _ _ h => Option.some.inj h) tables.keyValues row).symm
  rw [Tables.flagsOf, hrows, filter_replaceBy]
  split <;> rfl

theorem Marks.putVulnerability (h : Marks run tables records listed flags)
    (row : VulnerabilityRow) (record : Record) (hrow : row.columns = record.columns)
    (hrun : record.run = some run) :
    Marks run (tables.putVulnerability row) (records ++ [record]) listed flags where
  vulnerabilities := by
    simp only [VulnerabilityRow.columns, Record.columns, List.cons.injEq, Option.some.injEq] at hrow
    obtain ⟨hid, -, -, -, -, -, hmark, -⟩ := hrow
    rw [List.map_append, List.map_singleton, ← hid]
    exact h.vulnerabilities.replaceBy (hmark.trans hrun)
  affected := h.affected
  values := h.values

theorem Marks.putAffected (h : Marks run tables records listed flags)
    (row : AffectedRow) (package : Listed) (hrow : row.columns = package.columns)
    (hrun : package.record.run = some run) :
    Marks run (tables.putAffected row) records (listed ++ [package]) flags where
  vulnerabilities := h.vulnerabilities
  affected := by
    simp only [AffectedRow.columns, Listed.columns, List.cons.injEq, Option.some.injEq] at hrow
    obtain ⟨hid, hplatform, -, hfeature, -, -, -, hmark, -⟩ := hrow
    have hkey : package.key = row.listedKey := by
      rw [Listed.key, AffectedRow.listedKey, hid, hplatform, hfeature]
    -- The key of a listed package is that of its row, with room for what packages may lack.
    have hinjective : Function.Injective fun key : String × String × String =>
        (key.1, some key.2.1, some key.2.2) := by
      rintro ⟨id, platform, feature⟩ ⟨id', platform', feature'⟩ heq
      simpa using heq
    have hrows : (tables.putAffected row).affected =
        replaceBy AffectedRow.listedKey tables.affected row :=
      (replaceBy_of_injective hinjective tables.affected row).symm
    rw [List.map_append, List.map_singleton, hkey, hrows]
    exact h.affected.replaceBy (hmark.trans hrun)
  values := h.values

theorem Marks.putKey (h : Marks run tables records listed flags) (row : KeyRow) :
    Marks run (tables.putKey row) records listed (flags ++ [(some row.key, row.value)]) where
  vulnerabilities := h.vulnerabilities
  affected := h.affected
  values := by
    intro flag hflag
    rw [Tables.flagsOf_putKey]
    rcases isLastBy_concat_iff.1 hflag with rfl | ⟨hold, hne⟩
    · exact if_pos (beq_self_eq_true _)
    · rw [if_neg (by simpa using Ne.symm hne)]
      exact h.values flag hold

/-- Every statement of the run keeps what marks its rows. -/
theorem kept_marks (run : String) :
    Kept fun tables records listed flags => (∀ record ∈ records, record.run = some run) →
      (∀ package ∈ listed, package.record.run = some run) →
      Marks run tables records listed flags where
  putVulnerability := by
    intro tables records listed flags h row record hrow hrecords hlisted
    rw [List.forall_mem_append] at hrecords
    exact (h hrecords.1 hlisted).putVulnerability row record hrow (hrecords.2 record (by simp))
  putAffected := by
    intro tables records listed flags h row package hrow hrecords hlisted
    rw [List.forall_mem_append] at hlisted
    exact (h hrecords hlisted.1).putAffected row package hrow (hlisted.2 package (by simp))
  putKey := by
    intro tables records listed flags h row hrecords hlisted
    exact (h hrecords hlisted).putKey row

/-- The tables are marked by commits: their records, what the records list, and their flags. -/
def MarksCommits (run : String) (tables : Tables) (commits : List Commit) : Prop :=
  Marks run tables (commits.flatMap Commit.records)
    ((commits.flatMap Commit.records).flatMap Record.listed) (commits.flatMap (·.update.flags))

/-- A further commit of the run adds what it writes. -/
theorem MarksCommits.concat {commits : List Commit} {after : Tables} {c : Commit}
    (h : MarksCommits run tables commits) (hruns : ∀ other ∈ commits ++ [c], other.run = some run)
    (hcommit : commit c.updater c.update c.run tables = .ok after) :
    MarksCommits run after (commits ++ [c]) := by
  have hrecords : ∀ record ∈ (commits ++ [c]).flatMap Commit.records, record.run = some run := by
    intro record hrecord
    obtain ⟨other, hother, hof⟩ := List.mem_flatMap.1 hrecord
    obtain ⟨vulnerability, -, rfl⟩ := List.mem_map.1 hof
    exact hruns other hother
  have hlisted : ∀ package ∈ ((commits ++ [c]).flatMap Commit.records).flatMap Record.listed,
      package.record.run = some run := by
    intro package hpackage
    obtain ⟨record, hrecord, hof⟩ := List.mem_flatMap.1 hpackage
    obtain ⟨found, -, rfl⟩ := List.mem_map.1 hof
    exact hrecords record hrecord
  -- The statements keep the marks when all that is written is of the run, the commit included.
  have hmarks := (kept_marks run).commit (fun _ _ => h) hcommit
  rw [MarksCommits]
  simp only [List.flatMap_append, List.flatMap_singleton] at hrecords hlisted ⊢
  exact hmarks hrecords hlisted

end Marks

end AdvisoryFeed.Store
