import AdvisoryFeed.Proofs.Run.ExactlyOnce
import AdvisoryFeed.Proofs.Store.Marks
import AdvisoryFeed.Run.Pipeline

/-!
# Accounts of a run

A run gives an account of itself in four places: in its metrics, in the vulnerabilities that it
writes to a file, in the rows that name it, and in the health of its updaters. Each of them is kept
up batch by batch (`Accounts.step`), so after any batches they all tell of the same commits
(`accounts_runBatches`).

When the run has come to its end, they agree (`Pipeline.run_agrees`): whatever the updaters are, and
whichever of them fail in their updates or in their commits. The file is a document from which the
vulnerabilities are read back (`Exports`).
-/

namespace AdvisoryFeed.Config

/-! ## Reading values -/

/-- The entry of a table under a key. -/
def Value.entry? (value : Value) (key : String) : Option Value :=
  match value with
  | .table entries => entries.lookup key
  | _ => none

/-- The text of a value that is a text or null. -/
def Value.nullable? : Value → Option (Option String)
  | .text s => some (some s)
  | .null => some none
  | _ => none

/-- The items of a list, each of them read. -/
def Value.items? {α : Type} (read : Value → Option α) : Value → Option (List α)
  | .list items => items.mapM read
  | _ => none

/-- Items are read back from the values that are written for them. -/
theorem Value.items?_map {α : Type} {read : Value → Option α} {write : α → Value}
    (h : ∀ x, read (write x) = some x) (items : List α) :
    Value.items? read (.list (items.map write)) = some items := by
  rw [Value.items?]
  induction items with
  | nil => rfl
  | cons item items ih => simp [h, ih]

end AdvisoryFeed.Config

namespace AdvisoryFeed.Run

open AdvisoryFeed.Config AdvisoryFeed.Files AdvisoryFeed.Http AdvisoryFeed.Ingest
open AdvisoryFeed.Report AdvisoryFeed.Store

/-! ## What batches commit -/

/-- The batches of a run, one of each updater in their order. -/
def history (run : String) : List Updater → Progress → List Batch
  | [], _ => []
  | updater :: updaters, progress =>
    let batch : Batch := ⟨run, updater, progress⟩
    batch :: history run updaters batch.after

/-- The batch fails, in its update or in its commit. -/
def Batch.failed (batch : Batch) : Bool :=
  batch.taken?.isNone

/-- What the batch commits, unless it fails. -/
def Batch.commit? (batch : Batch) : Option Commit :=
  batch.taken?.map fun update => ⟨some batch.updater.id, update, some batch.run⟩

/-- What batches commit, one after the other. -/
def commits (batches : List Batch) : List Commit :=
  batches.filterMap Batch.commit?

/-- The vulnerabilities that batches commit. -/
def exported (batches : List Batch) : List Vulnerability :=
  (commits batches).flatMap (·.update.vulnerabilities)

/-- The wording of the failure of the batch, if it fails. -/
def Batch.failure? (batch : Batch) : Option String :=
  match (takeIn batch.run batch.updater batch.before.tables batch.before.network).1 with
  | .ok _ => none
  | .error error => some (failureText batch.updater.id error)

/-- What is known about the health of the updater after the batch. -/
def Batch.health (batch : Batch) : String × List (String × Value) :=
  (batch.updater.id, healthEntries batch.step.1.health batch.failure?)

section Batch

variable (batch : Batch)

/-- What a batch does to the run: it counts an error, or it commits its update and counts that. -/
theorem Batch.after_cases :
    (batch.taken? = none ∧ batch.failure?.isSome = true ∧ ∃ text,
      batch.after.tables = batch.before.tables ∧ batch.after.stored = batch.before.stored ∧
      batch.after.metrics = (batch.before.metrics.recordError text
        [("updater", .text batch.updater.id)]).setHealth batch.health.1 batch.health.2) ∨
    ∃ update, batch.taken? = some update ∧ batch.failure? = none ∧
      batch.step.1.health.isHealthy = true ∧
      commit (some batch.updater.id) update (some batch.run) batch.before.tables =
        .ok batch.after.tables ∧
      batch.after.stored = batch.before.stored ++ update.vulnerabilities ∧
      batch.after.metrics =
        (batch.before.metrics.recordUpdate update).setHealth batch.health.1 batch.health.2 := by
  unfold Batch.health Batch.taken? Batch.failure? Batch.after Batch.step Progress.step takeIn
  dsimp only
  -- The update fails, or the commit of what it has given does, or neither.
  cases hrun : (batch.updater.run (batch.before.tables.getKey batch.updater.cursorKey)
      batch.before.network).1 with
  | error error => exact Or.inl ⟨rfl, rfl, _, rfl, rfl, rfl⟩
  | ok update =>
    dsimp only
    cases hcommit : commit (some batch.updater.id) update (some batch.run) batch.before.tables with
    | error error => exact Or.inl ⟨rfl, rfl, _, rfl, rfl, rfl⟩
    | ok tables =>
      refine Or.inr ⟨update, rfl, rfl, ?_, hcommit, rfl, rfl⟩
      -- An updater whose update has succeeded has recorded no error of its own.
      rw [Updater.run] at hrun ⊢
      dsimp only at hrun ⊢
      rw [hrun]
      rfl

/-- The health of the updater is good exactly when it is without an error, and when the batch has
not failed. -/
theorem Batch.health_iff :
    (batch.health.2.lookup "healthy" = some (.bool true) ↔
      batch.health.2.lookup "error" = some .null) ∧
    (batch.health.2.lookup "healthy" = some (.bool true) ↔ batch.failed = false) := by
  have hhealthy : batch.health.2.lookup "healthy" =
      some (.bool (batch.step.1.health.isHealthy && batch.failure?.isNone)) := by
    simp [Batch.health, healthEntries]
  have herror : batch.health.2.lookup "error" =
      some (textValue (batch.step.1.health.lastError.or batch.failure?)) := by
    simp [Batch.health, healthEntries, List.lookup_cons]
  rw [hhealthy, herror, Batch.failed]
  -- The entry shows an error of the updater itself before one of the batch. Both tell of a failure.
  rcases batch.after_cases with ⟨hnone, hfailure, -⟩ | ⟨update, htaken, hfailure, hhealth, -⟩
  · obtain ⟨text, htext⟩ := Option.isSome_iff_exists.1 hfailure
    cases hlast : batch.step.1.health.lastError with
    | none => simp [hnone, htext, textValue]
    | some other => simp [hnone, htext, textValue]
  · have hlast : batch.step.1.health.lastError = none := Option.isNone_iff_eq_none.1 hhealth
    simp [htaken, hfailure, hhealth, hlast, textValue]

end Batch

section Commits

variable (batches : List Batch) {batch : Batch}

theorem commits_concat_of_none (h : batch.taken? = none) :
    commits (batches ++ [batch]) = commits batches := by
  simp [commits, List.filterMap_append, Batch.commit?, h]

theorem commits_concat_of_some {update : Update} (h : batch.taken? = some update) :
    commits (batches ++ [batch]) =
      commits batches ++ [⟨some batch.updater.id, update, some batch.run⟩] := by
  simp [commits, List.filterMap_append, Batch.commit?, h]

end Commits

/-! ## Counting -/

/-- One more of a severity is one more in all. -/
theorem sum_countSeverity (counts : List (Severity × Nat)) (severity : Severity) :
    ((countSeverity counts severity).map Prod.snd).sum = (counts.map Prod.snd).sum + 1 := by
  rw [countSeverity, putPair]
  -- The severity is counted where it stands, or behind all others when it is new.
  induction counts with
  | nil => rfl
  | cons entry counts ih =>
    rw [putBy, lookup_cons_ite]
    split
    · next hsame =>
      rw [if_pos hsame.symm]
      simp only [List.map_cons, List.sum_cons, Option.getD_some]
      omega
    · next hother =>
      rw [if_neg fun hsame => hother hsame.symm]
      simp only [List.map_cons, List.sum_cons, ih]
      omega

theorem sum_foldl_countSeverity (severities : List Severity) :
    ∀ counts : List (Severity × Nat),
      ((severities.foldl countSeverity counts).map Prod.snd).sum =
        (counts.map Prod.snd).sum + severities.length := by
  induction severities with
  | nil =>
    intro counts
    rfl
  | cons severity severities ih =>
    intro counts
    rw [List.foldl_cons, ih, sum_countSeverity, List.length_cons]
    omega

theorem foldl_affected (vulnerabilities : List Vulnerability) :
    ∀ n : Nat, vulnerabilities.foldl (fun n v => n + v.affected.length) n =
      n + (vulnerabilities.map (·.affected.length)).sum := by
  induction vulnerabilities with
  | nil =>
    intro n
    rfl
  | cons vulnerability vulnerabilities ih =>
    intro n
    rw [List.foldl_cons, ih, List.map_cons, List.sum_cons, Nat.add_assoc]

/-- Putting further items into a keyed list. -/
theorem foldl_putBy_putAll {α κ : Type} [DecidableEq κ] (key : α → κ) (items more : List α) :
    more.foldl (fun put x => putBy key x put) (putAll key items) = putAll key (items ++ more) := by
  rw [putAll, putAll, List.foldl_append]

/-- What the metrics count are the commits, the vulnerabilities in them, and the batches that
fail. -/
structure Counts (batches : List Batch) (exported : List Vulnerability) (metrics : Metrics) :
    Prop where
  vulnerabilities : metrics.vulnerabilities = exported.length
  severities : (metrics.severities.map Prod.snd).sum = exported.length
  affected : metrics.affected = (exported.map (·.affected.length)).sum
  candidates : metrics.candidates = ((commits batches).map (·.update.candidates.length)).sum
  advisories : metrics.advisoriesDecoded =
    ((commits batches).map (·.update.advisoriesDecoded)).sum
  discarded : metrics.possibilitiesDiscarded =
    ((commits batches).map (·.update.possibilitiesDiscarded)).sum
  errors : metrics.errors = batches.countP Batch.failed
  issues : metrics.issues.length = batches.countP Batch.failed

section Counts

variable {batches : List Batch} {exported : List Vulnerability} {metrics : Metrics} {batch : Batch}

theorem counts_start (run : String) (started : Time.Instant) :
    Counts [] [] (Metrics.start run started) :=
  ⟨rfl, rfl, rfl, rfl, rfl, rfl, rfl, rfl⟩

theorem Counts.setHealth (h : Counts batches exported metrics) (updater : String)
    (entries : List (String × Value)) :
    Counts batches exported (metrics.setHealth updater entries) :=
  ⟨h.vulnerabilities, h.severities, h.affected, h.candidates, h.advisories, h.discarded, h.errors,
    h.issues⟩

theorem Counts.complete (h : Counts batches exported metrics) (now : Time.Instant) :
    Counts batches exported (metrics.complete now) :=
  ⟨h.vulnerabilities, h.severities, h.affected, h.candidates, h.advisories, h.discarded, h.errors,
    h.issues⟩

/-- A batch that fails counts as an error. -/
theorem Counts.recordError (h : Counts batches exported metrics) (hnone : batch.taken? = none)
    (text : String) (context : List (String × Value)) :
    Counts (batches ++ [batch]) exported (metrics.recordError text context) := by
  have hfailed : batch.failed = true := by rw [Batch.failed, hnone]; rfl
  have hcommits := commits_concat_of_none batches hnone
  constructor
  · exact h.vulnerabilities
  · exact h.severities
  · exact h.affected
  · rw [hcommits]
    exact h.candidates
  · rw [hcommits]
    exact h.advisories
  · rw [hcommits]
    exact h.discarded
  · rw [List.countP_append, List.countP_singleton, if_pos hfailed, ← h.errors]
    rfl
  · rw [List.countP_append, List.countP_singleton, if_pos hfailed, ← h.issues]
    simp [Metrics.recordError]

/-- A batch that succeeds counts by what it takes in. -/
theorem Counts.recordUpdate (h : Counts batches exported metrics) {update : Update}
    (htaken : batch.taken? = some update) :
    Counts (batches ++ [batch]) (exported ++ update.vulnerabilities)
      (metrics.recordUpdate update) := by
  have hfailed : ¬ batch.failed = true := by simp [Batch.failed, htaken]
  have hcommits := commits_concat_of_some batches htaken
  constructor
  · rw [List.length_append, ← h.vulnerabilities]
    rfl
  · rw [List.length_append, ← h.severities]
    change ((List.foldl countSeverity metrics.severities
      (update.vulnerabilities.map Vulnerability.severity)).map Prod.snd).sum = _
    rw [sum_foldl_countSeverity, List.length_map]
  · rw [List.map_append, List.sum_append, ← h.affected]
    exact foldl_affected update.vulnerabilities metrics.affected
  · rw [hcommits, List.map_append, List.sum_append, ← h.candidates]
    simp [Metrics.recordUpdate]
  · rw [hcommits, List.map_append, List.sum_append, ← h.advisories]
    simp [Metrics.recordUpdate]
  · rw [hcommits, List.map_append, List.sum_append, ← h.discarded]
    simp [Metrics.recordUpdate]
  · rw [List.countP_append, List.countP_singleton, if_neg hfailed, ← h.errors]
    rfl
  · rw [List.countP_append, List.countP_singleton, if_neg hfailed, ← h.issues]
    rfl

end Counts

/-! ## Accounts -/

/-- What a run has done after some batches: it holds and counts what they commit, its rows are those
of the commits, and it knows the health of each updater after its last batch. -/
structure Accounts (run : String) (batches : List Batch) (progress : Progress) : Prop where
  runs : ∀ batch ∈ batches, batch.run = run
  stored : progress.stored = exported batches
  counts : Counts batches progress.stored progress.metrics
  marks : MarksCommits run progress.tables (commits batches)
  cursors : progress.metrics.cursors =
    putAll Prod.fst ((commits batches).flatMap (·.update.flags))
  health : progress.metrics.health = putAll Prod.fst (batches.map Batch.health)
  name : progress.metrics.run = run

section Accounts

variable {run : String} {batches : List Batch}

theorem accounts_start {tables : Tables} {network : Network}
    (h : tables.Lacks (runId network.now)) :
    Accounts (runId network.now) [] (Progress.start tables network) where
  runs := by simp
  stored := rfl
  counts := counts_start _ _
  marks := marks_of_lacks h
  cursors := rfl
  health := rfl
  name := rfl

/-- What batches of a run commit names the run. -/
theorem run_of_mem_commits (h : ∀ batch ∈ batches, batch.run = run) :
    ∀ c ∈ commits batches, c.run = some run := by
  intro c hc
  obtain ⟨batch, hbatch, hcommit⟩ := List.mem_filterMap.1 hc
  obtain ⟨update, -, rfl⟩ := Option.map_eq_some_iff.1 hcommit
  rw [h batch hbatch]

/-- A further batch is accounted for, whether it fails or succeeds. -/
theorem Accounts.step {batch : Batch} (h : Accounts run batches batch.before)
    (hrun : batch.run = run) : Accounts run (batches ++ [batch]) batch.after := by
  have hruns : ∀ other ∈ batches ++ [batch], other.run = run := by
    intro other hother
    rcases List.mem_append.1 hother with hother | hother
    · exact h.runs other hother
    · rw [List.mem_singleton.1 hother]
      exact hrun
  have hhealth : putBy Prod.fst batch.health (putAll Prod.fst (batches.map Batch.health)) =
      putAll Prod.fst ((batches ++ [batch]).map Batch.health) := by
    rw [List.map_append, List.map_singleton, putAll_concat]
  rcases batch.after_cases with ⟨hnone, -, text, htables, hstored, hmetrics⟩ |
    ⟨update, htaken, -, -, hcommit, hstored, hmetrics⟩
  · -- Nothing is committed, so all that is added is an error.
    have hcommits := commits_concat_of_none batches hnone
    refine ⟨hruns, ?_, ?_, ?_, ?_, ?_, ?_⟩
    · rw [exported, hcommits, hstored, h.stored, exported]
    · rw [hstored, hmetrics]
      exact (h.counts.recordError hnone text _).setHealth _ _
    · rw [hcommits, htables]
      exact h.marks
    · rw [hcommits, hmetrics, ← h.cursors]
      rfl
    · rw [hmetrics, ← hhealth, ← h.health]
      rfl
    · rw [hmetrics]
      exact h.name
  · have hcommits := commits_concat_of_some batches htaken
    refine ⟨hruns, ?_, ?_, ?_, ?_, ?_, ?_⟩
    · rw [exported, hcommits, hstored, h.stored, List.flatMap_append, List.flatMap_singleton,
        exported]
    · rw [hstored, hmetrics]
      exact (h.counts.recordUpdate htaken).setHealth _ _
    · have hnamed := run_of_mem_commits hruns
      rw [hcommits] at hnamed ⊢
      exact h.marks.concat hnamed hcommit
    · rw [hcommits, hmetrics, List.flatMap_append, List.flatMap_singleton,
        ← foldl_putBy_putAll, ← h.cursors]
      rfl
    · rw [hmetrics, ← hhealth, ← h.health]
      rfl
    · rw [hmetrics]
      exact h.name

/-- All batches of a run are accounted for. -/
theorem accounts_runBatches (updaters : List Updater) :
    ∀ {batches : List Batch} {progress : Progress}, Accounts run batches progress →
      Accounts run (batches ++ history run updaters progress)
        (runBatches run updaters progress).2 := by
  -- What the run has done varies in the induction, and the batches that it has done it in.
  induction updaters with
  | nil =>
    intro batches progress h
    rw [history, List.append_nil]
    exact h
  | cons updater updaters ih =>
    intro batches progress h
    have hstep : Accounts run (batches ++ [⟨run, updater, progress⟩])
        (Batch.after ⟨run, updater, progress⟩) := Accounts.step h rfl
    have hrest := ih hstep
    rw [List.append_assoc, List.singleton_append] at hrest
    exact hrest

end Accounts

/-! ## Exports -/

/-- The package that a value describes. -/
def readPackage? (value : Value) : Option Package := do
  let platform ← (value.entry? "namespace").bind Value.nullable?
  let feature ← (value.entry? "feature_name").bind Value.nullable?
  let fixedIn ← (value.entry? "fixed_in_version").bind Value.text?
  let format ← (value.entry? "version_format").bind Value.text?
  let kind ← (value.entry? "feature_type").bind Value.text?
  let affected ← (value.entry? "affected_version").bind Value.text?
  return ⟨platform, feature, fixedIn, format, kind, affected⟩

/-- The vulnerability that a value describes. -/
def readVulnerability? (value : Value) : Option Vulnerability := do
  let name ← (value.entry? "name").bind Value.nullable?
  let link ← (value.entry? "link").bind Value.nullable?
  let severity ← ((value.entry? "severity").bind Value.text?).bind Severity.ofName?
  let description ← (value.entry? "description").bind Value.nullable?
  let affected ← (value.entry? "affected").bind (Value.items? readPackage?)
  return ⟨name, link, severity, description, affected⟩

/-- The document names the run, tells how many vulnerabilities there are, and describes them one by
one. -/
structure Exports (document : Value) (run : String) (vulnerabilities : List Vulnerability) :
    Prop where
  run : document.entry? "run_id" = some (.text run)
  count : document.entry? "vulnerability_count" = some (.int vulnerabilities.length)
  vulnerabilities : (document.entry? "vulnerabilities").bind (Value.items? readVulnerability?) =
    some vulnerabilities

theorem nullable?_textValue (text : Option String) : (textValue text).nullable? = some text := by
  cases text <;> rfl

/-- A package is read back from its value. -/
theorem readPackage?_packageValue (package : Package) :
    readPackage? (packageValue package) = some package := by
  simp [readPackage?, packageValue, Value.entry?, List.lookup_cons, nullable?_textValue,
    Value.text?]

/-- A vulnerability is read back from its value, with its packages. -/
theorem readVulnerability?_vulnerabilityValue (vulnerability : Vulnerability) :
    readVulnerability? (vulnerabilityValue vulnerability) = some vulnerability := by
  simp [readVulnerability?, vulnerabilityValue, Value.entry?, List.lookup_cons,
    nullable?_textValue, Value.text?, Severity.ofName?_name,
    Value.items?_map readPackage?_packageValue]

theorem exports_exportValue (now : Time.Instant) (run : String)
    (vulnerabilities : List Vulnerability) :
    Exports (exportValue now run vulnerabilities) run vulnerabilities where
  run := by
    simp [exportValue, Value.entry?, List.lookup_cons]
  count := by
    simp [exportValue, Value.entry?, List.lookup_cons, countValue]
  vulnerabilities := by
    simp [exportValue, Value.entry?, List.lookup_cons,
      Value.items?_map readVulnerability?_vulnerabilityValue]

/-! ## Runs that come to their end -/

/-- The metrics and the tables of a run agree with the batches of the run. -/
structure Agreement (run : String) (batches : List Batch) (metrics : Metrics) (tables : Tables) :
    Prop where
  counts : Counts batches (exported batches) metrics
  /-- The rows of the run are those of the vulnerabilities that were committed, -/
  vulnerabilities : Carried VulnerabilityRow.id VulnerabilityRow.run run
    (((commits batches).flatMap Commit.records).map Record.id) tables.vulnerabilities
  /-- and of the packages that these list. -/
  affected : Carried AffectedRow.listedKey AffectedRow.run run
    ((((commits batches).flatMap Commit.records).flatMap Record.listed).map Listed.key)
    tables.affected
  /-- The cursors are those that were committed, once each, -/
  cursorsOnce : (metrics.cursors.map Prod.fst).Nodup
  cursorKeys : ∀ key, key ∈ metrics.cursors.map Prod.fst ↔
    ∃ c ∈ commits batches, key ∈ c.update.flags.map Prod.fst
  /-- and each of them is what is stored under its key. -/
  cursorValues : ∀ cursor ∈ metrics.cursors, tables.flagsOf cursor.1 = [cursor]
  /-- The health of each updater is known, once, -/
  healthOnce : (metrics.health.map Prod.fst).Nodup
  healthIds : ∀ batch ∈ batches, batch.updater.id ∈ metrics.health.map Prod.fst
  /-- and is good when there is no error, that is, when its last batch has not failed. -/
  health : ∀ entry ∈ metrics.health,
    (entry.2.lookup "healthy" = some (.bool true) ↔ entry.2.lookup "error" = some .null) ∧
    ∃ batch, IsLastBy (fun batch : Batch => batch.updater.id) batches batch ∧
      batch.updater.id = entry.1 ∧
      (entry.2.lookup "healthy" = some (.bool true) ↔ batch.failed = false)
  /-- There is one row about the run, and it says so when a batch has failed. -/
  recorded : tables.runs.filter (fun row => row.run == run) = [runRow metrics]
  status : (runRow metrics).status = "failed" ↔ ∃ batch ∈ batches, batch.failed = true

section Runs

variable {run : String} {batches : List Batch} {progress : Progress}

/-- The row that a run keeps says that it has failed exactly when one of its batches has. -/
theorem Counts.status_iff {stored : List Vulnerability} {metrics : Metrics}
    (h : Counts batches stored metrics) :
    (runRow metrics).status = "failed" ↔ ∃ batch ∈ batches, batch.failed = true := by
  rw [← List.countP_pos_iff, ← h.errors, runRow]
  dsimp only
  split
  · next hnone => simp [hnone]
  · next hsome => simp [Nat.pos_of_ne_zero hsome]

/-- What is accounted for agrees once the run has completed its metrics and kept its row. -/
theorem Accounts.agreement (h : Accounts run batches progress) (now : Time.Instant) :
    Agreement run batches (progress.metrics.complete now)
      (progress.tables.putRun (runRow (progress.metrics.complete now))) := by
  have hcounts : Counts batches (exported batches) (progress.metrics.complete now) := by
    rw [← h.stored]
    exact h.counts.complete now
  have hcursors : (progress.metrics.complete now).cursors =
      putAll Prod.fst ((commits batches).flatMap (·.update.flags)) := h.cursors
  have hhealth : (progress.metrics.complete now).health =
      putAll Prod.fst (batches.map Batch.health) := h.health
  refine ⟨hcounts, h.marks.vulnerabilities, h.marks.affected, ?_, ?_, ?_, ?_, ?_, ?_, ?_,
    hcounts.status_iff⟩
  · rw [hcursors]
    exact nodup_putAll _
  · intro key
    rw [hcursors, map_putAll, List.mem_eraseDups, List.map_flatMap, List.mem_flatMap]
  · intro cursor hcursor
    rw [hcursors, mem_putAll_iff] at hcursor
    exact h.marks.values cursor hcursor
  · rw [hhealth]
    exact nodup_putAll _
  · intro batch hbatch
    rw [hhealth, map_putAll, List.mem_eraseDups, List.map_map]
    exact List.mem_map.2 ⟨batch, hbatch, rfl⟩
  · intro entry hentry
    rw [hhealth, mem_putAll_iff, isLastBy_map_iff] at hentry
    obtain ⟨batch, hlast, rfl⟩ := hentry
    exact ⟨batch.health_iff.1, batch, hlast, rfl, batch.health_iff.2⟩
  · have hname : (runRow (progress.metrics.complete now)).run = run := h.name
    change (replaceBy RunRow.run progress.tables.runs _).filter _ = _
    rw [filter_replaceBy, hname, if_pos (beq_self_eq_true run)]

/-- A file is found where it was put. -/
theorem find?_put (workspace : Workspace) (path other : String) (file : File) :
    (workspace.put path file).find? other =
      if other = path then some file else workspace.find? other :=
  lookup_putPair path other file workspace.files

/-- A text begins with what its front begins with. -/
theorem head?_append {front back : String} {c : Char} (h : front.toList.head? = some c) :
    (front ++ back).toList.head? = some c := by
  rw [String.toList_append, List.head?_append, h]
  rfl

/-- The file of the vulnerabilities is not the one of the report. -/
theorem inDirectory_exportName_ne (directory : String) (now : Time.Instant) :
    inDirectory directory (exportName run) ≠ inDirectory directory (reportName now) := by
  intro heq
  have hnames : exportName run = reportName now := by
    rw [inDirectory, inDirectory] at heq
    split at heq
    · exact heq
    · exact (String.append_right_inj _).1 heq
  -- Whatever the run and the time are, the two names begin with different letters.
  have hexport : (exportName run).toList.head? = some 'v' :=
    head?_append (head?_append (by decide +kernel))
  have hreport : (reportName now).toList.head? = some 'r' :=
    head?_append (head?_append (by decide +kernel))
  rw [hnames, hreport] at hexport
  exact absurd hexport (by decide)

/-- What a run that comes to its end leaves. -/
theorem finish_eq_ok {directory : String} {workspace : Workspace} {finished : Finished}
    (h : finish directory progress workspace = .ok finished) :
    finished.metrics = progress.metrics.complete progress.network.now ∧
    finished.tables = progress.tables.putRun (runRow finished.metrics) ∧
    finished.workspace.find? (inDirectory directory (exportName progress.metrics.run)) =
      some (.text
        (exportValue progress.network.now progress.metrics.run progress.stored).json) := by
  rw [finish] at h
  split at h
  · exact absurd h (by simp)
  · obtain rfl := Except.ok.inj h
    refine ⟨rfl, rfl, ?_⟩
    rw [find?_put, if_neg (inDirectory_exportName_ne directory _), find?_put, if_pos rfl]

/-- When a run comes to its end under a name that no row has yet, its metrics, its tables and the
file that it writes tell of the same commits: those of the batches that have not failed. The file
holds a document from which all that was committed is read back, in its order. -/
theorem Pipeline.run_agrees {pipeline : Pipeline} {world : World} {tables : Tables}
    {workspace : Workspace} {metrics : Metrics}
    (hconnect : pipeline.connect world.workspace = .ok (tables, workspace))
    (hlacks : tables.Lacks (runId world.network.now))
    (hrun : (pipeline.run world).1 = .ok metrics) :
    let run := runId world.network.now
    let batches := history run pipeline.updaters (Progress.start tables world.network)
    let done := (pipeline.run world).2
    ∃ stored, done.1.store = some stored ∧ Agreement run batches metrics stored ∧
      done.2.workspace.find? (inDirectory pipeline.directory (exportName run)) =
        some (.text (exportValue done.2.network.now run (exported batches)).json) ∧
      Exports (exportValue done.2.network.now run (exported batches)) run (exported batches) := by
  intro run batches done
  let start := Progress.start tables world.network
  have haccounts : Accounts run batches
      (runBatches start.metrics.run pipeline.updaters start).2 :=
    accounts_runBatches pipeline.updaters (accounts_start hlacks)
  -- No batch ends the run. Only what is written after them can fail.
  have hdone : pipeline.run world = (.ok metrics, done) := by
    rw [← hrun]
  clear_value done
  rw [Pipeline.run, hconnect] at hdone
  dsimp only at hdone
  split at hdone
  · exact absurd (Prod.mk.inj hdone).1 (by simp)
  · next finished hfinish =>
    obtain ⟨hok, rfl⟩ := Prod.mk.inj hdone
    obtain rfl := Except.ok.inj hok
    obtain ⟨hmetrics, htables, hfile⟩ := finish_eq_ok hfinish
    rw [haccounts.name, haccounts.stored] at hfile
    refine ⟨finished.tables, rfl, ?_, hfile, exports_exportValue _ _ _⟩
    rw [htables, hmetrics]
    exact haccounts.agreement _

end Runs

/-- An updater that has its result prepared. -/
def preparedUpdater (id : String) (result : Except UpdateError Update) : Updater :=
  ⟨id, some (defaultCursorKey id), .prepared result, .start, Health.fresh⟩

/-- An update with a vulnerability of one package, which may lack its platform. -/
def preparedUpdate (platform : Option String) : Update where
  vulnerabilities :=
    [⟨some "E", none, .unknown, none,
      [⟨platform, some "bash", "4.2", rpmFormat, binaryKind, vulnerableMark⟩]⟩]
  flags := [(some (defaultCursorKey "a"), some "5")]
  candidates := [5]
  advisoriesDecoded := 1
  possibilitiesDiscarded := 0

/-- Two updaters have one name, and the second one replaces what the first one has written. Between
them one fails in its update, and one in its commit. -/
def preparedPipeline : Pipeline where
  updaters :=
    [preparedUpdater "a" (.ok (preparedUpdate (some "oracle:7"))),
      preparedUpdater "b" (.error (.other "RuntimeError" "down")),
      preparedUpdater "c" (.ok (preparedUpdate none)),
      preparedUpdater "a" (.ok (preparedUpdate (some "oracle:8")))]
  place := .memory
  directory := defaultDirectory
  store := none

/-- A world without files. -/
def emptyWorld : World :=
  ⟨⟨[]⟩, (sampleVisit "" []).network⟩

theorem run_agrees_prepared :
    let run := runId emptyWorld.network.now
    let batches := history run preparedPipeline.updaters
      (Progress.start Tables.empty emptyWorld.network)
    let done := (preparedPipeline.run emptyWorld).2
    batches.map Batch.failed = [false, true, true, false] ∧ (exported batches).length = 2 ∧
    preparedPipeline.connect emptyWorld.workspace = .ok (Tables.empty, emptyWorld.workspace) ∧
    Tables.empty.Lacks run ∧
    ∃ metrics stored, (preparedPipeline.run emptyWorld).1 = .ok metrics ∧
      done.1.store = some stored ∧ Agreement run batches metrics stored ∧
      done.2.workspace.find? (inDirectory preparedPipeline.directory (exportName run)) =
        some (.text (exportValue done.2.network.now run (exported batches)).json) ∧
      Exports (exportValue done.2.network.now run (exported batches)) run (exported batches) := by
  intro run batches done
  have hconnect : preparedPipeline.connect emptyWorld.workspace =
      .ok (Tables.empty, emptyWorld.workspace) := rfl
  have hlacks : Tables.empty.Lacks run :=
    ⟨fun _ hrow => absurd hrow List.not_mem_nil, fun _ hrow => absurd hrow List.not_mem_nil⟩
  have hends : (preparedPipeline.run emptyWorld).1.isOk = true := by decide +kernel
  obtain ⟨metrics, hrun⟩ : ∃ metrics, (preparedPipeline.run emptyWorld).1 = .ok metrics := by
    cases hresult : (preparedPipeline.run emptyWorld).1 with
    | error error =>
      rw [hresult] at hends
      exact absurd hends Bool.false_ne_true
    | ok metrics => exact ⟨metrics, rfl⟩
  obtain ⟨stored, hstored, hagrees, hfile, hexports⟩ :=
    Pipeline.run_agrees hconnect hlacks hrun
  exact ⟨by decide +kernel, by decide +kernel, hconnect, hlacks, metrics, stored, hrun, hstored,
    hagrees, hfile, hexports⟩

end AdvisoryFeed.Run
