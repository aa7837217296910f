import AdvisoryFeed.Proofs.Run.Accounts
import AdvisoryFeed.Proofs.Store.Replacement
import AdvisoryFeed.Proofs.Time.Stamps

/-!
# Recorded runs

Every run that comes to its end keeps a row about itself, under an id that shows when it was started.
Its batches leave the rows of other runs alone (`runs_runBatches`), so it is only the keeping of the
row that changes them, and this replaces the rows with its id (`CompletedRun.leaves_iff`).

The id shows the time to the second. So of runs one after the other on one database, each is recorded
unless a later one was started in the same second (`Recorded.kept_iff_last_of_second`).
-/

namespace AdvisoryFeed.Store

/-! ## Rows about runs -/

/-- No statement of a commit writes a row about a run. -/
theorem kept_runs (rows : List RunRow) : Kept fun tables _ _ _ => tables.runs = rows where
  putVulnerability := fun h _ _ _ => h
  putAffected := fun h _ _ _ => h
  putKey := fun h _ => h

theorem runs_commit {c : Commit} {tables after : Tables}
    (h : commit c.updater c.update c.run tables = .ok after) : after.runs = tables.runs :=
  @Kept.commit _ [] [] (kept_runs tables.runs) tables after [] rfl c h

end AdvisoryFeed.Store

namespace AdvisoryFeed.Run

open AdvisoryFeed.Report AdvisoryFeed.Store AdvisoryFeed.Ingest AdvisoryFeed.Time

/-! ## Batches and rows about runs -/

/-- A batch leaves the rows about runs alone, and the name of its own run. -/
theorem Batch.runs_after (batch : Batch) :
    batch.after.tables.runs = batch.before.tables.runs ∧
      batch.after.metrics.run = batch.before.metrics.run := by
  rcases batch.after_cases with ⟨-, -, text, htables, -, hmetrics⟩ |
    ⟨update, -, -, -, hcommit, -, hmetrics⟩
  · rw [htables, hmetrics]
    exact ⟨rfl, rfl⟩
  · rw [hmetrics]
    exact ⟨runs_commit (c := ⟨some batch.updater.id, update, some batch.run⟩) hcommit, rfl⟩

theorem runs_runBatches (run : String) (updaters : List Updater) :
    ∀ progress : Progress,
      (runBatches run updaters progress).2.tables.runs = progress.tables.runs ∧
        (runBatches run updaters progress).2.metrics.run = progress.metrics.run := by
  induction updaters with
  | nil =>
    intro progress
    exact ⟨rfl, rfl⟩
  | cons updater updaters ih =>
    intro progress
    obtain ⟨htables, hname⟩ := Batch.runs_after ⟨run, updater, progress⟩
    obtain ⟨hrest, hrestName⟩ := ih (Batch.after ⟨run, updater, progress⟩)
    exact ⟨hrest.trans htables, hrestName.trans hname⟩

/-! ## Runs that come to their end -/

/-- A run that comes to its end has run its batches, and leaves what its end gives. -/
theorem Pipeline.exists_finished {pipeline : Pipeline} {world : World} {tables : Tables}
    {workspace : Files.Workspace} {metrics : Metrics}
    (hconnect : pipeline.connect world.workspace = .ok (tables, workspace))
    (hrun : (pipeline.run world).1 = .ok metrics) :
    let start := Progress.start tables world.network
    ∃ finished, finish pipeline.directory
        (runBatches start.metrics.run pipeline.updaters start).2 workspace = .ok finished ∧
      finished.metrics = metrics ∧ (pipeline.run world).2.1.store = some finished.tables := by
  intro start
  rw [Pipeline.run, hconnect] at hrun ⊢
  dsimp only at hrun ⊢
  split at hrun
  · exact absurd hrun (by simp)
  · next finished hfinish =>
    rw [hfinish]
    exact ⟨finished, rfl, Except.ok.inj hrun, rfl⟩

/-- A run that comes to its end. -/
structure CompletedRun where
  pipeline : Pipeline
  world : World
  metrics : Metrics
  completed : (pipeline.run world).1 = .ok metrics

namespace CompletedRun

variable (run : CompletedRun)

/-- When the run is started. -/
def started : Instant :=
  run.world.network.now

/-- The row that the run keeps about itself. -/
def row : RunRow :=
  runRow run.metrics

/-- The rows about runs that the run finds when it opens its store. -/
def Finds (rows : List RunRow) : Prop :=
  ∃ tables workspace, run.pipeline.connect run.world.workspace = .ok (tables, workspace) ∧
    tables.runs = rows

/-- The rows about runs that the run leaves in its store. -/
def Leaves (rows : List RunRow) : Prop :=
  ∃ tables, (run.pipeline.run run.world).2.1.store = some tables ∧ tables.runs = rows

variable {run}

/-- A run keeps its row under its id, in the place of all rows with that id. -/
theorem leaves_iff {before : List RunRow} (h : run.Finds before) :
    run.row.run = runId run.started ∧
      ∀ after, run.Leaves after ↔ after = replaceBy RunRow.run before run.row := by
  obtain ⟨tables, workspace, hconnect, rfl⟩ := h
  obtain ⟨finished, hfinish, hmetrics, hleft⟩ := Pipeline.exists_finished hconnect run.completed
  obtain ⟨hcompleted, htables, -⟩ := finish_eq_ok hfinish
  obtain ⟨hruns, hname⟩ := runs_runBatches (runId run.started) run.pipeline.updaters
    (Progress.start tables run.world.network)
  -- The rows that the end of the run puts its own among are those from before the batches.
  have hrow : run.row = runRow finished.metrics := by rw [row, hmetrics]
  have hrows : finished.tables.runs = replaceBy RunRow.run tables.runs run.row := by
    rw [htables, hrow]
    exact congrArg (replaceBy RunRow.run · (runRow finished.metrics)) hruns
  constructor
  · rw [hrow, hcompleted]
    exact hname
  · intro after
    rw [← hrows]
    constructor
    · rintro ⟨stored, hstored, rfl⟩
      rw [Option.some.inj (hstored.symm.trans hleft)]
    · rintro rfl
      exact ⟨finished.tables, hleft, rfl⟩

end CompletedRun

/-- Runs one after the other on one database: each finds the rows about runs that the one before it
has left. Whatever else happens to the database between two runs writes no such row. -/
inductive Recorded : List RunRow → List CompletedRun → List RunRow → Prop
  | nil (rows : List RunRow) : Recorded rows [] rows
  | cons {run : CompletedRun} {runs : List CompletedRun} {before between after : List RunRow}
      (finds : run.Finds before) (leaves : run.Leaves between)
      (rest : Recorded between runs after) : Recorded before (run :: runs) after

section Recorded

variable {runs : List CompletedRun} {before after : List RunRow}

theorem Recorded.eq_foldl (h : Recorded before runs after) :
    (∀ run ∈ runs, run.row.run = runId run.started) ∧
      after = (runs.map CompletedRun.row).foldl (replaceBy RunRow.run) before := by
  induction h with
  | nil rows => exact ⟨by simp, rfl⟩
  | cons finds leaves rest ih =>
    obtain ⟨hid, hleaves⟩ := CompletedRun.leaves_iff finds
    obtain rfl := (hleaves _).1 leaves
    exact ⟨List.forall_mem_cons.2 ⟨hid, ih.1⟩, ih.2⟩

theorem Recorded.eq_replaceAll (h : Recorded [] runs after) :
    after = replaceAll RunRow.run (runs.map CompletedRun.row) :=
  h.eq_foldl.2

/-- What tells instants apart to the second tells the ids of runs apart. -/
theorem runId_eq_iff {s t : Instant} (hs : s.isValid = true) (ht : t.isValid = true) :
    runId s = runId t ↔ s.toSecond = t.toSecond := by
  rw [runId, runId, String.append_right_inj, Instant.stamp_eq_iff hs ht]

/-- Of runs one after the other on a database without rows about runs, those are recorded that no
later run has followed in the same second, once each. All of them are recorded exactly when no two
are started in the same second. -/
theorem Recorded.kept_iff_last_of_second (h : Recorded [] runs after)
    (hvalid : ∀ run ∈ runs, run.started.isValid = true) :
    (after.map RunRow.run).Nodup ∧
    (∀ row, row ∈ after ↔
      ∃ run, IsLastBy (fun run => run.started.toSecond) runs run ∧ row = run.row) ∧
    (after = runs.map CompletedRun.row ↔ (runs.map fun run => run.started.toSecond).Nodup) := by
  have hids := h.eq_foldl.1
  -- Rows replace each other by their ids, and ids tell only seconds apart.
  have hsame : ∀ run ∈ runs, ∀ other ∈ runs, run.row.run = other.row.run ↔
      run.started.toSecond = other.started.toSecond := by
    intro run hrun other hother
    rw [hids run hrun, hids other hother, runId_eq_iff (hvalid run hrun) (hvalid other hother)]
  refine ⟨?_, ?_, ?_⟩
  · rw [h.eq_replaceAll]
    exact nodup_replaceAll _
  · intro row
    rw [h.eq_replaceAll, mem_replaceAll_iff, isLastBy_map_iff]
    exact exists_congr fun run => and_congr_left fun _ => isLastBy_congr hsame
  · rw [h.eq_replaceAll, replaceAll_eq_self_iff, List.map_map, List.Nodup, List.Nodup, List.pairwise_map,
      List.pairwise_map]
    exact List.Pairwise.iff_of_mem fun hrun hother => not_congr (hsame _ hrun _ hother)

end Recorded

/-! ## Runs in one second -/

/-- A run on an open store comes to its end when nothing obstructs its directory. -/
theorem Pipeline.run_of_clear {pipeline : Pipeline} {world : World} {tables : Tables}
    (hstore : pipeline.store = some tables)
    (hclear : world.workspace.obstacle? pipeline.directory = none) :
    let start := Progress.start tables world.network
    let progress := (runBatches start.metrics.run pipeline.updaters start).2
    (pipeline.run world).1 = .ok (progress.metrics.complete progress.network.now) := by
  intro start progress
  rw [Pipeline.run, Pipeline.connect, hstore]
  dsimp only
  rw [finish, hclear]

/-- A run at a time on an open store, in which there are rows about runs. -/
def runAt (now : Instant) (rows : List RunRow) : CompletedRun where
  pipeline :=
    { updaters := [preparedUpdater "a" (.ok (preparedUpdate (some "oracle:7")))]
      place := .memory
      directory := defaultDirectory
      store := some { Tables.empty with runs := rows } }
  world := ⟨emptyWorld.workspace, { emptyWorld.network with now := now }⟩
  metrics := _
  completed := by
    have hclear : emptyWorld.workspace.obstacle? defaultDirectory = none := by decide +kernel
    exact Pipeline.run_of_clear rfl hclear

/-- Runs at times, one after the other on a store. -/
def runsAt : List Instant → List RunRow → List CompletedRun
  | [], _ => []
  | now :: later, rows =>
    let run := runAt now rows
    run :: runsAt later (replaceBy RunRow.run rows run.row)

theorem recorded_runsAt (instants : List Instant) :
    ∀ rows, ∃ after, Recorded rows (runsAt instants rows) after := by
  induction instants with
  | nil => exact fun rows => ⟨rows, .nil rows⟩
  | cons now later ih =>
    intro rows
    have hfinds : (runAt now rows).Finds rows := ⟨_, _, rfl, rfl⟩
    have hleaves := ((CompletedRun.leaves_iff hfinds).2 _).2 rfl
    obtain ⟨after, hrest⟩ := ih (replaceBy RunRow.run rows (runAt now rows).row)
    exact ⟨after, .cons hfinds hleaves hrest⟩

theorem map_started_runsAt (instants : List Instant) :
    ∀ rows, (runsAt instants rows).map CompletedRun.started = instants := by
  induction instants with
  | nil => exact fun _ => rfl
  | cons now later ih => exact fun rows => congrArg (now :: ·) (ih _)

/-- Noon, half a second later, and a second after that. -/
def sampleInstants : List Instant :=
  [⟨2024, 1, 15, 12, 0, 0, 0⟩, ⟨2024, 1, 15, 12, 0, 0, 500000⟩, ⟨2024, 1, 15, 12, 0, 1, 500000⟩]

/-- Of three runs, two of them started in one second, only two rows are kept. -/
theorem run_unrecorded_sample :
    let runs := runsAt sampleInstants []
    (runs.map fun run => run.started.micros).Pairwise (· ≤ ·) ∧ runs.length = 3 ∧
    ∃ after, Recorded [] runs after ∧
      after.map RunRow.run = ["run_20240115_120000", "run_20240115_120001"] := by
  intro runs
  have hstarted : runs.map CompletedRun.started = sampleInstants := map_started_runsAt _ []
  obtain ⟨after, hafter⟩ := recorded_runsAt sampleInstants []
  have hnames : (runs.map CompletedRun.row).map RunRow.run = sampleInstants.map runId := by
    rw [← hstarted, List.map_map, List.map_map]
    exact List.map_congr_left hafter.eq_foldl.1
  refine ⟨?_, ?_, after, hafter, ?_⟩
  · have hmicros : (runs.map fun run => run.started.micros) =
        sampleInstants.map Instant.micros := by rw [← hstarted, List.map_map]; rfl
    rw [hmicros]
    decide
  · rw [← List.length_map CompletedRun.started, hstarted]
    rfl
  · rw [hafter.eq_replaceAll, map_replaceAll, hnames]
    decide +kernel

theorem kept_iff_last_of_second_sample :
    let runs := runsAt sampleInstants []
    (∀ run ∈ runs, run.started.isValid = true) ∧ ∃ after, Recorded [] runs after ∧
      (after.map RunRow.run).Nodup ∧
      (∀ row, row ∈ after ↔
        ∃ run, IsLastBy (fun run => run.started.toSecond) runs run ∧ row = run.row) ∧
      (after = runs.map CompletedRun.row ↔
        (runs.map fun run => run.started.toSecond).Nodup) := by
  intro runs
  have hvalid : ∀ run ∈ runs, run.started.isValid = true := by
    have hall : ∀ now ∈ sampleInstants, now.isValid = true := by decide
    rw [← map_started_runsAt sampleInstants []] at hall
    exact fun run hrun => hall _ (List.mem_map_of_mem hrun)
  obtain ⟨after, hafter⟩ := recorded_runsAt sampleInstants []
  exact ⟨hvalid, after, hafter, hafter.kept_iff_last_of_second hvalid⟩

end AdvisoryFeed.Run
