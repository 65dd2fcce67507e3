/-
What a run comes to, told by the files.

A run whose configuration cannot be resolved fails and writes nothing. Any
other run writes the reports of its files in order, in the format that was
settled on, and ends with a status that can be read off the files
(`Outcome.Tells`): which of them hold a text, and whether anything is found
in the texts that they hold.

# From the files to the status

The reports of the batch are those of the files one by one. A report has an
I/O error exactly if its file holds no text, whatever the text of a file may
say (`hasIoError_lintFile_iff`), and it is clean exactly if its file holds a
text in which nothing is found (`isClean_lintFile_iff`). The status of the
reports then becomes one of the files (`Outcome.tells_ofConfig`).
-/
import QuartoLint.Proofs.Batch.OneFile
import QuartoLint.Proofs.Config.Applied
import QuartoLint.Proofs.Report.Status
import QuartoLint.Run

namespace QuartoLint

/-- What an outcome tells of the files at the paths, if they are shown in the
format, and findings do not count where `exitZero` is set. -/
structure Outcome.Tells (files : FileSystem) (paths : List Path)
    (format : OutputFormat) (exitZero : Bool) (outcome : Outcome) : Prop where
  output : outcome.output = format.render (paths.map (lintFile files))
  success_of_exitZero : exitZero = true → outcome.status.code = 0
  /-- Some file cannot be read. -/
  failure_iff : exitZero = false →
    (outcome.status.code = 2
      ↔ ∃ path ∈ paths, ∀ text, ¬ files.Holds path text)
  /-- Every file can be read, and something is found in one. -/
  findings_iff : exitZero = false →
    (outcome.status.code = 1
      ↔ (∀ path ∈ paths, ∃ text, files.Holds path text)
        ∧ ∃ path ∈ paths, ∃ text, files.Holds path text
          ∧ (validate (.ofText path text)).toList ≠ [])
  /-- Every file can be read, and nothing is found in any. -/
  success_iff : exitZero = false →
    (outcome.status.code = 0
      ↔ ∀ path ∈ paths, ∃ text, files.Holds path text
        ∧ (validate (.ofText path text)).toList = [])
  silent_iff : exitZero = false →
    (outcome.status.code = 0 ↔ outcome.output = [])
  /-- A finding about reading is never made of what a file says. -/
  ioError_iff : ∀ path ∈ paths, ((lintFile files path).hasIoError = true
    ↔ ∀ text, ¬ files.Holds path text)

-- ============================================================ the statuses

variable {files : FileSystem} {paths : List Path}

theorem exists_mem_reports_iff {property : Report → Prop} :
    (∃ report ∈ paths.map (lintFile files), property report)
      ↔ ∃ path ∈ paths, property (lintFile files path) := by
  simp only [List.mem_map, exists_exists_and_eq_and]

/-- Some report has an I/O error exactly if some file holds no text. -/
theorem exists_hasIoError_iff :
    (∃ report ∈ paths.map (lintFile files), report.hasIoError = true)
      ↔ ∃ path ∈ paths, ∀ text, ¬ files.Holds path text := by
  rw [exists_mem_reports_iff]
  exact exists_congr fun path =>
    and_congr_right fun _ => hasIoError_lintFile_iff

/-- All reports are clean exactly if all files hold texts without findings. -/
theorem forall_isClean_iff :
    (∀ report ∈ paths.map (lintFile files), report.isClean = true)
      ↔ ∀ path ∈ paths, ∃ text, files.Holds path text
        ∧ (validate (.ofText path text)).toList = [] := by
  rw [List.forall_mem_map]
  exact forall₂_congr fun path _ => isClean_lintFile_iff

theorem forall_not_hasIoError_iff :
    (∀ report ∈ paths.map (lintFile files), report.hasIoError = false)
      ↔ ∀ path ∈ paths, ∃ text, files.Holds path text := by
  rw [List.forall_mem_map]
  refine forall₂_congr fun path _ => ?_
  rw [← Bool.not_eq_true, hasIoError_lintFile_iff, Classical.not_forall]
  exact exists_congr fun text => Classical.not_not

/-- Where every file can be read, a report that is not clean is about a text
in which something is found. -/
theorem exists_not_isClean_iff
    (hholds : ∀ path ∈ paths, ∃ text, files.Holds path text) :
    (∃ report ∈ paths.map (lintFile files), report.isClean = false)
      ↔ ∃ path ∈ paths, ∃ text, files.Holds path text
        ∧ (validate (.ofText path text)).toList ≠ [] := by
  rw [exists_mem_reports_iff]
  refine exists_congr fun path => and_congr_right fun hpath => ?_
  constructor
  · intro hreport
    obtain ⟨text, htext⟩ := hholds path hpath
    rw [lintFile_of_holds htext] at hreport
    exact ⟨text, htext, List.isEmpty_eq_false_iff.1 hreport⟩
  · intro hfindings
    obtain ⟨text, htext, hfindings⟩ := hfindings
    rw [lintFile_of_holds htext]
    exact List.isEmpty_eq_false_iff.2 hfindings

/-- The outcome of linting the files of a configuration tells of them. -/
theorem Outcome.tells_ofConfig (files : FileSystem) (schedule : List Nat)
    (config : Config) :
    (Outcome.ofConfig files schedule config).Tells files config.files
      config.format config.exitZero := by
  -- the schedule is out of the way once the reports are those of the paths
  have hreports := lintFiles_eq_map files schedule config.files
  have hstatus : (Outcome.ofConfig files schedule config).status
      = .ofReports (config.files.map (lintFile files)) config.exitZero := by
    unfold Outcome.ofConfig
    rw [hreports]
  have hsuccess (hcounts : config.exitZero = false) :
      (Outcome.ofConfig files schedule config).status.code = 0
        ↔ ∀ report ∈ config.files.map (lintFile files),
          report.isClean = true := by
    rw [hstatus, hcounts, ← ExitStatus.ofReports_eq_success_iff]
    exact ExitStatus.code_inj _ .success
  constructor
  case output =>
    unfold Outcome.ofConfig
    rw [hreports]
  case success_of_exitZero =>
    intro hignored
    rw [hstatus, hignored, ExitStatus.ofReports_true]
    rfl
  case failure_iff =>
    intro hcounts
    rw [hstatus, hcounts, ← exists_hasIoError_iff,
      ← ExitStatus.ofReports_eq_failure_iff]
    exact ExitStatus.code_inj _ .failure
  case findings_iff =>
    intro hcounts
    rw [hstatus, hcounts, ← forall_not_hasIoError_iff]
    refine (ExitStatus.code_inj _ .findings).trans ?_
    -- that every file can be read is needed to speak of the text of one
    refine ExitStatus.ofReports_eq_findings_iff.trans ?_
    exact and_congr_right fun hread =>
      exists_not_isClean_iff (forall_not_hasIoError_iff.1 hread)
  case success_iff =>
    intro hcounts
    rw [hsuccess hcounts, forall_isClean_iff]
  case silent_iff =>
    intro hcounts
    rw [hsuccess hcounts, ← OutputFormat.render_eq_nil_iff config.format,
      ← hreports]
    rfl
  case ioError_iff => exact fun path _ => hasIoError_lintFile_iff

-- ============================================================ a whole run

/-- A run of the program on arguments that can be read fails with nothing
written if there is no configuration for them; otherwise its outcome tells of
the files named in the arguments, in the format and with the exit behaviour
of the configuration. -/
theorem run_tells (files : FileSystem) (environment : Environment)
    {words : List Text} {arguments : Arguments}
    (hwords : Arguments.parse words = .ok arguments) :
    match Config.resolve files environment.directories arguments with
    | .error _ => (run files environment words).status.code = 2
        ∧ (run files environment words).output = []
    | .ok config => (run files environment words).Tells files arguments.files
        config.format config.exitZero := by
  have hrun : run files environment words
      = runWith files environment arguments := by
    unfold run
    rw [hwords]
  rw [hrun]
  unfold runWith
  cases hconfig : Config.resolve files environment.directories arguments with
  | error error => exact ⟨rfl, rfl⟩
  | ok config =>
      rw [← Config.files_of_resolve hconfig]
      exact Outcome.tells_ofConfig files environment.schedule config

/-- One file with a finding and one that is not there. -/
theorem run_tells_missing :
    let files : FileSystem := ⟨fun _ => false, fun path =>
      if path = ['a'] then .ok (Text.utf8 ['-']).toByteArray
      else .error .notFound⟩
    let environment : Environment := ⟨⟨['.'], none⟩, [1]⟩
    Arguments.parse [['a'], ['b']]
        = .ok ⟨[['a'], ['b']], none, none, false, Arguments.defaultLogLevel⟩
      ∧ (run files environment [['a'], ['b']]).status.code = 2 := by
  intro files environment
  have hwords : Arguments.parse [['a'], ['b']]
      = .ok ⟨[['a'], ['b']], none, none, false, Arguments.defaultLogLevel⟩ :=
    rfl
  have htells : (run files environment [['a'], ['b']]).Tells files
      [['a'], ['b']] .text false := run_tells files environment hwords
  refine ⟨hwords, (htells.failure_iff rfl).2 ⟨['b'], by decide, ?_⟩⟩
  intro text hholds
  cases hholds

end QuartoLint
