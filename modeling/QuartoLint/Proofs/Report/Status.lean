/-
What the exit status and the output tell of the reports.

Unless findings do not count, the exit status says which of three cases the
reports are in: some source could not be read, all could but something was
found, or nothing was found (`ofReports_eq_failure_iff`,
`ofReports_eq_findings_iff`, `ofReports_eq_success_iff`). The output tells
the last case from the others: each diagnostic writes at least its line end,
so nothing is written exactly if nothing was found (`render_eq_nil_iff`).
-/
import QuartoLint.ExitStatus
import QuartoLint.Output

namespace QuartoLint

variable {reports : List Report}

/-- A source that could not be read is not clean: the report says so. -/
theorem Report.isClean_eq_false_of_hasIoError {report : Report}
    (herror : report.hasIoError = true) : report.isClean = false := by
  obtain ⟨diagnostic, hmem, -⟩ := List.any_eq_true.1 herror
  exact List.isEmpty_eq_false_iff_exists_mem.2 ⟨diagnostic, hmem⟩

-- ============================================================ exit status

namespace ExitStatus

/-- The three statuses have three codes. -/
theorem code_inj (status other : ExitStatus) :
    status.code = other.code ↔ status = other := by
  cases status <;> cases other <;> decide

/-- Where findings do not count, no report matters. -/
theorem ofReports_true : ofReports reports true = success := rfl

theorem ofReports_false :
    ofReports reports false = if reports.any Report.hasIoError then failure
      else if reports.all Report.isClean then success else findings := rfl

/-- The run fails exactly if some source could not be read, whatever else was
found. -/
theorem ofReports_eq_failure_iff :
    ofReports reports false = failure
      ↔ ∃ report ∈ reports, report.hasIoError = true := by
  rw [ofReports_false, ← List.any_eq_true]
  split
  case isTrue herror => exact iff_of_true rfl herror
  case isFalse herror =>
    refine iff_of_false (fun hstatus => ?_) herror
    split at hstatus <;> cases hstatus

/-- The run succeeds exactly if every report is clean. -/
theorem ofReports_eq_success_iff :
    ofReports reports false = success
      ↔ ∀ report ∈ reports, report.isClean = true := by
  rw [ofReports_false, ← List.all_eq_true]
  split
  case isTrue herror =>
    -- a source that could not be read is not clean either
    refine iff_of_false (fun hstatus => by cases hstatus) fun hall => ?_
    obtain ⟨report, hmem, herror⟩ := List.any_eq_true.1 herror
    have hclean := List.all_eq_true.1 hall report hmem
    rw [Report.isClean_eq_false_of_hasIoError herror] at hclean
    cases hclean
  case isFalse =>
    split
    case isTrue hall => exact iff_of_true rfl hall
    case isFalse hall => exact iff_of_false (fun hstatus => by cases hstatus) hall

/-- The status tells of findings exactly if every source could be read and
something was found in one. -/
theorem ofReports_eq_findings_iff :
    ofReports reports false = findings
      ↔ (∀ report ∈ reports, report.hasIoError = false)
        ∧ ∃ report ∈ reports, report.isClean = false := by
  have hfailure := @ofReports_eq_failure_iff reports
  have hsuccess := @ofReports_eq_success_iff reports
  have hnoError : (∀ report ∈ reports, report.hasIoError = false)
      ↔ ¬ ∃ report ∈ reports, report.hasIoError = true := by
    simp only [not_exists, not_and, Bool.not_eq_true]
  have hnotClean : (∃ report ∈ reports, report.isClean = false)
      ↔ ¬ ∀ report ∈ reports, report.isClean = true := by
    simp only [Classical.not_forall, exists_prop, Bool.not_eq_true]
  rw [hnoError, hnotClean, ← hfailure, ← hsuccess]
  cases ofReports reports false <;> decide

end ExitStatus

-- ================================================================= output

/-- Nothing is written exactly if nothing was found, in either format. -/
theorem OutputFormat.render_eq_nil_iff (format : OutputFormat) :
    format.render reports = []
      ↔ ∀ report ∈ reports, report.isClean = true := by
  unfold OutputFormat.render OutputFormat.pieces
  rw [List.flatten_eq_nil_iff]
  constructor
  · intro hempty report hreport
    refine List.isEmpty_iff.2 (List.eq_nil_iff_forall_not_mem.2 ?_)
    intro diagnostic hdiagnostic
    -- the line end of the diagnostic would have been written
    have hpiece := hempty ['\n'] (List.mem_flatMap.2 ⟨report, hreport,
      List.mem_flatMap.2 ⟨diagnostic, hdiagnostic,
        List.mem_cons_of_mem _ List.mem_cons_self⟩⟩)
    cases hpiece
  · intro hclean piece hpiece
    obtain ⟨report, hreport, hpiece⟩ := List.mem_flatMap.1 hpiece
    rw [List.isEmpty_iff.1 (hclean report hreport)] at hpiece
    cases hpiece

end QuartoLint
