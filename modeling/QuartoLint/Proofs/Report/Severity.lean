/-
The exit status as the worst severity.

A source that cannot be read is worse than anything else that is found
(`Rule.severity`). Unless findings do not count, the code of the exit status
is the highest severity of all diagnostics, whichever reports they are in
(`ExitStatus.code_ofReports_worst`).

# One bound

The highest severity is known by its bounds: a number bounds it if it bounds
the severity of every diagnostic (`worstSeverity_le_iff`). The code of the
status has the same bounds (`ExitStatus.code_ofReports_le_iff`), whether some
diagnostic is about reading, there are others only, or there is none. So the
code depends on nothing but which diagnostics there are: not on their order,
on how often they come, or on how they are put into reports.
-/
import Mathlib.Data.Nat.Basic
import Mathlib.Order.Basic
import QuartoLint.Proofs.Output.Delivery
import QuartoLint.Proofs.Report.Status

namespace QuartoLint

-- ============================================================== severities

/-- How bad it is that a rule is broken. -/
def Rule.severity : Rule → Nat
  | io => 2
  | _ => 1

/-- The severity of the rule that is broken. -/
def Diagnostic.severity (diagnostic : Diagnostic) : Nat :=
  diagnostic.rule.severity

/-- The highest severity of the diagnostics, and zero where there is none. -/
def worstSeverity (diagnostics : List Diagnostic) : Nat :=
  (diagnostics.map Diagnostic.severity).max?.getD 0

/-- The diagnostics of all reports, first report first. -/
def allDiagnostics (reports : List Report) : List Diagnostic :=
  reports.flatMap Report.diagnostics

theorem Rule.severity_le_two (rule : Rule) : rule.severity ≤ 2 := by
  cases rule <;> decide

/-- Only a source that cannot be read is worse than other findings. -/
theorem Rule.severity_of_ne_io {rule : Rule} (hrule : rule ≠ .io) :
    rule.severity = 1 := by
  cases rule with
  | io => exact absurd rfl hrule
  | _ => rfl

/-- The worst severity is within a bound if every one is. -/
theorem worstSeverity_le_iff {diagnostics : List Diagnostic} {bound : Nat} :
    worstSeverity diagnostics ≤ bound
      ↔ ∀ diagnostic ∈ diagnostics, diagnostic.severity ≤ bound := by
  unfold worstSeverity
  cases hhighest : (diagnostics.map Diagnostic.severity).max? with
  | none =>
      rw [List.max?_eq_none_iff, List.map_eq_nil_iff] at hhighest
      rw [hhighest]
      exact iff_of_true (Nat.zero_le bound) (List.forall_mem_nil _)
  | some highest =>
      rw [Option.getD_some, List.max?_le_iff hhighest, List.forall_mem_map]

variable {reports : List Report}

-- ============================================================== the status

namespace ExitStatus

/-- The status is a failure exactly if some finding of the reports is about
reading. -/
theorem ofReports_eq_failure_iff_diagnostic :
    ofReports reports false = failure
      ↔ ∃ diagnostic ∈ allDiagnostics reports, diagnostic.rule = .io := by
  rw [ofReports_eq_failure_iff]
  unfold allDiagnostics Report.hasIoError
  simp only [List.any_eq_true, beq_iff_eq, List.mem_flatMap]
  constructor
  · intro hexists
    obtain ⟨report, hreport, diagnostic, hdiagnostic, hrule⟩ := hexists
    exact ⟨diagnostic, ⟨report, hreport, hdiagnostic⟩, hrule⟩
  · intro hexists
    obtain ⟨diagnostic, ⟨report, hreport, hdiagnostic⟩, hrule⟩ := hexists
    exact ⟨report, hreport, diagnostic, hdiagnostic, hrule⟩

/-- The status is a success exactly if the reports hold no finding. -/
theorem ofReports_eq_success_iff_diagnostic :
    ofReports reports false = success ↔ allDiagnostics reports = [] := by
  rw [ofReports_eq_success_iff]
  unfold allDiagnostics Report.isClean
  rw [List.flatMap_eq_nil_iff]
  simp only [List.isEmpty_iff]

/-- The code is within a bound if the severity of every finding is. -/
theorem code_ofReports_le_iff {bound : Nat} :
    (ofReports reports false).code ≤ bound
      ↔ ∀ diagnostic ∈ allDiagnostics reports,
        diagnostic.severity ≤ bound := by
  cases hstatus : ofReports reports false with
  | success =>
      rw [ofReports_eq_success_iff_diagnostic.1 hstatus]
      exact iff_of_true (Nat.zero_le bound) (List.forall_mem_nil _)
  | findings =>
      -- not a failure, so no diagnostic is about reading
      have hread : ∀ diagnostic ∈ allDiagnostics reports,
          diagnostic.severity = 1 := by
        intro diagnostic hmem
        refine Rule.severity_of_ne_io fun hrule => ?_
        have hfailure :=
          ofReports_eq_failure_iff_diagnostic.2 ⟨diagnostic, hmem, hrule⟩
        rw [hstatus] at hfailure
        cases hfailure
      -- not a success, so there is a diagnostic
      have hfound : allDiagnostics reports ≠ [] := by
        intro hnil
        have hsuccess := ofReports_eq_success_iff_diagnostic.2 hnil
        rw [hstatus] at hsuccess
        cases hsuccess
      obtain ⟨diagnostic, hmem⟩ := List.exists_mem_of_ne_nil _ hfound
      constructor
      · intro hbound other hother
        rw [hread other hother]
        exact hbound
      · intro hall
        have hone := hall diagnostic hmem
        rw [hread diagnostic hmem] at hone
        exact hone
  | failure =>
      obtain ⟨diagnostic, hmem, hrule⟩ :=
        ofReports_eq_failure_iff_diagnostic.1 hstatus
      constructor
      · intro hbound other _
        exact Nat.le_trans (Rule.severity_le_two other.rule) hbound
      · intro hall
        have htwo := hall diagnostic hmem
        unfold Diagnostic.severity at htwo
        rw [hrule] at htwo
        exact htwo

/-- The code is the severity of the worst finding, and zero if there is
none. -/
theorem code_ofReports_eq_worstSeverity :
    (ofReports reports false).code
      = worstSeverity (allDiagnostics reports) := by
  refine eq_of_forall_ge_iff fun bound => ?_
  rw [code_ofReports_le_iff, worstSeverity_le_iff]

/-- The code of reports put together is that of the worse ones. -/
theorem code_ofReports_append (reports more : List Report) :
    (ofReports (reports ++ more) false).code
      = max (ofReports reports false).code (ofReports more false).code := by
  refine eq_of_forall_ge_iff fun bound => ?_
  rw [Nat.max_le, code_ofReports_le_iff, code_ofReports_le_iff,
    code_ofReports_le_iff]
  unfold allDiagnostics
  rw [List.flatMap_append, List.forall_mem_append]

/-- More findings never make for a lesser code. -/
theorem code_ofReports_mono {others : List Report}
    (hsubset : allDiagnostics reports ⊆ allDiagnostics others) :
    (ofReports reports false).code ≤ (ofReports others false).code := by
  rw [code_ofReports_le_iff]
  intro diagnostic hmem
  exact code_ofReports_le_iff.1 (Nat.le_refl _) diagnostic (hsubset hmem)

theorem code_ofReports_eq_zero_iff :
    (ofReports reports false).code = 0
      ↔ ∀ report ∈ reports, report.isClean = true :=
  (code_inj _ .success).trans ofReports_eq_success_iff

end ExitStatus

/-- A sink that takes anything at all has taken nothing of the reports exactly
if nothing was found. -/
theorem Sink.bytes_writeReports_eq_nil_iff (format : OutputFormat)
    {limit : Nat} (hlimit : 0 < limit) (flushFails : Bool) :
    ((limited limit flushFails).writeReports format reports).1.bytes = []
      ↔ ∀ report ∈ reports, report.isClean = true := by
  have hbytes : ((limited limit flushFails).writeReports format
      reports).1.bytes = (Text.utf8 (format.render reports)).take limit :=
    (delivers_deliver limit flushFails _).bytes
  rw [hbytes, List.take_eq_nil_iff, or_iff_right (Nat.ne_of_gt hlimit),
    Text.utf8_eq_nil_iff, OutputFormat.render_eq_nil_iff]

-- ======================================================= the worst severity

namespace ExitStatus

/-- The code of the status is the highest severity of all diagnostics. The
code of reports put together is the higher one of theirs. Reports that hold
the same diagnostics in another order or grouped in another way have the same
code, and reports that hold these diagnostics and others have no lower one.
The code is zero exactly if not a single byte is written for the reports, in
whatever format and whether the sink fails or not. -/
theorem code_ofReports_worst (reports : List Report) :
    (ofReports reports false).code = worstSeverity (allDiagnostics reports)
      ∧ (∀ more : List Report, (ofReports (reports ++ more) false).code
        = max (ofReports reports false).code (ofReports more false).code)
      ∧ (∀ others : List Report,
        (allDiagnostics others).Perm (allDiagnostics reports) →
          (ofReports others false).code = (ofReports reports false).code)
      ∧ (∀ others : List Report,
        allDiagnostics reports ⊆ allDiagnostics others →
          (ofReports reports false).code ≤ (ofReports others false).code)
      ∧ ∀ (format : OutputFormat) (limit : Nat) (flushFails : Bool),
        0 < limit →
          ((ofReports reports false).code = 0
            ↔ ((Sink.limited limit flushFails).writeReports format
              reports).1.bytes = []) := by
  refine ⟨code_ofReports_eq_worstSeverity, code_ofReports_append reports,
    ?_, fun _ => code_ofReports_mono, ?_⟩
  · intro others hsame
    exact Nat.le_antisymm (code_ofReports_mono hsame.subset)
      (code_ofReports_mono hsame.symm.subset)
  · intro format limit flushFails hlimit
    rw [code_ofReports_eq_zero_iff,
      Sink.bytes_writeReports_eq_nil_iff format hlimit]

/-- A source that could not be read and a finding about another source: put
into one report, and with one finding more. -/
theorem code_ofReports_worst_regrouped :
    let unread : Diagnostic := .forDocument .io []
    let stray : Diagnostic := .atLine .straySeparator 7 []
    let math : Diagnostic := .atLine .mathIsolation 8 []
    let reports : List Report := [⟨['a'], [stray]⟩, ⟨['b'], [unread]⟩]
    let others : List Report := [⟨['c'], [unread, stray]⟩, ⟨['d'], []⟩]
    let further : List Report := [⟨['a'], [stray, math]⟩, ⟨['b'], [unread]⟩]
    ((allDiagnostics others).Perm (allDiagnostics reports)
        ∧ (ofReports others false).code = (ofReports reports false).code)
      ∧ (allDiagnostics reports ⊆ allDiagnostics further
        ∧ (ofReports reports false).code ≤ (ofReports further false).code)
      ∧ ((ofReports reports false).code = 0
        ↔ ((Sink.limited 1 true).writeReports .json reports).1.bytes = []) := by
  intro unread stray math reports others further
  obtain ⟨-, -, hsame, hmore, hsilent⟩ := code_ofReports_worst reports
  have hperm : (allDiagnostics others).Perm (allDiagnostics reports) := by
    decide
  have hsubset : allDiagnostics reports ⊆ allDiagnostics further := by decide
  exact ⟨⟨hperm, hsame others hperm⟩, ⟨hsubset, hmore further hsubset⟩,
    hsilent .json 1 true (by decide)⟩

end ExitStatus

end QuartoLint
