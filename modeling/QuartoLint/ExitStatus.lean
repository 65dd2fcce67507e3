/-
The exit status of a run.

The status tells the worst that the reports have to say: a source that could
not be read is worse than a finding, and a finding is worse than none. A run
may also be told to succeed whatever was found.
-/
import QuartoLint.Report

namespace QuartoLint

/-- How a run ends. -/
inductive ExitStatus
  /-- Nothing was found, or findings do not count. -/
  | success
  | findings
  /-- Something could not be read, or the run could not start. -/
  | failure
deriving Repr, DecidableEq

namespace ExitStatus

def code : ExitStatus → Nat
  | success => 0
  | findings => 1
  | failure => 2

/-- The status of a run with these reports; with `exitZero` it succeeds
whatever they hold. -/
def ofReports (reports : List Report) (exitZero : Bool) : ExitStatus :=
  if exitZero then success
  else if reports.any Report.hasIoError then failure
  else if reports.all Report.isClean then success
  else findings

end ExitStatus

end QuartoLint
