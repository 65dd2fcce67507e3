/-
Reports: the findings about one source, under its name.

The report of a document holds what its validation found. A report is clean
when it holds nothing, and it has an I/O error when one of its diagnostics
says that the source could not be read.
-/
import QuartoLint.Scan

namespace QuartoLint

/-- The name of a source and what was found in it, in order. -/
structure Report where
  source : Text
  diagnostics : List Diagnostic
deriving Repr, DecidableEq

namespace Report

/-- Whether nothing was found. -/
def isClean (report : Report) : Bool :=
  report.diagnostics.isEmpty

/-- Whether the source could not be read. -/
def hasIoError (report : Report) : Bool :=
  report.diagnostics.any fun diagnostic => diagnostic.rule == .io

end Report

/-- The report of a document that has been loaded. -/
def lintDocument (document : Document) : Report where
  source := document.source
  diagnostics := (validate document).toList

end QuartoLint
