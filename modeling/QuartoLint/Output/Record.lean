/-
Reading records back.

A JSON record holds all that a diagnostic and its source say. Records stand
on lines of their own, so an output in JSON is read line by line.
-/
import QuartoLint.Json.Reader
import QuartoLint.Output
import QuartoLint.Text.Lines

namespace QuartoLint

/-- A position, or none, as a field shows it. -/
def positionOf? : Json.Scalar → Option (Option Nat)
  | .null => some none
  | .number n => some (some n)
  | .string _ => none

/-- The source and the diagnostic of a record. -/
def ofRecord? : Json.Object → Option (Text × Diagnostic)
  | [(sourceName, .string source), (ruleName, .string rule),
      (lineName, line), (messageName, .string message)] =>
    if sourceName == "source".toList && ruleName == "rule".toList
        && lineName == "line".toList && messageName == "message".toList then do
      return (source, ⟨← Rule.ofName? rule, ← positionOf? line, message⟩)
    else none
  | _ => none

/-- A record gives back its source and its diagnostic. -/
theorem ofRecord?_recordOf (source : Text) (diagnostic : Diagnostic) :
    ofRecord? (recordOf source diagnostic) = some (source, diagnostic) := by
  obtain ⟨rule, line, message⟩ := diagnostic
  cases line <;>
    simp [recordOf, ofRecord?, positionOf?, Rule.ofName?_name]

/-- The source and the diagnostic of each line of a JSON output. -/
def readRecords? (output : Text) : Option (List (Text × Diagnostic)) :=
  (Text.cutAtLineFeeds output).mapM fun line =>
    Json.read? line >>= ofRecord?

end QuartoLint
