/-
How findings are shown.

Each diagnostic becomes one record, and each record is ended by a line feed.
A text record names the source, says what is wrong and ends with the
position of the line, or with a period where there is none. A JSON record is
an object on one line with the source, the rule, the line and the message.
-/
import QuartoLint.Json.Writer
import QuartoLint.Report

namespace QuartoLint

/-- How diagnostics are written. -/
inductive OutputFormat
  | text
  | json
deriving Repr, DecidableEq, Inhabited

namespace OutputFormat

def all : List OutputFormat := [text, json]

def name : OutputFormat → Text
  | text => "text".toList
  | json => "json".toList

/-- The format of a name, which has to match letter for letter. -/
def ofName? (value : Text) : Option OutputFormat :=
  all.find? fun format => format.name == value

/-- The format of a name whose ASCII letters may be of either case. -/
def ofNameAnyCase? (value : Text) : Option OutputFormat :=
  all.find? fun format => format.name == value.map Char.toLower

/-- A format is found by its name. -/
theorem ofName?_name (format : OutputFormat) :
    ofName? format.name = some format := by
  cases format <;> decide

/-- No two formats have one name. -/
theorem name_injective {format other : OutputFormat}
    (hname : format.name = other.name) : format = other := by
  have hread := ofName?_name format
  rw [hname, ofName?_name other] at hread
  exact (Option.some.inj hread).symm

/-- A format is found by no other name. -/
theorem ofName?_eq_some_iff {value : Text} {format : OutputFormat} :
    ofName? value = some format ↔ value = format.name := by
  constructor
  · intro hfound
    have hname := List.find?_some hfound
    rw [beq_iff_eq] at hname
    exact hname.symm
  · rintro rfl
    exact ofName?_name format

/-- The names of formats are `text` and `json`, letter for letter. -/
theorem ofName?_eq_none_iff {value : Text} :
    ofName? value = none
      ↔ value ≠ "text".toList ∧ value ≠ "json".toList := by
  unfold ofName? all
  rw [List.find?_eq_none, List.forall_mem_cons, List.forall_mem_singleton,
    beq_iff_eq, beq_iff_eq]
  exact and_congr ne_comm ne_comm

end OutputFormat

-- =========================================================== one record

/-- A diagnostic as text, without its line end. -/
def formatText (source : Text) (diagnostic : Diagnostic) : Text :=
  source ++ ": Error: ".toList ++ diagnostic.message ++
    match diagnostic.line with
    | some position => " on line ".toList ++ Nat.toDigits 10 position
    | none => ".".toList

/-- The fields of a diagnostic, in the order in which they are written. -/
def recordOf (source : Text) (diagnostic : Diagnostic) : Json.Object :=
  [("source".toList, .string source),
    ("rule".toList, .string diagnostic.rule.name),
    ("line".toList,
      match diagnostic.line with
      | some position => .number position
      | none => .null),
    ("message".toList, .string diagnostic.message)]

/-- A diagnostic as a JSON object on one line, without its line end. -/
def formatJson (source : Text) (diagnostic : Diagnostic) : Text :=
  (recordOf source diagnostic).write

namespace OutputFormat

def record : OutputFormat → Text → Diagnostic → Text
  | text => formatText
  | json => formatJson

-- ========================================================== all records

/-- The pieces in which the records of the reports are written: each record,
and behind it its line end. -/
def pieces (format : OutputFormat) (reports : List Report) : List Text :=
  reports.flatMap fun report =>
    report.diagnostics.flatMap fun diagnostic =>
      [format.record report.source diagnostic, ['\n']]

/-- All that is written for the reports. -/
def render (format : OutputFormat) (reports : List Report) : Text :=
  (format.pieces reports).flatten

end OutputFormat

end QuartoLint
