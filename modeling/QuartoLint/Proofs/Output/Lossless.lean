/-
Nothing is lost in JSON lines.

The output in JSON has one line for each diagnostic of the reports, and each
line is an object from which the diagnostic and its source can be read back.
What is read back from the lines, shown as text, is therefore the output in
text.

# Records and lines

An output consists of the records of its entries with a line feed behind each
(`render_eq_lines`). A JSON record has no line feed of its own, because the
written form of an object has no control character at all, so the line feeds
of the output are exactly those between the records
(`cutAtLineFeeds_ofLines`). Each record is the written form of an object, which
reads back as that object, and this gives back the entry.
-/
import QuartoLint.Output.Record
import QuartoLint.Proofs.Document.Segments
import QuartoLint.Proofs.Json.RoundTrip

namespace QuartoLint

-- ================================================================ entries

/-- Each diagnostic of the reports with its source, report by report. -/
def reportEntries (reports : List Report) : List (Text × Diagnostic) :=
  reports.flatMap fun report =>
    report.diagnostics.map fun diagnostic => (report.source, diagnostic)

/-- The texts, each ended by a line feed. -/
def Text.ofLines (lines : List Text) : Text :=
  (lines.map (· ++ ['\n'])).flatten

theorem Text.ofLines_cons (line : Text) (rest : List Text) :
    Text.ofLines (line :: rest) = line ++ '\n' :: Text.ofLines rest := by
  unfold Text.ofLines
  rw [List.map_cons, List.flatten_cons, List.append_assoc]
  rfl

theorem Text.ofLines_append (lines more : List Text) :
    Text.ofLines (lines ++ more) = Text.ofLines lines ++ Text.ofLines more := by
  unfold Text.ofLines
  rw [List.map_append, List.flatten_append]

theorem reportEntries_cons (report : Report) (rest : List Report) :
    reportEntries (report :: rest)
      = report.diagnostics.map (fun diagnostic => (report.source, diagnostic))
        ++ reportEntries rest :=
  List.flatMap_cons

/-- The pieces in which the diagnostics of one source are written make up its
records, one on each line. -/
theorem OutputFormat.flatten_pieces_eq (format : OutputFormat)
    (source : Text) (diagnostics : List Diagnostic) :
    (diagnostics.flatMap fun diagnostic =>
        [format.record source diagnostic, ['\n']]).flatten
      = Text.ofLines (diagnostics.map (format.record source)) := by
  induction diagnostics with
  | nil => rfl
  | cons diagnostic rest ih =>
      rw [List.map_cons, Text.ofLines_cons, ← ih]
      rfl

/-- An output consists of its records, one on each line. -/
theorem OutputFormat.render_eq_lines (format : OutputFormat)
    (reports : List Report) :
    format.render reports = Text.ofLines ((reportEntries reports).map
      fun entry => format.record entry.1 entry.2) := by
  unfold render pieces
  induction reports with
  | nil => rfl
  | cons report rest ih =>
      rw [List.flatMap_cons, List.flatten_append, ih,
        format.flatten_pieces_eq, reportEntries_cons, List.map_append,
        Text.ofLines_append, List.map_map]
      rfl

/-- Texts without line feeds are the lines of what they make up. -/
theorem Text.cutAtLineFeeds_ofLines {lines : List Text}
    (hlines : ∀ line ∈ lines, '\n' ∉ line) :
    Text.cutAtLineFeeds (Text.ofLines lines) = lines := by
  induction lines with
  | nil => rfl
  | cons line rest ih =>
      obtain ⟨hline, hrest⟩ := List.forall_mem_cons.1 hlines
      rw [Text.ofLines_cons, Text.cutAtLineFeeds_append hline, ih hrest]

-- ============================================================ JSON records

/-- A record is read back. -/
theorem read?_formatJson (source : Text) (diagnostic : Diagnostic) :
    Json.read? (formatJson source diagnostic)
      = some (recordOf source diagnostic) :=
  Json.read?_write _

/-- A record stays on one line. -/
theorem lineFeed_notMem_formatJson (source : Text) (diagnostic : Diagnostic) :
    '\n' ∉ formatJson source diagnostic := by
  -- a line feed would be a control character
  intro hmem
  have hle := Json.noControl_write (recordOf source diagnostic) '\n' hmem
  revert hle
  decide

/-- The lines of the output are its records. -/
theorem cutAtLineFeeds_render_json (reports : List Report) :
    Text.cutAtLineFeeds (OutputFormat.json.render reports)
      = (reportEntries reports).map
        fun entry => formatJson entry.1 entry.2 := by
  rw [OutputFormat.render_eq_lines]
  refine Text.cutAtLineFeeds_ofLines (List.forall_mem_map.2 fun entry _ => ?_)
  exact lineFeed_notMem_formatJson entry.1 entry.2

/-- The entries are read back from their records. -/
theorem mapM_read?_formatJson (entries : List (Text × Diagnostic)) :
    (entries.map fun entry => formatJson entry.1 entry.2).mapM
        (fun line => Json.read? line >>= ofRecord?)
      = some entries := by
  induction entries with
  | nil => rfl
  | cons entry rest ih =>
      obtain ⟨source, diagnostic⟩ := entry
      have hentry : (Json.read? (formatJson source diagnostic) >>= ofRecord?)
          = some (source, diagnostic) := by
        rw [read?_formatJson]
        exact ofRecord?_recordOf source diagnostic
      rw [List.map_cons, List.mapM_cons, hentry, ih]
      rfl

-- ============================================================== the output

/-- The output in JSON is made of records without control characters, each
ended by a line feed, and cutting it at its line feeds gives back these
records, one for each diagnostic and in their order. Each record is read as
an object with the source, the rule, the line and the message of its
diagnostic and nothing else, so that all diagnostics with their sources are
read back from the output; and shown as text, one on each line, they are the
output in text. -/
theorem readRecords?_render (reports : List Report) :
    let output := OutputFormat.json.render reports
    let records := (reportEntries reports).map
      fun entry => formatJson entry.1 entry.2
    output = Text.ofLines records
      ∧ (∀ record ∈ records, ∀ c ∈ record, 0x20 ≤ c.toNat)
      ∧ Text.cutAtLineFeeds output = records
      ∧ records.map Json.read?
        = (reportEntries reports).map (fun entry => some
          [("source".toList, .string entry.1),
            ("rule".toList, .string entry.2.rule.name),
            ("line".toList, (entry.2.line.map Json.Scalar.number).getD .null),
            ("message".toList, .string entry.2.message)])
      ∧ readRecords? output = some (reportEntries reports)
      ∧ (readRecords? output).map (fun entries => Text.ofLines
          (entries.map fun entry => formatText entry.1 entry.2))
        = some (OutputFormat.text.render reports) := by
  intro output records
  have hread : readRecords? output = some (reportEntries reports) := by
    unfold readRecords?
    rw [cutAtLineFeeds_render_json]
    exact mapM_read?_formatJson _
  refine ⟨OutputFormat.render_eq_lines .json reports, ?_,
    cutAtLineFeeds_render_json reports, ?_, hread, ?_⟩
  · refine List.forall_mem_map.2 fun entry _ => ?_
    exact Json.noControl_write (recordOf entry.1 entry.2)
  · rw [List.map_map]
    refine List.map_congr_left fun entry _ => ?_
    obtain ⟨source, rule, line, message⟩ := entry
    refine (read?_formatJson source ⟨rule, line, message⟩).trans ?_
    cases line <;> rfl
  · rw [hread, OutputFormat.render_eq_lines]
    rfl

end QuartoLint
