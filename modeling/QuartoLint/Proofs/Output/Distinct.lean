/-
What was found shows in what is written, in either format.

A text record escapes nothing and leaves the rule out, and the name of the
source may itself hold line feeds or what looks like a record. Still, of two
documents under one name, the outputs are the same only if the findings are
(`render_lintDocument_inj`).

# Reading a text record from both ends

What stands in front of the message is the same in all records of one source
and falls away, whatever the name is. Behind the message there is a period, or
the blank before the position and then digits only, so the end of a record
tells where its message ends (`append_recordEnd_inj`).

# From one record to the next

Once the name is out of the way, a record of the scan has no line feed: its
message is one of those that a scan has to say, and none of these holds one.
So the first line feed is the end of the record, and the records come off the
output one after another (`ofLines_formatText_inj`). The message also gives
back the rule, because no two rules share one.
-/
import QuartoLint.Proofs.Output.Lossless
import QuartoLint.Proofs.Scan.Findings

namespace QuartoLint

-- ========================================================== one text record

/-- What stands between the message and the blank before the position. -/
def lineMark : Text := [' ', 'o', 'n', ' ', 'l', 'i', 'n', 'e']

/-- What stands behind the message in a text record. -/
def recordEnd : Option Nat → Text
  | some position => lineMark ++ ' ' :: Nat.toDigits 10 position
  | none => ['.']

theorem formatText_eq_append (source : Text) (diagnostic : Diagnostic) :
    formatText source diagnostic
      = (source ++ ": Error: ".toList)
        ++ (diagnostic.message ++ recordEnd diagnostic.line) := by
  have hmark : " on line ".toList = lineMark ++ [' '] := by decide
  unfold formatText
  rw [List.append_assoc (source ++ _)]
  cases diagnostic.line with
  | none => rfl
  | some position =>
      dsimp only
      rw [hmark, List.append_assoc lineMark]
      rfl

/-- Numbers with the same digits are the same. -/
theorem toDigits_inj {n m : Nat}
    (hsame : Nat.toDigits 10 n = Nat.toDigits 10 m) : n = m := by
  have hread := congrArg (Text.ofDigits? 10) hsame
  rw [Text.ofDigits?_toDigits, Text.ofDigits?_toDigits] at hread
  exact Option.some.inj hread

theorem notMem_toDigits {c : Char} (hc : c.isDigit = false) (n : Nat) :
    c ∉ Nat.toDigits 10 n := by
  intro hmem
  have hdigit := Nat.isDigit_of_mem_toDigits (by decide) (by decide) hmem
  rw [hc] at hdigit
  cases hdigit

/-- The end of a record is a period exactly if no line is named. -/
theorem getLast?_append_recordEnd (text : Text) (line : Option Nat) :
    (text ++ recordEnd line).getLast? = some '.' ↔ line = none := by
  cases line with
  | none => simp [recordEnd]
  | some position =>
      refine iff_of_false (fun hlast => ?_) (Option.some_ne_none _)
      have hne : Nat.toDigits 10 position ≠ [] := Nat.toDigits_ne_nil
      have hdigits : (Nat.toDigits 10 position).getLast? = some '.' := by
        rwa [recordEnd, List.append_cons, ← List.append_assoc,
          List.getLast?_append_of_ne_nil _ hne] at hlast
      exact notMem_toDigits (by decide) _ (List.mem_of_getLast? hdigits)

/-- The message and the line are told by what a record says of them. -/
theorem append_recordEnd_inj {message other : Text} {line place : Option Nat}
    (hsame : message ++ recordEnd line = other ++ recordEnd place) :
    message = other ∧ line = place := by
  have hperiod : line = none ↔ place = none := by
    rw [← getLast?_append_recordEnd message, hsame, getLast?_append_recordEnd]
  cases line with
  | none =>
      rw [hperiod.1 rfl] at hsame ⊢
      exact ⟨List.append_cancel_right hsame, rfl⟩
  | some n =>
      cases place with
      | none => cases hperiod.2 rfl
      | some m =>
          -- the last blank stands right before the digits
          unfold recordEnd at hsame
          rw [← List.append_assoc, ← List.append_assoc] at hsame
          obtain ⟨hfront, hdigits⟩ := Text.append_mark_inj_of_last
            (notMem_toDigits (by decide) n) (notMem_toDigits (by decide) m)
            hsame
          rw [toDigits_inj hdigits]
          exact ⟨List.append_cancel_right hfront, rfl⟩

/-- A text record tells the line and the message of its diagnostic. -/
theorem formatText_inj (source : Text) {diagnostic other : Diagnostic} :
    formatText source diagnostic = formatText source other
      ↔ diagnostic.line = other.line
        ∧ diagnostic.message = other.message := by
  rw [formatText_eq_append, formatText_eq_append]
  constructor
  · intro hsame
    exact (append_recordEnd_inj (List.append_cancel_left hsame)).symm
  · intro hsame
    rw [hsame.1, hsame.2]

-- ============================================================= text outputs

/-- What a scan has to say holds no line feed, and no two rules share any of
it. -/
theorem scanMessages_tell :
    (∀ said ∈ scanMessages, '\n' ∉ said.2)
      ∧ ∀ said ∈ scanMessages, ∀ again ∈ scanMessages,
        said.2 = again.2 → said.1 = again.1 := by
  -- character by character first, since the literals decide slowly
  have hmath : LineRule.mathIsolation.message = _ := String.toList_ofList
  have hfence : LineRule.fenceIsolation.message = _ := String.toList_ofList
  have hstray : LineRule.straySeparator.message = _ := String.toList_ofList
  have hheader : headerMessage = _ := String.toList_ofList
  have hunclosed : unclosedMessage = _ := String.toList_ofList
  have hunopened : unopenedMessage = _ := String.toList_ofList
  unfold scanMessages LineRule.all
  rw [List.map_cons, List.map_cons, List.map_cons, hmath, hfence, hstray,
    hheader, hunclosed, hunopened]
  decide +kernel

/-- Whether a scan can have made the diagnostic, as far as its rule and its
message tell. -/
def Diagnostic.IsOfScan (diagnostic : Diagnostic) : Prop :=
  (diagnostic.rule, diagnostic.message) ∈ scanMessages

variable {diagnostic other : Diagnostic}

theorem lineFeed_notMem_recordEnd (line : Option Nat) :
    '\n' ∉ recordEnd line := by
  cases line with
  | none => decide
  | some position =>
      have hdigits : '\n' ∉ Nat.toDigits 10 position :=
        notMem_toDigits (by decide) position
      rw [recordEnd, List.mem_append, List.mem_cons, not_or, not_or]
      exact ⟨by decide, by decide, hdigits⟩

/-- What a scan says of a source stays on one line. -/
theorem Diagnostic.IsOfScan.lineFeed_notMem (hscan : diagnostic.IsOfScan) :
    '\n' ∉ diagnostic.message ++ recordEnd diagnostic.line := by
  intro hmem
  rcases List.mem_append.1 hmem with hmessage | hend
  · exact scanMessages_tell.1 _ hscan hmessage
  · exact lineFeed_notMem_recordEnd _ hend

/-- No two rules have a message of a scan in common. -/
theorem Diagnostic.IsOfScan.rule_eq (hscan : diagnostic.IsOfScan)
    (hother : other.IsOfScan) (hmessage : diagnostic.message = other.message) :
    diagnostic.rule = other.rule :=
  scanMessages_tell.2 _ hscan _ hother hmessage

theorem ofLines_formatText_cons (source : Text) (diagnostic : Diagnostic)
    (rest : List Diagnostic) :
    Text.ofLines ((diagnostic :: rest).map (formatText source))
      = (source ++ ": Error: ".toList)
        ++ ((diagnostic.message ++ recordEnd diagnostic.line)
          ++ '\n' :: Text.ofLines (rest.map (formatText source))) := by
  rw [List.map_cons, Text.ofLines_cons, formatText_eq_append,
    List.append_assoc]

/-- Diagnostics of a scan are told by their text records, one on each line,
even where the name of the source has line feeds. -/
theorem ofLines_formatText_inj (source : Text)
    {diagnostics others : List Diagnostic}
    (hscan : ∀ diagnostic ∈ diagnostics, diagnostic.IsOfScan)
    (hothers : ∀ diagnostic ∈ others, diagnostic.IsOfScan)
    (hsame : Text.ofLines (diagnostics.map (formatText source))
      = Text.ofLines (others.map (formatText source))) :
    diagnostics = others := by
  induction diagnostics generalizing others with
  | nil =>
      cases others with
      | nil => rfl
      | cons other others =>
          rw [ofLines_formatText_cons] at hsame
          simp [Text.ofLines] at hsame
  | cons diagnostic diagnostics ih =>
      cases others with
      | nil =>
          rw [ofLines_formatText_cons] at hsame
          simp [Text.ofLines] at hsame
      | cons other others =>
          obtain ⟨hfirst, hscan⟩ := List.forall_mem_cons.1 hscan
          obtain ⟨hsecond, hothers⟩ := List.forall_mem_cons.1 hothers
          rw [ofLines_formatText_cons, ofLines_formatText_cons] at hsame
          -- behind the name, the first line feed ends the record
          obtain ⟨hrecord, hrest⟩ := Text.append_mark_inj
            hfirst.lineFeed_notMem hsecond.lineFeed_notMem
            (List.append_cancel_left hsame)
          obtain ⟨hmessage, hline⟩ := append_recordEnd_inj hrecord
          have hrule := hfirst.rule_eq hsecond hmessage
          have heq : diagnostic = other := by
            obtain ⟨rule, line, message⟩ := diagnostic
            rw [show rule = other.rule from hrule,
              show line = other.line from hline,
              show message = other.message from hmessage]
          rw [heq, ih hscan hothers hrest]

-- ============================================================= JSON outputs

/-- All diagnostics with their sources are told by the output in JSON. -/
theorem reportEntries_eq_of_render_json {reports others : List Report}
    (hsame : OutputFormat.json.render reports
      = OutputFormat.json.render others) :
    reportEntries reports = reportEntries others := by
  have hrecords := congrArg Text.cutAtLineFeeds hsame
  rw [cutAtLineFeeds_render_json, cutAtLineFeeds_render_json] at hrecords
  have hread := congrArg
    (List.mapM fun line => Json.read? line >>= ofRecord?) hrecords
  rw [mapM_read?_formatJson, mapM_read?_formatJson] at hread
  exact Option.some.inj hread

-- ================================================================ documents

theorem reportEntries_lintDocument (document : Document) :
    reportEntries [lintDocument document]
      = (validate document).toList.map fun diagnostic =>
          (document.source, diagnostic) :=
  List.append_nil _

/-- The text output about a document is one record a line. -/
theorem render_text_lintDocument (document : Document) :
    OutputFormat.text.render [lintDocument document]
      = Text.ofLines
        ((validate document).toList.map (formatText document.source)) := by
  rw [OutputFormat.render_eq_lines, reportEntries_lintDocument, List.map_map]
  rfl

/-- The findings about a document are told by either output of its report
and the name of its source. -/
theorem toList_validate_of_render {document other : Document}
    (hsource : document.source = other.source) (format : OutputFormat)
    (hsame : format.render [lintDocument document]
      = format.render [lintDocument other]) :
    (validate document).toList = (validate other).toList := by
  cases format with
  | text =>
      rw [render_text_lintDocument, render_text_lintDocument, hsource] at hsame
      exact ofLines_formatText_inj other.source
        (fun _ hmem => mem_scanMessages_of_mem_validate hmem)
        (fun _ hmem => mem_scanMessages_of_mem_validate hmem) hsame
  | json =>
      have hentries := reportEntries_eq_of_render_json hsame
      rw [reportEntries_lintDocument, reportEntries_lintDocument, hsource]
        at hentries
      refine List.map_injective_iff.2 (fun first second heq => ?_) hentries
      exact (Prod.mk.inj heq).2

/-- Two documents under one name have the same output, in either format,
exactly if they have the same findings. A text record tells the line and the
message of its diagnostic, whatever they are, and ends in a period exactly if
there is no line. -/
theorem render_lintDocument_inj (source : Text) :
    (∀ (lines others : List Text) (format : OutputFormat),
      format.render [lintDocument ⟨source, lines⟩]
          = format.render [lintDocument ⟨source, others⟩]
        ↔ (validate ⟨source, lines⟩).toList
          = (validate ⟨source, others⟩).toList)
      ∧ (∀ diagnostic other : Diagnostic,
        formatText source diagnostic = formatText source other
          ↔ diagnostic.line = other.line
            ∧ diagnostic.message = other.message)
      ∧ ∀ diagnostic : Diagnostic,
        (formatText source diagnostic).getLast? = some '.'
          ↔ diagnostic.line = none := by
  refine ⟨fun lines others format => ⟨?_, ?_⟩,
    fun diagnostic other => formatText_inj source, fun diagnostic => ?_⟩
  · intro hsame
    refine toList_validate_of_render ?_ format hsame
    rfl
  · intro hsame
    have hreports : lintDocument ⟨source, lines⟩
        = lintDocument ⟨source, others⟩ := congrArg (Report.mk source) hsame
    rw [hreports]
  · rw [formatText_eq_append, ← List.append_assoc, getLast?_append_recordEnd]

end QuartoLint
