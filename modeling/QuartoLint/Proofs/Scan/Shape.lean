/-
The shape of what is found.

The findings about a document come in two parts: those about its lines, each
with a position, and then those about the whole, without one
(`validate_shape`). The first part is told by breaches, a breach being a rule
of the body and the position of a line that breaks it. The second part names
the rule about the header and the rule about the containers, each at most once
and in this order.

# The order of breaches

Breaches are ordered by position, and those of one line by the rules in the
order in which they are checked (`Breach.Earlier`). One line has its breaches
in this order, because they are rules picked from a list that is in order
(`Breach.pairwise_onLine`), and what is found in a line further on is at a
position further on. So the breaches of a body are strictly increasing, and
none is there twice (`Breach.pairwise_inLines`).

# How many there are

The body begins at the second separator, which breaks no rule and has another
separator somewhere before it. This leaves out two lines at least, and of the
others each has up to three findings (`length_bodyFindings_le`).
-/
import Mathlib.Data.List.Nodup
import QuartoLint.Proofs.Scan.Composition

namespace QuartoLint

-- ================================================================ breaches

/-- A rule of the body and the position of a line that breaks it. -/
structure Breach where
  position : Nat
  broken : LineRule
deriving Repr, DecidableEq

namespace Breach

def diagnostic (breach : Breach) : Diagnostic :=
  .atLine breach.broken.rule breach.position breach.broken.message

/-- Whether a breach comes before another: on an earlier line, or on the same
line by a rule that is checked earlier. -/
def Earlier (first second : Breach) : Prop :=
  first.position < second.position
    ∨ first.position = second.position
      ∧ LineRule.all.idxOf first.broken < LineRule.all.idxOf second.broken

def onLine (position : Nat) (line : Text) : List Breach :=
  (bodyViolations line).map fun broken => ⟨position, broken⟩

/-- The breaches in lines of the body, the first of which stands at
`start`. -/
def inLines (start : Nat) (lines : List Text) : List Breach :=
  (lines.zipIdx start).flatMap fun (line, position) => onLine position line

/-- A breach is told by its diagnostic. -/
theorem diagnostic_injective {first second : Breach}
    (hsame : first.diagnostic = second.diagnostic) : first = second := by
  have hrule := LineRule.rule_injective (congrArg Diagnostic.rule hsame)
  have hposition := Option.some.inj (congrArg Diagnostic.line hsame)
  obtain ⟨position, broken⟩ := first
  obtain ⟨place, other⟩ := second
  rw [show position = place from hposition, show broken = other from hrule]

/-- No breach comes before itself. -/
theorem Earlier.ne {first second : Breach} (hearlier : first.Earlier second) :
    first ≠ second := by
  rintro rfl
  rcases hearlier with hlt | ⟨-, hlt⟩
  · exact Nat.lt_irrefl _ hlt
  · exact Nat.lt_irrefl _ hlt

/-- The breaches of a line are at its position. -/
theorem position_of_mem_onLine {breach : Breach} {position : Nat}
    {line : Text} (hmem : breach ∈ onLine position line) :
    breach.position = position := by
  obtain ⟨broken, -, rfl⟩ := List.mem_map.1 hmem
  rfl

/-- The breaches of one line come in the order of the rules. -/
theorem pairwise_onLine (position : Nat) (line : Text) :
    (onLine position line).Pairwise Earlier := by
  have hall : LineRule.all.Pairwise fun first second =>
      LineRule.all.idxOf first < LineRule.all.idxOf second := by decide
  unfold onLine bodyViolations
  rw [List.pairwise_map]
  exact (hall.filter _).imp fun hlt => .inr ⟨rfl, hlt⟩

/-- Positions ascend. -/
theorem pairwise_zipIdx (start : Nat) (lines : List Text) :
    (lines.zipIdx start).Pairwise fun first second =>
      first.2 < second.2 := by
  rw [← List.pairwise_map, List.zipIdx_map_snd]
  exact List.pairwise_lt_range'

/-- The breaches of all lines come in order, none of them twice. -/
theorem pairwise_inLines (start : Nat) (lines : List Text) :
    (inLines start lines).Pairwise Earlier := by
  unfold inLines
  rw [List.pairwise_flatMap]
  -- within one line by rule, from line to line by position
  refine ⟨fun _ _ => pairwise_onLine _ _, ?_⟩
  refine (pairwise_zipIdx start lines).imp ?_
  intro here there hlt first hfirst second hsecond
  left
  rw [position_of_mem_onLine hfirst, position_of_mem_onLine hsecond]
  exact hlt

/-- A line breaks each of the three rules once at most. -/
theorem length_onLine_le (position : Nat) (line : Text) :
    (onLine position line).length ≤ 3 := by
  unfold onLine
  rw [List.length_map]
  exact List.length_filter_le _ LineRule.all

theorem length_inLines_le (start : Nat) (lines : List Text) :
    (inLines start lines).length ≤ 3 * lines.length := by
  induction lines generalizing start with
  | nil => exact Nat.le_refl 0
  | cons line rest ih =>
      have hline := length_onLine_le start line
      have hrest := ih (start + 1)
      show (onLine start line ++ inLines (start + 1) rest).length ≤ _
      rw [List.length_append, List.length_cons]
      omega

end Breach

-- ================================================================ the body

/-- The findings in lines are their breaches. -/
theorem findingsFrom_eq_map (start : Nat) (lines : List Text) :
    findingsFrom start lines
      = (Breach.inLines start lines).map Breach.diagnostic := by
  unfold findingsFrom Breach.inLines
  rw [List.map_flatMap]
  congr
  funext ⟨line, position⟩
  dsimp only
  rw [lineFindings_eq_map, Breach.onLine, List.map_map]
  rfl

/-- A breach in lines is at the position of one of them. -/
theorem Breach.position_of_mem_inLines {breach : Breach} {start : Nat}
    {lines : List Text} (hmem : breach ∈ inLines start lines) :
    start ≤ breach.position ∧ breach.position < start + lines.length := by
  have hfound : breach.diagnostic ∈ findingsFrom start lines := by
    rw [findingsFrom_eq_map]
    exact List.mem_map_of_mem hmem
  obtain ⟨broken, position, heq, hrange⟩ := eq_of_mem_findingsFrom hfound
  have hposition := Option.some.inj (congrArg Diagnostic.line heq)
  rw [show breach.position = position from hposition]
  exact hrange

/-- At the start of the body there is a separator, and another one stands
somewhere before it. -/
theorem separator_at_bodyStart? {lines : List Text} {start : Nat}
    (hstart : bodyStart? lines = some start) :
    0 < start ∧ lines[start]? = some Mark.separator := by
  unfold bodyStart? at hstart
  obtain ⟨hlength, rfl⟩ := List.getElem?_eq_some_iff.1 hstart
  constructor
  · have hsorted : (lines.idxsOf Mark.separator).Pairwise (· < ·) :=
      List.pairwise_idxsOf
    exact Nat.zero_lt_of_lt
      (List.pairwise_iff_getElem.1 hsorted 0 1 (by omega) hlength (by decide))
  · rw [List.getElem?_eq_some_iff]
    exact ⟨_, List.getElem_getElem_idxsOf_of_lawful hlength⟩

/-- The breaches of all lines behind the second separator. -/
def bodyBreaches (lines : List Text) : List Breach :=
  match bodyStart? lines with
  | none => []
  | some start => Breach.inLines (start + 1) (lines.drop (start + 1))

/-- The findings in the body are the breaches behind the second separator,
which is not one of them. -/
theorem bodyFindings_eq_map (lines : List Text) :
    bodyFindings lines = (bodyBreaches lines).map Breach.diagnostic := by
  unfold bodyFindings bodyBreaches
  cases hstart : bodyStart? lines with
  | none => rfl
  | some start =>
      -- nothing is found in the separator at the start
      obtain ⟨-, hseparator⟩ := separator_at_bodyStart? hstart
      obtain ⟨hlt, hline⟩ := List.getElem?_eq_some_iff.1 hseparator
      dsimp only
      rw [List.drop_eq_getElem_cons hlt, hline, findingsFrom_cons,
        lineFindings_separator, List.nil_append, findingsFrom_eq_map]

/-- The breaches of the body are strictly increasing. -/
theorem pairwise_bodyBreaches (lines : List Text) :
    (bodyBreaches lines).Pairwise Breach.Earlier := by
  unfold bodyBreaches
  split
  · exact List.Pairwise.nil
  · exact Breach.pairwise_inLines _ _

/-- A breach stands behind the second separator and within the document. -/
theorem position_of_mem_bodyBreaches {lines : List Text} {breach : Breach}
    (hmem : breach ∈ bodyBreaches lines) :
    breach.position < lines.length
      ∧ ∃ start ∈ bodyStart? lines, start < breach.position := by
  unfold bodyBreaches at hmem
  cases hstart : bodyStart? lines with
  | none =>
      rw [hstart] at hmem
      cases hmem
  | some start =>
      rw [hstart] at hmem
      obtain ⟨hle, hlt⟩ := Breach.position_of_mem_inLines hmem
      rw [List.length_drop] at hlt
      exact ⟨by omega, start, rfl, hle⟩

/-- There are at most three findings for each line but two. -/
theorem length_bodyFindings_le (lines : List Text) :
    (bodyFindings lines).length ≤ 3 * (lines.length - 2) := by
  rw [bodyFindings_eq_map, List.length_map]
  unfold bodyBreaches
  split
  case h_1 => exact Nat.zero_le _
  case h_2 start hstart =>
      obtain ⟨hpos, -⟩ := separator_at_bodyStart? hstart
      have hle := Breach.length_inLines_le (start + 1) (lines.drop (start + 1))
      rw [List.length_drop] at hle
      omega

-- ====================================================== the whole document

theorem rules_headerFindings_sublist (lines : List Text) :
    ((headerFindings lines).map Diagnostic.rule).Sublist
      [.headerCardinality] := by
  unfold headerFindings
  split
  · exact List.nil_sublist _
  · exact List.Sublist.refl _

theorem rules_containerFindings_sublist (lines : List Text) :
    ((containerFindings lines).map Diagnostic.rule).Sublist
      [.containerBalance] := by
  unfold containerFindings
  dsimp only
  split
  · exact List.Sublist.refl _
  · split
    · exact List.Sublist.refl _
    · exact List.nil_sublist _

/-- The rules about the document as a whole come at most once each, the one
about the header first. -/
theorem rules_documentFindings_sublist (lines : List Text) :
    ((documentFindings lines).map Diagnostic.rule).Sublist
      [.headerCardinality, .containerBalance] := by
  unfold documentFindings
  rw [List.map_append]
  exact (rules_headerFindings_sublist lines).append
    (rules_containerFindings_sublist lines)

namespace Document

/-- The diagnostics of a document that are about no single line. -/
def documentDiagnostics (document : Document) : List Diagnostic :=
  (validate document).toList.filter fun diagnostic => diagnostic.line.isNone

/-- The diagnostics without a line are the findings about the whole. -/
theorem documentDiagnostics_eq (document : Document) :
    document.documentDiagnostics = documentFindings document.lines := by
  have hbody : (bodyFindings document.lines).filter
      (fun diagnostic => diagnostic.line.isNone) = [] := by
    refine List.filter_eq_nil_iff.2 fun diagnostic hmem => ?_
    obtain ⟨broken, position, rfl⟩ := eq_of_mem_bodyFindings hmem
    simp [Diagnostic.atLine]
  have hdocument : (documentFindings document.lines).filter
      (fun diagnostic => diagnostic.line.isNone)
        = documentFindings document.lines := by
    refine List.filter_eq_self.2 fun diagnostic hmem => ?_
    simp [line_of_mem_documentFindings hmem]
  unfold documentDiagnostics
  rw [toList_validate_eq_append, List.filter_append, hbody, hdocument,
    List.nil_append]

end Document

/-- No finding is made twice. -/
theorem nodup_validate (document : Document) :
    (validate document).toList.Nodup := by
  rw [toList_validate_eq_append, List.nodup_append]
  -- within each part by its order, across the parts by having a line or not
  refine ⟨?_, ?_, ?_⟩
  · rw [bodyFindings_eq_map]
    unfold List.Nodup
    rw [List.pairwise_map]
    exact (pairwise_bodyBreaches document.lines).imp fun hearlier hsame =>
      hearlier.ne (Breach.diagnostic_injective hsame)
  · have hrules : [Rule.headerCardinality, .containerBalance].Nodup := by
      decide
    exact List.Nodup.of_map _
      ((rules_documentFindings_sublist document.lines).nodup hrules)
  · intro found hfound said hsaid heq
    obtain ⟨broken, position, rfl⟩ := eq_of_mem_bodyFindings hfound
    have hline := line_of_mem_documentFindings hsaid
    rw [← heq] at hline
    cases hline

/-- The findings about a document are those about its lines and then those
about the whole. Those about lines are breaches of the rules of the body, at
lines behind the second separator, and they are in strict order. Those about
the whole are at most one about the separators and at most one about the
containers, in this order. No finding is there twice or is about reading, and
there are at most three for each line but two, and two more. -/
theorem validate_shape (document : Document) :
    (validate document).toList
        = document.lineDiagnostics ++ document.documentDiagnostics
      ∧ (∃ breaches : List Breach,
        document.lineDiagnostics = breaches.map Breach.diagnostic
          ∧ breaches.Pairwise Breach.Earlier
          ∧ ∀ breach ∈ breaches, breach.position < document.lines.length
            ∧ ∃ start ∈ bodyStart? document.lines, start < breach.position)
      ∧ (document.documentDiagnostics.map Diagnostic.rule).Sublist
        [.headerCardinality, .containerBalance]
      ∧ (validate document).toList.Nodup
      ∧ (∀ diagnostic ∈ (validate document).toList, diagnostic.rule ≠ .io)
      ∧ (validate document).toList.length
        ≤ 3 * (document.lines.length - 2) + 2 := by
  rw [Document.lineDiagnostics_eq, Document.documentDiagnostics_eq]
  refine ⟨toList_validate_eq_append document,
    ⟨bodyBreaches document.lines, bodyFindings_eq_map _,
      pairwise_bodyBreaches _, fun _ => position_of_mem_bodyBreaches⟩,
    rules_documentFindings_sublist _, nodup_validate document,
    fun _ => rule_ne_io_of_mem_validate, ?_⟩
  have hbody := length_bodyFindings_le document.lines
  have hdocument := (rules_documentFindings_sublist document.lines).length_le
  rw [List.length_map] at hdocument
  rw [toList_validate_eq_append, List.length_append]
  exact Nat.add_le_add hbody hdocument

end QuartoLint
