/-
Scanning a document in two parts.

What a scan finds in the lines behind a point depends on the lines before it
in two ways only: by the number of separators met so far, and by the position
at which the point stands. The number matters up to two, where the body has
begun, and the position is added to the positions of the findings.

# The scan from any point on

`findingsAfter` gives the findings about lines that are met with some number
of separators behind them. The findings about a document are those about its
beginning and then those about the rest, met after the separators of the
beginning (`bodyFindings_append_findingsAfter`). Beyond two, the number of
separators does not matter (`findingsAfter_congr`), and a rest that stands
further on has the same findings further on (`findingsAfter_add`). So a
beginning can be replaced by as many bare separators as it has, or by two if
it has more: separators break no rule themselves
(`bodyFindings_replicate_separator`).
-/
import QuartoLint.Proofs.Scan.Findings

namespace QuartoLint

-- ============================================================== line findings

namespace Diagnostic

/-- The diagnostic about a line that stands `count` positions further on. -/
def later (count : Nat) (diagnostic : Diagnostic) : Diagnostic :=
  { diagnostic with line := diagnostic.line.map (· + count) }

end Diagnostic

namespace Document

/-- The diagnostics of a document that are about one line each. -/
def lineDiagnostics (document : Document) : List Diagnostic :=
  (validate document).toList.filter fun diagnostic => diagnostic.line.isSome

end Document

/-- The diagnostics about single lines are the findings about the body. -/
theorem Document.lineDiagnostics_eq (document : Document) :
    document.lineDiagnostics = bodyFindings document.lines := by
  have hbody : (bodyFindings document.lines).filter
      (fun diagnostic => diagnostic.line.isSome)
        = bodyFindings document.lines := by
    refine List.filter_eq_self.2 fun diagnostic hmem => ?_
    obtain ⟨broken, position, rfl⟩ := eq_of_mem_bodyFindings hmem
    rfl
  have hdocument : (documentFindings document.lines).filter
      (fun diagnostic => diagnostic.line.isSome) = [] := by
    refine List.filter_eq_nil_iff.2 fun diagnostic hmem => ?_
    simp [line_of_mem_documentFindings hmem]
  unfold Document.lineDiagnostics
  rw [toList_validate_eq_append, List.filter_append, hbody, hdocument,
    List.append_nil]

-- ================================================== the scan from a point on

/-- The findings about lines that are met after `separators` separators, the
first of them at position `start`. -/
def findingsAfter (separators start : Nat) : List Text → List Diagnostic
  | [] => []
  | line :: rest =>
    let counted := separators + [line].count Mark.separator
    (if 2 ≤ counted then lineFindings start line else [])
      ++ findingsAfter counted (start + 1) rest

theorem findingsAfter_cons (separators start : Nat) (line : Text)
    (rest : List Text) :
    findingsAfter separators start (line :: rest)
      = (if 2 ≤ separators + [line].count Mark.separator
          then lineFindings start line else [])
        ++ findingsAfter (separators + [line].count Mark.separator)
          (start + 1) rest := rfl

/-- A document has the findings about its beginning, and then those about the
rest after the separators of the beginning. -/
theorem bodyFindings_append_findingsAfter (before lines : List Text) :
    bodyFindings (before ++ lines) = bodyFindings before
      ++ findingsAfter (before.count Mark.separator) before.length lines := by
  -- line by line, each one moving from the rest to the beginning
  induction lines generalizing before with
  | nil =>
      rw [List.append_nil]
      exact (List.append_nil _).symm
  | cons line rest ih =>
      rw [List.append_cons, ih, bodyFindings_concat, findingsAfter_cons,
        List.count_append, List.length_append, List.append_assoc]
      rfl

/-- Two separators are as good as any larger number of them. -/
theorem findingsAfter_congr {separators others : Nat}
    (hsame : min 2 separators = min 2 others) (start : Nat)
    (lines : List Text) :
    findingsAfter separators start lines = findingsAfter others start lines := by
  induction lines generalizing separators others start with
  | nil => rfl
  | cons line rest ih =>
      rw [findingsAfter_cons, findingsAfter_cons]
      generalize [line].count Mark.separator = here
      -- beyond two, neither the test nor the next count can tell them apart
      have hbody : 2 ≤ separators + here ↔ 2 ≤ others + here := by omega
      have hnext : min 2 (separators + here) = min 2 (others + here) := by
        omega
      rw [ih hnext]
      simp only [hbody]

theorem lineFindings_add (position count : Nat) (line : Text) :
    lineFindings (position + count) line
      = (lineFindings position line).map (.later count) := by
  rw [lineFindings_eq_map, lineFindings_eq_map, List.map_map]
  rfl

/-- Lines that stand further on have their findings further on. -/
theorem findingsAfter_add (separators start count : Nat)
    (lines : List Text) :
    findingsAfter separators (start + count) lines
      = (findingsAfter separators start lines).map (.later count) := by
  induction lines generalizing separators start with
  | nil => rfl
  | cons line rest ih =>
      rw [findingsAfter_cons, findingsAfter_cons, List.map_append, ← ih,
        Nat.add_right_comm]
      split
      · rw [lineFindings_add]
      · rfl

/-- Nothing is found in separators, however many. -/
theorem bodyFindings_replicate_separator (count : Nat) :
    bodyFindings (List.replicate count Mark.separator) = [] := by
  induction count with
  | zero => rfl
  | succ count ih =>
      rw [List.replicate_succ', bodyFindings_concat, ih,
        lineFindings_separator, ite_self]
      rfl

-- =========================================================== the seam

/-- With up to two separators in place of the beginning, the findings about
the rest are the same, but for the length of the beginning. -/
theorem findingsAfter_eq_map_bodyFindings (before lines : List Text) :
    let separators := min 2 (before.count Mark.separator)
    findingsAfter (before.count Mark.separator) before.length lines
      = (bodyFindings (List.replicate separators Mark.separator
          ++ lines)).map (.later (before.length - separators)) := by
  intro separators
  have hfits : separators ≤ before.length :=
    Nat.le_trans (Nat.min_le_right _ _) List.count_le_length
  have hsame : min 2 (before.count Mark.separator) = min 2 separators := by
    omega
  calc findingsAfter (before.count Mark.separator) before.length lines
      = findingsAfter separators before.length lines :=
        findingsAfter_congr hsame _ _
    _ = (findingsAfter separators separators lines).map
          (.later (before.length - separators)) := by
        rw [← findingsAfter_add, Nat.add_sub_cancel' hfits]
    _ = _ := by
        rw [bodyFindings_append_findingsAfter,
          bodyFindings_replicate_separator, List.nil_append,
          List.count_replicate_self, List.length_replicate]

namespace Document

/-- The diagnostics about the lines of a document are those of its beginning,
followed by those of the rest with up to two separators in place of the
beginning, further on by as much as was taken away. So those of a beginning
are the first ones of the whole; and to the lines behind it, a beginning is
no more than its separators, of which two and more are the same, and a number
of positions. -/
theorem lineDiagnostics_append (source first second : Text)
    (before lines : List Text) :
    let separators := min 2 (before.count Mark.separator)
    lineDiagnostics ⟨source, before ++ lines⟩
        = lineDiagnostics ⟨first, before⟩
          ++ (lineDiagnostics ⟨second,
              List.replicate separators Mark.separator ++ lines⟩).map
            (.later (before.length - separators))
      ∧ lineDiagnostics ⟨first, before⟩
          <+: lineDiagnostics ⟨source, before ++ lines⟩
      ∧ ∃ behind : Nat → List Diagnostic, ∀ start : List Text,
          lineDiagnostics ⟨source, start ++ lines⟩
            = lineDiagnostics ⟨first, start⟩
              ++ (behind (min 2 (start.count Mark.separator))).map
                (.later start.length) := by
  intro separators
  simp only [lineDiagnostics_eq]
  refine ⟨?_, ?_, fun count => findingsAfter count 0 lines, fun start => ?_⟩
  · rw [bodyFindings_append_findingsAfter, findingsAfter_eq_map_bodyFindings]
  · rw [bodyFindings_append_findingsAfter]
    exact List.prefix_append _ _
  · have hsame : min 2 (start.count Mark.separator)
        = min 2 (min 2 (start.count Mark.separator)) := by omega
    rw [bodyFindings_append_findingsAfter, findingsAfter_congr hsame,
      ← findingsAfter_add, Nat.zero_add]

end Document

end QuartoLint
