/-
A text that is added to.

What is put behind a complete text, one that is empty or ends in a line end,
adds lines behind its lines and changes none of them, and so what was found
in its lines is found again, first and at the same positions
(`ofText_append`).

# The seam

Only the two characters at the seam can belong together: a carriage return in
front of it and a line feed behind it are one line end. The carriage return
has ended its line already, so the line feed ends no other and falls away
(`behindSeam`). Every other line end of the first text has more of that text
behind it and stays what it is, so the division of the first text into
segments is kept up to its last line end, and there the seam decides
(`DividesInto.append`).
-/
import QuartoLint.Proofs.Document.Segments
import QuartoLint.Proofs.Scan.Composition

namespace QuartoLint

namespace Text

-- ================================================================ the seam

/-- What the second text adds to the lines of the first: all of it, but for a
line feed that is one line end with the last character of the first. -/
def behindSeam (first second : Text) : Text :=
  if first.getLast? = some '\r' ∧ second.head? = some '\n' then second.tail
  else second

variable {lineEnd rest text more : Text} {others behind : List Text}

/-- A line end with more of its own text behind it is not affected by what
comes behind that. -/
theorem IsLineEnd.append (hend : IsLineEnd lineEnd rest) (hrest : rest ≠ [])
    (more : Text) : IsLineEnd lineEnd (rest ++ more) := by
  cases hend with
  | pair => exact .pair _
  | feed => exact .feed _
  | lone hlone =>
      refine .lone ?_
      rwa [List.head?_append_of_ne_nil _ hrest]

/-- A line end right in front of the seam is one there too, alone or, if it is
a carriage return, with the line feed behind the seam. -/
theorem IsLineEnd.exists_behindSeam (hend : IsLineEnd lineEnd [])
    (line more : Text) :
    ∃ whole, lineEnd ++ more = whole ++ behindSeam (line ++ lineEnd) more
      ∧ IsLineEnd whole (behindSeam (line ++ lineEnd) more) := by
  cases hend with
  | pair =>
      refine ⟨['\r', '\n'], ?_, .pair _⟩
      simp [behindSeam]
  | feed =>
      refine ⟨['\n'], ?_, .feed _⟩
      simp [behindSeam]
  | lone =>
      by_cases hfeed : more.head? = some '\n'
      · obtain ⟨tail, rfl⟩ := List.head?_eq_some_iff.1 hfeed
        refine ⟨['\r', '\n'], ?_, .pair _⟩
        simp [behindSeam]
      · have hseam : behindSeam (line ++ ['\r']) more = more := by
          simp [behindSeam, hfeed]
        rw [hseam]
        exact ⟨['\r'], rfl, .lone hfeed⟩

-- ============================================================ the division

/-- A complete text with another one behind it divides into what it divides
into by itself, and then into what the other one adds. -/
theorem DividesInto.append (hdivides : DividesInto text others)
    (hcomplete : endsOpen text = false)
    (hbehind : DividesInto (behindSeam text more) behind) :
    DividesInto (text ++ more) (others ++ behind) := by
  induction hdivides with
  | none =>
      have hseam : behindSeam [] more = more := by simp [behindSeam]
      rwa [hseam] at hbehind
  | last hne hline =>
      rw [endsOpen_of_noLineEnd hne hline] at hcomplete
      cases hcomplete
  | @ended line lineEnd rest others hline hend hrest ih =>
      rw [endsOpen_append hend] at hcomplete
      by_cases hnil : rest = []
      · -- the seam is right behind this line end
        subst hnil
        have hnone : others = [] := dividesInto_iff.1 hrest
        rw [List.append_nil] at hbehind ⊢
        obtain ⟨whole, hwhole, hwholeEnd⟩ := hend.exists_behindSeam line more
        rw [List.append_assoc, hwhole, hnone]
        exact .ended hline hwholeEnd hbehind
      · have hseam : behindSeam (line ++ (lineEnd ++ rest)) more
            = behindSeam rest more := by
          unfold behindSeam
          rw [← List.append_assoc, List.getLast?_append_of_ne_nil _ hnil]
        rw [hseam] at hbehind
        rw [List.append_assoc, List.append_assoc]
        exact .ended hline (hend.append hnil more) (ih hcomplete hbehind)

/-- The lines of a complete text are the first lines of every text that begins
with it. -/
theorem lines_append (hcomplete : endsOpen text = false) (more : Text) :
    (text ++ more).lines = text.lines ++ (behindSeam text more).lines := by
  have hbehind := dividesInto_segments (behindSeam text more)
  have hwhole := (dividesInto_segments text).append hcomplete hbehind
  rw [hwhole.lines_eq, (dividesInto_segments text).lines_eq, hbehind.lines_eq]

end Text

-- =============================================================== documents

namespace Document

theorem lines_ofText_append (source : Text) {first : Text}
    (hcomplete : first.endsOpen = false) (second : Text) :
    (ofText source (first ++ second)).lines
      = (ofText source first).lines
        ++ (ofText source (first.behindSeam second)).lines := by
  unfold ofText ofLines
  rw [Text.lines_append hcomplete, List.map_append]

/-- A text that is empty or ends in a line end has, with another one behind
it, its own lines first and then those of the other one, without the line feed
at its start if that is one line end with a carriage return at the end of the
first. So all that is found in the lines of the first text is found again in
the same order and at the same positions, before anything else. -/
theorem ofText_append (source : Text) {first : Text}
    (hcomplete : first.endsOpen = false) (second : Text) :
    (ofText source (first ++ second)).lines
        = (ofText source first).lines
          ++ (ofText source (first.behindSeam second)).lines
      ∧ (ofText source first).lineDiagnostics
        <+: (ofText source (first ++ second)).lineDiagnostics := by
  have hlines := lines_ofText_append source hcomplete second
  refine ⟨hlines, ?_⟩
  rw [lineDiagnostics_eq, lineDiagnostics_eq, hlines,
    bodyFindings_append_findingsAfter]
  exact List.prefix_append _ _

/-- A carriage return at the end of the first text and a line feed at the start
of the second: no empty line comes between their lines. -/
theorem ofText_append_pair :
    let first : Text := ['-', '-', '-', '\n', '-', '-', '-', '\n', '$', '$',
      'x', '\r']
    let second : Text := ['\n', '$', '$', 'y']
    first.endsOpen = false ∧ first.behindSeam second = ['$', '$', 'y']
      ∧ (ofText [] (first ++ second)).lines
        = (ofText [] first).lines
          ++ (ofText [] (first.behindSeam second)).lines
      ∧ (ofText [] first).lineDiagnostics
        <+: (ofText [] (first ++ second)).lineDiagnostics := by
  intro first second
  have hcomplete : first.endsOpen = false := by decide
  exact ⟨hcomplete, by decide, ofText_append [] hcomplete second⟩

end Document

end QuartoLint
