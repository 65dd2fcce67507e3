/-
Blank lines do not matter.

A line of which normalizing leaves nothing can stand anywhere in a document:
with it, the same is found, only further on by one for what is found at its
place or behind it (`validate_insertIdx_blank`).

# Three reasons

An empty line is no separator, so the scan is as far with its header behind
the line as before it. It breaks no rule of the body itself
(`lineFindings_nil`). And it adds no character to the lines put together, so
container tags are not affected, not even one that goes on from the line
before to the line behind.

# Which positions move

The findings about the lines in front of the new one are at positions below
its place and stay, and those about the lines behind are at its place or
further on and move (`position_of_mem_findingsAfter`).
-/
import QuartoLint.Proofs.Scan.Composition

namespace QuartoLint

-- =============================================================== positions

namespace Diagnostic

/-- The diagnostic when one line more stands at `place`. -/
def movedFrom (place : Nat) (diagnostic : Diagnostic) : Diagnostic :=
  { diagnostic with
    line := diagnostic.line.map fun position =>
      if place ≤ position then position + 1 else position }

theorem movedFrom_of_lt {place position : Nat} (hlt : position < place)
    (rule : Rule) (message : Text) :
    (atLine rule position message).movedFrom place
      = atLine rule position message := by
  have hstays : ¬ place ≤ position := by omega
  simp [movedFrom, atLine, hstays]

theorem movedFrom_of_le {place position : Nat} (hle : place ≤ position)
    (rule : Rule) (message : Text) :
    (atLine rule position message).movedFrom place
      = (atLine rule position message).later 1 := by
  simp [movedFrom, later, atLine, hle]

theorem movedFrom_of_line_eq_none {diagnostic : Diagnostic}
    (hline : diagnostic.line = none) (place : Nat) :
    diagnostic.movedFrom place = diagnostic := by
  obtain ⟨rule, line, message⟩ := diagnostic
  rw [show line = none from hline]
  rfl

end Diagnostic

-- ================================================================ the body

/-- What is found from a point on is found in the lines from there on, if all
of them are held to the rules. -/
theorem findingsAfter_sublist (separators start : Nat) (lines : List Text) :
    (findingsAfter separators start lines).Sublist
      (findingsFrom start lines) := by
  induction lines generalizing separators start with
  | nil => exact List.Sublist.refl _
  | cons line rest ih =>
      rw [findingsAfter_cons, findingsFrom_cons]
      split
      · exact (List.Sublist.refl _).append (ih _ _)
      · exact (List.nil_sublist _).append (ih _ _)

theorem position_of_mem_findingsAfter {separators start : Nat}
    {lines : List Text} {diagnostic : Diagnostic}
    (hmem : diagnostic ∈ findingsAfter separators start lines) :
    ∃ (broken : LineRule) (position : Nat),
      diagnostic = .atLine broken.rule position broken.message
        ∧ start ≤ position ∧ position < start + lines.length :=
  eq_of_mem_findingsFrom ((findingsAfter_sublist _ _ _).subset hmem)

/-- The findings in a document are those after no separators. -/
theorem bodyFindings_eq_findingsAfter (lines : List Text) :
    bodyFindings lines = findingsAfter 0 0 lines :=
  bodyFindings_append_findingsAfter [] lines

/-- What is found before the place of the new line stays where it is. -/
theorem map_movedFrom_bodyFindings (lines : List Text) :
    (bodyFindings lines).map (.movedFrom lines.length)
      = bodyFindings lines := by
  refine (List.map_congr_left fun diagnostic hmem => ?_).trans (List.map_id _)
  rw [bodyFindings_eq_findingsAfter] at hmem
  obtain ⟨broken, position, rfl, -, hlt⟩ := position_of_mem_findingsAfter hmem
  exact Diagnostic.movedFrom_of_lt (by omega) _ _

/-- What is found at the place of the new line and behind it moves on by
one. -/
theorem map_movedFrom_findingsAfter (separators start : Nat)
    (lines : List Text) :
    (findingsAfter separators start lines).map (Diagnostic.movedFrom start)
      = (findingsAfter separators start lines).map (.later 1) := by
  refine List.map_congr_left fun diagnostic hmem => ?_
  obtain ⟨broken, position, rfl, hle, -⟩ := position_of_mem_findingsAfter hmem
  exact Diagnostic.movedFrom_of_le hle _ _

/-- Nothing is found in an empty line. -/
theorem lineFindings_nil (position : Nat) : lineFindings position [] = [] := by
  rw [lineFindings_eq_map, show bodyViolations [] = [] from by decide,
    List.map_nil]

/-- An empty line is counted as no separator, and the lines behind it are
met one position further on. -/
theorem findingsAfter_nil_cons (separators start : Nat) (lines : List Text) :
    findingsAfter separators start ([] :: lines)
      = (findingsAfter separators start lines).map (.later 1) := by
  have hcount : [([] : Text)].count Mark.separator = 0 := by decide
  rw [findingsAfter_cons, hcount, lineFindings_nil, ite_self,
    List.nil_append, Nat.add_zero, findingsAfter_add]

/-- An empty line moves the findings behind it by one line. -/
theorem bodyFindings_insert_nil (before behind : List Text) :
    bodyFindings (before ++ [] :: behind)
      = (bodyFindings (before ++ behind)).map (.movedFrom before.length) := by
  rw [bodyFindings_append_findingsAfter, bodyFindings_append_findingsAfter,
    List.map_append, map_movedFrom_bodyFindings, map_movedFrom_findingsAfter,
    findingsAfter_nil_cons]

-- ====================================================== the whole document

/-- An empty line changes nothing about the document as a whole. -/
theorem documentFindings_insert_nil (before behind : List Text) :
    documentFindings (before ++ [] :: behind)
      = documentFindings (before ++ behind) := by
  -- neither the separators nor the joined lines notice an empty line
  have hcount : (before ++ [] :: behind).count Mark.separator
      = (before ++ behind).count Mark.separator := by
    rw [List.count_append, List.count_append,
      List.count_cons_of_ne (by decide)]
  have hjoined : (before ++ [] :: behind).flatten
      = (before ++ behind).flatten := by
    rw [List.flatten_append, List.flatten_append, List.flatten_cons,
      List.nil_append]
  unfold documentFindings headerFindings containerFindings
  rw [hcount, hjoined]

theorem map_movedFrom_documentFindings (lines : List Text) (place : Nat) :
    (documentFindings lines).map (.movedFrom place)
      = documentFindings lines := by
  refine (List.map_congr_left fun diagnostic hmem => ?_).trans (List.map_id _)
  exact Diagnostic.movedFrom_of_line_eq_none
    (line_of_mem_documentFindings hmem) place

/-- An empty line moves the findings behind it, and does nothing else. -/
theorem toList_validate_insert_nil (source : Text)
    (before behind : List Text) :
    (validate ⟨source, before ++ [] :: behind⟩).toList
      = (validate ⟨source, before ++ behind⟩).toList.map
        (.movedFrom before.length) := by
  rw [toList_validate_eq_append, toList_validate_eq_append,
    bodyFindings_insert_nil, documentFindings_insert_nil, List.map_append,
    map_movedFrom_documentFindings]

theorem insertIdx_length_append {α : Type} (before behind : List α) (a : α) :
    (before ++ behind).insertIdx before.length a = before ++ a :: behind := by
  induction before with
  | nil => rfl
  | cons first before ih =>
      rw [List.cons_append, List.length_cons, List.insertIdx_succ_cons, ih]
      rfl

/-- With a line more of which normalizing leaves nothing, the same is found as
without it, with every position moved on by one from the place of that line
on, and nothing else changed. -/
theorem validate_insertIdx_blank (source : Text) {lines : List Text}
    {place : Nat} (hplace : place ≤ lines.length) {blank : Text}
    (hblank : normalizeLine blank = []) :
    (validate (.ofLines source (lines.insertIdx place blank))).toList
      = (validate (.ofLines source lines)).toList.map
        (.movedFrom place) := by
  -- a place is the length of what stands before it
  obtain ⟨before, behind, rfl, rfl⟩ : ∃ before behind : List Text,
      lines = before ++ behind ∧ place = before.length := by
    refine ⟨lines.take place, lines.drop place,
      (List.take_append_drop place lines).symm, ?_⟩
    rw [List.length_take, Nat.min_eq_left hplace]
  have hnormal := toList_validate_insert_nil source
    (before.map normalizeLine) (behind.map normalizeLine)
  rw [List.length_map] at hnormal
  unfold Document.ofLines
  rw [insertIdx_length_append, List.map_append, List.map_append, List.map_cons,
    hblank]
  exact hnormal

/-- An apostrophe and a tab on a line of their own, put between the two lines
of a container tag: what is found behind them moves on, and the tag is still
the one that nothing closes. -/
theorem validate_insertIdx_blank_within_tag :
    let lines : List Text :=
      [Mark.separator, Mark.separator, ['$', '$', 'x'], ['<', 'd'],
        ['i', 'v', '>', '$', '$']]
    let blank : Text := ['\'', '\t']
    4 ≤ lines.length ∧ normalizeLine blank = []
      ∧ (validate (.ofLines [] (lines.insertIdx 4 blank))).toList
        = (validate (.ofLines [] lines)).toList.map (.movedFrom 4)
      ∧ (validate (.ofLines [] (lines.insertIdx 4 blank))).toList.map
          Diagnostic.line = [some 2, some 5, none] := by
  intro lines blank
  have hplace : 4 ≤ lines.length := by decide
  have hblank : normalizeLine blank = [] := by decide
  have hmoved := validate_insertIdx_blank [] hplace hblank
  refine ⟨hplace, hblank, hmoved, ?_⟩
  rw [hmoved]
  decide

end QuartoLint
