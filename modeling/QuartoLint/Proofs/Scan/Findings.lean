/-
What a scan finds, without scanning.

The scan carries a separator count from line to line, and whether a line is
held to the rules of the body depends on all lines before it and on itself.
Here the findings are given by position. The body starts at the second
separator of the document (`bodyStart?`), each line from there on is held to
the three rules on its own (`lineFindings`), and the document as a whole has
at most one finding about its separators and one about its container tags
(`headerFindings`, `containerFindings`), which come last
(`toList_validate_eq_append`). There are few things that can be said, each of
one rule (`scanMessages`), and none of them is about reading.

# The invariant

After any number of lines the state of the scan holds the number of
separators among them and the findings about them, as if they were the whole
document (`ScanState.HasVisited`). One visit keeps this
(`ScanState.HasVisited.visit`): the findings about a document with one more
line are those without it and, once two separators have been met, those
about that line at its position (`bodyFindings_concat`). The run follows by
induction on the lines that are left (`ScanState.HasVisited.run`).
-/
import Mathlib.Data.List.Basic
import QuartoLint.Proofs.Text.Starts
import QuartoLint.Scan

namespace QuartoLint

-- ================================================================ one line

/-- The findings about a line of the body at its position. -/
def lineFindings (position : Nat) (line : Text) : List Diagnostic :=
  (if misplacedMath line then
    [.atLine .mathIsolation position LineRule.mathIsolation.message] else [])
  ++ (if misplacedFence line then
    [.atLine .fenceIsolation position LineRule.fenceIsolation.message] else [])
  ++ (if straySeparator line then
    [.atLine .straySeparator position LineRule.straySeparator.message] else [])

/-- The findings in a line are the rules that it breaks. -/
theorem lineFindings_eq_map (position : Nat) (line : Text) :
    lineFindings position line = (bodyViolations line).map fun broken =>
      .atLine broken.rule position broken.message := by
  unfold lineFindings bodyViolations LineRule.all
  by_cases hmath : misplacedMath line <;>
    by_cases hfence : misplacedFence line <;>
    by_cases hstray : straySeparator line <;>
    simp [LineRule.isBroken, LineRule.rule, hmath, hfence, hstray]

/-- A separator breaks no rule. -/
theorem lineFindings_separator (position : Nat) :
    lineFindings position Mark.separator = [] := by
  rw [lineFindings_eq_map,
    show bodyViolations Mark.separator = [] from by decide, List.map_nil]

-- ================================================================ the body

/-- The position of the second separator, where the body starts. -/
def bodyStart? (lines : List Text) : Option Nat :=
  (lines.idxsOf Mark.separator)[1]?

/-- The findings about lines of the body, the first of which stands at
`start`. -/
def findingsFrom (start : Nat) (lines : List Text) : List Diagnostic :=
  (lines.zipIdx start).flatMap fun (line, position) =>
    lineFindings position line

/-- The findings about all lines from the second separator on; none if there
is no second separator. -/
def bodyFindings (lines : List Text) : List Diagnostic :=
  match bodyStart? lines with
  | none => []
  | some start => findingsFrom start (lines.drop start)

theorem findingsFrom_cons (start : Nat) (line : Text) (rest : List Text) :
    findingsFrom start (line :: rest)
      = lineFindings start line ++ findingsFrom (start + 1) rest := rfl

/-- Lines that follow others are found at positions behind theirs. -/
theorem findingsFrom_append (start : Nat) (lines more : List Text) :
    findingsFrom start (lines ++ more)
      = findingsFrom start lines
        ++ findingsFrom (start + lines.length) more := by
  unfold findingsFrom
  rw [List.zipIdx_append, List.flatMap_append]

/-- There is no body as long as there are fewer than two separators. -/
theorem bodyStart?_eq_none_iff {lines : List Text} :
    bodyStart? lines = none ↔ lines.count Mark.separator < 2 := by
  unfold bodyStart?
  rw [List.getElem?_eq_none_iff, List.length_idxsOf]
  omega

/-- Lines behind the second separator do not move it. -/
theorem bodyStart?_append_of_le {lines : List Text}
    (hcount : 2 ≤ lines.count Mark.separator) (more : List Text) :
    bodyStart? (lines ++ more) = bodyStart? lines := by
  unfold bodyStart?
  rw [List.idxsOf_append, List.getElem?_append_left]
  rw [List.length_idxsOf]
  exact hcount

/-- A second separator at the end of the lines is the start of the body. -/
theorem bodyStart?_concat_separator {lines : List Text}
    (hcount : lines.count Mark.separator = 1) :
    bodyStart? (lines ++ [Mark.separator]) = some lines.length := by
  have hlength : (lines.idxsOf Mark.separator).length = 1 := by
    rw [List.length_idxsOf, hcount]
  unfold bodyStart?
  rw [List.idxsOf_append, List.getElem?_append_right (by omega), hlength]
  simp

theorem bodyStart?_lt {lines : List Text} {start : Nat}
    (hstart : bodyStart? lines = some start) : start < lines.length :=
  List.lt_add_of_mem_idxsOf start (List.mem_of_getElem? hstart)

theorem bodyFindings_of_lt {lines : List Text}
    (hcount : lines.count Mark.separator < 2) : bodyFindings lines = [] := by
  unfold bodyFindings
  rw [bodyStart?_eq_none_iff.2 hcount]

/-- Behind the second separator every line is one of the body. -/
theorem bodyFindings_append {lines : List Text}
    (hcount : 2 ≤ lines.count Mark.separator) (more : List Text) :
    bodyFindings (lines ++ more)
      = bodyFindings lines ++ findingsFrom lines.length more := by
  unfold bodyFindings
  rw [bodyStart?_append_of_le hcount]
  cases hstart : bodyStart? lines with
  | none =>
      have hlt := bodyStart?_eq_none_iff.1 hstart
      omega
  | some start =>
      have hle : start ≤ lines.length := Nat.le_of_lt (bodyStart?_lt hstart)
      show findingsFrom start ((lines ++ more).drop start)
        = findingsFrom start (lines.drop start)
          ++ findingsFrom lines.length more
      rw [List.drop_append_of_le_length hle, findingsFrom_append,
        List.length_drop, Nat.add_sub_cancel' hle]

/-- A finding about lines of the body says which rule one of them breaks, and
stands at the position of that line. -/
theorem eq_of_mem_findingsFrom {start : Nat} {lines : List Text}
    {diagnostic : Diagnostic} (hmem : diagnostic ∈ findingsFrom start lines) :
    ∃ (broken : LineRule) (position : Nat),
      diagnostic = .atLine broken.rule position broken.message
        ∧ start ≤ position ∧ position < start + lines.length := by
  obtain ⟨⟨line, position⟩, hline, hfound⟩ := List.mem_flatMap.1 hmem
  obtain ⟨hle, hlt, -⟩ := List.mem_zipIdx hline
  dsimp only at hfound
  rw [lineFindings_eq_map] at hfound
  obtain ⟨broken, -, rfl⟩ := List.mem_map.1 hfound
  exact ⟨broken, position, rfl, hle, hlt⟩

/-- A finding about the body says which rule of the body some line breaks. -/
theorem eq_of_mem_bodyFindings {lines : List Text} {diagnostic : Diagnostic}
    (hmem : diagnostic ∈ bodyFindings lines) :
    ∃ (broken : LineRule) (position : Nat),
      diagnostic = .atLine broken.rule position broken.message := by
  unfold bodyFindings at hmem
  split at hmem
  · cases hmem
  · obtain ⟨broken, position, heq, -⟩ := eq_of_mem_findingsFrom hmem
    exact ⟨broken, position, heq⟩

/-- A further line adds its own findings if, with it, there are two
separators. -/
theorem bodyFindings_concat (lines : List Text) (line : Text) :
    bodyFindings (lines ++ [line]) = bodyFindings lines
      ++ if 2 ≤ (lines ++ [line]).count Mark.separator
        then lineFindings lines.length line else [] := by
  rcases Nat.lt_or_ge (lines.count Mark.separator) 2 with hlt | hge
  case inr =>
    -- the body has begun before this line
    have hmore : 2 ≤ (lines ++ [line]).count Mark.separator := by
      rw [List.count_append]
      omega
    rw [bodyFindings_append hge, if_pos hmore, findingsFrom_cons]
    show _ ++ (_ ++ []) = _
    rw [List.append_nil]
  case inl =>
    rw [bodyFindings_of_lt hlt, List.nil_append]
    split
    case isFalse hmore => exact bodyFindings_of_lt (Nat.lt_of_not_le hmore)
    case isTrue hmore =>
      -- this line is the second separator, and without findings of its own
      have hline : line = Mark.separator := by
        refine Decidable.byContradiction fun hne => ?_
        rw [List.count_append, List.count_singleton,
          if_neg (by simpa using hne)] at hmore
        omega
      subst hline
      rw [List.count_append, List.count_singleton_self] at hmore
      unfold bodyFindings
      rw [bodyStart?_concat_separator (by omega)]
      show findingsFrom lines.length
        ((lines ++ [Mark.separator]).drop lines.length) = _
      rw [List.drop_left, findingsFrom_cons]
      exact List.append_nil _

-- ============================================================= the scan

namespace ScanState

theorem toList_foldl_addAtLine (position : Nat) (rules : List LineRule)
    (findings : Findings) :
    (rules.foldl (fun findings broken =>
        findings.addAtLine broken.rule position broken.message)
      findings).toList
      = findings.toList ++ rules.map fun broken =>
          .atLine broken.rule position broken.message := by
  induction rules generalizing findings with
  | nil => exact (List.append_nil _).symm
  | cons broken rest ih =>
      rw [List.foldl_cons, ih, Findings.toList_addAtLine, List.append_assoc]
      rfl

/-- Checking a line of the body adds what is found in it. -/
theorem toList_checkBody (state : ScanState) (position : Nat) (line : Text) :
    (state.checkBody position line).findings.toList
      = state.findings.toList ++ lineFindings position line := by
  rw [lineFindings_eq_map]
  exact toList_foldl_addAtLine position _ _

theorem separators_countSeparator (state : ScanState) (line : Text) :
    (state.countSeparator line).separators
      = state.separators + [line].count Mark.separator := by
  unfold countSeparator isSeparator
  rw [List.count_singleton]
  split <;> rfl

theorem findings_countSeparator (state : ScanState) (line : Text) :
    (state.countSeparator line).findings = state.findings := by
  unfold countSeparator
  split <;> rfl

theorem separators_visit (state : ScanState) (position : Nat) (line : Text) :
    (state.visit (position, line)).separators
      = state.separators + [line].count Mark.separator := by
  rw [← separators_countSeparator]
  unfold visit
  dsimp only
  split <;> rfl

/-- A visit adds the findings about the line if, with it, two separators have
been met. -/
theorem findings_visit (state : ScanState) (position : Nat) (line : Text) :
    (state.visit (position, line)).findings.toList
      = state.findings.toList
        ++ if 2 ≤ state.separators + [line].count Mark.separator
          then lineFindings position line else [] := by
  rw [← separators_countSeparator]
  unfold visit inBody headerDelimiters
  simp only [decide_eq_true_eq]
  split
  case isTrue => rw [toList_checkBody, findings_countSeparator]
  case isFalse => rw [findings_countSeparator, List.append_nil]

/-- What the state holds after the lines have been visited: their separators
are counted, and the findings are those about a document of these lines. -/
structure HasVisited (state : ScanState) (lines : List Text) : Prop where
  separators : state.separators = lines.count Mark.separator
  findings : state.findings.toList = bodyFindings lines

theorem HasVisited.start : HasVisited .start [] := ⟨rfl, rfl⟩

/-- Visiting one more line keeps the invariant. -/
theorem HasVisited.visit {state : ScanState} {lines : List Text}
    (hstate : state.HasVisited lines) (line : Text) :
    (state.visit (lines.length, line)).HasVisited (lines ++ [line]) := by
  constructor
  · rw [separators_visit, hstate.separators, List.count_append]
  · rw [findings_visit, hstate.separators, hstate.findings,
      ← List.count_append, ← bodyFindings_concat]

/-- Visiting all lines that are left keeps the invariant. -/
theorem HasVisited.run {state : ScanState} {lines : List Text}
    (hstate : state.HasVisited lines) (rest : List Text) :
    (((rest.zipIdx lines.length).map fun (line, position) =>
        (position, line)).foldl ScanState.visit state).HasVisited
      (lines ++ rest) := by
  induction rest generalizing state lines with
  | nil =>
      rw [List.append_nil]
      exact hstate
  | cons line rest ih =>
      have hnext := ih (hstate.visit line)
      rw [List.length_append, List.append_assoc] at hnext
      exact hnext

end ScanState

/-- The scan has visited every line. -/
theorem hasVisited_scanLines (document : Document) :
    (scanLines document).HasVisited document.lines :=
  ScanState.HasVisited.start.run document.lines

-- ===================================================== the whole document

/-- The finding about the separators of a document, unless it has exactly
two. -/
def headerFindings (lines : List Text) : List Diagnostic :=
  if lines.count Mark.separator = 2 then []
  else [.forDocument .headerCardinality headerMessage]

/-- The finding about the container tags in the lines put together, unless
each of the two starts at as many positions as the other. -/
def containerFindings (lines : List Text) : List Diagnostic :=
  let opening := Text.countStarts Mark.containerOpen lines.flatten
  let closing := Text.countStarts Mark.containerClose lines.flatten
  if closing < opening then
    [.forDocument .containerBalance unclosedMessage]
  else if opening < closing then
    [.forDocument .containerBalance unopenedMessage]
  else []

theorem eq_of_mem_headerFindings {lines : List Text}
    {diagnostic : Diagnostic} (hmem : diagnostic ∈ headerFindings lines) :
    diagnostic = .forDocument .headerCardinality headerMessage := by
  unfold headerFindings at hmem
  split at hmem
  · cases hmem
  · exact List.mem_singleton.1 hmem

theorem eq_of_mem_containerFindings {lines : List Text}
    {diagnostic : Diagnostic} (hmem : diagnostic ∈ containerFindings lines) :
    diagnostic = .forDocument .containerBalance unclosedMessage
      ∨ diagnostic = .forDocument .containerBalance unopenedMessage := by
  unfold containerFindings at hmem
  dsimp only at hmem
  split at hmem
  · exact Or.inl (List.mem_singleton.1 hmem)
  · split at hmem
    · exact Or.inr (List.mem_singleton.1 hmem)
    · cases hmem

/-- Nothing is wrong with the header if there are exactly two separators. -/
theorem headerFindings_eq_nil_iff {lines : List Text} :
    headerFindings lines = [] ↔ lines.count Mark.separator = 2 := by
  unfold headerFindings
  split
  case isTrue heq => exact iff_of_true rfl heq
  case isFalse hne => exact iff_of_false (List.cons_ne_nil _ _) hne

/-- Nothing is wrong with the containers if as many are closed as are
opened. -/
theorem containerFindings_eq_nil_iff {lines : List Text} :
    containerFindings lines = []
      ↔ Text.countStarts Mark.containerOpen lines.flatten
        = Text.countStarts Mark.containerClose lines.flatten := by
  unfold containerFindings
  dsimp only
  split
  case isTrue hlt =>
    exact iff_of_false (List.cons_ne_nil _ _) (Nat.ne_of_gt hlt)
  case isFalse hle =>
    split
    case isTrue hlt =>
      exact iff_of_false (List.cons_ne_nil _ _) (Nat.ne_of_lt hlt)
    case isFalse hge =>
      exact iff_of_true rfl
        (Nat.le_antisymm (Nat.le_of_not_lt hle) (Nat.le_of_not_lt hge))

/-- The check of the header adds what is found in it. -/
theorem toList_checkHeader (lines : List Text) (findings : Findings) :
    (checkHeader (lines.count Mark.separator) findings).toList
      = findings.toList ++ headerFindings lines := by
  unfold checkHeader headerFindings headerDelimiters
  split
  case isTrue => rw [List.append_nil]
  case isFalse => rw [Findings.toList_addForDocument]

/-- The check of the containers adds what is found in them. -/
theorem toList_checkContainers (lines : List Text) (findings : Findings) :
    (checkContainers lines findings).toList
      = findings.toList ++ containerFindings lines := by
  unfold checkContainers containerFindings openingTags closingTags
  rw [Text.countOccurrences_containerOpen,
    Text.countOccurrences_containerClose]
  dsimp only
  split
  case h_1 hgt =>
    rw [if_pos (Nat.compare_eq_gt.1 hgt), Findings.toList_addForDocument]
  case h_2 hlt =>
    have hlt' := Nat.compare_eq_lt.1 hlt
    rw [if_neg (Nat.lt_asymm hlt'), if_pos hlt',
      Findings.toList_addForDocument]
  case h_3 heq =>
    rw [Nat.compare_eq_eq.1 heq, if_neg (Nat.lt_irrefl _),
      if_neg (Nat.lt_irrefl _), List.append_nil]

/-- The two rules about the whole document have their say behind the scan. -/
theorem toList_validate_scanLines (document : Document) :
    (validate document).toList
      = (scanLines document).findings.toList ++ headerFindings document.lines
        ++ containerFindings document.lines := by
  unfold validate
  dsimp only
  rw [toList_checkContainers, (hasVisited_scanLines document).separators,
    toList_checkHeader]

/-- The findings about a document as a whole: the one about its separators,
then the one about its container tags. -/
def documentFindings (lines : List Text) : List Diagnostic :=
  headerFindings lines ++ containerFindings lines

theorem eq_of_mem_documentFindings {lines : List Text}
    {diagnostic : Diagnostic} (hmem : diagnostic ∈ documentFindings lines) :
    diagnostic = .forDocument .headerCardinality headerMessage
      ∨ diagnostic = .forDocument .containerBalance unclosedMessage
      ∨ diagnostic = .forDocument .containerBalance unopenedMessage := by
  rcases List.mem_append.1 hmem with hheader | hcontainers
  · exact .inl (eq_of_mem_headerFindings hheader)
  · exact .inr (eq_of_mem_containerFindings hcontainers)

/-- A finding about the whole document has no line. -/
theorem line_of_mem_documentFindings {lines : List Text}
    {diagnostic : Diagnostic} (hmem : diagnostic ∈ documentFindings lines) :
    diagnostic.line = none := by
  rcases eq_of_mem_documentFindings hmem with rfl | rfl | rfl <;> rfl

/-- What is found about a whole document follows what is found in its body. -/
theorem toList_validate_eq_append (document : Document) :
    (validate document).toList
      = bodyFindings document.lines ++ documentFindings document.lines := by
  rw [toList_validate_scanLines, (hasVisited_scanLines document).findings,
    List.append_assoc]
  rfl

/-- The findings about a document are those about the lines from its second
separator on, line by line, then the one about its separators, then the one
about its container tags. -/
theorem toList_validate (document : Document) :
    (validate document).toList
      = bodyFindings document.lines ++ headerFindings document.lines
        ++ containerFindings document.lines := by
  rw [toList_validate_scanLines, (hasVisited_scanLines document).findings]

-- ================================================================ messages

/-- What findings about a document can say, with the rule of which they say
it. -/
def scanMessages : List (Rule × Text) :=
  LineRule.all.map (fun broken => (broken.rule, broken.message))
    ++ [(.headerCardinality, headerMessage),
      (.containerBalance, unclosedMessage),
      (.containerBalance, unopenedMessage)]

/-- Whatever is found, the rule and the message are among those of a scan. -/
theorem mem_scanMessages_of_mem_validate {document : Document}
    {diagnostic : Diagnostic}
    (hmem : diagnostic ∈ (validate document).toList) :
    (diagnostic.rule, diagnostic.message) ∈ scanMessages := by
  rw [toList_validate_eq_append, List.mem_append] at hmem
  rcases hmem with hbody | hdocument
  · obtain ⟨broken, position, rfl⟩ := eq_of_mem_bodyFindings hbody
    exact List.mem_append_left _ (List.mem_map_of_mem broken.mem_all)
  · refine List.mem_append_right _ ?_
    rcases eq_of_mem_documentFindings hdocument with rfl | rfl | rfl <;>
      simp [Diagnostic.forDocument]

/-- No document is said to be unreadable. -/
theorem rule_ne_io_of_mem_validate {document : Document}
    {diagnostic : Diagnostic}
    (hmem : diagnostic ∈ (validate document).toList) :
    diagnostic.rule ≠ .io := by
  have hall : ∀ said ∈ scanMessages, said.1 ≠ .io := by decide
  exact hall _ (mem_scanMessages_of_mem_validate hmem)

end QuartoLint
