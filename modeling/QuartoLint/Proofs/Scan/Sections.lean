/-
The documents in which nothing is found.

A document is clean exactly if it consists of three sections with a separator
between each two, every line of the last section is one that the body allows,
and as many containers are closed as are opened (`isClean_lintDocument_iff`).
What the first two sections hold does not matter otherwise, so long as no
line of theirs is a separator.

# The cut

No section holds a separator, so a document is cut at its first two
separators or not at all: cuts exist where there are exactly two separators
(`Sections.exists_cut_iff`), and never two different ones
(`Sections.Cut.unique`). The body that the scan meets is then the last
section (`Sections.Cut.bodyFindings_eq`).
-/
import QuartoLint.Proofs.Scan.Findings
import QuartoLint.Proofs.Text.Trim
import QuartoLint.Report

namespace QuartoLint

-- ======================================================== lines of the body

/-- What the body allows a line to be: without math marks or nothing but one
between blanks, without fences or a bare or run fence, and without three
dashes or with four. -/
structure IsBodyLine (line : Text) : Prop where
  math : ¬ Mark.math <:+: line ∨ Text.PaddedWith Mark.math line
  fence : ¬ Mark.fence <:+: line ∨ line = Mark.fence ∨ line = Mark.runFence
  dashes : ¬ Mark.separator <:+: line ∨ Mark.pageRule <:+: line

theorem trim_eq_math_iff {line : Text} :
    Text.trim line = Mark.math ↔ Text.PaddedWith Mark.math line := by
  have hend : ¬ Text.EndsInBlank Mark.math := by
    intro hends
    obtain ⟨c, hlast, hblank⟩ := hends
    cases hlast
    revert hblank
    decide
  exact Text.trim_eq_iff (by decide) hend

/-- What a line has to be so that no math mark is out of place in it. -/
theorem misplacedMath_eq_false_iff {line : Text} :
    misplacedMath line = false
      ↔ ¬ Mark.math <:+: line ∨ Text.PaddedWith Mark.math line := by
  unfold misplacedMath
  rw [Bool.and_eq_false_iff, ← Bool.not_eq_true, Text.occurs_iff_infix,
    bne_eq_false_iff_eq, trim_eq_math_iff]

/-- What a line has to be so that no fence is out of place in it. -/
theorem misplacedFence_eq_false_iff {line : Text} :
    misplacedFence line = false
      ↔ ¬ Mark.fence <:+: line ∨ line = Mark.fence
        ∨ line = Mark.runFence := by
  unfold misplacedFence
  rw [Bool.and_eq_false_iff, Bool.and_eq_false_iff, ← Bool.not_eq_true,
    Text.occurs_iff_infix, bne_eq_false_iff_eq, bne_eq_false_iff_eq, or_assoc]

/-- What a line has to be so that no three dashes are out of place in it. -/
theorem straySeparator_eq_false_iff {line : Text} :
    straySeparator line = false
      ↔ (¬ Mark.separator <:+: line ∨ Mark.pageRule <:+: line)
        ∨ line = Mark.separator := by
  unfold straySeparator isSeparator
  rw [Bool.and_eq_false_iff, Bool.and_eq_false_iff, ← Bool.not_eq_true,
    Text.occurs_iff_infix, Bool.not_eq_false', Text.occurs_iff_infix,
    Bool.not_eq_false', beq_iff_eq]

/-- A line that is no separator breaks no rule exactly if the body allows
it. -/
theorem lineFindings_eq_nil_iff {line : Text} (hline : line ≠ Mark.separator)
    (position : Nat) : lineFindings position line = [] ↔ IsBodyLine line := by
  have hrules : lineFindings position line = []
      ↔ misplacedMath line = false ∧ misplacedFence line = false
        ∧ straySeparator line = false := by
    unfold lineFindings
    simp only [List.append_eq_nil_iff, ite_eq_right_iff, List.cons_ne_nil,
      imp_false, Bool.not_eq_true, and_assoc]
  rw [hrules, misplacedMath_eq_false_iff, misplacedFence_eq_false_iff,
    straySeparator_eq_false_iff, or_iff_left hline]
  exact ⟨fun ⟨hmath, hfence, hdashes⟩ => ⟨hmath, hfence, hdashes⟩,
    fun hbody => ⟨hbody.math, hbody.fence, hbody.dashes⟩⟩

/-- Nothing is found in lines exactly if the body allows each of them. -/
theorem findingsFrom_eq_nil_iff {lines : List Text}
    (hlines : Mark.separator ∉ lines) (start : Nat) :
    findingsFrom start lines = [] ↔ ∀ line ∈ lines, IsBodyLine line := by
  induction lines generalizing start with
  | nil => exact iff_of_true rfl (List.forall_mem_nil _)
  | cons line rest ih =>
      rw [List.mem_cons, not_or] at hlines
      rw [findingsFrom_cons, List.append_eq_nil_iff, List.forall_mem_cons,
        lineFindings_eq_nil_iff (Ne.symm hlines.1), ih hlines.2]

-- ================================================================ sections

/-- What stands before, between and behind two separators. -/
structure Sections where
  before : List Text
  header : List Text
  body : List Text

namespace Sections

/-- The sections with a separator between each two. -/
def lines (sections : Sections) : List Text :=
  sections.before ++ Mark.separator :: (sections.header
    ++ Mark.separator :: sections.body)

/-- Lines are cut into sections when these, with the separators between
them, are the lines, and hold no separator themselves. -/
structure Cut (sections : Sections) (lines : List Text) : Prop where
  lines_eq : lines = sections.lines
  before : Mark.separator ∉ sections.before
  header : Mark.separator ∉ sections.header
  body : Mark.separator ∉ sections.body

variable {sections other : Sections} {lines : List Text}

/-- The first two separators tell where the cuts are. -/
theorem Cut.unique (hcut : sections.Cut lines) (hother : other.Cut lines) :
    other = sections := by
  have hsame : other.lines = sections.lines := by
    rw [← hother.lines_eq, hcut.lines_eq]
  obtain ⟨hbefore, hrest⟩ :=
    Text.append_mark_inj hother.before hcut.before hsame
  obtain ⟨hheader, hbody⟩ :=
    Text.append_mark_inj hother.header hcut.header hrest
  obtain ⟨before, header, body⟩ := other
  rw [show before = sections.before from hbefore,
    show header = sections.header from hheader,
    show body = sections.body from hbody]

/-- Lines that are cut hold two separators. -/
theorem Cut.count_eq (hcut : sections.Cut lines) :
    lines.count Mark.separator = 2 := by
  rw [hcut.lines_eq]
  unfold Sections.lines
  rw [List.count_append, List.count_cons_self, List.count_append,
    List.count_cons_self, List.count_eq_zero.2 hcut.before,
    List.count_eq_zero.2 hcut.header, List.count_eq_zero.2 hcut.body]

/-- Lines can be cut exactly if they hold two separators. -/
theorem exists_cut_iff :
    (∃ sections : Sections, sections.Cut lines)
      ↔ lines.count Mark.separator = 2 := by
  constructor
  · intro hexists
    obtain ⟨sections, hcut⟩ := hexists
    exact hcut.count_eq
  · intro hcount
    -- cut at the first separator, and what is behind it at its first
    have hfirst : Mark.separator ∈ lines :=
      List.count_pos_iff.1 (by omega)
    obtain ⟨before, rest, rfl, hbefore⟩ :=
      List.eq_append_cons_of_mem hfirst
    rw [List.count_append, List.count_cons_self,
      List.count_eq_zero.2 hbefore] at hcount
    have hsecond : Mark.separator ∈ rest := List.count_pos_iff.1 (by omega)
    obtain ⟨header, body, rfl, hheader⟩ :=
      List.eq_append_cons_of_mem hsecond
    rw [List.count_append, List.count_cons_self,
      List.count_eq_zero.2 hheader] at hcount
    have hbody : Mark.separator ∉ body := List.count_eq_zero.1 (by omega)
    exact ⟨⟨before, header, body⟩, rfl, hbefore, hheader, hbody⟩

/-- The findings about lines that are cut are those about the last
section. -/
theorem Cut.bodyFindings_eq (hcut : sections.Cut lines) :
    bodyFindings lines = findingsFrom
      (sections.before.length + sections.header.length + 2)
      sections.body := by
  have hone : (sections.before
      ++ Mark.separator :: sections.header).count Mark.separator = 1 := by
    rw [List.count_append, List.count_cons_self,
      List.count_eq_zero.2 hcut.before, List.count_eq_zero.2 hcut.header]
  have htwo : 2 ≤ (sections.before ++ Mark.separator :: sections.header
      ++ [Mark.separator]).count Mark.separator := by
    rw [List.count_append, hone, List.count_singleton_self]
  have hlines : lines = (sections.before ++ Mark.separator :: sections.header
      ++ [Mark.separator]) ++ sections.body := by
    rw [hcut.lines_eq, Sections.lines]
    simp
  -- the second separator opens the body, and nothing is found in itself
  rw [hlines, bodyFindings_append htwo, bodyFindings_concat, if_pos htwo,
    bodyFindings_of_lt (by omega), lineFindings_separator]
  show findingsFrom _ sections.body = _
  congr 1
  simp only [List.length_append, List.length_cons, List.length_nil]
  omega

end Sections

-- ========================================================= clean documents

/-- Nothing is found in a document if nothing is found in its body, it has
two separators, and as many containers are closed as are opened. -/
theorem isClean_lintDocument_iff_findings (document : Document) :
    (lintDocument document).isClean = true
      ↔ bodyFindings document.lines = []
        ∧ document.lines.count Mark.separator = 2
        ∧ Text.countStarts Mark.containerOpen document.lines.flatten
          = Text.countStarts Mark.containerClose document.lines.flatten := by
  unfold Report.isClean lintDocument
  rw [List.isEmpty_iff, toList_validate_eq_append, documentFindings,
    List.append_eq_nil_iff, List.append_eq_nil_iff, headerFindings_eq_nil_iff,
    containerFindings_eq_nil_iff]

/-- A document is clean exactly if it has three sections with separators
between them, its body holds lines that the body allows, and in all lines put
together as many containers are closed as are opened. Any document, clean or
not, can be cut into sections in one way at most. -/
theorem isClean_lintDocument_iff (document : Document) :
    ((lintDocument document).isClean = true
        ↔ ∃ sections : Sections, sections.Cut document.lines
          ∧ (∀ line ∈ sections.body, IsBodyLine line)
          ∧ Text.countStarts Mark.containerOpen document.lines.flatten
            = Text.countStarts Mark.containerClose document.lines.flatten)
      ∧ ∀ sections other : Sections, sections.Cut document.lines →
        other.Cut document.lines → other = sections := by
  refine ⟨?_, fun _ _ => Sections.Cut.unique⟩
  rw [isClean_lintDocument_iff_findings]
  constructor
  · intro hclean
    obtain ⟨hbody, hcount, htags⟩ := hclean
    obtain ⟨sections, hcut⟩ := Sections.exists_cut_iff.2 hcount
    rw [hcut.bodyFindings_eq, findingsFrom_eq_nil_iff hcut.body] at hbody
    exact ⟨sections, hcut, hbody, htags⟩
  · intro hsections
    obtain ⟨sections, hcut, hbody, htags⟩ := hsections
    refine ⟨?_, hcut.count_eq, htags⟩
    rw [hcut.bodyFindings_eq, findingsFrom_eq_nil_iff hcut.body]
    exact hbody

/-- A document with a math mark and an open container in its header, which is
clean, and the only way to cut it into sections. -/
theorem isClean_lintDocument_iff_header :
    let document : Document := ⟨[], ["---".toList, "x: $$ <div>".toList,
      "---".toList, "```{r}".toList, "-----</div>".toList]⟩
    let sections : Sections := ⟨[], ["x: $$ <div>".toList],
      ["```{r}".toList, "-----</div>".toList]⟩
    (lintDocument document).isClean = true
      ∧ sections.Cut document.lines
      ∧ ∀ other : Sections, other.Cut document.lines → other = sections := by
  intro document sections
  have hcut : sections.Cut document.lines := by
    refine ⟨rfl, ?_, ?_, ?_⟩ <;> decide
  have hfence : IsBodyLine "```{r}".toList :=
    ⟨.inl (by decide +kernel), .inr (.inr rfl), .inl (by decide +kernel)⟩
  have hdashes : IsBodyLine "-----</div>".toList :=
    ⟨.inl (by decide +kernel), .inl (by decide +kernel),
      .inr (by decide +kernel)⟩
  have hbody : ∀ line ∈ sections.body, IsBodyLine line :=
    List.forall_mem_cons.2 ⟨hfence, List.forall_mem_singleton.2 hdashes⟩
  obtain ⟨hclean, hunique⟩ := isClean_lintDocument_iff document
  exact ⟨hclean.2 ⟨sections, hcut, hbody, rfl⟩, hcut,
    fun other hother => hunique sections other hcut hother⟩

end QuartoLint
