/-
The rules of the body, told by runs.

Each mark of the body is one character written several times. A run of a
character in a text is a row of it that is as long as it can be: what stands
next to it on either side is something else, or nothing (`Text.HasRun`). What
the rules look for are runs of a certain length: two dollar signs or more,
three backticks or more, and rows of three dashes with no longer one beside
them (`bodyViolations_by_runs`).

# Searching and growing

A mark found somewhere in a text need not be a run, because the same
character may stand next to it. It grows into one when these are added on
both sides, and a run holds each shorter row. So a mark occurs exactly where
there is a run at least as long (`Text.replicate_infix_iff`), and if one
character more does not occur, the run is a longest one
(`Text.hasLongestRun_iff`).
-/
import QuartoLint.Proofs.Scan.Sections

namespace QuartoLint

namespace Text

-- ==================================================================== runs

/-- Whether somewhere in the text the character stands this many times in a
row, with something else or nothing on either side. -/
def HasRun (c : Char) (length : Nat) (text : Text) : Prop :=
  0 < length ∧ ∃ before behind,
    text = before ++ List.replicate length c ++ behind
      ∧ c ∉ before.getLast? ∧ c ∉ behind.head?

/-- Whether the longest run of the character in the text has this length. -/
def HasLongestRun (c : Char) (length : Nat) (text : Text) : Prop :=
  HasRun c length text ∧ ∀ other, HasRun c other text → other ≤ length

variable {c : Char} {text : Text}

/-- A text is a row of a character, possibly of none, and a rest that does
not go on with it. -/
theorem exists_eq_replicate_append (c : Char) (text : Text) :
    ∃ count rest, text = List.replicate count c ++ rest
      ∧ c ∉ rest.head? := by
  induction text with
  | nil => exact ⟨0, [], rfl, Option.not_mem_none c⟩
  | cons first text ih =>
      by_cases hfirst : first = c
      · obtain ⟨count, rest, htext, hrest⟩ := ih
        refine ⟨count + 1, rest, ?_, hrest⟩
        rw [hfirst, htext]
        rfl
      · refine ⟨0, first :: text, rfl, fun hhead => hfirst ?_⟩
        exact Option.some.inj hhead

/-- The same from the other end. -/
theorem exists_eq_append_replicate (c : Char) (text : Text) :
    ∃ count rest, text = rest ++ List.replicate count c
      ∧ c ∉ rest.getLast? := by
  obtain ⟨count, rest, hreverse, hrest⟩ :=
    exists_eq_replicate_append c text.reverse
  refine ⟨count, rest.reverse, ?_, ?_⟩
  · rw [← List.reverse_reverse text, hreverse, List.reverse_append,
      List.reverse_replicate]
  · rwa [List.getLast?_reverse]

/-- A row that stands in a text grows to a run. -/
theorem exists_hasRun_of_infix {n : Nat} (hn : 0 < n)
    (hrow : List.replicate n c <:+: text) :
    ∃ length, n ≤ length ∧ HasRun c length text := by
  obtain ⟨start, rest, rfl⟩ := hrow
  obtain ⟨left, before, rfl, hbefore⟩ := exists_eq_append_replicate c start
  obtain ⟨right, behind, rfl, hbehind⟩ := exists_eq_replicate_append c rest
  refine ⟨left + n + right, by omega, by omega, before, behind, ?_, hbefore,
    hbehind⟩
  rw [List.replicate_add, List.replicate_add]
  simp only [List.append_assoc]

/-- A run holds every shorter row. -/
theorem HasRun.replicate_infix_of_le {length n : Nat}
    (hrun : HasRun c length text) (hle : n ≤ length) :
    List.replicate n c <:+: text := by
  obtain ⟨-, before, behind, rfl, -, -⟩ := hrun
  refine ⟨before, List.replicate (length - n) c ++ behind, ?_⟩
  rw [List.append_assoc, ← List.append_assoc (List.replicate n c),
    ← List.replicate_add, Nat.add_sub_cancel' hle, ← List.append_assoc]

/-- A row of a character stands in a text exactly if this has a run of the
character that is at least as long. -/
theorem replicate_infix_iff {n : Nat} (hn : 0 < n) :
    List.replicate n c <:+: text
      ↔ ∃ length, n ≤ length ∧ HasRun c length text := by
  constructor
  · exact exists_hasRun_of_infix hn
  · intro hexists
    obtain ⟨length, hle, hrun⟩ := hexists
    exact hrun.replicate_infix_of_le hle

/-- The longest run of a character has a length if a row of this length
stands in the text, and none that is longer by one. -/
theorem hasLongestRun_iff {n : Nat} (hn : 0 < n) :
    HasLongestRun c n text
      ↔ List.replicate n c <:+: text
        ∧ ¬ List.replicate (n + 1) c <:+: text := by
  constructor
  · intro hlongest
    obtain ⟨hrun, hmost⟩ := hlongest
    refine ⟨hrun.replicate_infix_of_le (Nat.le_refl n), fun hlonger => ?_⟩
    obtain ⟨length, hlt, hother⟩ :=
      exists_hasRun_of_infix (Nat.succ_pos n) hlonger
    exact Nat.not_lt.2 (hmost length hother) hlt
  · intro hrows
    obtain ⟨hrow, hnone⟩ := hrows
    have hmost : ∀ other, HasRun c other text → other ≤ n := by
      intro other hother
      exact Nat.not_lt.1 fun hlt => hnone (hother.replicate_infix_of_le hlt)
    obtain ⟨length, hle, hrun⟩ := exists_hasRun_of_infix hn hrow
    rw [Nat.le_antisymm (hmost length hrun) hle] at hrun
    exact ⟨hrun, hmost⟩

end Text

-- =============================================================== the rules

/-- When a line breaks the rule about math marks, in runs of dollar signs. -/
theorem misplacedMath_iff_run {line : Text} :
    misplacedMath line = true
      ↔ (∃ length, 2 ≤ length ∧ Text.HasRun '$' length line)
        ∧ ¬ Text.PaddedWith Mark.math line := by
  have hmark : Mark.math <:+: line
      ↔ ∃ length, 2 ≤ length ∧ Text.HasRun '$' length line :=
    Text.replicate_infix_iff (n := 2) (by decide)
  rw [← hmark, ← Bool.not_eq_false, misplacedMath_eq_false_iff, not_or,
    Classical.not_not]

/-- When a line breaks the rule about fences, in runs of backticks. -/
theorem misplacedFence_iff_run {line : Text} :
    misplacedFence line = true
      ↔ (∃ length, 3 ≤ length ∧ Text.HasRun '`' length line)
        ∧ line ≠ Mark.fence ∧ line ≠ Mark.runFence := by
  have hmark : Mark.fence <:+: line
      ↔ ∃ length, 3 ≤ length ∧ Text.HasRun '`' length line :=
    Text.replicate_infix_iff (n := 3) (by decide)
  rw [← hmark, ← Bool.not_eq_false, misplacedFence_eq_false_iff, not_or,
    not_or, Classical.not_not]

/-- When a line breaks the rule about dashes, in runs of dashes. -/
theorem straySeparator_iff_run {line : Text} :
    straySeparator line = true
      ↔ Text.HasLongestRun '-' 3 line ∧ line ≠ Mark.separator := by
  have hmarks : Text.HasLongestRun '-' 3 line
      ↔ Mark.separator <:+: line ∧ ¬ Mark.pageRule <:+: line :=
    Text.hasLongestRun_iff (by decide)
  rw [hmarks, ← Bool.not_eq_false, straySeparator_eq_false_iff, not_or,
    not_or, Classical.not_not]

/-- A rule is reported for a line if the line breaks it. -/
theorem rule_mem_bodyViolations_iff {line : Text} {lineRule : LineRule} :
    lineRule.rule ∈ (bodyViolations line).map LineRule.rule
      ↔ lineRule.isBroken line = true := by
  rw [List.mem_map_of_injective fun _ _ => LineRule.rule_injective,
    mem_bodyViolations]

theorem rules_bodyViolations_sublist (line : Text) :
    ((bodyViolations line).map LineRule.rule).Sublist
      [.mathIsolation, .fenceIsolation, .straySeparator] :=
  List.filter_sublist.map LineRule.rule

/-- A line breaks the rule about math marks if it has a run of two dollar
signs or more and is not a math mark between blanks, the rule about fences if
it has a run of three backticks or more and is neither a bare nor a run fence,
and the rule about dashes if its longest run of dashes has three of them and
it is no separator. The rules reported for a line are those it breaks, each
once, in this order. -/
theorem bodyViolations_by_runs (line : Text) :
    let rules := (bodyViolations line).map LineRule.rule
    (misplacedMath line = true
        ↔ (∃ length, 2 ≤ length ∧ Text.HasRun '$' length line)
          ∧ ¬ Text.PaddedWith Mark.math line)
      ∧ (misplacedFence line = true
        ↔ (∃ length, 3 ≤ length ∧ Text.HasRun '`' length line)
          ∧ line ≠ Mark.fence ∧ line ≠ Mark.runFence)
      ∧ (straySeparator line = true
        ↔ Text.HasLongestRun '-' 3 line ∧ line ≠ Mark.separator)
      ∧ (.mathIsolation ∈ rules ↔ misplacedMath line = true)
      ∧ (.fenceIsolation ∈ rules ↔ misplacedFence line = true)
      ∧ (.straySeparator ∈ rules ↔ straySeparator line = true)
      ∧ rules.Sublist [.mathIsolation, .fenceIsolation, .straySeparator] := by
  intro rules
  have hmem (lineRule : LineRule) : lineRule.rule ∈ rules
      ↔ lineRule.isBroken line = true := rule_mem_bodyViolations_iff
  exact ⟨misplacedMath_iff_run, misplacedFence_iff_run,
    straySeparator_iff_run, hmem .mathIsolation, hmem .fenceIsolation,
    hmem .straySeparator, rules_bodyViolations_sublist line⟩

end QuartoLint
