/-
The rules that look at one line.

A header delimiter is a line of exactly three dashes. Everything else here
is about lines of the body: a math mark, a code fence and three dashes each
have to stand on a line of their own. A math mark may have blanks around
it, a fence may name the language `r`, and a run of four or more dashes
makes the whole line a rule of the page, which is allowed.

`bodyViolations` lists the rules that a line breaks, always in the same
order and each at most once.
-/
import QuartoLint.Rule
import QuartoLint.Text.Search

namespace QuartoLint

-- ================================================================= marks

namespace Mark

/-- The line before and behind the header. -/
def separator : Text := ['-', '-', '-']

/-- A rule of the page: one dash more than a separator. -/
def pageRule : Text := ['-', '-', '-', '-']

/-- Opens and closes displayed math. -/
def math : Text := ['$', '$']

/-- Opens and closes a code block. -/
def fence : Text := ['`', '`', '`']

/-- Opens a code block that is run. -/
def runFence : Text := fence ++ ['{', 'r', '}']

def containerOpen : Text := ['<', 'd', 'i', 'v', '>']

def containerClose : Text := ['<', '/', 'd', 'i', 'v', '>']

end Mark

-- ============================================================ predicates

def isSeparator (line : Text) : Bool :=
  line == Mark.separator

/-- Whether the line has a math mark and, blanks around it apart, something
else. -/
def misplacedMath (line : Text) : Bool :=
  Text.occurs Mark.math line && Text.trim line != Mark.math

/-- Whether the line has a code fence and is neither a bare fence nor the
fence of a code block that is run. -/
def misplacedFence (line : Text) : Bool :=
  Text.occurs Mark.fence line && line != Mark.fence && line != Mark.runFence

/-- Whether the line has three dashes but nowhere four, and is not a header
delimiter. -/
def straySeparator (line : Text) : Bool :=
  Text.occurs Mark.separator line && !Text.occurs Mark.pageRule line
    && !isSeparator line

-- ============================================================= the rules

/-- A rule that each line of the body is held to on its own. -/
inductive LineRule
  | mathIsolation
  | fenceIsolation
  | straySeparator
deriving Repr, DecidableEq

namespace LineRule

/-- The rules in the order in which one line's violations are reported. -/
def all : List LineRule :=
  [mathIsolation, fenceIsolation, straySeparator]

def rule : LineRule → Rule
  | mathIsolation => .mathIsolation
  | fenceIsolation => .fenceIsolation
  | straySeparator => .straySeparator

/-- What is said of a line that breaks the rule. -/
def message : LineRule → Text
  | mathIsolation => "$$ used in file not on its own line".toList
  | fenceIsolation => "``` used in file not on its own line".toList
  | straySeparator => "--- used in file not on its own line".toList

def isBroken (line : Text) : LineRule → Bool
  | mathIsolation => misplacedMath line
  | fenceIsolation => misplacedFence line
  | straySeparator => QuartoLint.straySeparator line

theorem mem_all (lineRule : LineRule) : lineRule ∈ all := by
  cases lineRule <;> decide

/-- No two of them are one rule of the linter. -/
theorem rule_injective {r s : LineRule} (hrule : r.rule = s.rule) : r = s := by
  cases r <;> cases s <;> revert hrule <;> decide

end LineRule

def bodyViolations (line : Text) : List LineRule :=
  LineRule.all.filter (LineRule.isBroken line)

/-- A line's violations are the rules it breaks, no more and no fewer. -/
theorem mem_bodyViolations {line : Text} {lineRule : LineRule} :
    lineRule ∈ bodyViolations line ↔ lineRule.isBroken line = true := by
  simp [bodyViolations, LineRule.mem_all]

end QuartoLint
