/-
The rules of the linter, by name.

Three rules look at one line, two at the whole document, and one is broken
by a source that cannot be read. Each has a name, under which findings show
it; no two rules share one, and a name leads back to its rule
(`ofName?_name`).
-/
import QuartoLint.Text.Blank

namespace QuartoLint

/-- What a source has to keep to. -/
inductive Rule
  /-- A math mark stands on a line of its own. -/
  | mathIsolation
  /-- A code fence stands on a line of its own. -/
  | fenceIsolation
  /-- Three dashes stand on a line of their own. -/
  | straySeparator
  /-- The header has one delimiter before it and one behind it. -/
  | headerCardinality
  /-- As many containers are closed as are opened. -/
  | containerBalance
  /-- The source can be read. -/
  | io
deriving Repr, DecidableEq

namespace Rule

def all : List Rule :=
  [mathIsolation, fenceIsolation, straySeparator, headerCardinality,
    containerBalance, io]

def name : Rule → Text
  | mathIsolation => "math-isolation".toList
  | fenceIsolation => "fence-isolation".toList
  | straySeparator => "stray-separator".toList
  | headerCardinality => "header-cardinality".toList
  | containerBalance => "container-balance".toList
  | io => "io".toList

def ofName? (text : Text) : Option Rule :=
  all.find? fun rule => rule.name == text

/-- A rule is found by its name. -/
theorem ofName?_name (rule : Rule) : ofName? rule.name = some rule := by
  cases rule <;> decide

end Rule

end QuartoLint
