/-
Documents: a source name and normalized lines.

Normalizing a line removes the blanks at its end and then every apostrophe,
so that an apostrophe never hides a mark and a mark is found whatever blanks
follow it. The order of the two steps shows: blanks that stand before an
apostrophe at the end of the line stay. A document is made of a text, which
is cut into lines first, or of lines that are cut already.
-/
import QuartoLint.Text.Lines

namespace QuartoLint

/-- The line without the blanks at its end, and then without apostrophes. -/
def normalizeLine (line : Text) : Text :=
  (Text.trimEnd line).filter (· != '\'')

/-- A document is the name of its source and its normalized lines, in
order. -/
structure Document where
  source : Text
  lines : List Text
deriving Repr, DecidableEq

namespace Document

/-- The document of the given lines, each of which is normalized and none of
which is cut again. -/
def ofLines (source : Text) (lines : List Text) : Document where
  source
  lines := lines.map normalizeLine

def ofText (source text : Text) : Document :=
  ofLines source text.lines

/-- Every line with its position, counted from zero. -/
def numberedLines (document : Document) : List (Nat × Text) :=
  document.lines.zipIdx.map fun (line, position) => (position, line)

end Document

end QuartoLint
