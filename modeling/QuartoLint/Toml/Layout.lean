/-
Characters and layout of TOML text.

Blanks are spaces and tabs. A line ends in a line feed, which may have a
carriage return before it; a carriage return elsewhere is refused, and so is
every other control character but the tab. A comment runs from a number sign
to the end of its line.
-/
import QuartoLint.Parser

namespace QuartoLint.Toml

-- ============================================================ characters

/-- The characters that may stand between the parts of a line. -/
def isSpace (c : Char) : Bool :=
  c == ' ' || c == '\t'

/-- The characters that comments and strings may hold on one line. -/
def isPlain (c : Char) : Bool :=
  c == '\t' || (0x20 ≤ c.toNat && c.toNat != 0x7F)

/-- The characters of a key without quotes. -/
def isBareKeyChar (c : Char) : Bool :=
  c.isAlphanum || c == '_' || c == '-'

/-- The text behind a line end. -/
def lineEnd? : Text → Option Text
  | '\n' :: rest => some rest
  | '\r' :: '\n' :: rest => some rest
  | _ => none

-- ================================================================ layout

/-- Takes the spaces and tabs that come next. -/
def skipSpaces : Parser Unit :=
  discard (Parser.takeWhile isSpace)

/-- Takes the comment that comes next, if one does. -/
def skipComment : Parser Unit := do
  if ← Parser.accept ['#'] then discard (Parser.takeWhile isPlain)

/-- Takes the rest of a line on which nothing else may stand, and its line
end. The last line needs none. -/
def finishLine : Parser Unit := do
  skipSpaces
  skipComment
  unless ← Parser.atEnd do
    StateT.lift (lineEnd? (← get)) >>= set

/-- The text behind blanks, line ends and comments; `inComment` tells whether
it starts within a comment. -/
def afterLayout (inComment : Bool) : Text → Option Text
  | [] => some []
  | '\n' :: rest => afterLayout false rest
  | '\r' :: '\n' :: rest => afterLayout false rest
  | c :: rest =>
    if inComment then if isPlain c then afterLayout true rest else none
    else if isSpace c then afterLayout false rest
    else if c == '#' then afterLayout true rest
    else some (c :: rest)

/-- Takes the blanks, line ends and comments that come next. -/
def skipLayout : Parser Unit := do
  StateT.lift (afterLayout false (← get)) >>= set

end QuartoLint.Toml
