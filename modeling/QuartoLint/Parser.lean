/-
Parsers.

A parser takes what it reads off the front of the text, or refuses. The
parsers here take single characters, given words and runs of characters of a
kind, and repeat other parsers.
-/
import QuartoLint.Text.Search

namespace QuartoLint

/-- A parser gives what it read and leaves the text behind it. -/
abbrev Parser (α : Type) := StateT Text Option α

namespace Parser

-- =========================================================== single steps

/-- The next character, which stays where it is. -/
def peek? : Parser (Option Char) :=
  return (← get).head?

/-- Takes the given text if it comes next, and tells whether it did. -/
def accept (expected : Text) : Parser Bool := fun text =>
  match Text.behind? expected text with
  | some rest => some (true, rest)
  | none => some (false, text)

/-- Takes the given text, which has to come next. -/
def expect (expected : Text) : Parser Unit := do
  guard (← accept expected)

/-- Takes characters as long as they are of the given kind. -/
def takeWhile (kind : Char → Bool) : Parser Text := fun text =>
  some (text.takeWhile kind, text.dropWhile kind)

def atEnd : Parser Bool :=
  return (← get).isEmpty

-- ============================================================ repetition

/-- Reads at most `count` items. -/
def chainWithin {α : Type} (item : Parser α) (another : Parser Bool) :
    (count : Nat) → Parser (List α)
  | 0 => failure
  | count + 1 => do
    let first ← item
    if ← another then
      return first :: (← chainWithin item another count)
    else
      return [first]

/-- Reads an item, and another as long as `another` says so. Where each item
together with what `another` takes behind it has a character, the text has
no more than its length of them. -/
def chain {α : Type} (item : Parser α) (another : Parser Bool) :
    Parser (List α) := do
  chainWithin item another ((← get).length + 1)

/-- What a parser reads from a text that it reads to its end. -/
def all? {α : Type} (parser : Parser α) (text : Text) : Option α :=
  match parser text with
  | some (result, []) => some result
  | _ => none

end Parser

end QuartoLint
