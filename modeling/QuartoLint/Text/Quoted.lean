/-
Texts shown between quotes.

A quoted text can be read without doubt about what it holds: the quote and
the backslash have a backslash before them, NUL, tab, line feed and carriage
return are shown as escapes of one letter, and any other character that
shows nothing of its own is shown by its code point. Apostrophes stand for
themselves.
-/
import QuartoLint.Text.Blank
import QuartoLint.Text.Visible

namespace QuartoLint.Text

/-- A character as it is shown between quotes. -/
def shownChar (c : Char) : Text :=
  match c with
  | '\x00' => ['\\', '0']
  | '\t' => ['\\', 't']
  | '\n' => ['\\', 'n']
  | '\r' => ['\\', 'r']
  | '"' => ['\\', '"']
  | '\\' => ['\\', '\\']
  | c =>
    if isVisible c then [c]
    else ['\\', 'u', '{'] ++ Nat.toDigits 16 c.toNat ++ ['}']

def quoted (text : Text) : Text :=
  '"' :: text.flatMap shownChar ++ ['"']

end QuartoLint.Text
