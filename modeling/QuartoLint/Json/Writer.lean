/-
Writing JSON objects on one line.

An object is written without blanks, its fields in the order given. In a
string the quote, the backslash and the control characters below U+0020 are
escaped, five of these with a letter of their own and the others with their
code point in four hexadecimal digits; every other character stands for
itself.
-/
import QuartoLint.Json.Basic

namespace QuartoLint.Json

-- =============================================================== strings

/-- The hexadecimal digit of a number below sixteen. -/
def hexDigit (n : Nat) : Char := Nat.digitChar n

/-- A character as it stands between the quotes of a string. -/
def escape (c : Char) : Text :=
  match c with
  | '"' => ['\\', '"']
  | '\\' => ['\\', '\\']
  | '\x08' => ['\\', 'b']
  | '\t' => ['\\', 't']
  | '\n' => ['\\', 'n']
  | '\x0c' => ['\\', 'f']
  | '\r' => ['\\', 'r']
  | c =>
    if c.toNat < 0x20 then
      ['\\', 'u', '0', '0', hexDigit (c.toNat / 16), hexDigit (c.toNat % 16)]
    else [c]

/-- A string with its quotes. -/
def writeString (text : Text) : Text :=
  '"' :: text.flatMap escape ++ ['"']

-- =============================================================== objects

namespace Scalar

/-- A value without blanks around it. -/
def write : Scalar → Text
  | null => "null".toList
  | number n => Nat.toDigits 10 n
  | string text => writeString text

end Scalar

def writeField (field : Text × Scalar) : Text :=
  writeString field.1 ++ ':' :: field.2.write

/-- The object on one line. -/
def Object.write (object : Object) : Text :=
  '{' :: ((object.map writeField).intersperse [',']).flatten ++ ['}']

end QuartoLint.Json
