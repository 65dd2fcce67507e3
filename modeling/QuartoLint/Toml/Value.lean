/-
The values of a TOML document.

A table is the list of its entries, in which no key comes twice. Numbers are
kept as they were written: an integer may have any size, and a float is an
exact decimal. Of a date or time nothing but its kind is kept.
-/
import QuartoLint.Decimal.Basic
import QuartoLint.Text.Blank

namespace QuartoLint.Toml

/-- A float as it was written. -/
inductive FloatLiteral
  | notANumber
  | infinity (negative : Bool)
  | finite (value : Decimal)
deriving Repr, DecidableEq

/-- What may stand under a key or in an array. -/
inductive Value
  | string (text : Text)
  | integer (n : Int)
  | float (literal : FloatLiteral)
  | boolean (b : Bool)
  | datetime
  | array (items : List Value)
  | table (entries : List (Text × Value))
deriving Repr

/-- A table, as the list of its entries. -/
abbrev Table := List (Text × Value)

end QuartoLint.Toml
