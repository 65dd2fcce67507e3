/-
Flat JSON objects.

A field has a name and a value that is a string, a natural number or null;
an object is the list of its fields.
-/
import QuartoLint.Text.Blank

namespace QuartoLint.Json

/-- A value without parts. -/
inductive Scalar
  | null
  | number (n : Nat)
  | string (text : Text)
deriving Repr, DecidableEq

/-- A field is a name with a value; an object is the list of its fields. -/
abbrev Object := List (Text × Scalar)

end QuartoLint.Json
