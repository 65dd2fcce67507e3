/-
Decimal numbers, exactly.

A decimal is a whole number with a sign and a power of ten. The sign is kept
apart, because a zero has one too, and different pairs may stand for the
same number. In positional notation every decimal has at least one digit on
either side of its point.
-/
import QuartoLint.Text.Blank

namespace QuartoLint

/-- The number `± digits · 10 ^ exponent`. -/
structure Decimal where
  negative : Bool
  digits : Nat
  exponent : Int
deriving Repr, DecidableEq

namespace Decimal

def digitCount (n : Nat) : Nat :=
  (Nat.toDigits 10 n).length

/-- The number without its sign. -/
def magnitude (decimal : Decimal) : Rat :=
  decimal.digits * (10 : Rat) ^ decimal.exponent

/-- The digits on either side of the point, without the sign. -/
def positionalMagnitude (digits : Nat) : (exponent : Int) → Text
  | .ofNat zeros =>
    Nat.toDigits 10 digits ++ List.replicate zeros '0' ++ ['.', '0']
  | .negSucc n =>
    let places := n + 1
    let padded := (Nat.toDigits 10 digits).leftpad (places + 1) '0'
    let whole := padded.length - places
    padded.take whole ++ '.' :: padded.drop whole

def positional (decimal : Decimal) : Text :=
  (if decimal.negative then ['-'] else [])
    ++ positionalMagnitude decimal.digits decimal.exponent

end Decimal

end QuartoLint
