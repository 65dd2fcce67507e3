/-
Numbers of the 64-bit binary format, and their shortest decimal text.

A positive finite number of the format is a whole number below `2 ^ 53` times
a power of two, which is at least `2 ^ -1074`. A decimal is read as the
nearest of these, a tie going to the even mantissa, and is too large if that
would have an exponent above 971.

The shortest text of such a number has the fewest digits among the decimals
that are read back as it; among those with the fewest it is the nearest, and
of two equally near ones the larger. It is found on the decimal grids from
the coarsest to the finest: a grid has a point among the numbers that are
read back if and only if one of the two points next to the number is among
them.
-/
import QuartoLint.Decimal.Basic

namespace QuartoLint

/-- The number `mantissa · 2 ^ exponent`. -/
structure Binary64 where
  mantissa : Nat
  exponent : Int
deriving Repr, DecidableEq

namespace Binary64

/-- The least mantissa of a number that is not subnormal, which is the
fifty-second power of two. -/
def hiddenBit : Nat := 0x10000000000000

/-- The exponent of the least positive number. -/
def minExponent : Int := -1074

/-- The exponent of the largest number. -/
def maxExponent : Int := 971

def value (number : Binary64) : Rat :=
  number.mantissa * (2 : Rat) ^ number.exponent

-- =============================================================== reading

/-- The nearest whole number; a half goes to the even one. -/
def roundHalfEven (x : Rat) : Int :=
  let below := x.floor
  let excess := x - below
  if excess < 1 / 2 ∨ (excess = 1 / 2 ∧ below % 2 = 0) then below else below + 1

/-- The power of two at or below a positive number. -/
def binade (x : Rat) : Int :=
  let guess : Int := Nat.log2 x.num.toNat - Nat.log2 x.den
  if x < (2 : Rat) ^ guess then guess - 1 else guess

/-- The number of the format that is nearest to a positive number, unless
that is too large. -/
def nearest? (x : Rat) : Option Binary64 :=
  let exponent := max (binade x - 52) minExponent
  let mantissa := (roundHalfEven (x / (2 : Rat) ^ exponent)).toNat
  let number : Binary64 :=
    if mantissa = 2 * hiddenBit then ⟨hiddenBit, exponent + 1⟩
    else ⟨mantissa, exponent⟩
  if maxExponent < number.exponent then none else some number

/-- The number that the magnitude of a decimal is read as. Decimals far
outside the range of the format are not computed with. -/
def ofDecimal? (decimal : Decimal) : Option Binary64 :=
  let scale := Decimal.digitCount decimal.digits + decimal.exponent
  if decimal.digits = 0 ∨ scale < -400 then some ⟨0, minExponent⟩
  else if 400 < scale then none
  else nearest? decimal.magnitude

-- =============================================================== writing

/-- Whether the decimal value is read back as the number: it lies between the
middles of the gaps on either side, ends included if the mantissa is even.
Below a power of two the gap is half as wide. -/
def readsBack (number : Binary64) (x : Rat) : Bool :=
  let unit := (2 : Rat) ^ number.exponent
  let gapBelow : Rat :=
    if number.mantissa = hiddenBit ∧ minExponent < number.exponent then 1 / 4
    else 1 / 2
  let low := (number.mantissa - gapBelow) * unit
  let high := (number.mantissa + 1 / 2) * unit
  if number.mantissa % 2 = 0 then low ≤ x && x ≤ high else low < x && x < high

/-- The multiple of `10 ^ place` that stands for the number on its grid, if
one is read back: the nearer of the two next to it, and the larger of two
equally near ones. -/
def onGrid? (number : Binary64) (place : Int) : Option Nat :=
  let x := number.value / (10 : Rat) ^ place
  let below := x.floor
  let hit (n : Int) := number.readsBack (n * (10 : Rat) ^ place)
  if hit below && (!hit (below + 1) || x - below < 1 / 2) then
    some below.toNat
  else if hit (below + 1) then some (below + 1).toNat
  else none

/-- A place so far to the left that the number is below its unit. -/
def topPlace (number : Binary64) : Int :=
  Decimal.digitCount number.value.num.toNat
    - Decimal.digitCount number.value.den + 1

/-- The shortest decimal that is read back as the number. No number needs more
than seventeen digits, and the top place is at most two places too far to
the left. -/
def shortest (number : Binary64) : Decimal :=
  if number.mantissa = 0 then ⟨false, 0, 0⟩
  else ((List.range 20).findSome? fun (steps : Nat) =>
    let place := number.topPlace - steps
    (number.onGrid? place).map fun digits => ⟨false, digits, place⟩).getD
      ⟨false, 0, 0⟩

end Binary64

/-- The text of the number that a decimal is read as: the fewest digits, in
positional notation. Nothing if the decimal is too large. -/
def Decimal.binary64Text? (decimal : Decimal) : Option Text :=
  (Binary64.ofDecimal? decimal).map fun number =>
    { number.shortest with negative := decimal.negative }.positional

end QuartoLint
