/-
Digits.

A digit of a base up to sixteen is an ASCII digit or letter whose value lies
below the base; letters may be of either case. A run of digits denotes a
natural number, its first digit counting most.
-/
import QuartoLint.Text.Blank

namespace QuartoLint.Text

/-- The value of a hexadecimal digit. -/
def hexValue? (c : Char) : Option Nat :=
  if '0' ≤ c ∧ c ≤ '9' then some (c.toNat - '0'.toNat)
  else if 'a' ≤ c ∧ c ≤ 'f' then some (c.toNat - 'a'.toNat + 10)
  else if 'A' ≤ c ∧ c ≤ 'F' then some (c.toNat - 'A'.toNat + 10)
  else none

/-- The value of a digit in the base. -/
def digitValue? (base : Nat) (c : Char) : Option Nat :=
  (hexValue? c).filter (· < base)

/-- The number that a run of digits denotes; nothing if it holds anything
else. -/
def ofDigits? (base : Nat) (digits : Text) : Option Nat :=
  digits.foldlM (fun n c => (digitValue? base c).map (base * n + ·)) 0

/-- The number that the next `count` characters denote, and the text behind
them. -/
def fixedDigits? (base count : Nat) (text : Text) : Option (Nat × Text) :=
  if text.length < count then none
  else (ofDigits? base (text.take count)).map fun n => (n, text.drop count)

/-- Behind the digits there is no more text than there was. -/
theorem length_le_of_fixedDigits? {base count n : Nat} {text rest : Text}
    (hread : fixedDigits? base count text = some (n, rest)) :
    rest.length + count = text.length := by
  rw [fixedDigits?] at hread
  split at hread
  · cases hread
  · obtain ⟨m, -, heq⟩ := Option.map_eq_some_iff.1 hread
    cases heq
    rw [List.length_drop]
    omega

end QuartoLint.Text
