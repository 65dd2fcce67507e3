/-
Occurrences of one text in another.

A pattern occurs in a text when some suffix of the text starts with it.
Occurrences are counted from left to right, and a counted occurrence is
passed over as a whole, so counted occurrences never overlap.

Main statements: `behind?_eq_some_iff` and `occurs_iff_infix` read the
searches as statements about lists.
-/
import QuartoLint.Text.Blank

namespace QuartoLint.Text

/-- What stands behind `start` in a text that begins with it. -/
def behind? (start text : Text) : Option Text :=
  if start.isPrefixOf text then some (text.drop start.length) else none

/-- Whether the pattern stands somewhere in the text. -/
def occurs (pattern : Text) : Text → Bool
  | [] => pattern.isEmpty
  | c :: rest => pattern.isPrefixOf (c :: rest) || occurs pattern rest

/-- Counts on from `found`, after passing over `skip` more characters of the
occurrence counted last. -/
def countFrom (pattern : Text) (found : Nat) : (skip : Nat) → Text → Nat
  | _, [] => found
  | skip + 1, _ :: rest => countFrom pattern found skip rest
  | 0, c :: rest =>
    if pattern.isPrefixOf (c :: rest) then
      countFrom pattern (found + 1) (pattern.length - 1) rest
    else
      countFrom pattern found 0 rest

/-- The number of occurrences met from left to right, none of which overlaps
the one before it. -/
def countOccurrences (pattern text : Text) : Nat :=
  countFrom pattern 0 0 text

-- =============================================================== meaning

/-- A text begins with its start, and the rest stands behind it. -/
theorem behind?_eq_some_iff {start text rest : Text} :
    behind? start text = some rest ↔ text = start ++ rest := by
  rw [behind?]
  constructor
  · intro hbehind
    split at hbehind
    case isTrue hstart =>
      cases hbehind
      exact (List.prefix_iff_eq_append.1
        (List.isPrefixOf_iff_prefix.1 hstart)).symm
    case isFalse => cases hbehind
  · rintro rfl
    simp [List.isPrefixOf_iff_prefix]

/-- Behind the start there is no more text than there was. -/
theorem length_le_of_behind? {start text rest : Text}
    (hbehind : behind? start text = some rest) :
    rest.length ≤ text.length := by
  rw [behind?_eq_some_iff.1 hbehind, List.length_append]
  omega

/-- A pattern occurs in a text when it is a contiguous part of it. -/
theorem occurs_iff_infix {pattern text : Text} :
    occurs pattern text = true ↔ pattern <:+: text := by
  induction text with
  | nil => simp [occurs]
  | cons c rest ih =>
    rw [occurs, Bool.or_eq_true, List.isPrefixOf_iff_prefix, ih,
      List.infix_cons_iff]

end QuartoLint.Text
