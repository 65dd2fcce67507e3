/-
Text and its white space.

A text is the list of its characters. A character is blank when it has the
Unicode property White_Space, which twenty-five characters have. Trimming
removes the run of blanks at one end of a text or at both.

Main statements: a trimmed text does not end in a blank
(`not_isBlank_of_mem_getLast?`), and trimming keeps every text that does not
(`trimEnd_eq_self`).
-/
namespace QuartoLint

abbrev Text := List Char

namespace Text

-- ================================================================ blanks

/-- The code points with the property White_Space, as inclusive ranges. -/
def blankRanges : List (Nat × Nat) :=
  [(0x09, 0x0D), (0x20, 0x20), (0x85, 0x85), (0xA0, 0xA0), (0x1680, 0x1680),
    (0x2000, 0x200A), (0x2028, 0x2029), (0x202F, 0x202F), (0x205F, 0x205F),
    (0x3000, 0x3000)]

/-- A blank is a character with the property White_Space. -/
def isBlank (c : Char) : Bool :=
  blankRanges.any fun (low, high) => low ≤ c.toNat && c.toNat ≤ high

-- ============================================================== trimming

/-- The text without the blanks at its end. -/
def trimEnd (text : Text) : Text :=
  (text.reverse.dropWhile isBlank).reverse

/-- The text without the blanks at either end. -/
def trim (text : Text) : Text :=
  trimEnd (text.dropWhile isBlank)

/-- A trimmed text does not end in a blank. -/
theorem not_isBlank_of_mem_getLast? {text : Text} {c : Char}
    (hc : c ∈ (trimEnd text).getLast?) : isBlank c = false := by
  rw [trimEnd, List.getLast?_reverse] at hc
  have hhead := List.head?_dropWhile_not isBlank text.reverse
  rw [Option.mem_def] at hc
  rw [hc] at hhead
  simpa using hhead

/-- A text that does not end in a blank is left alone. -/
theorem trimEnd_eq_self {text : Text}
    (hlast : ∀ c ∈ text.getLast?, isBlank c = false) : trimEnd text = text := by
  rw [trimEnd]
  cases hrev : text.reverse with
  | nil => simpa using hrev.symm
  | cons c rest =>
    have hc : isBlank c = false := by
      apply hlast
      rw [← List.head?_reverse, hrev]
      rfl
    rw [List.dropWhile_cons_of_neg (by simp [hc]), ← hrev, List.reverse_reverse]

end Text

end QuartoLint
