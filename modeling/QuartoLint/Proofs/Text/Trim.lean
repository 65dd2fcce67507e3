/-
What trimming leaves and what it removes.

A text ends in a blank if its last character is one (`EndsInBlank`); trimming
changes exactly the texts that do. A text and blanks around it
(`PaddedWith`) is trimmed to that text, provided that no blank stands at
either end of the text itself, and nothing else is (`trim_eq_iff`).
-/
import Mathlib.Data.List.TakeWhile
import QuartoLint.Text.Blank

namespace QuartoLint.Text

-- ========================================================== blanks at the end

/-- Whether the last character of the text is a blank. -/
def EndsInBlank (text : Text) : Prop :=
  ∃ c ∈ text.getLast?, isBlank c = true

theorem endsInBlank_concat (text : Text) (c : Char) :
    EndsInBlank (text ++ [c]) ↔ isBlank c = true := by
  unfold EndsInBlank
  rw [List.getLast?_concat]
  constructor
  · intro hends
    obtain ⟨d, hd, hblank⟩ := hends
    rwa [Option.some.inj hd]
  · intro hblank
    exact ⟨c, rfl, hblank⟩

theorem not_endsInBlank_trimEnd (text : Text) :
    ¬ EndsInBlank (trimEnd text) := by
  intro hends
  obtain ⟨c, hlast, hblank⟩ := hends
  rw [not_isBlank_of_mem_getLast? hlast] at hblank
  cases hblank

/-- Trimming changes exactly the texts that end in a blank. -/
theorem trimEnd_eq_self_iff {text : Text} :
    trimEnd text = text ↔ ¬ EndsInBlank text := by
  constructor
  · intro htrim
    rw [← htrim]
    exact not_endsInBlank_trimEnd text
  · intro hend
    refine trimEnd_eq_self fun c hlast => ?_
    exact Bool.eq_false_iff.2 fun hblank => hend ⟨c, hlast, hblank⟩

/-- What trimming removes is blank. -/
theorem trimEnd_append_padding (text : Text) :
    ∃ padding, text = trimEnd text ++ padding
      ∧ ∀ c ∈ padding, isBlank c = true := by
  refine ⟨(text.reverse.takeWhile isBlank).reverse, ?_, ?_⟩
  · unfold trimEnd
    rw [← List.reverse_append, List.takeWhile_append_dropWhile,
      List.reverse_reverse]
  · intro c hc
    exact List.mem_takeWhile_imp (List.mem_reverse.1 hc)

/-- Blanks at the end make no difference to a text that is trimmed. -/
theorem trimEnd_append {padding : Text}
    (hpadding : ∀ c ∈ padding, isBlank c = true) (text : Text) :
    trimEnd (text ++ padding) = trimEnd text := by
  unfold trimEnd
  rw [List.reverse_append, List.dropWhile_append_of_pos]
  intro c hc
  exact hpadding c (List.mem_reverse.1 hc)

-- ======================================================= blanks at both ends

/-- Whether the text is the core with nothing but blanks around it. -/
def PaddedWith (core text : Text) : Prop :=
  ∃ left right, text = left ++ core ++ right
    ∧ (∀ c ∈ left, isBlank c = true) ∧ ∀ c ∈ right, isBlank c = true

/-- What trimming leaves stood between blanks. -/
theorem paddedWith_trim (text : Text) : PaddedWith (trim text) text := by
  obtain ⟨right, hright, hblank⟩ :=
    trimEnd_append_padding (text.dropWhile isBlank)
  refine ⟨text.takeWhile isBlank, right, ?_, ?_, hblank⟩
  · unfold trim
    rw [List.append_assoc, ← hright, List.takeWhile_append_dropWhile]
  · intro c hc
    exact List.mem_takeWhile_imp hc

/-- Trimming leaves a core without blanks at its own ends exactly where it
stands between blanks. -/
theorem trim_eq_iff {first : Char} {others : Text}
    (hfirst : isBlank first = false)
    (hlast : ¬ EndsInBlank (first :: others)) {text : Text} :
    trim text = first :: others ↔ PaddedWith (first :: others) text := by
  constructor
  · intro htrim
    rw [← htrim]
    exact paddedWith_trim text
  · intro hpadded
    obtain ⟨left, right, rfl, hleft, hright⟩ := hpadded
    unfold trim
    rw [List.append_assoc, List.dropWhile_append_of_pos hleft,
      List.cons_append, List.dropWhile_cons_of_neg (by rw [hfirst]; decide),
      ← List.cons_append, trimEnd_append hright, trimEnd_eq_self_iff.2 hlast]

end QuartoLint.Text
