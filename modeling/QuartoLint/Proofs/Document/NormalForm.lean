/-
The normal form of a line, and where normalizing misses it.

A line in normal form has no apostrophe, no line end, and no blank at its
end. Normalizing removes the blanks at the end first and the apostrophes
then, so of the three only the last can fail: a blank that stood before
apostrophes was not at the end while blanks were removed, and is when the
apostrophes are gone. The separator `--- '` with its apostrophe becomes
three dashes and a blank, which is no separator.

# Exactly when

A line hides a blank (`HidesBlank`) when nothing but apostrophes, at least
one, and then padding of blanks stands behind that blank. The normalized
line ends in a blank exactly then (`endsInBlank_normalizeLine_iff`), and
exactly then a second normalization changes it once more
(`normalizeLine_normalizeLine_iff`). Whole documents follow line by line.
-/
import QuartoLint.Proofs.Document.Segments
import QuartoLint.Proofs.Text.Trim

namespace QuartoLint

namespace Text

-- ============================================================ hidden blanks

/-- Whether a blank of the text has apostrophes right behind it and, up to
the end of the text, nothing else than blanks behind these. -/
def HidesBlank (text : Text) : Prop :=
  ∃ start blank more padding,
    text = start ++ blank :: List.replicate (more + 1) '\'' ++ padding
      ∧ isBlank blank = true ∧ ∀ c ∈ padding, isBlank c = true

theorem ne_apostrophe_of_isBlank {c : Char} (hblank : isBlank c = true) :
    (c != '\'') = true := by
  refine bne_iff_ne.2 fun heq => ?_
  rw [heq] at hblank
  revert hblank
  decide

end Text

-- ========================================================== one line each

open Text

/-- The normal form of a line: no apostrophe, no line end, and no blank at
the end. -/
structure IsNormalLine (line : Text) : Prop where
  noApostrophe : '\'' ∉ line
  noLineEnd : NoLineEnd line
  noBlankAtEnd : ¬ EndsInBlank line

/-- A line that was normalized holds no apostrophe. -/
theorem apostrophe_notMem_normalizeLine (line : Text) :
    '\'' ∉ normalizeLine line := by
  intro hmem
  have hne := List.of_mem_filter hmem
  cases hne

theorem mem_of_mem_normalizeLine {line : Text} {c : Char}
    (hc : c ∈ normalizeLine line) : c ∈ line := by
  obtain ⟨padding, hline, -⟩ := trimEnd_append_padding line
  rw [hline]
  exact List.mem_append_left padding (List.mem_of_mem_filter hc)

theorem noLineEnd_normalizeLine {line : Text} (hline : NoLineEnd line) :
    NoLineEnd (normalizeLine line) :=
  ⟨fun hc => hline.1 (mem_of_mem_normalizeLine hc),
    fun hc => hline.2 (mem_of_mem_normalizeLine hc)⟩

/-- Without apostrophes, normalizing is trimming. -/
theorem normalizeLine_eq_trimEnd {line : Text} (hline : '\'' ∉ line) :
    normalizeLine line = trimEnd line := by
  obtain ⟨padding, hsplit, -⟩ := trimEnd_append_padding line
  unfold normalizeLine
  refine List.filter_eq_self.2 fun c hc => ?_
  have hmem : c ∈ line := by
    rw [hsplit]
    exact List.mem_append_left padding hc
  have hne : c ≠ '\'' := by
    intro heq
    rw [heq] at hmem
    exact hline hmem
  exact bne_iff_ne.2 hne

/-- A hidden blank is the last character of the normalized line. -/
theorem endsInBlank_of_hidesBlank {line : Text} (hhides : HidesBlank line) :
    EndsInBlank (normalizeLine line) := by
  obtain ⟨start, blank, more, padding, rfl, hblank, hpadding⟩ := hhides
  -- the last apostrophe keeps the blank from being trimmed
  have hend : ¬ EndsInBlank
      (start ++ blank :: List.replicate (more + 1) '\'') := by
    rw [List.replicate_succ', ← List.cons_append, ← List.append_assoc,
      endsInBlank_concat]
    decide
  have hkept : (blank :: List.replicate (more + 1) '\'').filter (· != '\'')
      = [blank] := by
    rw [List.filter_cons, if_pos (ne_apostrophe_of_isBlank hblank),
      List.filter_replicate_of_neg (by decide)]
  unfold normalizeLine
  rw [trimEnd_append hpadding, trimEnd_eq_self_iff.2 hend,
    List.filter_append, hkept, endsInBlank_concat]
  exact hblank

/-- A normalized line that ends in a blank has had it hidden. -/
theorem hidesBlank_of_endsInBlank {line : Text}
    (hends : EndsInBlank (normalizeLine line)) : HidesBlank line := by
  obtain ⟨blank, hlast, hblank⟩ := hends
  obtain ⟨padding, hline, hpadding⟩ := trimEnd_append_padding line
  -- behind the last character that is kept there are only apostrophes
  obtain ⟨kept, hkept⟩ := List.getLast?_eq_some_iff.1 hlast
  obtain ⟨before, last, htrim, -, hcut⟩ := List.filter_eq_append_iff.1 hkept
  obtain ⟨dropped, behind, rfl, -, -, hnone⟩ := List.filter_eq_cons_iff.1 hcut
  have hall : ∀ c ∈ behind, c = '\'' := by
    intro c hc
    simpa using List.filter_eq_nil_iff.1 hnone c hc
  have hbehind : behind = List.replicate behind.length '\'' :=
    List.eq_replicate_iff.2 ⟨rfl, hall⟩
  cases hcount : behind.length with
  | zero =>
      -- the blank itself would stand at the end of the trimmed line
      rw [List.length_eq_zero_iff] at hcount
      rw [hcount, ← List.append_assoc] at htrim
      have hends : EndsInBlank (trimEnd line) := by
        rw [htrim, endsInBlank_concat]
        exact hblank
      exact absurd hends (not_endsInBlank_trimEnd line)
  | succ more =>
      refine ⟨before ++ dropped, blank, more, padding, ?_, hblank, hpadding⟩
      rw [← hcount, ← hbehind, List.append_assoc before, ← htrim]
      exact hline

/-- It ends in a blank exactly if apostrophes at its end hid one. -/
theorem endsInBlank_normalizeLine_iff (line : Text) :
    EndsInBlank (normalizeLine line) ↔ HidesBlank line :=
  ⟨hidesBlank_of_endsInBlank, endsInBlank_of_hidesBlank⟩

/-- A line without line ends is normalized to normal form exactly if it hides
no blank. -/
theorem isNormalLine_normalizeLine_iff {line : Text} (hline : NoLineEnd line) :
    IsNormalLine (normalizeLine line) ↔ ¬ HidesBlank line := by
  constructor
  · intro hnormal hhides
    exact hnormal.noBlankAtEnd (endsInBlank_of_hidesBlank hhides)
  · intro hhides
    exact ⟨apostrophe_notMem_normalizeLine line, noLineEnd_normalizeLine hline,
      fun hends => hhides (hidesBlank_of_endsInBlank hends)⟩

/-- Normalizing once more changes exactly what became of a line that hides a
blank. -/
theorem normalizeLine_normalizeLine_iff (line : Text) :
    normalizeLine (normalizeLine line) = normalizeLine line
      ↔ ¬ HidesBlank line := by
  rw [normalizeLine_eq_trimEnd (apostrophe_notMem_normalizeLine line),
    trimEnd_eq_self_iff, endsInBlank_normalizeLine_iff]

-- ============================================================= documents

namespace Document

/-- The lines of a document made of a text have no apostrophe and no line
end. They are in normal form, and normalizing them once more changes nothing,
exactly if no segment of the text hides a blank. -/
theorem ofText_normal_iff (source text : Text) :
    (∀ line ∈ (ofText source text).lines, '\'' ∉ line ∧ NoLineEnd line)
      ∧ ((∀ line ∈ (ofText source text).lines, IsNormalLine line)
          ↔ ∀ segment ∈ segments text, ¬ HidesBlank segment)
      ∧ (ofLines source (ofText source text).lines = ofText source text
          ↔ ∀ segment ∈ segments text, ¬ HidesBlank segment) := by
  have hsegments := (dividesInto_segments text).noLineEnd
  rw [lines_ofText_eq_map]
  refine ⟨?_, ?_, ?_⟩
  · refine List.forall_mem_map.2 fun segment hmem => ?_
    exact ⟨apostrophe_notMem_normalizeLine segment,
      noLineEnd_normalizeLine (hsegments segment hmem)⟩
  · rw [List.forall_mem_map]
    exact forall₂_congr fun segment hmem =>
      isNormalLine_normalizeLine_iff (hsegments segment hmem)
  · have hlines : ofLines source ((segments text).map normalizeLine)
          = ofText source text
        ↔ ((segments text).map normalizeLine).map normalizeLine
          = (segments text).map normalizeLine := by
      rw [← lines_ofText_eq_map source text]
      constructor
      · exact congrArg Document.lines
      · exact congrArg (Document.mk source)
    rw [hlines, List.map_map, List.map_inj_left]
    exact forall₂_congr fun segment _ =>
      normalizeLine_normalizeLine_iff segment

/-- A separator with a blank and an apostrophe behind it keeps the blank, and
loses it when it is normalized once more. -/
theorem ofText_separator_apostrophe :
    (∃ line ∈ (ofText [] ['-', '-', '-', ' ', '\'', '\n']).lines,
        ¬ IsNormalLine line)
      ∧ ofLines [] (ofText [] ['-', '-', '-', ' ', '\'', '\n']).lines
        ≠ ofText [] ['-', '-', '-', ' ', '\'', '\n'] := by
  constructor
  · refine ⟨['-', '-', '-', ' '], by decide, fun hnormal => ?_⟩
    exact hnormal.noBlankAtEnd ⟨' ', rfl, by decide⟩
  · decide

end Document

end QuartoLint
