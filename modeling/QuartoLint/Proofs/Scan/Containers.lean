/-
Counting container tags.

The container tags of a document are counted in its lines put together, each
kind on its own, by a search that passes over what it has counted. No tag is
lost that way, because no two tags overlap, of the same kind or not
(`IsContainerTag.eq_or_disjoint`): both counts are numbers of positions at
which a tag starts, wherever it ends, also some lines further on.

# Line by line

A tag reaches over a line end only into a line that begins with a character
which the tag has behind its first. Where no line does, the tags of the
document are those of its lines, and their order does not matter. A line that
is a tag itself begins with the first character of every tag, so it adds one
tag to whatever it is put behind.
-/
import QuartoLint.Proofs.Text.Starts
import QuartoLint.Scan

namespace QuartoLint

-- ================================================================ the tags

/-- A tag opens a container or closes one. -/
def IsContainerTag (tag : Text) : Prop :=
  tag = Mark.containerOpen ∨ tag = Mark.containerClose

/-- The characters that tags have behind their first one. -/
def tagCharacters : Text := ['d', 'i', 'v', '>', '/']

variable {tag other text : Text} {lines : List Text}

theorem IsContainerTag.exists_eq_cons (htag : IsContainerTag tag) :
    ∃ others, tag = '<' :: others ∧ '<' ∉ others
      ∧ ∀ c ∈ others, c ∈ tagCharacters := by
  rcases htag with rfl | rfl
  · exact ⟨['d', 'i', 'v', '>'], rfl, by decide, by simp [tagCharacters]⟩
  · exact ⟨['/', 'd', 'i', 'v', '>'], rfl, by decide,
      by simp [tagCharacters]⟩

/-- No two tags start at one position. -/
theorem IsContainerTag.eq_of_starts (htag : IsContainerTag tag)
    (hother : IsContainerTag other) (hstart : tag <+: text)
    (hothers : other <+: text) : tag = other := by
  have hcomparable := List.prefix_or_prefix_of_prefix hstart hothers
  rcases htag with rfl | rfl <;> rcases hother with rfl | rfl
  · rfl
  · exact absurd hcomparable (by decide)
  · exact absurd hcomparable (by decide)
  · rfl

/-- Two tags in a text are the same one, or one ends before the other
starts. -/
theorem IsContainerTag.eq_or_disjoint (htag : IsContainerTag tag)
    (hother : IsContainerTag other) {i j : Nat} (hi : tag <+: text.drop i)
    (hj : other <+: text.drop j) :
    tag = other ∧ i = j ∨ i + tag.length ≤ j ∨ j + other.length ≤ i := by
  obtain ⟨behind, htail, hbehind, -⟩ := htag.exists_eq_cons
  obtain ⟨more, hothers, hmore, -⟩ := hother.exists_eq_cons
  rcases Nat.lt_trichotomy i j with hlt | rfl | hlt
  · rw [htail] at hi ⊢
    rw [hothers] at hj
    exact .inr (.inl (Text.add_length_le_of_starts hbehind hi hj hlt))
  · exact .inl ⟨htag.eq_of_starts hother hi hj, rfl⟩
  · rw [htail] at hi
    rw [hothers] at hj ⊢
    exact .inr (.inr (Text.add_length_le_of_starts hmore hj hi hlt))

/-- The search passes over no tag. -/
theorem IsContainerTag.countOccurrences_eq (htag : IsContainerTag tag)
    (text : Text) :
    Text.countOccurrences tag text = Text.countStarts tag text := by
  obtain ⟨others, rfl, hothers, -⟩ := htag.exists_eq_cons
  exact Text.countOccurrences_eq_countStarts hothers text

-- ============================================================= line by line

/-- No line begins with a character that tags have behind their first, so no
tag goes on in any. -/
def NoTagGoesOn (lines : List Text) : Prop :=
  ∀ line ∈ lines, ∀ c ∈ line.head?, c ∉ tagCharacters

/-- If no tag goes on from line to line, each is counted in its own line. -/
theorem IsContainerTag.countOccurrences_flatten (htag : IsContainerTag tag)
    (hlines : NoTagGoesOn lines) :
    Text.countOccurrences tag lines.flatten
      = (lines.map (Text.countOccurrences tag)).sum := by
  have hcounts : Text.countOccurrences tag = Text.countStarts tag :=
    funext htag.countOccurrences_eq
  rw [hcounts]
  obtain ⟨others, rfl, -, hothers⟩ := htag.exists_eq_cons
  refine Text.countStarts_flatten fun line hline c hc hmem => ?_
  exact hlines line hline c hc (hothers c hmem)

/-- So then the order of the lines does not matter. -/
theorem IsContainerTag.countOccurrences_perm (htag : IsContainerTag tag)
    (hlines : NoTagGoesOn lines) {others : List Text}
    (hperm : lines.Perm others) :
    Text.countOccurrences tag others.flatten
      = Text.countOccurrences tag lines.flatten := by
  have hothers : NoTagGoesOn others :=
    fun line hline => hlines line (hperm.mem_iff.2 hline)
  rw [htag.countOccurrences_flatten hlines,
    htag.countOccurrences_flatten hothers]
  exact (hperm.map _).sum_nat.symm

/-- A line that begins like a tag adds its own tags and no others. -/
theorem IsContainerTag.countOccurrences_concat (htag : IsContainerTag tag)
    {line : Text} (hline : line.head? = some '<') (lines : List Text) :
    Text.countOccurrences tag (lines ++ [line]).flatten
      = Text.countOccurrences tag lines.flatten
        + Text.countOccurrences tag line := by
  rw [htag.countOccurrences_eq, htag.countOccurrences_eq,
    htag.countOccurrences_eq, List.flatten_append, List.flatten_singleton]
  obtain ⟨others, rfl, hothers, -⟩ := htag.exists_eq_cons
  -- no tag of the lines goes on, since no tag has this character inside
  refine Text.countStarts_append_of_head? (fun c hc => ?_) _
  rw [hline] at hc
  rwa [← Option.some.inj hc]

-- =============================================================== both counts

/-- Both counts decide what is said about the containers. -/
theorem checkContainers_congr {others : List Text}
    (hopening : openingTags others = openingTags lines)
    (hclosing : closingTags others = closingTags lines)
    (findings : Findings) :
    checkContainers others findings = checkContainers lines findings := by
  unfold checkContainers
  rw [hopening, hclosing]

/-- The opening and the closing tags of a document are counted at all
positions of its lines put together at which one starts; no two of them
overlap. Where no line begins with a character that tags have behind their
first, the counts are the sums of the counts of the lines, so that these may
be put in any order and the same is said about the containers. Whatever the
lines, one more line that is a tag adds one to the count of its kind and
nothing to the other. -/
theorem containerTags_counted (lines : List Text) :
    (openingTags lines = Text.countStarts Mark.containerOpen lines.flatten
        ∧ closingTags lines
          = Text.countStarts Mark.containerClose lines.flatten)
      ∧ (∀ tag other, IsContainerTag tag → IsContainerTag other → ∀ i j,
          tag <+: lines.flatten.drop i → other <+: lines.flatten.drop j →
          tag = other ∧ i = j ∨ i + tag.length ≤ j ∨ j + other.length ≤ i)
      ∧ (NoTagGoesOn lines →
          openingTags lines
              = (lines.map (Text.countOccurrences Mark.containerOpen)).sum
            ∧ closingTags lines
              = (lines.map (Text.countOccurrences Mark.containerClose)).sum
            ∧ ∀ others, lines.Perm others →
              openingTags others = openingTags lines
                ∧ closingTags others = closingTags lines
                ∧ ∀ findings, checkContainers others findings
                  = checkContainers lines findings)
      ∧ (openingTags (lines ++ [Mark.containerOpen]) = openingTags lines + 1
        ∧ closingTags (lines ++ [Mark.containerOpen]) = closingTags lines)
      ∧ (openingTags (lines ++ [Mark.containerClose]) = openingTags lines
        ∧ closingTags (lines ++ [Mark.containerClose])
          = closingTags lines + 1) := by
  have hopen : IsContainerTag Mark.containerOpen := .inl rfl
  have hclose : IsContainerTag Mark.containerClose := .inr rfl
  refine ⟨⟨hopen.countOccurrences_eq _, hclose.countOccurrences_eq _⟩,
    fun tag other htag hother i j => htag.eq_or_disjoint hother, ?_, ?_, ?_⟩
  · intro hlines
    refine ⟨hopen.countOccurrences_flatten hlines,
      hclose.countOccurrences_flatten hlines, fun others hperm => ?_⟩
    have hopening := hopen.countOccurrences_perm hlines hperm
    have hclosing := hclose.countOccurrences_perm hlines hperm
    exact ⟨hopening, hclosing, checkContainers_congr hopening hclosing⟩
  · exact ⟨hopen.countOccurrences_concat rfl lines,
      hclose.countOccurrences_concat rfl lines⟩
  · exact ⟨hopen.countOccurrences_concat rfl lines,
      hclose.countOccurrences_concat rfl lines⟩

/-- A tag that begins in one line and ends two lines further on. -/
example : openingTags [['a', '<', 'd'], [], ['i', 'v', '>']] = 1 := by decide

/-- In these lines no tag goes on from one to another, though the third one
ends in the beginning of a tag. -/
theorem containerTags_counted_apart :
    let lines : List Text :=
      [Mark.containerClose, [], ['<', 'd', 'i'], Mark.containerOpen]
    NoTagGoesOn lines ∧ openingTags lines = 1
      ∧ checkContainers lines.reverse .empty
        = checkContainers lines .empty := by
  intro lines
  have hlines : NoTagGoesOn lines := by
    simp [lines, NoTagGoesOn, tagCharacters, Mark.containerOpen,
      Mark.containerClose]
  obtain ⟨-, -, hcounts, -, -⟩ := containerTags_counted lines
  obtain ⟨hopening, -, horder⟩ := hcounts hlines
  obtain ⟨-, -, hsame⟩ := horder _ lines.reverse_perm.symm
  exact ⟨hlines, hopening, hsame .empty⟩

end QuartoLint
