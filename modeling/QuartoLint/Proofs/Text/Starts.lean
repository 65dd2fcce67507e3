/-
Where a pattern starts.

The search that counts occurrences passes over each occurrence that it has
counted. Here the same number is taken without any passing over: of all
positions of a text, those are counted at which the pattern starts
(`countStarts`).

# Patterns without a border

The two numbers differ for a pattern that can overlap itself, as three
dashes do. They agree where the first character of the pattern does not come
back in it, because then nothing starts within an occurrence: the characters
that the search passes over are none of them a first character
(`countStarts_append`), so no start is lost (`countFrom_eq_countStarts`).
Both container tags are such patterns.

# Texts put together

When texts are put together, a pattern may start in one and end in another.
It cannot where the text behind the seam begins with a character that the
pattern does not have, or has at its start only; then the starts of the whole
are those of the parts (`countStarts_append_of_head?`, `countStarts_flatten`).

# Single marks

A list is cut at the first place of a mark in one way only, and at the last
place too (`append_mark_inj`, `append_mark_inj_of_last`). This holds for the
characters of a text as well as for the lines of a document.
-/
import Mathlib.Algebra.GroupWithZero.Nat
import QuartoLint.LineRule

namespace QuartoLint.Text

-- ========================================================== a single mark

section Mark

variable {α : Type} {mark : α} {before start rest more : List α}

/-- What stands before the first place of a mark and what stands behind it
are told by the whole. -/
theorem append_mark_inj (hbefore : mark ∉ before) (hstart : mark ∉ start)
    (hsame : before ++ mark :: rest = start ++ mark :: more) :
    before = start ∧ rest = more := by
  induction before generalizing start with
  | nil =>
      cases start with
      | nil => exact ⟨rfl, (List.cons.inj hsame).2⟩
      | cons first start =>
          rw [← (List.cons.inj hsame).1] at hstart
          exact absurd List.mem_cons_self hstart
  | cons first before ih =>
      cases start with
      | nil =>
          rw [(List.cons.inj hsame).1] at hbefore
          exact absurd List.mem_cons_self hbefore
      | cons other start =>
          obtain ⟨rfl, htail⟩ := List.cons.inj hsame
          rw [List.mem_cons, not_or] at hbefore hstart
          obtain ⟨rfl, hrest⟩ := ih hbefore.2 hstart.2 htail
          exact ⟨rfl, hrest⟩

/-- The same for the last place of a mark. -/
theorem append_mark_inj_of_last (hrest : mark ∉ rest) (hmore : mark ∉ more)
    (hsame : before ++ mark :: rest = start ++ mark :: more) :
    before = start ∧ rest = more := by
  have hreverse := congrArg List.reverse hsame
  rw [List.reverse_append, List.reverse_append, List.reverse_cons,
    List.reverse_cons, List.append_assoc, List.append_assoc] at hreverse
  obtain ⟨hbehind, hfront⟩ := append_mark_inj
    (mt List.mem_reverse.1 hrest) (mt List.mem_reverse.1 hmore) hreverse
  exact ⟨List.reverse_inj.1 hfront, List.reverse_inj.1 hbehind⟩

end Mark

-- ============================================================== positions

/-- The number of positions of the text at which the pattern starts, those
within other occurrences included. -/
def countStarts (pattern text : Text) : Nat :=
  (List.range text.length).countP fun i => pattern.isPrefixOf (text.drop i)

theorem countStarts_cons (pattern : Text) (c : Char) (rest : Text) :
    countStarts pattern (c :: rest)
      = (if pattern.isPrefixOf (c :: rest) then 1 else 0)
        + countStarts pattern rest := by
  unfold countStarts
  rw [List.length_cons, List.range_succ_eq_map, List.countP_cons,
    List.countP_map, Nat.add_comm]
  rfl

/-- Every start has the first character of the pattern. -/
theorem countStarts_cons_of_ne {first c : Char} (hc : c ≠ first)
    (others rest : Text) :
    countStarts (first :: others) (c :: rest)
      = countStarts (first :: others) rest := by
  have hstart : (first :: others).isPrefixOf (c :: rest) = false := by
    rw [List.isPrefixOf_cons_cons, beq_eq_false_iff_ne.2 (Ne.symm hc),
      Bool.false_and]
  rw [countStarts_cons, hstart]
  simp

/-- Nothing starts in a text without the first character of the pattern. -/
theorem countStarts_append {first : Char} {start : Text}
    (hstart : first ∉ start) (others text : Text) :
    countStarts (first :: others) (start ++ text)
      = countStarts (first :: others) text := by
  induction start with
  | nil => rfl
  | cons c rest ih =>
      rw [List.mem_cons, not_or] at hstart
      rw [List.cons_append, countStarts_cons_of_ne (Ne.symm hstart.1),
        ih hstart.2]

-- ================================================================== seams

/-- Nothing starts in a text and goes on into another whose first character
the pattern has at its start or not at all. -/
theorem isPrefixOf_append_of_head? {first : Char} {others more : Text}
    (hmore : ∀ c ∈ more.head?, c ∉ others) (c : Char) (rest : Text) :
    (first :: others).isPrefixOf (c :: rest ++ more)
      = (first :: others).isPrefixOf (c :: rest) := by
  rw [Bool.eq_iff_iff, List.isPrefixOf_iff_prefix, List.isPrefixOf_iff_prefix]
  constructor
  · intro hstart
    obtain ⟨behind, hbehind⟩ := hstart
    rcases List.append_eq_append_iff.1 hbehind with
      ⟨between, htext, -⟩ | ⟨across, hpattern, hacross⟩
    · exact ⟨between, htext.symm⟩
    · cases across with
      | nil =>
          rw [List.append_nil] at hpattern
          exact hpattern ▸ List.prefix_refl _
      | cons d across =>
          -- the first character of the other text is one of the pattern
          rw [List.cons_append] at hpattern
          have hmem : d ∈ others := by
            rw [(List.cons.inj hpattern).2]
            exact List.mem_append_right _ List.mem_cons_self
          rw [hacross] at hmore
          exact absurd hmem (hmore d rfl)
  · exact fun hstart => hstart.trans (List.prefix_append _ _)

/-- The starts in two texts put together are those in one and in the other,
unless one reaches across the seam. -/
theorem countStarts_append_of_head? {first : Char} {others more : Text}
    (hmore : ∀ c ∈ more.head?, c ∉ others) (text : Text) :
    countStarts (first :: others) (text ++ more)
      = countStarts (first :: others) text
        + countStarts (first :: others) more := by
  induction text with
  | nil => exact (Nat.zero_add _).symm
  | cons c rest ih =>
      rw [List.cons_append, countStarts_cons, countStarts_cons,
        ← List.cons_append, isPrefixOf_append_of_head? hmore, ih,
        Nat.add_assoc]

/-- The starts in texts put together are those in each of them, if the pattern
has the first character of none behind its own first. -/
theorem countStarts_flatten {first : Char} {others : Text}
    {texts : List Text}
    (htexts : ∀ text ∈ texts, ∀ c ∈ text.head?, c ∉ others) :
    countStarts (first :: others) texts.flatten
      = (texts.map (countStarts (first :: others))).sum := by
  induction texts with
  | nil => rfl
  | cons text rest ih =>
      obtain ⟨-, hrest⟩ := List.forall_mem_cons.1 htexts
      have hhead : ∀ c ∈ rest.flatten.head?, c ∉ others := by
        intro c hc
        rw [List.head?_flatten, Option.mem_def] at hc
        obtain ⟨found, hmem, hfound⟩ := List.exists_of_findSome?_eq_some hc
        exact hrest found hmem c hfound
      rw [List.flatten_cons, countStarts_append_of_head? hhead, ih hrest,
        List.map_cons, List.sum_cons]

/-- Where two patterns begin with the same character, and the first does not
have it again, the second does not start within the first. -/
theorem add_length_le_of_starts {first : Char} {others behind text : Text}
    (hfirst : first ∉ others) {i j : Nat}
    (hi : first :: others <+: text.drop i)
    (hj : first :: behind <+: text.drop j) (hlt : i < j) :
    i + (first :: others).length ≤ j := by
  refine Nat.le_of_not_lt fun hwithin => hfirst ?_
  obtain ⟨offset, rfl⟩ := Nat.exists_eq_add_of_lt hlt
  have hoffset : offset < others.length := by
    rw [List.length_cons] at hwithin
    omega
  have hcharacter : text[i + offset + 1]? = some first := by
    have hget := List.prefix_iff_getElem?.1 hj 0 (by simp)
    simpa using hget
  have hother : text[i + offset + 1]? = some others[offset] := by
    have hget := List.prefix_iff_getElem?.1 hi (offset + 1)
      (by simpa using hoffset)
    simpa [Nat.add_assoc] using hget
  rw [hcharacter] at hother
  rw [Option.some.inj hother]
  exact List.getElem_mem hoffset

-- ============================================================= the search

/-- The search that still has `skip` characters to pass over counts every
start behind them. -/
theorem countFrom_eq_countStarts {first : Char} {others : Text}
    (hfirst : first ∉ others) (found skip : Nat) (text : Text) :
    countFrom (first :: others) found skip text
      = found + countStarts (first :: others) (text.drop skip) := by
  induction text generalizing found skip with
  | nil => cases skip <;> rfl
  | cons c rest ih =>
      cases skip with
      | succ skip => exact ih found skip
      | zero =>
          rw [countFrom, List.drop_zero, countStarts_cons]
          split
          case isTrue hstart =>
            -- the rest of the occurrence holds no first character
            obtain ⟨behind, hbehind⟩ := List.isPrefixOf_iff_prefix.1 hstart
            rw [List.cons_append] at hbehind
            obtain ⟨-, rfl⟩ := List.cons.inj hbehind
            rw [ih, List.length_cons, Nat.add_sub_cancel,
              List.drop_left, countStarts_append hfirst, Nat.add_assoc]
          case isFalse =>
            rw [ih, List.drop_zero, Nat.zero_add]

/-- A pattern whose first character does not come again in it cannot overlap
itself, so occurrences counted one behind the other are all there are. -/
theorem countOccurrences_eq_countStarts {first : Char} {others : Text}
    (hfirst : first ∉ others) (text : Text) :
    countOccurrences (first :: others) text
      = countStarts (first :: others) text := by
  rw [countOccurrences, countFrom_eq_countStarts hfirst, Nat.zero_add,
    List.drop_zero]

theorem countOccurrences_containerOpen (text : Text) :
    countOccurrences Mark.containerOpen text
      = countStarts Mark.containerOpen text :=
  countOccurrences_eq_countStarts (by decide) text

theorem countOccurrences_containerClose (text : Text) :
    countOccurrences Mark.containerClose text
      = countStarts Mark.containerClose text :=
  countOccurrences_eq_countStarts (by decide) text

end QuartoLint.Text
