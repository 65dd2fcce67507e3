/-
The lines of a text.

A line ends at a line feed, at a carriage return, or at a carriage return
with a line feed right behind it, which count as one line end. The three
kinds of line end are first made one: each such pair becomes a line feed,
then each carriage return that is left becomes a line feed. Then the text
is cut at its line feeds. A text that ends in a line end has no further,
empty line behind it, and the empty text has no line.

Both passes keep what they have done in reverse; the lemmas beside them
state what they do to the first character and then to the rest of a text.
-/
import QuartoLint.Text.Blank

namespace QuartoLint.Text

-- ============================================================= line ends

/-- Puts the reverse of `done` before the text in which every pair of a
carriage return and a line feed is one line feed. -/
def mergePairsOnto (done : Text) : Text → Text
  | '\r' :: '\n' :: rest => mergePairsOnto ('\n' :: done) rest
  | c :: rest => mergePairsOnto (c :: done) rest
  | [] => done.reverse

/-- The text in which every pair of a carriage return and a line feed is one
line feed. -/
def mergePairs (text : Text) : Text :=
  mergePairsOnto [] text

/-- What was done before stands in front and is not looked at again. -/
theorem mergePairsOnto_eq (done text : Text) :
    mergePairsOnto done text = done.reverse ++ mergePairs text := by
  rw [mergePairs]
  suffices h : ∀ more, mergePairsOnto (more ++ done) text
      = done.reverse ++ mergePairsOnto more text from h []
  intro more
  fun_induction mergePairsOnto more text with
  | case1 more rest ih => rw [mergePairsOnto]; exact ih
  | case2 more c rest hpair ih =>
    rw [mergePairsOnto]
    · exact ih
    · exact hpair
  | case3 more => simp [mergePairsOnto]

@[simp] theorem mergePairs_pair (rest : Text) :
    mergePairs ('\r' :: '\n' :: rest) = '\n' :: mergePairs rest := by
  rw [mergePairs, mergePairsOnto, mergePairsOnto_eq]
  rfl

/-- A character that begins no pair is kept. -/
theorem mergePairs_cons {c : Char} {rest : Text}
    (hpair : c = '\r' → rest.head? ≠ some '\n') :
    mergePairs (c :: rest) = c :: mergePairs rest := by
  rw [mergePairs, mergePairsOnto, mergePairsOnto_eq]
  · rfl
  · rintro after rfl rfl
    exact hpair rfl rfl

/-- The text in which every line end is one line feed. -/
def unifyLineEnds (text : Text) : Text :=
  (mergePairs text).map fun c => if c = '\r' then '\n' else c

-- =============================================================== cutting

/-- Goes on cutting with the reverse of the line begun and the reverse of the
lines that are complete. -/
def cutOnto (done : List Text) (line : Text) : Text → List Text
  | [] => (if line.isEmpty then done else line.reverse :: done).reverse
  | '\n' :: rest => cutOnto (line.reverse :: done) [] rest
  | c :: rest => cutOnto done (c :: line) rest

/-- The segments that line feeds end, and the rest behind the last line feed
unless it is empty. -/
def cutAtLineFeeds (text : Text) : List Text :=
  cutOnto [] [] text

theorem cutOnto_cons {c : Char} (hc : c ≠ '\n') (done : List Text)
    (line rest : Text) :
    cutOnto done line (c :: rest) = cutOnto done (c :: line) rest := by
  rw [cutOnto]
  exact hc

/-- Lines that are complete stand in front and are not looked at again. -/
theorem cutOnto_eq (done : List Text) (line text : Text) :
    cutOnto done line text = done.reverse ++ cutOnto [] line text := by
  suffices h : ∀ more, cutOnto (more ++ done) line text
      = done.reverse ++ cutOnto more line text from h []
  intro more
  fun_induction cutOnto more line text with
  | case1 more line =>
    rw [cutOnto]
    split <;> simp
  | case2 more line rest ih =>
    rw [cutOnto]
    exact ih
  | case3 more line c rest hc ih =>
    rw [cutOnto_cons hc]
    exact ih

/-- A line feed at the start ends an empty line. -/
@[simp] theorem cutAtLineFeeds_lineFeed (rest : Text) :
    cutAtLineFeeds ('\n' :: rest) = [] :: cutAtLineFeeds rest := by
  rw [cutAtLineFeeds, cutOnto, cutOnto_eq]
  rfl

/-- A line begun goes on to the first line end. -/
theorem cutOnto_nil_of_ne_nil {line : Text} (hline : line ≠ []) (text : Text) :
    cutOnto [] line text = match cutAtLineFeeds text with
      | [] => [line.reverse]
      | first :: others => (line.reverse ++ first) :: others := by
  rw [cutAtLineFeeds]
  induction text generalizing line with
  | nil => simp [cutOnto, hline]
  | cons c rest ih =>
    by_cases hc : c = '\n'
    · subst hc
      rw [cutOnto, cutOnto_eq, cutOnto, cutOnto_eq [List.reverse []]]
      simp
    · rw [cutOnto_cons hc, cutOnto_cons hc, ih (List.cons_ne_nil c line),
        ih (List.cons_ne_nil c [])]
      cases cutOnto [] [] rest <;> simp

/-- Any other character at the start belongs to the first line. -/
theorem cutAtLineFeeds_cons {c : Char} (hc : c ≠ '\n') (rest : Text) :
    cutAtLineFeeds (c :: rest) = match cutAtLineFeeds rest with
      | [] => [[c]]
      | first :: others => (c :: first) :: others := by
  rw [cutAtLineFeeds, cutOnto_cons hc,
    cutOnto_nil_of_ne_nil (List.cons_ne_nil c [])]
  rfl

def lines (text : Text) : List Text :=
  cutAtLineFeeds (unifyLineEnds text)

end QuartoLint.Text
