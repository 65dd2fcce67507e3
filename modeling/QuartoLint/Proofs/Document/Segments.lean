/-
The lines of a text in a single pass.

The lines of a text are found in three steps, each over the whole text: pairs
of a carriage return and a line feed become line feeds, the carriage returns
that are left become line feeds, and the text is cut at its line feeds. The
first step can bring a carriage return and a line feed together that were not
a pair before, as in `CR CR LF`, and only the second step tells that they are
two line ends.

Here the same segments are found from left to right, once, looking one
character ahead (`segments`). Pass and steps meet in a relation that says how
a text divides into segments (`DividesInto`): a text divides into those that
the pass finds and in no other way (`dividesInto_iff`), and the steps find
whatever the text divides into (`DividesInto.lines_eq`), because each of them
does its part on one segment and its line end at a time.

# Counting

Each line feed and each carriage return ends a segment, but the two
characters of a pair end one together, and a text that goes on behind its
last line end has one segment more (`DividesInto.length_eq`).
-/
import Mathlib.Data.List.Basic
import QuartoLint.Document
import QuartoLint.Proofs.Text.Starts

namespace QuartoLint

namespace Text

-- =============================================================== line ends

/-- No character of the text is a line end or part of one. -/
def NoLineEnd (text : Text) : Prop := '\r' ∉ text ∧ '\n' ∉ text

theorem noLineEnd_nil : NoLineEnd [] := by
  constructor <;> exact List.not_mem_nil

theorem noLineEnd_cons {c : Char} {rest : Text} :
    NoLineEnd (c :: rest) ↔ (c ≠ '\r' ∧ c ≠ '\n') ∧ NoLineEnd rest := by
  unfold NoLineEnd
  rw [List.mem_cons, List.mem_cons, not_or, not_or]
  constructor
  · intro hall
    obtain ⟨⟨hreturn, hrest⟩, hfeed, hrest'⟩ := hall
    exact ⟨⟨Ne.symm hreturn, Ne.symm hfeed⟩, hrest, hrest'⟩
  · intro hall
    obtain ⟨⟨hreturn, hfeed⟩, hrest, hrest'⟩ := hall
    exact ⟨⟨Ne.symm hreturn, hrest⟩, Ne.symm hfeed, hrest'⟩

theorem NoLineEnd.append {line more : Text} (hline : NoLineEnd line)
    (hmore : NoLineEnd more) : NoLineEnd (line ++ more) := by
  unfold NoLineEnd
  rw [List.mem_append, List.mem_append, not_or, not_or]
  exact ⟨⟨hline.1, hmore.1⟩, hline.2, hmore.2⟩

theorem NoLineEnd.concat {begun : Text} (hbegun : NoLineEnd begun) {c : Char}
    (hreturn : c ≠ '\r') (hfeed : c ≠ '\n') : NoLineEnd (begun ++ [c]) :=
  hbegun.append (noLineEnd_cons.2 ⟨⟨hreturn, hfeed⟩, noLineEnd_nil⟩)

/-- The characters of one line end, with the text behind them: a lone
carriage return has no line feed there. -/
inductive IsLineEnd : Text → Text → Prop
  | pair (rest : Text) : IsLineEnd ['\r', '\n'] rest
  | lone {rest : Text} (hlone : rest.head? ≠ some '\n') :
      IsLineEnd ['\r'] rest
  | feed (rest : Text) : IsLineEnd ['\n'] rest

/-- How a text divides into segments: each has a line end behind it, only the
last may have none if it is not empty. -/
inductive DividesInto : Text → List Text → Prop
  | none : DividesInto [] []
  | last {line : Text} (hne : line ≠ []) (hline : NoLineEnd line) :
      DividesInto line [line]
  | ended {line lineEnd rest : Text} {others : List Text}
      (hline : NoLineEnd line) (hend : IsLineEnd lineEnd rest)
      (hrest : DividesInto rest others) :
      DividesInto (line ++ (lineEnd ++ rest)) (line :: others)

variable {line lineEnd rest text : Text} {others : List Text}

/-- No segment holds a line end. -/
theorem DividesInto.noLineEnd (hdivides : DividesInto text others) :
    ∀ segment ∈ others, NoLineEnd segment := by
  induction hdivides with
  | none => exact List.forall_mem_nil _
  | last hne hline => exact List.forall_mem_singleton.2 hline
  | ended hline hend hrest ih => exact List.forall_mem_cons.2 ⟨hline, ih⟩

-- ================================================================ the pass

/-- Goes on with the segment begun. A carriage return with a line feed right
behind it, a carriage return without one, and a line feed each end it. What
is left at the end of the text is a segment unless it is empty. -/
def segmentsFrom (begun : Text) : Text → List Text
  | [] => if begun.isEmpty then [] else [begun]
  | '\r' :: '\n' :: rest => begun :: segmentsFrom [] rest
  | '\r' :: rest => begun :: segmentsFrom [] rest
  | '\n' :: rest => begun :: segmentsFrom [] rest
  | c :: rest => segmentsFrom (begun ++ [c]) rest

def segments (text : Text) : List Text := segmentsFrom [] text

/-- The pass goes on with every character that is no line end. -/
theorem segmentsFrom_append (hline : NoLineEnd line) (begun text : Text) :
    segmentsFrom begun (line ++ text) = segmentsFrom (begun ++ line) text := by
  induction line generalizing begun with
  | nil => rw [List.append_nil, List.nil_append]
  | cons c line ih =>
      obtain ⟨⟨hreturn, hfeed⟩, hrest⟩ := noLineEnd_cons.1 hline
      have hstep : segmentsFrom begun (c :: (line ++ text))
          = segmentsFrom (begun ++ [c]) (line ++ text) := by
        rw [segmentsFrom]
        · intro rest h
          exact absurd h hreturn
        · exact hreturn
        · exact hfeed
      rw [List.cons_append, hstep, ih hrest, ← List.append_cons]

/-- The pass ends the segment begun at every line end. -/
theorem segmentsFrom_lineEnd (hend : IsLineEnd lineEnd rest) (begun : Text) :
    segmentsFrom begun (lineEnd ++ rest) = begun :: segments rest := by
  cases hend with
  | pair => rfl
  | feed => rfl
  | lone hlone =>
      show segmentsFrom begun ('\r' :: rest) = _
      rw [segmentsFrom]
      · rfl
      · intro behind hfeed
        rw [hfeed] at hlone
        exact hlone rfl

theorem segments_eq_singleton (hne : line ≠ []) (hline : NoLineEnd line) :
    segments line = [line] := by
  have hpass : segments line = segmentsFrom line [] := by
    have happend := segmentsFrom_append hline [] []
    rwa [List.append_nil] at happend
  rw [hpass, segmentsFrom, if_neg (by rwa [List.isEmpty_iff])]

/-- A line end that stands behind a line without one ends the first segment. -/
theorem segments_append (hline : NoLineEnd line)
    (hend : IsLineEnd lineEnd rest) :
    segments (line ++ (lineEnd ++ rest)) = line :: segments rest := by
  unfold segments
  rw [segmentsFrom_append hline, segmentsFrom_lineEnd hend]
  rfl

/-- With the segment begun put before it, the text divides into what the pass
finds. -/
theorem dividesInto_segmentsFrom {begun : Text} (hbegun : NoLineEnd begun) :
    DividesInto (begun ++ text) (segmentsFrom begun text) := by
  fun_induction segmentsFrom begun text with
  | case1 begun hempty =>
      rw [List.isEmpty_iff] at hempty
      rw [hempty]
      exact .none
  | case2 begun hne =>
      rw [List.isEmpty_iff] at hne
      rw [List.append_nil]
      exact .last hne hbegun
  | case3 begun rest ih =>
      exact .ended hbegun (.pair rest) (ih noLineEnd_nil)
  | case4 begun rest hpair ih =>
      -- the pass takes a return as lone only where no line feed follows
      have hlone : rest.head? ≠ some '\n' := by
        intro hfeed
        obtain ⟨behind, rfl⟩ := List.head?_eq_some_iff.1 hfeed
        exact hpair behind rfl
      exact .ended hbegun (.lone hlone) (ih noLineEnd_nil)
  | case5 begun rest ih =>
      exact .ended hbegun (.feed rest) (ih noLineEnd_nil)
  | case6 begun c rest hpair hreturn hfeed ih =>
      rw [List.append_cons]
      exact ih (hbegun.concat hreturn hfeed)

/-- Every text divides into its segments. -/
theorem dividesInto_segments (text : Text) :
    DividesInto text (segments text) :=
  dividesInto_segmentsFrom noLineEnd_nil

/-- A text divides into its segments and in no other way. -/
theorem dividesInto_iff :
    DividesInto text others ↔ others = segments text := by
  constructor
  · intro hdivides
    -- each clause of the division is one step of the pass
    induction hdivides with
    | none => rfl
    | last hne hline => rw [segments_eq_singleton hne hline]
    | ended hline hend _ ih => rw [segments_append hline hend, ← ih]
  · intro hothers
    rw [hothers]
    exact dividesInto_segments text

-- ========================================================= the three steps

theorem unifyLineEnds_cons {c : Char}
    (hpair : c = '\r' → rest.head? ≠ some '\n') :
    unifyLineEnds (c :: rest)
      = (if c = '\r' then '\n' else c) :: unifyLineEnds rest := by
  unfold unifyLineEnds
  rw [mergePairs_cons hpair]
  rfl

/-- What holds no line end is left alone. -/
theorem unifyLineEnds_append (hline : NoLineEnd line) (text : Text) :
    unifyLineEnds (line ++ text) = line ++ unifyLineEnds text := by
  induction line with
  | nil => rfl
  | cons c line ih =>
      obtain ⟨⟨hreturn, -⟩, hrest⟩ := noLineEnd_cons.1 hline
      rw [List.cons_append, unifyLineEnds_cons fun h => absurd h hreturn,
        if_neg hreturn, ih hrest]
      rfl

/-- Unifying makes every line end one line feed, whatever stands behind. -/
theorem unifyLineEnds_lineEnd (hend : IsLineEnd lineEnd rest) :
    unifyLineEnds (lineEnd ++ rest) = '\n' :: unifyLineEnds rest := by
  cases hend with
  | pair =>
      show unifyLineEnds ('\r' :: '\n' :: rest) = _
      unfold unifyLineEnds
      rw [mergePairs_pair]
      rfl
  | lone hlone => exact unifyLineEnds_cons fun _ => hlone
  | feed => exact unifyLineEnds_cons fun h => absurd h (by decide)

/-- A line feed behind a line without one ends the first line. -/
theorem cutAtLineFeeds_append (hline : '\n' ∉ line) (rest : Text) :
    cutAtLineFeeds (line ++ '\n' :: rest) = line :: cutAtLineFeeds rest := by
  induction line with
  | nil => exact cutAtLineFeeds_lineFeed rest
  | cons c line ih =>
      rw [List.mem_cons, not_or] at hline
      rw [List.cons_append, cutAtLineFeeds_cons (Ne.symm hline.1),
        ih hline.2]

theorem cutAtLineFeeds_eq_singleton (hne : line ≠ []) (hline : '\n' ∉ line) :
    cutAtLineFeeds line = [line] := by
  induction line with
  | nil => exact absurd rfl hne
  | cons c line ih =>
      rw [List.mem_cons, not_or] at hline
      rw [cutAtLineFeeds_cons (Ne.symm hline.1)]
      -- the last line is only there if it is not empty
      cases line with
      | nil => rfl
      | cons d line => rw [ih (List.cons_ne_nil d line) hline.2]

/-- The three steps find what the text divides into. -/
theorem DividesInto.lines_eq (hdivides : DividesInto text others) :
    text.lines = others := by
  unfold lines
  induction hdivides with
  | none => rfl
  | @last line hne hline =>
      have hunify := unifyLineEnds_append hline []
      rw [List.append_nil] at hunify
      rw [hunify, show unifyLineEnds [] = [] from rfl, List.append_nil,
        cutAtLineFeeds_eq_singleton hne hline.2]
  | ended hline hend _ ih =>
      rw [unifyLineEnds_append hline, unifyLineEnds_lineEnd hend,
        cutAtLineFeeds_append hline.2, ih]

/-- Replacing line ends and cutting at line feeds finds the segments. -/
theorem lines_eq_segments (text : Text) : text.lines = segments text :=
  (dividesInto_segments text).lines_eq

/-- A carriage return before a pair is a line end of its own. -/
example : lines ['d', '\r', '\r', '\n', 'e'] = [['d'], [], ['e']] := by decide

-- =============================================================== counting

/-- Whether the text is not empty and its last character is no line end. -/
def endsOpen (text : Text) : Bool :=
  text.getLast?.any fun c => c != '\r' && c != '\n'

theorem endsOpen_of_noLineEnd (hne : line ≠ []) (hline : NoLineEnd line) :
    endsOpen line = true := by
  have hlast := List.getLast_mem hne
  have hreturn : line.getLast hne ≠ '\r' := fun h => hline.1 (h ▸ hlast)
  have hfeed : line.getLast hne ≠ '\n' := fun h => hline.2 (h ▸ hlast)
  unfold endsOpen
  rw [List.getLast?_eq_some_getLast hne, Option.any_some, Bool.and_eq_true,
    bne_iff_ne, bne_iff_ne]
  exact ⟨hreturn, hfeed⟩

/-- What stands before a line end does not matter to the end of the text. -/
theorem endsOpen_append (hend : IsLineEnd lineEnd rest) (line : Text) :
    endsOpen (line ++ (lineEnd ++ rest)) = endsOpen rest := by
  unfold endsOpen
  cases rest with
  | nil => cases hend <;> simp
  | cons c rest =>
      rw [← List.append_assoc, List.getLast?_append_cons]

theorem countStarts_lone (hlone : rest.head? ≠ some '\n') :
    countStarts ['\r', '\n'] ('\r' :: rest)
      = countStarts ['\r', '\n'] rest := by
  rw [countStarts_cons]
  split
  case isTrue hstart =>
    obtain ⟨behind, hbehind⟩ := List.isPrefixOf_iff_prefix.1 hstart
    rw [← (List.cons.inj hbehind).2] at hlone
    exact absurd rfl hlone
  case isFalse => rw [Nat.zero_add]

/-- A line end is one line feed or carriage return more than it is pairs. -/
theorem IsLineEnd.count_eq (hend : IsLineEnd lineEnd rest) :
    (lineEnd ++ rest).count '\n' + (lineEnd ++ rest).count '\r'
        + countStarts ['\r', '\n'] rest
      = rest.count '\n' + rest.count '\r'
        + countStarts ['\r', '\n'] (lineEnd ++ rest) + 1 := by
  -- a pair has both characters and is one pair, the others are one character
  cases hend with
  | pair =>
      have hpair : countStarts ['\r', '\n'] ('\r' :: '\n' :: rest)
          = 1 + countStarts ['\r', '\n'] rest := by
        rw [countStarts_cons, countStarts_cons_of_ne (by decide)]
        rfl
      show ('\r' :: '\n' :: rest).count '\n' + ('\r' :: '\n' :: rest).count '\r'
        + _ = _ + countStarts ['\r', '\n'] ('\r' :: '\n' :: rest) + 1
      rw [hpair, List.count_cons_of_ne (by decide), List.count_cons_self,
        List.count_cons_self, List.count_cons_of_ne (by decide)]
      omega
  | lone hlone =>
      show ('\r' :: rest).count '\n' + ('\r' :: rest).count '\r' + _
        = _ + countStarts ['\r', '\n'] ('\r' :: rest) + 1
      rw [countStarts_lone hlone, List.count_cons_of_ne (by decide),
        List.count_cons_self]
      omega
  | feed =>
      show ('\n' :: rest).count '\n' + ('\n' :: rest).count '\r' + _
        = _ + countStarts ['\r', '\n'] ('\n' :: rest) + 1
      rw [countStarts_cons_of_ne (by decide), List.count_cons_self,
        List.count_cons_of_ne (by decide)]
      omega

/-- The number of segments, told by the characters of the text. -/
theorem DividesInto.length_eq (hdivides : DividesInto text others) :
    others.length + countStarts ['\r', '\n'] text
      = text.count '\n' + text.count '\r'
        + if endsOpen text then 1 else 0 := by
  induction hdivides with
  | none => rfl
  | @last line hne hline =>
      have hpairs := countStarts_append hline.1 ['\n'] []
      rw [List.append_nil] at hpairs
      rw [hpairs, List.count_eq_zero.2 hline.1, List.count_eq_zero.2 hline.2,
        endsOpen_of_noLineEnd hne hline]
      rfl
  | @ended line lineEnd rest others hline hend _ ih =>
      have hfeeds : (line ++ (lineEnd ++ rest)).count '\n'
          = (lineEnd ++ rest).count '\n' := by
        rw [List.count_append, List.count_eq_zero.2 hline.2, Nat.zero_add]
      have hreturns : (line ++ (lineEnd ++ rest)).count '\r'
          = (lineEnd ++ rest).count '\r' := by
        rw [List.count_append, List.count_eq_zero.2 hline.1, Nat.zero_add]
      -- what is counted before the line end is nothing
      have hcount := hend.count_eq
      rw [List.length_cons, countStarts_append hline.1, hfeeds, hreturns,
        endsOpen_append hend]
      omega

end Text

-- ============================================================= documents

namespace Document

/-- The lines of a document are the segments of its text, normalized. -/
theorem lines_ofText_eq_map (source text : Text) :
    (ofText source text).lines = (Text.segments text).map normalizeLine := by
  rw [← Text.lines_eq_segments]
  rfl

/-- The lines of a document are the segments of its text, normalized, and
the text divides into these segments only. There is one for each line feed
and each carriage return, but only one for both characters of a pair, and one
more for a text that goes on behind its last line end. -/
theorem lines_ofText (source text : Text) :
    (ofText source text).lines = (Text.segments text).map normalizeLine
      ∧ (∀ others, Text.DividesInto text others
          ↔ others = Text.segments text)
      ∧ (ofText source text).lines.length
          + Text.countStarts ['\r', '\n'] text
        = text.count '\n' + text.count '\r'
          + if Text.endsOpen text then 1 else 0 := by
  refine ⟨lines_ofText_eq_map source text,
    fun _ => Text.dividesInto_iff, ?_⟩
  rw [lines_ofText_eq_map, List.length_map]
  exact (Text.dividesInto_segments text).length_eq

end Document

end QuartoLint
