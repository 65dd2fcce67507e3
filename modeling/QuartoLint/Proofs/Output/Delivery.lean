/-
What reaches a sink that can fail.

The reports are written in pieces, record by record, and the sink may be full
at any byte: within a record, between a record and its line feed, or within a
character of several bytes. What it has taken then is the beginning of the
whole output all the same, as long as the sink has room, however the output
is cut into pieces (`Sink.writeReports_delivers`).

# One run of writes

The writes end in one of two ways (`Sink.writeAll_cases`). Either every piece
fits, or there is a first piece that does not, and the sink is left as it is
when that piece has been written as far as it fits. In both ways the sink has
been asked to write certain pieces and nothing else, from which the bytes it
has taken and the room it has left can be told (`Sink.HasWritten`).
-/
import QuartoLint.Output.Sink

namespace QuartoLint

namespace Sink

-- ================================================================== pieces

/-- The bytes of the pieces put together. -/
def bytesOf (pieces : List Text) : List UInt8 := Text.utf8 pieces.flatten

theorem bytesOf_nil : bytesOf [] = [] := rfl

theorem bytesOf_append (pieces more : List Text) :
    bytesOf (pieces ++ more) = bytesOf pieces ++ bytesOf more := by
  unfold bytesOf
  rw [List.flatten_append, Text.utf8_append]

theorem bytesOf_cons (piece : Text) (rest : List Text) :
    bytesOf (piece :: rest) = Text.utf8 piece ++ bytesOf rest := by
  unfold bytesOf
  rw [List.flatten_cons, Text.utf8_append]

theorem bytesOf_singleton (piece : Text) :
    bytesOf [piece] = Text.utf8 piece := by
  rw [bytesOf_cons]
  exact List.append_nil _

/-- The call that writes a piece. -/
def writeCall (piece : Text) : SinkCall := .write (Text.utf8 piece)

/-- How a sink stands when it has been asked to write the pieces, the last of
which may not have fitted. -/
structure HasWritten (sink : Sink) (pieces : List Text) (after : Sink) :
    Prop where
  bytes : after.bytes = sink.bytes ++ (bytesOf pieces).take sink.room
  room : after.room = sink.room - (bytesOf pieces).length
  flushFails : after.flushFails = sink.flushFails
  history : after.history = sink.history ++ pieces.map writeCall

theorem HasWritten.nothing (sink : Sink) : sink.HasWritten [] sink := by
  constructor
  case bytes => rw [bytesOf_nil, List.take_nil, List.append_nil]
  case room => rfl
  case flushFails => rfl
  case history => exact (List.append_nil _).symm

theorem HasWritten.piece (sink : Sink) (piece : Text) :
    sink.HasWritten [piece] (sink.write (Text.utf8 piece)).1 := by
  constructor
  case bytes => rw [bytes_write, bytesOf_singleton]
  case room => rw [room_write, bytesOf_singleton]
  case flushFails => exact flushFails_write sink _
  case history => exact history_write sink _

/-- Pieces written one after the other are the pieces put together. -/
theorem HasWritten.trans {sink between after : Sink} {pieces more : List Text}
    (hpieces : sink.HasWritten pieces between)
    (hmore : between.HasWritten more after) :
    sink.HasWritten (pieces ++ more) after := by
  constructor
  case bytes =>
    rw [hmore.bytes, hpieces.bytes, hpieces.room, bytesOf_append,
      List.take_append, List.append_assoc]
  case room =>
    rw [hmore.room, hpieces.room, bytesOf_append, List.length_append,
      Nat.sub_add_eq]
  case flushFails => rw [hmore.flushFails, hpieces.flushFails]
  case history =>
    rw [hmore.history, hpieces.history, List.map_append, List.append_assoc]

-- ============================================================== the writes

/-- A piece that there is room for is written, and the next one is tried. -/
theorem writeAll_cons_of_fits {sink : Sink} {piece : Text}
    (hfits : (Text.utf8 piece).length ≤ sink.room) (rest : List Text) :
    sink.writeAll (piece :: rest)
      = (sink.write (Text.utf8 piece)).1.writeAll rest := by
  rw [writeAll, write, if_pos hfits]

/-- A piece that there is too little room for is cut, and is the last. -/
theorem writeAll_cons_of_cut {sink : Sink} {piece : Text}
    (hcut : sink.room < (Text.utf8 piece).length) (rest : List Text) :
    sink.writeAll (piece :: rest)
      = ((sink.write (Text.utf8 piece)).1, some .limitReached) := by
  rw [writeAll, write, if_neg (Nat.not_le.2 hcut)]

/-- Either all pieces fit and are written, or they are written up to the first
that does not fit. -/
theorem writeAll_cases (sink : Sink) (pieces : List Text) :
    (∃ after, (bytesOf pieces).length ≤ sink.room
        ∧ sink.HasWritten pieces after
        ∧ sink.writeAll pieces = (after, none))
      ∨ ∃ before piece behind after, pieces = before ++ piece :: behind
        ∧ (bytesOf before).length ≤ sink.room
        ∧ sink.room < (bytesOf (before ++ [piece])).length
        ∧ sink.HasWritten (before ++ [piece]) after
        ∧ sink.writeAll pieces = (after, some .limitReached) := by
  -- on the pieces, since each one leaves a sink with less room
  induction pieces generalizing sink with
  | nil => exact .inl ⟨sink, Nat.zero_le _, .nothing sink, rfl⟩
  | cons piece rest ih =>
      have hpiece := HasWritten.piece sink piece
      by_cases hfits : (Text.utf8 piece).length ≤ sink.room
      · rw [writeAll_cons_of_fits hfits]
        rcases ih (sink.write (Text.utf8 piece)).1 with
          ⟨after, hrest, hwritten, hrun⟩
          | ⟨before, last, behind, after, rfl, hbefore, hlast, hwritten, hrun⟩
        · refine .inl ⟨after, ?_, hpiece.trans hwritten, hrun⟩
          rw [room_write] at hrest
          rw [bytesOf_cons, List.length_append]
          omega
        · refine .inr ⟨piece :: before, last, behind, after, rfl, ?_, ?_,
            hpiece.trans hwritten, hrun⟩
          · rw [room_write] at hbefore
            rw [bytesOf_cons, List.length_append]
            omega
          · rw [room_write] at hlast
            rw [List.cons_append, bytesOf_cons, List.length_append]
            omega
      · have hcut := Nat.not_le.1 hfits
        refine .inr ⟨[], piece, rest, _, rfl, Nat.zero_le _, ?_, hpiece,
          writeAll_cons_of_cut hcut rest⟩
        rw [List.nil_append, bytesOf_singleton]
        exact hcut

-- ============================================================ the delivery

/-- What has happened to an empty sink when the pieces were to be written to
it and then flushed. -/
structure Delivers (limit : Nat) (flushFails : Bool) (pieces : List Text)
    (result : Sink × Option WriteFault) : Prop where
  bytes : result.1.bytes = (bytesOf pieces).take limit
  limitReached_iff :
    result.2 = some .limitReached ↔ limit < (bytesOf pieces).length
  flushFailed_iff : result.2 = some .flushFailed
    ↔ (bytesOf pieces).length ≤ limit ∧ flushFails = true
  succeeds_iff : result.2 = none
    ↔ (bytesOf pieces).length ≤ limit ∧ flushFails = false
  /-- Where everything fits, it is all written, and then flushed. -/
  history_of_fits : (bytesOf pieces).length ≤ limit →
    result.1.history = pieces.map writeCall ++ [.flush]
  /-- Where something does not fit, nothing is asked for behind the first
  piece that does not. -/
  history_of_cut : limit < (bytesOf pieces).length →
    ∃ before piece behind, pieces = before ++ piece :: behind
      ∧ (bytesOf before).length ≤ limit
      ∧ limit < (bytesOf (before ++ [piece])).length
      ∧ result.1.history = (before ++ [piece]).map writeCall

/-- The bytes of the pieces decide what goes wrong. -/
theorem Delivers.fault_eq {limit : Nat} {flushFails : Bool}
    {pieces others : List Text} {result other : Sink × Option WriteFault}
    (hresult : Delivers limit flushFails pieces result)
    (hother : Delivers limit flushFails others other)
    (hsame : bytesOf pieces = bytesOf others) : result.2 = other.2 := by
  cases hfault : other.2 with
  | none =>
      rw [hresult.succeeds_iff, hsame]
      exact hother.succeeds_iff.1 hfault
  | some fault =>
      cases fault with
      | limitReached =>
          rw [hresult.limitReached_iff, hsame]
          exact hother.limitReached_iff.1 hfault
      | flushFailed =>
          rw [hresult.flushFailed_iff, hsame]
          exact hother.flushFailed_iff.1 hfault

/-- If all pieces were written, the flush decides. -/
theorem delivers_of_fits {limit : Nat} {flushFails : Bool}
    {pieces : List Text} {after : Sink}
    (hfits : (bytesOf pieces).length ≤ limit)
    (hwritten : (limited limit flushFails).HasWritten pieces after) :
    Delivers limit flushFails pieces after.flush := by
  have hfault : after.flush.2
      = if flushFails then some .flushFailed else none := by
    unfold flush
    rw [hwritten.flushFails]
    rfl
  have hfull : ¬ limit < (bytesOf pieces).length := Nat.not_lt.2 hfits
  constructor
  case bytes =>
    rw [bytes_flush, hwritten.bytes]
    rfl
  case limitReached_iff =>
    rw [hfault]
    cases flushFails <;> simp [hfull]
  case flushFailed_iff =>
    rw [hfault]
    cases flushFails <;> simp [hfits]
  case succeeds_iff =>
    rw [hfault]
    cases flushFails <;> simp [hfits]
  case history_of_fits =>
    intro _
    rw [history_flush, hwritten.history]
    rfl
  case history_of_cut => exact fun hcut => absurd hcut hfull

/-- If a piece was cut, nothing is tried any more. -/
theorem delivers_of_cut {limit : Nat} {flushFails : Bool}
    {before behind : List Text} {piece : Text} {after : Sink}
    (hbefore : (bytesOf before).length ≤ limit)
    (hcut : limit < (bytesOf (before ++ [piece])).length)
    (hwritten : (limited limit flushFails).HasWritten (before ++ [piece])
      after) :
    Delivers limit flushFails (before ++ piece :: behind)
      (after, some .limitReached) := by
  -- the limit falls into this piece, so what stands behind it is not taken
  have hbytes : bytesOf (before ++ piece :: behind)
      = bytesOf (before ++ [piece]) ++ bytesOf behind := by
    rw [List.append_cons, bytesOf_append]
  have hlimit : limit < (bytesOf (before ++ piece :: behind)).length := by
    rw [hbytes, List.length_append]
    omega
  have hfull : ¬ (bytesOf (before ++ piece :: behind)).length ≤ limit :=
    Nat.not_le.2 hlimit
  constructor
  case bytes =>
    rw [hwritten.bytes, hbytes,
      List.take_append_of_le_length (Nat.le_of_lt hcut)]
    rfl
  case limitReached_iff => exact iff_of_true rfl hlimit
  case flushFailed_iff => simp [hfull]
  case succeeds_iff => simp [hfull]
  case history_of_fits => exact fun hfits => absurd hfits hfull
  case history_of_cut =>
    intro _
    exact ⟨before, piece, behind, rfl, hbefore, hcut, hwritten.history⟩

/-- One of the two is always the case. -/
theorem delivers_deliver (limit : Nat) (flushFails : Bool)
    (pieces : List Text) :
    Delivers limit flushFails pieces
      ((limited limit flushFails).deliver pieces) := by
  unfold deliver
  rcases writeAll_cases (limited limit flushFails) pieces with
    ⟨after, hfits, hwritten, hrun⟩
    | ⟨before, piece, behind, after, rfl, hbefore, hcut, hwritten, hrun⟩
  · rw [hrun]
    exact delivers_of_fits hfits hwritten
  · rw [hrun]
    exact delivers_of_cut hbefore hcut hwritten

-- ============================================================== the reports

/-- The pieces in which the reports are written make up the whole output, and
of its bytes a sink takes as many as there is room for, in order. The writing
fails exactly if some are left over, and then nothing is asked for behind the
piece that did not fit, not even a flush; a sink with room for all of them,
even if for nothing more, is flushed once, and what the flush says is the
result. A sink with enough room has therefore taken the whole output. Other
pieces that make up the same output come to the same bytes and the same
result. -/
theorem writeReports_delivers (format : OutputFormat) (reports : List Report)
    (limit : Nat) (flushFails : Bool) :
    let full := Text.utf8 (format.render reports)
    let result := (limited limit flushFails).writeReports format reports
    bytesOf (format.pieces reports) = full
      ∧ Delivers limit flushFails (format.pieces reports) result
      ∧ (∀ enough, full.length ≤ enough →
          ((limited enough false).writeReports format reports).1.bytes = full
            ∧ ((limited enough false).writeReports format reports).2 = none)
      ∧ ∀ pieces, bytesOf pieces = full →
          ((limited limit flushFails).deliver pieces).1.bytes = result.1.bytes
            ∧ ((limited limit flushFails).deliver pieces).2 = result.2 := by
  intro full result
  have hpieces : bytesOf (format.pieces reports) = full := rfl
  have hresult : Delivers limit flushFails (format.pieces reports) result :=
    delivers_deliver limit flushFails _
  refine ⟨hpieces, hresult, ?_, ?_⟩
  · intro enough henough
    have hall := delivers_deliver enough false (format.pieces reports)
    refine ⟨?_, hall.succeeds_iff.2 ⟨henough, rfl⟩⟩
    exact hall.bytes.trans (List.take_of_length_le henough)
  · intro pieces hsame
    have hother := delivers_deliver limit flushFails pieces
    refine ⟨by rw [hother.bytes, hresult.bytes, hsame, hpieces], ?_⟩
    exact hother.fault_eq hresult (hsame.trans hpieces.symm)

/-- A sink that is full within a character of two bytes, whether the output is
written in its pieces or at once, and one with room for all of it. -/
theorem writeReports_delivers_within_character :
    let reports : List Report := [⟨['é'], [.forDocument .io []]⟩]
    let whole := OutputFormat.text.render reports
    let result := (limited 1 true).writeReports .text reports
    (result.1.bytes = [0xC3] ∧ result.2 = some .limitReached)
      ∧ ((limited 1 true).deliver [whole]).1.bytes = [0xC3]
      ∧ (Text.utf8 whole).length ≤ 100
      ∧ ((limited 100 false).writeReports .text reports).2 = none := by
  intro reports whole result
  obtain ⟨-, hresult, henough, hother⟩ :=
    writeReports_delivers .text reports 1 true
  have hbytes : result.1.bytes = [0xC3] := by decide
  have hroom : (Text.utf8 whole).length ≤ 100 := by decide
  have hcut : result.2 = some .limitReached :=
    hresult.limitReached_iff.2 (by decide)
  obtain ⟨hatOnce, -⟩ := hother [whole] (bytesOf_singleton whole)
  exact ⟨⟨hbytes, hcut⟩, hatOnce.trans hbytes, hroom, (henough 100 hroom).2⟩

end Sink

end QuartoLint
