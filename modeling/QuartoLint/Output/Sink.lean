/-
Writing to a sink that can fail.

A sink takes bytes until it is full. A piece that does not fit is taken as
far as it does, and the write fails; a failed write ends the writing, so
nothing is written or flushed behind it. When everything has been written
the sink is flushed once, which can fail too. A sink remembers what it was
asked to do, so that what is written behind a failure would show even where
no more bytes are taken.
-/
import QuartoLint.Output
import QuartoLint.Text.Utf8

namespace QuartoLint

/-- Why a sink refused. -/
inductive WriteFault
  | limitReached
  | flushFailed
deriving Repr, DecidableEq

namespace WriteFault

def message : WriteFault → Text
  | limitReached => "limit reached".toList
  | flushFailed => "flush failed".toList

end WriteFault

/-- What a sink is asked to do. -/
inductive SinkCall
  | write (piece : List UInt8)
  | flush
deriving Repr, DecidableEq

/-- A sink with the bytes it has taken, the number it can still take, whether
its flush fails, and what it was asked to do so far. -/
structure Sink where
  taken : Array UInt8
  room : Nat
  flushFails : Bool
  calls : Array SinkCall
deriving Repr, DecidableEq

namespace Sink

/-- An empty sink that takes as many bytes as `limit` says. -/
def limited (limit : Nat) (flushFails : Bool) : Sink :=
  ⟨#[], limit, flushFails, #[]⟩

/-- The bytes taken so far, first taken first. -/
def bytes (sink : Sink) : List UInt8 := sink.taken.toList

/-- What the sink was asked to do, first thing first. -/
def history (sink : Sink) : List SinkCall := sink.calls.toList

/-- Takes as many of the bytes as there is room for, and fails if some are
left over. -/
def write (sink : Sink) (piece : List UInt8) : Sink × Option WriteFault :=
  ({ sink with
      taken := sink.taken ++ piece.take sink.room
      room := sink.room - piece.length
      calls := sink.calls.push (.write piece) },
    if piece.length ≤ sink.room then none else some .limitReached)

/-- Writes the pieces in order, up to the first that does not fit. -/
def writeAll (sink : Sink) : List Text → Sink × Option WriteFault
  | [] => (sink, none)
  | piece :: rest =>
    match sink.write (Text.utf8 piece) with
    | (sink, none) => sink.writeAll rest
    | (sink, some fault) => (sink, some fault)

def flush (sink : Sink) : Sink × Option WriteFault :=
  ({ sink with calls := sink.calls.push .flush },
    if sink.flushFails then some .flushFailed else none)

/-- Writes the pieces in order and then flushes. -/
def deliver (sink : Sink) (pieces : List Text) : Sink × Option WriteFault :=
  match sink.writeAll pieces with
  | (sink, none) => sink.flush
  | (sink, some fault) => (sink, some fault)

/-- Writes every record of every report and then flushes. -/
def writeReports (sink : Sink) (format : OutputFormat)
    (reports : List Report) : Sink × Option WriteFault :=
  sink.deliver (format.pieces reports)

-- ============================================================= single calls

/-- As much of a piece is taken as there is room for. -/
@[simp] theorem bytes_write (sink : Sink) (piece : List UInt8) :
    (sink.write piece).1.bytes = sink.bytes ++ piece.take sink.room := by
  simp [write, bytes]

/-- The room shrinks by the whole piece, down to none. -/
@[simp] theorem room_write (sink : Sink) (piece : List UInt8) :
    (sink.write piece).1.room = sink.room - piece.length := rfl

@[simp] theorem flushFails_write (sink : Sink) (piece : List UInt8) :
    (sink.write piece).1.flushFails = sink.flushFails := rfl

/-- A call is remembered with the whole piece, also where that is cut. -/
@[simp] theorem history_write (sink : Sink) (piece : List UInt8) :
    (sink.write piece).1.history = sink.history ++ [.write piece] := by
  simp [write, history]

@[simp] theorem bytes_flush (sink : Sink) :
    sink.flush.1.bytes = sink.bytes := rfl

/-- A flush is remembered like a write. -/
@[simp] theorem history_flush (sink : Sink) :
    sink.flush.1.history = sink.history ++ [.flush] := by
  simp [flush, history]

end Sink

end QuartoLint
