/-
Log records: what a run notes down besides its findings.

Each kind of record has a level and a message. Levels are ordered from the
most to the least severe.
-/
import QuartoLint.Text.Blank

namespace QuartoLint.Log

/-- How much a record matters, from the most to the least severe. -/
inductive Level
  | error
  | warn
  | info
  | debug
  | trace
deriving Repr, DecidableEq

namespace Level

def name : Level → Text
  | error => "ERROR".toList
  | warn => "WARN".toList
  | info => "INFO".toList
  | debug => "DEBUG".toList
  | trace => "TRACE".toList

/-- Every level, most severe first. -/
def all : List Level := [error, warn, info, debug, trace]

/-- The level of a name whose ASCII letters may be of either case. -/
def ofName? (text : Text) : Option Level :=
  all.find? fun level => level.name == text.map Char.toUpper

def severity : Level → Nat
  | error => 5
  | warn => 4
  | info => 3
  | debug => 2
  | trace => 1

/-- Whether a record of this level is shown when the given one is the least
severe that is asked for. -/
def isShownAt (level threshold : Level) : Bool :=
  threshold.severity ≤ level.severity

end Level

/-- Something worth noting down. -/
inductive Record
  /-- A document was checked. -/
  | validated (source : Text) (lines separators findings : Nat)
  /-- A file was read. -/
  | loaded (path : Text) (bytes : Nat)
  /-- A file could not be read and was left out, for the given reason. -/
  | skipped (path reason : Text)
  | usingConfig (path : Text)
  /-- The config file has been read. -/
  | configLoaded (path : Text)
  | linted (sources : Nat)
deriving Repr, DecidableEq

namespace Record

def level : Record → Level
  | validated .. | loaded .. | usingConfig .. => .debug
  | skipped .. => .warn
  | configLoaded _ | linted _ => .info

private def number (n : Nat) : Text := Nat.toDigits 10 n

def message : Record → Text
  | validated source lines separators findings =>
    source ++ ": ".toList ++ number lines ++ " lines, ".toList
      ++ number separators ++ " separators, ".toList
      ++ number findings ++ " diagnostics".toList
  | loaded path bytes =>
    "Loaded ".toList ++ path ++ " (".toList ++ number bytes
      ++ " bytes)".toList
  | skipped path reason =>
    "Skipping ".toList ++ path ++ ": ".toList ++ reason
  | usingConfig path => "Using config file ".toList ++ path
  | configLoaded path => "Loaded config from ".toList ++ path
  | linted sources =>
    "Linted ".toList ++ number sources ++ " source(s)".toList

/-- The record as one line of the log. -/
def line (record : Record) : Text :=
  record.level.name ++ ' ' :: record.message

end Record

end QuartoLint.Log
