/-
The scan of a document.

The lines are visited once, in order. A visit counts the line if it is a
separator; once two separators have been counted the body has begun, and the
line just visited is held to the rules of the body. That line may be the
second separator itself, which breaks none of them. When all lines have been
visited, two rules about the whole document are checked: there are exactly
two separators, and the lines put together have as many closing as opening
container tags. Nesting is not looked at, and a tag may be spread over
several lines.
-/
import QuartoLint.Diagnostic
import QuartoLint.Document
import QuartoLint.LineRule
import QuartoLint.Log

namespace QuartoLint

/-- The number of separators that belong to a header: one before it and one
behind it. -/
def headerDelimiters : Nat := 2

-- ========================================================== one line each

/-- What the lines visited so far leave behind. -/
structure ScanState where
  separators : Nat
  findings : Findings
deriving Repr, DecidableEq

namespace ScanState

def start : ScanState := ⟨0, .empty⟩

/-- Whether the header is over. -/
def inBody (state : ScanState) : Bool :=
  headerDelimiters ≤ state.separators

def countSeparator (state : ScanState) (line : Text) : ScanState :=
  if isSeparator line then { state with separators := state.separators + 1 }
  else state

/-- Holds the line to the rules of the body. -/
def checkBody (state : ScanState) (position : Nat) (line : Text) : ScanState :=
  { state with
    findings := (bodyViolations line).foldl
      (fun findings broken =>
        findings.addAtLine broken.rule position broken.message)
      state.findings }

def visit (state : ScanState) : Nat × Text → ScanState
  | (position, line) =>
    let counted := state.countSeparator line
    if counted.inBody then counted.checkBody position line else counted

end ScanState

def scanLines (document : Document) : ScanState :=
  document.numberedLines.foldl ScanState.visit .start

-- ===================================================== the whole document

def headerMessage : Text :=
  "--- occurs too few or too many times. It must occur exactly twice at the beginning and end of the Quarto header".toList

/-- What is said when containers stay open. -/
def unclosedMessage : Text := "more opening than closing div tags".toList

/-- What is said when more containers are closed than were opened. -/
def unopenedMessage : Text := "more closing than opening div tags".toList

/-- Adds a finding unless there are exactly two separators. -/
def checkHeader (separators : Nat) (findings : Findings) : Findings :=
  if separators = headerDelimiters then findings
  else findings.addForDocument .headerCardinality headerMessage

/-- The opening container tags in the lines put together. -/
def openingTags (lines : List Text) : Nat :=
  Text.countOccurrences Mark.containerOpen lines.flatten

/-- The closing container tags in the lines put together. -/
def closingTags (lines : List Text) : Nat :=
  Text.countOccurrences Mark.containerClose lines.flatten

/-- Adds a finding unless as many containers are closed as are opened. -/
def checkContainers (lines : List Text) (findings : Findings) : Findings :=
  match compare (openingTags lines) (closingTags lines) with
  | .gt => findings.addForDocument .containerBalance unclosedMessage
  | .lt => findings.addForDocument .containerBalance unopenedMessage
  | .eq => findings

/-- All findings about a document: those about lines first, in the order of
the lines, then those about the whole. -/
def validate (document : Document) : Findings :=
  let state := scanLines document
  checkContainers document.lines (checkHeader state.separators state.findings)

def validationRecord (document : Document) : Log.Record :=
  .validated document.source document.lines.length
    (scanLines document).separators (validate document).size

end QuartoLint
