/-
Findings: what a run of the linter has to say about one source.

A diagnostic names the rule that is broken, the position of the line that
breaks it, if it is about one line, and says what is wrong. Findings collect
diagnostics in the order in which they were made; `toList` is their view,
and each operation has one equation through it.
-/
import QuartoLint.Rule

namespace QuartoLint

/-- One broken rule; `line` counts from zero and is absent where the rule is
about the whole source. -/
structure Diagnostic where
  rule : Rule
  line : Option Nat
  message : Text
deriving Repr, DecidableEq

namespace Diagnostic

def atLine (rule : Rule) (position : Nat) (message : Text) : Diagnostic :=
  ⟨rule, some position, message⟩

def forDocument (rule : Rule) (message : Text) : Diagnostic :=
  ⟨rule, none, message⟩

end Diagnostic

/-- Diagnostics in the order in which they were made. -/
structure Findings where
  diagnostics : Array Diagnostic
deriving Repr, DecidableEq

namespace Findings

def empty : Findings := ⟨#[]⟩

/-- The diagnostics, first made first. -/
def toList (findings : Findings) : List Diagnostic :=
  findings.diagnostics.toList

def add (findings : Findings) (diagnostic : Diagnostic) : Findings :=
  ⟨findings.diagnostics.push diagnostic⟩

def addAtLine (findings : Findings) (rule : Rule) (position : Nat)
    (message : Text) : Findings :=
  findings.add (.atLine rule position message)

def addForDocument (findings : Findings) (rule : Rule) (message : Text) :
    Findings :=
  findings.add (.forDocument rule message)

def size (findings : Findings) : Nat :=
  findings.diagnostics.size

/-- A source is valid when nothing was found. -/
def isValid (findings : Findings) : Bool :=
  findings.diagnostics.isEmpty

@[simp] theorem toList_empty : empty.toList = [] := rfl

/-- A diagnostic that is added comes last. -/
@[simp] theorem toList_add (findings : Findings) (diagnostic : Diagnostic) :
    (findings.add diagnostic).toList = findings.toList ++ [diagnostic] := by
  simp [add, toList]

@[simp] theorem toList_addAtLine (findings : Findings) (rule : Rule)
    (position : Nat) (message : Text) :
    (findings.addAtLine rule position message).toList
      = findings.toList ++ [.atLine rule position message] :=
  toList_add ..

@[simp] theorem toList_addForDocument (findings : Findings) (rule : Rule)
    (message : Text) :
    (findings.addForDocument rule message).toList
      = findings.toList ++ [.forDocument rule message] :=
  toList_add ..

@[simp] theorem length_toList (findings : Findings) :
    findings.toList.length = findings.size := by
  simp [toList, size]

/-- A source is valid exactly if the list of what was found is empty. -/
theorem isValid_iff {findings : Findings} :
    findings.isValid = true ↔ findings.toList = [] := by
  simp [isValid, toList]

end Findings

end QuartoLint
