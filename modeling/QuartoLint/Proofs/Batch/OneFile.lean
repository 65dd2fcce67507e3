/-
The report of one file.

A file holds a text if its bytes are the text in UTF-8, and it holds at most
one. The report of a file that holds a text is the one of the document made
of that text; any other file has a report with a single finding, which says
that it could not be read (`lintFile_of_holds`, `lintFile_of_not_holds`).

# Two kinds of findings

What is wrong with a document is never taken for a file that could not be
read: no finding of a validation is about reading
(`rule_ne_io_of_mem_validate`), so a report has an I/O error exactly if the
file holds no text (`hasIoError_lintFile_iff`).
-/
import QuartoLint.Batch
import QuartoLint.Proofs.Scan.Findings

namespace QuartoLint

-- ============================================================ text in bytes

/-- Bytes are read as the text whose encoding they are, and as no other. -/
theorem Text.ofUtf8?_eq_some_iff {bytes : ByteArray} {text : Text} :
    Text.ofUtf8? bytes = some text ↔ bytes = (Text.utf8 text).toByteArray := by
  unfold Text.ofUtf8? String.fromUTF8?
  constructor
  · intro hread
    split at hread
    case isTrue hvalid =>
      cases hread
      exact (String.utf8Encode_toList (b := .fromUTF8 bytes hvalid)).symm
    case isFalse => cases hread
  · rintro rfl
    have hvalid : (Text.utf8 text).toByteArray.IsValidUTF8 := ⟨text, rfl⟩
    rw [dif_pos hvalid]
    exact congrArg some String.toList_ofList

namespace FileSystem

/-- The path leads to a file with the text in UTF-8. -/
def Holds (files : FileSystem) (path : Path) (text : Text) : Prop :=
  files.read path = .ok (Text.utf8 text).toByteArray

variable {files : FileSystem} {path : Path} {text : Text}

theorem readText_eq_ok_iff :
    files.readText path = .ok text ↔ files.Holds path text := by
  unfold readText Holds
  cases files.read path with
  | error fault =>
      constructor <;> intro h <;> cases h
  | ok bytes =>
      rw [Except.ok.injEq, ← Text.ofUtf8?_eq_some_iff]
      dsimp only
      cases Text.ofUtf8? bytes with
      | none => constructor <;> intro h <;> cases h
      | some found => rw [Except.ok.injEq, Option.some.injEq]

/-- A file without text cannot be read, for some cause. -/
theorem readText_of_not_holds (hnone : ∀ text, ¬ files.Holds path text) :
    ∃ cause, files.readText path = .error cause := by
  cases hread : files.readText path with
  | ok text => exact absurd (readText_eq_ok_iff.1 hread) (hnone text)
  | error cause => exact ⟨cause, rfl⟩

end FileSystem

-- ============================================================== the report

variable {files : FileSystem} {path : Path} {text : Text}

theorem lintFile_of_holds (hholds : files.Holds path text) :
    lintFile files path = lintDocument (.ofText path text) := by
  unfold lintFile Document.load
  rw [FileSystem.readText_eq_ok_iff.2 hholds]
  rfl

/-- The report of a file that holds no text says only that it could not be
read, and why. -/
theorem lintFile_of_not_holds (hnone : ∀ text, ¬ files.Holds path text) :
    ∃ cause, files.readText path = .error cause
      ∧ lintFile files path = ⟨path, [.forDocument .io
          ("could not read file: ".toList ++ cause.message)]⟩ := by
  obtain ⟨cause, hread⟩ := FileSystem.readText_of_not_holds hnone
  refine ⟨cause, hread, ?_⟩
  unfold lintFile Document.load
  rw [hread]
  rfl

/-- A report is about the text that the file holds, or says only that the
file holds none. -/
theorem lintFile_cases (files : FileSystem) (path : Path) :
    (∃ text, files.Holds path text
        ∧ lintFile files path = lintDocument (.ofText path text))
      ∨ (∀ text, ¬ files.Holds path text)
        ∧ ∃ message,
          lintFile files path = ⟨path, [.forDocument .io message]⟩ := by
  by_cases hholds : ∃ text, files.Holds path text
  · obtain ⟨text, hholds⟩ := hholds
    exact .inl ⟨text, hholds, lintFile_of_holds hholds⟩
  · have hnone := not_exists.1 hholds
    obtain ⟨cause, -, hreport⟩ := lintFile_of_not_holds hnone
    exact .inr ⟨hnone, _, hreport⟩

/-- The report depends on what is read at the path only. -/
theorem lintFile_congr {other : FileSystem}
    (hread : files.read path = other.read path) :
    lintFile files path = lintFile other path := by
  unfold lintFile Document.load FileSystem.readText
  rw [hread]

-- ====================================================== the rule for reading

/-- Whatever a document says, its report has no I/O error. -/
theorem hasIoError_lintDocument (document : Document) :
    (lintDocument document).hasIoError = false := by
  unfold Report.hasIoError lintDocument
  refine List.any_eq_false.2 fun diagnostic hmem => ?_
  rw [beq_iff_eq]
  exact rule_ne_io_of_mem_validate hmem

/-- A report has an I/O error exactly if the file holds no text. -/
theorem hasIoError_lintFile_iff :
    (lintFile files path).hasIoError = true
      ↔ ∀ text, ¬ files.Holds path text := by
  rcases lintFile_cases files path with
    ⟨text, hholds, hreport⟩ | ⟨hnone, message, hreport⟩
  · rw [hreport, hasIoError_lintDocument]
    exact iff_of_false Bool.false_ne_true fun hnone => hnone text hholds
  · rw [hreport]
    exact iff_of_true rfl hnone

/-- A report is clean exactly if the file holds a text without findings. -/
theorem isClean_lintFile_iff :
    (lintFile files path).isClean = true
      ↔ ∃ text, files.Holds path text
        ∧ (validate (.ofText path text)).toList = [] := by
  constructor
  · intro hclean
    rcases lintFile_cases files path with
      ⟨text, hholds, hreport⟩ | ⟨-, message, hreport⟩
    · rw [hreport] at hclean
      exact ⟨text, hholds, List.isEmpty_iff.1 hclean⟩
    · rw [hreport] at hclean
      cases hclean
  · intro hvalid
    obtain ⟨text, hholds, hfindings⟩ := hvalid
    rw [lintFile_of_holds hholds]
    exact List.isEmpty_iff.2 hfindings

end QuartoLint
