/-
The bytes of a text in UTF-8.

Each character has one to four bytes, so the bytes of two texts put together
are the bytes of the first and then those of the second (`utf8_append`).
Reading is strict: bytes that are not the encoding of any text are refused.
-/
import QuartoLint.Text.Blank

namespace QuartoLint.Text

/-- The bytes of a text, in order. -/
def utf8 (text : Text) : List UInt8 :=
  text.flatMap String.utf8EncodeChar

def utf8Size (text : Text) : Nat :=
  text.foldl (fun size c => size + c.utf8Size) 0

/-- The text that the bytes are the encoding of, if there is one. -/
def ofUtf8? (bytes : ByteArray) : Option Text :=
  (String.fromUTF8? bytes).map String.toList

/-- The bytes of the first text come before those of the second. -/
@[simp] theorem utf8_append (s t : Text) : utf8 (s ++ t) = utf8 s ++ utf8 t :=
  List.flatMap_append

/-- Only the empty text has no bytes. -/
theorem utf8_eq_nil_iff {text : Text} : utf8 text = [] ↔ text = [] := by
  unfold utf8
  rw [List.flatMap_eq_nil_iff, List.eq_nil_iff_forall_not_mem]
  exact forall₂_congr fun _ _ => iff_of_false String.utf8EncodeChar_ne_nil id

end QuartoLint.Text
