/-
Objects that are written and read back.

Reading what was written gives the same object, whatever characters its names
and strings hold (`read?_write`). The written form is one line of characters
that show: none of them lies below U+0020, where the line ends are
(`noControl_write`).

# One part at a time

Each parser is shown to take the written form of its part off a text and to
leave what stands behind it, whatever that is so long as it does not go on
with the part. A character reads back from its escape (`nextChar?_escape`),
so no character of a string can end it, and a string reads back by induction
on its characters (`string_writeString`). A number reads back digit by digit
(`ofDigits?_toDigits`), provided that no digit follows. In an object a comma
or the closing brace follows each value, and neither is a digit
(`field_writeField`).
-/
import Mathlib.Data.List.Basic
import QuartoLint.Json.Reader
import QuartoLint.Json.Writer

namespace QuartoLint

-- ================================================================ parsers

namespace Parser

variable {α β : Type}

/-- A parser that has read goes on with what follows it. -/
theorem bind_of_eq {parser : Parser α} {next : α → Parser β}
    {text rest : Text} {value : α}
    (hread : parser text = some (value, rest)) :
    (parser >>= next) text = next value rest := by
  show (parser text).bind _ = _
  rw [hread]
  rfl

/-- What is looked for is taken off the front of a text. -/
theorem accept_append (expected rest : Text) :
    accept expected (expected ++ rest) = some (true, rest) := by
  unfold accept
  rw [Text.behind?_eq_some_iff.2 rfl]

theorem expect_append (expected rest : Text) :
    expect expected (expected ++ rest) = some ((), rest) := by
  unfold expect
  rw [bind_of_eq (accept_append expected rest)]
  rfl

/-- A run of characters of a kind is taken up to the first that is not. -/
theorem takeWhile_append {kind : Char → Bool} {run rest : Text}
    (hrun : ∀ c ∈ run, kind c = true)
    (hrest : ∀ c ∈ rest.head?, kind c = false) :
    takeWhile kind (run ++ rest) = some (run, rest) := by
  unfold takeWhile
  rw [List.takeWhile_append_of_pos hrun, List.dropWhile_append_of_pos hrun]
  cases rest with
  | nil => rw [List.takeWhile_nil, List.append_nil, List.dropWhile_nil]
  | cons c rest =>
      have hc : ¬ kind c = true := Bool.eq_false_iff.1 (hrest c rfl)
      rw [List.takeWhile_cons_of_neg hc, List.append_nil,
        List.dropWhile_cons_of_neg hc]

end Parser

-- ================================================================ numbers

namespace Text

/-- A decimal digit is read as its number. -/
theorem digitValue?_digitChar :
    ∀ n < 10, digitValue? 10 (Nat.digitChar n) = some n := by decide

/-- Only zero has the digit zero. -/
theorem digitChar_ne_zero : ∀ n < 10, 0 < n → Nat.digitChar n ≠ '0' := by
  decide

/-- One digit more at the end counts once, and the others count ten times, or
whatever the base is, what they did. -/
theorem ofDigits?_concat (base : Nat) (digits : Text) (c : Char) :
    ofDigits? base (digits ++ [c]) = (ofDigits? base digits).bind fun n =>
      (digitValue? base c).map (base * n + ·) := by
  unfold ofDigits?
  rw [List.foldlM_append]
  simp only [List.foldlM_cons, List.foldlM_nil, Option.bind_eq_bind,
    Option.pure_def, Option.bind_fun_some]

/-- A number is read back from its decimal digits. -/
theorem ofDigits?_toDigits (n : Nat) :
    ofDigits? 10 (Nat.toDigits 10 n) = some n := by
  -- on the number without its last digit
  induction n using Nat.strongRecOn with
  | ind n ih =>
      rw [Nat.toDigits_eq_if (by decide)]
      split
      case isTrue hlt =>
        rw [← List.nil_append [n.digitChar], ofDigits?_concat,
          digitValue?_digitChar n hlt]
        show some (10 * 0 + n) = some n
        rw [Nat.mul_zero, Nat.zero_add]
      case isFalse hge =>
        rw [ofDigits?_concat, ih (n / 10) (by omega), Option.bind_some,
          digitValue?_digitChar (n % 10) (by omega), Option.map_some,
          Nat.div_add_mod]

/-- Only the number zero is written with a zero in front. -/
theorem head?_toDigits_ne {n : Nat} (hpos : 0 < n) :
    (Nat.toDigits 10 n).head? ≠ some '0' := by
  induction n using Nat.strongRecOn with
  | ind n ih =>
      rw [Nat.toDigits_eq_if (by decide)]
      split
      case isTrue hlt =>
        intro hhead
        exact digitChar_ne_zero n hlt hpos (Option.some.inj hhead)
      case isFalse hge =>
        rw [List.head?_append_of_ne_nil _ Nat.toDigits_ne_nil]
        exact ih (n / 10) (by omega) (by omega)

end Text

namespace Json

/-- The digits of a number are read up to the first character that is no
digit. -/
theorem number_toDigits (n : Nat) {rest : Text}
    (hrest : ∀ c ∈ rest.head?, c.isDigit = false) :
    number (Nat.toDigits 10 n ++ rest) = some (n, rest) := by
  have hdigits : Parser.takeWhile Char.isDigit (Nat.toDigits 10 n ++ rest)
      = some (Nat.toDigits 10 n, rest) :=
    Parser.takeWhile_append (fun c hc =>
      Nat.isDigit_of_mem_toDigits (by decide) (by decide) hc) hrest
  have hform : (Nat.toDigits 10 n == ['0']
      || (!(Nat.toDigits 10 n).isEmpty
        && (Nat.toDigits 10 n).head? != some '0')) = true := by
    -- zero is the one number that may begin with a zero
    rcases Nat.eq_zero_or_pos n with rfl | hpos
    · rfl
    · rw [Bool.or_eq_true, Bool.and_eq_true, bne_iff_ne]
      refine Or.inr ⟨?_, Text.head?_toDigits_ne hpos⟩
      rw [List.isEmpty_eq_false_iff.2 Nat.toDigits_ne_nil]
      rfl
  unfold number
  rw [Parser.bind_of_eq hdigits, hform]
  show (StateT.lift (Text.ofDigits? 10 (Nat.toDigits 10 n)) : Parser Nat) rest
    = some (n, rest)
  rw [Text.ofDigits?_toDigits]
  rfl

-- ================================================================ strings

/-- A hexadecimal digit is read as its number. -/
theorem digitValue?_hexDigit :
    ∀ n < 16, Text.digitValue? 16 (hexDigit n) = some n := by decide

/-- The escape by code point of a character below U+0100 is read as that
character. -/
theorem codeEscape?_hexDigits {c : Char} (hc : c.toNat < 256) (rest : Text) :
    codeEscape? ('0' :: '0' :: hexDigit (c.toNat / 16)
      :: hexDigit (c.toNat % 16) :: rest) = some (c, rest) := by
  have hhigh := digitValue?_hexDigit (c.toNat / 16) (by omega)
  have hlow := digitValue?_hexDigit (c.toNat % 16) (by omega)
  have hzero : Text.digitValue? 16 '0' = some 0 := by decide
  have hdigits : Text.ofDigits? 16 ['0', '0', hexDigit (c.toNat / 16),
      hexDigit (c.toNat % 16)] = some c.toNat := by
    simp [Text.ofDigits?, hhigh, hlow, hzero, Nat.div_add_mod]
  have hcode : Text.fixedDigits? 16 4 ('0' :: '0'
      :: hexDigit (c.toNat / 16) :: hexDigit (c.toNat % 16) :: rest)
      = some (c.toNat, rest) := by
    unfold Text.fixedDigits?
    rw [if_neg (by simp only [List.length_cons]; omega)]
    show (Text.ofDigits? 16 ['0', '0', hexDigit (c.toNat / 16),
      hexDigit (c.toNat % 16)]).map (fun n => (n, rest)) = _
    rw [hdigits]
    rfl
  unfold codeEscape?
  rw [hcode]
  dsimp only
  rw [if_pos (show c.toNat.isValidChar from c.valid), Char.ofNat_toNat]

/-- A character that is neither a quote nor a backslash stands for itself,
unless it is a control character. -/
theorem nextChar?_cons {c : Char} (hquote : c ≠ '"') (hbackslash : c ≠ '\\')
    (rest : Text) :
    nextChar? (c :: rest)
      = if c.toNat < 0x20 then none else some (c, rest) := by
  unfold nextChar?
  split <;> simp_all

/-- A character is read back from its escape, whatever follows it. -/
theorem nextChar?_escape (c : Char) (rest : Text) :
    nextChar? (escape c ++ rest) = some (c, rest) := by
  unfold escape
  -- only the last case of the escapes has a character of its own
  split
  case h_8 hquote hbackslash _ _ _ _ _ =>
    split
    case isTrue hcontrol => exact codeEscape?_hexDigits (by omega) rest
    case isFalse hshown =>
      show nextChar? (c :: rest) = _
      rw [nextChar?_cons hquote hbackslash, if_neg hshown]
  all_goals rfl

/-- A quote that is not escaped ends the string. -/
theorem stringOnto_quote (done rest : Text) :
    stringOnto done ('"' :: rest) = some (done.reverse, rest) := by
  rw [stringOnto]

/-- A character that is read is put before those that were. -/
theorem stringOnto_of_nextChar? {text rest : Text} {c : Char}
    (hread : nextChar? text = some (c, rest)) (done : Text) :
    stringOnto done text = stringOnto (c :: done) rest := by
  rw [stringOnto]
  · split
    case h_1 d behind hread' =>
      rw [hread] at hread'
      cases hread'
      rfl
    case h_2 hnone =>
      rw [hread] at hnone
      cases hnone
  · rintro rest rfl
    cases hread

/-- The escapes of a text are read one by one, up to the closing quote. -/
theorem stringOnto_escapes (done text rest : Text) :
    stringOnto done (text.flatMap escape ++ '"' :: rest)
      = some (done.reverse ++ text, rest) := by
  induction text generalizing done with
  | nil =>
      rw [List.append_nil]
      exact stringOnto_quote done rest
  | cons c text ih =>
      -- an escape is read whole, so a quote in it does not end the string
      rw [List.flatMap_cons, List.append_assoc,
        stringOnto_of_nextChar? (nextChar?_escape c _), ih,
        List.reverse_cons, List.append_assoc]
      rfl

/-- A string is read back, and what stands behind its closing quote is
left. -/
theorem string_writeString (text rest : Text) :
    string (writeString text ++ rest) = some (text, rest) := by
  have hsplit : writeString text ++ rest
      = ['"'] ++ (text.flatMap escape ++ '"' :: rest) := by
    unfold writeString
    simp
  unfold string
  rw [hsplit, Parser.bind_of_eq (Parser.expect_append _ _),
    stringOnto_escapes]
  rfl

-- ================================================================= values

/-- Gaps are not needed between the parts. -/
theorem skipGap_eq_self {text : Text}
    (htext : ∀ c ∈ text.head?, isGap c = false) :
    skipGap text = some ((), text) := by
  have htaken := Parser.takeWhile_append (List.forall_mem_nil _) htext
  show (Parser.takeWhile isGap >>= fun _ => pure ()) text = some ((), text)
  exact Parser.bind_of_eq htaken

theorem skipGap_cons {c : Char} (hc : isGap c = false) (rest : Text) :
    skipGap (c :: rest) = some ((), c :: rest) := by
  refine skipGap_eq_self fun d hd => ?_
  cases hd
  exact hc

theorem ne_of_isDigit {c d : Char} (hc : c.isDigit = true)
    (hd : d.isDigit = false) : c ≠ d := by
  rintro rfl
  rw [hc] at hd
  cases hd

/-- A value is read back unless a digit follows it. -/
theorem scalar_write (value : Scalar) {rest : Text}
    (hrest : ∀ c ∈ rest.head?, c.isDigit = false) :
    scalar (value.write ++ rest) = some (value, rest) := by
  have hpeek (text : Text) : Parser.peek? text = some (text.head?, text) := rfl
  unfold scalar
  -- the first character tells which kind of value follows
  rw [Parser.bind_of_eq (hpeek _)]
  cases value with
  | null =>
      show (Parser.expect ['n', 'u', 'l', 'l'] >>= _)
        (['n', 'u', 'l', 'l'] ++ rest) = _
      rw [Parser.bind_of_eq (Parser.expect_append _ _)]
      rfl
  | string text =>
      show (string >>= _) (writeString text ++ rest) = _
      rw [Parser.bind_of_eq (string_writeString text rest)]
      rfl
  | number n =>
      obtain ⟨digit, others, hdigits⟩ :=
        List.exists_cons_of_ne_nil (Nat.toDigits_ne_nil (n := n) (b := 10))
      have hdigit : digit.isDigit = true := by
        refine Nat.isDigit_of_mem_toDigits (b := 10) (n := n) (by decide)
          (by decide) ?_
        rw [hdigits]
        exact List.mem_cons_self
      have hhead : ((Scalar.number n).write ++ rest).head? = some digit := by
        show (Nat.toDigits 10 n ++ rest).head? = some digit
        rw [hdigits]
        rfl
      -- a digit is taken neither for a quote nor for the letter of null
      have hquote : digit ≠ '"' := ne_of_isDigit hdigit (by decide)
      have hletter : digit ≠ 'n' := ne_of_isDigit hdigit (by decide)
      rw [hhead]
      simp only [Option.some.injEq, hquote, imp_self, hletter]
      show (number >>= _) (Nat.toDigits 10 n ++ rest) = _
      rw [Parser.bind_of_eq (number_toDigits n hrest)]
      rfl

/-- No value begins like a gap. -/
theorem isGap_head?_write (value : Scalar) (rest : Text) :
    ∀ c ∈ (value.write ++ rest).head?, isGap c = false := by
  intro c hc
  cases value with
  | null =>
      cases hc
      decide
  | string text =>
      cases hc
      decide
  | number n =>
      rw [Scalar.write, List.head?_append_of_ne_nil _ Nat.toDigits_ne_nil]
        at hc
      have hdigit := Nat.isDigit_of_mem_toDigits (by decide) (by decide)
        (List.mem_of_mem_head? hc)
      unfold isGap
      simp only [Bool.or_eq_false_iff, beq_eq_false_iff_ne]
      refine ⟨⟨⟨?_, ?_⟩, ?_⟩, ?_⟩ <;>
        exact ne_of_isDigit hdigit (by decide)

-- ================================================================ objects

/-- What may follow a field without going on with it. -/
def EndsField (rest : Text) : Prop :=
  ∀ c ∈ rest.head?, isGap c = false ∧ c.isDigit = false

/-- A character that is neither a gap nor a digit ends a field. -/
theorem endsField_cons {c : Char} (hgap : isGap c = false)
    (hdigit : c.isDigit = false) (rest : Text) : EndsField (c :: rest) := by
  intro d hd
  cases hd
  exact ⟨hgap, hdigit⟩

/-- A field is read back if what follows ends it. -/
theorem field_writeField (entry : Text × Scalar) {rest : Text}
    (hrest : EndsField rest) :
    field (writeField entry ++ rest) = some (entry, rest) := by
  obtain ⟨name, value⟩ := entry
  have hsplit : writeField (name, value) ++ rest
      = writeString name ++ ([':'] ++ (value.write ++ rest)) := by
    unfold writeField
    simp
  have hfirst : skipGap (writeString name ++ ([':'] ++ (value.write ++ rest)))
      = some ((), writeString name ++ ([':'] ++ (value.write ++ rest))) :=
    skipGap_cons (by decide) _
  have hcolon : skipGap ([':'] ++ (value.write ++ rest))
      = some ((), [':'] ++ (value.write ++ rest)) :=
    skipGap_cons (by decide) _
  have hvalue := skipGap_eq_self (isGap_head?_write value rest)
  have hlast := skipGap_eq_self fun c hc => (hrest c hc).1
  unfold field
  rw [hsplit, Parser.bind_of_eq hfirst,
    Parser.bind_of_eq (string_writeString name _), Parser.bind_of_eq hcolon,
    Parser.bind_of_eq (Parser.expect_append [':'] _),
    Parser.bind_of_eq hvalue,
    Parser.bind_of_eq (scalar_write value fun c hc => (hrest c hc).2),
    Parser.bind_of_eq hlast]
  rfl

/-- The fields between the braces of an object. -/
def writeFields (fields : Object) : Text :=
  ((fields.map writeField).intersperse [',']).flatten

theorem writeFields_singleton (entry : Text × Scalar) :
    writeFields [entry] = writeField entry := by
  unfold writeFields
  simp

/-- A comma stands between each field and the next. -/
theorem writeFields_cons (entry next : Text × Scalar) (others : Object) :
    writeFields (entry :: next :: others)
      = writeField entry ++ ',' :: writeFields (next :: others) := by
  unfold writeFields
  simp

/-- There is a character at least for each field, so that the length of what
was written bounds the number of fields. -/
theorem length_lt_length_writeFields (entry : Text × Scalar)
    (others : Object) :
    others.length < (writeFields (entry :: others)).length := by
  have hpos (field : Text × Scalar) : 0 < (writeField field).length := by
    unfold writeField writeString
    simp only [List.length_append, List.length_cons]
    omega
  induction others generalizing entry with
  | nil =>
      rw [writeFields_singleton]
      exact hpos entry
  | cons next others ih =>
      have hnext := ih next
      have hentry := hpos entry
      rw [writeFields_cons, List.length_append, List.length_cons,
        List.length_cons]
      omega

/-- The fields are read back, as many as there are, up to the closing
brace. -/
theorem chainWithin_writeFields (entry : Text × Scalar) (others : Object)
    (rest : Text) {count : Nat} (hcount : others.length < count) :
    Parser.chainWithin field anotherField count
        (writeFields (entry :: others) ++ '}' :: rest)
      = some (entry :: others, rest) := by
  -- on the fields behind the first, each of which uses up one of the count
  induction others generalizing entry count with
  | nil =>
      obtain ⟨count, rfl⟩ := Nat.exists_eq_succ_of_ne_zero
        (Nat.ne_of_gt hcount)
      have hends : EndsField ('}' :: rest) :=
        endsField_cons (by decide) (by decide) rest
      have hbrace : anotherField ('}' :: rest) = some (false, rest) := rfl
      rw [writeFields_singleton, Parser.chainWithin,
        Parser.bind_of_eq (field_writeField entry hends),
        Parser.bind_of_eq hbrace]
      rfl
  | cons next others ih =>
      obtain ⟨count, rfl⟩ := Nat.exists_eq_succ_of_ne_zero
        (Nat.ne_of_gt (Nat.lt_of_le_of_lt (Nat.zero_le _) hcount))
      have hends : EndsField
          (',' :: (writeFields (next :: others) ++ '}' :: rest)) :=
        endsField_cons (by decide) (by decide) _
      have hcomma : anotherField
          (',' :: (writeFields (next :: others) ++ '}' :: rest))
          = some (true, writeFields (next :: others) ++ '}' :: rest) := rfl
      have hothers := ih next (Nat.lt_of_succ_lt_succ hcount)
      rw [writeFields_cons, List.append_assoc, List.cons_append,
        Parser.chainWithin,
        Parser.bind_of_eq (field_writeField entry hends),
        Parser.bind_of_eq hcomma, if_pos rfl, Parser.bind_of_eq hothers]
      rfl

/-- Fields begin with the quote of a name, which is neither a gap nor a
brace. -/
theorem exists_writeFields_eq (entry : Text × Scalar) (others : Object) :
    ∃ text, writeFields (entry :: others) = '"' :: text := by
  cases others with
  | nil => exact ⟨_, writeFields_singleton entry⟩
  | cons next others => exact ⟨_, writeFields_cons entry next others⟩

theorem write_eq_append (fields : Object) :
    fields.write = ['{'] ++ (writeFields fields ++ ['}']) := by
  unfold Object.write writeFields
  simp

/-- An object is read back, to the end of its text. -/
theorem object_write (fields : Object) :
    object fields.write = some (fields, []) := by
  have hopen : skipGap (['{'] ++ (writeFields fields ++ ['}']))
      = some ((), ['{'] ++ (writeFields fields ++ ['}'])) :=
    skipGap_cons (by decide) _
  have hclosed : skipGap [] = some ((), []) := rfl
  unfold object
  rw [write_eq_append, Parser.bind_of_eq hopen,
    Parser.bind_of_eq (Parser.expect_append ['{'] _)]
  cases fields with
  | nil => rfl
  | cons entry others =>
      obtain ⟨text, htext⟩ := exists_writeFields_eq entry others
      have hinner : skipGap (writeFields (entry :: others) ++ ['}'])
          = some ((), writeFields (entry :: others) ++ ['}']) := by
        rw [htext]
        exact skipGap_cons (by decide) _
      have hbrace : Parser.accept ['}']
          (writeFields (entry :: others) ++ ['}'])
          = some (false, writeFields (entry :: others) ++ ['}']) := by
        rw [htext]
        rfl
      have hfields : Parser.chain field anotherField
          (writeFields (entry :: others) ++ ['}'])
          = some (entry :: others, []) := by
        -- the reader allows as many fields as there are characters
        refine chainWithin_writeFields entry others [] ?_
        have hlength := length_lt_length_writeFields entry others
        rw [List.length_append]
        omega
      rw [Parser.bind_of_eq hinner, Parser.bind_of_eq hbrace]
      rw [if_neg Bool.false_ne_true, Parser.bind_of_eq hfields]
      show (skipGap >>= _) [] = _
      rw [Parser.bind_of_eq hclosed]
      rfl

/-- What was written is read back. -/
theorem read?_write (fields : Object) : read? fields.write = some fields := by
  unfold read? Parser.all?
  rw [object_write]

-- ===================================================== control characters

/-- No character of the text lies below U+0020. -/
def NoControl (text : Text) : Prop :=
  ∀ c ∈ text, 0x20 ≤ c.toNat

instance (text : Text) : Decidable (NoControl text) :=
  decidable_of_iff (text.all (fun c => decide (0x20 ≤ c.toNat)) = true)
    (by simp only [NoControl, List.all_eq_true, decide_eq_true_eq])

theorem noControl_append {text more : Text} :
    NoControl (text ++ more) ↔ NoControl text ∧ NoControl more :=
  List.forall_mem_append

theorem noControl_cons {c : Char} {text : Text} :
    NoControl (c :: text) ↔ 0x20 ≤ c.toNat ∧ NoControl text :=
  List.forall_mem_cons

theorem le_toNat_hexDigit : ∀ n < 16, 0x20 ≤ (hexDigit n).toNat := by decide

/-- Control characters are escaped, and escapes have none. -/
theorem noControl_escape (c : Char) : NoControl (escape c) := by
  unfold escape
  split
  case h_8 =>
    split
    case isTrue hcontrol =>
      have hhigh := le_toNat_hexDigit (c.toNat / 16) (by omega)
      have hlow := le_toNat_hexDigit (c.toNat % 16) (by omega)
      show NoControl (['\\', 'u', '0', '0'] ++ [_, _])
      refine noControl_append.2 ⟨by decide, ?_⟩
      exact noControl_cons.2 ⟨hhigh, List.forall_mem_singleton.2 hlow⟩
    case isFalse hshown =>
      exact List.forall_mem_singleton.2 (Nat.le_of_not_lt hshown)
  all_goals decide

/-- A string shows, whatever text it holds. -/
theorem noControl_writeString (text : Text) :
    NoControl (writeString text) := by
  unfold writeString
  rw [List.cons_append, noControl_cons, noControl_append]
  refine ⟨by decide, fun c hc => ?_, by decide⟩
  obtain ⟨d, -, hc⟩ := List.mem_flatMap.1 hc
  exact noControl_escape d c hc

theorem noControl_scalar (value : Scalar) : NoControl value.write := by
  cases value with
  | null => decide
  | string text => exact noControl_writeString text
  | number n =>
      intro c hc
      have hdigit := Nat.isDigit_of_mem_toDigits (by decide) (by decide) hc
      have hzero : '0'.toNat ≤ c.toNat :=
        of_decide_eq_true (Bool.and_eq_true_iff.1 hdigit).1
      exact Nat.le_trans (by decide) hzero

theorem noControl_writeField (entry : Text × Scalar) :
    NoControl (writeField entry) := by
  unfold writeField
  rw [noControl_append, noControl_cons]
  exact ⟨noControl_writeString _, by decide, noControl_scalar _⟩

theorem noControl_writeFields (fields : Object) :
    NoControl (writeFields fields) := by
  induction fields with
  | nil => exact List.forall_mem_nil _
  | cons entry others ih =>
      cases others with
      | nil =>
          rw [writeFields_singleton]
          exact noControl_writeField entry
      | cons next others =>
          rw [writeFields_cons, noControl_append, noControl_cons]
          exact ⟨noControl_writeField entry, by decide, ih⟩

/-- A written object is one line of characters that show. -/
theorem noControl_write (fields : Object) : NoControl fields.write := by
  rw [write_eq_append, noControl_append, noControl_append]
  exact ⟨by decide, noControl_writeFields fields, by decide⟩

end Json

end QuartoLint
