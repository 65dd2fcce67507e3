/-
Reading JSON objects.

The reader takes every spelling that JSON allows for the objects it knows:
blanks between the parts, and in strings any escape, also one for a
character that could stand for itself. A character beyond U+FFFF may be
escaped as two surrogates; a surrogate by itself is refused, and so is a
control character below U+0020.
-/
import QuartoLint.Json.Basic
import QuartoLint.Parser
import QuartoLint.Text.Digits

namespace QuartoLint.Json

-- =============================================================== strings

/-- The character that two surrogates stand for. -/
def pairedSurrogates (high low : Nat) : Char :=
  Char.ofNat (0x10000 + (high - 0xD800) * 0x400 + (low - 0xDC00))

/-- The character that an escape in hexadecimal digits stands for, and the
text behind it. -/
def codeEscape? (text : Text) : Option (Char × Text) :=
  match Text.fixedDigits? 16 4 text with
  | none => none
  | some (code, rest) =>
    if code.isValidChar then some (Char.ofNat code, rest)
    else
      match Text.behind? ['\\', 'u'] rest >>= Text.fixedDigits? 16 4 with
      | none => none
      | some (low, rest) =>
        if code < 0xDC00 ∧ 0xDC00 ≤ low ∧ low < 0xE000 then
          some (pairedSurrogates code low, rest)
        else none

/-- The next character of a string, and the text behind it. -/
def nextChar? : Text → Option (Char × Text)
  | '\\' :: '"' :: rest => some ('"', rest)
  | '\\' :: '\\' :: rest => some ('\\', rest)
  | '\\' :: '/' :: rest => some ('/', rest)
  | '\\' :: 'b' :: rest => some ('\x08', rest)
  | '\\' :: 'f' :: rest => some ('\x0c', rest)
  | '\\' :: 'n' :: rest => some ('\n', rest)
  | '\\' :: 'r' :: rest => some ('\r', rest)
  | '\\' :: 't' :: rest => some ('\t', rest)
  | '\\' :: 'u' :: rest => codeEscape? rest
  | '\\' :: _ => none
  | '"' :: _ => none
  | c :: rest => if c.toNat < 0x20 then none else some (c, rest)
  | [] => none

theorem length_le_of_codeEscape? {text rest : Text} {c : Char}
    (hread : codeEscape? text = some (c, rest)) :
    rest.length ≤ text.length := by
  rw [codeEscape?] at hread
  split at hread
  · cases hread
  case h_2 code behind hcode =>
    have hfirst := Text.length_le_of_fixedDigits? hcode
    split at hread
    · cases hread
      omega
    · split at hread
      · cases hread
      case h_2 low after hlow =>
        obtain ⟨middle, hmark, hdigits⟩ := Option.bind_eq_some_iff.1 hlow
        have hsecond := Text.length_le_of_fixedDigits? hdigits
        have hbehind := Text.length_le_of_behind? hmark
        split at hread
        · obtain ⟨-, rfl⟩ := Prod.mk.inj (Option.some.inj hread)
          omega
        · cases hread

/-- Behind a character there is less text than with it. -/
theorem length_lt_of_nextChar? {text rest : Text} {c : Char}
    (hread : nextChar? text = some (c, rest)) : rest.length < text.length := by
  unfold nextChar? at hread
  split at hread
  case h_9 =>
    have := length_le_of_codeEscape? hread
    simp only [List.length_cons]
    omega
  case h_12 =>
    split at hread
    · cases hread
    · cases hread
      simp
  all_goals
    cases hread
    try simp only [List.length_cons]
    try omega

/-- Puts the reverse of `done` before the characters up to the closing quote,
and gives the text behind it. -/
def stringOnto (done : Text) (text : Text) : Option (Text × Text) :=
  match text with
  | '"' :: rest => some (done.reverse, rest)
  | text =>
    match hread : nextChar? text with
    | some (c, rest) =>
      have : rest.length < text.length := length_lt_of_nextChar? hread
      stringOnto (c :: done) rest
    | none => none
termination_by text.length

def string : Parser Text := do
  Parser.expect ['"']
  stringOnto []

-- =============================================================== objects

/-- The characters that may stand between the parts of an object. -/
def isGap (c : Char) : Bool :=
  c == ' ' || c == '\t' || c == '\n' || c == '\r'

/-- Takes the characters between two parts. -/
def skipGap : Parser Unit :=
  discard (Parser.takeWhile isGap)

/-- Reads a natural number, which has no leading zero. -/
def number : Parser Nat := do
  let digits ← Parser.takeWhile Char.isDigit
  guard (digits == ['0'] || (!digits.isEmpty && digits.head? != some '0'))
  StateT.lift (Text.ofDigits? 10 digits)

def scalar : Parser Scalar := do
  match ← Parser.peek? with
  | some '"' => return .string (← string)
  | some 'n' =>
    Parser.expect ['n', 'u', 'l', 'l']
    return .null
  | _ => return .number (← number)

/-- Reads a field, and takes the gaps around it. -/
def field : Parser (Text × Scalar) := do
  skipGap
  let name ← string
  skipGap
  Parser.expect [':']
  skipGap
  let value ← scalar
  skipGap
  return (name, value)

/-- Tells whether another field follows; where none does, takes the closing
brace. -/
def anotherField : Parser Bool := do
  if ← Parser.accept [','] then return true
  else
    Parser.expect ['}']
    return false

/-- Reads an object, and takes the gaps around it. -/
def object : Parser Object := do
  skipGap
  Parser.expect ['{']
  skipGap
  let fields ←
    if ← Parser.accept ['}'] then pure []
    else Parser.chain field anotherField
  skipGap
  return fields

/-- The object that a text spells. -/
def read? (text : Text) : Option Object :=
  Parser.all? object text

end QuartoLint.Json
