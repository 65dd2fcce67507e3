/-
Strings in TOML text.

A string stands between quotes of one kind. Double quotes admit escapes,
single quotes do not. Three quotes in place of one open a string over
several lines: a line end right behind the opening quotes is dropped, one or
two quotes may stand anywhere, also just before the closing ones, and a
backslash at the end of a line drops the line end and all blanks and line
ends up to the next other character. Line ends are kept as they are written.

Main statement: `length_le_of_escape?`, by which reading the characters of a
string comes to an end.
-/
import QuartoLint.Text.Digits
import QuartoLint.Toml.Layout

namespace QuartoLint.Toml

-- =============================================================== escapes

/-- The character whose code point stands next in exactly `count` digits. -/
def codePoint? (count : Nat) (text : Text) : Option (Text × Text) :=
  match Text.fixedDigits? 16 count text with
  | some (n, rest) =>
    if n.isValidChar then some ([Char.ofNat n], rest) else none
  | none => none

/-- The text behind blanks and line ends. -/
def afterBlankLines : Text → Text
  | '\r' :: '\n' :: rest => afterBlankLines rest
  | c :: rest =>
    if isSpace c || c == '\n' then afterBlankLines rest else c :: rest
  | [] => []

/-- The text behind the end of this line and the blanks and line ends that
follow; nothing else may stand on the line. -/
def afterLineBreak? (text : Text) : Option Text :=
  (lineEnd? (text.dropWhile isSpace)).map afterBlankLines

/-- What the text behind a backslash stands for, and the text behind that. -/
def escape? (multiline : Bool) : Text → Option (Text × Text)
  | 'b' :: rest => some (['\x08'], rest)
  | 't' :: rest => some (['\t'], rest)
  | 'n' :: rest => some (['\n'], rest)
  | 'f' :: rest => some (['\x0c'], rest)
  | 'r' :: rest => some (['\r'], rest)
  | 'e' :: rest => some (['\x1b'], rest)
  | '"' :: rest => some (['"'], rest)
  | '\\' :: rest => some (['\\'], rest)
  | 'x' :: rest => codePoint? 2 rest
  | 'u' :: rest => codePoint? 4 rest
  | 'U' :: rest => codePoint? 8 rest
  | text =>
    if multiline then (afterLineBreak? text).map fun rest => ([], rest)
    else none

theorem length_le_of_codePoint? {count : Nat} {text chars rest : Text}
    (hread : codePoint? count text = some (chars, rest)) :
    rest.length ≤ text.length := by
  rw [codePoint?] at hread
  split at hread
  case h_1 n behind hdigits =>
    split at hread
    · cases hread
      have := Text.length_le_of_fixedDigits? hdigits
      omega
    · cases hread
  case h_2 => cases hread

/-- Passing over blank lines adds nothing to a text. -/
theorem length_afterBlankLines_le (text : Text) :
    (afterBlankLines text).length ≤ text.length := by
  fun_induction afterBlankLines text <;> simp_all <;> omega

theorem length_le_of_lineEnd? {text rest : Text}
    (hread : lineEnd? text = some rest) : rest.length ≤ text.length := by
  unfold lineEnd? at hread
  split at hread <;> cases hread <;> simp
  omega

theorem length_le_of_afterLineBreak? {text rest : Text}
    (hread : afterLineBreak? text = some rest) :
    rest.length ≤ text.length := by
  obtain ⟨behind, hend, rfl⟩ := Option.map_eq_some_iff.1 hread
  calc (afterBlankLines behind).length
      ≤ behind.length := length_afterBlankLines_le behind
    _ ≤ (text.dropWhile isSpace).length := length_le_of_lineEnd? hend
    _ ≤ text.length := (List.dropWhile_suffix isSpace).length_le

/-- Behind an escape there is no more text than behind its backslash. -/
theorem length_le_of_escape? {multiline : Bool} {text chars rest : Text}
    (hread : escape? multiline text = some (chars, rest)) :
    rest.length ≤ text.length := by
  unfold escape? at hread
  split at hread
  case h_9 | h_10 | h_11 =>
    have := length_le_of_codePoint? hread
    simp only [List.length_cons]
    omega
  case h_12 =>
    split at hread
    · obtain ⟨behind, hbreak, heq⟩ := Option.map_eq_some_iff.1 hread
      cases heq
      exact length_le_of_afterLineBreak? hbreak
    · cases hread
  all_goals
    cases hread
    simp

-- ============================================================== the body

/-- The quotes around a string. -/
structure Quoting where
  quote : Char
  multiline : Bool
deriving Repr, DecidableEq

namespace Quoting

/-- The quotes that open and close the string. -/
def mark (quoting : Quoting) : Text :=
  List.replicate (if quoting.multiline then 3 else 1) quoting.quote

/-- If the string is closed here, the quotes that still belong to it and the
text behind it. Of a run of quotes the last three close the string, and a
run of more than five is cut behind the fifth. -/
def close? (quoting : Quoting) (text : Text) : Option (Text × Text) :=
  if quoting.multiline then
    let run := (text.takeWhile (· == quoting.quote)).length
    if run < 3 then none
    else
      let inside := min run 5 - 3
      some (List.replicate inside quoting.quote, text.drop (inside + 3))
  else (Text.behind? quoting.mark text).map fun rest => ([], rest)

/-- Whether the character may stand for itself before the given text. -/
def admits (quoting : Quoting) (c : Char) (rest : Text) : Bool :=
  isPlain c
    || (quoting.multiline && (c == '\n' || (c == '\r' && rest.head? == some '\n')))

/-- Puts the reverse of `done` before the characters up to the closing quotes,
and gives the text behind these. -/
def bodyOnto (quoting : Quoting) (done : Text) (text : Text) :
    Option (Text × Text) :=
  match text with
  | [] => none
  | c :: rest =>
    match quoting.close? (c :: rest) with
    | some (quotes, behind) => some (done.reverse ++ quotes, behind)
    | none =>
      if quoting.quote == '"' && c == '\\' then
        match hread : escape? quoting.multiline rest with
        | some (chars, behind) =>
          have : behind.length ≤ rest.length := length_le_of_escape? hread
          quoting.bodyOnto (chars.reverse ++ done) behind
        | none => none
      else if quoting.admits c rest then quoting.bodyOnto (c :: done) rest
      else none
termination_by text.length
decreasing_by
  all_goals
    simp only [List.length_cons]
    omega

/-- The characters of a string whose opening quotes have been taken, up to its
closing quotes, which are taken too. -/
def body (quoting : Quoting) : Parser Text := fun text =>
  let text := if quoting.multiline then (lineEnd? text).getD text else text
  quoting.bodyOnto [] text

end Quoting

-- ============================================================ the string

/-- The quotes that may open a string, longest first. -/
def stringQuotings : List Quoting :=
  [⟨'"', true⟩, ⟨'\'', true⟩, ⟨'"', false⟩, ⟨'\'', false⟩]

/-- The quotes that may open a key. -/
def keyQuotings : List Quoting :=
  [⟨'"', false⟩, ⟨'\'', false⟩]

/-- Reads a string in the first of the given quotings that comes next; gives
nothing, and takes nothing, where none does. -/
def quoted? : List Quoting → Parser (Option Text)
  | [] => return none
  | quoting :: others => do
    if ← Parser.accept quoting.mark then return some (← quoting.body)
    else quoted? others

end QuartoLint.Toml
