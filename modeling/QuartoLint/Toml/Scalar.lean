/-
Numbers, truth values, dates and times in TOML text.

All of these are written without quotes, as one run of letters, digits and
the signs `+ - . : _`; a date and a time may have a single space between
them. An underscore may stand between two digits. A decimal integer has no
leading zero; only a decimal number may have a sign; a float has a fraction,
an exponent or both, with digits on either side of its point. A date has to
be a day of the calendar, a minute may have a second numbered sixty, and the
seconds may be left out.
-/
import QuartoLint.Toml.Strings
import QuartoLint.Toml.Value

namespace QuartoLint.Toml

-- ================================================================ digits

/-- The digits of a run of digits in which single underscores may stand
between two digits. -/
def digitRun? (base : Nat) (text : Text) : Option Text :=
  let groups := text.splitOn '_'
  let digits := groups.flatten
  if groups.all (fun group => !group.isEmpty)
      && digits.all (fun c => (Text.digitValue? base c).isSome) then
    some digits
  else none

/-- The digits of a whole decimal number, which has no leading zero. -/
def wholeRun? (text : Text) : Option Text :=
  (digitRun? 10 text).filter fun digits =>
    digits.length == 1 || digits.head? != some '0'

/-- A sign, if the text has one, and what follows: `true` for a minus. -/
def splitSign : Text → Option Bool × Text
  | '+' :: rest => (some false, rest)
  | '-' :: rest => (some true, rest)
  | text => (none, text)

-- =============================================================== numbers

/-- An integer in one of the bases that a letter behind a zero announces. -/
def basedInteger? : Text → Option Nat
  | '0' :: 'x' :: rest => digitRun? 16 rest >>= Text.ofDigits? 16
  | '0' :: 'o' :: rest => digitRun? 8 rest >>= Text.ofDigits? 8
  | '0' :: 'b' :: rest => digitRun? 2 rest >>= Text.ofDigits? 2
  | _ => none

def decimalInteger? (text : Text) : Option Int := do
  let (sign, rest) := splitSign text
  let n ← wholeRun? rest >>= Text.ofDigits? 10
  return if sign == some true then -(n : Int) else n

/-- An integer in any base. -/
def integer? (text : Text) : Option Int :=
  ((basedInteger? text).map Int.ofNat).or (decimalInteger? text)

/-- The power of ten behind the letter of an exponent. -/
def exponent? (text : Text) : Option Int := do
  let (sign, rest) := splitSign text
  let n ← digitRun? 10 rest >>= Text.ofDigits? 10
  return if sign == some true then -(n : Int) else n

/-- The digits behind the point. -/
def fraction? : Text → Option Text
  | [] => some []
  | _ :: rest => digitRun? 10 rest

/-- A decimal number with a point or an exponent. -/
def finite? (negative : Bool) (text : Text) : Option Decimal := do
  let isLetter (c : Char) := c == 'e' || c == 'E'
  let mantissa := text.takeWhile (!isLetter ·)
  let scale := text.dropWhile (!isLetter ·)
  let whole := mantissa.takeWhile (· != '.')
  let point := mantissa.dropWhile (· != '.')
  guard (!(scale.isEmpty && point.isEmpty))
  let whole ← wholeRun? whole
  let fraction ← fraction? point
  let exponent ← if scale.isEmpty then some 0 else exponent? scale.tail
  return ⟨negative, ← Text.ofDigits? 10 (whole ++ fraction),
    exponent - fraction.length⟩

/-- A float: a finite one, an infinity or no number at all. -/
def float? (text : Text) : Option FloatLiteral :=
  let (sign, rest) := splitSign text
  let negative := sign == some true
  if rest == "nan".toList then some .notANumber
  else if rest == "inf".toList then some (.infinity negative)
  else (finite? negative rest).map .finite

-- ======================================================== dates and times

/-- Whether February has a twenty-ninth day. -/
def isLeapYear (year : Nat) : Bool :=
  (year % 4 == 0 && year % 100 != 0) || year % 400 == 0

def daysIn (year month : Nat) : Nat :=
  if month == 2 then if isLeapYear year then 29 else 28
  else if month ∈ [4, 6, 9, 11] then 30
  else 31

/-- Takes a number of exactly `count` digits that lies in the range. -/
def digitsWithin (count low high : Nat) : Parser Nat := do
  let (n, rest) ← StateT.lift (Text.fixedDigits? 10 count (← get))
  guard (low ≤ n && n ≤ high)
  set rest
  return n

/-- Takes a day of the calendar. -/
def date : Parser Unit := do
  let year ← digitsWithin 4 0 9999
  Parser.expect ['-']
  let month ← digitsWithin 2 1 12
  Parser.expect ['-']
  discard (digitsWithin 2 1 (daysIn year month))

/-- Takes the seconds of a time, which may have decimal places. -/
def seconds : Parser Unit := do
  discard (digitsWithin 2 0 60)
  if ← Parser.accept ['.'] then
    let places ← Parser.takeWhile Char.isDigit
    guard !places.isEmpty

/-- Takes a time of day. -/
def time : Parser Unit := do
  discard (digitsWithin 2 0 23)
  Parser.expect [':']
  discard (digitsWithin 2 0 59)
  if ← Parser.accept [':'] then seconds

/-- Takes the distance from universal time. -/
def offset : Parser Unit := do
  unless (← Parser.accept ['Z']) || (← Parser.accept ['z']) do
    guard ((← Parser.accept ['+']) || (← Parser.accept ['-']))
    discard (digitsWithin 2 0 23)
    Parser.expect [':']
    discard (digitsWithin 2 0 59)

/-- Takes a date, a time, or both and perhaps an offset. -/
def dateTime : Parser Unit := do
  if (← get)[2]? == some ':' then time
  else
    date
    unless ← Parser.atEnd do
      guard ((← Parser.accept ['T']) || (← Parser.accept ['t'])
        || (← Parser.accept [' ']))
      time
      unless ← Parser.atEnd do offset

-- ================================================================ values

/-- The characters of a value without quotes. -/
def isScalarChar (c : Char) : Bool :=
  c.isAlphanum || c == '+' || c == '-' || c == '.' || c == ':' || c == '_'

/-- The value that a text without quotes denotes. -/
def scalarOf? (text : Text) : Option Value :=
  if text == "true".toList then some (.boolean true)
  else if text == "false".toList then some (.boolean false)
  else if (dateTime.all? text).isSome then some .datetime
  else ((integer? text).map .integer).or ((float? text).map .float)

/-- Takes the text of a value without quotes. A date takes the time with it
that follows behind a single space. -/
def scalarText : Parser Text := do
  let run ← Parser.takeWhile isScalarChar
  match ← get with
  | ' ' :: c :: rest =>
    if c.isDigit && (date.all? run).isSome then
      set (c :: rest)
      return run ++ ' ' :: (← Parser.takeWhile isScalarChar)
    else return run
  | _ => return run

/-- Reads a value without quotes. -/
def scalar : Parser Value := do
  StateT.lift (scalarOf? (← scalarText))

end QuartoLint.Toml
