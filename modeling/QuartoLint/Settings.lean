/-
Settings: what a config file may say.

A config file is a table with two keys that may both be left out: `format`
names an output format, and `exit_zero` is a truth value. The keys of the
table are taken in ascending order, whatever their order in the file, and
the first problem met is the one reported.

A format may also be written as a table with the name of the format as its
only key and an empty array or table under it.
-/
import QuartoLint.Decimal.Binary64
import QuartoLint.Output
import QuartoLint.Text.Order
import QuartoLint.Text.Quoted
import QuartoLint.Toml.Value

namespace QuartoLint

/-- What a config file says; what it leaves open is absent. -/
structure Settings where
  format : Option OutputFormat
  exitZero : Option Bool
deriving Repr, DecidableEq

namespace Settings

def empty : Settings := ⟨none, none⟩

def formatKey : Text := "format".toList

/-- The key that decides whether findings count. -/
def exitZeroKey : Text := "exit_zero".toList

-- ============================================================== problems

/-- What can be wrong with the content of a config file. -/
inductive Problem
  | unknownField (key : Text)
  /-- A name that is no format's. -/
  | unknownFormat (name : Text)
  /-- A format that is neither a string nor a table. -/
  | formatKind
  /-- A format that is a table without a key. -/
  | noFormat
  /-- A format that is a table with several keys. -/
  | severalFormats
  /-- Something in the array under a format's name. -/
  | arrayNotEmpty
  /-- Something in the table under a format's name. -/
  | tableNotEmpty
  /-- Neither an array nor a table under a format's name. -/
  | noTable (found : Text)
  /-- Something other than a truth value, in words. -/
  | noBoolean (found : Text)
deriving Repr, DecidableEq

namespace Problem

/-- A text between backticks. -/
def ticked (text : Text) : Text := '`' :: text ++ ['`']

def message : Problem → Text
  | unknownField key =>
    "unknown field ".toList ++ ticked key
      ++ ", expected `format` or `exit_zero`".toList
  | unknownFormat name =>
    "unknown variant ".toList ++ ticked name
      ++ ", expected `text` or `json`".toList
  | formatKind => "wanted string or table".toList
  | noFormat => "wanted exactly 1 element, found 0 elements".toList
  | severalFormats => "wanted exactly 1 element, more than 1 element".toList
  | arrayNotEmpty => "expected empty array".toList
  | tableNotEmpty => "expected empty table".toList
  | noTable found => "expected table, found ".toList ++ found
  | noBoolean found =>
    "invalid type: ".toList ++ found ++ ", expected a boolean".toList

end Problem

-- ====================================================== values in words

/-- The digits of an integer with its sign. -/
def integerText : Int → Text
  | .ofNat n => Nat.toDigits 10 n
  | .negSucc n => '-' :: Nat.toDigits 10 (n + 1)

def infinityText (negative : Bool) : Text :=
  if negative then "-inf".toList else "inf".toList

/-- The digits of a float. A finite number that is too large is read as
infinite. -/
def floatText : Toml.FloatLiteral → Text
  | .notANumber => "NaN".toList
  | .infinity negative => infinityText negative
  | .finite value => value.binary64Text?.getD (infinityText value.negative)

/-- What a value is, in words. -/
def describe : Toml.Value → Text
  | .string text => "string ".toList ++ Text.quoted text
  | .integer n => "integer ".toList ++ Problem.ticked (integerText n)
  | .float literal =>
    "floating point ".toList ++ Problem.ticked (floatText literal)
  | .boolean b => "boolean ".toList ++ Problem.ticked (toString b).toList
  | .array _ => "sequence".toList
  | .datetime | .table _ => "map".toList

/-- The name of the kind of a value. -/
def kindName : Toml.Value → Text
  | .string _ => "string".toList
  | .integer _ => "integer".toList
  | .float _ => "float".toList
  | .boolean _ => "boolean".toList
  | .datetime => "datetime".toList
  | .array _ => "array".toList
  | .table _ => "table".toList

-- ================================================================ fields

def formatNamed (name : Text) : Except Problem OutputFormat :=
  match OutputFormat.ofName? name with
  | some format => .ok format
  | none => .error (.unknownFormat name)

/-- What may stand under the name of a format. -/
def checkEmpty : Toml.Value → Except Problem Unit
  | .array items => if items.isEmpty then .ok () else .error .arrayNotEmpty
  | .table entries => if entries.isEmpty then .ok () else .error .tableNotEmpty
  | value => .error (.noTable (kindName value))

def readFormat : Toml.Value → Except Problem OutputFormat
  | .string name => formatNamed name
  | .table [] => .error .noFormat
  | .table [(name, under)] => do
    let format ← formatNamed name
    checkEmpty under
    return format
  | .table _ => .error .severalFormats
  | _ => .error .formatKind

def readExitZero : Toml.Value → Except Problem Bool
  | .boolean b => .ok b
  | value => .error (.noBoolean (describe value))

/-- Adds what one entry says. -/
def add (settings : Settings) (entry : Text × Toml.Value) :
    Except Problem Settings :=
  if entry.1 = formatKey then
    (readFormat entry.2).map fun format =>
      { settings with format := some format }
  else if entry.1 = exitZeroKey then
    (readExitZero entry.2).map fun exitZero =>
      { settings with exitZero := some exitZero }
  else .error (.unknownField entry.1)

/-- The entries in ascending order of their keys. -/
def sorted (table : Toml.Table) : Toml.Table :=
  table.mergeSort fun entry other => Text.atMost entry.1 other.1

/-- Sorting neither adds nor drops an entry. -/
theorem sorted_perm (table : Toml.Table) : (sorted table).Perm table :=
  List.mergeSort_perm ..

/-- No key is followed by a lesser one. -/
theorem pairwise_sorted (table : Toml.Table) :
    (sorted table).Pairwise fun entry other =>
      Text.atMost entry.1 other.1 = true :=
  List.pairwise_mergeSort
    (fun first second third => Text.atMost_trans
      (s := first.1) (t := second.1) (u := third.1))
    (fun entry other => Text.atMost_total entry.1 other.1) table

/-- The settings that a table holds. -/
def ofTable (table : Toml.Table) : Except Problem Settings :=
  (sorted table).foldlM add empty

end Settings

end QuartoLint
