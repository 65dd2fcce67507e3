/-
TOML documents.

A document is a run of lines. Each holds a header, a key with its value, or
nothing but blanks and a comment. The lines make one table, which is refused
if a key comes twice or a table is opened twice. Arrays and inline tables
may be spread over lines, though not within a key, and may be nested, up to
a fixed depth. The number of parts of a key is bounded too. Numbers may be of
any size.
-/
import QuartoLint.Toml.Assembly
import QuartoLint.Toml.Scalar

namespace QuartoLint.Toml

-- ================================================================== keys

/-- Reads one part of a key. -/
def simpleKey : Parser Text := do
  match ← quoted? keyQuotings with
  | some key => return key
  | none =>
    let key ← Parser.takeWhile isBareKeyChar
    guard !key.isEmpty
    return key

/-- The most parts that a key may have. -/
def maxKeyParts : Nat := 80

/-- Reads a key, the parts of which have a dot between them, and the blanks
behind it. -/
def dottedKey : Parser (List Text) := do
  let key ← Parser.chain (skipSpaces *> simpleKey <* skipSpaces)
    (Parser.accept ['.'])
  guard (key.length ≤ maxKeyParts)
  return key

/-- Reads a key and its value, as the path before the last part of the key,
this part, and the value; `gap` takes what may stand on either side of the
equals sign. -/
def keyValue (gap : Parser Unit) (value : Parser Value) :
    Parser (List Text × Text × Value) := do
  let key ← dottedKey
  gap
  Parser.expect ['=']
  gap
  let value ← value
  return (key.dropLast, ← StateT.lift key.getLast?, value)

-- ================================================================ values

/-- The most arrays and inline tables that may lie within one another. -/
def maxDepth : Nat := 80

/-- Reads a value that has no parts. -/
def atom : Parser Value := do
  match ← quoted? stringQuotings with
  | some text => return .string text
  | none => scalar

/-- Takes the comma behind an item and tells whether another item follows it;
where none does, takes the closing bracket. -/
def anotherItem (bracket : Char) : Parser Bool := do
  skipLayout
  if ← Parser.accept [','] then
    skipLayout
    return !(← Parser.accept [bracket])
  else
    Parser.expect [bracket]
    return false

/-- Reads the items behind an opening bracket, up to the closing one. -/
def items {α : Type} (bracket : Char) (item : Parser α) : Parser (List α) := do
  skipLayout
  if ← Parser.accept [bracket] then return []
  else Parser.chain item (anotherItem bracket)

/-- Reads the entries of an inline table and puts them together. -/
def inlineTable (value : Parser Value) : Parser Table := do
  let pairs ← items '}' (keyValue skipLayout value)
  let entries ← StateT.lift <| pairs.foldlM
    (fun entries (path, key, value) =>
      Entries.putDotted key value path entries) []
  return Entries.toTable entries

/-- Reads a value in which at most `depth` arrays and inline tables lie within
one another. -/
def value : (depth : Nat) → Parser Value
  | 0 => atom
  | depth + 1 => do
    if ← Parser.accept ['['] then
      return .array (← items ']' (value depth))
    else if ← Parser.accept ['{'] then
      return .table (← inlineTable (value depth))
    else atom

-- ============================================================ statements

/-- What a line of a document says. -/
inductive Statement
  | blank
  | table (path : List Text)
  | element (path : List Text)
  /-- Gives a key of the table opened last a value. -/
  | pair (path : List Text) (key : Text) (value : Value)

def statement : Parser Statement := do
  skipSpaces
  match ← Parser.peek? with
  | none | some '#' | some '\n' | some '\r' => return .blank
  | _ =>
    if ← Parser.accept ['[', '['] then
      let path ← dottedKey
      Parser.expect [']', ']']
      return .element path
    else if ← Parser.accept ['['] then
      let path ← dottedKey
      Parser.expect [']']
      return .table path
    else
      let (path, key, value) ← keyValue skipSpaces (value maxDepth)
      return .pair path key value

def statements : Parser (List Statement) :=
  Parser.chain (statement <* finishLine)
    (do return !(← Parser.atEnd))

-- ============================================================== documents

/-- A document that has been read in part: its entries, and the path of the
table opened last. -/
structure Draft where
  entries : Entries
  opened : List Text

namespace Draft

def empty : Draft := ⟨[], []⟩

/-- Makes a change behind all but the last key of a path, and opens the
path. -/
def openWith (draft : Draft) (path : List Text)
    (change : Text → Entries → Option Entries) : Option Draft := do
  let key ← path.getLast?
  return ⟨← draft.entries.within (change key) path.dropLast, path⟩

def add (draft : Draft) : Statement → Option Draft
  | .blank => some draft
  | .table path => draft.openWith path Entries.openTable
  | .element path => draft.openWith path Entries.openElement
  | .pair path key value =>
    (draft.entries.within (Entries.putDotted key value path) draft.opened).map
      fun entries => { draft with entries }

end Draft

/-- The text without the byte order mark that may stand at its start. -/
def withoutMark : Text → Text
  | '\uFEFF' :: rest => rest
  | text => text

/-- The table of a document, if the text is one. -/
def parse? (text : Text) : Option Table := do
  let (lines, _) ← statements (withoutMark text)
  let draft ← lines.foldlM Draft.add .empty
  return draft.entries.toTable

end QuartoLint.Toml
