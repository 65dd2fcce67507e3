/-
How the statements of a TOML document make one table.

While a document is read, a table remembers where it comes from: a header of
its own, a longer header that passes through it, or a dotted key that passes
through it. That decides who may still add to it. A header opens a table
once; it may open one that only longer headers have passed through so far. A
dotted key may pass through such a table too and may add to it, which makes
the table its own: no header opens it any more. To a table that a header has
opened a dotted key adds nothing. An array of tables grows by headers in
double brackets, and every path through it leads to its last table, but a
dotted key only adds to the tables within that one. What a single key has
been given as a value is closed, arrays and tables in it included.
-/
import QuartoLint.Toml.Value

namespace QuartoLint.Toml

/-- Where a table comes from. -/
inductive Origin
  | header
  | implied
  | dotted
deriving Repr, DecidableEq

/-- What stands under a key while the document is read. -/
inductive Node
  | value (value : Value)
  | table (origin : Origin) (entries : List (Text × Node))
  /-- An array of tables: the earlier ones, first one first, and the last. -/
  | tables (earlier : List (List (Text × Node))) (last : List (Text × Node))
deriving Repr

/-- The keys of a table and what stands under them, in the order of the
document. -/
abbrev Entries := List (Text × Node)

namespace Entries

-- ========================================================== changing keys

/-- Changes what stands under a key, or puts something there. The change may
be refused. -/
def alter (key : Text) (change : Option Node → Option Node) :
    Entries → Option Entries
  | [] => (change none).map fun node => [(key, node)]
  | (other, node) :: rest =>
    if other == key then (change (some node)).map fun node => (key, node) :: rest
    else (alter key change rest).map ((other, node) :: ·)

/-- Makes a change in the table that a header path leads to. -/
def within (change : Entries → Option Entries) :
    (path : List Text) → Entries → Option Entries
  | [], entries => change entries
  | key :: path, entries =>
    entries.alter key fun
      | none => (within change path []).map (.table .implied)
      | some (.table origin inner) =>
        (within change path inner).map (.table origin)
      | some (.tables earlier last) =>
        (within change path last).map (.tables earlier)
      | some (.value _) => none

def openTable (key : Text) (entries : Entries) : Option Entries :=
  entries.alter key fun
    | none => some (.table .header [])
    | some (.table .implied inner) => some (.table .header inner)
    | some _ => none

/-- Adds a table to the array of tables of a header. -/
def openElement (key : Text) (entries : Entries) : Option Entries :=
  entries.alter key fun
    | none => some (.tables [] [])
    | some (.tables earlier last) => some (.tables (earlier ++ [last]) [])
    | some _ => none

def put (key : Text) (value : Value) (entries : Entries) : Option Entries :=
  entries.alter key fun
    | none => some (.value value)
    | some _ => none

/-- Gives a value to the last key of a dotted key, in the table that the keys
before it lead to. That table is the dotted key's own from then on. -/
def putDotted (key : Text) (value : Value) :
    (path : List Text) → Entries → Option Entries
  | [], entries => entries.put key value
  | step :: path, entries =>
    entries.alter step fun
      | none => (putDotted key value path []).map (.table .dotted)
      | some (.table origin inner) =>
        if origin == .header then none
        else
          (putDotted key value path inner).map
            (.table (if path.isEmpty then .dotted else origin))
      | some (.tables earlier last) =>
        if path.isEmpty then none
        else (putDotted key value path last).map (.tables earlier)
      | some (.value _) => none

end Entries

-- ============================================================== the table

mutual

/-- The value that a node stands for when the document has been read. -/
def Node.toValue : Node → Value
  | .value given => given
  | .table _ entries => .table (Node.tableOf entries)
  | .tables earlier last =>
    .array (Node.tablesOf earlier ++ [.table (Node.tableOf last)])

def Node.tableOf : List (Text × Node) → Table
  | [] => []
  | (key, node) :: rest => (key, node.toValue) :: Node.tableOf rest

/-- The tables of an array of tables. -/
def Node.tablesOf : List (List (Text × Node)) → List Value
  | [] => []
  | entries :: rest => .table (Node.tableOf entries) :: Node.tablesOf rest

end

def Entries.toTable (entries : Entries) : Table :=
  Node.tableOf entries

end QuartoLint.Toml
