/-
Values that can be represented.

A table is a TOML table whatever is in it, but not every table can be held by
a reader that takes each value for what it is. For that an integer has to fit
into 64 bits with its sign, and a float that is written as a finite number has
to be read as one. An array or a table can be represented if all values in it
can.

One key is reserved. A table whose least key is the reserved one stands for a
date or time, and the text of that has to stand under the key; the other
entries of such a table are not looked at. The table of a whole document
stands for nothing but itself, whatever its keys are.
-/
import QuartoLint.Decimal.Binary64
import QuartoLint.Text.Order
import QuartoLint.Toml.Scalar

namespace QuartoLint.Toml

-- =============================================================== numbers

def minInteger : Int := -0x8000000000000000

def maxInteger : Int := 0x7FFFFFFFFFFFFFFF

/-- Whether a float that is written as a finite number is read as one. -/
def FloatLiteral.isRepresentable : FloatLiteral → Bool
  | notANumber | infinity _ => true
  | finite value => (Binary64.ofDecimal? value).isSome

-- ======================================================= dates and times

/-- The key under which a table may give the text of a date or time. -/
def reservedKey : Text := "$__toml_private_datetime".toList

/-- What stands under the reserved key, if that is the least key. -/
def reserved? (entries : Table) : Option Value :=
  if entries.all fun (key, _) => Text.atMost reservedKey key then
    entries.lookup reservedKey
  else none

/-- Whether the value is a string that spells a date, a time or both. -/
def Value.spellsDatetime : Value → Bool
  | .string text => (dateTime.all? text).isSome
  | _ => false

-- ================================================================ values

mutual

def Value.isRepresentable : Value → Bool
  | .string _ | .boolean _ | .datetime => true
  | .integer n => minInteger ≤ n && n ≤ maxInteger
  | .float literal => literal.isRepresentable
  | .array items => Value.allRepresentable items
  | .table entries =>
    match reserved? entries with
    | some value => value.spellsDatetime
    | none => Value.allEntriesRepresentable entries

/-- Whether every one of the values can be represented. -/
def Value.allRepresentable : List Value → Bool
  | [] => true
  | value :: rest => value.isRepresentable && Value.allRepresentable rest

/-- Whether the value of every entry can be represented. -/
def Value.allEntriesRepresentable : List (Text × Value) → Bool
  | [] => true
  | (_, value) :: rest =>
    value.isRepresentable && Value.allEntriesRepresentable rest

end

/-- Whether the table of a whole document can be represented. -/
def Table.isRepresentable (table : Table) : Bool :=
  Value.allEntriesRepresentable table

/-- A table can be represented if the values of all its entries can. -/
theorem Table.isRepresentable_iff {table : Table} :
    table.isRepresentable = true
      ↔ ∀ entry ∈ table, entry.2.isRepresentable = true := by
  unfold Table.isRepresentable
  induction table with
  | nil => exact iff_of_true rfl (List.forall_mem_nil _)
  | cons entry rest ih =>
    rw [Value.allEntriesRepresentable, Bool.and_eq_true, ih,
      List.forall_mem_cons]

example : Table.isRepresentable [(['n'], .array [.integer (2 ^ 63)])] = false
    ∧ Table.isRepresentable [(['n'], .array [.integer (2 ^ 63 - 1)])] = true :=
  by decide

/-- The order of the entries does not matter. -/
theorem Table.isRepresentable_eq_of_perm {table other : Table}
    (hperm : other.Perm table) :
    other.isRepresentable = table.isRepresentable := by
  rw [Bool.eq_iff_iff, Table.isRepresentable_iff, Table.isRepresentable_iff]
  exact forall_congr' fun entry => by rw [hperm.mem_iff]

end QuartoLint.Toml
