/-
What the entries of a config file come to.

The settings in a config file are those that its entries say, if nothing is
wrong with any entry. Otherwise they are refused, and the problem is that of
the entry with the least key among those that something is wrong with. In
which order the file has its entries makes no difference
(`Settings.ofTable_by_entries`).

# One entry

An entry says something about the settings (`Fits`), or something is wrong
with it (`Offends`), and which of the two it is does not depend on what the
other entries said before (`exists_add_of_fits`, `add_of_offends`).

# All entries

The entries are taken one by one until something is wrong with one. What they
have said so far are the settings at that point (`foldlM_add_cases`), where it
matters that no key comes twice, because an entry would replace what another
one with its key had said. As they are taken in the order of their keys, the
first entry that something is wrong with is the one with the least key
(`LeastOffence.of_first`). Their order is told by the keys alone, so entries
in another order come to the same (`sorted_eq_of_perm`).

# What can be represented

Whether the table of a file can be represented matters only to what is said
of it when it is refused. No table is accepted that cannot
(`isRepresentable_of_ofTable`), and the order of the entries has no part in
this either, so two files with the same entries are refused in the same words
(`load_eq_of_listSameEntries`).
-/
import QuartoLint.Config
import QuartoLint.Proofs.Batch.OneFile
import QuartoLint.Proofs.Toml.Keys

namespace QuartoLint

namespace Settings

open Toml (HasDistinctKeys mem_concat_of_new mem_concat_of_ne)

-- ============================================================== one entry

/-- What is wrong with an entry. The name of a format may stand under the key
of the format, a truth value under that of the exit status, and nothing under
any other key. -/
inductive Offends (entry : Text × Toml.Value) : Problem → Prop
  | unknownField (hformat : entry.1 ≠ "format".toList)
      (hexitZero : entry.1 ≠ "exit_zero".toList) :
      Offends entry (.unknownField entry.1)
  | unknownFormat {name : Text} (hkey : entry.1 = "format".toList)
      (hvalue : entry.2 = .string name) (htext : name ≠ "text".toList)
      (hjson : name ≠ "json".toList) : Offends entry (.unknownFormat name)
  | formatKind (hkey : entry.1 = "format".toList)
      (hstring : ∀ name, entry.2 ≠ .string name)
      (htable : ∀ inner, entry.2 ≠ .table inner) : Offends entry .formatKind
  | noBoolean (hkey : entry.1 = "exit_zero".toList)
      (hvalue : ∀ b, entry.2 ≠ .boolean b) :
      Offends entry (.noBoolean (describe entry.2))

/-- An entry that says something about the settings. -/
inductive Fits : Text × Toml.Value → Prop
  | format (format : OutputFormat) :
      Fits ("format".toList, .string format.name)
  | exitZero (b : Bool) : Fits ("exit_zero".toList, .boolean b)

/-- Whether the settings are what the entries say, and no more. -/
structure IsSaidBy (settings : Settings) (table : Toml.Table) : Prop where
  format : ∀ format, settings.format = some format
    ↔ ("format".toList, .string format.name) ∈ table
  exitZero : ∀ b, settings.exitZero = some b
    ↔ ("exit_zero".toList, .boolean b) ∈ table

variable {settings : Settings} {entry : Text × Toml.Value}
  {table other : Toml.Table} {problem : Problem}

theorem format_ne_exitZero : "format".toList ≠ "exit_zero".toList := by
  decide

/-- Under its key stands a format, which is read and kept. -/
theorem add_format (settings : Settings) (value : Toml.Value) :
    add settings ("format".toList, value)
      = (readFormat value).map fun format =>
          { settings with format := some format } :=
  if_pos rfl

/-- Under its key stands a boolean, which is read and kept. -/
theorem add_exitZero (settings : Settings) (value : Toml.Value) :
    add settings ("exit_zero".toList, value)
      = (readExitZero value).map fun exitZero =>
          { settings with exitZero := some exitZero } :=
  (if_neg format_ne_exitZero.symm).trans (if_pos rfl)

/-- Under no other key may anything stand. -/
theorem add_of_ne {key : Text} (hformat : key ≠ "format".toList)
    (hexitZero : key ≠ "exit_zero".toList) (settings : Settings)
    (value : Toml.Value) :
    add settings (key, value) = .error (.unknownField key) :=
  (if_neg hformat).trans (if_neg hexitZero)

/-- An entry that something is wrong with is refused for that, whatever was
said before. -/
theorem add_of_offends (hoffends : Offends entry problem) :
    add settings entry = .error problem := by
  obtain ⟨key, value⟩ := entry
  cases hoffends with
  | unknownField hformat hexitZero => exact add_of_ne hformat hexitZero ..
  | unknownFormat hkey hvalue htext hjson =>
      dsimp only at hkey hvalue
      rw [hkey, hvalue, add_format, readFormat, formatNamed,
        OutputFormat.ofName?_eq_none_iff.2 ⟨htext, hjson⟩]
      rfl
  | formatKind hkey hstring htable =>
      dsimp only at hkey hstring htable
      rw [hkey, add_format]
      cases value with
      | string name => exact absurd rfl (hstring name)
      | table inner => exact absurd rfl (htable inner)
      | _ => rfl
  | noBoolean hkey hvalue =>
      dsimp only at hkey hvalue
      rw [hkey, add_exitZero]
      cases value with
      | boolean b => exact absurd rfl (hvalue b)
      | _ => rfl

/-- An entry that fits and has a new key adds what it says to what has been
said before. -/
theorem exists_add_of_fits (hfits : Fits entry)
    (hnew : entry.1 ∉ table.map Prod.fst) (hsaid : settings.IsSaidBy table) :
    ∃ next, add settings entry = .ok next
      ∧ next.IsSaidBy (table ++ [entry]) := by
  cases hfits with
  | format format =>
      refine ⟨{ settings with format := some format }, ?_, ?_, ?_⟩
      · rw [add_format, readFormat, formatNamed, OutputFormat.ofName?_name]
        rfl
      · intro named
        rw [mem_concat_of_new hnew, Option.some.injEq,
          Toml.Value.string.injEq, eq_comm]
        exact ⟨congrArg OutputFormat.name, OutputFormat.name_injective⟩
      · intro b
        rw [mem_concat_of_ne format_ne_exitZero.symm]
        exact hsaid.exitZero b
  | exitZero b =>
      refine ⟨{ settings with exitZero := some b }, ?_, ?_, ?_⟩
      · rw [add_exitZero]
        rfl
      · intro named
        rw [mem_concat_of_ne format_ne_exitZero]
        exact hsaid.format named
      · intro found
        rw [mem_concat_of_new hnew, Option.some.injEq,
          Toml.Value.boolean.injEq, eq_comm]

theorem isSaidBy_nil : empty.IsSaidBy [] :=
  ⟨fun _ => iff_of_false nofun List.not_mem_nil,
    fun _ => iff_of_false nofun List.not_mem_nil⟩

/-- Nothing is wrong with an entry that fits. -/
theorem Fits.not_offends (hfits : Fits entry) : ¬ Offends entry problem := by
  intro hoffends
  obtain ⟨next, hadd, -⟩ :=
    exists_add_of_fits hfits List.not_mem_nil isSaidBy_nil
  rw [add_of_offends hoffends] at hadd
  cases hadd

/-- An entry fits or something is wrong with it, a table as the format left
aside. -/
theorem fits_or_offends
    (htable : ∀ inner, entry ≠ ("format".toList, .table inner)) :
    Fits entry ∨ ∃ problem, Offends entry problem := by
  obtain ⟨key, value⟩ := entry
  by_cases hformat : key = "format".toList
  · subst hformat
    cases value with
    | string name =>
        cases hnamed : OutputFormat.ofName? name with
        | none =>
            obtain ⟨htext, hjson⟩ := OutputFormat.ofName?_eq_none_iff.1 hnamed
            exact .inr ⟨_, .unknownFormat rfl rfl htext hjson⟩
        | some format =>
            rw [OutputFormat.ofName?_eq_some_iff.1 hnamed]
            exact .inl (.format format)
    | table inner => exact absurd rfl (htable inner)
    | _ => exact .inr ⟨_, .formatKind rfl nofun nofun⟩
  · by_cases hexitZero : key = "exit_zero".toList
    · subst hexitZero
      cases value with
      | boolean b => exact .inl (.exitZero b)
      | _ => exact .inr ⟨_, .noBoolean rfl nofun⟩
    · exact .inr ⟨_, .unknownField hformat hexitZero⟩

-- ============================================================= all entries

/-- Whether the problem is that of the first entry that something is wrong
with. -/
def FirstOffence (table : Toml.Table) (problem : Problem) : Prop :=
  ∃ before entry behind, table = before ++ entry :: behind
    ∧ (∀ other ∈ before, Fits other) ∧ Offends entry problem

/-- Whether the entry has the least key of those that something is wrong with,
and the problem is that of this entry. -/
structure LeastOffence (table : Toml.Table) (entry : Text × Toml.Value)
    (problem : Problem) : Prop where
  mem : entry ∈ table
  offends : Offends entry problem
  least : ∀ other ∈ table, ∀ otherProblem, Offends other otherProblem →
    Text.atMost entry.1 other.1 = true

/-- The entries are taken up to the first that something is wrong with; what
those before it have said is kept. -/
theorem foldlM_add_cases {before : Toml.Table}
    (hkeys : HasDistinctKeys (before ++ table))
    (htable : ∀ inner, ("format".toList, .table inner) ∉ table)
    (hsaid : settings.IsSaidBy before) :
    (∃ result, table.foldlM add settings = .ok result
        ∧ result.IsSaidBy (before ++ table) ∧ ∀ entry ∈ table, Fits entry)
      ∨ ∃ problem, table.foldlM add settings = .error problem
        ∧ FirstOffence table problem := by
  -- `before` grows by each entry that fits, and `settings` is what it said
  induction table generalizing before settings with
  | nil =>
      rw [List.append_nil]
      exact .inl ⟨settings, rfl, hsaid, List.forall_mem_nil _⟩
  | cons entry rest ih =>
      rw [List.foldlM_cons]
      have hentry : ∀ inner, entry ≠ ("format".toList, .table inner) := by
        intro inner hsame
        exact htable inner (hsame ▸ List.mem_cons_self)
      rcases fits_or_offends hentry with hfits | ⟨problem, hoffends⟩
      · obtain ⟨next, hadd, hnext⟩ :=
          exists_add_of_fits hfits hkeys.key_notMem hsaid
        rw [hadd]
        rw [List.append_cons] at hkeys
        have hrest : ∀ inner, ("format".toList, .table inner) ∉ rest :=
          fun inner hmem => htable inner (List.mem_cons_of_mem _ hmem)
        rcases ih hkeys hrest hnext with ⟨result, hrun, hresult, hall⟩
          | ⟨problem, hrun, front, offending, behind, rfl, hfront, hoffends⟩
        · refine .inl ⟨result, hrun, ?_, List.forall_mem_cons.2 ⟨hfits, hall⟩⟩
          rw [List.append_cons]
          exact hresult
        · exact .inr ⟨problem, hrun, entry :: front, offending, behind, rfl,
            List.forall_mem_cons.2 ⟨hfits, hfront⟩, hoffends⟩
      · rw [add_of_offends hoffends]
        exact .inr ⟨problem, rfl, [], entry, rest, rfl,
          List.forall_mem_nil _, hoffends⟩

/-- Among entries in the order of their keys, the first that something is wrong
with has the least key. -/
theorem LeastOffence.of_first
    (hsorted : table.Pairwise fun entry other =>
      Text.atMost entry.1 other.1 = true)
    (hfirst : FirstOffence table problem) :
    ∃ entry, LeastOffence table entry problem := by
  obtain ⟨before, entry, behind, rfl, hbefore, hoffends⟩ := hfirst
  refine ⟨entry, List.mem_append_right _ List.mem_cons_self, hoffends, ?_⟩
  intro other hother otherProblem hwrong
  -- before it nothing is wrong, and behind it keys are not lesser
  rcases List.mem_append.1 hother with hmem | hmem
  · exact absurd hwrong (hbefore other hmem).not_offends
  · rcases List.mem_cons.1 hmem with rfl | hmem
    · simpa using Text.atMost_total other.1 other.1
    · obtain ⟨-, hbehind, -⟩ := List.pairwise_append.1 hsorted
      exact (List.pairwise_cons.1 hbehind).1 other hmem

/-- The order of the entries does not matter. -/
theorem LeastOffence.perm (hleast : LeastOffence table entry problem)
    (hperm : other.Perm table) : LeastOffence other entry problem where
  mem := hperm.mem_iff.2 hleast.mem
  offends := hleast.offends
  least := fun found hfound => hleast.least found (hperm.mem_iff.1 hfound)

/-- There is only one least key, one entry with it, and one problem of that
entry. -/
theorem LeastOffence.problem_eq {found : Text × Toml.Value} {said : Problem}
    (hkeys : HasDistinctKeys table)
    (hleast : LeastOffence table entry problem)
    (hfound : LeastOffence table found said) : problem = said := by
  have hkey : entry.1 = found.1 := Text.eq_of_atMost
    (hleast.least found hfound.mem said hfound.offends)
    (hfound.least entry hleast.mem problem hleast.offends)
  have hentry := hkeys.eq_of_key_eq hleast.mem hfound.mem hkey
  -- the problem of an entry is the one that it is refused for
  have hproblem : add empty entry = .error problem :=
    add_of_offends hleast.offends
  rw [hentry, add_of_offends hfound.offends] at hproblem
  injection hproblem with hproblem
  exact hproblem.symm

-- =============================================================== one table

/-- Whether every key of the table is known, and what stands under it is what
may stand there. -/
structure IsAcceptable (table : Toml.Table) : Prop where
  keys : ∀ entry ∈ table,
    entry.1 = "format".toList ∨ entry.1 = "exit_zero".toList
  format : ∀ value, ("format".toList, value) ∈ table →
    value = .string "text".toList ∨ value = .string "json".toList
  exitZero : ∀ value, ("exit_zero".toList, value) ∈ table →
    ∃ b, value = .boolean b

theorem Fits.key_eq (hfits : Fits entry) :
    entry.1 = "format".toList ∨ entry.1 = "exit_zero".toList := by
  cases hfits with
  | format format => exact .inl rfl
  | exitZero b => exact .inr rfl

theorem fits_format_iff {value : Toml.Value} :
    Fits ("format".toList, value)
      ↔ value = .string "text".toList ∨ value = .string "json".toList := by
  constructor
  · intro hfits
    generalize hentry : ("format".toList, value) = entry at hfits
    cases hfits with
    | format format =>
        cases hentry
        cases format with
        | text => exact .inl rfl
        | json => exact .inr rfl
    | exitZero b =>
        exact absurd (congrArg Prod.fst hentry) format_ne_exitZero
  · intro hvalue
    rcases hvalue with rfl | rfl
    · exact .format .text
    · exact .format .json

theorem fits_exitZero_iff {value : Toml.Value} :
    Fits ("exit_zero".toList, value) ↔ ∃ b, value = .boolean b := by
  constructor
  · intro hfits
    generalize hentry : ("exit_zero".toList, value) = entry at hfits
    cases hfits with
    | format format =>
        exact absurd (congrArg Prod.fst hentry).symm format_ne_exitZero
    | exitZero b =>
        cases hentry
        exact ⟨b, rfl⟩
  · intro hvalue
    obtain ⟨b, rfl⟩ := hvalue
    exact .exitZero b

/-- All entries fit exactly if the table is acceptable. -/
theorem forall_fits_iff :
    (∀ entry ∈ table, Fits entry) ↔ IsAcceptable table := by
  constructor
  · intro hfits
    constructor
    case keys => exact fun entry hmem => (hfits entry hmem).key_eq
    case format => exact fun _ hmem => fits_format_iff.1 (hfits _ hmem)
    case exitZero => exact fun _ hmem => fits_exitZero_iff.1 (hfits _ hmem)
  · intro hacceptable entry hmem
    obtain ⟨key, value⟩ := entry
    rcases hacceptable.keys _ hmem with hkey | hkey
    · subst hkey
      exact fits_format_iff.2 (hacceptable.format value hmem)
    · subst hkey
      exact fits_exitZero_iff.2 (hacceptable.exitZero value hmem)

/-- A table whose format is no table holds the settings that its entries say,
or it is refused because of the least key that something is wrong with. -/
theorem ofTable_cases (hkeys : HasDistinctKeys table)
    (htable : ∀ inner, ("format".toList, .table inner) ∉ table) :
    (∃ settings, ofTable table = .ok settings
        ∧ settings.IsSaidBy table ∧ IsAcceptable table)
      ∨ ∃ problem, ofTable table = .error problem
        ∧ ∃ entry, LeastOffence table entry problem := by
  have hperm := sorted_perm table
  have hsortedKeys : HasDistinctKeys ([] ++ sorted table) := hkeys.perm hperm
  have hsortedTable :
      ∀ inner, ("format".toList, .table inner) ∉ sorted table :=
    fun inner hmem => htable inner (hperm.mem_iff.1 hmem)
  rcases foldlM_add_cases hsortedKeys hsortedTable isSaidBy_nil with
    ⟨settings, hrun, hsaid, hfits⟩ | ⟨problem, hrun, hfirst⟩
  · refine .inl ⟨settings, hrun, ⟨?_, ?_⟩, forall_fits_iff.1 ?_⟩
    · intro format
      rw [← hperm.mem_iff]
      exact hsaid.format format
    · intro b
      rw [← hperm.mem_iff]
      exact hsaid.exitZero b
    · exact fun entry hmem => hfits entry (hperm.mem_iff.2 hmem)
  · obtain ⟨entry, hleast⟩ :=
      LeastOffence.of_first (pairwise_sorted table) hfirst
    exact .inr ⟨problem, hrun, entry, hleast.perm hperm.symm⟩

theorem LeastOffence.not_isAcceptable
    (hleast : LeastOffence table entry problem) : ¬ IsAcceptable table := by
  intro hacceptable
  exact (forall_fits_iff.2 hacceptable entry hleast.mem).not_offends
    hleast.offends

-- ============================================================ another order

/-- The order in which entries with distinct keys are taken is told by their
keys. -/
theorem sorted_eq_of_perm (hkeys : HasDistinctKeys table)
    (hperm : other.Perm table) : sorted other = sorted table := by
  have hsorted : (sorted other).Perm (sorted table) :=
    ((sorted_perm other).trans hperm).trans (sorted_perm table).symm
  refine hsorted.eq_of_pairwise ?_ (pairwise_sorted other)
    (pairwise_sorted table)
  intro entry found hentry hfound hle hge
  have hsortedKeys := hkeys.perm (sorted_perm table)
  exact hsortedKeys.eq_of_key_eq (hsorted.mem_iff.1 hentry) hfound
    (Text.eq_of_atMost hle hge)

/-- Entries in another order come to the same settings or the same problem. -/
theorem ofTable_eq_of_perm (hkeys : HasDistinctKeys table)
    (hperm : other.Perm table) : ofTable other = ofTable table := by
  unfold ofTable
  rw [sorted_eq_of_perm hkeys hperm]

/-- Whether two texts are documents with the same entries, in whatever
order. -/
def ListSameEntries (text again : Text) : Prop :=
  ∃ table other, Toml.parse? text = some table
    ∧ Toml.parse? again = some other ∧ other.Perm table

/-- Two files that list the same entries come to the same settings or the same
error. -/
theorem load_eq_of_listSameEntries {text again : Text}
    {files others : FileSystem} {path : Path}
    (hsame : ListSameEntries text again) (htext : files.Holds path text)
    (hagain : others.Holds path again) :
    load others path = load files path := by
  obtain ⟨table, other, htable, hother, hperm⟩ := hsame
  have hkeys := Toml.hasDistinctKeys_of_parse? htable
  unfold load
  rw [FileSystem.readText_eq_ok_iff.2 htext,
    FileSystem.readText_eq_ok_iff.2 hagain]
  dsimp only
  rw [htable, hother]
  dsimp only
  have herror : ConfigError.ofProblem path other
      = ConfigError.ofProblem path table := by
    funext problem
    unfold ConfigError.ofProblem
    rw [Toml.Table.isRepresentable_eq_of_perm hperm]
  rw [ofTable_eq_of_perm hkeys hperm, herror]

-- ==================================================== what can be represented

/-- What may stand under the name of a format is empty and can be
represented. -/
theorem isRepresentable_of_checkEmpty {value : Toml.Value}
    (hempty : checkEmpty value = .ok ()) : value.isRepresentable = true := by
  cases value with
  | array items =>
      cases items with
      | nil => rfl
      | cons item rest => cases hempty
  | table entries =>
      cases entries with
      | nil => rfl
      | cons entry rest => cases hempty
  | _ => cases hempty

/-- A format that is written as a table is named by its key. -/
theorem of_readFormat_table {name : Text} {under : Toml.Value}
    {format : OutputFormat}
    (hread : readFormat (.table [(name, under)]) = .ok format) :
    name = format.name ∧ checkEmpty under = .ok () := by
  have hsteps : (formatNamed name >>= fun format =>
      checkEmpty under >>= fun _ => pure format) = .ok format := hread
  cases hnamed : OutputFormat.ofName? name with
  | none =>
      rw [formatNamed, hnamed] at hsteps
      cases hsteps
  | some found =>
      rw [formatNamed, hnamed] at hsteps
      cases hunder : checkEmpty under with
      | error problem =>
          rw [hunder] at hsteps
          cases hsteps
      | ok _ =>
          rw [hunder] at hsteps
          cases hsteps
          exact ⟨OutputFormat.ofName?_eq_some_iff.1 hnamed, rfl⟩

theorem isRepresentable_of_readFormat {value : Toml.Value}
    {format : OutputFormat} (hread : readFormat value = .ok format) :
    value.isRepresentable = true := by
  cases value with
  | string name => rfl
  | table entries =>
      match entries with
      | [] => cases hread
      | [(name, under)] =>
          obtain ⟨rfl, hunder⟩ := of_readFormat_table hread
          -- the name of a format is not the reserved key
          have hreserved : Toml.reserved? [(format.name, under)] = none := by
            cases format <;> rfl
          rw [Toml.Value.isRepresentable, hreserved]
          show (under.isRepresentable && true) = true
          rw [isRepresentable_of_checkEmpty hunder]
          rfl
      | _ :: _ :: _ => cases hread
  | _ => cases hread

theorem isRepresentable_of_add {next : Settings}
    (hadd : add settings entry = .ok next) :
    entry.2.isRepresentable = true := by
  obtain ⟨key, value⟩ := entry
  by_cases hformat : key = "format".toList
  · rw [hformat, add_format] at hadd
    cases hread : readFormat value with
    | error problem =>
        rw [hread] at hadd
        cases hadd
    | ok format => exact isRepresentable_of_readFormat hread
  · by_cases hexitZero : key = "exit_zero".toList
    · rw [hexitZero, add_exitZero] at hadd
      cases value with
      | boolean b => rfl
      | _ => cases hadd
    · rw [add_of_ne hformat hexitZero] at hadd
      cases hadd

/-- Of entries that are all taken, each value can be represented. -/
theorem forall_isRepresentable_of_foldlM {next : Settings}
    (hrun : table.foldlM add settings = .ok next) :
    ∀ entry ∈ table, entry.2.isRepresentable = true := by
  induction table generalizing settings with
  | nil => exact List.forall_mem_nil _
  | cons entry rest ih =>
      rw [List.foldlM_cons] at hrun
      cases hadd : add settings entry with
      | error problem =>
          rw [hadd] at hrun
          cases hrun
      | ok between =>
          rw [hadd] at hrun
          exact List.forall_mem_cons.2 ⟨isRepresentable_of_add hadd, ih hrun⟩

/-- Every table that holds settings can be represented. So a file is accepted
or refused as it would be if it were asked first whether its table can be. -/
theorem isRepresentable_of_ofTable (hok : ofTable table = .ok settings) :
    table.isRepresentable = true := by
  rw [← Toml.Table.isRepresentable_eq_of_perm (sorted_perm table),
    Toml.Table.isRepresentable_iff]
  exact forall_isRepresentable_of_foldlM hok

/-- A table in which no key comes twice, and no table stands under the key of
the format, holds settings exactly if all its keys are known, a format is the
string of one, and the exit status is a truth value; then the settings are
what the entries say, and what no entry says is absent. Otherwise it is
refused, and the problem is the one with the entry whose key is the least of
those that something is wrong with. The order of the entries does not matter,
in no table and in no file. -/
theorem ofTable_by_entries (table other : Toml.Table) (text again : Text) :
    (HasDistinctKeys table →
      (∀ inner, ("format".toList, .table inner) ∉ table) →
        ((∃ settings, ofTable table = .ok settings) ↔ IsAcceptable table)
          ∧ (∀ settings, ofTable table = .ok settings →
            settings.IsSaidBy table)
          ∧ ∀ problem, ofTable table = .error problem
            ↔ ∃ entry, LeastOffence table entry problem)
      ∧ (HasDistinctKeys table → other.Perm table →
        ofTable other = ofTable table)
      ∧ (ListSameEntries text again → ∀ files others path,
        files.Holds path text → others.Holds path again →
          load others path = load files path) := by
  refine ⟨?_, ofTable_eq_of_perm,
    fun hsame _ _ _ => load_eq_of_listSameEntries hsame⟩
  intro hkeys htable
  rcases ofTable_cases hkeys htable with
    ⟨settings, hok, hsaid, hacceptable⟩ | ⟨problem, herror, hleast⟩
  · rw [hok]
    refine ⟨iff_of_true ⟨settings, rfl⟩ hacceptable, ?_, ?_⟩
    · intro found hfound
      cases hfound
      exact hsaid
    · intro problem
      refine iff_of_false nofun fun hexists => ?_
      obtain ⟨entry, hleast⟩ := hexists
      exact hleast.not_isAcceptable hacceptable
  · rw [herror]
    obtain ⟨entry, hleast⟩ := hleast
    refine ⟨iff_of_false nofun hleast.not_isAcceptable, nofun, ?_⟩
    intro said
    constructor
    · intro hsaid
      cases hsaid
      exact ⟨entry, hleast⟩
    · intro hexists
      obtain ⟨found, hfound⟩ := hexists
      rw [hleast.problem_eq hkeys hfound]

/-- Two entries of a table that something is wrong with, and two documents
with two entries in either order. -/
theorem ofTable_by_entries_two_problems :
    let unknown : Text × Toml.Value := ("zone".toList, .boolean true)
    let noBoolean : Text × Toml.Value := ("exit_zero".toList, .integer 1)
    let format : Text × Toml.Value := ("format".toList, .string "text".toList)
    let table : Toml.Table := [unknown, format, noBoolean]
    let text : Text := ['b', '=', '[', ']', '\n', 'a', '=', '[', ']']
    let again : Text := ['a', '=', '[', ']', '\n', 'b', '=', '[', ']']
    let files : FileSystem :=
      ⟨fun _ => true, fun _ => .ok (Text.utf8 text).toByteArray⟩
    let others : FileSystem :=
      ⟨fun _ => true, fun _ => .ok (Text.utf8 again).toByteArray⟩
    (HasDistinctKeys table ∧ (∀ inner, ("format".toList, .table inner) ∉ table)
        ∧ ofTable table = .error (.noBoolean "integer `1`".toList))
      ∧ (table.reverse.Perm table ∧ ofTable table.reverse = ofTable table)
      ∧ (ListSameEntries text again ∧ load others [] = load files []) := by
  intro unknown noBoolean format table text again files others
  obtain ⟨htold, horder, hfile⟩ :=
    ofTable_by_entries table table.reverse text again
  have hkeys : HasDistinctKeys table := by
    unfold HasDistinctKeys
    decide
  have htable : ∀ inner, ("format".toList, .table inner) ∉ table := by
    intro inner
    simp [table, unknown, noBoolean, format]
  have hleast : LeastOffence table noBoolean
      (.noBoolean "integer `1`".toList) := by
    have hall : ∀ entry ∈ table,
        Text.atMost noBoolean.1 entry.1 = true := by decide
    exact ⟨by simp [table], .noBoolean rfl nofun,
      fun entry hmem _ _ => hall entry hmem⟩
  have hsame : ListSameEntries text again :=
    ⟨[(['b'], .array []), (['a'], .array [])],
      [(['a'], .array []), (['b'], .array [])], rfl, rfl, .swap ..⟩
  obtain ⟨-, -, herror⟩ := htold hkeys htable
  exact ⟨⟨hkeys, htable, (herror _).2 ⟨noBoolean, hleast⟩⟩,
    ⟨table.reverse_perm, horder hkeys table.reverse_perm⟩,
    hsame, hfile hsame files others [] rfl rfl⟩

end Settings

end QuartoLint
