/-
No key of a document comes twice.

A table is the list of its entries, and that of a document is a map: no two
entries of it have the same key (`hasDistinctKeys_of_parse?`).

# One change at a time

Whatever a statement does to the entries of the document, it changes what
stands under one of the keys. That leaves the keys as they are or puts one
behind them that was not there (`Entries.keys_alter`), so a table whose keys
are distinct remains one. The document starts without entries, and each of
its statements keeps the keys of the draft distinct
(`Draft.hasDistinctKeys_add`).
-/
import Mathlib.Data.List.Nodup
import QuartoLint.Toml.Document

namespace QuartoLint.Toml

/-- Whether no two entries have the same key. -/
def HasDistinctKeys {α : Type} (entries : List (Text × α)) : Prop :=
  (entries.map Prod.fst).Nodup

section Entries

variable {α : Type} {entries other before rest : List (Text × α)}
  {entry found : Text × α}

/-- Whether keys come twice does not depend on their order. -/
theorem HasDistinctKeys.perm (hentries : HasDistinctKeys entries)
    (hperm : other.Perm entries) : HasDistinctKeys other :=
  (hperm.map Prod.fst).nodup_iff.2 hentries

/-- Where no key comes twice, an entry is told by its key. -/
theorem HasDistinctKeys.eq_of_key_eq (hentries : HasDistinctKeys entries)
    (hentry : entry ∈ entries) (hfound : found ∈ entries)
    (hkey : entry.1 = found.1) : entry = found :=
  List.inj_on_of_nodup_map hentries hentry hfound hkey

/-- The key of an entry is none of those before it. -/
theorem HasDistinctKeys.key_notMem
    (hentries : HasDistinctKeys (before ++ entry :: rest)) :
    entry.1 ∉ before.map Prod.fst := by
  unfold HasDistinctKeys at hentries
  rw [List.map_append, List.nodup_append] at hentries
  obtain ⟨-, -, hdistinct⟩ := hentries
  exact fun hmem => hdistinct entry.1 hmem entry.1 List.mem_cons_self rfl

/-- An entry with a new key, put behind the others, is the only one with its
key. -/
theorem mem_concat_of_new {key : Text} {value given : α}
    (hnew : key ∉ entries.map Prod.fst) :
    (key, value) ∈ entries ++ [(key, given)] ↔ value = given := by
  have hmem : (key, value) ∉ entries := fun hmem =>
    hnew (List.mem_map_of_mem hmem)
  rw [List.mem_append, List.mem_singleton, or_iff_right hmem, Prod.mk.injEq]
  exact and_iff_right rfl

/-- For any other key it makes no difference. -/
theorem mem_concat_of_ne {key last : Text} {value given : α}
    (hne : key ≠ last) :
    (key, value) ∈ entries ++ [(last, given)] ↔ (key, value) ∈ entries := by
  rw [List.mem_append, List.mem_singleton]
  exact or_iff_left fun hsame => hne (congrArg Prod.fst hsame)

end Entries

-- ============================================================ one statement

namespace Entries

variable {entries result : Entries}

/-- A change at a key leaves the keys alone or puts this key behind them, if it
was not there. -/
theorem keys_alter {key : Text} {change : Option Node → Option Node}
    (halter : entries.alter key change = some result) :
    result.map Prod.fst = entries.map Prod.fst
      ∨ key ∉ entries.map Prod.fst
        ∧ result.map Prod.fst = entries.map Prod.fst ++ [key] := by
  -- the change happens at the first entry with the key, or behind all of them
  induction entries generalizing result with
  | nil =>
      rw [alter] at halter
      obtain ⟨node, -, rfl⟩ := Option.map_eq_some_iff.1 halter
      exact .inr ⟨List.not_mem_nil, rfl⟩
  | cons entry rest ih =>
      obtain ⟨other, node⟩ := entry
      rw [alter] at halter
      split at halter
      case isTrue hother =>
        obtain ⟨changed, -, rfl⟩ := Option.map_eq_some_iff.1 halter
        rw [beq_iff_eq] at hother
        rw [hother]
        exact .inl rfl
      case isFalse hother =>
        obtain ⟨altered, haltered, rfl⟩ := Option.map_eq_some_iff.1 halter
        rw [beq_iff_eq] at hother
        rcases ih haltered with hsame | ⟨hkey, hmore⟩
        · left
          rw [List.map_cons, hsame]
          rfl
        · right
          rw [List.map_cons, List.map_cons, hmore, List.mem_cons, not_or]
          exact ⟨⟨Ne.symm hother, hkey⟩, rfl⟩

/-- So no key comes twice after a change, if none did before. -/
theorem hasDistinctKeys_alter {key : Text}
    {change : Option Node → Option Node} (hentries : HasDistinctKeys entries)
    (halter : entries.alter key change = some result) :
    HasDistinctKeys result := by
  unfold HasDistinctKeys
  rcases keys_alter halter with hsame | ⟨hkey, hmore⟩
  · rw [hsame]
    exact hentries
  · rw [hmore, ← List.concat_eq_append]
    exact hentries.concat hkey

/-- A change behind a path is a change at its first key, if it has one. -/
theorem hasDistinctKeys_within {change : Entries → Option Entries}
    {path : List Text} (hentries : HasDistinctKeys entries)
    (hchange : ∀ changed, change entries = some changed →
      HasDistinctKeys changed)
    (hwithin : entries.within change path = some result) :
    HasDistinctKeys result := by
  cases path with
  | nil =>
      rw [within] at hwithin
      exact hchange result hwithin
  | cons key path =>
      rw [within] at hwithin
      exact hasDistinctKeys_alter hentries hwithin

/-- Giving a key a value is a change at the first key of the path, or at the
key itself where the path is empty. -/
theorem hasDistinctKeys_putDotted {key : Text} {value : Value}
    {path : List Text} (hentries : HasDistinctKeys entries)
    (hput : putDotted key value path entries = some result) :
    HasDistinctKeys result := by
  cases path with
  | nil =>
      rw [putDotted] at hput
      exact hasDistinctKeys_alter hentries hput
  | cons step path =>
      rw [putDotted] at hput
      exact hasDistinctKeys_alter hentries hput

end Entries

namespace Draft

variable {draft next : Draft}

/-- Opening a path keeps keys distinct if the change that it makes does. -/
theorem hasDistinctKeys_openWith {path : List Text}
    {change : Text → Entries → Option Entries}
    (hdraft : HasDistinctKeys draft.entries)
    (hchange : ∀ key changed, change key draft.entries = some changed →
      HasDistinctKeys changed)
    (hopen : draft.openWith path change = some next) :
    HasDistinctKeys next.entries := by
  unfold openWith at hopen
  obtain ⟨key, -, hentries⟩ := Option.bind_eq_some_iff.1 hopen
  obtain ⟨entries, hwithin, hnext⟩ := Option.bind_eq_some_iff.1 hentries
  cases hnext
  exact Entries.hasDistinctKeys_within hdraft (hchange key) hwithin

/-- No statement of a document makes a key come twice. -/
theorem hasDistinctKeys_add {statement : Statement}
    (hdraft : HasDistinctKeys draft.entries)
    (hadd : draft.add statement = some next) :
    HasDistinctKeys next.entries := by
  cases statement with
  | blank =>
      cases hadd
      exact hdraft
  | table path =>
      exact hasDistinctKeys_openWith hdraft
        (fun _ _ => Entries.hasDistinctKeys_alter hdraft) hadd
  | element path =>
      exact hasDistinctKeys_openWith hdraft
        (fun _ _ => Entries.hasDistinctKeys_alter hdraft) hadd
  | pair path key value =>
      obtain ⟨entries, hwithin, rfl⟩ := Option.map_eq_some_iff.1 hadd
      exact Entries.hasDistinctKeys_within hdraft
        (fun _ => Entries.hasDistinctKeys_putDotted hdraft) hwithin

/-- However many statements there are, the keys stay distinct. -/
theorem hasDistinctKeys_foldlM {statements : List Statement}
    (hdraft : HasDistinctKeys draft.entries)
    (hrun : statements.foldlM add draft = some next) :
    HasDistinctKeys next.entries := by
  induction statements generalizing draft with
  | nil =>
      cases hrun
      exact hdraft
  | cons statement rest ih =>
      rw [List.foldlM_cons] at hrun
      obtain ⟨between, hadd, hrest⟩ := Option.bind_eq_some_iff.1 hrun
      exact ih (hasDistinctKeys_add hdraft hadd) hrest

end Draft

-- ============================================================= the document

/-- Reading off the table of a document keeps its keys. -/
theorem keys_toTable (entries : Entries) :
    entries.toTable.map Prod.fst = entries.map Prod.fst := by
  unfold Entries.toTable
  induction entries with
  | nil => rfl
  | cons entry rest ih =>
      rw [Node.tableOf, List.map_cons, ih]
      rfl

/-- The table of a document is a map. -/
theorem hasDistinctKeys_of_parse? {text : Text} {table : Table}
    (hparse : parse? text = some table) : HasDistinctKeys table := by
  unfold parse? at hparse
  obtain ⟨⟨lines, rest⟩, -, hlines⟩ := Option.bind_eq_some_iff.1 hparse
  obtain ⟨draft, hdraft, htable⟩ := Option.bind_eq_some_iff.1 hlines
  cases htable
  have hempty : HasDistinctKeys Draft.empty.entries := List.nodup_nil
  unfold HasDistinctKeys
  rw [keys_toTable]
  exact Draft.hasDistinctKeys_foldlM hempty hdraft

end QuartoLint.Toml
