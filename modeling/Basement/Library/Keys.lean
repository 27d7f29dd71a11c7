import Basement.Library.Rows
import Basement.Library.SortedStore
import Mathlib.Data.List.Nodup

namespace Basement
namespace Library

/-!
# Rows with distinct keys

A key is read off a row, and a row may have none.  Keys are distinct when no two rows have the
same one, so that a search for a key finds the row that has it.  What a removal leaves keeps its
keys distinct; what an insertion or a change leaves does exactly if the new key is not another
row's.  The first part is about tables kept as lists, the second about tables kept under
identifiers.
-/

section Lists

variable {Row Key : Type*} {key : Row -> Option Key} {rows : List Row} {row : Row}

/-- No two rows have the same key. -/
def DistinctKeys (key : Row -> Option Key) (rows : List Row) : Prop := (rows.filterMap key).Nodup

instance [DecidableEq Key] (key : Row -> Option Key) (rows : List Row) :
    Decidable (DistinctKeys key rows) :=
  inferInstanceAs (Decidable (rows.filterMap key).Nodup)

/-- The key of the row is not the key of one of the rows. -/
def Unclaimed (key : Row -> Option Key) (row : Row) (rows : List Row) : Prop :=
  forall other, other ∈ rows -> key row ≠ none -> key other ≠ key row

instance [DecidableEq Key] (key : Row -> Option Key) (row : Row) (rows : List Row) :
    Decidable (Unclaimed key row rows) :=
  inferInstanceAs (Decidable (forall other, other ∈ rows -> _))

theorem distinctKeys_nil : DistinctKeys key [] := List.nodup_nil

theorem DistinctKeys.sublist (distinct : DistinctKeys key rows) {fewer : List Row}
    (part : fewer.Sublist rows) : DistinctKeys key fewer :=
  List.Nodup.sublist (part.filterMap key) distinct

/-- A row in front, whose key must not be claimed. -/
theorem distinctKeys_cons_iff :
    DistinctKeys key (row :: rows) ↔ DistinctKeys key rows ∧ Unclaimed key row rows := by
  unfold DistinctKeys Unclaimed
  cases named : key row with
  | none =>
      rw [List.filterMap_cons_none named]
      simp
  | some k =>
      rw [List.filterMap_cons_some named, List.nodup_cons, List.mem_filterMap, and_comm]
      simp

/-- The place of a row does not matter. -/
theorem distinctKeys_insert_iff {before after : List Row} :
    DistinctKeys key (before ++ row :: after) ↔
      DistinctKeys key (before ++ after) ∧ Unclaimed key row (before ++ after) := by
  rw [← distinctKeys_cons_iff]
  exact (List.Perm.filterMap key List.perm_middle).nodup_iff

theorem distinctKeys_append_iff :
    DistinctKeys key (rows ++ [row]) ↔ DistinctKeys key rows ∧ Unclaimed key row rows := by
  rw [distinctKeys_insert_iff, List.append_nil]

/-- A search for the key of a row finds that row. -/
theorem DistinctKeys.find? (distinct : DistinctKeys key rows) {k : Key} {selected : Row -> Bool}
    (selects : forall other, selected other = true ↔ key other = some k) (listed : row ∈ rows)
    (named : key row = some k) : rows.find? selected = some row := by
  rcases List.append_of_mem listed with ⟨before, after, rfl⟩
  have unclaimed := (distinctKeys_insert_iff.mp distinct).2
  refine List.find?_eq_some_iff_append.mpr ⟨(selects row).mpr named, before, after, rfl, ?_⟩
  intro other earlier
  have apart := unclaimed other (List.mem_append_left after earlier) (by simp [named])
  rw [named] at apart
  simpa using fun chosen => apart ((selects other).mp chosen)

/-- A change of the first match keeps the keys distinct exactly if no other row has the new
key. -/
theorem distinctKeys_updateFirst_iff {selected : Row -> Bool} {change : Row -> Row}
    (distinct : DistinctKeys key rows) (found : rows.find? selected = some row) :
    DistinctKeys key (updateFirst selected change rows) ↔
      Unclaimed key (change row) (rows.eraseP selected) := by
  rcases exists_first found with ⟨before, after, rfl, matched, passed⟩
  rw [updateFirst_append passed matched, eraseP_append passed matched, distinctKeys_insert_iff]
  exact and_iff_right (distinctKeys_insert_iff.mp distinct).1

/-- A change that keeps the key keeps the keys distinct. -/
theorem DistinctKeys.updateFirst {selected : Row -> Bool} {change : Row -> Row}
    (distinct : DistinctKeys key rows) (found : rows.find? selected = some row)
    (kept : key (change row) = key row) :
    DistinctKeys key (updateFirst selected change rows) := by
  rw [distinctKeys_updateFirst_iff distinct found]
  rcases exists_first found with ⟨before, after, rfl, matched, passed⟩
  rw [eraseP_append passed matched]
  unfold Unclaimed
  rw [kept]
  exact (distinctKeys_insert_iff.mp distinct).2

end Lists

section Stores

variable {κ Row Key : Type*} [LinearOrder κ] {key : Row -> Key} {rows : SortedStore κ Row} {id : κ}
  {row : Row}

/-- No row but the one with this identifier has the key. -/
def FreeFor (key : Row -> Key) (rows : SortedStore κ Row) (id : κ) (k : Key) : Prop :=
  forall other row, rows.get? other = some row -> other ≠ id -> key row ≠ k

/-- No two identifiers have rows with the same key. -/
def UniqueKeys (key : Row -> Key) (rows : SortedStore κ Row) : Prop :=
  forall id row, rows.get? id = some row -> FreeFor key rows id (key row)

instance [DecidableEq Key] (key : Row -> Key) (rows : SortedStore κ Row) (id : κ) (k : Key) :
    Decidable (FreeFor key rows id k) :=
  decidable_of_iff (forall entry, entry ∈ rows.entries -> entry.1 ≠ id -> key entry.2 ≠ k)
    (rows.forall_entries_iff fun other row => other ≠ id -> key row ≠ k)

instance [DecidableEq Key] (key : Row -> Key) (rows : SortedStore κ Row) :
    Decidable (UniqueKeys key rows) :=
  decidable_of_iff (forall entry, entry ∈ rows.entries -> FreeFor key rows entry.1 (key entry.2))
    (rows.forall_entries_iff fun id row => FreeFor key rows id (key row))

theorem uniqueKeys_empty : UniqueKeys key (SortedStore.empty : SortedStore κ Row) := by
  intro id row found
  cases found

/-- A write keeps the keys unique exactly if no other row has the new key. -/
theorem uniqueKeys_put_iff (unique : UniqueKeys key rows) :
    UniqueKeys key (rows.put id row) ↔ FreeFor key rows id (key row) := by
  constructor
  · intro after other neighbour found different
    apply after id row (rows.get?_put_self id row) other neighbour _ different
    rw [rows.get?_put_of_ne row different, found]
  · intro free first firstRow firstFound second secondRow secondFound different
    rw [SortedStore.get?_put] at firstFound secondFound
    split at firstFound
    · rename_i here
      rw [if_neg (here ▸ different)] at secondFound
      cases firstFound
      exact free second secondRow secondFound (here ▸ different)
    · rename_i apart
      split at secondFound
      · cases secondFound
        exact (free first firstRow firstFound apart).symm
      · exact unique first firstRow firstFound second secondRow secondFound different

/-- A write that keeps the key of the row keeps the keys unique. -/
theorem UniqueKeys.put {old : Row} (unique : UniqueKeys key rows) (found : rows.get? id = some old)
    (kept : key row = key old) : UniqueKeys key (rows.put id row) := by
  rw [uniqueKeys_put_iff unique, kept]
  exact unique id old found

theorem UniqueKeys.erase (unique : UniqueKeys key rows) (id : κ) :
    UniqueKeys key (rows.erase id) := by
  intro first firstRow firstFound second secondRow secondFound
  exact unique first firstRow (SortedStore.get?_erase_eq_some.mp firstFound).2 second secondRow
    (SortedStore.get?_erase_eq_some.mp secondFound).2

end Stores

end Library
end Basement
