import Mathlib.Order.Lattice
import Mathlib.Data.List.Basic
import Mathlib.Data.List.Pairwise

namespace Basement
namespace Library

/-!
# Finite maps kept in key order

A `SortedStore` is a finite map whose entries are listed in strictly increasing
key order.  The order is a field of the structure, so an unsorted store or one
with a repeated key cannot be built.

The operations are those of a key-value service which can be listed: point
lookup, insertion, removal, and a page of entries that starts behind a cursor.
`get?_put` and `get?_erase` say what a write does at every key.
`mem_page_or_behind` is the paging fact: an entry behind the cursor is either on
the page, or behind the last key of the page as well.
-/

/-- A finite map with its entries in strictly increasing key order. -/
structure SortedStore (κ ν : Type*) [LinearOrder κ] where
  entries : List (κ × ν)
  sorted : entries.Pairwise fun first second => first.1 < second.1

namespace SortedStore

variable {κ ν : Type*} [LinearOrder κ]

def empty : SortedStore κ ν := ⟨[], List.Pairwise.nil⟩

/-- The value at a key. -/
def get? (store : SortedStore κ ν) (key : κ) : Option ν :=
  (store.entries.find? fun entry => decide (entry.1 = key)).map Prod.snd

/-- Insert into an ordered entry list, replacing an entry with the same key. -/
def putEntry (key : κ) (value : ν) : List (κ × ν) -> List (κ × ν)
  | [] => [(key, value)]
  | entry :: rest =>
      if key < entry.1 then (key, value) :: entry :: rest
      else if key = entry.1 then (key, value) :: rest
      else entry :: putEntry key value rest

theorem mem_putEntry {key : κ} {value : ν} {entry : κ × ν} {entries : List (κ × ν)}
    (member : entry ∈ putEntry key value entries) : entry = (key, value) ∨ entry ∈ entries := by
  induction entries with
  | nil => simpa [putEntry] using member
  | cons head rest ih =>
      simp only [putEntry] at member
      split at member
      · simpa using member
      · split at member
        · rcases List.mem_cons.mp member with same | listed
          · exact Or.inl same
          · exact Or.inr (List.mem_cons_of_mem _ listed)
        · rcases List.mem_cons.mp member with same | listed
          · exact Or.inr (same ▸ List.mem_cons_self)
          · exact (ih listed).imp_right (List.mem_cons_of_mem _)

theorem putEntry_sorted (key : κ) (value : ν) {entries : List (κ × ν)}
    (sorted : entries.Pairwise fun first second => first.1 < second.1) :
    (putEntry key value entries).Pairwise fun first second => first.1 < second.1 := by
  induction entries with
  | nil => simp [putEntry]
  | cons head rest ih =>
      rcases List.pairwise_cons.mp sorted with ⟨headFirst, restSorted⟩
      simp only [putEntry]
      split
      · rename_i before
        refine List.pairwise_cons.mpr ⟨?_, sorted⟩
        intro entry listed
        rcases List.mem_cons.mp listed with same | later
        · exact same ▸ before
        · exact lt_trans before (headFirst entry later)
      · rename_i notBefore
        split
        · rename_i same
          refine List.pairwise_cons.mpr ⟨?_, restSorted⟩
          intro entry listed
          exact same ▸ headFirst entry listed
        · rename_i different
          refine List.pairwise_cons.mpr ⟨?_, ih restSorted⟩
          intro entry listed
          rcases mem_putEntry listed with same | later
          · exact same ▸ lt_of_le_of_ne (not_lt.mp notBefore) (Ne.symm different)
          · exact headFirst entry later

/-- Insert or overwrite the value at a key. -/
def put (store : SortedStore κ ν) (key : κ) (value : ν) : SortedStore κ ν :=
  ⟨putEntry key value store.entries, putEntry_sorted key value store.sorted⟩

/-- Remove a key.  Removing an absent key changes nothing. -/
def erase (store : SortedStore κ ν) (key : κ) : SortedStore κ ν :=
  ⟨store.entries.filter fun entry => decide (entry.1 ≠ key), store.sorted.filter _⟩

/-- Lookup finds exactly the listed entries. -/
theorem mem_entries_iff (store : SortedStore κ ν) (key : κ) (value : ν) :
    (key, value) ∈ store.entries ↔ store.get? key = some value := by
  rcases store with ⟨entries, sorted⟩
  simp only [get?]
  induction entries with
  | nil => simp
  | cons head rest ih =>
      rcases List.pairwise_cons.mp sorted with ⟨headFirst, restSorted⟩
      by_cases same : head.1 = key
      · have absent : (key, value) ∉ rest := fun listed =>
          absurd (headFirst _ listed) (by simp [same])
        rcases head with ⟨headKey, headValue⟩
        simp only at same
        subst same
        simp [absent, eq_comm]
      · have different : (key, value) ≠ head := fun equal => same (equal ▸ rfl)
        simp only [List.mem_cons, different, false_or, List.find?_cons, same, decide_false]
        exact ih restSorted

/-- A property of all that can be found is one of the listed entries. -/
theorem forall_entries_iff (store : SortedStore κ ν) (property : κ -> ν -> Prop) :
    (forall entry, entry ∈ store.entries -> property entry.1 entry.2) ↔
      forall key value, store.get? key = some value -> property key value := by
  constructor
  · intro all key value found
    exact all (key, value) ((store.mem_entries_iff key value).mpr found)
  · rintro all ⟨key, value⟩ listed
    exact all key value ((store.mem_entries_iff key value).mp listed)

theorem get?_put_self (store : SortedStore κ ν) (key : κ) (value : ν) :
    (store.put key value).get? key = some value := by
  rw [← mem_entries_iff]
  rcases store with ⟨entries, _⟩
  simp only [put]
  induction entries with
  | nil => simp [putEntry]
  | cons head rest ih =>
      simp only [putEntry]
      split
      · exact List.mem_cons_self
      · split
        · exact List.mem_cons_self
        · exact List.mem_cons_of_mem _ (ih (by rename_i sorted _ _; exact sorted.of_cons))

/-- What is found where a value was put is that value. -/
theorem eq_of_get?_put {store : SortedStore κ ν} {key : κ} {value found : ν}
    (present : (store.put key value).get? key = some found) : value = found :=
  Option.some.inj ((get?_put_self store key value).symm.trans present)

theorem get?_put_of_ne (store : SortedStore κ ν) {key other : κ} (value : ν)
    (different : other ≠ key) : (store.put key value).get? other = store.get? other := by
  rcases store with ⟨entries, sorted⟩
  simp only [put, get?]
  congr 1
  induction entries with
  | nil => simp [putEntry, different.symm]
  | cons head rest ih =>
      simp only [putEntry]
      split
      · simp [different.symm]
      · split
        · rename_i same
          simp [different.symm, ← same]
        · simp only [List.find?_cons, ih sorted.of_cons]

/-- What an insertion does at every key. -/
theorem get?_put (store : SortedStore κ ν) (key other : κ) (value : ν) :
    (store.put key value).get? other = if other = key then some value else store.get? other := by
  by_cases same : other = key
  · rw [if_pos same, same, get?_put_self]
  · rw [if_neg same, get?_put_of_ne store value same]

/-- What is found after a removal was there, under another key. -/
theorem get?_erase_eq_some {store : SortedStore κ ν} {key other : κ} {value : ν} :
    (store.erase key).get? other = some value ↔ other ≠ key ∧ store.get? other = some value := by
  rw [← mem_entries_iff, ← mem_entries_iff]
  simp [erase, and_comm]

/-- What a removal does at every key. -/
theorem get?_erase (store : SortedStore κ ν) (key other : κ) :
    (store.erase key).get? other = if other = key then none else store.get? other := by
  by_cases same : other = key
  · rw [if_pos same]
    exact Option.eq_none_iff_forall_ne_some.mpr fun value found =>
      (get?_erase_eq_some.mp found).1 same
  · rw [if_neg same]
    refine Option.ext fun value => ?_
    rw [get?_erase_eq_some]
    simp [same]

/-- Write a value, or remove the key. -/
def set (store : SortedStore κ ν) (key : κ) : Option ν -> SortedStore κ ν
  | some value => store.put key value
  | none => store.erase key

/-- What either write does at every key. -/
theorem get?_set (store : SortedStore κ ν) (key other : κ) (value : Option ν) :
    (store.set key value).get? other = if other = key then value else store.get? other := by
  cases value with
  | some value => exact store.get?_put key other value
  | none => exact store.get?_erase key other

/-- Keep the entries a test accepts. -/
def filter (store : SortedStore κ ν) (keep : ν -> Bool) : SortedStore κ ν :=
  ⟨store.entries.filter fun entry => keep entry.2, store.sorted.filter _⟩

theorem get?_filter {store : SortedStore κ ν} {keep : ν -> Bool} {key : κ} {value : ν} :
    (store.filter keep).get? key = some value ↔ store.get? key = some value ∧ keep value = true := by
  rw [← mem_entries_iff, ← mem_entries_iff]
  simp [filter]

/-! ## A property of all entries -/

/-- Every entry has the property. -/
def Every (store : SortedStore κ ν) (property : κ -> ν -> Prop) : Prop :=
  forall key value, store.get? key = some value -> property key value

section Every

variable {store : SortedStore κ ν} {property : κ -> ν -> Prop}

theorem every_empty (property : κ -> ν -> Prop) : (empty : SortedStore κ ν).Every property := by
  intro key value found
  cases found

theorem every_put_iff (every : store.Every property) (key : κ) (value : ν) :
    (store.put key value).Every property ↔ property key value := by
  constructor
  · intro all
    exact all key value (store.get?_put_self key value)
  · intro holds other found written
    rw [get?_put] at written
    split at written
    · rename_i same
      cases written
      rw [same]
      exact holds
    · exact every other found written

theorem Every.put (every : store.Every property) {key : κ} {value : ν}
    (holds : property key value) : (store.put key value).Every property :=
  (every_put_iff every key value).mpr holds

theorem Every.erase (every : store.Every property) (key : κ) :
    (store.erase key).Every property :=
  fun other value found => every other value (get?_erase_eq_some.mp found).2

end Every

/-! ## Stores as maps -/

/-- A store is determined by its lookups. -/
theorem ext_get? {first second : SortedStore κ ν}
    (same : forall key, first.get? key = second.get? key) : first = second := by
  have members : forall entry, entry ∈ first.entries ↔ entry ∈ second.entries := by
    rintro ⟨key, value⟩
    rw [mem_entries_iff, mem_entries_iff, same key]
  have distinct : forall store : SortedStore κ ν, store.entries.Nodup := fun store =>
    store.sorted.imp fun before equal => ne_of_lt before (congrArg Prod.fst equal)
  have perm := (List.perm_ext_iff_of_nodup (distinct first) (distinct second)).mpr members
  have entries : first.entries = second.entries :=
    perm.eq_of_pairwise
      (fun _ _ _ _ before after => absurd (lt_trans before after) (lt_irrefl _))
      first.sorted second.sorted
  cases first
  cases second
  cases entries
  rfl

/-- Keep the entries whose key a test accepts. -/
def restrict (store : SortedStore κ ν) (keep : κ -> Bool) : SortedStore κ ν :=
  ⟨store.entries.filter fun entry => keep entry.1, store.sorted.filter _⟩

theorem get?_restrict (store : SortedStore κ ν) (keep : κ -> Bool) (key : κ) :
    (store.restrict keep).get? key = if keep key then store.get? key else none := by
  have listed : forall value, (store.restrict keep).get? key = some value ↔
      keep key = true ∧ store.get? key = some value := by
    intro value
    rw [← mem_entries_iff, ← mem_entries_iff]
    simp [restrict, and_comm]
  apply Option.ext
  intro value
  rw [listed value]
  cases keep key <;> simp

/-- Write every entry of the second store into the first one. -/
def merge (store other : SortedStore κ ν) : SortedStore κ ν :=
  other.entries.foldl (fun merged entry => merged.put entry.1 entry.2) store

theorem get?_merge (store other : SortedStore κ ν) (key : κ) :
    (store.merge other).get? key = (other.get? key).or (store.get? key) := by
  rcases other with ⟨entries, sorted⟩
  simp only [merge, get?]
  induction entries generalizing store with
  | nil => simp
  | cons head rest ih =>
      rcases List.pairwise_cons.mp sorted with ⟨headFirst, restSorted⟩
      have tail := ih (store.put head.1 head.2) restSorted
      simp only [List.foldl_cons, List.find?_cons]
      by_cases same : head.1 = key
      · have absent : (rest.find? fun entry => decide (entry.1 = key)) = none := by
          apply List.find?_eq_none.mpr
          intro entry listed
          simpa [← same] using (ne_of_gt (headFirst entry listed))
        have written := store.get?_put_self head.1 head.2
        simp only [get?, same] at written
        rw [absent, same, written] at tail
        rw [same, tail]
        simp
      · have kept := store.get?_put_of_ne head.2 (Ne.symm same)
        simp only [get?] at kept
        rw [kept] at tail
        simpa [same] using tail

/-- A store without entries has nothing at any key. -/
theorem isEmpty_iff {store : SortedStore κ ν} :
    store.entries.isEmpty = true ↔ forall key, store.get? key = none := by
  rw [List.isEmpty_iff, List.eq_nil_iff_forall_not_mem]
  constructor
  · intro empty key
    apply Option.eq_none_iff_forall_ne_some.mpr
    intro value found
    exact empty (key, value) ((store.mem_entries_iff key value).mpr found)
  · rintro nothing ⟨key, value⟩ listed
    rw [mem_entries_iff, nothing key] at listed
    cases listed

/-- The two halves of a store, put together again. -/
theorem merge_restrict (store : SortedStore κ ν) (keep : κ -> Bool) :
    (store.restrict fun key => !keep key).merge (store.restrict keep) = store := by
  apply ext_get?
  intro key
  rw [get?_merge, get?_restrict, get?_restrict]
  cases keep key <;> simp

/-! ## Parts of a store -/

theorem filter_get? (store : SortedStore κ ν) (keep : ν -> Bool) (key : κ) :
    (store.filter keep).get? key = (store.get? key).filter keep := by
  apply Option.ext
  intro value
  rw [get?_filter, Option.filter_eq_some_iff]

/-- A write of a value that is kept reaches the part. -/
theorem filter_put (store : SortedStore κ ν) {keep : ν -> Bool} (key : κ) {value : ν}
    (kept : keep value = true) :
    (store.put key value).filter keep = (store.filter keep).put key value := by
  apply ext_get?
  intro other
  rw [filter_get?, get?_put, get?_put, filter_get?]
  by_cases same : other = key
  · simp [same, kept]
  · simp [same]

/-- A write of a value that is not kept takes the key out of the part. -/
theorem filter_put_of_not (store : SortedStore κ ν) {keep : ν -> Bool} (key : κ) {value : ν}
    (dropped : keep value = false) :
    (store.put key value).filter keep = (store.filter keep).erase key := by
  apply ext_get?
  intro other
  rw [filter_get?, get?_put, get?_erase, filter_get?]
  by_cases same : other = key
  · simp [same, dropped]
  · simp [same]

theorem filter_erase (store : SortedStore κ ν) (keep : ν -> Bool) (key : κ) :
    (store.erase key).filter keep = (store.filter keep).erase key := by
  apply ext_get?
  intro other
  rw [filter_get?, get?_erase, get?_erase, filter_get?]
  by_cases same : other = key <;> simp [same]

/-- A write to an absent key can be taken back. -/
theorem erase_put {store : SortedStore κ ν} {key : κ} (absent : store.get? key = none)
    (value : ν) : (store.put key value).erase key = store := by
  apply ext_get?
  intro other
  rw [get?_erase, get?_put]
  by_cases same : other = key
  · simp [same, absent]
  · simp [same]

/-- A write changes nothing if it writes what is there. -/
theorem put_eq_self_iff {store : SortedStore κ ν} {key : κ} {value : ν} :
    store.put key value = store ↔ store.get? key = some value := by
  constructor
  · intro same
    have found := store.get?_put_self key value
    rwa [same] at found
  · intro found
    apply ext_get?
    intro other
    rw [get?_put]
    by_cases here : other = key
    · rw [if_pos here, here, found]
    · rw [if_neg here]

/-- A removal changes nothing if nothing is there. -/
theorem erase_eq_self_iff {store : SortedStore κ ν} {key : κ} :
    store.erase key = store ↔ store.get? key = none := by
  constructor
  · intro same
    have gone := store.get?_erase key key
    rwa [same, if_pos rfl] at gone
  · intro absent
    apply ext_get?
    intro other
    rw [get?_erase]
    by_cases here : other = key
    · rw [if_pos here, here, absent]
    · rw [if_neg here]

/-- A write that is taken back leaves the store as it was only at an absent key. -/
theorem erase_put_eq_self_iff {store : SortedStore κ ν} {key : κ} {value : ν} :
    (store.put key value).erase key = store ↔ store.get? key = none := by
  constructor
  · intro same
    have gone := (store.put key value).get?_erase key key
    rwa [same, if_pos rfl] at gone
  · exact fun absent => erase_put absent value

/-- Two stores with the same kept values have the same part. -/
theorem filter_congr {first second : SortedStore κ ν} {keep : ν -> Bool}
    (same : forall key, (first.get? key).filter keep = (second.get? key).filter keep) :
    first.filter keep = second.filter keep := by
  apply ext_get?
  intro key
  rw [filter_get?, filter_get?, same key]

/-! ## The order of the entries -/

/-- Two entries with one key are one entry. -/
theorem eq_of_key_eq {store : SortedStore κ ν} {first second : κ × ν}
    (firstListed : first ∈ store.entries) (secondListed : second ∈ store.entries)
    (same : first.1 = second.1) : first = second := by
  have found := (store.mem_entries_iff first.1 first.2).mp firstListed
  rw [same, (store.mem_entries_iff second.1 second.2).mp secondListed] at found
  exact Prod.ext same (Option.some.inj found).symm

/-- The entries before a key. -/
def before (store : SortedStore κ ν) (key : κ) : List (κ × ν) :=
  store.entries.filter fun entry => decide (entry.1 < key)

/-- Where an entry is listed, the entries before its key stand in front of it. -/
theorem before_eq {store : SortedStore κ ν} {entry : κ × ν} {front back : List (κ × ν)}
    (split : store.entries = front ++ entry :: back) : store.before entry.1 = front := by
  have ordered := store.sorted
  rw [split, List.pairwise_append] at ordered
  rcases ordered with ⟨_, tail, across⟩
  have earlier : front.filter (fun other => decide (other.1 < entry.1)) = front :=
    List.filter_eq_self.mpr fun other member =>
      decide_eq_true (across other member entry List.mem_cons_self)
  have later : back.filter (fun other => decide (other.1 < entry.1)) = [] :=
    List.filter_eq_nil_iff.mpr fun other member => by
      simpa using le_of_lt ((List.pairwise_cons.mp tail).1 other member)
  rw [before, split, List.filter_append, List.filter_cons, earlier, later]
  simp

/-! ## Listing by pages -/

/-- A key lies behind the cursor; the empty cursor is before every key. -/
def Behind : Option κ -> κ -> Prop
  | none, _ => True
  | some last, key => last < key

instance (cursor : Option κ) (key : κ) : Decidable (Behind cursor key) := by
  cases cursor with
  | none => exact instDecidableTrue
  | some last => exact inferInstanceAs (Decidable (last < key))

/-- The entries behind the cursor, in key order. -/
def after (store : SortedStore κ ν) (cursor : Option κ) : List (κ × ν) :=
  store.entries.filter fun entry => decide (Behind cursor entry.1)

/-- The first entries behind the cursor, `limit` of them at most. -/
def page (store : SortedStore κ ν) (cursor : Option κ) (limit : Nat) : List (κ × ν) :=
  (store.after cursor).take limit

/-- The cursor behind a page: its last key, or the old cursor for an empty page. -/
def nextCursor (cursor : Option κ) (entries : List (κ × ν)) : Option κ :=
  match entries.getLast? with
  | some entry => some entry.1
  | none => cursor

theorem mem_after (store : SortedStore κ ν) (cursor : Option κ) (key : κ) (value : ν) :
    (key, value) ∈ store.after cursor ↔ Behind cursor key ∧ store.get? key = some value := by
  rw [← mem_entries_iff]
  simp [after, and_comm]

theorem mem_page {store : SortedStore κ ν} {cursor : Option κ} {limit : Nat} {key : κ} {value : ν}
    (listed : (key, value) ∈ store.page cursor limit) :
    Behind cursor key ∧ store.get? key = some value :=
  (store.mem_after cursor key value).mp (List.mem_of_mem_take listed)

/-- An entry behind the cursor is on the page or behind the page's end. -/
theorem mem_page_or_behind (store : SortedStore κ ν) {cursor : Option κ} (limit : Nat) {key : κ}
    {value : ν} (behind : Behind cursor key) (found : store.get? key = some value) :
    (key, value) ∈ store.page cursor limit ∨
      ((key, value) ∈ (store.after cursor).drop limit ∧
        Behind (nextCursor cursor (store.page cursor limit)) key) := by
  have member : (key, value) ∈ store.after cursor :=
    (store.mem_after cursor key value).mpr ⟨behind, found⟩
  rw [← List.take_append_drop limit (store.after cursor)] at member
  rcases List.mem_append.mp member with onPage | beyond
  · exact Or.inl onPage
  · refine Or.inr ⟨beyond, ?_⟩
    unfold nextCursor
    cases last : (store.page cursor limit).getLast? with
    | none => exact behind
    | some entry =>
        have ordered := store.sorted.filter fun entry => decide (Behind cursor entry.1)
        change (store.after cursor).Pairwise _ at ordered
        rw [← List.take_append_drop limit (store.after cursor)] at ordered
        exact (List.pairwise_append.mp ordered).2.2 entry (List.mem_of_getLast? last) _ beyond

/-- The entries behind a page are those behind its last key. -/
theorem after_nextCursor {store : SortedStore κ ν} {cursor : Option κ} {front back : List (κ × ν)}
    (listing : store.after cursor = front ++ back) (filled : front ≠ []) :
    store.after (nextCursor cursor front) = back := by
  rcases List.eq_nil_or_concat' front with empty | ⟨init, last, rfl⟩
  · exact absurd empty filled
  · have ordered := store.sorted.filter fun entry => decide (Behind cursor entry.1)
    change (store.after cursor).Pairwise _ at ordered
    have behind : Behind cursor last.1 := by
      have member : last ∈ store.after cursor := by
        rw [listing]
        simp
      exact ((store.mem_after cursor last.1 last.2).mp member).1
    have further : store.after (some last.1) =
        (store.after cursor).filter fun entry => decide (last.1 < entry.1) := by
      rw [after, after, List.filter_filter]
      refine List.filter_congr fun entry _ => ?_
      have implied : last.1 < entry.1 -> Behind cursor entry.1 := by
        intro beyond
        cases cursor with
        | none => trivial
        | some start => exact lt_trans behind beyond
      have same : Behind (some last.1) entry.1 ↔ last.1 < entry.1 := Iff.rfl
      by_cases beyond : last.1 < entry.1
      · simp [same, beyond, implied beyond]
      · simp [same, beyond]
    rw [listing, List.append_assoc, List.pairwise_append] at ordered
    rcases ordered with ⟨_, tail, across⟩
    rw [List.singleton_append, List.pairwise_cons] at tail
    have earlier : init.filter (fun entry => decide (last.1 < entry.1)) = [] :=
      List.filter_eq_nil_iff.mpr fun entry member => by
        simpa using le_of_lt (across entry member last List.mem_cons_self)
    have later : back.filter (fun entry => decide (last.1 < entry.1)) = back :=
      List.filter_eq_self.mpr fun entry member => decide_eq_true (tail.1 entry member)
    have cursorIs : nextCursor cursor (init ++ [last]) = some last.1 := by
      simp [nextCursor]
    rw [cursorIs, further, listing, List.filter_append, List.filter_append, earlier, later]
    simp

end SortedStore

end Library
end Basement
