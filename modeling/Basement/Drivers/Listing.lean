import Basement.Drivers.Storage
import Mathlib.Data.List.Nodup
import Mathlib.Data.List.Range

namespace Basement
namespace Drivers

open Library

/-!
# Listings with a delimiter

A service lists the keys under a prefix as rows: a key that goes on with the delimiter is rolled
up into a folder, and keys of one folder have one row.  The rows come in pages, in the order of
their names, and the token of a page names its last row.
-/

/-- How a service makes pages. -/
structure Pager where
  maxKeys : Nat
  token : String -> String
  rowOfToken : String -> Option String
  positive : 0 < maxKeys
  rowOfToken_token : forall row, rowOfToken (token row) = some row
  token_ne : forall row, token row ≠ ""

/-- A pager whose tokens are the names behind a mark. -/
def namedPager (maxKeys : Nat) (positive : 0 < maxKeys) : Pager where
  maxKeys := maxKeys
  token row := "t" ++ row
  rowOfToken text := some (String.ofList (text.toList.drop 1))
  positive := positive
  rowOfToken_token row := by
    have rest : ("t" ++ row).toList.drop 1 = row.toList := by
      rw [String.toList_append]
      rfl
    rw [rest, String.ofList_toList]
  token_ne row := by
    intro empty
    have lengths := congrArg (fun text : String => text.toList.length) empty
    rw [String.toList_append, List.length_append] at lengths
    have one : "t".toList.length = 1 := rfl
    have none : "".toList.length = 0 := rfl
    omega

inductive RowKind where
  | object
  | folder
  deriving DecidableEq, Repr

/-- The part of a key after a prefix. -/
def afterRoot (root key : String) : List Char := key.toList.drop root.toList.length

/-- The row of a key: its name and its kind. -/
def rowOf (root : String) (delimiter : Option Char) (key : String) : String × RowKind :=
  match delimiter with
  | none => (key, .object)
  | some mark =>
      if mark ∈ afterRoot root key then
        (root ++ String.ofList ((afterRoot root key).takeWhile (· != mark) ++ [mark]), .folder)
      else (key, .object)

/-- The rows of a listing. -/
def rows {ν : Type} (objects : SortedStore String ν) (root : String) (delimiter : Option Char) :
    SortedStore String RowKind :=
  (keysUnder objects root).foldr
    (fun key listed => listed.put (rowOf root delimiter key).1 (rowOf root delimiter key).2) .empty

structure ObjectPage where
  objects : List String
  commonPrefixes : List String
  isTruncated : Bool
  nextContinuation : String
  deriving DecidableEq, Repr

namespace Pager

/-- The row behind which a page starts. -/
def cursor (pager : Pager) (continuation : String) : Option (Option String) :=
  if continuation = "" then some none else (pager.rowOfToken continuation).map some

/-- The names of the rows of one kind. -/
def names (kind : RowKind) (page : List (String × RowKind)) : List String :=
  (page.filter fun row => row.2 == kind).map Prod.fst

/-- `ListObjects` of a bucket. -/
def listObjects {ν : Type} (pager : Pager) (objects : SortedStore String ν) (root : String)
    (continuation : String) (delimiter : Option Char) (limit : Nat) : Option ObjectPage :=
  match pager.cursor continuation with
  | none => none
  | some cursor =>
      let listed := rows objects root delimiter
      let size := min limit pager.maxKeys
      let page := listed.page cursor size
      let isTruncated := decide (size < (listed.after cursor).length)
      some {
        objects := names .object page
        commonPrefixes := names .folder page
        isTruncated := isTruncated
        nextContinuation :=
          if isTruncated then
            match SortedStore.nextCursor cursor page with
            | some last => pager.token last
            | none => ""
          else "" }

end Pager

/-! ## Rows -/

section Rows

variable {ν : Type} {objects : SortedStore String ν} {root : String} {delimiter : Option Char}

theorem afterRoot_append (root rest : String) : afterRoot root (root ++ rest) = rest.toList := by
  rw [afterRoot, String.toList_append, List.drop_left]

/-- Keys with one row name have one row. -/
theorem rowOf_eq_of_name {first second : String}
    (same : (rowOf root delimiter first).1 = (rowOf root delimiter second).1) :
    rowOf root delimiter first = rowOf root delimiter second := by
  cases delimiter with
  | none => exact Prod.ext same rfl
  | some mark =>
      have marked (key : String) : mark ∈ afterRoot root
          (root ++ String.ofList ((afterRoot root key).takeWhile (· != mark) ++ [mark])) := by
        rw [afterRoot_append, String.toList_ofList]
        exact List.mem_append_right _ (List.mem_singleton_self mark)
      refine Prod.ext same ?_
      rw [rowOf, rowOf] at same ⊢
      by_cases one : mark ∈ afterRoot root first
      · by_cases two : mark ∈ afterRoot root second
        · simp only [if_pos one, if_pos two]
        · simp only [if_pos one, if_neg two] at same
          exact absurd (same ▸ marked first) two
      · by_cases two : mark ∈ afterRoot root second
        · simp only [if_neg one, if_pos two] at same
          exact absurd (same ▸ marked second) one
        · simp only [if_neg one, if_neg two]

theorem get?_foldr_put {ρ : Type} (row : String -> String × ρ)
    (consistent : forall first second, (row first).1 = (row second).1 -> row first = row second)
    (keys : List String) (name : String) (value : ρ) :
    ((keys.foldr (fun key listed => listed.put (row key).1 (row key).2)
      (SortedStore.empty : SortedStore String ρ)).get? name = some value) ↔
      Exists fun key => key ∈ keys ∧ row key = (name, value) := by
  induction keys with
  | nil => simp [SortedStore.empty, SortedStore.get?]
  | cons key rest ih =>
      rw [List.foldr_cons, SortedStore.get?_put]
      by_cases here : name = (row key).1
      · rw [if_pos here]
        constructor
        · intro found
          exact ⟨key, List.mem_cons_self, Prod.ext here.symm (Option.some.inj found)⟩
        · rintro ⟨other, -, same⟩
          have one := consistent key other (by rw [same]; exact here.symm)
          rw [one, same]
      · rw [if_neg here, ih]
        constructor
        · rintro ⟨other, member, same⟩
          exact ⟨other, List.mem_cons_of_mem key member, same⟩
        · rintro ⟨other, member, same⟩
          rcases List.mem_cons.mp member with rfl | listed
          · exact absurd (by rw [same]) here
          · exact ⟨other, listed, same⟩

theorem get?_rows {name : String} {kind : RowKind} :
    (rows objects root delimiter).get? name = some kind ↔
      Exists fun key => key ∈ keysUnder objects root ∧ rowOf root delimiter key = (name, kind) :=
  get?_foldr_put (rowOf root delimiter) (fun _ _ => rowOf_eq_of_name) _ name kind

/-- Without a delimiter the rows are the keys. -/
theorem get?_rows_flat {name : String} {kind : RowKind} :
    (rows objects root none).get? name = some kind ↔
      name ∈ keysUnder objects root ∧ kind = .object := by
  rw [get?_rows]
  constructor
  · rintro ⟨key, member, same⟩
    cases same
    exact ⟨member, rfl⟩
  · rintro ⟨member, rfl⟩
    exact ⟨name, member, rfl⟩

end Rows

/-! ## Pages -/

namespace Pager

theorem cursor_empty (pager : Pager) : pager.cursor "" = some none := if_pos rfl

theorem cursor_token (pager : Pager) (row : String) :
    pager.cursor (pager.token row) = some (some row) := by
  rw [cursor, if_neg (pager.token_ne row), pager.rowOfToken_token, Option.map_some]

theorem mem_names {kind : RowKind} {page : List (String × RowKind)} {name : String} :
    name ∈ names kind page ↔ (name, kind) ∈ page := by
  simp [names]

end Pager

/-- A row is on a page. -/
def ObjectPage.Has (page : ObjectPage) (kind : RowKind) (name : String) : Prop :=
  match kind with
  | .object => name ∈ page.objects
  | .folder => name ∈ page.commonPrefixes

/-- A page holds rows behind a cursor, all of them if it is not truncated; otherwise it holds
some and lacks some, and its token names a row behind which the others are. -/
structure Pager.Answers (pager : Pager) (listed : SortedStore String RowKind)
    (cursor : Option String) (page : ObjectPage) : Prop where
  sound : forall kind name, page.Has kind name ->
    SortedStore.Behind cursor name ∧ listed.get? name = some kind
  objects : page.objects.Nodup
  commonPrefixes : page.commonPrefixes.Nodup
  whole : page.isTruncated = false -> forall kind name, SortedStore.Behind cursor name ->
    listed.get? name = some kind -> page.Has kind name
  further : page.isTruncated = true -> Exists fun last =>
    page.nextContinuation = pager.token last ∧ (Exists fun kind => page.Has kind last) ∧
      forall kind name, SortedStore.Behind cursor name -> listed.get? name = some kind ->
        page.Has kind name ∨ SortedStore.Behind (some last) name
  lacks : page.isTruncated = true -> Exists fun kind => Exists fun name =>
    listed.get? name = some kind ∧ ¬ page.Has kind name

namespace Pager

variable {ν : Type}

theorem listed_nodup {ρ : Type} (listed : SortedStore String ρ) (cursor : Option String) :
    ((listed.after cursor).map Prod.fst).Nodup :=
  List.pairwise_map.mpr ((listed.sorted.filter _).imp fun before => ne_of_lt before)

theorem names_page_nodup (listed : SortedStore String RowKind) (cursor : Option String)
    (size : Nat) (kind : RowKind) : (names kind (listed.page cursor size)).Nodup := by
  have part : ((listed.page cursor size).map Prod.fst).Nodup := by
    rw [SortedStore.page, List.map_take]
    exact (listed_nodup listed cursor).sublist (List.take_sublist _ _)
  exact part.sublist (List.filter_sublist.map _)

theorem has_names {page : List (String × RowKind)} {truncated : Bool} {next : String}
    {kind : RowKind} {name : String} :
    ObjectPage.Has ⟨names .object page, names .folder page, truncated, next⟩ kind name ↔
      (name, kind) ∈ page := by
  cases kind with
  | object => exact mem_names
  | folder => exact mem_names

/-- `ListObjects` answers for the cursor of its token. -/
theorem listObjects_answers (pager : Pager) (objects : SortedStore String ν) (root : String)
    (delimiter : Option Char) {continuation : String} {cursor : Option String}
    (told : pager.cursor continuation = some cursor) {limit : Nat} (positive : 0 < limit) :
    Exists fun page => pager.listObjects objects root continuation delimiter limit = some page ∧
      pager.Answers (rows objects root delimiter) cursor page := by
  rw [listObjects, told]
  refine ⟨_, rfl, ?_⟩
  generalize rows objects root delimiter = listed
  have room : 0 < min limit pager.maxKeys := lt_min positive pager.positive
  generalize min limit pager.maxKeys = size at *
  have distinct := listed_nodup listed cursor
  constructor
  case sound =>
    intro kind name has
    exact SortedStore.mem_page (has_names.mp has)
  case objects => exact names_page_nodup listed cursor size .object
  case commonPrefixes => exact names_page_nodup listed cursor size .folder
  case whole =>
    intro short kind name behind found
    rw [has_names, SortedStore.page, List.take_of_length_le (not_lt.mp (of_decide_eq_false short))]
    exact (listed.mem_after cursor name kind).mpr ⟨behind, found⟩
  case further =>
    intro long
    have more := of_decide_eq_true long
    have filled : listed.page cursor size ≠ [] := by
      rw [← List.length_pos_iff, SortedStore.page, List.length_take_of_le (le_of_lt more)]
      exact room
    rcases List.eq_nil_or_concat' (listed.page cursor size) with empty | ⟨init, last, split⟩
    · exact absurd empty filled
    · have next : SortedStore.nextCursor cursor (listed.page cursor size) = some last.1 := by
        rw [SortedStore.nextCursor, split, List.getLast?_concat]
      refine ⟨last.1, ?_, ⟨last.2, ?_⟩, ?_⟩
      · rw [if_pos long, next]
      · rw [has_names, split]
        exact List.mem_append_right init (List.mem_singleton_self last)
      · intro kind name behind found
        rw [has_names]
        rcases listed.mem_page_or_behind size behind found with here | ⟨-, beyond⟩
        · exact Or.inl here
        · rw [next] at beyond
          exact Or.inr beyond
  case lacks =>
    intro long
    have more := of_decide_eq_true long
    have left : (listed.after cursor).drop size ≠ [] := by
      rw [← List.length_pos_iff, List.length_drop]
      exact Nat.sub_pos_of_lt more
    rcases List.exists_mem_of_ne_nil _ left with ⟨⟨name, kind⟩, beyond⟩
    refine ⟨kind, name, ((listed.mem_after cursor name kind).mp (List.mem_of_mem_drop beyond)).2, ?_⟩
    intro has
    have here := has_names.mp has
    rw [← List.take_append_drop size (listed.after cursor), List.map_append] at distinct
    exact (List.nodup_append.mp distinct).2.2 name (List.mem_map_of_mem here) name
      (List.mem_map_of_mem beyond) rfl

theorem length_names (page : List (String × RowKind)) :
    (names .object page).length + (names .folder page).length = page.length := by
  rw [names, names, List.length_map, List.length_map,
    List.length_eq_length_filter_add (l := page) fun row => row.2 == .object]
  congr 2
  apply List.filter_congr
  intro row _
  cases row.2 <;> rfl

/-- The first page holds the first rows. -/
theorem listObjects_first (pager : Pager) (objects : SortedStore String ν) (root : String)
    (delimiter : Option Char) (limit : Nat) :
    Exists fun page => pager.listObjects objects root "" delimiter limit = some page ∧
      (forall kind name, page.Has kind name ↔
        (name, kind) ∈ (rows objects root delimiter).entries.take (min limit pager.maxKeys)) ∧
      page.objects.Nodup ∧ page.commonPrefixes.Nodup ∧
      page.objects.length + page.commonPrefixes.length ≤ limit ∧
      page.isTruncated =
        decide (min limit pager.maxKeys < (rows objects root delimiter).entries.length) := by
  rw [listObjects, cursor_empty]
  have every : (rows objects root delimiter).after none = (rows objects root delimiter).entries :=
    List.filter_eq_self.mpr fun _ _ => decide_eq_true trivial
  have all : (names .object ((rows objects root delimiter).page none
        (min limit pager.maxKeys))).length +
      (names .folder ((rows objects root delimiter).page none (min limit pager.maxKeys))).length ≤
        limit := by
    rw [length_names]
    exact le_trans (List.length_take_le _ _) (min_le_left _ _)
  refine ⟨_, rfl, ?_, names_page_nodup _ none _ .object, names_page_nodup _ none _ .folder,
    all, ?_⟩
  · intro kind name
    rw [has_names, SortedStore.page, every]
  · rw [every]

end Pager

/-! ## The rows of a folder -/

section Folder

variable {ν : Type} {objects : SortedStore String ν} {root name : String} {mark : Char}

theorem mem_keysUnder_append {rest : String} :
    root ++ rest ∈ keysUnder objects root ↔ objects.get? (root ++ rest) ≠ none := by
  rw [mem_keysUnder]
  exact and_iff_left ⟨rest, rfl⟩

/-- The row of an object right under the prefix. -/
theorem get?_rows_object :
    (rows objects root (some mark)).get? name = some .object ↔
      Exists fun label => name = root ++ label ∧ mark ∉ label.toList ∧
        objects.get? name ≠ none := by
  rw [get?_rows]
  constructor
  · rintro ⟨key, member, same⟩
    rcases mem_keysUnder.mp member with ⟨present, label, rfl⟩
    rw [rowOf, afterRoot_append] at same
    split at same
    · cases same
    · rename_i plain
      cases same
      exact ⟨label, rfl, plain, present⟩
  · rintro ⟨label, rfl, plain, present⟩
    refine ⟨root ++ label, mem_keysUnder_append.mpr present, ?_⟩
    rw [rowOf, afterRoot_append, if_neg plain]

theorem takeWhile_ne_append {label : List Char} (plain : mark ∉ label) (rest : List Char) :
    (label ++ mark :: rest).takeWhile (· != mark) = label := by
  rw [List.takeWhile_append_of_pos, List.takeWhile_cons_of_neg, List.append_nil]
  · simp
  · intro letter member
    exact bne_iff_ne.mpr fun same => plain (same ▸ member)

/-- The row of a folder right under the prefix. -/
theorem get?_rows_folder :
    (rows objects root (some mark)).get? name = some .folder ↔
      Exists fun label => name = root ++ label ++ String.ofList [mark] ∧ mark ∉ label.toList ∧
        Exists fun rest => objects.get? (root ++ label ++ String.ofList [mark] ++ rest) ≠ none := by
  rw [get?_rows]
  constructor
  · rintro ⟨key, member, same⟩
    rcases mem_keysUnder.mp member with ⟨present, tail, rfl⟩
    rw [rowOf, afterRoot_append] at same
    split at same
    · rename_i marked
      rcases List.eq_append_cons_of_mem marked with ⟨label, rest, split, plain⟩
      have text : tail = String.ofList label ++ String.ofList [mark] ++ String.ofList rest := by
        rw [← String.toList_inj, split]
        simp
      rw [split, takeWhile_ne_append plain] at same
      cases same
      refine ⟨String.ofList label, ?_, ?_, String.ofList rest, ?_⟩
      · rw [← String.toList_inj]
        simp
      · rw [String.toList_ofList]
        exact plain
      · rw [text, ← String.append_assoc, ← String.append_assoc] at present
        exact present
    · cases same
  · rintro ⟨label, rfl, plain, rest, present⟩
    refine ⟨root ++ label ++ String.ofList [mark] ++ rest, ?_, ?_⟩
    · rw [String.append_assoc, String.append_assoc] at present ⊢
      exact mem_keysUnder_append.mpr present
    · have after : afterRoot root (root ++ label ++ String.ofList [mark] ++ rest) =
          label.toList ++ mark :: rest.toList := by
        rw [String.append_assoc, String.append_assoc, afterRoot_append, String.toList_append,
          String.toList_append, String.toList_ofList]
        rfl
      have marked : mark ∈ label.toList ++ mark :: rest.toList :=
        List.mem_append_right _ List.mem_cons_self
      rw [rowOf, after, if_pos marked, takeWhile_ne_append plain, String.append_assoc]
      refine Prod.ext ?_ rfl
      rw [← String.toList_inj]
      simp

end Folder

/-! ## A folder of any size -/

/-- The names `a`, `aa` and so on. -/
def pictureNames (count : Nat) : List String :=
  (List.range count).map fun n => String.ofList (List.replicate (n + 1) 'a')

/-- A folder with so many pictures. -/
def album (root : String) (count : Nat) : SortedStore String StoredObject :=
  (pictureNames count).foldr
    (fun name objects => objects.put (root ++ name) ⟨[1], "image/png"⟩) .empty

theorem pictureNames_length (count : Nat) : (pictureNames count).length = count := by
  rw [pictureNames, List.length_map, List.length_range]

theorem pictureNames_nodup (count : Nat) : (pictureNames count).Nodup := by
  apply List.nodup_range.map
  intro first second same
  have lengths := congrArg (fun text : String => text.toList.length) same
  simp only [String.toList_ofList, List.length_replicate] at lengths
  omega

theorem pictureNames_plain {count : Nat} {name : String} (listed : name ∈ pictureNames count) :
    name ≠ "" ∧ '/' ∉ name.toList := by
  rcases List.mem_map.mp listed with ⟨n, -, rfl⟩
  rw [String.toList_ofList]
  constructor
  · intro blank
    have lengths := congrArg (fun text : String => text.toList.length) blank
    simp at lengths
  · intro slash
    exact absurd (List.eq_of_mem_replicate slash) (by decide)

theorem album_holds (root : String) {count : Nat} {name : String}
    (listed : name ∈ pictureNames count) : (album root count).get? (root ++ name) ≠ none := by
  have found := (get?_foldr_put (fun name => (root ++ name, (⟨[1], "image/png"⟩ : StoredObject)))
    (fun first second same => Prod.ext same rfl) (pictureNames count) (root ++ name) _).mpr
      ⟨name, listed, rfl⟩
  rw [album, found]
  exact Option.some_ne_none _

end Drivers
end Basement
