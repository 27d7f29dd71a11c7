import Basement.Gateway.Paths
import Mathlib.Algebra.BigOperators.Group.Finset.Basic
import Mathlib.Data.List.Dedup
import Mathlib.Data.List.TakeWhile

namespace Basement
namespace Gateway

open Library Drivers

/-!
# Listing a folder

A folder is opened with one page of its listing, whose rows become the entries of an open
directory, folders first.  A row whose name ends with the prefix has no label and is skipped.
The entries are then read in chunks, with an offset that is a machine integer.
-/

/-- What a directory entry tells of a child. -/
structure FileInfo where
  name : String
  isDir : Bool
  deriving DecidableEq, Repr

/-! ## Opening -/

/-- `strings.TrimPrefix`. -/
def trimPrefix (text start : String) : String :=
  if start.toList.isPrefixOf text.toList then String.ofList (text.toList.drop start.toList.length)
  else text

def folderInfo (root commonPrefix : String) : Option FileInfo :=
  let label := trimSuffixSlash (trimPrefix commonPrefix root)
  if label = "" then none else some ⟨label, true⟩

def objectInfo (root key : String) : Option FileInfo :=
  if key = root ∧ endsWithSlash key = true then none
  else
    let label := trimPrefix key root
    if label = "" then none else some ⟨label, false⟩

/-- The entries that `openListing` makes of a page. -/
def pageChildren (root : String) (page : ObjectPage) : List FileInfo :=
  page.commonPrefixes.filterMap (folderInfo root) ++ page.objects.filterMap (objectInfo root)

structure BucketInfo where
  id : String
  aliases : List String
  deriving DecidableEq, Repr

/-- The answers of the backend to the calls that open a path. -/
structure OpenCalls where
  listBuckets : String -> Except FsError (List BucketInfo)
  getObject : String -> String -> String -> Except FsError StoredObject
  listObjects : Option DriverError
  isProbablyFolder : Option DriverError

/-- An open path: a directory or an object to read. -/
inductive File where
  | directory (children : List FileInfo)
  | object (key : String) (object : StoredObject)

variable (site : Site) (pager : Pager)

/-- `openListing`. -/
def openListing (regionID bucket root : String) (fault : Option DriverError) (storage : Storage) :
    Except FsError File :=
  match site.listObjects pager regionID bucket root (some '/') "" 1000 fault storage with
  | .error error => .error error
  | .ok page => .ok (.directory (pageChildren root page))

/-- A key as a prefix of what is below it. -/
def folderKey (key : String) : String := if endsWithSlash key then key else key ++ "/"

def isProbablyFolder (regionID bucket key : String) (fault : Option DriverError)
    (storage : Storage) : Bool :=
  match site.listObjects pager regionID bucket (folderKey key) (some '/') "" 1 fault storage with
  | .error _ => false
  | .ok page => !page.objects.isEmpty || !page.commonPrefixes.isEmpty

/-- `OpenFile`, for reading. -/
def openFile (regions : Except FsError (List Region)) (calls : OpenCalls) (name : String)
    (storage : Storage) : Except FsError File :=
  match parsePath regions name with
  | .error error => .error error
  | .ok resolved =>
      match resolved with
      | .root =>
          regions.map fun listed => .directory (listed.map fun region => ⟨region.regionAlias, true⟩)
      | .region region =>
          (calls.listBuckets region.id).map fun buckets =>
            .directory (buckets.map fun bucket => ⟨bucket.aliases.head?.getD bucket.id, true⟩)
      | .bucket region bucket =>
          openListing site pager region.id bucket "" calls.listObjects storage
      | .object region bucket key =>
          if endsWithSlash key then
            openListing site pager region.id bucket key calls.listObjects storage
          else
            match calls.getObject region.id bucket key with
            | .ok object => .ok (.object key object)
            | .error error =>
                if error = .notFound then
                  if isProbablyFolder site pager region.id bucket key calls.isProbablyFolder
                      storage then
                    openListing site pager region.id bucket (folderKey key) calls.listObjects
                      storage
                  else .error .notExist
                else .error error

/-! ## Reading -/

structure DirFile where
  children : List FileInfo
  offset : Nat

/-- What `Readdir` does: a slice beyond the ends panics. -/
inductive ReadOutcome where
  | panicked
  | read (entries : List FileInfo) (eof : Bool) (next : DirFile)

/-- The sum of two machine integers. -/
def wrapped (sum : Int) : Int := sum.bmod (2 ^ 64)

/-- `Readdir`. -/
def DirFile.readdir (d : DirFile) (count : Int) : ReadOutcome :=
  if d.children.length ≤ d.offset then .read [] (decide (0 < count)) d
  else if count ≤ 0 then
    .read (d.children.drop d.offset) false ⟨d.children, d.children.length⟩
  else
    let stop := min (wrapped (d.offset + count)) d.children.length
    if stop < d.offset then .panicked
    else
      .read ((d.children.drop d.offset).take (stop.toNat - d.offset)) false
        ⟨d.children, stop.toNat⟩

/-- The entries that a client sees that reads a directory with some counts until it ends, from one
call on.  It ends with the remainder, which a count that is not positive asks for, or with the end
of the file. -/
def readAll (counts : Nat -> Int64) : Nat -> Nat -> DirFile -> Option (List FileInfo)
  | 0, _, _ => none
  | fuel + 1, call, d =>
      match d.readdir (counts call).toInt with
      | .panicked => none
      | .read entries eof next =>
          if eof = true ∨ (counts call).toInt ≤ 0 then some entries
          else (readAll counts fuel (call + 1) next).map (entries ++ ·)

/-! ## What a listing is to be -/

/-- A child of a folder: an object right under the prefix, or a next segment of a longer key. -/
def IsChild {ν : Type} (objects : SortedStore String ν) (root : String) (info : FileInfo) : Prop :=
  info.name ≠ "" ∧ '/' ∉ info.name.toList ∧
    if info.isDir then Exists fun rest => objects.get? (root ++ info.name ++ "/" ++ rest) ≠ none
    else objects.get? (root ++ info.name) ≠ none

/-- The child of a folder that a key belongs to; the folder's marker belongs to none. -/
def childOf (root key : String) : Option FileInfo :=
  let label := String.ofList ((afterRoot root key).takeWhile (· != '/'))
  if label = "" then none else some ⟨label, decide ('/' ∈ afterRoot root key)⟩

/-- The children of a folder, each once. -/
def childrenOf {ν : Type} (objects : SortedStore String ν) (root : String) : List FileInfo :=
  ((keysUnder objects root).filterMap (childOf root)).dedup

/-- The folder that a path names. -/
def folderOf : Resolved -> Option (Region × String × String)
  | .root | .region _ => none
  | .bucket region bucket => some (region, bucket, "")
  | .object region bucket key => some (region, bucket, folderKey key)

/-- What the first calls of a client have asked for. -/
def total (counts : Nat -> Int64) (calls : Nat) : Int :=
  Finset.sum (Finset.range calls) fun call => (counts call).toInt

/-- While there are entries to read, the counts stay within a machine integer. -/
def Fits (counts : Nat -> Int64) (size : Nat) : Prop :=
  forall call, (forall earlier, earlier ≤ call -> 0 < (counts earlier).toInt) ->
    total counts call < size -> total counts (call + 1) < 2 ^ 63

/-- The label of a row, without the slash of a folder. -/
def rowLabel (root : String) (row : String × RowKind) : String :=
  match row.2 with
  | .object => String.ofList (afterRoot root row.1)
  | .folder => String.ofList (afterRoot root row.1).dropLast

/-- The rows behind the first page have no labels. -/
def FirstPageHolds {ν : Type} (pager : Pager) (objects : SortedStore String ν) (root : String) :
    Prop :=
  forall row, row ∈ (rows objects root (some '/')).entries.drop (min 1000 pager.maxKeys) ->
    rowLabel root row = ""

/-! ## The entries of a page -/

section Entries

variable {ν : Type} {objects : SortedStore String ν} {root : String}

theorem trimPrefix_append (root rest : String) : trimPrefix (root ++ rest) root = rest := by
  have under : root.toList.isPrefixOf (root ++ rest).toList = true := by
    rw [isPrefixOf_iff]
    exact ⟨rest, rfl⟩
  rw [trimPrefix, if_pos under, String.toList_append, List.drop_left, String.ofList_toList]

theorem trimSuffixSlash_append (label : String) : trimSuffixSlash (label ++ "/") = label := by
  have text : (label ++ "/").toList = label.toList ++ ['/'] := String.toList_append
  have slash : endsWithSlash (label ++ "/") = true := by
    rw [endsWithSlash, text, List.getLast?_concat]
    rfl
  rw [trimSuffixSlash, if_pos slash, text, List.dropLast_concat, String.ofList_toList]

theorem folderInfo_append (root label : String) :
    folderInfo root (root ++ label ++ "/") = if label = "" then none else some ⟨label, true⟩ := by
  rw [folderInfo, String.append_assoc, trimPrefix_append, trimSuffixSlash_append]

theorem append_eq_self_iff {root label : String} : root ++ label = root ↔ label = "" := by
  constructor
  · intro same
    have lists := congrArg String.toList same
    rw [String.toList_append, List.append_right_eq_self] at lists
    exact String.toList_eq_nil_iff.mp lists
  · rintro rfl
    exact String.append_empty

theorem objectInfo_append (root label : String) :
    objectInfo root (root ++ label) = if label = "" then none else some ⟨label, false⟩ := by
  rw [objectInfo, trimPrefix_append]
  by_cases blank : label = ""
  · rw [if_pos blank, ite_self]
  · rw [if_neg fun marker => blank (append_eq_self_iff.mp marker.1)]

/-- The name of the row that a child has. -/
def childRow (root : String) (info : FileInfo) : String × RowKind :=
  if info.isDir then (root ++ info.name ++ "/", .folder) else (root ++ info.name, .object)

/-- The children are the rows with a label. -/
theorem isChild_iff_row {info : FileInfo} :
    IsChild objects root info ↔ info.name ≠ "" ∧
      '/' ∉ info.name.toList ∧
        (rows objects root (some '/')).get? (childRow root info).1 = some (childRow root info).2 := by
  rw [IsChild]
  refine and_congr_right fun _ => and_congr_right fun plain => ?_
  rcases info with ⟨label, isDir⟩
  cases isDir with
  | true =>
      rw [childRow, if_pos rfl, if_pos rfl, get?_rows_folder]
      constructor
      · rintro ⟨rest, present⟩
        exact ⟨label, rfl, plain, rest, present⟩
      · rintro ⟨other, same, -, rest, present⟩
        have slash : String.ofList ['/'] = "/" := rfl
        rw [← same] at present
        exact ⟨rest, present⟩
  | false =>
      rw [childRow, if_neg Bool.false_ne_true, if_neg Bool.false_ne_true, get?_rows_object]
      constructor
      · intro present
        exact ⟨label, rfl, plain, present⟩
      · rintro ⟨-, -, -, present⟩
        exact present

theorem rowLabel_childRow (root : String) (info : FileInfo) :
    rowLabel root (childRow root info) = info.name := by
  rcases info with ⟨label, isDir⟩
  cases isDir with
  | true =>
      rw [childRow, if_pos rfl, rowLabel]
      simp only [String.append_assoc, afterRoot_append, String.toList_append]
      rw [show "/".toList = ['/'] from rfl, List.dropLast_concat, String.ofList_toList]
  | false =>
      rw [childRow, if_neg Bool.false_ne_true, rowLabel]
      simp only [afterRoot_append, String.ofList_toList]

/-- Every row is that of a child, if its label is not empty. -/
theorem exists_childRow {name : String} {kind : RowKind}
    (found : (rows objects root (some '/')).get? name = some kind) :
    Exists fun info => '/' ∉ info.name.toList ∧ childRow root info = (name, kind) := by
  cases kind with
  | object =>
      rcases get?_rows_object.mp found with ⟨label, same, plain, -⟩
      exact ⟨⟨label, false⟩, plain, by rw [same]; rfl⟩
  | folder =>
      rcases get?_rows_folder.mp found with ⟨label, same, plain, -⟩
      exact ⟨⟨label, true⟩, plain, by rw [same]; rfl⟩

theorem childRow_injective (root : String) {first second : FileInfo}
    (same : childRow root first = childRow root second) : first = second := by
  have names : first.name = second.name := by
    rw [← rowLabel_childRow root first, same, rowLabel_childRow]
  have kinds : first.isDir = second.isDir := by
    have kind := congrArg Prod.snd same
    rw [childRow, childRow] at kind
    cases one : first.isDir <;> cases two : second.isDir <;> simp_all
  cases first
  cases second
  cases names
  cases kinds
  rfl

/-- What `openListing` makes of a row. -/
def rowInfo (root : String) (row : String × RowKind) : Option FileInfo :=
  match row.2 with
  | .folder => folderInfo root row.1
  | .object => objectInfo root row.1

theorem rowInfo_childRow (root : String) (info : FileInfo) :
    rowInfo root (childRow root info) = if info.name = "" then none else some info := by
  rcases info with ⟨label, isDir⟩
  cases isDir with
  | true => exact folderInfo_append root label
  | false => exact objectInfo_append root label

/-- The page holds rows of the folder, each once. -/
structure OfFolder (objects : SortedStore String ν) (root : String) (page : ObjectPage) : Prop where
  rows : forall kind name, page.Has kind name ->
    (rows objects root (some '/')).get? name = some kind
  objects : page.objects.Nodup
  commonPrefixes : page.commonPrefixes.Nodup

section Page

variable {page : ObjectPage}

/-- An entry comes from the row of its child. -/
theorem OfFolder.row_of_info (ofFolder : OfFolder objects root page) {kind : RowKind}
    {name : String} {info : FileInfo} (has : page.Has kind name)
    (made : rowInfo root (name, kind) = some info) :
    info.name ≠ "" ∧ childRow root info = (name, kind) := by
  rcases exists_childRow (ofFolder.rows kind name has) with ⟨child, -, row⟩
  rw [← row, rowInfo_childRow] at made
  split at made
  · cases made
  · rename_i named
    cases made
    exact ⟨named, row⟩

theorem OfFolder.mem_pageChildren (ofFolder : OfFolder objects root page) {info : FileInfo} :
    info ∈ pageChildren root page ↔
      info.name ≠ "" ∧ page.Has (childRow root info).2 (childRow root info).1 := by
  rw [pageChildren, List.mem_append, List.mem_filterMap, List.mem_filterMap]
  constructor
  · rintro (⟨name, listed, made⟩ | ⟨name, listed, made⟩)
    · have from_row := @OfFolder.row_of_info _ _ _ _ ofFolder .folder name info listed made
      rw [from_row.2]
      exact ⟨from_row.1, listed⟩
    · have from_row := @OfFolder.row_of_info _ _ _ _ ofFolder .object name info listed made
      rw [from_row.2]
      exact ⟨from_row.1, listed⟩
  · rintro ⟨named, has⟩
    have made := rowInfo_childRow root info
    rw [if_neg named] at made
    rcases info with ⟨label, isDir⟩
    cases isDir with
    | true => exact Or.inl ⟨_, has, made⟩
    | false => exact Or.inr ⟨_, has, made⟩

/-- The entries of one kind are distinct. -/
theorem OfFolder.infos_nodup (ofFolder : OfFolder objects root page) (kind : RowKind)
    {names : List String} (distinct : names.Nodup)
    (listed : forall name, name ∈ names -> page.Has kind name) :
    (names.filterMap fun name => rowInfo root (name, kind)).Nodup := by
  apply List.pairwise_filterMap.mpr
  apply distinct.imp_of_mem
  intro first second firstListed secondListed apart info one other two same
  apply apart
  rw [← same] at two
  have firstRow := (ofFolder.row_of_info (listed first firstListed) one).2
  have secondRow := (ofFolder.row_of_info (listed second secondListed) two).2
  exact congrArg Prod.fst (firstRow.symm.trans secondRow)

theorem OfFolder.pageChildren_nodup (ofFolder : OfFolder objects root page) :
    (pageChildren root page).Nodup := by
  apply List.nodup_append.mpr
  refine ⟨ofFolder.infos_nodup .folder ofFolder.commonPrefixes fun _ listed => listed,
    ofFolder.infos_nodup .object ofFolder.objects fun _ listed => listed, ?_⟩
  intro first firstListed second secondListed same
  rcases List.mem_filterMap.mp firstListed with ⟨name, listed, one⟩
  rcases List.mem_filterMap.mp secondListed with ⟨other, otherListed, two⟩
  have firstRow := (@OfFolder.row_of_info _ _ _ _ ofFolder .folder name first listed one).2
  have secondRow := (@OfFolder.row_of_info _ _ _ _ ofFolder .object other second otherListed two).2
  rw [same, secondRow] at firstRow
  cases firstRow

end Page

theorem childOf_append (root rest : String) :
    childOf root (root ++ rest) =
      let label := String.ofList (rest.toList.takeWhile (· != '/'))
      if label = "" then none else some ⟨label, decide ('/' ∈ rest.toList)⟩ := by
  rw [childOf, afterRoot_append]

/-- The children that are counted are the children. -/
theorem mem_childrenOf {info : FileInfo} :
    info ∈ childrenOf objects root ↔ IsChild objects root info := by
  rw [childrenOf, List.mem_dedup, List.mem_filterMap]
  constructor
  · rintro ⟨key, member, made⟩
    rcases mem_keysUnder.mp member with ⟨present, rest, rfl⟩
    rw [childOf_append] at made
    dsimp only at made
    split at made
    · cases made
    · rename_i named
      cases made
      by_cases slash : '/' ∈ rest.toList
      · rcases List.eq_append_cons_of_mem slash with ⟨label, tail, split, plain⟩
        have text : rest = String.ofList label ++ "/" ++ String.ofList tail := by
          rw [← String.toList_inj, split]
          simp
        rw [split, takeWhile_ne_append plain] at named ⊢
        refine ⟨named, by rw [String.toList_ofList]; exact plain, ?_⟩
        have marked : decide ('/' ∈ label ++ '/' :: tail) = true :=
          decide_eq_true (List.mem_append_right _ List.mem_cons_self)
        rw [if_pos marked]
        refine ⟨String.ofList tail, ?_⟩
        rw [text, ← String.append_assoc, ← String.append_assoc] at present
        exact present
      · have whole : rest.toList.takeWhile (· != '/') = rest.toList :=
          List.takeWhile_eq_self_iff.mpr fun letter member =>
            bne_iff_ne.mpr fun same => slash (same ▸ member)
        rw [whole, String.ofList_toList] at named ⊢
        refine ⟨named, slash, ?_⟩
        rw [if_neg (by simpa using slash)]
        exact present
  · rintro ⟨named, plain, present⟩
    rcases info with ⟨label, isDir⟩
    cases isDir with
    | true =>
        rw [if_pos rfl] at present
        rcases present with ⟨rest, present⟩
        refine ⟨root ++ (label ++ "/" ++ rest), ?_, ?_⟩
        · rw [← String.append_assoc, ← String.append_assoc]
          have member := @mem_keysUnder_append _ objects root (label ++ "/" ++ rest)
          rw [← String.append_assoc, ← String.append_assoc] at member
          exact member.mpr present
        · have text : (label ++ "/" ++ rest).toList = label.toList ++ '/' :: rest.toList := by
            simp
          rw [childOf_append, text, takeWhile_ne_append plain, String.ofList_toList]
          dsimp only at named ⊢
          rw [if_neg named]
          simp
    | false =>
        rw [if_neg Bool.false_ne_true] at present
        refine ⟨root ++ label, mem_keysUnder_append.mpr present, ?_⟩
        have whole : label.toList.takeWhile (· != '/') = label.toList :=
          List.takeWhile_eq_self_iff.mpr fun letter member =>
            bne_iff_ne.mpr fun same => plain (same ▸ member)
        rw [childOf_append, whole, String.ofList_toList]
        dsimp only at named plain ⊢
        rw [if_neg named, decide_eq_false plain]

theorem childrenOf_nodup (objects : SortedStore String ν) (root : String) :
    (childrenOf objects root).Nodup :=
  List.nodup_dedup _

theorem row_found {row : String × RowKind} (listed : row ∈ (rows objects root (some '/')).entries) :
    (rows objects root (some '/')).get? row.1 = some row.2 :=
  ((rows objects root (some '/')).mem_entries_iff row.1 row.2).mp listed

/-- The first page makes all children exactly if the rows behind it have no labels. -/
theorem pageChildren_perm_iff {pager : Pager} {page : ObjectPage}
    (ofFolder : OfFolder objects root page)
    (first : forall kind name, page.Has kind name ↔
      (name, kind) ∈ (rows objects root (some '/')).entries.take (min 1000 pager.maxKeys)) :
    (pageChildren root page).Perm (childrenOf objects root) ↔
      FirstPageHolds pager objects root := by
  rw [List.perm_ext_iff_of_nodup ofFolder.pageChildren_nodup (childrenOf_nodup objects root)]
  have onPage (info : FileInfo) : page.Has (childRow root info).2 (childRow root info).1 ↔
      childRow root info ∈ (rows objects root (some '/')).entries.take (min 1000 pager.maxKeys) :=
    first _ _
  constructor
  · intro all row behind
    by_cases named : rowLabel root row = ""
    · exact named
    · have listed := List.mem_of_mem_drop behind
      rcases exists_childRow (row_found listed) with ⟨info, plain, isRow⟩
      have same : childRow root info = row := isRow
      rw [← same, rowLabel_childRow] at named
      have child : IsChild objects root info := by
        refine isChild_iff_row.mpr ⟨named, plain, ?_⟩
        rw [same]
        exact row_found listed
      have has := (ofFolder.mem_pageChildren.mp ((all info).mpr (mem_childrenOf.mpr child))).2
      have here := (onPage info).mp has
      rw [same] at here
      have distinct : (rows objects root (some '/')).entries.Nodup :=
        (rows objects root (some '/')).sorted.imp fun before same => by
          rw [same] at before
          exact lt_irrefl _ before
      rw [← List.take_append_drop (min 1000 pager.maxKeys)
        (rows objects root (some '/')).entries] at distinct
      exact absurd rfl ((List.nodup_append.mp distinct).2.2 row here row behind)
  · intro holds info
    rw [ofFolder.mem_pageChildren, mem_childrenOf, isChild_iff_row, onPage]
    constructor
    · rintro ⟨named, here⟩
      have found := row_found (List.mem_of_mem_take here)
      rcases exists_childRow found with ⟨other, plain, same⟩
      rw [childRow_injective root same] at plain
      exact ⟨named, plain, found⟩
    · rintro ⟨named, -, found⟩
      refine ⟨named, ?_⟩
      have listed := ((rows objects root (some '/')).mem_entries_iff _ _).mpr found
      rw [← List.take_append_drop (min 1000 pager.maxKeys)
        (rows objects root (some '/')).entries] at listed
      rcases List.mem_append.mp listed with here | behind
      · exact here
      · have blank := holds _ behind
        have same := rowLabel_childRow root info
        exact absurd (same.symm.trans blank) named

end Entries

/-! ## Reading to the end -/

section Reading

variable {counts : Nat -> Int64} {children : List FileInfo}

theorem total_succ (counts : Nat -> Int64) (call : Nat) :
    total counts (call + 1) = total counts call + (counts call).toInt :=
  Finset.sum_range_succ _ _

/-- Where a reader is that has asked for entries only. -/
def position (counts : Nat -> Int64) (children : List FileInfo) (call : Nat) : DirFile :=
  ⟨children, (min (total counts call) children.length).toNat⟩

theorem total_mono {call later : Nat} (before : call ≤ later)
    (positive : forall earlier, earlier < later -> 0 < (counts earlier).toInt) :
    total counts call ≤ total counts later := by
  induction later, before using Nat.le_induction with
  | base => exact le_refl _
  | succ later _ ih =>
      rw [total_succ]
      have step := ih fun earlier before => positive earlier (Nat.lt_succ_of_lt before)
      have more := positive later (Nat.lt_succ_self later)
      omega

theorem total_nonneg {call : Nat}
    (positive : forall earlier, earlier < call -> 0 < (counts earlier).toInt) :
    0 ≤ total counts call := by
  have start : total counts 0 = 0 := Finset.sum_range_zero _
  rw [← start]
  exact total_mono (Nat.zero_le call) positive

theorem positive_upTo {call : Nat}
    (positive : forall earlier, earlier < call -> 0 < (counts earlier).toInt)
    (more : 0 < (counts call).toInt) :
    forall earlier, earlier ≤ call -> 0 < (counts earlier).toInt := by
  intro earlier before
  rcases Nat.lt_or_eq_of_le before with sooner | last
  · exact positive earlier sooner
  · rw [last]
    exact more

theorem not_stopped {call : Nat} (more : 0 < (counts call).toInt) :
    ¬ (false = true ∨ (counts call).toInt ≤ 0) := by
  rintro (done | done)
  · cases done
  · omega

theorem wrapped_of_lt {sum : Int} (low : 0 ≤ sum) (high : sum < 2 ^ 63) : wrapped sum = sum :=
  Int.bmod_eq_of_le (by omega) (by omega)

theorem wrapped_of_ge {sum : Int} (low : 2 ^ 63 ≤ sum) (high : sum < 2 ^ 64) :
    wrapped sum = sum - 2 ^ 64 := by
  have around : (sum - ((2 ^ 64 : Nat) : Int)).bmod (2 ^ 64) = wrapped sum :=
    Int.sub_bmod_right sum (2 ^ 64)
  rw [← around, Int.bmod_eq_of_le (by omega) (by omega)]
  rfl

/-- What a call does to a reader that has asked for entries only. -/
theorem readdir_position {call : Nat} (small : children.length < 2 ^ 62)
    (positive : forall earlier, earlier < call -> 0 < (counts earlier).toInt) :
    ((children.length : Int) ≤ total counts call ∧
      (position counts children call).readdir (counts call).toInt =
        .read [] (decide (0 < (counts call).toInt)) (position counts children call)) ∨
    (total counts call < children.length ∧ (counts call).toInt ≤ 0 ∧
      Exists fun next => (position counts children call).readdir (counts call).toInt =
        .read (children.drop (total counts call).toNat) false next) ∨
    (total counts call < children.length ∧ 0 < (counts call).toInt ∧
      2 ^ 63 ≤ total counts (call + 1) ∧
      (position counts children call).readdir (counts call).toInt = .panicked) ∨
    (total counts call < children.length ∧ 0 < (counts call).toInt ∧
      total counts (call + 1) < 2 ^ 63 ∧
      (position counts children call).readdir (counts call).toInt =
        .read ((children.drop (total counts call).toNat).take (counts call).toInt.toNat) false
          (position counts children (call + 1))) := by
  have start := total_nonneg positive
  have top := (counts call).toInt_lt
  rw [DirFile.readdir]
  by_cases ended : (children.length : Int) ≤ total counts call
  · left
    have past : (position counts children call).children.length ≤
        (position counts children call).offset := by
      change children.length ≤ (min (total counts call) children.length).toNat
      rw [min_eq_right ended, Int.toNat_natCast]
    exact ⟨ended, if_pos past⟩
  · right
    have within : total counts call < children.length := not_le.mp ended
    have here : position counts children call = ⟨children, (total counts call).toNat⟩ := by
      rw [position, min_eq_left (le_of_lt within)]
    have offset : ((total counts call).toNat : Int) = total counts call := Int.toNat_of_nonneg start
    rw [here]
    dsimp only
    rw [if_neg (by omega)]
    by_cases remainder : (counts call).toInt ≤ 0
    · rw [if_pos remainder]
      exact Or.inl ⟨within, remainder, _, rfl⟩
    · right
      have more : 0 < (counts call).toInt := not_le.mp remainder
      rw [if_neg remainder, offset, ← total_succ]
      have next := total_succ counts call
      by_cases large : 2 ^ 63 ≤ total counts (call + 1)
      · left
        rw [wrapped_of_ge large (by omega), if_pos (by omega)]
        exact ⟨within, more, large, rfl⟩
      · right
        have fits : total counts (call + 1) < 2 ^ 63 := not_le.mp large
        rw [wrapped_of_lt (by omega) fits, if_neg (by omega)]
        refine ⟨within, more, fits, ?_⟩
        rw [position]
        congr 1
        have left : (children.drop (total counts call).toNat).length =
            children.length - (total counts call).toNat := List.length_drop
        by_cases whole : (children.length : Int) ≤ total counts (call + 1)
        · rw [min_eq_right whole, Int.toNat_natCast, List.take_of_length_le (by omega),
            List.take_of_length_le (by omega)]
        · rw [min_eq_left (le_of_lt (not_le.mp whole))]
          congr 1
          omega

/-- A chunk and what is left behind it. -/
theorem chunk_append {before count after : Int} (start : 0 ≤ before) (more : 0 < count)
    (next : after = before + count) :
    (children.drop before.toNat).take count.toNat ++
        children.drop (min after children.length).toNat = children.drop before.toNat := by
  have left : (children.drop before.toNat).length = children.length - before.toNat :=
    List.length_drop
  by_cases whole : (children.length : Int) ≤ after
  · rw [min_eq_right whole, Int.toNat_natCast, List.drop_length, List.append_nil,
      List.take_of_length_le (by omega)]
  · have sum : after.toNat = before.toNat + count.toNat := by omega
    rw [min_eq_left (le_of_lt (not_le.mp whole)), sum, ← List.drop_drop, List.take_append_drop]

/-- A reader whose counts fit gets what is left. -/
theorem readAll_of_fits (small : children.length < 2 ^ 62) (fits : Fits counts children.length) :
    forall (fuel call : Nat),
      (forall earlier, earlier < call -> 0 < (counts earlier).toInt) ->
      (children.length : Int) < fuel + total counts call -> 0 < fuel ->
        readAll counts fuel call (position counts children call) =
          some (children.drop (min (total counts call) children.length).toNat) := by
  intro fuel
  induction fuel with
  | zero =>
      intro call _ _ impossible
      exact absurd impossible (Nat.lt_irrefl 0)
  | succ fuel ih =>
      intro call positive enough _
      rw [readAll]
      rcases readdir_position small positive with ⟨ended, same⟩ | ⟨within, remainder, next, same⟩ |
        ⟨within, more, large, -⟩ | ⟨within, more, small, same⟩
      · rw [same]
        have stops : decide (0 < (counts call).toInt) = true ∨ (counts call).toInt ≤ 0 := by
          rw [decide_eq_true_eq]
          omega
        dsimp only
        rw [if_pos stops, min_eq_right ended, Int.toNat_natCast, List.drop_length]
      · rw [same]
        dsimp only
        rw [if_pos (Or.inr remainder), min_eq_left (le_of_lt within)]
      · exact absurd (fits call (positive_upTo positive more) within) (not_lt.mpr large)
      · rw [same]
        have next := total_succ counts call
        have start := total_nonneg positive
        have further : forall earlier, earlier < call + 1 -> 0 < (counts earlier).toInt :=
          fun earlier before => positive_upTo positive more earlier (Nat.le_of_lt_succ before)
        dsimp only
        rw [if_neg (not_stopped more), ih (call + 1) further (by push_cast at enough; omega) (by omega),
          Option.map_some, min_eq_left (le_of_lt within), chunk_append start more next]

/-- A reader that gets to an end has asked with counts that fit. -/
theorem fits_of_readAll (small : children.length < 2 ^ 62) :
    forall (fuel call : Nat) (seen : List FileInfo),
      (forall earlier, earlier < call -> 0 < (counts earlier).toInt) ->
      readAll counts fuel call (position counts children call) = some seen ->
        forall later, call ≤ later ->
          (forall earlier, earlier ≤ later -> 0 < (counts earlier).toInt) ->
            total counts later < children.length -> total counts (later + 1) < 2 ^ 63 := by
  intro fuel
  induction fuel with
  | zero =>
      intro call seen _ read
      cases read
  | succ fuel ih =>
      intro call seen positive read later after all within
      rw [readAll] at read
      have upTo : total counts call ≤ total counts later :=
        total_mono after fun earlier before => all earlier (le_of_lt before)
      rcases readdir_position small positive with ⟨ended, same⟩ | ⟨-, remainder, next, same⟩ |
        ⟨-, more, large, same⟩ | ⟨-, more, fitting, same⟩
      · omega
      · exact absurd (all call after) (not_lt.mpr remainder)
      · rw [same] at read
        cases read
      · rcases Nat.eq_or_lt_of_le after with here | beyond
        · rw [← here]
          exact fitting
        · rw [same] at read
          dsimp only at read
          rw [if_neg (not_stopped more), Option.map_eq_some_iff] at read
          rcases read with ⟨rest, tail, -⟩
          exact ih (call + 1) rest (fun earlier before => all earlier (by omega)) tail later beyond
            all within

/-- More fuel does no harm. -/
theorem readAll_succ : forall (fuel call : Nat) (d : DirFile) (seen : List FileInfo),
    readAll counts fuel call d = some seen -> readAll counts (fuel + 1) call d = some seen := by
  intro fuel
  induction fuel with
  | zero =>
      intro call d seen read
      cases read
  | succ fuel ih =>
      intro call d seen read
      rw [readAll] at read ⊢
      cases outcome : d.readdir (counts call).toInt with
      | panicked =>
          rw [outcome] at read
          cases read
      | read entries eof next =>
          rw [outcome] at read
          dsimp only at read ⊢
          split
          · rename_i stops
            rwa [if_pos stops] at read
          · rename_i goesOn
            rw [if_neg goesOn, Option.map_eq_some_iff] at read
            rcases read with ⟨rest, tail, same⟩
            rw [ih _ _ _ tail, Option.map_some, same]

theorem readAll_le {fuel more call : Nat} {d : DirFile} {seen : List FileInfo} (le : fuel ≤ more)
    (read : readAll counts fuel call d = some seen) : readAll counts more call d = some seen := by
  induction more, le using Nat.le_induction with
  | base => exact read
  | succ more _ ih => exact readAll_succ more call d seen ih

theorem position_zero (counts : Nat -> Int64) (children : List FileInfo) :
    position counts children 0 = ⟨children, 0⟩ := by
  have start : total counts 0 = 0 := Finset.sum_range_zero _
  rw [position, start, min_eq_left (Int.natCast_nonneg _)]
  rfl

/-- A client reads the entries of a directory to the end exactly if its counts fit. -/
theorem readAll_iff (small : children.length < 2 ^ 62) (seen : List FileInfo) :
    (Exists fun fuel => readAll counts fuel 0 ⟨children, 0⟩ = some seen) ↔
      Fits counts children.length ∧ seen = children := by
  have none : forall earlier, earlier < 0 -> 0 < (counts earlier).toInt :=
    fun earlier before => absurd before (Nat.not_lt_zero earlier)
  have start : total counts 0 = 0 := Finset.sum_range_zero _
  have whole (fits : Fits counts children.length) (fuel : Nat) (enough : children.length < fuel) :
      readAll counts fuel 0 ⟨children, 0⟩ = some children := by
    have read := readAll_of_fits small fits fuel 0 none (by rw [start]; omega) (by omega)
    rw [position_zero, start, min_eq_left (Int.natCast_nonneg _)] at read
    exact read
  constructor
  · rintro ⟨fuel, read⟩
    have fits : Fits counts children.length := by
      rw [← position_zero counts children] at read
      exact fun call all within =>
        fits_of_readAll small fuel 0 seen none read call (Nat.zero_le call) all within
    refine ⟨fits, ?_⟩
    have longer := readAll_le (Nat.le_add_right fuel (children.length + 1)) read
    rw [whole fits _ (by omega)] at longer
    exact (Option.some.inj longer).symm
  · rintro ⟨fits, rfl⟩
    exact ⟨seen.length + 1, whole fits _ (Nat.lt_succ_self _)⟩

end Reading

/-! ## Listing a path -/

section Listing

variable {site : Site} {pager : Pager} {regions : Except FsError (List Region)}
  {endpoint bucket root : String} {storage : Storage}

/-- A listing that opens is made of the first page. -/
theorem openListing_ok {regionID : String} (driver : site.driverForRegion regionID = .ok endpoint)
    {fault : Option DriverError} {children : List FileInfo}
    (opened : openListing site pager regionID bucket root fault storage = .ok (.directory children)) :
    Exists fun page => children = pageChildren root page ∧
      OfFolder (storage (site.place endpoint bucket)) root page ∧
      (forall kind name, page.Has kind name ↔ (name, kind) ∈
        (rows (storage (site.place endpoint bucket)) root (some '/')).entries.take
          (min 1000 pager.maxKeys)) ∧
      children.length ≤ 1000 := by
  cases fault with
  | some error =>
      rw [openListing, Site.listObjects, driver] at opened
      cases opened
  | none =>
      rcases pager.listObjects_first (storage (site.place endpoint bucket)) root (some '/') 1000 with
        ⟨page, same, first, objects, folders, few, -⟩
      rw [openListing, listObjects_ok driver (by decide) same] at opened
      cases opened
      refine ⟨page, rfl, ⟨?_, objects, folders⟩, first, ?_⟩
      · intro kind name has
        exact row_found (List.mem_of_mem_take ((first kind name).mp has))
      · have one := List.length_filterMap_le (folderInfo root) page.commonPrefixes
        have two := List.length_filterMap_le (objectInfo root) page.objects
        rw [pageChildren, List.length_append]
        omega

/-- A path that opens as a folder is listed under the folder's prefix. -/
theorem openFile_folder {calls : OpenCalls} {name : String} {resolved : Resolved}
    {region : Region} {children : List FileInfo} (parsed : parsePath regions name = .ok resolved)
    (folder : folderOf resolved = some (region, bucket, root))
    (opened : openFile site pager regions calls name storage = .ok (.directory children)) :
    openListing site pager region.id bucket root calls.listObjects storage =
      .ok (.directory children) := by
  rw [openFile, parsed] at opened
  cases resolved with
  | root => cases folder
  | region held => cases folder
  | bucket held text =>
      cases folder
      exact opened
  | object held text key =>
      cases folder
      dsimp only at opened
      by_cases slash : endsWithSlash key = true
      · rw [if_pos slash] at opened
        rw [folderKey, if_pos slash]
        exact opened
      · rw [if_neg slash] at opened
        cases got : calls.getObject region.id bucket key with
        | ok object =>
            rw [got] at opened
            cases opened
        | error error =>
            rw [got] at opened
            dsimp only at opened
            split at opened
            · split at opened
              · exact opened
              · cases opened
            · cases opened

/-- What a client reads of an open folder is its children, each once, exactly if the rows behind
the first page have no labels and no count goes beyond a machine integer. -/
theorem listing_complete_iff {calls : OpenCalls} {name : String} {resolved : Resolved}
    {region : Region} {children : List FileInfo} (parsed : parsePath regions name = .ok resolved)
    (folder : folderOf resolved = some (region, bucket, root))
    (driver : site.driverForRegion region.id = .ok endpoint)
    (opened : openFile site pager regions calls name storage = .ok (.directory children))
    (counts : Nat -> Int64) :
    (Exists fun fuel => Exists fun seen => readAll counts fuel 0 ⟨children, 0⟩ = some seen ∧
      seen.Perm (childrenOf (storage (site.place endpoint bucket)) root)) ↔
      FirstPageHolds pager (storage (site.place endpoint bucket)) root ∧
        Fits counts (childrenOf (storage (site.place endpoint bucket)) root).length := by
  rcases openListing_ok driver (openFile_folder parsed folder opened) with
    ⟨page, rfl, ofFolder, first, few⟩
  have small : (pageChildren root page).length < 2 ^ 62 := by
    omega
  have whole := pageChildren_perm_iff ofFolder first
  constructor
  · rintro ⟨fuel, seen, read, same⟩
    rcases (readAll_iff small seen).mp ⟨fuel, read⟩ with ⟨fits, rfl⟩
    rw [← same.length_eq]
    exact ⟨whole.mp same, fits⟩
  · rintro ⟨holds, fits⟩
    have same := whole.mpr holds
    rw [← same.length_eq] at fits
    rcases (readAll_iff small _).mpr ⟨fits, rfl⟩ with ⟨fuel, read⟩
    exact ⟨fuel, _, read, same⟩

end Listing

/-! ## A crowded folder -/

/-- The backend answers every call. -/
def openCalls : OpenCalls where
  listBuckets _ := .ok []
  getObject _ _ _ := .error .notFound
  listObjects := none
  isProbablyFolder := none

theorem parsePath_photos :
    parsePath homeRegions "/home/photos" = .ok (.bucket ⟨"r1", "home"⟩ "photos") := by
  decide

theorem openFile_bucket (pager : Pager) (storage : Storage) :
    Exists fun children =>
      openFile homeSite pager homeRegions openCalls "/home/photos" storage =
        .ok (.directory children) := by
  rcases pager.listObjects_first (storage (homeSite.place "s3.example" "photos")) "" (some '/')
    1000 with ⟨page, same, -⟩
  refine ⟨pageChildren "" page, ?_⟩
  have listed : homeSite.listObjects pager "r1" "photos" "" (some '/') "" 1000 none storage =
      .ok page := listObjects_ok rfl (by decide) same
  rw [openFile, parsePath_photos]
  dsimp only
  rw [openListing, openCalls, listed]

/-- A bucket with one picture more than a page holds. -/
def crowdedStorage : Storage := fun _ => album "" 1001

theorem listing_complete_iff_crowded :
    Exists fun children =>
      openFile homeSite (namedPager 1000 (by decide)) homeRegions openCalls "/home/photos"
        crowdedStorage = .ok (.directory children) ∧
      ((Exists fun fuel => Exists fun seen =>
        readAll (fun _ => 7) fuel 0 ⟨children, 0⟩ = some seen ∧
          seen.Perm (childrenOf (crowdedStorage (homeSite.place "s3.example" "photos")) "")) ↔
        FirstPageHolds (namedPager 1000 (by decide))
            (crowdedStorage (homeSite.place "s3.example" "photos")) "" ∧
          Fits (fun _ => 7)
            (childrenOf (crowdedStorage (homeSite.place "s3.example" "photos")) "").length) := by
  rcases openFile_bucket (namedPager 1000 (by decide)) crowdedStorage with ⟨children, opened⟩
  exact ⟨children, opened, @listing_complete_iff homeSite (namedPager 1000 (by decide)) homeRegions
    "s3.example" "photos" "" crowdedStorage openCalls "/home/photos" _ _ children
    parsePath_photos rfl rfl opened fun _ => 7⟩

theorem crowdedStorage_children (place : Place) :
    1001 ≤ (childrenOf (crowdedStorage place) "").length := by
  have distinct : ((pictureNames 1001).map fun name => (⟨name, false⟩ : FileInfo)).Nodup :=
    (pictureNames_nodup 1001).map fun first second same => congrArg FileInfo.name same
  have within : ((pictureNames 1001).map fun name => (⟨name, false⟩ : FileInfo)) ⊆
      childrenOf (crowdedStorage place) "" := by
    intro info member
    rcases List.mem_map.mp member with ⟨name, listed, rfl⟩
    have plain := pictureNames_plain listed
    refine mem_childrenOf.mpr ⟨plain.1, plain.2, ?_⟩
    rw [if_neg Bool.false_ne_true]
    exact album_holds "" listed
  have most := (distinct.subperm within).length_le
  rw [List.length_map, pictureNames_length] at most
  exact most

/-- A folder of 1001 pictures is read to its end, and a picture is missing. -/
theorem crowded_folder_cut :
    Exists fun children =>
      openFile homeSite (namedPager 1000 (by decide)) homeRegions openCalls "/home/photos"
        crowdedStorage = .ok (.directory children) ∧
      (Exists fun fuel => readAll (fun _ => 0) fuel 0 ⟨children, 0⟩ = some children) ∧
      ¬ Exists fun fuel => Exists fun seen =>
        readAll (fun _ => 0) fuel 0 ⟨children, 0⟩ = some seen ∧
          seen.Perm (childrenOf (crowdedStorage (homeSite.place "s3.example" "photos")) "") := by
  rcases openFile_bucket (namedPager 1000 (by decide)) crowdedStorage with ⟨children, opened⟩
  rcases @openListing_ok homeSite _ "s3.example" "photos" "" crowdedStorage "r1" rfl none _
    (openFile_folder parsePath_photos rfl opened) with ⟨page, -, -, -, few⟩
  have small : children.length < 2 ^ 62 := by
    omega
  have fits : Fits (fun _ => 0) children.length := by
    intro call positive
    exact absurd (positive call (le_refl call)) (show ¬ 0 < (0 : Int64).toInt by decide)
  refine ⟨children, opened, (readAll_iff small children).mpr ⟨fits, rfl⟩, ?_⟩
  · rintro ⟨fuel, seen, read, same⟩
    rcases (readAll_iff small seen).mp ⟨fuel, read⟩ with ⟨-, rfl⟩
    have many := crowdedStorage_children (homeSite.place "s3.example" "photos")
    rw [← same.length_eq] at many
    omega

end Gateway
end Basement
