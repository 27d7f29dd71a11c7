import Basement.Library.MarkedPages
import Basement.Library.TextFields
import Mathlib.Data.List.TakeWhile

namespace Basement
namespace Drivers
namespace VersionHistory

open Library
open MarkedPages
open PercentEncoding (Bytes)
open TextFields (cut)

/-!
# The history of a bucket

A bucket with versioning keeps every version of an object and a marker for every deletion.  The
service lists them by key and, within a key, the newest first, and a page has its versions and its
delete markers in two lists.  A listing goes on strictly behind a key and a version.

The driver puts the two lists of a page one behind the other, and the key and the version into one
text with a bar in between.
-/

/-! ## The service -/

/-- A version or a delete marker. -/
structure Entry where
  key : Bytes
  versionID : Bytes
  isDeleteMarker : Bool
  isLatest : Bool := false
  lastModified : Option Int := none
  size : Int := 0
  eTag : Bytes := []
  deriving DecidableEq

/-- The history in the order of listings, the longest page, and what becomes of a version marker
that names no version of its key: the service refuses it, or goes on behind so many of the key's
entries. -/
structure Service where
  history : List Entry
  pageCap : Nat
  skips : Bytes -> Bytes -> Option Nat
  positive : 0 < pageCap
  sorted : history.Pairwise fun first second => ¬ second.key < first.key
  apart : history.Pairwise fun first second =>
    ¬ (first.key = second.key ∧ first.versionID = second.versionID)
  named : forall entry, entry ∈ history -> entry.key ≠ [] ∧ entry.versionID ≠ []

/-- `s3.ListObjectVersionsInput`. -/
structure Input where
  keyPrefix : Option Bytes
  maxKeys : Option Int
  keyMarker : Option Bytes
  versionIdMarker : Option Bytes

/-- `s3.ListObjectVersionsOutput`. -/
structure Output where
  versions : List Entry
  deleteMarkers : List Entry
  isTruncated : Bool
  nextKeyMarker : Bytes
  nextVersionIdMarker : Bytes

/-- The entries behind a version of a key. -/
def behind (key versionID : Bytes) : List Entry -> Option (List Entry)
  | [] => none
  | entry :: rest =>
      if entry.key = key ∧ entry.versionID = versionID then some rest
      else behind key versionID rest

/-- The entries strictly behind the markers. -/
def Service.after (service : Service) :
    Option Bytes -> Option Bytes -> Except String (List Entry)
  | none, none => .ok service.history
  | none, some _ => .error "InvalidArgument"
  | some key, none => .ok (service.history.dropWhile fun entry => !decide (key < entry.key))
  | some key, some versionID =>
      match behind key versionID service.history with
      | some rest => .ok rest
      | none =>
          match service.skips key versionID with
          | none => .error "InvalidArgument"
          | some count =>
              let rest := service.history.dropWhile fun entry => decide (entry.key < key)
              .ok (rest.drop (min count (rest.takeWhile fun entry => entry.key = key).length))

/-- The entries under a prefix. -/
def under (keyPrefix : Bytes) (entries : List Entry) : List Entry :=
  entries.filter fun entry => keyPrefix.isPrefixOf entry.key

/-- The page that the service answers with. -/
def Service.listObjectVersions (service : Service) (input : Input) : Except String Output :=
  if input.maxKeys.any fun maxKeys => maxKeys < 0 then .error "InvalidArgument"
  else
    match service.after input.keyMarker input.versionIdMarker with
    | .error code => .error code
    | .ok entries =>
        let rows := under (input.keyPrefix.getD []) entries
        let size :=
          match input.maxKeys with
          | none => service.pageCap
          | some maxKeys => min maxKeys.toNat service.pageCap
        let page := rows.take size
        let last := page.getLast?
        .ok {
          versions := page.filter fun entry => !entry.isDeleteMarker
          deleteMarkers := page.filter fun entry => entry.isDeleteMarker
          isTruncated := 0 < size && size < rows.length
          nextKeyMarker := (last.map Entry.key).getD []
          nextVersionIdMarker := (last.map Entry.versionID).getD [] }

/-! ## The driver -/

def bar : UInt8 := 124

/-- `splitVersionMarker`. -/
def splitVersionMarker (m : Bytes) : Bytes × Bytes := (cut bar m).getD (m, [])

/-- `joinVersionMarker`. -/
def joinVersionMarker (k v : Bytes) : Bytes := k ++ bar :: v

structure ObjectVersion where
  versionID : Bytes
  key : Bytes
  size : Int := 0
  eTag : Bytes := []
  lastModified : Int := 0
  isLatest : Bool
  isDeleteMarker : Bool
  deriving DecidableEq

/-- The row of an entry in `Versions`. -/
def versionRow (v : Entry) : ObjectVersion where
  versionID := v.versionID
  key := v.key
  size := v.size
  eTag := v.eTag
  isLatest := v.isLatest
  isDeleteMarker := false
  lastModified := v.lastModified.getD 0

/-- The row of an entry in `DeleteMarkers`. -/
def markerRow (dm : Entry) : ObjectVersion where
  versionID := dm.versionID
  key := dm.key
  isLatest := dm.isLatest
  isDeleteMarker := true
  lastModified := dm.lastModified.getD 0

/-- The error kinds of the driver, with their messages. -/
inductive DriverError where
  | notFound (op message : String)
  | permissionDenied (op message : String)
  | invalid (op message : String)
  deriving DecidableEq

/-- `wrapAWSVersioningErr`. -/
def wrapAWSVersioningErr (op code : String) : DriverError :=
  if code = "NoSuchBucket" then .notFound op "bucket not found"
  else if code = "NoSuchKey" ∨ code = "NoSuchVersion" then .notFound op "object version not found"
  else if code = "AccessDenied" ∨ code = "Forbidden" then .permissionDenied op code
  else .invalid op code

def orNone (text : Bytes) : Option Bytes := if text = [] then none else some text

/-- The request of a call.  The limit is converted to an `int32`. -/
def inputOf (keyPrefix versionIDMarker : Bytes) (limit : Int) : Input where
  keyPrefix := orNone keyPrefix
  maxKeys := if 0 < limit then some (limit.bmod (2 ^ 32)) else none
  keyMarker :=
    if versionIDMarker = [] then none else orNone (splitVersionMarker versionIDMarker).1
  versionIdMarker :=
    if versionIDMarker = [] then none else orNone (splitVersionMarker versionIDMarker).2

/-- `ListObjectVersions`: the rows of a page and the marker of the next one, empty if there is
none. -/
def listObjectVersions (service : Service) (keyPrefix versionIDMarker : Bytes) (limit : Int) :
    Except DriverError (List ObjectVersion × Bytes) :=
  match service.listObjectVersions (inputOf keyPrefix versionIDMarker limit) with
  | .error code => .error (wrapAWSVersioningErr "ListObjectVersions" code)
  | .ok out =>
      let versions := out.versions.map versionRow ++ out.deleteMarkers.map markerRow
      let next :=
        if out.isTruncated then joinVersionMarker out.nextKeyMarker out.nextVersionIdMarker else []
      .ok (versions, next)

/-! ## Reading a history -/

/-- The row that an entry should have. -/
def Entry.row (entry : Entry) : ObjectVersion :=
  if entry.isDeleteMarker then markerRow entry else versionRow entry

/-- What a listing under a prefix should have. -/
def Service.rows (service : Service) (keyPrefix : Bytes) : List Entry :=
  under keyPrefix service.history

/-- A call, with no next marker for an empty one. -/
def call (service : Service) (keyPrefix : Bytes) (limit : Int) (marker : Bytes) :
    Option (List ObjectVersion × Option Bytes) :=
  match listObjectVersions service keyPrefix marker limit with
  | .error _ => none
  | .ok (versions, next) => some (versions, orNone next)

/-- Reading with each returned marker comes to an end with every entry under the prefix once, and
each page has the rows of a key in the order of the history. -/
def ListsAll (service : Service) (keyPrefix : Bytes) (limit : Int) : Prop :=
  Exists fun fuel => Exists fun pages =>
    readAll (call service keyPrefix limit) fuel [] = some pages ∧
      pages.flatten.Perm ((service.rows keyPrefix).map Entry.row) ∧
      forall page, page ∈ pages -> forall key,
        (page.filter fun row => row.key = key).Sublist
          (((service.rows keyPrefix).map Entry.row).filter fun row => row.key = key)

/-! ## What a call answers -/

/-- The rows of a page as the driver returns them. -/
def fuse (page : List Entry) : List ObjectVersion :=
  (page.filter (fun entry => !entry.isDeleteMarker) ++
    page.filter fun entry => entry.isDeleteMarker).map Entry.row

def markerOf (entry : Entry) : Bytes := joinVersionMarker entry.key entry.versionID

def Service.pageSize (service : Service) (limit : Int) : Nat :=
  min (limit.bmod (2 ^ 32)).toNat service.pageCap

theorem rows_eq_fuse (page : List Entry) :
    (page.filter fun entry => !entry.isDeleteMarker).map versionRow ++
      (page.filter fun entry => entry.isDeleteMarker).map markerRow = fuse page := by
  unfold fuse
  rw [List.map_append]
  congr 1
  · apply List.map_congr_left
    intro entry listed
    have version := (List.mem_filter.mp listed).2
    rw [Bool.not_eq_true'] at version
    simp [Entry.row, version]
  · apply List.map_congr_left
    intro entry listed
    simp [Entry.row, (List.mem_filter.mp listed).2]

theorem orNone_of_ne {text : Bytes} (some : text ≠ []) : orNone text = Option.some text :=
  if_neg some

theorem markerOf_ne (entry : Entry) : markerOf entry ≠ [] := by
  unfold markerOf joinVersionMarker
  simp

theorem pageSize_pos {service : Service} {limit : Int} (fits : 0 < limit.bmod (2 ^ 32)) :
    0 < service.pageSize limit := by
  have cap := service.positive
  unfold Service.pageSize
  omega

/-- A call answers with the first rows behind its markers. -/
theorem call_eq {service : Service} {keyPrefix marker : Bytes} {limit : Int}
    {entries : List Entry} (positive : 0 < limit) (fits : 0 < limit.bmod (2 ^ 32))
    (after : service.after (inputOf keyPrefix marker limit).keyMarker
      (inputOf keyPrefix marker limit).versionIdMarker = .ok entries) :
    call service keyPrefix limit marker =
      some (fuse ((under keyPrefix entries).take (service.pageSize limit)),
        if service.pageSize limit < (under keyPrefix entries).length then
          ((under keyPrefix entries).take (service.pageSize limit)).getLast?.map markerOf
        else none) := by
  have size := @pageSize_pos service limit fits
  have sent : (inputOf keyPrefix marker limit).maxKeys = some (limit.bmod (2 ^ 32)) := if_pos positive
  have asked : (inputOf keyPrefix marker limit).keyPrefix.getD [] = keyPrefix := by
    unfold inputOf orNone
    by_cases empty : keyPrefix = []
    · simp [empty]
    · simp [empty]
  unfold call listObjectVersions Service.listObjectVersions
  rw [after, sent, asked]
  have notNegative : ¬ limit.bmod (2 ^ 32) < 0 := by omega
  simp only [Option.any_some, decide_eq_true_eq, notNegative, if_false]
  rw [rows_eq_fuse]
  have same : min (limit.bmod (2 ^ 32)).toNat service.pageCap = service.pageSize limit := rfl
  simp only [same]
  generalize under keyPrefix entries = found
  by_cases more : service.pageSize limit < found.length
  · cases last : (found.take (service.pageSize limit)).getLast? with
    | none =>
        have empty := List.getLast?_eq_none_iff.mp last
        have lengths := congrArg List.length empty
        rw [List.length_take, List.length_nil] at lengths
        omega
    | some entry =>
        have marks := orNone_of_ne (markerOf_ne entry)
        unfold markerOf at marks ⊢
        simp [size, more, marks]
  · simp [more, orNone]

/-- A call whose markers the service refuses fails. -/
theorem call_error {service : Service} {keyPrefix marker : Bytes} {limit : Int} {code : String}
    (refused : service.after (inputOf keyPrefix marker limit).keyMarker
      (inputOf keyPrefix marker limit).versionIdMarker = .error code) :
    call service keyPrefix limit marker = none := by
  unfold call listObjectVersions Service.listObjectVersions
  rw [refused]
  cases (inputOf keyPrefix marker limit).maxKeys.any fun maxKeys => maxKeys < 0 with
  | true => rfl
  | false => rfl

/-! ## Where a listing goes on -/

theorem behind_append {key versionID : Bytes} {front rest : List Entry} {entry : Entry}
    (apart : forall other, other ∈ front -> ¬ (other.key = key ∧ other.versionID = versionID))
    (same : entry.key = key ∧ entry.versionID = versionID) :
    behind key versionID (front ++ entry :: rest) = some rest := by
  induction front with
  | nil => exact if_pos same
  | cons other front ih =>
      rw [List.cons_append, behind, if_neg (apart other List.mem_cons_self)]
      exact ih fun other listed => apart other (List.mem_cons_of_mem _ listed)

theorem eq_of_behind {key versionID : Bytes} {entries rest : List Entry}
    (found : behind key versionID entries = some rest) :
    Exists fun front => Exists fun entry => entries = front ++ entry :: rest ∧ entry.key = key := by
  induction entries with
  | nil => cases found
  | cons entry entries ih =>
      unfold behind at found
      split at found
      · rename_i same
        cases found
        exact ⟨[], entry, rfl, same.1⟩
      · rcases ih found with ⟨front, other, whole, same⟩
        exact ⟨entry :: front, other, congrArg (List.cons entry) whole, same⟩

/-- Behind the key and the version of a listed entry comes the rest of the listing. -/
theorem after_entry {service : Service} {keyPrefix : Bytes} {front rest : List Entry} {entry : Entry}
    (listed : service.rows keyPrefix = front ++ entry :: rest) :
    Exists fun entries => service.after (some entry.key) (some entry.versionID) = .ok entries ∧
      under keyPrefix entries = rest := by
  rcases List.filter_eq_append_iff.mp listed with ⟨before, later, whole, _, inside⟩
  rcases List.filter_eq_cons_iff.mp inside with ⟨between, entries, split, _, _, same⟩
  have place : service.history = (before ++ between) ++ entry :: entries := by
    rw [whole, split, List.append_assoc]
  have apart := service.apart
  rw [place, List.pairwise_append] at apart
  have found : behind entry.key entry.versionID service.history = some entries := by
    rw [place]
    exact behind_append (fun other member => apart.2.2 other member entry List.mem_cons_self)
      ⟨rfl, rfl⟩
  refine ⟨entries, ?_, same⟩
  unfold Service.after
  simp only [found]

/-- Behind any version of a smaller key, all entries of the key are still to come. -/
theorem after_smaller {service : Service} {key versionID : Bytes} {entries : List Entry}
    {entry : Entry} (smaller : key < entry.key) (listed : entry ∈ service.history)
    (after : service.after (some key) (some versionID) = .ok entries) :
    Exists fun front => service.history = front ++ entries ∧ entry ∈ entries := by
  unfold Service.after at after
  simp only at after
  cases found : behind key versionID service.history with
  | some rest =>
      rw [found] at after
      cases after
      rcases eq_of_behind found with ⟨front, other, whole, same⟩
      refine ⟨front ++ [other], by rw [whole]; simp, ?_⟩
      have sorted := service.sorted
      rw [whole] at listed sorted
      rcases List.mem_append.mp listed with before | later
      · have order := (List.pairwise_append.mp sorted).2.2 entry before other List.mem_cons_self
        rw [same] at order
        exact absurd smaller order
      · rcases List.mem_cons.mp later with rfl | inside
        · rw [same] at smaller
          exact absurd smaller (List.lt_irrefl _)
        · exact inside
  | none =>
      rw [found] at after
      simp only at after
      cases skips : service.skips key versionID with
      | none =>
          rw [skips] at after
          cases after
      | some count =>
          rw [skips] at after
          cases after
          generalize rest : (service.history.dropWhile fun other => decide (other.key < key)) = later
          have split := @List.takeWhile_append_dropWhile _ (fun other => decide (other.key < key))
            service.history
          rw [rest] at split
          refine ⟨_ ++ later.take _, by rw [List.append_assoc, List.take_append_drop, split], ?_⟩
          rw [← split] at listed
          rcases List.mem_append.mp listed with before | inside
          · have less : entry.key < key := by simpa using List.mem_takeWhile_imp before
            exact absurd smaller (List.lt_asymm less)
          · rw [← List.take_append_drop (min count
              (later.takeWhile fun other => decide (other.key = key)).length) later] at inside
            rcases List.mem_append.mp inside with skipped | left
            · have same : entry.key = key := by simpa using of_mem_take_takeWhile skipped
              rw [same] at smaller
              exact absurd smaller (List.lt_irrefl _)
            · exact left

/-! ## Markers that are read back -/

theorem splitVersionMarker_join {key : Bytes} (plain : bar ∉ key) (versionID : Bytes) :
    splitVersionMarker (joinVersionMarker key versionID) = (key, versionID) := by
  unfold splitVersionMarker joinVersionMarker
  rw [TextFields.cut_append plain, Option.getD_some]

/-- The marker of an entry whose key has no bar stands for the entry. -/
theorem call_plain {service : Service} {keyPrefix : Bytes} {limit : Int} {front rest : List Entry}
    {entry : Entry} (positive : 0 < limit) (fits : 0 < limit.bmod (2 ^ 32))
    (listed : service.rows keyPrefix = front ++ entry :: rest) (plain : bar ∉ entry.key) :
    call service keyPrefix limit (markerOf entry) =
      some (fuse (rest.take (service.pageSize limit)),
        if service.pageSize limit < rest.length then
          (rest.take (service.pageSize limit)).getLast?.map markerOf
        else none) := by
  rcases after_entry listed with ⟨entries, after, same⟩
  have member : entry ∈ service.history := by
    have here : entry ∈ service.rows keyPrefix := by
      rw [listed]
      simp
    exact (List.mem_filter.mp here).1
  rcases service.named entry member with ⟨key, version⟩
  have marks : (inputOf keyPrefix (markerOf entry) limit).keyMarker = some entry.key ∧
      (inputOf keyPrefix (markerOf entry) limit).versionIdMarker = some entry.versionID := by
    unfold inputOf
    simp only [if_neg (markerOf_ne entry)]
    rw [markerOf, splitVersionMarker_join plain]
    exact ⟨orNone_of_ne key, orNone_of_ne version⟩
  rw [← marks.1, ← marks.2] at after
  rw [call_eq positive fits after, same]

/-- A text is larger than what stands before a bar in it. -/
theorem lt_append_cons (front : Bytes) (byte : UInt8) (rest : Bytes) : front < front ++ byte :: rest := by
  induction front with
  | nil => exact List.nil_lt_cons byte rest
  | cons first front ih => exact List.cons_lt_cons_self.mpr ih

/-- The marker of an entry whose key has a bar leads to an error, or back to entries that are
listed already. -/
theorem call_barred {service : Service} {keyPrefix : Bytes} {limit : Int} {entry : Entry}
    (positive : 0 < limit) (fits : 0 < limit.bmod (2 ^ 32))
    (listed : entry ∈ service.rows keyPrefix) (barred : bar ∈ entry.key) :
    call service keyPrefix limit (markerOf entry) = none ∨
      Exists fun front => Exists fun rest => Exists fun next =>
        service.rows keyPrefix = front ++ rest ∧ entry ∈ rest ∧
          call service keyPrefix limit (markerOf entry) =
            some (fuse (rest.take (service.pageSize limit)), next) := by
  have member := List.mem_filter.mp listed
  rcases List.eq_append_cons_of_mem barred with ⟨first, second, whole, plain⟩
  have split : splitVersionMarker (markerOf entry) = (first, second ++ bar :: entry.versionID) := by
    have marker : markerOf entry = joinVersionMarker first (second ++ bar :: entry.versionID) := by
      unfold markerOf joinVersionMarker
      rw [whole]
      simp
    rw [marker, splitVersionMarker_join plain]
  have version : (inputOf keyPrefix (markerOf entry) limit).versionIdMarker =
      some (second ++ bar :: entry.versionID) := by
    unfold inputOf
    simp only [if_neg (markerOf_ne entry), split]
    exact orNone_of_ne (by simp)
  have key : (inputOf keyPrefix (markerOf entry) limit).keyMarker = orNone first := by
    unfold inputOf
    simp only [if_neg (markerOf_ne entry), split]
  cases after : service.after (inputOf keyPrefix (markerOf entry) limit).keyMarker
      (inputOf keyPrefix (markerOf entry) limit).versionIdMarker with
  | error code => exact Or.inl (call_error after)
  | ok entries =>
      right
      have answer := call_eq positive fits after
      by_cases empty : first = []
      · rw [key, version, empty] at after
        cases after
      · rw [key, version, orNone_of_ne empty] at after
        have smaller : first < entry.key := by
          conv_rhs => rw [whole]
          exact lt_append_cons _ _ _
        rcases after_smaller smaller member.1 after with ⟨front, history, inside⟩
        refine ⟨under keyPrefix front, under keyPrefix entries, _, ?_, ?_, answer⟩
        · rw [Service.rows, history]
          exact List.filter_append _ _
        · exact List.mem_filter.mpr ⟨inside, member.2⟩

/-! ## Pages -/

/-- The last key of the page has no bar, if another page comes after it. -/
def Marked (rows : List Entry) (size index : Nat) : Prop :=
  (index + 1) * size < rows.length -> forall entry,
    (chunk rows size index).getLast? = some entry -> bar ∉ entry.key

/-- On the page no delete marker is newer than a version of its key. -/
def Fused (rows : List Entry) (size index : Nat) : Prop :=
  (chunk rows size index).Pairwise fun first second =>
    first.key = second.key -> first.isDeleteMarker = true -> second.isDeleteMarker = true

/-- The marker before the page at an index. -/
def mark (rows : List Entry) (size index : Nat) : Bytes :=
  ((rows.take (index * size)).getLast?.map markerOf).getD []

/-- The last entry before the next page is the last of the page. -/
theorem getLast?_take {rows : List Entry} {size index : Nat} (positive : 0 < size)
    (more : index * size < rows.length) :
    (rows.take ((index + 1) * size)).getLast? = (chunk rows size index).getLast? ∧
      Exists fun entry => (chunk rows size index).getLast? = some entry := by
  cases last : (chunk rows size index).getLast? with
  | none =>
      have lengths := congrArg List.length (List.getLast?_eq_none_iff.mp last)
      rw [chunk, List.length_take, List.length_drop, List.length_nil] at lengths
      omega
  | some entry =>
      refine ⟨?_, entry, rfl⟩
      rw [Nat.succ_mul, List.take_add, List.getLast?_append]
      rw [chunk] at last
      rw [last]
      rfl

theorem next_eq {rows : List Entry} {size index : Nat} (positive : 0 < size) :
    (if size < (rows.drop (index * size)).length then
        (chunk rows size index).getLast?.map markerOf else none) =
      if (index + 1) * size < rows.length then some (mark rows size (index + 1)) else none := by
  have same : size < (rows.drop (index * size)).length ↔ (index + 1) * size < rows.length := by
    rw [List.length_drop, Nat.succ_mul]
    omega
  by_cases more : (index + 1) * size < rows.length
  · rw [if_pos (same.mpr more), if_pos more, mark]
    have before : index * size < rows.length := by
      rw [Nat.succ_mul] at more
      omega
    rcases getLast?_take positive before with ⟨last, entry, found⟩
    rw [last, found]
    rfl
  · rw [if_neg (fun less => more (same.mp less)), if_neg more]

/-! ## The rows of a page -/

theorem row_key (entry : Entry) : entry.row.key = entry.key := by
  unfold Entry.row
  split
  · rfl
  · rfl

theorem row_versionID (entry : Entry) : entry.row.versionID = entry.versionID := by
  unfold Entry.row
  split
  · rfl
  · rfl

/-- The driver returns every entry of a page. -/
theorem fuse_perm (page : List Entry) : (fuse page).Perm (page.map Entry.row) := by
  have both := List.filter_append_perm (fun entry : Entry => !entry.isDeleteMarker) page
  simp only [Bool.not_not] at both
  exact both.map Entry.row

theorem mem_fuse {page : List Entry} {entry : Entry} (listed : entry ∈ page) :
    entry.row ∈ fuse page :=
  (fuse_perm page).mem_iff.mpr (List.mem_map_of_mem listed)

theorem rows_nodup (service : Service) (keyPrefix : Bytes) :
    (service.rows keyPrefix).Nodup ∧ ((service.rows keyPrefix).map Entry.row).Nodup := by
  have apart := service.apart.filter fun entry : Entry => keyPrefix.isPrefixOf entry.key
  refine ⟨apart.imp fun {first second} different same => ?_, ?_⟩
  · exact different ⟨congrArg Entry.key same, congrArg Entry.versionID same⟩
  · refine List.pairwise_map.mpr (apart.imp fun {first second} different same => different ⟨?_, ?_⟩)
    · rw [← row_key first, same, row_key]
    · rw [← row_versionID first, same, row_versionID]

theorem flatten_fused_perm (rows : List Entry) (size count : Nat) :
    ((List.range count).map fun index => fuse (chunk rows size index)).flatten.Perm
      ((rows.take (count * size)).map Entry.row) := by
  induction count with
  | zero => simp
  | succ count ih =>
      rw [List.range_succ, List.map_append, List.flatten_append, Nat.succ_mul, List.take_add,
        List.map_append]
      refine ih.append ?_
      simpa [chunk] using fuse_perm (chunk rows size count)

/-- A page on which no delete marker is newer than a version of its key keeps the order. -/
theorem ordered_of_fused {rows : List Entry} {size index : Nat} (fused : Fused rows size index)
    (key : Bytes) :
    ((fuse (chunk rows size index)).filter fun row => row.key = key).Sublist
      ((rows.map Entry.row).filter fun row => row.key = key) := by
  have same : forall entries : List Entry,
      ((entries.map Entry.row).filter fun row => row.key = key) =
        (entries.filter fun entry => entry.key = key).map Entry.row := by
    intro entries
    rw [List.filter_map]
    congr 1
    apply List.filter_congr
    intro entry _
    simp [row_key]
  have ordered : ((chunk rows size index).filter fun entry => entry.key = key).Pairwise
      fun first second => first.isDeleteMarker = true -> second.isDeleteMarker = true := by
    refine (fused.filter _).imp_of_mem fun {first second} one two newer => ?_
    have firstKey : first.key = key := by simpa using (List.mem_filter.mp one).2
    have secondKey : second.key = key := by simpa using (List.mem_filter.mp two).2
    exact newer (firstKey.trans secondKey.symm)
  have kept := partition_eq ordered
  unfold fuse
  rw [same, same, List.filter_append, List.filter_filter, List.filter_filter]
  rw [List.filter_filter, List.filter_filter] at kept
  have swap : forall test : Entry -> Bool,
      ((chunk rows size index).filter fun entry => decide (entry.key = key) && test entry) =
        (chunk rows size index).filter fun entry => test entry && decide (entry.key = key) := by
    intro test
    apply List.filter_congr
    intro entry _
    exact Bool.and_comm _ _
  rw [swap, swap, kept]
  exact ((chunk_sublist rows size index).filter _).map Entry.row

/-- A page that keeps the order has no delete marker that is newer than a version of its key. -/
theorem fused_of_ordered {rows : List Entry} (nodup : (rows.map Entry.row).Nodup)
    {size index : Nat}
    (ordered : forall key, ((fuse (chunk rows size index)).filter fun row => row.key = key).Sublist
      ((rows.map Entry.row).filter fun row => row.key = key)) : Fused rows size index := by
  unfold Fused
  rw [List.pairwise_iff_forall_sublist]
  intro marker version pair same isMarker
  by_contra isVersion
  rw [Bool.not_eq_true] at isVersion
  have keep : forall entry : Entry, entry.key = marker.key ->
      decide (entry.row.key = marker.key) = true := by
    intro entry equal
    rw [row_key, equal]
    exact decide_eq_true rfl
  -- the history has the marker first, and the page has it last
  have before : [marker.row, version.row].Sublist
      ((rows.map Entry.row).filter fun row => row.key = marker.key) := by
    have whole := ((pair.trans (chunk_sublist rows size index)).map Entry.row).filter
      fun row => decide (row.key = marker.key)
    simpa [keep marker rfl, keep version same.symm] using whole
  have first : [version].Sublist
      ((chunk rows size index).filter fun entry => !entry.isDeleteMarker) := by
    rw [List.singleton_sublist]
    exact List.mem_filter.mpr ⟨pair.subset (by simp), by simp [isVersion]⟩
  have last : [marker].Sublist
      ((chunk rows size index).filter fun entry => entry.isDeleteMarker) := by
    rw [List.singleton_sublist]
    exact List.mem_filter.mpr ⟨pair.subset (by simp), isMarker⟩
  have after : [version.row, marker.row].Sublist
      ((fuse (chunk rows size index)).filter fun row => row.key = marker.key) := by
    have whole := ((first.append last).map Entry.row).filter
      fun row => decide (row.key = marker.key)
    simpa [fuse, keep marker rfl, keep version same.symm] using whole
  exact not_both_orders (nodup.filter _) before (after.trans (ordered marker.key))

section

variable {service : Service} {keyPrefix : Bytes} {limit : Int}

/-- A call with the marker before a page answers with the page, if the marker is read back. -/
theorem call_mark (positive : 0 < limit) (fits : 0 < limit.bmod (2 ^ 32)) {index : Nat}
    (before : index = 0 ∨ Exists fun last => index = last + 1 ∧
      index * service.pageSize limit < (service.rows keyPrefix).length ∧
      Marked (service.rows keyPrefix) (service.pageSize limit) last) :
    call service keyPrefix limit (mark (service.rows keyPrefix) (service.pageSize limit) index) =
      some (fuse (chunk (service.rows keyPrefix) (service.pageSize limit) index),
        if (index + 1) * service.pageSize limit < (service.rows keyPrefix).length then
          some (mark (service.rows keyPrefix) (service.pageSize limit) (index + 1))
        else none) := by
  have size := @pageSize_pos service limit fits
  rw [← next_eq size]
  rcases before with rfl | ⟨last, rfl, more, marked⟩
  · have after : service.after (inputOf keyPrefix [] limit).keyMarker
        (inputOf keyPrefix [] limit).versionIdMarker = .ok service.history := rfl
    have start : mark (service.rows keyPrefix) (service.pageSize limit) 0 = [] := by
      simp [mark]
    rw [start, call_eq positive fits after, chunk, Nat.zero_mul]
    rfl
  · have earlier : last * service.pageSize limit < (service.rows keyPrefix).length := by
      rw [Nat.succ_mul] at more
      omega
    rcases getLast?_take size earlier with ⟨same, entry, found⟩
    rw [found] at same
    rcases List.getLast?_eq_some_iff.mp same with ⟨front, split⟩
    have listed : service.rows keyPrefix = front ++ entry ::
        (service.rows keyPrefix).drop ((last + 1) * service.pageSize limit) := by
      conv_lhs => rw [← List.take_append_drop ((last + 1) * service.pageSize limit)
        (service.rows keyPrefix), split]
      simp
    have marker : mark (service.rows keyPrefix) (service.pageSize limit) (last + 1) =
        markerOf entry := by
      rw [mark, same]
      rfl
    rw [marker, call_plain positive fits listed (marked more entry found)]
    rfl

/-- The calls before a page answer what they should. -/
def ReadsTo (service : Service) (keyPrefix : Bytes) (limit : Int) (count : Nat) : Prop :=
  forall index, index < count ->
    call service keyPrefix limit (mark (service.rows keyPrefix) (service.pageSize limit) index) =
      some (fuse (chunk (service.rows keyPrefix) (service.pageSize limit) index),
        some (mark (service.rows keyPrefix) (service.pageSize limit) (index + 1)))

/-- They do, if the markers in between are read back. -/
theorem call_steps (positive : 0 < limit) (fits : 0 < limit.bmod (2 ^ 32)) {count : Nat}
    (more : count * service.pageSize limit < (service.rows keyPrefix).length)
    (marked : forall index, index + 1 < count ->
      Marked (service.rows keyPrefix) (service.pageSize limit) index) :
    ReadsTo service keyPrefix limit count := by
  intro index small
  have up : (index + 1) * service.pageSize limit ≤ count * service.pageSize limit :=
    Nat.mul_le_mul_right _ small
  rw [call_mark positive fits ?_, if_pos (by omega)]
  cases index with
  | zero => exact Or.inl rfl
  | succ last =>
      refine Or.inr ⟨last, rfl, ?_, marked last small⟩
      rw [Nat.succ_mul (last + 1)] at up
      omega

theorem mark_zero : mark (service.rows keyPrefix) (service.pageSize limit) 0 = [] := by
  simp [mark]

/-- A history is read completely if every page is marked and fused as it should be. -/
theorem listsAll_of_clear (positive : 0 < limit) (fits : 0 < limit.bmod (2 ^ 32))
    (clear : forall index, Marked (service.rows keyPrefix) (service.pageSize limit) index ∧
      Fused (service.rows keyPrefix) (service.pageSize limit) index) :
    ListsAll service keyPrefix limit := by
  have size := @pageSize_pos service limit fits
  generalize counted : ((service.rows keyPrefix).length - 1) / service.pageSize limit = count
  have low : count * service.pageSize limit ≤ (service.rows keyPrefix).length - 1 := by
    rw [← counted]
    exact Nat.div_mul_le_self _ _
  have high : (service.rows keyPrefix).length - 1 < (count + 1) * service.pageSize limit := by
    rw [← counted, Nat.mul_comm]
    exact Nat.lt_mul_div_succ _ size
  have last : call service keyPrefix limit
      (mark (service.rows keyPrefix) (service.pageSize limit) count) =
        some (fuse (chunk (service.rows keyPrefix) (service.pageSize limit) count), none) := by
    rw [call_mark positive fits ?_, if_neg (by omega)]
    cases count with
    | zero => exact Or.inl rfl
    | succ last =>
        refine Or.inr ⟨last, rfl, ?_, (clear last).1⟩
        rw [Nat.succ_mul] at low ⊢
        omega
  have steps : ReadsTo service keyPrefix limit count := by
    intro index small
    refine call_steps positive fits ?_ (fun index _ => (clear index).1) index small
    have some : service.pageSize limit ≤ count * service.pageSize limit :=
      Nat.le_mul_of_pos_left _ (by omega)
    omega
  have read := readAll_all steps last
  rw [mark_zero] at read
  refine ⟨count + 1, _, read, ?_, ?_⟩
  · have whole : (service.rows keyPrefix).take ((count + 1) * service.pageSize limit) =
        service.rows keyPrefix := List.take_of_length_le (by omega)
    have all := flatten_fused_perm (service.rows keyPrefix) (service.pageSize limit) (count + 1)
    rwa [whole] at all
  · intro page listed key
    rcases List.mem_map.mp listed with ⟨index, _, rfl⟩
    exact ordered_of_fused (clear index).2 key

/-- If a history is read completely, every page before another one ends with a key without a
bar. -/
theorem marked_of_listsAll (positive : 0 < limit) (fits : 0 < limit.bmod (2 ^ 32))
    (lists : ListsAll service keyPrefix limit) (index : Nat) :
    Marked (service.rows keyPrefix) (service.pageSize limit) index := by
  rcases lists with ⟨fuel, pages, read, perm, _⟩
  induction index using Nat.strong_induction_on with
  | _ index ih =>
      intro more entry last barred
      have size := @pageSize_pos service limit fits
      have before : index * service.pageSize limit < (service.rows keyPrefix).length := by
        rw [Nat.succ_mul] at more
        omega
      have steps : ReadsTo service keyPrefix limit (index + 1) :=
        call_steps positive fits more fun earlier less => ih earlier (by omega)
      rw [← @mark_zero service keyPrefix limit] at read
      rcases readAll_steps steps read with ⟨left, later, reading, same⟩
      have ends : ((service.rows keyPrefix).take ((index + 1) * service.pageSize limit)).getLast? =
          some entry := (getLast?_take size before).1.trans last
      have marker : mark (service.rows keyPrefix) (service.pageSize limit) (index + 1) =
          markerOf entry := by
        rw [mark, ends]
        rfl
      have inFirst := List.mem_of_getLast? ends
      rw [marker] at reading
      rcases first_page reading with ⟨page, next, others, answer, split⟩
      rcases call_barred positive fits ((List.take_subset _ _) inFirst) barred with
        failed | ⟨front, rest, after, whole, inRest, answered⟩
      · rw [failed] at answer
        cases answer
      · rw [answered] at answer
        cases answer
        have nodup := rows_nodup service keyPrefix
        rcases rest with _ | ⟨again, rest⟩
        · cases inRest
        -- the next page begins with an entry that was on one of the pages before it
        have listed : again ∈ (service.rows keyPrefix).take
            ((index + 1) * service.pageSize limit) := by
          rw [whole] at inFirst ⊢
          exact mem_take_of_nodup (whole ▸ nodup.1) inFirst inRest
        have twice := perm.nodup_iff.mpr nodup.2
        rw [same, split, List.flatten_append] at twice
        have once := (flatten_fused_perm _ _ _).mem_iff.mpr
          (List.mem_map_of_mem (f := Entry.row) listed)
        have onNext : again ∈ (again :: rest).take (service.pageSize limit) := by
          rcases Nat.exists_eq_succ_of_ne_zero (Nat.ne_of_gt size) with ⟨room, one⟩
          rw [one]
          exact List.mem_cons_self
        exact List.disjoint_of_nodup_append twice once
          (List.mem_append_left _ (mem_fuse onNext))

/-- And no page has a delete marker that is newer than a version of its key. -/
theorem fused_of_listsAll (positive : 0 < limit) (fits : 0 < limit.bmod (2 ^ 32))
    (lists : ListsAll service keyPrefix limit) (index : Nat) :
    Fused (service.rows keyPrefix) (service.pageSize limit) index := by
  have marked := marked_of_listsAll positive fits lists
  rcases lists with ⟨fuel, pages, read, _, ordered⟩
  by_cases inside : index * service.pageSize limit < (service.rows keyPrefix).length
  · have steps : ReadsTo service keyPrefix limit index :=
      call_steps positive fits inside fun earlier _ => marked earlier
    rw [← @mark_zero service keyPrefix limit] at read
    rcases readAll_steps steps read with ⟨left, later, reading, same⟩
    rcases first_page reading with ⟨page, next, others, answer, split⟩
    rw [call_mark positive fits ?_] at answer
    · cases answer
      refine fused_of_ordered (rows_nodup service keyPrefix).2 (ordered _ ?_)
      rw [same, split]
      simp
    · cases index with
      | zero => exact Or.inl rfl
      | succ last => exact Or.inr ⟨last, rfl, inside, marked last⟩
  · unfold Fused chunk
    rw [List.drop_eq_nil_of_le (by omega), List.take_nil]
    exact List.Pairwise.nil

end

/-! ## Complete histories -/

/-- The limit fits an `int32` as a positive number, every page before another one ends with a key
without a bar, and no page has a delete marker that is newer than a version of its key; or the
limit becomes zero and there is nothing to list. -/
def Clear (service : Service) (keyPrefix : Bytes) (limit : Int) : Prop :=
  (0 < limit.bmod (2 ^ 32) ∧ forall index,
      Marked (service.rows keyPrefix) (service.pageSize limit) index ∧
        Fused (service.rows keyPrefix) (service.pageSize limit) index) ∨
    limit.bmod (2 ^ 32) = 0 ∧ service.rows keyPrefix = []

/-- A limit that becomes zero gives an empty page and no marker. -/
theorem call_zero {service : Service} {keyPrefix : Bytes} {limit : Int} (positive : 0 < limit)
    (zero : limit.bmod (2 ^ 32) = 0) : call service keyPrefix limit [] = some ([], none) := by
  unfold call listObjectVersions Service.listObjectVersions inputOf
  rw [if_pos positive, zero]
  simp [Service.after, orNone]

/-- One that becomes negative is refused. -/
theorem call_negative {service : Service} {keyPrefix : Bytes} {limit : Int} (positive : 0 < limit)
    (negative : limit.bmod (2 ^ 32) < 0) : call service keyPrefix limit [] = none := by
  unfold call listObjectVersions Service.listObjectVersions inputOf
  rw [if_pos positive]
  simp only [Option.any_some, negative, decide_true, if_true]

theorem lists_all_iff (service : Service) (keyPrefix : Bytes) {limit : Int} (positive : 0 < limit) :
    ListsAll service keyPrefix limit ↔ Clear service keyPrefix limit := by
  constructor
  · intro lists
    rcases Int.lt_trichotomy 0 (limit.bmod (2 ^ 32)) with fits | zero | negative
    · exact Or.inl ⟨fits, fun index => ⟨marked_of_listsAll positive fits lists index,
        fused_of_listsAll positive fits lists index⟩⟩
    · rcases lists with ⟨fuel, pages, read, perm, _⟩
      cases fuel with
      | zero => cases read
      | succ fuel =>
          rw [readAll_last (call_zero positive zero.symm)] at read
          cases read
          refine Or.inr ⟨zero.symm, ?_⟩
          exact List.map_eq_nil_iff.mp perm.symm.eq_nil
    · rcases lists with ⟨fuel, pages, read, _⟩
      rcases first_page read with ⟨page, next, later, answer, _⟩
      rw [call_negative positive negative] at answer
      cases answer
  · rintro (⟨fits, clear⟩ | ⟨zero, empty⟩)
    · exact listsAll_of_clear positive fits clear
    · refine ⟨1, [[]], readAll_last (call_zero positive zero) 0, ?_, ?_⟩
      · rw [empty]
        exact List.Perm.nil
      · intro page listed key
        rw [List.mem_singleton.mp listed]
        exact List.nil_sublist _

/-- Two versions of one key, in a service that takes any version marker. -/
def sampleService (key : Bytes) (named : key ≠ []) : Service where
  history := [⟨key, [50], false, true, some 2, 1, []⟩, ⟨key, [49], false, false, some 1, 1, []⟩]
  pageCap := 1000
  skips _ _ := some 0
  positive := by decide
  sorted := by
    simp
  apart := by
    simp
  named := by
    intro entry listed
    simp only [List.mem_cons, List.not_mem_nil, or_false] at listed
    rcases listed with rfl | rfl
    · exact ⟨named, by simp⟩
    · exact ⟨named, by simp⟩

theorem lists_all_iff_single :
    ListsAll (sampleService [97] (by decide)) [] 1 ↔ Clear (sampleService [97] (by decide)) [] 1 :=
  lists_all_iff _ _ (by decide)

/-- A key with a bar is listed again and again. -/
theorem barred_key_repeats :
    ¬ forall (service : Service) (keyPrefix : Bytes) (limit : Int), 0 < limit ->
      ListsAll service keyPrefix limit := by
  intro claimed
  have lists := claimed (sampleService [97, 124, 98] (by decide)) [] 1 (by decide)
  have marked := marked_of_listsAll (by decide) (by decide) lists 0
  exact marked (by decide) ⟨[97, 124, 98], [50], false, true, some 2, 1, []⟩ (by decide) (by decide)

end VersionHistory
end Drivers
end Basement
