import Basement.Api.ShareScope
import Basement.Drivers.Listing
import Mathlib.Data.List.Perm.Subperm

namespace Basement
namespace Api

open Library Drivers
open Drivers (Pager RowKind)

/-!
# Browsing a shared folder

A visitor lists a folder of a share page by page.  The list endpoint answers with the page that
the driver gives it, but it does not read the continuation of the request and asks for the first
page every time.  It continues the stored prefix with the path that was asked for, and adds no
slash between them.
-/

/-- A driver that makes pages: `ListObjects` of the share's bucket with delimiter `/`, by prefix
and continuation. -/
abbrev PagedListing := String -> String -> Except Refusal ObjectPage

/-- The driver of a bucket with some objects. -/
def bucketPages {ν : Type} (pager : Pager) (objects : SortedStore String ν) : PagedListing :=
  fun keyPrefix continuation =>
    match pager.listObjects objects keyPrefix continuation (some '/') 100 with
    | none => .error ⟨400, "INVALID", "InvalidArgument", []⟩
    | some page =>
        .ok ⟨page.objects, page.commonPrefixes, page.isTruncated, page.nextContinuation⟩

/-- `shareListHandler` for a request that carries a continuation. -/
def shareListPage (listing : PagedListing) (share : Share) (request : ShareRequest)
    (_continuation : String) : Except Refusal ObjectPage :=
  shareListHandler (fun keyPrefix => listing keyPrefix "") (some share) request

/-- The pages that a visitor gets who follows the continuations until a page is the last. -/
def followPages (respond : String -> Except Refusal ObjectPage) :
    Nat -> String -> Option (List ObjectPage)
  | 0, _ => none
  | fuel + 1, continuation =>
      match respond continuation with
      | .error _ => none
      | .ok page =>
          if page.isTruncated then
            (followPages respond fuel page.nextContinuation).map (page :: ·)
          else some [page]

/-! ## The folder -/

/-- A path as a folder: with a slash at its end, unless it is empty. -/
def asFolder (path : String) : String :=
  if path.toList.getLast? ≠ some '/' ∧ path ≠ "" then path ++ "/" else path

/-- The folder of the share that a request asks for.  A path that starts with a slash continues
the stored prefix. -/
def Share.viewed (share : Share) (asked : String) : String :=
  if asked.toList.head? = some '/' then share.keyPrefix ++ asFolder asked
  else share.keyScope ++ asFolder asked

/-- An object right under a folder, other than the folder's marker. -/
def ObjectUnder {ν : Type} (objects : SortedStore String ν) (folder key : String) : Prop :=
  Exists fun label => key = folder ++ label ∧ label ≠ "" ∧ '/' ∉ label.toList ∧
    objects.get? key ≠ none

/-- A sub-folder right under a folder. -/
def FolderUnder {ν : Type} (objects : SortedStore String ν) (folder name : String) : Prop :=
  Exists fun label => name = folder ++ label ++ "/" ∧ '/' ∉ label.toList ∧
    Exists fun rest => objects.get? (name ++ rest) ≠ none

/-- The pages of a visitor end, and show each object and sub-folder of the folder once. -/
def Share.ShowsFolder {ν : Type} (share : Share) (pager : Pager) (objects : SortedStore String ν)
    (request : ShareRequest) : Prop :=
  Exists fun fuel => Exists fun pages =>
    followPages (shareListPage (bucketPages pager objects) share request) fuel "" = some pages ∧
      (forall key, ObjectUnder objects (share.viewed request.asked) key ->
        (pages.flatMap ObjectPage.objects).count key = 1) ∧
      forall name, FolderUnder objects (share.viewed request.asked) name ->
        (pages.flatMap ObjectPage.commonPrefixes).count name = 1

/-- The rows of the listing fit on one page. -/
def Share.OnOnePage {ν : Type} (share : Share) (pager : Pager) (objects : SortedStore String ν)
    (asked : String) : Prop :=
  (rows objects (share.fullPrefix asked) (some '/')).entries.length ≤ min 100 pager.maxKeys

/-- A slash stands between the stored prefix and the path, or the folder has no children. -/
def Share.Joined {ν : Type} (share : Share) (objects : SortedStore String ν) (asked : String) :
    Prop :=
  share.keyPrefix.toList.getLast? = some '/' ∨ asked.toList.head? = some '/' ∨
    ((forall key, ¬ ObjectUnder objects (share.viewed asked) key) ∧
      forall name, ¬ FolderUnder objects (share.viewed asked) name)

/-! ## Following -/

/-- A handler that gives one page for every continuation is followed to its end only if that page
is the last. -/
theorem followPages_constant {respond : String -> Except Refusal ObjectPage} {page : ObjectPage}
    (always : forall continuation, respond continuation = .ok page) {fuel : Nat}
    {continuation : String} {pages : List ObjectPage} :
    followPages respond fuel continuation = some pages ↔
      0 < fuel ∧ page.isTruncated = false ∧ pages = [page] := by
  induction fuel generalizing continuation pages with
  | zero => exact iff_of_false (fun same => by cases same) (fun all => Nat.lt_irrefl 0 all.1)
  | succ fuel ih =>
      rw [followPages, always]
      dsimp only
      cases last : page.isTruncated with
      | true =>
          rw [if_pos rfl, Option.map_eq_some_iff]
          refine iff_of_false ?_ (fun all => by cases all.2.1)
          rintro ⟨rest, tail, -⟩
          rw [ih, last] at tail
          cases tail.2.1
      | false =>
          rw [if_neg Bool.false_ne_true]
          constructor
          · intro same
            exact ⟨Nat.succ_pos fuel, rfl, (Option.some.inj same).symm⟩
          · rintro ⟨-, -, rfl⟩
            rfl

/-! ## The prefix that is listed -/

section Listing

variable {ν : Type} {share : Share} {pager : Pager} {objects : SortedStore String ν}
  {request : ShareRequest}

/-- The listed prefix is the folder if a slash stands between the prefix and the path. -/
theorem Share.fullPrefix_eq (share : Share) (asked : String) :
    share.fullPrefix asked = share.keyPrefix ++ asFolder asked := by
  rw [Share.fullPrefix, asFolder]
  by_cases blank : asked = ""
  · rw [blank]
    simp
  · have last : (share.keyPrefix ++ asked).toList.getLast? = asked.toList.getLast? := by
      rw [String.toList_append, List.getLast?_append_of_ne_nil]
      exact fun empty => blank (String.toList_eq_nil_iff.mp empty)
    simp only [last]
    split
    · rw [String.append_assoc]
    · rfl

theorem Share.viewed_eq {asked : String}
    (joined : share.keyPrefix.toList.getLast? = some '/' ∨ asked.toList.head? = some '/') :
    share.viewed asked = share.fullPrefix asked := by
  rw [Share.viewed, Share.fullPrefix_eq]
  split
  · rfl
  · rename_i plain
    rcases joined with stored | given
    · rw [Share.keyScope, if_pos stored]
    · exact absurd given plain

/-- The part of a text behind its last slash determines the part before it. -/
theorem last_slash_unique {front other label tail : List Char}
    (same : front ++ '/' :: label = other ++ '/' :: tail) (plain : '/' ∉ label)
    (flat : '/' ∉ tail) : front = other := by
  have reversed := congrArg List.reverse same
  rw [List.reverse_append, List.reverse_append, List.reverse_cons, List.reverse_cons,
    List.append_assoc, List.append_assoc, List.singleton_append, List.singleton_append] at reversed
  have labels := congrArg (List.takeWhile (· != '/')) reversed
  rw [takeWhile_ne_append (by simpa using plain), takeWhile_ne_append (by simpa using flat),
    List.reverse_inj] at labels
  rw [labels] at same
  exact List.append_cancel_right same

theorem asFolder_cases (path : String) :
    asFolder path = "" ∨ Exists fun front => (asFolder path).toList = front ++ ['/'] := by
  rw [asFolder]
  split
  · exact Or.inr ⟨path.toList, String.toList_append⟩
  · rename_i whole
    by_cases blank : path = ""
    · exact Or.inl blank
    · have last : path.toList.getLast? = some '/' := by
        by_contra other
        exact whole ⟨other, blank⟩
      exact Or.inr (List.getLast?_eq_some_iff.mp last)

/-- Without a slash between the prefix and the path, no child of the folder is a row of the
listing. -/
theorem Share.unjoined_ne {asked label tail : String}
    (stored : share.keyPrefix.toList.getLast? ≠ some '/') (given : asked.toList.head? ≠ some '/')
    (plain : '/' ∉ label.toList) (flat : '/' ∉ tail.toList) :
    share.fullPrefix asked ++ label ≠ share.viewed asked ++ tail := by
  intro same
  rw [Share.fullPrefix_eq, Share.viewed, if_neg given, Share.keyScope, if_neg stored] at same
  have lists := congrArg String.toList same
  simp only [String.toList_append, List.append_assoc] at lists
  have texts := List.append_cancel_left lists
  rw [show "/".toList = ['/'] from rfl, List.singleton_append] at texts
  rcases asFolder_cases asked with empty | ⟨front, folder⟩
  · rw [empty] at texts
    apply plain
    rw [show "".toList = [] from rfl, List.nil_append] at texts
    rw [texts]
    exact List.mem_cons_self
  · rw [folder, List.append_assoc, List.append_assoc, List.singleton_append,
      List.singleton_append, ← List.cons_append] at texts
    have fronts := last_slash_unique texts plain flat
    have lengths := congrArg List.length fronts
    rw [List.length_cons] at lengths
    omega

/-! ## What is shown -/

/-- A row's name starts with the stored prefix. -/
theorem row_keyPrefix {asked name : String} {kind : RowKind}
    (found : (rows objects (share.fullPrefix asked) (some '/')).get? name = some kind) :
    share.keyPrefix.toList.isPrefixOf name.toList = true := by
  apply List.isPrefixOf_iff_prefix.mpr
  apply (share.keyPrefix_prefix_fullPrefix asked).trans
  cases kind with
  | object =>
      rcases get?_rows_object.mp found with ⟨label, rfl, -⟩
      rw [String.toList_append]
      exact List.prefix_append _ _
  | folder =>
      rcases get?_rows_folder.mp found with ⟨label, rfl, -⟩
      rw [String.append_assoc, String.toList_append]
      exact List.prefix_append _ _

/-- The endpoint gives the first page of the listing for every continuation. -/
theorem shareListPage_eq (pager : Pager) (objects : SortedStore String ν)
    (folderShare : share.key = "") (admitted : share.admits request.visitor = true) :
    Exists fun page : Drivers.ObjectPage =>
      (forall continuation,
        shareListPage (bucketPages pager objects) share request continuation =
          .ok ⟨page.objects, page.commonPrefixes, page.isTruncated, page.nextContinuation⟩) ∧
      (forall kind name, page.Has kind name ↔ (name, kind) ∈
        (rows objects (share.fullPrefix request.asked) (some '/')).entries.take
          (min 100 pager.maxKeys)) ∧
      page.objects.Nodup ∧ page.commonPrefixes.Nodup ∧ page.objects.length ≤ 100 ∧
      (page.isTruncated = false ↔ share.OnOnePage pager objects request.asked) := by
  rcases pager.listObjects_first objects (share.fullPrefix request.asked) (some '/') 100 with
    ⟨page, listed, first, objectsOnce, foldersOnce, few, truncated⟩
  have found {kind : RowKind} {name : String} (has : page.Has kind name) :
      share.keyPrefix.toList.isPrefixOf name.toList = true :=
    row_keyPrefix ((SortedStore.mem_entries_iff _ name kind).mp
      (List.mem_of_mem_take ((first kind name).mp has)))
  refine ⟨page, ?_, first, objectsOnce, foldersOnce, by omega, ?_⟩
  · intro continuation
    rw [shareListPage, shareListHandler_ok_iff]
    refine ⟨admitted, folderShare,
      ⟨page.objects, page.commonPrefixes, page.isTruncated, page.nextContinuation⟩, ?_, ?_⟩
    · rw [bucketPages, listed]
    · have objects : page.objects.filter (fun key =>
          share.keyPrefix.toList.isPrefixOf key.toList) = page.objects :=
        List.filter_eq_self.mpr fun key member => @found .object key member
      have folders : page.commonPrefixes.filter (fun key =>
          share.keyPrefix.toList.isPrefixOf key.toList) = page.commonPrefixes :=
        List.filter_eq_self.mpr fun key member => @found .folder key member
      rw [objects, folders]
  · rw [truncated, decide_eq_false_iff_not, Share.OnOnePage, not_lt]

/-- What a visitor is shown of a folder. -/
theorem showsFolder_iff_first (folderShare : share.key = "")
    (admitted : share.admits request.visitor = true) :
    share.ShowsFolder pager objects request ↔
      share.OnOnePage pager objects request.asked ∧
        (forall key, ObjectUnder objects (share.viewed request.asked) key ->
          (rows objects (share.fullPrefix request.asked) (some '/')).get? key = some .object) ∧
        forall name, FolderUnder objects (share.viewed request.asked) name ->
          (rows objects (share.fullPrefix request.asked) (some '/')).get? name = some .folder := by
  rcases shareListPage_eq pager objects folderShare admitted with
    ⟨page, always, first, objectsOnce, foldersOnce, -, last⟩
  have whole (fits : share.OnOnePage pager objects request.asked) (kind : RowKind) (name : String) :
      page.Has kind name ↔
        (rows objects (share.fullPrefix request.asked) (some '/')).get? name = some kind := by
    rw [first, List.take_of_length_le fits]
    exact SortedStore.mem_entries_iff _ name kind
  constructor
  · rintro ⟨fuel, pages, followed, shown, folders⟩
    rcases (followPages_constant always).mp followed with ⟨-, ends, rfl⟩
    have fits := last.mp ends
    refine ⟨fits, ?_, ?_⟩
    · intro key child
      apply (whole fits .object key).mp
      have once := shown key child
      rw [List.flatMap_singleton] at once
      exact List.count_pos_iff.mp (once ▸ Nat.one_pos)
    · intro name child
      apply (whole fits .folder name).mp
      have once := folders name child
      rw [List.flatMap_singleton] at once
      exact List.count_pos_iff.mp (once ▸ Nat.one_pos)
  · rintro ⟨fits, shown, folders⟩
    refine ⟨1, _, (followPages_constant always).mpr ⟨Nat.one_pos, last.mpr fits, rfl⟩, ?_, ?_⟩
    · intro key child
      rw [List.flatMap_singleton]
      exact List.count_eq_one_of_mem objectsOnce ((whole fits .object key).mpr (shown key child))
    · intro name child
      rw [List.flatMap_singleton]
      exact List.count_eq_one_of_mem foldersOnce ((whole fits .folder name).mpr (folders name child))

/-- A share shows a whole folder exactly if its listing fits on one page, and a slash stands
between the stored prefix and the path unless the folder is empty. -/
theorem share_shows_folder_iff (share : Share) (pager : Pager) (objects : SortedStore String ν)
    (request : ShareRequest) (folderShare : share.key = "")
    (admitted : share.admits request.visitor = true) :
    share.ShowsFolder pager objects request ↔
      share.OnOnePage pager objects request.asked ∧ share.Joined objects request.asked := by
  rw [showsFolder_iff_first folderShare admitted, Share.Joined]
  refine and_congr_right fun _ => ?_
  by_cases joined : share.keyPrefix.toList.getLast? = some '/' ∨
      request.asked.toList.head? = some '/'
  · rw [← or_assoc, or_iff_left_of_imp fun _ => joined]
    refine iff_of_true ?_ joined
    rw [Share.viewed_eq joined]
    constructor
    · rintro key ⟨label, same, -, plain, present⟩
      exact get?_rows_object.mpr ⟨label, same, plain, present⟩
    · rintro name ⟨label, rfl, plain, rest, present⟩
      exact get?_rows_folder.mpr ⟨label, rfl, plain, rest, present⟩
  · rcases not_or.mp joined with ⟨stored, given⟩
    rw [or_iff_right stored, or_iff_right given]
    refine and_congr ⟨?_, fun none key child => absurd child (none key)⟩
      ⟨?_, fun none name child => absurd child (none name)⟩
    · intro shown key child
      rcases get?_rows_object.mp (shown key child) with ⟨label, listed, plain, -⟩
      rcases child with ⟨tail, same, -, flat, -⟩
      exact Share.unjoined_ne stored given plain flat (listed.symm.trans same)
    · intro shown name child
      rcases get?_rows_folder.mp (shown name child) with ⟨label, listed, plain, -⟩
      rcases child with ⟨tail, same, flat, -⟩
      have texts := congrArg String.toList (listed.symm.trans same)
      rw [String.toList_append, @String.toList_append (share.viewed request.asked ++ tail)] at texts
      exact Share.unjoined_ne stored given plain flat
        (String.toList_inj.mp (List.append_cancel_right texts))

end Listing

/-! ## A folder of 101 pictures -/

/-- A share of `photos/`. -/
def albumShare : Share := { photosShare with keyPrefix := "photos/" }

theorem share_shows_folder_iff_album :
    albumShare.key = "" ∧ albumShare.admits (⟨0, .absent, ""⟩ : ShareRequest).visitor = true ∧
      (albumShare.ShowsFolder (namedPager 1000 (by decide)) (album "photos/" 101)
          ⟨0, .absent, ""⟩ ↔
        albumShare.OnOnePage (namedPager 1000 (by decide)) (album "photos/" 101) "" ∧
          albumShare.Joined (album "photos/" 101) "") :=
  ⟨rfl, rfl, share_shows_folder_iff albumShare _ _ _ rfl rfl⟩

theorem albumShare_viewed : albumShare.viewed "" = "photos/" := by
  decide

/-- The first page of 100 pictures is given again and again. -/
theorem album_never_shown :
    ¬ albumShare.ShowsFolder (namedPager 1000 (by decide)) (album "photos/" 101)
      ⟨0, .absent, ""⟩ := by
  rintro ⟨fuel, pages, followed, shown, -⟩
  rcases @shareListPage_eq _ albumShare ⟨0, .absent, ""⟩ (namedPager 1000 (by decide))
    (album "photos/" 101) rfl rfl with ⟨page, always, -, -, -, few, -⟩
  rcases (followPages_constant always).mp followed with ⟨-, -, rfl⟩
  have distinct : ((pictureNames 101).map ("photos/" ++ ·)).Nodup := by
    refine (pictureNames_nodup 101).map fun first second same => ?_
    have lists := congrArg String.toList same
    rw [String.toList_append, String.toList_append] at lists
    exact String.toList_inj.mp (List.append_cancel_left lists)
  have within : (pictureNames 101).map ("photos/" ++ ·) ⊆ page.objects := by
    intro key member
    rcases List.mem_map.mp member with ⟨name, listed, rfl⟩
    have plain := pictureNames_plain listed
    have once := shown ("photos/" ++ name)
      ⟨name, by rw [albumShare_viewed], plain.1, plain.2, album_holds "photos/" listed⟩
    rw [List.flatMap_singleton] at once
    exact List.count_pos_iff.mp (once ▸ Nat.one_pos)
  have most := (distinct.subperm within).length_le
  rw [List.length_map, pictureNames_length] at most
  omega

end Api
end Basement
