import Basement.Api.Shares
import Basement.Drivers.Storage
import Basement.Library.Erasure
import Mathlib.Data.List.Dedup
import Mathlib.Data.List.TakeWhile

namespace Basement
namespace Api

open Library Drivers

/-!
# What a folder share shows

A share of a prefix is listed by one public endpoint and read through another.  The read
endpoint takes the prefix as a folder, adding a slash where it has none, and refuses keys
with a traversal pattern.  The list endpoint does neither: it hands the stored prefix,
continued by whatever the visitor asked for, to a driver that lists by string prefix, and
keeps the rows that start with the stored prefix.

A share is scoped, for one request and one content of its bucket, when both endpoints stay
inside the folder and agree about its objects.
-/

/-! ## Cleaning a key -/

def traversalPatterns : List String := ["..", "%2e%2e", "%2E%2E", "%2e%2E", "%2E%2e"]

def cleanPath (path : String) : String :=
  String.ofList (eraseUntilStable (traversalPatterns.map String.toList) path.toList)

theorem traversalPatterns_nonempty :
    forall word, word ∈ traversalPatterns.map String.toList -> word ≠ [] := by
  decide

/-- The check in front of a presigned URL refuses exactly the keys with a traversal pattern. -/
theorem cleanPath_eq_self_iff (path : String) : cleanPath path = path ↔ traverses path = false := by
  have stable := eraseUntilStable_eq_self_iff traversalPatterns_nonempty path.toList
  rw [← String.toList_inj, cleanPath, String.toList_ofList, stable, List.forall_mem_map,
    show traverses path =
      traversalPatterns.any (fun pattern => decide (pattern.toList <:+: path.toList)) from rfl,
    List.any_eq_false]
  simp only [decide_eq_true_eq]

/-! ## The handlers -/

/-- A page of a driver's listing. -/
structure ObjectPage where
  objects : List String
  commonPrefixes : List String
  isTruncated : Bool
  nextContinuation : String
  deriving DecidableEq, Repr

/-- `Driver.ListObjects` of the share's bucket with delimiter `/` and a limit of 100, and
`Registry.For` before it. -/
abbrev FolderListing := String -> Except Refusal ObjectPage

/-- The cookie of a request, and whether its signature verifies. -/
inductive ShareCookie where
  | absent
  | forged
  | valid
  deriving DecidableEq, Repr

structure ShareRequest where
  now : Int
  cookie : ShareCookie
  asked : String
  deriving DecidableEq, Repr

def ShareRequest.visitor (request : ShareRequest) : Visitor :=
  ⟨request.now, request.cookie == .valid⟩

def validateShareBasic : Option Share -> Except Refusal Share
  | none => .error ⟨404, "SHARE_NOT_FOUND", "Share not found", []⟩
  | some share =>
      if share.revoked then .error ⟨410, "SHARE_REVOKED", "Share has been revoked", []⟩
      else .ok share

/-- The password check of both handlers. -/
def demandPassword (share : Share) (cookie : ShareCookie) : Except Refusal Unit := do
  demand (!(share.hasPassword && cookie == .absent))
    ⟨401, "SHARE_PASSWORD_REQUIRED", "Password required", []⟩
  demand (!(share.hasPassword && cookie == .forged))
    ⟨401, "INVALID_PASSWORD", "Invalid password", []⟩

/-- The prefix `shareListHandler` lists. -/
def Share.fullPrefix (share : Share) (asked : String) : String :=
  let full := share.keyPrefix ++ asked
  if full.toList.getLast? ≠ some '/' ∧ asked ≠ "" then full ++ "/" else full

/-- `shareListHandler`. -/
def shareListHandler (listing : FolderListing) (found : Option Share) (request : ShareRequest) :
    Except Refusal ObjectPage := do
  let share ← validateShareBasic found
  demand (!share.expired request.now) ⟨410, "SHARE_EXPIRED", "Share has expired", []⟩
  demandPassword share request.cookie
  demand (!share.usedUp) ⟨410, "SHARE_LIMIT_REACHED", "Download limit reached", []⟩
  demand (share.key == "") ⟨404, "SHARE_IS_SINGLE_OBJECT", "Share is for a single object", []⟩
  let page ← listing (share.fullPrefix request.asked)
  return { page with
    objects := page.objects.filter fun key => share.keyPrefix.toList.isPrefixOf key.toList
    commonPrefixes := page.commonPrefixes.filter fun folder =>
      share.keyPrefix.toList.isPrefixOf folder.toList }

/-- The key of a get request, after the checks of `shareGetHandler`. -/
def shareGetKey (share : Share) (asked : String) : Except Refusal String :=
  if share.key ≠ "" then .ok share.key
  else do
    demand (asked != "") ⟨400, "INVALID_REQUEST", "Key required for prefix shares", []⟩
    demand (share.keyScope.toList.isPrefixOf asked.toList)
      ⟨400, "INVALID_REQUEST", "Key not under share prefix", []⟩
    demand (cleanPath asked == asked) ⟨400, "INVALID_REQUEST", "Invalid key path", []⟩
    return asked

/-- `shareGetHandler`, up to the key it has a URL signed for. -/
def shareGetHandler (found : Option Share) (request : ShareRequest) : Except Refusal String := do
  let share ← validateShareBasic found
  demand (!share.expired request.now) ⟨410, "SHARE_EXPIRED", "Share has expired", []⟩
  demand (!share.usedUp) ⟨410, "SHARE_LIMIT_REACHED", "Download limit reached", []⟩
  demandPassword share request.cookie
  shareGetKey share request.asked

/-! ## Listing by string prefix -/

def keyRest (keyPrefix key : String) : List Char := key.toList.drop keyPrefix.toList.length

/-- The keys right below a prefix. -/
def listedObjects (keys : List String) (keyPrefix : String) : List String :=
  keys.filter fun key =>
    keyPrefix.toList.isPrefixOf key.toList && !(keyRest keyPrefix key).contains '/'

/-- A key, cut off after the first slash that follows the prefix. -/
def folderOf (keyPrefix key : String) : String :=
  keyPrefix ++ String.ofList ((keyRest keyPrefix key).takeWhile (fun letter => letter != '/')) ++ "/"

def listedFolders (keys : List String) (keyPrefix : String) : List String :=
  ((keys.filter fun key =>
      keyPrefix.toList.isPrefixOf key.toList && (keyRest keyPrefix key).contains '/').map
    (folderOf keyPrefix)).dedup

/-- Every page holds rows of the bucket's listing under the prefix. -/
def ListsByPrefix (keys : List String) (listing : FolderListing) : Prop :=
  forall keyPrefix page, listing keyPrefix = .ok page ->
    page.objects ⊆ listedObjects keys keyPrefix ∧
      page.commonPrefixes ⊆ listedFolders keys keyPrefix

/-- The listing that has room for all rows. -/
def wholeListing (keys : List String) : FolderListing :=
  fun keyPrefix => .ok ⟨listedObjects keys keyPrefix, listedFolders keys keyPrefix, false, ""⟩

theorem wholeListing_listsByPrefix (keys : List String) :
    ListsByPrefix keys (wholeListing keys) := by
  intro keyPrefix page answered
  cases Except.ok.inj answered
  exact ⟨List.Subset.refl _, List.Subset.refl _⟩

/-! ## The scope of a share -/

/-- A key or a folder lies under the share's prefix taken as a folder. -/
def Share.Covers (share : Share) (key : String) : Prop :=
  share.keyScope.toList <+: key.toList

/-- What the two endpoints do with one request, whatever part of the bucket's listing the
driver answers with. -/
structure Share.Scoped (share : Share) (keys : List String) (request : ShareRequest) : Prop where
  objects : forall listing page, ListsByPrefix keys listing ->
    shareListHandler listing (some share) request = .ok page ->
      forall key, key ∈ page.objects -> share.Covers key
  folders : forall listing page, ListsByPrefix keys listing ->
    shareListHandler listing (some share) request = .ok page ->
      forall folder, folder ∈ page.commonPrefixes -> share.Covers folder
  accepted : forall listing page, ListsByPrefix keys listing ->
    shareListHandler listing (some share) request = .ok page ->
      forall key, key ∈ page.objects ->
        shareGetHandler (some share) { request with asked := key } = .ok key
  signed : forall key, shareGetHandler (some share) request = .ok key -> share.Covers key

/-- The listing starts at or below the share's folder, or the bucket has no key beside the
folder that the listing would meet. -/
def Share.NoSiblings (share : Share) (keys : List String) (asked : String) : Prop :=
  share.keyPrefix.toList.getLast? = some '/' ∨ asked.toList.head? = some '/' ∨
    forall key, key ∈ keys -> (share.fullPrefix asked).toList <+: key.toList -> share.Covers key

/-- No object right below the listed prefix has a traversal pattern in its key. -/
def Share.NoTraversals (share : Share) (keys : List String) (asked : String) : Prop :=
  forall key, key ∈ listedObjects keys (share.fullPrefix asked) -> traverses key = false

section Scope

variable {share : Share} {keys : List String} {request : ShareRequest}

/-- What the read endpoint signs for a folder share. -/
theorem shareGetKey_ok_iff (folderShare : share.key = "") {asked key : String} :
    shareGetKey share asked = .ok key ↔
      asked ≠ "" ∧ share.Covers asked ∧ traverses asked = false ∧ asked = key := by
  unfold shareGetKey
  rw [if_neg (not_not_intro folderShare)]
  simp only [bind_eq_ok, demand_eq_ok, exists_const, bne_iff_ne, beq_iff_eq,
    cleanPath_eq_self_iff, List.isPrefixOf_iff_prefix, Share.Covers]
  refine and_congr_right fun _ => and_congr_right fun _ => and_congr_right fun _ => ?_
  exact ⟨Except.ok.inj, congrArg Except.ok⟩

theorem demandPassword_ok_iff {cookie : ShareCookie} {u : Unit} :
    demandPassword share cookie = .ok u ↔
      (!share.hasPassword || cookie == .valid) = true := by
  cases cookie <;> cases protected_ : share.hasPassword <;>
    simp [demandPassword, bind_eq_ok, demand_eq_ok, protected_]

theorem validateShareBasic_ok_iff {held : Share} :
    validateShareBasic (some share) = .ok held ↔ share.revoked = false ∧ share = held := by
  cases gone : share.revoked <;> simp [validateShareBasic, gone]

/-- Both handlers let through whom the share admits. -/
theorem shareGetHandler_ok_iff {key : String} :
    shareGetHandler (some share) request = .ok key ↔
      share.admits request.visitor = true ∧ shareGetKey share request.asked = .ok key := by
  simp only [shareGetHandler, bind_eq_ok, validateShareBasic_ok_iff, demand_eq_ok,
    demandPassword_ok_iff, exists_const, Share.admits, ShareRequest.visitor, Bool.and_eq_true,
    Bool.not_eq_true']
  constructor
  · rintro ⟨held, ⟨kept, rfl⟩, fresh, left, known, given⟩
    exact ⟨⟨⟨⟨kept, fresh⟩, known⟩, left⟩, given⟩
  · rintro ⟨⟨⟨⟨kept, fresh⟩, known⟩, left⟩, given⟩
    exact ⟨share, ⟨kept, rfl⟩, fresh, left, known, given⟩

theorem shareListHandler_ok_iff {listing : FolderListing} {page : ObjectPage} :
    shareListHandler listing (some share) request = .ok page ↔
      share.admits request.visitor = true ∧ share.key = "" ∧
        Exists fun answer => listing (share.fullPrefix request.asked) = .ok answer ∧
          page = { answer with
            objects := answer.objects.filter fun key =>
              share.keyPrefix.toList.isPrefixOf key.toList
            commonPrefixes := answer.commonPrefixes.filter fun folder =>
              share.keyPrefix.toList.isPrefixOf folder.toList } := by
  simp only [shareListHandler, bind_eq_ok, validateShareBasic_ok_iff, demand_eq_ok,
    demandPassword_ok_iff, exists_const, Share.admits, ShareRequest.visitor, Bool.and_eq_true,
    Bool.not_eq_true', beq_iff_eq]
  constructor
  · rintro ⟨held, ⟨kept, rfl⟩, fresh, known, left, folderShare, answer, answered, made⟩
    exact ⟨⟨⟨⟨kept, fresh⟩, known⟩, left⟩, folderShare, answer, answered, (Except.ok.inj made).symm⟩
  · rintro ⟨⟨⟨⟨kept, fresh⟩, known⟩, left⟩, folderShare, answer, answered, rfl⟩
    exact ⟨share, ⟨kept, rfl⟩, fresh, known, left, folderShare, answer, answered, rfl⟩

/-! ### The folder and the listed prefix -/

theorem Share.keyScope_toList (share : Share) :
    share.keyScope.toList = share.keyPrefix.toList ∧ share.keyPrefix.toList.getLast? = some '/' ∨
      share.keyScope.toList = share.keyPrefix.toList ++ ['/'] := by
  unfold Share.keyScope
  by_cases slash : share.keyPrefix.toList.getLast? = some '/'
  · rw [if_pos slash]
    exact Or.inl ⟨rfl, slash⟩
  · rw [if_neg slash, String.toList_append]
    exact Or.inr rfl

theorem Share.keyScope_length_le (share : Share) :
    share.keyScope.toList.length ≤ share.keyPrefix.toList.length + 1 := by
  rcases share.keyScope_toList with ⟨same, _⟩ | added
  · rw [same]
    exact Nat.le_succ _
  · rw [added, List.length_append, List.length_singleton]

/-- The listed prefix continues the stored one with what was asked for. -/
theorem Share.fullPrefix_toList (share : Share) (asked : String) :
    share.keyPrefix.toList ++ asked.toList <+: (share.fullPrefix asked).toList := by
  unfold Share.fullPrefix
  dsimp only
  split
  · rw [String.toList_append, String.toList_append]
    exact List.prefix_append _ _
  · rw [String.toList_append]

theorem Share.keyPrefix_prefix_fullPrefix (share : Share) (asked : String) :
    share.keyPrefix.toList <+: (share.fullPrefix asked).toList :=
  (List.prefix_append _ _).trans (share.fullPrefix_toList asked)

/-- A listing that starts with the folder's slash stays in the folder. -/
theorem Share.keyScope_prefix_fullPrefix {asked : String}
    (slash : share.keyPrefix.toList.getLast? = some '/' ∨ asked.toList.head? = some '/') :
    share.keyScope.toList <+: (share.fullPrefix asked).toList := by
  rcases share.keyScope_toList with ⟨same, _⟩ | added
  · rw [same]
    exact share.keyPrefix_prefix_fullPrefix asked
  · rcases slash with stored | given
    · have same : share.keyScope = share.keyPrefix := if_pos stored
      rw [same]
      exact share.keyPrefix_prefix_fullPrefix asked
    · rcases List.head?_eq_some_iff.mp given with ⟨rest, split⟩
      apply List.IsPrefix.trans ?_ (share.fullPrefix_toList asked)
      rw [added, split]
      exact ⟨rest, by simp⟩

/-! ### Rows of a listing -/

theorem mem_listedObjects {keyPrefix key : String} :
    key ∈ listedObjects keys keyPrefix ↔
      key ∈ keys ∧ keyPrefix.toList <+: key.toList ∧ '/' ∉ keyRest keyPrefix key := by
  simp [listedObjects]

theorem mem_listedFolders {keyPrefix folder : String} :
    folder ∈ listedFolders keys keyPrefix ↔
      Exists fun key => (key ∈ keys ∧ keyPrefix.toList <+: key.toList ∧
        '/' ∈ keyRest keyPrefix key) ∧ folderOf keyPrefix key = folder := by
  simp [listedFolders]

/-- A folder row is the beginning of the key it stands for. -/
theorem folderOf_prefix {keyPrefix key : String} (under : keyPrefix.toList <+: key.toList)
    (deeper : '/' ∈ keyRest keyPrefix key) :
    (folderOf keyPrefix key).toList <+: key.toList := by
  have whole : keyPrefix.toList ++ keyRest keyPrefix key = key.toList :=
    List.prefix_iff_eq_append.mp under
  have cut : (keyRest keyPrefix key).takeWhile (fun letter => letter != '/') ++
      (keyRest keyPrefix key).dropWhile (fun letter => letter != '/') = keyRest keyPrefix key :=
    List.takeWhile_append_dropWhile
  have slashLeft : (keyRest keyPrefix key).dropWhile (fun letter => letter != '/') ≠ [] := by
    intro none
    have noSlash := List.dropWhile_eq_nil_iff.mp none '/' deeper
    simp at noSlash
  rcases List.exists_cons_of_ne_nil slashLeft with ⟨letter, rest, split⟩
  have slash : letter = '/' := by
    have head := List.head?_dropWhile_not (fun letter => letter != '/') (keyRest keyPrefix key)
    simpa [split] using head
  refine ⟨rest, ?_⟩
  rw [← whole, ← cut, split, slash]
  simp [folderOf]

theorem folderOf_length (keyPrefix key : String) :
    keyPrefix.toList.length + 1 ≤ (folderOf keyPrefix key).toList.length := by
  simp only [folderOf, String.toList_append, List.length_append, String.toList_ofList]
  have one : "/".toList.length = 1 := rfl
  omega

/-- A folder row is covered exactly when the key it stands for is. -/
theorem Share.covers_folderOf_iff {asked key : String}
    (under : (share.fullPrefix asked).toList <+: key.toList)
    (deeper : '/' ∈ keyRest (share.fullPrefix asked) key) :
    share.Covers (folderOf (share.fullPrefix asked) key) ↔ share.Covers key := by
  have cut := folderOf_prefix under deeper
  constructor
  · intro covered
    exact covered.trans cut
  · intro covered
    apply List.prefix_of_prefix_length_le covered cut
    have stored := (share.keyPrefix_prefix_fullPrefix asked).length_le
    have scope := share.keyScope_length_le
    have long := folderOf_length (share.fullPrefix asked) key
    omega

/-! ### When a share is scoped -/

/-- Without siblings, all that the listing meets lies in the folder. -/
theorem Share.NoSiblings.covers (tidy : share.NoSiblings keys request.asked) {key : String}
    (held : key ∈ keys) (met : (share.fullPrefix request.asked).toList <+: key.toList) :
    share.Covers key := by
  rcases tidy with stored | asked | inside
  · exact (share.keyScope_prefix_fullPrefix (Or.inl stored)).trans met
  · exact (share.keyScope_prefix_fullPrefix (Or.inr asked)).trans met
  · exact inside key held met

/-- Objects on a page of the list endpoint are rows of the listing. -/
theorem listed_object {listing : FolderListing} {page : ObjectPage} {key : String}
    (byPrefix : ListsByPrefix keys listing)
    (answered : shareListHandler listing (some share) request = .ok page)
    (shown : key ∈ page.objects) :
    key ∈ listedObjects keys (share.fullPrefix request.asked) := by
  rcases shareListHandler_ok_iff.mp answered with ⟨_, _, answer, given, rfl⟩
  exact (byPrefix _ answer given).1 (List.mem_of_mem_filter shown)

theorem listed_folder {listing : FolderListing} {page : ObjectPage} {folder : String}
    (byPrefix : ListsByPrefix keys listing)
    (answered : shareListHandler listing (some share) request = .ok page)
    (shown : folder ∈ page.commonPrefixes) :
    folder ∈ listedFolders keys (share.fullPrefix request.asked) := by
  rcases shareListHandler_ok_iff.mp answered with ⟨_, _, answer, given, rfl⟩
  exact (byPrefix _ answer given).2 (List.mem_of_mem_filter shown)

/-- The page of a driver with room for everything. -/
def Share.wholePage (share : Share) (keys : List String) (asked : String) : ObjectPage where
  objects := (listedObjects keys (share.fullPrefix asked)).filter fun key =>
    share.keyPrefix.toList.isPrefixOf key.toList
  commonPrefixes := (listedFolders keys (share.fullPrefix asked)).filter fun folder =>
    share.keyPrefix.toList.isPrefixOf folder.toList
  isTruncated := false
  nextContinuation := ""

theorem Share.wholePage_answered (folderShare : share.key = "")
    (admitted : share.admits request.visitor = true) :
    shareListHandler (wholeListing keys) (some share) request =
      .ok (share.wholePage keys request.asked) :=
  shareListHandler_ok_iff.mpr ⟨admitted, folderShare, _, rfl, rfl⟩

theorem Share.mem_wholePage_objects {asked key : String}
    (row : key ∈ listedObjects keys (share.fullPrefix asked)) :
    key ∈ (share.wholePage keys asked).objects := by
  refine List.mem_filter.mpr ⟨row, List.isPrefixOf_iff_prefix.mpr ?_⟩
  exact (share.keyPrefix_prefix_fullPrefix asked).trans (mem_listedObjects.mp row).2.1

theorem Share.mem_wholePage_folders {asked key : String} (held : key ∈ keys)
    (met : (share.fullPrefix asked).toList <+: key.toList)
    (deeper : '/' ∈ keyRest (share.fullPrefix asked) key) :
    folderOf (share.fullPrefix asked) key ∈ (share.wholePage keys asked).commonPrefixes := by
  refine List.mem_filter.mpr ⟨mem_listedFolders.mpr ⟨key, ⟨held, met, deeper⟩, rfl⟩, ?_⟩
  apply List.isPrefixOf_iff_prefix.mpr
  apply (share.keyPrefix_prefix_fullPrefix asked).trans
  simp [folderOf]

/-- A scoped share shows the rows of a listing without siblings. -/
theorem Share.Scoped.noSiblings (within : share.Scoped keys request) (folderShare : share.key = "")
    (admitted : share.admits request.visitor = true) : share.NoSiblings keys request.asked := by
  have answered : shareListHandler (wholeListing keys) (some share) request =
      .ok (share.wholePage keys request.asked) := share.wholePage_answered folderShare admitted
  refine Or.inr (Or.inr ?_)
  intro key held met
  by_cases deeper : '/' ∈ keyRest (share.fullPrefix request.asked) key
  · apply (share.covers_folderOf_iff met deeper).mp
    exact within.folders _ _ (wholeListing_listsByPrefix keys) answered _
      (share.mem_wholePage_folders held met deeper)
  · exact within.objects _ _ (wholeListing_listsByPrefix keys) answered _
      (share.mem_wholePage_objects (mem_listedObjects.mpr ⟨held, met, deeper⟩))

theorem Share.Scoped.noTraversals (within : share.Scoped keys request)
    (folderShare : share.key = "") (admitted : share.admits request.visitor = true) :
    share.NoTraversals keys request.asked := by
  intro key row
  have given := within.accepted _ _ (wholeListing_listsByPrefix keys)
    (share.wholePage_answered folderShare admitted) key (share.mem_wholePage_objects row)
  exact ((shareGetKey_ok_iff folderShare).mp (shareGetHandler_ok_iff.mp given).2).2.2.1

end Scope

/-- Both endpoints of a folder share stay in its folder and agree about its objects, for a
request that the share admits, exactly when the listing meets no key beside the folder and
no object whose key has a traversal pattern. -/
theorem share_scoped_iff (share : Share) (folderShare : share.key = "") (keys : List String)
    (request : ShareRequest) :
    share.Scoped keys request ↔
      (share.admits request.visitor = true ->
        share.NoSiblings keys request.asked ∧ share.NoTraversals keys request.asked) := by
  constructor
  · intro within admitted
    exact ⟨within.noSiblings folderShare admitted, within.noTraversals folderShare admitted⟩
  · intro tidy
    have covered : forall listing page, ListsByPrefix keys listing ->
        shareListHandler listing (some share) request = .ok page ->
          forall key, key ∈ page.objects -> share.Covers key := by
      intro listing page byPrefix answered key shown
      have row := mem_listedObjects.mp (listed_object byPrefix answered shown)
      exact (tidy (shareListHandler_ok_iff.mp answered).1).1.covers row.1 row.2.1
    refine ⟨covered, ?_, ?_, ?_⟩
    · intro listing page byPrefix answered folder shown
      rcases mem_listedFolders.mp (listed_folder byPrefix answered shown) with
        ⟨key, ⟨held, met, deeper⟩, rfl⟩
      apply (share.covers_folderOf_iff met deeper).mpr
      exact (tidy (shareListHandler_ok_iff.mp answered).1).1.covers held met
    · intro listing page byPrefix answered key shown
      have admitted := (shareListHandler_ok_iff.mp answered).1
      have under := covered listing page byPrefix answered key shown
      have plain := (tidy admitted).2 key (listed_object byPrefix answered shown)
      refine shareGetHandler_ok_iff.mpr ⟨admitted, ?_⟩
      refine (shareGetKey_ok_iff folderShare).mpr ⟨?_, under, plain, rfl⟩
      rintro rfl
      have short := under.length_le
      rcases share.keyScope_toList with ⟨same, slash⟩ | added
      · rw [same] at short
        have none : share.keyPrefix.toList = [] := List.length_eq_zero_iff.mp (Nat.le_zero.mp short)
        rw [none] at slash
        cases slash
      · rw [added, List.length_append] at short
        exact absurd short (Nat.not_succ_le_zero _)
    · intro key given
      rcases (shareGetKey_ok_iff folderShare).mp (shareGetHandler_ok_iff.mp given).2 with
        ⟨_, under, _, rfl⟩
      exact under

instance decidableCovers (share : Share) (key : String) : Decidable (share.Covers key) :=
  inferInstanceAs (Decidable (_ <+: _))

/-- A share of `photos`, stored without a slash. -/
def photosShare : Share where
  ownerUserID := "ann"
  connectionID := "c1"
  bucketID := "b1"
  keyPrefix := "photos"
  key := ""
  expiresAt := none
  downloadLimit := none
  downloadsUsed := 0
  hasPassword := false
  revoked := false

theorem share_scoped_iff_photos :
    photosShare.key = "" ∧ photosShare.admits ⟨0, false⟩ = true ∧
      (photosShare.Scoped ["photos/cat.jpg"] ⟨0, .absent, ""⟩ ↔
        (photosShare.admits ⟨0, false⟩ = true ->
          photosShare.NoSiblings ["photos/cat.jpg"] "" ∧
            photosShare.NoTraversals ["photos/cat.jpg"] "")) :=
  ⟨rfl, rfl, share_scoped_iff photosShare rfl ["photos/cat.jpg"] ⟨0, .absent, ""⟩⟩

/-- Asked for `-private/`, the share of `photos` lists an object of a sibling folder, which
its read endpoint refuses. -/
theorem photos_share_lists_sibling :
    (photosShare.wholePage ["photos-private/tax.pdf", "photos/cat.jpg"] "-private/").objects =
        ["photos-private/tax.pdf"] ∧
      ¬ photosShare.Covers "photos-private/tax.pdf" ∧
      ¬ photosShare.Scoped ["photos-private/tax.pdf", "photos/cat.jpg"]
        ⟨0, .absent, "-private/"⟩ := by
  have shown : (photosShare.wholePage ["photos-private/tax.pdf", "photos/cat.jpg"]
      "-private/").objects = ["photos-private/tax.pdf"] := by
    decide +kernel
  have outside : ¬ photosShare.Covers "photos-private/tax.pdf" := by
    decide +kernel
  refine ⟨shown, outside, ?_⟩
  intro within
  apply outside
  apply within.objects _ _ (wholeListing_listsByPrefix _) (photosShare.wholePage_answered rfl rfl)
  rw [shown]
  exact List.mem_singleton_self _

end Api
end Basement
