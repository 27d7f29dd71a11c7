import Basement.Api.Regions
import Basement.Library.Rows
import Basement.Library.SavedMemory

namespace Basement
namespace Store

open Library
open Api (URLLibrary normalizeEndpoint trimSpace)

/-!
# The region store

The entries of all keychains are one list, in memory and in `user_regions.json`.  `Create` keeps
one entry for a user, an endpoint in its normal form and an alias, and takes its row back when it
cannot be written.  `Update`, `Delete` and `TouchLastUsed` keep what they have changed.

The encryption of a secret and the errors of the URL parser are parameters, as the parser is.
-/

/-! ## Records -/

/-- `UserRegion`, with times in nanoseconds and zero for the zero time.  `aliasName` is `Alias`. -/
structure UserRegion where
  id : String := ""
  userID : String := ""
  aliasName : String := ""
  endpoint : String := ""
  region : String := ""
  accessKeyID : String := ""
  secretKeyEnc : List UInt8 := []
  addressingStyle : String := ""
  createdAt : Int := 0
  updatedAt : Int := 0
  lastUsedAt : Int := 0
  deriving DecidableEq, Repr

/-- `userRegionStore`. -/
structure UserRegions where
  cache : List UserRegion := []
  lastTouchPersist : SortedStore String Int := .empty

/-- The URL parser with its errors. -/
structure EndpointLibrary extends URLLibrary where
  parseError : String -> String := fun _ => ""

namespace UserRegions

/-- The ID that a call draws, its clock, its encryption and the error of its write. -/
structure CallIO where
  uuid : String := ""
  now : Int := 0
  encryptSecret : List UInt8 -> Except String (List UInt8) := .ok
  writeError : Option String := none

def errNotFound : String := "user region not found"

def errDuplicate : String := "duplicate user+endpoint+alias"

/-- One minute. -/
def touchDebounce : Int := 60000000000

/-! ## Checks -/

/-- `normalizeAddressingStyle`. -/
def normalizeAddressingStyle (style : String) : String :=
  if style = "virtual_host" then "virtual_host" else "path"

/-- The error of `NormalizeEndpoint` for an endpoint that has no normal form. -/
def endpointError (urls : EndpointLibrary) (raw : String) : String :=
  let s := trimSpace raw
  if s = "" then "endpoint is required"
  else
    match urls.parse s with
    | none => "parsing endpoint: " ++ urls.parseError s
    | some url =>
        let scheme := urls.toLower url.scheme
        if scheme = "" then "endpoint must include scheme (e.g. https://)"
        else if scheme ≠ "http" ∧ scheme ≠ "https" then
          "unsupported scheme " ++ url.scheme.quote
        else "endpoint must include host"

/-- `validateUserRegionCreate`. -/
def validateUserRegionCreate (urls : EndpointLibrary) (r : UserRegion)
    (plaintextSecret : List UInt8) : Except String UserRegion :=
  if trimSpace r.userID = "" then .error "userId is required"
  else if trimSpace r.accessKeyID = "" then .error "accessKeyId is required"
  else if plaintextSecret = [] then .error "secretKey is required"
  else
    match normalizeEndpoint urls.toURLLibrary r.endpoint with
    | none => .error (endpointError urls r.endpoint)
    | some canon =>
        .ok { r with
          userID := trimSpace r.userID
          aliasName := trimSpace r.aliasName
          endpoint := canon
          region := if trimSpace r.region = "" then "us-east-1" else trimSpace r.region
          accessKeyID := trimSpace r.accessKeyID
          addressingStyle := normalizeAddressingStyle (trimSpace r.addressingStyle) }

/-! ## Reads -/

/-- `applyReadDefaults`. -/
def applyReadDefaults (r : UserRegion) : UserRegion :=
  { r with addressingStyle := normalizeAddressingStyle r.addressingStyle }

def get (store : UserRegions) (id : String) : Except String UserRegion :=
  match store.cache.find? fun r => r.id = id with
  | none => .error errNotFound
  | some r => .ok (applyReadDefaults r)

/-- `GetByUserEndpoint`. -/
def getByUserEndpoint (urls : EndpointLibrary) (store : UserRegions) (userID endpoint : String) :
    Except String UserRegion :=
  match normalizeEndpoint urls.toURLLibrary endpoint with
  | none => .error (endpointError urls endpoint)
  | some canon =>
      match store.cache.find? fun r => r.userID = userID && r.endpoint = canon with
      | none => .error errNotFound
      | some r => .ok (applyReadDefaults r)

/-- `ListForUser`. -/
def listForUser (store : UserRegions) (userID : String) : List UserRegion :=
  (store.cache.filter fun r => r.userID = userID).map applyReadDefaults

/-- What the reads answer. -/
structure Reads where
  get : String -> Except String UserRegion
  getByUserEndpoint : String -> String -> Except String UserRegion
  listForUser : String -> List UserRegion

def reads (urls : EndpointLibrary) (store : UserRegions) : Reads :=
  ⟨get store, getByUserEndpoint urls store, listForUser store⟩

/-! ## Operations -/

/-- What `Create` compares: the user, the endpoint and the alias of a row. -/
def sameKey (first second : UserRegion) : Bool :=
  first.userID = second.userID && first.endpoint = second.endpoint && first.aliasName = second.aliasName

/-- The row that `Create` makes of its checked argument. -/
def created (clean : UserRegion) (enc : List UInt8) (io : CallIO) : UserRegion where
  id := io.uuid
  userID := clean.userID
  aliasName := clean.aliasName
  endpoint := clean.endpoint
  region := clean.region
  accessKeyID := clean.accessKeyID
  secretKeyEnc := enc
  addressingStyle := normalizeAddressingStyle clean.addressingStyle
  createdAt := io.now
  updatedAt := io.now

/-- `Create`.  The secret comes as plain text in the field of the encrypted one. -/
def create (urls : EndpointLibrary) (store : UserRegions) (r : UserRegion) (io : CallIO) :
    Except String UserRegion × UserRegions :=
  match validateUserRegionCreate urls { r with secretKeyEnc := [] } r.secretKeyEnc with
  | .error error => (.error error, store)
  | .ok clean =>
      match io.encryptSecret r.secretKeyEnc with
      | .error error => (.error ("encrypting secret: " ++ error), store)
      | .ok enc =>
          if store.cache.any fun existing => sameKey existing clean then
            (.error errDuplicate, store)
          else
            let grown := store.cache ++ [created clean enc io]
            saving (io.writeError.map ("persisting user region: " ++ ·)) (created clean enc io)
              { store with cache := grown } { store with cache := grown.dropLast }

/-- The ciphertext of a rotated secret, if there is one. -/
def rotated (patch : UserRegion) (io : CallIO) : Except String (Option (List UInt8)) :=
  if patch.secretKeyEnc = [] then .ok none
  else
    match io.encryptSecret patch.secretKeyEnc with
    | .error error => .error ("encrypting rotated secret: " ++ error)
    | .ok enc => .ok (some enc)

/-- A field after an update: an empty text keeps it. -/
def orKept (given kept : String) : String := if trimSpace given = "" then kept else trimSpace given

/-- A row after an update. -/
def patched (row patch : UserRegion) (newEnc : Option (List UInt8)) (now : Int) : UserRegion :=
  { row with
    aliasName := orKept patch.aliasName row.aliasName
    region := orKept patch.region row.region
    accessKeyID := orKept patch.accessKeyID row.accessKeyID
    secretKeyEnc := newEnc.getD row.secretKeyEnc
    updatedAt := now }

/-- `Update`. -/
def update (store : UserRegions) (id : String) (patch : UserRegion) (io : CallIO) :
    Except String UserRegion × UserRegions :=
  match store.cache.find? fun r => r.id = id with
  | none => (.error errNotFound, store)
  | some row =>
      match rotated patch io with
      | .error error => (.error error, store)
      | .ok newEnc =>
          let changed := { store with
            cache := updateFirst (fun r => r.id = id)
              (fun r => patched r patch newEnc io.now) store.cache }
          saving (io.writeError.map ("persisting user region update: " ++ ·))
            (applyReadDefaults (patched row patch newEnc io.now)) changed changed

/-- `Delete`. -/
def delete (store : UserRegions) (id : String) (io : CallIO) : Except String Unit × UserRegions :=
  match store.cache.find? fun r => r.id = id with
  | none => (.error errNotFound, store)
  | some _ =>
      let changed : UserRegions :=
        ⟨store.cache.eraseP fun r => r.id = id, store.lastTouchPersist.erase id⟩
      saving (io.writeError.map ("persisting user region delete: " ++ ·)) () changed changed

/-- A bump of the row was written less than a minute ago. -/
def debounced (store : UserRegions) (id : String) (now : Int) : Bool :=
  (store.lastTouchPersist.get? id).any fun last => decide (now - last < touchDebounce)

/-- `TouchLastUsed`. -/
def touchLastUsed (store : UserRegions) (id : String) (io : CallIO) :
    Except String Unit × UserRegions :=
  match store.cache.find? fun r => r.id = id with
  | none => (.error errNotFound, store)
  | some _ =>
      let touched := { store with
        cache := updateFirst (fun r => r.id = id) (fun r => { r with lastUsedAt := io.now })
          store.cache }
      if debounced store id io.now then (.ok (), touched)
      else
        saving (io.writeError.map ("persisting last-used bump: " ++ ·)) ()
          { touched with lastTouchPersist := store.lastTouchPersist.put id io.now } touched

/-! ## When a failed write is unseen -/

/-- The patch has a secret that cannot be encrypted. -/
def Unencrypted (patch : UserRegion) (io : CallIO) : Prop :=
  patch.secretKeyEnc ≠ [] ∧
    Exists fun error => io.encryptSecret patch.secretKeyEnc = .error error

/-- An update gives what the row has already, at the time of its last change. -/
structure Restated (row patch : UserRegion) (io : CallIO) : Prop where
  aliasName : trimSpace patch.aliasName = "" ∨ trimSpace patch.aliasName = row.aliasName
  region : trimSpace patch.region = "" ∨ trimSpace patch.region = row.region
  accessKeyID : trimSpace patch.accessKeyID = "" ∨ trimSpace patch.accessKeyID = row.accessKeyID
  secretKeyEnc : patch.secretKeyEnc = [] ∨
    io.encryptSecret patch.secretKeyEnc = .ok row.secretKeyEnc
  now : io.now = row.updatedAt

theorem orKept_eq_iff {given kept : String} :
    orKept given kept = kept ↔ (trimSpace given = "" ∨ trimSpace given = kept) := by
  unfold orKept
  by_cases empty : trimSpace given = ""
  · rw [if_pos empty]
    exact ⟨fun _ => Or.inl empty, fun _ => rfl⟩
  · rw [if_neg empty, or_iff_right empty]

theorem rotated_eq_error_iff {patch : UserRegion} {io : CallIO} :
    (Exists fun error => rotated patch io = .error error) ↔ Unencrypted patch io := by
  unfold rotated Unencrypted
  by_cases empty : patch.secretKeyEnc = []
  · rw [if_pos empty]
    exact ⟨by rintro ⟨_, ⟨⟩⟩, fun unencrypted => absurd empty unencrypted.1⟩
  · rw [if_neg empty, and_iff_right empty]
    cases io.encryptSecret patch.secretKeyEnc with
    | error error => exact ⟨fun _ => ⟨error, rfl⟩, fun _ => ⟨_, rfl⟩⟩
    | ok enc => exact ⟨by rintro ⟨_, ⟨⟩⟩, by rintro ⟨_, ⟨⟩⟩⟩

theorem rotated_getD_eq_iff {patch : UserRegion} {io : CallIO} {newEnc : Option (List UInt8)}
    (done : rotated patch io = .ok newEnc) (old : List UInt8) :
    newEnc.getD old = old ↔
      (patch.secretKeyEnc = [] ∨ io.encryptSecret patch.secretKeyEnc = .ok old) := by
  unfold rotated at done
  by_cases empty : patch.secretKeyEnc = []
  · rw [if_pos empty] at done
    cases done
    exact ⟨fun _ => Or.inl empty, fun _ => rfl⟩
  · rw [if_neg empty] at done
    rw [or_iff_right empty]
    cases sealed : io.encryptSecret patch.secretKeyEnc with
    | error error =>
        rw [sealed] at done
        cases done
    | ok enc =>
        rw [sealed] at done
        cases done
        exact ⟨congrArg Except.ok, Except.ok.inj⟩

theorem patched_id (row patch : UserRegion) (newEnc : Option (List UInt8)) (now : Int) :
    (patched row patch newEnc now).id = row.id := by rw [patched]

theorem patched_addressingStyle (row patch : UserRegion) (newEnc : Option (List UInt8))
    (now : Int) : (patched row patch newEnc now).addressingStyle = row.addressingStyle := by
  rw [patched]

theorem patched_eq_self_iff {row patch : UserRegion} {io : CallIO}
    {newEnc : Option (List UInt8)} (done : rotated patch io = .ok newEnc) :
    patched row patch newEnc io.now = row ↔ Restated row patch io := by
  have fields : patched row patch newEnc io.now = row ↔
      orKept patch.aliasName row.aliasName = row.aliasName ∧
        orKept patch.region row.region = row.region ∧
          orKept patch.accessKeyID row.accessKeyID = row.accessKeyID ∧
            newEnc.getD row.secretKeyEnc = row.secretKeyEnc ∧ io.now = row.updatedAt := by
    cases row
    simp only [patched, UserRegion.mk.injEq, true_and, and_true]
  rw [fields, orKept_eq_iff, orKept_eq_iff, orKept_eq_iff, rotated_getD_eq_iff done]
  constructor
  · rintro ⟨aliasName, region, accessKeyID, secretKeyEnc, now⟩
    exact ⟨aliasName, region, accessKeyID, secretKeyEnc, now⟩
  · rintro ⟨aliasName, region, accessKeyID, secretKeyEnc, now⟩
    exact ⟨aliasName, region, accessKeyID, secretKeyEnc, now⟩

/-- The defaults of a read hide nothing but the style. -/
theorem eq_of_applyReadDefaults {first second : UserRegion}
    (style : first.addressingStyle = second.addressingStyle)
    (same : applyReadDefaults first = applyReadDefaults second) : first = second := by
  have restored : forall r : UserRegion,
      r = { applyReadDefaults r with addressingStyle := r.addressingStyle } := fun _ => rfl
  rw [restored first, restored second, same, style]

section Operations

variable {urls : EndpointLibrary} {store : UserRegions} {id : String} {row : UserRegion}
  {io : CallIO}

theorem get_of_find {r : UserRegion} (found : (store.cache.find? fun r => r.id = id) = some r) :
    get store id = .ok (applyReadDefaults r) := by
  unfold get
  rw [found]

/-- A change of a row is seen by `Get`. -/
theorem reads_updateFirst_iff {change : UserRegion -> UserRegion}
    (found : (store.cache.find? fun r => r.id = id) = some row)
    (keepsID : (change row).id = row.id)
    (keepsStyle : (change row).addressingStyle = row.addressingStyle) :
    reads urls { store with cache := updateFirst (fun r => r.id = id) change store.cache } =
        reads urls store ↔
      change row = row := by
  constructor
  · intro same
    have here := List.find?_some found
    have later : get { store with cache := updateFirst (fun r => r.id = id) change store.cache }
        id = .ok (applyReadDefaults (change row)) :=
      get_of_find (find?_updateFirst found (by rw [keepsID]; exact here))
    have answers : get { store with
        cache := updateFirst (fun r => r.id = id) change store.cache } id = get store id :=
      congrFun (congrArg Reads.get same) id
    rw [later, get_of_find found] at answers
    exact eq_of_applyReadDefaults keepsStyle (Except.ok.inj answers)
  · intro same
    rw [(updateFirst_eq_self_iff found).mpr same]

theorem create_unseen {r : UserRegion} :
    FailsUnseen (reads urls) store (create urls store r io) := by
  unfold create
  split
  · exact FailsUnseen.refused _
  · split
    · exact FailsUnseen.refused _
    · split
      · exact FailsUnseen.refused _
      · refine failsUnseen_saving_iff.mpr (Or.inr ?_)
        rw [List.dropLast_concat]

theorem update_unseen_iff {patch : UserRegion} :
    FailsUnseen (reads urls) store (update store id patch io) ↔
      forall row, (store.cache.find? fun r => r.id = id) = some row ->
        io.writeError = none ∨ Unencrypted patch io ∨ Restated row patch io := by
  unfold update
  cases found : store.cache.find? fun r => r.id = id with
  | none => exact ⟨by rintro _ _ ⟨⟩, fun _ => FailsUnseen.refused _⟩
  | some row =>
      dsimp only
      simp only [Option.some.injEq, forall_eq']
      rw [← rotated_eq_error_iff]
      cases done : rotated patch io with
      | error error =>
          exact ⟨fun _ => Or.inr (Or.inl ⟨error, rfl⟩), fun _ => FailsUnseen.refused _⟩
      | ok newEnc =>
          have unchanged := @reads_updateFirst_iff urls store id row
            (fun r => patched r patch newEnc io.now) found (patched_id ..)
            (patched_addressingStyle ..)
          refine failsUnseen_saving_iff.trans ?_
          rw [unchanged, patched_eq_self_iff done, Option.map_eq_none_iff]
          refine or_congr Iff.rfl ⟨Or.inr, ?_⟩
          rintro (⟨_, ⟨⟩⟩ | same)
          exact same

theorem delete_unseen_iff :
    FailsUnseen (reads urls) store (delete store id io) ↔
      (io.writeError = none ∨ (store.cache.find? fun r => r.id = id) = none) := by
  unfold delete
  cases found : store.cache.find? fun r => r.id = id with
  | none => exact ⟨fun _ => Or.inr rfl, fun _ => FailsUnseen.refused _⟩
  | some row =>
      refine failsUnseen_saving_iff.trans (or_congr Option.map_eq_none_iff ⟨?_, by rintro ⟨⟩⟩)
      intro same
      rcases exists_first found with ⟨before, after, split, matched, passed⟩
      have answers : listForUser ⟨store.cache.eraseP fun r => r.id = id,
          store.lastTouchPersist.erase id⟩ row.userID = listForUser store row.userID :=
        congrFun (congrArg Reads.listForUser same) row.userID
      have lengths := congrArg List.length answers
      unfold listForUser at lengths
      rw [split, eraseP_append passed matched, List.length_map, List.length_map,
        List.filter_append, List.filter_append, List.filter_cons_of_pos (by simp),
        List.length_append, List.length_append, List.length_cons] at lengths
      omega

theorem touchLastUsed_unseen_iff :
    FailsUnseen (reads urls) store (touchLastUsed store id io) ↔
      forall row, (store.cache.find? fun r => r.id = id) = some row ->
        io.writeError = none ∨ debounced store id io.now = true ∨ io.now = row.lastUsedAt := by
  unfold touchLastUsed
  cases found : store.cache.find? fun r => r.id = id with
  | none => exact ⟨by rintro _ _ ⟨⟩, fun _ => FailsUnseen.refused _⟩
  | some row =>
      dsimp only
      simp only [Option.some.injEq, forall_eq']
      by_cases recent : debounced store id io.now = true
      · rw [if_pos recent]
        exact ⟨fun _ => Or.inr (Or.inl recent), fun _ => FailsUnseen.answered⟩
      · rw [if_neg recent, or_iff_right recent]
        have unchanged := @reads_updateFirst_iff urls store id row
          (fun r => { r with lastUsedAt := io.now }) found rfl rfl
        refine failsUnseen_saving_iff.trans ?_
        rw [unchanged, Option.map_eq_none_iff]
        refine or_congr Iff.rfl ⟨fun same => congrArg UserRegion.lastUsedAt same, ?_⟩
        intro same
        rw [same]

end Operations

end UserRegions

end Store
end Basement
