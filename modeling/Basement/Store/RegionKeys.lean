import Basement.Library.Keys
import Basement.Library.Transition
import Basement.Store.UserRegions

namespace Basement
namespace Store
namespace UserRegions

open Library
open Api (normalizeEndpoint trimSpace)

/-!
# The keys of user regions

`Create` refuses a region whose user, normal endpoint and alias are those of a stored one.
`Update` replaces the alias, which is a part of this key, and compares nothing.  No call changes
the identifier or the user of a row.
-/

/-! ## Calls -/

inductive Call where
  | create (r : UserRegion) (io : CallIO)
  | update (id : String) (patch : UserRegion) (io : CallIO)
  | delete (id : String) (io : CallIO)
  | touchLastUsed (id : String) (io : CallIO)

/-- The store after a call. -/
def step (urls : EndpointLibrary) (store : UserRegions) : Call -> Option UserRegions
  | .create r io => some (create urls store r io).2
  | .update id patch io => some (update store id patch io).2
  | .delete id io => some (delete store id io).2
  | .touchLastUsed id io => some (touchLastUsed store id io).2

/-- The user, the endpoint and the alias of a row; what is stored as the endpoint is normal. -/
def regionKey (r : UserRegion) : Option (String × String × String) :=
  some (r.userID, r.endpoint, r.aliasName)

/-- The identifiers and the users of the rows, in their order. -/
def owners (rows : List UserRegion) : List (String × String) := rows.map fun r => (r.id, r.userID)

/-- The rows that were there have the identifiers and the users they had: a creation adds a row
at the end, with the normal form of the endpoint it was given, and a deletion takes the first row
with the identifier out. -/
def KeepsOwners (urls : EndpointLibrary) (before after : List UserRegion) : Call -> Prop
  | .create r io => after = before ∨
      Exists fun row => after = before ++ [row] ∧ row.id = io.uuid ∧
        row.userID = trimSpace r.userID ∧
        normalizeEndpoint urls.toURLLibrary r.endpoint = some row.endpoint
  | .update _ _ _ => owners after = owners before
  | .delete id _ => owners after = owners before ∨
      owners after = (owners before).eraseP fun owner => owner.1 = id
  | .touchLastUsed _ _ => owners after = owners before

/-- An update that gives an alias, and does not fail on its secret, gives one that no other row of
the user has at the endpoint. -/
def AliasFree (store : UserRegions) : Call -> Prop
  | .update id patch io =>
      forall row, row ∈ store.cache.find? (fun r => r.id = id) ->
        trimSpace patch.aliasName ≠ "" -> ¬ Unencrypted patch io ->
          forall other, other ∈ store.cache.eraseP (fun r => r.id = id) ->
            ¬ (other.userID = row.userID ∧ other.endpoint = row.endpoint ∧
              other.aliasName = trimSpace patch.aliasName)
  | _ => True

/-! ## What the calls leave -/

variable {urls : EndpointLibrary} {store : UserRegions} {id : String} {io : CallIO}

/-- What a checked region has of the one that was given. -/
theorem validateUserRegionCreate_ok {r clean : UserRegion} {secret : List UInt8}
    (checked : validateUserRegionCreate urls r secret = .ok clean) :
    clean.userID = trimSpace r.userID ∧
      normalizeEndpoint urls.toURLLibrary r.endpoint = some clean.endpoint := by
  unfold validateUserRegionCreate at checked
  split at checked
  · cases checked
  · split at checked
    · cases checked
    · split at checked
      · cases checked
      · split at checked
        · cases checked
        · rename_i canon normal
          rw [← Except.ok.inj checked]
          exact ⟨rfl, normal⟩

theorem sameKey_iff {first second : UserRegion} :
    sameKey first second = true ↔ regionKey first = regionKey second := by
  simp [sameKey, regionKey, and_assoc]

/-- A creation leaves the rows alone, or adds one whose key no row has. -/
theorem create_cases (r : UserRegion) :
    (create urls store r io).2.cache = store.cache ∨
      Exists fun row => (create urls store r io).2.cache = store.cache ++ [row] ∧
        Unclaimed regionKey row store.cache ∧ row.id = io.uuid ∧
        row.userID = trimSpace r.userID ∧
        normalizeEndpoint urls.toURLLibrary r.endpoint = some row.endpoint := by
  unfold create
  cases checked : validateUserRegionCreate urls { r with secretKeyEnc := [] } r.secretKeyEnc with
  | error error => exact Or.inl rfl
  | ok clean =>
      have given : clean.userID = trimSpace r.userID ∧
          normalizeEndpoint urls.toURLLibrary r.endpoint = some clean.endpoint := by
        rcases validateUserRegionCreate_ok checked with ⟨user, normal⟩
        exact ⟨user.trans rfl, normal⟩
      cases io.encryptSecret r.secretKeyEnc with
      | error error => exact Or.inl rfl
      | ok enc =>
          simp only
          split
          · exact Or.inl rfl
          · rename_i unclaimed
            cases io.writeError with
            | some error => exact Or.inl List.dropLast_concat
            | none =>
                refine Or.inr ⟨created clean enc io, rfl, ?_, rfl, given⟩
                intro other listed _ same
                exact unclaimed (List.any_eq_true.mpr ⟨other, listed, sameKey_iff.mpr same⟩)

/-- An update fails without a trace, or changes the first row with the identifier. -/
theorem update_cases (patch : UserRegion) :
    ((update store id patch io).2 = store ∧ forall row,
        row ∈ store.cache.find? (fun r => r.id = id) -> Unencrypted patch io) ∨
      Exists fun row => Exists fun newEnc =>
        store.cache.find? (fun r => r.id = id) = some row ∧ ¬ Unencrypted patch io ∧
        (update store id patch io).2.cache = updateFirst (fun r => r.id = id)
          (fun r => patched r patch newEnc io.now) store.cache := by
  unfold update
  cases found : store.cache.find? fun r => r.id = id with
  | none => exact Or.inl ⟨rfl, by rintro _ ⟨⟩⟩
  | some row =>
      cases done : rotated patch io with
      | error error => exact Or.inl ⟨rfl, fun _ _ => rotated_eq_error_iff.mp ⟨error, done⟩⟩
      | ok newEnc =>
          refine Or.inr ⟨row, newEnc, rfl, ?_, ?_⟩
          · intro unencrypted
            rcases rotated_eq_error_iff.mpr unencrypted with ⟨error, failed⟩
            cases done.symm.trans failed
          · simp only [saving_memory]

theorem delete_cases :
    (delete store id io).2.cache = store.cache ∨
      (delete store id io).2.cache = store.cache.eraseP fun r => r.id = id := by
  unfold delete
  split
  · exact Or.inl rfl
  · rw [saving_memory]
    exact Or.inr rfl

theorem touchLastUsed_cases :
    (touchLastUsed store id io).2.cache = store.cache ∨
      Exists fun row => store.cache.find? (fun r => r.id = id) = some row ∧
        (touchLastUsed store id io).2.cache = updateFirst (fun r => r.id = id)
          (fun r => { r with lastUsedAt := io.now }) store.cache := by
  unfold touchLastUsed
  cases found : store.cache.find? fun r => r.id = id with
  | none => exact Or.inl rfl
  | some row =>
      refine Or.inr ⟨row, rfl, ?_⟩
      simp only
      split
      · rfl
      · cases io.writeError <;> rfl

/-! ## Identifiers and users -/

theorem owners_updateFirst {selected : UserRegion -> Bool} {change : UserRegion -> UserRegion}
    (id : forall r, (change r).id = r.id) (userID : forall r, (change r).userID = r.userID)
    (rows : List UserRegion) : owners (updateFirst selected change rows) = owners rows := by
  apply map_updateFirst
  intro r
  rw [id r, userID r]

theorem owners_eraseP (rows : List UserRegion) :
    owners (rows.eraseP fun r => r.id = id) =
      (owners rows).eraseP fun owner => owner.1 = id := by
  unfold owners
  rw [List.eraseP_map]
  rfl

/-- No call changes the identifier or the user of a row. -/
theorem step_keepsOwners {next : UserRegions} (call : Call)
    (taken : step urls store call = some next) : KeepsOwners urls store.cache next.cache call := by
  cases call with
  | create r io =>
      cases taken
      rcases create_cases r with same | ⟨row, grown, _, added⟩
      · exact Or.inl same
      · exact Or.inr ⟨row, grown, added⟩
  | update id patch io =>
      cases taken
      rcases update_cases patch with ⟨same, _⟩ | ⟨row, newEnc, _, _, changed⟩
      · exact congrArg (fun store => owners store.cache) same
      · refine (congrArg owners changed).trans (owners_updateFirst ?_ ?_ _)
        · intro r
          exact patched_id r patch newEnc io.now
        · intro r
          rw [patched]
  | delete id io =>
      cases taken
      rcases delete_cases with same | removed
      · exact Or.inl (congrArg owners same)
      · exact Or.inr ((congrArg owners removed).trans (owners_eraseP _))
  | touchLastUsed id io =>
      cases taken
      rcases touchLastUsed_cases with same | ⟨_, _, touched⟩
      · exact congrArg owners same
      · refine (congrArg owners touched).trans (owners_updateFirst ?_ ?_ _)
        · intro r
          rfl
        · intro r
          rfl

/-! ## Keys -/

theorem regionKey_patched (row patch : UserRegion) (newEnc : Option (List UInt8)) (now : Int) :
    regionKey (patched row patch newEnc now) =
      some (row.userID, row.endpoint, orKept patch.aliasName row.aliasName) := by
  rw [patched, regionKey]

/-- An update keeps the keys distinct exactly if its alias is free. -/
theorem update_distinct_iff (distinct : DistinctKeys regionKey store.cache) (patch : UserRegion) :
    DistinctKeys regionKey (update store id patch io).2.cache ↔
      AliasFree store (.update id patch io) := by
  rcases update_cases patch with ⟨same, failed⟩ | ⟨row, newEnc, found, encrypted, changed⟩
  · rw [same]
    refine iff_of_true distinct ?_
    intro row found _ encrypted
    exact absurd (failed row found) encrypted
  · rw [changed]
    by_cases kept : trimSpace patch.aliasName = ""
    · refine iff_of_true (distinct.updateFirst found ?_) ?_
      · rw [regionKey_patched, orKept, if_pos kept]
        rfl
      · intro _ _ given
        exact absurd kept given
    · rw [distinctKeys_updateFirst_iff distinct found]
      unfold Unclaimed
      rw [regionKey_patched, orKept, if_neg kept]
      constructor
      · intro unclaimed other same _ _ neighbour listed
        cases found.symm.trans same
        rintro ⟨user, endpoint, aliasName⟩
        apply unclaimed neighbour listed (by rintro ⟨⟩)
        rw [regionKey, user, endpoint, aliasName]
      · intro free other listed _ same
        rcases Prod.mk.inj (Option.some.inj same) with ⟨user, rest⟩
        rcases Prod.mk.inj rest with ⟨endpoint, aliasName⟩
        exact free row found kept encrypted other listed ⟨user, endpoint, aliasName⟩

/-- A call keeps the keys distinct exactly if it is not an update to an alias that is taken. -/
theorem step_distinct_iff {next : UserRegions} {call : Call}
    (distinct : DistinctKeys regionKey store.cache) (taken : step urls store call = some next) :
    DistinctKeys regionKey next.cache ↔ AliasFree store call := by
  cases call with
  | create r io =>
      cases taken
      refine iff_of_true ?_ trivial
      rcases create_cases r with same | ⟨row, grown, unclaimed, _⟩
      · rw [same]
        exact distinct
      · rw [grown]
        exact distinctKeys_append_iff.mpr ⟨distinct, unclaimed⟩
  | update id patch io =>
      cases taken
      exact update_distinct_iff distinct patch
  | delete id io =>
      cases taken
      refine iff_of_true ?_ trivial
      rcases delete_cases with same | removed
      · rw [same]
        exact distinct
      · rw [removed]
        exact distinct.sublist List.eraseP_sublist
  | touchLastUsed id io =>
      cases taken
      refine iff_of_true ?_ trivial
      rcases touchLastUsed_cases with same | ⟨row, found, touched⟩
      · rw [same]
        exact distinct
      · rw [touched]
        exact distinct.updateFirst found rfl

/-- The rows keep their identifiers and users in every run, and their keys are distinct throughout
it exactly if no update takes an alias that is another row's. -/
theorem regions_unique_iff (urls : EndpointLibrary) {store final : UserRegions} {calls : List Call}
    (initially : DistinctKeys regionKey store.cache)
    (run : Transition.exec (step urls) store calls = some final) :
    (Transition.Throughout (step urls) (fun store => DistinctKeys regionKey store.cache) store
          calls ∧
        Transition.Meets (step urls) (fun store call => forall next,
          step urls store call = some next -> KeepsOwners urls store.cache next.cache call) store
          calls) ↔
      Transition.Meets (step urls) AliasFree store calls := by
  have kept : Transition.Meets (step urls) (fun store call => forall next,
      step urls store call = some next -> KeepsOwners urls store.cache next.cache call) store calls := by
    apply Transition.meets_of_forall
    intro store call next taken
    exact step_keepsOwners call taken
  rw [and_iff_left kept]
  refine Transition.throughout_iff_meets_of_step ?_ initially run
  intro store call next distinct taken
  exact step_distinct_iff distinct taken

/-! ## An alias taken twice -/

instance (patch : UserRegion) (io : CallIO) : Decidable (Unencrypted patch io) :=
  decidable_of_iff ((rotated patch io).toOption = none) (by
    rw [← rotated_eq_error_iff]
    cases rotated patch io <;> simp [Except.toOption])

instance (store : UserRegions) (call : Call) : Decidable (AliasFree store call) := by
  cases call with
  | update id patch io =>
      show Decidable (forall row, row ∈ store.cache.find? (fun r => r.id = id) -> _)
      infer_instance
  | _ => exact isTrue trivial

def sampleLibrary : EndpointLibrary where
  toURLLibrary := Api.sampleURLs

/-- A region of Alice's with a key of its own. -/
def regionAt (endpoint aliasName : String) : UserRegion where
  userID := "alice"
  aliasName := aliasName
  endpoint := endpoint
  accessKeyID := "AK"
  secretKeyEnc := [1]

/-- Two regions of Alice's at one endpoint in two spellings, and a new alias for the second. -/
def renameHome (aliasName : String) : List Call :=
  [.create (regionAt "https://s3.local" "work") { uuid := "r1", now := 1 },
    .create (regionAt " https://s3.local:443" "home") { uuid := "r2", now := 2 },
    .update "r2" { aliasName } { now := 3 }]

theorem regions_unique_iff_office :
    Transition.Throughout (step sampleLibrary) (fun store => DistinctKeys regionKey store.cache) {}
      (renameHome "office") :=
  ((@regions_unique_iff sampleLibrary {} _ (renameHome "office") distinctKeys_nil rfl).mpr
    (by decide +kernel)).1

/-- An update takes the alias of another region at the same endpoint. -/
theorem update_takes_alias :
    ¬ forall (urls : EndpointLibrary) (store final : UserRegions) (calls : List Call),
      DistinctKeys regionKey store.cache ->
        Transition.exec (step urls) store calls = some final ->
          Transition.Throughout (step urls) (fun store => DistinctKeys regionKey store.cache) store
            calls := by
  intro stated
  have run : Transition.exec (step sampleLibrary) {} (renameHome "work") =
      some ((Transition.exec (step sampleLibrary) {} (renameHome "work")).getD {}) := rfl
  have distinct := stated sampleLibrary {} _ (renameHome "work") distinctKeys_nil run
    (renameHome "work") [] _ (List.append_nil _).symm run
  exact absurd distinct (by decide +kernel)

end UserRegions
end Store
end Basement
