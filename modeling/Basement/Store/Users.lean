import Basement.Library.Rows
import Basement.Library.SavedMemory
import Basement.Library.SortedStore
import Mathlib.Data.String.Basic

namespace Basement
namespace Store

open Library

/-!
# Users and their skins

The users are a list in memory, and the skin that each of them prefers is a map.  Every operation
changes the memory, writes it to a file, and answers with the error of the write.
-/

/-! ## Users -/

/-- `User`, with the time in nanoseconds and zero for the zero time. -/
structure User where
  id : String := ""
  username : String
  passwordHash : String := ""
  role : String
  uiAdmin : Bool := false
  provider : String := ""
  subject : String := ""
  email : String := ""
  name : String := ""
  created : Int := 0
  deriving DecidableEq, Repr

abbrev Users := List User

namespace Users

def userNotFound (key : String) : String := "user not found: " ++ key

/-- `ErrUserNotFound`. -/
def errUserNotFound : String := "user not found"

/-- `CreateUser`.  Nothing is compared with the users that exist. -/
def createUser (users : Users) (u : User) (uuid : String) (now : Int)
    (writeError : Option String) : Except String Unit × Users :=
  let created := { u with
    id := if u.id = "" then uuid else u.id
    created := if u.created = 0 then now else u.created }
  saving writeError () (users ++ [created]) (users ++ [created])

/-- `UpdateUser`.  The callback works on the row itself; what it answers with is its error. -/
def updateUser (users : Users) (id : String) (fn : User -> Option String × User)
    (writeError : Option String) : Except String Unit × Users :=
  match users.find? fun u => u.id = id with
  | none => (.error (userNotFound id), users)
  | some u =>
      let changed := updateFirst (fun u => u.id = id) (fun u => (fn u).2) users
      match (fn u).1 with
      | some error => (.error error, changed)
      | none => saving writeError () changed changed

/-- `DeleteUser`. -/
def deleteUser (users : Users) (id : String) (writeError : Option String) :
    Except String Unit × Users :=
  match users.find? fun u => u.id = id with
  | none => (.error (userNotFound id), users)
  | some _ =>
      saving writeError () (users.eraseP fun u => u.id = id) (users.eraseP fun u => u.id = id)

/-- `UserByUsername`. -/
def userByUsername (users : Users) (name : String) : Except String User :=
  match users.find? fun u => u.username = name with
  | none => .error (userNotFound name)
  | some u => .ok u

/-- `UserByID`. -/
def userByID (users : Users) (id : String) : Except String User :=
  match users.find? fun u => u.id = id with
  | none => .error (userNotFound id)
  | some u => .ok u

/-- `FindUserByProviderSubject`.  Local users have neither. -/
def findUserByProviderSubject (users : Users) (provider subject : String) : Except String User :=
  if provider = "" ∨ subject = "" then .error errUserNotFound
  else
    match users.find? fun u => u.provider = provider && u.subject = subject with
    | none => .error errUserNotFound
    | some u => .ok u

/-- What the reads answer. -/
structure Reads where
  users : List User
  userByUsername : String -> Except String User
  userByID : String -> Except String User
  findUserByProviderSubject : String -> String -> Except String User

def reads (users : Users) : Reads :=
  ⟨users, userByUsername users, userByID users, findUserByProviderSubject users⟩

theorem reads_eq_iff {first second : Users} : reads first = reads second ↔ first = second :=
  ⟨fun same => congrArg Reads.users same, fun same => congrArg reads same⟩

section Operations

variable {users : Users} {id : String} {writeError : Option String}

theorem createUser_unseen_iff {u : User} {uuid : String} {now : Int} :
    FailsUnseen reads users (createUser users u uuid now writeError) ↔ writeError = none := by
  refine failsUnseen_saving_iff.trans ⟨?_, Or.inl⟩
  rintro (saved | same)
  · exact saved
  · have lengths := congrArg List.length (reads_eq_iff.mp same)
    rw [List.length_append] at lengths
    exact absurd lengths (Nat.succ_ne_self _)

theorem updateUser_unseen_iff {fn : User -> Option String × User} :
    FailsUnseen reads users (updateUser users id fn writeError) ↔
      forall u, (users.find? fun u => u.id = id) = some u ->
        ((fn u).1 = none ∧ writeError = none) ∨ (fn u).2 = u := by
  unfold updateUser
  cases found : users.find? fun u => u.id = id with
  | none => exact ⟨by rintro _ _ ⟨⟩, fun _ => FailsUnseen.refused _⟩
  | some u =>
      have unchanged : reads (updateFirst (fun u => u.id = id) (fun u => (fn u).2) users) =
          reads users ↔ (fn u).2 = u := reads_eq_iff.trans (updateFirst_eq_self_iff found)
      simp only [Option.some.injEq, forall_eq']
      cases answered : (fn u).1 with
      | some error =>
          refine (failsUnseen_error_iff.trans unchanged).trans ⟨Or.inr, ?_⟩
          rintro (⟨impossible, _⟩ | same)
          · cases impossible
          · exact same
      | none =>
          refine failsUnseen_saving_iff.trans (or_congr ?_ unchanged)
          exact ⟨fun saved => ⟨rfl, saved⟩, And.right⟩

theorem deleteUser_unseen_iff :
    FailsUnseen reads users (deleteUser users id writeError) ↔
      (writeError = none ∨ (users.find? fun u => u.id = id) = none) := by
  unfold deleteUser
  cases found : users.find? fun u => u.id = id with
  | none => exact ⟨fun _ => Or.inr rfl, fun _ => FailsUnseen.refused _⟩
  | some u =>
      refine failsUnseen_saving_iff.trans (or_congr Iff.rfl ⟨?_, by rintro ⟨⟩⟩)
      intro same
      have shorter := length_eraseP_lt found
      rw [reads_eq_iff.mp same] at shorter
      exact absurd shorter (Nat.lt_irrefl _)

end Operations

end Users

/-! ## Skins -/

/-- The cache of `userSkinsStore`: the skin of each user who has chosen one. -/
abbrev UserSkins := SortedStore String String

namespace UserSkins

/-- `userSkinsStore.Set`.  The empty name removes the choice. -/
def set (skins : UserSkins) (userID skinName : String) (writeError : Option String) :
    Except String Unit × UserSkins :=
  if userID = "" then (.error "userID is required", skins)
  else
    let changed := if skinName = "" then skins.erase userID else skins.put userID skinName
    saving (writeError.map ("persisting user skin: " ++ ·)) () changed changed

/-- `userSkinsStore.Delete`. -/
def delete (skins : UserSkins) (userID : String) (writeError : Option String) :
    Except String Unit × UserSkins :=
  saving writeError () (skins.erase userID) (skins.erase userID)

/-- What `Get` answers. -/
def reads (skins : UserSkins) : String -> Option String := skins.get?

theorem reads_eq_iff {first second : UserSkins} : reads first = reads second ↔ first = second :=
  ⟨fun same => SortedStore.ext_get? fun userID => congrFun same userID, fun same =>
    congrArg reads same⟩

variable {skins : UserSkins} {userID : String} {writeError : Option String}

theorem set_unseen_iff {skinName : String} :
    FailsUnseen reads skins (set skins userID skinName writeError) ↔
      (userID = "" ∨ writeError = none ∨
        skins.get? userID = if skinName = "" then none else some skinName) := by
  unfold set
  by_cases anonymous : userID = ""
  · rw [if_pos anonymous]
    exact ⟨fun _ => Or.inl anonymous, fun _ => FailsUnseen.refused _⟩
  · rw [if_neg anonymous, or_iff_right anonymous]
    refine failsUnseen_saving_iff.trans (or_congr Option.map_eq_none_iff (reads_eq_iff.trans ?_))
    by_cases empty : skinName = ""
    · rw [if_pos empty, if_pos empty]
      exact SortedStore.erase_eq_self_iff
    · rw [if_neg empty, if_neg empty]
      exact SortedStore.put_eq_self_iff

theorem delete_unseen_iff :
    FailsUnseen reads skins (delete skins userID writeError) ↔
      (writeError = none ∨ skins.get? userID = none) :=
  failsUnseen_saving_iff.trans
    (or_congr Iff.rfl (reads_eq_iff.trans SortedStore.erase_eq_self_iff))

end UserSkins

end Store
end Basement
