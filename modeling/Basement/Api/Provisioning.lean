import Basement.Api.Regions
import Basement.Library.Keys
import Basement.Library.Transition
import Basement.Store.Users

namespace Basement
namespace Api
namespace Provisioning

open Library
open Store (User Users)
open Store.Users (createUser deleteUser userByUsername findUserByProviderSubject)

/-!
# Provisioning users

A user is created when an invite is redeemed, at a first login through the identity provider, or
by an administrator.  Each handler first looks at the users that exist and later creates the one
it decided on, and other requests may come in between.  `CreateUser` compares nothing.

An event is a handler's look or a creation.  The label is the one of the invite that was redeemed,
the claims are those of a verified ID token, and the identifier, the hash and the clock of a
request are arguments, with `none` for a password that could not be hashed.
-/

/-! ## The names -/

/-- What `usernameFromClaims` and the new user read of the claims. -/
structure OIDCClaims where
  provider : String
  subject : String
  email : String := ""
  name : String := ""
  deriving DecidableEq, Repr

/-- `usernameFromClaims`. -/
def usernameFromClaims (c : OIDCClaims) : String :=
  if c.email ≠ "" then c.email
  else if c.name ≠ "" then c.name
  else c.subject ++ "@" ++ c.provider

/-- The byte that a character of a lowered label becomes. -/
def inviteByte (c : Char) : Option Char :=
  if ('a' ≤ c ∧ c ≤ 'z') ∨ ('0' ≤ c ∧ c ≤ '9') ∨ c = '-' then some c
  else if c = ' ' ∨ c = '_' then some '-'
  else none

/-- `strings.Trim` of dashes. -/
def trimDashes (s : List Char) : List Char :=
  ((s.dropWhile (· = '-')).reverse.dropWhile (· = '-')).reverse

/-- `sanitizeInviteUsername`. -/
def sanitizeInviteUsername (toLower : String -> String) (label : String) : String :=
  String.ofList (trimDashes (((toLower (trimSpace label)).toList.filterMap inviteByte).take 32))

/-- The first bytes of an identifier. -/
def idPrefix (n : Nat) (id : String) : String := String.ofList (id.toList.take n)

/-! ## What the handlers decide on -/

/-- `inviteRedeemHandler`, from the redeemed invite to the user it will create. -/
def inviteRedeem (toLower : String -> String) (users : Users) (label userID : String)
    (hash : Option String) (now : Int) : Option User :=
  let chosen := sanitizeInviteUsername toLower label
  let username := if chosen = "" then "user-" ++ idPrefix 8 userID else chosen
  let username :=
    match userByUsername users username with
    | .ok _ => username ++ "-" ++ idPrefix 6 userID
    | .error _ => username
  hash.map fun hash =>
    { id := userID, username, passwordHash := hash, role := "user", created := now }

/-- `oidcCallbackHandler`, up to the user it will create for a first login. -/
def oidcCallback (autoProvision : Bool) (users : Users) (claims : OIDCClaims) (userID : String) :
    Option User :=
  match findUserByProviderSubject users claims.provider claims.subject with
  | .ok _ => none
  | .error _ =>
      if !autoProvision then none
      else some {
        id := userID, username := usernameFromClaims claims, role := "user",
        provider := claims.provider, subject := claims.subject, email := claims.email,
        name := claims.name }

/-- `InviteUserRequest`. -/
structure InviteUserRequest where
  username : String
  password : String := ""
  email : String := ""
  name : String := ""
  inviteOnly : Bool := false
  deriving DecidableEq, Repr

/-- `createUserHandler`, up to the user it will create. -/
def createUserRequest (users : Users) (req : InviteUserRequest) (userID : String)
    (hash : Option String) (now : Int) : Option User :=
  let username := trimSpace req.username
  if username = "" then none
  else
    match userByUsername users username with
    | .ok _ => none
    | .error _ =>
        if req.inviteOnly ∨ req.password = "" then none
        else hash.map fun hash =>
          { id := userID, username, role := "user", email := req.email, name := req.name,
            passwordHash := hash, created := now }

/-! ## Interleaved requests -/

/-- The users, and the users that requests have decided on and not created yet. -/
structure Server where
  users : Users
  pending : List User
  deriving DecidableEq, Repr

inductive Event where
  | redeemInvite (label userID : String) (hash : Option String) (now : Int)
  | oidcCallback (claims : OIDCClaims) (userID : String)
  | createUser (req : InviteUserRequest) (userID : String) (hash : Option String) (now : Int)
  | store (request : Nat) (uuid : String) (now : Int) (writeError : Option String)
  | deleteUser (id : String) (writeError : Option String)
  deriving DecidableEq, Repr

/-- The request waits with the user it decided on, or is over. -/
def Server.await (server : Server) (decided : Option User) : Server :=
  { server with pending := server.pending ++ decided.toList }

section

variable (toLower : String -> String) (autoProvision : Bool)

def Server.step (server : Server) : Event -> Option Server
  | .redeemInvite label userID hash now =>
      some (server.await (inviteRedeem toLower server.users label userID hash now))
  | .oidcCallback claims userID =>
      some (server.await (Provisioning.oidcCallback autoProvision server.users claims userID))
  | .createUser req userID hash now =>
      some (server.await (createUserRequest server.users req userID hash now))
  | .store request uuid now writeError =>
      server.pending[request]?.map fun u =>
        { users := (Store.Users.createUser server.users u uuid now writeError).2
          pending := server.pending.eraseIdx request }
  | .deleteUser id writeError =>
      some { server with users := (Store.Users.deleteUser server.users id writeError).2 }

/-- No requests yet. -/
def Server.start (users : Users) : Server := ⟨users, []⟩

/-- The key of a user from the identity provider. -/
def identity (u : User) : Option (String × String) :=
  if u.provider = "" then none else some (u.provider, u.subject)

/-- Usernames and identities are distinct, and a lookup by either finds the user who has it. -/
structure Unique (users : Users) : Prop where
  usernames : DistinctKeys (fun u => some u.username) users
  identities : DistinctKeys identity users
  byUsername : forall u, u ∈ users -> userByUsername users u.username = .ok u
  byIdentity : forall u, u ∈ users -> u.provider ≠ "" ->
    findUserByProviderSubject users u.provider u.subject = .ok u

/-- Nobody has the username or the identity of the user. -/
def Fresh (users : Users) (u : User) : Prop :=
  (forall other, other ∈ users -> other.username ≠ u.username) ∧
    (u.provider ≠ "" -> u.subject ≠ "" ∧
      forall other, other ∈ users -> ¬ (other.provider = u.provider ∧ other.subject = u.subject))

instance (users : Users) (u : User) : Decidable (Fresh users u) :=
  inferInstanceAs (Decidable (_ ∧ _))

/-- A user who is created is fresh at that moment. -/
def CreatesFresh (server : Server) : Event -> Prop
  | .store request _ _ _ =>
      forall u, u ∈ server.pending[request]? -> Fresh server.users u
  | _ => True

end

/-! ## Unique users -/

variable {users : Users} {u : User}

theorem identity_eq_some_iff {provider subject : String} :
    identity u = some (provider, subject) ↔
      provider ≠ "" ∧ u.provider = provider ∧ u.subject = subject := by
  unfold identity
  split
  · rename_i anonymous
    refine iff_of_false (by rintro ⟨⟩) ?_
    rintro ⟨provided, same, _⟩
    exact provided (same.symm.trans anonymous)
  · rename_i provided
    rw [Option.some.injEq, Prod.mk.injEq]
    refine ⟨fun same => ⟨same.1 ▸ provided, same⟩, And.right⟩

theorem userByUsername_ok (distinct : DistinctKeys (fun u => some u.username) users)
    (listed : u ∈ users) : userByUsername users u.username = .ok u := by
  have found : (users.find? fun other => other.username = u.username) = some u := by
    refine @DistinctKeys.find? _ _ _ _ _ distinct u.username _ ?_ listed rfl
    intro other
    simp
  unfold userByUsername
  rw [found]

theorem findUserByProviderSubject_ok (distinct : DistinctKeys identity users) (listed : u ∈ users)
    (provided : u.provider ≠ "") (subjected : u.subject ≠ "") :
    findUserByProviderSubject users u.provider u.subject = .ok u := by
  have found : (users.find? fun other => other.provider = u.provider && other.subject = u.subject) =
      some u := by
    refine @DistinctKeys.find? _ _ _ _ _ distinct (u.provider, u.subject) _ ?_ listed
      (if_neg provided)
    intro other
    rw [identity_eq_some_iff, and_iff_right provided]
    simp
  unfold findUserByProviderSubject
  rw [if_neg (not_or.mpr ⟨provided, subjected⟩), found]

/-- A user is found by an identity only if it has a subject. -/
theorem subject_ne_of_found {provider subject : String}
    (found : findUserByProviderSubject users provider subject = .ok u) : subject ≠ "" := by
  rintro rfl
  unfold findUserByProviderSubject at found
  rw [if_pos (Or.inr rfl)] at found
  cases found

/-- The lookups come down to the keys and to subjects that are not empty. -/
theorem unique_iff :
    Unique users ↔ DistinctKeys (fun u => some u.username) users ∧ DistinctKeys identity users ∧
      forall u, u ∈ users -> u.provider ≠ "" -> u.subject ≠ "" := by
  constructor
  · intro unique
    refine ⟨unique.usernames, unique.identities, ?_⟩
    intro u listed provided
    exact subject_ne_of_found (unique.byIdentity u listed provided)
  · rintro ⟨usernames, identities, subjected⟩
    refine ⟨usernames, identities, ?_, ?_⟩
    · intro u listed
      exact userByUsername_ok usernames listed
    · intro u listed provided
      exact findUserByProviderSubject_ok identities listed provided (subjected u listed provided)

theorem unclaimed_username_iff :
    Unclaimed (fun u => some u.username) u users ↔
      forall other, other ∈ users -> other.username ≠ u.username := by
  simp [Unclaimed]

theorem unclaimed_identity_iff :
    Unclaimed identity u users ↔ (u.provider ≠ "" ->
      forall other, other ∈ users ->
        ¬ (other.provider = u.provider ∧ other.subject = u.subject)) := by
  unfold Unclaimed
  by_cases provided : u.provider = ""
  · have unkeyed : identity u = none := if_pos provided
    simp [unkeyed, provided]
  · have keyed : identity u = some (u.provider, u.subject) := if_neg provided
    simp only [keyed, ne_eq, reduceCtorEq, not_false_eq_true, true_implies, provided,
      identity_eq_some_iff, true_and]

/-- Users stay unique exactly if the one who is added is fresh. -/
theorem unique_append_iff (unique : Unique users) : Unique (users ++ [u]) ↔ Fresh users u := by
  rcases unique_iff.mp unique with ⟨usernames, identities, subjected⟩
  rw [unique_iff, distinctKeys_append_iff, distinctKeys_append_iff, unclaimed_username_iff,
    unclaimed_identity_iff]
  constructor
  · rintro ⟨⟨_, named⟩, ⟨_, known⟩, all⟩
    refine ⟨named, ?_⟩
    intro provided
    exact ⟨all u (List.mem_append_right _ List.mem_cons_self) provided, known provided⟩
  · rintro ⟨named, known⟩
    refine ⟨⟨usernames, named⟩, ⟨identities, fun provided => (known provided).2⟩, ?_⟩
    intro other listed provided
    rcases List.mem_append.mp listed with old | new
    · exact subjected other old provided
    · cases List.mem_singleton.mp new
      exact (known provided).1

theorem Unique.sublist (unique : Unique users) {fewer : Users} (part : fewer.Sublist users) :
    Unique fewer := by
  rcases unique_iff.mp unique with ⟨usernames, identities, subjected⟩
  refine unique_iff.mpr ⟨usernames.sublist part, identities.sublist part, ?_⟩
  intro u listed
  exact subjected u (part.subset listed)

/-! ## The steps -/

/-- `CreateUser` keeps users unique exactly if the new one is fresh, also when its write fails. -/
theorem createUser_unique_iff (unique : Unique users) {uuid : String} {now : Int}
    {writeError : Option String} :
    Unique (createUser users u uuid now writeError).2 ↔ Fresh users u := by
  unfold createUser
  rw [saving_memory, unique_append_iff unique]
  exact Iff.rfl

theorem deleteUser_unique (unique : Unique users) {id : String} {writeError : Option String} :
    Unique (deleteUser users id writeError).2 := by
  unfold deleteUser
  split
  · exact unique
  · rw [saving_memory]
    exact unique.sublist List.eraseP_sublist

/-- A step keeps users unique exactly if whoever it creates is fresh. -/
theorem Server.step_unique_iff {toLower : String -> String} {autoProvision : Bool}
    {server next : Server} {event : Event} (unique : Unique server.users)
    (taken : server.step toLower autoProvision event = some next) :
    Unique next.users ↔ CreatesFresh server event := by
  cases event with
  | redeemInvite label userID hash now =>
      cases taken
      exact iff_of_true unique trivial
  | oidcCallback claims userID =>
      cases taken
      exact iff_of_true unique trivial
  | createUser req userID hash now =>
      cases taken
      exact iff_of_true unique trivial
  | deleteUser id writeError =>
      cases taken
      exact iff_of_true (deleteUser_unique unique) trivial
  | store request uuid now writeError =>
      rcases Option.map_eq_some_iff.mp taken with ⟨u, waiting, rfl⟩
      refine (createUser_unique_iff unique).trans ?_
      constructor
      · intro fresh other decided
        cases waiting.symm.trans decided
        exact fresh
      · intro fresh
        exact fresh u waiting

theorem unique_nil : Unique [] := by
  refine unique_iff.mpr ⟨distinctKeys_nil, distinctKeys_nil, ?_⟩
  intro u listed
  cases listed

/-! ## Two users with one name -/

instance (server : Server) (event : Event) : Decidable (CreatesFresh server event) := by
  cases event with
  | store request uuid now writeError =>
      show Decidable (forall u, u ∈ server.pending[request]? -> Fresh server.users u)
      infer_instance
  | _ => exact isTrue trivial

/-- Two invites with the label `alice` are redeemed one after the other. -/
def redeemTwice : List Event :=
  [.redeemInvite "alice" "0c9fd1e2-0000-4000-8000-000000000001" (some "hash-1") 1,
    .store 0 "" 1 none,
    .redeemInvite "alice" "7ab34c5d-0000-4000-8000-000000000002" (some "hash-2") 2,
    .store 0 "" 2 none]

/-- An administrator creates a user whose name is an email address, and the person with that
address logs in through the identity provider. -/
def loginWithTakenEmail : List Event :=
  [.createUser { username := "alice@corp.example", password := "s3cret" }
      "0c9fd1e2-0000-4000-8000-000000000001" (some "hash-1") 1,
    .store 0 "" 1 none,
    .oidcCallback ⟨"https://idp.example", "subject-7", "alice@corp.example", "Alice"⟩
      "7ab34c5d-0000-4000-8000-000000000002",
    .store 0 "" 2 none]

end Provisioning
end Api
end Basement
