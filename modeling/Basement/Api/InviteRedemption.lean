import Basement.Api.Syncs
import Basement.Library.Transition
import Basement.Store.Invites
import Basement.Store.Users
import Mathlib.Logic.Function.Basic

namespace Basement
namespace Api

open Library Library.Transition
open Store (Invite InviteError Invites Redeemable User Users)

/-!
# Redeeming an invite

The handler redeems the token, which removes the invite, and only then makes a username, hashes
the password and creates the user.  Between the calls of the two stores other requests come.

The comparison of a token with its hash and the lower case of a label are parameters, and so is
the hash of a password, except that bcrypt refuses one of more than 72 bytes.
-/

/-! ## The handler -/

structure InviteRedeemRequest where
  token : String
  /-- The password of the body, if that is JSON. -/
  password : Option String

/-- A request before it comes to the invites. -/
def readPassword (request : InviteRedeemRequest) : Except Refusal String := do
  demand (request.token ≠ "") ⟨400, "INVALID_REQUEST", "Invite token is required", []⟩
  match request.password with
  | none => .error ⟨400, "INVALID_JSON", "Invalid JSON body", []⟩
  | some password =>
      demand (trimSpace password ≠ "") ⟨400, "INVALID_REQUEST", "Password is required", []⟩
      return trimSpace password

/-- A letter that `sanitizeInviteUsername` keeps, and a dash for a blank or an underscore. -/
def inviteUsernameChar (c : Char) : Option Char :=
  if 'a' ≤ c && c ≤ 'z' || '0' ≤ c && c ≤ '9' || c == '-' then some c
  else if c == ' ' || c == '_' then some '-'
  else none

def sanitizeInviteUsername (lower : String -> String) (label : String) : String :=
  let out := ((lower (trimSpace label)).toList.filterMap inviteUsernameChar).take 32
  String.ofList (((out.dropWhile (· == '-')).reverse.dropWhile (· == '-')).reverse)

/-- The username of a new user, and another one if it is taken. -/
def inviteUsername (lower : String -> String) (users : Users) (inv : Invite) (userID : String) :
    String :=
  let wanted := sanitizeInviteUsername lower inv.label
  let username :=
    if wanted = "" then "user-" ++ String.ofList (userID.toList.take 8) else wanted
  match Users.userByUsername users username with
  | .ok _ => username ++ "-" ++ String.ofList (userID.toList.take 6)
  | .error _ => username

/-- `auth.HashPassword`.  `hash` is what bcrypt answers, if it fails in no other way. -/
def hashPassword (password : String) (hash : Option String) : Option String :=
  if 72 < password.utf8ByteSize then none else hash

/-- `UserResponse`. -/
structure UserResponse where
  username : String
  role : String
  uiAdmin : Bool
  deriving DecidableEq, Repr

/-! ## Requests side by side -/

/-- Where a request is between its calls of the stores.  A finished request has the invite that it
was given and the user that it has put into memory. -/
inductive RedeemStage where
  | idle
  | redeemed (token password : String) (inv : Invite)
  | prepared (token : String) (inv : Invite) (user : User)
  | refused (refusal : Refusal)
  | finished (token : String) (inv : Invite) (user : Option User)
      (response : Except Refusal UserResponse)

/-- The users in memory and in their file. -/
structure UsersStore where
  cache : Users
  file : Users

/-- The two stores, the requests, and the latest time that a request has read. -/
structure InviteServer where
  invites : Invites
  users : UsersStore
  requests : Nat -> RedeemStage
  latest : Int

/-- A call of a store, with the code up to the next one. -/
inductive RedeemAction where
  | redeem (id : Nat) (request : InviteRedeemRequest) (now : Int) (writeError : Option String)
  | prepare (id : Nat) (userID : String) (hash : Option String) (created : Int)
  | create (id : Nat) (writeError : Option String) (issued : Bool)

namespace InviteServer

variable (compare : String -> String -> Bool) (lower : String -> String)

def advance (server : InviteServer) (id : Nat) (stage : RedeemStage) : InviteServer :=
  { server with requests := Function.update server.requests id stage }

/-- Read the request and redeem its token. -/
def redeem (server : InviteServer) (id : Nat) (request : InviteRedeemRequest) (now : Int)
    (writeError : Option String) : InviteServer :=
  match readPassword request with
  | .error refusal => server.advance id (.refused refusal)
  | .ok password =>
      let reply := server.invites.redeem compare now request.token writeError
      let next := { server with invites := reply.2, latest := max server.latest now }
      match reply.1 with
      | .error _ =>
          next.advance id (.refused ⟨401, "INVALID_OR_EXPIRED_TOKEN",
            "This invite token is invalid or has expired. Ask the operator for a new one.", []⟩)
      | .ok inv => next.advance id (.redeemed request.token password inv)

/-- Choose a username and hash the password. -/
def prepare (server : InviteServer) (id : Nat) (token password : String) (inv : Invite)
    (userID : String) (hash : Option String) (created : Int) : InviteServer :=
  match hashPassword password hash with
  | none =>
      server.advance id (.finished token inv none
        (.error ⟨500, "INTERNAL_ERROR", "Failed to hash password", []⟩))
  | some hashStr =>
      server.advance id (.prepared token inv {
        id := userID
        username := inviteUsername lower server.users.cache inv userID
        passwordHash := hashStr
        role := "user"
        uiAdmin := false
        created := created })

/-- Create the user and issue a session. -/
def create (server : InviteServer) (id : Nat) (token : String) (inv : Invite) (user : User)
    (writeError : Option String) (issued : Bool) : InviteServer :=
  let reply := Users.createUser server.users.cache user user.id user.created writeError
  match reply.1 with
  | .error _ =>
      { server with users := { server.users with cache := reply.2 } }.advance id
        (.finished token inv (some user)
          (.error ⟨500, "INTERNAL_ERROR", "Failed to create user", []⟩))
  | .ok () =>
      { server with users := ⟨reply.2, reply.2⟩ }.advance id
        (.finished token inv (some user)
          (if issued then .ok ⟨user.username, "user", false⟩
          else .error ⟨500, "TOKEN_ISSUE", "Failed to issue session token", []⟩))

def step (server : InviteServer) : RedeemAction -> Option InviteServer
  | .redeem id request now writeError =>
      match server.requests id with
      | .idle => some (server.redeem compare id request now writeError)
      | _ => none
  | .prepare id userID hash created =>
      match server.requests id with
      | .redeemed token password inv =>
          some (server.prepare lower id token password inv userID hash created)
      | _ => none
  | .create id writeError issued =>
      match server.requests id with
      | .prepared token inv user => some (server.create id token inv user writeError issued)
      | _ => none

/-- The stores as they are opened, before the first request. -/
def start (invites : List Invite) (users : Users) (now : Int) : InviteServer :=
  ⟨⟨invites, invites⟩, ⟨users, users⟩, fun _ => .idle, now⟩

end InviteServer

/-! ## What a request holds -/

namespace RedeemStage

/-- The invite that the request was given. -/
def invite : RedeemStage -> Option Invite
  | .redeemed _ _ inv | .prepared _ inv _ | .finished _ inv _ _ => some inv
  | .idle | .refused _ => none

/-- The token that it was given for. -/
def token : RedeemStage -> Option String
  | .redeemed token _ _ | .prepared token _ _ | .finished token _ _ _ => some token
  | .idle | .refused _ => none

/-- The user that the request has put into memory. -/
def user : RedeemStage -> Option User
  | .finished _ _ user _ => user
  | .idle | .redeemed _ _ _ | .prepared _ _ _ | .refused _ => none

/-- The request has redeemed its token and is not at its end. -/
def inFlight : RedeemStage -> Bool
  | .redeemed _ _ _ | .prepared _ _ _ => true
  | .idle | .refused _ | .finished _ _ _ _ => false

end RedeemStage

namespace InviteServer

/-- What is known of a server after some calls. -/
structure Kept (compare : String -> String -> Bool) (invites : List Invite) (users : Users)
    (server : InviteServer) : Prop where
  distinct : server.invites.cache.Nodup
  cacheOld : forall inv, inv ∈ server.invites.cache -> inv ∈ invites
  fileOld : forall inv, inv ∈ server.invites.file -> inv ∈ invites
  /-- An invite that a request was given is in neither list. -/
  gone : forall id inv, (server.requests id).invite = some inv ->
    inv ∈ invites ∧ inv ∉ server.invites.cache ∧ inv ∉ server.invites.file
  matching : forall id inv token, (server.requests id).invite = some inv ->
    (server.requests id).token = some token -> compare inv.tokenHash token = true
  once : forall first second inv, (server.requests first).invite = some inv ->
    (server.requests second).invite = some inv -> first = second
  cacheWhole : forall inv, inv ∈ invites -> inv ∈ server.invites.cache ∨
    (Exists fun id => (server.requests id).invite = some inv) ∨ inv.expiresAt < server.latest
  fileWhole : forall inv, inv ∈ invites -> inv ∈ server.invites.file ∨
    (Exists fun id => (server.requests id).invite = some inv) ∨ inv.expiresAt < server.latest
  /-- The users in memory are the old ones and one for each request that has made one. -/
  made : Exists fun ids : List Nat => ids.Nodup ∧
    (forall id, id ∈ ids ↔ (server.requests id).user ≠ none) ∧
      server.users.cache = users ++ ids.filterMap fun id => (server.requests id).user
  role : forall id user, (server.requests id).user = some user -> user.role = "user"
  preparedRole : forall id token inv user, server.requests id = .prepared token inv user ->
    user.role = "user"

section Steps

variable {compare : String -> String -> Bool} {lower : String -> String} {invites : List Invite}
  {users : Users} {server : InviteServer}

theorem start_kept (distinct : invites.Nodup) (now : Int) :
    (start invites users now).Kept compare invites users where
  distinct := distinct
  cacheOld _ member := member
  fileOld _ member := member
  gone := by
    intro id inv given
    cases given
  matching := by
    intro id inv token given
    cases given
  once := by
    intro first second inv given
    cases given
  cacheWhole _ member := Or.inl member
  fileWhole _ member := Or.inl member
  made := ⟨[], List.nodup_nil, fun id => ⟨fun member => absurd member List.not_mem_nil,
    fun made => absurd rfl made⟩, (List.append_nil users).symm⟩
  role := by
    intro id user given
    cases given
  preparedRole := by
    intro id token inv user stage
    cases stage

theorem advance_self (server : InviteServer) (id : Nat) (stage : RedeemStage) :
    (server.advance id stage).requests id = stage := by
  simp only [InviteServer.advance, Function.update_self]

theorem advance_other {id other : Nat} (different : other ≠ id) (stage : RedeemStage) :
    (server.advance id stage).requests other = server.requests other := by
  simp only [InviteServer.advance, ne_eq, different, not_false_eq_true, Function.update_of_ne]

theorem advance_congr {α : Type} (read : RedeemStage -> α) {id : Nat} {stage : RedeemStage}
    (same : read stage = read (server.requests id)) (other : Nat) :
    read ((server.advance id stage).requests other) = read (server.requests other) := by
  by_cases here : other = id
  · rw [here, advance_self, same]
  · rw [advance_other here]

/-- What is known of the invites stays if the requests hold the same ones, and what is known of the
users is shown again. -/
theorem Kept.transfer (kept : server.Kept compare invites users) {next : InviteServer}
    (rows : next.invites = server.invites) (latest : next.latest = server.latest)
    (sameInvite : forall id, (next.requests id).invite = (server.requests id).invite)
    (sameToken : forall id, (next.requests id).token = (server.requests id).token)
    (made : Exists fun ids : List Nat => ids.Nodup ∧
      (forall id, id ∈ ids ↔ (next.requests id).user ≠ none) ∧
        next.users.cache = users ++ ids.filterMap fun id => (next.requests id).user)
    (role : forall id user, (next.requests id).user = some user -> user.role = "user")
    (preparedRole : forall id token inv user, next.requests id = .prepared token inv user ->
      user.role = "user") :
    next.Kept compare invites users := by
  constructor
  case distinct =>
    rw [rows]
    exact kept.distinct
  case cacheOld =>
    rw [rows]
    exact kept.cacheOld
  case fileOld =>
    rw [rows]
    exact kept.fileOld
  case gone =>
    intro id inv given
    rw [sameInvite] at given
    rw [rows]
    exact kept.gone id inv given
  case matching =>
    intro id inv token given named
    rw [sameInvite] at given
    rw [sameToken] at named
    exact kept.matching id inv token given named
  case once =>
    intro first second inv one two
    rw [sameInvite] at one two
    exact kept.once first second inv one two
  case cacheWhole =>
    intro inv member
    rw [rows, latest]
    simp only [sameInvite]
    exact kept.cacheWhole inv member
  case fileWhole =>
    intro inv member
    rw [rows, latest]
    simp only [sameInvite]
    exact kept.fileWhole inv member
  case made => exact made
  case role => exact role
  case preparedRole => exact preparedRole

/-- A request that keeps its invite and makes no user changes nothing that is known. -/
theorem Kept.advance (kept : server.Kept compare invites users) {id : Nat}
    {before stage : RedeemStage} (current : server.requests id = before)
    (invite : stage.invite = before.invite) (token : stage.token = before.token)
    (user : stage.user = before.user)
    (role : forall token inv user, stage = .prepared token inv user -> user.role = "user") :
    (server.advance id stage).Kept compare invites users := by
  subst current
  have sameUser := advance_congr RedeemStage.user user
  refine kept.transfer rfl rfl (advance_congr RedeemStage.invite invite)
    (advance_congr RedeemStage.token token) ?_ ?_ ?_
  · simp only [sameUser]
    exact kept.made
  · intro other made
    rw [sameUser]
    exact kept.role other made
  · intro other text inv made stage
    by_cases here : other = id
    · rw [here, advance_self] at stage
      exact role text inv made stage
    · rw [advance_other here] at stage
      exact kept.preparedRole other text inv made stage

/-- Rows may be dropped that have expired, and the file be written again. -/
theorem Kept.rows (kept : server.Kept compare invites users) {cache file : List Invite}
    {latest : Int} (later : server.latest ≤ latest) (distinct : cache.Nodup)
    (old : forall inv, inv ∈ cache -> inv ∈ server.invites.cache)
    (whole : forall inv, inv ∈ server.invites.cache -> inv ∈ cache ∨ inv.expiresAt < latest)
    (saved : file = server.invites.file ∨ file = cache) :
    ({ server with invites := ⟨cache, file⟩, latest := latest } : InviteServer).Kept compare invites
      users := by
  have cacheWhole : forall inv, inv ∈ invites -> inv ∈ cache ∨
      (Exists fun id => (server.requests id).invite = some inv) ∨ inv.expiresAt < latest := by
    intro inv member
    rcases kept.cacheWhole inv member with present | held | expired
    · exact (whole inv present).imp_right Or.inr
    · exact Or.inr (Or.inl held)
    · exact Or.inr (Or.inr (lt_of_lt_of_le expired later))
  constructor
  case distinct => exact distinct
  case cacheOld => exact fun inv member => kept.cacheOld inv (old inv member)
  case fileOld =>
    intro inv member
    rcases saved with same | same
    · exact kept.fileOld inv (same ▸ member)
    · exact kept.cacheOld inv (old inv (same ▸ member))
  case gone =>
    intro id inv given
    have gone := kept.gone id inv given
    refine ⟨gone.1, fun member => gone.2.1 (old inv member), ?_⟩
    intro member
    rcases saved with same | same
    · exact gone.2.2 (same ▸ member)
    · exact gone.2.1 (old inv (same ▸ member))
  case matching => exact kept.matching
  case once => exact kept.once
  case cacheWhole => exact cacheWhole
  case fileWhole =>
    intro inv member
    rcases saved with same | same
    · rw [same]
      rcases kept.fileWhole inv member with present | held | expired
      · exact Or.inl present
      · exact Or.inr (Or.inl held)
      · exact Or.inr (Or.inr (lt_of_lt_of_le expired later))
    · rw [same]
      exact cacheWhole inv member
  case made => exact kept.made
  case role => exact kept.role
  case preparedRole => exact kept.preparedRole

/-- A row is given to a request that had none. -/
theorem Kept.given (kept : server.Kept compare invites users) {next : InviteServer} {id : Nat}
    {token password : String} {inv : Invite} {rest : List Invite}
    (idle : server.requests id = .idle) (matched : compare inv.tokenHash token = true)
    (rows : server.invites.cache.Perm (inv :: rest)) (taken : next.invites = ⟨rest, rest⟩)
    (later : server.latest ≤ next.latest) (sameUsers : next.users = server.users)
    (here : next.requests id = .redeemed token password inv)
    (others : forall other, other ≠ id -> next.requests other = server.requests other) :
    next.Kept compare invites users := by
  have distinct : (inv :: rest).Nodup := rows.nodup_iff.mp kept.distinct
  have fresh : inv ∉ rest := (List.nodup_cons.mp distinct).1
  have present : inv ∈ server.invites.cache := rows.mem_iff.mpr List.mem_cons_self
  have old (other : Invite) (member : other ∈ rest) : other ∈ server.invites.cache :=
    rows.mem_iff.mpr (List.mem_cons_of_mem inv member)
  have unheld (other : Nat) : (server.requests other).invite ≠ some inv :=
    fun given => (kept.gone other inv given).2.1 present
  have holds {other : Nat} {held : Invite} (given : (next.requests other).invite = some held) :
      (other = id ∧ held = inv) ∨ (other ≠ id ∧ (server.requests other).invite = some held) := by
    by_cases same : other = id
    · rw [same, here] at given
      exact Or.inl ⟨same, (Option.some.inj given).symm⟩
    · rw [others other same] at given
      exact Or.inr ⟨same, given⟩
  have held (other : Nat) (row : Invite) (given : (server.requests other).invite = some row) :
      (next.requests other).invite = some row := by
    have different : other ≠ id := by
      intro same
      rw [same, idle] at given
      cases given
    rw [others other different]
    exact given
  have sameUser (other : Nat) : (next.requests other).user = (server.requests other).user := by
    by_cases same : other = id
    · rw [same, here, idle]
      rfl
    · rw [others other same]
  have whole (row : Invite) (member : row ∈ invites) : row ∈ rest ∨
      (Exists fun other => (next.requests other).invite = some row) ∨
        row.expiresAt < next.latest := by
    rcases kept.cacheWhole row member with there | ⟨other, given⟩ | expired
    · rcases List.mem_cons.mp (rows.mem_iff.mp there) with same | left
      · refine Or.inr (Or.inl ⟨id, ?_⟩)
        rw [here, same]
        rfl
      · exact Or.inl left
    · exact Or.inr (Or.inl ⟨other, held other row given⟩)
    · exact Or.inr (Or.inr (lt_of_lt_of_le expired later))
  constructor
  case distinct =>
    rw [taken]
    exact (List.nodup_cons.mp distinct).2
  case cacheOld =>
    rw [taken]
    exact fun row member => kept.cacheOld row (old row member)
  case fileOld =>
    rw [taken]
    exact fun row member => kept.cacheOld row (old row member)
  case gone =>
    intro other row given
    rw [taken]
    rcases holds given with ⟨-, same⟩ | ⟨-, before⟩
    · rw [same]
      exact ⟨kept.cacheOld inv present, fresh, fresh⟩
    · have gone := kept.gone other row before
      exact ⟨gone.1, fun member => gone.2.1 (old row member), fun member => gone.2.1 (old row member)⟩
  case matching =>
    intro other row text given named
    rcases holds given with ⟨same, given⟩ | ⟨different, before⟩
    · rw [same, here] at named
      rw [given, ← Option.some.inj named]
      exact matched
    · rw [others other different] at named
      exact kept.matching other row text before named
  case once =>
    intro first second row one two
    rcases holds one with ⟨hereOne, sameOne⟩ | ⟨-, beforeOne⟩
    · rcases holds two with ⟨hereTwo, -⟩ | ⟨-, beforeTwo⟩
      · rw [hereOne, hereTwo]
      · rw [sameOne] at beforeTwo
        exact absurd beforeTwo (unheld second)
    · rcases holds two with ⟨-, sameTwo⟩ | ⟨-, beforeTwo⟩
      · rw [sameTwo] at beforeOne
        exact absurd beforeOne (unheld first)
      · exact kept.once first second row beforeOne beforeTwo
  case cacheWhole =>
    rw [taken]
    exact whole
  case fileWhole =>
    rw [taken]
    exact whole
  case made =>
    simp only [sameUser, sameUsers]
    exact kept.made
  case role =>
    intro other user
    rw [sameUser]
    exact kept.role other user
  case preparedRole =>
    intro other text row user current
    by_cases same : other = id
    · rw [same, here] at current
      cases current
    · rw [others other same] at current
      exact kept.preparedRole other text row user current

/-- A finished request keeps its invite and may have made a user. -/
theorem Kept.finished (kept : server.Kept compare invites users) {next : InviteServer} {id : Nat}
    {token : String} {inv : Invite} {user : User} {response : Except Refusal UserResponse}
    (current : server.requests id = .prepared token inv user)
    (rows : next.invites = server.invites) (latest : next.latest = server.latest)
    (added : next.users.cache = server.users.cache ++ [user])
    (here : next.requests id = .finished token inv (some user) response)
    (others : forall other, other ≠ id -> next.requests other = server.requests other) :
    next.Kept compare invites users := by
  have same {α : Type} (read : RedeemStage -> α)
      (keeps : read (next.requests id) = read (server.requests id)) (other : Nat) :
      read (next.requests other) = read (server.requests other) := by
    by_cases same : other = id
    · rw [same, keeps]
    · rw [others other same]
  have old : (server.requests id).user = none := by
    rw [current]
    rfl
  have made (other : Nat) : (next.requests other).user =
      if other = id then some user else (server.requests other).user := by
    by_cases same : other = id
    · rw [if_pos same, same, here]
      rfl
    · rw [if_neg same, others other same]
  refine kept.transfer rows latest (same RedeemStage.invite (by rw [here, current]; rfl))
    (same RedeemStage.token (by rw [here, current]; rfl)) ?_ ?_ ?_
  · rcases kept.made with ⟨ids, distinct, all, cache⟩
    have fresh : id ∉ ids := fun member => (all id).mp member old
    refine ⟨ids ++ [id], ?_, ?_, ?_⟩
    · rw [List.nodup_append_comm]
      exact List.nodup_cons.mpr ⟨fresh, distinct⟩
    · intro other
      rw [made, List.mem_append, List.mem_singleton]
      by_cases same : other = id
      · rw [if_pos same]
        exact iff_of_true (Or.inr same) (Option.some_ne_none user)
      · rw [if_neg same, or_iff_left same]
        exact all other
    · have before : ids.filterMap (fun other => (next.requests other).user) =
          ids.filterMap fun other => (server.requests other).user := by
        apply List.filterMap_congr
        intro other member
        rw [made, if_neg]
        intro same
        exact fresh (same ▸ member)
      have last : [id].filterMap (fun other => (next.requests other).user) = [user] := by
        simp only [List.filterMap_cons, made, if_true, List.filterMap_nil]
      rw [List.filterMap_append, before, last, ← List.append_assoc, ← cache, added]
  · intro other found
    rw [made]
    by_cases same : other = id
    · rw [if_pos same]
      intro given
      rw [← Option.some.inj given]
      exact kept.preparedRole id token inv user current
    · rw [if_neg same]
      exact kept.role other found
  · intro other text row found stage
    by_cases same : other = id
    · rw [same, here] at stage
      cases stage
    · rw [others other same] at stage
      exact kept.preparedRole other text row found stage

/-! ## Steps -/

/-- What a call can be. -/
inductive Moved (compare : String -> String -> Bool) (server : InviteServer) :
    RedeemAction -> InviteServer -> Prop where
  | refused (id : Nat) (request : InviteRedeemRequest) (now : Int) (writeError : Option String)
      (refusal : Refusal) (idle : server.requests id = .idle) :
      Moved compare server (.redeem id request now writeError)
        (server.advance id (.refused refusal))
  | kept (id : Nat) (request : InviteRedeemRequest) (now : Int) (writeError : Option String)
      (refusal : Refusal) (cache file : List Invite) (idle : server.requests id = .idle)
      (distinct : server.invites.cache.Nodup -> cache.Nodup)
      (old : forall inv, inv ∈ cache -> inv ∈ server.invites.cache)
      (whole : forall inv, inv ∈ server.invites.cache ->
        inv ∈ cache ∨ inv.expiresAt < max server.latest now)
      (saved : file = server.invites.file ∨ file = cache) :
      Moved compare server (.redeem id request now writeError)
        (({ server with invites := ⟨cache, file⟩, latest := max server.latest now } :
          InviteServer).advance id (.refused refusal))
  | given (id : Nat) (request : InviteRedeemRequest) (now : Int) (writeError : Option String)
      (password : String) (inv : Invite) (rest : List Invite) (idle : server.requests id = .idle)
      (matched : compare inv.tokenHash request.token = true)
      (rows : server.invites.cache.Perm (inv :: rest)) :
      Moved compare server (.redeem id request now writeError)
        (({ server with invites := ⟨rest, rest⟩, latest := max server.latest now } :
          InviteServer).advance id (.redeemed request.token password inv))
  | unhashed (id : Nat) (userID : String) (hash : Option String) (created : Int)
      (token password : String) (inv : Invite) (refusal : Refusal)
      (current : server.requests id = .redeemed token password inv)
      (failed : hashPassword password hash = none) :
      Moved compare server (.prepare id userID hash created)
        (server.advance id (.finished token inv none (.error refusal)))
  | prepared (id : Nat) (userID : String) (hash : Option String) (created : Int)
      (token password : String) (inv : Invite) (user : User)
      (current : server.requests id = .redeemed token password inv)
      (hashed : hashPassword password hash ≠ none) (role : user.role = "user") :
      Moved compare server (.prepare id userID hash created)
        (server.advance id (.prepared token inv user))
  | unsaved (id : Nat) (error : String) (issued : Bool) (token : String) (inv : Invite)
      (user : User) (refusal : Refusal) (current : server.requests id = .prepared token inv user) :
      Moved compare server (.create id (some error) issued)
        (({ server with users := ⟨server.users.cache ++ [user], server.users.file⟩ } :
          InviteServer).advance id (.finished token inv (some user) (.error refusal)))
  | created (id : Nat) (issued : Bool) (token : String) (inv : Invite) (user : User)
      (response : Except Refusal UserResponse)
      (current : server.requests id = .prepared token inv user) :
      Moved compare server (.create id none issued)
        (({ server with users := ⟨server.users.cache ++ [user], server.users.cache ++ [user]⟩ } :
          InviteServer).advance id (.finished token inv (some user) response))

theorem createUser_eq (held : Users) (user : User) (writeError : Option String) :
    Users.createUser held user user.id user.created writeError =
      saving writeError () (held ++ [user]) (held ++ [user]) := by
  rw [Users.createUser, ite_self, ite_self]

theorem redeem_moved {id : Nat} {request : InviteRedeemRequest} {now : Int}
    {writeError : Option String} (idle : server.requests id = .idle) :
    Moved compare server (.redeem id request now writeError)
      (server.redeem compare id request now writeError) := by
  rw [InviteServer.redeem]
  cases readPassword request with
  | error refusal => exact .refused id request now writeError refusal idle
  | ok password =>
      rcases server.invites.redeem_cases compare now request.token writeError with
        ⟨error, same⟩ | ⟨inv, before, after, matched, rows,
          ⟨expired, error, file, saved, dropped⟩ | ⟨error, moved⟩ | ⟨valid, given⟩⟩
      · simp only [same]
        exact .kept id request now writeError _ server.invites.cache server.invites.file idle
          (fun distinct => distinct) (fun inv member => member) (fun inv member => Or.inl member)
          (Or.inl rfl)
      · have front : server.invites.cache.Perm (inv :: (before ++ after)) := by
          rw [rows]
          exact List.perm_middle
        simp only [dropped]
        refine .kept id request now writeError _ (before ++ after) file idle ?_ ?_ ?_ saved
        · intro distinct
          exact (List.nodup_cons.mp (front.nodup_iff.mp distinct)).2
        · intro other member
          exact front.mem_iff.mpr (List.mem_cons_of_mem inv member)
        · intro other member
          rcases List.mem_cons.mp (front.mem_iff.mp member) with same | left
          · rw [same]
            exact Or.inr (lt_of_lt_of_le expired (le_max_right _ _))
          · exact Or.inl left
      · have front : server.invites.cache.Perm (before ++ after ++ [inv]) := by
          rw [rows]
          exact List.perm_middle.trans (List.perm_append_singleton inv (before ++ after)).symm
        simp only [moved]
        exact .kept id request now writeError _ (before ++ after ++ [inv]) server.invites.file idle
          front.nodup_iff.mp (fun other member => front.mem_iff.mpr member)
          (fun other member => Or.inl (front.mem_iff.mp member)) (Or.inl rfl)
      · have front : server.invites.cache.Perm (inv :: (before ++ after)) := by
          rw [rows]
          exact List.perm_middle
        simp only [given]
        exact .given id request now writeError password inv (before ++ after) idle matched front

theorem prepare_moved {id : Nat} {token password userID : String} {inv : Invite}
    {hash : Option String} {created : Int}
    (current : server.requests id = .redeemed token password inv) :
    Moved compare server (.prepare id userID hash created)
      (server.prepare lower id token password inv userID hash created) := by
  rw [InviteServer.prepare]
  cases hashed : hashPassword password hash with
  | none => exact .unhashed id userID hash created token password inv _ current hashed
  | some hashStr =>
      have done : hashPassword password hash ≠ none := by
        rw [hashed]
        exact Option.some_ne_none hashStr
      exact .prepared id userID hash created token password inv _ current done rfl

theorem create_moved {id : Nat} {token : String} {inv : Invite} {user : User}
    {writeError : Option String} {issued : Bool}
    (current : server.requests id = .prepared token inv user) :
    Moved compare server (.create id writeError issued)
      (server.create id token inv user writeError issued) := by
  rw [InviteServer.create, createUser_eq]
  cases writeError with
  | some error => exact .unsaved id error issued token inv user _ current
  | none => exact .created id issued token inv user _ current

theorem step_moved {action : RedeemAction} {next : InviteServer}
    (taken : server.step compare lower action = some next) : Moved compare server action next := by
  cases action with
  | redeem id request now writeError =>
      rw [step] at taken
      split at taken
      · rename_i idle
        cases taken
        exact redeem_moved idle
      · cases taken
  | prepare id userID hash created =>
      rw [step] at taken
      split at taken
      · rename_i token password inv current
        cases taken
        exact prepare_moved current
      · cases taken
  | create id writeError issued =>
      rw [step] at taken
      split at taken
      · rename_i token inv user current
        cases taken
        exact create_moved current
      · cases taken

theorem Kept.moved (kept : server.Kept compare invites users) {action : RedeemAction}
    {next : InviteServer} (moved : Moved compare server action next) :
    next.Kept compare invites users := by
  cases moved with
  | refused id request now writeError refusal idle =>
      refine kept.advance idle rfl rfl rfl ?_
      intro token inv user current
      cases current
  | kept id request now writeError refusal cache file idle distinct old whole saved =>
      have rows := kept.rows (le_max_left _ _) (distinct kept.distinct) old whole saved
      refine rows.advance idle rfl rfl rfl ?_
      intro token inv user current
      cases current
  | given id request now writeError password inv rest idle matched rows =>
      exact kept.given idle matched rows rfl (le_max_left _ _) rfl (advance_self _ _ _)
        fun _ different => advance_other different _
  | unhashed id userID hash created token password inv refusal current failed =>
      refine kept.advance current rfl rfl rfl ?_
      intro token inv user current
      cases current
  | prepared id userID hash created token password inv user current hashed role =>
      refine kept.advance current rfl rfl rfl ?_
      intro otherToken otherInv other same
      cases same
      exact role
  | unsaved id error issued token inv user refusal current =>
      exact kept.finished current rfl rfl rfl (advance_self _ _ _)
        fun _ different => advance_other different _
  | created id issued token inv user response current =>
      exact kept.finished current rfl rfl rfl (advance_self _ _ _)
        fun _ different => advance_other different _

end Steps

/-! ## All or nothing -/

/-- One user was created for an invite and has its role, and its token is spent. -/
def Spent (server : InviteServer) (inv : Invite) : Prop :=
  Exists fun id => Exists fun user => (server.requests id).invite = some inv ∧
    (server.requests id).user = some user ∧ user.role = "user" ∧
    (forall other, (server.requests other).invite = some inv -> other = id) ∧
    inv ∉ server.invites.cache ∧ inv ∉ server.invites.file

/-- No request was given an invite, and a token of it alone is redeemed as it was at the start,
now and after a restart. -/
def Unspent (compare : String -> String -> Bool) (invites : List Invite) (server : InviteServer)
    (inv : Invite) : Prop :=
  (forall id, (server.requests id).invite ≠ some inv) ∧
    forall token now, server.latest ≤ now ->
      (forall other, other ∈ invites -> compare other.tokenHash token = true -> other = inv) ->
        forall rows, rows = server.invites.cache ∨ rows = server.invites.file ->
          ((Invites.redeem compare ⟨rows, rows⟩ now token none).1 = .ok inv ↔
            (Invites.redeem compare ⟨invites, invites⟩ now token none).1 = .ok inv)

/-- Redemption is all or nothing. -/
structure AllOrNothing (compare : String -> String -> Bool) (invites : List Invite)
    (users : Users) (server : InviteServer) : Prop where
  /-- An invite that no request is at work on is spent for a user or as it was. -/
  settled : forall inv, inv ∈ invites ->
    (forall id, (server.requests id).invite = some inv -> (server.requests id).inFlight = false) ->
      server.Spent inv ∨ Unspent compare invites server inv
  /-- A request adds one user at most, and nothing else adds one. -/
  made : Exists fun ids : List Nat => ids.Nodup ∧
    (forall id, id ∈ ids ↔ (server.requests id).user ≠ none) ∧
      server.users.cache = users ++ ids.filterMap fun id => (server.requests id).user
  saved : server.users.file = server.users.cache
  /-- Two requests with one token, of one invite, do not both create a user. -/
  alone : forall token, (forall inv other, inv ∈ invites -> other ∈ invites ->
      compare inv.tokenHash token = true -> compare other.tokenHash token = true -> inv = other) ->
    forall first second, (server.requests first).token = some token ->
      (server.requests second).token = some token -> (server.requests first).user ≠ none ->
        (server.requests second).user ≠ none -> first = second

/-- Bcrypt hashes the password, or the users are saved. -/
def Sound (server : InviteServer) : RedeemAction -> Prop
  | .redeem _ _ _ _ => True
  | .prepare id _ hash _ => forall token password inv,
      server.requests id = .redeemed token password inv -> hashPassword password hash ≠ none
  | .create _ writeError _ => writeError = none

/-- A request that was given an invite and is at its end has created a user. -/
def Answered (server : InviteServer) : Prop :=
  forall id inv, (server.requests id).invite = some inv ->
    (server.requests id).inFlight = false -> (server.requests id).user ≠ none

section AllOrNothing

variable {compare : String -> String -> Bool} {lower : String -> String} {invites : List Invite}
  {users : Users} {server : InviteServer}

/-- A token of one invite alone gives that invite out while it is redeemable. -/
theorem redeem_ok_iff {rows : List Invite} {inv : Invite} {token : String} {now : Int}
    (only : forall other, other ∈ rows -> compare other.tokenHash token = true -> other = inv) :
    (Invites.redeem compare ⟨rows, rows⟩ now token none).1 = .ok inv ↔
      token ≠ "" ∧ compare inv.tokenHash token = true ∧ Redeemable rows inv now := by
  rw [Invites.redeem]
  by_cases blank : token = ""
  · rw [if_pos blank]
    exact iff_of_false (fun given => by cases given) (fun holds => holds.1 blank)
  · rw [if_neg blank]
    cases found : rows.find? fun inv => compare inv.tokenHash token with
    | none =>
        refine iff_of_false (fun given => by cases given) ?_
        rintro ⟨-, matched, present, -⟩
        exact List.find?_eq_none.mp found inv present matched
    | some row =>
        have present := List.mem_of_find?_eq_some found
        have matched : compare row.tokenHash token = true :=
          @List.find?_some _ (fun inv : Invite => compare inv.tokenHash token) row rows found
        have same := only row present matched
        subst same
        simp only
        by_cases expired : row.expiresAt < now
        · rw [if_pos expired]
          exact iff_of_false (fun given => by cases given) (fun holds => holds.2.2.2 expired)
        · rw [if_neg expired]
          exact iff_of_true rfl ⟨blank, matched, present, expired⟩

theorem invite_of_token {stage : RedeemStage} {token : String}
    (named : stage.token = some token) : Exists fun inv => stage.invite = some inv := by
  cases stage with
  | idle => cases named
  | redeemed text password inv => exact ⟨inv, rfl⟩
  | prepared text inv user => exact ⟨inv, rfl⟩
  | refused refusal => cases named
  | finished text inv user response => exact ⟨inv, rfl⟩

theorem Kept.unspent (kept : server.Kept compare invites users) {inv : Invite}
    (member : inv ∈ invites) (unheld : forall id, (server.requests id).invite ≠ some inv) :
    Unspent compare invites server inv := by
  refine ⟨unheld, ?_⟩
  intro token now later only rows listed
  have old : forall other, other ∈ rows -> other ∈ invites := by
    rcases listed with same | same
    · rw [same]
      exact kept.cacheOld
    · rw [same]
      exact kept.fileOld
  have whole : inv ∈ rows ∨ (Exists fun id => (server.requests id).invite = some inv) ∨
      inv.expiresAt < server.latest := by
    rcases listed with same | same
    · rw [same]
      exact kept.cacheWhole inv member
    · rw [same]
      exact kept.fileWhole inv member
  have same : Redeemable rows inv now ↔ Redeemable invites inv now := by
    refine ⟨fun holds => ⟨member, holds.2⟩, ?_⟩
    rintro ⟨-, valid⟩
    rcases whole with present | ⟨id, given⟩ | expired
    · exact ⟨present, valid⟩
    · exact absurd given (unheld id)
    · exact absurd (lt_of_lt_of_le expired later) valid
  rw [redeem_ok_iff fun other there => only other (old other there), redeem_ok_iff only, same]

theorem Kept.alone (kept : server.Kept compare invites users) {token : String}
    (only : forall inv other, inv ∈ invites -> other ∈ invites ->
      compare inv.tokenHash token = true -> compare other.tokenHash token = true -> inv = other)
    {first second : Nat} (one : (server.requests first).token = some token)
    (two : (server.requests second).token = some token) : first = second := by
  rcases invite_of_token one with ⟨inv, givenOne⟩
  rcases invite_of_token two with ⟨other, givenTwo⟩
  have same : inv = other := only inv other (kept.gone first inv givenOne).1
    (kept.gone second other givenTwo).1 (kept.matching first inv token givenOne one)
    (kept.matching second other token givenTwo two)
  rw [← same] at givenTwo
  exact kept.once first second inv givenOne givenTwo

/-- What is known of a server leaves two ways to break the law. -/
theorem Kept.allOrNothing_iff (kept : server.Kept compare invites users) :
    AllOrNothing compare invites users server ↔
      server.Answered ∧ server.users.file = server.users.cache := by
  constructor
  · intro law
    refine ⟨?_, law.saved⟩
    intro id inv given ended
    have atEnd : forall other, (server.requests other).invite = some inv ->
        (server.requests other).inFlight = false := by
      intro other also
      rw [kept.once other id inv also given]
      exact ended
    rcases law.settled inv (kept.gone id inv given).1 atEnd with
      ⟨holder, user, -, made, -, only, -⟩ | ⟨unheld, -⟩
    · rw [only id given, made]
      exact Option.some_ne_none user
    · exact absurd given (unheld id)
  · rintro ⟨answered, saved⟩
    refine ⟨?_, kept.made, saved, ?_⟩
    · intro inv member ended
      by_cases held : Exists fun id => (server.requests id).invite = some inv
      · rcases held with ⟨id, given⟩
        rcases Option.ne_none_iff_exists'.mp (answered id inv given (ended id given)) with
          ⟨user, made⟩
        have gone := (kept.gone id inv given).2
        exact Or.inl ⟨id, user, given, made, kept.role id user made,
          fun other also => kept.once other id inv also given, gone.1, gone.2⟩
      · exact Or.inr (kept.unspent member fun id given => held ⟨id, given⟩)
    · intro token only first second one two _ _
      exact kept.alone only one two

theorem answered_advance (answered : server.Answered) {id : Nat} {stage : RedeemStage} :
    (server.advance id stage).Answered ↔
      forall inv, stage.invite = some inv -> stage.inFlight = false -> stage.user ≠ none := by
  constructor
  · intro after inv given ended
    have here := after id inv
    rw [advance_self] at here
    exact here given ended
  · intro here other inv given ended
    by_cases same : other = id
    · rw [same, advance_self] at given ended ⊢
      exact here inv given ended
    · rw [advance_other same] at given ended ⊢
      exact answered other inv given ended

/-- A call keeps the law exactly if it is sound. -/
theorem answered_step_iff (answered : server.Answered)
    (saved : server.users.file = server.users.cache) {action : RedeemAction} {next : InviteServer}
    (moved : Moved compare server action next) :
    (next.Answered ∧ next.users.file = next.users.cache) ↔ server.Sound action := by
  cases moved with
  | refused id request now writeError refusal idle =>
      refine iff_of_true ⟨(answered_advance answered).mpr ?_, saved⟩ trivial
      intro inv given
      cases given
  | kept id request now writeError refusal cache file idle distinct old whole rows =>
      refine iff_of_true ⟨(@answered_advance { server with
        invites := ⟨cache, file⟩, latest := max server.latest now } answered _ _).mpr ?_, saved⟩
        trivial
      intro inv given
      cases given
  | given id request now writeError password inv rest idle matched rows =>
      refine iff_of_true ⟨(@answered_advance { server with
        invites := ⟨rest, rest⟩, latest := max server.latest now } answered _ _).mpr ?_, saved⟩
        trivial
      intro row given ended
      cases ended
  | unhashed id userID hash created token password inv refusal current failed =>
      refine iff_of_false ?_ (fun sound => sound token password inv current failed)
      rintro ⟨after, -⟩
      exact (answered_advance answered).mp after inv rfl rfl rfl
  | prepared id userID hash created token password inv user current hashed role =>
      refine iff_of_true ⟨(answered_advance answered).mpr ?_, saved⟩ ?_
      · intro row given ended
        cases ended
      · intro otherToken otherPassword otherInv same
        rw [current] at same
        cases same
        exact hashed
  | unsaved id error issued token inv user refusal current =>
      refine iff_of_false ?_ (fun sound => by cases sound)
      rintro ⟨-, same⟩
      have lengths : server.users.file.length = (server.users.cache ++ [user]).length :=
        congrArg List.length same
      rw [saved, List.length_append] at lengths
      exact absurd lengths (by simp)
  | created id issued token inv user response current =>
      refine iff_of_true ⟨(@answered_advance { server with
        users := ⟨server.users.cache ++ [user], server.users.cache ++ [user]⟩ } answered _ _).mpr
          ?_, rfl⟩ rfl
      intro row given ended absent
      cases absent

theorem start_allOrNothing (distinct : invites.Nodup) (now : Int) :
    AllOrNothing compare invites users (start invites users now) := by
  refine (start_kept distinct now).allOrNothing_iff.mpr ⟨?_, rfl⟩
  intro id inv given
  cases given

/-- Along a run of requests redemption is all or nothing exactly if each password is hashed after
its token is redeemed, and each new user is saved. -/
theorem all_or_nothing_throughout_iff (compare : String -> String -> Bool)
    (lower : String -> String) {invites : List Invite} (distinct : invites.Nodup) (users : Users)
    (now : Int) {actions : List RedeemAction} {final : InviteServer}
    (run : exec (step compare lower) (start invites users now) actions = some final) :
    Throughout (step compare lower) (AllOrNothing compare invites users)
        (start invites users now) actions ↔
      Meets (step compare lower) Sound (start invites users now) actions := by
  refine throughout_iff_meets (fun _ _ _ held taken => Kept.moved held (step_moved taken)) ?_
    (start_kept distinct now) (start_allOrNothing distinct now) run
  intro server action next kept law taken
  have known := kept.allOrNothing_iff.mp law
  have moved := step_moved taken
  rw [(kept.moved moved).allOrNothing_iff]
  exact answered_step_iff known.1 known.2 moved

/-! ## A password that bcrypt refuses -/

def invite : Invite :=
  { id := "inv-1", tokenHash := "hash", tokenLast4 := "oken", label := "Ann", createdAt := 0,
    expiresAt := 100 }

/-- The token has the hash of the invite. -/
def tokenHash (tokenHash plaintextToken : String) : Bool :=
  tokenHash == "hash" && plaintextToken == "token"

/-- A token is redeemed with a password of 73 letters. -/
def longPassword : List RedeemAction :=
  [.redeem 0 ⟨"token", some (String.ofList (List.replicate 73 'a'))⟩ 1 none,
    .prepare 0 "0123456789ab" (some "bcrypt") 1]

theorem all_or_nothing_throughout_iff_long : [invite].Nodup ∧
    Exists fun final => exec (step tokenHash id) (start [invite] [] 0) longPassword = some final ∧
      (Throughout (step tokenHash id) (AllOrNothing tokenHash [invite] [])
          (start [invite] [] 0) longPassword ↔
        Meets (step tokenHash id) Sound (start [invite] [] 0) longPassword) :=
  ⟨List.nodup_singleton invite, _, rfl,
    all_or_nothing_throughout_iff tokenHash id (List.nodup_singleton invite) [] 0 rfl⟩

/-- The token is spent and there is no user. -/
theorem long_password_spends_token :
    Exists fun final => exec (step tokenHash id) (start [invite] [] 0) longPassword = some final ∧
      final.invites = ⟨[], []⟩ ∧ final.users.cache = [] ∧
        ¬ AllOrNothing tokenHash [invite] [] final := by
  refine ⟨_, rfl, rfl, rfl, ?_⟩
  intro law
  have kept := exec_invariant (fun _ _ _ held taken => Kept.moved held (step_moved taken))
    (start_kept (List.nodup_singleton invite) 0) (rfl : exec (step tokenHash id)
      (start [invite] [] 0) longPassword = some _)
  exact (kept.allOrNothing_iff.mp law).1 0 invite rfl rfl rfl

end AllOrNothing

end InviteServer

end Api
end Basement
