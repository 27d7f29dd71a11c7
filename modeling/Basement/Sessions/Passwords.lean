import Basement.Api.Provisioning
import Basement.Sessions.Server
import Mathlib.Data.List.InsertIdx

namespace Basement
namespace Sessions
namespace Passwords

open Api (bind_eq_ok demand_eq_ok trimSpace trimSpace_trimSpace)
open Api.Elevation (Config)
open Api.Provisioning (InviteUserRequest OIDCClaims createUserRequest)
open Library
open Library.Transition (Meets exec meets_congr)
open ServiceAccounts (Token)
open Store (User Users)

/-!
# Passwords

An administrator gives a password to a user, and who redeems an invite chooses one.  Its hash is
stored with the user, and the elevation to admin mode and the file gateway look it up there.  The
login compares with the environment's admin only.

With each user the model keeps the password of the request that created it, which the server
does not.
-/

/-- A user, and the password that its creation was asked for with. -/
structure Account where
  user : User
  password : Option String
  deriving DecidableEq, Repr

/-- The users, and those that requests have decided on and not created yet. -/
structure State where
  accounts : List Account
  pending : List Account
  deriving DecidableEq, Repr

/-- What the server knows of it. -/
def State.server (state : State) : Api.Provisioning.Server :=
  ⟨state.accounts.map Account.user, state.pending.map Account.user⟩

def State.await (state : State) (decided : Option User) (password : Option String) : State :=
  { state with pending := state.pending ++ decided.toList.map fun user => ⟨user, password⟩ }

inductive Event where
  | redeemInvite (label password userID salt : String) (now : Int)
  | oidcCallback (claims : OIDCClaims) (userID : String)
  | createUser (req : InviteUserRequest) (userID salt : String) (now : Int)
  | store (request : Nat) (uuid : String) (now : Int) (writeError : Option String)
  | deleteUser (id : String) (writeError : Option String)
  | login (username password : String) (now : Int)
  deriving DecidableEq, Repr

section

variable (toLower : String -> String) (autoProvision : Bool)
  (hashPassword : String -> String -> Option String)

/-- A redeemed password is trimmed before it is hashed, and one of an administrator is not. -/
def step (state : State) : Event -> Option State
  | .redeemInvite label password userID salt now =>
      some (if trimSpace password = "" then state
        else state.await (Api.Provisioning.inviteRedeem toLower state.server.users label userID
          (hashPassword salt (trimSpace password)) now) (some password))
  | .oidcCallback claims userID =>
      some (state.await (Api.Provisioning.oidcCallback autoProvision state.server.users claims userID)
        none)
  | .createUser req userID salt now =>
      some (state.await (createUserRequest state.server.users req userID
        (hashPassword salt req.password) now) (some req.password))
  | .store request uuid now writeError =>
      state.pending[request]?.map fun account =>
        { accounts := state.accounts ++
            (Store.Users.createUser [] account.user uuid now writeError).2.map fun user =>
              ⟨user, account.password⟩
          pending := state.pending.eraseIdx request }
  | .deleteUser id _ =>
      some { state with accounts := state.accounts.eraseP fun account => account.user.id = id }
  | .login _ _ _ => some state

/-- What a step is to the server, which sees hashes and no passwords. -/
def Event.provisioned : Event -> List Api.Provisioning.Event
  | .redeemInvite label password userID salt now =>
      if trimSpace password = "" then []
      else [.redeemInvite label userID (hashPassword salt (trimSpace password)) now]
  | .oidcCallback claims userID => [.oidcCallback claims userID]
  | .createUser req userID salt now =>
      [.createUser req userID (hashPassword salt req.password) now]
  | .store request uuid now writeError => [.store request uuid now writeError]
  | .deleteUser id writeError => [.deleteUser id writeError]
  | .login _ _ _ => []

end

variable {toLower : String -> String} {autoProvision : Bool}
  {hashPassword : String -> String -> Option String} {state next : State}

theorem State.server_await (decided : Option User) (password : Option String) :
    (state.await decided password).server = state.server.await decided := by
  cases decided with
  | none => simp [State.await, State.server, Api.Provisioning.Server.await]
  | some user => simp [State.await, State.server, Api.Provisioning.Server.await]

theorem deleteUser_accounts (accounts : List Account) (id : String) (writeError : Option String) :
    (Store.Users.deleteUser (accounts.map Account.user) id writeError).2 =
      (accounts.eraseP fun account => account.user.id = id).map Account.user := by
  have erased := @List.eraseP_map _ _ (fun user : User => decide (user.id = id)) Account.user accounts
  unfold Store.Users.deleteUser
  split
  · rename_i absent
    refine (List.eraseP_of_forall_not ?_).symm.trans erased
    intro user listed
    simpa using List.find?_eq_none.mp absent user listed
  · rw [saving_memory]
    exact erased

/-- The passwords are only kept beside what the server does. -/
theorem step_server {event : Event}
    (taken : step toLower autoProvision hashPassword state event = some next) :
    exec (Api.Provisioning.Server.step toLower autoProvision) state.server
      (event.provisioned hashPassword) = some next.server := by
  cases event with
  | redeemInvite label password userID salt now =>
      cases Option.some.inj taken
      by_cases blank : trimSpace password = ""
      · simp only [Event.provisioned, if_pos blank]
        rfl
      · simp only [Event.provisioned, if_neg blank]
        rw [State.server_await]
        rfl
  | oidcCallback claims userID =>
      cases Option.some.inj taken
      rw [State.server_await]
      rfl
  | createUser req userID salt now =>
      cases Option.some.inj taken
      rw [State.server_await]
      rfl
  | store request uuid now writeError =>
      have mapped : (state.pending[request]?.map fun account =>
          ({ accounts := state.accounts ++
              (Store.Users.createUser [] account.user uuid now writeError).2.map fun user =>
                ⟨user, account.password⟩
             pending := state.pending.eraseIdx request } : State)) = some next := taken
      rcases Option.map_eq_some_iff.mp mapped with ⟨account, waiting, rfl⟩
      have shown : state.server.pending[request]? = some account.user := by
        unfold State.server
        rw [List.getElem?_map, waiting]
        rfl
      simp only [Event.provisioned, exec, Api.Provisioning.Server.step, shown, Option.map_some]
      simp [State.server, Store.Users.createUser, saving_memory, List.eraseIdx_map]
  | deleteUser id writeError =>
      cases Option.some.inj taken
      have accounts := deleteUser_accounts state.accounts id writeError
      simp only [Event.provisioned, exec, Api.Provisioning.Server.step]
      unfold State.server
      rw [accounts]
  | login username password now =>
      cases Option.some.inj taken
      rfl

/-! ## Logins -/

/-- A name with other blanks around it. -/
def SameName (first second : String) : Prop := trimSpace first = trimSpace second

/-- The pair is the environment admin's. -/
def AdminPair (cfg : Config) (username password : String) : Prop :=
  SameName username cfg.adminUser ∧ cfg.verifyPassword cfg.adminHash password = true

/-- The account has the name and was created with the password. -/
def Account.Opens (account : Account) (username password : String) : Prop :=
  SameName username account.user.username ∧ account.password = some password

/-- A login succeeds if the pair is the environment admin's or an account's, and then the session
is that user's. -/
structure Judged (cfg : Config) (ttl : Int) (state : State) (username password : String)
    (now : Int) : Prop where
  succeeds : (Exists fun token => login cfg username password now ttl = .ok token) ↔
    AdminPair cfg username password ∨
      Exists fun account => account ∈ state.accounts ∧ account.Opens username password
  session : forall token, login cfg username password now ttl = .ok token ->
    AdminPair cfg username password ∧ token.claims.userID = cfg.adminUser ∨
      Exists fun account => account ∈ state.accounts ∧ account.Opens username password ∧
        token.claims.userID = account.user.id

def LoginsJudged (cfg : Config) (ttl : Int) (state : State) : Event -> Prop
  | .login username password now => Judged cfg ttl state username password now
  | _ => True

/-- No account has the pair that is not the environment admin's, and what the environment says
about its admin can be typed into the login. -/
def OnlyAdminPairs (cfg : Config) (state : State) : Event -> Prop
  | .login username password _ =>
      (forall account, account ∈ state.accounts -> account.Opens username password ->
        AdminPair cfg username password) ∧
      (AdminPair cfg username password ->
        cfg.adminUser ≠ "" ∧ trimSpace cfg.adminUser = cfg.adminUser ∧ password ≠ "")
  | _ => True

theorem login_ok_iff {cfg : Config} {username password : String} {now ttl : Int} {token : Token} :
    login cfg username password now ttl = .ok token ↔
      trimSpace username ≠ "" ∧ password ≠ "" ∧ trimSpace username = cfg.adminUser ∧
        cfg.verifyPassword cfg.adminHash password = true ∧
        token = issueToken cfg.adminUser "admin" true now ttl := by
  simp only [login, bind_eq_ok, demand_eq_ok, Bool.and_eq_true, bne_iff_ne, beq_iff_eq]
  constructor
  · rintro ⟨_, ⟨named, given⟩, _, ⟨same, verified⟩, issued⟩
    exact ⟨named, given, same, verified, (Except.ok.inj issued).symm⟩
  · rintro ⟨named, given, same, verified, rfl⟩
    exact ⟨(), ⟨named, given⟩, (), ⟨same, verified⟩, rfl⟩

/-- Who logs in has the environment admin's pair. -/
theorem adminPair_of_login {cfg : Config} {username password : String} {now ttl : Int}
    {token : Token} (granted : login cfg username password now ttl = .ok token) :
    AdminPair cfg username password := by
  rcases login_ok_iff.mp granted with ⟨_, _, same, verified, _⟩
  refine ⟨?_, verified⟩
  unfold SameName
  rw [← same, trimSpace_trimSpace]

/-- One login is judged exactly if no account has its pair. -/
theorem judged_iff {cfg : Config} {ttl : Int} {username password : String} {now : Int} :
    Judged cfg ttl state username password now ↔
      OnlyAdminPairs cfg state (.login username password now) := by
  constructor
  · rintro ⟨succeeds, _⟩
    constructor
    · intro account listed has
      rcases succeeds.mpr (Or.inr ⟨account, listed, has⟩) with ⟨token, granted⟩
      exact adminPair_of_login granted
    · intro pair
      rcases succeeds.mpr (Or.inl pair) with ⟨token, granted⟩
      rcases login_ok_iff.mp granted with ⟨named, given, same, _⟩
      refine ⟨same ▸ named, ?_, given⟩
      rw [← same, trimSpace_trimSpace]
  · rintro ⟨accounts, typed⟩
    constructor
    · constructor
      · rintro ⟨token, granted⟩
        exact Or.inl (adminPair_of_login granted)
      · intro known
        have pair : AdminPair cfg username password := by
          rcases known with pair | ⟨account, listed, has⟩
          · exact pair
          · exact accounts account listed has
        rcases typed pair with ⟨named, trimmed, given⟩
        have same : trimSpace username = cfg.adminUser := pair.1.trans trimmed
        exact ⟨_, login_ok_iff.mpr ⟨same ▸ named, given, same, pair.2, rfl⟩⟩
    · intro token granted
      refine Or.inl ⟨adminPair_of_login granted, ?_⟩
      rw [login_ok granted]
      rfl

/-- The logins of a run are judged exactly if each of them finds no account with its pair, unless
it is the environment admin's. -/
theorem logins_judged_iff (cfg : Config) (ttl : Int) (toLower : String -> String)
    (autoProvision : Bool) (hashPassword : String -> String -> Option String) (start : State)
    (events : List Event) :
    Meets (step toLower autoProvision hashPassword) (LoginsJudged cfg ttl) start events ↔
      Meets (step toLower autoProvision hashPassword) (OnlyAdminPairs cfg) start events := by
  refine @meets_congr _ _ (step toLower autoProvision hashPassword) _ _ (fun _ => True) ?_ ?_ _ _
    trivial
  · intros
    trivial
  · intro state event _
    cases event with
    | login username password now => exact judged_iff
    | redeemInvite label password userID salt now => exact Iff.rfl
    | oidcCallback claims userID => exact Iff.rfl
    | createUser req userID salt now => exact Iff.rfl
    | store request uuid now writeError => exact Iff.rfl
    | deleteUser id writeError => exact Iff.rfl

/-! ## A user who cannot log in -/

/-- A deployment where one password opens the admin's session. -/
def secretConfig : Config := ⟨"admin", "hash", none, fun _ password => password = "secret"⟩

/-- An administrator creates Alice, who logs in. -/
def aliceLogsIn : List Event :=
  [.createUser { username := "alice", password := "s3cret" }
      "0c9fd1e2-0000-4000-8000-000000000001" "salt" 1,
    .store 0 "" 1 none, .login "alice" "s3cret" 2]

/-- The login does not look at the users who are stored. -/
theorem stored_user_cannot_login :
    ¬ forall (cfg : Config) (ttl : Int) (toLower : String -> String) (autoProvision : Bool)
      (hashPassword : String -> String -> Option String) (events : List Event),
      Meets (step toLower autoProvision hashPassword) (LoginsJudged cfg ttl) ⟨[], []⟩ events := by
  intro stated
  have meets := stated secretConfig 1 id true (fun salt password => some (salt ++ password))
    aliceLogsIn
  have judged : Judged secretConfig 1 ((exec (step id true fun salt password =>
      some (salt ++ password)) ⟨[], []⟩ (aliceLogsIn.take 2)).getD ⟨[], []⟩) "alice" "s3cret" 2 :=
    (meets.2 _ rfl).2 _ rfl |>.1
  have refused : login secretConfig "alice" "s3cret" 2 1 =
      .error ⟨401, "INVALID_CREDENTIALS", "Invalid credentials", []⟩ := by
    rfl
  rcases judged.succeeds.mpr (Or.inr ⟨_, List.mem_singleton.mpr rfl, rfl, rfl⟩) with
    ⟨token, granted⟩
  rw [refused] at granted
  cases granted

end Passwords
end Sessions
end Basement
