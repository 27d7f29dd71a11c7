import Basement.Api.Elevation
import Basement.ServiceAccounts.Sessions
import Basement.Settings.OrgCapabilities

namespace Basement
namespace Sessions

open ServiceAccounts
open Api (Refusal demand demand_eq_ok bind_eq_ok trimSpace)
open Api.Elevation (Config Users User Exchange Upgrade StateStore elevateOIDCStart
  elevateOIDCCallback)
open Federation (second)
open Settings (clampAdminSessionTTL)

/-!
# Sessions and their tokens

Three handlers open a session: the login with the admin's password, the callback of a login at
the identity provider, and the redemption of an invitation.  Four more answer a request of a
session with a new token: the two elevations, the switch of the active role and the drop of an
elevation.  A request is authenticated when it arrives and answered later, and anything may
happen in between.

The signature is ideal, so a token that is presented was issued.  With each token the model keeps
the time of the login it descends from, which the server does not know.
-/

/-! ## The handlers that open a session -/

/-- `IssueToken`. -/
def issueToken (userID role : String) (uiAdmin : Bool) (now ttl : Int) : Token :=
  issueTokenWithMode userID role uiAdmin "user" 0 now ttl

/-- `loginHandler`. -/
def login (cfg : Config) (username password : String) (now ttl : Int) : Except Refusal Token := do
  demand (trimSpace username != "" && password != "")
    ⟨400, "INVALID_REQUEST", "Username and password are required", []⟩
  demand (trimSpace username == cfg.adminUser && cfg.verifyPassword cfg.adminHash password)
    ⟨401, "INVALID_CREDENTIALS", "Invalid credentials", []⟩
  return issueToken cfg.adminUser "admin" true now ttl

/-- What the callback of a login reads of a user record. -/
structure Account where
  id : String
  role : String
  uiAdmin : Bool
  deriving DecidableEq, Repr

/-- `oidcCallbackHandler`, when exchanging the code, verifying the ID token and looking up or
provisioning the user ends as given. -/
def oidcCallback (signedIn : Except Refusal Account) (now ttl : Int) : Except Refusal Token := do
  let user ← signedIn
  return issueToken user.id user.role user.uiAdmin now ttl

/-- `inviteRedeemHandler`, where `redeemed` says whether the invite store accepts the token and
`userID` is the new user's UUID. -/
def inviteRedeem (password : String) (redeemed : Bool) (userID : String) (now ttl : Int) :
    Except Refusal Token := do
  demand (trimSpace password != "") ⟨400, "INVALID_REQUEST", "Password is required", []⟩
  demand redeemed ⟨401, "INVALID_OR_EXPIRED_TOKEN",
    "This invite token is invalid or has expired. Ask the operator for a new one.", []⟩
  return issueToken userID "user" false now ttl

/-! ## Elevations -/

/-- `adminSessionTTL`, for the configured number of seconds. -/
def adminSessionTTL (configured : Int) : Int := clampAdminSessionTTL configured * second

theorem adminSessionTTL_pos (configured : Int) : 0 < adminSessionTTL configured := by
  have bounds := (Settings.clampAdminSessionTTL_bounds configured).1
  unfold Settings.adminSessionTTLMinSec at bounds
  exact Int.mul_pos (by omega) (by decide)

/-- The time on the clock that the elevation handlers use. -/
def sinceEpoch (now : Int) : Int := now - 62135596800 * second

def modeText : Api.Elevation.Mode -> String
  | .user => "user"
  | .admin => "admin"

/-- The token of an elevated session. -/
def elevatedToken (claims : Claims) (upgrade : Upgrade) (adminTTL now ttl : Int) : Token :=
  issueTokenWithMode claims.userID claims.role claims.uiAdmin (modeText upgrade.mode)
    (unix (now + adminSessionTTL adminTTL)) now ttl

/-! ## The server -/

/-- A token and the time of its login. -/
structure Issued where
  token : Token
  loginAt : Int
  deriving DecidableEq, Repr

inductive Endpoint where
  | activeRole (body : Option ActiveRole)
  | logoutElevation
  | elevate (password targetMode : String)
  | elevateOIDCStart (targetMode : String)
  | elevateOIDCCallback (queryState code : String)
  | gated
  deriving DecidableEq, Repr

/-- A request that was authenticated and not yet answered. -/
structure Call where
  claims : Claims
  loginAt : Int
  endpoint : Endpoint
  deriving DecidableEq, Repr

/-- An elevation that succeeded, and the lifetime of admin mode at that time. -/
structure Elevated where
  userID : String
  grantedAt : Int
  adminTTL : Int
  deriving DecidableEq, Repr

structure Server where
  now : Int
  adminTTL : Int
  states : StateStore
  tokens : List Issued
  calls : List Call
  elevations : List Elevated

/-- What a request finds when it is answered: the policies and the users, the state and the nonce
it draws, and the answer of the identity provider. -/
structure World where
  enforcer : Enforcer
  users : Users
  state : String
  nonce : String
  exchange : Exchange

inductive Event where
  | wait (nanoseconds : Nat)
  | setAdminTTL (configured : Int)
  | login (username password : String)
  | oidcLogin (signedIn : Except Refusal Account)
  | redeem (password : String) (redeemed : Bool) (userID : String)
  | arrive (cookie : Issued) (endpoint : Endpoint)
  | answer (call : Call) (world : World)

/-- A session of this login was opened. -/
def Server.opened (server : Server) (answer : Except Refusal Token) : Server :=
  match answer with
  | .ok token => { server with tokens := server.tokens ++ [⟨token, server.now⟩] }
  | .error _ => server

section

variable (cfg : Config) (configured : Int)

/-- The upgrade that an elevating request is granted, and the states that are left. -/
def Server.upgrade (server : Server) (call : Call) (world : World) : Option Upgrade × StateStore :=
  if call.claims.userID = "" then (none, server.states)
  else
    match call.endpoint with
    | .elevate password targetMode =>
        ((Api.Elevation.elevate cfg world.users 0 call.claims.userID password targetMode).toOption,
          server.states)
    | .elevateOIDCStart targetMode =>
        (none, (elevateOIDCStart cfg server.states (sinceEpoch server.now) call.claims.userID
          targetMode world.state world.nonce).2)
    | .elevateOIDCCallback queryState code =>
        let answer := elevateOIDCCallback cfg server.states (sinceEpoch server.now) 0
          call.claims.userID queryState code world.exchange
        (answer.1.toOption, answer.2)
    | _ => (none, server.states)

/-- The token that a request is answered with. -/
def Server.reissue (server : Server) (call : Call) (world : World) : Option Token :=
  match call.endpoint with
  | .activeRole body =>
      (ServiceAccounts.activeRole world.enforcer call.claims body server.now
        (sessionTTL configured)).toOption
  | .logoutElevation =>
      (ServiceAccounts.logoutElevation call.claims server.now (sessionTTL configured)).toOption
  | _ =>
      (server.upgrade cfg call world).1.map fun upgrade =>
        elevatedToken call.claims upgrade server.adminTTL server.now (sessionTTL configured)

/-- The request is answered. -/
def Server.answered (server : Server) (call : Call) (world : World) : Server where
  now := server.now
  adminTTL := server.adminTTL
  states := (server.upgrade cfg call world).2
  tokens := server.tokens ++
    (server.reissue cfg configured call world).toList.map fun token => ⟨token, call.loginAt⟩
  calls := server.calls.erase call
  elevations := server.elevations ++ (server.upgrade cfg call world).1.toList.map fun _ =>
    ⟨call.claims.userID, server.now, adminSessionTTL server.adminTTL⟩

def step (server : Server) : Event -> Option Server
  | .wait nanoseconds => some { server with now := server.now + nanoseconds }
  | .setAdminTTL configured => some { server with adminTTL := configured }
  | .login username password =>
      some (server.opened (login cfg username password server.now (sessionTTL configured)))
  | .oidcLogin signedIn => some (server.opened (oidcCallback signedIn server.now
      (sessionTTL configured)))
  | .redeem password redeemed userID =>
      some (server.opened (inviteRedeem password redeemed userID server.now
        (sessionTTL configured)))
  | .arrive cookie endpoint =>
      if cookie ∈ server.tokens then
        match parseToken cookie.token server.now with
        | none => some server
        | some claims =>
            some { server with calls := server.calls ++ [⟨claims, cookie.loginAt, endpoint⟩] }
      else none
  | .answer call world =>
      if call ∈ server.calls then some (server.answered cfg configured call world) else none

end

/-! ## What a step can do -/

/-- A token that opens a session is one of `IssueToken`. -/
theorem opened_cases {server : Server} {answer : Except Refusal Token} {ttl : Int}
    (issues : forall token, answer = .ok token ->
      Exists fun userID => Exists fun role => Exists fun uiAdmin =>
        token = issueToken userID role uiAdmin server.now ttl) :
    server.opened answer = server ∨
      Exists fun userID => Exists fun role => Exists fun uiAdmin =>
        server.opened answer = { server with
          tokens := server.tokens ++ [⟨issueToken userID role uiAdmin server.now ttl, server.now⟩] } := by
  cases answer with
  | error refusal => exact Or.inl rfl
  | ok token =>
      rcases issues token rfl with ⟨userID, role, uiAdmin, rfl⟩
      exact Or.inr ⟨userID, role, uiAdmin, rfl⟩

theorem login_ok {cfg : Config} {username password : String} {now ttl : Int} {token : Token}
    (granted : login cfg username password now ttl = .ok token) :
    token = issueToken cfg.adminUser "admin" true now ttl := by
  simp only [login, bind_eq_ok] at granted
  rcases granted with ⟨_, _, _, _, issued⟩
  exact (Except.ok.inj issued).symm

theorem oidcCallback_ok {signedIn : Except Refusal Account} {now ttl : Int} {token : Token}
    (granted : oidcCallback signedIn now ttl = .ok token) :
    Exists fun user : Account => token = issueToken user.id user.role user.uiAdmin now ttl := by
  simp only [oidcCallback, bind_eq_ok] at granted
  rcases granted with ⟨user, _, issued⟩
  exact ⟨user, (Except.ok.inj issued).symm⟩

theorem inviteRedeem_ok {password userID : String} {redeemed : Bool} {now ttl : Int}
    {token : Token} (granted : inviteRedeem password redeemed userID now ttl = .ok token) :
    token = issueToken userID "user" false now ttl := by
  simp only [inviteRedeem, bind_eq_ok] at granted
  rcases granted with ⟨_, _, _, _, issued⟩
  exact (Except.ok.inj issued).symm

/-- A step of the server. -/
inductive Moved (cfg : Config) (configured : Int) (server : Server) : Event -> Server -> Prop where
  | waited (nanoseconds : Nat) :
      Moved cfg configured server (.wait nanoseconds)
        { server with now := server.now + nanoseconds }
  | set (adminTTL : Int) :
      Moved cfg configured server (.setAdminTTL adminTTL) { server with adminTTL }
  | unchanged (event : Event) : Moved cfg configured server event server
  | opened (event : Event) (userID role : String) (uiAdmin : Bool) :
      Moved cfg configured server event { server with
        tokens := server.tokens ++
          [⟨issueToken userID role uiAdmin server.now (sessionTTL configured), server.now⟩] }
  | arrived (cookie : Issued) (endpoint : Endpoint) (known : cookie ∈ server.tokens)
      (live : cookie.token.live server.now = true) :
      Moved cfg configured server (.arrive cookie endpoint)
        { server with calls := server.calls ++ [⟨cookie.token.claims, cookie.loginAt, endpoint⟩] }
  | answered (call : Call) (world : World) (known : call ∈ server.calls) :
      Moved cfg configured server (.answer call world) (server.answered cfg configured call world)

theorem step_moved {cfg : Config} {configured : Int} {server next : Server} {event : Event}
    (taken : step cfg configured server event = some next) :
    Moved cfg configured server event next := by
  cases event with
  | wait nanoseconds =>
      cases Option.some.inj taken
      exact Moved.waited nanoseconds
  | setAdminTTL adminTTL =>
      cases Option.some.inj taken
      exact Moved.set adminTTL
  | login username password =>
      cases Option.some.inj taken
      rcases @opened_cases server _ (sessionTTL configured)
        (fun token granted => ⟨_, _, _, login_ok granted⟩) with same | ⟨userID, role, uiAdmin, new⟩
      · rw [same]
        exact Moved.unchanged _
      · rw [new]
        exact Moved.opened _ userID role uiAdmin
  | oidcLogin signedIn =>
      cases Option.some.inj taken
      rcases @opened_cases server _ (sessionTTL configured) (fun token granted => by
        rcases oidcCallback_ok granted with ⟨user, issued⟩
        exact ⟨_, _, _, issued⟩) with same | ⟨userID, role, uiAdmin, new⟩
      · rw [same]
        exact Moved.unchanged _
      · rw [new]
        exact Moved.opened _ userID role uiAdmin
  | redeem password redeemed newUser =>
      cases Option.some.inj taken
      rcases @opened_cases server _ (sessionTTL configured)
        (fun token granted => ⟨_, _, _, inviteRedeem_ok granted⟩)
        with same | ⟨userID, role, uiAdmin, new⟩
      · rw [same]
        exact Moved.unchanged _
      · rw [new]
        exact Moved.opened _ userID role uiAdmin
  | arrive cookie endpoint =>
      simp only [step] at taken
      split at taken
      · rename_i known
        split at taken
        · cases Option.some.inj taken
          exact Moved.unchanged _
        · rename_i claims parsed
          cases Option.some.inj taken
          rcases parseToken_eq_some.mp parsed with ⟨live, rfl⟩
          exact Moved.arrived cookie endpoint known live
      · cases taken
  | answer call world =>
      simp only [step] at taken
      split at taken
      · rename_i known
        cases Option.some.inj taken
        exact Moved.answered call world known
      · cases taken

/-- What a request of a session is answered with, beside the upgrade it was granted. -/
inductive Reissued (server : Server) (call : Call) (configured : Int) :
    Option Upgrade -> Token -> Prop where
  /-- The active role is switched and the mode copied. -/
  | switched (granted : Option Upgrade) (role : ActiveRole) :
      Reissued server call configured granted
        (issueTokenWithActiveRole call.claims.userID call.claims.role call.claims.uiAdmin
          call.claims.mode call.claims.modeExpiresAt server.now (sessionTTL configured) (some role))
  | dropped (granted : Option Upgrade) :
      Reissued server call configured granted
        (issueTokenWithMode call.claims.userID call.claims.role call.claims.uiAdmin "user" 0
          server.now (sessionTTL configured))
  | elevated (upgrade : Upgrade) :
      Reissued server call configured (some upgrade)
        (elevatedToken call.claims upgrade server.adminTTL server.now (sessionTTL configured))

theorem reissue_cases {cfg : Config} {configured : Int} {server : Server} {call : Call}
    {world : World} {token : Token}
    (issued : server.reissue cfg configured call world = some token) :
    Reissued server call configured (server.upgrade cfg call world).1 token := by
  have upgraded : (server.upgrade cfg call world).1.map (fun upgrade =>
      elevatedToken call.claims upgrade server.adminTTL server.now (sessionTTL configured)) =
        some token ->
      Reissued server call configured (server.upgrade cfg call world).1 token := by
    intro mapped
    rcases Option.map_eq_some_iff.mp mapped with ⟨upgrade, granted, rfl⟩
    rw [granted]
    exact Reissued.elevated upgrade
  unfold Server.reissue at issued
  split at issued
  · rcases activeRole_ok_iff.mp (toOption_eq_some.mp issued) with ⟨_, req, _, _, rfl⟩
    exact Reissued.switched _ _
  · rcases logoutElevation_ok_iff.mp (toOption_eq_some.mp issued) with ⟨_, rfl⟩
    exact Reissued.dropped _
  · exact upgraded issued

end Sessions
end Basement
