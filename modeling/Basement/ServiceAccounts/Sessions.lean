import Basement.ServiceAccounts.Gates
import Basement.ServiceAccounts.Lifetimes

namespace Basement
namespace ServiceAccounts

open Library
open Api (Refusal demand demand_eq_ok bind_eq_ok trimSpace)
open Federation (second)

/-!
# Tokens from a bearer key

A request is authenticated by a session cookie or, without one, by the access key and the secret
of a service account.  Two handlers that ask for no other credential give out a new session
cookie: the one that switches the active role and the one that drops an elevation.  Both copy
the claims they find into the new token, and a token has no field for the service account.

The signature is ideal: a cookie that is presented is a token that was issued.  The requests of
a sequence present the bearer key with one access key, or tokens issued earlier in the sequence.
In between the policies may change and other people may use the store.  Endpoints that take
another credential (a password, a code of the identity provider, an invitation) are not part of
such a sequence, and an endpoint behind `requireCapability` is represented by that gate.
-/

/-! ## Tokens -/

/-- A signed JWT: the claims that are serialized, and its times. -/
structure Token where
  claims : Claims
  issuedAt : Int
  expiresAt : Int
  deriving DecidableEq, Repr

/-- `jwt.NewNumericDate`, a time in whole seconds. -/
def numericDate (time : Int) : Int := time / second * second

/-- `IssueTokenWithActiveRole`; `ServiceAccountID` is not serialized. -/
def issueTokenWithActiveRole (userID role : String) (uiAdmin : Bool) (mode : String)
    (modeExpiresAt : Int) (now ttl : Int) (activeRole : Option ActiveRole) : Token where
  claims := ⟨userID, role, uiAdmin, if mode = "" then "user" else mode, modeExpiresAt, "",
    some (activeRole.getD { kind := "user" })⟩
  issuedAt := numericDate now
  expiresAt := numericDate (now + ttl)

/-- `IssueTokenWithMode`. -/
def issueTokenWithMode (userID role : String) (uiAdmin : Bool) (mode : String) (modeExpiresAt : Int)
    (now ttl : Int) : Token :=
  issueTokenWithActiveRole userID role uiAdmin mode modeExpiresAt now ttl none

/-- The token is valid at the time. -/
def Token.live (token : Token) (now : Int) : Bool :=
  decide (token.issuedAt ≤ now) && decide (now < token.expiresAt)

/-- `ParseToken` on a token of the server. -/
def parseToken (token : Token) (now : Int) : Option Claims :=
  if token.live now then some token.claims else none

theorem parseToken_eq_some {token : Token} {now : Int} {claims : Claims} :
    parseToken token now = some claims ↔ token.live now = true ∧ token.claims = claims := by
  unfold parseToken
  split <;> simp [*]

theorem parseToken_of_expired {token : Token} {now : Int} (past : token.expiresAt ≤ now) :
    parseToken token now = none := by
  unfold parseToken Token.live
  rw [decide_eq_false (not_lt.mpr past), Bool.and_false]
  rfl

/-! ## Authentication -/

/-- What a request carries: the session cookie, and what follows `Bearer ` in its header. -/
structure Credential where
  cookie : Option Token := none
  bearer : Option String := none
  deriving DecidableEq, Repr

/-- `splitBearerPayload`. -/
def splitBearerPayload (payload : String) : Option (String × String) :=
  match (trimSpace payload).toList.span (· != ':') with
  | ([], _) => none
  | (_, []) => none
  | (_, [_]) => none
  | (akid, _ :: secret) => some (String.ofList akid, String.ofList secret)

/-- The claims of a service account, which act for its owner. -/
def ServiceAccount.claims (sa : ServiceAccount) : Claims where
  userID := sa.ownerUserID
  role := "service_account"
  uiAdmin := false
  mode := "user"
  modeExpiresAt := 0
  serviceAccountID := sa.id
  activeRole := none

/-- `handleBearer`, without the time of the last use. -/
def handleBearer (compare : String -> String -> Bool) (accounts : Accounts) (now : Int)
    (payload : String) : Except Refusal Claims :=
  match splitBearerPayload payload with
  | none =>
      .error ⟨401, "MALFORMED_BEARER",
        "Bearer token must be of the form Bearer \x7bAccessKeyID\x7d:\x7bSecret\x7d", []⟩
  | some (akid, secret) =>
      match findByAccessKey accounts akid with
      | none => .error ⟨401, "INVALID_ACCESS_KEY", "Access key not recognized", []⟩
      | some sa =>
          if sa.isRevoked then
            .error ⟨401, "SERVICE_ACCOUNT_REVOKED", "This service account has been revoked", []⟩
          else if sa.isExpired now then
            .error ⟨401, "SERVICE_ACCOUNT_EXPIRED", "This service account has expired", []⟩
          else if verifySecret compare accounts now akid secret = .ok true then .ok sa.claims
          else .error ⟨401, "INVALID_SECRET", "Secret did not match", []⟩

/-- `MiddlewareWithBearer`. -/
def authenticate (compare : String -> String -> Bool) (accounts : Accounts) (now : Int)
    (credential : Credential) : Except Refusal Claims :=
  match credential.cookie with
  | some token =>
      match parseToken token now with
      | none => .error ⟨401, "INVALID_SESSION", "Invalid or expired session", []⟩
      | some claims => .ok claims
  | none =>
      match credential.bearer with
      | some payload => handleBearer compare accounts now payload
      | none => .error ⟨401, "SESSION_REQUIRED", "Session cookie not found", []⟩

/-! ## The handlers that issue -/

/-- The lifetime of a session, which is a day unless configured. -/
def sessionTTL (configured : Int) : Int := if configured ≤ 0 then 24 * 3600 * second else configured

/-- The user has a role of a cluster administrator on the cluster. -/
def Enforcer.administers (enforcer : Enforcer) (userID cluster : String) : Bool :=
  enforcer.assignments.any fun a => a.userID = userID &&
    "cluster_admin".toList.isPrefixOf a.roleID.toList &&
      (a.scope = "cluster:*" || a.scope = "cluster:" ++ cluster)

/-- `activeRoleHandler`, with the new session token. -/
def activeRole (enforcer : Enforcer) (claims : Claims) (body : Option ActiveRole) (now ttl : Int) :
    Except Refusal Token := do
  demand (claims.userID != "") ⟨401, "UNAUTHORIZED", "No active session", []⟩
  let req ← body.elim (.error ⟨400, "INVALID_JSON", "Invalid JSON body", []⟩) .ok
  demand (["user", "cluster-admin", "ui-admin"].contains req.kind)
    ⟨400, "INVALID_ROLE_KIND", "Invalid role kind", []⟩
  demand (req.kind != "cluster-admin" || req.cluster != "")
    ⟨400, "INVALID_REQUEST", "Cluster ID required for cluster-admin role", []⟩
  demand (req.kind != "cluster-admin" || claims.uiAdmin ||
      enforcer.administers claims.userID req.cluster)
    ⟨403, "FORBIDDEN", "User not eligible for cluster admin role on this cluster", []⟩
  demand (req.kind != "ui-admin" || claims.uiAdmin) ⟨403, "FORBIDDEN", "User is not a UI admin", []⟩
  demand (req.kind != "ui-admin" || currentMode (some claims) now = "admin")
    ⟨423, "", "", [("requires_elevation", "true"),
      ("prompt", "Switching to UI admin requires admin re-authentication.")]⟩
  return issueTokenWithActiveRole claims.userID claims.role claims.uiAdmin claims.mode
    claims.modeExpiresAt now ttl
    (some ⟨req.kind, if req.kind = "cluster-admin" then req.cluster else ""⟩)

/-- `logoutElevationHandler`, with the new session token. -/
def logoutElevation (claims : Claims) (now ttl : Int) : Except Refusal Token := do
  demand (claims.userID != "") ⟨401, "UNAUTHORIZED", "No active session", []⟩
  return issueTokenWithMode claims.userID claims.role claims.uiAdmin "user" 0 now ttl

/-! ## A sequence of requests -/

inductive Endpoint where
  | activeRole (body : Option ActiveRole)
  | logoutElevation
  | gated (capability scope : String)
  deriving DecidableEq, Repr

structure Server where
  store : State
  enforcer : Enforcer
  tokens : List Token

inductive Event where
  | store (action : Action)
  | policies (enforcer : Enforcer)
  | request (credential : Credential) (endpoint : Endpoint)
  deriving DecidableEq, Repr

/-- A token is only presented after it was issued, and a bearer key has the access key. -/
def Credential.Presentable (akid : String) (tokens : List Token) (credential : Credential) : Prop :=
  (forall token, token ∈ credential.cookie -> token ∈ tokens) ∧
    forall payload, payload ∈ credential.bearer ->
      forall parts, parts ∈ splitBearerPayload payload ->
      parts.1 = akid

instance (akid : String) (tokens : List Token) (credential : Credential) :
    Decidable (credential.Presentable akid tokens) :=
  inferInstanceAs (Decidable (_ ∧ _))

/-- `uuid.NewString` is not empty. -/
def Action.named : Action -> Bool
  | .create _ io => io.uuid != ""
  | _ => true

section

variable (compare : String -> String -> Bool) (configured : Int) (akid : String)

/-- The token that a request is answered with. -/
def Server.issue (server : Server) (credential : Credential) : Endpoint -> Option Token
  | .activeRole body => do
      let claims ← (authenticate compare server.store.accounts server.store.now credential).toOption
      (ServiceAccounts.activeRole server.enforcer claims body server.store.now
        (sessionTTL configured)).toOption
  | .logoutElevation => do
      let claims ← (authenticate compare server.store.accounts server.store.now credential).toOption
      (ServiceAccounts.logoutElevation claims server.store.now (sessionTTL configured)).toOption
  | .gated _ _ => none

/-- The gate of an endpoint, and the user it runs as. -/
def Server.pass (server : Server) (credential : Credential) (capability scope : String) :
    Except Refusal String := do
  let claims ← authenticate compare server.store.accounts server.store.now credential
  requireCapability server.enforcer server.store.accounts (some claims) server.store.now
    capability scope

def Server.step (server : Server) : Event -> Option Server
  | .store action =>
      if action.named then
        (ServiceAccounts.step server.store action).map fun store => { server with store }
      else none
  | .policies enforcer => some { server with enforcer }
  | .request credential endpoint =>
      if credential.Presentable akid server.tokens then
        some { server with
          tokens := server.tokens ++ (server.issue compare configured credential endpoint).toList }
      else none

/-- No accounts and no tokens, and any policies. -/
def Server.start (opened : Nat) (enforcer : Enforcer) : Server :=
  ⟨ServiceAccounts.start opened, enforcer, []⟩

/-- The account with the access key is neither revoked nor expired and allows the action. -/
def Server.Permits (server : Server) (capability scope : String) : Prop :=
  Exists fun sa => findByAccessKey server.store.accounts akid = some sa ∧
    ¬ sa.Dead server.store.now ∧
    serviceAccountAllows sa capability scope = true

/-- Whatever happens later, the token passes a gate only where the account would. -/
def Server.Safe (server : Server) (token : Token) : Prop :=
  forall events later, Transition.exec (Server.step compare configured akid) server events =
    some later ->
    forall capability scope userID,
      later.pass compare { cookie := some token } capability scope = .ok userID ->
        later.Permits akid capability scope

/-- A request passes a gate only where the account would, and a token it is answered with is
safe. -/
def Confined (server : Server) : Event -> Prop
  | .store _ => True
  | .policies _ => True
  | .request credential endpoint =>
      credential.Presentable akid server.tokens ->
        (forall capability scope userID, endpoint = .gated capability scope ->
          server.pass compare credential capability scope = .ok userID ->
            server.Permits akid capability scope) ∧
        forall token, token ∈ server.issue compare configured credential endpoint ->
          forall next, Server.step compare configured akid server (.request credential endpoint) =
            some next ->
            next.Safe compare configured akid token

/-- The role is one that the claims may switch to. -/
def mayTake (enforcer : Enforcer) (claims : Claims) (now : Int) (role : ActiveRole) : Bool :=
  role.kind = "user" ||
    (role.kind = "cluster-admin" && role.cluster != "" &&
      (claims.uiAdmin || enforcer.administers claims.userID role.cluster)) ||
    (role.kind = "ui-admin" && claims.uiAdmin && currentMode (some claims) now = "admin")

/-- The event is an authentic request to drop an elevation or to switch to a role that is open,
and a session lasts beyond the current second. -/
def asksForToken (server : Server) : Event -> Bool
  | .request credential endpoint =>
      decide (credential.Presentable akid server.tokens) &&
        (authenticate compare server.store.accounts server.store.now credential).toOption.any
          fun claims =>
          claims.userID != "" &&
            decide (server.store.now < numericDate (server.store.now + sessionTTL configured)) &&
              match endpoint with
              | .activeRole body => body.any (mayTake server.enforcer claims server.store.now)
              | .logoutElevation => true
              | .gated _ _ => false
  | _ => false

end

/-! ## What the handlers issue -/

/-- The handler switches to the roles that are open, and issues a token for the same user. -/
theorem activeRole_ok_iff {enforcer : Enforcer} {claims : Claims} {body : Option ActiveRole}
    {now ttl : Int} {token : Token} :
    activeRole enforcer claims body now ttl = .ok token ↔
      claims.userID ≠ "" ∧ Exists fun req => body = some req ∧
        mayTake enforcer claims now req = true ∧
        token = issueTokenWithActiveRole claims.userID claims.role claims.uiAdmin claims.mode
          claims.modeExpiresAt now ttl
          (some ⟨req.kind, if req.kind = "cluster-admin" then req.cluster else ""⟩) := by
  cases body with
  | none => simp [activeRole, bind_eq_ok]
  | some req =>
      simp only [activeRole, bind_eq_ok, demand_eq_ok, mayTake]
      constructor
      · rintro ⟨_, named, _, same, _, kind, _, cluster, _, grant, _, admin, _, mode, issued⟩
        cases same
        cases issued
        refine ⟨by simpa using named, req, rfl, ?_, rfl⟩
        simp only [List.contains_cons, List.contains_nil, Bool.or_false, Bool.or_eq_true,
          beq_iff_eq] at kind
        rcases kind with kind | kind | kind
        · simp [kind]
        · rw [kind] at cluster grant
          simp only [bne_self_eq_false, Bool.false_or] at cluster grant
          simp [kind, grant, bne_iff_ne.mp cluster]
        · rw [kind] at admin mode
          simp only [bne_self_eq_false, Bool.false_or, decide_eq_true_eq] at admin mode
          simp [kind, admin, mode]
      · rintro ⟨named, _, same, may, issued⟩
        cases same
        rw [issued]
        simp only [Bool.or_eq_true, Bool.and_eq_true, decide_eq_true_eq, bne_iff_ne] at may
        rcases may with (kind | ⟨⟨kind, cluster⟩, grant⟩) | ⟨⟨kind, admin⟩, mode⟩
        · simp [kind, named, pure, Except.pure]
        · rcases grant with admin | grant
          · simp [kind, named, cluster, admin, pure, Except.pure]
          · simp [kind, named, cluster, grant, pure, Except.pure]
        · simp [kind, named, admin, mode, pure, Except.pure]

theorem logoutElevation_ok_iff {claims : Claims} {now ttl : Int} {token : Token} :
    logoutElevation claims now ttl = .ok token ↔
      claims.userID ≠ "" ∧
        token = issueTokenWithMode claims.userID claims.role claims.uiAdmin "user" 0 now ttl := by
  simp only [logoutElevation, bind_eq_ok, demand_eq_ok, bne_iff_ne, exists_and_left, exists_const]
  exact and_congr_right fun _ => ⟨fun made => (Except.ok.inj made).symm, fun made => made ▸ rfl⟩

/-- An issued token names the user of the claims and keeps their mode, or is in the user mode. -/
structure Token.Copies (token : Token) (claims : Claims) (now ttl : Int) : Prop where
  user : token.claims.userID = claims.userID
  session : token.claims.serviceAccountID = ""
  mode : token.claims.mode = "user" ∨ token.claims.mode = claims.mode
  issued : token.issuedAt = numericDate now
  expires : token.expiresAt = numericDate (now + ttl)

theorem numericDate_le (time : Int) : numericDate time ≤ time := Int.ediv_mul_le time (by decide)

variable {compare : String -> String -> Bool} {configured : Int} {akid : String}

theorem toOption_eq_some {ε α : Type} {result : Except ε α} {value : α} :
    result.toOption = some value ↔ result = .ok value := by
  cases result <;> simp [Except.toOption]

/-- What a request is answered with. -/
theorem issue_copies {server : Server} {credential : Credential} {endpoint : Endpoint}
    {token : Token} (issued : server.issue compare configured credential endpoint = some token) :
    Exists fun claims =>
      authenticate compare server.store.accounts server.store.now credential = .ok claims ∧
        claims.userID ≠ "" ∧ token.Copies claims server.store.now (sessionTTL configured) := by
  cases endpoint with
  | gated capability scope => cases issued
  | activeRole body =>
      rcases Option.bind_eq_some_iff.mp issued with ⟨claims, known, made⟩
      rcases activeRole_ok_iff.mp (toOption_eq_some.mp made) with ⟨named, req, _, _, rfl⟩
      refine ⟨claims, toOption_eq_some.mp known, named, rfl, rfl, ?_, rfl, rfl⟩
      by_cases blank : claims.mode = ""
      · exact Or.inl (if_pos blank)
      · exact Or.inr (if_neg blank)
  | logoutElevation =>
      rcases Option.bind_eq_some_iff.mp issued with ⟨claims, known, made⟩
      rcases logoutElevation_ok_iff.mp (toOption_eq_some.mp made) with ⟨named, rfl⟩
      exact ⟨claims, toOption_eq_some.mp known, named, rfl, rfl, Or.inl rfl, rfl, rfl⟩

theorem Token.Copies.live_iff {token : Token} {claims : Claims} {now ttl : Int}
    (copies : token.Copies claims now ttl) :
    token.live now = true ↔ now < numericDate (now + ttl) := by
  unfold Token.live
  rw [copies.issued, copies.expires, Bool.and_eq_true, decide_eq_true_eq, decide_eq_true_eq]
  exact and_iff_right (numericDate_le now)

/-- The requests that ask for a token are the ones that are answered with a live one. -/
theorem asksForToken_iff {server : Server} {credential : Credential} {endpoint : Endpoint}
    (presentable : credential.Presentable akid server.tokens) :
    asksForToken compare configured akid server (.request credential endpoint) = true ↔
      Exists fun token => server.issue compare configured credential endpoint = some token ∧
        token.live server.store.now = true := by
  simp only [asksForToken, presentable, decide_true, Bool.true_and, Option.any_eq_true,
    Bool.and_eq_true,
    bne_iff_ne, decide_eq_true_eq, toOption_eq_some]
  constructor
  · rintro ⟨claims, known, ⟨named, lasting⟩, available⟩
    have made : Exists fun token =>
        server.issue compare configured credential endpoint = some token := by
      cases endpoint with
      | gated capability scope => cases available
      | activeRole body =>
          rcases (Option.any_eq_true _ _).mp available with ⟨req, sent, may⟩
          exact ⟨_, Option.bind_eq_some_iff.mpr ⟨claims, toOption_eq_some.mpr known,
            toOption_eq_some.mpr (activeRole_ok_iff.mpr ⟨named, req, sent, may, rfl⟩)⟩⟩
      | logoutElevation =>
          exact ⟨_, Option.bind_eq_some_iff.mpr ⟨claims, toOption_eq_some.mpr known,
            toOption_eq_some.mpr (logoutElevation_ok_iff.mpr ⟨named, rfl⟩)⟩⟩
    rcases made with ⟨token, issued⟩
    rcases issue_copies issued with ⟨_, _, _, copies⟩
    exact ⟨token, issued, copies.live_iff.mpr lasting⟩
  · rintro ⟨token, issued, live⟩
    rcases issue_copies issued with ⟨claims, known, named, copies⟩
    refine ⟨claims, known, ⟨named, copies.live_iff.mp live⟩, ?_⟩
    cases endpoint with
    | gated capability scope => cases issued
    | activeRole body =>
        rcases Option.bind_eq_some_iff.mp issued with ⟨other, same, made⟩
        cases known.symm.trans (toOption_eq_some.mp same)
        rcases activeRole_ok_iff.mp (toOption_eq_some.mp made) with ⟨_, req, sent, may, _⟩
        exact (Option.any_eq_true _ _).mpr ⟨req, sent, may⟩
    | logoutElevation => rfl

/-! ## The bearer key -/

/-- No live tokens, in a store whose rows have IDs. -/
structure Server.Spent (server : Server) : Prop where
  sound : server.store.Sound
  named : forall id sa, server.store.accounts.get? id = some sa -> id ≠ ""
  expired : forall token, token ∈ server.tokens -> token.expiresAt ≤ server.store.now

theorem Server.start_spent (opened : Nat) (enforcer : Enforcer) :
    (Server.start opened enforcer).Spent := by
  refine ⟨start_sound opened, ?_, ?_⟩
  · intro id sa found
    cases found
  · intro token member
    cases member

/-- A bearer key is accepted from an account that is neither revoked nor expired. -/
theorem handleBearer_ok {accounts : Accounts} {now : Int} {payload : String} {claims : Claims}
    (accepted : handleBearer compare accounts now payload = .ok claims) :
    Exists fun parts => splitBearerPayload payload = some parts ∧
      Exists fun sa => findByAccessKey accounts parts.1 = some sa ∧ ¬ sa.Dead now ∧
        claims = sa.claims := by
  unfold handleBearer at accepted
  split at accepted
  · cases accepted
  · rename_i key secret parted
    split at accepted
    · cases accepted
    · rename_i sa found
      split at accepted
      · cases accepted
      · rename_i valid
        split at accepted
        · cases accepted
        · rename_i lasting
          split at accepted
          · refine ⟨(key, secret), parted, sa, found, ?_, (Except.ok.inj accepted).symm⟩
            exact not_or.mpr ⟨valid, lasting⟩
          · cases accepted

/-- The row with an access key is stored under its ID. -/
theorem get?_of_findByAccessKey {accounts : Accounts} (keyed : Keyed accounts) {key : String}
    {sa : ServiceAccount} (found : findByAccessKey accounts key = some sa) :
    accounts.get? sa.id = some sa := by
  rcases Option.map_eq_some_iff.mp found with ⟨entry, first, rfl⟩
  have stored := (accounts.mem_entries_iff entry.1 entry.2).mp (List.mem_of_find?_eq_some first)
  rw [keyed.own _ _ stored, stored]

/-- Without live tokens a request is authenticated by the bearer key, if at all. -/
theorem Server.Spent.authenticate {server : Server} (spent : server.Spent) {credential : Credential}
    (presentable : credential.Presentable akid server.tokens) {claims : Claims}
    (known : authenticate compare server.store.accounts server.store.now credential = .ok claims) :
    Exists fun sa => findByAccessKey server.store.accounts akid = some sa ∧
      ¬ sa.Dead server.store.now ∧
      claims = sa.claims := by
  unfold ServiceAccounts.authenticate at known
  cases shown : credential.cookie with
  | some token =>
      have past := spent.expired token (presentable.1 token shown)
      simp only [shown, parseToken_of_expired past] at known
      cases known
  | none =>
      simp only [shown] at known
      cases carried : credential.bearer with
      | none =>
          simp only [carried] at known
          cases known
      | some payload =>
          simp only [carried] at known
          rcases handleBearer_ok known with ⟨parts, parted, sa, found, alive, same⟩
          rw [presentable.2 payload carried parts parted] at found
          exact ⟨sa, found, alive, same⟩

/-- Without live tokens a gate is passed only where the account would. -/
theorem Server.Spent.permits {server : Server} (spent : server.Spent) {credential : Credential}
    (presentable : credential.Presentable akid server.tokens) {capability scope userID : String}
    (passed : server.pass compare credential capability scope = .ok userID) :
    server.Permits akid capability scope := by
  rcases bind_eq_ok.mp passed with ⟨claims, known, gate⟩
  rcases spent.authenticate presentable known with ⟨sa, found, alive, rfl⟩
  have stored := get?_of_findByAccessKey spent.sound.keyed found
  rcases requireCapability_ok gate with ⟨c, same, _, _, ⟨session, _⟩ | ⟨row, rowFound, allows⟩⟩
  · cases same
    exact absurd session (spent.named sa.id sa stored)
  · cases same
    cases stored.symm.trans rowFound
    exact ⟨sa, found, alive, allows⟩

/-! ## A live token -/

/-- Policies that let one user look at any bucket. -/
def openTo (userID : String) : Enforcer :=
  ⟨[⟨"viewer", ["bucket:view"]⟩], [⟨userID, "viewer", "*"⟩]⟩

theorem openTo_can {userID : String} (named : userID ≠ "") :
    (openTo userID).can userID "bucket:view" "bucket:c1:data" = true :=
  can_iff.mpr ⟨⟨named, by decide, by decide⟩, _, List.mem_singleton.mpr rfl, rfl, rfl⟩

/-- A session of the user mode may look at a bucket if its user may. -/
theorem requireCapability_session {enforcer : Enforcer} {accounts : Accounts}
    {claims : Claims} {now : Int} (named : claims.userID ≠ "")
    (session : claims.serviceAccountID = "") (user : claims.mode = "user")
    (may : enforcer.can claims.userID "bucket:view" "bucket:c1:data" = true) :
    requireCapability enforcer accounts (some claims) now "bucket:view" "bucket:c1:data" =
      .ok claims.userID := by
  have mode : currentMode (some claims) now = "user" := by
    unfold currentMode
    simp [user]
  have includes : modeIncludes "user" (minModeFor "bucket:view") = true := by decide
  unfold requireCapability
  simp only [named, session, may, mode, includes, ne_eq, not_true_eq_false, if_false, Bool.not_true,
    Bool.false_eq_true]

/-- The row of a sound store after its account is deleted. -/
theorem delete_revokes {state : State} (sound : state.Sound) {sa : ServiceAccount}
    (stored : state.accounts.get? sa.id = some sa) (valid : sa.isRevoked = false) :
    Exists fun next => step state (.delete sa.id { now := state.now }) = some next ∧
      next.now = state.now ∧
      Exists fun row => findByAccessKey next.accounts sa.accessKeyID = some row ∧
        row.isRevoked = true := by
  have rows : (delete state.accounts sa.id { now := state.now }).2 =
      state.accounts.put sa.id { sa with revokedAt := some state.now } := by
    unfold delete
    simp only [stored, valid, Bool.false_eq_true, if_false]
  have taken : step state (.delete sa.id { now := state.now }) =
      some ⟨state.accounts.put sa.id { sa with revokedAt := some state.now }, state.now⟩ := by
    have enabled : Action.Enabled state (.delete sa.id { now := state.now }) := ⟨le_refl _, trivial⟩
    unfold step
    rw [if_pos enabled]
    simp only [Action.rows, Action.clock, rows]
  refine ⟨_, taken, rfl, { sa with revokedAt := some state.now }, ?_, ?_⟩
  · have next := State.Sound.step state _ _ sound taken
    exact findByAccessKey_eq next.keyed (SortedStore.get?_put_self _ _ _)
  · exact bne_iff_ne.mpr (ne_of_gt sound.running)

/-- A live token that copies an account's claims outlives the account. -/
theorem not_safe_of_live {server : Server} (sound : server.store.Sound) {sa : ServiceAccount}
    (found : findByAccessKey server.store.accounts akid = some sa)
    (alive : ¬ sa.Dead server.store.now) (owned : sa.ownerUserID ≠ "") {token : Token} {ttl : Int}
    (copies : token.Copies sa.claims server.store.now ttl)
    (live : token.live server.store.now = true) : ¬ server.Safe compare configured akid token := by
  intro safe
  have stored := get?_of_findByAccessKey sound.keyed found
  have key : sa.accessKeyID = akid := by
    rcases Option.map_eq_some_iff.mp found with ⟨entry, first, rfl⟩
    simpa using List.find?_some first
  have valid : sa.isRevoked = false := Bool.eq_false_iff.mpr (not_or.mp alive).1
  rcases delete_revokes sound stored valid with ⟨next, deleted, clock, row, rowFound, revoked⟩
  rw [key] at rowFound
  have run : Transition.exec (Server.step compare configured akid) server
      [.store (.delete sa.id { now := server.store.now }), .policies (openTo sa.ownerUserID)] =
        some { server with store := next, enforcer := openTo sa.ownerUserID } := by
    simp only [Transition.exec, Server.step, Action.named, if_true, deleted, Option.map_some]
  have passed :
      ({ server with store := next, enforcer := openTo sa.ownerUserID } : Server).pass compare
      { cookie := some token } "bucket:view" "bucket:c1:data" = .ok sa.ownerUserID := by
    have parsed : parseToken token next.now = some token.claims :=
      parseToken_eq_some.mpr ⟨clock ▸ live, rfl⟩
    have user : token.claims.userID = sa.ownerUserID := copies.user
    have mode : token.claims.mode = "user" := copies.mode.elim id id
    have gate := @requireCapability_session (openTo sa.ownerUserID) next.accounts
      token.claims next.now
      (user ▸ owned) copies.session mode (by rw [user]; exact openTo_can owned)
    unfold Server.pass authenticate
    simp only [parsed]
    rw [user] at gate
    exact gate
  rcases safe _ _ run _ _ _ passed with ⟨other, otherFound, otherAlive, _⟩
  cases rowFound.symm.trans otherFound
  exact otherAlive (Or.inl revoked)

/-! ## Sequences of requests -/

/-- Time does not go back. -/
theorem Server.step_now {server next : Server} {event : Event}
    (taken : Server.step compare configured akid server event = some next) :
    server.store.now ≤ next.store.now := by
  cases event with
  | store action =>
      simp only [Server.step] at taken
      split at taken
      · rcases Option.map_eq_some_iff.mp taken with ⟨store, moved, rfl⟩
        rcases step_eq moved with ⟨enabled, rfl⟩
        exact enabled.1
      · cases taken
  | policies enforcer =>
      cases taken
      exact le_refl _
  | request credential endpoint =>
      simp only [Server.step] at taken
      split at taken
      · cases taken
        exact le_refl _
      · cases taken

/-- An expired token is safe. -/
theorem safe_of_expired {server : Server} {token : Token}
    (past : token.expiresAt ≤ server.store.now) : server.Safe compare configured akid token := by
  intro events later run capability scope userID passed
  have order : token.expiresAt ≤ later.store.now :=
    @Transition.exec_invariant _ _ (Server.step compare configured akid)
      (fun server => token.expiresAt ≤ server.store.now)
      (fun state event next held taken => le_trans held (Server.step_now taken)) events _ _ past run
  unfold Server.pass authenticate at passed
  simp only [parseToken_of_expired order] at passed
  cases passed

/-- No call of the store makes a row without an ID. -/
theorem Action.named_rows {state : State} {action : Action} (enabled : action.Enabled state)
    (named : action.named = true)
    (all : forall id sa, state.accounts.get? id = some sa -> id ≠ "") :
    forall id sa, (action.rows state.accounts).get? id = some sa -> id ≠ "" := by
  have same : forall rows, rows = state.accounts ->
      forall id sa, rows.get? id = some sa -> id ≠ "" := by
    rintro rows rfl
    exact all
  have put : forall rows key row, rows = state.accounts.put key row -> key ≠ "" ->
      forall id sa, rows.get? id = some sa -> id ≠ "" := by
    rintro rows key row rfl kept id sa found
    by_cases own : id = key
    · rw [own]
      exact kept
    · rw [SortedStore.get?_put_of_ne _ _ own] at found
      exact all id sa found
  cases action with
  | tick now => exact all
  | create template io =>
      rcases create_cases state.accounts template io with ⟨_, _, kept⟩ | ⟨name, _, made⟩
      · exact same _ (kept enabled.2.1)
      · exact put _ _ _ (congrArg Prod.snd made) (bne_iff_ne.mp named)
  | update key patch io =>
      rcases update_cases state.accounts key patch io with
        ⟨_, _, kept⟩ | ⟨cur, name, found, _, _, made⟩
      · exact same _ kept
      · exact put _ _ _ (congrArg Prod.snd made) (all key cur found)
  | rotate key io =>
      rcases rotate_cases state.accounts key io with kept | ⟨cur, found, _, _, made⟩
      · exact same _ kept
      · exact put _ _ _ made (all key cur found)
  | delete key io =>
      rcases delete_cases state.accounts key io with kept | ⟨cur, found, _, made⟩
      · exact same _ kept
      · exact put _ _ _ made (all key cur found)

/-- As long as no token is asked for, there are no live ones. -/
theorem Server.Spent.step (server : Server) (event : Event) (next : Server) (spent : server.Spent)
    (quiet : asksForToken compare configured akid server event = false)
    (taken : Server.step compare configured akid server event = some next) : next.Spent := by
  have order := Server.step_now taken
  cases event with
  | store action =>
      simp only [Server.step] at taken
      split at taken
      · rename_i named
        rcases Option.map_eq_some_iff.mp taken with ⟨store, moved, rfl⟩
        refine ⟨State.Sound.step _ _ _ spent.sound moved, ?_, ?_⟩
        · rcases step_eq moved with ⟨enabled, rfl⟩
          exact Action.named_rows enabled named spent.named
        · intro token member
          exact le_trans (spent.expired token member) order
      · cases taken
  | policies enforcer =>
      cases taken
      exact ⟨spent.sound, spent.named, spent.expired⟩
  | request credential endpoint =>
      simp only [Server.step] at taken
      split at taken
      · rename_i presentable
        cases taken
        refine ⟨spent.sound, spent.named, ?_⟩
        intro token member
        rcases List.mem_append.mp member with old | new
        · exact spent.expired token old
        · have issued := Option.mem_toList.mp new
          have dead : ¬ token.live server.store.now = true := by
            intro live
            rw [(asksForToken_iff presentable).mpr ⟨token, issued, live⟩] at quiet
            cases quiet
          rcases issue_copies issued with ⟨claims, _, _, copies⟩
          rw [copies.live_iff, ← copies.expires] at dead
          exact not_lt.mp dead
      · cases taken

/-- Without live tokens a step is confined exactly if it asks for no token. -/
theorem Server.Spent.confined_iff {server : Server} (spent : server.Spent) (event : Event) :
    Confined compare configured akid server event ↔
      asksForToken compare configured akid server event = false := by
  cases event with
  | store action => exact iff_of_true trivial rfl
  | policies enforcer => exact iff_of_true trivial rfl
  | request credential endpoint =>
      by_cases presentable : credential.Presentable akid server.tokens
      · rw [← Bool.not_eq_true, asksForToken_iff presentable]
        constructor
        · rintro confined ⟨token, issued, live⟩
          rcases issue_copies issued with ⟨claims, known, owned, copies⟩
          rcases spent.authenticate presentable known with ⟨sa, found, alive, rfl⟩
          have safe := (confined presentable).2 token issued _ (if_pos presentable)
          refine @not_safe_of_live _ _ _ _ ?_ sa ?_ ?_ owned _ (sessionTTL configured) ?_ ?_ safe
          · exact spent.sound
          · exact found
          · exact alive
          · exact copies
          · exact live
        · intro quiet _
          refine ⟨?_, ?_⟩
          · intro capability scope userID _ passed
            exact spent.permits presentable passed
          · intro token issued next taken
            rcases issue_copies issued with ⟨claims, _, _, copies⟩
            have dead : ¬ token.live server.store.now = true :=
              fun live => quiet ⟨token, issued, live⟩
            rw [copies.live_iff, ← copies.expires] at dead
            exact safe_of_expired (le_trans (not_lt.mp dead) (Server.step_now taken))
      · refine iff_of_true (fun shown => absurd shown presentable) ?_
        simp [asksForToken, presentable]

/-- A sequence of requests stays within the account exactly if it never asks for a token. -/
theorem requests_confined_iff (compare : String -> String -> Bool) (configured : Int)
    (akid : String) (opened : Nat) (enforcer : Enforcer) (events : List Event) :
    Transition.Meets (Server.step compare configured akid) (Confined compare configured akid)
        (Server.start opened enforcer) events ↔
      Transition.Meets (Server.step compare configured akid)
        (fun server event => asksForToken compare configured akid server event = false)
        (Server.start opened enforcer) events :=
  Transition.meets_congr Server.Spent.step (fun _ event spent => spent.confined_iff event)
    (Server.start_spent opened enforcer)

/-! ## A session that outlives its account -/

def viewerIO : CallIO where
  uuid := "row-1"
  accessKeyID := "BMNT0123456789ABCDEF"
  secret := "s3cret"
  hash := "s3cret"
  now := 2

/-- An account of Alice's without capabilities; a request with its bearer key for the role that
everybody has. -/
def switchRole : List Event :=
  [.store (.create ⟨"alice", "ci-prod", [], [], none⟩ viewerIO),
    .request { bearer := some "BMNT0123456789ABCDEF:s3cret" }
      (.activeRole (some { kind := "user" }))]

/-- The session token of the answer. -/
def aliceToken : Token :=
  issueTokenWithActiveRole "alice" "service_account" false "user" 0 2 (sessionTTL 0)
    (some { kind := "user" })

/-- The account is deleted, and the token asks to see a bucket. -/
def reuse : Event := .request { cookie := some aliceToken } (.gated "bucket:view" "bucket:c1:data")

def deletedServer : Server :=
  (Transition.exec (Server.step plainCompare 0 "BMNT0123456789ABCDEF")
    (Server.start 0 (openTo "alice"))
    (switchRole ++ [.store (.delete "row-1" { now := 3 })])).getD (Server.start 0 (openTo "alice"))

/-- A session that a bearer key asked for runs as the owner after the account is deleted. -/
theorem session_outlives_account :
    ¬ forall (compare : String -> String -> Bool) (configured : Int) (akid : String) (opened : Nat)
      (enforcer : Enforcer) (events : List Event),
      Transition.Meets (Server.step compare configured akid) (Confined compare configured akid)
        (Server.start opened enforcer) events := by
  intro stated
  have run : Transition.exec (Server.step plainCompare 0 "BMNT0123456789ABCDEF")
      (Server.start 0 (openTo "alice")) (switchRole ++ [.store (.delete "row-1" { now := 3 })]) =
        some deletedServer := rfl
  have last := (Transition.meets_append _ [reuse]
    (stated plainCompare 0 "BMNT0123456789ABCDEF" 0 (openTo "alice") _) run).2.1
  have presentable : Credential.Presentable "BMNT0123456789ABCDEF" deletedServer.tokens
      { cookie := some aliceToken } := by
    constructor
    · intro token shown
      cases shown
      exact List.mem_singleton.mpr rfl
    · intro payload carried
      cases carried
  rcases (last presentable).1 "bucket:view" "bucket:c1:data" "alice" rfl rfl with
    ⟨sa, found, alive, _⟩
  have revoked : (findByAccessKey deletedServer.store.accounts "BMNT0123456789ABCDEF").map
      ServiceAccount.isRevoked = some true := rfl
  rw [found] at revoked
  exact alive (Or.inl (Option.some.inj revoked))

end ServiceAccounts
end Basement
