import Basement.Api.RegionTree
import Basement.ServiceAccounts.Sessions

namespace Basement
namespace ServiceAccounts

open Library Traced
open Api (Refusal Share UserShareCreateRequest UserRegion Credentials Connection scopeBucket demand
  demand_eq_ok bind_eq_ok hasConnectionAccess resolveField sampleURLs)
open Api.RegionTree (Effect DriverCall RegionRequest UserRegionCreateRequest BackendCall GatewayError
  OwnReach body serveRegion serveBackend userCreateRegion userBulkCreateRegions)

/-!
# What a bearer key reaches

The bearer key of a service account authenticates requests of the API and, as the user name and
the password of a Basic header, of the WebDAV gateway.  Which driver operations and store writes
such a request reaches is bounded here: what the account was given bounds the creation of a share,
while in the region tree and through the gateway the bound is the owner's own regions.

A handler behind the admin role is any computation.  A request of the gateway is any list of calls
of its backend, each of which goes on after an error.  The user routes for syncs, backups,
federations, webhooks and skins are not part of this module.
-/

/-! ## The API -/

/-- The region tree's deployment, the accounts, and the comparison of a secret with a hash. -/
structure Platform extends Api.RegionTree.Site where
  accounts : Accounts
  enforcer : Enforcer
  compare : String -> String -> Bool

/-- `RequireRole`. -/
def requireRole (role : String) (claims : Claims) : Except Refusal Unit :=
  demand (claims.role = role) ⟨403, "INSUFFICIENT_ROLE", "Insufficient permissions", []⟩

/-- A request of a route that a bearer key is accepted on. -/
inductive ApiRequest where
  | createShare (req : Option UserShareCreateRequest)
  | createRegion (req : Option UserRegionCreateRequest)
  | bulkCreateRegions (rows : Option (List UserRegionCreateRequest))
  | listRegions
  | region (regionID : String) (request : RegionRequest)
  | admin (handler : Claims -> Traced Effect Refusal Unit)

section

variable (platform : Platform)

/-- `handleBearer`, with the time of the last use that it writes. -/
def bearer (payload : String) : Traced Effect Refusal Claims := do
  let claims ← check (handleBearer platform.compare platform.accounts platform.now payload)
  let _ ← attempt (platform.reach (.touchServiceAccount claims.serviceAccountID))
  return claims

/-- `userCreateShareHandler`. -/
def userCreateShareAs (claims : Claims) (req : Option UserShareCreateRequest) :
    Traced Effect Refusal Unit := do
  let req ← check (body "INVALID_JSON" "Invalid request body" req)
  check (demand (req.keyPrefix != "" || req.key != "")
    ⟨400, "INVALID_REQUEST", "Either prefix or key must be specified", []⟩)
  check (demand (!(req.keyPrefix != "" && req.key != ""))
    ⟨400, "INVALID_REQUEST", "Cannot specify both prefix and key", []⟩)
  let connID ← check
    (resolveField platform.urls platform.ring claims.userID req.connectionID "connectionId")
  let _ ← check (requireCapability platform.enforcer platform.accounts (some claims) platform.now
    "objects:share_create" (scopeBucket connID req.bucketID))
  check (demand (platform.ring.connection connID).isSome
    ⟨404, "CLUSTER_NOT_FOUND", "Connection not found", []⟩)
  check (demand
    (hasConnectionAccess platform.urls platform.ring (claims.role = "admin") claims.userID connID)
    ⟨403, "FORBIDDEN", "User does not have access to this cluster", []⟩)
  platform.reach (.connection connID (.getBucket req.bucketID))
  check (demand (req.expiresAt.all fun expiry => platform.now ≤ expiry)
    ⟨400, "INVALID_REQUEST", "Expiration time must be in the future", []⟩)
  check (demand (req.downloadLimit.all fun limit => 1 ≤ limit)
    ⟨400, "INVALID_REQUEST", "Download limit must be at least 1", []⟩)
  platform.reach (.createShare {
    ownerUserID := claims.userID, connectionID := connID, bucketID := req.bucketID,
    keyPrefix := req.keyPrefix, key := req.key, expiresAt := req.expiresAt,
    downloadLimit := req.downloadLimit, downloadsUsed := 0, hasPassword := req.password != "",
    revoked := false })

/-- The handler of a request, behind the middleware of its group. -/
def handle (claims : Claims) : ApiRequest -> Traced Effect Refusal Unit
  | .createShare req => userCreateShareAs platform claims req
  | .createRegion req => userCreateRegion platform.toSite claims.userID req
  | .bulkCreateRegions rows => userBulkCreateRegions platform.toSite claims.userID rows
  | .listRegions => pure ()
  | .region regionID request => serveRegion platform.toSite claims.userID regionID request
  | .admin handler => do
      check (requireRole "admin" claims)
      handler claims

/-- A request with a bearer header. -/
def serveApi (payload : String) (request : ApiRequest) : Traced Effect Refusal Unit := do
  let claims ← bearer platform payload
  handle platform claims request

/-! ## The gateway -/

/-- The access key and the secret of `AuthBearer`. -/
def splitAccessKey (akidSecret : String) : Option (String × String) :=
  match akidSecret.toList.span (· != ':') with
  | ([], _) => none
  | (_, []) => none
  | (_, [_]) => none
  | (akid, _ :: secret) => some (String.ofList akid, String.ofList secret)

/-- The account that `ProductionBackend.AuthBearer` accepts. -/
def acceptBearer (akidSecret : String) : Except GatewayError ServiceAccount :=
  match splitAccessKey akidSecret with
  | none => .error .unauthenticated
  | some (akid, secret) =>
      match findByAccessKey platform.accounts akid with
      | none => .error .unauthenticated
      | some sa =>
          if sa.isRevoked ∨ sa.isExpired platform.now then .error .unauthenticated
          else if verifySecret platform.compare platform.accounts platform.now akid secret =
              .ok true then .ok sa
          else .error .unauthenticated

/-- `ProductionBackend.AuthBearer`. -/
def authBearer (akidSecret : String) : Traced Effect GatewayError ServiceAccount := do
  let sa ← check (acceptBearer platform akidSecret)
  let _ ← attempt (platform.reach (.touchServiceAccount sa.id))
  return sa

/-- A request whose Basic header is an access key and its secret. -/
def serveGateway (user pass : String) (calls : List BackendCall) :
    Traced Effect GatewayError Unit := do
  let sa ← authBearer platform (user ++ ":" ++ pass)
  each
    (fun call => do
      let _ ← attempt (serveBackend platform.toSite sa.ownerUserID call)
      pure ()) calls

end

/-- A request with a bearer key. -/
inductive BearerRequest where
  | api (payload : String) (request : ApiRequest)
  | gateway (user pass : String) (calls : List BackendCall)

/-- The access key that the request presents. -/
def BearerRequest.akid : BearerRequest -> Option String
  | .api payload _ => (splitBearerPayload payload).map Prod.fst
  | .gateway user pass _ => (splitAccessKey (user ++ ":" ++ pass)).map Prod.fst

/-- The driver operations and the store writes that the request reaches. -/
def Platform.effects (platform : Platform) : BearerRequest -> List Effect
  | .api payload request => (serveApi platform payload request).effects
  | .gateway user pass calls => (serveGateway platform user pass calls).effects

/-! ## The bound -/

/-- What a request of the account may reach: a share of a bucket that the account was given and
that its owner has access to, whatever stays within the owner's own regions, and the account's own
row. -/
inductive Bounded (platform : Platform) (sa : ServiceAccount) : Effect -> Prop
  | probe {connID bucketID : String}
      (allows : serviceAccountAllows sa "objects:share_create" (scopeBucket connID bucketID) = true)
      (access : hasConnectionAccess platform.urls platform.ring false sa.ownerUserID connID = true) :
      Bounded platform sa (.connection connID (.getBucket bucketID))
  | share {share : Share} (own : share.ownerUserID = sa.ownerUserID)
      (allows : serviceAccountAllows sa "objects:share_create"
        (scopeBucket share.connectionID share.bucketID) = true)
      (access : hasConnectionAccess platform.urls platform.ring false sa.ownerUserID
        share.connectionID = true) :
      Bounded platform sa (.createShare share)
  | own {effect : Effect} (reach : OwnReach platform.toSite sa.ownerUserID effect) :
      Bounded platform sa effect
  | touch : Bounded platform sa (.touchServiceAccount sa.id)

variable {platform : Platform} {sa : ServiceAccount}

theorem Only.of_own {Error Value : Type} {run : Traced Effect Error Value}
    (own : Only (OwnReach platform.toSite sa.ownerUserID) run) :
    Only (Bounded platform sa) run :=
  ⟨fun effect left => .own (own.allows effect left)⟩

theorem reach_bounded {effect : Effect} (bounded : Bounded platform sa effect) :
    Only (Bounded platform sa) (platform.reach effect) := Only.reach bounded _

theorem touched_bounded :
    Only (Bounded platform sa) (platform.reach (.touchServiceAccount sa.id)) :=
  reach_bounded .touch

/-! ## The store's rows -/

/-- A call of the store; the ID of a new row is not empty. -/
def namedStep (state : State) (action : Action) : Option State :=
  if action.named then step state action else none

/-- The rows are stored under their IDs, which are not empty. -/
structure Named (state : State) : Prop where
  sound : state.Sound
  named : forall id sa, state.accounts.get? id = some sa -> id ≠ ""

theorem Named.step (state : State) (action : Action) (next : State) (rows : Named state)
    (taken : namedStep state action = some next) : Named next := by
  unfold namedStep at taken
  split at taken
  · rename_i named
    refine ⟨State.Sound.step _ _ _ rows.sound taken, ?_⟩
    rcases step_eq taken with ⟨enabled, rfl⟩
    exact Action.named_rows enabled named rows.named
  · cases taken

theorem named_of_run {opened : Nat} {actions : List Action} {state : State}
    (stored : Transition.exec namedStep (start opened) actions = some state) : Named state := by
  refine Transition.exec_invariant Named.step ⟨start_sound opened, ?_⟩ stored
  intro id sa found
  cases found

/-! ## What the handlers reach -/

section

variable {akid : String} (found : findByAccessKey platform.accounts akid = some sa)

include found

/-- The gate of the share handler asks what the account was given. -/
theorem allows_of_requireCapability (rows : Named ⟨platform.accounts, platform.now⟩)
    {capability scope userID : String}
    (passed : requireCapability platform.enforcer platform.accounts (some sa.claims) platform.now
      capability scope = .ok userID) :
    serviceAccountAllows sa capability scope = true := by
  have stored := get?_of_findByAccessKey rows.sound.keyed found
  rcases requireCapability_ok passed with ⟨claims, same, _, _, ⟨session, _⟩ | ⟨other, row, allows⟩⟩
  · cases same
    exact absurd session (rows.named _ _ stored)
  · cases same
    cases row.symm.trans stored
    exact allows

theorem userCreateShareAs_bounded (rows : Named ⟨platform.accounts, platform.now⟩)
    (req : Option UserShareCreateRequest) :
    Only (Bounded platform sa) (userCreateShareAs platform sa.claims req) := by
  apply Only.check_bind
  intro req _
  apply Only.check_bind
  intro _ _
  apply Only.check_bind
  intro _ _
  apply Only.check_bind
  intro connID _
  apply Only.check_bind
  intro _ passed
  have allows := allows_of_requireCapability found rows passed
  apply Only.check_bind
  intro _ _
  apply Only.check_bind
  intro _ demanded
  -- the role of the claims is not the administrator's
  have access : hasConnectionAccess platform.urls platform.ring false sa.ownerUserID connID =
      true := demand_eq_ok.mp demanded
  apply Only.bind (reach_bounded (.probe allows access))
  intro _ _
  apply Only.check_bind
  intro _ _
  apply Only.check_bind
  intro _ _
  exact reach_bounded (.share rfl allows access)

theorem handle_bounded (rows : Named ⟨platform.accounts, platform.now⟩) (request : ApiRequest) :
    Only (Bounded platform sa) (handle platform sa.claims request) := by
  cases request with
  | createShare req => exact userCreateShareAs_bounded found rows req
  | createRegion req => exact Only.of_own (Api.RegionTree.userCreateRegion_own req)
  | bulkCreateRegions given => exact Only.of_own (Api.RegionTree.userBulkCreateRegions_own given)
  | listRegions => exact Only.pure ()
  | region regionID request => exact Only.of_own (Api.RegionTree.serveRegion_own request)
  | admin handler =>
      apply Only.check_bind
      intro _ passed
      -- the role of a service account's claims is refused before the handler runs
      have role : decide ("service_account" = "admin") = true := demand_eq_ok.mp passed
      cases role

/-- The middleware answers with the claims of the account whose access key is presented. -/
theorem bearer_claims {payload secret : String} {claims : Claims}
    (presented : splitBearerPayload payload = some (akid, secret))
    (accepted : handleBearer platform.compare platform.accounts platform.now payload = .ok claims) :
    claims = sa.claims := by
  rcases handleBearer_ok accepted with ⟨parts, parted, other, row, _, same⟩
  cases presented.symm.trans parted
  cases found.symm.trans row
  exact same

theorem bearer_bounded {payload secret : String}
    (presented : splitBearerPayload payload = some (akid, secret)) :
    Only (Bounded platform sa) (bearer platform payload) := by
  apply Only.check_bind
  intro claims accepted
  rw [bearer_claims found presented accepted]
  apply Only.bind (Only.attempt touched_bounded)
  intro _ _
  exact Only.pure _

theorem bearer_answer {payload secret : String} {claims : Claims}
    (presented : splitBearerPayload payload = some (akid, secret))
    (answered : (bearer platform payload).answer = .ok claims) : claims = sa.claims := by
  rcases answer_check_bind.mp answered with ⟨known, accepted, answered⟩
  rcases answer_bind.mp answered with ⟨_, _, answered⟩
  have same : known = claims := Except.ok.inj answered
  rw [← same]
  exact bearer_claims found presented accepted

theorem serveApi_bounded (rows : Named ⟨platform.accounts, platform.now⟩) {payload secret : String}
    (presented : splitBearerPayload payload = some (akid, secret)) (request : ApiRequest) :
    Only (Bounded platform sa) (serveApi platform payload request) := by
  apply Only.bind (bearer_bounded found presented)
  intro claims answered
  rw [bearer_answer found presented answered]
  exact handle_bounded found rows request

/-- The gateway accepts the account whose access key is presented. -/
theorem acceptBearer_ok {akidSecret secret : String} {other : ServiceAccount}
    (presented : splitAccessKey akidSecret = some (akid, secret))
    (accepted : acceptBearer platform akidSecret = .ok other) : other = sa := by
  unfold acceptBearer at accepted
  simp only [presented, found] at accepted
  split at accepted
  · cases accepted
  · split at accepted
    · exact (Except.ok.inj accepted).symm
    · cases accepted

theorem authBearer_bounded {akidSecret secret : String}
    (presented : splitAccessKey akidSecret = some (akid, secret)) :
    Only (Bounded platform sa) (authBearer platform akidSecret) := by
  apply Only.check_bind
  intro other accepted
  rw [acceptBearer_ok found presented accepted]
  apply Only.bind (Only.attempt touched_bounded)
  intro _ _
  exact Only.pure _

theorem authBearer_answer {akidSecret secret : String} {other : ServiceAccount}
    (presented : splitAccessKey akidSecret = some (akid, secret))
    (answered : (authBearer platform akidSecret).answer = .ok other) : other = sa := by
  rcases answer_check_bind.mp answered with ⟨known, accepted, answered⟩
  rcases answer_bind.mp answered with ⟨_, _, answered⟩
  have same : known = other := Except.ok.inj answered
  rw [← same]
  exact acceptBearer_ok found presented accepted

theorem serveGateway_bounded {user pass secret : String}
    (presented : splitAccessKey (user ++ ":" ++ pass) = some (akid, secret))
    (calls : List BackendCall) :
    Only (Bounded platform sa) (serveGateway platform user pass calls) := by
  apply Only.bind (authBearer_bounded found presented)
  intro other answered
  rw [authBearer_answer found presented answered]
  apply Only.each
  intro call _
  apply Only.bind (Only.attempt (Only.of_own (Api.RegionTree.serveBackend_own call)))
  intro _ _
  exact Only.pure ()

end

/-- An account of Alice's that was given nothing. -/
def powerless : List Action := [.create ⟨"alice", "ci-prod", [], [], none⟩ viewerIO]

def powerlessState : State := (Transition.exec namedStep (start 0) powerless).getD (start 0)

def powerlessRow : ServiceAccount where
  id := "row-1"
  ownerUserID := "alice"
  name := "ci-prod"
  accessKeyID := "BMNT0123456789ABCDEF"
  secretKeyHash := "s3cret"
  capabilities := []
  scopes := []
  createdAt := 2
  expiresAt := none
  lastUsedAt := none
  revokedAt := none

/-- A deployment with one region, of Alice's, whose driver answers every call. -/
def photosPlatform : Platform where
  urls := sampleURLs
  ring := ⟨[], SortedStore.empty.put "r1" ⟨"alice", "https://s3.local", "AK1", "sk1"⟩⟩
  conns := true
  now := powerlessState.now
  world := {
    builds := fun _ => .ok (), answer := fun _ => .ok (), buckets := fun _ => []
    versioningSupport := fun _ => true, objectLockSupport := fun _ => true
    sseSupport := fun _ => (true, true) }
  accounts := powerlessState.accounts
  enforcer := openTo "alice"
  compare := plainCompare

/-- The account's key asks the API to delete an object. -/
def deletePhoto : BearerRequest :=
  .api "BMNT0123456789ABCDEF:s3cret" (.region "r1" (.deleteObject "photos" "cat.jpg"))

theorem deletePhoto_reaches :
    .region "r1" ⟨"https://s3.local", "AK1", "sk1"⟩ (.deleteObject "photos" "cat.jpg") ∈
      photosPlatform.effects deletePhoto := by
  decide +kernel

end ServiceAccounts
end Basement
