import Basement.Api.Syncs
import Basement.Library.Transition
import Mathlib.Data.List.Infix

namespace Basement
namespace Api

open Library Drivers

/-!
# Shares, and the authority a user borrows

A share hands the objects of one bucket to anybody who knows its token.  Creating
one takes the capability `objects:share_create` on the bucket, which comes from a
role assignment, and sight of the connection.  What a share serves is signed with
the connection's key.

The second half puts the sync and the share requests of all users into one system
and asks when nothing a user reaches through it lies beyond the keys in their own
keychain.
-/

/-! ## Roles -/

structure RoleAssignment where
  userID : String
  roleID : String
  scope : String
  deriving DecidableEq, Repr

/-- The connections, the keychains, the S3 service and the roles of a deployment.
`covers` says whether an assignment's role exists, its scope matches and its
capabilities expand to the one asked for. -/
structure Deployment where
  urls : URLLibrary
  ring : Keyring
  service : Service
  isAdmin : String -> Bool
  assignments : List RoleAssignment
  covers : RoleAssignment -> String -> String -> Bool

/-- `fileEnforcer.Can`. -/
def Deployment.can (site : Deployment) (userID capability scope : String) : Bool :=
  userID != "" && capability != "" && scope != "" &&
    site.assignments.any fun assignment =>
      assignment.userID == userID && site.covers assignment capability scope

/-- `scopeBucket`. -/
def scopeBucket (connID bucketID : String) : String :=
  "bucket:" ++ connID ++ ":" ++ bucketID

/-! ## Share records -/

structure Share where
  ownerUserID : String
  connectionID : String
  bucketID : String
  keyPrefix : String
  key : String
  expiresAt : Option Int
  downloadLimit : Option Int
  downloadsUsed : Int
  hasPassword : Bool
  revoked : Bool
  deriving DecidableEq, Repr

structure UserShareCreateRequest where
  connectionID : String
  bucketID : String
  keyPrefix : String := ""
  key : String := ""
  expiresAt : Option Int := none
  downloadLimit : Option Int := none
  password : String := ""
  deriving DecidableEq, Repr

/-- `userCreateShareHandler`, up to the record it stores.  `probe` is the answer of
`Registry.For` and `GetBucket`. -/
def userCreateShare (site : Deployment) (userID : String) (now : Int)
    (probe : Except Refusal Unit) (req : UserShareCreateRequest) : Except Refusal Share := do
  demand (req.keyPrefix != "" || req.key != "")
    ⟨400, "INVALID_REQUEST", "Either prefix or key must be specified", []⟩
  demand (!(req.keyPrefix != "" && req.key != ""))
    ⟨400, "INVALID_REQUEST", "Cannot specify both prefix and key", []⟩
  let connID ← resolveField site.urls site.ring userID req.connectionID "connectionId"
  demand (site.can userID "objects:share_create" (scopeBucket connID req.bucketID))
    ⟨403, "FORBIDDEN", "Requires objects:share_create on " ++ scopeBucket connID req.bucketID, []⟩
  demand (site.ring.connection connID).isSome
    ⟨404, "CLUSTER_NOT_FOUND", "Connection not found", []⟩
  demand (hasConnectionAccess site.urls site.ring (site.isAdmin userID) userID connID)
    ⟨403, "FORBIDDEN", "User does not have access to this cluster", []⟩
  probe
  demand (req.expiresAt.all fun expiry => now ≤ expiry)
    ⟨400, "INVALID_REQUEST", "Expiration time must be in the future", []⟩
  demand (req.downloadLimit.all fun limit => 1 ≤ limit)
    ⟨400, "INVALID_REQUEST", "Download limit must be at least 1", []⟩
  return {
    ownerUserID := userID, connectionID := connID, bucketID := req.bucketID,
    keyPrefix := req.keyPrefix, key := req.key, expiresAt := req.expiresAt,
    downloadLimit := req.downloadLimit, downloadsUsed := 0, hasPassword := req.password != "",
    revoked := false }

/-! ## Serving a share -/

/-- The visitor of a share: the time, and whether their cookie proves the password. -/
structure Visitor where
  now : Int
  knowsPassword : Bool
  deriving DecidableEq, Repr

def Share.expired (share : Share) (now : Int) : Bool :=
  share.expiresAt.any fun expiry => expiry < now

def Share.usedUp (share : Share) : Bool :=
  share.downloadLimit.any fun limit => limit ≤ share.downloadsUsed

/-- The tests that the list and the get handler share. -/
def Share.admits (share : Share) (visitor : Visitor) : Bool :=
  !share.revoked && !share.expired visitor.now && (!share.hasPassword || visitor.knowsPassword) &&
    !share.usedUp

/-- Whether `cleanPath` changes a key. -/
def traverses (key : String) : Bool :=
  ["..", "%2e%2e", "%2E%2E", "%2e%2E", "%2E%2e"].any fun pattern =>
    decide (pattern.toList <:+: key.toList)

/-- The prefix a requested key has to lie under. -/
def Share.keyScope (share : Share) : String :=
  if share.keyPrefix.toList.getLast? = some '/' then share.keyPrefix else share.keyPrefix ++ "/"

/-- The key `shareGetHandler` presigns. -/
def Share.servedKey (share : Share) (asked : String) : Option String :=
  if share.key ≠ "" then some share.key
  else if asked = "" then none
  else if ¬ share.keyScope.toList.isPrefixOf asked.toList then none
  else if traverses asked then none
  else some asked

/-- The object behind a presigned URL, which the service serves to the key that
signed it. -/
def serveObject (site : Deployment) (contents : Contents) (side : Side) (bucket key : String) :
    List Touch :=
  if site.service.lets .read side.creds bucket ∧
      contents.objects (side.driver.at ⟨bucket, key⟩) ≠ none then
    [⟨.read, side.driver.at ⟨bucket, key⟩⟩]
  else []

/-- `shareGetHandler`, and the visitor following its redirect. -/
def shareGet (site : Deployment) (contents : Contents) (share : Share) (visitor : Visitor)
    (asked : String) : Option (Share × List Touch) :=
  if share.admits visitor then
    match share.servedKey asked, sideOf site.urls site.ring share.connectionID with
    | some key, some side =>
        some ({ share with downloadsUsed := share.downloadsUsed + 1 },
          serveObject site contents side share.bucketID key)
    | _, _ => none
  else none

/-- `shareListHandler`: the listed objects are those under the share's prefix. -/
def shareList (site : Deployment) (contents : Contents) (share : Share) (visitor : Visitor)
    (asked : String) : List Touch :=
  if share.admits visitor ∧ share.key = "" then
    match sideOf site.urls site.ring share.connectionID with
    | none => []
    | some side =>
        if site.service.lets .read side.creds share.bucketID then
          let full := share.keyPrefix ++ asked
          let full := if full.toList.getLast? ≠ some '/' ∧ asked ≠ "" then full ++ "/" else full
          ((contents.list side.creds.endpoint share.bucketID full).filter fun key =>
              share.keyPrefix.toList.isPrefixOf key.toList).map fun key =>
            ⟨.read, side.driver.at ⟨share.bucketID, key⟩⟩
        else []
  else []

/-! ## The system -/

/-- What was touched on behalf of a user. -/
structure OwnedTouch where
  userID : String
  touch : Touch
  deriving DecidableEq, Repr

structure JobServer where
  contents : Contents
  jobs : SortedStore String SyncJob
  shares : SortedStore String Share
  touches : List OwnedTouch

/-- The sync and share requests.  New IDs and tokens are random. -/
inductive JobRequest where
  | createSync (id userID : String) (req : UserSyncCreateRequest) (conditions : RunConditions)
  | resumeSync (userID id : String) (conditions : RunConditions)
  | deleteSync (userID id : String)
  | createShare (token userID : String) (now : Int) (probe : Except Refusal Unit)
      (req : UserShareCreateRequest)
  | revokeShare (userID token : String)
  | getShare (token : String) (visitor : Visitor) (asked : String)
  | listShare (token : String) (visitor : Visitor) (asked : String)

def owned (userID : String) (touches : List Touch) : List OwnedTouch :=
  touches.map (OwnedTouch.mk userID)

/-- Run a job with the drivers of its connections, and store how it ended. -/
def JobServer.run (site : Deployment) (server : JobServer) (id : String) (job : SyncJob)
    (conditions : RunConditions) : JobServer :=
  let result := startJob site.urls site.ring site.service server.contents job conditions
  { server with
    contents := result.1
    jobs := server.jobs.put id { job with state := result.2.2 }
    touches := server.touches ++ owned job.ownerUserID result.2.1 }

def jobStep (site : Deployment) (server : JobServer) : JobRequest -> Option JobServer
  | .createSync id userID req conditions =>
      if server.jobs.get? id ≠ none then none
      else
        match userCreateSync site.urls site.ring (site.isAdmin userID) userID req with
        | .error _ => some server
        | .ok job => some (server.run site id job conditions)
  | .resumeSync userID id conditions =>
      match server.jobs.get? id with
      | none => some server
      | some job =>
          if job.ownerUserID ≠ userID then some server
          else if sideOf site.urls site.ring job.srcConnectionID = none ∨
              sideOf site.urls site.ring job.dstConnectionID = none ∨ job.state ≠ .paused then
            some server
          else some (server.run site id job conditions)
  | .deleteSync userID id =>
      match server.jobs.get? id with
      | none => some server
      | some job =>
          if job.ownerUserID ≠ userID then some server
          else some { server with jobs := server.jobs.erase id }
  | .createShare token userID now probe req =>
      if server.shares.get? token ≠ none then none
      else
        match userCreateShare site userID now probe req with
        | .error _ => some server
        | .ok share => some { server with shares := server.shares.put token share }
  | .revokeShare userID token =>
      match server.shares.get? token with
      | none => some server
      | some share =>
          if share.revoked ∨ share.ownerUserID ≠ userID then some server
          else some { server with shares := server.shares.put token { share with revoked := true } }
  | .getShare token visitor asked =>
      match server.shares.get? token with
      | none => some server
      | some share =>
          match shareGet site server.contents share visitor asked with
          | none => some server
          | some served =>
              some { server with
                shares := server.shares.put token served.1
                touches := server.touches ++ owned share.ownerUserID served.2 }
  | .listShare token visitor asked =>
      match server.shares.get? token with
      | none => some server
      | some share =>
          let listed := shareList site server.contents share visitor asked
          some { server with touches := server.touches ++ owned share.ownerUserID listed }

/-! ## The user's own keys -/

/-- The service lets some key of the user's keychain do what was done. -/
def OwnKeysLet (site : Deployment) (userID : String) (right : Right) (endpoint bucket : String) :
    Prop :=
  Exists fun region => region ∈ site.ring.keychain userID ∧ region.endpoint = endpoint ∧
    site.service.lets right region.credentials bucket = true

/-- In every run from a server without jobs and shares, whatever the objects are,
all that is touched on the user's behalf is within the reach of their own keys. -/
def StaysWithinOwnKeys (site : Deployment) (userID : String) : Prop :=
  forall (contents : Contents) (requests : List JobRequest) (final : JobServer),
    Transition.exec (jobStep site) ⟨contents, SortedStore.empty, SortedStore.empty, []⟩ requests =
        some final ->
      forall touched, touched ∈ final.touches -> touched.userID = userID ->
        OwnKeysLet site userID touched.touch.right touched.touch.location.endpoint
          touched.touch.location.bucket

/-- The key of a connection that the user's requests can lead to. -/
def Bridged (site : Deployment) (userID : String) (creds : Credentials) : Prop :=
  Exists fun connID => CanName site.urls site.ring (site.isAdmin userID) userID connID ∧
    (sideOf site.urls site.ring connID).map Side.creds = some creds

/-- No bridged key opens a bucket that the user's own keys do not.  Writing takes a
bridged key that can read something. -/
structure BridgesNothingMore (site : Deployment) (userID : String) : Prop where
  reads : forall creds bucket, Bridged site userID creds ->
    site.service.lets .read creds bucket = true -> OwnKeysLet site userID .read creds.endpoint bucket
  writes : (Exists fun creds => Exists fun bucket => Bridged site userID creds ∧
      site.service.lets .read creds bucket = true) ->
    forall creds bucket, Bridged site userID creds ->
      site.service.lets .write creds bucket = true ->
        OwnKeysLet site userID .write creds.endpoint bucket

/-- The user holds no role that lets them share a bucket of a connection. -/
def HoldsNoShareRole (site : Deployment) (userID : String) : Prop :=
  forall assignment, assignment ∈ site.assignments -> assignment.userID = userID ->
    forall conn, conn ∈ site.ring.conns -> forall bucketID,
      site.covers assignment "objects:share_create" (scopeBucket conn.id bucketID) = false

/-- What holds of the server along every run, for one user. -/
structure JobInv (site : Deployment) (userID : String) (server : JobServer) : Prop where
  jobs : forall id job, server.jobs.get? id = some job -> job.ownerUserID = userID ->
    CanName site.urls site.ring (site.isAdmin userID) userID job.srcConnectionID ∧
    CanName site.urls site.ring (site.isAdmin userID) userID job.dstConnectionID
  shares : forall token share, server.shares.get? token = some share -> share.ownerUserID ≠ userID
  touches : forall touched, touched ∈ server.touches -> touched.userID = userID ->
    OwnKeysLet site userID touched.touch.right touched.touch.location.endpoint
      touched.touch.location.bucket

section Authority

variable {site : Deployment} {userID : String}

/-- A created share is the caller's, on a connection they hold the capability for. -/
theorem userCreateShare_ok {now : Int} {probe : Except Refusal Unit}
    {req : UserShareCreateRequest} {share : Share}
    (created : userCreateShare site userID now probe req = .ok share) :
    share.ownerUserID = userID ∧
      Exists fun connID =>
        site.can userID "objects:share_create" (scopeBucket connID req.bucketID) = true ∧
        (site.ring.connection connID).isSome = true := by
  simp only [userCreateShare, bind_eq_ok, demand_eq_ok, exists_and_left, exists_const] at created
  rcases created with ⟨_, _, connID, _, allowed, held, _, _, _, _, _, made⟩
  rw [← Except.ok.inj made]
  exact ⟨rfl, connID, allowed, held⟩

/-- Without a role, no share is created. -/
theorem userCreateShare_refuses {now : Int} {probe : Except Refusal Unit}
    {req : UserShareCreateRequest} {share : Share} (noRole : HoldsNoShareRole site userID)
    (created : userCreateShare site userID now probe req = .ok share) : False := by
  rcases userCreateShare_ok created with ⟨_, connID, allowed, held⟩
  rcases Option.isSome_iff_exists.mp held with ⟨conn, found⟩
  have member : conn ∈ site.ring.conns := List.mem_of_find?_eq_some found
  have same : conn.id = connID := by simpa using List.find?_some found
  simp only [Deployment.can, Bool.and_eq_true, List.any_eq_true, beq_iff_eq] at allowed
  rcases allowed.2 with ⟨assignment, listed, mine, covers⟩
  have refused := noRole assignment listed mine conn member req.bucketID
  rw [same, covers] at refused
  cases refused

/-- What a job touches is within the user's own keys when both its connections are
ones the user can name. -/
theorem startJob_within (covered : BridgesNothingMore site userID) {contents : Contents}
    {job : SyncJob} {conditions : RunConditions} {touch : Touch}
    (src : CanName site.urls site.ring (site.isAdmin userID) userID job.srcConnectionID)
    (dst : CanName site.urls site.ring (site.isAdmin userID) userID job.dstConnectionID)
    (member : touch ∈ (startJob site.urls site.ring site.service contents job conditions).2.1) :
    OwnKeysLet site userID touch.right touch.location.endpoint touch.location.bucket := by
  unfold startJob at member
  split at member
  · rename_i srcSide dstSide srcOpened dstOpened
    rcases runJob_lets member with ⟨side, readable⟩
    have srcBridged : Bridged site userID srcSide.creds := ⟨_, src, by simp [srcOpened]⟩
    have dstBridged : Bridged site userID dstSide.creds := ⟨_, dst, by simp [dstOpened]⟩
    have some_read : Exists fun creds => Exists fun bucket => Bridged site userID creds ∧
        site.service.lets .read creds bucket = true := ⟨_, _, srcBridged, readable⟩
    have within : forall creds : Credentials, Bridged site userID creds ->
        touch.location.endpoint = creds.endpoint ->
        site.service.lets touch.right creds touch.location.bucket = true ->
          OwnKeysLet site userID touch.right touch.location.endpoint touch.location.bucket := by
      intro creds bridged endpoint lets
      rw [endpoint]
      cases kind : touch.right with
      | read => exact covered.reads creds _ bridged (by rwa [kind] at lets)
      | write => exact covered.writes some_read creds _ bridged (by rwa [kind] at lets)
    rcases side with lets | lets
    · exact within _ srcBridged lets.1 lets.2
    · exact within _ dstBridged lets.1 lets.2
  · cases member

namespace JobInv

variable {server : JobServer}

/-- Touches on behalf of somebody else leave the invariant alone. -/
private theorem touches_append (inv : JobInv site userID server) {owner : String}
    {touches : List Touch}
    (within : owner = userID -> forall touch, touch ∈ touches ->
      OwnKeysLet site userID touch.right touch.location.endpoint touch.location.bucket) :
    forall touched, touched ∈ server.touches ++ owned owner touches -> touched.userID = userID ->
      OwnKeysLet site userID touched.touch.right touched.touch.location.endpoint
        touched.touch.location.bucket := by
  intro touched member mine
  rcases List.mem_append.mp member with before | added
  · exact inv.touches touched before mine
  · rcases List.mem_map.mp added with ⟨touch, listed, rfl⟩
    exact within mine touch listed

private theorem run (covered : BridgesNothingMore site userID) (inv : JobInv site userID server)
    {id : String} {job : SyncJob} {conditions : RunConditions}
    (names : job.ownerUserID = userID ->
      CanName site.urls site.ring (site.isAdmin userID) userID job.srcConnectionID ∧
      CanName site.urls site.ring (site.isAdmin userID) userID job.dstConnectionID) :
    JobInv site userID (server.run site id job conditions) where
  jobs := by
    intro other held found mine
    simp only [JobServer.run, SortedStore.get?_put] at found
    split at found
    · cases Option.some.inj found
      exact names mine
    · exact inv.jobs other held found mine
  shares := inv.shares
  touches := by
    apply inv.touches_append
    intro mine touch member
    exact startJob_within covered (names mine).1 (names mine).2 member

/-- A share of somebody else is stored. -/
private theorem putShare (inv : JobInv site userID server) (token : String) {share : Share}
    (touches : List Touch) (other : share.ownerUserID ≠ userID) :
    JobInv site userID { server with
      shares := server.shares.put token share
      touches := server.touches ++ owned share.ownerUserID touches } where
  jobs := inv.jobs
  shares := SortedStore.Every.put inv.shares other
  touches := inv.touches_append fun mine => absurd mine other

theorem step (noRole : HoldsNoShareRole site userID) (covered : BridgesNothingMore site userID)
    {next : JobServer} {request : JobRequest} (inv : JobInv site userID server)
    (taken : jobStep site server request = some next) : JobInv site userID next := by
  cases request with
  | createSync id caller req conditions =>
      simp only [jobStep] at taken
      split at taken
      · cases taken
      · split at taken
        · cases taken
          exact inv
        · rename_i job created
          cases taken
          rcases userCreateSync_eq_ok.mp created with
            ⟨_, src, dst, srcResolved, dstResolved, _, _, srcSeen, dstSeen, rfl⟩
          apply inv.run covered
          intro mine
          subst mine
          exact ⟨⟨srcSeen, _, srcResolved⟩, ⟨dstSeen, _, dstResolved⟩⟩
  | resumeSync caller id conditions =>
      simp only [jobStep] at taken
      split at taken
      · cases taken
        exact inv
      · rename_i job found
        split at taken
        · cases taken
          exact inv
        · split at taken
          · cases taken
            exact inv
          · cases taken
            exact inv.run covered (inv.jobs id job found)
  | deleteSync caller id =>
      simp only [jobStep] at taken
      split at taken
      · cases taken
        exact inv
      · split at taken
        · cases taken
          exact inv
        · cases taken
          exact ⟨SortedStore.Every.erase inv.jobs _, inv.shares, inv.touches⟩
  | createShare token caller now probe req =>
      simp only [jobStep] at taken
      split at taken
      · cases taken
      · split at taken
        · cases taken
          exact inv
        · rename_i share created
          cases taken
          have other : share.ownerUserID ≠ userID := by
            intro mine
            rw [(userCreateShare_ok created).1] at mine
            subst mine
            exact userCreateShare_refuses noRole created
          simpa [owned] using inv.putShare token [] other
  | revokeShare caller token =>
      simp only [jobStep] at taken
      split at taken
      · cases taken
        exact inv
      · rename_i share found
        split at taken
        · cases taken
          exact inv
        · cases taken
          have other : { share with revoked := true }.ownerUserID ≠ userID :=
            inv.shares token share found
          simpa [owned] using inv.putShare token [] other
  | getShare token visitor asked =>
      simp only [jobStep] at taken
      split at taken
      · cases taken
        exact inv
      · rename_i share found
        have other : share.ownerUserID ≠ userID := inv.shares token share found
        split at taken
        · cases taken
          exact inv
        · rename_i served given
          cases taken
          have same : served.1.ownerUserID = share.ownerUserID := by
            unfold shareGet at given
            split at given
            · split at given
              · rw [← Option.some.inj given]
              · cases given
            · cases given
          rw [← same] at other ⊢
          exact inv.putShare token _ other
  | listShare token visitor asked =>
      simp only [jobStep] at taken
      split at taken
      · cases taken
        exact inv
      · rename_i share found
        cases taken
        exact ⟨inv.jobs, inv.shares,
          inv.touches_append fun mine => absurd mine (inv.shares token share found)⟩

end JobInv

/-- What one sync of the user touches appears in the run of its request. -/
theorem StaysWithinOwnKeys.of_sync (stays : StaysWithinOwnKeys site userID) (contents : Contents)
    (conditions : RunConditions) (touch : Touch) {req : UserSyncCreateRequest} {job : SyncJob}
    (created : userCreateSync site.urls site.ring (site.isAdmin userID) userID req = .ok job)
    (mine : job.ownerUserID = userID)
    (member : touch ∈ (startJob site.urls site.ring site.service contents job conditions).2.1) :
    OwnKeysLet site userID touch.right touch.location.endpoint touch.location.bucket := by
  let before : JobServer := ⟨contents, SortedStore.empty, SortedStore.empty, []⟩
  have taken : Transition.exec (jobStep site) before [.createSync "job" userID req conditions] =
      some (before.run site "job" job conditions) := by
    refine Transition.exec_cons.mpr ⟨_, ?_, rfl⟩
    have unused : before.jobs.get? "job" = none := rfl
    simp only [jobStep, unused, created, ne_eq, not_true_eq_false, if_false]
  refine stays contents _ _ taken ⟨userID, touch⟩ ?_ rfl
  exact List.mem_map.mpr ⟨touch, member, by rw [mine]⟩

/-- A bridged key belongs to a connection that a sync request of the user reaches. -/
theorem Bridged.side {creds : Credentials} (bridged : Bridged site userID creds) :
    Exists fun raw => Exists fun connID => Exists fun side =>
      maybeResolveRegionField site.urls site.ring userID raw = .ok connID ∧
      connID ∈ userVisibleConnections site.urls site.ring (site.isAdmin userID) userID ∧
      (site.ring.connection connID).isSome = true ∧
      sideOf site.urls site.ring connID = some side ∧ side.creds = creds := by
  rcases bridged with ⟨connID, ⟨visible, raw, resolved⟩, opened⟩
  rcases Option.map_eq_some_iff.mp opened with ⟨side, found, same⟩
  refine ⟨raw, connID, side, resolved, visible, ?_, found, same⟩
  unfold sideOf at found
  cases held : site.ring.connection connID with
  | none => simp [held] at found
  | some conn => rfl

/-- One object, under a key below the prefix `p/`. -/
private def onlyObject (endpoint bucket : String) : Contents where
  objects location := if location = ⟨endpoint, bucket, "p/k"⟩ then some ⟨[], ""⟩ else none
  keys := ["p/k"]

private theorem onlyObject_list (endpoint bucket : String) {keyPrefix : String}
    (matching : keyPrefix.toList.isPrefixOf "p/k".toList = true) :
    (onlyObject endpoint bucket).list endpoint bucket keyPrefix = ["p/k"] := by
  simp only [Contents.list, onlyObject, List.filter_cons, List.filter_nil, matching, if_true,
    Option.isSome_some, Bool.and_self]

/-- A user syncs a bucket onto itself: the plan looks at the object. -/
theorem StaysWithinOwnKeys.reads (stays : StaysWithinOwnKeys site userID) {creds : Credentials}
    {bucket : String} (bridged : Bridged site userID creds)
    (readable : site.service.lets .read creds bucket = true) :
    OwnKeysLet site userID .read creds.endpoint bucket := by
  rcases bridged.side with ⟨raw, connID, side, resolved, visible, held, opened, rfl⟩
  have created := userCreateSync_pull bucket "" bucket resolved resolved held held visible visible
  refine stays.of_sync (onlyObject side.creds.endpoint bucket) ⟨fun _ => {}, 0⟩
    ⟨.read, side.driver.at ⟨bucket, "p/k"⟩⟩ created rfl ?_
  simp only [startJob, opened]
  have listed := onlyObject_list side.creds.endpoint bucket
    (show (planPrefix "").toList.isPrefixOf "p/k".toList = true by decide)
  apply runJob_looks _ readable (by rw [listed]; exact List.mem_cons_self)
  have same : planDstKey "" "" "p/k" = "p/k" := rfl
  simp [statObject, readable, same, onlyObject, Side.driver, Driver.at]

/-- With a bucket to read, a user writes into any bucket a bridged key opens. -/
theorem StaysWithinOwnKeys.writes (stays : StaysWithinOwnKeys site userID)
    {srcCreds dstCreds : Credentials} {srcBucket dstBucket : String}
    (srcBridged : Bridged site userID srcCreds) (dstBridged : Bridged site userID dstCreds)
    (readable : site.service.lets .read srcCreds srcBucket = true)
    (writable : site.service.lets .write dstCreds dstBucket = true) :
    OwnKeysLet site userID .write dstCreds.endpoint dstBucket := by
  rcases srcBridged.side with ⟨srcRaw, srcID, src, srcResolved, srcVisible, srcHeld, srcOpened, rfl⟩
  rcases dstBridged.side with ⟨dstRaw, dstID, dst, dstResolved, dstVisible, dstHeld, dstOpened, rfl⟩
  have created := userCreateSync_pull srcBucket "p" dstBucket srcResolved dstResolved srcHeld
    dstHeld srcVisible dstVisible
  refine stays.of_sync (onlyObject src.creds.endpoint srcBucket)
    ⟨fun _ => {}, 1⟩ ⟨.write, dst.driver.at ⟨dstBucket, "k"⟩⟩
    created rfl ?_
  simp only [startJob, srcOpened, dstOpened]
  have listed := onlyObject_list src.creds.endpoint srcBucket
    (show (planPrefix "p").toList.isPrefixOf "p/k".toList = true by decide)
  have same : planDstKey "p" "" "p/k" = "k" := by decide
  refine runJob_copies readable listed ?_ (Nat.zero_lt_one) ?_
  · simp [statObject, same, onlyObject, Driver.at]
  · have present : (onlyObject src.creds.endpoint srcBucket).objects
        (src.driver.at ⟨srcBucket, "p/k"⟩) = some ⟨[], ""⟩ := by
      simp [onlyObject, Side.driver, Driver.at]
    rw [same]
    exact copyTouches_write rfl rfl (unlessDenied_eq_none.mpr ⟨readable, rfl⟩)
      (unlessDenied_eq_none.mpr ⟨writable, rfl⟩) (by simp [present])

end Authority

/-- Bridged authority stays within the user's own keys, for a user without a role on
a connection, exactly when no connection their requests can lead to has a key that
opens more than theirs. -/
theorem bridged_authority_iff (site : Deployment) (userID : String)
    (noRole : HoldsNoShareRole site userID) :
    StaysWithinOwnKeys site userID ↔ BridgesNothingMore site userID := by
  constructor
  · intro stays
    refine ⟨fun creds bucket => stays.reads, ?_⟩
    rintro ⟨srcCreds, srcBucket, srcBridged, readable⟩ creds bucket bridged writable
    exact stays.writes srcBridged bridged readable writable
  · intro covered contents requests final run touched member mine
    have initially : JobInv site userID ⟨contents, SortedStore.empty, SortedStore.empty, []⟩ := by
      refine ⟨?_, ?_, ?_⟩
      · intro id job found
        cases found
      · intro token share found
        cases found
      · intro other absent
        cases absent
    have held := Transition.exec_invariant
      (fun _ _ _ inv taken => JobInv.step noRole covered inv taken) initially run
    exact held.touches touched member mine

/-- One connection of the administrator, whose key is the only one the service
knows. -/
def sampleService (users : List (String × String)) : Service where
  secretOf _ accessKey := (("ADMIN", "admin-secret") :: users).lookup accessKey
  may _ _ _ _ := true
  etag _ := "etag"

/-- The user `eve` has one region at the connection's endpoint. -/
def sampleDeployment (users : List (String × String)) : Deployment where
  urls := sampleURLs
  ring := ⟨[⟨"c1", .awsS3, "", "https://s3.local:443", "ADMIN", "admin-secret", "org"⟩],
    SortedStore.empty.put "r1" ⟨"eve", "https://s3.local", "GK1", "guess"⟩⟩
  service := sampleService users
  isAdmin _ := false
  assignments := []
  covers _ _ _ := false

def samplePhotos : Contents where
  objects location :=
    if location = ⟨"https://s3.local", "photos", "cat"⟩ then some ⟨[1, 2], "image/png"⟩ else none
  keys := ["cat"]

/-- `eve` syncs one bucket into another through her region. -/
def syncPhotos : List JobRequest :=
  [.createSync "job" "eve" ⟨"pull", "r1", "photos", "", "r1", "copies", ""⟩ ⟨fun _ => {}, 1⟩]

/-- With the secret the service knows, the region opens what the connection opens. -/
theorem bridged_authority_iff_known_secret :
    HoldsNoShareRole (sampleDeployment [("GK1", "guess")]) "eve" ∧
      (StaysWithinOwnKeys (sampleDeployment [("GK1", "guess")]) "eve" ↔
        BridgesNothingMore (sampleDeployment [("GK1", "guess")]) "eve") := by
  have noRole : HoldsNoShareRole (sampleDeployment [("GK1", "guess")]) "eve" := by
    intro assignment listed
    cases listed
  exact ⟨noRole, bridged_authority_iff _ "eve" noRole⟩

/-- A region with a made-up key reads and writes through the administrator's. -/
theorem made_up_key_borrows_admin_key :
    HoldsNoShareRole (sampleDeployment []) "eve" ∧
      (forall region, region ∈ (sampleDeployment []).ring.keychain "eve" -> forall right bucket,
        (sampleDeployment []).service.lets right region.credentials bucket = false) ∧
      ¬ StaysWithinOwnKeys (sampleDeployment []) "eve" := by
  have known : forall region, region ∈ (sampleDeployment []).ring.keychain "eve" ->
      forall right bucket,
        (sampleDeployment []).service.lets right region.credentials bucket = false := by
    intro region member right bucket
    have only : (sampleDeployment []).ring.keychain "eve" =
        [⟨"eve", "https://s3.local", "GK1", "guess"⟩] := rfl
    rw [only] at member
    cases List.mem_singleton.mp member
    rfl
  refine ⟨?_, known, ?_⟩
  · intro assignment listed
    cases listed
  · intro stays
    rcases stays samplePhotos syncPhotos _ rfl _ List.mem_cons_self rfl with
      ⟨region, member, _, lets⟩
    rw [known region member] at lets
    cases lets

end Api
end Basement
