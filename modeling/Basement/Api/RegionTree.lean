import Basement.Api.BucketListing
import Basement.Api.Shares
import Basement.Library.Traces

namespace Basement
namespace Api
namespace RegionTree

open Library Traced

/-!
# What the region tree and the gateway reach

Every handler under `/user/regions` and every call of the gateway's backend looks up a region of
the caller and then calls the region's driver.  Here each is a computation that leaves its driver
calls and its store writes as effects, in the order of the source; the answers of the drivers and
the stores are the environment.  The stores and the driver registry are wired.

The bodies and the query come parsed, with `none` for a body that is not JSON.  Audit records,
caches and response bodies are left out.
-/

/-! ## Effects -/

structure ObjectLockRetention where
  mode : String
  retainUntilDate : Int
  deriving DecidableEq, Repr

structure BucketEncryption where
  algorithm : String
  kmsKeyID : String := ""
  bucketKey : Bool := false
  deriving DecidableEq, Repr

/-- A call of the `Driver` interface. -/
inductive DriverCall where
  | listBuckets
  | getBucket (bucket : String)
  | createBucket (bucket : String)
  | deleteBucket (bucket : String)
  | listObjects (bucket keyPrefix token delimiter : String) (limit : Int)
  | statObject (bucket key : String)
  | streamObject (bucket key : String)
  | putObjectStream (bucket key contentType : String) (size : Int)
  | deleteObject (bucket key : String)
  | serverSideCopy (srcBucket srcKey dstBucket dstKey : String)
  | presignGet (bucket key : String) (ttl : Int)
  | presignPut (bucket key : String) (ttl : Int) (contentType : String)
  | createMultipart (bucket key contentType : String)
  | completeMultipart (bucket uploadID : String) (parts : List (Int × String))
  | abortMultipart (bucket key uploadID : String)
  | presignUploadPart (bucket uploadID : String) (partNum : Int)
  | getVersioningStatus (bucket : String)
  | enableVersioning (bucket : String)
  | suspendVersioning (bucket : String)
  | listObjectVersions (bucket key marker : String) (limit : Int)
  | getObjectVersion (bucket key versionID : String)
  | deleteObjectVersion (bucket key versionID : String)
  | getObjectLockConfig (bucket : String)
  | putObjectLockConfig (bucket : String) (defaultRetention : Option ObjectLockRetention)
  | getObjectRetention (bucket key versionID : String)
  | putObjectRetention (bucket key versionID : String) (retention : ObjectLockRetention)
      (bypassGovernance : Bool)
  | getObjectLegalHold (bucket key versionID : String)
  | putObjectLegalHold (bucket key versionID : String) (on : Bool)
  | getBucketEncryption (bucket : String)
  | putBucketEncryption (bucket : String) (encryption : BucketEncryption)
  | deleteBucketEncryption (bucket : String)
  deriving DecidableEq, Repr

/-- A driver operation or a store write. -/
inductive Effect where
  | region (regionID : String) (signedWith : Credentials) (call : DriverCall)
  | connection (connID : String) (call : DriverCall)
  | createShare (share : Share)
  | createRegion (region : UserRegion) (aliasName : String)
  | updateRegion (regionID accessKeyID secretKey : String)
  | deleteRegion (regionID : String)
  | touchRegion (regionID : String)
  | touchServiceAccount (id : String)
  deriving DecidableEq, Repr

/-- What the drivers and the stores answer, an error as the response it is turned into. -/
structure World where
  /-- `Decrypt` and `ForUserRegion`. -/
  builds : Credentials -> Except String Unit
  answer : Effect -> Except Refusal Unit
  /-- The buckets that a connection's driver lists. -/
  buckets : String -> List BucketListing.Bucket
  versioningSupport : Credentials -> Bool
  objectLockSupport : Credentials -> Bool
  /-- SSE-S3 and SSE-KMS. -/
  sseSupport : Credentials -> Bool × Bool

structure Site where
  urls : URLLibrary
  ring : Keyring
  /-- The connections can be listed. -/
  conns : Bool
  now : Int
  world : World

/-- The connection that both bridges pick for a region. -/
def Site.bridge (site : Site) (region : UserRegion) : Option Connection :=
  if site.conns then BucketListing.bridgeConnection site.urls site.ring.conns region.endpoint
  else none

/-- Reach something of the environment. -/
def Site.reach (site : Site) (effect : Effect) : Traced Effect Refusal Unit :=
  Traced.reach effect (site.world.answer effect)

/-- A step of a handler that has its region's driver; the answer of a glance is not needed. -/
inductive DriverStep where
  | need (answer : Except Refusal Unit)
  | call (call : DriverCall)
  | glance (call : DriverCall)

/-- The steps one after the other, until one is refused. -/
def Site.runSteps (site : Site) (regionID : String) (signedWith : Credentials) :
    List DriverStep -> Traced Effect Refusal Unit
  | [] => pure ()
  | .need answer :: rest => do
      check answer
      site.runSteps regionID signedWith rest
  | .call call :: rest => do
      site.reach (.region regionID signedWith call)
      site.runSteps regionID signedWith rest
  | .glance call :: rest => do
      let _ ← attempt (site.reach (.region regionID signedWith call))
      site.runSteps regionID signedWith rest

/-! ## The handlers of the region tree -/

section

variable (site : Site) (userID regionID : String)

/-- `requireOwnedRegion`. -/
def requireOwnedRegion : Except Refusal UserRegion := do
  demand (userID != "") ⟨401, "UNAUTHORIZED", "No active session", []⟩
  demand (regionID != "") ⟨400, "INVALID_REQUEST", "regionId is required", []⟩
  (site.ring.ownedRegion userID regionID).elim
    (.error ⟨404, "REGION_NOT_FOUND", "Region not found", []⟩) .ok

/-- `regionDriver`, with what a handler says before the error. -/
def regionDriver (said : String) (region : UserRegion) : Except Refusal Unit :=
  (site.world.builds region.credentials).mapError fun error =>
    ⟨500, "REGION_DRIVER_FAILED", said ++ error, []⟩

/-- A handler of the tree: the caller's region, the checks of the request, the region's driver,
and the steps with it. -/
def onRegion (checks : Except Refusal Unit) (steps : Credentials -> List DriverStep)
    (said : String) : Traced Effect Refusal Unit := do
  let region ← check (requireOwnedRegion site userID regionID)
  check checks
  check (regionDriver site said region)
  site.runSteps regionID region.credentials (steps region.credentials)

/-- The parameters of the path are there. -/
def required (message : String) (parameters : List String) : Except Refusal Unit :=
  demand (!parameters.contains "") ⟨400, "INVALID_REQUEST", message, []⟩

/-- A JSON body. -/
def body {Body : Type} (code message : String) (given : Option Body) : Except Refusal Body :=
  given.elim (.error ⟨400, code, message, []⟩) .ok

/-- The driver supports what the handler is about. -/
def supported (holds : Bool) (message capability : String) : DriverStep :=
  .need (demand holds ⟨501, "NOT_SUPPORTED", message, [("capability", capability)]⟩)

/-- A page size of the query, which is 100 unless it is a positive number. -/
def pageLimit (limit : Option Int) : Int := (limit.filter fun n => 0 < n).getD 100

/-- `presignTTL`, in seconds. -/
def presignTTL (ttl : Option Int) : Int := min ((ttl.filter fun n => 0 < n).getD 3600) 86400

/-- `userListRegionBucketObjectsHandler`. -/
def userListRegionBucketObjects (bid keyPrefix token : String) (delimiter : Option String)
    (limit : Option Int) : Traced Effect Refusal Unit :=
  onRegion site userID regionID (required "bucket id required" [bid])
    (fun _ => [.call (.listObjects bid keyPrefix token (delimiter.getD "/") (pageLimit limit))])
    "Failed to build region driver: "

/-- `userPresignGetRegionObjectHandler`. -/
def userPresignGetRegionObject (bid key : String) (ttl : Option Int) :
    Traced Effect Refusal Unit :=
  onRegion site userID regionID (required "bucket id and key required" [bid, key])
    (fun _ => [.call (.presignGet bid key (presignTTL ttl))]) ""

/-- `userPresignPutRegionObjectHandler`. -/
def userPresignPutRegionObject (bid key contentType : String) (ttl : Option Int) :
    Traced Effect Refusal Unit :=
  onRegion site userID regionID (required "bucket id and key required" [bid, key])
    (fun _ => [.call (.presignPut bid key (presignTTL ttl) contentType)]) ""

/-- `userInitRegionMultipartHandler`; the body has the key and the content type. -/
def userInitRegionMultipart (bid : String) (req : Option (String × String)) :
    Traced Effect Refusal Unit :=
  onRegion site userID regionID
    (do
      required "bucket id required" [bid]
      let req ← body "INVALID_REQUEST" "invalid request body" req
      required "key required in request body" [req.1])
    (fun _ => req.toList.map fun req => .call (.createMultipart bid req.1 req.2)) ""

/-- `userCompleteRegionMultipartHandler`. -/
def userCompleteRegionMultipart (bid uploadID : String) (parts : Option (List (Int × String))) :
    Traced Effect Refusal Unit :=
  onRegion site userID regionID
    (do
      required "bucket id and uploadId required" [bid, uploadID]
      let parts ← body "INVALID_REQUEST" "invalid request body" parts
      demand (parts.all fun part => 1 ≤ part.1 && part.1 ≤ 10000)
        ⟨400, "INVALID_REQUEST", "part number must be between 1 and 10000", []⟩)
    (fun _ => parts.toList.map fun parts => .call (.completeMultipart bid uploadID parts)) ""

/-- `userAbortRegionMultipartHandler`; the key is the one of the query or of the body. -/
def userAbortRegionMultipart (bid uploadID key : String) : Traced Effect Refusal Unit :=
  onRegion site userID regionID
    (do
      required "bucket id and uploadId required" [bid, uploadID]
      required "object key required (pass as ?key=<encoded> query param)" [key])
    (fun _ => [.call (.abortMultipart bid key uploadID)]) ""

/-- `userPresignRegionUploadPartHandler`; `partNum` is `none` when `Atoi` fails. -/
def userPresignRegionUploadPart (bid uploadID partNumStr : String) (partNum : Option Int) :
    Traced Effect Refusal Unit :=
  onRegion site userID regionID
    (do
      required "bucket id, uploadId, and partNum required" [bid, uploadID, partNumStr]
      demand (partNum.any fun n => 1 ≤ n && n ≤ 10000)
        ⟨400, "INVALID_REQUEST", "part number must be between 1 and 10000", []⟩)
    (fun _ => partNum.toList.map fun n => .call (.presignUploadPart bid uploadID n)) ""

/-- `userDeleteRegionObjectHandler`. -/
def userDeleteRegionObject (bid key : String) : Traced Effect Refusal Unit :=
  onRegion site userID regionID (required "bucket id and key required" [bid, key])
    (fun _ => [.call (.deleteObject bid key)]) ""

/-! ### Versions -/

/-- `userGetBucketVersioningHandler`. -/
def userGetBucketVersioning (bid : String) : Traced Effect Refusal Unit :=
  onRegion site userID regionID (required "bucket id required" [bid])
    (fun creds =>
      if site.world.versioningSupport creds then [.call (.getVersioningStatus bid)] else [])
    ""

/-- `userPutBucketVersioningHandler`. -/
def userPutBucketVersioning (bid : String) (status : Option String) :
    Traced Effect Refusal Unit :=
  onRegion site userID regionID
    (do
      required "bucket id required" [bid]
      let status ← body "INVALID_JSON" "invalid request body" status
      demand (status = "enabled" || status = "suspended")
        ⟨400, "INVALID_REQUEST", "status must be \"enabled\" or \"suspended\"", []⟩)
    (fun creds =>
      [supported (site.world.versioningSupport creds)
          "This backend driver does not support bucket versioning." "versioning",
        .call (if status = some "enabled" then .enableVersioning bid else .suspendVersioning bid)])
    ""

/-- What the handlers for versions say of a driver without them. -/
def versions (creds : Credentials) : DriverStep :=
  supported (site.world.versioningSupport creds)
    "This backend driver does not support object versioning." "versioning"

/-- `userListObjectVersionsHandler`. -/
def userListObjectVersions (bid key marker : String) (limit : Option Int) :
    Traced Effect Refusal Unit :=
  onRegion site userID regionID (required "bucket id and key required" [bid, key])
    (fun creds =>
      [versions site creds, .call (.listObjectVersions bid key marker (pageLimit limit))])
    ""

/-- `userGetObjectVersionHandler`. -/
def userGetObjectVersion (bid key versionID : String) : Traced Effect Refusal Unit :=
  onRegion site userID regionID
    (required "bucket id, key, and versionId required" [bid, key, versionID])
    (fun creds => [versions site creds, .call (.getObjectVersion bid key versionID)]) ""

/-- `userDeleteObjectVersionHandler`. -/
def userDeleteObjectVersion (bid key versionID : String) : Traced Effect Refusal Unit :=
  onRegion site userID regionID
    (required "bucket id, key, and versionId required" [bid, key, versionID])
    (fun creds => [versions site creds, .call (.deleteObjectVersion bid key versionID)]) ""

/-! ### Object Lock -/

/-- What the handlers for Object Lock say of a driver without it. -/
def objectLock (creds : Credentials) : DriverStep :=
  supported (site.world.objectLockSupport creds)
    "This backend driver does not support Object Lock." "objectLock"

/-- The checks of a retention; the messages name the field it is in. -/
def checkRetention (field : String) (now : Int) (retention : ObjectLockRetention) :
    Except Refusal Unit := do
  demand (retention.mode = "GOVERNANCE" || retention.mode = "COMPLIANCE")
    ⟨400, "INVALID_REQUEST", field ++ "mode must be \"GOVERNANCE\" or \"COMPLIANCE\"", []⟩
  demand (retention.retainUntilDate != 0)
    ⟨400, "INVALID_REQUEST", field ++ "retainUntilDate required", []⟩
  demand (now ≤ retention.retainUntilDate)
    ⟨400, "INVALID_REQUEST", field ++ "retainUntilDate must be in the future", []⟩

/-- `userGetBucketObjectLockHandler`. -/
def userGetBucketObjectLock (bid : String) : Traced Effect Refusal Unit :=
  onRegion site userID regionID (required "bucket id required" [bid])
    (fun creds =>
      if site.world.objectLockSupport creds then [.call (.getObjectLockConfig bid)] else [])
    ""

/-- `userPutBucketObjectLockHandler`; the body has `enabled` and the default retention. -/
def userPutBucketObjectLock (bid : String) (req : Option (Bool × Option ObjectLockRetention)) :
    Traced Effect Refusal Unit :=
  onRegion site userID regionID
    (do
      required "bucket id required" [bid]
      let req ← body "INVALID_JSON" "invalid request body" req
      demand req.1
        ⟨400, "INVALID_REQUEST", "Object Lock cannot be disabled once enabled on a bucket", []⟩
      req.2.elim (pure ()) (checkRetention "defaultRetention." site.now))
    (fun creds => objectLock site creds ::
      req.toList.map fun req => .call (.putObjectLockConfig bid req.2))
    ""

/-- `userGetObjectRetentionHandler`. -/
def userGetObjectRetention (bid key versionID : String) : Traced Effect Refusal Unit :=
  onRegion site userID regionID
    (required "bucket id, key, and versionId required" [bid, key, versionID])
    (fun creds => [objectLock site creds, .call (.getObjectRetention bid key versionID)]) ""

/-- `userPutObjectRetentionHandler`. -/
def userPutObjectRetention (bid key versionID : String) (bypassGovernance : Bool)
    (ret : Option ObjectLockRetention) : Traced Effect Refusal Unit :=
  onRegion site userID regionID
    (do
      required "bucket id, key, and versionId required" [bid, key, versionID]
      let ret ← body "INVALID_JSON" "invalid request body" ret
      checkRetention "" site.now ret)
    (fun creds => objectLock site creds :: .glance (.getObjectRetention bid key versionID) ::
      ret.toList.map fun ret =>
        .call (.putObjectRetention bid key versionID ret bypassGovernance))
    ""

/-- `userGetObjectLegalHoldHandler`. -/
def userGetObjectLegalHold (bid key versionID : String) : Traced Effect Refusal Unit :=
  onRegion site userID regionID
    (required "bucket id, key, and versionId required" [bid, key, versionID])
    (fun creds => [objectLock site creds, .call (.getObjectLegalHold bid key versionID)]) ""

/-- `userPutObjectLegalHoldHandler`. -/
def userPutObjectLegalHold (bid key versionID : String) (on : Option Bool) :
    Traced Effect Refusal Unit :=
  onRegion site userID regionID
    (do
      required "bucket id, key, and versionId required" [bid, key, versionID]
      let _ ← body "INVALID_JSON" "invalid request body" on)
    (fun creds => objectLock site creds :: .glance (.getObjectLegalHold bid key versionID) ::
      on.toList.map fun on => .call (.putObjectLegalHold bid key versionID on))
    ""

/-! ### Encryption -/

/-- Neither kind of encryption is supported. -/
def withoutEncryption (creds : Credentials) : Bool :=
  !(site.world.sseSupport creds).1 && !(site.world.sseSupport creds).2

/-- What the handlers that change the encryption say of a driver without any. -/
def encryption (creds : Credentials) : DriverStep :=
  supported (!withoutEncryption site creds)
    "This backend driver does not support server-side encryption." "sse"

/-- `userGetBucketEncryptionHandler`. -/
def userGetBucketEncryption (bid : String) : Traced Effect Refusal Unit :=
  onRegion site userID regionID (required "bucket id required" [bid])
    (fun creds => if withoutEncryption site creds then [] else [.call (.getBucketEncryption bid)])
    ""

/-- `userPutBucketEncryptionHandler`. -/
def userPutBucketEncryption (bid : String) (req : Option BucketEncryption) :
    Traced Effect Refusal Unit :=
  onRegion site userID regionID
    (do
      required "bucket id required" [bid]
      let req ← body "INVALID_JSON" "invalid request body" req
      demand (req.algorithm = "AES256" || req.algorithm = "aws:kms")
        ⟨400, "INVALID_REQUEST", "algorithm must be \"AES256\" or \"aws:kms\"", []⟩
      demand (!(req.algorithm = "aws:kms" && req.kmsKeyID = ""))
        ⟨400, "INVALID_REQUEST", "kmsKeyId required when algorithm is aws:kms", []⟩)
    (fun creds => encryption site creds :: req.toList.flatMap fun req =>
      [supported (!(req.algorithm = "AES256" && !(site.world.sseSupport creds).1))
          "This backend driver does not support SSE-S3 (AES256)." "sseS3",
        supported (!(req.algorithm = "aws:kms" && !(site.world.sseSupport creds).2))
          "This backend driver does not support SSE-KMS." "sseKms",
        .glance (.getBucketEncryption bid), .call (.putBucketEncryption bid req)])
    ""

/-- `userDeleteBucketEncryptionHandler`. -/
def userDeleteBucketEncryption (bid : String) : Traced Effect Refusal Unit :=
  onRegion site userID regionID (required "bucket id required" [bid])
    (fun creds => [encryption site creds, .call (.deleteBucketEncryption bid)]) ""

/-! ### Buckets and rows -/

/-- `garageRegionBucketsBridge`: the administrator's listing, and a probe with the region's key
of every bucket that has a name. -/
def garageRegionBucketsBridge (region : UserRegion) (conn : Connection) :
    Traced Effect Refusal Unit := do
  site.reach (.connection conn.id .listBuckets)
  each
    (fun bucket => do
      let _ ← attempt
        (site.reach (.region regionID region.credentials (.listObjects bucket.probe "" "" "" 1)))
      pure ())
    ((site.world.buckets conn.id).filter fun bucket => bucket.probe != "")

/-- `userListRegionBucketsHandler`. -/
def userListRegionBuckets : Traced Effect Refusal Unit := do
  let region ← check (requireOwnedRegion site userID regionID)
  check (regionDriver site "Failed to build region driver: " region)
  match site.bridge region with
  | some conn => garageRegionBucketsBridge site regionID region conn
  | none => site.reach (.region regionID region.credentials .listBuckets)
  let _ ← attempt (site.reach (.touchRegion regionID))
  pure ()

/-- `userRegionCreateRequest`; the region name and the addressing style only reach the row. -/
structure UserRegionCreateRequest where
  aliasName : String
  endpoint : String
  accessKeyID : String
  secretKey : String
  deriving DecidableEq, Repr

/-- The request with its fields trimmed. -/
def UserRegionCreateRequest.trimmed (req : UserRegionCreateRequest) : UserRegionCreateRequest where
  aliasName := trimSpace req.aliasName
  endpoint := trimSpace req.endpoint
  accessKeyID := trimSpace req.accessKeyID
  secretKey := trimSpace req.secretKey

/-- The checks of a row that both handlers make. -/
def UserRegionCreateRequest.check (req : UserRegionCreateRequest) : Except Refusal Unit := do
  required "alias is required" [req.aliasName]
  required "endpoint is required" [req.endpoint]
  required "accessKeyId is required" [req.accessKeyID]
  required "secretKey is required" [req.secretKey]
  demand ((site.urls.parse req.endpoint).any fun url => url.scheme != "" && url.host != "")
    ⟨400, "INVALID_ENDPOINT", "endpoint must be a full URL with scheme and host", []⟩

/-- Check a row and create it. -/
def createRow (req : UserRegionCreateRequest) : Traced Effect Refusal Unit := do
  Traced.check (req.trimmed.check site)
  site.reach (.createRegion
    ⟨userID, req.trimmed.endpoint, req.trimmed.accessKeyID, req.trimmed.secretKey⟩
    req.trimmed.aliasName)

/-- `userCreateRegionHandler`. -/
def userCreateRegion (req : Option UserRegionCreateRequest) : Traced Effect Refusal Unit := do
  check (demand (userID != "") ⟨401, "UNAUTHORIZED", "No active session", []⟩)
  let req ← check (body "INVALID_JSON" "Invalid JSON body" req)
  createRow site userID req

/-- `userBulkCreateRegionsHandler`; a row that is refused does not stop the others. -/
def userBulkCreateRegions (rows : Option (List UserRegionCreateRequest)) :
    Traced Effect Refusal Unit := do
  check (demand (userID != "") ⟨401, "UNAUTHORIZED", "No active session", []⟩)
  let rows ← check (body "INVALID_JSON" "Invalid JSON body" rows)
  check (demand (!rows.isEmpty)
    ⟨400, "INVALID_REQUEST", "regions array is required and must be non-empty", []⟩)
  check (demand (rows.length ≤ 200)
    ⟨400, "TOO_MANY_REGIONS", "bulk import accepts at most 200 rows per request", []⟩)
  each (fun row => do
    let _ ← attempt (createRow site userID row)
    pure ()) rows

/-- `userRotateRegionHandler`; the body has the access key and the secret. -/
def userRotateRegion (req : Option (String × String)) : Traced Effect Refusal Unit := do
  let _ ← check (requireOwnedRegion site userID regionID)
  let req ← check (body "INVALID_JSON" "Invalid JSON body" req)
  check (required "accessKeyId is required" [trimSpace req.1])
  check (required "secretKey is required" [trimSpace req.2])
  site.reach (.updateRegion regionID (trimSpace req.1) (trimSpace req.2))

/-- `userDeleteRegionHandler`. -/
def userDeleteRegion : Traced Effect Refusal Unit := do
  let _ ← check (requireOwnedRegion site userID regionID)
  site.reach (.deleteRegion regionID)

end

/-! ## The routes -/

/-- A request below `/user/regions/{regionId}`. -/
inductive RegionRequest where
  | get
  | rotate (req : Option (String × String))
  | delete
  | listBuckets
  | listObjects (bid keyPrefix token : String) (delimiter : Option String) (limit : Option Int)
  | presignGet (bid key : String) (ttl : Option Int)
  | presignPut (bid key contentType : String) (ttl : Option Int)
  | initMultipart (bid : String) (req : Option (String × String))
  | completeMultipart (bid uploadID : String) (parts : Option (List (Int × String)))
  | abortMultipart (bid uploadID key : String)
  | presignUploadPart (bid uploadID partNumStr : String) (partNum : Option Int)
  | deleteObject (bid key : String)
  | getVersioning (bid : String)
  | putVersioning (bid : String) (status : Option String)
  | listVersions (bid key marker : String) (limit : Option Int)
  | getVersion (bid key versionID : String)
  | deleteVersion (bid key versionID : String)
  | getObjectLock (bid : String)
  | putObjectLock (bid : String) (req : Option (Bool × Option ObjectLockRetention))
  | getRetention (bid key versionID : String)
  | putRetention (bid key versionID : String) (bypassGovernance : Bool)
      (ret : Option ObjectLockRetention)
  | getLegalHold (bid key versionID : String)
  | putLegalHold (bid key versionID : String) (on : Option Bool)
  | getEncryption (bid : String)
  | putEncryption (bid : String) (req : Option BucketEncryption)
  | deleteEncryption (bid : String)
  deriving DecidableEq, Repr

/-- The handler of a request. -/
def serveRegion (site : Site) (userID regionID : String) :
    RegionRequest -> Traced Effect Refusal Unit
  | .get => do
      let _ ← check (requireOwnedRegion site userID regionID)
  | .rotate req => userRotateRegion site userID regionID req
  | .delete => userDeleteRegion site userID regionID
  | .listBuckets => userListRegionBuckets site userID regionID
  | .listObjects bid keyPrefix token delimiter limit =>
      userListRegionBucketObjects site userID regionID bid keyPrefix token delimiter limit
  | .presignGet bid key ttl => userPresignGetRegionObject site userID regionID bid key ttl
  | .presignPut bid key contentType ttl =>
      userPresignPutRegionObject site userID regionID bid key contentType ttl
  | .initMultipart bid req => userInitRegionMultipart site userID regionID bid req
  | .completeMultipart bid uploadID parts =>
      userCompleteRegionMultipart site userID regionID bid uploadID parts
  | .abortMultipart bid uploadID key =>
      userAbortRegionMultipart site userID regionID bid uploadID key
  | .presignUploadPart bid uploadID partNumStr partNum =>
      userPresignRegionUploadPart site userID regionID bid uploadID partNumStr partNum
  | .deleteObject bid key => userDeleteRegionObject site userID regionID bid key
  | .getVersioning bid => userGetBucketVersioning site userID regionID bid
  | .putVersioning bid status => userPutBucketVersioning site userID regionID bid status
  | .listVersions bid key marker limit =>
      userListObjectVersions site userID regionID bid key marker limit
  | .getVersion bid key versionID => userGetObjectVersion site userID regionID bid key versionID
  | .deleteVersion bid key versionID =>
      userDeleteObjectVersion site userID regionID bid key versionID
  | .getObjectLock bid => userGetBucketObjectLock site userID regionID bid
  | .putObjectLock bid req => userPutBucketObjectLock site userID regionID bid req
  | .getRetention bid key versionID => userGetObjectRetention site userID regionID bid key versionID
  | .putRetention bid key versionID bypassGovernance ret =>
      userPutObjectRetention site userID regionID bid key versionID bypassGovernance ret
  | .getLegalHold bid key versionID => userGetObjectLegalHold site userID regionID bid key versionID
  | .putLegalHold bid key versionID on =>
      userPutObjectLegalHold site userID regionID bid key versionID on
  | .getEncryption bid => userGetBucketEncryption site userID regionID bid
  | .putEncryption bid req => userPutBucketEncryption site userID regionID bid req
  | .deleteEncryption bid => userDeleteBucketEncryption site userID regionID bid

/-! ## The gateway -/

/-- The sentinels of the gateway, and the error of a driver. -/
inductive GatewayError where
  | unauthenticated
  | notFound
  | unsupported
  | failed (refusal : Refusal)
  deriving DecidableEq, Repr

/-- A call of the gateway's data plane. -/
inductive BackendCall where
  | listRegions
  | listBuckets (regionID : String)
  | listObjects (regionID bucket keyPrefix delimiter continuationToken : String) (limit : Int)
  | headObject (regionID bucket key : String)
  | getObject (regionID bucket key : String)
  | putObject (regionID bucket key contentType : String) (size : Int)
  | deleteObject (regionID bucket key : String)
  | copyObject (srcRegionID srcBucket srcKey dstRegionID dstBucket dstKey : String)
  | createBucket (regionID bucket : String)
  | deleteBucket (regionID bucket : String)
  deriving DecidableEq, Repr

section

variable (site : Site) (userID : String)

/-- Reach something of the environment from the gateway. -/
def reachBackend (effect : Effect) : Traced Effect GatewayError Unit :=
  Traced.reach effect ((site.world.answer effect).mapError .failed)

/-- `ProductionBackend.driverForRegion`, with the region whose driver it builds. -/
def driverForRegion (regionID : String) : Traced Effect GatewayError UserRegion := do
  let region ← check ((site.ring.regions.get? regionID).elim (.error .notFound) .ok)
  check (if userID = "" ∨ region.userID ≠ userID then .error .notFound else .ok ())
  check ((site.world.builds region.credentials).mapError fun error =>
    .failed ⟨500, "", "driver build: " ++ error, []⟩)
  let _ ← attempt (reachBackend site (.touchRegion regionID))
  return region

/-- One call of the driver of a region. -/
def backendCall (regionID : String) (call : DriverCall) : Traced Effect GatewayError Unit := do
  let region ← driverForRegion site userID regionID
  reachBackend site (.region regionID region.credentials call)

/-- `ProductionBackend.ListBuckets`. -/
def backendListBuckets (regionID : String) : Traced Effect GatewayError Unit := do
  let region ← driverForRegion site userID regionID
  match site.bridge region with
  | some conn => reachBackend site (.connection conn.id .listBuckets)
  | none => reachBackend site (.region regionID region.credentials .listBuckets)

/-- `ProductionBackend.CopyObject`, within one region only. -/
def backendCopyObject (srcRegionID srcBucket srcKey dstRegionID dstBucket dstKey : String) :
    Traced Effect GatewayError Unit :=
  if srcRegionID ≠ dstRegionID then check (.error .unsupported)
  else backendCall site userID srcRegionID (.serverSideCopy srcBucket srcKey dstBucket dstKey)

/-- The data plane of `ProductionBackend`. -/
def serveBackend : BackendCall -> Traced Effect GatewayError Unit
  | .listRegions => pure ()
  | .listBuckets regionID => backendListBuckets site userID regionID
  | .listObjects regionID bucket keyPrefix delimiter continuationToken limit =>
      backendCall site userID regionID
        (.listObjects bucket keyPrefix continuationToken delimiter
          (if limit ≤ 0 then 1000 else limit))
  | .headObject regionID bucket key => backendCall site userID regionID (.statObject bucket key)
  | .getObject regionID bucket key => backendCall site userID regionID (.streamObject bucket key)
  | .putObject regionID bucket key contentType size =>
      backendCall site userID regionID
        (.putObjectStream bucket key
          (if contentType = "" then "application/octet-stream" else contentType) size)
  | .deleteObject regionID bucket key => backendCall site userID regionID (.deleteObject bucket key)
  | .copyObject srcRegionID srcBucket srcKey dstRegionID dstBucket dstKey =>
      backendCopyObject site userID srcRegionID srcBucket srcKey dstRegionID dstBucket dstKey
  | .createBucket regionID bucket => backendCall site userID regionID (.createBucket bucket)
  | .deleteBucket regionID bucket => backendCall site userID regionID (.deleteBucket bucket)

end

/-! ## What stays within the caller's own regions -/

/-- What the handlers may reach for a user: the drivers of the user's own regions, signed with the
keys of those, the bucket list of a connection that bridges one of them, and the user's own
rows. -/
inductive OwnReach (site : Site) (userID : String) : Effect -> Prop
  | region {regionID : String} {region : UserRegion} (call : DriverCall)
      (owned : site.ring.ownedRegion userID regionID = some region) :
      OwnReach site userID (.region regionID region.credentials call)
  | bridge {regionID : String} {region : UserRegion} {conn : Connection}
      (owned : site.ring.ownedRegion userID regionID = some region)
      (bridged : site.bridge region = some conn) :
      OwnReach site userID (.connection conn.id .listBuckets)
  | createRegion {region : UserRegion} (aliasName : String) (own : region.userID = userID) :
      OwnReach site userID (.createRegion region aliasName)
  | updateRegion {regionID : String} {region : UserRegion} (accessKeyID secretKey : String)
      (owned : site.ring.ownedRegion userID regionID = some region) :
      OwnReach site userID (.updateRegion regionID accessKeyID secretKey)
  | deleteRegion {regionID : String} {region : UserRegion}
      (owned : site.ring.ownedRegion userID regionID = some region) :
      OwnReach site userID (.deleteRegion regionID)
  | touchRegion {regionID : String} {region : UserRegion}
      (owned : site.ring.ownedRegion userID regionID = some region) :
      OwnReach site userID (.touchRegion regionID)

section

variable {site : Site} {userID regionID : String} {region : UserRegion}

theorem ownedRegion_of_requireOwnedRegion
    (passed : requireOwnedRegion site userID regionID = .ok region) :
    site.ring.ownedRegion userID regionID = some region := by
  rcases bind_eq_ok.mp passed with ⟨_, _, named⟩
  rcases bind_eq_ok.mp named with ⟨_, _, looked⟩
  cases found : site.ring.ownedRegion userID regionID with
  | none =>
      rw [found] at looked
      cases looked
  | some other =>
      rw [found] at looked
      cases looked
      rfl

theorem Site.reach_own {effect : Effect} (own : OwnReach site userID effect) :
    Only (OwnReach site userID) (site.reach effect) := Only.reach own _

/-- Whatever the steps are, they only call the driver of the region. -/
theorem runSteps_own (owned : site.ring.ownedRegion userID regionID = some region)
    (steps : List DriverStep) :
    Only (OwnReach site userID) (site.runSteps regionID region.credentials steps) := by
  induction steps with
  | nil => exact Only.pure ()
  | cons step rest ih =>
      cases step with
      | need answer => exact Only.check_bind fun _ _ => ih
      | call call => exact Only.bind (Site.reach_own (.region call owned)) fun _ _ => ih
      | glance call =>
          exact Only.bind (Only.attempt (Site.reach_own (.region call owned))) fun _ _ => ih

/-- So a handler of the tree stays within the region that the caller owns. -/
theorem onRegion_own (checks : Except Refusal Unit) (steps : Credentials -> List DriverStep)
    (said : String) :
    Only (OwnReach site userID) (onRegion site userID regionID checks steps said) := by
  apply Only.check_bind
  intro region passed
  apply Only.check_bind
  intro _ _
  apply Only.check_bind
  intro _ _
  exact runSteps_own (ownedRegion_of_requireOwnedRegion passed) _

theorem userListRegionBuckets_own :
    Only (OwnReach site userID) (userListRegionBuckets site userID regionID) := by
  apply Only.check_bind
  intro region passed
  have owned := ownedRegion_of_requireOwnedRegion passed
  apply Only.check_bind
  intro _ _
  have touched : Only (OwnReach site userID) (attempt (site.reach (.touchRegion regionID)) >>=
      fun _ : Except Refusal Unit => (pure () : Traced Effect Refusal Unit)) :=
    Only.bind (Only.attempt (Site.reach_own (.touchRegion owned))) fun _ _ => Only.pure ()
  cases bridged : site.bridge region with
  | none =>
      refine Only.bind (Site.reach_own (.region _ owned)) ?_
      intro _ _
      exact touched
  | some conn =>
      refine Only.bind ?_ ?_
      · apply Only.bind (Site.reach_own (.bridge owned bridged))
        intro _ _
        apply Only.each
        intro bucket _
        exact Only.bind (Only.attempt (Site.reach_own (.region _ owned))) fun _ _ => Only.pure ()
      · intro _ _
        exact touched

theorem createRow_own (req : UserRegionCreateRequest) :
    Only (OwnReach site userID) (createRow site userID req) :=
  Only.check_bind fun _ _ => Site.reach_own (.createRegion _ rfl)

theorem userCreateRegion_own (req : Option UserRegionCreateRequest) :
    Only (OwnReach site userID) (userCreateRegion site userID req) := by
  apply Only.check_bind
  intro _ _
  apply Only.check_bind
  intro row _
  exact createRow_own row

theorem userBulkCreateRegions_own (rows : Option (List UserRegionCreateRequest)) :
    Only (OwnReach site userID) (userBulkCreateRegions site userID rows) := by
  apply Only.check_bind
  intro _ _
  apply Only.check_bind
  intro given _
  apply Only.check_bind
  intro _ _
  apply Only.check_bind
  intro _ _
  apply Only.each
  intro row _
  exact Only.bind (Only.attempt (createRow_own row)) fun _ _ => Only.pure ()

theorem userRotateRegion_own (req : Option (String × String)) :
    Only (OwnReach site userID) (userRotateRegion site userID regionID req) := by
  apply Only.check_bind
  intro region passed
  apply Only.check_bind
  intro given _
  apply Only.check_bind
  intro _ _
  apply Only.check_bind
  intro _ _
  exact Site.reach_own (.updateRegion _ _ (ownedRegion_of_requireOwnedRegion passed))

/-- Every request of the region tree stays within the caller's own regions. -/
theorem serveRegion_own (request : RegionRequest) :
    Only (OwnReach site userID) (serveRegion site userID regionID request) := by
  cases request with
  | get => exact Only.check_bind fun _ _ => Only.pure ()
  | rotate req => exact userRotateRegion_own req
  | delete =>
      apply Only.check_bind
      intro region passed
      exact Site.reach_own (.deleteRegion (ownedRegion_of_requireOwnedRegion passed))
  | listBuckets => exact userListRegionBuckets_own
  | _ =>
      unfold serveRegion
      exact onRegion_own _ _ _

/-! ### The gateway -/

theorem reachBackend_own {effect : Effect} (own : OwnReach site userID effect) :
    Only (OwnReach site userID) (reachBackend site effect) := Only.reach own _

/-- The two checks of the gateway on a region. -/
theorem owned_of_lookup {passed : Unit}
    (looked : ((site.ring.regions.get? regionID).elim (.error .notFound) .ok :
      Except GatewayError UserRegion) = .ok region)
    (owned : (if userID = "" ∨ region.userID ≠ userID then .error .notFound else .ok () :
      Except GatewayError Unit) = .ok passed) :
    site.ring.ownedRegion userID regionID = some region := by
  split at owned
  · cases owned
  · rename_i own
    push Not at own
    cases found : site.ring.regions.get? regionID with
    | none =>
        rw [found] at looked
        cases looked
    | some stored =>
        rw [found] at looked
        cases looked
        exact Keyring.ownedRegion_eq_some.mpr ⟨found, own.2⟩

/-- The gateway builds a driver for a region of the user only. -/
theorem driverForRegion_answer
    (built : (driverForRegion site userID regionID).answer = .ok region) :
    site.ring.ownedRegion userID regionID = some region := by
  rcases answer_check_bind.mp built with ⟨found, looked, built⟩
  rcases answer_check_bind.mp built with ⟨_, owned, built⟩
  rcases answer_check_bind.mp built with ⟨_, _, built⟩
  rcases answer_bind.mp built with ⟨_, _, built⟩
  cases Except.ok.inj built
  exact owned_of_lookup looked owned

theorem driverForRegion_own :
    Only (OwnReach site userID) (driverForRegion site userID regionID) := by
  apply Only.check_bind
  intro region looked
  apply Only.check_bind
  intro _ owned
  apply Only.check_bind
  intro _ _
  refine Only.bind (Only.attempt (reachBackend_own ?_)) fun _ _ => Only.pure _
  exact .touchRegion (owned_of_lookup looked owned)

theorem backendCall_own (call : DriverCall) :
    Only (OwnReach site userID) (backendCall site userID regionID call) := by
  apply Only.bind driverForRegion_own
  intro region built
  exact reachBackend_own (.region call (driverForRegion_answer built))

theorem backendListBuckets_own :
    Only (OwnReach site userID) (backendListBuckets site userID regionID) := by
  apply Only.bind driverForRegion_own
  intro region built
  have owned := driverForRegion_answer built
  cases bridged : site.bridge region with
  | none => exact reachBackend_own (.region _ owned)
  | some conn => exact reachBackend_own (.bridge owned bridged)

theorem backendCopyObject_own (srcBucket srcKey dstRegionID dstBucket dstKey : String) :
    Only (OwnReach site userID)
      (backendCopyObject site userID regionID srcBucket srcKey dstRegionID dstBucket dstKey) := by
  unfold backendCopyObject
  split
  · exact Only.check _
  · exact backendCall_own _

/-- Every call of the gateway stays within the caller's own regions. -/
theorem serveBackend_own (call : BackendCall) :
    Only (OwnReach site userID) (serveBackend site userID call) := by
  cases call with
  | listRegions => exact Only.pure ()
  | listBuckets regionID => exact backendListBuckets_own
  | copyObject srcRegionID srcBucket srcKey dstRegionID dstBucket dstKey =>
      exact backendCopyObject_own ..
  | _ =>
      unfold serveBackend
      exact backendCall_own _

end

end RegionTree
end Api
end Basement
