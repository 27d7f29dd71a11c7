import Basement.Api.Regions
import Basement.Drivers.Copy

namespace Basement
namespace Api

open Library Drivers

/-!
# Sync jobs

A sync request names two connections, each by its ID or by a region of the caller.
The job it creates stores the connection IDs and runs with the drivers of these
connections, so every request it sends is signed with the connection's key.

The S3 service decides per access key and bucket, and rejects a wrong secret.  What
a job read and wrote is recorded as it runs.
-/

/-! ## The S3 service -/

inductive Right where
  | read
  | write
  deriving DecidableEq, Repr

/-- The secrets and the permissions of every endpoint. -/
structure Service where
  secretOf : String -> String -> Option String
  may : Right -> String -> String -> String -> Bool
  etag : StoredObject -> String

/-- Whether the service lets the holder of the credentials into a bucket. -/
def Service.lets (service : Service) (right : Right) (creds : Credentials) (bucket : String) :
    Bool :=
  service.secretOf creds.endpoint creds.accessKeyID == some creds.secretKey &&
    service.may right creds.endpoint creds.accessKeyID bucket

/-- An object somebody read or wrote. -/
structure Touch where
  right : Right
  location : Location
  deriving DecidableEq, Repr

/-- The objects of every endpoint, and a list of keys among which those of every
bucket are. -/
structure Contents where
  objects : World
  keys : List String

/-! ## The drivers of connections -/

def driverName : DriverType -> String
  | .garage => "garage"
  | .garageV1 => "garage-v1"
  | .awsS3 => "aws-s3"
  | .minio => "minio"

/-- The config value that a driver type sends its requests to. -/
def Connection.configuredEndpoint (conn : Connection) : String :=
  match conn.driver with
  | .garage | .garageV1 => conn.s3Endpoint
  | .awsS3 | .minio => conn.endpoint

/-- `newS3Client`: the key and the endpoint the connection's driver uses, in the
canonical spelling of the endpoint.  A Garage connection without an S3 endpoint has
no client; the other types then talk to AWS. -/
def Connection.s3Client (urls : URLLibrary) (conn : Connection) : Option Credentials :=
  let endpoint := conn.configuredEndpoint
  if conn.accessKey = "" ∨ conn.secretKey = "" then none
  else if endpoint = "" ∧ (conn.driver = .garage ∨ conn.driver = .garageV1) then none
  else some ⟨(normalizeEndpoint urls endpoint).getD endpoint, conn.accessKey, conn.secretKey⟩

/-- A connection's driver with its S3 client. -/
structure Side where
  type : DriverType
  creds : Credentials
  deriving DecidableEq, Repr

def Side.driver (side : Side) : Driver :=
  ⟨side.creds.endpoint, driverName side.type, true⟩

/-- `Registry.For`, for the calls that need the S3 client. -/
def sideOf (urls : URLLibrary) (ring : Keyring) (connID : String) : Option Side :=
  match ring.connection connID with
  | none => none
  | some conn => (conn.s3Client urls).map (Side.mk conn.driver)

/-! ## Jobs -/

inductive JobState where
  | queued
  | running
  | paused
  | done
  | error
  deriving DecidableEq, Repr

structure SyncJob where
  ownerUserID : String
  mode : String
  srcConnectionID : String
  srcBucket : String
  srcPrefix : String
  dstConnectionID : String
  dstBucket : String
  dstPrefix : String
  state : JobState
  deriving DecidableEq, Repr

inductive ActionType where
  | copy
  | skip
  deriving DecidableEq, Repr

structure SyncAction where
  srcKey : String
  dstKey : String
  type : ActionType
  deriving DecidableEq, Repr

/-- The source prefix with the slash `Plan` ends it with. -/
def planPrefix (srcPrefix : String) : String :=
  if srcPrefix ≠ "" ∧ ¬ srcPrefix.toList.getLast? = some '/' then srcPrefix ++ "/" else srcPrefix

/-- Where `Plan` puts a source key. -/
def planDstKey (srcPrefix dstPrefix srcKey : String) : String :=
  if srcPrefix = "" then srcKey
  else
    let full := (planPrefix srcPrefix).toList
    let relative :=
      if full.isPrefixOf srcKey.toList then String.ofList (srcKey.toList.drop full.length)
      else srcKey
    if relative ≠ "" ∧ dstPrefix ≠ "" then dstPrefix ++ "/" ++ relative
    else if relative ≠ "" then relative
    else srcKey

theorem planPrefix_ne_empty {srcPrefix : String} (named : srcPrefix ≠ "") :
    planPrefix srcPrefix ≠ "" := by
  unfold planPrefix
  split
  · rw [Ne, String.append_eq_empty_iff]
    exact fun both => named both.1
  · exact named

theorem planDstKey_of_empty (dstPrefix key : String) : planDstKey "" dstPrefix key = key := rfl

/-- The object whose key is the prefix itself keeps its key. -/
theorem planDstKey_self (srcPrefix dstPrefix : String) :
    planDstKey srcPrefix dstPrefix (planPrefix srcPrefix) = planPrefix srcPrefix := by
  simp [planDstKey]

/-- Any other object is moved below the destination prefix. -/
theorem planDstKey_append {srcPrefix dstPrefix relative : String} (named : srcPrefix ≠ "")
    (folder : dstPrefix ≠ "") (below : relative ≠ "") :
    planDstKey srcPrefix dstPrefix (planPrefix srcPrefix ++ relative) =
      dstPrefix ++ "/" ++ relative := by
  simp [planDstKey, named, folder, below]

theorem planDstKey_append_root {srcPrefix relative : String} (named : srcPrefix ≠ "")
    (below : relative ≠ "") :
    planDstKey srcPrefix "" (planPrefix srcPrefix ++ relative) = relative := by
  simp [planDstKey, named, below]

/-- The keys a bucket has under a prefix. -/
def Contents.list (contents : Contents) (endpoint bucket keyPrefix : String) : List String :=
  contents.keys.filter fun key =>
    keyPrefix.toList.isPrefixOf key.toList && (contents.objects ⟨endpoint, bucket, key⟩).isSome

/-- `StatObject`. -/
def statObject (service : Service) (world : World) (side : Side) (bucket key : String) :
    Option StoredObject :=
  if service.lets .read side.creds bucket then world (side.driver.at ⟨bucket, key⟩) else none

/-- The action `Plan` takes for one source key. -/
def planAction (service : Service) (world : World) (src dst : Side) (job : SyncJob)
    (srcKey : String) : SyncAction :=
  let dstKey := planDstKey job.srcPrefix job.dstPrefix srcKey
  match statObject service world dst job.dstBucket dstKey with
  | none => ⟨srcKey, dstKey, .copy⟩
  | some held =>
      if (world (src.driver.at ⟨job.srcBucket, srcKey⟩)).map service.etag = some (service.etag held)
      then ⟨srcKey, dstKey, .skip⟩
      else ⟨srcKey, dstKey, .copy⟩

/-- `Plan`, which fails when the source does not let itself be listed. -/
def plan (service : Service) (contents : Contents) (src dst : Side) (job : SyncJob) :
    Option (List SyncAction) :=
  if service.lets .read src.creds job.srcBucket then
    some ((contents.list src.creds.endpoint job.srcBucket (planPrefix job.srcPrefix)).map
      (planAction service contents.objects src dst job))
  else none

/-- The objects the plan looked at in the destination. -/
def planTouches (service : Service) (world : World) (dst : Side) (job : SyncJob)
    (actions : List SyncAction) : List Touch :=
  (actions.filter fun action => (statObject service world dst job.dstBucket action.dstKey).isSome).map
    fun action => ⟨.read, dst.driver.at ⟨job.dstBucket, action.dstKey⟩⟩

/-! ## Runs -/

/-- What a run meets: the failures of each key's calls besides those the service
decides, and how many actions are dispatched before the run is paused. -/
structure RunConditions where
  faults : String -> Faults
  upTo : Nat

/-- A call the service refuses fails, any other fails as the conditions say. -/
def unlessDenied (allowed : Bool) (fault : Option String) : Option String :=
  if allowed then fault else some "AccessDenied"

def copyFaults (service : Service) (src dst : Side) (job : SyncJob) (faults : Faults) : Faults :=
  { faults with
    serverSideCopy := unlessDenied
      (service.lets .read dst.creds job.srcBucket && service.lets .write dst.creds job.dstBucket)
      faults.serverSideCopy
    streamObject := unlessDenied (service.lets .read src.creds job.srcBucket) faults.streamObject
    putObjectStream := unlessDenied (service.lets .write dst.creds job.dstBucket)
      faults.putObjectStream }

/-- Whether `copyObject` ends with a server-side copy. -/
def copiesServerSide (srcDriver dstDriver : Driver) (src : ObjectName) (faults : Faults)
    (world : World) : Bool :=
  srcDriver.caps.driver == dstDriver.caps.driver && dstDriver.caps.serverSideCopy &&
    faults.serverSideCopy.isNone && (world (dstDriver.at src)).isSome

/-- What one `copyObject` reads and writes. -/
def copyTouches (srcDriver dstDriver : Driver) (src dst : ObjectName) (faults : Faults)
    (world : World) : List Touch :=
  if faults.srcCapabilities.isSome ∨ faults.dstCapabilities.isSome then []
  else if copiesServerSide srcDriver dstDriver src faults world then
    [⟨.read, dstDriver.at src⟩, ⟨.write, dstDriver.at dst⟩]
  else if faults.streamObject.isSome ∨ world (srcDriver.at src) = none then []
  else if faults.putObjectStream.isSome then [⟨.read, srcDriver.at src⟩]
  else [⟨.read, srcDriver.at src⟩, ⟨.write, dstDriver.at dst⟩]

/-- The dispatch loop of `Engine.Run`: the first failure stops it. -/
def runActions (service : Service) (src dst : Side) (job : SyncJob) (conditions : RunConditions) :
    List SyncAction -> Contents -> Contents × List Touch × Bool
  | [], contents => (contents, [], true)
  | action :: rest, contents =>
      match action.type with
      | .skip => runActions service src dst job conditions rest contents
      | .copy =>
          let srcName : ObjectName := ⟨job.srcBucket, action.srcKey⟩
          let dstName : ObjectName := ⟨job.dstBucket, action.dstKey⟩
          let faults := copyFaults service src dst job (conditions.faults action.srcKey)
          let touches := copyTouches src.driver dst.driver srcName dstName faults contents.objects
          match copyObject src.driver dst.driver srcName dstName faults contents.objects with
          | .error _ => (contents, touches, false)
          | .ok after =>
              let tail := runActions service src dst job conditions rest
                ⟨after, action.dstKey :: contents.keys⟩
              (tail.1, touches ++ tail.2.1, tail.2.2)

/-- `Engine.Run`. -/
def runJob (service : Service) (contents : Contents) (src dst : Side) (job : SyncJob)
    (conditions : RunConditions) : Contents × List Touch × JobState :=
  match plan service contents src dst job with
  | none => (contents, [], .error)
  | some actions =>
      let result := runActions service src dst job conditions (actions.take conditions.upTo) contents
      (result.1, planTouches service contents.objects dst job actions ++ result.2.1,
        if result.2.2 = false then .error
        else if conditions.upTo < actions.length then .paused
        else .done)

/-- A run with the drivers of the job's connections, as the create and the resume
handler start it. -/
def startJob (urls : URLLibrary) (ring : Keyring) (service : Service) (contents : Contents)
    (job : SyncJob) (conditions : RunConditions) : Contents × List Touch × JobState :=
  match sideOf urls ring job.srcConnectionID, sideOf urls ring job.dstConnectionID with
  | some src, some dst => runJob service contents src dst job conditions
  | _, _ => (contents, [], .error)

/-! ## Requests -/

/-- An error response. -/
structure Refusal where
  status : Nat
  code : String
  message : String
  details : List (String × String) := []
  deriving DecidableEq, Repr

/-- The response `maybeResolveRegionField` writes when it stops a handler. -/
def resolveRefusal (ring : Keyring) (userID raw field : String) : ResolveError -> Refusal
  | .regionNotFound => ⟨404, "REGION_NOT_FOUND", "Region not found", []⟩
  | .noAdminBridge =>
      ⟨400, "NO_ADMIN_BRIDGE",
        "This region has no admin bridge. " ++
          "Ask cluster admin to register this endpoint at /admin/clusters/new.",
        [("endpoint", ((ring.ownedRegion userID raw).map UserRegion.endpoint).getD ""),
          ("field", field)]⟩

def resolveField (urls : URLLibrary) (ring : Keyring) (userID raw field : String) :
    Except Refusal String :=
  match maybeResolveRegionField urls ring userID raw with
  | .ok connID => .ok connID
  | .error error => .error (resolveRefusal ring userID raw field error)

/-- Stop with the refusal unless the test holds. -/
def demand (holds : Bool) (refusal : Refusal) : Except Refusal Unit :=
  if holds then .ok () else .error refusal

structure UserSyncCreateRequest where
  mode : String
  srcConnectionID : String
  srcBucket : String
  srcPrefix : String := ""
  dstConnectionID : String
  dstBucket : String
  dstPrefix : String := ""
  deriving DecidableEq, Repr

/-- `userCreateSyncHandler`, up to the job it saves. -/
def userCreateSync (urls : URLLibrary) (ring : Keyring) (admin : Bool) (userID : String)
    (req : UserSyncCreateRequest) : Except Refusal SyncJob := do
  demand (req.mode = "pull" || req.mode = "push")
    ⟨400, "INVALID_MODE", "Mode must be \"pull\" or \"push\"", []⟩
  let src ← resolveField urls ring userID req.srcConnectionID "srcConnectionId"
  let dst ← resolveField urls ring userID req.dstConnectionID "dstConnectionId"
  demand (ring.connection src).isSome
    ⟨404, "SRC_CLUSTER_NOT_FOUND", "Source cluster not found", []⟩
  demand (ring.connection dst).isSome
    ⟨404, "DST_CLUSTER_NOT_FOUND", "Destination cluster not found", []⟩
  demand (hasConnectionAccess urls ring admin userID src)
    ⟨403, "FORBIDDEN", "User does not have access to source cluster", []⟩
  demand (hasConnectionAccess urls ring admin userID dst)
    ⟨403, "FORBIDDEN", "User does not have access to destination cluster", []⟩
  return {
    ownerUserID := userID, mode := req.mode, srcConnectionID := src, srcBucket := req.srcBucket,
    srcPrefix := req.srcPrefix, dstConnectionID := dst, dstBucket := req.dstBucket,
    dstPrefix := req.dstPrefix, state := .queued }

/-! ## What a run touches -/

/-- What a stream that succeeds did. -/
theorem streamThrough_ok {srcDriver dstDriver : Driver} {src dst : ObjectName}
    {streamText putText : String} {faults : Faults} {world after : World}
    (streamed : streamThrough srcDriver dstDriver src dst streamText putText faults world =
      .ok after) :
    faults.streamObject = none ∧ faults.putObjectStream = none ∧
      world (srcDriver.at src) ≠ none ∧
      after = Function.update world (dstDriver.at dst) (world (srcDriver.at src)) := by
  unfold streamThrough Driver.streamObject Driver.putObjectStream at streamed
  cases noStreamFault : faults.streamObject with
  | some error => simp [noStreamFault] at streamed
  | none =>
      cases held : world (srcDriver.at src) with
      | none => simp [noStreamFault, held] at streamed
      | some object =>
          cases noPutFault : faults.putObjectStream with
          | some error => simp [noStreamFault, held, noPutFault] at streamed
          | none =>
              simp only [noStreamFault, held, noPutFault, Except.ok.injEq] at streamed
              exact ⟨rfl, rfl, by simp, streamed.symm⟩

/-- Success of `copyObject` means that the destination received what the touched
source location held, and that nothing else changed. -/
theorem copyObject_ok_touches {srcDriver dstDriver : Driver} {src dst : ObjectName}
    {faults : Faults} {world after : World}
    (copied : copyObject srcDriver dstDriver src dst faults world = .ok after) :
    Exists fun source =>
      copyTouches srcDriver dstDriver src dst faults world =
        [⟨.read, source⟩, ⟨.write, dstDriver.at dst⟩] ∧
      world source ≠ none ∧
      after = Function.update world (dstDriver.at dst) (world source) := by
  unfold copyObject copyChecked Driver.capabilities at copied
  cases noSrcFault : faults.srcCapabilities with
  | some error => simp [noSrcFault] at copied
  | none =>
      cases noDstFault : faults.dstCapabilities with
      | some error => simp [noSrcFault, noDstFault] at copied
      | none =>
          simp only [noSrcFault, noDstFault, fastOrStream] at copied
          by_cases serverSide : copiesServerSide srcDriver dstDriver src faults world = true
          · have parts := serverSide
            simp only [copiesServerSide, Bool.and_eq_true, Option.isNone_iff_eq_none,
              Option.isSome_iff_exists] at parts
            rcases parts with ⟨⟨⟨sameDriver, advertised⟩, accepted⟩, object, held⟩
            simp only [sameDriver, advertised, Bool.and_self, if_true, Driver.serverSideCopy,
              accepted, held, Except.ok.injEq] at copied
            refine ⟨dstDriver.at src, ?_, by simp [held], by rw [held, ← copied]⟩
            simp [copyTouches, noSrcFault, noDstFault, serverSide]
          · have through : forall streamText putText,
                streamThrough srcDriver dstDriver src dst streamText putText faults world =
                    .ok after ->
                  Exists fun source =>
                    copyTouches srcDriver dstDriver src dst faults world =
                      [⟨.read, source⟩, ⟨.write, dstDriver.at dst⟩] ∧
                    world source ≠ none ∧
                    after = Function.update world (dstDriver.at dst) (world source) := by
              intro streamText putText done
              rcases streamThrough_ok done with ⟨noStream, noPut, held, same⟩
              refine ⟨srcDriver.at src, ?_, held, same⟩
              simp [copyTouches, noSrcFault, noDstFault, serverSide, noStream, noPut, held]
            split at copied
            · rename_i offered
              unfold Driver.serverSideCopy at copied
              cases accepted : faults.serverSideCopy with
              | some error =>
                  simp only [accepted] at copied
                  exact through _ _ copied
              | none =>
                  cases held : world (dstDriver.at src) with
                  | none =>
                      simp only [accepted, held] at copied
                      exact through _ _ copied
                  | some object =>
                      exact absurd (by simpa [copiesServerSide, accepted, held] using offered)
                        serverSide
            · exact through _ _ copied

/-- The service lets a side's credentials do what was done at its endpoint. -/
def Side.Lets (service : Service) (side : Side) (touch : Touch) : Prop :=
  touch.location.endpoint = side.creds.endpoint ∧
    service.lets touch.right side.creds touch.location.bucket = true

section Touches

variable {service : Service} {src dst : Side} {job : SyncJob}

theorem unlessDenied_eq_none {allowed : Bool} {fault : Option String} :
    unlessDenied allowed fault = none ↔ allowed = true ∧ fault = none := by
  cases allowed <;> simp [unlessDenied]

/-- A copy touches only what one of its two sides is let into. -/
theorem copyTouches_lets {srcKey dstKey : String} {faults : Faults} {world : World} {touch : Touch}
    (member : touch ∈ copyTouches src.driver dst.driver ⟨job.srcBucket, srcKey⟩
      ⟨job.dstBucket, dstKey⟩ (copyFaults service src dst job faults) world) :
    src.Lets service touch ∨ dst.Lets service touch := by
  unfold copyTouches at member
  split at member
  · cases member
  · split at member
    · rename_i serverSide
      simp only [copiesServerSide, copyFaults, Bool.and_eq_true, Option.isNone_iff_eq_none,
        unlessDenied_eq_none] at serverSide
      rcases serverSide with ⟨⟨_, ⟨readable, writable⟩, _⟩, _⟩
      simp only [List.mem_cons, List.not_mem_nil, or_false] at member
      rcases member with rfl | rfl
      · exact Or.inr ⟨rfl, readable⟩
      · exact Or.inr ⟨rfl, writable⟩
    · split at member
      · cases member
      · rename_i streams
        simp only [copyFaults, not_or, Bool.not_eq_true, Option.isSome_eq_false_iff,
          Option.isNone_iff_eq_none, unlessDenied_eq_none] at streams
        have readable : src.Lets service ⟨.read, src.driver.at ⟨job.srcBucket, srcKey⟩⟩ :=
          ⟨rfl, streams.1.1⟩
        split at member
        · simp only [List.mem_cons, List.not_mem_nil, or_false] at member
          rw [member]
          exact Or.inl readable
        · rename_i puts
          simp only [copyFaults, Bool.not_eq_true, Option.isSome_eq_false_iff,
            Option.isNone_iff_eq_none, unlessDenied_eq_none] at puts
          simp only [List.mem_cons, List.not_mem_nil, or_false] at member
          rcases member with rfl | rfl
          · exact Or.inl readable
          · exact Or.inr ⟨rfl, puts.1⟩

theorem runActions_lets {conditions : RunConditions} {touch : Touch} :
    forall (actions : List SyncAction) (contents : Contents),
      touch ∈ (runActions service src dst job conditions actions contents).2.1 ->
        src.Lets service touch ∨ dst.Lets service touch := by
  intro actions
  induction actions with
  | nil =>
      intro contents member
      cases member
  | cons action rest ih =>
      intro contents member
      unfold runActions at member
      cases kind : action.type with
      | skip =>
          simp only [kind] at member
          exact ih contents member
      | copy =>
          simp only [kind] at member
          split at member
          · exact copyTouches_lets member
          · rcases List.mem_append.mp member with now | later
            · exact copyTouches_lets now
            · exact ih _ later

/-- A run touches only what one of its two sides is let into, and only when the
source lets itself be listed. -/
theorem runJob_lets {contents : Contents} {conditions : RunConditions} {touch : Touch}
    (member : touch ∈ (runJob service contents src dst job conditions).2.1) :
    (src.Lets service touch ∨ dst.Lets service touch) ∧
      service.lets .read src.creds job.srcBucket = true := by
  unfold runJob at member
  cases planned : plan service contents src dst job with
  | none =>
      rw [planned] at member
      cases member
  | some actions =>
      simp only [planned] at member
      have listed : service.lets .read src.creds job.srcBucket = true := by
        unfold plan at planned
        split at planned
        · assumption
        · cases planned
      refine ⟨?_, listed⟩
      rcases List.mem_append.mp member with looked | ran
      · rcases List.mem_map.mp looked with ⟨action, kept, rfl⟩
        have found := (List.mem_filter.mp kept).2
        unfold statObject at found
        split at found
        · rename_i readable
          exact Or.inr ⟨rfl, readable⟩
        · cases found
      · exact runActions_lets _ _ ran

/-! The other way round: what a run is sure to touch. -/

theorem planAction_keys (world : World) (srcKey : String) :
    (planAction service world src dst job srcKey).srcKey = srcKey ∧
      (planAction service world src dst job srcKey).dstKey =
        planDstKey job.srcPrefix job.dstPrefix srcKey := by
  simp only [planAction]
  split
  · exact ⟨rfl, rfl⟩
  · split <;> exact ⟨rfl, rfl⟩

/-- Without failures the destination is written, on either path. -/
theorem copyTouches_write {srcDriver dstDriver : Driver} {srcName dstName : ObjectName}
    {faults : Faults} {world : World} (noSrcFault : faults.srcCapabilities = none)
    (noDstFault : faults.dstCapabilities = none) (streams : faults.streamObject = none)
    (puts : faults.putObjectStream = none) (present : world (srcDriver.at srcName) ≠ none) :
    ⟨.write, dstDriver.at dstName⟩ ∈
      copyTouches srcDriver dstDriver srcName dstName faults world := by
  simp only [copyTouches, noSrcFault, noDstFault, streams, puts, present, Option.isSome_none,
    Bool.false_eq_true, or_self, if_false]
  split <;> exact List.mem_cons_of_mem _ List.mem_cons_self

/-- The plan looks at every destination object that exists and is readable. -/
theorem runJob_looks {contents : Contents} {srcKey : String} (conditions : RunConditions)
    (readable : service.lets .read src.creds job.srcBucket = true)
    (listed : srcKey ∈ contents.list src.creds.endpoint job.srcBucket (planPrefix job.srcPrefix))
    (held : (statObject service contents.objects dst job.dstBucket
      (planDstKey job.srcPrefix job.dstPrefix srcKey)).isSome = true) :
    ⟨.read, dst.driver.at ⟨job.dstBucket, planDstKey job.srcPrefix job.dstPrefix srcKey⟩⟩ ∈
      (runJob service contents src dst job conditions).2.1 := by
  simp only [runJob, plan, readable, if_true]
  refine List.mem_append_left _ (List.mem_map.mpr
    ⟨planAction service contents.objects src dst job srcKey, ?_, ?_⟩)
  · refine List.mem_filter.mpr ⟨List.mem_map_of_mem listed, ?_⟩
    rw [(planAction_keys contents.objects srcKey).2]
    exact held
  · rw [(planAction_keys contents.objects srcKey).2]

/-- The first object is copied when the destination has none under its key. -/
theorem runJob_copies {contents : Contents} {srcKey : String} {rest : List String}
    {conditions : RunConditions} {touch : Touch}
    (readable : service.lets .read src.creds job.srcBucket = true)
    (listed : contents.list src.creds.endpoint job.srcBucket (planPrefix job.srcPrefix) =
      srcKey :: rest)
    (missing : statObject service contents.objects dst job.dstBucket
      (planDstKey job.srcPrefix job.dstPrefix srcKey) = none)
    (dispatched : 0 < conditions.upTo)
    (member : touch ∈ copyTouches src.driver dst.driver ⟨job.srcBucket, srcKey⟩
      ⟨job.dstBucket, planDstKey job.srcPrefix job.dstPrefix srcKey⟩
      (copyFaults service src dst job (conditions.faults srcKey)) contents.objects) :
    touch ∈ (runJob service contents src dst job conditions).2.1 := by
  simp only [runJob, plan, readable, if_true, listed, List.map_cons]
  apply List.mem_append_right _
  rcases Nat.exists_eq_succ_of_ne_zero (Nat.pos_iff_ne_zero.mp dispatched) with ⟨more, same⟩
  simp only [same, Nat.succ_eq_add_one, List.take_succ_cons, planAction, missing, runActions]
  split
  · exact member
  · exact List.mem_append_left _ member

end Touches

/-! ## What the create handler lets through -/

theorem demand_eq_ok {holds : Bool} {refusal : Refusal} {u : Unit} :
    demand holds refusal = .ok u ↔ holds = true := by
  cases holds <;> simp [demand]

theorem bind_eq_ok {α β : Type} {first : Except Refusal α} {next : α -> Except Refusal β}
    {result : β} : (first >>= next) = .ok result ↔
      Exists fun value => first = .ok value ∧ next value = .ok result := by
  cases first with
  | error refusal => simp [bind, Except.bind]
  | ok value => simp [bind, Except.bind]

theorem resolveField_eq_ok {urls : URLLibrary} {ring : Keyring} {userID raw field connID : String} :
    resolveField urls ring userID raw field = .ok connID ↔
      maybeResolveRegionField urls ring userID raw = .ok connID := by
  unfold resolveField
  cases maybeResolveRegionField urls ring userID raw <;> simp

/-- The connections a user's requests can lead to: visible ones that some text in a
connection field resolves to. -/
def CanName (urls : URLLibrary) (ring : Keyring) (admin : Bool) (userID connID : String) : Prop :=
  connID ∈ userVisibleConnections urls ring admin userID ∧
    Exists fun raw => maybeResolveRegionField urls ring userID raw = .ok connID

/-- A job is created exactly when its mode is known and both fields lead to a
connection the user can name. -/
theorem userCreateSync_eq_ok {urls : URLLibrary} {ring : Keyring} {admin : Bool} {userID : String}
    {req : UserSyncCreateRequest} {job : SyncJob} :
    userCreateSync urls ring admin userID req = .ok job ↔
      (req.mode = "pull" ∨ req.mode = "push") ∧
      Exists fun src => Exists fun dst =>
        maybeResolveRegionField urls ring userID req.srcConnectionID = .ok src ∧
        maybeResolveRegionField urls ring userID req.dstConnectionID = .ok dst ∧
        (ring.connection src).isSome = true ∧ (ring.connection dst).isSome = true ∧
        src ∈ userVisibleConnections urls ring admin userID ∧
        dst ∈ userVisibleConnections urls ring admin userID ∧
        job = {
          ownerUserID := userID, mode := req.mode, srcConnectionID := src,
          srcBucket := req.srcBucket, srcPrefix := req.srcPrefix, dstConnectionID := dst,
          dstBucket := req.dstBucket, dstPrefix := req.dstPrefix, state := .queued } := by
  simp only [userCreateSync, bind_eq_ok, demand_eq_ok, resolveField_eq_ok,
    hasConnectionAccess_iff, exists_and_left, exists_const, Bool.or_eq_true, decide_eq_true_eq]
  constructor
  · rintro ⟨mode, src, resolved, dst, same, held, kept, sees, reaches, made⟩
    exact ⟨mode, src, resolved, dst, same, held, kept, sees, reaches, (Except.ok.inj made).symm⟩
  · rintro ⟨mode, src, resolved, dst, same, held, kept, sees, reaches, rfl⟩
    exact ⟨mode, src, resolved, dst, same, held, kept, sees, reaches, rfl⟩

/-- A pull between two connections that the user sees is created. -/
theorem userCreateSync_pull {urls : URLLibrary} {ring : Keyring} {admin : Bool}
    {userID srcRaw dstRaw src dst : String} (srcBucket srcPrefix dstBucket : String)
    (srcResolved : maybeResolveRegionField urls ring userID srcRaw = .ok src)
    (dstResolved : maybeResolveRegionField urls ring userID dstRaw = .ok dst)
    (srcHeld : (ring.connection src).isSome = true) (dstHeld : (ring.connection dst).isSome = true)
    (srcVisible : src ∈ userVisibleConnections urls ring admin userID)
    (dstVisible : dst ∈ userVisibleConnections urls ring admin userID) :
    userCreateSync urls ring admin userID
        ⟨"pull", srcRaw, srcBucket, srcPrefix, dstRaw, dstBucket, ""⟩ =
      .ok ⟨userID, "pull", src, srcBucket, srcPrefix, dst, dstBucket, "", .queued⟩ :=
  userCreateSync_eq_ok.mpr ⟨Or.inl rfl, src, dst, srcResolved, dstResolved, srcHeld, dstHeld,
    srcVisible, dstVisible, rfl⟩

end Api
end Basement
