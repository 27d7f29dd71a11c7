import Basement.Api.RequestedLifetimes
import Basement.Uploads.Landing

namespace Basement
namespace Api
namespace ObjectKeys

open Drivers.RetentionDays (ObjectLockRetention)
open Library
open PercentEncoding (Bytes percent decode decode_of_plain decode_ne_self)
open RequestedLifetimes (presignTTL)
open Uploads (Router encodeURIComponent marked pathUnescape rawPath)

/-!
# Which object a request is about

Some requests name an object in a segment of their path.  The browser encodes the key, the URL
parser decodes the path and keeps the encoded one only if it is not the default encoding, the
router takes the segment from whichever path there is, and the handler decodes it once more and
drops the error.

A handler is modelled up to the calls of the driver, with everything but the names of the path
given by the site.
-/

/-! ## Requests -/

/-- What a handler asks the driver for. -/
inductive DriverCall where
  | presignGet (bucket key : Bytes) (ttl : Int)
  | presignPut (bucket key : Bytes) (ttl : Int) (contentType : String)
  | deleteObject (bucket key : Bytes)
  | getObjectRetention (bucket key : Bytes) (versionID : String)
  | putObjectRetention (bucket key : Bytes) (versionID : String) (ret : ObjectLockRetention)
      (bypassGovernance : Bool)

/-- The bucket and the key of a call. -/
def DriverCall.object : DriverCall -> Bytes × Bytes
  | .presignGet bucket key _ => (bucket, key)
  | .presignPut bucket key _ _ => (bucket, key)
  | .deleteObject bucket key => (bucket, key)
  | .getObjectRetention bucket key _ => (bucket, key)
  | .putObjectRetention bucket key _ _ _ => (bucket, key)

/-- The four requests, with what they bring besides the path.  The body of a retention is `none` if
it is not JSON. -/
inductive Operation where
  | presignGet (ttl : String)
  | presignPut (ttl contentType : String)
  | delete
  | putRetention (versionID bypassGovernance : String) (body : Option ObjectLockRetention)

/-- The names that the browser puts into the path. -/
structure ObjectRequest where
  region : Bytes
  bid : Bytes
  key : Bytes
  operation : Operation

/-- The segments of the path that a request fills in. -/
def ObjectRequest.sent (request : ObjectRequest) : List Bytes :=
  [request.region, request.bid, request.key].map encodeURIComponent

/-! ## The handlers -/

/-- The router, the owners of the stored regions, the user of the session, what comes of making a
driver and whether that supports locks, and the clock. -/
structure Site where
  router : Router
  regions : Bytes -> Option Bytes
  userID : Bytes
  driver : Except String Bool
  now : Int

namespace Site

variable (site : Site)

/-- `requireOwnedRegion`. -/
def requireOwnedRegion (regionID : Bytes) : Except Refusal Unit := do
  demand (site.userID ≠ []) ⟨401, "UNAUTHORIZED", "No active session", []⟩
  demand (regionID ≠ []) ⟨400, "INVALID_REQUEST", "regionId is required", []⟩
  demand (site.regions regionID = some site.userID)
    ⟨404, "REGION_NOT_FOUND", "Region not found", []⟩

/-- `regionDriver`. -/
def regionDriver : Except Refusal Bool :=
  match site.driver with
  | .error error => .error ⟨500, "REGION_DRIVER_FAILED", error, []⟩
  | .ok objectLock => .ok objectLock

/-- `chi.URLParam`. -/
def urlParam (request : ObjectRequest) (name : Bytes) : Bytes :=
  site.router.param request.sent (encodeURIComponent name)

/-- The key a handler reads from the path. -/
def keyOf (request : ObjectRequest) : Bytes := pathUnescape (site.urlParam request request.key)

/-- `userPresignGetRegionObjectHandler`. -/
def userPresignGet (request : ObjectRequest) (ttl : String) : Except Refusal (List DriverCall) := do
  site.requireOwnedRegion (site.urlParam request request.region)
  let bid := site.urlParam request request.bid
  let key := site.keyOf request
  demand (bid ≠ [] && key ≠ []) ⟨400, "INVALID_REQUEST", "bucket id and key required", []⟩
  let _ ← site.regionDriver
  return [.presignGet bid key (presignTTL ttl)]

/-- `userPresignPutRegionObjectHandler`. -/
def userPresignPut (request : ObjectRequest) (ttl contentType : String) :
    Except Refusal (List DriverCall) := do
  site.requireOwnedRegion (site.urlParam request request.region)
  let bid := site.urlParam request request.bid
  let key := site.keyOf request
  demand (bid ≠ [] && key ≠ []) ⟨400, "INVALID_REQUEST", "bucket id and key required", []⟩
  let _ ← site.regionDriver
  return [.presignPut bid key (presignTTL ttl) contentType]

/-- `userDeleteRegionObjectHandler`. -/
def userDelete (request : ObjectRequest) : Except Refusal (List DriverCall) := do
  site.requireOwnedRegion (site.urlParam request request.region)
  let bid := site.urlParam request request.bid
  let key := site.keyOf request
  demand (bid ≠ [] && key ≠ []) ⟨400, "INVALID_REQUEST", "bucket id and key required", []⟩
  let _ ← site.regionDriver
  return [.deleteObject bid key]

/-- The body of a retention request. -/
def readRetention (body : Option ObjectLockRetention) : Except Refusal ObjectLockRetention :=
  match body with
  | none => .error ⟨400, "INVALID_JSON", "invalid request body", []⟩
  | some ret => do
      demand (ret.mode = "GOVERNANCE" || ret.mode = "COMPLIANCE")
        ⟨400, "INVALID_REQUEST", "mode must be \"GOVERNANCE\" or \"COMPLIANCE\"", []⟩
      demand (ret.retainUntilDate ≠ 0) ⟨400, "INVALID_REQUEST", "retainUntilDate required", []⟩
      demand (!decide (ret.retainUntilDate < site.now))
        ⟨400, "INVALID_REQUEST", "retainUntilDate must be in the future", []⟩
      return ret

/-- `userPutObjectRetentionHandler`. -/
def userPutObjectRetention (request : ObjectRequest) (versionID bypassGovernance : String)
    (body : Option ObjectLockRetention) : Except Refusal (List DriverCall) := do
  site.requireOwnedRegion (site.urlParam request request.region)
  let bid := site.urlParam request request.bid
  let key := site.keyOf request
  demand (bid ≠ [] && key ≠ [] && versionID ≠ "")
    ⟨400, "INVALID_REQUEST", "bucket id, key, and versionId required", []⟩
  let ret ← site.readRetention body
  let objectLock ← site.regionDriver
  demand objectLock
    ⟨501, "NOT_SUPPORTED", "This backend driver does not support Object Lock.",
      [("capability", "objectLock")]⟩
  return [.getObjectRetention bid key versionID,
    .putObjectRetention bid key versionID ret (bypassGovernance = "true")]

def serve (request : ObjectRequest) : Except Refusal (List DriverCall) :=
  match request.operation with
  | .presignGet ttl => site.userPresignGet request ttl
  | .presignPut ttl contentType => site.userPresignPut request ttl contentType
  | .delete => site.userDelete request
  | .putRetention versionID bypassGovernance body =>
      site.userPutObjectRetention request versionID bypassGovernance body

/-! ## What a request acts on -/

/-- The request passes every check that does not look at the key. -/
def Admits (request : ObjectRequest) : Prop :=
  site.requireOwnedRegion (site.urlParam request request.region) = .ok () ∧ request.bid ≠ [] ∧
    match request.operation with
    | .putRetention versionID _ body =>
        versionID ≠ "" ∧ (Exists fun ret => site.readRetention body = .ok ret) ∧
          site.driver = .ok true
    | _ => Exists fun objectLock => site.driver = .ok objectLock

/-- Every call of the request is about the key, and there is one. -/
def ActsOn (request : ObjectRequest) (key : Bytes) : Prop :=
  Exists fun calls => site.serve request = .ok calls ∧ calls ≠ [] ∧
    forall call, call ∈ calls -> call.object.2 = key

variable {site}

/-- No handler goes on without a key. -/
theorem serve_of_empty {request : ObjectRequest}
    (owned : site.requireOwnedRegion (site.urlParam request request.region) = .ok ())
    (key : site.keyOf request = []) : Exists fun refusal => site.serve request = .error refusal := by
  unfold serve
  cases operation : request.operation with
  | presignGet ttl => simp [userPresignGet, owned, key, demand, bind, Except.bind]
  | presignPut ttl contentType => simp [userPresignPut, owned, key, demand, bind, Except.bind]
  | delete => simp [userDelete, owned, key, demand, bind, Except.bind]
  | putRetention versionID bypassGovernance body =>
      simp [userPutObjectRetention, owned, key, demand, bind, Except.bind]

/-- With one, an admitted request asks the driver for the object it has read. -/
theorem serve_of_named {request : ObjectRequest} (admitted : site.Admits request)
    (key : site.keyOf request ≠ []) :
    Exists fun calls => site.serve request = .ok calls ∧ calls ≠ [] ∧
      forall call, call ∈ calls ->
        call.object = (site.urlParam request request.bid, site.keyOf request) := by
  rcases admitted with ⟨owned, bucket, rest⟩
  have bid : site.urlParam request request.bid ≠ [] :=
    fun empty => bucket ((site.router.param_eq_nil _ _).mp empty)
  unfold serve
  cases operation : request.operation with
  | presignGet ttl =>
      rw [operation] at rest
      rcases rest with ⟨objectLock, opened⟩
      simp [userPresignGet, regionDriver, owned, bid, key, opened, demand, bind, Except.bind,
        pure, Except.pure, DriverCall.object]
  | presignPut ttl contentType =>
      rw [operation] at rest
      rcases rest with ⟨objectLock, opened⟩
      simp [userPresignPut, regionDriver, owned, bid, key, opened, demand, bind, Except.bind,
        pure, Except.pure, DriverCall.object]
  | delete =>
      rw [operation] at rest
      rcases rest with ⟨objectLock, opened⟩
      simp [userDelete, regionDriver, owned, bid, key, opened, demand, bind, Except.bind,
        pure, Except.pure, DriverCall.object]
  | putRetention versionID bypassGovernance body =>
      rw [operation] at rest
      rcases rest with ⟨version, ⟨ret, read⟩, opened⟩
      simp [userPutObjectRetention, regionDriver, owned, bid, key, opened, version, read, demand,
        bind, Except.bind, pure, Except.pure, DriverCall.object]

theorem actsOn_iff {request : ObjectRequest} (admitted : site.Admits request) {key : Bytes} :
    site.ActsOn request key ↔ site.keyOf request = key ∧ key ≠ [] := by
  unfold ActsOn
  by_cases empty : site.keyOf request = []
  · rcases serve_of_empty admitted.1 empty with ⟨refusal, refused⟩
    rw [refused, empty]
    refine iff_of_false (fun acts => ?_) (fun same => same.2 same.1.symm)
    rcases acts with ⟨calls, served, _⟩
    cases served
  · rcases serve_of_named admitted empty with ⟨calls, served, some, objects⟩
    rw [served]
    constructor
    · rintro ⟨found, same, _, keys⟩
      cases same
      rcases List.exists_mem_of_ne_nil calls some with ⟨call, listed⟩
      have same := keys call listed
      rw [objects call listed] at same
      subst same
      exact ⟨rfl, empty⟩
    · rintro ⟨rfl, _⟩
      exact ⟨calls, rfl, some, fun call listed => congrArg Prod.snd (objects call listed)⟩

end Site

/-! ## Keys that survive the path -/

/-- The key has no percent sign, or the URL keeps the path as it was sent, since one of its names
has a byte on which the two encoders differ. -/
def ObjectRequest.Survives (request : ObjectRequest) : Prop :=
  percent ∉ request.key ∨
    [request.region, request.bid, request.key].any fun name => name.any marked

theorem keyOf_eq_iff {site : Site} {request : ObjectRequest} (named : request.key ≠ []) :
    site.keyOf request = request.key ↔ request.Survives := by
  have kept := Uploads.rawPath_encoded [request.region, request.bid, request.key]
  unfold Site.keyOf Site.urlParam ObjectRequest.Survives
  rw [← kept]
  cases raw : rawPath request.sent with
  | true =>
      rw [site.router.param_raw raw, Uploads.pathUnescape_encodeURIComponent]
      exact iff_of_true rfl (Or.inr raw)
  | false =>
      rw [site.router.param_path raw, Uploads.pathUnescape_encodeURIComponent]
      have path : ¬ rawPath ([request.region, request.bid, request.key].map encodeURIComponent) =
        true := fun keeps => Bool.false_ne_true (raw.symm.trans keeps)
      rw [or_iff_left path]
      -- the segment was decoded by the parser, and is decoded a second time
      constructor
      · intro same listed
        unfold pathUnescape at same
        cases read : decode request.key with
        | none =>
            rw [read] at same
            exact named same.symm
        | some decoded =>
            rw [read] at same
            exact decode_ne_self read listed same
      · intro plain
        rw [pathUnescape, decode_of_plain plain, Option.getD_some]

/-- An admitted request acts on its key exactly if the key survives the path, and requests whose
keys do act on different objects if the keys are different. -/
theorem object_addressed_iff {site : Site} {request : ObjectRequest}
    (admitted : site.Admits request) (named : request.key ≠ []) :
    (site.ActsOn request request.key ↔ request.Survives) ∧
      forall (later : Site) (other : ObjectRequest), later.Admits other -> other.key ≠ [] ->
        request.Survives -> other.Survives -> request.key ≠ other.key ->
          forall key, site.ActsOn request key -> ¬ later.ActsOn other key := by
  constructor
  · rw [Site.actsOn_iff admitted, and_iff_left named, keyOf_eq_iff named]
  · intro later other alsoAdmitted alsoNamed survives alsoSurvives differ key acts alsoActs
    have first := (Site.actsOn_iff admitted).mp acts
    have second := (Site.actsOn_iff alsoAdmitted).mp alsoActs
    rw [(keyOf_eq_iff named).mpr survives] at first
    rw [(keyOf_eq_iff alsoNamed).mpr alsoSurvives] at second
    exact differ (first.1.trans second.1.symm)

def sampleSite : Site where
  router := Uploads.sampleRouter
  regions regionID := if regionID = [114] then some [117] else none
  userID := [117]
  driver := .ok true
  now := 5

/-- A request to delete an object of the bucket `b`. -/
def sampleDelete (key : Bytes) : ObjectRequest := ⟨[114], [98], key, .delete⟩

theorem object_addressed_iff_plus :
    (sampleSite.ActsOn (sampleDelete [97, 43, 98]) [97, 43, 98] ↔
        (sampleDelete [97, 43, 98]).Survives) ∧
      forall key, sampleSite.ActsOn (sampleDelete [97, 43, 98]) key ->
        ¬ sampleSite.ActsOn (sampleDelete [97, 32, 98]) key := by
  have stated := @object_addressed_iff sampleSite (sampleDelete [97, 43, 98])
    ⟨by decide, by decide, true, rfl⟩ (by decide)
  refine ⟨stated.1, ?_⟩
  exact stated.2 sampleSite (sampleDelete [97, 32, 98]) ⟨by decide, by decide, true, rfl⟩ (by decide)
    (Or.inl (by decide)) (Or.inl (by decide)) (by decide)

/-- Deleting the key `a%20b` deletes the key `a b`. -/
theorem other_object_deleted :
    ¬ forall (site : Site) (request : ObjectRequest), site.Admits request -> request.key ≠ [] ->
      site.ActsOn request request.key := by
  intro claimed
  have admitted : sampleSite.Admits (sampleDelete [97, 37, 50, 48, 98]) :=
    ⟨by decide, by decide, true, rfl⟩
  have acts := claimed sampleSite (sampleDelete [97, 37, 50, 48, 98]) admitted (by decide)
  have read := ((Site.actsOn_iff admitted).mp acts).1
  revert read
  decide

end ObjectKeys
end Api
end Basement
