import Basement.Api.Regions

namespace Basement
namespace Api
namespace BucketListing

/-!
# Listing the buckets of a region

The gateway and the API both list the buckets behind a user's region.  Garage does
not answer a data-plane `ListBuckets`, so both look for a Garage connection at the
region's endpoint and list with the administrator's token instead.

The API then means to keep the buckets the user's key can reach.  It probes each
one with `ListObjects` through the region's driver, which is always the `garage-v1`
driver, and drops it on a denied or missing error.  That driver reports every
failure of `ListObjects` as an invalid request.

The backend is the environment: what the administrator's listing and the user's
own listing answer, and what the backend says to the user's key for each bucket.
-/

inductive DriverError where
  | permissionDenied
  | notFound
  | unsupported
  | invalid
  deriving DecidableEq, Repr

structure Bucket where
  id : String
  aliases : List String
  deriving DecidableEq, Repr

/-- What the backend says to the user's key about one bucket. -/
inductive Answer where
  | allowed
  | denied
  | missing
  deriving DecidableEq, Repr

/-- The answer to an S3 `ListBuckets` signed with the user's key. -/
inductive ListAnswer where
  | names (names : List String)
  | notImplemented
  | failed
  deriving DecidableEq, Repr

structure Backend where
  /-- Building a connection's driver and listing with it. -/
  adminBuckets : String -> Except DriverError (List Bucket)
  userBuckets : ListAnswer
  answer : String -> Answer

/-! ## The region's driver -/

/-- `garage_v1` `ListObjects` with the user's key, as far as its error goes: the
wrapper keeps no trace of the backend's answer. -/
def listObjects (backend : Backend) (bucket : String) : Except DriverError Unit :=
  match backend.answer bucket with
  | .allowed => .ok ()
  | .denied => .error .invalid
  | .missing => .error .invalid

/-- `garage_v1` `ListBuckets` without an admin client. -/
def listBuckets (backend : Backend) : Except DriverError (List Bucket) :=
  match backend.userBuckets with
  | .names names => .ok (names.map fun name => ⟨name, [name]⟩)
  | .notImplemented => .ok []
  | .failed => .error .invalid

/-! ## The two listings -/

variable (urls : URLLibrary)

/-- The Garage connection both bridges pick: the first one at the endpoint. -/
def bridgeConnection (conns : List Connection) (endpoint : String) : Option Connection :=
  conns.find? fun conn => canonicalizeConnEndpoint urls conn == some endpoint &&
    (conn.driver == .garage || conn.driver == .garageV1)

/-- `ProductionBackend.adminBridge`; `none` is a bridge that does not apply.  The
connections are absent when the store is not wired or cannot be listed. -/
def adminBridge (conns : Option (List Connection)) (backend : Backend) (endpoint : String) :
    Option (Except DriverError (List Bucket)) :=
  match conns.bind fun conns => bridgeConnection urls conns endpoint with
  | none => none
  | some conn => some (backend.adminBuckets conn.id)

/-- `ProductionBackend.ListBuckets`. -/
def gatewayListBuckets (conns : Option (List Connection)) (backend : Backend)
    (endpoint : String) : Except DriverError (List Bucket) :=
  match adminBridge urls conns backend endpoint with
  | some bridged => bridged
  | none => listBuckets backend

/-- The name a bucket is reached by: its first alias, or its ID. -/
def Bucket.probe (bucket : Bucket) : String :=
  bucket.aliases.head?.getD bucket.id

/-- `regionKeyCanAccessBucket`. -/
def regionKeyCanAccessBucket (backend : Backend) (bucket : String) : Bool :=
  if bucket = "" then false
  else
    match listObjects backend bucket with
    | .ok _ => true
    | .error error => !(error == .permissionDenied || error == .notFound)

/-- `garageRegionBucketsBridge`. -/
def garageRegionBucketsBridge (conns : Option (List Connection)) (backend : Backend)
    (endpoint : String) : Option (Except DriverError (List Bucket)) :=
  match conns.bind fun conns => bridgeConnection urls conns endpoint with
  | none => none
  | some conn =>
      match backend.adminBuckets conn.id with
      | .error error => some (.error error)
      | .ok buckets =>
          some (.ok (buckets.filter fun bucket => regionKeyCanAccessBucket backend bucket.probe))

/-- `userListRegionBucketsHandler`. -/
def userListRegionBuckets (conns : Option (List Connection)) (backend : Backend)
    (endpoint : String) : Except DriverError (List Bucket) :=
  match garageRegionBucketsBridge urls conns backend endpoint with
  | some bridged => bridged
  | none => listBuckets backend

/-! ## Agreement and confinement -/

/-- Both listings fail, or both list the same buckets, each of which the backend
lets the user's key reach. -/
def AgreeWithinReach (backend : Backend)
    (gateway api : Except DriverError (List Bucket)) : Prop :=
  match gateway, api with
  | .ok fromGateway, .ok fromApi =>
      (forall bucket, bucket ∈ fromGateway ↔ bucket ∈ fromApi) ∧
        forall bucket, bucket ∈ fromGateway -> backend.answer bucket.probe = .allowed
  | .error _, .error _ => True
  | _, _ => False

/-- Every bucket of a list has a name, and the backend lets the user's key reach it. -/
def AllReachable (backend : Backend) (buckets : List Bucket) : Prop :=
  forall bucket, bucket ∈ buckets -> bucket.probe ≠ "" ∧ backend.answer bucket.probe = .allowed

/-- The list both answers are taken from: the administrator's when a Garage
connection sits at the endpoint, and the one the user's own key gets otherwise. -/
def SourceReachable (conns : Option (List Connection)) (backend : Backend) (endpoint : String) :
    Prop :=
  match conns.bind fun conns => bridgeConnection urls conns endpoint with
  | some conn => forall buckets, backend.adminBuckets conn.id = .ok buckets ->
      AllReachable backend buckets
  | none => forall names, backend.userBuckets = .names names -> forall name, name ∈ names ->
      backend.answer name = .allowed

/-- The probe cannot tell a denied bucket from a reachable one: it keeps every
bucket that has a name. -/
theorem regionKeyCanAccessBucket_eq (backend : Backend) (bucket : String) :
    regionKeyCanAccessBucket backend bucket = decide (bucket ≠ "") := by
  unfold regionKeyCanAccessBucket listObjects
  by_cases unnamed : bucket = ""
  · simp [unnamed]
  · rw [if_neg unnamed]
    cases backend.answer bucket <;> simp [unnamed]

/-- So the API keeps the administrator's list, apart from nameless buckets. -/
theorem garageRegionBucketsBridge_eq (conns : Option (List Connection)) (backend : Backend)
    (endpoint : String) :
    garageRegionBucketsBridge urls conns backend endpoint =
      (adminBridge urls conns backend endpoint).map fun bridged =>
        bridged.map fun buckets => buckets.filter fun bucket => decide (bucket.probe ≠ "") := by
  unfold garageRegionBucketsBridge adminBridge
  cases conns.bind fun conns => bridgeConnection urls conns endpoint with
  | none => rfl
  | some conn =>
      simp only [Option.map_some, regionKeyCanAccessBucket_eq]
      cases backend.adminBuckets conn.id with
      | error error => rfl
      | ok buckets => rfl

theorem agree_filtered_iff (backend : Backend) (buckets : List Bucket) :
    AgreeWithinReach backend (.ok buckets)
        (.ok (buckets.filter fun bucket => decide (bucket.probe ≠ ""))) ↔
      AllReachable backend buckets := by
  simp only [AgreeWithinReach, AllReachable, List.mem_filter, decide_eq_true_eq]
  constructor
  · rintro ⟨same, allowed⟩ bucket listed
    exact ⟨((same bucket).mp listed).2, allowed bucket listed⟩
  · intro reachable
    refine ⟨?_, fun bucket listed => (reachable bucket listed).2⟩
    intro bucket
    exact ⟨fun listed => ⟨listed, (reachable bucket listed).1⟩, fun both => both.1⟩

/-- The two listings agree and stay within the key's reach exactly when the list
they both start from does: neither removes a bucket the key cannot reach. -/
theorem bucket_listings_agree_iff (conns : Option (List Connection)) (backend : Backend)
    (endpoint : String) :
    AgreeWithinReach backend (gatewayListBuckets urls conns backend endpoint)
        (userListRegionBuckets urls conns backend endpoint) ↔
      SourceReachable urls conns backend endpoint := by
  unfold gatewayListBuckets userListRegionBuckets SourceReachable
  rw [garageRegionBucketsBridge_eq]
  unfold adminBridge
  cases conns.bind fun conns => bridgeConnection urls conns endpoint with
  | none =>
      simp only [Option.map_none, listBuckets]
      cases backend.userBuckets with
      | names names => simp [AgreeWithinReach, Bucket.probe]
      | notImplemented => simp [AgreeWithinReach]
      | failed => simp [AgreeWithinReach]
  | some conn =>
      simp only [Option.map_some]
      cases backend.adminBuckets conn.id with
      | error error => simp [AgreeWithinReach, Except.map]
      | ok buckets =>
          simp only [Except.map, Except.ok.injEq, forall_eq']
          exact agree_filtered_iff backend buckets

/-- A Garage connection at the region's endpoint whose administrator sees a bucket
of another tenant. -/
def sampleConnections : List Connection :=
  [{ id := "c1", driver := .garage, s3Endpoint := "https://s3.local" }]

def sampleBackend : Backend where
  adminBuckets _ := .ok [⟨"01", ["mine"]⟩, ⟨"02", ["theirs"]⟩]
  userBuckets := .notImplemented
  answer name := if name = "mine" then .allowed else .denied

/-- Both listings show the other tenant's bucket, which the backend denies to the
user's key. -/
theorem both_listings_show_denied_bucket :
    gatewayListBuckets sampleURLs (some sampleConnections) sampleBackend "https://s3.local" =
        .ok [⟨"01", ["mine"]⟩, ⟨"02", ["theirs"]⟩] ∧
      userListRegionBuckets sampleURLs (some sampleConnections) sampleBackend "https://s3.local" =
        .ok [⟨"01", ["mine"]⟩, ⟨"02", ["theirs"]⟩] ∧
      sampleBackend.answer "theirs" = .denied ∧
      ¬ AgreeWithinReach sampleBackend
        (gatewayListBuckets sampleURLs (some sampleConnections) sampleBackend "https://s3.local")
        (userListRegionBuckets sampleURLs (some sampleConnections) sampleBackend
          "https://s3.local") := by
  refine ⟨by decide, by decide, by decide, ?_⟩
  intro agree
  exact absurd (agree.2 ⟨"02", ["theirs"]⟩ (by decide)) (by decide)

end BucketListing
end Api
end Basement
