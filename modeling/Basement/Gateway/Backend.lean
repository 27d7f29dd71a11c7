import Basement.Drivers.CopySource
import Basement.Drivers.Listing

namespace Basement
namespace Gateway

open Library Drivers

/-!
# The backend of the gateways

A gateway reaches the objects of a region through its driver.  A driver that writes fails with
one of two errors, and a missing object is none of them: its deletion succeeds.  A call that has
failed for its caller may still have been served.

Several names may stand for one bucket of an endpoint, as the aliases of Garage do.
-/

/-- The errors of the backend and of the operating system. -/
inductive FsError where
  | unauthenticated
  | unauthorized
  | notFound
  | conflict
  | unsupported
  | permission
  | notExist
  | invalid
  | other (text : String)
  deriving DecidableEq, Repr

/-- The errors of a driver's `ServerSideCopy`, `DeleteObject`, `PutObjectStream` and
`ListObjects`. -/
inductive DriverError where
  | unsupported
  | invalid (message : String)
  deriving DecidableEq, Repr

def mapDriverError : DriverError -> FsError
  | .unsupported => .unsupported
  | .invalid message => .other message

/-- How a call fails, and whether the service has done its work all the same. -/
structure Failure where
  error : DriverError
  served : Bool
  deriving DecidableEq, Repr

/-- The drivers of the regions, by their endpoints, and the buckets behind the names. -/
structure Site where
  driverForRegion : String -> Except FsError String
  bucketOf : String -> String -> String

def Site.location (site : Site) (endpoint bucket key : String) : Location :=
  ⟨endpoint, site.bucketOf endpoint bucket, key⟩

def Site.place (site : Site) (endpoint bucket : String) : Place :=
  ⟨endpoint, site.bucketOf endpoint bucket⟩

/-- An answer and what the storage is after it. -/
abbrev Reply := Except FsError Unit × Storage

/-- A call that writes, as its caller sees it. -/
def attempt (fault : Option Failure) (storage : Storage)
    (call : Storage -> Except DriverError Storage) : Reply :=
  match call storage with
  | .error error =>
      (.error (mapDriverError ((fault.map Failure.error).getD error)), storage)
  | .ok after =>
      match fault with
      | none => (.ok (), after)
      | some failure =>
          (.error (mapDriverError failure.error), if failure.served then after else storage)

/-- `DeleteObject` of a driver. -/
def erasing (location : Location) (storage : Storage) : Except DriverError Storage :=
  .ok (storage.erase location)

/-- `PutObjectStream`. -/
def putting (location : Location) (object : StoredObject) (storage : Storage) :
    Except DriverError Storage :=
  .ok (storage.put location object)

namespace Site

variable (site : Site)

/-- The object that the service reads for the source of a copy. -/
def copyRead (endpoint srcBucket srcKey : String) (storage : Storage) : Option StoredObject :=
  match requestedObject ⟨srcBucket, srcKey⟩ with
  | none => none
  | some read => storage.world (site.location endpoint read.bucket read.key)

/-- `ServerSideCopy`. -/
def serverSideCopy (endpoint srcBucket srcKey dstBucket dstKey : String) (storage : Storage) :
    Except DriverError Storage :=
  match site.copyRead endpoint srcBucket srcKey storage with
  | none => .error (.invalid "NoSuchKey")
  | some object => .ok (storage.put (site.location endpoint dstBucket dstKey) object)

/-- `Backend.CopyObject`. -/
def copyObject (srcRegionID srcBucket srcKey dstRegionID dstBucket dstKey : String)
    (fault : Option Failure) (storage : Storage) : Reply :=
  if srcRegionID ≠ dstRegionID then (.error .unsupported, storage)
  else
    match site.driverForRegion srcRegionID with
    | .error error => (.error error, storage)
    | .ok endpoint =>
        attempt fault storage (site.serverSideCopy endpoint srcBucket srcKey dstBucket dstKey)

/-- `Backend.DeleteObject`. -/
def deleteObject (regionID bucket key : String) (fault : Option Failure) (storage : Storage) :
    Reply :=
  match site.driverForRegion regionID with
  | .error error => (.error error, storage)
  | .ok endpoint => attempt fault storage (erasing (site.location endpoint bucket key))

/-- `Backend.PutObject`. -/
def putObject (regionID bucket key : String) (body : List UInt8) (contentType : String)
    (fault : Option Failure) (storage : Storage) : Reply :=
  match site.driverForRegion regionID with
  | .error error => (.error error, storage)
  | .ok endpoint =>
      attempt fault storage (putting (site.location endpoint bucket key)
        ⟨body, if contentType = "" then "application/octet-stream" else contentType⟩)

/-- `Backend.ListObjects`. -/
def listObjects (pager : Pager) (regionID bucket keyPrefix : String) (delimiter : Option Char)
    (continuationToken : String) (limit : Nat) (fault : Option DriverError) (storage : Storage) :
    Except FsError ObjectPage :=
  match site.driverForRegion regionID with
  | .error error => .error error
  | .ok endpoint =>
      match fault with
      | some error => .error (mapDriverError error)
      | none =>
          match pager.listObjects (storage (site.place endpoint bucket)) keyPrefix continuationToken
            delimiter (if limit = 0 then 1000 else limit) with
          | none => .error (mapDriverError (.invalid "InvalidArgument"))
          | some page => .ok page

end Site

/-! ## What the calls do -/

section Attempt

variable (fault : Option Failure) {storage : Storage}
  {call : Storage -> Except DriverError Storage}

theorem attempt_ok {after : Storage} (works : call storage = .ok after) :
    (fault = none ∧ attempt fault storage call = (.ok (), after)) ∨
      Exists fun failure => fault = some failure ∧ attempt fault storage call =
        (.error (mapDriverError failure.error), if failure.served then after else storage) := by
  rw [attempt, works]
  cases fault with
  | none => exact Or.inl ⟨rfl, rfl⟩
  | some failure => exact Or.inr ⟨failure, rfl, rfl⟩

theorem attempt_error {error : DriverError} (fails : call storage = .error error) :
    Exists fun answer => attempt fault storage call = (.error answer, storage) := by
  rw [attempt, fails]
  exact ⟨_, rfl⟩

end Attempt

theorem listObjects_ok {site : Site} {pager : Pager}
    {regionID endpoint bucket keyPrefix token : String} {delimiter : Option Char} {limit : Nat}
    {storage : Storage} {page : ObjectPage}
    (driver : site.driverForRegion regionID = .ok endpoint) (asks : limit ≠ 0)
    (answer : pager.listObjects (storage (site.place endpoint bucket)) keyPrefix token delimiter
      limit = some page) :
    site.listObjects pager regionID bucket keyPrefix delimiter token limit none storage =
      .ok page := by
  rw [Site.listObjects, driver]
  simp only [if_neg asks, answer]

end Gateway
end Basement
