import Mathlib.Data.String.Basic
import Mathlib.Logic.Function.Basic

namespace Basement
namespace Drivers

/-!
# Copying one object between two backends

Three parts of the program copy one object from a source to a destination: the
sync engine's `copyObject`, the restore's `copyRestoreObject` and the federation's
`replicateOne`.  Each first offers the copy to the destination as a server-side
copy when both sides have the same driver type, and otherwise streams the bytes.

The world is the contents of every endpoint.  A server-side copy is sent to the
destination's endpoint and reads and writes the buckets of that endpoint only.
Every driver call may fail; the error it fails with is an argument, so a result
holds for each combination of answers.
-/

/-- Where an object lies: the endpoint decides, the names alone do not. -/
structure Location where
  endpoint : String
  bucket : String
  key : String
  deriving DecidableEq, Repr

structure StoredObject where
  body : List UInt8
  contentType : String
  deriving DecidableEq, Repr

/-- The contents of every bucket of every endpoint. -/
abbrev World := Location -> Option StoredObject

/-- The two capability fields the copy paths look at. -/
structure Capabilities where
  driver : String
  serverSideCopy : Bool
  deriving DecidableEq, Repr

/-- A driver of some type, bound to the endpoint it sends its calls to. -/
structure Driver where
  endpoint : String
  caps : Capabilities
  deriving DecidableEq, Repr

/-- The error each call of one copy fails with, if it does. -/
structure Faults where
  srcCapabilities : Option String := none
  dstCapabilities : Option String := none
  serverSideCopy : Option String := none
  streamObject : Option String := none
  putObjectStream : Option String := none
  deriving DecidableEq, Repr

/-- The bucket and the key of an object on whichever endpoint is meant. -/
structure ObjectName where
  bucket : String
  key : String
  deriving DecidableEq, Repr

/-- The location of a name on the endpoint of a driver. -/
def Driver.at (driver : Driver) (name : ObjectName) : Location :=
  ⟨driver.endpoint, name.bucket, name.key⟩

/-! ## Driver calls -/

def Driver.capabilities (driver : Driver) (fault : Option String) : Except String Capabilities :=
  match fault with
  | some error => .error error
  | none => .ok driver.caps

/-- `StreamObject`. -/
def Driver.streamObject (driver : Driver) (name : ObjectName) (fault : Option String)
    (world : World) : Except String StoredObject :=
  match fault with
  | some error => .error error
  | none =>
      match world (driver.at name) with
      | some object => .ok object
      | none => .error "NoSuchKey"

/-- `PutObjectStream`. -/
def Driver.putObjectStream (driver : Driver) (name : ObjectName) (object : StoredObject)
    (fault : Option String) (world : World) : Except String World :=
  match fault with
  | some error => .error error
  | none => .ok (Function.update world (driver.at name) (some object))

/-- `ServerSideCopy`: both names are resolved on the driver's own endpoint. -/
def Driver.serverSideCopy (driver : Driver) (src dst : ObjectName) (fault : Option String)
    (world : World) : Except String World :=
  match fault with
  | some error => .error error
  | none =>
      match world (driver.at src) with
      | some object => .ok (Function.update world (driver.at dst) (some object))
      | none => .error "NoSuchKey"

/-! ## The three copy paths -/

/-- Move the bytes through the process, with the texts that wrap an error. -/
def streamThrough (srcDriver dstDriver : Driver) (src dst : ObjectName) (streamText putText : String)
    (faults : Faults) (world : World) : Except String World :=
  match srcDriver.streamObject src faults.streamObject world with
  | .error error => .error (streamText ++ ": " ++ error)
  | .ok object =>
      match dstDriver.putObjectStream dst object faults.putObjectStream world with
      | .error error => .error (putText ++ ": " ++ error)
      | .ok after => .ok after

/-- Offer the copy to the destination, and stream when it is not accepted. -/
def fastOrStream (offered : Bool) (srcDriver dstDriver : Driver) (src dst : ObjectName)
    (streamText putText : String) (faults : Faults) (world : World) : Except String World :=
  if offered then
    match dstDriver.serverSideCopy src dst faults.serverSideCopy world with
    | .ok after => .ok after
    | .error _ => streamThrough srcDriver dstDriver src dst streamText putText faults world
  else streamThrough srcDriver dstDriver src dst streamText putText faults world

/-- The error texts of one copy path. -/
structure CopyTexts where
  srcCapabilities : String
  dstCapabilities : String
  stream : String
  put : String
  deriving DecidableEq, Repr

/-- The copy path that gives up when a side does not tell its capabilities. -/
def copyChecked (texts : CopyTexts) (srcDriver dstDriver : Driver) (src dst : ObjectName)
    (faults : Faults) (world : World) : Except String World :=
  match srcDriver.capabilities faults.srcCapabilities with
  | .error error => .error (texts.srcCapabilities ++ ": " ++ error)
  | .ok srcCaps =>
      match dstDriver.capabilities faults.dstCapabilities with
      | .error error => .error (texts.dstCapabilities ++ ": " ++ error)
      | .ok dstCaps =>
          fastOrStream (srcCaps.driver == dstCaps.driver && dstCaps.serverSideCopy) srcDriver
            dstDriver src dst texts.stream texts.put faults world

/-- `sync.Engine.copyObject`. -/
def copyObject (srcDriver dstDriver : Driver) (src dst : ObjectName) (faults : Faults)
    (world : World) : Except String World :=
  copyChecked ⟨"getting source capabilities", "getting dest capabilities",
    "streaming source object", "putting dest object"⟩ srcDriver dstDriver src dst faults world

/-- `copyRestoreObject`. -/
def copyRestoreObject (srcDrv dstDrv : Driver) (src dst : ObjectName) (faults : Faults)
    (world : World) : Except String World :=
  copyChecked ⟨"source capabilities", "dest capabilities", "stream source", "put dest"⟩ srcDrv
    dstDrv src dst faults world

/-- The capabilities with an error ignored: the zero value stands for it. -/
def capabilitiesOrZero (driver : Driver) (fault : Option String) : Capabilities :=
  match driver.capabilities fault with
  | .ok caps => caps
  | .error _ => ⟨"", false⟩

/-- `federation.Engine.replicateOne`: the key is the same on both sides, and an
unknown driver type rules the server-side copy out. -/
def replicateOne (primaryDrv replicaDrv : Driver) (primaryBucket replicaBucket key : String)
    (faults : Faults) (world : World) : Except String World :=
  let srcCaps := capabilitiesOrZero primaryDrv faults.srcCapabilities
  let dstCaps := capabilitiesOrZero replicaDrv faults.dstCapabilities
  fastOrStream
    (srcCaps.driver != "" && srcCaps.driver == dstCaps.driver && dstCaps.serverSideCopy)
    primaryDrv replicaDrv ⟨primaryBucket, key⟩ ⟨replicaBucket, key⟩
    ("stream primary " ++ key.quote) ("put replica " ++ key.quote) faults world

/-! ## When a copy that reports success carries the source's bytes -/

/-- Success means that the destination holds the source's bytes, each side on its
own endpoint. -/
def CarriesSource (srcDriver dstDriver : Driver) (src dst : ObjectName) (world : World)
    (result : Except String World) : Prop :=
  forall after, result = .ok after ->
    Exists fun object => world (srcDriver.at src) = some object ∧
      (after (dstDriver.at dst)).map StoredObject.body = some object.body

/-- The destination endpoint accepts a server-side copy of an object of its own
whose bytes are not the source's. -/
def HoldsForeignObject (srcDriver dstDriver : Driver) (src : ObjectName) (faults : Faults)
    (world : World) : Prop :=
  faults.serverSideCopy = none ∧
    Exists fun foreign => world (dstDriver.at src) = some foreign ∧
      (world (srcDriver.at src)).map StoredObject.body ≠ some foreign.body

/-- Both sides tell their capabilities, have the same driver type, and the
destination advertises server-side copies. -/
def OffersServerSideCopy (srcDriver dstDriver : Driver) (faults : Faults) : Prop :=
  faults.srcCapabilities = none ∧ faults.dstCapabilities = none ∧
    srcDriver.caps.driver = dstDriver.caps.driver ∧ dstDriver.caps.serverSideCopy = true

theorem streamThrough_carriesSource (srcDriver dstDriver : Driver) (src dst : ObjectName)
    (streamText putText : String) (faults : Faults) (world : World) :
    CarriesSource srcDriver dstDriver src dst world
      (streamThrough srcDriver dstDriver src dst streamText putText faults world) := by
  intro after success
  unfold streamThrough at success
  cases streamed : srcDriver.streamObject src faults.streamObject world with
  | error error => simp [streamed] at success
  | ok object =>
      have present : world (srcDriver.at src) = some object := by
        unfold Driver.streamObject at streamed
        split at streamed
        · cases streamed
        · split at streamed
          · rename_i found
            rw [found, Except.ok.inj streamed]
          · cases streamed
      simp only [streamed, Driver.putObjectStream] at success
      cases written : faults.putObjectStream with
      | some error => simp [written] at success
      | none =>
          rw [written] at success
          cases Except.ok.inj success
          exact ⟨object, present, by simp⟩

/-- The exact condition, for every copy path that offers or streams. -/
theorem fastOrStream_carriesSource_iff (offered : Bool) (srcDriver dstDriver : Driver)
    (src dst : ObjectName) (streamText putText : String) (faults : Faults) (world : World) :
    CarriesSource srcDriver dstDriver src dst world
        (fastOrStream offered srcDriver dstDriver src dst streamText putText faults world) ↔
      ¬ (offered = true ∧ HoldsForeignObject srcDriver dstDriver src faults world) := by
  have streams := streamThrough_carriesSource srcDriver dstDriver src dst streamText putText faults
    world
  unfold fastOrStream HoldsForeignObject
  cases offered with
  | false => simpa using streams
  | true =>
      unfold Driver.serverSideCopy
      cases accepted : faults.serverSideCopy with
      | some error => simpa [accepted] using streams
      | none =>
          cases held : world (dstDriver.at src) with
          | none => simpa [held] using streams
          | some foreign =>
              simp only [if_true, true_and, Option.some.injEq, exists_eq_left', not_not]
              constructor
              · intro carries
                rcases carries _ rfl with ⟨object, present, same⟩
                simpa [present] using same.symm
              · intro same after success
                cases Except.ok.inj success
                cases present : world (srcDriver.at src) with
                | none => simp [present] at same
                | some object => exact ⟨object, rfl, by simpa [present] using same.symm⟩

/-- The exact condition, for the paths that give up without the capabilities. -/
theorem copyChecked_carriesSource_iff (texts : CopyTexts) (srcDriver dstDriver : Driver)
    (src dst : ObjectName) (faults : Faults) (world : World) :
    CarriesSource srcDriver dstDriver src dst world
        (copyChecked texts srcDriver dstDriver src dst faults world) ↔
      ¬ (OffersServerSideCopy srcDriver dstDriver faults ∧
        HoldsForeignObject srcDriver dstDriver src faults world) := by
  unfold copyChecked Driver.capabilities OffersServerSideCopy
  cases faults.srcCapabilities with
  | some error => simp [CarriesSource]
  | none =>
      cases faults.dstCapabilities with
      | some error => simp [CarriesSource]
      | none =>
          simp only [true_and, fastOrStream_carriesSource_iff, Bool.and_eq_true, beq_iff_eq]

theorem replicateOne_offered_iff (primaryDrv replicaDrv : Driver) (faults : Faults) :
    ((capabilitiesOrZero primaryDrv faults.srcCapabilities).driver != "" &&
        (capabilitiesOrZero primaryDrv faults.srcCapabilities).driver ==
          (capabilitiesOrZero replicaDrv faults.dstCapabilities).driver &&
        (capabilitiesOrZero replicaDrv faults.dstCapabilities).serverSideCopy) = true ↔
      primaryDrv.caps.driver ≠ "" ∧ OffersServerSideCopy primaryDrv replicaDrv faults := by
  unfold capabilitiesOrZero Driver.capabilities OffersServerSideCopy
  cases faults.srcCapabilities <;> cases faults.dstCapabilities <;> simp [and_assoc]

/-- A copy reported as done carries the source's bytes, on each of the three paths,
exactly when the path does not hand the copy to a destination endpoint that holds
other bytes under the source's names. -/
theorem copies_carry_source_iff (srcDriver dstDriver : Driver) (src dst : ObjectName)
    (faults : Faults) (world : World) :
    (CarriesSource srcDriver dstDriver src dst world
        (copyObject srcDriver dstDriver src dst faults world) ↔
      ¬ (OffersServerSideCopy srcDriver dstDriver faults ∧
        HoldsForeignObject srcDriver dstDriver src faults world)) ∧
    (CarriesSource srcDriver dstDriver src dst world
        (copyRestoreObject srcDriver dstDriver src dst faults world) ↔
      ¬ (OffersServerSideCopy srcDriver dstDriver faults ∧
        HoldsForeignObject srcDriver dstDriver src faults world)) ∧
    (CarriesSource srcDriver dstDriver src ⟨dst.bucket, src.key⟩ world
        (replicateOne srcDriver dstDriver src.bucket dst.bucket src.key faults world) ↔
      ¬ (srcDriver.caps.driver ≠ "" ∧ OffersServerSideCopy srcDriver dstDriver faults ∧
        HoldsForeignObject srcDriver dstDriver src faults world)) := by
  refine ⟨copyChecked_carriesSource_iff _ _ _ _ _ _ _,
    copyChecked_carriesSource_iff _ _ _ _ _ _ _, ?_⟩
  unfold replicateOne
  rw [fastOrStream_carriesSource_iff]
  simp only [replicateOne_offered_iff, HoldsForeignObject, and_assoc]

/-- Two AWS-type drivers on different endpoints whose buckets share their names. -/
def sampleDriver (endpoint : String) : Driver := ⟨endpoint, ⟨"aws-s3", true⟩⟩

def sampleWorld : World := fun location =>
  if location.endpoint = "https://one" then some ⟨[1], "text/plain"⟩ else some ⟨[2], "text/plain"⟩

/-- The destination endpoint has its own object under the source's names: all
three paths copy that one and report success. -/
theorem server_side_copy_takes_foreign_object :
    ¬ forall (srcDriver dstDriver : Driver) (src dst : ObjectName) (faults : Faults) (world : World),
      CarriesSource srcDriver dstDriver src dst world
          (copyObject srcDriver dstDriver src dst faults world) ∧
        CarriesSource srcDriver dstDriver src dst world
          (copyRestoreObject srcDriver dstDriver src dst faults world) ∧
        CarriesSource srcDriver dstDriver src ⟨dst.bucket, src.key⟩ world
          (replicateOne srcDriver dstDriver src.bucket dst.bucket src.key faults world) := by
  intro stated
  have carries := (stated (sampleDriver "https://one") (sampleDriver "https://two") ⟨"data", "k"⟩
    ⟨"backup", "k"⟩ {} sampleWorld).1 _ rfl
  rcases carries with ⟨object, present, same⟩
  cases Option.some.inj present
  exact absurd same (by decide)

end Drivers
end Basement
