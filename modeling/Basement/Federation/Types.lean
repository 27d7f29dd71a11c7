import Mathlib.Data.Int.Basic
import Mathlib.Data.String.Basic

namespace Basement
namespace Federation

/-!
# Federated buckets

The records of the federation layer: one logical bucket with a primary endpoint
and a list of replica endpoints, each replica carrying the replication engine's
health and lag fields.

A `time.Time` is the number of nanoseconds since Go's zero time, so `IsZero` is a
comparison with `0`; a `time.Duration` is a number of nanoseconds.  Backends
report modification times rounded down to a second, which is `wholeSecond`.
-/

/-- `time.Second`. -/
def second : Int := 1000000000

/-- An instant rounded down to a second, the precision of a listed mtime. -/
def wholeSecond (instant : Int) : Int :=
  instant / second * second

theorem lt_wholeSecond_add (instant : Int) : instant < wholeSecond instant + second := by
  unfold wholeSecond second
  omega

theorem wholeSecond_mono {first later : Int} (order : first ≤ later) :
    wholeSecond first ≤ wholeSecond later := by
  unfold wholeSecond second
  omega

/-- The legal values of `ReplicaTarget.Health`; `unset` is the empty string. -/
inductive Health where
  | unset
  | pending
  | inSync
  | lagging
  | stale
  | broken
  deriving DecidableEq, Repr

/-- The region and bucket that identify one side of a federation. -/
structure Endpoint where
  regionID : String
  bucket : String
  deriving DecidableEq, Repr

/-- One endpoint inside a federation, with the engine's health fields. -/
structure ReplicaTarget where
  regionID : String
  bucket : String
  lastSync : Int := 0
  health : Health := .unset
  lagBytes : Int := 0
  lagObjects : Int := 0
  deriving DecidableEq, Repr

def ReplicaTarget.endpoint (target : ReplicaTarget) : Endpoint :=
  ⟨target.regionID, target.bucket⟩

inductive SyncMode where
  | continuous
  | scheduled
  deriving DecidableEq, Repr

structure FederationPolicy where
  syncMode : SyncMode
  schedule : String := ""
  lagAlertSec : Int
  writeQuorum : Int
  autoFailover : Bool := false
  autoFailoverSec : Int := 0
  deriving DecidableEq, Repr

/-- `DefaultPolicy`. -/
def defaultPolicy : FederationPolicy :=
  { syncMode := .continuous, lagAlertSec := 300, writeQuorum := 1 }

/-- One logical bucket over a primary and its replicas. -/
structure FederatedBucket where
  id : String
  ownerUserID : String
  name : String
  primary : ReplicaTarget
  replicas : List ReplicaTarget
  policy : FederationPolicy
  createdAt : Int := 0
  updatedAt : Int := 0
  failoverEpoch : Int := 0
  deriving DecidableEq, Repr

/-- Copy the four engine-owned fields and keep the endpoint as stored. -/
def ReplicaTarget.withHealth (stored health : ReplicaTarget) : ReplicaTarget :=
  { stored with
    lastSync := health.lastSync
    health := health.health
    lagBytes := health.lagBytes
    lagObjects := health.lagObjects }

@[simp] theorem ReplicaTarget.withHealth_lastSync (stored health : ReplicaTarget) :
    (stored.withHealth health).lastSync = health.lastSync := rfl

end Federation
end Basement
