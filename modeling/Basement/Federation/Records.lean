import Basement.Federation.Diff

namespace Basement
namespace Federation

/-!
# What a pass and an event write into the record

The engine ends every pass and every event task with one `UpdateReplicaHealth`.  The
three functions below compute the health that is written, from the snapshot of the
replica the pass or the task was started with.
-/

/-- `BrokenFailureThreshold`. -/
def brokenFailureThreshold : Nat := 3

/-- Whether `recordSuccess` takes the pass for fully drained. -/
def fullyDrained (pendingObjects : Int) (dr : DiffResult) : Bool :=
  !(decide (0 < pendingObjects) || dr.truncated)

theorem fullyDrained_iff {pendingObjects : Int} {dr : DiffResult} :
    fullyDrained pendingObjects dr = true ↔ pendingObjects ≤ 0 ∧ dr.truncated = false := by
  simp [fullyDrained]

/-- `recordSuccess`: the watermark advances to the present when the pass drained.
Whether anything was copied makes no difference to what is written. -/
def recordSuccess (now : Int) (replica : ReplicaTarget) (pendingObjects pendingBytes : Int)
    (dr : DiffResult) : ReplicaTarget where
  regionID := replica.regionID
  bucket := replica.bucket
  lastSync := if fullyDrained pendingObjects dr then now else replica.lastSync
  health := if fullyDrained pendingObjects dr then .inSync else .lagging
  lagBytes := pendingBytes
  lagObjects := pendingObjects

/-- `recordFailure`, with the count after this failure and the row that the store gives
back; the lag is zero when the store does not. -/
def recordFailure (failures : Nat) (stored : Option ReplicaTarget) (replica : ReplicaTarget) :
    ReplicaTarget where
  regionID := replica.regionID
  bucket := replica.bucket
  lastSync := replica.lastSync
  health := if brokenFailureThreshold ≤ failures then .broken else .lagging
  lagBytes := (stored.map fun row => row.lagBytes).getD 0
  lagObjects := (stored.map fun row => row.lagObjects).getD 0

/-- `recordDeleteSuccess`: the stored watermark and lag are kept. -/
def recordDeleteSuccess (stored : Option ReplicaTarget) (replica : ReplicaTarget) :
    ReplicaTarget where
  regionID := replica.regionID
  bucket := replica.bucket
  lastSync := (stored.getD replica).lastSync
  health := if 0 < (stored.map fun row => row.lagObjects).getD 0 then .lagging else .inSync
  lagBytes := (stored.map fun row => row.lagBytes).getD 0
  lagObjects := (stored.map fun row => row.lagObjects).getD 0

/-- A successful pass writes the present or the watermark it started with. -/
theorem recordSuccess_lastSync (now : Int) (replica : ReplicaTarget)
    (pendingObjects pendingBytes : Int) (dr : DiffResult) :
    (recordSuccess now replica pendingObjects pendingBytes dr).lastSync =
      if fullyDrained pendingObjects dr then now else replica.lastSync := rfl

end Federation
end Basement
