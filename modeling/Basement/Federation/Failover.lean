import Basement.Federation.Store
import Basement.Library.CompareAndSwap
import Basement.Library.Transition

namespace Basement
namespace Federation
namespace Failover

open Library

/-!
# Failover

A failover swaps a federation's primary with one of its replicas.  The watchdog
does it by itself when the primary stays unreachable, and the operator does it
through the API.  Both read the record, choose a replica, build a patch from what
they read and later hand the patch to `PromoteWithEpoch`, which compares the
epoch only.

The system below runs any number of such failovers against one federation, in
any order with updates, health updates and a deletion.  A read and the write that
belongs to it are separate steps.  The store files a row under the row's own ID,
so one `id` names the federation throughout.
-/

/-! ## Choosing the replica to promote -/

/-- The largest and the smallest value of Go's 64-bit `int`. -/
def maxInt : Int := 2 ^ 63 - 1

def minInt : Int := -(2 ^ 63)

/-- `FailoverEpoch + 1` in Go's `int`, which wraps around. -/
def nextEpoch (epoch : Int) : Int :=
  if epoch = maxInt then minInt else epoch + 1

/-- Ten times `LagAlertSec`, or zero when the staleness gate is off. -/
def staleBound (policy : FederationPolicy) : Int :=
  if policy.lagAlertSec > 0 then 10 * policy.lagAlertSec * second else 0

/-- A replica `pickHealthiestReplica` considers, with its lag in seconds. -/
structure Scored where
  rep : ReplicaTarget
  lagSec : Int
  deriving DecidableEq, Repr

/-- The eligibility gate for one replica. -/
def score (fb : FederatedBucket) (now : Int) (rep : ReplicaTarget) : Option Scored :=
  if rep.lastSync = 0 then none
  else if rep.health = .broken then none
  else if staleBound fb.policy > 0 ∧ now - rep.lastSync > staleBound fb.policy then none
  else some ⟨rep, max (now - rep.lastSync) 0 / second⟩

/-- Smaller lag first, then region and bucket. -/
def Scored.before (candidate best : Scored) : Bool :=
  if candidate.lagSec < best.lagSec then true
  else if candidate.lagSec > best.lagSec then false
  else if candidate.rep.regionID < best.rep.regionID then true
  else if candidate.rep.regionID > best.rep.regionID then false
  else candidate.rep.bucket < best.rep.bucket

def bestOf (first : Scored) (rest : List Scored) : Scored :=
  rest.foldl (fun best candidate => if candidate.before best then candidate else best) first

/-- `pickHealthiestReplica`. -/
def pickHealthiestReplica (fb : FederatedBucket) (now : Int) : Option ReplicaTarget :=
  match fb.replicas.filterMap (score fb now) with
  | [] => none
  | first :: rest => some (bestOf first rest).rep

theorem bestOf_mem (first : Scored) (rest : List Scored) : bestOf first rest ∈ first :: rest := by
  induction rest generalizing first with
  | nil => exact List.mem_cons_self
  | cons candidate rest ih =>
      have chosen := ih (if candidate.before first then candidate else first)
      change bestOf first (candidate :: rest) ∈ _ at chosen
      rcases List.mem_cons.mp chosen with same | listed
      · rw [same]
        split
        · exact List.mem_cons_of_mem _ List.mem_cons_self
        · exact List.mem_cons_self
      · exact List.mem_cons_of_mem _ (List.mem_cons_of_mem _ listed)

/-- The watchdog only picks a replica of the record it read, one that has synced
and is not broken. -/
theorem pickHealthiestReplica_eligible {fb : FederatedBucket} {now : Int} {rep : ReplicaTarget}
    (picked : pickHealthiestReplica fb now = some rep) :
    rep ∈ fb.replicas ∧ rep.lastSync ≠ 0 ∧ rep.health ≠ .broken := by
  unfold pickHealthiestReplica at picked
  split at picked
  · cases picked
  · rename_i first rest candidates
    cases Option.some.inj picked
    have listed : bestOf first rest ∈ fb.replicas.filterMap (score fb now) :=
      candidates ▸ bestOf_mem first rest
    rcases List.mem_filterMap.mp listed with ⟨replica, member, scored⟩
    unfold score at scored
    split at scored
    · cases scored
    · rename_i synced
      split at scored
      · cases scored
      · rename_i sound
        split at scored
        · cases scored
        · rw [← Option.some.inj scored]
          exact ⟨member, synced, sound⟩

/-! ## The patch -/

/-- Who started the failover.  The watchdog rewrites every entry at the promoted
endpoint, the handler the first one only. -/
inductive Initiator where
  | watchdog
  | operator
  deriving DecidableEq, Repr

/-- A failover between its read and its write.  The promoted replica is one of
the replicas of the record that was read. -/
structure Promotion where
  initiator : Initiator
  read : FederatedBucket
  target : ReplicaTarget
  listed : target ∈ read.replicas
  deriving DecidableEq, Repr

/-- Put the demoted primary in the place of the first entry at the endpoint. -/
def demoteFirst (promoted : Endpoint) (demoted : ReplicaTarget) :
    List ReplicaTarget -> List ReplicaTarget
  | [] => []
  | rep :: rest =>
      if rep.endpoint = promoted then demoted :: rest else rep :: demoteFirst promoted demoted rest

/-- Put the demoted primary in the place of every entry at the endpoint. -/
def demoteAll (promoted : Endpoint) (demoted : ReplicaTarget) (replicas : List ReplicaTarget) :
    List ReplicaTarget :=
  replicas.map fun rep => if rep.endpoint = promoted then demoted else rep

/-- The replica list the failover writes. -/
def Promotion.newReplicas (promotion : Promotion) : List ReplicaTarget :=
  let demoted : ReplicaTarget :=
    { regionID := promotion.read.primary.regionID, bucket := promotion.read.primary.bucket }
  match promotion.initiator with
  | .watchdog => demoteAll promotion.target.endpoint demoted promotion.read.replicas
  | .operator => demoteFirst promotion.target.endpoint demoted promotion.read.replicas

/-- The patch the failover writes: every mutable field comes from the read. -/
def Promotion.patch (promotion : Promotion) : FederatedBucket where
  id := ""
  ownerUserID := ""
  name := promotion.read.name
  primary := { regionID := promotion.target.regionID, bucket := promotion.target.bucket }
  replicas := promotion.newReplicas
  policy := promotion.read.policy
  failoverEpoch := nextEpoch promotion.read.failoverEpoch

/-- `triggerAutoFailover` up to the store call; `none` is a skipped failover. -/
def triggerAutoFailover (fb : FederatedBucket) (now : Int) : Option Promotion :=
  match picked : pickHealthiestReplica fb now with
  | none => none
  | some rep => some ⟨.watchdog, fb, rep, (pickHealthiestReplica_eligible picked).1⟩

theorem triggerAutoFailover_read {fb : FederatedBucket} {now : Int} {promotion : Promotion}
    (triggered : triggerAutoFailover fb now = some promotion) : promotion.read = fb := by
  unfold triggerAutoFailover at triggered
  split at triggered
  · cases triggered
  · cases Option.some.inj triggered
    rfl

/-- The refusals of `userFailoverFederationHandler`, by their error codes. -/
inductive FailoverRefusal where
  | notAReplica
  | replicaNotSynced
  | replicaBroken
  | replicaStale
  deriving DecidableEq, Repr

/-- `userFailoverFederationHandler` up to the store call. -/
def userFailoverFederation (existing : FederatedBucket) (newPrimary : Endpoint) (now : Int) :
    Except FailoverRefusal Promotion :=
  match found : existing.replicas.find? fun rep => decide (rep.endpoint = newPrimary) with
  | none => .error .notAReplica
  | some target =>
      if target.lastSync = 0 then .error .replicaNotSynced
      else if target.health = .broken then .error .replicaBroken
      else if staleBound existing.policy > 0 ∧ now - target.lastSync > staleBound existing.policy then
        .error .replicaStale
      else .ok ⟨.operator, existing, target, List.mem_of_find?_eq_some found⟩

theorem userFailoverFederation_read {existing : FederatedBucket} {newPrimary : Endpoint} {now : Int}
    {promotion : Promotion} (granted : userFailoverFederation existing newPrimary now = .ok promotion) :
    promotion.read = existing := by
  unfold userFailoverFederation at granted
  split at granted
  · cases granted
  · split at granted
    · cases granted
    · split at granted
      · cases granted
      · split at granted
        · cases granted
        · cases Except.ok.inj granted
          rfl

/-! ## The system -/

/-- A finished call of `PromoteWithEpoch`, with the record around it. -/
structure Outcome where
  promotion : Promotion
  result : Except StoreError FederatedBucket
  before : Option FederatedBucket
  after : Option FederatedBucket
  deriving Repr

/-- The store, the failovers between read and write, and the finished ones. -/
structure Control where
  rows : Rows
  inflight : SortedStore Nat Promotion
  log : List Outcome

/-- One atomic store operation of one of the writers.  A failover is named by a
number of its own. -/
inductive Action where
  | watchdogRead (failover : Nat) (now : Int)
  | operatorRead (failover : Nat) (newPrimary : Endpoint) (now : Int)
  | promote (failover : Nat) (now : Int) (persisted : Bool)
  | update (patch : FederatedBucket) (now : Int) (persisted : Bool)
  | updateReplicaHealth (endpoint : Endpoint) (health : ReplicaTarget) (now : Int)
      (persisted : Bool)
  | delete (persisted : Bool)
  deriving DecidableEq, Repr

/-- Remember a failover that will be written later. -/
def Control.begin (control : Control) (failover : Nat) (promotion : Promotion) : Control :=
  { control with inflight := control.inflight.put failover promotion }

/-- `PromoteWithEpoch` with the patch built from the failover's read. -/
def Control.finish (id : String) (control : Control) (failover : Nat) (promotion : Promotion)
    (now : Int) (persisted : Bool) : Control :=
  let answer := control.rows.promoteWithEpoch id promotion.read.failoverEpoch promotion.patch now
    persisted
  { rows := answer.2
    inflight := control.inflight.erase failover
    log := control.log ++ [⟨promotion, answer.1, control.rows.get? id, answer.2.get? id⟩] }

/-- One step.  A read that finds no record, or no replica fit for promotion, ends
the failover at once. -/
def step (id : String) (control : Control) : Action -> Option Control
  | .watchdogRead failover now =>
      if control.inflight.get? failover ≠ none then none
      else
        match control.rows.get id with
        | .error _ => some control
        | .ok fb =>
            if fb.policy.autoFailover then
              match triggerAutoFailover fb now with
              | none => some control
              | some promotion => some (control.begin failover promotion)
            else some control
  | .operatorRead failover newPrimary now =>
      if control.inflight.get? failover ≠ none then none
      else
        match control.rows.get id with
        | .error _ => some control
        | .ok existing =>
            match userFailoverFederation existing newPrimary now with
            | .error _ => some control
            | .ok promotion => some (control.begin failover promotion)
  | .promote failover now persisted =>
      match control.inflight.get? failover with
      | none => none
      | some promotion => some (control.finish id failover promotion now persisted)
  | .update patch now persisted =>
      some { control with rows := (control.rows.update id patch now persisted).2 }
  | .updateReplicaHealth endpoint health now persisted =>
      some { control with
        rows := (control.rows.updateReplicaHealth id endpoint health now persisted).2 }
  | .delete persisted => some { control with rows := (control.rows.delete id persisted).2 }

/-- A server that has just started: no failover is on its way and none is logged. -/
def Control.Fresh (control : Control) : Prop :=
  control.inflight = SortedStore.empty ∧ control.log = []

end Failover
end Federation
end Basement
