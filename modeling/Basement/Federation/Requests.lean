import Basement.Api.Regions
import Basement.Federation.Promotions
import Mathlib.Data.List.Nodup

namespace Basement
namespace Federation

open Library
open Api (trimSpace)
open Failover

/-!
# Requests about federations

The handlers that create, update, delete and fail over a federation, and the two things the
engine does to the record: it stores the health of a replica, and its watchdog promotes one.

The store checks nothing.  That a federation has replicas, and that no bucket is listed twice,
rests on the validation of the request and on the two ways to swap the primary with a replica.

The error of the cron parser, if any, is a parameter.  The subsystem is enabled, and the caller
is logged in.
-/

/-! ## Validation -/

/-- `federatedBucketTargetRequest`. -/
structure TargetRequest where
  regionID : String
  bucket : String
  deriving DecidableEq, Repr

/-- A `FederationPolicy` as it stands in a body. -/
structure PolicyRequest where
  syncMode : String := ""
  schedule : String := ""
  lagAlertSec : Int := 0
  writeQuorum : Int := 0
  autoFailover : Bool := false
  autoFailoverSec : Int := 0
  deriving DecidableEq, Repr

/-- `federatedBucketCreateRequest`. -/
structure FederationRequest where
  name : String
  primary : TargetRequest
  replicas : List TargetRequest
  policy : Option PolicyRequest := none
  deriving DecidableEq, Repr

/-- `federationNameRegex`. -/
def federationNameMatches (name : String) : Bool :=
  decide (3 ≤ name.length ∧ name.length ≤ 64) &&
    name.toList.all fun c => c.isAlphanum || c = '_' || c = '-'

def maxReplicasPerFederation : Nat := 10

/-- `targetFromRequest`. -/
def TargetRequest.target (req : TargetRequest) : ReplicaTarget where
  regionID := trimSpace req.regionID
  bucket := trimSpace req.bucket

/-- The key under which `validateFederationRequest` remembers an endpoint. -/
def Endpoint.key (endpoint : Endpoint) : String := endpoint.regionID ++ "|" ++ endpoint.bucket

/-- The loop over the replicas, with the keys seen so far and the number of the next one. -/
def replicaError (seen : List String) (number : Nat) :
    List TargetRequest -> Option (String × String)
  | [] => none
  | rep :: rest =>
      if trimSpace rep.regionID = "" ∨ trimSpace rep.bucket = "" then
        some ("INVALID_REPLICAS",
          "Replica " ++ toString number ++ ": region and bucket are required")
      else if rep.target.endpoint.key ∈ seen then
        some ("DUPLICATE_TARGET",
          "Replica " ++ toString number ++ " duplicates primary or another replica (region=" ++
            rep.regionID ++ " bucket=" ++ rep.bucket ++ ")")
      else replicaError (rep.target.endpoint.key :: seen) (number + 1) rest

/-- The legal values of `syncMode`; an empty one is filled in later. -/
def syncMode? (mode : String) : Option SyncMode :=
  if mode = "" ∨ mode = "continuous" then some .continuous
  else if mode = "scheduled" then some .scheduled
  else none

variable (cronError : String -> Option String)

def scheduleError (mode : SyncMode) (schedule : String) : Option (String × String) :=
  match mode with
  | .continuous => none
  | .scheduled =>
      if trimSpace schedule = "" then
        some ("INVALID_SCHEDULE", "schedule is required when syncMode=scheduled")
      else
        (cronError (trimSpace schedule)).map fun error =>
          ("INVALID_SCHEDULE", "schedule is not a valid cron expression: " ++ error)

/-- The policy part of `validateFederationRequest`. -/
def policyError (replicas : Nat) (p : PolicyRequest) : Option (String × String) :=
  match syncMode? p.syncMode with
  | none => some ("INVALID_SYNC_MODE", "syncMode must be \"continuous\" or \"scheduled\"")
  | some mode =>
      match scheduleError cronError mode p.schedule with
      | some error => some error
      | none =>
          if p.lagAlertSec ≠ 0 ∧ (p.lagAlertSec < 30 ∨ 86400 < p.lagAlertSec) then
            some ("INVALID_LAG_ALERT",
              "lagAlertSec must be between 30 and 86400 (or 0 to use the default)")
          else if p.writeQuorum ≠ 0 ∧ (p.writeQuorum < 1 ∨ 1 + (replicas : Int) < p.writeQuorum) then
            some ("INVALID_WRITE_QUORUM",
              "writeQuorum must be between 1 and " ++ toString (1 + replicas))
          else none

/-- `validateFederationRequest`: the code and the message of the first objection. -/
def validateFederationRequest (req : FederationRequest) : Option (String × String) :=
  if federationNameMatches (trimSpace req.name) = false then
    some ("INVALID_NAME", "Name must be 3-64 characters of letters, digits, dashes, or underscores")
  else if trimSpace req.primary.regionID = "" ∨ trimSpace req.primary.bucket = "" then
    some ("INVALID_PRIMARY", "Primary region and bucket are required")
  else if req.replicas = [] then some ("INVALID_REPLICAS", "At least one replica is required")
  else if maxReplicasPerFederation < req.replicas.length then
    some ("TOO_MANY_REPLICAS",
      "At most " ++ toString maxReplicasPerFederation ++ " replicas per federation")
  else
    match replicaError [req.primary.target.endpoint.key] 1 req.replicas with
    | some error => some error
    | none => req.policy.bind (policyError cronError req.replicas.length)

/-- `resolveFederationPolicy`, after the validation. -/
def resolveFederationPolicy : Option PolicyRequest -> FederationPolicy
  | none => defaultPolicy
  | some p =>
      { syncMode := (syncMode? p.syncMode).getD defaultPolicy.syncMode
        schedule := p.schedule
        lagAlertSec := if p.lagAlertSec = 0 then defaultPolicy.lagAlertSec else p.lagAlertSec
        writeQuorum := if p.writeQuorum = 0 then defaultPolicy.writeQuorum else p.writeQuorum
        autoFailover := p.autoFailover
        autoFailoverSec := p.autoFailoverSec }

/-- The owners of the regions, or `none` where the region store is not wired. -/
abbrev RegionOwners := Option (SortedStore String String)

/-- `verifyUserOwnsRegion`. -/
def verifyUserOwnsRegion (regions : RegionOwners) (userID regionID : String) :
    Option (String × String) :=
  match regions with
  | none =>
      some ("REGIONS_NOT_WIRED", "Region keychain store is not configured on this deployment")
  | some owners =>
      if owners.get? regionID = some userID then none
      else some ("INVALID_REGION", "Region " ++ regionID.quote ++ " not found")

/-- What the create and update handlers object to before they call the store. -/
def requestError (regions : RegionOwners) (userID : String) (req : FederationRequest) :
    Option (String × String) :=
  match validateFederationRequest cronError req with
  | some error => some error
  | none => (req.primary :: req.replicas).findSome? fun target =>
      verifyUserOwnsRegion regions userID (trimSpace target.regionID)

/-- The record that a valid request describes. -/
def FederationRequest.federation (req : FederationRequest) (ownerUserID : String) :
    FederatedBucket where
  id := ""
  ownerUserID := ownerUserID
  name := trimSpace req.name
  primary := req.primary.target
  replicas := req.replicas.map TargetRequest.target
  policy := resolveFederationPolicy req.policy

/-! ## Handlers -/

/-- A refusal with its code and message, or an error of the store that the handler passes on. -/
inductive RequestError where
  | refused (code message : String)
  | store (error : StoreError)
  deriving DecidableEq, Repr

def federationNotFound : RequestError := .refused "FEDERATION_NOT_FOUND" "Federation not found"

/-- `requireOwnedFederation`. -/
def requireOwnedFederation (rows : Rows) (userID id : String) :
    Except RequestError FederatedBucket :=
  match rows.get? id with
  | none => .error federationNotFound
  | some fb => if fb.ownerUserID = userID then .ok fb else .error federationNotFound

/-- The answer of the create handler to an error of the store. -/
def createRejection : StoreError -> RequestError
  | .duplicateName => .refused "DUPLICATE_NAME"
      "You already have a federation with this name. Pick a different name."
  | error => .store error

/-- `userCreateFederationHandler`. -/
def userCreateFederation (rows : Rows) (regions : RegionOwners) (userID : String)
    (req : FederationRequest) (uuid : String) (now : Int) (persisted : Bool) :
    Except RequestError FederatedBucket × Rows :=
  match requestError cronError regions userID req with
  | some (code, message) => (.error (.refused code message), rows)
  | none =>
      let answer := rows.create uuid (req.federation userID) now persisted
      (answer.1.mapError createRejection, answer.2)

/-- The answer of the update handler to an error of the store. -/
def updateRejection : StoreError -> RequestError
  | .notFound => federationNotFound
  | error => .store error

/-- `userUpdateFederationHandler`. -/
def userUpdateFederation (rows : Rows) (regions : RegionOwners) (userID id : String)
    (req : FederationRequest) (now : Int) (persisted : Bool) :
    Except RequestError FederatedBucket × Rows :=
  match requireOwnedFederation rows userID id with
  | .error error => (.error error, rows)
  | .ok existing =>
      match requestError cronError regions existing.ownerUserID req with
      | some (code, message) => (.error (.refused code message), rows)
      | none =>
          let answer := rows.update id (req.federation "") now persisted
          (answer.1.mapError updateRejection, answer.2)

/-- `userDeleteFederationHandler`. -/
def userDeleteFederation (rows : Rows) (userID id : String) (persisted : Bool) :
    Except RequestError Unit × Rows :=
  match requireOwnedFederation rows userID id with
  | .error error => (.error error, rows)
  | .ok _ =>
      let answer := rows.delete id persisted
      (answer.1.mapError .store, answer.2)

/-- The answer of the failover handler to a replica that it does not promote. -/
def Failover.FailoverRefusal.response : FailoverRefusal -> RequestError
  | .notAReplica => .refused "NOT_A_REPLICA"
      "newPrimaryRegionId/newPrimaryBucket is not currently a replica of this federation"
  | .replicaNotSynced => .refused "REPLICA_NOT_SYNCED"
      ("target replica has never completed a sync (no confirmed data); " ++
        "refusing to promote an unverified backend to primary")
  | .replicaBroken => .refused "REPLICA_BROKEN"
      ("target replica is currently broken (repeated sync failures); " ++
        "refusing to promote it to primary")
  | .replicaStale => .refused "REPLICA_STALE"
      ("target replica is too far behind (stale); refusing to promote it to primary — " ++
        "wait for it to catch up or pick a fresher replica")

/-- The write at the end of a failover. -/
def Failover.Promotion.write (promotion : Promotion) (rows : Rows) (id : String) (now : Int)
    (persisted : Bool) : Except StoreError FederatedBucket × Rows :=
  rows.promoteWithEpoch id promotion.read.failoverEpoch promotion.patch now persisted

/-- The answer of the failover handler to an error of the store. -/
def failoverRejection : StoreError -> RequestError
  | .epochChanged => .refused "CONCURRENT_FAILOVER"
      "a concurrent failover already changed this federation's primary; refetch and retry"
  | error => .store error

/-- `userFailoverFederationHandler`. -/
def userFailover (rows : Rows) (userID id newPrimaryRegionID newPrimaryBucket : String)
    (readAt now : Int) (persisted : Bool) : Except RequestError FederatedBucket × Rows :=
  match requireOwnedFederation rows userID id with
  | .error error => (.error error, rows)
  | .ok existing =>
      if trimSpace newPrimaryRegionID = "" ∨ trimSpace newPrimaryBucket = "" then
        (.error (.refused "INVALID_REQUEST"
          "newPrimaryRegionId and newPrimaryBucket are required"), rows)
      else
        match userFailoverFederation existing
            ⟨trimSpace newPrimaryRegionID, trimSpace newPrimaryBucket⟩ readAt with
        | .error refusal => (.error refusal.response, rows)
        | .ok promotion =>
            let answer := promotion.write rows id now persisted
            (answer.1.mapError failoverRejection, answer.2)

/-- The watchdog gives up on the primary of a federation; `none` is a failover that is skipped. -/
def watchdogFailover (rows : Rows) (id : String) (readAt now : Int) (persisted : Bool) :
    Option (Except StoreError FederatedBucket) × Rows :=
  match rows.get? id with
  | none => (none, rows)
  | some fb =>
      if fb.policy.autoFailover then
        match triggerAutoFailover fb readAt with
        | none => (none, rows)
        | some promotion =>
            let answer := promotion.write rows id now persisted
            (some answer.1, answer.2)
      else (none, rows)

/-- A request, or a write of the engine. -/
inductive FederationCall where
  | create (regions : RegionOwners) (userID : String) (req : FederationRequest) (uuid : String)
      (now : Int) (persisted : Bool)
  | update (regions : RegionOwners) (userID id : String) (req : FederationRequest) (now : Int)
      (persisted : Bool)
  | delete (userID id : String) (persisted : Bool)
  | failover (userID id newPrimaryRegionID newPrimaryBucket : String) (readAt now : Int)
      (persisted : Bool)
  | watchdog (id : String) (readAt now : Int) (persisted : Bool)
  | updateReplicaHealth (id : String) (endpoint : Endpoint) (health : ReplicaTarget) (now : Int)
      (persisted : Bool)

/-- The rows after a call. -/
def Rows.serve (rows : Rows) : FederationCall -> Rows
  | .create regions userID req uuid now persisted =>
      (userCreateFederation cronError rows regions userID req uuid now persisted).2
  | .update regions userID id req now persisted =>
      (userUpdateFederation cronError rows regions userID id req now persisted).2
  | .delete userID id persisted => (userDeleteFederation rows userID id persisted).2
  | .failover userID id newPrimaryRegionID newPrimaryBucket readAt now persisted =>
      (userFailover rows userID id newPrimaryRegionID newPrimaryBucket readAt now persisted).2
  | .watchdog id readAt now persisted => (watchdogFailover rows id readAt now persisted).2
  | .updateReplicaHealth id endpoint health now persisted =>
      (rows.updateReplicaHealth id endpoint health now persisted).2

/-- The rows after a sequence of calls. -/
def Rows.after (calls : List FederationCall) : Rows :=
  calls.foldl (Rows.serve cronError) SortedStore.empty

/-! ## Endpoints -/

/-- The endpoints of a federation, the primary first. -/
def FederatedBucket.endpoints (fb : FederatedBucket) : List Endpoint :=
  fb.primary.endpoint :: fb.replicas.map ReplicaTarget.endpoint

/-- No endpoint is listed twice, and there is a replica. -/
structure FederatedBucket.Structured (fb : FederatedBucket) : Prop where
  distinct : fb.endpoints.Nodup
  replicated : fb.replicas ≠ []

variable {cronError}

/-- Replicas without an objection have keys of their own. -/
theorem replicaError_none {seen : List String} {number : Nat} {replicas : List TargetRequest}
    (none : replicaError seen number replicas = none) :
    (replicas.map fun rep => rep.target.endpoint.key).Nodup ∧
      forall rep, rep ∈ replicas -> rep.target.endpoint.key ∉ seen := by
  induction replicas generalizing seen number with
  | nil => exact ⟨List.nodup_nil, fun rep listed => absurd listed List.not_mem_nil⟩
  | cons rep rest ih =>
      unfold replicaError at none
      split at none
      · cases none
      · split at none
        · cases none
        · rename_i fresh
          rcases ih none with ⟨distinct, apart⟩
          constructor
          · apply List.nodup_cons.mpr ⟨_, distinct⟩
            intro again
            rcases List.mem_map.mp again with ⟨other, member, same⟩
            apply apart other member
            rw [same]
            exact List.mem_cons_self
          · intro other member
            rcases List.mem_cons.mp member with rfl | later
            · exact fresh
            · exact fun listed => apart other later (List.mem_cons_of_mem _ listed)

/-- A valid request describes a federation with its structure. -/
theorem validateFederationRequest_structured {req : FederationRequest}
    (valid : validateFederationRequest cronError req = none) (ownerUserID : String) :
    (req.federation ownerUserID).Structured := by
  unfold validateFederationRequest at valid
  split at valid
  · cases valid
  · split at valid
    · cases valid
    · split at valid
      · cases valid
      · rename_i replicated
        split at valid
        · cases valid
        · split at valid
          · cases valid
          · rename_i unobjected
            rcases replicaError_none unobjected with ⟨distinct, apart⟩
            refine ⟨?_, fun empty => replicated (List.map_eq_nil_iff.mp empty)⟩
            apply List.Nodup.of_map Endpoint.key
            have keys : (req.federation ownerUserID).endpoints.map Endpoint.key =
                req.primary.target.endpoint.key ::
                  req.replicas.map fun rep => rep.target.endpoint.key := by
              simp [FederatedBucket.endpoints, FederationRequest.federation, Function.comp_def]
            rw [keys]
            apply List.nodup_cons.mpr ⟨_, distinct⟩
            intro again
            rcases List.mem_map.mp again with ⟨rep, member, same⟩
            apply apart rep member
            rw [same]
            exact List.mem_cons_self

theorem requestError_structured {regions : RegionOwners} {userID : String}
    {req : FederationRequest} (accepted : requestError cronError regions userID req = none)
    (ownerUserID : String) : (req.federation ownerUserID).Structured := by
  unfold requestError at accepted
  split at accepted
  · cases accepted
  · rename_i valid
    exact validateFederationRequest_structured valid ownerUserID

/-- The structure is one of the endpoints, whatever their order. -/
theorem FederatedBucket.Structured.of_perm {first second : FederatedBucket}
    (structured : first.Structured) (same : second.endpoints.Perm first.endpoints) :
    second.Structured where
  distinct := same.nodup_iff.mpr structured.distinct
  replicated := by
    intro empty
    have length := same.length_eq
    simp only [FederatedBucket.endpoints, List.length_cons, List.length_map, empty,
      List.length_nil] at length
    exact structured.replicated (List.eq_nil_of_length_eq_zero (by omega))

/-! ## Promotions -/

/-- The entry that takes the place of the promoted replica. -/
def FederatedBucket.demoted (fb : FederatedBucket) : ReplicaTarget :=
  { regionID := fb.primary.regionID, bucket := fb.primary.bucket }

/-- The second record is the first one with its primary and one replica swapped: the other
replicas stay as they are. -/
structure Swapped (before after : FederatedBucket) (target : ReplicaTarget) : Prop where
  listed : target ∈ before.replicas
  once : (before.replicas.map ReplicaTarget.endpoint).count target.endpoint = 1
  primary : after.primary = { regionID := target.regionID, bucket := target.bucket }
  replicas : after.replicas = before.replicas.map fun rep =>
    if rep.endpoint = target.endpoint then before.demoted else rep
  endpoints : after.endpoints.Perm before.endpoints
  epoch : after.failoverEpoch = nextEpoch before.failoverEpoch

/-- Where endpoints are distinct, the first entry at an endpoint is every entry there. -/
theorem demoteFirst_eq_demoteAll {replicas : List ReplicaTarget} (promoted : Endpoint)
    (demoted : ReplicaTarget) (distinct : (replicas.map ReplicaTarget.endpoint).Nodup) :
    demoteFirst promoted demoted replicas = demoteAll promoted demoted replicas := by
  induction replicas with
  | nil => rfl
  | cons rep rest ih =>
      rcases List.nodup_cons.mp distinct with ⟨apart, tail⟩
      by_cases here : rep.endpoint = promoted
      · have others := map_at_endpoint_of_absent (here ▸ apart) fun _ => demoted
        simp only [demoteFirst, demoteAll, List.map_cons, if_pos here, others]
      · have later := ih tail
        unfold demoteAll at later
        simp only [demoteFirst, demoteAll, List.map_cons, if_neg here, later]

/-- On a federation with its structure both ways to swap are the same. -/
theorem newReplicas_eq {promotion : Promotion} (structured : promotion.read.Structured) :
    promotion.newReplicas =
      demoteAll promotion.target.endpoint promotion.read.demoted promotion.read.replicas := by
  unfold Promotion.newReplicas
  cases promotion.initiator with
  | watchdog => rfl
  | operator =>
      exact demoteFirst_eq_demoteAll _ _ (List.nodup_cons.mp structured.distinct).2

/-- To replace an item and put the old one in front is to put the new one in front. -/
theorem perm_cons_replace {α : Type} [DecidableEq α] {old new : α} {items : List α}
    (listed : old ∈ items) : (old :: items.replace old new).Perm (new :: items) := by
  induction items with
  | nil => cases listed
  | cons item rest ih =>
      by_cases here : old = item
      · subst here
        rw [List.replace_cons_self]
        exact List.Perm.swap new old rest
      · have later : old ∈ rest := (List.mem_cons.mp listed).resolve_left here
        have other : (item :: rest).replace old new = item :: rest.replace old new := by
          rw [List.replace_cons, beq_false_of_ne here]
        rw [other]
        calc (old :: item :: rest.replace old new).Perm (item :: old :: rest.replace old new) :=
              List.Perm.swap item old _
          (item :: old :: rest.replace old new).Perm (item :: new :: rest) := (ih later).cons item
          (item :: new :: rest).Perm (new :: item :: rest) := List.Perm.swap new item rest

/-- A promotion that is written swaps the primary of the record it was chosen from. -/
theorem swapped_of_promotion {promotion : Promotion} (structured : promotion.read.Structured)
    {after : FederatedBucket} (primary : after.primary = promotion.patch.primary)
    (replicas : after.replicas = promotion.patch.replicas)
    (epoch : after.failoverEpoch = promotion.patch.failoverEpoch) :
    Swapped promotion.read after promotion.target where
  listed := promotion.listed
  once := List.count_eq_one_of_mem (List.nodup_cons.mp structured.distinct).2
    (List.mem_map_of_mem promotion.listed)
  primary := primary
  replicas := replicas.trans (newReplicas_eq structured)
  endpoints := by
    have first : after.replicas.map ReplicaTarget.endpoint =
        (promotion.read.replicas.map ReplicaTarget.endpoint).replace promotion.target.endpoint
          promotion.read.primary.endpoint := by
      rw [replicas.trans (newReplicas_eq structured),
        ← demoteFirst_eq_demoteAll _ _ (List.nodup_cons.mp structured.distinct).2,
        demoteFirst_endpoints]
      rfl
    have here : after.primary.endpoint = promotion.target.endpoint := by
      rw [primary]
      rfl
    rw [FederatedBucket.endpoints, first, here]
    exact perm_cons_replace (List.mem_map_of_mem promotion.listed)
  epoch := epoch

/-- A swap keeps the structure. -/
theorem Swapped.structured {before after : FederatedBucket} {target : ReplicaTarget}
    (swapped : Swapped before after target) (structured : before.Structured) :
    after.Structured := by
  exact structured.of_perm swapped.endpoints

/-! ## What a call can do -/

theorem requireOwnedFederation_ok {rows : Rows} {userID id : String} {fb : FederatedBucket}
    (owned : requireOwnedFederation rows userID id = .ok fb) : rows.get? id = some fb := by
  unfold requireOwnedFederation at owned
  split at owned
  · cases owned
  · rename_i found
    split at owned
    · cases owned
      exact found
    · cases owned

/-- The write of a failover is refused, or it stores the record that was read, swapped. -/
theorem promotion_write_cases {promotion : Promotion} (structured : promotion.read.Structured)
    (rows : Rows) (id : String) (now : Int) (persisted : Bool) :
    (Exists fun error => promotion.write rows id now persisted = (.error error, rows)) ∨
      Exists fun after => Swapped promotion.read after promotion.target ∧
        promotion.write rows id now persisted = (.ok after, rows.put id after) := by
  rcases Rows.promoteWithEpoch_cases rows id promotion.read.failoverEpoch promotion.patch now
    persisted with ⟨error, answer, _⟩ | ⟨cur, found, _, answer⟩
  · exact Or.inl ⟨error, answer⟩
  · refine Or.inr ⟨_, ?_, answer⟩
    exact swapped_of_promotion structured rfl rfl rfl

/-- The operator's failover changes nothing, or it swaps the stored record. -/
theorem userFailover_cases {rows : Rows} {id : String}
    (structured : forall fb, rows.get? id = some fb -> fb.Structured)
    (userID newPrimaryRegionID newPrimaryBucket : String) (readAt now : Int) (persisted : Bool) :
    (Exists fun error => userFailover rows userID id newPrimaryRegionID newPrimaryBucket readAt now
        persisted = (.error error, rows)) ∨
      Exists fun existing => Exists fun target => Exists fun after =>
        rows.get? id = some existing ∧ Swapped existing after target ∧
          userFailover rows userID id newPrimaryRegionID newPrimaryBucket readAt now persisted =
            (.ok after, rows.put id after) := by
  unfold userFailover
  cases owned : requireOwnedFederation rows userID id with
  | error error => exact Or.inl ⟨error, rfl⟩
  | ok existing =>
      have found := requireOwnedFederation_ok owned
      dsimp only
      split
      · exact Or.inl ⟨_, rfl⟩
      · cases granted : userFailoverFederation existing
            ⟨trimSpace newPrimaryRegionID, trimSpace newPrimaryBucket⟩ readAt with
        | error refusal => exact Or.inl ⟨_, rfl⟩
        | ok promotion =>
            have same := userFailoverFederation_read granted
            subst same
            dsimp only
            rcases promotion_write_cases (structured _ found) rows id now persisted with
              ⟨error, answer⟩ | ⟨after, swapped, answer⟩
            · rw [answer]
              exact Or.inl ⟨_, rfl⟩
            · rw [answer]
              exact Or.inr ⟨_, _, after, found, swapped, rfl⟩

/-- So does the watchdog's. -/
theorem watchdogFailover_cases {rows : Rows} {id : String}
    (structured : forall fb, rows.get? id = some fb -> fb.Structured) (readAt now : Int)
    (persisted : Bool) :
    ((watchdogFailover rows id readAt now persisted).2 = rows ∧ forall after,
        (watchdogFailover rows id readAt now persisted).1 ≠ some (.ok after)) ∨
      Exists fun existing => Exists fun target => Exists fun after =>
        rows.get? id = some existing ∧ Swapped existing after target ∧
          watchdogFailover rows id readAt now persisted =
            (some (.ok after), rows.put id after) := by
  have skipped : watchdogFailover rows id readAt now persisted = (none, rows) ->
      (watchdogFailover rows id readAt now persisted).2 = rows ∧ forall after,
        (watchdogFailover rows id readAt now persisted).1 ≠ some (.ok after) := by
    intro answer
    rw [answer]
    refine ⟨rfl, ?_⟩
    intro after same
    cases same
  cases found : rows.get? id with
  | none => exact Or.inl (skipped (by simp only [watchdogFailover, found]))
  | some fb =>
      by_cases enabled : fb.policy.autoFailover = true
      · cases triggered : triggerAutoFailover fb readAt with
        | none =>
            apply Or.inl (skipped _)
            simp only [watchdogFailover, found, enabled, triggered, ite_true]
        | some promotion =>
            have answer : watchdogFailover rows id readAt now persisted =
                (some (promotion.write rows id now persisted).1,
                  (promotion.write rows id now persisted).2) := by
              simp only [watchdogFailover, found, enabled, triggered, ite_true]
            have same := triggerAutoFailover_read triggered
            subst same
            rcases promotion_write_cases (structured _ found) rows id now persisted with
              ⟨error, written⟩ | ⟨after, swapped, written⟩
            · rw [answer, written]
              refine Or.inl ⟨rfl, ?_⟩
              intro after succeeded
              cases Option.some.inj succeeded
            · rw [answer, written]
              exact Or.inr ⟨_, _, after, rfl, swapped, rfl⟩
      · exact Or.inl (skipped (by simp [watchdogFailover, found, enabled]))

/-- Every stored federation has its structure. -/
def Rows.Structured (rows : Rows) : Prop :=
  forall id fb, rows.get? id = some fb -> fb.Structured

theorem Rows.Structured.put {rows : Rows} (structured : rows.Structured) (id : String)
    {fb : FederatedBucket} (new : fb.Structured) : Rows.Structured (rows.put id fb) := by
  exact SortedStore.Every.put structured new

theorem userCreateFederation_cases (cronError : String -> Option String) (rows : Rows)
    (regions : RegionOwners) (userID : String) (req : FederationRequest) (uuid : String) (now : Int)
    (persisted : Bool) :
    (userCreateFederation cronError rows regions userID req uuid now persisted).2 = rows ∨
      requestError cronError regions userID req = none ∧
        (userCreateFederation cronError rows regions userID req uuid now persisted).2 =
          rows.put uuid
            { req.federation userID with id := uuid, createdAt := now, updatedAt := now } := by
  unfold userCreateFederation
  cases accepted : requestError cronError regions userID req with
  | some error => exact Or.inl rfl
  | none =>
      dsimp only
      unfold Rows.create Rows.commit
      split
      · exact Or.inl rfl
      · cases persisted with
        | true => exact Or.inr ⟨rfl, rfl⟩
        | false => exact Or.inl rfl

theorem userUpdateFederation_cases (cronError : String -> Option String) (rows : Rows)
    (regions : RegionOwners) (userID id : String) (req : FederationRequest) (now : Int)
    (persisted : Bool) :
    (userUpdateFederation cronError rows regions userID id req now persisted).2 = rows ∨
      Exists fun existing => rows.get? id = some existing ∧
        requestError cronError regions existing.ownerUserID req = none ∧
          (userUpdateFederation cronError rows regions userID id req now persisted).2 =
            rows.put id (existing.patched (req.federation "") now) := by
  unfold userUpdateFederation
  cases owned : requireOwnedFederation rows userID id with
  | error error => exact Or.inl rfl
  | ok existing =>
      have found := requireOwnedFederation_ok owned
      dsimp only
      cases accepted : requestError cronError regions existing.ownerUserID req with
      | some error => exact Or.inl rfl
      | none =>
          dsimp only
          unfold Rows.update Rows.commit
          rw [found]
          cases persisted with
          | true => exact Or.inr ⟨existing, rfl, accepted, rfl⟩
          | false => exact Or.inl rfl

/-- What a call does to the endpoints: it stores those of a request it has accepted, it puts those
of a stored federation in another order, or it removes the federation. -/
inductive Rows.Served (cronError : String -> Option String) (rows : Rows) : Rows -> Prop
  | same : Served cronError rows rows
  | requested (regions : RegionOwners) (userID : String) (req : FederationRequest) (id : String)
      (fb : FederatedBucket) (accepted : requestError cronError regions userID req = none)
      (described : fb.endpoints = (req.federation "").endpoints) :
      Served cronError rows (rows.put id fb)
  | rearranged (id : String) (existing fb : FederatedBucket) (found : rows.get? id = some existing)
      (endpoints : fb.endpoints.Perm existing.endpoints) : Served cronError rows (rows.put id fb)
  | erased (id : String) : Served cronError rows (rows.erase id)

/-- The rule of the calls, for rows with their structure. -/
theorem Rows.Structured.served {rows : Rows} (structured : rows.Structured)
    (call : FederationCall) : Rows.Served cronError rows (rows.serve cronError call) := by
  cases call with
  | create regions userID req uuid now persisted =>
      rcases userCreateFederation_cases cronError rows regions userID req uuid now persisted with
        same | ⟨accepted, written⟩
      · simp only [Rows.serve, same]
        exact .same
      · simp only [Rows.serve, written]
        exact .requested regions userID req uuid _ accepted rfl
  | update regions userID id req now persisted =>
      rcases userUpdateFederation_cases cronError rows regions userID id req now persisted with
        same | ⟨existing, found, accepted, written⟩
      · simp only [Rows.serve, same]
        exact .same
      · simp only [Rows.serve, written]
        exact .requested regions _ req id _ accepted rfl
  | delete userID id persisted =>
      simp only [Rows.serve, userDeleteFederation]
      split
      · exact .same
      · rcases Rows.delete_cases rows id persisted with same | erased
        · simp only [same]
          exact .same
        · simp only [erased]
          exact .erased id
  | failover userID id newPrimaryRegionID newPrimaryBucket readAt now persisted =>
      rcases userFailover_cases (structured id) userID newPrimaryRegionID newPrimaryBucket readAt now
        persisted with ⟨error, answer⟩ | ⟨existing, target, after, found, swapped, answer⟩
      · simp only [Rows.serve, answer]
        exact .same
      · simp only [Rows.serve, answer]
        exact .rearranged id existing after found swapped.endpoints
  | watchdog id readAt now persisted =>
      rcases watchdogFailover_cases (structured id) readAt now persisted with
        ⟨same, _⟩ | ⟨existing, target, after, found, swapped, answer⟩
      · simp only [Rows.serve, same]
        exact .same
      · simp only [Rows.serve, answer]
        exact .rearranged id existing after found swapped.endpoints
  | updateReplicaHealth id endpoint health now persisted =>
      rcases Rows.updateReplicaHealth_cases rows id endpoint health now persisted with
        same | ⟨cur, replicas, found, kept, written⟩
      · simp only [Rows.serve, same]
        exact .same
      · simp only [Rows.serve, written]
        apply Rows.Served.rearranged id cur _ found
        rw [FederatedBucket.endpoints, kept]
        exact List.Perm.refl _

/-- A health update leaves the structure alone. -/
theorem FederatedBucket.Structured.withReplicas {fb : FederatedBucket} (structured : fb.Structured)
    {replicas : List ReplicaTarget} {now : Int}
    (kept : replicas.map ReplicaTarget.endpoint = fb.replicas.map ReplicaTarget.endpoint) :
    FederatedBucket.Structured { fb with replicas := replicas, updatedAt := now } := by
  apply structured.of_perm
  rw [FederatedBucket.endpoints, kept]
  exact List.Perm.refl _

theorem Rows.Served.structured {rows next : Rows} (served : Rows.Served cronError rows next)
    (structured : rows.Structured) : next.Structured := by
  cases served with
  | same => exact structured
  | requested regions userID req id fb accepted described =>
      exact structured.put id
        ((requestError_structured accepted "").of_perm (described ▸ List.Perm.refl _))
  | rearranged id existing fb found endpoints =>
      exact structured.put id ((structured id existing found).of_perm endpoints)
  | erased id => exact SortedStore.Every.erase structured id

/-- A call keeps the structure of every federation. -/
theorem Rows.Structured.serve {rows : Rows} (structured : rows.Structured) (call : FederationCall) :
    (rows.serve cronError call).Structured := by
  exact (structured.served call).structured structured

/-! ## Runs -/

/-- What holds of no rows and is kept by what a call does holds after any sequence of calls. -/
theorem Rows.after_invariant {cronError : String -> Option String} {holds : Rows -> Prop}
    (initially : holds SortedStore.empty)
    (kept : forall rows next, Rows.Served cronError rows next -> holds rows -> holds next)
    (calls : List FederationCall) :
    (Rows.after cronError calls).Structured ∧ holds (Rows.after cronError calls) := by
  induction calls using List.reverseRecOn with
  | nil =>
      refine ⟨?_, initially⟩
      intro id fb found
      cases found
  | append_singleton calls call ih =>
      rw [Rows.after, List.foldl_concat, ← Rows.after]
      exact ⟨ih.1.serve call, kept _ _ (ih.1.served call) ih.2⟩

theorem Rows.after_structured (cronError : String -> Option String) (calls : List FederationCall) :
    (Rows.after cronError calls).Structured := by
  exact (@Rows.after_invariant cronError (fun _ => True) trivial (fun _ _ _ _ => trivial) calls).1

/-- Swaps of one record with one of its replicas have the same result. -/
theorem Swapped.unique {before first second : FederatedBucket} {target other : ReplicaTarget}
    (one : Swapped before first target) (two : Swapped before second other)
    (same : first.primary.endpoint = second.primary.endpoint) :
    first.primary = second.primary ∧ first.replicas = second.replicas ∧
      first.failoverEpoch = second.failoverEpoch := by
  rw [one.primary, two.primary] at same
  have endpoint : target.endpoint = other.endpoint := same
  refine ⟨?_, ?_, one.epoch.trans two.epoch.symm⟩
  · rcases Endpoint.mk.inj endpoint with ⟨region, bucket⟩
    rw [one.primary, two.primary, region, bucket]
  · rw [one.replicas, two.replicas, endpoint]

/-- The stored record and the records that failovers have read have their structure. -/
structure ControlStructured (id : String) (control : Control) : Prop where
  stored : forall fb, control.rows.get? id = some fb -> fb.Structured
  reads : forall failover promotion, control.inflight.get? failover = some promotion ->
    promotion.read.Structured

/-- An update brings a record with its structure. -/
def UpdatesStructured (_ : Control) : Action -> Prop
  | .update patch _ _ => patch.Structured
  | _ => True

theorem ControlStructured.step {id : String} {control next : Control} {action : Action}
    (structured : ControlStructured id control) (allowed : UpdatesStructured control action)
    (taken : Failover.step id control action = some next) : ControlStructured id next := by
  rcases step_cases taken with rfl | ⟨failover, promotion, read, rfl⟩ |
    ⟨failover, promotion, now, persisted, rfl, reading, rfl⟩ | ⟨patch, now, persisted, rfl, rfl⟩ |
    ⟨endpoint, health, now, persisted, rfl, rfl⟩ | ⟨persisted, rfl, rfl⟩
  · exact structured
  · exact ⟨structured.stored,
      SortedStore.Every.put structured.reads (structured.stored _ read)⟩
  · constructor
    · intro fb present
      change (promotion.write control.rows id now persisted).2.get? id = some fb at present
      have own := structured.reads failover promotion reading
      rcases promotion_write_cases own control.rows id now persisted with
        ⟨error, answer⟩ | ⟨after, swapped, answer⟩
      · rw [answer] at present
        exact structured.stored fb present
      · rw [answer] at present
        cases SortedStore.eq_of_get?_put present
        exact swapped.structured own
    · exact SortedStore.Every.erase structured.reads failover
  · refine ⟨?_, structured.reads⟩
    intro fb present
    rcases Rows.update_cases control.rows id patch now persisted with
      kept | ⟨cur, _, _, written⟩
    · rw [kept] at present
      exact structured.stored fb present
    · rw [written] at present
      cases SortedStore.eq_of_get?_put present
      exact ⟨allowed.distinct, allowed.replicated⟩
  · refine ⟨?_, structured.reads⟩
    intro fb present
    rcases Rows.updateReplicaHealth_cases control.rows id endpoint health now persisted with
      kept | ⟨cur, replicas, found, same, written⟩
    · rw [kept] at present
      exact structured.stored fb present
    · rw [written] at present
      cases SortedStore.eq_of_get?_put present
      exact (structured.stored cur found).withReplicas same
  · refine ⟨?_, structured.reads⟩
    intro fb present
    rcases Rows.delete_cases control.rows id persisted with kept | erased
    · rw [kept] at present
      exact structured.stored fb present
    · rw [erased, SortedStore.get?_erase, if_pos rfl] at present
      cases present

/-- Failovers between read and write do not cost a federation its structure either, in whatever
order they end. -/
theorem interleaved_failovers_structured {id : String} {start final : Control}
    {actions : List Action} (fresh : start.Fresh)
    (initially : forall fb, start.rows.get? id = some fb -> fb.Structured)
    (meets : Transition.Meets (Failover.step id) UpdatesStructured start actions)
    (run : Transition.exec (Failover.step id) start actions = some final) {fb : FederatedBucket}
    (stored : final.rows.get? id = some fb) : fb.Structured := by
  have reads : forall failover promotion, start.inflight.get? failover = some promotion ->
      promotion.read.Structured := by
    intro failover promotion reading
    rw [fresh.1] at reading
    cases reading
  exact (Transition.exec_invariant_of_meets
    (fun _ _ _ structured allowed taken => ControlStructured.step structured allowed taken)
    ⟨initially, reads⟩ meets run).stored fb stored

theorem interleaved_failovers_structured_race : Exists fun final => Exists fun fb =>
    Transition.exec (Failover.step "fed") (Failover.sampleControl 0) Failover.failoverRace =
        some final ∧ final.rows.get? "fed" = some fb ∧ fb.Structured := by
  have meets : Transition.Meets (Failover.step "fed") UpdatesStructured
      (Failover.sampleControl 0) Failover.failoverRace :=
    Transition.meets_of_step trivial rfl (Transition.meets_of_step trivial rfl
      (Transition.meets_of_step trivial rfl (Transition.meets_of_step trivial rfl trivial)))
  refine ⟨_, _, rfl, rfl, interleaved_failovers_structured ⟨rfl, rfl⟩ ?_ meets rfl rfl⟩
  intro fb stored
  cases Option.some.inj stored
  exact ⟨by decide, by decide⟩

/-- Ada federates her photos over two regions, and the replica catches up. -/
def photosFederated : List FederationCall :=
  [.create (some ((SortedStore.empty.put "r1" "ada").put "r2" "ada")) "ada"
      { name := "photos", primary := ⟨"r1", "photos"⟩, replicas := [⟨"r2", " photos"⟩] }
      "fed" 1 true,
    .updateReplicaHealth "fed" ⟨"r2", "photos"⟩
      { regionID := "", bucket := "", lastSync := 5, health := .inSync } 5 true]

end Federation
end Basement
