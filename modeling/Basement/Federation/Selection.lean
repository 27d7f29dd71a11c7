import Basement.Federation.InSync
import Basement.Federation.Requests
import Mathlib.Data.Int.ConditionallyCompleteOrder
import Mathlib.Data.List.MinMax
import Mathlib.Data.Prod.Lex

namespace Basement
namespace Federation

open Library
open Api (trimSpace)
open Failover
open InSync (computeHealth)

/-!
# Which replica is promoted

The watchdog, the operator's failover and the displayed health each have a copy of one rule, what
makes a replica fit to be promoted.  The loop of the watchdog compares the fit ones by their lag in
whole seconds, by region and by bucket, which is an order; what it returns is the least of them.

A stored federation lists no endpoint twice and no name with blanks around it, so the least replica
is the only one and the operator can name each of them.
-/

/-! ## The rule -/

/-- A replica with confirmed data, not broken, and within the staleness bound if there is one. -/
def Qualifies (fb : FederatedBucket) (now : Int) (rep : ReplicaTarget) : Prop :=
  rep.lastSync ≠ 0 ∧ rep.health ≠ .broken ∧
    (0 < fb.policy.lagAlertSec -> now - rep.lastSync ≤ 10 * fb.policy.lagAlertSec * second)

instance (fb : FederatedBucket) (now : Int) (rep : ReplicaTarget) :
    Decidable (Qualifies fb now rep) :=
  inferInstanceAs (Decidable (_ ∧ _ ∧ (_ -> _)))

/-- The lag in whole seconds; a watermark in the future has none. -/
def lagSeconds (now : Int) (rep : ReplicaTarget) : Int := max (now - rep.lastSync) 0 / second

/-- What the replicas are compared by. -/
abbrev SelectionKey := Int ×ₗ String ×ₗ String

def selectionKey (now : Int) (rep : ReplicaTarget) : SelectionKey :=
  toLex (lagSeconds now rep, toLex (rep.regionID, rep.bucket))

def Failover.Scored.key (scored : Scored) : SelectionKey :=
  toLex (scored.lagSec, toLex (scored.rep.regionID, scored.rep.bucket))

/-- The test that both gates make of the lag. -/
theorem staleBound_exceeded_iff (fb : FederatedBucket) (lag : Int) :
    staleBound fb.policy > 0 ∧ lag > staleBound fb.policy ↔
      0 < fb.policy.lagAlertSec ∧ 10 * fb.policy.lagAlertSec * second < lag := by
  unfold staleBound
  by_cases gated : fb.policy.lagAlertSec > 0
  · rw [if_pos gated]
    have positive : 10 * fb.policy.lagAlertSec * second > 0 := by
      unfold second
      omega
    exact ⟨fun exceeded => ⟨gated, exceeded.2⟩, fun exceeded => ⟨positive, exceeded.2⟩⟩
  · rw [if_neg gated]
    exact ⟨fun exceeded => absurd exceeded.1 (lt_irrefl 0),
      fun exceeded => absurd exceeded.1 gated⟩

theorem score_eq (fb : FederatedBucket) (now : Int) (rep : ReplicaTarget) :
    score fb now rep = if Qualifies fb now rep then some ⟨rep, lagSeconds now rep⟩ else none := by
  unfold score
  simp only [staleBound_exceeded_iff]
  by_cases unsynced : rep.lastSync = 0
  · rw [if_pos unsynced, if_neg fun fit => fit.1 unsynced]
  · rw [if_neg unsynced]
    by_cases broken : rep.health = .broken
    · rw [if_pos broken, if_neg fun fit => fit.2.1 broken]
    · rw [if_neg broken]
      by_cases stale : 0 < fb.policy.lagAlertSec ∧
          10 * fb.policy.lagAlertSec * second < now - rep.lastSync
      · rw [if_pos stale, if_neg fun fit => absurd (fit.2.2 stale.1) (not_le.mpr stale.2)]
      · rw [if_neg stale, if_pos ⟨unsynced, broken, fun gated =>
          not_lt.mp fun exceeded => stale ⟨gated, exceeded⟩⟩]
        rfl

/-! ## The loop -/

/-- The comparison of the loop is the order of the keys. -/
theorem Failover.Scored.before_iff (candidate best : Scored) :
    candidate.before best = true ↔ candidate.key < best.key := by
  rw [Scored.key, Scored.key, Prod.Lex.toLex_lt_toLex, Prod.Lex.toLex_lt_toLex, Scored.before]
  rcases lt_trichotomy candidate.lagSec best.lagSec with fresher | same | older
  · simp [fresher]
  · rw [if_neg same.not_lt, if_neg same.not_gt]
    rcases lt_trichotomy candidate.rep.regionID best.rep.regionID with first | equal | later
    · simp [same, first]
    · rw [if_neg equal.not_lt, if_neg equal.not_gt]
      simp [same, equal]
    · simp [same, later, later.not_gt, later.ne']
  · simp [older, older.not_gt, older.ne']

/-- The loop takes the first candidate with the least key. -/
theorem bestOf_eq_argmin (first : Scored) (rest : List Scored) :
    some (bestOf first rest) = (first :: rest).argmin Scored.key := by
  unfold bestOf List.argmin
  rw [List.foldl_cons]
  change _ = rest.foldl _ (some first)
  induction rest generalizing first with
  | nil => rfl
  | cons candidate rest ih =>
      rw [List.foldl_cons, List.foldl_cons, ih]
      congr 1
      by_cases smaller : candidate.key < first.key
      · rw [if_pos ((Scored.before_iff _ _).mpr smaller)]
        exact (if_pos smaller).symm
      · rw [if_neg fun before => smaller ((Scored.before_iff _ _).mp before)]
        exact (if_neg smaller).symm

theorem pickHealthiestReplica_eq_argmin (fb : FederatedBucket) (now : Int) :
    pickHealthiestReplica fb now =
      ((fb.replicas.filterMap (score fb now)).argmin Scored.key).map Scored.rep := by
  unfold pickHealthiestReplica
  cases fb.replicas.filterMap (score fb now) with
  | nil => rfl
  | cons first rest =>
      rw [← bestOf_eq_argmin]
      rfl

theorem mem_candidates_iff (fb : FederatedBucket) (now : Int) (scored : Scored) :
    scored ∈ fb.replicas.filterMap (score fb now) ↔
      scored.rep ∈ fb.replicas ∧ Qualifies fb now scored.rep ∧
        scored.lagSec = lagSeconds now scored.rep := by
  rw [List.mem_filterMap]
  constructor
  · rintro ⟨rep, listed, found⟩
    rw [score_eq] at found
    split at found
    · cases found
      exact ⟨listed, ‹_›, rfl⟩
    · cases found
  · rintro ⟨listed, fit, lag⟩
    refine ⟨scored.rep, listed, ?_⟩
    rw [score_eq, if_pos fit, ← lag]

/-- A replica that is returned is fit, and no fit one has a smaller key. -/
theorem pickHealthiestReplica_least {fb : FederatedBucket} {now : Int} {rep : ReplicaTarget}
    (picked : pickHealthiestReplica fb now = some rep) :
    rep ∈ fb.replicas ∧ Qualifies fb now rep ∧ forall other, other ∈ fb.replicas ->
      Qualifies fb now other -> selectionKey now rep ≤ selectionKey now other := by
  rw [pickHealthiestReplica_eq_argmin] at picked
  rcases Option.map_eq_some_iff.mp picked with ⟨scored, least, rfl⟩
  rcases (mem_candidates_iff fb now scored).mp (List.argmin_mem least) with ⟨listed, fit, lag⟩
  refine ⟨listed, fit, ?_⟩
  intro other otherListed otherFit
  have candidate := (mem_candidates_iff fb now ⟨other, lagSeconds now other⟩).mpr
    ⟨otherListed, otherFit, rfl⟩
  have order := List.le_of_mem_argmin candidate least
  rw [Scored.key, lag] at order
  exact order

theorem pickHealthiestReplica_eq_none_iff (fb : FederatedBucket) (now : Int) :
    pickHealthiestReplica fb now = none ↔
      forall rep, rep ∈ fb.replicas -> ¬ Qualifies fb now rep := by
  rw [pickHealthiestReplica_eq_argmin, Option.map_eq_none_iff, List.argmin_eq_none,
    List.eq_nil_iff_forall_not_mem]
  constructor
  · intro empty rep listed fit
    exact empty ⟨rep, lagSeconds now rep⟩ ((mem_candidates_iff _ _ _).mpr ⟨listed, fit, rfl⟩)
  · intro none scored candidate
    rcases (mem_candidates_iff _ _ _).mp candidate with ⟨listed, fit, _⟩
    exact none _ listed fit

/-- Where endpoints are distinct the least replica is one of its own. -/
theorem pickHealthiestReplica_eq_some_iff {fb : FederatedBucket}
    (distinct : (fb.replicas.map ReplicaTarget.endpoint).Nodup) (now : Int) (rep : ReplicaTarget) :
    pickHealthiestReplica fb now = some rep ↔
      rep ∈ fb.replicas ∧ Qualifies fb now rep ∧ forall other, other ∈ fb.replicas ->
        Qualifies fb now other -> selectionKey now rep ≤ selectionKey now other := by
  constructor
  · exact pickHealthiestReplica_least
  · rintro ⟨listed, fit, least⟩
    cases picked : pickHealthiestReplica fb now with
    | none => exact absurd fit ((pickHealthiestReplica_eq_none_iff fb now).mp picked rep listed)
    | some chosen =>
        rcases pickHealthiestReplica_least picked with ⟨chosenListed, chosenFit, chosenLeast⟩
        have same := le_antisymm (chosenLeast rep listed fit) (least chosen chosenListed chosenFit)
        have names : toLex (chosen.regionID, chosen.bucket) = toLex (rep.regionID, rep.bucket) :=
          congrArg (fun key => (ofLex key).2) same
        have endpoint : chosen.endpoint = rep.endpoint := by
          have pair : (chosen.regionID, chosen.bucket) = (rep.regionID, rep.bucket) :=
            congrArg ofLex names
          rw [ReplicaTarget.endpoint, ReplicaTarget.endpoint, (Prod.mk.inj pair).1,
            (Prod.mk.inj pair).2]
        rw [List.inj_on_of_nodup_map distinct chosenListed listed endpoint]

/-- The order of the replicas makes no difference then. -/
theorem pickHealthiestReplica_perm {fb : FederatedBucket}
    (distinct : (fb.replicas.map ReplicaTarget.endpoint).Nodup) {replicas : List ReplicaTarget}
    (permuted : replicas.Perm fb.replicas) (now : Int) :
    pickHealthiestReplica { fb with replicas := replicas } now = pickHealthiestReplica fb now := by
  have permutedDistinct : (replicas.map ReplicaTarget.endpoint).Nodup :=
    (permuted.map ReplicaTarget.endpoint).nodup_iff.mpr distinct
  apply Option.ext
  intro rep
  rw [pickHealthiestReplica_eq_some_iff permutedDistinct,
    pickHealthiestReplica_eq_some_iff distinct]
  simp only [permuted.mem_iff]
  rfl

/-! ## The displayed health -/

/-- The stored health stands for the number of failures, as `recordFailure` writes it. -/
def RecordsFailures (rep : ReplicaTarget) (failureCount : Nat) : Prop :=
  rep.health = .broken ↔ brokenFailureThreshold ≤ failureCount

/-- What a replica is shown as if it is not fit to be promoted. -/
def Unfit (health : Health) : Prop := health = .pending ∨ health = .stale ∨ health = .broken

/-- The displayed health is that of an unfit replica exactly if the gate refuses it. -/
theorem unfit_computeHealth_iff (fb : FederatedBucket) (now : Int) {rep : ReplicaTarget}
    {failureCount : Nat} (recorded : RecordsFailures rep failureCount) :
    Unfit (computeHealth rep.lastSync now fb.policy.lagAlertSec failureCount) ↔
      ¬ Qualifies fb now rep := by
  unfold computeHealth
  by_cases failing : brokenFailureThreshold ≤ failureCount
  · rw [if_pos failing]
    exact iff_of_true (Or.inr (Or.inr rfl)) fun fit => fit.2.1 (recorded.mpr failing)
  · have sound : rep.health ≠ .broken := fun broken => failing (recorded.mp broken)
    rw [if_neg failing]
    by_cases unsynced : rep.lastSync = 0
    · rw [if_pos unsynced]
      exact iff_of_true (Or.inl rfl) fun fit => fit.1 unsynced
    · rw [if_neg unsynced]
      by_cases ungated : fb.policy.lagAlertSec ≤ 0
      · rw [if_pos ungated]
        apply iff_of_false (by simp [Unfit])
        exact not_not.mpr ⟨unsynced, sound, fun gated => absurd gated (not_lt.mpr ungated)⟩
      · rw [if_neg ungated, ← mul_assoc]
        by_cases stale : 10 * fb.policy.lagAlertSec * second < now - rep.lastSync
        · rw [if_pos stale]
          apply iff_of_true (Or.inr (Or.inl rfl))
          exact fun fit => absurd (fit.2.2 (not_le.mp ungated)) (not_le.mpr stale)
        · rw [if_neg stale]
          apply iff_of_false
          · split <;> simp [Unfit]
          · exact not_not.mpr ⟨unsynced, sound, fun _ => not_lt.mp stale⟩

/-! ## The operator's choice -/

/-- The gate of the handler is the gate of the watchdog. -/
theorem userFailoverFederation_ok_iff (existing : FederatedBucket) (newPrimary : Endpoint)
    (now : Int) :
    (Exists fun promotion => userFailoverFederation existing newPrimary now = .ok promotion) ↔
      Exists fun rep => (existing.replicas.find? fun rep => decide (rep.endpoint = newPrimary)) =
        some rep ∧ Qualifies existing now rep := by
  unfold userFailoverFederation
  simp only [staleBound_exceeded_iff]
  split
  · rename_i absent
    simp [absent]
  · rename_i target found
    simp only [found, Option.some.injEq, exists_eq_left']
    by_cases unsynced : target.lastSync = 0
    · rw [if_pos unsynced]
      exact iff_of_false (by rintro ⟨promotion, ⟨⟩⟩) fun fit => fit.1 unsynced
    · rw [if_neg unsynced]
      by_cases broken : target.health = .broken
      · rw [if_pos broken]
        exact iff_of_false (by rintro ⟨promotion, ⟨⟩⟩) fun fit => fit.2.1 broken
      · rw [if_neg broken]
        by_cases stale : 0 < existing.policy.lagAlertSec ∧
            10 * existing.policy.lagAlertSec * second < now - target.lastSync
        · rw [if_pos stale]
          apply iff_of_false (by rintro ⟨promotion, ⟨⟩⟩)
          exact fun fit => absurd (fit.2.2 stale.1) (not_le.mpr stale.2)
        · rw [if_neg stale]
          exact iff_of_true ⟨_, rfl⟩ ⟨unsynced, broken, fun gated =>
            not_lt.mp fun exceeded => stale ⟨gated, exceeded⟩⟩

theorem find?_endpoint_eq_some_iff {replicas : List ReplicaTarget}
    (distinct : (replicas.map ReplicaTarget.endpoint).Nodup) (endpoint : Endpoint)
    (rep : ReplicaTarget) :
    (replicas.find? fun rep => decide (rep.endpoint = endpoint)) = some rep ↔
      rep ∈ replicas ∧ rep.endpoint = endpoint := by
  constructor
  · intro found
    have here := List.find?_some found
    exact ⟨List.mem_of_find?_eq_some found, of_decide_eq_true here⟩
  · rintro ⟨listed, rfl⟩
    cases found : replicas.find? fun other => decide (other.endpoint = rep.endpoint) with
    | none =>
        exact absurd rfl (of_decide_eq_false (Bool.not_eq_true _ ▸
          List.find?_eq_none.mp found rep listed))
    | some other =>
        have here := List.find?_some found
        rw [List.inj_on_of_nodup_map distinct (List.mem_of_find?_eq_some found) listed
          (of_decide_eq_true here)]

/-- A write against the record that was read succeeds. -/
theorem promotion_write_ok {promotion : Promotion} {rows : Rows} {id : String}
    (stored : rows.get? id = some promotion.read) (now : Int) :
    Exists fun after => (promotion.write rows id now true).1 = .ok after := by
  unfold Failover.Promotion.write Rows.promoteWithEpoch Rows.commit
  simp [stored]

/-- The handler promotes the endpoint that its owner names exactly if it is that of a fit
replica. -/
theorem userFailover_ok_iff {rows : Rows} {id : String} {fb : FederatedBucket}
    (stored : rows.get? id = some fb) (structured : fb.Structured) (regionID bucket : String)
    (now writtenAt : Int) :
    (Exists fun after =>
      (userFailover rows fb.ownerUserID id regionID bucket now writtenAt true).1 = .ok after) ↔
      trimSpace regionID ≠ "" ∧ trimSpace bucket ≠ "" ∧ Exists fun rep => rep ∈ fb.replicas ∧
        rep.endpoint = ⟨trimSpace regionID, trimSpace bucket⟩ ∧ Qualifies fb now rep := by
  have owned : requireOwnedFederation rows fb.ownerUserID id = .ok fb := by
    simp [requireOwnedFederation, stored]
  have gate := userFailoverFederation_ok_iff fb ⟨trimSpace regionID, trimSpace bucket⟩ now
  simp only [find?_endpoint_eq_some_iff (List.nodup_cons.mp structured.distinct).2,
    and_assoc] at gate
  rw [← gate, userFailover, owned]
  dsimp only
  by_cases missing : trimSpace regionID = "" ∨ trimSpace bucket = ""
  · rw [if_pos missing]
    apply iff_of_false (by rintro ⟨after, ⟨⟩⟩)
    rintro ⟨region, bucketNamed, _⟩
    exact missing.elim region bucketNamed
  · rw [if_neg missing]
    rcases not_or.mp missing with ⟨region, bucketNamed⟩
    cases granted : userFailoverFederation fb ⟨trimSpace regionID, trimSpace bucket⟩ now with
    | error refusal =>
        apply iff_of_false (by rintro ⟨after, ⟨⟩⟩)
        rintro ⟨_, _, promotion, ⟨⟩⟩
    | ok promotion =>
        have same := userFailoverFederation_read granted
        rcases promotion_write_ok (same.symm ▸ stored) writtenAt with ⟨after, written⟩
        refine iff_of_true ⟨after, ?_⟩ ⟨region, bucketNamed, promotion, rfl⟩
        simp only [written]
        rfl

/-! ## Names without blanks around them -/

/-- The names of an endpoint as a request brings them after the blanks are trimmed. -/
def Endpoint.Trimmed (endpoint : Endpoint) : Prop :=
  trimSpace endpoint.regionID = endpoint.regionID ∧ endpoint.regionID ≠ "" ∧
    trimSpace endpoint.bucket = endpoint.bucket ∧ endpoint.bucket ≠ ""

def FederatedBucket.Named (fb : FederatedBucket) : Prop :=
  forall endpoint, endpoint ∈ fb.endpoints -> endpoint.Trimmed

def Rows.Named (rows : Rows) : Prop :=
  forall id fb, rows.get? id = some fb -> fb.Named

theorem TargetRequest.target_trimmed {req : TargetRequest}
    (named : ¬ (trimSpace req.regionID = "" ∨ trimSpace req.bucket = "")) :
    req.target.endpoint.Trimmed := by
  rcases not_or.mp named with ⟨region, bucket⟩
  exact ⟨Api.trimSpace_trimSpace _, region, Api.trimSpace_trimSpace _, bucket⟩

theorem replicaError_none_named {seen : List String} {number : Nat} {replicas : List TargetRequest}
    (accepted : replicaError seen number replicas = none) {rep : TargetRequest}
    (listed : rep ∈ replicas) : rep.target.endpoint.Trimmed := by
  induction replicas generalizing seen number with
  | nil => cases listed
  | cons first rest ih =>
      unfold replicaError at accepted
      split at accepted
      · cases accepted
      · rename_i named
        split at accepted
        · cases accepted
        · rcases List.mem_cons.mp listed with rfl | later
          · exact TargetRequest.target_trimmed named
          · exact ih accepted later

theorem requestError_named {cronError : String -> Option String} {regions : RegionOwners}
    {userID : String} {req : FederationRequest}
    (accepted : requestError cronError regions userID req = none) (ownerUserID : String) :
    (req.federation ownerUserID).Named := by
  unfold requestError at accepted
  split at accepted
  · cases accepted
  · rename_i valid
    unfold validateFederationRequest at valid
    split at valid
    · cases valid
    · split at valid
      · cases valid
      · rename_i primary
        split at valid
        · cases valid
        · split at valid
          · cases valid
          · cases unobjected : replicaError [req.primary.target.endpoint.key] 1 req.replicas with
            | some error =>
                rw [unobjected] at valid
                cases valid
            | none =>
                intro endpoint listed
                rcases List.mem_cons.mp listed with rfl | later
                · exact TargetRequest.target_trimmed primary
                · rcases List.mem_map.mp later with ⟨target, member, rfl⟩
                  rcases List.mem_map.mp member with ⟨rep, repListed, rfl⟩
                  exact replicaError_none_named unobjected repListed

theorem Rows.Served.named {cronError : String -> Option String} {rows next : Rows}
    (served : Rows.Served cronError rows next) (named : rows.Named) : next.Named := by
  cases served with
  | same => exact named
  | requested regions userID req id fb accepted described =>
      apply SortedStore.Every.put named
      intro endpoint listed
      exact requestError_named accepted "" endpoint (described ▸ listed)
  | rearranged id existing fb found endpoints =>
      apply SortedStore.Every.put named
      intro endpoint listed
      exact named id existing found endpoint (endpoints.mem_iff.mp listed)
  | erased id => exact SortedStore.Every.erase named id

/-- Every stored federation has names that a request can give. -/
theorem Rows.after_named (cronError : String -> Option String) (calls : List FederationCall) :
    (Rows.after cronError calls).Named := by
  refine (Rows.after_invariant ?_ (fun _ _ served named => served.named named) calls).2
  intro id fb found
  cases found

/-! ## The selection -/

/-- A replica qualifies exactly if it is the one returned where there is no other. -/
theorem qualifies_iff_alone (fb : FederatedBucket) (now : Int) (rep : ReplicaTarget) :
    Qualifies fb now rep ↔
      pickHealthiestReplica { fb with replicas := [rep] } now = some rep := by
  constructor
  · intro fit
    have alone : ([rep].map ReplicaTarget.endpoint).Nodup := List.nodup_singleton _
    apply (@pickHealthiestReplica_eq_some_iff { fb with replicas := [rep] } alone now rep).mpr
    refine ⟨List.mem_singleton_self rep, fit, ?_⟩
    intro other listed _
    rw [List.mem_singleton.mp listed]
  · exact fun picked => (pickHealthiestReplica_least picked).2.1

theorem photosFederated_stored :
    ((Rows.after (fun _ => none) photosFederated).get? "fed").isSome = true := by
  decide +kernel

end Federation
end Basement
