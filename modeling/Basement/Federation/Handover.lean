import Basement.Federation.Requests
import Basement.Federation.Watermark

namespace Basement
namespace Federation
namespace Handover

open Library Library.Transition
open Failover Replication

/-!
# Watermarks across a failover

A failover makes another bucket the one that the watermarks are about.  The federation is seen
here with all its buckets: anybody may write to any of them, passes and event tasks start with
the replica's entry as they read it and record their outcome at any later time, and failovers
take place in between.

A failover keeps the entries of the other replicas as they are.  What it takes for their
watermarks to be safe for the new primary is compared with what made them safe for the old one.

What a pass or a task copies is among the writes, and what it finds out is an argument of its
outcome.
-/

variable {contentOf : String -> Body}

/-! ## Safe watermarks, before and after -/

/-- The old primary has the object in this version, and the watermark filters it there. -/
def Shared (old : Contents contentOf) (mark : Int) (key : String) (object : Object contentOf) :
    Prop :=
  Exists fun held => old.get? key = some held ∧ held.body = object.body ∧
    filtered mark held.mtime = true

section Clean

variable {primary replica : Contents contentOf} {mark : Int}

/-- A watermark that is safe for one primary is safe for another one exactly if the objects that
the two do not share are on the replica. -/
theorem clean_promoted_iff (clean : Clean primary replica mark) (promoted : Contents contentOf) :
    Clean promoted replica mark ↔ forall key object, promoted.get? key = some object ->
      filtered mark object.mtime = true -> ¬ Shared primary mark key object ->
        Same (some object) (replica.get? key) := by
  constructor
  · intro safe key object found old _
    rw [← found]
    exact safe key object found old
  · intro carried key object found old
    rw [found]
    by_cases shared : Shared primary mark key object
    · rcases shared with ⟨held, there, body, behind⟩
      rcases clean key held there behind held there with ⟨copy, present, same⟩
      intro other equal
      cases equal
      exact ⟨copy, present, same.trans body⟩
    · exact carried key object found old shared

/-- A later watermark is safe exactly if the objects that it filters in addition are on the
replica. -/
theorem clean_later_iff (clean : Clean primary replica mark) (later : Int) :
    Clean primary replica later ↔ forall key object, primary.get? key = some object ->
      filtered later object.mtime = true -> filtered mark object.mtime = false ->
        Same (some object) (replica.get? key) := by
  constructor
  · intro safe key object found old _
    rw [← found]
    exact safe key object found old
  · intro added key object found old
    cases before : filtered mark object.mtime with
    | true => exact clean key object found before
    | false =>
        rw [found]
        exact added key object found old before

theorem clean_set_primary_iff (clean : Clean primary replica mark) (key : String)
    (written : Option (Object contentOf)) :
    Clean (primary.set key written) replica mark ↔ forall object, written = some object ->
      filtered mark object.mtime = true -> Same (some object) (replica.get? key) := by
  constructor
  · intro safe object here old
    have found : (primary.set key written).get? key = some object := by
      rw [SortedStore.get?_set, if_pos rfl, here]
    rw [← found]
    exact safe key object found old
  · intro lands other object found old
    by_cases same : other = key
    · rw [found, same]
      rw [SortedStore.get?_set, if_pos same] at found
      exact lands object found old
    · rw [SortedStore.get?_set, if_neg same] at found ⊢
      exact clean other object found old

theorem clean_set_replica_iff (clean : Clean primary replica mark) (key : String)
    (written : Option (Object contentOf)) :
    Clean primary (replica.set key written) mark ↔ forall object, primary.get? key = some object ->
      filtered mark object.mtime = true -> Same (some object) written := by
  constructor
  · intro safe object found old
    have lands := safe key object found old
    rw [SortedStore.get?_set, if_pos rfl, found] at lands
    exact lands
  · intro lands other object found old
    rw [SortedStore.get?_set]
    by_cases same : other = key
    · subst same
      rw [if_pos rfl, found]
      exact lands object found old
    · rw [if_neg same]
      exact clean other object found old

/-- A replica that has never synced has a safe watermark. -/
theorem clean_zero (primary replica : Contents contentOf) : Clean primary replica 0 := by
  intro key object _ old
  cases old

end Clean

/-! ## The federation -/

/-- A pass or a task: at work with the entry it has read, or about to store its outcome. -/
inductive Recorder where
  | running (snap : ReplicaTarget)
  | recording (upd : ReplicaTarget)
  deriving DecidableEq, Repr

/-- How a pass or a task ends.  `loaded` says whether the store gives the entry back. -/
inductive RecordOutcome where
  | succeeded (now pendingObjects pendingBytes : Int) (dr : DiffResult)
  | failed (failures : Nat) (loaded : Bool)
  | deleted (loaded : Bool)
  deriving DecidableEq, Repr

/-- What is stored for the outcome. -/
def RecordOutcome.update (snap : ReplicaTarget) (stored : Option ReplicaTarget) :
    RecordOutcome -> ReplicaTarget
  | .succeeded now pendingObjects pendingBytes dr =>
      recordSuccess now snap pendingObjects pendingBytes dr
  | .failed failures loaded => recordFailure failures (if loaded then stored else none) snap
  | .deleted loaded => recordDeleteSuccess (if loaded then stored else none) snap

/-- The buckets, the rows of the store, and who is to record an outcome. -/
structure Fleet (contentOf : String -> Body) where
  contents : Endpoint -> Contents contentOf
  rows : Rows
  recorders : List Recorder := []

inductive FleetAction (contentOf : String -> Body) where
  | write (endpoint : Endpoint) (key : String) (written : Option (Object contentOf))
  | start (endpoint : Endpoint)
  | finish (recorder : Nat) (outcome : RecordOutcome)
  | store (recorder : Nat) (now : Int) (persisted : Bool)
  | manual (newPrimary : Endpoint) (readAt now : Int) (persisted : Bool)
  | automatic (readAt now : Int) (persisted : Bool)

/-- The entry of a replica. -/
def replicaAt (endpoint : Endpoint) (fb : FederatedBucket) : Option ReplicaTarget :=
  fb.replicas.find? fun rep => decide (rep.endpoint = endpoint)

/-- The promotion that the operator asks for, unless the handler refuses it. -/
def chosenByOperator (fb : FederatedBucket) (newPrimary : Endpoint) (readAt : Int) :
    Option Promotion :=
  (userFailoverFederation fb newPrimary readAt).toOption

/-- The promotion that the watchdog decides on. -/
def chosenByWatchdog (fb : FederatedBucket) (readAt : Int) : Option Promotion :=
  if fb.policy.autoFailover then triggerAutoFailover fb readAt else none

/-- Write to one of the buckets. -/
def putObject (contents : Endpoint -> Contents contentOf) (endpoint : Endpoint) (key : String)
    (written : Option (Object contentOf)) : Endpoint -> Contents contentOf :=
  fun other => if other = endpoint then (contents other).set key written else contents other

variable (id : String)

def Fleet.step (fleet : Fleet contentOf) : FleetAction contentOf -> Option (Fleet contentOf)
  | .write endpoint key written =>
      some { fleet with contents := putObject fleet.contents endpoint key written }
  | .start endpoint =>
      match (fleet.rows.get? id).bind (replicaAt endpoint) with
      | none => none
      | some snap => some { fleet with recorders := fleet.recorders ++ [.running snap] }
  | .finish recorder outcome =>
      match fleet.recorders[recorder]? with
      | some (.running snap) =>
          let stored := (fleet.rows.get? id).bind (replicaAt snap.endpoint)
          some { fleet with
            recorders := fleet.recorders.set recorder (.recording (outcome.update snap stored)) }
      | _ => none
  | .store recorder now persisted =>
      match fleet.recorders[recorder]? with
      | some (.recording upd) => some { fleet with
          rows := (fleet.rows.updateReplicaHealth id upd.endpoint upd now persisted).2
          recorders := fleet.recorders.eraseIdx recorder }
      | _ => none
  | .manual newPrimary readAt now persisted =>
      match (fleet.rows.get? id).bind fun fb => chosenByOperator fb newPrimary readAt with
      | none => none
      | some promotion =>
          some { fleet with rows := (promotion.write fleet.rows id now persisted).2 }
  | .automatic readAt now persisted =>
      match (fleet.rows.get? id).bind fun fb => chosenByWatchdog fb readAt with
      | none => none
      | some promotion =>
          some { fleet with rows := (promotion.write fleet.rows id now persisted).2 }

/-! ## Honest watermarks -/

/-- Every replica has the objects of the primary that its watermark filters. -/
def Honest (contents : Endpoint -> Contents contentOf) (fb : FederatedBucket) : Prop :=
  forall rep, rep ∈ fb.replicas ->
    Clean (contents fb.primary.endpoint) (contents rep.endpoint) rep.lastSync

def Fleet.Honest (fleet : Fleet contentOf) : Prop :=
  forall fb, fleet.rows.get? id = some fb -> Handover.Honest fleet.contents fb

/-- What the new primary has behind a watermark and does not share with the old one is on the
replica. -/
def Carries (contents : Endpoint -> Contents contentOf) (promotion : Promotion) : Prop :=
  forall rep, rep ∈ promotion.read.replicas -> rep.endpoint ≠ promotion.target.endpoint ->
    forall key object, (contents promotion.target.endpoint).get? key = some object ->
      filtered rep.lastSync object.mtime = true ->
        ¬ Shared (contents promotion.read.primary.endpoint) rep.lastSync key object ->
          Same (some object) ((contents rep.endpoint).get? key)

/-- A write to the primary that a watermark filters brings what the replica has. -/
def LandsOnPrimary (contents : Endpoint -> Contents contentOf) (fb : FederatedBucket)
    (key : String) (written : Option (Object contentOf)) : Prop :=
  forall rep, rep ∈ fb.replicas -> forall object, written = some object ->
    filtered rep.lastSync object.mtime = true ->
      Same (some object) ((contents rep.endpoint).get? key)

/-- A write to a replica brings what the primary has, or the watermark does not filter it. -/
def LandsOnReplica (contents : Endpoint -> Contents contentOf) (fb : FederatedBucket)
    (endpoint : Endpoint) (key : String) (written : Option (Object contentOf)) : Prop :=
  forall rep, rep ∈ fb.replicas -> rep.endpoint = endpoint ->
    forall object, (contents fb.primary.endpoint).get? key = some object ->
      filtered rep.lastSync object.mtime = true -> Same (some object) written

/-- What a recorded watermark filters beyond the stored one is on the replica. -/
def Caught (contents : Endpoint -> Contents contentOf) (fb : FederatedBucket)
    (upd : ReplicaTarget) : Prop :=
  forall rep, rep ∈ fb.replicas -> rep.endpoint = upd.endpoint ->
    forall key object, (contents fb.primary.endpoint).get? key = some object ->
      filtered upd.lastSync object.mtime = true -> filtered rep.lastSync object.mtime = false ->
        Same (some object) ((contents rep.endpoint).get? key)

/-- The condition on a step, for the record as it is stored. -/
def Fleet.Carried (fleet : Fleet contentOf) : FleetAction contentOf -> Prop
  | .write endpoint key written => forall fb, fleet.rows.get? id = some fb ->
      (endpoint = fb.primary.endpoint -> LandsOnPrimary fleet.contents fb key written) ∧
        LandsOnReplica fleet.contents fb endpoint key written
  | .store recorder _ persisted => persisted = true -> forall fb upd,
      fleet.rows.get? id = some fb -> fleet.recorders[recorder]? = some (.recording upd) ->
        Caught fleet.contents fb upd
  | .manual newPrimary readAt _ persisted => persisted = true -> forall fb promotion,
      fleet.rows.get? id = some fb -> chosenByOperator fb newPrimary readAt = some promotion ->
        Carries fleet.contents promotion
  | .automatic readAt _ persisted => persisted = true -> forall fb promotion,
      fleet.rows.get? id = some fb -> chosenByWatchdog fb readAt = some promotion ->
        Carries fleet.contents promotion
  | _ => True

/-! ## One step -/

/-- Every federation that is stored has its structure. -/
def Fleet.Structured (fleet : Fleet contentOf) : Prop :=
  forall fb, fleet.rows.get? id = some fb -> fb.Structured

/-- Where endpoints are distinct, a health update reaches the entries at its endpoint. -/
theorem setReplicaHealth_eq_map {endpoint : Endpoint} {health : ReplicaTarget}
    {replicas updated : List ReplicaTarget}
    (distinct : (replicas.map ReplicaTarget.endpoint).Nodup)
    (found : setReplicaHealth endpoint health replicas = some updated) :
    updated = replicas.map fun rep =>
      if rep.endpoint = endpoint then rep.withHealth health else rep := by
  induction replicas generalizing updated with
  | nil => cases found
  | cons rep rest ih =>
      rcases List.nodup_cons.mp distinct with ⟨apart, tail⟩
      unfold setReplicaHealth at found
      split at found
      · rename_i here
        cases found
        have others := map_at_endpoint_of_absent (here ▸ apart) fun rep => rep.withHealth health
        rw [List.map_cons, if_pos here, others]
      · rename_i other
        rcases Option.map_eq_some_iff.mp found with ⟨later, foundLater, rfl⟩
        rw [List.map_cons, if_neg other, ← ih tail foundLater]

/-- An update for an entry that is there finds it. -/
theorem setReplicaHealth_ne_none {endpoint : Endpoint} {health rep : ReplicaTarget}
    {replicas : List ReplicaTarget} (member : rep ∈ replicas) (here : rep.endpoint = endpoint) :
    setReplicaHealth endpoint health replicas ≠ none := by
  induction replicas with
  | nil => cases member
  | cons first rest ih =>
      unfold setReplicaHealth
      by_cases same : first.endpoint = endpoint
      · rw [if_pos same]
        exact Option.some_ne_none _
      · rw [if_neg same]
        have later : rep ∈ rest := by
          apply (List.mem_cons.mp member).resolve_left
          rintro rfl
          exact same here
        exact fun missing => ih later (Option.map_eq_none_iff.mp missing)

section Steps

variable {contents : Endpoint -> Contents contentOf} {fb : FederatedBucket}

/-- A write keeps the watermarks honest exactly if it lands well on either side. -/
theorem honest_write_iff (structured : fb.Structured) (honest : Honest contents fb)
    (endpoint : Endpoint) (key : String) (written : Option (Object contentOf)) :
    Honest (putObject contents endpoint key written) fb ↔
      (endpoint = fb.primary.endpoint -> LandsOnPrimary contents fb key written) ∧
        LandsOnReplica contents fb endpoint key written := by
  have apart : forall rep, rep ∈ fb.replicas -> rep.endpoint ≠ fb.primary.endpoint := by
    intro rep member same
    apply (List.nodup_cons.mp structured.distinct).1
    rw [← same]
    exact List.mem_map_of_mem member
  have here : putObject contents endpoint key written endpoint =
      (contents endpoint).set key written := if_pos rfl
  have elsewhere : forall other, other ≠ endpoint ->
      putObject contents endpoint key written other = contents other :=
    fun other different => if_neg different
  constructor
  · intro after
    constructor
    · rintro rfl rep member
      have safe := after rep member
      rw [here, elsewhere rep.endpoint (apart rep member)] at safe
      exact (clean_set_primary_iff (honest rep member) key written).mp safe
    · rintro rep member rfl
      have safe := after rep member
      rw [here, elsewhere fb.primary.endpoint (apart rep member).symm] at safe
      exact (clean_set_replica_iff (honest rep member) key written).mp safe
  · rintro ⟨onPrimary, onReplica⟩ rep member
    by_cases primary : endpoint = fb.primary.endpoint
    · have lands := onPrimary primary rep member
      subst primary
      rw [here, elsewhere rep.endpoint (apart rep member)]
      exact (clean_set_primary_iff (honest rep member) key written).mpr lands
    · rw [elsewhere fb.primary.endpoint (Ne.symm primary)]
      by_cases replica : rep.endpoint = endpoint
      · have lands := onReplica rep member replica
        subst replica
        rw [here]
        exact (clean_set_replica_iff (honest rep member) key written).mpr lands
      · rw [elsewhere rep.endpoint replica]
        exact honest rep member

/-- A failover keeps the watermarks honest exactly if the new primary carries nothing that a
replica behind its watermark lacks. -/
theorem honest_swapped_iff {promotion : Promotion} {after : FederatedBucket}
    (honest : Honest contents promotion.read)
    (swapped : Swapped promotion.read after promotion.target) :
    Honest contents after ↔ Carries contents promotion := by
  have primary : after.primary.endpoint = promotion.target.endpoint := by
    rw [swapped.primary]
    rfl
  unfold Honest
  rw [primary, swapped.replicas]
  constructor
  · intro safe rep member other
    apply (clean_promoted_iff (honest rep member) _).mp
    apply safe rep
    exact List.mem_map.mpr ⟨rep, member, if_neg other⟩
  · intro carries rep member
    rcases List.mem_map.mp member with ⟨before, listed, rfl⟩
    split
    · exact clean_zero _ _
    · rename_i other
      exact (clean_promoted_iff (honest before listed) _).mpr (carries before listed other)

/-- A recorded outcome keeps the watermarks honest exactly if the replica has caught up. -/
theorem honest_recorded_iff (structured : fb.Structured) (honest : Honest contents fb)
    {upd : ReplicaTarget} {replicas : List ReplicaTarget}
    (found : setReplicaHealth upd.endpoint upd fb.replicas = some replicas) (now : Int) :
    Honest contents { fb with replicas := replicas, updatedAt := now } ↔ Caught contents fb upd := by
  have mapped := setReplicaHealth_eq_map (List.nodup_cons.mp structured.distinct).2 found
  unfold Honest
  dsimp only
  rw [mapped]
  constructor
  · intro safe rep member here
    apply (clean_later_iff (honest rep member) upd.lastSync).mp
    have listed := safe (rep.withHealth upd)
      (List.mem_map.mpr ⟨rep, member, if_pos here⟩)
    exact listed
  · intro caught rep member
    rcases List.mem_map.mp member with ⟨before, listed, rfl⟩
    split
    · rename_i here
      exact (clean_later_iff (honest before listed) upd.lastSync).mpr (caught before listed here)
    · exact honest before listed

end Steps

variable {id}

theorem chosenByOperator_read {fb : FederatedBucket} {newPrimary : Endpoint} {readAt : Int}
    {promotion : Promotion} (chosen : chosenByOperator fb newPrimary readAt = some promotion) :
    promotion.read = fb := by
  unfold chosenByOperator at chosen
  cases granted : userFailoverFederation fb newPrimary readAt with
  | error refusal =>
      rw [granted] at chosen
      cases chosen
  | ok other =>
      rw [granted] at chosen
      cases chosen
      exact userFailoverFederation_read granted

theorem chosenByWatchdog_read {fb : FederatedBucket} {readAt : Int} {promotion : Promotion}
    (chosen : chosenByWatchdog fb readAt = some promotion) : promotion.read = fb := by
  unfold chosenByWatchdog at chosen
  split at chosen
  · exact triggerAutoFailover_read chosen
  · cases chosen

/-- A failover that has just read the record can only fail to be persisted. -/
theorem promotion_write_read {promotion : Promotion} {rows : Rows}
    (read : rows.get? id = some promotion.read) (structured : promotion.read.Structured)
    (now : Int) (persisted : Bool) :
    (persisted = false ∧ (promotion.write rows id now persisted).2 = rows) ∨
      (persisted = true ∧ Exists fun after => Swapped promotion.read after promotion.target ∧
        (promotion.write rows id now persisted).2 = rows.put id after) := by
  unfold Failover.Promotion.write Rows.promoteWithEpoch Rows.commit
  rw [read]
  cases persisted with
  | false => exact Or.inl ⟨rfl, by simp⟩
  | true =>
      refine Or.inr ⟨rfl, { promotion.read.patched promotion.patch now with
        failoverEpoch := promotion.patch.failoverEpoch }, ?_, ?_⟩
      · exact swapped_of_promotion structured rfl rfl rfl
      · simp

/-- A failover keeps a federation honest exactly if it carries nothing over. -/
theorem honest_promotion_iff {fleet : Fleet contentOf} {promotion : Promotion}
    (structured : fleet.Structured id) (honest : fleet.Honest id)
    (read : fleet.rows.get? id = some promotion.read) (now : Int) (persisted : Bool) :
    Fleet.Honest id { fleet with rows := (promotion.write fleet.rows id now persisted).2 } ↔
      (persisted = true -> Carries fleet.contents promotion) := by
  have before := honest promotion.read read
  rcases promotion_write_read read (structured _ read) now persisted with
    ⟨failed, same⟩ | ⟨done, after, swapped, written⟩
  · rw [same, failed]
    exact iff_of_true honest fun done => absurd done Bool.false_ne_true
  · have only := honest_swapped_iff before swapped
    rw [written, done]
    constructor
    · intro safe _
      exact only.mp (safe after (SortedStore.get?_put_self _ _ _))
    · intro carries fb present
      cases SortedStore.eq_of_get?_put present
      exact only.mpr (carries rfl)

/-- So does a failover keep the structure. -/
theorem structured_promotion {fleet : Fleet contentOf} {promotion : Promotion}
    (structured : fleet.Structured id) (read : fleet.rows.get? id = some promotion.read)
    (now : Int) (persisted : Bool) :
    Fleet.Structured id
      { fleet with rows := (promotion.write fleet.rows id now persisted).2 } := by
  rcases promotion_write_read read (structured _ read) now persisted with
    ⟨_, same⟩ | ⟨_, after, swapped, written⟩
  · rw [same]
    exact structured
  · rw [written]
    intro fb present
    cases SortedStore.eq_of_get?_put present
    exact swapped.structured (structured _ read)

/-- Storing an outcome keeps a federation honest exactly if the replica has caught up. -/
theorem honest_store_iff {fleet : Fleet contentOf} (structured : fleet.Structured id)
    (honest : fleet.Honest id) (upd : ReplicaTarget) (now : Int) (persisted : Bool) :
    Fleet.Honest id { fleet with
      rows := (fleet.rows.updateReplicaHealth id upd.endpoint upd now persisted).2 } ↔
      (persisted = true -> forall fb, fleet.rows.get? id = some fb ->
        Caught fleet.contents fb upd) := by
  unfold Rows.updateReplicaHealth
  cases stored : fleet.rows.get? id with
  | none =>
      apply iff_of_true honest
      intro _ fb same
      cases same
  | some fb =>
      dsimp only
      cases found : setReplicaHealth upd.endpoint upd fb.replicas with
      | none =>
          apply iff_of_true honest
          intro _ other same rep member here
          cases same
          exact absurd found (setReplicaHealth_ne_none member here)
      | some replicas =>
          have only := honest_recorded_iff (structured fb stored) (honest fb stored) found now
          cases persisted with
          | false =>
              apply iff_of_true honest
              intro impossible
              cases impossible
          | true =>
              constructor
              · intro safe _ other same
                cases same
                exact only.mp (safe _ (SortedStore.get?_put_self _ _ _))
              · intro caught other present
                cases SortedStore.eq_of_get?_put present
                exact only.mpr (caught rfl fb rfl)

theorem structured_store {fleet : Fleet contentOf} (structured : fleet.Structured id)
    (endpoint : Endpoint) (upd : ReplicaTarget) (now : Int) (persisted : Bool) :
    Fleet.Structured id { fleet with
      rows := (fleet.rows.updateReplicaHealth id endpoint upd now persisted).2 } := by
  rcases Rows.updateReplicaHealth_cases fleet.rows id endpoint upd now persisted with
    same | ⟨cur, replicas, found, kept, written⟩
  · rw [same]
    exact structured
  · rw [written]
    intro fb present
    cases SortedStore.eq_of_get?_put present
    exact (structured cur found).withReplicas kept

/-- A failover that has read the record and decided keeps it honest exactly if it carries nothing
over, whoever decides. -/
theorem honest_decided_iff {fleet : Fleet contentOf} {choose : FederatedBucket -> Option Promotion}
    (reads : forall {fb promotion}, choose fb = some promotion -> promotion.read = fb)
    {promotion : Promotion} (decided : (fleet.rows.get? id).bind choose = some promotion)
    (structured : fleet.Structured id) (honest : fleet.Honest id) (now : Int) (persisted : Bool) :
    Fleet.Honest id { fleet with rows := (promotion.write fleet.rows id now persisted).2 } ↔
      (persisted = true -> forall fb promotion, fleet.rows.get? id = some fb ->
        choose fb = some promotion -> Carries fleet.contents promotion) := by
  rcases Option.bind_eq_some_iff.mp decided with ⟨fb, found, chosen⟩
  refine (honest_promotion_iff structured honest (reads chosen ▸ found) now persisted).trans ?_
  constructor
  · intro carries done other again present same
    cases Option.some.inj (found.symm.trans present)
    cases Option.some.inj (chosen.symm.trans same)
    exact carries done
  · intro carries done
    exact carries done fb promotion found chosen

theorem structured_decided {fleet : Fleet contentOf}
    {choose : FederatedBucket -> Option Promotion}
    (reads : forall {fb promotion}, choose fb = some promotion -> promotion.read = fb)
    {promotion : Promotion} (decided : (fleet.rows.get? id).bind choose = some promotion)
    (structured : fleet.Structured id) (now : Int) (persisted : Bool) :
    Fleet.Structured id
      { fleet with rows := (promotion.write fleet.rows id now persisted).2 } := by
  rcases Option.bind_eq_some_iff.mp decided with ⟨fb, found, chosen⟩
  exact structured_promotion structured (reads chosen ▸ found) now persisted

/-- What each step can do, with what the step found. -/
inductive Fleet.Move (id : String) (fleet : Fleet contentOf) :
    FleetAction contentOf -> Fleet contentOf -> Prop where
  | wrote (endpoint : Endpoint) (key : String) (written : Option (Object contentOf)) :
      Fleet.Move id fleet (.write endpoint key written)
        { fleet with contents := putObject fleet.contents endpoint key written }
  | started (endpoint : Endpoint) (recorders : List Recorder) :
      Fleet.Move id fleet (.start endpoint) { fleet with recorders := recorders }
  | finished (recorder : Nat) (outcome : RecordOutcome) (recorders : List Recorder) :
      Fleet.Move id fleet (.finish recorder outcome) { fleet with recorders := recorders }
  | stored (recorder : Nat) (now : Int) (persisted : Bool) (upd : ReplicaTarget)
      (recorders : List Recorder) (pending : fleet.recorders[recorder]? = some (.recording upd)) :
      Fleet.Move id fleet (.store recorder now persisted)
        { fleet with
          rows := (fleet.rows.updateReplicaHealth id upd.endpoint upd now persisted).2
          recorders := recorders }
  | handed (newPrimary : Endpoint) (readAt now : Int) (persisted : Bool) (promotion : Promotion)
      (decided : (fleet.rows.get? id).bind (fun fb => chosenByOperator fb newPrimary readAt) =
        some promotion) :
      Fleet.Move id fleet (.manual newPrimary readAt now persisted)
        { fleet with rows := (promotion.write fleet.rows id now persisted).2 }
  | promoted (readAt now : Int) (persisted : Bool) (promotion : Promotion)
      (decided : (fleet.rows.get? id).bind (fun fb => chosenByWatchdog fb readAt) =
        some promotion) :
      Fleet.Move id fleet (.automatic readAt now persisted)
        { fleet with rows := (promotion.write fleet.rows id now persisted).2 }

theorem step_move {fleet next : Fleet contentOf} {action : FleetAction contentOf}
    (taken : fleet.step id action = some next) : fleet.Move id action next := by
  cases action with
  | write endpoint key written =>
      cases taken
      exact .wrote endpoint key written
  | start endpoint =>
      simp only [Fleet.step] at taken
      split at taken
      · cases taken
      · cases taken
        exact .started endpoint _
  | finish recorder outcome =>
      simp only [Fleet.step] at taken
      split at taken
      · cases taken
        exact .finished recorder outcome _
      · cases taken
  | store recorder now persisted =>
      simp only [Fleet.step] at taken
      split at taken
      · rename_i upd pending
        cases taken
        exact .stored recorder now persisted upd _ pending
      · cases taken
  | manual newPrimary readAt now persisted =>
      simp only [Fleet.step] at taken
      split at taken
      · cases taken
      · rename_i promotion decided
        cases taken
        exact .handed newPrimary readAt now persisted promotion decided
  | automatic readAt now persisted =>
      simp only [Fleet.step] at taken
      split at taken
      · cases taken
      · rename_i promotion decided
        cases taken
        exact .promoted readAt now persisted promotion decided

theorem structured_step {fleet next : Fleet contentOf} {action : FleetAction contentOf}
    (structured : fleet.Structured id) (taken : fleet.step id action = some next) :
    next.Structured id := by
  cases step_move taken with
  | wrote endpoint key written => exact structured
  | started endpoint recorders => exact structured
  | finished recorder outcome recorders => exact structured
  | stored recorder now persisted upd recorders pending =>
      exact structured_store structured upd.endpoint upd now persisted
  | handed newPrimary readAt now persisted promotion decided =>
      exact structured_decided chosenByOperator_read decided structured now persisted
  | promoted readAt now persisted promotion decided =>
      exact structured_decided chosenByWatchdog_read decided structured now persisted

/-- A step keeps every watermark honest exactly if it carries nothing over. -/
theorem honest_step {fleet next : Fleet contentOf} {action : FleetAction contentOf}
    (structured : fleet.Structured id) (honest : fleet.Honest id)
    (taken : fleet.step id action = some next) : next.Honest id ↔ fleet.Carried id action := by
  cases step_move taken with
  | wrote endpoint key written =>
      constructor
      · intro after fb found
        exact (honest_write_iff (structured fb found) (honest fb found) endpoint key written).mp
          (after fb found)
      · intro lands fb found
        exact (honest_write_iff (structured fb found) (honest fb found) endpoint key written).mpr
          (lands fb found)
  | started endpoint recorders => exact iff_of_true honest trivial
  | finished recorder outcome recorders => exact iff_of_true honest trivial
  | stored recorder now persisted upd recorders pending =>
      refine (honest_store_iff structured honest upd now persisted).trans ?_
      constructor
      · intro caught done fb other found same
        cases Option.some.inj (pending.symm.trans same)
        exact caught done fb found
      · intro caught done fb found
        exact caught done fb upd found pending
  | handed newPrimary readAt now persisted promotion decided =>
      exact honest_decided_iff chosenByOperator_read decided structured honest now persisted
  | promoted readAt now persisted promotion decided =>
      exact honest_decided_iff chosenByWatchdog_read decided structured honest now persisted

/-- A bucket with one photo. -/
def photo (tag : String) (mtime : Int) : Contents tagBody :=
  SortedStore.empty.put "a.jpg" { sampleVersion tag with mtime := mtime }

theorem clean_photo {tag other : String} {mtime copied mark : Int}
    (same : filtered mark mtime = true -> other = tag) :
    Clean (photo tag mtime) (photo other copied) mark := by
  intro key object found old
  unfold photo at found ⊢
  rw [SortedStore.get?_put] at found
  split at found
  · rename_i here
    subst here
    cases found
    rw [same old, SortedStore.get?_put_self, SortedStore.get?_put_self]
    intro current equal
    cases equal
    exact ⟨_, rfl, rfl⟩
  · cases found

def photosAt (regionID : String) : Endpoint := ⟨regionID, "photos"⟩

/-- The second replica has synced after the photo was replaced, the first one before. -/
def unevenFederation : FederatedBucket where
  id := "fed"
  ownerUserID := "ada"
  name := "photos"
  primary := { regionID := "r0", bucket := "photos" }
  replicas :=
    [{ regionID := "r1", bucket := "photos", lastSync := 100 * second, health := .lagging },
      { regionID := "r2", bucket := "photos", lastSync := 200 * second, health := .inSync }]
  policy := defaultPolicy

def unevenFleet : Fleet tagBody where
  contents endpoint :=
    if endpoint = photosAt "r0" then photo "new" (150 * second)
    else if endpoint = photosAt "r1" then photo "old" (10 * second)
    else photo "new" (151 * second)
  rows := SortedStore.empty.put "fed" unevenFederation

theorem unevenFleet_structured : unevenFleet.Structured "fed" := by
  intro fb found
  cases SortedStore.eq_of_get?_put found
  exact ⟨by decide, nofun⟩

theorem unevenFleet_honest : unevenFleet.Honest "fed" := by
  intro fb found rep member
  cases SortedStore.eq_of_get?_put found
  rcases List.mem_cons.mp member with rfl | last
  · exact @clean_photo "new" "old" _ _ _ fun old => absurd old (by decide)
  · rw [List.mem_singleton.mp last]
    exact clean_photo fun _ => rfl

/-- The operator's choice of the first replica. -/
def lateOperator : Promotion where
  initiator := .operator
  read := unevenFederation
  target :=
    { regionID := "r1", bucket := "photos", lastSync := 100 * second, health := .lagging }
  listed := List.mem_cons_self

/-- A pass for the second replica starts before the failover and ends after it. -/
def passAcrossFailover : List (FleetAction tagBody) :=
  [.start (photosAt "r2"), .manual (photosAt "r1") (201 * second) (202 * second) true,
    .finish 0 (.succeeded (203 * second) 0 0 {}), .store 0 (203 * second) true]

end Handover
end Federation
end Basement
