import Basement.Federation.Handover

namespace Basement
namespace Federation
namespace Edits

open Library Library.Transition
open Replication Handover

/-!
# Edits of a federation

A PUT replaces the whole list of replicas, and the new entries are made from the request, which has
no word about replication.  Meanwhile the engine is at work: passes and event tasks have read the
record and are going to store what they found out about a replica.

Along with the record goes the origin of every watermark: the bucket that was the primary for the
pass that measured it.
-/

/-! ## The federation and the engine -/

/-- A pass or a task.  It knows the entry and the primary that it has read, and where the watermark
in it comes from. -/
inductive Recorder where
  | running (snap : ReplicaTarget) (primary : Endpoint) (origin : Option Endpoint)
  | recording (upd : ReplicaTarget) (origin : Option Endpoint)
  deriving DecidableEq, Repr

/-- Where the watermark that is recorded for an outcome comes from. -/
def originOf (primary : Endpoint) (origin : Option Endpoint) (stored : Option (Option Endpoint)) :
    RecordOutcome -> Option Endpoint
  | .succeeded _ pendingObjects _ dr =>
      if fullyDrained pendingObjects dr then some primary else origin
  | .failed _ _ => origin
  | .deleted loaded => if loaded then stored.getD origin else origin

/-- The rows of the store, who is to record an outcome, and the origins of the stored
watermarks. -/
structure Ledger where
  rows : Rows
  recorders : List Recorder := []
  origins : Endpoint -> Option Endpoint := fun _ => none

inductive LedgerAction where
  | put (regions : RegionOwners) (userID : String) (req : FederationRequest) (now : Int)
      (persisted : Bool)
  | start (endpoint : Endpoint)
  | finish (recorder : Nat) (outcome : RecordOutcome)
  | store (recorder : Nat) (now : Int) (persisted : Bool)

variable (cronError : String -> Option String) (id : String)

/-- The origins after a call of `UpdateReplicaHealth`. -/
def recordedOrigins (origins : Endpoint -> Option Endpoint) (upd : ReplicaTarget)
    (origin : Option Endpoint) : Except StoreError Unit -> Endpoint -> Option Endpoint
  | .ok _ => fun endpoint => if endpoint = upd.endpoint then origin else origins endpoint
  | .error _ => origins

def Ledger.step (ledger : Ledger) : LedgerAction -> Option Ledger
  | .put regions userID req now persisted => some { ledger with
      rows := (userUpdateFederation cronError ledger.rows regions userID id req now persisted).2 }
  | .start endpoint =>
      (ledger.rows.get? id).bind fun fb => (replicaAt endpoint fb).map fun snap =>
        { ledger with recorders := ledger.recorders ++
            [.running snap fb.primary.endpoint (ledger.origins endpoint)] }
  | .finish recorder outcome =>
      match ledger.recorders[recorder]? with
      | some (.running snap primary origin) =>
          let stored := (ledger.rows.get? id).bind (replicaAt snap.endpoint)
          let measured := originOf primary origin
            (stored.map fun rep => ledger.origins rep.endpoint) outcome
          some { ledger with
            recorders := ledger.recorders.set recorder
              (.recording (outcome.update snap stored) measured) }
      | _ => none
  | .store recorder now persisted =>
      match ledger.recorders[recorder]? with
      | some (.recording upd origin) =>
          let answer := ledger.rows.updateReplicaHealth id upd.endpoint upd now persisted
          some { ledger with
            rows := answer.2
            recorders := ledger.recorders.eraseIdx recorder
            origins := recordedOrigins ledger.origins upd origin answer.1 }
      | _ => none

/-! ## What an edit is to keep -/

/-- The fields of the record that belong to the server. -/
structure SameIdentity (before after : FederatedBucket) : Prop where
  id : after.id = before.id
  owner : after.ownerUserID = before.ownerUserID
  created : after.createdAt = before.createdAt
  epoch : after.failoverEpoch = before.failoverEpoch

/-- With the same primary, an entry for the same endpoint is the same entry. -/
def KeepsEntries (before after : FederatedBucket) : Prop :=
  after.primary.endpoint = before.primary.endpoint ->
    forall rep other, rep ∈ before.replicas -> other ∈ after.replicas ->
      other.endpoint = rep.endpoint -> other = rep

/-- Every watermark was measured against the primary. -/
def Current (origins : Endpoint -> Option Endpoint) (fb : FederatedBucket) : Prop :=
  forall rep, rep ∈ fb.replicas ->
    rep.lastSync = 0 ∨ origins rep.endpoint = some fb.primary.endpoint

instance (origins : Endpoint -> Option Endpoint) (fb : FederatedBucket) :
    Decidable (Current origins fb) :=
  inferInstanceAs (Decidable (forall rep, rep ∈ fb.replicas ->
    rep.lastSync = 0 ∨ origins rep.endpoint = some fb.primary.endpoint))

/-- The action is a PUT. -/
def LedgerAction.IsPut : LedgerAction -> Prop
  | .put _ _ _ _ _ => True
  | _ => False

/-- A step leaves the server's fields alone, a PUT keeps the entries of a kept primary, and no
watermark is left from another primary. -/
def Upholds (ledger : Ledger) (action : LedgerAction) : Prop :=
  forall next, ledger.step cronError id action = some next ->
    forall before after, ledger.rows.get? id = some before -> next.rows.get? id = some after ->
      SameIdentity before after ∧ (action.IsPut -> KeepsEntries before after) ∧
        Current next.origins after

/-! ## When it does -/

/-- The handler writes what the PUT asks for. -/
def Accepts (fb : FederatedBucket) (regions : RegionOwners) (userID : String)
    (req : FederationRequest) (persisted : Bool) : Prop :=
  fb.ownerUserID = userID ∧ requestError cronError regions userID req = none ∧ persisted = true

instance (fb : FederatedBucket) (regions : RegionOwners) (userID : String)
    (req : FederationRequest) (persisted : Bool) :
    Decidable (Accepts cronError fb regions userID req persisted) :=
  inferInstanceAs (Decidable (_ ∧ _ ∧ _))

/-- Nothing has been recorded for the replica. -/
def Blank (rep : ReplicaTarget) : Prop :=
  rep.lastSync = 0 ∧ rep.health = .unset ∧ rep.lagBytes = 0 ∧ rep.lagObjects = 0

instance (rep : ReplicaTarget) : Decidable (Blank rep) :=
  inferInstanceAs (Decidable (_ ∧ _ ∧ _ ∧ _))

/-- A PUT that keeps the primary finds nothing recorded for the replicas it keeps, and what is
stored for a replica was measured against the primary of the moment or brings no watermark. -/
def Undisturbed (ledger : Ledger) : LedgerAction -> Prop
  | .put regions userID req _ persisted => forall fb, ledger.rows.get? id = some fb ->
      Accepts cronError fb regions userID req persisted ->
        req.primary.target.endpoint = fb.primary.endpoint -> forall rep, rep ∈ fb.replicas ->
          rep.endpoint ∈ req.replicas.map (fun target => target.target.endpoint) -> Blank rep
  | .store recorder _ persisted => forall fb upd origin, ledger.rows.get? id = some fb ->
      ledger.recorders[recorder]? = some (.recording upd origin) -> persisted = true ->
        upd.endpoint ∈ fb.replicas.map ReplicaTarget.endpoint ->
          upd.lastSync = 0 ∨ origin = some fb.primary.endpoint
  | _ => True

/-! ## One step -/

section Steps

variable {cronError} {id}

theorem userUpdateFederation_rows {rows : Rows} {fb : FederatedBucket}
    (stored : rows.get? id = some fb) (regions : RegionOwners) (userID : String)
    (req : FederationRequest) (now : Int) (persisted : Bool) :
    (userUpdateFederation cronError rows regions userID id req now persisted).2 =
      if Accepts cronError fb regions userID req persisted then
        rows.put id (fb.patched (req.federation "") now)
      else rows := by
  unfold userUpdateFederation requireOwnedFederation
  rw [stored]
  by_cases own : fb.ownerUserID = userID
  · simp only [if_pos own]
    split
    · rename_i code message refused
      rw [if_neg]
      rintro ⟨_, valid, _⟩
      rw [own, valid] at refused
      cases refused
    · rename_i valid
      rw [own] at valid
      cases persisted with
      | true => simp [Accepts, own, valid, Rows.update, Rows.commit, stored]
      | false => simp [Accepts, Rows.update, Rows.commit, stored]
  · simp only [if_neg own]
    rw [if_neg fun accepts => own accepts.1]

/-- A PUT writes entries without a record. -/
theorem blank_target (target : TargetRequest) : Blank target.target := ⟨rfl, rfl, rfl, rfl⟩

theorem eq_of_blank {rep other : ReplicaTarget} (blank : Blank rep) (otherBlank : Blank other)
    (same : other.endpoint = rep.endpoint) : other = rep := by
  rcases rep with ⟨_, _, _, _, _, _⟩
  rcases other with ⟨_, _, _, _, _, _⟩
  rcases blank with ⟨rfl, rfl, rfl, rfl⟩
  rcases otherBlank with ⟨rfl, rfl, rfl, rfl⟩
  cases same
  rfl

/-- A PUT that is written keeps the entries exactly if there was nothing in them to lose. -/
theorem keepsEntries_patched_iff {fb : FederatedBucket} {req : FederationRequest} {now : Int} :
    KeepsEntries fb (fb.patched (req.federation "") now) ↔
      (req.primary.target.endpoint = fb.primary.endpoint -> forall rep, rep ∈ fb.replicas ->
        rep.endpoint ∈ req.replicas.map (fun target => target.target.endpoint) -> Blank rep) := by
  refine forall_congr' fun _ => ?_
  constructor
  · intro keeps rep member listed
    rcases List.mem_map.mp listed with ⟨target, asked, same⟩
    rw [← keeps rep target.target member (List.mem_map_of_mem asked) same]
    exact blank_target target
  · intro blank rep other member asked same
    rcases List.mem_map.mp asked with ⟨target, listed, rfl⟩
    exact eq_of_blank (blank rep member (List.mem_map.mpr ⟨target, listed, same⟩))
      (blank_target target) same

theorem keepsEntries_refl {fb : FederatedBucket} (structured : fb.Structured) :
    KeepsEntries fb fb := by
  intro _ rep other member otherMember same
  exact List.inj_on_of_nodup_map (List.nodup_cons.mp structured.distinct).2 otherMember member same

theorem current_patched (origins : Endpoint -> Option Endpoint) (fb : FederatedBucket)
    (req : FederationRequest) (now : Int) : Current origins (fb.patched (req.federation "") now) := by
  intro rep member
  rcases List.mem_map.mp member with ⟨target, _, rfl⟩
  exact Or.inl rfl

/-- A health update that finds an entry is one for a replica. -/
theorem mem_of_setReplicaHealth {endpoint : Endpoint} {health : ReplicaTarget}
    {replicas updated : List ReplicaTarget}
    (found : setReplicaHealth endpoint health replicas = some updated) :
    endpoint ∈ replicas.map ReplicaTarget.endpoint := by
  induction replicas generalizing updated with
  | nil => cases found
  | cons first rest ih =>
      unfold setReplicaHealth at found
      split at found
      · rename_i here
        exact here ▸ List.mem_cons_self
      · rcases Option.map_eq_some_iff.mp found with ⟨later, foundLater, _⟩
        exact List.mem_cons_of_mem _ (ih foundLater)

/-- A health update for a replica of the federation is written if the disk lets it. -/
theorem updateReplicaHealth_eq {rows : Rows} {fb : FederatedBucket}
    (stored : rows.get? id = some fb) (structured : fb.Structured) (upd : ReplicaTarget) (now : Int)
    (persisted : Bool) :
    (upd.endpoint ∈ fb.replicas.map ReplicaTarget.endpoint ∧ persisted = true ∧
      rows.updateReplicaHealth id upd.endpoint upd now persisted =
        (.ok (), rows.put id { fb with
          replicas := fb.replicas.map fun rep =>
            if rep.endpoint = upd.endpoint then rep.withHealth upd else rep
          updatedAt := now })) ∨
    ¬ (upd.endpoint ∈ fb.replicas.map ReplicaTarget.endpoint ∧ persisted = true) ∧
      Exists fun error => rows.updateReplicaHealth id upd.endpoint upd now persisted =
        (.error error, rows) := by
  unfold Rows.updateReplicaHealth
  rw [stored]
  cases found : setReplicaHealth upd.endpoint upd fb.replicas with
  | none =>
      refine Or.inr ⟨?_, .notFound, by simp only [found]⟩
      rintro ⟨listed, _⟩
      rcases List.mem_map.mp listed with ⟨rep, member, same⟩
      exact setReplicaHealth_ne_none member same found
  | some replicas =>
      have mapped := setReplicaHealth_eq_map (List.nodup_cons.mp structured.distinct).2 found
      have listed := mem_of_setReplicaHealth found
      cases persisted with
      | true => exact Or.inl ⟨listed, rfl, by simp only [found, mapped]; rfl⟩
      | false => exact Or.inr ⟨fun both => absurd both.2 (by decide), .write, by simp [found]⟩

/-- The stored record has its structure, and its watermarks are of its primary. -/
def Ledger.Sound (id : String) (ledger : Ledger) : Prop :=
  forall fb, ledger.rows.get? id = some fb -> fb.Structured ∧ Current ledger.origins fb

theorem SameIdentity.refl (fb : FederatedBucket) : SameIdentity fb fb := ⟨rfl, rfl, rfl, rfl⟩

/-- A recorded outcome leaves watermarks of the primary exactly if it is itself of the primary. -/
theorem current_recorded_iff {origins : Endpoint -> Option Endpoint} {fb : FederatedBucket}
    (current : Current origins fb) {upd : ReplicaTarget} {origin : Option Endpoint}
    (listed : upd.endpoint ∈ fb.replicas.map ReplicaTarget.endpoint) (now : Int) :
    Current (recordedOrigins origins upd origin (.ok ())) { fb with
        replicas := fb.replicas.map fun rep =>
          if rep.endpoint = upd.endpoint then rep.withHealth upd else rep
        updatedAt := now } ↔
      upd.lastSync = 0 ∨ origin = some fb.primary.endpoint := by
  constructor
  · intro after
    rcases List.mem_map.mp listed with ⟨rep, member, here⟩
    have recorded := after (rep.withHealth upd) (List.mem_map.mpr ⟨rep, member, if_pos here⟩)
    change upd.lastSync = 0 ∨ (if rep.endpoint = upd.endpoint then origin else _) = _ at recorded
    rwa [if_pos here] at recorded
  · intro good other member
    rcases List.mem_map.mp member with ⟨rep, old, rfl⟩
    by_cases here : rep.endpoint = upd.endpoint
    · rw [if_pos here]
      change upd.lastSync = 0 ∨ (if rep.endpoint = upd.endpoint then origin else _) = _
      rwa [if_pos here]
    · rw [if_neg here]
      change rep.lastSync = 0 ∨ (if rep.endpoint = upd.endpoint then origin else _) = _
      rw [if_neg here]
      exact current rep old

/-- A step that writes nothing upholds the record. -/
theorem upholds_of_unwritten {ledger : Ledger} (sound : ledger.Sound id) {action : LedgerAction}
    (unwritten : forall next, ledger.step cronError id action = some next ->
      next.rows = ledger.rows ∧ next.origins = ledger.origins) :
    Upholds cronError id ledger action := by
  intro next taken before after stored later
  rcases unwritten next taken with ⟨rows, origins⟩
  rw [rows] at later
  cases Option.some.inj (stored.symm.trans later)
  refine ⟨SameIdentity.refl before, fun _ => keepsEntries_refl (sound before stored).1, ?_⟩
  rw [origins]
  exact (sound before stored).2

theorem start_unwritten {ledger next : Ledger} {endpoint : Endpoint}
    (taken : ledger.step cronError id (.start endpoint) = some next) :
    next.rows = ledger.rows ∧ next.origins = ledger.origins := by
  rcases Option.bind_eq_some_iff.mp taken with ⟨fb, _, started⟩
  rcases Option.map_eq_some_iff.mp started with ⟨snap, _, rfl⟩
  exact ⟨rfl, rfl⟩

theorem finish_unwritten {ledger next : Ledger} {recorder : Nat} {outcome : RecordOutcome}
    (taken : ledger.step cronError id (.finish recorder outcome) = some next) :
    next.rows = ledger.rows ∧ next.origins = ledger.origins := by
  rw [Ledger.step] at taken
  split at taken
  · cases taken
    exact ⟨rfl, rfl⟩
  · cases taken

theorem store_step {ledger : Ledger} {recorder : Nat} {upd : ReplicaTarget}
    {origin : Option Endpoint} (due : ledger.recorders[recorder]? = some (.recording upd origin))
    (now : Int) (persisted : Bool) :
    ledger.step cronError id (.store recorder now persisted) = some
      { rows := (ledger.rows.updateReplicaHealth id upd.endpoint upd now persisted).2
        recorders := ledger.recorders.eraseIdx recorder
        origins := recordedOrigins ledger.origins upd origin
          (ledger.rows.updateReplicaHealth id upd.endpoint upd now persisted).1 } := by
  simp only [Ledger.step, due]

/-- What storing an outcome does. -/
theorem store_taken {ledger next : Ledger} {recorder : Nat} {now : Int} {persisted : Bool}
    (taken : ledger.step cronError id (.store recorder now persisted) = some next) :
    Exists fun upd => Exists fun origin =>
      ledger.recorders[recorder]? = some (.recording upd origin) ∧
        next.rows = (ledger.rows.updateReplicaHealth id upd.endpoint upd now persisted).2 ∧
        next.origins = recordedOrigins ledger.origins upd origin
          (ledger.rows.updateReplicaHealth id upd.endpoint upd now persisted).1 := by
  rw [Ledger.step] at taken
  split at taken
  · rename_i upd origin due
    cases taken
    exact ⟨upd, origin, due, rfl, rfl⟩
  · cases taken

/-- Each step upholds the record exactly under the condition. -/
theorem upholds_iff {ledger : Ledger} (sound : ledger.Sound id) (action : LedgerAction) :
    Upholds cronError id ledger action ↔ Undisturbed cronError id ledger action := by
  cases action with
  | put regions userID req now persisted =>
      constructor
      · intro upholds fb stored accepts
        have written := @userUpdateFederation_rows cronError id _ _ stored regions userID req now
          persisted
        rw [if_pos accepts] at written
        have after : (ledger.rows.put id (fb.patched (req.federation "") now)).get? id =
            some (fb.patched (req.federation "") now) := SortedStore.get?_put_self _ _ _
        rw [← written] at after
        exact keepsEntries_patched_iff.mp ((upholds _ rfl fb _ stored after).2.1 trivial)
      · intro blank next taken before after stored later
        cases Option.some.inj taken
        have written := @userUpdateFederation_rows cronError id _ _ stored regions userID req now
          persisted
        change (userUpdateFederation cronError ledger.rows regions userID id req now persisted).2.get?
          id = some after at later
        rw [written] at later
        split at later
        · rename_i accepts
          cases SortedStore.eq_of_get?_put later
          exact ⟨⟨rfl, rfl, rfl, rfl⟩, fun _ => keepsEntries_patched_iff.mpr (blank before stored
            accepts), current_patched _ _ _ _⟩
        · cases Option.some.inj (stored.symm.trans later)
          exact ⟨SameIdentity.refl _, fun _ => keepsEntries_refl (sound before stored).1,
            (sound before stored).2⟩
  | start endpoint =>
      exact iff_of_true (upholds_of_unwritten sound fun _ => start_unwritten) trivial
  | finish recorder outcome =>
      exact iff_of_true (upholds_of_unwritten sound fun _ => finish_unwritten) trivial
  | store recorder now persisted =>
      constructor
      · intro upholds fb upd origin stored due written listed
        rcases sound fb stored with ⟨structured, current⟩
        rcases updateReplicaHealth_eq stored structured upd now persisted with
          ⟨_, _, answer⟩ | ⟨refused, _⟩
        · have taken := @store_step cronError id ledger recorder upd origin due now persisted
          rw [answer] at taken
          have after := upholds _ taken fb _ stored (SortedStore.get?_put_self _ _ _)
          exact (current_recorded_iff current listed now).mp after.2.2
        · exact absurd ⟨listed, written⟩ refused
      · intro good next taken before after stored later
        rcases sound before stored with ⟨structured, current⟩
        rcases store_taken taken with ⟨upd, origin, due, rows, origins⟩
        rw [rows] at later
        rw [origins]
        rcases updateReplicaHealth_eq stored structured upd now persisted with
          ⟨listed, written, answer⟩ | ⟨_, error, answer⟩
        · rw [answer] at later ⊢
          cases SortedStore.eq_of_get?_put later
          exact ⟨⟨rfl, rfl, rfl, rfl⟩, fun impossible => impossible.elim,
            (current_recorded_iff current listed now).mpr
              (good before upd origin stored due written listed)⟩
        · rw [answer] at later ⊢
          cases Option.some.inj (stored.symm.trans later)
          exact ⟨SameIdentity.refl before, fun impossible => impossible.elim, current⟩

/-- Whatever is stored after a step was stored before it in some form, and has its structure. -/
theorem structured_step {ledger next : Ledger} (sound : ledger.Sound id) {action : LedgerAction}
    (taken : ledger.step cronError id action = some next) {after : FederatedBucket}
    (later : next.rows.get? id = some after) :
    (Exists fun before => ledger.rows.get? id = some before) ∧ after.Structured := by
  have kept : next.rows = ledger.rows ->
      (Exists fun before => ledger.rows.get? id = some before) ∧ after.Structured := by
    intro rows
    rw [rows] at later
    exact ⟨⟨after, later⟩, (sound after later).1⟩
  cases action with
  | put regions userID req now persisted =>
      cases Option.some.inj taken
      rcases userUpdateFederation_cases cronError ledger.rows regions userID id req now persisted with
        same | ⟨existing, stored, accepted, written⟩
      · exact kept same
      · simp only [written] at later
        cases SortedStore.eq_of_get?_put later
        have structured := requestError_structured accepted ""
        exact ⟨⟨existing, stored⟩, structured.distinct, structured.replicated⟩
  | start endpoint => exact kept (start_unwritten taken).1
  | finish recorder outcome => exact kept (finish_unwritten taken).1
  | store recorder now persisted =>
      rcases store_taken taken with ⟨upd, origin, _, rows, _⟩
      rcases Rows.updateReplicaHealth_cases ledger.rows id upd.endpoint upd now persisted with
        same | ⟨cur, replicas, stored, endpoints, written⟩
      · exact kept (rows.trans same)
      · rw [rows, written] at later
        cases SortedStore.eq_of_get?_put later
        exact ⟨⟨cur, stored⟩, (sound cur stored).1.withReplicas endpoints⟩

/-- A step that upholds the record leaves a sound ledger. -/
theorem Ledger.Sound.step {ledger next : Ledger} (sound : ledger.Sound id) {action : LedgerAction}
    (upholds : Upholds cronError id ledger action)
    (taken : ledger.step cronError id action = some next) : next.Sound id := by
  intro after later
  rcases structured_step sound taken later with ⟨⟨before, stored⟩, structured⟩
  exact ⟨structured, (upholds next taken before after stored later).2.2⟩

/-- A run whose steps uphold the record keeps the ledger sound. -/
theorem Ledger.Sound.run {ledger final : Ledger} {actions : List LedgerAction}
    (sound : ledger.Sound id)
    (meets : Meets (Ledger.step cronError id) (Upholds cronError id) ledger actions)
    (run : exec (Ledger.step cronError id) ledger actions = some final) : final.Sound id :=
  exec_invariant_of_meets (fun _ _ _ held upholds taken => held.step upholds taken) sound meets run

end Steps

/-! ## Runs -/

/-- In a run of edits and health updates in any order, all steps keep the replication state of the
federation exactly if no PUT that keeps the primary finds something recorded for a replica it
keeps, and no outcome is stored that was measured against another primary. -/
theorem edits_keep_state_iff {ledger : Ledger} (sound : ledger.Sound id)
    (actions : List LedgerAction) :
    Meets (Ledger.step cronError id) (Upholds cronError id) ledger actions ↔
      Meets (Ledger.step cronError id) (Undisturbed cronError id) ledger actions := by
  refine @meets_congr _ _ (Ledger.step cronError id) _ _ (Ledger.Sound id) ?_ ?_ _ _ sound
  · intro state action next held undisturbed taken
    exact held.step ((upholds_iff held action).mpr undisturbed) taken
  · exact fun state action held => upholds_iff held action

/-- Ada's photos in three regions, of which one is the primary and one a replica. -/
def photosRecord (replica : ReplicaTarget) : FederatedBucket where
  id := "fed"
  ownerUserID := "ada"
  name := "photos"
  primary := { regionID := "r1", bucket := "photos" }
  replicas := [replica]
  policy := defaultPolicy

def photosLedger (replica : ReplicaTarget) : Ledger where
  rows := SortedStore.empty.put "fed" (photosRecord replica)
  origins := fun _ => some ⟨"r1", "photos"⟩

def newReplica : ReplicaTarget := { regionID := "r2", bucket := "photos" }

def syncedReplica : ReplicaTarget := { newReplica with lastSync := 5, health := .inSync }

def photoRegions : RegionOwners :=
  some (((SortedStore.empty.put "r1" "ada").put "r2" "ada").put "r3" "ada")

/-- A PUT that gives the federation another name. -/
def rename : LedgerAction :=
  .put photoRegions "ada"
    { name := "pictures", primary := ⟨"r1", "photos"⟩, replicas := [⟨"r2", "photos"⟩] } 6 true

/-- A PUT that makes the third region the primary. -/
def movePrimary : LedgerAction :=
  .put photoRegions "ada"
    { name := "photos", primary := ⟨"r3", "photos"⟩, replicas := [⟨"r2", "photos"⟩] } 6 true

theorem photosLedger_sound {replica : ReplicaTarget} (here : replica.endpoint = ⟨"r2", "photos"⟩) :
    (photosLedger replica).Sound "fed" := by
  intro fb stored
  cases SortedStore.eq_of_get?_put stored
  refine ⟨⟨?_, List.cons_ne_nil _ _⟩, fun _ _ => Or.inr rfl⟩
  change [Endpoint.mk "r1" "photos", replica.endpoint].Nodup
  rw [here]
  decide

theorem edits_keep_state_iff_photos :
    Meets (Ledger.step (fun _ => none) "fed") (Upholds (fun _ => none) "fed")
      (photosLedger newReplica) [rename] := by
  refine (@edits_keep_state_iff (fun _ => none) "fed" _ (@photosLedger_sound newReplica rfl) [rename]).mpr ⟨?_, fun _ _ => trivial⟩
  intro fb stored _ _ rep member _
  cases SortedStore.eq_of_get?_put stored
  cases List.mem_singleton.mp member
  decide

/-- A pass begins, the primary changes, and the pass ends. -/
def latePass : List LedgerAction :=
  [.start ⟨"r2", "photos"⟩, movePrimary, .finish 0 (.succeeded 7 0 0 {}), .store 0 8 true]

/-- The record after a run, with the word whether its watermarks are of its primary. -/
def currentAfter (ledger : Ledger) (actions : List LedgerAction) : Option Bool :=
  (exec (Ledger.step (fun _ => none) "fed") ledger actions).bind fun final =>
    (final.rows.get? "fed").map fun fb => decide (Current final.origins fb)

theorem latePass_late : currentAfter (photosLedger syncedReplica) latePass = some false := by
  decide +kernel

/-- A new name costs the replica its record, and a pass that ends after the primary has changed
brings the replica a watermark of the old primary. -/
theorem photos_forgotten :
    (photosLedger syncedReplica).Sound "fed" ∧
      ¬ Meets (Ledger.step (fun _ => none) "fed") (Upholds (fun _ => none) "fed")
        (photosLedger syncedReplica) [rename] ∧
      ¬ Meets (Ledger.step (fun _ => none) "fed") (Upholds (fun _ => none) "fed")
        (photosLedger syncedReplica) latePass := by
  have sound := @photosLedger_sound syncedReplica rfl
  refine ⟨sound, ?_, ?_⟩
  · intro meets
    have blank := (upholds_iff sound rename).mp meets.1 _ (SortedStore.get?_put_self _ _ _)
      (by decide +kernel) rfl syncedReplica List.mem_cons_self (by decide +kernel)
    exact absurd blank (by decide)
  · intro meets
    rcases Option.bind_eq_some_iff.mp latePass_late with ⟨final, run, checked⟩
    rcases Option.map_eq_some_iff.mp checked with ⟨fb, stored, outdated⟩
    exact of_decide_eq_false outdated (sound.run meets run fb stored).2

end Edits
end Federation
end Basement
