import Basement.Federation.Requests
import Basement.Library.Keys
import Basement.Library.Transition

namespace Basement
namespace Federation
namespace Names

open Library
open Api (trimSpace)
open Failover

/-!
# Names of federations

A name belongs to one federation of its owner: `Create` refuses a name that the owner uses
already.  `Update` writes the name of the request, and a promotion the name of the record that it
was chosen from.  Neither compares it with the stored ones.

A handler reads the record first and calls the store later, and so does the watchdog.  In the
system below any number of them are between the two, and their calls of the store come in any
order.
-/

/-! ## Reads and calls of the store -/

/-- A call of the store that changes it. -/
inductive StoreCall where
  | create (uuid : String) (fb : FederatedBucket) (now : Int) (persisted : Bool)
  | update (id : String) (patch : FederatedBucket) (now : Int) (persisted : Bool)
  | promote (id : String) (promotion : Promotion) (now : Int) (persisted : Bool)
  | delete (id : String) (persisted : Bool)
  | updateReplicaHealth (id : String) (endpoint : Endpoint) (health : ReplicaTarget) (now : Int)
      (persisted : Bool)

/-- The rows after a call of the store. -/
def StoreCall.apply (rows : Rows) : StoreCall -> Rows
  | .create uuid fb now persisted => (rows.create uuid fb now persisted).2
  | .update id patch now persisted => (rows.update id patch now persisted).2
  | .promote id promotion now persisted => (promotion.write rows id now persisted).2
  | .delete id persisted => (rows.delete id persisted).2
  | .updateReplicaHealth id endpoint health now persisted =>
      (rows.updateReplicaHealth id endpoint health now persisted).2

variable (cronError : String -> Option String)

/-- What a request is about to call, if it is not refused before. -/
def callOf (rows : Rows) : FederationCall -> Option StoreCall
  | .create regions userID req uuid now persisted =>
      match requestError cronError regions userID req with
      | some _ => none
      | none => some (.create uuid (req.federation userID) now persisted)
  | .update regions userID id req now persisted =>
      match requireOwnedFederation rows userID id with
      | .error _ => none
      | .ok existing =>
          match requestError cronError regions existing.ownerUserID req with
          | some _ => none
          | none => some (.update id (req.federation "") now persisted)
  | .delete userID id persisted =>
      match requireOwnedFederation rows userID id with
      | .error _ => none
      | .ok _ => some (.delete id persisted)
  | .failover userID id newPrimaryRegionID newPrimaryBucket readAt now persisted =>
      match requireOwnedFederation rows userID id with
      | .error _ => none
      | .ok existing =>
          if trimSpace newPrimaryRegionID = "" ∨ trimSpace newPrimaryBucket = "" then none
          else
            match userFailoverFederation existing
                ⟨trimSpace newPrimaryRegionID, trimSpace newPrimaryBucket⟩ readAt with
            | .error _ => none
            | .ok promotion => some (.promote id promotion now persisted)
  | .watchdog id readAt now persisted =>
      match rows.get? id with
      | none => none
      | some fb =>
          if fb.policy.autoFailover then
            (triggerAutoFailover fb readAt).map fun promotion => .promote id promotion now persisted
          else none
  | .updateReplicaHealth id endpoint health now persisted =>
      some (.updateReplicaHealth id endpoint health now persisted)

/-- A request that nothing comes between is its read and then its call of the store. -/
theorem serve_eq (rows : Rows) (call : FederationCall) :
    rows.serve cronError call =
      match callOf cronError rows call with
      | none => rows
      | some storeCall => storeCall.apply rows := by
  cases call with
  | create regions userID req uuid now persisted =>
      dsimp only [Rows.serve, userCreateFederation, callOf]
      cases requestError cronError regions userID req <;> rfl
  | update regions userID id req now persisted =>
      dsimp only [Rows.serve, userUpdateFederation, callOf]
      cases requireOwnedFederation rows userID id with
      | error error => rfl
      | ok existing =>
          dsimp only
          cases requestError cronError regions existing.ownerUserID req <;> rfl
  | delete userID id persisted =>
      dsimp only [Rows.serve, userDeleteFederation, callOf]
      cases requireOwnedFederation rows userID id <;> rfl
  | failover userID id newPrimaryRegionID newPrimaryBucket readAt now persisted =>
      dsimp only [Rows.serve, userFailover, callOf]
      cases requireOwnedFederation rows userID id with
      | error error => rfl
      | ok existing =>
          dsimp only
          split
          · rfl
          · cases userFailoverFederation existing
              ⟨trimSpace newPrimaryRegionID, trimSpace newPrimaryBucket⟩ readAt <;> rfl
  | watchdog id readAt now persisted =>
      dsimp only [Rows.serve, watchdogFailover, callOf]
      cases rows.get? id with
      | none => rfl
      | some fb =>
          dsimp only
          split
          · cases triggerAutoFailover fb readAt <;> rfl
          · rfl
  | updateReplicaHealth id endpoint health now persisted => rfl

/-! ## The system -/

/-- The rows, and the calls of the store that are still to come. -/
structure Server where
  rows : Rows := SortedStore.empty
  pending : List StoreCall := []

inductive Event where
  | begin (call : FederationCall)
  | finish (number : Nat)

/-- A request begins with its read, and a pending call of the store is made. -/
def step (server : Server) : Event -> Option Server
  | .begin call =>
      some { server with
        pending := server.pending ++ (callOf cronError server.rows call).toList }
  | .finish number =>
      (server.pending[number]?).map fun storeCall =>
        { rows := storeCall.apply server.rows, pending := server.pending.eraseIdx number }

/-- The owner and the name of a federation. -/
def nameKey (fb : FederatedBucket) : String × String := (fb.ownerUserID, fb.name)

/-- An update that is persisted, and a promotion that is and meets the epoch it has read, write a
name that no other federation of the owner has. -/
def StoreCall.NameFree (rows : Rows) : StoreCall -> Prop
  | .update id patch _ persisted =>
      forall cur, cur ∈ rows.get? id -> persisted = true ->
        FreeFor nameKey rows id (cur.ownerUserID, patch.name)
  | .promote id promotion _ persisted =>
      forall cur, cur ∈ rows.get? id -> persisted = true ->
        cur.failoverEpoch = promotion.read.failoverEpoch ->
          FreeFor nameKey rows id (cur.ownerUserID, promotion.read.name)
  | _ => True

/-- A call of the store writes a free name when it is made. -/
def NameFree (server : Server) : Event -> Prop
  | .begin _ => True
  | .finish number => forall storeCall, storeCall ∈ server.pending[number]? ->
      storeCall.NameFree server.rows

/-! ## What the calls leave -/

variable {cronError} {rows : Rows}

/-- A row that is persisted keeps the names unique exactly if its name is free. -/
theorem commit_unique_iff (unique : UniqueKeys nameKey rows) (id : String) (next : FederatedBucket)
    (persisted : Bool) :
    UniqueKeys nameKey (rows.commit id next persisted).2 ↔
      (persisted = true -> FreeFor nameKey rows id (nameKey next)) := by
  cases persisted with
  | false => exact iff_of_true unique (by rintro ⟨⟩)
  | true =>
      rw [forall_prop_of_true rfl]
      exact uniqueKeys_put_iff unique

/-- A creation takes a free name. -/
theorem create_unique (unique : UniqueKeys nameKey rows) (uuid : String) (fb : FederatedBucket)
    (now : Int) (persisted : Bool) :
    UniqueKeys nameKey (rows.create uuid fb now persisted).2 := by
  unfold Rows.create
  split
  · exact unique
  · rename_i fresh
    apply (commit_unique_iff unique uuid _ persisted).mpr
    intro _ other row found _ same
    rcases Prod.mk.inj same with ⟨owner, name⟩
    apply fresh
    apply List.any_eq_true.mpr
    refine ⟨(other, row), (rows.mem_entries_iff other row).mpr found, ?_⟩
    simpa using And.intro owner name

/-- An update keeps the names unique exactly if its name is free. -/
theorem update_unique_iff (unique : UniqueKeys nameKey rows) (id : String) (patch : FederatedBucket)
    (now : Int) (persisted : Bool) :
    UniqueKeys nameKey (rows.update id patch now persisted).2 ↔
      (StoreCall.update id patch now persisted).NameFree rows := by
  unfold Rows.update
  simp only [StoreCall.NameFree]
  cases rows.get? id with
  | none => exact iff_of_true unique (by rintro _ ⟨⟩)
  | some cur =>
      refine (commit_unique_iff unique id (cur.patched patch now) persisted).trans ?_
      simp [nameKey, FederatedBucket.patched]

/-- A promotion does exactly if the name it has read is free, or the epoch has changed. -/
theorem promotion_unique_iff (unique : UniqueKeys nameKey rows) (id : String)
    (promotion : Promotion) (now : Int) (persisted : Bool) :
    UniqueKeys nameKey (promotion.write rows id now persisted).2 ↔
      (StoreCall.promote id promotion now persisted).NameFree rows := by
  unfold Failover.Promotion.write Rows.promoteWithEpoch
  simp only [StoreCall.NameFree]
  cases rows.get? id with
  | none => exact iff_of_true unique (by rintro _ ⟨⟩)
  | some cur =>
      by_cases current : cur.failoverEpoch = promotion.read.failoverEpoch
      · simp only [current, ne_eq, not_true_eq_false, if_false]
        refine (commit_unique_iff unique id _ persisted).trans ?_
        simp [nameKey, FederatedBucket.patched, Promotion.patch, current]
      · simp [current, unique]

theorem delete_unique (unique : UniqueKeys nameKey rows) (id : String) (persisted : Bool) :
    UniqueKeys nameKey (rows.delete id persisted).2 := by
  rcases Rows.delete_cases rows id persisted with kept | erased
  · rw [kept]
    exact unique
  · rw [erased]
    exact unique.erase id

theorem updateReplicaHealth_unique (unique : UniqueKeys nameKey rows) (id : String)
    (endpoint : Endpoint) (health : ReplicaTarget) (now : Int) (persisted : Bool) :
    UniqueKeys nameKey (rows.updateReplicaHealth id endpoint health now persisted).2 := by
  rcases Rows.updateReplicaHealth_cases rows id endpoint health now persisted with
    kept | ⟨cur, replicas, found, _, written⟩
  · rw [kept]
    exact unique
  · rw [written]
    exact unique.put found rfl

/-- A call of the store keeps the names unique exactly if it does not write a name that is
taken. -/
theorem apply_unique_iff (unique : UniqueKeys nameKey rows) (storeCall : StoreCall) :
    UniqueKeys nameKey (storeCall.apply rows) ↔ storeCall.NameFree rows := by
  cases storeCall with
  | create uuid fb now persisted =>
      exact iff_of_true (create_unique unique uuid fb now persisted) trivial
  | update id patch now persisted => exact update_unique_iff unique id patch now persisted
  | promote id promotion now persisted =>
      exact promotion_unique_iff unique id promotion now persisted
  | delete id persisted => exact iff_of_true (delete_unique unique id persisted) trivial
  | updateReplicaHealth id endpoint health now persisted =>
      exact iff_of_true (updateReplicaHealth_unique unique id endpoint health now persisted) trivial

theorem step_unique_iff {server next : Server} {event : Event}
    (unique : UniqueKeys nameKey server.rows) (taken : step cronError server event = some next) :
    UniqueKeys nameKey next.rows ↔ NameFree server event := by
  cases event with
  | begin call =>
      cases taken
      exact iff_of_true unique trivial
  | finish number =>
      rcases Option.map_eq_some_iff.mp taken with ⟨storeCall, waiting, rfl⟩
      rw [apply_unique_iff unique storeCall]
      simp [NameFree, waiting]

/-- In every run, whatever order the calls of the store come in, no two federations of an owner
have the same name throughout exactly if no update and no promotion writes a name that is
taken. -/
theorem names_unique_iff (cronError : String -> Option String) {server final : Server}
    {events : List Event} (initially : UniqueKeys nameKey server.rows)
    (run : Transition.exec (step cronError) server events = some final) :
    Transition.Throughout (step cronError) (fun server => UniqueKeys nameKey server.rows) server
        events ↔
      Transition.Meets (step cronError) NameFree server events := by
  refine Transition.throughout_iff_meets_of_step ?_ initially run
  intro server event next unique taken
  exact step_unique_iff unique taken

/-! ## A name taken twice -/

instance (rows : Rows) (storeCall : StoreCall) : Decidable (storeCall.NameFree rows) := by
  cases storeCall with
  | update id patch now persisted =>
      show Decidable (forall cur, cur ∈ rows.get? id -> _)
      infer_instance
  | promote id promotion now persisted =>
      show Decidable (forall cur, cur ∈ rows.get? id -> _)
      infer_instance
  | _ => exact isTrue trivial

instance (server : Server) (event : Event) : Decidable (NameFree server event) := by
  cases event with
  | begin call => exact isTrue trivial
  | finish number =>
      show Decidable (forall storeCall, storeCall ∈ server.pending[number]? -> _)
      infer_instance

/-- The regions of Alice. -/
def aliceRegions : RegionOwners := some ((SortedStore.empty.put "r1" "alice").put "r2" "alice")

def federate (name : String) : FederationRequest where
  name := name
  primary := ⟨"r1", "photos"⟩
  replicas := [⟨"r2", "photos"⟩]

/-- Alice has two federations and gives the second one a new name. -/
def renameVideos (name : String) : List Event :=
  [.begin (.create aliceRegions "alice" (federate "photos") "f1" 1 true), .finish 0,
    .begin (.create aliceRegions "alice" (federate "videos") "f2" 2 true), .finish 0,
    .begin (.update aliceRegions "alice" "f2" (federate name) 3 true), .finish 0]

/-- A failover reads a federation that gets a new name.  A second federation takes the old one
before the failover is written. -/
def renameDuringFailover : List Event :=
  [.begin (.create aliceRegions "alice" (federate "photos") "f1" 1 true), .finish 0,
    .begin (.updateReplicaHealth "f1" ⟨"r2", "photos"⟩
      { regionID := "", bucket := "", lastSync := 5, health := .inSync } 5 true), .finish 0,
    .begin (.failover "alice" "f1" "r2" "photos" 6 9 true),
    .begin (.update aliceRegions "alice" "f1" (federate "pictures") 7 true), .finish 1,
    .begin (.create aliceRegions "alice" (federate "photos") "f2" 8 true), .finish 1,
    .finish 0]

theorem names_unique_iff_films :
    Transition.Throughout (step fun _ => none) (fun server => UniqueKeys nameKey server.rows) {}
      (renameVideos "films") :=
  (@names_unique_iff (fun _ => none) {} _ (renameVideos "films") uniqueKeys_empty rfl).mpr
    (by decide +kernel)

example : ¬ Transition.Meets (step fun _ => none) NameFree {} renameDuringFailover := by
  decide +kernel

/-- An update takes the name of another federation of the owner. -/
theorem rename_takes_name :
    ¬ forall (cronError : String -> Option String) (server final : Server) (events : List Event),
      UniqueKeys nameKey server.rows ->
        Transition.exec (step cronError) server events = some final ->
          Transition.Throughout (step cronError) (fun server => UniqueKeys nameKey server.rows)
            server events := by
  intro stated
  have run : Transition.exec (step fun _ => none) {} (renameVideos "photos") =
      some ((Transition.exec (step fun _ => none) {} (renameVideos "photos")).getD {}) := rfl
  have unique := stated (fun _ => none) {} _ (renameVideos "photos") uniqueKeys_empty run
    (renameVideos "photos") [] _ (List.append_nil _).symm run
  exact absurd unique (by decide +kernel)

end Names
end Federation
end Basement
