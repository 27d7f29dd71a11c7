import Basement.Federation.Types
import Basement.Library.SortedStore

namespace Basement
namespace Federation

open Library

/-!
# The federated-bucket store

The operations of `fileStore` on its in-memory rows.  The map is keyed by the
federation's ID; a row's own `id` field plays no part in a lookup.

Every mutation ends in `writeLocked`, which rewrites the JSON file and can fail.
The outcome is the argument `persisted`.  On failure the row is rolled back and
the write error is returned, so memory never runs ahead of the file.
-/

/-- The errors of the store; `write` is a failed `writeLocked`. -/
inductive StoreError where
  | notFound
  | duplicateName
  | epochChanged
  | write
  deriving DecidableEq, Repr

abbrev Rows := SortedStore String FederatedBucket

/-- Install a row and persist, or keep the old rows when the write fails. -/
def Rows.commit (rows : Rows) (id : String) (next : FederatedBucket) (persisted : Bool) :
    Except StoreError FederatedBucket × Rows :=
  if persisted then (.ok next, rows.put id next) else (.error .write, rows)

/-- `fileStore.Create`, with the fresh UUID as an argument. -/
def Rows.create (rows : Rows) (uuid : String) (fb : FederatedBucket) (now : Int)
    (persisted : Bool) : Except StoreError FederatedBucket × Rows :=
  if rows.entries.any fun row => row.2.ownerUserID == fb.ownerUserID && row.2.name == fb.name then
    (.error .duplicateName, rows)
  else
    rows.commit uuid { fb with id := uuid, createdAt := now, updatedAt := now } persisted

/-- `fileStore.Get`. -/
def Rows.get (rows : Rows) (id : String) : Except StoreError FederatedBucket :=
  match rows.get? id with
  | some fb => .ok fb
  | none => .error .notFound

/-- The mutable fields of a patch over a stored record; identity and epoch stay. -/
def FederatedBucket.patched (cur patch : FederatedBucket) (now : Int) : FederatedBucket :=
  { cur with
    name := patch.name
    primary := patch.primary
    replicas := patch.replicas
    policy := patch.policy
    updatedAt := now }

/-- `fileStore.Update`. -/
def Rows.update (rows : Rows) (id : String) (patch : FederatedBucket) (now : Int)
    (persisted : Bool) : Except StoreError FederatedBucket × Rows :=
  match rows.get? id with
  | none => (.error .notFound, rows)
  | some cur => rows.commit id (cur.patched patch now) persisted

/-- `fileStore.PromoteWithEpoch`. -/
def Rows.promoteWithEpoch (rows : Rows) (id : String) (expectedEpoch : Int)
    (patch : FederatedBucket) (now : Int) (persisted : Bool) :
    Except StoreError FederatedBucket × Rows :=
  match rows.get? id with
  | none => (.error .notFound, rows)
  | some cur =>
      if cur.failoverEpoch ≠ expectedEpoch then (.error .epochChanged, rows)
      else
        rows.commit id { cur.patched patch now with failoverEpoch := patch.failoverEpoch } persisted

/-- `fileStore.Delete`. -/
def Rows.delete (rows : Rows) (id : String) (persisted : Bool) : Except StoreError Unit × Rows :=
  match rows.get? id with
  | none => (.error .notFound, rows)
  | some _ => if persisted then (.ok (), rows.erase id) else (.error .write, rows)

/-- Overwrite the health fields of the first replica at an endpoint. -/
def setReplicaHealth (endpoint : Endpoint) (health : ReplicaTarget) :
    List ReplicaTarget -> Option (List ReplicaTarget)
  | [] => none
  | replica :: rest =>
      if replica.endpoint = endpoint then some (replica.withHealth health :: rest)
      else (setReplicaHealth endpoint health rest).map (replica :: ·)

/-- A change to the entries at an endpoint leaves a list without one as it is. -/
theorem map_at_endpoint_of_absent {endpoint : Endpoint} {replicas : List ReplicaTarget}
    (absent : endpoint ∉ replicas.map ReplicaTarget.endpoint)
    (change : ReplicaTarget -> ReplicaTarget) :
    replicas.map (fun rep => if rep.endpoint = endpoint then change rep else rep) = replicas := by
  refine (List.map_congr_left fun rep member => ?_).trans (List.map_id replicas)
  apply if_neg
  rintro rfl
  exact absent (List.mem_map_of_mem member)

/-- `fileStore.UpdateReplicaHealth`. -/
def Rows.updateReplicaHealth (rows : Rows) (id : String) (endpoint : Endpoint)
    (health : ReplicaTarget) (now : Int) (persisted : Bool) : Except StoreError Unit × Rows :=
  match rows.get? id with
  | none => (.error .notFound, rows)
  | some cur =>
      match setReplicaHealth endpoint health cur.replicas with
      | none => (.error .notFound, rows)
      | some replicas =>
          if persisted then (.ok (), rows.put id { cur with replicas := replicas, updatedAt := now })
          else (.error .write, rows)

/-! ## What an operation can leave behind -/

/-- A health update keeps every endpoint in its place. -/
theorem setReplicaHealth_endpoints {endpoint : Endpoint} {health : ReplicaTarget}
    {replicas updated : List ReplicaTarget}
    (found : setReplicaHealth endpoint health replicas = some updated) :
    updated.map ReplicaTarget.endpoint = replicas.map ReplicaTarget.endpoint := by
  induction replicas generalizing updated with
  | nil => cases found
  | cons replica rest ih =>
      unfold setReplicaHealth at found
      split at found
      · cases found
        rfl
      · rcases Option.map_eq_some_iff.mp found with ⟨tail, tailFound, rfl⟩
        simp only [List.map_cons, ih tailFound]

theorem Rows.get_eq_ok {rows : Rows} {id : String} {fb : FederatedBucket} :
    rows.get id = .ok fb ↔ rows.get? id = some fb := by
  unfold Rows.get
  cases rows.get? id <;> simp

/-- An update leaves the row alone, or persists the patch over the stored record. -/
theorem Rows.update_cases (rows : Rows) (id : String) (patch : FederatedBucket) (now : Int)
    (persisted : Bool) :
    (rows.update id patch now persisted).2 = rows ∨
      Exists fun cur => persisted = true ∧ rows.get? id = some cur ∧
        (rows.update id patch now persisted).2 = rows.put id (cur.patched patch now) := by
  unfold Rows.update Rows.commit
  cases found : rows.get? id with
  | none => exact Or.inl rfl
  | some cur =>
      cases persisted with
      | true => exact Or.inr ⟨cur, rfl, rfl, rfl⟩
      | false => exact Or.inl rfl

/-- A promotion fails without a trace, or the stored epoch was the expected one
and the patch is installed with its own epoch. -/
theorem Rows.promoteWithEpoch_cases (rows : Rows) (id : String) (expectedEpoch : Int)
    (patch : FederatedBucket) (now : Int) (persisted : Bool) :
    (Exists fun error => rows.promoteWithEpoch id expectedEpoch patch now persisted =
        (.error error, rows) ∧
      (error = .epochChanged ∨ error = .write ∨ (error = .notFound ∧ rows.get? id = none))) ∨
    Exists fun cur => rows.get? id = some cur ∧ cur.failoverEpoch = expectedEpoch ∧
      rows.promoteWithEpoch id expectedEpoch patch now persisted =
        (.ok { cur.patched patch now with failoverEpoch := patch.failoverEpoch },
          rows.put id { cur.patched patch now with failoverEpoch := patch.failoverEpoch }) := by
  unfold Rows.promoteWithEpoch Rows.commit
  cases found : rows.get? id with
  | none => exact Or.inl ⟨.notFound, rfl, Or.inr (Or.inr ⟨rfl, rfl⟩)⟩
  | some cur =>
      by_cases current : cur.failoverEpoch = expectedEpoch
      · cases persisted with
        | true => exact Or.inr ⟨cur, rfl, current, by simp [current]⟩
        | false => exact Or.inl ⟨.write, by simp [current], Or.inr (Or.inl rfl)⟩
      · exact Or.inl ⟨.epochChanged, by simp [current], Or.inl rfl⟩

/-- A health update leaves the row alone or changes only its health fields. -/
theorem Rows.updateReplicaHealth_cases (rows : Rows) (id : String) (endpoint : Endpoint)
    (health : ReplicaTarget) (now : Int) (persisted : Bool) :
    (rows.updateReplicaHealth id endpoint health now persisted).2 = rows ∨
      Exists fun cur => Exists fun replicas => rows.get? id = some cur ∧
        replicas.map ReplicaTarget.endpoint = cur.replicas.map ReplicaTarget.endpoint ∧
        (rows.updateReplicaHealth id endpoint health now persisted).2 =
          rows.put id { cur with replicas := replicas, updatedAt := now } := by
  unfold Rows.updateReplicaHealth
  cases found : rows.get? id with
  | none => exact Or.inl rfl
  | some cur =>
      cases replaced : setReplicaHealth endpoint health cur.replicas with
      | none => exact Or.inl (by simp only [replaced])
      | some replicas =>
          cases persisted with
          | true =>
              exact Or.inr ⟨cur, replicas, rfl, setReplicaHealth_endpoints replaced, by simp [replaced]⟩
          | false => exact Or.inl (by simp [replaced])

/-- A deletion leaves the rows alone or removes the row. -/
theorem Rows.delete_cases (rows : Rows) (id : String) (persisted : Bool) :
    (rows.delete id persisted).2 = rows ∨ (rows.delete id persisted).2 = rows.erase id := by
  unfold Rows.delete
  cases rows.get? id with
  | none => exact Or.inl rfl
  | some _ => cases persisted with
    | true => exact Or.inr rfl
    | false => exact Or.inl rfl

end Federation
end Basement
