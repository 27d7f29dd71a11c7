import Basement.Api.Backups
import Basement.Api.Syncs
import Basement.Drivers.Storage
import Basement.Library.Transition
import Basement.Snapshots.Naming

namespace Basement
namespace Snapshots

open Library Drivers Api Federation

/-!
# Runs of a backup

A run plans one action for every object under the source prefix and executes the plan with
a few workers, so the copies land in any order.  In snapshot mode the destination prefix of
the job is the snapshot's folder.

The region IDs of the backup are resolved, so its two sides are buckets with their drivers.
-/

structure Backup where
  id : String
  name : String
  src : Bucket
  srcPrefix : String
  dst : Bucket
  dstPrefix : String
  mode : Backups.BackupMode
  retention : Backups.RetentionPolicy
  deriving DecidableEq, Repr

/-- The `DstPrefix` of the job that a run starts. -/
def Backup.jobPrefix (b : Backup) (started : Int) : String :=
  match b.mode with
  | .mirror => b.dstPrefix
  | .snapshot => trimSuffix (snapshotPrefix b.name started) "/"

/-- What the calls of a run meet: the error of the listing, the error of each `StatObject` by
its key, and the errors of each copy by the key it reads. -/
structure Answers where
  list : Option String := none
  stat : String -> Option String := fun _ => none
  copy : String -> Faults := fun _ => {}

/-- The ETag each backend reports for an object. -/
abbrev ETags := Location -> StoredObject -> String

/-- Whether the destination has an object with the listed ETag. -/
def etagMatches (etag : ETags) (fault : Option String) (storage : Storage) (src dst : Location) :
    Bool :=
  match fault, storage.world src, storage.world dst with
  | none, some listed, some held => etag dst held == etag src listed
  | _, _, _ => false

theorem etagMatches_of_absent {storage : Storage} {dst : Location} (etag : ETags)
    (fault : Option String) (src : Location) (absent : storage.world dst = none) :
    etagMatches etag fault storage src dst = false := by
  unfold etagMatches
  rw [absent]
  cases fault with
  | some error => rfl
  | none => cases storage.world src <;> rfl

/-- Where a run puts a source key. -/
def Backup.dstKey (b : Backup) (started : Int) (srcKey : String) : String :=
  planDstKey b.srcPrefix (b.jobPrefix started) srcKey

/-- The action of `Plan` for one listed key. -/
def planAction (etag : ETags) (answers : Answers) (storage : Storage) (b : Backup) (started : Int)
    (srcKey : String) : SyncAction where
  srcKey := srcKey
  dstKey := b.dstKey started srcKey
  type :=
    if etagMatches etag (answers.stat (b.dstKey started srcKey)) storage (b.src.at srcKey)
        (b.dst.at (b.dstKey started srcKey)) = true then
      .skip
    else .copy

/-- The source objects that the source prefix selects. -/
def Backup.selected (b : Backup) (storage : Storage) : List String :=
  keysUnder (storage b.src.place) (planPrefix b.srcPrefix)

/-- `Plan`, for the listing of all pages. -/
def Backup.plan (b : Backup) (etag : ETags) (answers : Answers) (started : Int) (storage : Storage) :
    Except String (List SyncAction) :=
  match answers.list with
  | some error => .error ("listing source objects: " ++ error)
  | none => .ok ((b.selected storage).map (planAction etag answers storage b started))

/-- A worker of `Engine.Run`; an error stops the run. -/
def Backup.work (b : Backup) (answers : Answers) (storage : Storage) (action : SyncAction) :
    Option Storage :=
  match action.type with
  | .skip => some storage
  | .copy =>
      match copyStored copyObject b.src b.dst action.srcKey action.dstKey
          (answers.copy action.srcKey) storage with
      | .error _ => none
      | .ok after => some after

/-- A run and the actions it has executed, in the order of the schedule. -/
def Backup.run (b : Backup) (etag : ETags) (answers : Answers)
    (schedule : List SyncAction -> List SyncAction) (started : Int) (storage : Storage) :
    Option (List SyncAction × Storage) :=
  match b.plan etag answers started storage with
  | .error _ => none
  | .ok actions =>
      (Transition.exec (b.work answers) storage (schedule actions)).map (schedule actions, ·)

/-- The keys that the executed actions have written. -/
def writtenKeys (actions : List SyncAction) : List String :=
  (actions.filter fun action => action.type = .copy).map SyncAction.dstKey

/-! ## What a run leaves -/

/-- The copy of an action is not diverted when it is made. -/
def Backup.Direct (b : Backup) (answers : Answers) (storage : Storage) (action : SyncAction) : Prop :=
  action.type = .copy ->
    ¬ Diverted b.src b.dst action.srcKey (answers.copy action.srcKey) storage

/-- The keys an action reads and writes. -/
def keysOf (action : SyncAction) : String × String := (action.srcKey, action.dstKey)

/-- A run that copies every action to a key of its own has copied them all. -/
theorem Backup.work_copied {b : Backup} {answers : Answers} :
    forall {actions : List SyncAction} {storage after : Storage},
      (forall action, action ∈ actions -> action.type = .copy) ->
      ((actions.map keysOf).map Prod.snd).Nodup ->
      (b.src.place = b.dst.place -> forall first second, first ∈ actions -> second ∈ actions ->
        first.dstKey ≠ second.srcKey) ->
      Transition.Meets (b.work answers) (b.Direct answers) storage actions ->
      Transition.exec (b.work answers) storage actions = some after ->
        Copied b.src b.dst (actions.map keysOf) storage after := by
  intro actions
  induction actions with
  | nil =>
      intro storage after _ _ _ _ run
      cases Option.some.inj run
      exact Copied.nil _ _ _
  | cons action rest ih =>
      intro storage after copies once unread direct run
      rcases Transition.exec_cons.mp run with ⟨middle, taken, tail⟩
      have both := Transition.meets_cons direct taken
      have copy := copies action List.mem_cons_self
      have parts := List.nodup_cons.mp once
      have later := ih (fun other member => copies other (List.mem_cons_of_mem _ member)) parts.2
        (fun same first second one two =>
          unread same first second (List.mem_cons_of_mem _ one) (List.mem_cons_of_mem _ two))
        both.2 tail
      simp only [Backup.work, copy] at taken
      cases copied : copyStored copyObject b.src b.dst action.srcKey action.dstKey
          (answers.copy action.srcKey) storage with
      | error error => simp [copied] at taken
      | ok stored =>
          rw [copied] at taken
          cases Option.some.inj taken
          refine Copied.cons copied (both.1 copy) parts.1 ?_ later
          intro same member
          rcases List.mem_map.mp member with ⟨pair, listed, read⟩
          rcases List.mem_map.mp listed with ⟨other, otherListed, rfl⟩
          exact unread same action other List.mem_cons_self (List.mem_cons_of_mem _ otherListed)
            read.symm

end Snapshots
end Basement
