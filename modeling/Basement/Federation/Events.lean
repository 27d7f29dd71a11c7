import Basement.Federation.Replication
import Basement.Federation.Store
import Basement.Webhooks.Hooks

namespace Basement
namespace Federation
namespace Events

open Library
open Webhooks (EventEnvelope)

/-!
# Events on the way to the replicas

The federation engine subscribes to the webhook bus.  For every envelope that concerns
the primary of a continuous federation it queues one task per replica on the channel of
that federation; a worker executes the tasks later.

Here an envelope is mapped to its tasks, and the execution of one task is a function of
the answers that the store and the drivers give.  The store files each row under the ID
of the federation, so the key of a row stands for `fb.ID`.
-/

/-- `eventTask`. -/
structure EventTask where
  fbID : String
  target : ReplicaTarget
  singleKey : String
  singleSize : Int
  isDelete : Bool
  deriving DecidableEq, Repr

/-- `eventTasks`: what waits in the channel of each running federation loop. -/
abbrev Channels := SortedStore String (List EventTask)

/-- The tasks of one envelope for one federation. -/
def tasksFor (fbID : String) (fb : FederatedBucket) (env : EventEnvelope) : List EventTask :=
  fb.replicas.map fun replica =>
    { fbID := fbID, target := replica, singleKey := env.key, singleSize := env.size
      isDelete := decide (env.type = .objectDeleted) }

/-- The envelope is about the primary of the federation, and it replicates continuously. -/
def concerns (fb : FederatedBucket) (env : EventEnvelope) : Bool :=
  decide (fb.primary.endpoint = ⟨env.regionID, env.bucket⟩) &&
    decide (fb.policy.syncMode = .continuous)

/-- The tasks that a channel accepts: it takes what it has room for. -/
def accepted (channels : Channels) (fbID : String) (tasks : List EventTask) : List EventTask :=
  match channels.get? fbID with
  | none => []
  | some waiting => tasks.take (Replication.eventTaskBuffer - waiting.length)

/-- `handleWebhookEvent`: the tasks it queues. -/
def handleWebhookEvent (rows : Rows) (channels : Channels) (env : EventEnvelope) :
    List EventTask :=
  rows.entries.flatMap fun row =>
    if concerns row.2 env then
      accepted channels row.1 (tasksFor row.1 row.2 env)
    else []

/-! ## Executing a task -/

variable {Obj : Type}

/-- The buckets behind the endpoints, the store's rows and the engine's counters. -/
structure Site (Obj : Type) where
  rows : Rows
  channels : Channels
  buckets : Endpoint -> String -> Option Obj
  failures : String -> Endpoint -> Nat

/-- The answers of the store and of the drivers while a task is executed.  A call that
fails can have had its effect. -/
structure TaskIO where
  loads : Bool := true
  resolvesPrimary : Bool := true
  resolvesReplica : Bool := true
  serverSide : Bool := false
  succeeds : Bool := true
  landsAnyway : Bool := false
  reloads : Bool := true
  now : Int := 0
  persisted : Bool := true
  deriving DecidableEq, Repr

/-- Where a copy reads: a server-side copy is a call to the replica's driver. -/
def copySource (fb : FederatedBucket) (task : EventTask) (io : TaskIO) : Endpoint :=
  if io.serverSide then ⟨task.target.regionID, fb.primary.bucket⟩ else fb.primary.endpoint

def Site.write (site : Site Obj) (endpoint : Endpoint) (key : String) (object : Option Obj) :
    Site Obj :=
  { site with
    buckets := Function.update site.buckets endpoint
      (Function.update (site.buckets endpoint) key object) }

/-- The row of the task's replica as the second load gives it. -/
def Site.storedRow (site : Site Obj) (task : EventTask) (io : TaskIO) : Option ReplicaTarget :=
  if io.reloads then
    (site.rows.get? task.fbID).bind fun fb =>
      fb.replicas.find? fun replica => decide (replica.endpoint = task.target.endpoint)
  else none

/-- The last store call of a task. -/
def Site.record (site : Site Obj) (task : EventTask) (io : TaskIO) (upd : ReplicaTarget) :
    Site Obj :=
  { site with
    rows := (site.rows.updateReplicaHealth task.fbID task.target.endpoint upd io.now
      io.persisted).2 }

/-- `recordFailure`, with the count before it. -/
def Site.fail (site : Site Obj) (task : EventTask) (io : TaskIO) : Site Obj :=
  let failures := site.failures task.fbID task.target.endpoint + 1
  { site with
    failures := Function.update site.failures task.fbID
      (Function.update (site.failures task.fbID) task.target.endpoint failures) }.record task io
    (recordFailure failures (site.storedRow task io) task.target)

/-- `recordDeleteSuccess` and `recordSuccess`, which reset the count. -/
def Site.succeed (site : Site Obj) (task : EventTask) (io : TaskIO) : Site Obj :=
  { site with
    failures := Function.update site.failures task.fbID
      (Function.update (site.failures task.fbID) task.target.endpoint 0) }.record task io
    (if task.isDelete then recordDeleteSuccess (site.storedRow task io) task.target
      else recordSuccess io.now task.target 0 0 { scanned := 1, headed := 1 })

/-- The object a task writes under its key; `none` when it has nothing to write. -/
def Site.operand (site : Site Obj) (fb : FederatedBucket) (task : EventTask) (io : TaskIO) :
    Option (Option Obj) :=
  if task.isDelete then some none
  else (site.buckets (copySource fb task io) task.singleKey).map some

/-- `handleEventTask`. -/
def handleEventTask (site : Site Obj) (task : EventTask) (io : TaskIO) : Site Obj :=
  if io.loads = false then site
  else
    match site.rows.get? task.fbID with
    | none => site
    | some fb =>
        if io.resolvesPrimary = false ∨ io.resolvesReplica = false then site.fail task io
        else
          match site.operand fb task io with
          | none => site.fail task io
          | some object =>
              if io.succeeds then
                (site.write task.target.endpoint task.singleKey object).succeed task io
              else if io.landsAnyway then
                (site.write task.target.endpoint task.singleKey object).fail task io
              else site.fail task io

/-- Tasks executed one after the other. -/
def executeTasks (site : Site Obj) (executed : List (EventTask × TaskIO)) : Site Obj :=
  executed.foldl (fun site entry => handleEventTask site entry.1 entry.2) site

/-- The same objects, records and failure counts. -/
def Site.SameData (first second : Site Obj) : Prop :=
  first.buckets = second.buckets ∧ first.rows = second.rows ∧ first.failures = second.failures

@[simp] theorem Site.record_failures (site : Site Obj) (task : EventTask) (io : TaskIO)
    (upd : ReplicaTarget) : (site.record task io upd).failures = site.failures := rfl

@[simp] theorem Site.record_buckets (site : Site Obj) (task : EventTask) (io : TaskIO)
    (upd : ReplicaTarget) : (site.record task io upd).buckets = site.buckets := rfl

theorem Site.fail_failures (site : Site Obj) (task : EventTask) (io : TaskIO) :
    (site.fail task io).failures task.fbID task.target.endpoint =
      site.failures task.fbID task.target.endpoint + 1 := by
  simp [Site.fail]

/-- Some federation replicates the bucket an envelope is about, to at least one replica, and
its loop runs with room in its channel. -/
def Replicates (rows : Rows) (channels : Channels) (env : EventEnvelope) : Prop :=
  Exists fun fbID => Exists fun fb => Exists fun waiting =>
    rows.get? fbID = some fb ∧ concerns fb env = true ∧ fb.replicas ≠ [] ∧
      channels.get? fbID = some waiting ∧ waiting.length < Replication.eventTaskBuffer

/-- A queued task belongs to a stored federation that the envelope concerns. -/
theorem mem_handleWebhookEvent {rows : Rows} {channels : Channels} {env : EventEnvelope}
    {task : EventTask} (queued : task ∈ handleWebhookEvent rows channels env) :
    Exists fun fb => Exists fun waiting => rows.get? task.fbID = some fb ∧
      concerns fb env = true ∧ task.target ∈ fb.replicas ∧
      channels.get? task.fbID = some waiting ∧ waiting.length < Replication.eventTaskBuffer := by
  rcases List.mem_flatMap.mp queued with ⟨⟨fbID, fb⟩, listed, member⟩
  split at member
  · rename_i concerned
    unfold accepted at member
    cases loop : channels.get? fbID with
    | none => simp [loop] at member
    | some waiting =>
        simp only [loop] at member
        rcases List.mem_map.mp (List.mem_of_mem_take member) with ⟨replica, replicated, rfl⟩
        refine ⟨fb, waiting, (rows.mem_entries_iff _ _).mp listed, concerned, replicated, loop, ?_⟩
        by_contra full
        rw [Nat.sub_eq_zero_of_le (not_lt.mp full)] at member
        simp at member
  · cases member

/-- An envelope has consequences exactly if some federation replicates its bucket. -/
theorem handleWebhookEvent_eq_nil_iff {rows : Rows} {channels : Channels} {env : EventEnvelope} :
    handleWebhookEvent rows channels env = [] ↔ ¬ Replicates rows channels env := by
  constructor
  · rintro silent ⟨fbID, fb, waiting, found, concerned, replicated, loop, room⟩
    have row := List.flatMap_eq_nil_iff.mp silent (fbID, fb) ((rows.mem_entries_iff _ _).mpr found)
    simp only [concerned, if_true, accepted, loop, List.take_eq_nil_iff, tasksFor,
      List.map_eq_nil_iff] at row
    rcases row with full | empty
    · omega
    · exact replicated empty
  · intro unreplicated
    apply List.eq_nil_iff_forall_not_mem.mpr
    intro task queued
    rcases mem_handleWebhookEvent queued with ⟨fb, waiting, found, concerned, member, loop, room⟩
    exact unreplicated ⟨task.fbID, fb, waiting, found, concerned, List.ne_nil_of_mem member, loop, room⟩

end Events
end Federation
end Basement
