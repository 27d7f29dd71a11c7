import Basement.Federation.Records
import Mathlib.Algebra.Ring.Int.Defs

namespace Basement
namespace Federation
namespace Replication

open Library

/-!
# The replication engine, step by step

One federation with one replica.  Users write to the primary at any moment.  A
polling pass runs `replicateToReplica`: it works on the snapshot of the replica's row
that `tickFederation` loaded, and every driver call, every object of a page and every
copy of the batch is a step of its own.  The event worker runs `handleEventTask` on
queued tasks, each with the snapshot of the row at the time of its event.

A successful call has the effect it names when it returns, and a server-side copy is a
read and a write with nothing in between; one that is refused has no effect.  A put or
delete that fails may still take effect at any later time; the strays are these calls.
A batch that is abandoned at the deadline leaves the copies behind which have not
returned: those that have read go on as strays, and the leaked ones have yet to read.
A new primary object gets the wall clock rounded down to a second for its mtime.

A pass remembers the keys that somebody else wrote, on either side, since it took
its snapshot.  No step looks at this list.
-/

variable {contentOf : String -> Body}

/-! ## Components -/

/-- A copy between its read from the primary and its landing on the replica. -/
structure Flight where
  entry : DiffEntry
  body : Body

/-- The state of `replicateBatch`. -/
structure Batch where
  dr : DiffResult
  todo : List DiffEntry
  flights : List Flight := []
  replicated : Nat := 0
  failed : Bool := false

/-- Where a pass stands. -/
inductive Stage (contentOf : String -> Body) where
  | resolving
  | listing (cursor : Option String) (dr : DiffResult)
  | scanning (rest : List (String × Object contentOf)) (next : Option String) (more : Bool)
      (dr : DiffResult)
  | copying (batch : Batch)
  | failing (failures : Nat)
  | recording (upd : ReplicaTarget)

/-- A run of `replicateToReplica`. -/
structure Pass (contentOf : String -> Body) where
  snap : ReplicaTarget
  stage : Stage contentOf
  written : List String

/-- `eventTask`. -/
structure EventTask where
  target : ReplicaTarget
  singleKey : String
  isDelete : Bool

/-- Where `handleEventTask` stands. -/
inductive Job where
  | opening (task : EventTask)
  | putting (task : EventTask) (body : Body)
  | deleting (task : EventTask)
  | succeeded (task : EventTask)
  | failing (failures : Nat) (target : ReplicaTarget)
  | recording (upd : ReplicaTarget)

/-- A write that may still reach the replica; no body is a delete. -/
structure Stray where
  key : String
  body : Option Body

/-- What is left of a copy that failed or was abandoned. -/
def Flight.stray (flight : Flight) : Stray := ⟨flight.entry.key, some flight.body⟩

/-- `eventTaskBuffer`. -/
def eventTaskBuffer : Nat := 128

structure World (contentOf : String -> Body) where
  clock : Int
  primary : Contents contentOf
  replica : Contents contentOf
  record : ReplicaTarget
  failures : Nat
  poller : Option (Pass contentOf)
  queue : List EventTask
  worker : Option Job
  strays : List Stray
  leaked : List String

/-! ## Effects -/

/-- The pass in progress remembers a key that somebody else wrote. -/
def World.wrote (world : World contentOf) (key : String) : World contentOf :=
  { world with
    poller := world.poller.map fun pass => { pass with written := key :: pass.written } }

/-- A user writes to the primary, or deletes from it. -/
def World.setPrimary (world : World contentOf) (key : String)
    (object : Option (Object contentOf)) : World contentOf :=
  { world with primary := world.primary.set key object }.wrote key

/-- A call other than a copy of the pass reaches the replica. -/
def World.setReplica (world : World contentOf) (key : String)
    (object : Option (Object contentOf)) : World contentOf :=
  { world with replica := world.replica.set key object }.wrote key

def World.setStage (world : World contentOf) (pass : Pass contentOf) (stage : Stage contentOf) :
    World contentOf :=
  { world with poller := some { pass with stage := stage } }

/-- `recordFailure` in a pass, up to its first store call. -/
def World.failPass (world : World contentOf) (pass : Pass contentOf) : World contentOf :=
  { world with failures := world.failures + 1 }.setStage pass (.failing (world.failures + 1))

/-- `recordFailure` in the worker, up to its first store call. -/
def World.failJob (world : World contentOf) (target : ReplicaTarget) : World contentOf :=
  { world with
    failures := world.failures + 1
    worker := some (.failing (world.failures + 1) target) }

/-- The row as a store call returns it, unless the call fails. -/
def World.load (world : World contentOf) (loaded : Bool) : Option ReplicaTarget :=
  if loaded then some world.record else none

/-- The batch that a finished scan hands on, `MaxBatchPerTick` entries at most. -/
def DiffResult.batch (dr : DiffResult) : Batch :=
  { dr := dr, todo := dr.entries.take maxBatchPerTick }

/-- The number and the size of the entries that were not copied. -/
def Batch.pendingObjects (batch : Batch) : Int :=
  ((batch.dr.entries.take maxBatchPerTick).length : Int) - batch.replicated

def Batch.pendingBytes (batch : Batch) : Int :=
  (((batch.dr.entries.take maxBatchPerTick).drop batch.replicated).map DiffEntry.size).sum

/-! ## Steps -/

/-- The steps of a pass after its start.  The answers of the drivers and of the
store are arguments; `none` and `false` stand for errors. -/
inductive PassAction (contentOf : String -> Body) where
  | resolve (ok : Bool)
  | listPage (limit : Option Nat)
  | headObject (answered : Bool)
  | endPage
  | openStream (index : Nat) (ok : Bool)
  | putLands (index : Nat) (object : Object contentOf)
  | putFails (index : Nat)
  | abandonBatch (noticed : Bool)
  | finishPass
  | loadLag (loaded : Bool)
  | storeRecord (persisted : Bool)

/-- The steps of the event worker after it took a task. -/
inductive JobAction (contentOf : String -> Body) where
  | openStream (ok : Bool)
  | putLands (object : Object contentOf)
  | deleteLands
  | callFails
  | finishTask (loaded : Bool)
  | loadLag (loaded : Bool)
  | storeRecord (persisted : Bool)

inductive Action (contentOf : String -> Body) where
  | tick (elapsed : Nat)
  | userPut (key : String) (version : Version contentOf)
  | userDelete (key : String)
  | loadRecord
  | pass (action : PassAction contentOf)
  | notify (key : String) (isDelete : Bool)
  | takeTask (ok : Bool)
  | dropTask
  | job (action : JobAction contentOf)
  | strayLands (index : Nat) (object : Option (Object contentOf))
  | leakedReads (index : Nat)

/-- `replicateToReplica` after its start. -/
def passStep (world : World contentOf) (pass : Pass contentOf) :
    PassAction contentOf -> Option (World contentOf)
  | .resolve ok =>
      match pass.stage with
      | .resolving =>
          if ok then some (world.setStage pass (.listing none {})) else some (world.failPass pass)
      | _ => none
  | .listPage limit =>
      match pass.stage with
      | .listing cursor dr =>
          match limit with
          | none => some (world.failPass pass)
          | some limit =>
              if 0 < limit ∧ limit ≤ listPageSize then
                let page := world.primary.page cursor limit
                some (world.setStage pass (.scanning page (SortedStore.nextCursor cursor page)
                  (decide (limit < (world.primary.after cursor).length)) dr))
              else none
      | _ => none
  | .headObject answered =>
      match pass.stage with
      | .scanning (listed :: rest) next more dr =>
          let head := if answered then world.replica.get? listed.1 else none
          match scanObject pass.snap.lastSync head listed dr with
          | .ok dr => some (world.setStage pass (.scanning rest next more dr))
          | .error dr => some (world.setStage pass (.copying (DiffResult.batch dr)))
      | _ => none
  | .endPage =>
      match pass.stage with
      | .scanning [] next more dr =>
          match pageEnd more dr with
          | .ok dr => some (world.setStage pass (.listing next dr))
          | .error dr => some (world.setStage pass (.copying (DiffResult.batch dr)))
      | _ => none
  | .openStream index ok =>
      match pass.stage with
      | .copying batch =>
          match batch.todo[index]? with
          | none => none
          | some entry =>
              let batch := { batch with todo := batch.todo.eraseIdx index }
              match if ok then world.primary.get? entry.key else none with
              | none => some (world.setStage pass (.copying { batch with failed := true }))
              | some object =>
                  some (world.setStage pass (.copying
                    { batch with flights := ⟨entry, object.body⟩ :: batch.flights }))
      | _ => none
  | .putLands index object =>
      match pass.stage with
      | .copying batch =>
          match batch.flights[index]? with
          | none => none
          | some flight =>
              if object.body = flight.body then
                some ({ world with
                  replica := world.replica.put flight.entry.key object }.setStage pass
                    (.copying { batch with
                      flights := batch.flights.eraseIdx index
                      replicated := batch.replicated + 1 }))
              else none
      | _ => none
  | .putFails index =>
      match pass.stage with
      | .copying batch =>
          match batch.flights[index]? with
          | none => none
          | some flight =>
              some ({ world with
                strays := flight.stray :: world.strays }.setStage pass
                  (.copying { batch with
                    flights := batch.flights.eraseIdx index
                    failed := true }))
      | _ => none
  | .abandonBatch noticed =>
      match pass.stage with
      | .copying batch =>
          some ({ world with
            strays := batch.flights.map Flight.stray ++ world.strays
            leaked := batch.todo.map DiffEntry.key ++ world.leaked }.setStage pass
              (.copying { batch with
                todo := []
                flights := []
                failed := batch.failed || noticed }))
      | _ => none
  | .finishPass =>
      match pass.stage with
      | .copying batch =>
          if batch.todo.isEmpty ∧ batch.flights.isEmpty then
            if batch.failed then some (world.failPass pass)
            else
              some ({ world with failures := 0 }.setStage pass (.recording
                (recordSuccess world.clock pass.snap batch.pendingObjects batch.pendingBytes
                  batch.dr)))
          else none
      | _ => none
  | .loadLag loaded =>
      match pass.stage with
      | .failing failures =>
          some (world.setStage pass (.recording
            (recordFailure failures (world.load loaded) pass.snap)))
      | _ => none
  | .storeRecord persisted =>
      match pass.stage with
      | .recording upd =>
          some { world with
            poller := none
            record := if persisted then world.record.withHealth upd else world.record }
      | _ => none

/-- `handleEventTask` after it took a task. -/
def jobStep (world : World contentOf) (job : Job) :
    JobAction contentOf -> Option (World contentOf)
  | .openStream ok =>
      match job with
      | .opening task =>
          match if ok then world.primary.get? task.singleKey else none with
          | none => some (world.failJob task.target)
          | some object => some { world with worker := some (.putting task object.body) }
      | _ => none
  | .putLands object =>
      match job with
      | .putting task body =>
          if object.body = body then
            some { world.setReplica task.singleKey (some object) with
              worker := some (.succeeded task) }
          else none
      | _ => none
  | .deleteLands =>
      match job with
      | .deleting task =>
          some { world.setReplica task.singleKey none with worker := some (.succeeded task) }
      | _ => none
  | .callFails =>
      match job with
      | .putting task body =>
          some ({ world with strays := ⟨task.singleKey, some body⟩ :: world.strays }.failJob
            task.target)
      | .deleting task =>
          some ({ world with strays := ⟨task.singleKey, none⟩ :: world.strays }.failJob task.target)
      | _ => none
  | .finishTask loaded =>
      match job with
      | .succeeded task =>
          some { world with
            failures := 0
            worker := some (.recording
              (if task.isDelete then recordDeleteSuccess (world.load loaded) task.target
                else recordSuccess world.clock task.target 0 0 { scanned := 1, headed := 1 })) }
      | _ => none
  | .loadLag loaded =>
      match job with
      | .failing failures target =>
          some { world with
            worker := some (.recording (recordFailure failures (world.load loaded) target)) }
      | _ => none
  | .storeRecord persisted =>
      match job with
      | .recording upd =>
          some { world with
            worker := none
            record := if persisted then world.record.withHealth upd else world.record }
      | _ => none

/-- One step of the system. -/
def step (world : World contentOf) : Action contentOf -> Option (World contentOf)
  | .tick elapsed => some { world with clock := world.clock + elapsed }
  | .userPut key version =>
      some (world.setPrimary key (some ⟨version, wholeSecond world.clock⟩))
  | .userDelete key => some (world.setPrimary key none)
  | .loadRecord =>
      match world.poller with
      | none => some { world with poller := some ⟨world.record, .resolving, []⟩ }
      | some _ => none
  | .pass action => world.poller.bind fun pass => passStep world pass action
  | .notify key isDelete =>
      if world.queue.length < eventTaskBuffer then
        some { world with queue := world.queue ++ [⟨world.record, key, isDelete⟩] }
      else some world
  | .takeTask ok =>
      match world.worker, world.queue with
      | none, task :: rest =>
          if ok = false then some ({ world with queue := rest }.failJob task.target)
          else
            some { world with
              queue := rest
              worker := some (if task.isDelete then .deleting task else .opening task) }
      | _, _ => none
  | .dropTask =>
      match world.worker, world.queue with
      | none, _ :: rest => some { world with queue := rest }
      | _, _ => none
  | .job action => world.worker.bind fun job => jobStep world job action
  | .strayLands index object =>
      match world.strays[index]? with
      | none => none
      | some stray =>
          if object.map (fun object => object.body) = stray.body then
            some ({ world with strays := world.strays.eraseIdx index }.setReplica stray.key object)
          else none
  | .leakedReads index =>
      match world.leaked[index]? with
      | none => none
      | some key =>
          let world := { world with leaked := world.leaked.eraseIdx index }
          match world.primary.get? key with
          | none => some world
          | some object =>
              some { world with strays := ⟨key, some object.body⟩ :: world.strays }

/-! ## What a step does -/

/-- The ways a pass moves on. -/
inductive PassMove (world : World contentOf) (pass : Pass contentOf) :
    PassAction contentOf -> World contentOf -> Prop where
  | resolved (stage : pass.stage = .resolving) :
      PassMove world pass (.resolve true) (world.setStage pass (.listing none {}))
  | failed (action : PassAction contentOf)
      (undrained : forall batch, action = .finishPass -> pass.stage = .copying batch ->
        batch.failed = true) : PassMove world pass action (world.failPass pass)
  | listed (cursor : Option String) (dr : DiffResult) (limit : Nat)
      (stage : pass.stage = .listing cursor dr) :
      PassMove world pass (.listPage (some limit)) (world.setStage pass
        (.scanning (world.primary.page cursor limit)
          (SortedStore.nextCursor cursor (world.primary.page cursor limit))
          (decide (limit < (world.primary.after cursor).length)) dr))
  | scanned (listed : String × Object contentOf) (rest : List (String × Object contentOf))
      (cursor : Option String) (more : Bool) (dr after : DiffResult) (answered : Bool)
      (stage : pass.stage = .scanning (listed :: rest) cursor more dr)
      (result : scanObject pass.snap.lastSync
        (if answered then world.replica.get? listed.1 else none) listed dr = .ok after) :
      PassMove world pass (.headObject answered)
        (world.setStage pass (.scanning rest cursor more after))
  | filled (listed : String × Object contentOf) (rest : List (String × Object contentOf))
      (cursor : Option String) (more : Bool) (dr after : DiffResult) (answered : Bool)
      (stage : pass.stage = .scanning (listed :: rest) cursor more dr)
      (result : scanObject pass.snap.lastSync
        (if answered then world.replica.get? listed.1 else none) listed dr = .error after) :
      PassMove world pass (.headObject answered)
        (world.setStage pass (.copying (DiffResult.batch after)))
  | turned (cursor : Option String) (more : Bool) (dr after : DiffResult)
      (stage : pass.stage = .scanning [] cursor more dr) (result : pageEnd more dr = .ok after) :
      PassMove world pass .endPage (world.setStage pass (.listing cursor after))
  | ended (cursor : Option String) (more : Bool) (dr after : DiffResult)
      (stage : pass.stage = .scanning [] cursor more dr)
      (result : pageEnd more dr = .error after) :
      PassMove world pass .endPage (world.setStage pass (.copying (DiffResult.batch after)))
  | opened (batch : Batch) (index : Nat) (entry : DiffEntry) (object : Object contentOf)
      (stage : pass.stage = .copying batch) (waiting : batch.todo[index]? = some entry)
      (found : world.primary.get? entry.key = some object) :
      PassMove world pass (.openStream index true) (world.setStage pass (.copying
        { batch with
          todo := batch.todo.eraseIdx index
          flights := ⟨entry, object.body⟩ :: batch.flights }))
  | refused (batch : Batch) (index : Nat) (ok : Bool) (stage : pass.stage = .copying batch) :
      PassMove world pass (.openStream index ok) (world.setStage pass (.copying
        { batch with todo := batch.todo.eraseIdx index, failed := true }))
  | landed (batch : Batch) (index : Nat) (flight : Flight) (object : Object contentOf)
      (stage : pass.stage = .copying batch) (flying : batch.flights[index]? = some flight)
      (body : object.body = flight.body) :
      PassMove world pass (.putLands index object)
        ({ world with replica := world.replica.put flight.entry.key object }.setStage pass
          (.copying { batch with
            flights := batch.flights.eraseIdx index, replicated := batch.replicated + 1 }))
  | broke (batch : Batch) (index : Nat) (flight : Flight) (stage : pass.stage = .copying batch)
      (flying : batch.flights[index]? = some flight) :
      PassMove world pass (.putFails index)
        ({ world with strays := flight.stray :: world.strays }.setStage pass
          (.copying { batch with flights := batch.flights.eraseIdx index, failed := true }))
  | abandoned (batch : Batch) (noticed : Bool) (stage : pass.stage = .copying batch) :
      PassMove world pass (.abandonBatch noticed)
        ({ world with
          strays := batch.flights.map Flight.stray ++ world.strays
          leaked := batch.todo.map DiffEntry.key ++ world.leaked }.setStage pass
            (.copying { batch with
              todo := []
              flights := []
              failed := batch.failed || noticed }))
  | finished (batch : Batch) (stage : pass.stage = .copying batch) (todo : batch.todo = [])
      (flights : batch.flights = []) (ok : batch.failed = false) :
      PassMove world pass .finishPass
        ({ world with failures := 0 }.setStage pass (.recording
          (recordSuccess world.clock pass.snap batch.pendingObjects batch.pendingBytes batch.dr)))
  | reported (failures : Nat) (loaded : Bool) (stage : pass.stage = .failing failures) :
      PassMove world pass (.loadLag loaded) (world.setStage pass
        (.recording (recordFailure failures (world.load loaded) pass.snap)))
  | stored (upd : ReplicaTarget) (persisted : Bool) (stage : pass.stage = .recording upd) :
      PassMove world pass (.storeRecord persisted)
        { world with
          poller := none
          record := if persisted then world.record.withHealth upd else world.record }

/-- The steps of a pass are these moves and no others. -/
theorem passStep_moves {world next : World contentOf} {pass : Pass contentOf}
    {action : PassAction contentOf} (taken : passStep world pass action = some next) :
    PassMove world pass action next := by
  cases action with
  | resolve ok =>
      simp only [passStep] at taken
      split at taken
      · rename_i stage
        cases ok with
        | true => cases taken; exact .resolved stage
        | false => cases taken; exact .failed _ (fun _ other => by cases other)
      · cases taken
  | listPage limit =>
      simp only [passStep] at taken
      split at taken
      · rename_i cursor dr stage
        cases limit with
        | none => cases taken; exact .failed _ (fun _ other => by cases other)
        | some limit =>
            simp only at taken
            split at taken
            · cases taken; exact .listed cursor dr limit stage
            · cases taken
      · cases taken
  | headObject answered =>
      simp only [passStep] at taken
      split at taken
      · rename_i listed rest cursor more dr stage
        split at taken
        · rename_i after result
          cases taken
          exact .scanned listed rest cursor more dr after answered stage result
        · rename_i after result
          cases taken
          exact .filled listed rest cursor more dr after answered stage result
      · cases taken
  | endPage =>
      simp only [passStep] at taken
      split at taken
      · rename_i cursor more dr stage
        split at taken
        · rename_i after result
          cases taken
          exact .turned cursor more dr after stage result
        · rename_i after result
          cases taken
          exact .ended cursor more dr after stage result
      · cases taken
  | openStream index ok =>
      simp only [passStep] at taken
      split at taken
      · rename_i batch stage
        split at taken
        · cases taken
        · rename_i entry waiting
          split at taken
          · cases taken
            exact .refused batch index ok stage
          · rename_i object found
            cases taken
            cases ok with
            | true => exact .opened batch index entry object stage waiting found
            | false => cases found
      · cases taken
  | putLands index object =>
      simp only [passStep] at taken
      split at taken
      · rename_i batch stage
        split at taken
        · cases taken
        · rename_i flight flying
          split at taken
          · rename_i body
            cases taken
            exact .landed batch index flight object stage flying body
          · cases taken
      · cases taken
  | putFails index =>
      simp only [passStep] at taken
      split at taken
      · rename_i batch stage
        split at taken
        · cases taken
        · rename_i flight flying
          cases taken
          exact .broke batch index flight stage flying
      · cases taken
  | abandonBatch noticed =>
      simp only [passStep] at taken
      split at taken
      · rename_i batch stage
        cases taken
        exact .abandoned batch noticed stage
      · cases taken
  | finishPass =>
      simp only [passStep] at taken
      split at taken
      · rename_i batch stage
        split at taken
        · rename_i empty
          cases failed : batch.failed with
          | true =>
              rw [if_pos failed] at taken
              cases taken
              refine .failed _ ?_
              intro other _ same
              rw [stage] at same
              cases same
              exact failed
          | false =>
              rw [if_neg (by simp [failed])] at taken
              cases taken
              exact .finished batch stage (List.isEmpty_iff.mp empty.1)
                (List.isEmpty_iff.mp empty.2) failed
        · cases taken
      · cases taken
  | loadLag loaded =>
      simp only [passStep] at taken
      split at taken
      · rename_i failures stage
        cases taken
        exact .reported failures loaded stage
      · cases taken
  | storeRecord persisted =>
      simp only [passStep] at taken
      split at taken
      · rename_i upd stage
        cases taken
        exact .stored upd persisted stage
      · cases taken

/-- The ways the event worker moves on. -/
inductive JobMove (world : World contentOf) :
    Job -> JobAction contentOf -> World contentOf -> Prop where
  | opened (task : EventTask) (object : Object contentOf)
      (found : world.primary.get? task.singleKey = some object) :
      JobMove world (.opening task) (.openStream true)
        { world with worker := some (.putting task object.body) }
  | refused (task : EventTask) (ok : Bool) :
      JobMove world (.opening task) (.openStream ok) (world.failJob task.target)
  | landed (task : EventTask) (body : Body) (object : Object contentOf)
      (same : object.body = body) :
      JobMove world (.putting task body) (.putLands object)
        { world.setReplica task.singleKey (some object) with worker := some (.succeeded task) }
  | deleted (task : EventTask) :
      JobMove world (.deleting task) .deleteLands
        { world.setReplica task.singleKey none with worker := some (.succeeded task) }
  | putFailed (task : EventTask) (body : Body) :
      JobMove world (.putting task body) .callFails
        ({ world with strays := ⟨task.singleKey, some body⟩ :: world.strays }.failJob task.target)
  | deleteFailed (task : EventTask) :
      JobMove world (.deleting task) .callFails
        ({ world with strays := ⟨task.singleKey, none⟩ :: world.strays }.failJob task.target)
  | finished (task : EventTask) (loaded : Bool) :
      JobMove world (.succeeded task) (.finishTask loaded)
        { world with
          failures := 0
          worker := some (.recording
            (if task.isDelete then recordDeleteSuccess (world.load loaded) task.target
              else recordSuccess world.clock task.target 0 0 { scanned := 1, headed := 1 })) }
  | reported (failures : Nat) (target : ReplicaTarget) (loaded : Bool) :
      JobMove world (.failing failures target) (.loadLag loaded)
        { world with
          worker := some (.recording (recordFailure failures (world.load loaded) target)) }
  | stored (upd : ReplicaTarget) (persisted : Bool) :
      JobMove world (.recording upd) (.storeRecord persisted)
        { world with
          worker := none
          record := if persisted then world.record.withHealth upd else world.record }

theorem jobStep_moves {world next : World contentOf} {job : Job} {action : JobAction contentOf}
    (taken : jobStep world job action = some next) : JobMove world job action next := by
  cases action with
  | openStream ok =>
      simp only [jobStep] at taken
      split at taken
      · rename_i task
        split at taken
        · cases taken
          exact .refused task ok
        · rename_i object found
          cases taken
          cases ok with
          | true => exact .opened task object found
          | false => cases found
      · cases taken
  | putLands object =>
      simp only [jobStep] at taken
      split at taken
      · rename_i task body
        split at taken
        · rename_i same
          cases taken
          exact .landed task body object same
        · cases taken
      · cases taken
  | deleteLands =>
      simp only [jobStep] at taken
      split at taken
      · rename_i task
        cases taken
        exact .deleted task
      · cases taken
  | callFails =>
      simp only [jobStep] at taken
      split at taken
      · rename_i task body
        cases taken
        exact .putFailed task body
      · rename_i task
        cases taken
        exact .deleteFailed task
      · cases taken
  | finishTask loaded =>
      simp only [jobStep] at taken
      split at taken
      · rename_i task
        cases taken
        exact .finished task loaded
      · cases taken
  | loadLag loaded =>
      simp only [jobStep] at taken
      split at taken
      · rename_i failures target
        cases taken
        exact .reported failures target loaded
      · cases taken
  | storeRecord persisted =>
      simp only [jobStep] at taken
      split at taken
      · rename_i upd
        cases taken
        exact .stored upd persisted
      · cases taken

/-- The ways the system moves on. -/
inductive Move (world : World contentOf) : Action contentOf -> World contentOf -> Prop where
  | waited (elapsed : Nat) :
      Move world (.tick elapsed) { world with clock := world.clock + elapsed }
  | userPut (key : String) (version : Version contentOf) :
      Move world (.userPut key version)
        (world.setPrimary key (some ⟨version, wholeSecond world.clock⟩))
  | userDeleted (key : String) : Move world (.userDelete key) (world.setPrimary key none)
  | loaded (idle : world.poller = none) :
      Move world .loadRecord { world with poller := some ⟨world.record, .resolving, []⟩ }
  | passed (pass : Pass contentOf) (action : PassAction contentOf) (next : World contentOf)
      (running : world.poller = some pass) (moved : PassMove world pass action next) :
      Move world (.pass action) next
  | queued (key : String) (isDelete : Bool) (room : world.queue.length < eventTaskBuffer) :
      Move world (.notify key isDelete)
        { world with queue := world.queue ++ [⟨world.record, key, isDelete⟩] }
  | overflowed (key : String) (isDelete : Bool) : Move world (.notify key isDelete) world
  | unresolved (task : EventTask) (rest : List EventTask) (waiting : world.queue = task :: rest)
      (idle : world.worker = none) :
      Move world (.takeTask false) ({ world with queue := rest }.failJob task.target)
  | taken (task : EventTask) (rest : List EventTask) (waiting : world.queue = task :: rest)
      (idle : world.worker = none) :
      Move world (.takeTask true)
        { world with
          queue := rest
          worker := some (if task.isDelete then .deleting task else .opening task) }
  | dropped (task : EventTask) (rest : List EventTask) (waiting : world.queue = task :: rest)
      (idle : world.worker = none) :
      Move world .dropTask { world with queue := rest }
  | worked (job : Job) (action : JobAction contentOf) (next : World contentOf)
      (working : world.worker = some job) (moved : JobMove world job action next) :
      Move world (.job action) next
  | strayed (index : Nat) (stray : Stray) (object : Option (Object contentOf))
      (found : world.strays[index]? = some stray)
      (body : object.map (fun object => object.body) = stray.body) :
      Move world (.strayLands index object)
        ({ world with strays := world.strays.eraseIdx index }.setReplica stray.key object)
  | leakGone (index : Nat) (key : String) (found : world.leaked[index]? = some key)
      (gone : world.primary.get? key = none) :
      Move world (.leakedReads index) { world with leaked := world.leaked.eraseIdx index }
  | leakRead (index : Nat) (key : String) (object : Object contentOf)
      (found : world.leaked[index]? = some key)
      (present : world.primary.get? key = some object) :
      Move world (.leakedReads index)
        { world with
          leaked := world.leaked.eraseIdx index
          strays := ⟨key, some object.body⟩ :: world.strays }

/-- The steps of the system are these moves and no others. -/
theorem step_moves {world next : World contentOf} {action : Action contentOf}
    (stepped : step world action = some next) : Move world action next := by
  cases action with
  | tick elapsed =>
      cases stepped
      exact .waited elapsed
  | userPut key version =>
      cases stepped
      exact .userPut key version
  | userDelete key =>
      cases stepped
      exact .userDeleted key
  | loadRecord =>
      simp only [step] at stepped
      split at stepped
      · rename_i idle
        cases stepped
        exact .loaded idle
      · cases stepped
  | pass action =>
      rcases Option.bind_eq_some_iff.mp stepped with ⟨pass, running, moved⟩
      exact .passed pass action next running (passStep_moves moved)
  | notify key isDelete =>
      simp only [step] at stepped
      split at stepped
      · rename_i room
        cases stepped
        exact .queued key isDelete room
      · cases stepped
        exact .overflowed key isDelete
  | takeTask ok =>
      simp only [step] at stepped
      split at stepped
      · rename_i task rest idle waiting
        cases ok with
        | false =>
            cases stepped
            exact .unresolved task rest waiting idle
        | true =>
            cases stepped
            exact .taken task rest waiting idle
      · cases stepped
  | dropTask =>
      simp only [step] at stepped
      split at stepped
      · rename_i task rest idle waiting
        cases stepped
        exact .dropped task rest waiting idle
      · cases stepped
  | job action =>
      rcases Option.bind_eq_some_iff.mp stepped with ⟨job, working, moved⟩
      exact .worked job action next working (jobStep_moves moved)
  | strayLands index object =>
      simp only [step] at stepped
      split at stepped
      · cases stepped
      · rename_i stray found
        split at stepped
        · rename_i body
          cases stepped
          exact .strayed index stray object found body
        · cases stepped
  | leakedReads index =>
      simp only [step] at stepped
      split at stepped
      · cases stepped
      · rename_i key found
        split at stepped
        · rename_i gone
          cases stepped
          exact .leakGone index key found gone
        · rename_i object present
          cases stepped
          exact .leakRead index key object found present

end Replication
end Federation
end Basement
