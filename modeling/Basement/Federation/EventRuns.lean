import Basement.Federation.Events
import Basement.Federation.Promotions
import Mathlib.Data.List.Nodup

namespace Basement
namespace Federation
namespace EventRuns

open Library Transition
open Events (EventTask tasksFor concerns)
open Webhooks (EventEnvelope)

/-!
# Event tasks beside failovers and updates

A queued task names the replica that the record listed when the event came in.  The
worker loads the record again before it acts, but only the primary is taken from what
it loads: the bucket it writes to or deletes from is the one in the task.  Between the
event and the operation the record can be promoted or edited.

The system below runs the four actors on one federation.  The steps of the store and of
the failovers are those of `Failover`; the dispatcher reads the record and then sends
the tasks one by one, and the worker takes, loads and executes.  Each operation on a
bucket is logged with the record that is stored at that moment.
-/

/-! ## The targets of a record -/

/-- The endpoints of a record, the primary's first. -/
def endpoints (fb : FederatedBucket) : List Endpoint :=
  fb.primary.endpoint :: fb.replicas.map ReplicaTarget.endpoint

/-- No two targets of the record are one. -/
def Distinct (fb : FederatedBucket) : Prop := (endpoints fb).Nodup

/-- The key under which `validateFederationRequest` remembers a target. -/
def targetKey (endpoint : Endpoint) : String := endpoint.regionID ++ "|" ++ endpoint.bucket

/-- The uniqueness loop of `validateFederationRequest`: the first target seen before. -/
def duplicateTarget (seen : List String) : List Endpoint -> Option Endpoint
  | [] => none
  | target :: rest =>
      if targetKey target ∈ seen then some target
      else duplicateTarget (targetKey target :: seen) rest

/-- The uniqueness check of the create and update handlers, on targets that are already
trimmed. -/
def uniqueTargets (fb : FederatedBucket) : Bool :=
  (duplicateTarget [targetKey fb.primary.endpoint] (fb.replicas.map ReplicaTarget.endpoint)).isNone

theorem nodup_of_duplicateTarget {targets : List Endpoint} :
    forall {seen : List String}, duplicateTarget seen targets = none ->
      (targets.map targetKey).Nodup ∧ forall target, target ∈ targets -> targetKey target ∉ seen := by
  induction targets with
  | nil =>
      intro seen _
      exact ⟨List.nodup_nil, fun _ listed => absurd listed List.not_mem_nil⟩
  | cons first rest ih =>
      intro seen unique
      unfold duplicateTarget at unique
      split at unique
      · cases unique
      · rename_i fresh
        rcases ih unique with ⟨nodup, unseen⟩
        refine ⟨List.nodup_cons.mpr ⟨?_, nodup⟩, ?_⟩
        · intro repeated
          rcases List.mem_map.mp repeated with ⟨target, listed, same⟩
          exact unseen target listed (same ▸ List.mem_cons_self)
        · intro target listed
          rcases List.mem_cons.mp listed with rfl | later
          · exact fresh
          · exact fun earlier => unseen target later (List.mem_cons_of_mem _ earlier)

/-- A request that passes the check names distinct targets. -/
theorem distinct_of_uniqueTargets {fb : FederatedBucket} (unique : uniqueTargets fb = true) :
    Distinct fb := by
  rcases nodup_of_duplicateTarget (Option.isNone_iff_eq_none.mp unique) with ⟨nodup, unseen⟩
  have keys : ((endpoints fb).map targetKey).Nodup := by
    refine List.nodup_cons.mpr ⟨?_, nodup⟩
    intro repeated
    rcases List.mem_map.mp repeated with ⟨target, listed, same⟩
    exact unseen target listed (same ▸ List.mem_cons_self)
  exact List.Nodup.of_map targetKey keys

theorem Distinct.of_endpoints {fb other : FederatedBucket} (distinct : Distinct fb)
    (same : endpoints other = endpoints fb) : Distinct other := by
  unfold Distinct
  rw [same]
  exact distinct

/-- A replica of a record with distinct targets is not its primary. -/
theorem Distinct.ne_primary {fb : FederatedBucket} {endpoint : Endpoint} (distinct : Distinct fb)
    (replica : endpoint ∈ fb.replicas.map ReplicaTarget.endpoint) :
    endpoint ≠ fb.primary.endpoint := by
  intro same
  exact (List.nodup_cons.mp distinct).1 (same ▸ replica)

/-! ## A promotion keeps the targets distinct -/

/-- Putting one element of a duplicate-free list in front and the old front in its place. -/
theorem nodup_swap {front chosen : Endpoint} {rest : List Endpoint}
    (distinct : (front :: rest).Nodup) (listed : chosen ∈ rest) :
    (chosen :: rest.map fun endpoint => if endpoint = chosen then front else endpoint).Nodup := by
  rcases List.nodup_cons.mp distinct with ⟨absent, nodup⟩
  have apart : front ≠ chosen := fun same => absent (same ▸ listed)
  refine List.nodup_cons.mpr ⟨?_, ?_⟩
  · intro repeated
    rcases List.mem_map.mp repeated with ⟨endpoint, _, same⟩
    split at same
    · exact apart same
    · contradiction
  · apply List.Nodup.map_on ?_ nodup
    intro first firstListed second secondListed same
    by_cases one : first = chosen
    · by_cases other : second = chosen
      · rw [one, other]
      · rw [if_pos one, if_neg other] at same
        exact absurd secondListed (same ▸ absent)
    · by_cases other : second = chosen
      · rw [if_neg one, if_pos other] at same
        exact absurd firstListed (same ▸ absent)
      · rwa [if_neg one, if_neg other] at same

/-- Without duplicates there is one place to replace. -/
theorem replace_eq_map {chosen front : Endpoint} {endpoints : List Endpoint}
    (nodup : endpoints.Nodup) :
    endpoints.replace chosen front =
      endpoints.map fun endpoint => if endpoint = chosen then front else endpoint := by
  induction endpoints with
  | nil => rfl
  | cons first rest ih =>
      rcases List.nodup_cons.mp nodup with ⟨absent, nodup⟩
      by_cases same : first = chosen
      · have others : (rest.map fun endpoint => if endpoint = chosen then front else endpoint) =
            rest.map id := by
          apply List.map_congr_left
          intro endpoint listed
          apply if_neg
          intro again
          exact absent ((again.trans same.symm) ▸ listed)
        rw [List.map_cons, if_pos same, others, List.map_id, same, List.replace_cons_self]
      · have other : (chosen == first) = false := beq_false_of_ne (Ne.symm same)
        rw [List.replace_cons, other, List.map_cons, if_neg same, ih nodup]

theorem distinct_patch {promotion : Failover.Promotion} (distinct : Distinct promotion.read) :
    Distinct promotion.patch := by
  have listed : promotion.target.endpoint ∈ promotion.read.replicas.map ReplicaTarget.endpoint :=
    List.mem_map_of_mem promotion.listed
  have shape : endpoints promotion.patch =
      promotion.target.endpoint :: promotion.swapped promotion.read :=
    congrArg (promotion.target.endpoint :: ·) promotion.newReplicas_endpoints
  unfold Distinct
  rw [shape]
  unfold Failover.Promotion.swapped
  cases promotion.initiator with
  | watchdog => exact nodup_swap distinct listed
  | operator =>
      simp only [replace_eq_map (List.nodup_cons.mp distinct).2]
      exact nodup_swap distinct listed

/-! ## The steps of the store -/

/-- The record that a step of the store or of a failover puts in the place of the stored
one: an update that is persisted, or a promotion that finds the epoch it has read. -/
def installs (id : String) (control : Failover.Control) : Failover.Action -> Option FederatedBucket
  | .update patch _ persisted =>
      if persisted then (control.rows.get? id).map fun _ => patch else none
  | .promote failover _ persisted =>
      match control.inflight.get? failover, control.rows.get? id with
      | some promotion, some cur =>
          if persisted && decide (cur.failoverEpoch = promotion.read.failoverEpoch) then
            some promotion.patch
          else none
      | _, _ => none
  | _ => none

/-- The request behind an update has passed the uniqueness check. -/
def admitted : Failover.Action -> Bool
  | .update patch _ _ => uniqueTargets patch
  | _ => true

/-- What a step of the store or of a failover leaves stored: nothing, the endpoints it
installs, or the endpoints that were there. -/
theorem stored_cases {id : String} {control next : Failover.Control} {action : Failover.Action}
    (taken : Failover.step id control action = some next) :
    (next.rows.get? id = none ∧ (control.rows.get? id = none ∨ action = .delete true)) ∨
    Exists fun cur => Exists fun after => control.rows.get? id = some cur ∧
      next.rows.get? id = some after ∧
      ((Exists fun patch => installs id control action = some patch ∧
          endpoints after = endpoints patch) ∨
        endpoints after = endpoints cur) := by
  cases held : control.rows.get? id with
  | none =>
      refine Or.inl ⟨?_, Or.inl rfl⟩
      rcases Failover.step_cases taken with rfl | ⟨_, promotion, read, _⟩ |
        ⟨_, promotion, now, persisted, rfl, _, rfl⟩ | ⟨patch, now, persisted, rfl, rfl⟩ |
        ⟨endpoint, health, now, persisted, rfl, rfl⟩ | ⟨persisted, rfl, rfl⟩
      · exact held
      · cases held.symm.trans read
      · simp [Failover.Control.finish, Rows.promoteWithEpoch, held]
      · simp [Rows.update, held]
      · simp [Rows.updateReplicaHealth, held]
      · simp [Rows.delete, held]
  | some cur =>
      rcases Failover.step_cases taken with rfl | ⟨_, promotion, read, rfl⟩ |
        ⟨failover, promotion, now, persisted, rfl, reading, rfl⟩ | ⟨patch, now, persisted, rfl, rfl⟩ |
        ⟨endpoint, health, now, persisted, rfl, rfl⟩ | ⟨persisted, rfl, rfl⟩
      · exact Or.inr ⟨cur, cur, rfl, held, Or.inr rfl⟩
      · exact Or.inr ⟨cur, cur, rfl, held, Or.inr rfl⟩
      · by_cases current : cur.failoverEpoch = promotion.read.failoverEpoch
        · cases persisted with
          | true =>
              refine Or.inr ⟨cur,
                { cur.patched promotion.patch now with failoverEpoch := promotion.patch.failoverEpoch },
                rfl, ?_, Or.inl ⟨promotion.patch, ?_, rfl⟩⟩
              · simp [Failover.Control.finish, Rows.promoteWithEpoch, Rows.commit, held, current,
                  SortedStore.get?_put_self]
              · simp [installs, reading, held, current]
          | false =>
              exact Or.inr ⟨cur, cur, rfl, by simp [Failover.Control.finish, Rows.promoteWithEpoch,
                Rows.commit, held, current], Or.inr rfl⟩
        · exact Or.inr ⟨cur, cur, rfl,
            by simp [Failover.Control.finish, Rows.promoteWithEpoch, held, current], Or.inr rfl⟩
      · cases persisted with
        | true =>
            exact Or.inr ⟨cur, cur.patched patch now, rfl,
              by simp [Rows.update, Rows.commit, held, SortedStore.get?_put_self],
              Or.inl ⟨patch, by simp [installs, held], rfl⟩⟩
        | false => exact Or.inr ⟨cur, cur, rfl, by simp [Rows.update, Rows.commit, held], Or.inr rfl⟩
      · rcases Rows.updateReplicaHealth_cases control.rows id endpoint health now persisted with
          kept | ⟨found, replicas, present, same, written⟩
        · exact Or.inr ⟨cur, cur, rfl, by simp only [kept, held], Or.inr rfl⟩
        · cases Option.some.inj (held.symm.trans present)
          exact Or.inr ⟨cur, { cur with replicas := replicas, updatedAt := now }, rfl,
            by simp only [written, SortedStore.get?_put_self], Or.inr (by simp [endpoints, same])⟩
      · cases persisted with
        | true =>
            exact Or.inl ⟨by simp [Rows.delete, held, SortedStore.get?_erase], Or.inr rfl⟩
        | false => exact Or.inr ⟨cur, cur, rfl, by simp [Rows.delete, held], Or.inr rfl⟩

/-- A failover on its way was on its way before, or has just read the stored record. -/
theorem reads_cases {id : String} {control next : Failover.Control} {action : Failover.Action}
    (taken : Failover.step id control action = some next) {failover : Nat}
    {promotion : Failover.Promotion} (reading : next.inflight.get? failover = some promotion) :
    control.inflight.get? failover = some promotion ∨ control.rows.get? id = some promotion.read := by
  rcases Failover.step_cases taken with rfl | ⟨started, fresh, read, rfl⟩ |
    ⟨finished, _, now, persisted, rfl, _, rfl⟩ | ⟨_, _, _, rfl, rfl⟩ |
    ⟨_, _, _, _, rfl, rfl⟩ | ⟨_, rfl, rfl⟩
  · exact Or.inl reading
  · change (control.inflight.put started fresh).get? failover = _ at reading
    rw [SortedStore.get?_put] at reading
    split at reading
    · cases Option.some.inj reading
      exact Or.inr read
    · exact Or.inl reading
  · change (control.inflight.erase finished).get? failover = _ at reading
    exact Or.inl (SortedStore.get?_erase_eq_some.mp reading).2
  · exact Or.inl reading
  · exact Or.inl reading
  · exact Or.inl reading

/-- What is installed is an update's patch or that of a failover on its way. -/
theorem installs_cases {id : String} {control : Failover.Control} {action : Failover.Action}
    {patch : FederatedBucket} (installed : installs id control action = some patch) :
    (Exists fun now => Exists fun persisted => action = .update patch now persisted) ∨
      Exists fun failover => Exists fun promotion =>
        control.inflight.get? failover = some promotion ∧ patch = promotion.patch := by
  cases action with
  | update other now persisted =>
      simp only [installs] at installed
      split at installed
      · rcases Option.map_eq_some_iff.mp installed with ⟨_, _, rfl⟩
        exact Or.inl ⟨now, persisted, rfl⟩
      · cases installed
  | promote failover now persisted =>
      simp only [installs] at installed
      split at installed
      · rename_i promotion cur reading held
        split at installed
        · exact Or.inr ⟨failover, promotion, reading, (Option.some.inj installed).symm⟩
        · cases installed
      · cases installed
  | _ => cases installed

/-! ## The system -/

/-- A call of the worker on the buckets, beside the record stored at that moment. -/
structure Operation where
  source : Option Endpoint
  target : Option Endpoint
  stored : Option FederatedBucket
  deriving DecidableEq, Repr

/-- Where `handleEventTask` stands.  It keeps the record it has loaded. -/
inductive Worker where
  | idle
  | taken (task : EventTask)
  | loaded (task : EventTask) (fb : FederatedBucket)
  | streaming (task : EventTask) (fb : FederatedBucket)
  | putting (task : EventTask) (fb : FederatedBucket)
  deriving DecidableEq, Repr

/-- The task the worker holds. -/
def Worker.task : Worker -> Option EventTask
  | .idle => none
  | .taken task | .loaded task _ | .streaming task _ | .putting task _ => some task

/-- The record the worker has loaded. -/
def Worker.record : Worker -> Option FederatedBucket
  | .idle | .taken _ => none
  | .loaded _ fb | .streaming _ fb | .putting _ fb => some fb

/-- The record a copy reads its source from; a delete reads nothing. -/
def Worker.copying : Worker -> Option FederatedBucket
  | .idle | .taken _ => none
  | .loaded task fb => if task.isDelete then none else some fb
  | .streaming _ fb | .putting _ fb => some fb

/-- The store with its failovers, the tasks the dispatcher still has to send, the channel of
the federation and its worker. -/
structure Engine where
  control : Failover.Control
  arriving : List EventTask
  queue : List EventTask
  worker : Worker
  log : List Operation

/-- The tasks that have not been carried out. -/
def Engine.pending (engine : Engine) : List EventTask :=
  engine.arriving ++ (engine.queue ++ engine.worker.task.toList)

/-- One step of one of the actors. -/
inductive Action where
  | control (action : Failover.Action)
  | event (env : EventEnvelope) (running : Bool)
  | send
  | take
  | load
  | unresolved
  | delete
  | copyServerSide (succeeds : Bool)
  | skipServerSide
  | openStream (succeeds : Bool)
  | put
  deriving DecidableEq, Repr

/-- Call the drivers, and go on with the task or be done with it. -/
def Engine.perform (id : String) (engine : Engine) (source target : Option Endpoint)
    (worker : Worker) : Engine :=
  { engine with
    worker := worker
    log := engine.log ++ [⟨source, target, engine.control.rows.get? id⟩] }

/-- `handleWebhookEvent` up to the first send; `running` says that the loop of the federation
has a channel. -/
def Engine.receive (id : String) (engine : Engine) (env : EventEnvelope) (running : Bool) :
    Engine :=
  match engine.control.rows.get? id with
  | none => engine
  | some fb =>
      if running && concerns fb env then { engine with arriving := tasksFor id fb env } else engine

/-- The non-blocking send: a saturated channel drops the task. -/
def Engine.offer (engine : Engine) (task : EventTask) (rest : List EventTask) : Engine :=
  if engine.queue.length < Replication.eventTaskBuffer then
    { engine with arriving := rest, queue := engine.queue ++ [task] }
  else { engine with arriving := rest }

/-- The load at the start of `handleEventTask`. -/
def Engine.load (engine : Engine) (task : EventTask) : Engine :=
  match engine.control.rows.get? task.fbID with
  | none => { engine with worker := .idle }
  | some fb => { engine with worker := .loaded task fb }

/-- One step.  The dispatcher handles one envelope after the other. -/
def step (id : String) (engine : Engine) : Action -> Option Engine
  | .control action =>
      if admitted action then
        (Failover.step id engine.control action).map fun control => { engine with control := control }
      else none
  | .event env running =>
      if engine.arriving = [] then some (engine.receive id env running) else none
  | .send =>
      match engine.arriving with
      | [] => none
      | task :: rest => some (engine.offer task rest)
  | .take =>
      match engine.worker, engine.queue with
      | .idle, task :: rest => some { engine with queue := rest, worker := .taken task }
      | _, _ => none
  | .load =>
      match engine.worker with
      | .taken task => some (engine.load task)
      | _ => none
  | .unresolved =>
      match engine.worker with
      | .loaded _ _ => some { engine with worker := .idle }
      | _ => none
  | .delete =>
      match engine.worker with
      | .loaded task _ =>
          if task.isDelete then some (engine.perform id none (some task.target.endpoint) .idle)
          else none
      | _ => none
  | .copyServerSide succeeds =>
      match engine.worker with
      | .loaded task fb =>
          if task.isDelete then none
          else
            some (engine.perform id (some ⟨task.target.regionID, fb.primary.bucket⟩)
              (some task.target.endpoint) (if succeeds then .idle else .streaming task fb))
      | _ => none
  | .skipServerSide =>
      match engine.worker with
      | .loaded task fb =>
          if task.isDelete then none else some { engine with worker := .streaming task fb }
      | _ => none
  | .openStream succeeds =>
      match engine.worker with
      | .streaming task fb =>
          some (engine.perform id (some fb.primary.endpoint) none
            (if succeeds then .putting task fb else .idle))
      | _ => none
  | .put =>
      match engine.worker with
      | .putting task fb =>
          some (engine.perform id (some fb.primary.endpoint) (some task.target.endpoint) .idle)
      | _ => none

/-- A server that has just started.  The stored record came from the create handler. -/
def Engine.Fresh (id : String) (engine : Engine) : Prop :=
  engine.control.Fresh ∧
    (forall fb, engine.control.rows.get? id = some fb -> uniqueTargets fb = true) ∧
    engine.arriving = [] ∧ engine.queue = [] ∧ engine.worker = .idle ∧ engine.log = []

/-! ## What a step can do -/

/-- The worker stands where it stood, further on in its task, or has ended it. -/
structure Worker.Within (worker before : Worker) : Prop where
  record : forall fb, worker.record = some fb -> before.record = some fb
  copying : forall fb, worker.copying = some fb -> before.copying = some fb

theorem Worker.Within.idle (before : Worker) : Worker.idle.Within before :=
  ⟨fun _ impossible => (by cases impossible), fun _ impossible => (by cases impossible)⟩

theorem Worker.Within.refl (worker : Worker) : worker.Within worker :=
  ⟨fun _ same => same, fun _ same => same⟩

/-- The worker goes on with the record it copies by. -/
theorem Worker.Within.of_copying {worker before : Worker} {fb : FederatedBucket}
    (record : before.record = some fb) (copying : before.copying = some fb)
    (recordKept : worker.record = some fb) (copyingKept : worker.copying = some fb) :
    worker.Within before := by
  refine ⟨?_, ?_⟩
  · intro other same
    rw [record, ← recordKept, same]
  · intro other same
    rw [copying, ← copyingKept, same]

/-- The effects a step can have.  `perform` names the buckets an operation uses: the
target of the task, and the primary of the loaded record or, copying within the replica's
cluster, the bucket of its name there. -/
inductive Move (id : String) (engine : Engine) : Action -> Engine -> Prop where
  | control (own : Failover.Action) (control : Failover.Control) (allowed : admitted own = true)
      (taken : Failover.step id engine.control own = some control) :
      Move id engine (.control own) { engine with control := control }
  | receive (action : Action) (env : EventEnvelope) (fb : FederatedBucket)
      (stored : engine.control.rows.get? id = some fb) (empty : engine.arriving = []) :
      Move id engine action { engine with arriving := tasksFor id fb env }
  | proceed (action : Action) (next : Engine) (control : next.control = engine.control)
      (log : next.log = engine.log)
      (pending : forall task, task ∈ next.pending -> task ∈ engine.pending)
      (worker : next.worker.Within engine.worker) : Move id engine action next
  | load (action : Action) (task : EventTask) (fb : FederatedBucket)
      (taken : engine.worker = .taken task)
      (stored : engine.control.rows.get? task.fbID = some fb) :
      Move id engine action { engine with worker := .loaded task fb }
  | perform (action : Action) (task : EventTask) (fb : FederatedBucket)
      (source target : Option Endpoint) (worker : Worker)
      (held : engine.worker.task = some task) (record : engine.worker.record = some fb)
      (within : worker.Within engine.worker)
      (kept : forall other, worker.task = some other -> other = task)
      (writes : forall endpoint, target = some endpoint -> endpoint = task.target.endpoint)
      (reads : forall endpoint, source = some endpoint -> engine.worker.copying = some fb ∧
        (endpoint = fb.primary.endpoint ∨
          endpoint = ⟨task.target.regionID, fb.primary.bucket⟩ ∧ engine.worker = .loaded task fb ∧
            Exists fun succeeds => action = .copyServerSide succeeds)) :
      Move id engine action (engine.perform id source target worker)

theorem mem_pending {engine : Engine} {task : EventTask} :
    task ∈ engine.pending ↔
      task ∈ engine.arriving ∨ task ∈ engine.queue ∨ engine.worker.task = some task := by
  simp [Engine.pending]

/-- The worker gives its task up. -/
theorem Move.giveUp (id : String) (engine : Engine) (action : Action) :
    Move id engine action { engine with worker := .idle } := by
  refine .proceed _ _ rfl rfl ?_ (Worker.Within.idle _)
  intro other listed
  rcases mem_pending.mp listed with arrived | queued | held
  · exact mem_pending.mpr (Or.inl arrived)
  · exact mem_pending.mpr (Or.inr (Or.inl queued))
  · cases held

/-- The worker stays where it is, and no task is new. -/
theorem Move.sent {id : String} {engine next : Engine} {action : Action}
    (control : next.control = engine.control) (log : next.log = engine.log)
    (worker : next.worker = engine.worker)
    (pending : forall task, task ∈ next.pending -> task ∈ engine.pending) :
    Move id engine action next := by
  refine .proceed _ _ control log pending ?_
  rw [worker]
  exact Worker.Within.refl _

/-- A call of a copy, after which the copy goes on or is over. -/
theorem Move.copies {id : String} {engine : Engine} {action : Action} {task : EventTask}
    {fb : FederatedBucket} {source target : Option Endpoint} {worker : Worker}
    (held : engine.worker.task = some task) (record : engine.worker.record = some fb)
    (copying : engine.worker.copying = some fb)
    (after : worker = .idle ∨ worker = .streaming task fb ∨ worker = .putting task fb)
    (writes : forall endpoint, target = some endpoint -> endpoint = task.target.endpoint)
    (reads : forall endpoint, source = some endpoint -> endpoint = fb.primary.endpoint ∨
      endpoint = ⟨task.target.regionID, fb.primary.bucket⟩ ∧ engine.worker = .loaded task fb ∧
        Exists fun succeeds => action = .copyServerSide succeeds) :
    Move id engine action (engine.perform id source target worker) := by
  refine .perform _ task fb _ _ _ held record ?_ ?_ writes
    fun endpoint same => ⟨copying, reads endpoint same⟩
  · rcases after with rfl | rfl | rfl
    · exact Worker.Within.idle _
    · exact Worker.Within.of_copying record copying rfl rfl
    · exact Worker.Within.of_copying record copying rfl rfl
  · intro other same
    rcases after with rfl | rfl | rfl
    · cases same
    · exact (Option.some.inj same).symm
    · exact (Option.some.inj same).symm

/-- Every step has one of these effects. -/
theorem step_moves {id : String} {engine next : Engine} {action : Action}
    (taken : step id engine action = some next) : Move id engine action next := by
  cases action with
  | control own =>
      simp only [step] at taken
      split at taken
      · rename_i allowed
        rcases Option.map_eq_some_iff.mp taken with ⟨control, stepped, rfl⟩
        exact .control own control allowed stepped
      · cases taken
  | event env running =>
      simp only [step] at taken
      split at taken
      · rename_i empty
        cases Option.some.inj taken
        unfold Engine.receive
        split
        · exact .sent rfl rfl rfl fun _ listed => listed
        · rename_i fb stored
          split
          · exact .receive _ env fb stored empty
          · exact .sent rfl rfl rfl fun _ listed => listed
      · cases taken
  | send =>
      simp only [step] at taken
      split at taken
      · cases taken
      · rename_i task rest arrived
        cases Option.some.inj taken
        unfold Engine.offer
        split
        · refine .sent rfl rfl rfl ?_
          intro other listed
          simp only [mem_pending, arrived, List.mem_append, List.mem_cons] at listed ⊢
          tauto
        · refine .sent rfl rfl rfl ?_
          intro other listed
          simp only [mem_pending, arrived, List.mem_cons] at listed ⊢
          tauto
  | take =>
      simp only [step] at taken
      split at taken
      · rename_i task rest idle queued
        cases Option.some.inj taken
        refine .proceed _ _ rfl rfl ?_
          ⟨fun _ impossible => (by cases impossible), fun _ impossible => (by cases impossible)⟩
        intro other listed
        simp only [mem_pending, queued, Worker.task, List.mem_cons] at listed ⊢
        rcases listed with arrived | later | same
        · exact Or.inl arrived
        · exact Or.inr (Or.inl (Or.inr later))
        · exact Or.inr (Or.inl (Or.inl (Option.some.inj same).symm))
      · cases taken
  | load =>
      simp only [step] at taken
      split at taken
      · rename_i task held
        cases Option.some.inj taken
        unfold Engine.load
        split
        · exact .giveUp _ _ _
        · rename_i fb stored
          exact .load _ task fb held stored
      · cases taken
  | unresolved =>
      simp only [step] at taken
      split at taken
      · cases Option.some.inj taken
        exact .giveUp _ _ _
      · cases taken
  | delete =>
      simp only [step] at taken
      split at taken
      · rename_i task fb held
        split at taken
        · cases Option.some.inj taken
          exact .perform _ task fb none _ .idle (by rw [held]; rfl) (by rw [held]; rfl)
            (Worker.Within.idle _) (fun _ impossible => by cases impossible)
            (fun _ same => (Option.some.inj same).symm) (fun _ impossible => by cases impossible)
        · cases taken
      · cases taken
  | copyServerSide succeeds =>
      simp only [step] at taken
      split at taken
      · rename_i task fb held
        split at taken
        · cases taken
        · rename_i put
          cases Option.some.inj taken
          have copying : engine.worker.copying = some fb := by
            rw [held]
            exact if_neg put
          refine .copies (by rw [held]; rfl) (by rw [held]; rfl) copying ?_
            (fun _ same => (Option.some.inj same).symm) ?_
          · split
            · exact Or.inl rfl
            · exact Or.inr (Or.inl rfl)
          · intro endpoint same
            exact Or.inr ⟨(Option.some.inj same).symm, held, succeeds, rfl⟩
      · cases taken
  | skipServerSide =>
      simp only [step] at taken
      split at taken
      · rename_i task fb held
        split at taken
        · cases taken
        · rename_i put
          cases Option.some.inj taken
          have copies : engine.worker.copying = some fb := by
            rw [held]
            exact if_neg put
          refine .proceed _ _ rfl rfl ?_
            (Worker.Within.of_copying (by rw [held]; rfl) copies rfl rfl)
          intro other listed
          simpa only [mem_pending, Worker.task, held] using listed
      · cases taken
  | openStream succeeds =>
      simp only [step] at taken
      split at taken
      · rename_i task fb held
        cases Option.some.inj taken
        refine .copies (by rw [held]; rfl) (by rw [held]; rfl) (by rw [held]; rfl) ?_
          (fun _ impossible => by cases impossible)
          (fun _ same => Or.inl (Option.some.inj same).symm)
        split
        · exact Or.inr (Or.inr rfl)
        · exact Or.inl rfl
      · cases taken
  | put =>
      simp only [step] at taken
      split at taken
      · rename_i task fb held
        cases Option.some.inj taken
        exact .copies (by rw [held]; rfl) (by rw [held]; rfl) (by rw [held]; rfl) (Or.inl rfl)
          (fun _ same => (Option.some.inj same).symm)
          (fun _ same => Or.inl (Option.some.inj same).symm)
      · cases taken

/-! ## The property, and when it holds -/

/-- The bucket of the record's primary, in the cluster behind its region. -/
def AtPrimary (cluster : String -> String) (fb : FederatedBucket) (endpoint : Endpoint) : Prop :=
  cluster endpoint.regionID = cluster fb.primary.regionID ∧ endpoint.bucket = fb.primary.bucket

/-- The operation writes to or deletes from a bucket that is stored as a replica and not as
the primary, and reads from the bucket that is stored as the primary. -/
def Operation.Rightful (cluster : String -> String) (operation : Operation) : Prop :=
  Exists fun fb => operation.stored = some fb ∧
    (forall endpoint, operation.source = some endpoint -> AtPrimary cluster fb endpoint) ∧
    forall endpoint, operation.target = some endpoint ->
      endpoint ∈ fb.replicas.map ReplicaTarget.endpoint ∧ endpoint ≠ fb.primary.endpoint

/-- The copy on its way, if there is one, reads from the primary of the new record. -/
def KeepsPrimary (patch : FederatedBucket) : Option FederatedBucket -> Prop
  | none => True
  | some fb => patch.primary.endpoint = fb.primary.endpoint

/-- A new record, if there is one, lists the target of every task that is not carried out,
and has the primary that a copy on its way reads from. -/
def Spared (engine : Engine) : Option FederatedBucket -> Prop
  | none => True
  | some patch =>
      (forall task, task ∈ engine.pending ->
        task.target.endpoint ∈ patch.replicas.map ReplicaTarget.endpoint) ∧
      KeepsPrimary patch engine.worker.copying

/-- The task at hand and the primary are in one cluster. -/
def SharesCluster (cluster : String -> String) : Worker -> Prop
  | .loaded task fb => cluster task.target.regionID = cluster fb.primary.regionID
  | _ => True

/-- The steps that keep the tasks valid: a promotion or an update spares the tasks, no
deletion hits a task that is being executed, and a copy is left to the replica's cluster
only if the primary is in that cluster. -/
def Spares (id : String) (cluster : String -> String) (engine : Engine) : Action -> Prop
  | .control action =>
      (action = .delete true -> engine.worker.record = none) ∧
        Spared engine (installs id engine.control action)
  | .copyServerSide _ => SharesCluster cluster engine.worker
  | _ => True

instance (patch : FederatedBucket) : forall record, Decidable (KeepsPrimary patch record)
  | none => .isTrue trivial
  | some fb => inferInstanceAs (Decidable (patch.primary.endpoint = fb.primary.endpoint))

instance (engine : Engine) : forall patch, Decidable (Spared engine patch)
  | none => .isTrue trivial
  | some _ => inferInstanceAs (Decidable (_ ∧ _))

instance (cluster : String -> String) : forall worker, Decidable (SharesCluster cluster worker)
  | .loaded _ _ => inferInstanceAs (Decidable (_ = _))
  | .idle | .taken _ | .streaming _ _ | .putting _ _ => .isTrue trivial

instance (id : String) (cluster : String -> String) (engine : Engine) :
    forall action, Decidable (Spares id cluster engine action)
  | .control _ => inferInstanceAs (Decidable (_ ∧ _))
  | .copyServerSide _ => inferInstanceAs (Decidable (SharesCluster cluster engine.worker))
  | .event _ _ | .send | .take | .load | .unresolved | .delete | .skipServerSide | .openStream _
  | .put => .isTrue trivial

/-! ## The invariant -/

/-- Every task that is not carried out is aimed at a stored replica, and what the worker
has loaded agrees with what is stored. -/
structure Inv (id : String) (cluster : String -> String) (engine : Engine) : Prop where
  stored : forall fb, engine.control.rows.get? id = some fb -> Distinct fb
  reads : forall failover promotion, engine.control.inflight.get? failover = some promotion ->
    Distinct promotion.read
  pending : forall task, task ∈ engine.pending -> task.fbID = id ∧
    forall fb, engine.control.rows.get? id = some fb ->
      task.target.endpoint ∈ fb.replicas.map ReplicaTarget.endpoint
  record : forall fb, engine.worker.record = some fb -> engine.control.rows.get? id ≠ none
  copying : forall fb cur, engine.worker.copying = some fb ->
    engine.control.rows.get? id = some cur -> fb.primary.endpoint = cur.primary.endpoint
  log : forall operation, operation ∈ engine.log -> operation.Rightful cluster

theorem endpoints_primary {first second : FederatedBucket} (same : endpoints first = endpoints second) :
    first.primary.endpoint = second.primary.endpoint := (List.cons.inj same).1

theorem endpoints_replicas {first second : FederatedBucket} (same : endpoints first = endpoints second) :
    first.replicas.map ReplicaTarget.endpoint = second.replicas.map ReplicaTarget.endpoint :=
  (List.cons.inj same).2

variable {id : String} {cluster : String -> String} {engine next : Engine} {action : Action}

/-- What is installed has distinct targets. -/
theorem Inv.distinct_installed (invariant : Inv id cluster engine) {own : Failover.Action}
    {patch : FederatedBucket} (allowed : admitted own = true)
    (installed : installs id engine.control own = some patch) : Distinct patch := by
  rcases installs_cases installed with ⟨now, persisted, rfl⟩ | ⟨failover, promotion, reading, rfl⟩
  · exact distinct_of_uniqueTargets allowed
  · exact distinct_patch (invariant.reads failover promotion reading)

/-- The record after a step that spares the tasks. -/
theorem Inv.stored_after (invariant : Inv id cluster engine) {own : Failover.Action}
    {control : Failover.Control} {after : FederatedBucket} (allowed : admitted own = true)
    (taken : Failover.step id engine.control own = some control)
    (spares : Spares id cluster engine (.control own))
    (present : control.rows.get? id = some after) :
    Distinct after ∧
      (forall task, task ∈ engine.pending ->
        task.target.endpoint ∈ after.replicas.map ReplicaTarget.endpoint) ∧
      forall fb, engine.worker.copying = some fb ->
        fb.primary.endpoint = after.primary.endpoint := by
  rcases stored_cases taken with ⟨gone, _⟩ | ⟨cur, found, before, held, changed⟩
  · cases gone.symm.trans present
  · cases Option.some.inj (held.symm.trans present)
    rcases changed with ⟨patch, installed, same⟩ | same
    · have spared := spares.2
      rw [installed] at spared
      refine ⟨(invariant.distinct_installed allowed installed).of_endpoints same, ?_, ?_⟩
      · intro task listed
        rw [endpoints_replicas same]
        exact spared.1 task listed
      · intro fb copies
        have primary := spared.2
        rw [copies] at primary
        exact primary.symm.trans (endpoints_primary same).symm
    · refine ⟨(invariant.stored cur before).of_endpoints same, ?_, ?_⟩
      · intro task listed
        rw [endpoints_replicas same]
        exact (invariant.pending task listed).2 cur before
      · intro fb copies
        exact (invariant.copying fb cur copies before).trans (endpoints_primary same).symm

theorem Inv.control (invariant : Inv id cluster engine) {own : Failover.Action}
    {control : Failover.Control} (allowed : admitted own = true)
    (taken : Failover.step id engine.control own = some control)
    (spares : Spares id cluster engine (.control own)) :
    Inv id cluster { engine with control := control } := by
  have after : forall fb, control.rows.get? id = some fb -> _ := fun fb =>
    invariant.stored_after allowed taken spares
  refine ⟨fun fb present => (after fb present).1, ?_, ?_, ?_, ?_, invariant.log⟩
  · intro failover promotion reading
    rcases reads_cases taken reading with before | read
    · exact invariant.reads failover promotion before
    · exact invariant.stored promotion.read read
  · exact fun task listed => ⟨(invariant.pending task listed).1,
      fun fb present => (after fb present).2.1 task listed⟩
  · intro fb record
    rcases stored_cases taken with ⟨_, absent | deleted⟩ | ⟨_, kept, _, present, _⟩
    · exact absurd absent (invariant.record fb record)
    · cases (spares.1 deleted).symm.trans record
    · exact fun absent => by cases present.symm.trans absent
  · exact fun fb cur copies present => (after cur present).2.2 fb copies

theorem Inv.perform (invariant : Inv id cluster engine) {task : EventTask} {fb : FederatedBucket}
    {source target : Option Endpoint} {worker : Worker}
    (held : engine.worker.task = some task) (record : engine.worker.record = some fb)
    (within : worker.Within engine.worker)
    (kept : forall other, worker.task = some other -> other = task)
    (writes : forall endpoint, target = some endpoint -> endpoint = task.target.endpoint)
    (reads : forall endpoint, source = some endpoint ->
      engine.worker.copying = some fb ∧ AtPrimary cluster fb endpoint) :
    Inv id cluster (engine.perform id source target worker) := by
  have waits : task ∈ engine.pending := mem_pending.mpr (Or.inr (Or.inr held))
  refine ⟨invariant.stored, invariant.reads, ?_, ?_, ?_, ?_⟩
  · intro other listed
    rcases mem_pending.mp listed with arrived | queued | same
    · exact invariant.pending other (mem_pending.mpr (Or.inl arrived))
    · exact invariant.pending other (mem_pending.mpr (Or.inr (Or.inl queued)))
    · cases kept other same
      exact invariant.pending task waits
  · exact fun other same => invariant.record other (within.record other same)
  · exact fun other cur same => invariant.copying other cur (within.copying other same)
  · intro operation listed
    rcases List.mem_append.mp listed with earlier | last
    · exact invariant.log operation earlier
    · rw [List.mem_singleton.mp last]
      rcases Option.ne_none_iff_exists'.mp (invariant.record fb record) with ⟨cur, present⟩
      refine ⟨cur, present, ?_, ?_⟩
      · intro endpoint same
        rcases reads endpoint same with ⟨copies, region, bucket⟩
        have primary := invariant.copying fb cur copies present
        refine ⟨region.trans ?_, bucket.trans ?_⟩
        · exact congrArg (fun endpoint => cluster endpoint.regionID) primary
        · exact congrArg Endpoint.bucket primary
      · intro endpoint same
        have replica := (invariant.pending task waits).2 cur present
        rw [writes endpoint same]
        exact ⟨replica, (invariant.stored cur present).ne_primary replica⟩

theorem Inv.step (invariant : Inv id cluster engine) (spares : Spares id cluster engine action)
    (taken : step id engine action = some next) : Inv id cluster next := by
  cases step_moves taken with
  | control own control allowed stepped => exact invariant.control allowed stepped spares
  | receive _ env fb stored empty =>
      refine ⟨invariant.stored, invariant.reads, ?_, invariant.record, invariant.copying, invariant.log⟩
      intro task listed
      rcases mem_pending.mp listed with arrived | queued | held
      · rcases List.mem_map.mp arrived with ⟨replica, replicated, rfl⟩
        refine ⟨rfl, ?_⟩
        intro cur present
        cases Option.some.inj (stored.symm.trans present)
        exact List.mem_map_of_mem replicated
      · exact invariant.pending task (mem_pending.mpr (Or.inr (Or.inl queued)))
      · exact invariant.pending task (mem_pending.mpr (Or.inr (Or.inr held)))
  | proceed _ _ control log pending worker =>
      refine ⟨?_, ?_, ?_, ?_, ?_, ?_⟩
      · rw [control]
        exact invariant.stored
      · rw [control]
        exact invariant.reads
      · rw [control]
        exact fun task listed => invariant.pending task (pending task listed)
      · rw [control]
        exact fun fb record => invariant.record fb (worker.record fb record)
      · rw [control]
        exact fun fb cur copies => invariant.copying fb cur (worker.copying fb copies)
      · rw [log]
        exact invariant.log
  | load _ task fb held stored =>
      have waits := invariant.pending task (mem_pending.mpr (Or.inr (Or.inr (by rw [held]; rfl))))
      rw [waits.1] at stored
      refine ⟨invariant.stored, invariant.reads, ?_, ?_, ?_, invariant.log⟩
      · intro other listed
        rcases mem_pending.mp listed with arrived | queued | same
        · exact invariant.pending other (mem_pending.mpr (Or.inl arrived))
        · exact invariant.pending other (mem_pending.mpr (Or.inr (Or.inl queued)))
        · cases Option.some.inj same
          exact waits
      · exact fun _ _ absent => by cases stored.symm.trans absent
      · intro other cur copies present
        cases Option.some.inj (stored.symm.trans present)
        change (if task.isDelete then none else some fb) = some other at copies
        split at copies
        · cases copies
        · cases Option.some.inj copies
          rfl
  | perform _ task fb source target worker held record within kept writes reads =>
      refine invariant.perform held record within kept writes ?_
      intro endpoint same
      rcases reads endpoint same with ⟨copies, rfl | ⟨rfl, loaded, succeeds, rfl⟩⟩
      · exact ⟨copies, rfl, rfl⟩
      · have shared : SharesCluster cluster engine.worker := spares
        rw [loaded] at shared
        exact ⟨copies, shared, rfl⟩

/-- Event tasks act on replicas only.  In every run whose steps spare the tasks, each
operation of an event task writes to or deletes from a bucket that is stored as a replica,
and not as the primary, at that moment, and reads from the bucket that is the primary then. -/
theorem event_tasks_stay_on_replicas (id : String) (cluster : String -> String)
    {start final : Engine} {actions : List Action} (fresh : start.Fresh id)
    (spares : Meets (step id) (Spares id cluster) start actions)
    (run : exec (step id) start actions = some final) :
    forall operation, operation ∈ final.log -> operation.Rightful cluster := by
  rcases fresh with ⟨control, unique, arriving, queue, worker, log⟩
  have nothing : start.pending = [] := by
    simp [Engine.pending, arriving, queue, worker, Worker.task]
  have initially : Inv id cluster start := by
    refine ⟨fun fb stored => distinct_of_uniqueTargets (unique fb stored), ?_, ?_, ?_, ?_, ?_⟩
    · intro failover promotion reading
      rw [control.1] at reading
      cases reading
    · intro task listed
      rw [nothing] at listed
      cases listed
    · intro fb record
      rw [worker] at record
      cases record
    · intro fb cur copies
      rw [worker] at copies
      cases copies
    · intro operation listed
      rw [log] at listed
      cases listed
  exact (exec_invariant_of_meets
    (fun _ _ _ invariant spared taken => invariant.step spared taken) initially spares run).log

/-- A server with the sample federation stored. -/
def sampleEngine : Engine := ⟨Failover.sampleControl 0, [], [], .idle, []⟩

theorem sampleEngine_fresh : sampleEngine.Fresh "fed" := by
  refine ⟨⟨rfl, rfl⟩, ?_, rfl, rfl, rfl, rfl⟩
  intro fb stored
  cases Option.some.inj stored
  decide

/-- Every region is a cluster of its own. -/
def ownCluster (region : String) : String := region

/-- Something happened to an object of the sample federation's primary. -/
def sampleEvent (type : Webhooks.EventType) : EventEnvelope :=
  { id := "event", type := type, occurredAt := 1, regionID := "eu", bucket := "a", key := "cat.jpg" }

/-- The operator renames the federation while an object is streamed, and then fails over. -/
def replicateAndRename : List Action :=
  [.event (sampleEvent .objectCreated) true, .send, .take, .load,
    .control (.update { Failover.sampleFederation 0 with name := "pictures" } 2 true),
    .skipServerSide, .openStream true, .put,
    .control (.operatorRead 0 ⟨"us", "b"⟩ 3), .control (.promote 0 4 true)]

theorem event_tasks_stay_on_replicas_rename : Exists fun final =>
    exec (step "fed") sampleEngine replicateAndRename = some final ∧ final.log.length = 2 ∧
    forall operation, operation ∈ final.log -> operation.Rightful ownCluster := by
  have spares : Meets (step "fed") (Spares "fed" ownCluster) sampleEngine replicateAndRename := by decide
  exact ⟨_, rfl, rfl, event_tasks_stay_on_replicas "fed" ownCluster sampleEngine_fresh spares rfl⟩

/-- An object is deleted and the federation fails over before the worker gets to the task. -/
def failoverBeforeDelete : List Action :=
  [.event (sampleEvent .objectDeleted) true, .send, .control (.operatorRead 0 ⟨"us", "b"⟩ 2),
    .control (.promote 0 3 true), .take, .load, .delete]

/-- The delete then hits the new primary. -/
theorem queued_delete_hits_promoted_replica :
    ¬ forall (start final : Engine) (actions : List Action), start.Fresh "fed" ->
      exec (step "fed") start actions = some final ->
        forall operation, operation ∈ final.log -> operation.Rightful ownCluster := by
  intro stated
  rcases stated sampleEngine _ failoverBeforeDelete sampleEngine_fresh rfl _ List.mem_cons_self with
    ⟨fb, stored, _, writes⟩
  cases Option.some.inj stored
  exact (writes ⟨"us", "b"⟩ rfl).2 rfl

end EventRuns
end Federation
end Basement
