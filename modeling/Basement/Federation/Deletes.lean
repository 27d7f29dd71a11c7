import Basement.Federation.PollingPass

namespace Basement
namespace Federation
namespace Deletes

open Library Transition
open Replication (World EventTask PassMove JobMove eventTaskBuffer)

/-!
# Deletions on the way to the replicas

A polling pass only adds to a replica.  What takes an object away is the event of its
deletion: one task per replica, sent without waiting into the one channel of the
federation, and carried out once by its one worker.

Here a federation with any number of replicas is a list of lanes.  A lane is the world of
one replica, as `Replication` steps it; the users' writes and the clock move all lanes
alike.  The channel and the dispatcher's sends are shared.  The fleet remembers the keys
whose last operation on the primary was a delete, and those of them whose delete an event
has announced.  No step looks at these two lists.
-/

variable {contentOf : String -> Body}

/-! ## The system -/

/-- A task, and the number of the lane it is for. -/
abbrev Addressed := Nat × EventTask

structure Fleet (contentOf : String -> Body) where
  lanes : List (World contentOf)
  arriving : List Addressed
  queue : List Addressed
  deleted : List String
  announced : List String

/-- The steps of the users, of the dispatcher, of the worker that takes a task, and of one
lane. -/
inductive Action (contentOf : String -> Body) where
  | tick (elapsed : Nat)
  | userPut (key : String) (version : Version contentOf)
  | userDelete (key : String)
  | announce (key : String) (isDelete : Bool)
  | send
  | takeTask (ok : Bool)
  | dropTask
  | lane (index : Nat) (action : Replication.Action contentOf)

/-- The steps that concern one replica and not the channel: a pass, a task at work, and the
late effects of calls that failed. -/
def ownAction : Replication.Action contentOf -> Bool
  | .loadRecord | .pass _ | .job _ | .strayLands _ _ | .leakedReads _ => true
  | _ => false

/-- A step that every lane takes. -/
def Fleet.everywhere (fleet : Fleet contentOf) (action : Replication.Action contentOf) :
    Fleet contentOf :=
  { fleet with lanes := fleet.lanes.map fun lane => (Replication.step lane action).getD lane }

/-- `handleWebhookEvent` up to the first send: a task for every replica, with its row. -/
def Fleet.announce (fleet : Fleet contentOf) (key : String) (isDelete : Bool) :
    Fleet contentOf :=
  { fleet with
    arriving := fleet.lanes.zipIdx.map fun lane => (lane.2, ⟨lane.1.record, key, isDelete⟩)
    announced :=
      if isDelete = true ∧ key ∈ fleet.deleted then key :: fleet.announced else fleet.announced }

/-- The non-blocking send: a saturated channel drops the task. -/
def Fleet.offer (fleet : Fleet contentOf) (task : Addressed) (rest : List Addressed) :
    Fleet contentOf :=
  if fleet.queue.length < eventTaskBuffer then
    { fleet with arriving := rest, queue := fleet.queue ++ [task] }
  else { fleet with arriving := rest }

def Fleet.idle (fleet : Fleet contentOf) : Bool :=
  fleet.lanes.all fun lane => lane.worker.isNone

/-- The worker receives a task in the lane it is for. -/
def Fleet.hand (fleet : Fleet contentOf) (task : Addressed) (rest : List Addressed)
    (action : Replication.Action contentOf) : Option (Fleet contentOf) :=
  match fleet.lanes[task.1]? with
  | none => none
  | some lane =>
      (Replication.step { lane with queue := [task.2] } action).map fun next =>
        { fleet with lanes := fleet.lanes.set task.1 next, queue := rest }

/-- One step.  The worker takes a task when it has none in any lane. -/
def step (fleet : Fleet contentOf) : Action contentOf -> Option (Fleet contentOf)
  | .tick elapsed => some (fleet.everywhere (.tick elapsed))
  | .userPut key version =>
      some { fleet.everywhere (.userPut key version) with
        deleted := fleet.deleted.filter (· ≠ key)
        announced := fleet.announced.filter (· ≠ key) }
  | .userDelete key =>
      some { fleet.everywhere (.userDelete key) with
        deleted := key :: fleet.deleted
        announced := fleet.announced.filter (· ≠ key) }
  | .announce key isDelete =>
      if fleet.arriving = [] then some (fleet.announce key isDelete) else none
  | .send =>
      match fleet.arriving with
      | [] => none
      | task :: rest => some (fleet.offer task rest)
  | .takeTask ok =>
      match fleet.queue with
      | [] => none
      | task :: rest => if fleet.idle then fleet.hand task rest (.takeTask ok) else none
  | .dropTask =>
      match fleet.queue with
      | [] => none
      | task :: rest => if fleet.idle then fleet.hand task rest .dropTask else none
  | .lane index action =>
      match fleet.lanes[index]? with
      | none => none
      | some lane =>
          if ownAction action then
            (Replication.step lane action).map fun next =>
              { fleet with lanes := fleet.lanes.set index next }
          else none

/-- The ways the fleet moves on.  A task that the channel has room for is queued, and the
worker hands a task it receives to the lane it is for. -/
inductive Move (fleet : Fleet contentOf) : Action contentOf -> Fleet contentOf -> Prop where
  | waited (elapsed : Nat) : Move fleet (.tick elapsed) (fleet.everywhere (.tick elapsed))
  | userPut (key : String) (version : Version contentOf) :
      Move fleet (.userPut key version)
        { fleet.everywhere (.userPut key version) with
          deleted := fleet.deleted.filter (· ≠ key)
          announced := fleet.announced.filter (· ≠ key) }
  | userDeleted (key : String) :
      Move fleet (.userDelete key)
        { fleet.everywhere (.userDelete key) with
          deleted := key :: fleet.deleted
          announced := fleet.announced.filter (· ≠ key) }
  | announced (key : String) (isDelete : Bool) (empty : fleet.arriving = []) :
      Move fleet (.announce key isDelete) (fleet.announce key isDelete)
  | queued (task : Addressed) (rest : List Addressed) (arrived : fleet.arriving = task :: rest)
      (room : fleet.queue.length < eventTaskBuffer) :
      Move fleet .send { fleet with arriving := rest, queue := fleet.queue ++ [task] }
  | overflowed (task : Addressed) (rest : List Addressed)
      (arrived : fleet.arriving = task :: rest) (full : ¬ fleet.queue.length < eventTaskBuffer) :
      Move fleet .send { fleet with arriving := rest }
  | taken (ok : Bool) (task : Addressed) (rest : List Addressed) (lane next : World contentOf)
      (queued : fleet.queue = task :: rest) (idle : fleet.idle = true)
      (found : fleet.lanes[task.1]? = some lane)
      (stepped : Replication.step { lane with queue := [task.2] } (.takeTask ok) = some next) :
      Move fleet (.takeTask ok)
        { fleet with lanes := fleet.lanes.set task.1 next, queue := rest }
  | dropped (task : Addressed) (rest : List Addressed) (lane next : World contentOf)
      (queued : fleet.queue = task :: rest) (idle : fleet.idle = true)
      (found : fleet.lanes[task.1]? = some lane)
      (stepped : Replication.step { lane with queue := [task.2] } .dropTask = some next) :
      Move fleet .dropTask { fleet with lanes := fleet.lanes.set task.1 next, queue := rest }
  | moved (index : Nat) (action : Replication.Action contentOf) (lane next : World contentOf)
      (found : fleet.lanes[index]? = some lane) (own : ownAction action = true)
      (stepped : Replication.step lane action = some next) :
      Move fleet (.lane index action) { fleet with lanes := fleet.lanes.set index next }

theorem hand_split {fleet next : Fleet contentOf} {task : Addressed} {rest : List Addressed}
    {action : Replication.Action contentOf} (taken : fleet.hand task rest action = some next) :
    Exists fun lane => Exists fun changed => fleet.lanes[task.1]? = some lane ∧
      Replication.step { lane with queue := [task.2] } action = some changed ∧
      next = { fleet with lanes := fleet.lanes.set task.1 changed, queue := rest } := by
  unfold Fleet.hand at taken
  split at taken
  · cases taken
  · rename_i lane found
    rcases Option.map_eq_some_iff.mp taken with ⟨changed, stepped, rfl⟩
    exact ⟨lane, changed, found, stepped, rfl⟩

/-- The steps of the fleet are these moves and no others. -/
theorem step_moves {fleet next : Fleet contentOf} {action : Action contentOf}
    (taken : step fleet action = some next) : Move fleet action next := by
  cases action with
  | tick elapsed =>
      cases Option.some.inj taken
      exact .waited elapsed
  | userPut key version =>
      cases Option.some.inj taken
      exact .userPut key version
  | userDelete key =>
      cases Option.some.inj taken
      exact .userDeleted key
  | announce key isDelete =>
      simp only [step] at taken
      split at taken
      · rename_i empty
        cases Option.some.inj taken
        exact .announced key isDelete empty
      · cases taken
  | send =>
      simp only [step] at taken
      split at taken
      · cases taken
      · rename_i task rest arrived
        cases Option.some.inj taken
        unfold Fleet.offer
        split
        · rename_i room
          exact .queued task rest arrived room
        · rename_i full
          exact .overflowed task rest arrived full
  | takeTask ok =>
      simp only [step] at taken
      split at taken
      · cases taken
      · rename_i task rest queued
        split at taken
        · rename_i idle
          rcases hand_split taken with ⟨lane, changed, found, stepped, rfl⟩
          exact .taken ok task rest lane changed queued idle found stepped
        · cases taken
  | dropTask =>
      simp only [step] at taken
      split at taken
      · cases taken
      · rename_i task rest queued
        split at taken
        · rename_i idle
          rcases hand_split taken with ⟨lane, changed, found, stepped, rfl⟩
          exact .dropped task rest lane changed queued idle found stepped
        · cases taken
  | lane index action =>
      simp only [step] at taken
      split at taken
      · cases taken
      · rename_i lane found
        split at taken
        · rename_i own
          rcases Option.map_eq_some_iff.mp taken with ⟨changed, stepped, rfl⟩
          exact .moved index action lane changed found own stepped
        · cases taken

/-! ## One lane -/

/-- The worker is about to delete the key in this lane. -/
def deleting (lane : World contentOf) (key : String) : Bool :=
  match lane.worker with
  | some (.deleting task) => task.singleKey == key
  | _ => false

/-- The key under which a step makes a copy land on the replica. -/
def landing (lane : World contentOf) : Replication.Action contentOf -> Option String
  | .pass (.putLands index _) =>
      match lane.poller with
      | some ⟨_, .copying batch, _⟩ => batch.flights[index]?.map fun flight => flight.entry.key
      | _ => none
  | .job (.putLands _) =>
      match lane.worker with
      | some (.putting task _) => some task.singleKey
      | _ => none
  | .strayLands index (some _) => lane.strays[index]?.map fun stray => stray.key
  | _ => none

theorem get?_setReplica (lane : World contentOf) (key other : String)
    (object : Option (Object contentOf)) :
    (lane.setReplica key object).replica.get? other =
      if other = key then object else lane.replica.get? other :=
  SortedStore.get?_set _ _ _ _

/-- A pass touches the replica only where one of its copies lands, and never the worker. -/
theorem passMove_replica {lane next : World contentOf} {pass : Replication.Pass contentOf}
    {action : Replication.PassAction contentOf} (running : lane.poller = some pass)
    (moved : PassMove lane pass action next) (key : String) :
    next.worker = lane.worker ∧
      (next.replica.get? key = lane.replica.get? key ∨ landing lane (.pass action) = some key) := by
  cases moved with
  | landed batch index flight object stage flying body =>
      refine ⟨rfl, ?_⟩
      change (lane.replica.put flight.entry.key object).get? key = _ ∨ _
      rw [SortedStore.get?_put]
      split
      · rename_i same
        refine Or.inr ?_
        rcases pass with ⟨snap, stage', written⟩
        cases stage
        simp only [landing, running, flying, Option.map_some, same]
      · exact Or.inl rfl
  | _ => exact ⟨rfl, Or.inl rfl⟩

/-- What the worker does to a replica: a copy lands, or the key is deleted. -/
theorem jobMove_replica {lane next : World contentOf} {job : Replication.Job}
    {action : Replication.JobAction contentOf} (working : lane.worker = some job)
    (moved : JobMove lane job action next) (key : String) :
    (next.replica.get? key = lane.replica.get? key ∨ next.replica.get? key = none ∨
        landing lane (.job action) = some key) ∧
      (deleting lane key = true -> next.replica.get? key = none ∨ action = .callFails) := by
  cases moved with
  | landed task body object same =>
      refine ⟨?_, ?_⟩
      · change (lane.setReplica task.singleKey (some object)).replica.get? key = _ ∨ _
        rw [get?_setReplica]
        split
        · rename_i found
          exact Or.inr (Or.inr (by simp only [landing, working, found]))
        · exact Or.inl rfl
      · intro busy
        simp [deleting, working] at busy
  | deleted task =>
      have after : (lane.setReplica task.singleKey none).replica.get? key =
          if key = task.singleKey then none else lane.replica.get? key := get?_setReplica _ _ _ _
      refine ⟨?_, ?_⟩
      · change (lane.setReplica task.singleKey none).replica.get? key = _ ∨
          (lane.setReplica task.singleKey none).replica.get? key = none ∨ _
        rw [after]
        split
        · exact Or.inr (Or.inl rfl)
        · exact Or.inl rfl
      · intro busy
        simp only [deleting, working, beq_iff_eq] at busy
        exact Or.inl (after.trans (if_pos busy.symm))
  | deleteFailed task => exact ⟨Or.inl rfl, fun _ => Or.inr rfl⟩
  | _ => exact ⟨Or.inl rfl, fun busy => by simp [deleting, working] at busy⟩

/-- What a step of one lane can do to a key of its replica. -/
theorem lane_replica {lane next : World contentOf} {action : Replication.Action contentOf}
    (own : ownAction action = true) (taken : Replication.step lane action = some next)
    (key : String) :
    (next.replica.get? key = lane.replica.get? key ∨ next.replica.get? key = none ∨
        landing lane action = some key) ∧
      (deleting lane key = true -> deleting next key = true ∨ next.replica.get? key = none ∨
        action = .job .callFails) := by
  cases Replication.step_moves taken with
  | passed pass action next running moved =>
      rcases passMove_replica running moved key with ⟨worker, replica⟩
      refine ⟨?_, ?_⟩
      · rcases replica with same | landed
        · exact Or.inl same
        · exact Or.inr (Or.inr landed)
      · intro busy
        refine Or.inl ?_
        unfold deleting
        rw [worker]
        exact busy
  | worked job action next working moved =>
      rcases jobMove_replica working moved key with ⟨replica, busy⟩
      refine ⟨replica, ?_⟩
      intro before
      rcases busy before with gone | rfl
      · exact Or.inr (Or.inl gone)
      · exact Or.inr (Or.inr rfl)
  | strayed index stray object found body =>
      refine ⟨?_, fun busy => Or.inl busy⟩
      rw [get?_setReplica]
      split
      · rename_i same
        cases object with
        | none => exact Or.inr (Or.inl rfl)
        | some object =>
            exact Or.inr (Or.inr (by simp only [landing, found, Option.map_some, same]))
      · exact Or.inl rfl
  | loaded _ => exact ⟨Or.inl rfl, fun busy => Or.inl busy⟩
  | leakGone _ _ _ _ => exact ⟨Or.inl rfl, fun busy => Or.inl busy⟩
  | leakRead _ _ _ _ _ => exact ⟨Or.inl rfl, fun busy => Or.inl busy⟩
  | _ => cases own

/-! ## Deletes that wait -/

/-- The task deletes the key. -/
def deletes (key : String) (task : EventTask) : Bool := task.isDelete && task.singleKey == key

/-- A delete of the key is among the tasks for the lane. -/
def waiting (tasks : List Addressed) (index : Nat) (key : String) : Bool :=
  tasks.any fun task => task.1 == index && deletes key task.2

theorem waiting_iff {tasks : List Addressed} {index : Nat} {key : String} :
    waiting tasks index key = true ↔
      Exists fun task => (index, task) ∈ tasks ∧ deletes key task = true := by
  unfold waiting
  rw [List.any_eq_true]
  constructor
  · rintro ⟨⟨lane, task⟩, listed, found⟩
    rcases Bool.and_eq_true_iff.mp found with ⟨same, removes⟩
    cases beq_iff_eq.mp same
    exact ⟨task, listed, removes⟩
  · rintro ⟨task, listed, removes⟩
    exact ⟨(index, task), listed, Bool.and_eq_true_iff.mpr ⟨beq_iff_eq.mpr rfl, removes⟩⟩

theorem waiting_mono {tasks others : List Addressed} {index : Nat} {key : String}
    (sub : forall task, task ∈ tasks -> task ∈ others)
    (waits : waiting tasks index key = true) : waiting others index key = true := by
  rcases waiting_iff.mp waits with ⟨task, listed, removes⟩
  exact waiting_iff.mpr ⟨task, sub _ listed, removes⟩

/-- Tasks without the first one: what waits is left, or the first one was it. -/
theorem waiting_of_cons {task : Addressed} {rest : List Addressed} {index : Nat} {key : String}
    (waits : waiting (task :: rest) index key = true) :
    waiting rest index key = true ∨ (task.1 = index ∧ deletes key task.2 = true) := by
  rcases waiting_iff.mp waits with ⟨found, listed, removes⟩
  rcases List.mem_cons.mp listed with same | later
  · exact Or.inr ⟨same ▸ rfl, same ▸ removes⟩
  · exact Or.inl (waiting_iff.mpr ⟨found, later, removes⟩)

def Fleet.lacks (fleet : Fleet contentOf) (index : Nat) (key : String) : Bool :=
  match fleet.lanes[index]? with
  | none => true
  | some lane => (lane.replica.get? key).isNone

def Fleet.busy (fleet : Fleet contentOf) (index : Nat) (key : String) : Bool :=
  match fleet.lanes[index]? with
  | none => false
  | some lane => deleting lane key

/-- The tasks that nobody has taken. -/
def Fleet.pending (fleet : Fleet contentOf) : List Addressed := fleet.arriving ++ fleet.queue

/-! ## The condition -/

/-- The loss of a task does no harm: it is no delete of the key, another delete of the key is
left or at work, or the replica does not hold the key. -/
def Fleet.spare (fleet : Fleet contentOf) (key : String) (task : Addressed)
    (left : List Addressed) : Bool :=
  !deletes key task.2 || waiting left task.1 key || fleet.busy task.1 key ||
    fleet.lacks task.1 key

def callFails : Replication.Action contentOf -> Bool
  | .job .callFails => true
  | _ => false

/-- No step loses the last delete of the key that waits for a replica, whether for want of
room, because the task is given up, or because the call fails; and a copy of the key lands
only where a delete of the key still waits. -/
def delivers (key : String) (fleet : Fleet contentOf) : Action contentOf -> Bool
  | .send =>
      match fleet.arriving with
      | [] => true
      | task :: rest =>
          decide (fleet.queue.length < eventTaskBuffer) || fleet.spare key task (rest ++ fleet.queue)
  | .takeTask ok =>
      match fleet.queue with
      | [] => true
      | task :: rest => ok || fleet.spare key task (fleet.arriving ++ rest)
  | .dropTask =>
      match fleet.queue with
      | [] => true
      | task :: rest => fleet.spare key task (fleet.arriving ++ rest)
  | .lane index action =>
      match fleet.lanes[index]? with
      | none => true
      | some lane =>
          (!(callFails action && deleting lane key) || waiting fleet.pending index key ||
              (lane.replica.get? key).isNone) &&
            (!decide (landing lane action = some key) || waiting fleet.pending index key ||
              deleting lane key)
  | _ => true

/-- The condition on one step, for a key whose delete is the last operation and announced. -/
def Delivers (key : String) (fleet : Fleet contentOf) (action : Action contentOf) : Prop :=
  key ∈ fleet.announced -> delivers key fleet action = true

instance (key : String) (fleet : Fleet contentOf) (action : Action contentOf) :
    Decidable (Delivers key fleet action) :=
  inferInstanceAs (Decidable (_ -> _))

/-! ## The invariant -/

/-- A replica holds a key whose announced delete is the last operation only as long as a
delete of the key waits for it or is at work. -/
def Owed (key : String) (fleet : Fleet contentOf) : Prop :=
  key ∈ fleet.announced -> forall index, fleet.lacks index key = true ∨
    waiting fleet.pending index key = true ∨ fleet.busy index key = true

variable {fleet next : Fleet contentOf} {key : String}

/-- A step of all lanes that leaves replicas and workers alone. -/
theorem everywhere_same {action : Replication.Action contentOf}
    (same : forall lane : World contentOf,
      ((Replication.step lane action).getD lane).replica = lane.replica ∧
        ((Replication.step lane action).getD lane).worker = lane.worker) (index : Nat) :
    (fleet.everywhere action).lacks index key = fleet.lacks index key ∧
      (fleet.everywhere action).busy index key = fleet.busy index key := by
  unfold Fleet.lacks Fleet.busy Fleet.everywhere
  rw [List.getElem?_map]
  cases fleet.lanes[index]? with
  | none => exact ⟨rfl, rfl⟩
  | some lane => simp only [Option.map_some, deleting, same lane, and_self]

theorem Owed.everywhere (owed : Owed key fleet) {action : Replication.Action contentOf}
    (same : forall lane : World contentOf,
      ((Replication.step lane action).getD lane).replica = lane.replica ∧
        ((Replication.step lane action).getD lane).worker = lane.worker)
    {deleted announced : List String} (fewer : key ∈ announced -> key ∈ fleet.announced) :
    Owed key { fleet.everywhere action with deleted := deleted, announced := announced } := by
  intro listed index
  have unchanged : (fleet.everywhere action).lacks index key = fleet.lacks index key ∧
      (fleet.everywhere action).busy index key = fleet.busy index key := everywhere_same same index
  rcases unchanged with ⟨lacks, busy⟩
  have before := owed (fewer listed) index
  rw [← lacks, ← busy] at before
  exact before

theorem Owed.announce (owed : Owed key fleet) (other : String) (isDelete : Bool)
    (empty : fleet.arriving = []) : Owed key (fleet.announce other isDelete) := by
  intro listed index
  by_cases already : key ∈ fleet.announced
  · rcases owed already index with gone | waits | busy
    · exact Or.inl gone
    · refine Or.inr (Or.inl (waiting_mono ?_ waits))
      intro task member
      unfold Fleet.pending at member
      rw [empty, List.nil_append] at member
      exact List.mem_append.mpr (Or.inr member)
    · exact Or.inr (Or.inr busy)
  · cases found : fleet.lanes[index]? with
    | none => exact Or.inl (by simp only [Fleet.lacks, Fleet.announce, found])
    | some lane =>
        refine Or.inr (Or.inl (waiting_iff.mpr ⟨⟨lane.record, other, isDelete⟩, ?_, ?_⟩))
        · refine List.mem_append.mpr (Or.inl (List.mem_map.mpr ⟨(lane, index), ?_, rfl⟩))
          exact List.mem_zipIdx_iff_getElem?.mpr found
        · unfold Fleet.announce at listed
          simp only at listed
          split at listed
          · rename_i announces
            rcases List.mem_cons.mp listed with same | before
            · simp [deletes, announces.1, same]
            · exact absurd before already
          · exact absurd listed already

/-- The loss of a task that does no harm. -/
theorem Owed.lose (owed : Owed key fleet) {task : Addressed} {left : List Addressed}
    (listed : key ∈ fleet.announced)
    (others : forall index, waiting fleet.pending index key = true ->
      waiting left index key = true ∨ (task.1 = index ∧ deletes key task.2 = true))
    (spare : fleet.spare key task left = true) (index : Nat) :
    fleet.lacks index key = true ∨ waiting left index key = true ∨ fleet.busy index key = true := by
  rcases owed listed index with gone | waits | busy
  · exact Or.inl gone
  · rcases others index waits with still | ⟨rfl, removes⟩
    · exact Or.inr (Or.inl still)
    · simp only [Fleet.spare, removes, Bool.not_true, Bool.false_or, Bool.or_eq_true] at spare
      rcases spare with (still | busy) | gone
      · exact Or.inr (Or.inl still)
      · exact Or.inr (Or.inr busy)
      · exact Or.inl gone
  · exact Or.inr (Or.inr busy)

theorem Owed.queue (owed : Owed key fleet) {task : Addressed} {rest : List Addressed}
    (arrived : fleet.arriving = task :: rest) :
    Owed key { fleet with arriving := rest, queue := fleet.queue ++ [task] } := by
  intro listed index
  rcases owed listed index with gone | waits | busy
  · exact Or.inl gone
  · refine Or.inr (Or.inl (waiting_mono ?_ waits))
    intro other member
    simp only [Fleet.pending, arrived, List.mem_append, List.mem_cons, List.not_mem_nil] at member ⊢
    tauto
  · exact Or.inr (Or.inr busy)

theorem Owed.overflow (owed : Owed key fleet) {task : Addressed} {rest : List Addressed}
    (arrived : fleet.arriving = task :: rest)
    (spare : key ∈ fleet.announced -> fleet.spare key task (rest ++ fleet.queue) = true) :
    Owed key { fleet with arriving := rest } := by
  intro listed index
  refine owed.lose listed ?_ (spare listed) index
  intro other waits
  unfold Fleet.pending at waits
  rw [arrived, List.cons_append] at waits
  exact waiting_of_cons waits

/-- No task is at work in an idle fleet. -/
theorem busy_of_idle (idle : fleet.idle = true) (index : Nat) : fleet.busy index key = false := by
  unfold Fleet.busy
  cases found : fleet.lanes[index]? with
  | none => rfl
  | some lane =>
      have free := List.all_eq_true.mp idle lane (List.mem_of_getElem? found)
      simp only [deleting, Option.isNone_iff_eq_none.mp free]

/-- The lanes after a change of one of them that keeps its replica. -/
theorem lacks_set {lane changed : World contentOf} {index : Nat}
    (found : fleet.lanes[index]? = some lane) (same : changed.replica = lane.replica)
    {queue : List Addressed} (other : Nat) :
    ({ fleet with lanes := fleet.lanes.set index changed, queue := queue } : Fleet contentOf).lacks
      other key = fleet.lacks other key := by
  unfold Fleet.lacks
  simp only [List.getElem?_set]
  by_cases here : index = other
  · subst here
    have inside : index < fleet.lanes.length := (List.getElem?_eq_some_iff.mp found).1
    simp only [if_true, inside, found, same]
  · simp only [if_neg here]

theorem pending_of_queue {task : Addressed} {rest : List Addressed}
    (queued : fleet.queue = task :: rest) (index : Nat)
    (waits : waiting fleet.pending index key = true) :
    waiting (fleet.arriving ++ rest) index key = true ∨
      (task.1 = index ∧ deletes key task.2 = true) := by
  apply waiting_of_cons
  refine waiting_mono ?_ waits
  intro other member
  simp only [Fleet.pending, queued, List.mem_append, List.mem_cons] at member ⊢
  tauto

/-- A task leaves the channel and is not worked on. -/
theorem Owed.giveUp (owed : Owed key fleet) {task : Addressed} {rest : List Addressed}
    {lane changed : World contentOf} (queued : fleet.queue = task :: rest)
    (idle : fleet.idle = true) (found : fleet.lanes[task.1]? = some lane)
    (same : changed.replica = lane.replica)
    (spare : key ∈ fleet.announced -> fleet.spare key task (fleet.arriving ++ rest) = true) :
    Owed key { fleet with lanes := fleet.lanes.set task.1 changed, queue := rest } := by
  intro listed index
  rw [lacks_set found same]
  rcases owed.lose listed (pending_of_queue queued) (spare listed) index with gone | waits | busy
  · exact Or.inl gone
  · exact Or.inr (Or.inl waits)
  · cases (busy_of_idle idle index).symm.trans busy

/-- A task leaves the channel and is worked on. -/
theorem Owed.takeUp (owed : Owed key fleet) {task : Addressed} {rest : List Addressed}
    {lane changed : World contentOf} (queued : fleet.queue = task :: rest)
    (idle : fleet.idle = true) (found : fleet.lanes[task.1]? = some lane)
    (same : changed.replica = lane.replica)
    (works : deletes key task.2 = true -> deleting changed key = true) :
    Owed key { fleet with lanes := fleet.lanes.set task.1 changed, queue := rest } := by
  intro listed index
  rw [lacks_set found same]
  rcases owed listed index with gone | waits | busy
  · exact Or.inl gone
  · rcases pending_of_queue queued index waits with still | ⟨rfl, removes⟩
    · exact Or.inr (Or.inl still)
    · refine Or.inr (Or.inr ?_)
      have inside : task.1 < fleet.lanes.length := (List.getElem?_eq_some_iff.mp found).1
      simp only [Fleet.busy, List.getElem?_set_self inside]
      exact works removes
  · cases (busy_of_idle idle index).symm.trans busy

theorem Owed.take (owed : Owed key fleet) {task : Addressed} {rest : List Addressed} {ok : Bool}
    {lane changed : World contentOf} (queued : fleet.queue = task :: rest)
    (idle : fleet.idle = true) (found : fleet.lanes[task.1]? = some lane)
    (spare : key ∈ fleet.announced -> ok = true ∨
      fleet.spare key task (fleet.arriving ++ rest) = true)
    (stepped : Replication.step { lane with queue := [task.2] } (.takeTask ok) = some changed) :
    Owed key { fleet with lanes := fleet.lanes.set task.1 changed, queue := rest } := by
  cases Replication.step_moves stepped with
  | unresolved other others waits free =>
      exact owed.giveUp queued idle found rfl fun listed => (spare listed).resolve_left nofun
  | taken other others waits free =>
      cases waits
      refine owed.takeUp queued idle found rfl ?_
      intro removes
      rcases Bool.and_eq_true_iff.mp removes with ⟨isDelete, same⟩
      simp only [deleting, isDelete, if_true]
      exact same

theorem Owed.drop (owed : Owed key fleet) {task : Addressed} {rest : List Addressed}
    {lane changed : World contentOf} (queued : fleet.queue = task :: rest)
    (idle : fleet.idle = true) (found : fleet.lanes[task.1]? = some lane)
    (spare : key ∈ fleet.announced -> fleet.spare key task (fleet.arriving ++ rest) = true)
    (stepped : Replication.step { lane with queue := [task.2] } .dropTask = some changed) :
    Owed key { fleet with lanes := fleet.lanes.set task.1 changed, queue := rest } := by
  cases Replication.step_moves stepped with
  | dropped other others waits free => exact owed.giveUp queued idle found rfl spare

theorem landing_of_callFails {lane : World contentOf} {action : Replication.Action contentOf}
    (fails : callFails action = true) : landing lane action = none := by
  unfold callFails at fails
  split at fails
  · rfl
  · cases fails

/-- A step of a lane, seen from its own key. -/
theorem lane_owed {lane changed : World contentOf} {action : Replication.Action contentOf}
    {waits : Bool} (own : ownAction action = true)
    (taken : Replication.step lane action = some changed)
    (kept : callFails action = true -> deleting lane key = true ->
      waits = true ∨ lane.replica.get? key = none)
    (lands : landing lane action = some key -> waits = true ∨ deleting lane key = true)
    (before : lane.replica.get? key = none ∨ waits = true ∨ deleting lane key = true) :
    changed.replica.get? key = none ∨ waits = true ∨ deleting changed key = true := by
  rcases lane_replica own taken key with ⟨replica, busy⟩
  have fromBusy : deleting lane key = true ->
      changed.replica.get? key = none ∨ waits = true ∨ deleting changed key = true := by
    intro works
    rcases busy works with still | gone | rfl
    · exact Or.inr (Or.inr still)
    · exact Or.inl gone
    · rcases kept rfl works with left | lacks
      · exact Or.inr (Or.inl left)
      · rcases replica with same | gone | landed
        · exact Or.inl (same.trans lacks)
        · exact Or.inl gone
        · have silent : landing lane (.job .callFails) = none := landing_of_callFails rfl
          cases silent.symm.trans landed
  rcases before with lacks | left | works
  · rcases replica with same | gone | landed
    · exact Or.inl (same.trans lacks)
    · exact Or.inl gone
    · rcases lands landed with left | works
      · exact Or.inr (Or.inl left)
      · exact fromBusy works
  · exact Or.inr (Or.inl left)
  · exact fromBusy works

theorem Owed.lane (owed : Owed key fleet) {lane changed : World contentOf} {index : Nat}
    {action : Replication.Action contentOf} (found : fleet.lanes[index]? = some lane)
    (own : ownAction action = true) (taken : Replication.step lane action = some changed)
    (meets : Delivers key fleet (.lane index action)) :
    Owed key { fleet with lanes := fleet.lanes.set index changed } := by
  intro listed other
  have before := owed listed other
  by_cases here : index = other
  · subst here
    have inside : index < fleet.lanes.length := (List.getElem?_eq_some_iff.mp found).1
    have condition := meets listed
    simp only [delivers, found, Bool.and_eq_true, Bool.or_eq_true, Bool.not_eq_true',
      Bool.and_eq_false_iff, decide_eq_false_iff_not, Option.isNone_iff_eq_none] at condition
    simp only [Fleet.lacks, Fleet.busy, found, Option.isNone_iff_eq_none] at before
    simp only [Fleet.lacks, Fleet.busy, List.getElem?_set_self inside, Option.isNone_iff_eq_none]
    refine lane_owed own taken ?_ ?_ before
    · intro fails works
      rcases condition.1 with ((calm | calm) | waits) | gone
      · cases calm.symm.trans fails
      · cases calm.symm.trans works
      · exact Or.inl waits
      · exact Or.inr gone
    · intro landed
      rcases condition.2 with (elsewhere | waits) | works
      · exact absurd landed elsewhere
      · exact Or.inl waits
      · exact Or.inr works
  · simp only [Fleet.lacks, Fleet.busy, List.getElem?_set_ne here] at before ⊢
    exact before

theorem Owed.step {action : Action contentOf} (owed : Owed key fleet)
    (meets : Delivers key fleet action) (taken : step fleet action = some next) :
    Owed key next := by
  cases step_moves taken with
  | waited elapsed => exact owed.everywhere (fun _ => ⟨rfl, rfl⟩) fun listed => listed
  | userPut other version =>
      exact owed.everywhere (fun _ => ⟨rfl, rfl⟩) fun listed => (List.mem_filter.mp listed).1
  | userDeleted other =>
      exact owed.everywhere (fun _ => ⟨rfl, rfl⟩) fun listed => (List.mem_filter.mp listed).1
  | announced other isDelete empty => exact owed.announce other isDelete empty
  | queued task rest arrived room => exact owed.queue arrived
  | overflowed task rest arrived full =>
      refine owed.overflow arrived ?_
      intro listed
      have condition := meets listed
      simp only [delivers, arrived, Bool.or_eq_true, decide_eq_true_eq] at condition
      exact condition.resolve_left full
  | taken ok task rest lane changed queued idle found stepped =>
      refine owed.take queued idle found ?_ stepped
      intro listed
      simpa only [delivers, queued, Bool.or_eq_true] using meets listed
  | dropped task rest lane changed queued idle found stepped =>
      refine owed.drop queued idle found ?_ stepped
      intro listed
      simpa only [delivers, queued] using meets listed
  | moved index action lane changed found own stepped =>
      exact owed.lane found own stepped meets

/-! ## The lanes replicate one primary -/

/-- All lanes have the same primary and the same clock. -/
def OnePrimary (fleet : Fleet contentOf) : Prop :=
  forall lane other, lane ∈ fleet.lanes -> other ∈ fleet.lanes ->
    lane.primary = other.primary ∧ lane.clock = other.clock

theorem passMove_primary {lane changed : World contentOf} {pass : Replication.Pass contentOf}
    {action : Replication.PassAction contentOf} (moved : PassMove lane pass action changed) :
    changed.primary = lane.primary ∧ changed.clock = lane.clock := by
  cases moved <;> exact ⟨rfl, rfl⟩

theorem jobMove_primary {lane changed : World contentOf} {job : Replication.Job}
    {action : Replication.JobAction contentOf} (moved : JobMove lane job action changed) :
    changed.primary = lane.primary ∧ changed.clock = lane.clock := by
  cases moved <;> exact ⟨rfl, rfl⟩

/-- Neither a lane's own step nor a task handed to it touches the primary. -/
theorem lane_primary {lane changed : World contentOf} {action : Replication.Action contentOf}
    (apart : ownAction action = true ∨ (Exists fun ok => action = .takeTask ok) ∨
      action = .dropTask)
    (taken : Replication.step lane action = some changed) :
    changed.primary = lane.primary ∧ changed.clock = lane.clock := by
  cases Replication.step_moves taken with
  | passed pass action changed running moved => exact passMove_primary moved
  | worked job action changed working moved => exact jobMove_primary moved
  | waited _ => rcases apart with own | ⟨_, other⟩ | other <;> contradiction
  | userPut _ _ => rcases apart with own | ⟨_, other⟩ | other <;> contradiction
  | userDeleted _ => rcases apart with own | ⟨_, other⟩ | other <;> contradiction
  | _ => exact ⟨rfl, rfl⟩

theorem OnePrimary.set (shared : OnePrimary fleet) {lane changed : World contentOf} {index : Nat}
    (found : fleet.lanes[index]? = some lane)
    (same : changed.primary = lane.primary ∧ changed.clock = lane.clock)
    {queue : List Addressed} :
    OnePrimary { fleet with lanes := fleet.lanes.set index changed, queue := queue } := by
  have among : forall other, other ∈ fleet.lanes.set index changed ->
      Exists fun before => before ∈ fleet.lanes ∧ other.primary = before.primary ∧
        other.clock = before.clock := by
    intro other listed
    rcases List.mem_or_eq_of_mem_set listed with kept | rfl
    · exact ⟨other, kept, rfl, rfl⟩
    · exact ⟨lane, List.mem_of_getElem? found, same⟩
  intro first second firstListed secondListed
  rcases among first firstListed with ⟨one, oneListed, onePrimary, oneClock⟩
  rcases among second secondListed with ⟨two, twoListed, twoPrimary, twoClock⟩
  have before := shared one two oneListed twoListed
  exact ⟨onePrimary.trans (before.1.trans twoPrimary.symm),
    oneClock.trans (before.2.trans twoClock.symm)⟩

theorem OnePrimary.everywhere (shared : OnePrimary fleet) {action : Replication.Action contentOf}
    (alike : forall lane other : World contentOf, lane.primary = other.primary ->
      lane.clock = other.clock ->
        ((Replication.step lane action).getD lane).primary =
            ((Replication.step other action).getD other).primary ∧
          ((Replication.step lane action).getD lane).clock =
            ((Replication.step other action).getD other).clock) :
    OnePrimary (fleet.everywhere action) := by
  intro first second firstListed secondListed
  rcases List.mem_map.mp firstListed with ⟨one, oneListed, rfl⟩
  rcases List.mem_map.mp secondListed with ⟨two, twoListed, rfl⟩
  have before := shared one two oneListed twoListed
  exact alike one two before.1 before.2

theorem OnePrimary.step {action : Action contentOf} (shared : OnePrimary fleet)
    (taken : step fleet action = some next) : OnePrimary next := by
  cases step_moves taken with
  | waited elapsed =>
      exact shared.everywhere fun _ _ primary clock => ⟨primary, congrArg (· + _) clock⟩
  | userPut key version =>
      refine OnePrimary.everywhere shared ?_
      intro lane other primary clock
      refine ⟨?_, clock⟩
      change lane.primary.set key (some ⟨version, wholeSecond lane.clock⟩) =
        other.primary.set key (some ⟨version, wholeSecond other.clock⟩)
      rw [primary, clock]
  | userDeleted key =>
      refine OnePrimary.everywhere shared ?_
      intro lane other primary clock
      refine ⟨?_, clock⟩
      change lane.primary.set key none = other.primary.set key none
      rw [primary]
  | announced _ _ _ => exact shared
  | queued _ _ _ _ => exact shared
  | overflowed _ _ _ _ => exact shared
  | taken ok task rest lane changed queued idle found stepped =>
      have same := lane_primary (Or.inr (Or.inl ⟨ok, rfl⟩)) stepped
      exact shared.set found same
  | dropped task rest lane changed queued idle found stepped =>
      have same := lane_primary (Or.inr (Or.inr rfl)) stepped
      exact shared.set found same
  | moved index action lane changed found own stepped =>
      exact shared.set found (lane_primary (Or.inl own) stepped)

/-- In every run all replicas are replicas of the same primary. -/
theorem lanes_share_primary {start final : Fleet contentOf} {actions : List (Action contentOf)}
    (shared : OnePrimary start) (run : exec step start actions = some final) :
    OnePrimary final :=
  exec_invariant (fun _ _ _ held taken => OnePrimary.step held taken) shared run

/-! ## The theorem -/

/-- The step is an operation on the key in the primary. -/
def operates (key : String) : Action contentOf -> Bool
  | .userPut other _ | .userDelete other => other == key
  | _ => false

/-- The last operation on the key in the primary was a delete, and an event announced it. -/
def LastDeleteAnnounced (key : String) (actions : List (Action contentOf)) : Prop :=
  Exists fun before => Exists fun middle => Exists fun after =>
    actions = before ++ (.userDelete key :: (middle ++ (.announce key true :: after))) ∧
      (forall action, action ∈ middle -> operates key action = false) ∧
      forall action, action ∈ after -> operates key action = false

/-- No task of an event is left. -/
def Fleet.Drained (fleet : Fleet contentOf) : Prop :=
  fleet.arriving = [] ∧ fleet.queue = [] ∧ forall lane, lane ∈ fleet.lanes -> lane.worker = none

/-- A server that has just started: no event is on its way, and all lanes replicate the same
primary. -/
structure Fleet.Fresh (fleet : Fleet contentOf) : Prop where
  arriving : fleet.arriving = []
  queue : fleet.queue = []
  announced : fleet.announced = []
  workers : forall lane, lane ∈ fleet.lanes -> lane.worker = none ∧ lane.queue = []
  primary : OnePrimary fleet

/-- A step that is no operation on the key changes neither of the two lists at the key,
except that an event can announce its delete. -/
theorem remembered {action : Action contentOf} (other : operates key action = false)
    (taken : step fleet action = some next) :
    (key ∈ fleet.deleted -> key ∈ next.deleted) ∧
      (key ∈ fleet.announced -> key ∈ next.announced) ∧
      (action = .announce key true -> key ∈ fleet.deleted -> key ∈ next.announced) := by
  have kept : forall second : String, (second == key) = false -> forall keys : List String,
      key ∈ keys -> key ∈ keys.filter (· ≠ second) := by
    intro second differs keys listed
    refine List.mem_filter.mpr ⟨listed, ?_⟩
    simpa using fun same : key = second => absurd (beq_iff_eq.mpr same.symm) (by simp [differs])
  cases step_moves taken with
  | userPut second version => exact ⟨kept second other _, kept second other _, nofun⟩
  | userDeleted second =>
      exact ⟨fun listed => List.mem_cons_of_mem _ listed, kept second other _, nofun⟩
  | announced second isDelete empty =>
      refine ⟨fun listed => listed, ?_, ?_⟩
      · intro listed
        unfold Fleet.announce
        simp only
        split
        · exact List.mem_cons_of_mem _ listed
        · exact listed
      · intro same listed
        cases same
        unfold Fleet.announce
        simp only [listed, and_self, if_true]
        exact List.mem_cons_self
  | _ => exact ⟨fun listed => listed, fun listed => listed, nofun⟩

/-- What no operation on the key ends, holds at the end of a run without one. -/
theorem exec_remembered (invariant : Fleet contentOf -> Prop)
    (preserved : forall fleet action next, operates key action = false -> invariant fleet ->
      step fleet action = some next -> invariant next)
    {start final : Fleet contentOf} {actions : List (Action contentOf)}
    (others : forall action, action ∈ actions -> operates key action = false)
    (initially : invariant start) (run : exec step start actions = some final) :
    invariant final :=
  exec_invariant_of_meets
    (fun _ _ _ held allowed taken => preserved _ _ _ allowed.2 held taken) initially
    (meets_and (meets_true actions start) others) run

/-- The fleet remembers the announced delete of a key. -/
theorem announced_of_lastDeleteAnnounced {start final : Fleet contentOf}
    {actions : List (Action contentOf)} (last : LastDeleteAnnounced key actions)
    (run : exec step start actions = some final) : key ∈ final.announced := by
  rcases last with ⟨before, middle, after, rfl, middleOthers, afterOthers⟩
  rcases (exec_append before _).mp run with ⟨atDelete, _, deleteRun⟩
  rcases exec_cons.mp deleteRun with ⟨deleted, deleteTaken, middleRun⟩
  rcases (exec_append middle _).mp middleRun with ⟨atEvent, waited, eventRun⟩
  rcases exec_cons.mp eventRun with ⟨announced, eventTaken, afterRun⟩
  have first : key ∈ deleted.deleted := by
    cases Option.some.inj deleteTaken
    exact List.mem_cons_self
  have second : key ∈ atEvent.deleted :=
    exec_remembered (fun fleet => key ∈ fleet.deleted)
      (fun _ _ _ other held taken => (remembered other taken).1 held) middleOthers first waited
  have third : key ∈ announced.announced := (remembered rfl eventTaken).2.2 rfl second
  exact exec_remembered (fun fleet => key ∈ fleet.announced)
    (fun _ _ _ other held taken => (remembered other taken).2.1 held) afterOthers third afterRun

/-- Deletes converge, unless a task is lost or a copy comes late.  In every run whose steps
deliver the deletes of the key, in every state in which no task is left, no replica holds the
key if its last operation on the primary was a delete that an event announced. -/
theorem deletes_converge (key : String) {start final : Fleet contentOf}
    {actions : List (Action contentOf)} (fresh : start.Fresh)
    (meets : Meets step (Delivers key) start actions)
    (run : exec step start actions = some final) (last : LastDeleteAnnounced key actions)
    (drained : final.Drained) :
    forall lane, lane ∈ final.lanes -> lane.replica.get? key = none := by
  have initially : Owed key start := by
    intro listed
    rw [fresh.announced] at listed
    cases listed
  have owed : Owed key final := exec_invariant_of_meets
    (fun _ _ _ held allowed taken => held.step allowed taken) initially meets run
  intro lane listed
  rcases List.getElem?_of_mem listed with ⟨index, found⟩
  rcases owed (announced_of_lastDeleteAnnounced last run) index with gone | waits | busy
  · simpa only [Fleet.lacks, found, Option.isNone_iff_eq_none] using gone
  · rcases waiting_iff.mp waits with ⟨task, pending, _⟩
    simp [Fleet.pending, drained.1, drained.2.1] at pending
  · simp [Fleet.busy, found, deleting, drained.2.2 lane listed] at busy

/-- A lane with one photo on both sides. -/
def sampleLane : World tagBody :=
  { Replication.samplePass with
    poller := none
    primary := SortedStore.empty.put "cat" ⟨sampleVersion "e1", 7 * second⟩
    replica := SortedStore.empty.put "cat" ⟨sampleVersion "e1", 7 * second⟩ }

/-- A federation with one replica. -/
def sampleFleet : Fleet tagBody := ⟨[sampleLane], [], [], [], []⟩

theorem sampleFleet_fresh : sampleFleet.Fresh where
  arriving := rfl
  queue := rfl
  announced := rfl
  workers := by
    intro lane listed
    cases List.mem_singleton.mp listed
    exact ⟨rfl, rfl⟩
  primary := by
    intro lane other first second
    cases List.mem_singleton.mp first
    cases List.mem_singleton.mp second
    exact ⟨rfl, rfl⟩

/-- The photo is deleted, and its event removes it from the replica. -/
def deliveredDelete : List (Action tagBody) :=
  [.userDelete "cat", .announce "cat" true, .send, .takeTask true, .lane 0 (.job .deleteLands),
    .lane 0 (.job (.finishTask true)), .lane 0 (.job (.storeRecord true))]

theorem lastDeleteAnnounced_deliveredDelete : LastDeleteAnnounced "cat" deliveredDelete :=
  ⟨[], [], _, rfl, fun _ listed => absurd listed List.not_mem_nil, by decide⟩

theorem deletes_converge_cat : Exists fun final =>
    exec step sampleFleet deliveredDelete = some final ∧ final.lanes.length = 1 ∧
    forall lane, lane ∈ final.lanes -> lane.replica.get? "cat" = none := by
  have meets : Meets step (Delivers "cat") sampleFleet deliveredDelete := by decide
  refine ⟨_, rfl, rfl, deletes_converge "cat" sampleFleet_fresh meets rfl
    lastDeleteAnnounced_deliveredDelete ⟨rfl, rfl, ?_⟩⟩
  intro lane listed
  cases List.mem_singleton.mp listed
  rfl

/-! ## Deletes that are not delivered -/

/-- The step is the end of a polling pass of the lane in which nothing failed. -/
def passSucceeds (index : Nat) (fleet : Fleet contentOf) : Action contentOf -> Bool
  | .lane other (.pass .finishPass) =>
      other == index &&
        match fleet.lanes[other]? with
        | some ⟨_, _, _, _, _, some ⟨_, .copying batch, _⟩, _, _, _, _⟩ => !batch.failed
        | _ => false
  | _ => false

/-- The successful polling passes of a lane in a run. -/
def passes (index : Nat) : Fleet contentOf -> List (Action contentOf) -> Nat
  | _, [] => 0
  | fleet, action :: rest =>
      match step fleet action with
      | none => 0
      | some next => (passSucceeds index fleet action).toNat + passes index next rest

theorem passes_append {index : Nat} {middle : Fleet contentOf} (first second : List (Action contentOf)) :
    forall {fleet : Fleet contentOf}, exec step fleet first = some middle ->
      passes index fleet (first ++ second) = passes index fleet first + passes index middle second := by
  induction first with
  | nil =>
      intro fleet run
      cases Option.some.inj run
      simp [passes]
  | cons action rest ih =>
      intro fleet run
      rcases exec_cons.mp run with ⟨next, taken, tail⟩
      simp only [List.cons_append, passes, taken, ih tail, Nat.add_assoc]

/-- The photo is deleted, and the call that deletes it on the replica fails. -/
def failedDelete : List (Action tagBody) :=
  [.userDelete "cat", .announce "cat" true, .send, .takeTask true, .lane 0 (.job .callFails),
    .lane 0 (.job (.loadLag true)), .lane 0 (.job (.storeRecord true))]

/-- A polling pass over the primary, which is empty now. -/
def emptyPass : List (Action tagBody) :=
  [.lane 0 .loadRecord, .lane 0 (.pass (.resolve true)), .lane 0 (.pass (.listPage (some 1))),
    .lane 0 (.pass .endPage), .lane 0 (.pass .finishPass), .lane 0 (.pass (.storeRecord true))]

/-- Two passes after the failed delete: the second changes nothing any more. -/
theorem emptyPass_settles : Exists fun failed => Exists fun settled =>
    exec step sampleFleet failedDelete = some failed ∧
    exec step failed emptyPass = some settled ∧ passes 0 failed emptyPass = 1 ∧
    exec step settled emptyPass = some settled ∧ passes 0 settled emptyPass = 1 ∧
    settled.Drained ∧ settled.lacks 0 "cat" = false := by
  refine ⟨_, _, rfl, rfl, rfl, rfl, rfl, ⟨rfl, rfl, ?_⟩, rfl⟩
  intro lane listed
  cases List.mem_singleton.mp listed
  rfl

theorem passes_again {settled : Fleet tagBody} (again : exec step settled emptyPass = some settled)
    (one : passes 0 settled emptyPass = 1) (count : Nat) :
    exec step settled (List.replicate count emptyPass).flatten = some settled ∧
      passes 0 settled (List.replicate count emptyPass).flatten = count := by
  induction count with
  | zero => exact ⟨rfl, rfl⟩
  | succ count ih =>
      rw [List.replicate_succ, List.flatten_cons]
      refine ⟨(exec_append _ _).mpr ⟨settled, again, ih.1⟩, ?_⟩
      rw [passes_append _ _ again, one, ih.2, Nat.add_comm]

theorem operates_emptyPass (key : String) :
    forall action, action ∈ emptyPass -> operates key action = false := by
  simp [emptyPass, operates]

theorem mem_emptyPasses {count : Nat} {action : Action tagBody}
    (listed : action ∈ (List.replicate count emptyPass).flatten) : action ∈ emptyPass := by
  rcases List.mem_flatten.mp listed with ⟨pass, repeated, member⟩
  exact (List.mem_replicate.mp repeated).2 ▸ member

/-- A delete call that fails once is never made again, whatever number of passes follow. -/
theorem failed_delete_is_not_retried :
    ¬ forall (start middle : Fleet tagBody) (actions : List (Action tagBody)) (key : String),
      start.Fresh -> exec step start actions = some middle -> LastDeleteAnnounced key actions ->
        Exists fun enough => forall (final : Fleet tagBody) (quiet : List (Action tagBody)),
          exec step middle quiet = some final ->
          (forall action, action ∈ quiet -> forall other, operates other action = false) ->
          (forall index, index < middle.lanes.length -> enough ≤ passes index middle quiet) ->
          final.Drained -> forall lane, lane ∈ final.lanes -> lane.replica.get? key = none := by
  intro stated
  rcases emptyPass_settles with ⟨failed, settled, deleted, first, one, again, onceMore, drained, holds⟩
  have last : LastDeleteAnnounced "cat" failedDelete :=
    ⟨[], [], _, rfl, fun _ listed => absurd listed List.not_mem_nil, by decide⟩
  rcases stated _ failed failedDelete "cat" sampleFleet_fresh deleted last with ⟨enough, converges⟩
  rcases passes_again again onceMore enough with ⟨repeated, count⟩
  have gone := converges settled (emptyPass ++ (List.replicate enough emptyPass).flatten)
    ((exec_append _ _).mpr ⟨settled, first, repeated⟩) ?_ ?_ drained
  · unfold Fleet.lacks at holds
    split at holds
    · cases holds
    · rename_i lane found
      rw [gone lane (List.mem_of_getElem? found)] at holds
      cases holds
  · intro action listed other
    rcases List.mem_append.mp listed with member | later
    · exact operates_emptyPass other action member
    · exact operates_emptyPass other action (mem_emptyPasses later)
  · intro index inside
    have zero : index = 0 := by
      cases Option.some.inj deleted
      exact Nat.lt_one_iff.mp inside
    rw [zero, passes_append _ _ first, one, count]
    omega

end Deletes
end Federation
end Basement
