import Basement.Library.Weights
import Basement.Syncs.Completion
import Basement.Syncs.Generations

namespace Basement
namespace Syncs

open Library Drivers
open Api (JobState SyncAction ActionType)

/-!
# The progress of a job

A run sets the totals of its job from what it has planned and counts up from whatever the job
says so far: a job that a resume has loaded has the counters of the earlier runs.

The engine's model has the counters of objects.  The sizes of the listed objects and the bytes
of every copy of the job are followed here beside it.
-/

/-! ## Bytes -/

/-- `BytesTotal` and `BytesCopied` of a copy of the job. -/
structure Bytes where
  total : Nat := 0
  copied : Nat := 0
  deriving DecidableEq, Repr

/-- The bytes of a run's job, and the sizes of its actions. -/
structure Gauge where
  bytes : Bytes
  sizes : List Nat := []
  deriving DecidableEq, Repr

/-- The system, and the bytes of the saved job, of every run and of every call. -/
structure Metered where
  system : System
  disk : Bytes
  runs : SortedStore Nat Gauge
  calls : SortedStore Nat Bytes

/-- An event, and the size of the object if it lists one. -/
abbrev SizedEvent := Event × Nat

/-- A listed object has a size, and the end of the plan sets the total. -/
def Gauge.moved (gauge : Gauge) (run after : Run) (size : Nat) : Gauge :=
  match run.phase, after.phase with
  | .planning, .planning => { gauge with sizes := gauge.sizes ++ [size] }
  | .planning, .checking => { gauge with bytes := { gauge.bytes with total := gauge.sizes.sum } }
  | _, _ => gauge

/-- A copy that is counted counts its bytes. -/
def Gauge.worked (gauge : Gauge) (run : Run) (index : Nat) : Gauge :=
  match run.tasks[index]? with
  | none => gauge
  | some task =>
      if task.status = .copied then
        { gauge with bytes :=
          { gauge.bytes with copied := gauge.bytes.copied + (gauge.sizes[index]?).getD 0 } }
      else gauge

namespace Metered

/-- The runs' bytes after an event. -/
def gauges (m : Metered) (next : System) (size : Nat) : Event -> SortedStore Nat Gauge
  | .call id _ =>
      match m.system.calls.get? id with
      | some (.launching _) => m.runs.put id { bytes := (m.calls.get? id).getD {} }
      | _ => m.runs
  | .run id _ =>
      match m.system.runs.get? id, next.runs.get? id, m.runs.get? id with
      | some run, some after, some gauge => m.runs.put id (gauge.moved run after size)
      | _, _, _ => m.runs
  | .work id index _ =>
      match m.system.runs.get? id, m.runs.get? id with
      | some run, some gauge => m.runs.put id (gauge.worked run index)
      | _, _ => m.runs
  | _ => m.runs

/-- The calls' bytes after an event: a call that begins has loaded the saved job. -/
def noted (m : Metered) (next : System) : Event -> SortedStore Nat Bytes
  | .pause id | .resume id =>
      if (m.system.calls.get? id).isNone ∧ (next.calls.get? id).isSome then m.calls.put id m.disk
      else m.calls
  | _ => m.calls

/-- The saved bytes after an event, if a call saves them. -/
def called (m : Metered) : Event -> Bytes
  | .call id input =>
      match m.system.calls.get? id with
      | some (.pauseSaving _ _) | some (.resumeSaving _) =>
          if input.saved then (m.calls.get? id).getD m.disk else m.disk
      | _ => m.disk
  | _ => m.disk

/-- The saved bytes after an event. -/
def kept (env : Env) (m : Metered) (gauges : SortedStore Nat Gauge) (event : Event) : Bytes :=
  match m.system.saver env event with
  | some id => ((gauges.get? id).map Gauge.bytes).getD m.disk
  | none => m.called event

end Metered

/-- A step of the system with its bytes.  The one run that no resume starts is the create
handler's. -/
def measure (env : Env) (m : Metered) : SizedEvent -> Option Metered
  | (.launch _ _, _) => none
  | (event, size) =>
      (step env m.system event).map fun next =>
        { system := next
          disk := m.kept env (m.gauges next size event) event
          runs := m.gauges next size event
          calls := m.noted next event }

/-- The create handler has saved the job and is about to run it. -/
def metering (job : Job) (world : World) : Metered :=
  ⟨start job world, {}, .empty, SortedStore.empty.put 0 {}⟩

/-- A job as the create handler saves it. -/
structure Job.Created (job : Job) : Prop where
  state : job.state = .queued
  total : job.objectsTotal = 0
  copied : job.objectsCopied = 0
  skipped : job.objectsSkipped = 0

/-! ## Consistent progress -/

/-- No counter is past its total. -/
structure Within (job : Job) (bytes : Bytes) : Prop where
  objects : job.objectsCopied + job.objectsSkipped ≤ job.objectsTotal
  bytes : bytes.copied ≤ bytes.total

/-- The progress of a saved job: a job that is done has dealt with every object. -/
structure Consistent (job : Job) (bytes : Bytes) : Prop where
  within : Within job bytes
  done : job.state = .done -> job.objectsCopied + job.objectsSkipped = job.objectsTotal

def Task.finished (task : Task) : Bool := task.status = .finished

/-- A run that has not planned, or could not: its job has the counters it came with. -/
structure Unplanned (run : Run) (gauge : Gauge) : Prop where
  phase : run.phase.dispatching = false ∧ run.phase ≠ .ending
  pending : forall task, task ∈ run.tasks -> task.status = .pending
  within : Within run.job gauge.bytes
  undone : run.job.state ≠ .done

/-- A run that has planned: its job's counters are those of its finished actions. -/
structure Counting (run : Run) (gauge : Gauge) : Prop where
  phase : run.phase ≠ .registered ∧ run.phase ≠ .planning
  total : run.job.objectsTotal = run.tasks.length
  objects : run.job.objectsCopied + run.job.objectsSkipped =
    settled Task.finished run.tasks (gauge.sizes.map fun _ => 1)
  bytesTotal : gauge.bytes.total = gauge.sizes.sum
  bytesCopied : gauge.bytes.copied ≤ settled Task.finished run.tasks gauge.sizes
  done : run.job.state = .done -> run.outcome = some .done

structure Gauged (run : Run) (gauge : Gauge) : Prop where
  sizes : gauge.sizes.length = run.tasks.length
  counters : Unplanned run gauge ∨ Counting run gauge

section Runs

variable {env : Env} {run after : Run} {gauge : Gauge} {input : Input} {world later : World}
  {saves : Bool}

/-- What a gauged run has in its job is consistent, if a run that is done has finished. -/
theorem Gauged.consistent (gauged : Gauged run gauge)
    (finished : run.outcome = some .done -> forall task, task ∈ run.tasks ->
      task.status = .finished) : Consistent run.job gauge.bytes := by
  rcases gauged.counters with before | counting
  · exact ⟨before.within, fun done => absurd done before.undone⟩
  · have ones : (gauge.sizes.map fun _ => 1).sum = run.tasks.length := by
      rw [List.map_const', List.sum_replicate_nat, gauged.sizes, Nat.mul_one]
    refine ⟨⟨?_, ?_⟩, ?_⟩
    · rw [counting.objects, counting.total, ← ones]
      exact settled_le_sum _ _
    · rw [counting.bytesTotal]
      exact counting.bytesCopied.trans (settled_le_sum _ _)
    · intro done
      rw [counting.objects, counting.total, ← ones]
      apply settled_eq_sum
      · intro task member
        exact decide_eq_true (finished (counting.done done) task member)
      · rw [List.length_map, gauged.sizes]

/-- Pause flags and cancellations do not touch the progress. -/
theorem Gauged.signalled {old : Run} (gauged : Gauged old gauge) (signalled : old.Signalled run) :
    Gauged run gauge := by
  rcases signalled.same with ⟨paused, cancelled, rfl⟩
  refine ⟨gauged.sizes, ?_⟩
  rcases gauged.counters with before | counting
  · exact Or.inl ⟨before.phase, before.pending, before.within, before.undone⟩
  · exact Or.inr ⟨counting.phase, counting.total, counting.objects, counting.bytesTotal,
      counting.bytesCopied, counting.done⟩

/-- A dispatched action was pending. -/
theorem Run.dispatched (phase : run.phase = .acquiring)
    (move : run.move env input world = some (after, saves)) :
    after = { run with phase := .waiting } ∨
      Exists fun index => Exists fun task => run.tasks[index]? = some task ∧
        task.status = .pending ∧
          after = { run.mark index task .started with phase := .checking } := by
  unfold Run.move at move
  rw [phase] at move
  dsimp only at move
  split at move
  · rcases Prod.mk.inj (Option.some.inj move) with ⟨rfl, _⟩
    exact Or.inl rfl
  · split at move
    · cases move
    · rename_i index next
      split at move
      · cases move
      · rename_i task found
        split at move
        · rcases Prod.mk.inj (Option.some.inj move) with ⟨rfl, _⟩
          refine Or.inr ⟨index, task, found, ?_, rfl⟩
          have pending := List.findIdx?_eq_some_iff_getElem.mp next
          rcases pending with ⟨bound, status, _⟩
          rw [List.getElem?_eq_getElem bound] at found
          cases Option.some.inj found
          simpa using status
        · cases move

/-- Only the end of the listing ends the plan well. -/
theorem Run.planned (phase : run.phase = .planning)
    (move : run.move env input world = some (after, saves)) (planned : after.phase = .checking) :
    input.listed = .finished := by
  unfold Run.move at move
  rw [phase] at move
  dsimp only at move
  split at move
  · rcases Prod.mk.inj (Option.some.inj move) with ⟨rfl, _⟩
    cases planned
  · rcases Prod.mk.inj (Option.some.inj move) with ⟨rfl, _⟩
    cases planned
  · assumption

theorem Unplanned.unsettled (before : Unplanned run gauge) (weights : List Nat) :
    settled Task.finished run.tasks weights = 0 := by
  apply settled_eq_zero
  intro task member
  simp [Task.finished, before.pending task member]

/-- A step of a run that has not planned. -/
theorem Gauged.moved_unplanned (gauged : Gauged run gauge) (before : Unplanned run gauge)
    (size : Nat) (move : run.move env input world = some (after, saves))
    (afresh : run.phase = .planning -> input.listed = .finished ->
      run.job.objectsCopied = 0 ∧ run.job.objectsSkipped = 0 ∧ gauge.bytes.copied = 0) :
    Gauged after (gauge.moved run after size) := by
  have undispatched : forall {phase : Phase}, run.phase = phase -> phase.dispatching = false := by
    intro phase same
    rw [← same]
    exact before.phase.1
  have planned := fun phase : run.phase = .planning => Run.planned phase move
  cases Run.moved move with
  | begin phase =>
      simp only [Gauge.moved, phase]
      exact ⟨gauged.sizes, Or.inl ⟨⟨rfl, by rintro ⟨⟩⟩, before.pending,
        ⟨before.within.objects, before.within.bytes⟩, by rintro ⟨⟩⟩⟩
  | object phase key etag statFails =>
      simp only [Gauge.moved, phase]
      refine ⟨?_, Or.inl ⟨⟨rfl, by rintro ⟨⟩⟩, ?_, before.within, before.undone⟩⟩
      · rw [List.length_append, List.length_append, gauged.sizes]
        rfl
      · intro task member
        rcases List.mem_append.mp member with old | new
        · exact before.pending task old
        · rw [List.mem_singleton.mp new]
  | unplanned phase error listed =>
      simp only [Gauge.moved, phase]
      exact ⟨gauged.sizes, Or.inl ⟨⟨rfl, by rintro ⟨⟩⟩, before.pending,
        ⟨before.within.objects, before.within.bytes⟩, by rintro ⟨⟩⟩⟩
  | planned phase =>
      rcases afresh phase (planned phase rfl) with ⟨copied, skipped, bytes⟩
      simp only [Gauge.moved, phase]
      refine ⟨gauged.sizes, Or.inr ⟨⟨by rintro ⟨⟩, by rintro ⟨⟩⟩, rfl, ?_, rfl, ?_, ?_⟩⟩
      · rw [before.unsettled]
        exact (congrArg₂ (· + ·) copied skipped)
      · rw [show gauge.bytes.copied = 0 from bytes]
        exact Nat.zero_le _
      · exact fun done => absurd done before.undone
  | leave phase why => cases undispatched phase
  | acquire phase => cases undispatched phase
  | release phase cancelled => cases undispatched phase
  | dispatch phase cancelled index task found => cases undispatched phase
  | failed phase idle failed => cases undispatched phase
  | paused phase idle paused => cases undispatched phase
  | done phase idle unfailed unpaused => cases undispatched phase
  | other phase idle unfailed unpaused state => cases undispatched phase
  | persist phase => exact absurd phase before.phase.2
  | quit phase =>
      simp only [Gauge.moved, phase]
      exact ⟨gauged.sizes, Or.inl
        ⟨⟨rfl, by rintro ⟨⟩⟩, before.pending, before.within, before.undone⟩⟩

/-- A run that has planned keeps its gauge. -/
theorem Counting.gauge_moved (counting : Counting run gauge) (size : Nat) :
    gauge.moved run after size = gauge := by
  unfold Gauge.moved
  split
  · rename_i planning _
    exact absurd planning counting.phase.2
  · rename_i planning _
    exact absurd planning counting.phase.2
  · rfl

/-- An action that takes a step without being finished changes no count. -/
theorem settled_mark {index : Nat} {task : Task} (found : run.tasks[index]? = some task)
    (before : task.status ≠ .finished) {status : Status} (now : status ≠ .finished)
    (weights : List Nat) :
    settled Task.finished (run.tasks.set index { task with status }) weights =
      settled Task.finished run.tasks weights := by
  rw [settled_set found (decide_eq_false before)]
  have unfinished : Task.finished { task with status } = false := decide_eq_false now
  rw [unfinished]
  rfl

/-- An action that finishes adds its weight. -/
theorem settled_finish {index : Nat} {task : Task} (found : run.tasks[index]? = some task)
    (before : task.status ≠ .finished) (weights : List Nat) :
    settled Task.finished (run.tasks.set index { task with status := .finished }) weights =
      settled Task.finished run.tasks weights + (weights[index]?).getD 0 := by
  rw [settled_set found (decide_eq_false before)]
  rfl

/-- The counters stay while the job's counters and what is settled do. -/
theorem Counting.keep (counting : Counting run gauge)
    (phase : after.phase ≠ .registered ∧ after.phase ≠ .planning)
    (job : after.job.objectsTotal = run.job.objectsTotal ∧
      after.job.objectsCopied = run.job.objectsCopied ∧
      after.job.objectsSkipped = run.job.objectsSkipped)
    (length : after.tasks.length = run.tasks.length)
    (same : forall weights, settled Task.finished after.tasks weights =
      settled Task.finished run.tasks weights)
    (done : after.job.state = .done -> after.outcome = some .done) : Counting after gauge := by
  refine ⟨phase, ?_, ?_, counting.bytesTotal, ?_, done⟩
  · rw [job.1, length]
    exact counting.total
  · rw [job.2.1, job.2.2, same]
    exact counting.objects
  · rw [same]
    exact counting.bytesCopied

/-- A step of a run that has planned. -/
theorem Counting.moved (counting : Counting run gauge)
    (undone : run.phase = .waiting -> run.job.state ≠ .done)
    (move : run.move env input world = some (after, saves)) :
    Counting after gauge ∧ after.tasks.length = run.tasks.length := by
  have dispatched := fun phase : run.phase = .acquiring => Run.dispatched phase move
  cases Run.moved move with
  | begin phase => exact absurd phase counting.phase.1
  | object phase key etag statFails => exact absurd phase counting.phase.2
  | unplanned phase error listed => exact absurd phase counting.phase.2
  | planned phase => exact absurd phase counting.phase.2
  | leave phase why =>
      exact ⟨counting.keep ⟨by rintro ⟨⟩, by rintro ⟨⟩⟩ ⟨rfl, rfl, rfl⟩ rfl (fun _ => rfl)
        counting.done, rfl⟩
  | acquire phase =>
      exact ⟨counting.keep ⟨by rintro ⟨⟩, by rintro ⟨⟩⟩ ⟨rfl, rfl, rfl⟩ rfl (fun _ => rfl)
        counting.done, rfl⟩
  | release phase cancelled =>
      exact ⟨counting.keep ⟨by rintro ⟨⟩, by rintro ⟨⟩⟩ ⟨rfl, rfl, rfl⟩ rfl (fun _ => rfl)
        counting.done, rfl⟩
  | dispatch phase cancelled index task found =>
      rcases dispatched phase with impossible | ⟨first, waiting, listed, pending, same⟩
      · cases congrArg Run.phase impossible
      · have tasks := congrArg Run.tasks same
        refine ⟨counting.keep ⟨by rintro ⟨⟩, by rintro ⟨⟩⟩ ⟨rfl, rfl, rfl⟩ ?_ ?_ counting.done, ?_⟩
        · exact List.length_set
        · intro weights
          rw [tasks]
          exact settled_mark listed (by rw [pending]; rintro ⟨⟩) (by rintro ⟨⟩) weights
        · exact List.length_set
  | failed phase idle failed =>
      refine ⟨counting.keep ⟨by rintro ⟨⟩, by rintro ⟨⟩⟩ ⟨rfl, rfl, rfl⟩ rfl (fun _ => rfl) ?_, rfl⟩
      exact fun done => absurd done (undone phase)
  | paused phase idle paused =>
      exact ⟨counting.keep ⟨by rintro ⟨⟩, by rintro ⟨⟩⟩ ⟨rfl, rfl, rfl⟩ rfl (fun _ => rfl)
        (by rintro ⟨⟩), rfl⟩
  | done phase idle unfailed unpaused =>
      exact ⟨counting.keep ⟨by rintro ⟨⟩, by rintro ⟨⟩⟩ ⟨rfl, rfl, rfl⟩ rfl (fun _ => rfl)
        fun _ => rfl, rfl⟩
  | other phase idle unfailed unpaused state =>
      refine ⟨counting.keep ⟨by rintro ⟨⟩, by rintro ⟨⟩⟩ ⟨rfl, rfl, rfl⟩ rfl (fun _ => rfl) ?_, rfl⟩
      exact fun done => congrArg some done
  | persist phase =>
      exact ⟨counting.keep ⟨by rintro ⟨⟩, by rintro ⟨⟩⟩ ⟨rfl, rfl, rfl⟩ rfl (fun _ => rfl)
        counting.done, rfl⟩
  | quit phase =>
      exact ⟨counting.keep ⟨by rintro ⟨⟩, by rintro ⟨⟩⟩ ⟨rfl, rfl, rfl⟩ rfl (fun _ => rfl)
        counting.done, rfl⟩

theorem Gauged.moved (gauged : Gauged run gauge) (sound : run.Sound env world) (size : Nat)
    (move : run.move env input world = some (after, saves))
    (afresh : run.phase = .planning -> input.listed = .finished ->
      run.job.objectsCopied = 0 ∧ run.job.objectsSkipped = 0 ∧ gauge.bytes.copied = 0) :
    Gauged after (gauge.moved run after size) := by
  rcases gauged.counters with before | counting
  · exact gauged.moved_unplanned before size move afresh
  · have undone : run.phase = .waiting -> run.job.state ≠ .done := by
      intro waiting done
      rcases (sound.state (by rw [waiting]; rfl)).2 with running | ⟨failed, _⟩
      · rw [done] at running
        cases running
      · rw [done] at failed
        cases failed
    rcases counting.moved undone move with ⟨kept, length⟩
    rw [counting.gauge_moved]
    exact ⟨gauged.sizes.trans length.symm, Or.inr kept⟩

/-- The goroutine of an action goes on without finishing it. -/
theorem Gauged.advance (gauged : Gauged run gauge) (counting : Counting run gauge) {index : Nat}
    {task : Task} (found : run.tasks[index]? = some task) {status : Status}
    (tasks : after.tasks = run.tasks.set index { task with status })
    (before : task.status ≠ .finished) (now : status ≠ .finished) (phase : after.phase = run.phase)
    (job : after.job.objectsTotal = run.job.objectsTotal ∧
      after.job.objectsCopied = run.job.objectsCopied ∧
      after.job.objectsSkipped = run.job.objectsSkipped)
    (done : after.job.state = .done -> after.outcome = some .done) : Gauged after gauge := by
  have length : after.tasks.length = run.tasks.length := by rw [tasks, List.length_set]
  refine ⟨gauged.sizes.trans length.symm, Or.inr (counting.keep ?_ job length ?_ done)⟩
  · rw [phase]
    exact counting.phase
  · intro weights
    rw [tasks]
    exact settled_mark found before now weights

/-- An action that is finished is counted. -/
theorem Gauged.finish (gauged : Gauged run gauge) (counting : Counting run gauge) {index : Nat}
    {task : Task} (found : run.tasks[index]? = some task)
    (tasks : after.tasks = run.tasks.set index { task with status := .finished })
    (before : task.status ≠ .finished) (phase : after.phase = run.phase)
    (total : after.job.objectsTotal = run.job.objectsTotal)
    (counted : after.job.objectsCopied + after.job.objectsSkipped =
      run.job.objectsCopied + run.job.objectsSkipped + 1)
    (state : after.job.state = run.job.state ∧ after.outcome = run.outcome) {bytes : Bytes}
    (bytesTotal : bytes.total = gauge.bytes.total)
    (bytesCopied : bytes.copied ≤ gauge.bytes.copied + (gauge.sizes[index]?).getD 0) :
    Gauged after { gauge with bytes } := by
  have length : after.tasks.length = run.tasks.length := by rw [tasks, List.length_set]
  have bound : index < gauge.sizes.length := by
    rw [gauged.sizes]
    exact (List.getElem?_eq_some_iff.mp found).1
  have one : ((gauge.sizes.map fun _ => 1)[index]?).getD 0 = 1 := by
    rw [List.getElem?_map, List.getElem?_eq_getElem bound]
    rfl
  refine ⟨gauged.sizes.trans length.symm, Or.inr ⟨?_, ?_, ?_, ?_, ?_, ?_⟩⟩
  · rw [phase]
    exact counting.phase
  · rw [total, length]
    exact counting.total
  · rw [counted, tasks, settled_finish found before, one, counting.objects]
  · exact bytesTotal.trans counting.bytesTotal
  · rw [tasks, settled_finish found before]
    exact bytesCopied.trans (Nat.add_le_add_right counting.bytesCopied _)
  · rw [state.1, state.2]
    exact counting.done

theorem Gauge.worked_of_ne {index : Nat} {task : Task} (found : run.tasks[index]? = some task)
    (other : task.status ≠ .copied) (gauge : Gauge) : gauge.worked run index = gauge := by
  unfold Gauge.worked
  rw [found]
  exact if_neg other

/-- A step of the goroutine of an action. -/
theorem Gauged.worked (gauged : Gauged run gauge) {index : Nat} {task : Task}
    (found : run.tasks[index]? = some task)
    (worked : Worked env run index task input world after saves later) :
    Gauged after (gauge.worked run index) := by
  have live := worked.live
  have unfinished : task.status ≠ .finished := by
    intro finished
    rw [finished] at live
    cases live
  rcases gauged.counters with before | counting
  · rw [before.pending task (List.mem_of_getElem? found)] at live
    cases live
  · have kept := fun other : task.status ≠ .copied => Gauge.worked_of_ne found other gauge
    cases worked with
    | turnBack status | check status | giveUp status | skip status | copy status
    | drop _ status | recoverAgain _ status | fail status | unwind status =>
        rw [kept (by rw [status]; rintro ⟨⟩)]
        exact gauged.advance counting found rfl unfinished (by rintro ⟨⟩) rfl ⟨rfl, rfl, rfl⟩
          counting.done
    | attempt status =>
        rw [kept (by rw [status]; rintro ⟨⟩)]
        refine gauged.advance counting found rfl unfinished ?_ rfl ⟨rfl, rfl, rfl⟩ counting.done
        rcases env.attempt_status task.action input world with ⟨copied, _⟩ |
          ⟨error, refused | broken⟩
        · rw [copied]
          rintro ⟨⟩
        · rw [refused]
          rintro ⟨⟩
        · rw [broken]
          rintro ⟨⟩
    | refuse _ status | recover _ _ status =>
        rw [kept (by rw [status]; rintro ⟨⟩)]
        exact gauged.advance counting found rfl unfinished (by rintro ⟨⟩) rfl ⟨rfl, rfl, rfl⟩
          (by rintro ⟨⟩)
    | skipped status =>
        rw [kept (by rw [status]; rintro ⟨⟩)]
        refine gauged.finish counting found ?_ unfinished ?_ ?_ ?_ ⟨?_, ?_⟩ ?_ ?_
        · rfl
        · rfl
        · rfl
        · exact (Nat.add_assoc _ _ 1).symm
        · rfl
        · rfl
        · rfl
        · exact Nat.le_add_right _ _
    | copied status =>
        have counted : gauge.worked run index = { gauge with bytes :=
            { gauge.bytes with
              copied := gauge.bytes.copied + (gauge.sizes[index]?).getD 0 } } := by
          unfold Gauge.worked
          rw [found]
          exact if_pos status
        rw [counted]
        refine gauged.finish counting found ?_ unfinished ?_ ?_ ?_ ⟨?_, ?_⟩ ?_ ?_
        · rfl
        · rfl
        · rfl
        · exact Nat.add_right_comm _ 1 _
        · rfl
        · rfl
        · rfl
        · exact Nat.le_refl _

end Runs

/-! ## The system -/

/-- The job that a call has loaded. -/
def Call.job : Call -> Job
  | .pauseLoaded job => job
  | .pauseFound job _ => job
  | .pauseFlagged job _ => job
  | .pauseSaving job _ => job
  | .resumeSaving job => job
  | .launching job => job

/-- The call leads to a run of its job. -/
def Call.starts : Call -> Bool
  | .resumeSaving _ => true
  | .launching _ => true
  | _ => false

theorem System.register_disk (system : System) (id : Nat) (job : Job) :
    (system.register id job).disk = system.disk := by
  unfold System.register
  dsimp only
  split
  · rfl
  · exact (system.withRun_disk _ _).1

namespace Metered

/-- A run that has listed everything plans with counters at zero. -/
def Afresh (m : Metered) : SizedEvent -> Prop
  | (.run id input, _) => forall run gauge, m.system.runs.get? id = some run ->
      m.runs.get? id = some gauge -> run.phase = .planning -> input.listed = .finished ->
        run.job.objectsCopied = 0 ∧ run.job.objectsSkipped = 0 ∧ gauge.bytes.copied = 0
  | _ => True

/-- No action is given up for the cancellation by a further run, and runs plan afresh. -/
def Steady (m : Metered) (event : SizedEvent) : Prop :=
  m.system.contested event.1 = false ∧ m.Afresh event

structure Sound (env : Env) (m : Metered) : Prop where
  system : m.system.Sound env
  disk : Consistent m.system.disk m.disk
  calls : forall id call, m.system.calls.get? id = some call ->
    Exists fun bytes => m.calls.get? id = some bytes ∧ Within call.job bytes ∧
      (call.starts = true -> call.job.state ≠ .done)
  runs : forall id run, m.system.runs.get? id = some run ->
    Exists fun gauge => m.runs.get? id = some gauge ∧ Gauged run gauge

section Steps

variable {env : Env} {m next : Metered} {event : Event} {size : Nat}

theorem measure_some (taken : measure env m (event, size) = some next) :
    (forall id job, event ≠ .launch id job) ∧ Exists fun system =>
      step env m.system event = some system ∧
        next = { system, disk := m.kept env (m.gauges system size event) event
                 runs := m.gauges system size event, calls := m.noted system event } := by
  cases event with
  | launch id job => cases taken
  | pause id | resume id | call id input | run id input | work id index input =>
      rcases Option.map_eq_some_iff.mp taken with ⟨system, stepped, same⟩
      exact ⟨by rintro _ _ ⟨⟩, system, stepped, same.symm⟩

/-- A call that begins notes the saved bytes. -/
theorem noted_begun {id : Nat} (free : m.system.calls.get? id = none) (call : Call) :
    m.noted (m.system.withCall id call) (.pause id) = m.calls.put id m.disk ∧
      m.noted (m.system.withCall id call) (.resume id) = m.calls.put id m.disk := by
  simp [Metered.noted, System.withCall, free, SortedStore.get?_put_self]

theorem noted_refused (id : Nat) :
    m.noted m.system (.pause id) = m.calls ∧ m.noted m.system (.resume id) = m.calls := by
  have never : ¬ ((m.system.calls.get? id).isNone = true ∧
      (m.system.calls.get? id).isSome = true) := by
    rintro ⟨free, taken⟩
    rw [Option.isNone_iff_eq_none.mp free] at taken
    cases taken
  exact ⟨if_neg never, if_neg never⟩

/-- A call that begins has loaded what is saved. -/
theorem Sound.begin (sound : m.Sound env) (id : Nat) (call : Call)
    (within : Within call.job m.disk) (starts : call.starts = true -> call.job.state ≠ .done)
    (kept : (m.system.withCall id call).Sound env) :
    Sound env ⟨m.system.withCall id call, m.disk, m.runs, m.calls.put id m.disk⟩ := by
  refine ⟨kept, sound.disk, ?_, sound.runs⟩
  intro other held found
  change (m.system.calls.put id call).get? other = some held at found
  change Exists fun bytes => (m.calls.put id m.disk).get? other = some bytes ∧ _
  rw [SortedStore.get?_put] at found ⊢
  by_cases same : other = id
  · rw [if_pos same] at found ⊢
    cases found
    exact ⟨m.disk, rfl, within, starts⟩
  · rw [if_neg same] at found ⊢
    exact sound.calls other held found

/-- A call that goes on keeps its job. -/
theorem Sound.goOn (sound : m.Sound env) {id : Nat} {call after : Call}
    (here : m.system.calls.get? id = some call) (job : after.job = call.job)
    (starts : after.starts = call.starts) (other : Nat) (held : Call)
    (found : (m.system.calls.put id after).get? other = some held) :
    Exists fun bytes => m.calls.get? other = some bytes ∧
      Within held.job bytes ∧ (held.starts = true -> held.job.state ≠ .done) := by
  rw [SortedStore.get?_put] at found
  by_cases same : other = id
  · rw [if_pos same] at found
    cases found
    rw [same, job, starts]
    exact sound.calls id call here
  · rw [if_neg same] at found
    exact sound.calls other held found

/-- A call that ends is forgotten. -/
theorem Sound.forget (sound : m.Sound env) {id : Nat} (other : Nat) (held : Call)
    (found : (m.system.calls.erase id).get? other = some held) :
    Exists fun bytes => m.calls.get? other = some bytes ∧
      Within held.job bytes ∧ (held.starts = true -> held.job.state ≠ .done) := by
  exact SortedStore.Every.erase sound.calls id other held found

/-- The runs are as they were, apart from signals. -/
theorem Sound.signal (sound : m.Sound env) {system : System}
    (signalled : forall other run, system.runs.get? other = some run ->
      Exists fun old => m.system.runs.get? other = some old ∧ old.Signalled run)
    (id : Nat) (run : Run) (found : system.runs.get? id = some run) :
    Exists fun gauge => m.runs.get? id = some gauge ∧ Gauged run gauge := by
  rcases signalled id run found with ⟨old, before, told⟩
  rcases sound.runs id old before with ⟨gauge, held, gauged⟩
  exact ⟨gauge, held, gauged.signalled told⟩

/-- A run takes a step. -/
theorem Sound.put (sound : m.Sound env) {id : Nat} {after : Run} {gauge : Gauge}
    (gauged : Gauged after gauge) (other : Nat) (run : Run)
    (found : (m.system.runs.put id after).get? other = some run) :
    Exists fun held => (m.runs.put id gauge).get? other = some held ∧ Gauged run held := by
  rw [SortedStore.get?_put] at found ⊢
  by_cases same : other = id
  · rw [if_pos same] at found ⊢
    cases found
    exact ⟨gauge, rfl, gauged⟩
  · rw [if_neg same] at found ⊢
    exact sound.runs other run found

theorem Consistent.enter_paused {job : Job} {bytes : Bytes} (within : Within job bytes) :
    Consistent (job.enter .paused) bytes :=
  ⟨⟨within.objects, within.bytes⟩, by rintro ⟨⟩⟩

/-- The runs after a step of a call that is no launch. -/
theorem signalled_of_advanced {system : System} {id : Nat} {input : Input} {call : Call}
    (other : forall job, call ≠ .launching job)
    (taken : m.system.advance id input call = some system) (run : Nat) (held : Run)
    (found : system.runs.get? run = some held) :
    Exists fun old => m.system.runs.get? run = some old ∧ old.Signalled held := by
  rcases (System.advanced taken).runs run held found with signalled | ⟨job, launching, _⟩
  · exact signalled
  · exact absurd launching (other job)

/-- The bytes after a step of a call that is no launch. -/
theorem gauges_call {system : System} {id : Nat} {input : Input} {call : Call}
    (here : m.system.calls.get? id = some call) (other : forall job, call ≠ .launching job) :
    m.gauges system size (.call id input) = m.runs := by
  simp only [gauges, here]
  cases call with
  | launching job => exact absurd rfl (other job)
  | pauseLoaded | pauseFound | pauseFlagged | pauseSaving | resumeSaving => rfl

/-- A new run has the bytes of the job it comes with. -/
theorem Sound.registered (sound : m.Sound env) {id : Nat} {job : Job} {bytes : Bytes}
    (held : m.calls.get? id = some bytes) (within : Within job bytes) (undone : job.state ≠ .done)
    (unknown : m.system.runs.get? id = none) (other : Nat) (run : Run)
    (found : (m.system.register id job).runs.get? other = some run) :
    Exists fun gauge =>
      (m.runs.put id { bytes := (m.calls.get? id).getD {} }).get? other = some gauge ∧
        Gauged run gauge := by
  rw [SortedStore.get?_put, held]
  have fresh : Gauged { job } { bytes } := by
    refine ⟨rfl, Or.inl ⟨⟨rfl, by rintro ⟨⟩⟩, ?_, within, undone⟩⟩
    intro task absent
    cases absent
  by_cases same : other = id
  · rw [if_pos same]
    rcases System.register_runs found with ⟨old, before, _⟩ | ⟨_, rfl⟩
    · rw [same, unknown] at before
      cases before
    · exact ⟨_, rfl, fresh⟩
  · rw [if_neg same]
    rcases System.register_runs found with ⟨old, before, told⟩ | ⟨own, _⟩
    · rcases sound.runs other old before with ⟨gauge, kept, gauged⟩
      exact ⟨gauge, kept, gauged.signalled told⟩
    · exact absurd own same

/-- A call that is not about to save waits for its next step. -/
theorem Sound.wait (sound : m.Sound env) {system : System} {id : Nat} {input : Input}
    {call : Call} (after : Call) (here : m.system.calls.get? id = some call)
    (taken : m.system.advance id input call = some system) (kept : system.Sound env)
    (other : forall job, call ≠ .launching job) (job : after.job = call.job)
    (starts : after.starts = call.starts) (disk : system.disk = m.system.disk)
    (calls : system.calls = m.system.calls.put id after)
    (called : m.called (.call id input) = m.disk) :
    Sound env
      { system, disk := m.called (.call id input), runs := m.gauges system size (.call id input)
        calls := m.calls } := by
  refine ⟨kept, ?_, ?_, ?_⟩
  · rw [called]
    change Consistent system.disk m.disk
    rw [disk]
    exact sound.disk
  · change forall other held, system.calls.get? other = some held -> _
    rw [calls]
    exact sound.goOn here job starts
  · rw [gauges_call here other]
    exact sound.signal (signalled_of_advanced other taken)

/-- A call that ends leaves the runs alone. -/
theorem Sound.finish (sound : m.Sound env) {system : System} {id : Nat} {input : Input}
    {call : Call} (here : m.system.calls.get? id = some call)
    (taken : m.system.advance id input call = some system) (kept : system.Sound env)
    (other : forall job, call ≠ .launching job)
    (calls : system.calls = m.system.calls.erase id)
    (disk : Consistent system.disk (m.called (.call id input))) :
    Sound env
      { system, disk := m.called (.call id input), runs := m.gauges system size (.call id input)
        calls := m.calls } := by
  refine ⟨kept, disk, ?_, ?_⟩
  · change forall other held, system.calls.get? other = some held -> _
    rw [calls]
    exact sound.forget
  · rw [gauges_call here other]
    exact sound.signal (signalled_of_advanced other taken)

/-- A call takes a step. -/
theorem Sound.call (sound : m.Sound env) {system : System} {id : Nat} {input : Input} {call : Call}
    (here : m.system.calls.get? id = some call)
    (taken : m.system.advance id input call = some system) (kept : system.Sound env) :
    Sound env
      { system, disk := m.called (.call id input), runs := m.gauges system size (.call id input)
        calls := m.calls } := by
  rcases sound.calls id call here with ⟨bytes, held, within, starts⟩
  have stepped := taken
  cases call with
  | pauseLoaded job =>
      have called : m.called (.call id input) = m.disk := by simp only [Metered.called, here]
      simp only [System.advance] at stepped
      split at stepped
      · rename_i run _
        cases stepped
        exact sound.wait (.pauseFound job run) here taken kept (fun _ => Call.noConfusion) rfl rfl
          rfl rfl called
      · cases stepped
        exact sound.wait (.pauseSaving job false) here taken kept (fun _ => Call.noConfusion) rfl
          rfl rfl rfl called
  | pauseFound job target =>
      have called : m.called (.call id input) = m.disk := by simp only [Metered.called, here]
      cases stepped
      have rest := m.system.withRun_disk target fun run => { run with paused := true }
      refine sound.wait (.pauseFlagged job target) here taken kept (fun _ => Call.noConfusion) rfl
        rfl rest.1 ?_ called
      exact congrArg (fun calls => calls.put id (.pauseFlagged job target)) rest.2
  | pauseFlagged job target =>
      have called : m.called (.call id input) = m.disk := by simp only [Metered.called, here]
      cases stepped
      have rest := m.system.withRun_disk target fun run => { run with cancelled := true }
      refine sound.wait (.pauseSaving job true) here taken kept (fun _ => Call.noConfusion) rfl
        rfl rest.1 ?_ called
      exact congrArg (fun calls => calls.put id (.pauseSaving job true)) rest.2
  | pauseSaving job found =>
      simp only [System.advance] at stepped
      split at stepped
      · rename_i saved
        have called : m.called (.call id input) = bytes := by
          simp only [Metered.called, here, saved, if_true, held, Option.getD_some]
        cases stepped
        refine sound.finish here taken kept (fun _ => Call.noConfusion) rfl ?_
        rw [called]
        exact Consistent.enter_paused within
      · rename_i failed
        have called : m.called (.call id input) = m.disk := by
          simp only [Metered.called, here, failed, Bool.false_eq_true, if_false]
        cases stepped
        refine sound.finish here taken kept (fun _ => Call.noConfusion) rfl ?_
        rw [called]
        exact sound.disk
  | resumeSaving job =>
      simp only [System.advance] at stepped
      split at stepped
      · rename_i saved
        have called : m.called (.call id input) = bytes := by
          simp only [Metered.called, here, saved, if_true, held, Option.getD_some]
        cases stepped
        refine ⟨kept, ?_, sound.goOn here rfl rfl, ?_⟩
        · rw [called]
          exact ⟨within, fun done => absurd done (starts rfl)⟩
        · rw [gauges_call here (fun _ => Call.noConfusion)]
          exact sound.signal (signalled_of_advanced (fun _ => Call.noConfusion) taken)
      · rename_i failed
        have called : m.called (.call id input) = m.disk := by
          simp only [Metered.called, here, failed, Bool.false_eq_true, if_false]
        cases stepped
        refine sound.finish here taken kept (fun _ => Call.noConfusion) rfl ?_
        rw [called]
        exact sound.disk
  | launching job =>
      have called : m.called (.call id input) = m.disk := by simp only [Metered.called, here]
      simp only [System.advance] at stepped
      split at stepped
      · cases stepped
      · rename_i unknown
        cases stepped
        have gauges : m.gauges (m.system.register id job) size (.call id input) =
            m.runs.put id { bytes := (m.calls.get? id).getD {} } := by
          simp only [Metered.gauges, here]
        refine ⟨kept, ?_, sound.forget, ?_⟩
        · rw [called]
          change Consistent (m.system.register id job).disk m.disk
          rw [System.register_disk]
          exact sound.disk
        · rw [gauges]
          exact sound.registered held within (starts rfl) (Option.not_isSome_iff_eq_none.mp unknown)

/-- What a run saves is consistent, and so is what was saved before. -/
theorem Sound.saves (sound : m.Sound env) {after : Run} {gauge : Gauge} {saves : Bool}
    {input : Input} (consistent : Consistent after.job gauge.bytes) :
    Consistent (m.system.saving saves after.job input)
      (if (saves && input.saved) = true then gauge.bytes else m.disk) := by
  unfold System.saving
  by_cases saved : (saves && input.saved) = true
  · rw [if_pos saved, if_pos saved]
    exact consistent
  · rw [if_neg saved, if_neg saved]
    exact sound.disk

theorem kept_saver {id : Nat} {flag : Bool} {gauges : SortedStore Nat Gauge} {gauge : Gauge}
    (saver : m.system.saver env event = if flag = true then some id else none)
    (held : gauges.get? id = some gauge) (called : m.called event = m.disk) :
    m.kept env gauges event = if flag = true then gauge.bytes else m.disk := by
  unfold Metered.kept
  rw [saver]
  by_cases saved : flag = true
  · rw [if_pos saved, if_pos saved]
    simp only [held, Option.map_some, Option.getD_some]
  · rw [if_neg saved, if_neg saved]
    exact called

/-- A run takes a step and keeps its gauge. -/
theorem Sound.advance (sound : m.Sound env) {system : System} {id : Nat} {after : Run}
    {gauge : Gauge} {saves : Bool} {input : Input} (kept : system.Sound env)
    (runs : system.runs = m.system.runs.put id after)
    (disk : system.disk = m.system.saving saves after.job input)
    (calls : system.calls = m.system.calls) (gauged : Gauged after gauge)
    (gauges : m.gauges system size event = m.runs.put id gauge)
    (saver : m.system.saver env event = if saves && input.saved then some id else none)
    (called : m.called event = m.disk) (noted : m.noted system event = m.calls) :
    Sound env
      { system, disk := m.kept env (m.gauges system size event) event
        runs := m.gauges system size event, calls := m.noted system event } := by
  have here : system.runs.get? id = some after := by rw [runs, SortedStore.get?_put_self]
  have consistent : Consistent after.job gauge.bytes := by
    apply gauged.consistent
    intro done task member
    exact ((kept id after here).tasks task member).decided done
  have held : (m.gauges system size event).get? id = some gauge := by
    rw [gauges, SortedStore.get?_put_self]
  refine ⟨kept, ?_, ?_, ?_⟩
  · rw [kept_saver saver held called]
    change Consistent system.disk _
    rw [disk]
    exact sound.saves consistent
  · rw [noted]
    change forall other call, system.calls.get? other = some call -> _
    rw [calls]
    exact sound.calls
  · rw [gauges]
    change forall other run, system.runs.get? other = some run -> _
    rw [runs]
    exact sound.put gauged

/-- One step keeps the progress sound. -/
theorem Sound.step (sound : m.Sound env) (steady : m.Steady (event, size))
    (taken : measure env m (event, size) = some next) : next.Sound env := by
  rcases measure_some taken with ⟨unlaunched, system, stepped, rfl⟩
  have kept := sound.system.step steady.1 stepped
  cases step_stepped stepped with
  | pausing id free =>
      rw [(noted_begun free _).1]
      refine sound.begin id (.pauseLoaded m.system.disk) sound.disk.within ?_ kept
      intro impossible
      cases impossible
  | pauseRefused id =>
      rw [(noted_refused id).1]
      exact sound
  | resuming id free =>
      rw [(noted_begun free _).2]
      refine sound.begin id (.resumeSaving (m.system.disk.enter .running)) ?_ ?_ kept
      · exact ⟨sound.disk.within.objects, sound.disk.within.bytes⟩
      · intro _
        exact JobState.noConfusion
  | resumeRefused id =>
      rw [(noted_refused id).2]
      exact sound
  | launched id job free => exact absurd rfl (unlaunched id job)
  | advanced id input call next found advanced => exact sound.call found advanced kept
  | moved id input run after saves found move =>
      rcases sound.runs id run found with ⟨gauge, held, gauged⟩
      have fresh := gauged.moved (sound.system id run found) size move
        (steady.2 run gauge found held)
      refine sound.advance kept rfl rfl rfl fresh ?_ (saver_run found move) rfl rfl
      simp only [Metered.gauges, found, SortedStore.get?_put_self, held]
  | worked id index input run after saves world task found work listed worked =>
      rcases sound.runs id run found with ⟨gauge, held, gauged⟩
      have fresh := gauged.worked listed worked
      refine sound.advance kept rfl rfl rfl fresh ?_ (saver_work found work) rfl rfl
      simp only [Metered.gauges, found, held]

end Steps

theorem metering_sound (env : Env) {job : Job} (created : job.Created) (world : World) :
    (metering job world).Sound env where
  system := System.Sound.start env job world
  disk := by
    have zero : job.objectsCopied + job.objectsSkipped = job.objectsTotal := by
      rw [created.copied, created.skipped, created.total]
    exact ⟨⟨Nat.le_of_eq zero, Nat.le_refl 0⟩, fun _ => zero⟩
  calls := by
    intro id call found
    change (SortedStore.empty.put 0 (Call.launching job)).get? id = some call at found
    change Exists fun bytes => (SortedStore.empty.put 0 ({} : Bytes)).get? id = some bytes ∧ _
    rw [SortedStore.get?_put] at found ⊢
    by_cases first : id = 0
    · rw [if_pos first] at found ⊢
      cases found
      refine ⟨{}, rfl, ⟨?_, Nat.le_refl 0⟩, ?_⟩
      · change job.objectsCopied + job.objectsSkipped ≤ job.objectsTotal
        rw [created.copied, created.skipped]
        exact Nat.zero_le _
      · intro _ done
        change job.state = .done at done
        rw [created.state] at done
        cases done
    · rw [if_neg first] at found
      cases found
  runs := by
    intro id run absent
    cases absent

end Metered

/-- Whatever is listed and however the workers, the pauses and the resumes interleave: as long
as every run plans afresh and no action is given up for the cancellation by a further run, the
progress in the saved job is consistent. -/
theorem saved_progress_consistent (env : Env) {job : Job} (created : job.Created) (world : World)
    {events : List SizedEvent}
    (steady : Transition.Meets (measure env) Metered.Steady (metering job world) events) :
    Transition.Throughout (measure env) (fun m => Consistent m.system.disk m.disk)
      (metering job world) events :=
  (Transition.throughout_of_meets (fun _ _ _ sound held taken => sound.step held taken)
    (Metered.metering_sound env created world) steady).imp fun _ sound => sound.disk

instance Listed.decidableFinished : (listed : Listed) -> Decidable (listed = .finished)
  | .finished => .isTrue rfl
  | .object _ _ _ => .isFalse (by rintro ⟨⟩)
  | .failed _ => .isFalse (by rintro ⟨⟩)

instance Metered.decidableAfresh (m : Metered) : (event : SizedEvent) -> Decidable (m.Afresh event)
  | (.run id input, _) =>
      have : Decidable (forall run, run ∈ m.system.runs.get? id -> forall gauge,
          gauge ∈ m.runs.get? id -> run.phase = .planning -> input.listed = .finished ->
            run.job.objectsCopied = 0 ∧ run.job.objectsSkipped = 0 ∧ gauge.bytes.copied = 0) :=
        inferInstance
      decidable_of_iff _
        ⟨fun afresh run gauge found held => afresh run found gauge held,
          fun afresh run found gauge held => afresh run gauge found held⟩
  | (.call _ _, _) | (.work _ _ _, _) | (.pause _, _) | (.resume _, _) | (.launch _ _, _) =>
      .isTrue trivial

instance Metered.decidableSteady (m : Metered) (event : SizedEvent) : Decidable (m.Steady event) :=
  inferInstanceAs (Decidable (_ ∧ _))

/-- Every listed object has five bytes. -/
def sizedEvents (events : List Event) : List SizedEvent := events.map (·, 5)

theorem saved_progress_consistent_copy :
    Transition.Throughout (measure sampleEnv) (fun m => Consistent m.system.disk m.disk)
      (metering { state := .queued } sampleWorld) (sizedEvents (dispatchEvents ++ copyEvents)) :=
  @saved_progress_consistent sampleEnv { state := .queued } ⟨rfl, rfl, rfl, rfl⟩ sampleWorld
    (sizedEvents (dispatchEvents ++ copyEvents)) (by decide +kernel)

/-- The job is paused after its one object was copied, and resumed.  Nothing has changed, so the
run of the resume skips the object that the first run has counted. -/
def recountedEvents : List Event :=
  dispatchEvents ++
    [.run 0 {}, .work 0 0 {}, .work 0 0 {}, .work 0 0 {}, .work 0 0 {}, .pause 1, .call 1 {},
      .call 1 {}, .call 1 {}, .call 1 {}, .run 0 {}, .run 0 {}, .run 0 {}, .run 0 {}] ++
    [.resume 2, .call 2 {}, .call 2 {}, .run 2 {},
      .run 2 { listed := .object "a.png" "image/png" false }, .run 2 {}, .run 2 {}, .run 2 {},
      .work 2 0 {}, .work 2 0 {}, .work 2 0 {}, .run 2 {}, .run 2 {}, .run 2 {}]

def recountedRun : Metered :=
  (Transition.exec (measure sampleEnv) (metering { state := .queued } sampleWorld)
    (sizedEvents recountedEvents)).getD (metering { state := .queued } sampleWorld)

theorem resumed_run_counts_twice :
    ¬ forall (env : Env) (job : Job) (world : World) (events : List SizedEvent) (final : Metered),
      job.Created -> Transition.exec (measure env) (metering job world) events = some final ->
        Consistent final.system.disk final.disk := by
  intro stated
  have consistent := stated sampleEnv { state := .queued } sampleWorld (sizedEvents recountedEvents)
    recountedRun ⟨rfl, rfl, rfl, rfl⟩ rfl
  exact absurd consistent.within.objects (by decide +kernel)

end Syncs
end Basement
