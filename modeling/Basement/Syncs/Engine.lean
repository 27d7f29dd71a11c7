import Basement.Api.Syncs
import Basement.Library.SortedStore
import Basement.Library.Transition

namespace Basement
namespace Syncs

open Library Drivers
open Api (JobState SyncAction ActionType)

/-!
# The sync engine

The runs of one sync job.  A run plans, dispatches one goroutine for each action under a limit,
waits for them and decides how the job ended.  It works on its own copy of the job, which it
saves at many points.  `Pause` and `Resume` work on a copy that they load.  What they share is the
saved job, the registry entry of the job, and the flag and the context of the run that is
registered.

Every goroutine stops at each access to what is shared and goes on with the next event.  An event
brings what the goroutine meets there: whether a save succeeds, what the source lists, the failures
of a copy.  The bytes and the times of the progress are left out; nothing reads them.
-/

/-! ## Jobs and runs -/

/-- The fields of a `SyncJob` that the engine writes. -/
structure Job where
  state : JobState
  objectsTotal : Nat := 0
  objectsCopied : Nat := 0
  objectsSkipped : Nat := 0
  lastError : String := ""
  deriving DecidableEq, Repr

def Job.enter (job : Job) (state : JobState) : Job := { job with state }

def Job.fail (job : Job) (error : String) : Job := { job with state := .error, lastError := error }

/-- How far the goroutine of an action has come.  `refused` and `broken` are a `copyObject` that
failed and one that panicked; `failing` holds the mutex. -/
inductive Status where
  | pending
  | started
  | checked
  | skipping
  | copying
  | copied
  | refused (error : String)
  | broken (error : String)
  | failing
  | panicked
  | finished
  | stopped
  deriving DecidableEq, Repr

/-- The goroutine runs. -/
def Status.live : Status -> Bool
  | .pending | .finished | .stopped => false
  | _ => true

structure Task where
  action : SyncAction
  status : Status
  deriving DecidableEq, Repr

inductive Phase where
  | registered
  | planning
  | checking
  | acquiring
  | waiting
  | ending
  | leaving
  | returned
  deriving DecidableEq, Repr

/-- A run: its copy of the job, its `runState`, its actions and its locals.  `outcome` is how it
decided that the job ended, `persisted` whether that was saved, `copies` how many copies it has
started. -/
structure Run where
  job : Job
  paused : Bool := false
  cancelled : Bool := false
  phase : Phase := .registered
  tasks : List Task := []
  firstErr : Option String := none
  outcome : Option JobState := none
  persisted : Bool := false
  copies : Nat := 0
  deriving DecidableEq, Repr

/-- What `Plan` meets next: an object of the source that is no directory, with its etag and whether
the destination's `StatObject` fails; a failure; the end of the last page. -/
inductive Listed where
  | object (key etag : String) (statFails : Bool)
  | failed (error : String)
  | finished

/-- What a goroutine meets. -/
structure Input where
  saved : Bool := true
  listed : Listed := .finished
  faults : Faults := {}
  panics : Option String := none

/-- The drivers, the buckets and the prefixes of the job, the service's etags, and the limit of
the engine. -/
structure Env where
  maxConcurrency : Int
  srcDriver : Driver
  dstDriver : Driver
  srcBucket : String
  srcPrefix : String
  dstBucket : String
  dstPrefix : String
  etag : StoredObject -> String

/-- `NewEngine`. -/
def Env.slots (env : Env) : Nat := if env.maxConcurrency ≤ 0 then 4 else env.maxConcurrency.toNat

def Env.dstKey (env : Env) (srcKey : String) : String :=
  Api.planDstKey env.srcPrefix env.dstPrefix srcKey

/-- Where the object of a source key belongs. -/
def Env.destination (env : Env) (srcKey : String) : Location :=
  env.dstDriver.at ⟨env.dstBucket, env.dstKey srcKey⟩

/-- The action `Plan` takes for a listed object. -/
def Env.plan (env : Env) (world : World) (key etag : String) (statFails : Bool) : SyncAction :=
  if statFails = false ∧ (world (env.destination key)).map env.etag = some etag then
    ⟨key, env.dstKey key, .skip⟩
  else ⟨key, env.dstKey key, .copy⟩

/-- `copyObject` for an action. -/
def Env.copy (env : Env) (action : SyncAction) (faults : Faults) (world : World) :
    Except String World :=
  copyObject env.srcDriver env.dstDriver ⟨env.srcBucket, action.srcKey⟩
    ⟨env.dstBucket, action.dstKey⟩ faults world

/-- The first action that is not dispatched. -/
def Run.next (run : Run) : Option Nat := run.tasks.findIdx? fun task => task.status = .pending

/-- How many goroutines run. -/
def Run.live (run : Run) : Nat := run.tasks.countP fun task => task.status.live

/-- A goroutine that is about to save an error holds the mutex. -/
def Run.locked (run : Run) : Bool := run.tasks.any fun task => task.status = .failing

def Run.mark (run : Run) (index : Nat) (task : Task) (status : Status) : Run :=
  { run with tasks := run.tasks.set index { task with status } }

/-! ## Steps of a run -/

/-- The next step of `Engine.Run` itself, and whether it saves the run's job. -/
def Run.move (env : Env) (run : Run) (input : Input) (world : World) : Option (Run × Bool) :=
  match run.phase with
  | .registered => some ({ run with job := run.job.enter .running, phase := .planning }, true)
  | .planning =>
      match input.listed with
      | .object key etag statFails =>
          some ({ run with
            tasks := run.tasks ++ [⟨env.plan world key etag statFails, .pending⟩] }, false)
      | .failed error =>
          some ({ run with
            job := run.job.fail ("plan failed: " ++ error)
            phase := .leaving
            outcome := some .error }, true)
      | .finished =>
          some ({ run with
            job := { run.job with objectsTotal := run.tasks.length }
            phase := .checking }, true)
  | .checking =>
      if run.next.isNone || run.paused || run.cancelled then
        some ({ run with phase := .waiting }, false)
      else some ({ run with phase := .acquiring }, false)
  | .acquiring =>
      if run.cancelled then some ({ run with phase := .waiting }, false)
      else
        match run.next with
        | none => none
        | some index =>
            match run.tasks[index]? with
            | none => none
            | some task =>
                if run.live < env.slots then
                  some ({ run.mark index task .started with phase := .checking }, false)
                else none
  | .waiting =>
      if 0 < run.live then none
      else
        match run.firstErr with
        | some _ => some ({ run with phase := .leaving, outcome := some .error }, false)
        | none =>
            if run.paused then
              some ({ run with
                job := run.job.enter .paused
                phase := .ending
                outcome := some .paused }, false)
            else if run.job.state = .running then
              some ({ run with
                job := run.job.enter .done
                phase := .ending
                outcome := some .done }, false)
            else some ({ run with phase := .leaving, outcome := some run.job.state }, false)
  | .ending => some ({ run with phase := .leaving, persisted := input.saved }, true)
  | .leaving => some ({ run with phase := .returned, cancelled := true }, false)
  | .returned => none

/-- What the goroutine does when `copyObject` has panicked. -/
def Run.recover (run : Run) (index : Nat) (task : Task) (error : String) : Run × Bool :=
  match run.firstErr with
  | some _ => (run.mark index task .panicked, false)
  | none =>
      ({ run.mark index task .panicked with
        firstErr := some ("panic copying " ++ task.action.srcKey ++ ": " ++ error)
        job := run.job.fail ("panic copying " ++ task.action.srcKey ++ ": " ++ error) }, true)

/-- What the goroutine does when `copyObject` has failed. -/
def Run.refuse (run : Run) (index : Nat) (task : Task) (error : String) : Run :=
  if run.firstErr = none ∧ run.paused = false ∧ run.job.state ≠ .paused then
    { run.mark index task .failing with firstErr := some error, job := run.job.fail error }
  else run.mark index task .stopped

/-- The status after `copyObject`, and the world after it. -/
def Env.attempt (env : Env) (action : SyncAction) (input : Input) (world : World) :
    Status × World :=
  match input.panics with
  | some error => (.broken error, world)
  | none =>
      match env.copy action input.faults world with
      | .error error => (.refused error, world)
      | .ok after => (.copied, after)

/-- The next step of the goroutine of an action, for the steps that need the mutex, and whether it
saves the run's job. -/
def Run.guarded (run : Run) (index : Nat) (task : Task) : Option (Run × Bool) :=
  match task.status with
  | .checked =>
      if run.job.state = .error then some (run.mark index task .stopped, false)
      else
        match task.action.type with
        | .skip => some (run.mark index task .skipping, false)
        | .copy => some ({ run.mark index task .copying with copies := run.copies + 1 }, false)
  | .skipping =>
      some ({ run.mark index task .finished with
        job := { run.job with objectsSkipped := run.job.objectsSkipped + 1 } }, true)
  | .copied =>
      some ({ run.mark index task .finished with
        job := { run.job with objectsCopied := run.job.objectsCopied + 1 } }, true)
  | .refused error => some (run.refuse index task error, false)
  | .broken error => some (run.recover index task error)
  | _ => none

/-- The next step of the goroutine of an action, whether it saves the run's job, and the world
after it. -/
def Run.work (env : Env) (run : Run) (index : Nat) (input : Input) (world : World) :
    Option (Run × Bool × World) :=
  match run.tasks[index]? with
  | none => none
  | some task =>
      match task.status with
      | .started =>
          some (run.mark index task (if run.paused || run.cancelled then .stopped else .checked),
            false, world)
      | .copying =>
          some (run.mark index task (env.attempt task.action input world).1, false,
            (env.attempt task.action input world).2)
      | .failing => some ({ run.mark index task .stopped with cancelled := true }, true, world)
      | .panicked => some ({ run.mark index task .stopped with cancelled := true }, false, world)
      | _ =>
          if run.locked then none
          else (run.guarded index task).map fun result => (result.1, result.2, world)

/-! ## What a step can do -/

/-- The steps of `Engine.Run` itself. -/
inductive Moved (env : Env) (run : Run) (input : Input) (world : World) : Run -> Bool -> Prop
  | begin (phase : run.phase = .registered) :
      Moved env run input world { run with job := run.job.enter .running, phase := .planning } true
  | object (phase : run.phase = .planning) (key etag : String) (statFails : Bool) :
      Moved env run input world
        { run with tasks := run.tasks ++ [⟨env.plan world key etag statFails, .pending⟩] } false
  | unplanned (phase : run.phase = .planning) (error : String)
    (listed : input.listed = .failed error) :
      Moved env run input world
        { run with
          job := run.job.fail ("plan failed: " ++ error)
          phase := .leaving
          outcome := some .error } true
  | planned (phase : run.phase = .planning) :
      Moved env run input world
        { run with
          job := { run.job with objectsTotal := run.tasks.length }
          phase := .checking } true
  | leave (phase : run.phase = .checking)
      (why : (forall task, task ∈ run.tasks -> task.status ≠ .pending) ∨ run.paused = true ∨
        run.next.isSome = true ∧ run.cancelled = true) :
      Moved env run input world { run with phase := .waiting } false
  | acquire (phase : run.phase = .checking) :
      Moved env run input world { run with phase := .acquiring } false
  | release (phase : run.phase = .acquiring) (cancelled : run.cancelled = true) :
      Moved env run input world { run with phase := .waiting } false
  | dispatch (phase : run.phase = .acquiring) (cancelled : run.cancelled = false) (index : Nat)
      (task : Task) (found : run.tasks[index]? = some task) :
      Moved env run input world { run.mark index task .started with phase := .checking } false
  | failed (phase : run.phase = .waiting) (idle : run.live = 0) (failed : run.firstErr ≠ none) :
      Moved env run input world { run with phase := .leaving, outcome := some .error } false
  | paused (phase : run.phase = .waiting) (idle : run.live = 0) (paused : run.paused = true) :
      Moved env run input world
        { run with
          job := run.job.enter .paused
          phase := .ending
          outcome := some .paused } false
  | done (phase : run.phase = .waiting) (idle : run.live = 0) (unfailed : run.firstErr = none)
      (unpaused : run.paused = false) :
      Moved env run input world
        { run with
          job := run.job.enter .done
          phase := .ending
          outcome := some .done } false
  | other (phase : run.phase = .waiting) (idle : run.live = 0) (unfailed : run.firstErr = none)
      (unpaused : run.paused = false) (state : run.job.state ≠ .running) :
      Moved env run input world
        { run with phase := .leaving, outcome := some run.job.state } false
  | persist (phase : run.phase = .ending) :
      Moved env run input world { run with phase := .leaving, persisted := input.saved } true
  | quit (phase : run.phase = .leaving) :
      Moved env run input world { run with phase := .returned, cancelled := true } false

theorem Run.next_none {run : Run} (none_ : run.next = none) {task : Task}
    (member : task ∈ run.tasks) : task.status ≠ .pending := by
  have missing := List.findIdx?_eq_none_iff.mp none_ task member
  simpa using missing

theorem Run.moved {env : Env} {run next : Run} {input : Input} {world : World} {saves : Bool}
    (moved : run.move env input world = some (next, saves)) :
    Moved env run input world next saves := by
  unfold Run.move at moved
  split at moved <;> rename_i phase
  · rcases Prod.mk.inj (Option.some.inj moved) with ⟨rfl, rfl⟩
    exact .begin phase
  · split at moved
    · rename_i key etag statFails _
      rcases Prod.mk.inj (Option.some.inj moved) with ⟨rfl, rfl⟩
      exact .object phase key etag statFails
    · rename_i error listed
      rcases Prod.mk.inj (Option.some.inj moved) with ⟨rfl, rfl⟩
      exact .unplanned phase error listed
    · rcases Prod.mk.inj (Option.some.inj moved) with ⟨rfl, rfl⟩
      exact .planned phase
  · split at moved
    · rename_i why
      rcases Prod.mk.inj (Option.some.inj moved) with ⟨rfl, rfl⟩
      refine .leave phase ?_
      cases next : run.next with
      | none => exact .inl fun task member => Run.next_none next member
      | some index => exact .inr (by simpa [next] using why)
    · rcases Prod.mk.inj (Option.some.inj moved) with ⟨rfl, rfl⟩
      exact .acquire phase
  · split at moved
    · rename_i cancelled
      rcases Prod.mk.inj (Option.some.inj moved) with ⟨rfl, rfl⟩
      exact .release phase cancelled
    · rename_i uncancelled
      split at moved
      · cases moved
      · split at moved
        · cases moved
        · rename_i index _ _ task found
          split at moved
          · rcases Prod.mk.inj (Option.some.inj moved) with ⟨rfl, rfl⟩
            exact .dispatch phase (Bool.eq_false_iff.mpr uncancelled) _ task found
          · cases moved
  · split at moved
    · cases moved
    · rename_i idle
      have idle : run.live = 0 := by omega
      split at moved
      · rename_i error failed
        rcases Prod.mk.inj (Option.some.inj moved) with ⟨rfl, rfl⟩
        exact .failed phase idle (by rw [failed]; exact Option.some_ne_none _)
      · rename_i unfailed
        split at moved
        · rename_i paused
          rcases Prod.mk.inj (Option.some.inj moved) with ⟨rfl, rfl⟩
          exact .paused phase idle paused
        · rename_i unpaused
          have unpaused := Bool.eq_false_iff.mpr unpaused
          split at moved
          · rcases Prod.mk.inj (Option.some.inj moved) with ⟨rfl, rfl⟩
            exact .done phase idle unfailed unpaused
          · rename_i state
            rcases Prod.mk.inj (Option.some.inj moved) with ⟨rfl, rfl⟩
            exact .other phase idle unfailed unpaused state
  · rcases Prod.mk.inj (Option.some.inj moved) with ⟨rfl, rfl⟩
    exact .persist phase
  · rcases Prod.mk.inj (Option.some.inj moved) with ⟨rfl, rfl⟩
    exact .quit phase
  · cases moved

/-- The steps of the goroutine of an action. -/
inductive Worked (env : Env) (run : Run) (index : Nat) (task : Task) (input : Input)
    (world : World) : Run -> Bool -> World -> Prop
  | turnBack (status : task.status = .started) (told : run.paused = true ∨ run.cancelled = true) :
      Worked env run index task input world (run.mark index task .stopped) false world
  | check (status : task.status = .started) (unpaused : run.paused = false) :
      Worked env run index task input world (run.mark index task .checked) false world
  | giveUp (status : task.status = .checked) (failed : run.job.state = .error) :
      Worked env run index task input world (run.mark index task .stopped) false world
  | skip (status : task.status = .checked) (type : task.action.type = .skip) :
      Worked env run index task input world (run.mark index task .skipping) false world
  | copy (status : task.status = .checked) :
      Worked env run index task input world
        { run.mark index task .copying with copies := run.copies + 1 } false world
  | skipped (status : task.status = .skipping) :
      Worked env run index task input world
        { run.mark index task .finished with
          job := { run.job with objectsSkipped := run.job.objectsSkipped + 1 } } true world
  | attempt (status : task.status = .copying) :
      Worked env run index task input world
        (run.mark index task (env.attempt task.action input world).1) false
        (env.attempt task.action input world).2
  | copied (status : task.status = .copied) :
      Worked env run index task input world
        { run.mark index task .finished with
          job := { run.job with objectsCopied := run.job.objectsCopied + 1 } } true world
  | refuse (error : String) (status : task.status = .refused error)
    (unpaused : run.paused = false) :
      Worked env run index task input world
        { run.mark index task .failing with firstErr := some error, job := run.job.fail error }
        false world
  | drop (error : String) (status : task.status = .refused error)
      (why : run.firstErr ≠ none ∨ run.paused = true ∨ run.job.state = .paused) :
      Worked env run index task input world (run.mark index task .stopped) false world
  | recover (error text : String) (status : task.status = .broken error)
      (unfailed : run.firstErr = none) :
      Worked env run index task input world
        { run.mark index task .panicked with firstErr := some text, job := run.job.fail text }
        true world
  | recoverAgain (error : String) (status : task.status = .broken error)
      (failed : run.firstErr ≠ none) :
      Worked env run index task input world (run.mark index task .panicked) false world
  | fail (status : task.status = .failing) :
      Worked env run index task input world
        { run.mark index task .stopped with cancelled := true } true world
  | unwind (status : task.status = .panicked) :
      Worked env run index task input world
        { run.mark index task .stopped with cancelled := true } false world

theorem Run.guarded_worked {env : Env} {run next : Run} {index : Nat} {task : Task} {input : Input}
    {world : World} {saves : Bool} (guarded : run.guarded index task = some (next, saves)) :
    Worked env run index task input world next saves world := by
  unfold Run.guarded at guarded
  split at guarded
  · rename_i status
    split at guarded
    · rename_i failed
      rcases Prod.mk.inj (Option.some.inj guarded) with ⟨rfl, rfl⟩
      exact .giveUp status failed
    · split at guarded
      · rename_i type
        rcases Prod.mk.inj (Option.some.inj guarded) with ⟨rfl, rfl⟩
        exact .skip status type
      · rcases Prod.mk.inj (Option.some.inj guarded) with ⟨rfl, rfl⟩
        exact .copy status
  · rename_i status
    rcases Prod.mk.inj (Option.some.inj guarded) with ⟨rfl, rfl⟩
    exact .skipped status
  · rename_i status
    rcases Prod.mk.inj (Option.some.inj guarded) with ⟨rfl, rfl⟩
    exact .copied status
  · rename_i error status
    rcases Prod.mk.inj (Option.some.inj guarded) with ⟨rfl, rfl⟩
    unfold Run.refuse
    split
    · rename_i first
      exact .refuse error status first.2.1
    · rename_i later
      refine .drop error status ?_
      by_cases failed : run.firstErr = none
      · cases paused : run.paused with
        | true => exact .inr (.inl rfl)
        | false =>
            by_cases state : run.job.state = .paused
            · exact .inr (.inr state)
            · exact absurd ⟨failed, paused, state⟩ later
      · exact .inl failed
  · rename_i error status
    have same := Option.some.inj guarded
    unfold Run.recover at same
    split at same
    · rename_i failed
      rcases Prod.mk.inj same with ⟨rfl, rfl⟩
      exact .recoverAgain error status (by rw [failed]; exact Option.some_ne_none _)
    · rename_i unfailed
      rcases Prod.mk.inj same with ⟨rfl, rfl⟩
      exact .recover error _ status unfailed
  · cases guarded

theorem Run.worked {env : Env} {run next : Run} {index : Nat} {input : Input} {world after : World}
    {saves : Bool} (worked : run.work env index input world = some (next, saves, after)) :
    Exists fun task => run.tasks[index]? = some task ∧
      Worked env run index task input world next saves after := by
  unfold Run.work at worked
  split at worked
  · cases worked
  · rename_i task found
    refine ⟨task, found, ?_⟩
    split at worked
    · rename_i status
      cases Option.some.inj worked
      cases told : run.paused || run.cancelled with
      | true =>
          rw [if_pos rfl]
          exact .turnBack status (by simpa using told)
      | false =>
          rw [if_neg Bool.false_ne_true]
          exact .check status (Bool.or_eq_false_iff.mp told).1
    · rename_i status
      cases Option.some.inj worked
      exact .attempt status
    · rename_i status
      cases Option.some.inj worked
      exact .fail status
    · rename_i status
      cases Option.some.inj worked
      exact .unwind status
    · split at worked
      · cases worked
      · rcases Option.map_eq_some_iff.mp worked with ⟨result, guarded, same⟩
        rcases result with ⟨other, flag⟩
        cases same
        exact Run.guarded_worked guarded

/-! ## The system -/

/-- A call of `Pause` or `Resume` that is not finished, or a `Run` that is about to register. -/
inductive Call where
  | pauseLoaded (job : Job)
  | pauseFound (job : Job) (run : Nat)
  | pauseFlagged (job : Job) (run : Nat)
  | pauseSaving (job : Job) (found : Bool)
  | resumeSaving (job : Job)
  | launching (job : Job)
  deriving DecidableEq, Repr

/-- The saved job, the registry entry, the runs and the calls.  `held` records that a `Pause` has
returned nil when no run had decided that the job is done. -/
structure System where
  disk : Job
  active : Option Nat
  runs : SortedStore Nat Run
  calls : SortedStore Nat Call
  world : World
  held : Bool

inductive Event where
  | pause (call : Nat)
  | resume (call : Nat)
  | launch (call : Nat) (job : Job)
  | call (call : Nat) (input : Input)
  | run (id : Nat) (input : Input)
  | work (id : Nat) (index : Nat) (input : Input)

def System.saving (system : System) (saves : Bool) (job : Job) (input : Input) : Job :=
  if saves && input.saved then job else system.disk

def System.withRun (system : System) (id : Nat) (change : Run -> Run) : System :=
  match system.runs.get? id with
  | none => system
  | some run => { system with runs := system.runs.put id (change run) }

def System.withCall (system : System) (id : Nat) (call : Call) : System :=
  { system with calls := system.calls.put id call }

def System.unfinished (system : System) : Bool :=
  system.runs.entries.all fun entry => entry.2.outcome ≠ some .done

/-- `registerRun`, for the run of a call. -/
def System.register (system : System) (id : Nat) (job : Job) : System :=
  let replaced := match system.active with
    | none => system
    | some previous => system.withRun previous fun run => { run with cancelled := true }
  { replaced with
    runs := replaced.runs.put id { job }
    active := some id
    calls := system.calls.erase id }

/-- The next step of a call. -/
def System.advance (system : System) (id : Nat) (input : Input) : Call -> Option System
  | .pauseLoaded job =>
      match system.active with
      | some run => some (system.withCall id (.pauseFound job run))
      | none => some (system.withCall id (.pauseSaving job false))
  | .pauseFound job run =>
      some ((system.withRun run fun run => { run with paused := true }).withCall id
        (.pauseFlagged job run))
  | .pauseFlagged job run =>
      some ((system.withRun run fun run => { run with cancelled := true }).withCall id
        (.pauseSaving job true))
  | .pauseSaving job _ =>
      if input.saved then
        some { system with
          disk := job.enter .paused
          calls := system.calls.erase id
          held := system.held || system.unfinished }
      else some { system with calls := system.calls.erase id }
  | .resumeSaving job =>
      if input.saved then some { system.withCall id (.launching job) with disk := job }
      else some { system with calls := system.calls.erase id }
  | .launching job =>
      if (system.runs.get? id).isSome then none else some (system.register id job)

def step (env : Env) (system : System) : Event -> Option System
  | .pause id =>
      if (system.calls.get? id).isSome then none
      else if system.disk.state = .running ∨ system.disk.state = .queued then
        some (system.withCall id (.pauseLoaded system.disk))
      else some system
  | .resume id =>
      if (system.calls.get? id).isSome then none
      else if system.disk.state = .paused then
        some (system.withCall id (.resumeSaving (system.disk.enter .running)))
      else some system
  | .launch id job =>
      if (system.calls.get? id).isSome then none else some (system.withCall id (.launching job))
  | .call id input => (system.calls.get? id).bind (system.advance id input)
  | .run id input =>
      match system.runs.get? id with
      | none => none
      | some run =>
          (run.move env input system.world).map fun result =>
            { system with
              runs := system.runs.put id result.1
              disk := system.saving result.2 result.1.job input
              active := if result.1.phase = .returned ∧ system.active = some id then none
                else system.active }
  | .work id index input =>
      match system.runs.get? id with
      | none => none
      | some run =>
          (run.work env index input system.world).map fun result =>
            { system with
              runs := system.runs.put id result.1
              disk := system.saving result.2.1 result.1.job input
              world := result.2.2 }

/-- What a step of the system does. -/
inductive Stepped (env : Env) (system : System) : Event -> System -> Prop where
  | pausing (id : Nat) (free : system.calls.get? id = none) :
      Stepped env system (.pause id) (system.withCall id (.pauseLoaded system.disk))
  | pauseRefused (id : Nat) : Stepped env system (.pause id) system
  | resuming (id : Nat) (free : system.calls.get? id = none) :
      Stepped env system (.resume id)
        (system.withCall id (.resumeSaving (system.disk.enter .running)))
  | resumeRefused (id : Nat) : Stepped env system (.resume id) system
  | launched (id : Nat) (job : Job) (free : system.calls.get? id = none) :
      Stepped env system (.launch id job) (system.withCall id (.launching job))
  | advanced (id : Nat) (input : Input) (call : Call) (next : System)
      (found : system.calls.get? id = some call)
      (taken : system.advance id input call = some next) :
      Stepped env system (.call id input) next
  | moved (id : Nat) (input : Input) (run after : Run) (saves : Bool)
      (found : system.runs.get? id = some run)
      (move : run.move env input system.world = some (after, saves)) :
      Stepped env system (.run id input)
        { system with
          runs := system.runs.put id after
          disk := system.saving saves after.job input
          active := if after.phase = .returned ∧ system.active = some id then none
            else system.active }
  | worked (id index : Nat) (input : Input) (run after : Run) (saves : Bool) (world : World)
      (task : Task) (found : system.runs.get? id = some run)
      (work : run.work env index input system.world = some (after, saves, world))
      (listed : run.tasks[index]? = some task)
      (worked : Worked env run index task input system.world after saves world) :
      Stepped env system (.work id index input)
        { system with
          runs := system.runs.put id after
          disk := system.saving saves after.job input
          world }

theorem free_of_get? {calls : SortedStore Nat Call} {id : Nat}
    (unknown : ¬ (calls.get? id).isSome = true) : calls.get? id = none :=
  Option.not_isSome_iff_eq_none.mp unknown

theorem step_stepped {env : Env} {system next : System} {event : Event}
    (taken : step env system event = some next) : Stepped env system event next := by
  cases event with
  | pause id =>
      simp only [step] at taken
      split at taken
      · cases taken
      · rename_i unknown
        split at taken
        · cases Option.some.inj taken
          exact .pausing id (free_of_get? unknown)
        · cases Option.some.inj taken
          exact .pauseRefused id
  | resume id =>
      simp only [step] at taken
      split at taken
      · cases taken
      · rename_i unknown
        split at taken
        · cases Option.some.inj taken
          exact .resuming id (free_of_get? unknown)
        · cases Option.some.inj taken
          exact .resumeRefused id
  | launch id job =>
      simp only [step] at taken
      split at taken
      · cases taken
      · rename_i unknown
        cases Option.some.inj taken
        exact .launched id job (free_of_get? unknown)
  | call id input =>
      rcases Option.bind_eq_some_iff.mp taken with ⟨call, found, advanced⟩
      exact .advanced id input call next found advanced
  | run id input =>
      simp only [step] at taken
      split at taken
      · cases taken
      · rename_i run found
        rcases Option.map_eq_some_iff.mp taken with ⟨⟨after, saves⟩, move, rfl⟩
        exact .moved id input run after saves found move
  | work id index input =>
      simp only [step] at taken
      split at taken
      · cases taken
      · rename_i run found
        rcases Option.map_eq_some_iff.mp taken with ⟨⟨after, saves, world⟩, work, rfl⟩
        rcases Run.worked work with ⟨task, listed, worked⟩
        exact .worked id index input run after saves world task found work listed worked

/-- The create handler has saved the job and is about to run it. -/
def start (job : Job) (world : World) : System :=
  { disk := job
    active := none
    runs := .empty
    calls := SortedStore.empty.put 0 (.launching job)
    world
    held := false }

end Syncs
end Basement
