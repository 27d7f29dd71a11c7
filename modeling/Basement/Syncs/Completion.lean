import Basement.Syncs.Engine

namespace Basement
namespace Syncs

open Library Drivers
open Api (JobState SyncAction ActionType)

/-!
# What a finished sync means

A run gives an action up for one of three reasons: the job is paused, a copy has failed, or its
context is cancelled.  The final transition looks at the first two only.  Both also cancel the
context, so it is right whenever nobody else does; the one who does is a further run of the job
that registers.

While no action is given up for a foreign cancellation, an action that is not finished is
accounted for by the pause flag or by the first error.  This is carried along every interleaving,
together with the objects that the destination has by then.
-/

/-! ## Copies only add objects -/

/-- Every object that is there stays there. -/
def Grows (world after : World) : Prop :=
  forall location, world location ≠ none -> after location ≠ none

theorem Grows.refl (world : World) : Grows world world := fun _ present => present

theorem Env.copy_ok {env : Env} {action : SyncAction} {faults : Faults} {world after : World}
    (copied : env.copy action faults world = .ok after) :
    Grows world after ∧ after (env.dstDriver.at ⟨env.dstBucket, action.dstKey⟩) ≠ none := by
  rcases Api.copyObject_ok_touches copied with ⟨source, _, present, rfl⟩
  constructor
  · intro location held
    by_cases same : location = env.dstDriver.at ⟨env.dstBucket, action.dstKey⟩
    · rw [same, Function.update_self]
      exact present
    · rw [Function.update_of_ne same]
      exact held
  · rw [Function.update_self]
    exact present

theorem Env.attempt_grows (env : Env) (action : SyncAction) (input : Input) (world : World) :
    Grows world (env.attempt action input world).2 := by
  unfold Env.attempt
  split
  · exact Grows.refl world
  · split
    · exact Grows.refl world
    · rename_i copied
      exact (Env.copy_ok copied).1

/-- The three ways in which a `copyObject` ends. -/
theorem Env.attempt_status (env : Env) (action : SyncAction) (input : Input) (world : World) :
    (env.attempt action input world).1 = .copied ∧
        (env.attempt action input world).2
          (env.dstDriver.at ⟨env.dstBucket, action.dstKey⟩) ≠ none ∨
      Exists fun error => (env.attempt action input world).1 = .refused error ∨
        (env.attempt action input world).1 = .broken error := by
  unfold Env.attempt
  split
  · exact .inr ⟨_, .inr rfl⟩
  · split
    · exact .inr ⟨_, .inl rfl⟩
    · rename_i copied
      exact .inl ⟨rfl, (Env.copy_ok copied).2⟩

/-! ## Accounted runs -/

/-- What the final transition looks at, the state of the job apart. -/
def Run.excused (run : Run) : Bool := run.paused || run.firstErr.isSome

/-- The phases in which actions are planned, dispatched and waited for. -/
def Phase.open : Phase -> Bool
  | .planning | .checking | .acquiring | .waiting => true
  | _ => false

/-- The phases in which goroutines of actions run. -/
def Phase.dispatching : Phase -> Bool
  | .checking | .acquiring | .waiting => true
  | _ => false

theorem Phase.open_of_dispatching {phase : Phase} (dispatching : phase.dispatching = true) :
    phase.open = true := by
  cases phase <;> first | rfl | cases dispatching

/-- What is known of an action, by its status. -/
structure Task.Sound (env : Env) (world : World) (run : Run) (task : Task) : Prop where
  key : task.action.dstKey = env.dstKey task.action.srcKey
  skipped : task.action.type = .skip -> world (env.destination task.action.srcKey) ≠ none
  copied : task.status = .copied ∨ task.status = .finished ->
    world (env.destination task.action.srcKey) ≠ none
  skipping : task.status = .skipping -> task.action.type = .skip
  stopped : task.status = .stopped -> run.excused = true
  failed : task.status = .failing ∨ task.status = .panicked -> run.firstErr.isSome = true
  live : task.status.live = true -> run.phase.dispatching = true
  pending : task.status = .pending -> run.phase = .waiting -> run.excused = true
  decided : run.outcome = some .done -> task.status = .finished

structure Run.Sound (env : Env) (world : World) (run : Run) : Prop where
  tasks : forall task, task ∈ run.tasks -> task.Sound env world run
  state : run.phase.open = true -> run.outcome = none ∧
    (run.job.state = .running ∨ run.job.state = .error ∧ run.firstErr.isSome = true)
  fresh : run.phase = .registered -> run.outcome = none

def System.Sound (env : Env) (system : System) : Prop :=
  forall id run, system.runs.get? id = some run -> run.Sound env system.world

theorem Task.Sound.grows {env : Env} {world after : World} {run : Run} {task : Task}
    (sound : task.Sound env world run) (grows : Grows world after) : task.Sound env after run :=
  { sound with
    skipped := fun skip => grows _ (sound.skipped skip)
    copied := fun done => grows _ (sound.copied done) }

theorem Run.Sound.grows {env : Env} {world after : World} {run : Run}
    (sound : run.Sound env world) (grows : Grows world after) : run.Sound env after :=
  { sound with tasks := fun task member => (sound.tasks task member).grows grows }

/-- An action that is left alone stays sound where its run goes. -/
theorem Task.Sound.into {env : Env} {world : World} {run next : Run} {task : Task}
    (sound : task.Sound env world run) (excused : run.excused = true -> next.excused = true)
    (failed : run.firstErr.isSome = true -> next.firstErr.isSome = true)
    (live : task.status.live = true -> next.phase.dispatching = true)
    (pending : task.status = .pending -> next.phase = .waiting -> next.excused = true)
    (decided : next.outcome = some .done -> task.status = .finished) :
    task.Sound env world next :=
  { sound with
    stopped := fun stopped => excused (sound.stopped stopped)
    failed := fun status => failed (sound.failed status)
    live
    pending
    decided }

/-- An action that is left alone stays sound when its run has only more excuses. -/
theorem Task.Sound.later {env : Env} {world : World} {run next : Run} {task : Task}
    (sound : task.Sound env world run) (excused : run.excused = true -> next.excused = true)
    (failed : run.firstErr.isSome = true -> next.firstErr.isSome = true)
    (phase : next.phase = run.phase) (outcome : next.outcome = run.outcome) :
    task.Sound env world next := by
  refine sound.into excused failed ?_ ?_ ?_
  · intro live
    rw [phase]
    exact sound.live live
  · intro pending waiting
    exact excused (sound.pending pending (phase ▸ waiting))
  · intro done
    exact sound.decided (outcome ▸ done)

theorem Run.excused_of_failed {run : Run} (failed : run.firstErr.isSome = true) :
    run.excused = true := by
  rw [Run.excused, failed, Bool.or_true]

theorem Run.excused_of_paused {run : Run} (paused : run.paused = true) : run.excused = true := by
  rw [Run.excused, paused, Bool.true_or]

/-! ## Signals -/

/-- The run with its flag or its context changed by others. -/
structure Run.Signalled (old run : Run) : Prop where
  same : Exists fun paused => Exists fun cancelled => run = { old with paused, cancelled }
  paused : old.paused = true -> run.paused = true
  cancelled : old.cancelled = true -> run.cancelled = true

theorem Run.Signalled.refl (run : Run) : run.Signalled run :=
  ⟨⟨run.paused, run.cancelled, rfl⟩, id, id⟩

theorem Run.Signalled.pause (run : Run) : run.Signalled { run with paused := true } :=
  ⟨⟨true, run.cancelled, rfl⟩, fun _ => rfl, id⟩

theorem Run.Signalled.cancel (run : Run) : run.Signalled { run with cancelled := true } :=
  ⟨⟨run.paused, true, rfl⟩, id, fun _ => rfl⟩

theorem Run.Sound.signalled {env : Env} {world : World} {old run : Run}
    (sound : old.Sound env world) (signalled : old.Signalled run) : run.Sound env world := by
  rcases signalled with ⟨⟨paused, cancelled, rfl⟩, keeps, _⟩
  refine ⟨?_, sound.state, sound.fresh⟩
  intro task member
  refine (sound.tasks task member).later ?_ id rfl rfl
  intro excused
  rcases Bool.or_eq_true_iff.mp excused with before | failed
  · exact Run.excused_of_paused (keeps before)
  · exact Run.excused_of_failed failed

theorem System.get?_withRun (system : System) (id other : Nat) (change : Run -> Run) :
    (system.withRun id change).runs.get? other =
      if other = id then (system.runs.get? id).map change else system.runs.get? other := by
  unfold System.withRun
  cases found : system.runs.get? id with
  | none =>
      by_cases same : other = id
      · rw [if_pos same, same]
        exact found
      · rw [if_neg same]
  | some run => exact SortedStore.get?_put ..

/-- A change of one run that is a signal leaves every run as it was or signalled. -/
theorem System.withRun_signalled {system : System} {id other : Nat}
    {change : Run -> Run} {run : Run} (signal : forall run : Run, run.Signalled (change run))
    (found : (system.withRun id change).runs.get? other = some run) :
    Exists fun old => system.runs.get? other = some old ∧ old.Signalled run := by
  rw [System.get?_withRun] at found
  split at found
  · rename_i same
    rcases Option.map_eq_some_iff.mp found with ⟨old, before, rfl⟩
    exact ⟨old, same ▸ before, signal old⟩
  · exact ⟨run, found, .refl run⟩

theorem System.withRun_keeps {system : System} {id other : Nat} {change : Run -> Run}
    (present : system.runs.get? other ≠ none) :
    (system.withRun id change).runs.get? other ≠ none := by
  rw [System.get?_withRun]
  split
  · rename_i same
    rw [same] at present
    simpa using present
  · exact present

theorem System.withRun_rest (system : System) (id : Nat) (change : Run -> Run) :
    (system.withRun id change).world = system.world ∧
      (system.withRun id change).held = system.held := by
  unfold System.withRun
  split <;> exact ⟨rfl, rfl⟩

/-- A registration cancels at most one run and adds one. -/
theorem System.register_runs {system : System} {id other : Nat} {job : Job} {run : Run}
    (found : (system.register id job).runs.get? other = some run) :
    (Exists fun old => system.runs.get? other = some old ∧ old.Signalled run) ∨
      other = id ∧ run = { job } := by
  simp only [System.register, SortedStore.get?_put] at found
  split at found
  · rename_i same
    exact .inr ⟨same, (Option.some.inj found).symm⟩
  · refine .inl ?_
    split at found
    · exact ⟨run, found, .refl run⟩
    · exact System.withRun_signalled Run.Signalled.cancel found

theorem System.register_keeps {system : System} {id other : Nat} {job : Job}
    (present : system.runs.get? other ≠ none) :
    (system.register id job).runs.get? other ≠ none := by
  simp only [System.register, SortedStore.get?_put]
  split
  · exact Option.some_ne_none _
  · split
    · exact present
    · exact System.withRun_keeps present

theorem System.register_rest (system : System) (id : Nat) (job : Job) :
    (system.register id job).world = system.world ∧
      (system.register id job).held = system.held := by
  unfold System.register
  simp only
  split
  · exact ⟨rfl, rfl⟩
  · exact System.withRun_rest ..

/-- What a call does to the runs, to the world and to a pause that is in force. -/
structure System.Advanced (system next : System) (call : Call) : Prop where
  world : next.world = system.world
  held : system.held = true -> next.held = true
  runs : forall other run, next.runs.get? other = some run ->
    (Exists fun old => system.runs.get? other = some old ∧ old.Signalled run) ∨
      Exists fun job => call = .launching job ∧ run = { job }
  kept : forall other, system.runs.get? other ≠ none -> next.runs.get? other ≠ none

/-- A call that leaves the runs alone. -/
theorem System.Advanced.of_runs {system next : System} {call : Call}
    (world : next.world = system.world) (held : system.held = true -> next.held = true)
    (runs : next.runs = system.runs) : system.Advanced next call := by
  refine ⟨world, held, ?_, ?_⟩
  · intro other run found
    exact .inl ⟨run, runs ▸ found, .refl run⟩
  · intro other present
    rw [runs]
    exact present

/-- A call that signals a run. -/
theorem System.Advanced.of_signal {system : System} {call : Call} (id target : Nat) {after : Call}
    {change : Run -> Run} (signal : forall run : Run, run.Signalled (change run)) :
    system.Advanced ((system.withRun target change).withCall id after) call := by
  refine ⟨(System.withRun_rest ..).1, fun held => (System.withRun_rest ..).2.trans held, ?_, ?_⟩
  · exact fun other run found => .inl (System.withRun_signalled signal found)
  · exact fun other => System.withRun_keeps

theorem System.advanced {system next : System} {id : Nat} {input : Input} {call : Call}
    (taken : system.advance id input call = some next) : system.Advanced next call := by
  cases call with
  | pauseLoaded job =>
      simp only [System.advance] at taken
      split at taken <;> cases Option.some.inj taken <;> exact .of_runs rfl (fun held => held) rfl
  | pauseFound job target =>
      cases Option.some.inj taken
      exact .of_signal id target Run.Signalled.pause
  | pauseFlagged job target =>
      cases Option.some.inj taken
      exact .of_signal id target Run.Signalled.cancel
  | pauseSaving job found =>
      simp only [System.advance] at taken
      split at taken
      · cases Option.some.inj taken
        refine .of_runs rfl ?_ rfl
        intro held
        rw [held, Bool.true_or]
      · cases Option.some.inj taken
        exact .of_runs rfl (fun held => held) rfl
  | resumeSaving job =>
      simp only [System.advance] at taken
      split at taken <;> cases Option.some.inj taken <;> exact .of_runs rfl (fun held => held) rfl
  | launching job =>
      simp only [System.advance] at taken
      split at taken
      · cases taken
      · cases Option.some.inj taken
        refine ⟨(System.register_rest ..).1, fun held => (System.register_rest ..).2.trans held, ?_,
          fun other => System.register_keeps⟩
        intro other run found
        rcases System.register_runs found with signalled | ⟨_, fresh⟩
        · exact .inl signalled
        · exact .inr ⟨job, rfl, fresh⟩

theorem Run.Sound.new (env : Env) (world : World) (job : Job) : Run.Sound env world { job } := by
  refine ⟨?_, ?_, fun _ => rfl⟩
  · intro task member
    cases member
  · intro impossible
    cases impossible

/-! ## Steps of a run -/

/-- The run is about to leave undispatched actions for a cancellation that is not its own. -/
def Run.abandons (run : Run) : Bool :=
  (run.phase = .checking && run.next.isSome || run.phase = .acquiring) && run.cancelled &&
    !run.excused

/-- The goroutine of an action is about to give up for a cancellation that is not its run's own. -/
def Run.forsakes (run : Run) (index : Nat) : Bool :=
  run.tasks[index]?.any (fun task => task.status = .started) && run.cancelled && !run.excused

theorem Run.idle {run : Run} (idle : run.live = 0) {task : Task} (member : task ∈ run.tasks) :
    task.status.live = false := by
  have none_ := List.countP_eq_zero.mp idle task member
  simpa using none_

theorem Run.mem_mark {run : Run} {index : Nat} {task other : Task} {status : Status}
    (member : other ∈ (run.mark index task status).tasks) :
    other ∈ run.tasks ∨ other = { task with status } :=
  List.mem_or_eq_of_mem_set member

theorem Env.plan_dstKey (env : Env) (world : World) (key etag : String) (statFails : Bool) :
    (env.plan world key etag statFails).dstKey =
      env.dstKey (env.plan world key etag statFails).srcKey := by
  unfold Env.plan
  split <;> rfl

/-- `Plan` takes an action for a skip only when the destination has the object. -/
theorem Env.plan_skip {env : Env} {world : World} {key etag : String} {statFails : Bool}
    (skip : (env.plan world key etag statFails).type = .skip) :
    world (env.destination (env.plan world key etag statFails).srcKey) ≠ none := by
  unfold Env.plan at skip ⊢
  split at skip
  · rename_i matched
    rw [if_pos matched]
    intro absent
    have tagged := matched.2
    rw [absent] at tagged
    cases tagged
  · cases skip

/-- The run goes on to another phase with its actions. -/
theorem Run.Sound.proceed {env : Env} {world : World} {run : Run} (sound : run.Sound env world)
    (before : run.phase.open = true) {phase : Phase} (after : phase.dispatching = true) {job : Job}
    (state : job.state = run.job.state)
    (pending : phase = .waiting -> forall task, task ∈ run.tasks -> task.status = .pending ->
      run.excused = true) :
    Run.Sound env world { run with job, phase } := by
  have known := sound.state before
  refine ⟨?_, ?_, ?_⟩
  · intro task member
    refine (sound.tasks task member).into id id (fun _ => after) ?_
      (sound.tasks task member).decided
    exact fun status waiting => pending waiting task member status
  · intro _
    refine ⟨known.1, ?_⟩
    rw [state]
    exact known.2
  · intro _
    exact known.1

/-- The run decides how the job ended, or goes on after that. -/
theorem Run.Sound.close {env : Env} {world : World} {run : Run} (sound : run.Sound env world)
    {phase : Phase} (after : phase.open = false) (left : phase ≠ .registered) (job : Job)
    (cancelled persisted : Bool) {outcome : Option JobState}
    (idle : forall task, task ∈ run.tasks -> task.status.live = false)
    (decided : outcome = some .done -> forall task, task ∈ run.tasks -> task.status = .finished) :
    Run.Sound env world { run with job, phase, cancelled, persisted, outcome } := by
  refine ⟨?_, ?_, fun impossible => absurd impossible left⟩
  · intro task member
    refine (sound.tasks task member).into id id ?_ ?_ fun done => decided done task member
    · intro live
      rw [idle task member] at live
      cases live
    · intro _ waiting
      rw [show phase = .waiting from waiting] at after
      cases after
  · intro impossible
    rw [show phase.open = true from impossible] at after
    cases after

/-- No goroutine runs before the dispatch and after the wait. -/
theorem Run.Sound.idle {env : Env} {world : World} {run : Run} (sound : run.Sound env world)
    (closed : run.phase.dispatching = false) (task : Task) (member : task ∈ run.tasks) :
    task.status.live = false := by
  cases live : task.status.live with
  | false => rfl
  | true =>
      have impossible := (sound.tasks task member).live live
      rw [closed] at impossible
      cases impossible

/-- A run that neither is paused nor has failed has finished what it has waited for. -/
theorem Run.Sound.finished {env : Env} {world : World} {run : Run} (sound : run.Sound env world)
    (phase : run.phase = .waiting) (idle : run.live = 0) (unexcused : run.excused = false)
    (task : Task) (member : task ∈ run.tasks) : task.status = .finished := by
  have resting := Run.idle idle member
  have known := sound.tasks task member
  cases status : task.status with
  | finished => rfl
  | pending =>
      have impossible := known.pending status phase
      rw [unexcused] at impossible
      cases impossible
  | stopped =>
      have impossible := known.stopped status
      rw [unexcused] at impossible
      cases impossible
  | started | checked | skipping | copying | copied | refused | broken | failing | panicked =>
      rw [status] at resting
      cases resting

theorem Run.undone {env : Env} {world : World} {run : Run} (sound : run.Sound env world)
    (before : run.phase.open = true) : run.outcome ≠ some .done := by
  rw [(sound.state before).1]
  exact Option.some_ne_none _ ∘ Eq.symm

/-- What a run has to be for an action of it to take a status. -/
structure Run.Fits (env : Env) (world : World) (run : Run) (task : Task) (status : Status) :
    Prop where
  unpending : status ≠ .pending
  copied : status = .copied ∨ status = .finished ->
    world (env.destination task.action.srcKey) ≠ none
  skipping : status = .skipping -> task.action.type = .skip
  stopped : status = .stopped -> run.excused = true
  flagged : status = .failing ∨ status = .panicked -> run.firstErr.isSome = true

section Fits

variable {env : Env} {world : World} {run : Run} {task : Task} {status : Status}

theorem Run.Fits.plain (plain : status = .started ∨ status = .checked ∨ status = .copying ∨
      Exists fun error => status = .refused error ∨ status = .broken error) :
    run.Fits env world task status := by
  rcases plain with rfl | rfl | rfl | ⟨error, rfl | rfl⟩ <;>
    exact ⟨by simp, by simp, by simp, by simp, by simp⟩

theorem Run.Fits.land (landed : status = .copied ∨ status = .finished)
    (present : world (env.destination task.action.srcKey) ≠ none) :
    run.Fits env world task status := by
  rcases landed with rfl | rfl <;>
    exact ⟨by simp, fun _ => present, by simp, by simp, by simp⟩

theorem Run.Fits.skip (type : task.action.type = .skip) : run.Fits env world task .skipping :=
  ⟨by simp, by simp, fun _ => type, by simp, by simp⟩

theorem Run.Fits.stop (excused : run.excused = true) : run.Fits env world task .stopped :=
  ⟨by simp, by simp, by simp, fun _ => excused, by simp⟩

theorem Run.Fits.fail (failing : status = .failing ∨ status = .panicked)
    (failed : run.firstErr.isSome = true) : run.Fits env world task status := by
  rcases failing with rfl | rfl <;>
    exact ⟨by simp, by simp, by simp, by simp, fun _ => failed⟩

end Fits

/-- One action takes a step, while goroutines run. -/
theorem Run.Sound.mark {env : Env} {world after : World} {run next : Run} {index : Nat}
    {task : Task} (sound : run.Sound env world) (found : run.tasks[index]? = some task)
    (status : Status) (tasks : next.tasks = (run.mark index task status).tasks)
    (grows : Grows world after) (excused : run.excused = true -> next.excused = true)
    (failed : run.firstErr.isSome = true -> next.firstErr.isSome = true)
    (dispatching : next.phase.dispatching = true)
    (waiting : next.phase = .waiting -> run.phase = .waiting) (outcome : next.outcome = none)
    (state : next.job.state = .running ∨ next.job.state = .error ∧ next.firstErr.isSome = true)
    (fits : next.Fits env after task status) : next.Sound env after := by
  refine ⟨?_, fun _ => ⟨outcome, state⟩, fun _ => outcome⟩
  intro other member
  rw [tasks] at member
  rcases Run.mem_mark member with old | rfl
  · have known := (sound.tasks other old).grows grows
    refine known.into excused failed (fun _ => dispatching) ?_ ?_
    · exact fun pending waits => excused (known.pending pending (waiting waits))
    · intro done
      rw [outcome] at done
      cases done
  · have known := (sound.tasks task (List.mem_of_getElem? found)).grows grows
    refine ⟨known.key, known.skipped, fits.copied, fits.skipping, fits.stopped, fits.flagged,
      fun _ => dispatching, ?_, ?_⟩
    · exact fun pending _ => absurd pending fits.unpending
    · intro done
      rw [outcome] at done
      cases done

/-- One action takes a step, and nothing else changes in the run that is known of it. -/
theorem Run.Sound.advance {env : Env} {world after : World} {run next : Run} {index : Nat}
    {task : Task} (sound : run.Sound env world) (found : run.tasks[index]? = some task)
    (live : task.status.live = true) (status : Status)
    (tasks : next.tasks = (run.mark index task status).tasks) (grows : Grows world after)
    (kept : next.phase = run.phase ∧ next.outcome = run.outcome ∧
      next.job.state = run.job.state ∧ next.firstErr = run.firstErr ∧ next.excused = run.excused)
    (fits : next.Fits env after task status) : next.Sound env after := by
  have dispatching := (sound.tasks task (List.mem_of_getElem? found)).live live
  have known := sound.state (Phase.open_of_dispatching dispatching)
  rcases kept with ⟨phase, outcome, state, firstErr, excused⟩
  apply sound.mark found status tasks grows
  · exact excused ▸ id
  · exact firstErr ▸ id
  · rw [phase]
    exact dispatching
  · exact phase ▸ id
  · rw [outcome]
    exact known.1
  · rw [state, firstErr]
    exact known.2
  · exact fits

/-- A listed object becomes a sound action. -/
theorem Task.Sound.new {env : Env} {world : World} {run : Run} (key etag : String)
    (statFails : Bool) (phase : run.phase ≠ .waiting) (undone : run.outcome ≠ some .done) :
    Task.Sound env world run ⟨env.plan world key etag statFails, .pending⟩ := by
  refine ⟨env.plan_dstKey .., Env.plan_skip, ?_, ?_, ?_, ?_, ?_, ?_, ?_⟩
  · rintro (impossible | impossible) <;> cases impossible
  · intro impossible
    cases impossible
  · intro impossible
    cases impossible
  · rintro (impossible | impossible) <;> cases impossible
  · intro impossible
    cases impossible
  · intro _ waiting
    exact absurd waiting phase
  · intro done
    exact absurd done undone

/-- A step of the run itself keeps what is known of it. -/
theorem Run.Sound.moved {env : Env} {world : World} {run next : Run} {input : Input} {saves : Bool}
    (sound : run.Sound env world) (moved : Moved env run input world next saves)
    (stays : run.abandons = false) : next.Sound env world := by
  cases moved with
  | begin phase =>
      have fresh := sound.fresh phase
      refine ⟨?_, fun _ => ⟨fresh, .inl rfl⟩, fun impossible => by cases impossible⟩
      intro task member
      refine (sound.tasks task member).into id id ?_ ?_ (sound.tasks task member).decided
      · intro live
        rw [sound.idle (by rw [phase]; rfl) task member] at live
        cases live
      · intro _ impossible
        cases impossible
  | object phase key etag statFails =>
      have undone := Run.undone sound (by rw [phase]; rfl)
      refine ⟨?_, sound.state, sound.fresh⟩
      intro task member
      rcases List.mem_append.mp member with old | new
      · exact (sound.tasks task old).later id id rfl rfl
      · rw [List.mem_singleton.mp new]
        exact Task.Sound.new key etag statFails (by simp [phase]) undone
  | unplanned phase error listed =>
      exact sound.close rfl (by simp) _ _ _ (sound.idle (by rw [phase]; rfl))
        fun impossible => by cases impossible
  | planned phase =>
      exact sound.proceed (by rw [phase]; rfl) rfl rfl fun impossible => by cases impossible
  | leave phase why =>
      refine sound.proceed (by rw [phase]; rfl) rfl rfl ?_
      intro _ task member pending
      rcases why with done | paused | ⟨some_, cancelled⟩
      · exact absurd pending (done task member)
      · exact Run.excused_of_paused paused
      · simpa [Run.abandons, phase, some_, cancelled] using stays
  | acquire phase =>
      exact sound.proceed (by rw [phase]; rfl) rfl rfl fun impossible => by cases impossible
  | release phase cancelled =>
      refine sound.proceed (by rw [phase]; rfl) rfl rfl ?_
      intro _ task member pending
      simpa [Run.abandons, phase, cancelled] using stays
  | dispatch phase cancelled index task found =>
      have known := sound.state (by rw [phase]; rfl)
      exact sound.mark found .started rfl (Grows.refl world) id id rfl
        (fun impossible => by cases impossible) known.1 known.2 (.plain (by simp))
  | failed phase idle failed =>
      exact sound.close rfl (by simp) _ _ _ (fun task => Run.idle idle)
        fun impossible => by cases impossible
  | paused phase idle paused =>
      exact sound.close rfl (by simp) _ _ _ (fun task => Run.idle idle)
        fun impossible => by cases impossible
  | done phase idle unfailed unpaused =>
      refine sound.close rfl (by simp) _ _ _ (fun task => Run.idle idle) ?_
      intro _ task member
      exact sound.finished phase idle (by rw [Run.excused, unpaused, unfailed]; rfl) task member
  | other phase idle unfailed unpaused state =>
      rcases (sound.state (by rw [phase]; rfl)).2 with running | ⟨_, failed⟩
      · exact absurd running state
      · rw [unfailed] at failed
        cases failed
  | persist phase =>
      refine sound.close rfl (by simp) _ _ _ (sound.idle (by rw [phase]; rfl)) ?_
      exact fun done task member => (sound.tasks task member).decided done
  | quit phase =>
      refine sound.close rfl (by simp) _ _ _ (sound.idle (by rw [phase]; rfl)) ?_
      exact fun done task member => (sound.tasks task member).decided done

/-- A step of the goroutine of an action keeps what is known of the run. -/
theorem Run.Sound.worked {env : Env} {world after : World} {run next : Run} {index : Nat}
    {task : Task} {input : Input} {saves : Bool} (sound : run.Sound env world)
    (found : run.tasks[index]? = some task)
    (worked : Worked env run index task input world next saves after)
    (stays : run.forsakes index = false) : next.Sound env after := by
  have known := sound.tasks task (List.mem_of_getElem? found)
  have rest (status : task.status.live = true) : run.phase.dispatching = true ∧ run.outcome = none ∧
      (run.job.state = .running ∨ run.job.state = .error ∧ run.firstErr.isSome = true) := by
    have dispatching := known.live status
    exact ⟨dispatching, sound.state (Phase.open_of_dispatching dispatching)⟩
  cases worked with
  | turnBack status told =>
      have excused : run.excused = true := by
        rcases told with paused | cancelled
        · exact Run.excused_of_paused paused
        · simpa [Run.forsakes, found, status, cancelled] using stays
      exact sound.advance found (by rw [status]; rfl) .stopped rfl (Grows.refl world)
        ⟨rfl, rfl, rfl, rfl, rfl⟩ (.stop excused)
  | check status unpaused =>
      exact sound.advance found (by rw [status]; rfl) .checked rfl (Grows.refl world)
        ⟨rfl, rfl, rfl, rfl, rfl⟩ (.plain (by simp))
  | giveUp status failed =>
      have ⟨_, _, state⟩ := rest (by rw [status]; rfl)
      have failed : run.firstErr.isSome = true := by
        rcases state with running | ⟨_, failed⟩
        · rw [running] at failed
          cases failed
        · exact failed
      exact sound.advance found (by rw [status]; rfl) .stopped rfl (Grows.refl world)
        ⟨rfl, rfl, rfl, rfl, rfl⟩ (.stop (Run.excused_of_failed failed))
  | skip status type =>
      exact sound.advance found (by rw [status]; rfl) .skipping rfl (Grows.refl world)
        ⟨rfl, rfl, rfl, rfl, rfl⟩ (.skip type)
  | copy status =>
      exact sound.advance found (by rw [status]; rfl) .copying rfl (Grows.refl world)
        ⟨rfl, rfl, rfl, rfl, rfl⟩ (.plain (by simp))
  | skipped status =>
      exact sound.advance found (by rw [status]; rfl) .finished rfl (Grows.refl world)
        ⟨rfl, rfl, rfl, rfl, rfl⟩ (.land (.inr rfl) (known.skipped (known.skipping status)))
  | attempt status =>
      apply sound.advance found (by rw [status]; rfl) _ rfl
        (env.attempt_grows task.action input world) ⟨rfl, rfl, rfl, rfl, rfl⟩
      rcases env.attempt_status task.action input world with
        ⟨ended, present⟩ | ⟨error, ended | ended⟩
      · rw [known.key] at present
        exact .land (.inl ended) present
      · exact .plain (by simp [ended])
      · exact .plain (by simp [ended])
  | copied status =>
      exact sound.advance found (by rw [status]; rfl) .finished rfl (Grows.refl world)
        ⟨rfl, rfl, rfl, rfl, rfl⟩ (.land (.inr rfl) (known.copied (.inl status)))
  | refuse error status unpaused =>
      have ⟨dispatching, outcome, _⟩ := rest (by rw [status]; rfl)
      exact sound.mark found .failing rfl (Grows.refl world) (fun _ => Run.excused_of_failed rfl)
        (fun _ => rfl) dispatching id outcome (.inr ⟨rfl, rfl⟩) (.fail (.inl rfl) rfl)
  | drop error status why =>
      have ⟨_, _, state⟩ := rest (by rw [status]; rfl)
      have excused : run.excused = true := by
        rcases why with failed | paused | impossible
        · exact Run.excused_of_failed (Option.isSome_iff_ne_none.mpr failed)
        · exact Run.excused_of_paused paused
        · rcases state with running | ⟨failed, _⟩
          · rw [running] at impossible
            cases impossible
          · rw [failed] at impossible
            cases impossible
      exact sound.advance found (by rw [status]; rfl) .stopped rfl (Grows.refl world)
        ⟨rfl, rfl, rfl, rfl, rfl⟩ (.stop excused)
  | recover error text status unfailed =>
      have ⟨dispatching, outcome, _⟩ := rest (by rw [status]; rfl)
      exact sound.mark found .panicked rfl (Grows.refl world) (fun _ => Run.excused_of_failed rfl)
        (fun _ => rfl) dispatching id outcome (.inr ⟨rfl, rfl⟩) (.fail (.inr rfl) rfl)
  | recoverAgain error status failed =>
      exact sound.advance found (by rw [status]; rfl) .panicked rfl (Grows.refl world)
        ⟨rfl, rfl, rfl, rfl, rfl⟩ (.fail (.inr rfl) (Option.isSome_iff_ne_none.mpr failed))
  | fail status =>
      have excused := Run.excused_of_failed (known.failed (.inl status))
      exact sound.advance found (by rw [status]; rfl) .stopped rfl (Grows.refl world)
        ⟨rfl, rfl, rfl, rfl, rfl⟩ (.stop excused)
  | unwind status =>
      have excused := Run.excused_of_failed (known.failed (.inr status))
      exact sound.advance found (by rw [status]; rfl) .stopped rfl (Grows.refl world)
        ⟨rfl, rfl, rfl, rfl, rfl⟩ (.stop excused)

theorem Worked.grows {env : Env} {world after : World} {run next : Run} {index : Nat} {task : Task}
    {input : Input} {saves : Bool} (worked : Worked env run index task input world next saves after)
    : Grows world after := by
  cases worked with
  | attempt => exact env.attempt_grows task.action input world
  | _ => exact Grows.refl world

/-! ## Runs of the system -/

/-- The step gives an action up for the cancellation by a run that registers. -/
def System.contested (system : System) : Event -> Bool
  | .run id _ => (system.runs.get? id).any Run.abandons
  | .work id index _ => (system.runs.get? id).any fun run => run.forsakes index
  | _ => false

theorem System.Sound.put {env : Env} {system next : System} {id : Nat} {run : Run}
    (sound : system.Sound env) (runs : next.runs = system.runs.put id run)
    (grows : Grows system.world next.world) (run_ : run.Sound env next.world) : next.Sound env := by
  have kept : system.runs.Every fun _ run => run.Sound env next.world :=
    fun other found present => (sound other found present).grows grows
  unfold System.Sound
  rw [runs]
  exact kept.put run_

theorem System.Sound.step {env : Env} {system next : System} {event : Event}
    (sound : system.Sound env) (uncontested : system.contested event = false)
    (taken : step env system event = some next) : next.Sound env := by
  cases step_stepped taken with
  | pausing id free => exact sound
  | pauseRefused id => exact sound
  | resuming id free => exact sound
  | resumeRefused id => exact sound
  | launched id job free => exact sound
  | advanced id input call next found advanced =>
      have moved := System.advanced advanced
      intro other run found
      rw [moved.world]
      rcases moved.runs other run found with ⟨old, before, signalled⟩ | ⟨job, _, rfl⟩
      · exact (sound other old before).signalled signalled
      · exact Run.Sound.new env system.world job
  | moved id input run after saves found move =>
      have stays : run.abandons = false := by simpa [System.contested, found] using uncontested
      exact sound.put rfl (Grows.refl _) ((sound id run found).moved (Run.moved move) stays)
  | worked id index input run after saves world task found work listed worked =>
      have stays : run.forsakes index = false := by
        simpa [System.contested, found] using uncontested
      exact sound.put rfl worked.grows ((sound id run found).worked listed worked stays)

/-- Every action of the plan was a skip or a copy that returned success, and the destination has
the object of every listed key. -/
structure Run.Complete (env : Env) (world : World) (run : Run) : Prop where
  finished : forall task, task ∈ run.tasks -> task.status = .finished
  present : forall task, task ∈ run.tasks -> world (env.destination task.action.srcKey) ≠ none

theorem System.Sound.start (env : Env) (job : Job) (world : World) :
    (start job world).Sound env := by
  intro id run found
  cases found

/-- Whatever the listing, the limit, the scheduling and the calls: while no action is given up for
the cancellation by a further run, a run that ends done has done everything. -/
theorem done_means_done (env : Env) (job : Job) (world : World) {events : List Event}
    {final : System} (met : Transition.Meets (step env)
    (fun system event => system.contested event = false)
      (start job world) events)
    (reached : Transition.exec (step env) (start job world) events = some final)
    {id : Nat} {run : Run} (found : final.runs.get? id = some run)
    (done : run.outcome = some .done) : run.Complete env final.world := by
  have sound : final.Sound env :=
    Transition.exec_invariant_of_meets
      (fun _ _ _ before uncontested taken => before.step uncontested taken)
      (System.Sound.start env job world) met reached
  have finished : forall task, task ∈ run.tasks -> task.status = .finished :=
    fun task member => ((sound id run found).tasks task member).decided done
  exact ⟨finished, fun task member =>
    ((sound id run found).tasks task member).copied (.inr (finished task member))⟩

/-- A Garage cluster on each side, and no prefixes. -/
def sampleEnv : Env where
  maxConcurrency := 4
  srcDriver := ⟨"https://src", ⟨"garage", false⟩⟩
  dstDriver := ⟨"https://dst", ⟨"garage", false⟩⟩
  srcBucket := "photos"
  srcPrefix := ""
  dstBucket := "mirror"
  dstPrefix := ""
  etag := StoredObject.contentType

/-- One object in the source. -/
def sampleWorld : World := fun location =>
  if location = ⟨"https://src", "photos", "a.png"⟩ then some ⟨[1, 2], "image/png"⟩ else none

/-- The run of the create handler registers, plans the one object and asks for a slot. -/
def dispatchEvents : List Event :=
  [.call 0 {}, .run 0 {}, .run 0 { listed := .object "a.png" "image/png" false }, .run 0 {},
    .run 0 {}]

/-- The object is copied, and the run ends. -/
def copyEvents : List Event :=
  [.run 0 {}, .work 0 0 {}, .work 0 0 {}, .work 0 0 {}, .work 0 0 {}, .run 0 {}, .run 0 {},
    .run 0 {}, .run 0 {}]

def completedRun : System :=
  (Transition.exec (step sampleEnv) (start { state := .queued } sampleWorld)
    (dispatchEvents ++ copyEvents)).getD (start { state := .queued } sampleWorld)

def completedCopy : Run := (completedRun.runs.get? 0).getD { job := { state := .queued } }

theorem done_means_done_copy :
    completedCopy.outcome = some .done ∧ completedCopy.Complete sampleEnv completedRun.world :=
  ⟨by decide, @done_means_done sampleEnv { state := .queued } sampleWorld
    (dispatchEvents ++ copyEvents) completedRun (by decide) rfl 0 completedCopy rfl (by decide)⟩

/-- The job is paused and resumed before its first run registers.  The run of the resume registers
while the first one waits for a slot. -/
def replacedEvents : List Event :=
  [.pause 1, .call 1 {}, .call 1 {}, .resume 2, .call 2 {}] ++ dispatchEvents ++
    [.call 2 {}, .run 0 {}, .run 0 {}, .run 0 {}]

def replacedRun : System :=
  (Transition.exec (step sampleEnv) (start { state := .queued } sampleWorld) replacedEvents).getD
    (start { state := .queued } sampleWorld)

theorem replaced_run_persists_done :
    ¬ forall (env : Env) (job : Job) (world : World) (events : List Event) (final : System),
      Transition.exec (step env) (start job world) events = some final ->
        forall id run, final.runs.get? id = some run -> run.outcome = some .done ->
          run.persisted = true -> run.Complete env final.world := by
  intro stated
  have complete := stated sampleEnv { state := .queued } sampleWorld replacedEvents
    replacedRun rfl 0 _
    rfl rfl rfl
  cases complete.finished _ List.mem_cons_self

end Syncs
end Basement
