import Basement.Syncs.Pausing

namespace Basement
namespace Syncs

open Library Drivers
open Library.Transition
open Api (JobState)

/-!
# The runs of a job and its record

A pause and a resume start a new run of the job while the previous one may still be winding down.
Each run and each pause saves the whole record from its own copy.  The record belongs to the run
that registered last: what it saved last is what should be there, but for the state that a pause
has set meanwhile, or for what a resume has saved for a run that has not registered.

The engine keeps neither the order of the registrations nor what a run has saved; `History` adds
both to the system.
-/

/-! ## The history of a system -/

/-- The system, the runs in the order they registered, the last one first, and what each run has
saved last. -/
structure History where
  system : System
  started : List Nat
  saved : SortedStore Nat Job

/-- The run that an event registers. -/
def System.starts (system : System) : Event -> Option Nat
  | .call id _ =>
      match system.calls.get? id with
      | some (.launching _) => some id
      | _ => none
  | _ => none

/-- The run that an event lets save the job. -/
def System.saver (env : Env) (system : System) : Event -> Option Nat
  | .run id input =>
      (system.runs.get? id).bind fun run => (run.move env input system.world).bind fun result =>
        if result.2 && input.saved then some id else none
  | .work id index input =>
      (system.runs.get? id).bind fun run =>
        (run.work env index input system.world).bind fun result =>
          if result.2.1 && input.saved then some id else none
  | _ => none

/-- A step of the system, and what it adds to the history. -/
def follow (env : Env) (history : History) (event : Event) : Option History :=
  (step env history.system event).map fun next =>
    { system := next
      started := (history.system.starts event).toList ++ history.started
      saved :=
        match history.system.saver env event with
        | some id => history.saved.put id next.disk
        | none => history.saved }

/-- The create handler has saved the job, and nothing has happened since. -/
def opening (job : Job) (world : World) : History := ⟨start job world, [], .empty⟩

/-- The history of a run of the system. -/
theorem exec_follow {env : Env} : forall {events : List Event} {history : History} {final : System},
    exec (step env) history.system events = some final ->
      Exists fun last => exec (follow env) history events = some last ∧ last.system = final := by
  intro events
  induction events with
  | nil =>
      intro history final run
      cases Option.some.inj run
      exact ⟨history, rfl, rfl⟩
  | cons event rest ih =>
      intro history final run
      rcases exec_cons.mp run with ⟨next, taken, tail⟩
      have followed : Exists fun after => follow env history event = some after ∧
          after.system = next := by
        unfold follow
        rw [taken]
        exact ⟨_, rfl, rfl⟩
      rcases followed with ⟨after, stepped, rfl⟩
      rcases ih tail with ⟨last, rests, same⟩
      exact ⟨last, exec_cons.mpr ⟨after, stepped, rests⟩, same⟩

/-! ## The record of the last run -/

/-- The job has not ended. -/
def Job.unended (job : Job) : Bool := job.state ≠ .done && job.state ≠ .error

/-- A resume has saved the job for a run that is yet to register. -/
def System.resuming (system : System) : Prop :=
  Exists fun call => Exists fun job => system.calls.get? call = some (.launching job) ∧
    (system.disk = job ∨ system.disk = job.enter .paused)

/-- The record is what the run that registered last has saved last, or a pause has set its state
to paused, or a resume has saved it for the next run. -/
def History.Owned (history : History) : Prop :=
  forall id rest job, history.started = id :: rest -> history.saved.get? id = some job ->
    history.system.disk = job ∨
      (job.unended = true ∧ history.system.disk = job.enter .paused) ∨
      history.system.resuming

/-- The runs that registered after a run. -/
def History.after (history : History) (id : Nat) : List Nat :=
  history.started.takeWhile fun other => decide (other ≠ id)

/-- The job that an event lets a pause save, as the pause loaded it. -/
def System.pauser (system : System) : Event -> Option Job
  | .call id input =>
      match system.calls.get? id with
      | some (.pauseSaving job _) => if input.saved then some job else none
      | _ => none
  | _ => none

/-- What a pause loaded is no longer there, apart from the state, or the job has ended. -/
def System.outdates (system : System) (job : Job) : Bool :=
  !system.disk.unended || decide (system.disk.enter .paused ≠ job.enter .paused)

/-- A run saves although a later run has saved, or a pause saves what is outdated. -/
def History.late (env : Env) (history : History) (event : Event) : Bool :=
  (history.system.saver env event).any (fun id =>
    (history.after id).any fun later => (history.saved.get? later).isSome) ||
    (history.system.pauser event).any history.system.outdates

/-! ## What a call does to the record -/

/-- What a call does to the record and to the calls. -/
inductive System.Answered (system next : System) (id : Nat) (input : Input) : Call -> Prop where
  | waits (call after : Call) (before : forall job, call ≠ .launching job)
      (disk : next.disk = system.disk) (calls : next.calls = system.calls.put id after) :
      System.Answered system next id input call
  | drops (call : Call) (before : forall job, call ≠ .launching job)
      (disk : next.disk = system.disk) (calls : next.calls = system.calls.erase id) :
      System.Answered system next id input call
  | pauses (job : Job) (found : Bool) (saved : input.saved = true)
      (disk : next.disk = job.enter .paused) (calls : next.calls = system.calls.erase id) :
      System.Answered system next id input (.pauseSaving job found)
  | resumes (job : Job) (disk : next.disk = job)
      (calls : next.calls = system.calls.put id (.launching job)) :
      System.Answered system next id input (.resumeSaving job)
  | launches (job : Job) (fresh : system.runs.get? id = none)
      (calls : next.calls = system.calls.erase id) :
      System.Answered system next id input (.launching job)

theorem System.withRun_disk (system : System) (id : Nat) (change : Run -> Run) :
    (system.withRun id change).disk = system.disk ∧
      (system.withRun id change).calls = system.calls := by
  unfold System.withRun
  split <;> exact ⟨rfl, rfl⟩

theorem System.answered {system next : System} {id : Nat} {input : Input} {call : Call}
    (taken : system.advance id input call = some next) :
    System.Answered system next id input call := by
  cases call with
  | pauseLoaded job =>
      simp only [System.advance] at taken
      split at taken <;> cases Option.some.inj taken <;>
        exact .waits _ _ (fun _ => Call.noConfusion) rfl rfl
  | pauseFound job target =>
      cases Option.some.inj taken
      have rest := system.withRun_disk target fun run => { run with paused := true }
      refine .waits _ (.pauseFlagged job target) (fun _ => Call.noConfusion) rest.1 ?_
      exact congrArg (fun calls => calls.put id (.pauseFlagged job target)) rest.2
  | pauseFlagged job target =>
      cases Option.some.inj taken
      have rest := system.withRun_disk target fun run => { run with cancelled := true }
      refine .waits _ (.pauseSaving job true) (fun _ => Call.noConfusion) rest.1 ?_
      exact congrArg (fun calls => calls.put id (.pauseSaving job true)) rest.2
  | pauseSaving job found =>
      simp only [System.advance] at taken
      split at taken
      · rename_i saved
        cases Option.some.inj taken
        exact .pauses job found saved rfl rfl
      · cases Option.some.inj taken
        exact .drops _ (fun _ => Call.noConfusion) rfl rfl
  | resumeSaving job =>
      simp only [System.advance] at taken
      split at taken
      · cases Option.some.inj taken
        exact .resumes job rfl rfl
      · cases Option.some.inj taken
        exact .drops _ (fun _ => Call.noConfusion) rfl rfl
  | launching job =>
      simp only [System.advance] at taken
      split at taken
      · cases taken
      · rename_i unknown
        cases Option.some.inj taken
        refine .launches job ?_ rfl
        cases found : system.runs.get? id with
        | none => rfl
        | some run =>
            rw [found] at unknown
            exact absurd rfl unknown

/-! ## Ownership -/

/-- What a run has saved is known of registered runs only. -/
def History.Listed (history : History) : Prop :=
  forall id, history.saved.get? id ≠ none -> history.system.runs.get? id ≠ none

/-- Nothing but the calls changes, and no launch among them is lost. -/
theorem System.resuming_of_calls {system next : System} (resuming : system.resuming)
    (disk : next.disk = system.disk)
    (kept : forall call job, system.calls.get? call = some (.launching job) ->
      next.calls.get? call = some (.launching job)) : next.resuming := by
  rcases resuming with ⟨call, job, pending, same⟩
  exact ⟨call, job, kept call job pending, disk ▸ same⟩

/-- A history to which nothing is added. -/
theorem History.Owned.quiet {history next : History} (owned : history.Owned)
    (started : next.started = history.started) (saved : next.saved = history.saved)
    (disk : next.system.disk = history.system.disk)
    (kept : forall call job, history.system.calls.get? call = some (.launching job) ->
      next.system.calls.get? call = some (.launching job)) : next.Owned := by
  intro id rest job last record
  rw [started] at last
  rw [saved] at record
  rw [disk]
  rcases owned id rest job last record with same | paused | resuming
  · exact Or.inl same
  · exact Or.inr (Or.inl paused)
  · exact Or.inr (Or.inr (System.resuming_of_calls resuming disk kept))

theorem kept_put {system : System} {id : Nat} {before : Option Call}
    (found : system.calls.get? id = before) (other : forall job, before ≠ some (.launching job))
    (after : Call) (call : Nat) (job : Job)
    (pending : system.calls.get? call = some (.launching job)) :
    (system.calls.put id after).get? call = some (.launching job) := by
  have different : call ≠ id := by
    rintro rfl
    exact other job (found.symm.trans pending)
  rw [SortedStore.get?_put_of_ne _ _ different]
  exact pending

theorem kept_erase {system : System} {id : Nat} {before : Call}
    (found : system.calls.get? id = some before) (other : forall job, before ≠ .launching job)
    (call : Nat) (job : Job) (pending : system.calls.get? call = some (.launching job)) :
    (system.calls.erase id).get? call = some (.launching job) := by
  have different : call ≠ id := by
    rintro rfl
    exact other job (Option.some.inj (found.symm.trans pending))
  rw [SortedStore.get?_erase, if_neg different]
  exact pending

/-- A run that goes on, and perhaps saves its job. -/
theorem History.Owned.proceed {history next : History} {id : Nat} {job : Job} {flag : Bool}
    {saver : Option Nat} (owned : history.Owned) (started : next.started = history.started)
    (disk : next.system.disk = if flag then job else history.system.disk)
    (saved : next.saved =
      match saver with
      | some id => history.saved.put id next.system.disk
      | none => history.saved)
    (mine : saver = if flag then some id else none)
    (calls : next.system.calls = history.system.calls)
    (timely : flag = true -> forall later, later ∈ history.after id ->
      history.saved.get? later = none) : next.Owned := by
  subst mine
  cases flag with
  | false =>
      refine owned.quiet started saved disk ?_
      intro call job pending
      rw [calls]
      exact pending
  | true =>
      intro newest rest record last known
      rw [saved] at known
      rw [started] at last
      by_cases same : newest = id
      · subst same
        exact Or.inl (SortedStore.eq_of_get?_put known)
      · have later : newest ∈ history.after id := by
          unfold History.after
          rw [last, List.takeWhile_cons, if_pos (decide_eq_true same)]
          exact List.mem_cons_self
        have unsaved := timely rfl newest later
        change (history.saved.put id next.system.disk).get? newest = some record at known
        rw [SortedStore.get?_put_of_ne _ _ same, unsaved] at known
        cases known

theorem saver_run {env : Env} {system : System} {id : Nat} {input : Input} {run after : Run}
    {saves : Bool} (found : system.runs.get? id = some run)
    (move : run.move env input system.world = some (after, saves)) :
    system.saver env (.run id input) = if saves && input.saved then some id else none := by
  simp only [System.saver, found, Option.bind_some, move]

theorem saver_work {env : Env} {system : System} {id index : Nat} {input : Input} {run after : Run}
    {saves : Bool} {world : World} (found : system.runs.get? id = some run)
    (work : run.work env index input system.world = some (after, saves, world)) :
    system.saver env (.work id index input) = if saves && input.saved then some id else none := by
  simp only [System.saver, found, Option.bind_some, work]

theorem starts_launching {system : System} {id : Nat} {input : Input} {job : Job}
    (found : system.calls.get? id = some (.launching job)) :
    system.starts (.call id input) = some id := by
  simp only [System.starts, found]

theorem starts_other {system : System} {id : Nat} {input : Input} {call : Call}
    (found : system.calls.get? id = some call) (other : forall job, call ≠ .launching job) :
    system.starts (.call id input) = none := by
  simp only [System.starts, found]
  cases call with
  | launching job => exact absurd rfl (other job)
  | _ => rfl

/-- A pause that saves what is still there. -/
theorem History.Owned.pause {history next : History} {id : Nat} {job : Job} {found : Bool}
    (owned : history.Owned) (started : next.started = history.started)
    (saved : next.saved = history.saved) (disk : next.system.disk = job.enter .paused)
    (calls : next.system.calls = history.system.calls.erase id)
    (pending : history.system.calls.get? id = some (.pauseSaving job found))
    (unended : history.system.disk.unended = true)
    (same : history.system.disk.enter .paused = job.enter .paused) : next.Owned := by
  intro newest rest record last known
  rw [started] at last
  rw [saved] at known
  have now : next.system.disk = history.system.disk.enter .paused := disk.trans same.symm
  rw [now]
  rcases owned newest rest record last known with own | ⟨running, paused⟩ | resuming
  · rw [own] at unended ⊢
    exact Or.inr (Or.inl ⟨unended, rfl⟩)
  · rw [paused]
    exact Or.inr (Or.inl ⟨running, rfl⟩)
  · rcases resuming with ⟨call, resumed, launch, place⟩
    refine Or.inr (Or.inr ⟨call, resumed, ?_, Or.inr ?_⟩)
    · rw [calls]
      exact kept_erase pending (fun _ => Call.noConfusion) call resumed launch
    · rw [now]
      rcases place with own | paused
      · rw [own]
      · rw [paused]
        rfl

theorem pauser_saving {system : System} {id : Nat} {input : Input} {job : Job} {found : Bool}
    (pending : system.calls.get? id = some (.pauseSaving job found)) (saved : input.saved = true) :
    system.pauser (.call id input) = some job := by
  simp only [System.pauser, pending, saved, if_true]

/-- A run that saves in time. -/
theorem History.unsaved_after {env : Env} {history : History} {event : Event} {id : Nat}
    (timely : history.late env event = false) (saver : history.system.saver env event = some id)
    (later : Nat) (member : later ∈ history.after id) : history.saved.get? later = none := by
  have none := (Bool.or_eq_false_iff.mp timely).1
  rw [saver] at none
  have unsaved := List.any_eq_false.mp none later member
  exact Option.not_isSome_iff_eq_none.mp unsaved

/-- A pause that saves in time. -/
theorem History.current_of_pauser {env : Env} {history : History} {event : Event} {job : Job}
    (timely : history.late env event = false) (pauser : history.system.pauser event = some job) :
    history.system.disk.unended = true ∧
      history.system.disk.enter .paused = job.enter .paused := by
  have current := (Bool.or_eq_false_iff.mp timely).2
  rw [pauser] at current
  rcases Bool.or_eq_false_iff.mp current with ⟨unended, same⟩
  exact ⟨by simpa using unended, not_not.mp (of_decide_eq_false same)⟩

/-- A timely step leaves the record with its owner. -/
theorem History.Owned.step {env : Env} {history next : History} {event : Event}
    (owned : history.Owned) (listed : history.Listed) (timely : history.late env event = false)
    (taken : follow env history event = some next) : next.Owned := by
  rcases Option.map_eq_some_iff.mp taken with ⟨system, stepped, rfl⟩
  have absent : forall job : Job, (none : Option Call) ≠ some (.launching job) :=
    fun _ => (Option.some_ne_none _).symm
  cases step_stepped stepped with
  | pausing id free => exact owned.quiet rfl rfl rfl (kept_put free absent _)
  | pauseRefused id => exact owned.quiet rfl rfl rfl fun _ _ pending => pending
  | resuming id free => exact owned.quiet rfl rfl rfl (kept_put free absent _)
  | resumeRefused id => exact owned.quiet rfl rfl rfl fun _ _ pending => pending
  | launched id job free => exact owned.quiet rfl rfl rfl (kept_put free absent _)
  | advanced id input call system found advanced =>
      cases System.answered advanced with
      | waits _ after before disk calls =>
          refine owned.quiet ?_ rfl disk ?_
          · rw [starts_other found before]
            rfl
          · rw [calls]
            exact kept_put found (fun job same => before job (Option.some.inj same)) after
      | drops _ before disk calls =>
          refine owned.quiet ?_ rfl disk ?_
          · rw [starts_other found before]
            rfl
          · rw [calls]
            exact kept_erase found before
      | pauses job flag saved disk calls =>
          have current := History.current_of_pauser timely (pauser_saving found saved)
          refine owned.pause ?_ rfl disk calls found current.1 current.2
          rw [starts_other found fun _ => Call.noConfusion]
          rfl
      | resumes job disk calls =>
          intro newest rest record _ _
          refine Or.inr (Or.inr ⟨id, job, ?_, Or.inl disk⟩)
          rw [calls]
          exact SortedStore.get?_put_self _ _ _
      | launches job fresh calls =>
          intro newest rest record last known
          rw [starts_launching found] at last
          cases (List.cons.inj last).1
          exact absurd fresh (listed id (by
            change history.saved.get? id = some record at known
            rw [known]
            exact Option.some_ne_none _))
  | moved id input run after saves found move =>
      have saver := saver_run found move
      refine owned.proceed rfl rfl rfl saver rfl ?_
      intro flag
      exact History.unsaved_after timely (saver.trans (if_pos flag))
  | worked id index input run after saves world task found work listed worked =>
      have saver := saver_work found work
      refine owned.proceed rfl rfl rfl saver rfl ?_
      intro flag
      exact History.unsaved_after timely (saver.trans (if_pos flag))

/-! ## What a run has saved -/

/-- A run that has saved how the job ended has nothing to add to it. -/
structure Run.Kept (record : Option Job) (run : Run) : Prop where
  persisted : run.persisted = true -> record = some run.job ∧ run.live = 0 ∧
    (run.phase = .leaving ∨ run.phase = .returned) ∧ run.job.state ≠ .running ∧
      run.job.state ≠ .queued
  ending : run.phase = .ending -> run.live = 0 ∧ run.job.state ≠ .running ∧
    run.job.state ≠ .queued

theorem Run.Kept.signalled {record : Option Job} {old run : Run} (kept : old.Kept record)
    (signal : old.Signalled run) : run.Kept record := by
  rcases signal.same with ⟨paused, cancelled, rfl⟩
  exact ⟨kept.persisted, kept.ending⟩

theorem Run.Kept.new (record : Option Job) (job : Job) : Run.Kept record { job } :=
  ⟨fun persisted => absurd persisted Bool.false_ne_true, fun ending => Phase.noConfusion ending⟩

/-- A step before the end. -/
theorem Run.Kept.early {record after : Option Job} {run next : Run} (kept : run.Kept record)
    (early : run.phase ≠ .leaving ∧ run.phase ≠ .returned)
    (persisted : next.persisted = run.persisted)
    (ending : next.phase = .ending -> next.live = 0 ∧ next.job.state ≠ .running ∧
      next.job.state ≠ .queued) : next.Kept after := by
  refine ⟨fun now => ?_, ending⟩
  rcases (kept.persisted (persisted ▸ now)).2.2.1 with leaving | returned
  · exact absurd leaving early.1
  · exact absurd returned early.2

theorem Run.Kept.moved {env : Env} {world : World} {run next : Run} {input : Input} {saves : Bool}
    {record after : Option Job} (kept : run.Kept record)
    (moved : Moved env run input world next saves)
    (saved : after = if saves && input.saved then some next.job else record) :
    next.Kept after := by
  have early : forall {phase : Phase}, run.phase = phase -> phase ≠ .leaving ->
      phase ≠ .returned -> run.phase ≠ .leaving ∧ run.phase ≠ .returned := by
    rintro phase rfl unleft unreturned
    exact ⟨unleft, unreturned⟩
  cases moved with
  | begin phase =>
      exact kept.early (early phase Phase.noConfusion Phase.noConfusion) rfl Phase.noConfusion
  | object phase key etag statFails =>
      refine kept.early (early phase Phase.noConfusion Phase.noConfusion) rfl fun ending => ?_
      cases phase.symm.trans ending
  | unplanned phase error listed =>
      exact kept.early (early phase Phase.noConfusion Phase.noConfusion) rfl Phase.noConfusion
  | planned phase =>
      exact kept.early (early phase Phase.noConfusion Phase.noConfusion) rfl Phase.noConfusion
  | leave phase why =>
      exact kept.early (early phase Phase.noConfusion Phase.noConfusion) rfl Phase.noConfusion
  | acquire phase =>
      exact kept.early (early phase Phase.noConfusion Phase.noConfusion) rfl Phase.noConfusion
  | release phase cancelled =>
      exact kept.early (early phase Phase.noConfusion Phase.noConfusion) rfl Phase.noConfusion
  | dispatch phase cancelled index task found =>
      exact kept.early (early phase Phase.noConfusion Phase.noConfusion) rfl Phase.noConfusion
  | failed phase idle failed =>
      exact kept.early (early phase Phase.noConfusion Phase.noConfusion) rfl Phase.noConfusion
  | paused phase idle paused =>
      exact kept.early (early phase Phase.noConfusion Phase.noConfusion) rfl fun _ =>
        ⟨idle, JobState.noConfusion, JobState.noConfusion⟩
  | done phase idle unfailed unpaused =>
      exact kept.early (early phase Phase.noConfusion Phase.noConfusion) rfl fun _ =>
        ⟨idle, JobState.noConfusion, JobState.noConfusion⟩
  | other phase idle unfailed unpaused state =>
      exact kept.early (early phase Phase.noConfusion Phase.noConfusion) rfl Phase.noConfusion
  | persist phase =>
      refine ⟨fun persisted => ?_, Phase.noConfusion⟩
      rw [Bool.true_and, if_pos persisted] at saved
      have ended := kept.ending phase
      exact ⟨saved, ended.1, Or.inl rfl, ended.2⟩
  | quit phase =>
      refine ⟨fun persisted => ?_, Phase.noConfusion⟩
      rw [Bool.false_and, if_neg Bool.false_ne_true] at saved
      have before := kept.persisted persisted
      exact ⟨saved.trans before.1, before.2.1, Or.inr rfl, before.2.2.2⟩

theorem Worked.live {env : Env} {run next : Run} {index : Nat} {task : Task} {input : Input}
    {world after : World} {saves : Bool}
    (worked : Worked env run index task input world next saves after) :
    task.status.live = true := by
  cases worked <;> simp [Status.live, *]

theorem Worked.phase_eq {env : Env} {run next : Run} {index : Nat} {task : Task} {input : Input}
    {world after : World} {saves : Bool}
    (worked : Worked env run index task input world next saves after) :
    next.phase = run.phase ∧ next.persisted = run.persisted := by
  cases worked <;> exact ⟨rfl, rfl⟩

/-- A worker of a run that has ended does nothing. -/
theorem Run.Kept.worked {env : Env} {world after : World} {run next : Run} {index : Nat}
    {task : Task} {input : Input} {saves : Bool} {record : Option Job} (later : Option Job)
    (kept : run.Kept record) (found : run.tasks[index]? = some task)
    (worked : Worked env run index task input world next saves after) : next.Kept later := by
  have busy : run.live ≠ 0 := by
    intro idle
    have still := Run.idle idle (List.mem_of_getElem? found)
    rw [worked.live] at still
    cases still
  constructor
  · intro persisted
    exact absurd (kept.persisted (worked.phase_eq.2 ▸ persisted)).2.1 busy
  · intro ending
    exact absurd (kept.ending (worked.phase_eq.1 ▸ ending)).1 busy

/-- What is known of all runs. -/
structure History.Sound (history : History) : Prop where
  listed : history.Listed
  kept : forall id run, history.system.runs.get? id = some run ->
    run.Kept (history.saved.get? id)

theorem History.Sound.opening (job : Job) (world : World) : (opening job world).Sound := by
  constructor
  · intro id record
    exact absurd rfl record
  · intro id run found
    cases found

/-- Calls leave what is known of the runs. -/
theorem History.Sound.quiet {history next : History} (sound : history.Sound)
    (saved : next.saved = history.saved)
    (runs : forall id run, next.system.runs.get? id = some run ->
      (Exists fun old => history.system.runs.get? id = some old ∧ old.Signalled run) ∨
        Exists fun job => run = { job })
    (present : forall id, history.system.runs.get? id ≠ none -> next.system.runs.get? id ≠ none) :
    next.Sound := by
  constructor
  · intro id record
    rw [saved] at record
    exact present id (sound.listed id record)
  · intro id run found
    rw [saved]
    rcases runs id run found with ⟨old, before, signal⟩ | ⟨job, rfl⟩
    · exact (sound.kept id old before).signalled signal
    · exact Run.Kept.new _ job

/-- A run goes on, and perhaps saves its job. -/
theorem History.Sound.proceed {history next : History} {id : Nat} {after : Run} {flag : Bool}
    {saver : Option Nat} (sound : history.Sound)
    (runs : next.system.runs = history.system.runs.put id after)
    (saved : next.saved =
      match saver with
      | some id => history.saved.put id next.system.disk
      | none => history.saved)
    (mine : saver = if flag then some id else none)
    (kept : after.Kept (if flag then some next.system.disk else history.saved.get? id)) :
    next.Sound := by
  subst mine
  have records : forall other, next.saved.get? other =
      if other = id then (if flag then some next.system.disk else history.saved.get? id)
      else history.saved.get? other := by
    intro other
    cases flag with
    | false =>
        have unsaved : next.saved = history.saved := saved
        rw [unsaved, if_neg Bool.false_ne_true]
        split
        · rename_i same
          rw [same]
        · rfl
    | true =>
        have put : next.saved = history.saved.put id next.system.disk := saved
        rw [put, if_pos rfl]
        exact SortedStore.get?_put _ _ _ _
  constructor
  · intro other record
    rw [runs, SortedStore.get?_put]
    split
    · exact Option.some_ne_none _
    · rename_i different
      rw [records, if_neg different] at record
      exact sound.listed other record
  · intro other candidate present
    rw [runs, SortedStore.get?_put] at present
    rw [records]
    split at present
    · rename_i same
      cases Option.some.inj present
      rw [if_pos same]
      exact kept
    · rename_i different
      rw [if_neg different]
      exact sound.kept other candidate present

theorem saving_eq (system : System) (saves : Bool) (job : Job) (input : Input)
    (record : Option Job) :
    (if saves && input.saved then some (system.saving saves job input) else record) =
      if saves && input.saved then some job else record := by
  unfold System.saving
  cases saves && input.saved <;> rfl

theorem History.Sound.step {env : Env} {history next : History} {event : Event}
    (sound : history.Sound) (taken : follow env history event = some next) : next.Sound := by
  rcases Option.map_eq_some_iff.mp taken with ⟨system, stepped, rfl⟩
  have unchanged : forall {after : System}, after.runs = history.system.runs -> forall id run,
      after.runs.get? id = some run ->
        (Exists fun old => history.system.runs.get? id = some old ∧ old.Signalled run) ∨
          Exists fun job => run = { job } := by
    intro after same id run found
    rw [same] at found
    exact Or.inl ⟨run, found, Run.Signalled.refl run⟩
  cases step_stepped stepped with
  | pausing id free => exact sound.quiet rfl (unchanged rfl) fun _ present => present
  | pauseRefused id => exact sound.quiet rfl (unchanged rfl) fun _ present => present
  | resuming id free => exact sound.quiet rfl (unchanged rfl) fun _ present => present
  | resumeRefused id => exact sound.quiet rfl (unchanged rfl) fun _ present => present
  | launched id job free => exact sound.quiet rfl (unchanged rfl) fun _ present => present
  | advanced id input call system found advanced =>
      have moved := System.advanced advanced
      refine sound.quiet rfl ?_ moved.kept
      intro other run found
      rcases moved.runs other run found with signalled | ⟨job, _, fresh⟩
      · exact Or.inl signalled
      · exact Or.inr ⟨job, fresh⟩
  | moved id input run after saves found move =>
      refine sound.proceed rfl rfl (saver_run found move) ?_
      exact (sound.kept id run found).moved (Run.moved move) (saving_eq _ _ _ _ _)
  | worked id index input run after saves world task found work listed worked =>
      refine sound.proceed rfl rfl (saver_work found work) ?_
      exact (sound.kept id run found).worked _ listed worked

/-! ## Whole runs -/

theorem Job.enter_paused_of_ended {job : Job} (unended : job.unended = true)
    (unstarted : job.state ≠ .running ∧ job.state ≠ .queued) : job.enter .paused = job := by
  cases job with
  | mk state total copied skipped error =>
      cases state with
      | paused => rfl
      | queued => exact absurd rfl unstarted.2
      | running => exact absurd rfl unstarted.1
      | done => cases unended
      | error => cases unended

/-- The job is resumed, and the run of the resume copies the object and ends. -/
def resumeEvents : List Event :=
  [.resume 2, .call 2 {}, .call 2 {}, .run 2 {},
    .run 2 { listed := .object "a.png" "image/png" false }, .run 2 {}, .run 2 {}, .run 2 {},
    .work 2 0 {}, .work 2 0 {}, .work 2 0 {}, .work 2 0 {}, .run 2 {}, .run 2 {}, .run 2 {},
    .run 2 {}]

/-- The first run has saved that it is paused when the job is resumed, but has not returned. -/
def overlappingEvents : List Event :=
  pauseEvents ++ returnEvents.dropLast ++ resumeEvents ++ [.run 0 {}]

end Syncs
end Basement
