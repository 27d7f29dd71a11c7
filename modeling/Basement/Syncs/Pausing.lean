import Basement.Syncs.Completion

namespace Basement
namespace Syncs

open Library Drivers
open Api (JobState SyncAction ActionType)

/-!
# What a successful pause means

A job has one run here, the one that the create handler starts, and any number of `Pause` calls.
`Pause` loads the job, signals the run that it finds in the registry and saves its own copy as
paused.  The run saves its copy at many points.

A pause is in force from the moment a `Pause` has returned nil while the run had not decided that
the job is done.  From there the saved job need not be paused all the time: a worker that finishes
saves the run's copy.  What holds instead is that the run is told, so that its last save is paused,
and that nothing saves an error.  The steps that break this are listed, each with the order of
events it needs.
-/

/-! ## Steps that undo a pause -/

/-- The saved job would not be paused after the save. -/
def System.unpaused (system : System) (input : Input) : Bool :=
  input.saved || system.disk.state ≠ .paused

/-- The step of the run itself ends it with something else than paused. -/
def Run.deviates (run : Run) (system : System) (input : Input) : Bool :=
  match run.phase, input.listed with
  | .planning, .failed _ => system.unpaused input
  | .ending, _ => !input.saved && system.disk.state ≠ .paused
  | _, _ => false

/-- The step of the goroutine saves an error, or records one that nothing overrides. -/
def Run.complains (run : Run) (system : System) (index : Nat) (input : Input) : Bool :=
  run.tasks[index]?.any fun task =>
    match task.status with
    | .failing => input.saved
    | .skipping | .copied => run.job.state = .error && input.saved
    | .broken _ => run.firstErr.isNone && system.unpaused input
    | _ => false

/-- The save of a `Pause` comes too late or too early: the run has saved that the job is done, or
it goes on without having been found. -/
def Run.missed (run : Run) (found : Bool) : Bool :=
  run.persisted && run.outcome = some .done || !found && run.outcome.isNone

/-- The step undoes a pause that is in force, or makes one take effect that must not. -/
def System.undoes (system : System) : Event -> Bool
  | .call id input =>
      match system.calls.get? id with
      | some (.launching _) => system.held
      | some (.pauseSaving _ found) =>
          input.saved && (system.runs.get? 0).any fun run => run.missed found
      | _ => false
  | .run id input =>
      system.held && (system.runs.get? id).any fun run => run.deviates system input
  | .work id index input =>
      system.held && (system.runs.get? id).any fun run => run.complains system index input
  | _ => false

/-- The steps of the create handler's run and of `Pause`. -/
def Event.ofPausing : Event -> Bool
  | .resume _ | .launch _ _ => false
  | _ => true

/-! ## What holds of the run -/

def Phase.undecided : Phase -> Bool
  | .ending | .leaving | .returned => false
  | _ => true

theorem Phase.undecided_of_dispatching {phase : Phase} (dispatching : phase.dispatching = true) :
    phase.undecided = true := by
  cases phase <;> first | rfl | cases dispatching

/-- The run, by whether a pause is in force and by the state of the saved job. -/
structure Run.Obeys (held : Bool) (disk : JobState) (run : Run) : Prop where
  live : forall task, task ∈ run.tasks -> task.status.live = true -> run.phase.dispatching = true
  early : run.phase = .registered ∨ run.phase = .planning -> run.firstErr = none
  failed : run.phase.dispatching = true -> run.firstErr ≠ none -> run.job.state = .error
  undecided : run.phase.undecided = true -> run.outcome = none ∧ run.persisted = false
  ending : run.phase = .ending -> run.persisted = false ∧
    (run.outcome = some .paused ∧ run.job.state = .paused ∨
      run.outcome = some .done ∧ run.job.state = .done)
  kept : run.persisted = true -> run.outcome = some .done -> disk = .done
  told : held = true -> run.phase.undecided = true -> run.paused = true
  refused : held = true -> run.phase.undecided = true -> run.firstErr ≠ none -> disk = .paused
  unfinished : held = true -> run.outcome ≠ some .done
  sticks : held = true -> run.phase = .leaving ∨ run.phase = .returned -> disk = .paused

/-- What a save leaves on disk. -/
def savedState (saves : Bool) (input : Input) (state disk : JobState) : JobState :=
  if saves && input.saved then state else disk

theorem savedState_unsaved {input : Input} (unsaved : input.saved = false) (saves : Bool)
    (state disk : JobState) : savedState saves input state disk = disk := by
  rw [savedState, unsaved, Bool.and_false, if_neg Bool.false_ne_true]

theorem System.saving_state (system : System) (saves : Bool) (job : Job) (input : Input) :
    (system.saving saves job input).state =
      savedState saves input job.state system.disk.state := by
  unfold System.saving savedState
  split <;> rfl

theorem Run.Obeys.new (held : Bool) (unheld : held = false) (disk : JobState) (job : Job) :
    Run.Obeys held disk { job } := by
  subst unheld
  refine ⟨?_, fun _ => rfl, ?_, fun _ => ⟨rfl, rfl⟩, ?_, ?_, ?_, ?_, ?_, ?_⟩
  · intro task member
    cases member
  all_goals
    intro impossible
    cases impossible

/-- A signal to the run. -/
theorem Run.Obeys.signalled {held : Bool} {disk : JobState} {old run : Run}
    (obeys : old.Obeys held disk) (signalled : old.Signalled run) : run.Obeys held disk := by
  rcases signalled with ⟨⟨paused, cancelled, rfl⟩, keeps, _⟩
  exact { obeys with told := fun force phase => keeps (obeys.told force phase) }

/-- One action takes a step, while goroutines run. -/
theorem Run.Obeys.during {held : Bool} {disk after : JobState} {run next : Run}
    (obeys : run.Obeys held disk) (dispatching : run.phase.dispatching = true)
    (phase : next.phase = run.phase) (outcome : next.outcome = run.outcome)
    (persisted : next.persisted = run.persisted) (paused : next.paused = run.paused)
    (failed : next.firstErr ≠ none -> next.job.state = .error)
    (refused : held = true -> next.firstErr ≠ none -> after = .paused) : next.Obeys held after := by
  have undecided := Phase.undecided_of_dispatching dispatching
  have known := obeys.undecided undecided
  have nowhere (other : Phase) (rest : other.dispatching = false) : next.phase ≠ other := by
    intro same
    rw [← phase, same, rest] at dispatching
    cases dispatching
  refine ⟨?_, ?_, fun _ => failed, ?_, ?_, ?_, ?_, fun force _ => refused force, ?_, ?_⟩
  · intro _ _ _
    rw [phase]
    exact dispatching
  · rintro (here | here)
    · exact absurd here (nowhere _ rfl)
    · exact absurd here (nowhere _ rfl)
  · intro _
    rw [outcome, persisted]
    exact known
  · intro here
    exact absurd here (nowhere _ rfl)
  · intro impossible
    rw [persisted, known.2] at impossible
    cases impossible
  · intro force _
    rw [paused]
    exact obeys.told force undecided
  · intro _
    rw [outcome, known.1]
    exact Option.some_ne_none _ ∘ Eq.symm
  · rintro _ (here | here)
    · exact absurd here (nowhere _ rfl)
    · exact absurd here (nowhere _ rfl)

/-- A step of the goroutine of an action. -/
theorem Run.Obeys.worked {env : Env} {world after : World} {system : System} {run next : Run}
    {index : Nat} {task : Task} {input : Input} {saves : Bool}
    (obeys : run.Obeys system.held system.disk.state) (found : run.tasks[index]? = some task)
    (worked : Worked env run index task input world next saves after)
    (calm : system.held = true -> run.complains system index input = false) :
    next.Obeys system.held (savedState saves input next.job.state system.disk.state) := by
  have active (status : task.status.live = true) : run.phase.dispatching = true :=
    obeys.live task (List.mem_of_getElem? found) status
  have refused (dispatching : run.phase.dispatching = true) : system.held = true ->
      run.firstErr ≠ none -> system.disk.state = .paused :=
    fun force failed => obeys.refused force (Phase.undecided_of_dispatching dispatching) failed
  have untold (dispatching : run.phase.dispatching = true) (unpaused : run.paused = false) :
      system.held = true -> False := by
    intro force
    have told := obeys.told force (Phase.undecided_of_dispatching dispatching)
    rw [unpaused] at told
    cases told
  -- a counting save leaves an error on disk only if the run has failed before
  have counts (dispatching : run.phase.dispatching = true)
    (status : task.status = .skipping ∨ task.status = .copied) :
      system.held = true -> run.firstErr ≠ none ->
        savedState true input run.job.state system.disk.state = .paused := by
    intro force failed
    have error := obeys.failed dispatching failed
    have quiet := calm force
    have unsaved : input.saved = false := by
      rcases status with status | status <;>
        simpa [Run.complains, found, status, error] using quiet
    rw [savedState_unsaved unsaved]
    exact refused dispatching force failed
  cases worked with
  | turnBack status _ | check status _ | giveUp status _ | skip status _ | copy status
    | attempt status | drop _ status _ | recoverAgain _ status _ | unwind status =>
      have dispatching := active (by rw [status]; rfl)
      exact obeys.during dispatching rfl rfl rfl rfl (obeys.failed dispatching)
        (refused dispatching)
  | skipped status =>
      have dispatching := active (by rw [status]; rfl)
      exact obeys.during dispatching rfl rfl rfl rfl (obeys.failed dispatching)
        (counts dispatching (.inl status))
  | copied status =>
      have dispatching := active (by rw [status]; rfl)
      exact obeys.during dispatching rfl rfl rfl rfl (obeys.failed dispatching)
        (counts dispatching (.inr status))
  | refuse error status unpaused =>
      have dispatching := active (by rw [status]; rfl)
      exact obeys.during dispatching rfl rfl rfl rfl (fun _ => rfl)
        fun force => (untold dispatching unpaused force).elim
  | recover error text status unfailed =>
      have dispatching := active (by rw [status]; rfl)
      refine obeys.during dispatching rfl rfl rfl rfl (fun _ => rfl) ?_
      intro force _
      have quiet : input.saved = false ∧ system.disk.state = .paused := by
        simpa [Run.complains, found, status, unfailed, System.unpaused] using calm force
      rw [savedState_unsaved quiet.1]
      exact quiet.2
  | fail status =>
      have dispatching := active (by rw [status]; rfl)
      refine obeys.during dispatching rfl rfl rfl rfl (obeys.failed dispatching) ?_
      intro force failed
      have unsaved : input.saved = false := by
        simpa [Run.complains, found, status] using calm force
      rw [savedState_unsaved unsaved]
      exact refused dispatching force failed

/-- The run goes on to another phase and is not at its end. -/
theorem Run.Obeys.proceed {held : Bool} {disk after : JobState} {run : Run}
    (obeys : run.Obeys held disk) (before : run.phase.undecided = true) {phase : Phase}
    (later : phase.undecided = true) (job : Job) (unregistered : phase ≠ .registered)
    (dispatching : run.phase.dispatching = true -> phase.dispatching = true)
    (early : phase = .planning -> run.firstErr = none)
    (failed : run.firstErr ≠ none -> job.state = .error)
    (refused : held = true -> run.firstErr ≠ none -> after = .paused) :
    Run.Obeys held after { run with job, phase } := by
  have known := obeys.undecided before
  refine ⟨fun task member live => dispatching (obeys.live task member live), ?_, fun _ => failed,
    fun _ => known, ?_, ?_, fun force _ => obeys.told force before,
      fun force _ => refused force, ?_, ?_⟩
  · rintro (here | here)
    · exact absurd here unregistered
    · exact early here
  · intro here
    rw [show phase = .ending from here] at later
    cases later
  · intro impossible
    rw [show run.persisted = true from impossible] at known
    cases known.2
  · intro _
    rw [show run.outcome = none from known.1]
    exact Option.some_ne_none _ ∘ Eq.symm
  · rintro _ (here | here)
    · rw [show phase = .leaving from here] at later
      cases later
    · rw [show phase = .returned from here] at later
      cases later

/-- The run has decided. -/
theorem Run.Obeys.of_decided {held : Bool} {after : JobState} {run next : Run}
    (tasks : next.tasks = run.tasks)
    (idle : forall task, task ∈ run.tasks -> task.status.live = false)
    (decided : next.phase.undecided = false)
    (ending : next.phase = .ending -> next.persisted = false ∧
      (next.outcome = some .paused ∧ next.job.state = .paused ∨
        next.outcome = some .done ∧ next.job.state = .done))
    (kept : next.persisted = true -> next.outcome = some .done -> after = .done)
    (unfinished : held = true -> next.outcome ≠ some .done)
    (sticks : held = true -> next.phase = .leaving ∨ next.phase = .returned -> after = .paused) :
    next.Obeys held after := by
  have nowhere (other : Phase) (rest : other.undecided = true) : next.phase ≠ other := by
    intro same
    rw [same, rest] at decided
    cases decided
  refine ⟨?_, ?_, ?_, ?_, ending, kept, ?_, ?_, unfinished, sticks⟩
  · intro task member live
    rw [idle task (tasks ▸ member)] at live
    cases live
  · rintro (here | here)
    · exact absurd here (nowhere _ rfl)
    · exact absurd here (nowhere _ rfl)
  · intro impossible
    rw [Phase.undecided_of_dispatching impossible] at decided
    cases decided
  · intro impossible
    rw [impossible] at decided
    cases decided
  · intro _ impossible
    rw [impossible] at decided
    cases decided
  · intro _ impossible
    rw [impossible] at decided
    cases decided

/-- No goroutine runs before the dispatch and after the wait. -/
theorem Run.Obeys.idle {held : Bool} {disk : JobState} {run : Run} (obeys : run.Obeys held disk)
    (closed : run.phase.dispatching = false) (task : Task) (member : task ∈ run.tasks) :
    task.status.live = false := by
  cases live : task.status.live with
  | false => rfl
  | true =>
      have impossible := obeys.live task member live
      rw [closed] at impossible
      cases impossible

/-- A run that has not been told is not held. -/
theorem Run.Obeys.unheld {held : Bool} {disk : JobState} {run : Run} (obeys : run.Obeys held disk)
    (undecided : run.phase.undecided = true) (unpaused : run.paused = false) : ¬ held = true := by
  intro force
  have told := obeys.told force undecided
  rw [unpaused] at told
  cases told

/-- A step of the run itself. -/
theorem Run.Obeys.moved {env : Env} {world : World} {system : System} {run next : Run}
    {input : Input} {saves : Bool} (obeys : run.Obeys system.held system.disk.state)
    (moved : Moved env run input world next saves)
    (calm : system.held = true -> run.deviates system input = false) :
    next.Obeys system.held (savedState saves input next.job.state system.disk.state) := by
  cases moved with
  | begin phase =>
      have unfailed := obeys.early (.inl phase)
      exact obeys.proceed (by rw [phase]; rfl) rfl _ (by simp) (by rw [phase]; exact id)
        (fun _ => unfailed) (absurd unfailed) fun _ => absurd unfailed
  | object phase key etag statFails =>
      refine { obeys with live := ?_ }
      intro task member live
      rcases List.mem_append.mp member with old | new
      · exact obeys.live task old live
      · rw [List.mem_singleton.mp new] at live
        cases live
  | unplanned phase error listed =>
      refine .of_decided rfl (obeys.idle (by rw [phase]; rfl)) rfl (by simp) ?_ (by simp) ?_
      · intro _ impossible
        cases impossible
      · intro force _
        have quiet : input.saved = false ∧ system.disk.state = .paused := by
          simpa [Run.deviates, phase, listed, System.unpaused] using calm force
        rw [savedState_unsaved quiet.1]
        exact quiet.2
  | planned phase =>
      have unfailed := obeys.early (.inr phase)
      exact obeys.proceed (by rw [phase]; rfl) rfl _ (by simp) (fun _ => rfl)
        (fun _ => unfailed) (absurd unfailed) fun _ => absurd unfailed
  | leave phase _ | acquire phase | release phase _ =>
      exact obeys.proceed (by rw [phase]; rfl) rfl _ (by simp) (fun _ => rfl)
        (fun here => by cases here) (obeys.failed (by rw [phase]; rfl))
        fun force => obeys.refused force (by rw [phase]; rfl)
  | dispatch phase cancelled index task found =>
      have failed := obeys.failed (by rw [phase]; rfl)
      have refused := fun force => obeys.refused force (by rw [phase]; rfl)
      have marked : (run.mark index task .started).Obeys system.held system.disk.state :=
        obeys.during (by rw [phase]; rfl) rfl rfl rfl rfl failed refused
      exact marked.proceed (show run.phase.undecided = true by rw [phase]; rfl) rfl _ (by simp)
        (fun _ => rfl) (fun here => by cases here) failed refused
  | failed phase idle failed =>
      refine .of_decided rfl (fun task => Run.idle idle) rfl (by simp) ?_ (by simp) ?_
      · intro _ impossible
        cases impossible
      · exact fun force _ => obeys.refused force (by rw [phase]; rfl) failed
  | paused phase idle paused =>
      have known := obeys.undecided (by rw [phase]; rfl)
      refine .of_decided rfl (fun task => Run.idle idle) rfl
        (fun _ => ⟨known.2, .inl ⟨rfl, rfl⟩⟩) ?_ (by simp) (by simp)
      intro _ impossible
      cases impossible
  | done phase idle unfailed unpaused =>
      have known := obeys.undecided (by rw [phase]; rfl)
      have unheld := obeys.unheld (by rw [phase]; rfl) unpaused
      refine .of_decided rfl (fun task => Run.idle idle) rfl
        (fun _ => ⟨known.2, .inr ⟨rfl, rfl⟩⟩) ?_ (fun force => absurd force unheld) (by simp)
      intro impossible
      rw [show run.persisted = true from impossible] at known
      cases known.2
  | other phase idle unfailed unpaused state =>
      have known := obeys.undecided (by rw [phase]; rfl)
      have unheld := obeys.unheld (by rw [phase]; rfl) unpaused
      refine .of_decided rfl (fun task => Run.idle idle) rfl (by simp) ?_
        (fun force => absurd force unheld) fun force => absurd force unheld
      intro impossible
      rw [show run.persisted = true from impossible] at known
      cases known.2
  | persist phase =>
      have known := obeys.ending phase
      refine .of_decided rfl (obeys.idle (by rw [phase]; rfl)) rfl (by simp) ?_ obeys.unfinished ?_
      · intro saved done
        rcases known.2 with ⟨paused, _⟩ | ⟨_, state⟩
        · rw [show run.outcome = some .done from done] at paused
          cases paused
        · rw [savedState, show input.saved = true from saved]
          exact state
      · intro force _
        rcases known.2 with ⟨_, state⟩ | ⟨done, _⟩
        · have quiet : input.saved = true ∨ system.disk.state = .paused := by
            have calm := calm force
            rw [Run.deviates, phase] at calm
            cases saved : input.saved with
            | true => exact .inl rfl
            | false => exact .inr (by simpa [saved] using calm)
          rcases quiet with saved | paused
          · rw [savedState, saved]
            exact state
          · unfold savedState
            split
            · exact state
            · exact paused
        · exact absurd done (obeys.unfinished force)
  | quit phase =>
      refine .of_decided rfl (obeys.idle (by rw [phase]; rfl)) rfl (by simp) obeys.kept
        obeys.unfinished ?_
      exact fun force _ => obeys.sticks force (.inl phase)

/-- A `Pause` saves its job and returns nil. -/
theorem Run.Obeys.pause {held unfinished found : Bool} {disk : JobState} {run : Run}
    (obeys : run.Obeys held disk) (noticed : run.missed found = false)
    (told : found = true -> run.paused = true)
    (unfinished_ : unfinished = true -> run.outcome ≠ some .done) :
    run.Obeys (held || unfinished) .paused := by
  have parts : (run.persisted = true -> run.outcome ≠ some .done) ∧
      (found = true ∨ run.outcome ≠ none) := by
    constructor
    · intro persisted done
      simp [Run.missed, persisted, done] at noticed
    · cases found with
      | true => exact .inl rfl
      | false =>
          refine .inr ?_
          intro none_
          simp [Run.missed, none_] at noticed
  refine { obeys with kept := ?_, told := ?_, refused := ?_, unfinished := ?_, sticks := ?_ }
  · exact fun persisted done => absurd done (parts.1 persisted)
  · intro _ undecided
    rcases parts.2 with found | decided
    · exact told found
    · exact absurd (obeys.undecided undecided).1 decided
  · exact fun _ _ _ => rfl
  · intro force
    rcases Bool.or_eq_true_iff.mp force with before | now
    · exact obeys.unfinished before
    · exact unfinished_ now
  · exact fun _ _ => rfl

/-! ## What holds of the system -/

/-- The run has been told to pause. -/
def System.Told (system : System) : Prop :=
  Exists fun run => system.runs.get? 0 = some run ∧ run.paused = true

/-- What is known while a call is under way. -/
def Call.Allowed (system : System) (id : Nat) : Call -> Prop
  | .pauseLoaded _ => True
  | .pauseFound _ target => target = 0 ∧ system.runs.get? 0 ≠ none
  | .pauseFlagged _ target => target = 0 ∧ system.Told
  | .pauseSaving _ found => found = true -> system.Told
  | .resumeSaving _ => False
  | .launching _ => id = 0 ∧ system.runs.get? 0 = none

structure System.Obeys (system : System) : Prop where
  only : forall id run, system.runs.get? id = some run -> id = 0
  active : forall id, system.active = some id -> id = 0 ∧ system.runs.get? 0 ≠ none
  calls : forall id call, system.calls.get? id = some call -> call.Allowed system id
  run : forall run, system.runs.get? 0 = some run -> run.Obeys system.held system.disk.state

/-- What is known of a call depends on the run alone. -/
theorem Call.Allowed.keep {system next : System} {id : Nat} {call : Call}
    (allowed : call.Allowed system id)
    (present : system.runs.get? 0 ≠ none -> next.runs.get? 0 ≠ none)
    (told : system.Told -> next.Told)
    (absent : system.runs.get? 0 = none -> next.runs.get? 0 = none) : call.Allowed next id := by
  cases call with
  | pauseLoaded job => trivial
  | pauseFound job target => exact ⟨allowed.1, present allowed.2⟩
  | pauseFlagged job target => exact ⟨allowed.1, told allowed.2⟩
  | pauseSaving job found => exact fun here => told (allowed here)
  | resumeSaving job => exact allowed
  | launching job => exact ⟨allowed.1, absent allowed.2⟩

theorem System.Obeys.start (job : Job) (world : World) : (start job world).Obeys := by
  refine ⟨?_, ?_, ?_, ?_⟩
  · intro id run found
    cases found
  · intro id registered
    cases registered
  · intro id call found
    simp only [Syncs.start, SortedStore.get?_put] at found
    split at found
    · rename_i here
      cases Option.some.inj found
      exact ⟨here, rfl⟩
    · cases found
  · intro run found
    cases found

/-- A step that only moves a call. -/
theorem System.Obeys.withCall {system : System} (obeys : system.Obeys) {id : Nat} {call : Call}
    (allowed : call.Allowed system id) : (system.withCall id call).Obeys := by
  refine { obeys with calls := ?_ }
  intro other present found
  simp only [System.withCall, SortedStore.get?_put] at found
  split at found
  · rename_i here
    cases Option.some.inj found
    rw [here]
    exact allowed
  · exact (obeys.calls other present found).keep (fun some_ => some_) (fun told => told)
      fun none_ => none_

theorem System.Obeys.endCall {system : System} (obeys : system.Obeys) (id : Nat) :
    { system with calls := system.calls.erase id }.Obeys := by
  refine { obeys with calls := ?_ }
  intro other present found
  have before := (SortedStore.get?_erase_eq_some.mp found).2
  exact (obeys.calls other present before).keep (fun some_ => some_) (fun told => told)
    fun none_ => none_

/-- The run is signalled. -/
theorem System.Obeys.withRun {system : System} (obeys : system.Obeys) {change : Run -> Run}
    (signal : forall run : Run, run.Signalled (change run)) : (system.withRun 0 change).Obeys := by
  unfold System.withRun
  cases found : system.runs.get? 0 with
  | none => exact obeys
  | some old =>
      refine ⟨?_, ?_, ?_, ?_⟩
      · intro id run present
        rw [SortedStore.get?_put] at present
        split at present
        · rename_i here
          exact here
        · exact obeys.only id run present
      · intro id registered
        refine ⟨(obeys.active id registered).1, ?_⟩
        rw [SortedStore.get?_put_self]
        exact Option.some_ne_none _
      · intro id call under
        refine (obeys.calls id call under).keep ?_ ?_ ?_
        · intro _
          rw [SortedStore.get?_put_self]
          exact Option.some_ne_none _
        · rintro ⟨run, present, paused⟩
          rw [found] at present
          cases Option.some.inj present
          exact ⟨_, SortedStore.get?_put_self .., (signal old).paused paused⟩
        · intro absent
          rw [found] at absent
          cases absent
      · intro run present
        rw [SortedStore.get?_put_self] at present
        cases Option.some.inj present
        exact (obeys.run old found).signalled (signal old)

/-- The run takes a step. -/
theorem System.Obeys.put {system next : System} {old run : Run} (obeys : system.Obeys)
    (found : system.runs.get? 0 = some old) (runs : next.runs = system.runs.put 0 run)
    (active : next.active = none ∨ next.active = system.active) (calls : next.calls = system.calls)
    (paused : run.paused = old.paused) (run_ : run.Obeys next.held next.disk.state) :
    next.Obeys := by
  have here : next.runs.get? 0 = some run := by rw [runs, SortedStore.get?_put_self]
  refine ⟨?_, ?_, ?_, ?_⟩
  · intro id other present
    rw [runs, SortedStore.get?_put] at present
    split at present
    · rename_i same
      exact same
    · exact obeys.only id other present
  · intro id registered
    refine ⟨?_, by rw [here]; exact Option.some_ne_none _⟩
    rcases active with none_ | same
    · rw [none_] at registered
      cases registered
    · exact (obeys.active id (same ▸ registered)).1
  · intro id call under
    refine (obeys.calls id call (calls ▸ under)).keep ?_ ?_ ?_
    · intro _
      rw [here]
      exact Option.some_ne_none _
    · rintro ⟨before, present, told⟩
      rw [found] at present
      cases Option.some.inj present
      exact ⟨run, here, paused.trans told⟩
    · intro absent
      rw [found] at absent
      cases absent
  · intro other present
    rw [here] at present
    cases Option.some.inj present
    exact run_

theorem System.unfinished_run {system : System} (unfinished : system.unfinished = true) {id : Nat}
    {run : Run} (found : system.runs.get? id = some run) : run.outcome ≠ some .done := by
  have all := List.all_eq_true.mp unfinished (id, run) ((SortedStore.mem_entries_iff ..).mpr found)
  simpa using all

theorem Moved.paused_eq {env : Env} {run next : Run} {input : Input} {world : World} {saves : Bool}
    (moved : Moved env run input world next saves) : next.paused = run.paused := by
  cases moved <;> rfl

theorem Worked.paused_eq {env : Env} {run next : Run} {index : Nat} {task : Task} {input : Input}
    {world after : World} {saves : Bool}
    (worked : Worked env run index task input world next saves after) :
    next.paused = run.paused := by
  cases worked <;> rfl

/-- The save of a `Pause` keeps what is known, unless the run was missed. -/
theorem System.Obeys.pauseSaving {system : System} (obeys : system.Obeys) {id : Nat} {job : Job}
    {found : Bool} (under : system.calls.get? id = some (.pauseSaving job found))
    (noticed : forall run, system.runs.get? 0 = some run -> run.missed found = false) :
    System.Obeys { system with
      disk := job.enter .paused
      calls := system.calls.erase id
      held := system.held || system.unfinished } := by
  have told := obeys.calls id _ under
  have ended := obeys.endCall id
  refine { ended with run := ?_, calls := ended.calls }
  intro run present
  refine (obeys.run run present).pause (noticed run present) ?_ fun unfinished =>
    System.unfinished_run unfinished present
  intro here
  rcases told here with ⟨other, same, paused⟩
  cases Option.some.inj (present.symm.trans same)
  exact paused

/-- The registration of the create handler's run, while no pause is in force. -/
theorem System.Obeys.register {system : System} (obeys : system.Obeys) {id : Nat} {job : Job}
    (under : system.calls.get? id = some (.launching job)) (unheld : system.held = false) :
    (system.register id job).Obeys := by
  have ⟨here, absent⟩ := obeys.calls id _ under
  subst here
  have unregistered : system.active = none := by
    cases registered : system.active with
    | none => rfl
    | some other => exact absurd absent (obeys.active other registered).2
  simp only [System.register, unregistered]
  refine ⟨?_, ?_, ?_, ?_⟩
  · intro other run present
    rw [SortedStore.get?_put] at present
    split at present
    · rename_i same
      exact same
    · exact obeys.only other run present
  · intro other registered
    cases Option.some.inj registered
    refine ⟨rfl, ?_⟩
    rw [SortedStore.get?_put_self]
    exact Option.some_ne_none _
  · intro other call found
    rw [SortedStore.get?_erase] at found
    split at found
    · cases found
    · rename_i different
      have allowed := obeys.calls other call found
      cases call with
      | pauseLoaded job => trivial
      | pauseFound job target => exact absurd absent allowed.2
      | pauseFlagged job target =>
          rcases allowed.2 with ⟨run, present, _⟩
          rw [absent] at present
          cases present
      | pauseSaving job told =>
          intro now
          rcases allowed now with ⟨run, present, _⟩
          rw [absent] at present
          cases present
      | resumeSaving job => exact allowed
      | launching job => exact absurd allowed.1 different
  · intro run present
    rw [SortedStore.get?_put_self] at present
    cases Option.some.inj present
    exact Run.Obeys.new _ unheld _ job

theorem System.Obeys.advance {system next : System} (obeys : system.Obeys) {id : Nat}
    {input : Input} {call : Call} (under : system.calls.get? id = some call)
    (calm : system.undoes (.call id input) = false)
    (taken : system.advance id input call = some next) : next.Obeys := by
  have allowed := obeys.calls id call under
  cases call with
  | pauseLoaded job =>
      simp only [System.advance] at taken
      split at taken
      · rename_i target registered
        cases Option.some.inj taken
        exact obeys.withCall (obeys.active target registered)
      · cases Option.some.inj taken
        exact obeys.withCall fun impossible => by cases impossible
  | pauseFound job target =>
      cases Option.some.inj taken
      rcases allowed with ⟨rfl, present⟩
      rcases Option.ne_none_iff_exists'.mp present with ⟨run, found⟩
      refine (obeys.withRun Run.Signalled.pause).withCall
        ⟨rfl, { run with paused := true }, ?_, rfl⟩
      rw [System.get?_withRun, if_pos rfl, found]
      rfl
  | pauseFlagged job target =>
      cases Option.some.inj taken
      rcases allowed with ⟨rfl, run, found, paused⟩
      refine (obeys.withRun Run.Signalled.cancel).withCall fun _ =>
        ⟨{ run with cancelled := true }, ?_, paused⟩
      rw [System.get?_withRun, if_pos rfl, found]
      rfl
  | pauseSaving job found =>
      simp only [System.advance] at taken
      split at taken
      · rename_i saved
        cases Option.some.inj taken
        refine obeys.pauseSaving under ?_
        intro run present
        simpa [System.undoes, under, saved, present] using calm
      · cases Option.some.inj taken
        exact obeys.endCall id
  | resumeSaving job => exact allowed.elim
  | launching job =>
      simp only [System.advance] at taken
      split at taken
      · cases taken
      · cases Option.some.inj taken
        exact obeys.register under (by simpa [System.undoes, under] using calm)

theorem System.Obeys.step {env : Env} {system next : System} {event : Event} (obeys : system.Obeys)
    (calm : system.undoes event = false) (kind : event.ofPausing = true)
    (taken : step env system event = some next) : next.Obeys := by
  cases step_stepped taken with
  | pausing id free => exact obeys.withCall trivial
  | pauseRefused id => exact obeys
  | resuming id free => cases kind
  | resumeRefused id => cases kind
  | launched id job free => cases kind
  | advanced id input call next under advanced => exact obeys.advance under calm advanced
  | moved id input run after saves found move =>
      cases obeys.only id run found
      have moved := Run.moved move
      refine obeys.put found rfl ?_ rfl moved.paused_eq ?_
      · split
        · exact .inl rfl
        · exact .inr rfl
      · rw [System.saving_state]
        refine (obeys.run run found).moved moved ?_
        intro force
        simpa [System.undoes, force, found] using calm
  | worked id index input run after saves world task found work listed worked =>
      cases obeys.only id run found
      refine obeys.put found rfl (.inr rfl) rfl worked.paused_eq ?_
      rw [System.saving_state]
      refine (obeys.run run found).worked listed worked ?_
      intro force
      simpa [System.undoes, force, found] using calm

/-! ## No further copies -/

/-- No goroutine of the run is between its look at the signal and its copy. -/
def Run.Settled (run : Run) : Prop := forall task, task ∈ run.tasks -> task.status ≠ .checked

theorem Run.Settled.mark {run : Run} (settled : run.Settled) (index : Nat) (task : Task)
    {status : Status} (unchecked : status ≠ .checked) : (run.mark index task status).Settled := by
  intro other member
  rcases Run.mem_mark member with old | rfl
  · exact settled other old
  · exact unchecked

theorem Run.Settled.moved {env : Env} {world : World} {run next : Run} {input : Input}
    {saves : Bool} (settled : run.Settled) (moved : Moved env run input world next saves) :
    next.Settled ∧ next.copies = run.copies := by
  cases moved with
  | object phase key etag statFails =>
      refine ⟨?_, rfl⟩
      intro task member
      rcases List.mem_append.mp member with old | new
      · exact settled task old
      · rw [List.mem_singleton.mp new]
        simp
  | dispatch phase cancelled index task found =>
      exact ⟨settled.mark index task (by simp), rfl⟩
  | _ => exact ⟨settled, rfl⟩

theorem Run.Settled.worked {env : Env} {world after : World} {run next : Run} {index : Nat}
    {task : Task} {input : Input} {saves : Bool} (settled : run.Settled)
    (found : run.tasks[index]? = some task)
    (worked : Worked env run index task input world next saves after)
    (paused : task.status.live = true -> run.paused = true) :
    next.Settled ∧ next.copies = run.copies := by
  have unchecked := settled task (List.mem_of_getElem? found)
  cases worked with
  | check status unpaused =>
      have told := paused (by rw [status]; rfl)
      rw [unpaused] at told
      cases told
  | giveUp status _ | skip status _ | copy status => exact absurd status unchecked
  | attempt status =>
      refine ⟨settled.mark index task ?_, rfl⟩
      rcases env.attempt_status task.action input world with ⟨ended, _⟩ | ⟨error, ended | ended⟩ <;>
        simp [ended]
  | turnBack | skipped | copied | refuse | drop | recover | recoverAgain | fail | unwind =>
      exact ⟨settled.mark index task (by simp), rfl⟩

/-- How many copies the run has started. -/
def System.copies (system : System) : Nat := ((system.runs.get? 0).map Run.copies).getD 0

/-- The workers in flight have observed the signal. -/
def System.Observed (system : System) : Prop :=
  forall run, system.runs.get? 0 = some run -> run.Settled

/-- A pause is in force, and the run has started so many copies. -/
structure System.Quiet (copies : Nat) (system : System) : Prop where
  obeys : system.Obeys
  held : system.held = true
  observed : system.Observed
  copies : system.copies = copies

theorem System.Quiet.put {copies : Nat} {system next : System} {old run : Run}
    (quiet : system.Quiet copies) (obeys : next.Obeys) (held : next.held = system.held)
    (found : system.runs.get? 0 = some old) (runs : next.runs = system.runs.put 0 run)
    (settled : run.Settled ∧ run.copies = old.copies) : next.Quiet copies := by
  have here : next.runs.get? 0 = some run := by rw [runs, SortedStore.get?_put_self]
  refine ⟨obeys, held.trans quiet.held, ?_, ?_⟩
  · intro other present
    cases Option.some.inj (here.symm.trans present)
    exact settled.1
  · have before := quiet.copies
    rw [System.copies, found] at before
    rw [System.copies, here]
    exact settled.2.trans before

/-- A signal to the run, or none, keeps the system quiet. -/
theorem System.Quiet.same {copies : Nat} {system next : System} (quiet : system.Quiet copies)
    (obeys : next.Obeys) (held : next.held = true)
    (runs : forall run, next.runs.get? 0 = some run ->
      Exists fun old => system.runs.get? 0 = some old ∧ old.Signalled run)
    (kept : system.runs.get? 0 ≠ none -> next.runs.get? 0 ≠ none) : next.Quiet copies := by
  have same (run : Run) (present : next.runs.get? 0 = some run) :
      Exists fun old => system.runs.get? 0 = some old ∧ run.tasks = old.tasks ∧
        run.copies = old.copies := by
    rcases runs run present with ⟨old, before, ⟨⟨paused, cancelled, rfl⟩, _, _⟩⟩
    exact ⟨old, before, rfl, rfl⟩
  refine ⟨obeys, held, ?_, ?_⟩
  · intro run present task member
    rcases same run present with ⟨old, before, tasks, _⟩
    exact quiet.observed old before task (tasks ▸ member)
  · rw [← quiet.copies]
    unfold System.copies
    cases present : next.runs.get? 0 with
    | none =>
        cases before : system.runs.get? 0 with
        | none => rfl
        | some old => exact absurd present (kept (by rw [before]; exact Option.some_ne_none old))
    | some run =>
        rcases same run present with ⟨old, before, _, copies⟩
        rw [before]
        exact copies

theorem System.Quiet.step {copies : Nat} {env : Env} {system next : System} {event : Event}
    (quiet : system.Quiet copies) (calm : system.undoes event = false)
    (kind : event.ofPausing = true) (taken : step env system event = some next) :
    next.Quiet copies := by
  have obeys := quiet.obeys.step calm kind taken
  cases step_stepped taken with
  | pausing id free =>
      exact quiet.same obeys quiet.held (fun run found => ⟨run, found, .refl run⟩)
        fun some_ => some_
  | pauseRefused id => exact quiet
  | resuming id free => cases kind
  | resumeRefused id => cases kind
  | launched id job free => cases kind
  | advanced id input call next under advanced =>
      have moved := System.advanced advanced
      refine quiet.same obeys (moved.held quiet.held) ?_ (moved.kept 0)
      intro run found
      rcases moved.runs 0 run found with signalled | ⟨job, rfl, _⟩
      · exact signalled
      · have unheld : system.held = false := by simpa [System.undoes, under] using calm
        rw [quiet.held] at unheld
        cases unheld
  | moved id input run after saves found move =>
      cases quiet.obeys.only id run found
      exact quiet.put obeys rfl found rfl ((quiet.observed run found).moved (Run.moved move))
  | worked id index input run after saves world task found work listed worked =>
      cases quiet.obeys.only id run found
      refine quiet.put obeys rfl found rfl ((quiet.observed run found).worked listed worked ?_)
      intro live
      have known := quiet.obeys.run run found
      exact known.told quiet.held
        (Phase.undecided_of_dispatching (known.live task (List.mem_of_getElem? listed) live))

/-! ## A pause that sticks -/

/-- A paused job is paused once its run has returned, and a job whose run has saved that it is
done stays done. -/
structure System.Sticks (system : System) : Prop where
  paused : system.held = true -> forall run, system.runs.get? 0 = some run ->
    run.phase = .returned -> system.disk.state = .paused
  kept : forall run, system.runs.get? 0 = some run -> run.persisted = true ->
    run.outcome = some .done -> system.disk.state = .done

/-- A run of the create handler's start and of `Pause` calls in which no step undoes a pause: the
pause sticks, and once the workers in flight have observed the signal no copy starts. -/
theorem pause_sticks (env : Env) (job : Job) (world : World) {first second : List Event}
    {middle final : System}
    (kinds : forall event, event ∈ first ++ second -> event.ofPausing = true)
    (met : Transition.Meets (step env) (fun system event => system.undoes event = false)
      (start job world) (first ++ second))
    (before : Transition.exec (step env) (start job world) first = some middle)
    (after : Transition.exec (step env) middle second = some final) :
    final.Sticks ∧ (middle.held = true -> middle.Observed -> final.copies = middle.copies) := by
  have parts := Transition.meets_append first second met before
  have metFirst := Transition.meets_and parts.1 fun event member =>
    kinds event (List.mem_append_left second member)
  have metSecond := Transition.meets_and parts.2 fun event member =>
    kinds event (List.mem_append_right first member)
  have obeys : middle.Obeys :=
    Transition.exec_invariant_of_meets (fun _ _ _ held both taken => held.step both.1 both.2 taken)
      (System.Obeys.start job world) metFirst before
  have kept : final.Obeys :=
    Transition.exec_invariant_of_meets (fun _ _ _ held both taken => held.step both.1 both.2 taken)
      obeys metSecond after
  refine ⟨⟨?_, ?_⟩, ?_⟩
  · exact fun force run found returned => (kept.run run found).sticks force (.inr returned)
  · exact fun run found saved done => (kept.run run found).kept saved done
  · intro force observed
    have quiet : final.Quiet middle.copies :=
      Transition.exec_invariant_of_meets
        (fun _ _ _ held both taken => held.step both.1 both.2 taken)
        ⟨obeys, force, observed, rfl⟩ metSecond after
    exact quiet.copies

/-- The run copies its one object when the job is paused. -/
def pauseEvents : List Event :=
  dispatchEvents ++ [.run 0 {}, .work 0 0 {}, .work 0 0 {}, .pause 1, .call 1 {},
    .call 1 {}, .call 1 {}, .call 1 {}]

/-- The copy fails with the cancelled context, and the run returns. -/
def returnEvents : List Event :=
  [.work 0 0 { faults := { streamObject := some "context canceled" } }, .work 0 0 {}, .run 0 {},
    .run 0 {}, .run 0 {}, .run 0 {}]

def sampleAfter (events : List Event) : System :=
  (Transition.exec (step sampleEnv) (start { state := .queued } sampleWorld) events).getD
    (start { state := .queued } sampleWorld)

theorem pause_sticks_copying :
    (sampleAfter pauseEvents).held = true ∧ (sampleAfter (pauseEvents ++ returnEvents)).Sticks ∧
      ((sampleAfter pauseEvents).held = true -> (sampleAfter pauseEvents).Observed ->
        (sampleAfter (pauseEvents ++ returnEvents)).copies = (sampleAfter pauseEvents).copies) :=
  ⟨by decide, @pause_sticks sampleEnv { state := .queued } sampleWorld pauseEvents returnEvents
    (sampleAfter pauseEvents) (sampleAfter (pauseEvents ++ returnEvents)) (by decide)
      (by decide) rfl rfl⟩

/-- The job is paused before the create handler's run registers. -/
def earlyPauseEvents : List Event :=
  [.pause 1, .call 1 {}, .call 1 {}] ++ dispatchEvents ++ copyEvents

theorem early_pause_ends_done :
    ¬ forall (env : Env) (job : Job) (world : World) (first second : List Event)
      (middle final : System),
      (forall event, event ∈ first ++ second -> event.ofPausing = true) ->
        Transition.exec (step env) (start job world) first = some middle ->
          Transition.exec (step env) middle second = some final ->
            final.Sticks ∧ (middle.held = true -> middle.Observed ->
              final.copies = middle.copies) := by
  intro stated
  have sticks := (stated sampleEnv { state := .queued } sampleWorld earlyPauseEvents [] _
    (sampleAfter earlyPauseEvents) (by decide) rfl rfl).1
  have paused := sticks.paused (by decide) _ rfl rfl
  cases paused

end Syncs
end Basement
