import Basement.Syncs.Generations

namespace Basement
namespace Syncs
namespace Deletion

open Library Drivers
open Library.Transition

/-!
# The deletion of a job

The delete handler loads the job, checks its owner and removes its directory.  It neither looks up
the run of the job nor waits for anything.  Every save of the engine writes the whole record, and
makes the directory if it is missing.

The engine goes on as before.  What differs is that a request which loads the job finds none.
-/

/-! ## The store and the handler -/

/-- The engine and the directory of the job, which may be missing.  The record of the engine is then
what was last in it.  `deleting` counts the delete handlers that have passed their checks. -/
structure Shelf where
  system : System
  owner : String
  gone : Bool
  deleting : Nat

/-- `Load`. -/
def Shelf.load (shelf : Shelf) : Option Job := if shelf.gone then none else some shelf.system.disk

/-- `List`, as far as it is about this job. -/
def Shelf.list (shelf : Shelf) (userID : String) : List Job :=
  if shelf.owner = userID then shelf.load.toList else []

/-- What happens next: a step of the engine, the checks of a delete handler, or its removal, with
whether a failed one has removed the record. -/
inductive Action where
  | engine (event : Event)
  | check (userID : String)
  | remove (failure : Option Bool)

/-- The job that an event lets a resume save. -/
def resumer (system : System) : Event -> Option Job
  | .call id input =>
      match system.calls.get? id with
      | some (.resumeSaving job) => if input.saved then some job else none
      | _ => none
  | _ => none

/-- The event saves the job. -/
def saves (env : Env) (system : System) (event : Event) : Bool :=
  (system.saver env event).isSome || (system.pauser event).isSome || (resumer system event).isSome

/-- The event loads the job. -/
def loads : Event -> Bool
  | .pause _ | .resume _ => true
  | _ => false

/-- A step of the engine; a call that finds no job returns an error.  Only the create handler
launches a job, and it has. -/
def Shelf.advance (env : Env) (shelf : Shelf) (event : Event) : Option Shelf :=
  match event with
  | .launch _ _ => none
  | event =>
      if shelf.gone && loads event then some shelf
      else
        (Syncs.step env shelf.system event).map fun system =>
          { shelf with system, gone := shelf.gone && !saves env shelf.system event }

def step (env : Env) (shelf : Shelf) : Action -> Option Shelf
  | .engine event => shelf.advance env event
  | .check userID =>
      if shelf.gone || shelf.owner ≠ userID then some shelf
      else some { shelf with deleting := shelf.deleting + 1 }
  | .remove failure =>
      if shelf.deleting = 0 then none
      else
        some { shelf with
          deleting := shelf.deleting - 1
          gone := shelf.gone || failure.getD true }

/-- The create handler has saved the job and is about to run it. -/
def opening (owner : String) (job : Job) (world : World) : Shelf :=
  ⟨start job world, owner, false, 0⟩

/-! ## Nothing is cancelled -/

/-- The events of the engine that are not turned away. -/
def Shelf.passes (shelf : Shelf) : Action -> Option Event
  | .engine event => if shelf.gone && loads event then none else some event
  | .check _ | .remove _ => none

theorem advance_some {env : Env} {shelf next : Shelf} {event : Event}
    (taken : shelf.advance env event = some next) :
    (shelf.gone && loads event) = true ∧ next = shelf ∨
      (shelf.gone && loads event) = false ∧ Exists fun system =>
        Syncs.step env shelf.system event = some system ∧
        next = { shelf with system, gone := shelf.gone && !saves env shelf.system event } := by
  unfold Shelf.advance at taken
  split at taken
  · cases taken
  · split at taken
    · rename_i refused
      exact Or.inl ⟨refused, (Option.some.inj taken).symm⟩
    · rename_i passed
      rcases Option.map_eq_some_iff.mp taken with ⟨system, stepped, rfl⟩
      exact Or.inr ⟨Bool.eq_false_iff.mpr passed, system, stepped, rfl⟩

/-- The steps of a delete handler leave the engine alone, and bring nothing back. -/
theorem handler_spec {env : Env} {shelf next : Shelf} {action : Action}
    (handler : forall event, action ≠ .engine event)
    (taken : step env shelf action = some next) :
    next.system = shelf.system ∧ (shelf.gone = true -> next.gone = true) := by
  cases action with
  | engine event => exact absurd rfl (handler event)
  | check userID =>
      simp only [step] at taken
      split at taken <;> cases Option.some.inj taken <;> exact ⟨rfl, fun gone => gone⟩
  | remove failure =>
      simp only [step] at taken
      split at taken
      · cases taken
      · cases Option.some.inj taken
        refine ⟨rfl, fun gone => ?_⟩
        exact Bool.or_eq_true_iff.mpr (Or.inl gone)

/-- Without the deletes and what they turn away, a run is one of the engine. -/
theorem exec_passes {env : Env} {actions : List Action} {shelf final : Shelf}
    (run : exec (step env) shelf actions = some final) :
    exec (Syncs.step env) shelf.system (seen (step env) Shelf.passes shelf actions) =
      some final.system := by
  refine @exec_seen _ _ (step env) _ _ (Syncs.step env) Shelf.system Shelf.passes
    (fun _ _ => True) (fun _ => True) ?_ actions shelf final trivial (meets_true actions shelf) run
  intro before action after _ _ taken
  refine ⟨trivial, ?_⟩
  cases action with
  | engine event =>
      rcases advance_some taken with ⟨refused, rfl⟩ | ⟨passed, system, stepped, rfl⟩
      · simp only [Shelf.passes, refused, if_true]
        rfl
      · simp only [Shelf.passes, passed, Bool.false_eq_true, if_false]
        exact (exec_single _ _).trans stepped
  | check userID => exact congrArg some (handler_spec (fun _ => Action.noConfusion) taken).1.symm
  | remove failure => exact congrArg some (handler_spec (fun _ => Action.noConfusion) taken).1.symm

/-! ## Runs that are over -/

def busy : Phase -> Bool
  | .checking | .acquiring | .waiting => true
  | _ => false

/-- Only between the plan and the end do goroutines run. -/
def Idles (run : Run) : Prop := busy run.phase = false -> run.live = 0

theorem Idles.moved {env : Env} {world : World} {run next : Run} {input : Input} {flag : Bool}
    (idles : Idles run) (moved : Moved env run input world next flag) : Idles next := by
  have before : forall {phase : Phase}, run.phase = phase -> busy phase = false ->
    run.live = 0 := by
    rintro phase rfl quiet
    exact idles quiet
  cases moved with
  | begin phase => exact fun _ => before phase rfl
  | object phase key etag statFails =>
      intro _
      have none := before phase rfl
      unfold Run.live at none ⊢
      rw [List.countP_append, none]
      rfl
  | unplanned phase error listed => exact fun _ => before phase rfl
  | planned phase => exact fun impossible => Bool.noConfusion impossible
  | leave phase why => exact fun impossible => Bool.noConfusion impossible
  | acquire phase => exact fun impossible => Bool.noConfusion impossible
  | release phase cancelled => exact fun impossible => Bool.noConfusion impossible
  | dispatch phase cancelled index task found => exact fun impossible => Bool.noConfusion impossible
  | failed phase idle failed => exact fun _ => idle
  | paused phase idle paused => exact fun _ => idle
  | done phase idle unfailed unpaused => exact fun _ => idle
  | other phase idle unfailed unpaused state => exact fun _ => idle
  | persist phase => exact fun _ => before phase rfl
  | quit phase => exact fun _ => before phase rfl

theorem Idles.worked {env : Env} {world after : World} {run next : Run} {index : Nat}
    {task : Task} {input : Input} {flag : Bool} (idles : Idles run)
    (found : run.tasks[index]? = some task)
    (worked : Worked env run index task input world next flag after) : Idles next := by
  intro quiet
  rw [worked.phase_eq.1] at quiet
  have still := Run.idle (idles quiet) (List.mem_of_getElem? found)
  rw [worked.live] at still
  cases still

/-- A property of runs that signals and the steps of a run keep holds of all runs. -/
theorem all_runs {env : Env} {property : Run -> Prop} (new : forall job, property { job })
    (signalled : forall {old run : Run}, property old -> old.Signalled run -> property run)
    (moved : forall {world : World} {run next : Run} {input : Input} {flag : Bool}, property run ->
      Moved env run input world next flag -> property next)
    (worked : forall {world after : World} {run next : Run} {index : Nat} {task : Task}
      {input : Input} {flag : Bool}, property run -> run.tasks[index]? = some task ->
        Worked env run index task input world next flag after -> property next)
    {system next : System} {event : Event}
    (held : forall id run, system.runs.get? id = some run -> property run)
    (taken : Syncs.step env system event = some next) :
    forall id run, next.runs.get? id = some run -> property run := by
  intro id run found
  cases step_stepped taken with
  | pausing call free => exact held id run found
  | pauseRefused call => exact held id run found
  | resuming call free => exact held id run found
  | resumeRefused call => exact held id run found
  | launched call job free => exact held id run found
  | advanced own input call next pending advanced =>
      rcases (System.advanced advanced).runs id run found with ⟨old, before, signal⟩ | ⟨job, _, rfl⟩
      · exact signalled (held id old before) signal
      · exact new job
  | moved own input before after flag known move =>
      exact SortedStore.Every.put held (moved (held own before known) (Run.moved move)) id run found
  | worked own index input before after flag world task known work listed done =>
      exact SortedStore.Every.put held (worked (held own before known) listed done) id run found

theorem idles_of_run {env : Env} {owner : String} {job : Job} {world : World}
    {actions : List Action} {shelf : Shelf}
    (reached : exec (step env) (opening owner job world) actions = some shelf) :
    forall id run, shelf.system.runs.get? id = some run -> Idles run := by
  refine @exec_invariant _ _ (Syncs.step env)
    (fun system => forall id run, system.runs.get? id = some run -> Idles run) ?_ _
    (start job world) shelf.system ?_ (exec_passes reached)
  · intro system event next held taken
    refine all_runs (fun job _ => rfl) ?_ Idles.moved Idles.worked held taken
    intro old run idles signal
    rcases signal.same with ⟨paused, cancelled, rfl⟩
    exact idles
  · intro id run found
    cases found

/-- Nothing of the job is under way, but for runs that have only to leave the registry. -/
structure Settled (system : System) : Prop where
  calls : forall id, system.calls.get? id = none
  runs : forall id run, system.runs.get? id = some run ->
    run.phase = .leaving ∨ run.phase = .returned

theorem Moved.of_over {env : Env} {world : World} {run next : Run} {input : Input} {flag : Bool}
    (over' : run.phase = .leaving ∨ run.phase = .returned)
    (moved : Moved env run input world next flag) :
    flag = false ∧ next = { run with phase := .returned, cancelled := true } := by
  cases moved with
  | quit phase => exact ⟨rfl, rfl⟩
  | begin phase | object phase key etag statFails | unplanned phase error listed | planned phase
  | leave phase why | acquire phase | release phase cancelled
  | dispatch phase cancelled index task found | failed phase idle failed
  | paused phase idle paused | done phase idle unfailed unpaused
  | other phase idle unfailed unpaused state | persist phase =>
      rcases over' with leaving | returned
      · cases phase.symm.trans leaving
      · cases phase.symm.trans returned

/-- The job is gone, and nothing has been copied since. -/
structure Over (before : System) (shelf : Shelf) : Prop where
  gone : shelf.gone = true
  settled : Settled shelf.system
  world : shelf.system.world = before.world
  runs : forall id run, shelf.system.runs.get? id = some run -> run.live = 0 ∧
    Exists fun old => before.runs.get? id = some old ∧ run.copies = old.copies

theorem saves_run {env : Env} {system : System} {id : Nat} {input : Input} {run after : Run}
    (found : system.runs.get? id = some run)
    (move : run.move env input system.world = some (after, false)) :
    saves env system (.run id input) = false := by
  unfold saves
  rw [saver_run found move]
  rfl

theorem Over.handled {before : System} {shelf next : Shelf} (held : Over before shelf)
    (spec : next.system = shelf.system ∧ (shelf.gone = true -> next.gone = true)) :
    Over before next := by
  rcases spec with ⟨same, gone⟩
  exact ⟨gone held.gone, same ▸ held.settled, same ▸ held.world, same ▸ held.runs⟩

/-- A run that is over leaves the registry. -/
theorem Over.returned {env : Env} {before : System} {shelf : Shelf} {id : Nat} {input : Input}
    {run after : Run} {flag : Bool} (held : Over before shelf)
    (found : shelf.system.runs.get? id = some run)
    (move : run.move env input shelf.system.world = some (after, flag)) :
    saves env shelf.system (.run id input) = false ∧
      forall other candidate, (shelf.system.runs.put id after).get? other = some candidate ->
        (candidate.phase = .leaving ∨ candidate.phase = .returned) ∧ candidate.live = 0 ∧
          Exists fun old => before.runs.get? other = some old ∧ candidate.copies = old.copies := by
  rcases Moved.of_over (held.settled.runs id run found) (Run.moved move) with ⟨rfl, rfl⟩
  refine ⟨saves_run found move, ?_⟩
  intro other candidate present
  rw [SortedStore.get?_put] at present
  split at present
  · rename_i same
    cases Option.some.inj present
    rw [same]
    exact ⟨Or.inr rfl, held.runs id run found⟩
  · exact ⟨held.settled.runs other candidate present, held.runs other candidate present⟩

theorem Over.step {env : Env} {before : System} {shelf next : Shelf} {action : Action}
    (held : Over before shelf) (taken : step env shelf action = some next) : Over before next := by
  cases action with
  | check userID => exact held.handled (handler_spec (fun _ => Action.noConfusion) taken)
  | remove failure => exact held.handled (handler_spec (fun _ => Action.noConfusion) taken)
  | engine event =>
      rcases advance_some taken with ⟨_, rfl⟩ | ⟨passed, system, stepped, rfl⟩
      · exact held
      · rw [held.gone, Bool.true_and] at passed
        cases step_stepped stepped with
        | pausing id free => cases passed
        | pauseRefused id => cases passed
        | resuming id free => cases passed
        | resumeRefused id => cases passed
        | launched id job free => cases taken
        | advanced id input call system found advanced =>
            cases (held.settled.calls id).symm.trans found
        | moved id input run after flag found move =>
            rcases held.returned found move with ⟨unsaved, runs⟩
            refine ⟨?_, ⟨held.settled.calls, ?_⟩, held.world, ?_⟩
            · rw [held.gone, unsaved]
              rfl
            · exact fun other candidate present => (runs other candidate present).1
            · exact fun other candidate present => (runs other candidate present).2
        | worked id index input run after flag world task found work listed worked =>
            have still := Run.idle (held.runs id run found).1 (List.mem_of_getElem? listed)
            cases worked.live.symm.trans still

/-! ## What comes later -/

/-- A step that writes the record. -/
def Shelf.writes (env : Env) (shelf : Shelf) : Action -> Bool
  | .engine event => saves env shelf.system event
  | .check _ | .remove _ => false

/-- The job is gone, and every call is one of those that were under way. -/
structure Absent (before : System) (shelf : Shelf) : Prop where
  gone : shelf.gone = true
  calls : forall id, shelf.system.calls.get? id ≠ none -> before.calls.get? id ≠ none

theorem answered_calls {system next : System} {id other : Nat} {input : Input} {call : Call}
    (answered : System.Answered system next id input call) (different : other ≠ id) :
    next.calls.get? other = system.calls.get? other := by
  cases answered with
  | waits _ after before disk calls =>
      rw [calls]
      exact SortedStore.get?_put_of_ne _ _ different
  | drops _ before disk calls =>
      rw [calls, SortedStore.get?_erase, if_neg different]
  | pauses job found saved disk calls =>
      rw [calls, SortedStore.get?_erase, if_neg different]
  | resumes job disk calls =>
      rw [calls]
      exact SortedStore.get?_put_of_ne _ _ different
  | launches job fresh calls =>
      rw [calls, SortedStore.get?_erase, if_neg different]

theorem Absent.handled {before : System} {shelf next : Shelf} (held : Absent before shelf)
    (spec : next.system = shelf.system ∧ (shelf.gone = true -> next.gone = true)) :
    Absent before next := by
  rcases spec with ⟨same, gone⟩
  exact ⟨gone held.gone, same ▸ held.calls⟩

theorem Absent.step {env : Env} {before : System} {shelf next : Shelf} {action : Action}
    (held : Absent before shelf) (silent : shelf.writes env action = false)
    (taken : step env shelf action = some next) : Absent before next := by
  cases action with
  | check userID => exact held.handled (handler_spec (fun _ => Action.noConfusion) taken)
  | remove failure => exact held.handled (handler_spec (fun _ => Action.noConfusion) taken)
  | engine event =>
      rcases advance_some taken with ⟨_, rfl⟩ | ⟨passed, system, stepped, rfl⟩
      · exact held
      · have quiet : saves env shelf.system event = false := silent
        refine ⟨by rw [held.gone, quiet]; rfl, ?_⟩
        rw [held.gone, Bool.true_and] at passed
        intro other pending
        cases step_stepped stepped with
        | pausing id free => cases passed
        | pauseRefused id => cases passed
        | resuming id free => cases passed
        | resumeRefused id => cases passed
        | launched id job free => cases taken
        | moved id input run after flag found move => exact held.calls other pending
        | worked id index input run after flag world task found work listed worked =>
            exact held.calls other pending
        | advanced id input call system found advanced =>
            by_cases same : other = id
            · rw [same]
              exact held.calls id (found ▸ Option.some_ne_none _)
            · change system.calls.get? other ≠ none at pending
              rw [answered_calls (System.answered advanced) same] at pending
              exact held.calls other pending

/-! ## Whole runs -/

theorem load_of_gone {shelf : Shelf} (gone : shelf.gone = true) :
    shelf.load = none ∧ forall userID, shelf.list userID = [] := by
  have missing : shelf.load = none := by
    unfold Shelf.load
    rw [if_pos gone]
  refine ⟨missing, fun userID => ?_⟩
  unfold Shelf.list
  rw [missing]
  exact ite_self _

/-- The removal takes the record away and changes nothing else that the engine looks at. -/
theorem remove_spec {env : Env} {shelf removed : Shelf}
    (deleted : step env shelf (.remove none) = some removed) :
    removed.gone = true ∧ removed.system = shelf.system := by
  simp only [step] at deleted
  split at deleted
  · cases deleted
  · cases Option.some.inj deleted
    exact ⟨Bool.or_true _, rfl⟩

/-- A delete cancels nothing: the engine goes on as if the job were there.  Until something saves
the job again it is gone, and no later request gets through.  If nothing of the job was under way,
it stays gone and no object is copied. -/
theorem deleted_job_stays_deleted (env : Env) (owner : String) (job : Job) (world : World)
    {before after : List Action} {middle removed final : Shelf}
    (reached : exec (step env) (opening owner job world) before = some middle)
    (deleted : step env middle (.remove none) = some removed)
    (run : exec (step env) removed after = some final) :
    exec (Syncs.step env) middle.system (seen (step env) Shelf.passes removed after) =
        some final.system ∧
      (Meets (step env) (fun shelf action => shelf.writes env action = false) removed after ->
        final.load = none ∧ (forall userID, final.list userID = []) ∧
          forall id, final.system.calls.get? id ≠ none -> middle.system.calls.get? id ≠ none) ∧
      (Settled middle.system -> final.load = none ∧ (forall userID, final.list userID = []) ∧
        final.system.world = middle.system.world ∧
          forall id run, final.system.runs.get? id = some run -> Exists fun old =>
            middle.system.runs.get? id = some old ∧ run.copies = old.copies) := by
  rcases remove_spec deleted with ⟨gone, same⟩
  refine ⟨same ▸ exec_passes run, ?_, ?_⟩
  · intro silent
    have absent : Absent middle.system final := by
      refine @exec_invariant_of_meets _ _ (step env)
        (fun shelf action => shelf.writes env action = false) (Absent middle.system) ?_ after
        removed final ⟨gone, fun id pending => same ▸ pending⟩ silent run
      intro shelf action next held quiet taken
      exact held.step quiet taken
    exact ⟨(load_of_gone absent.gone).1, (load_of_gone absent.gone).2, absent.calls⟩
  · intro settled
    have idle := idles_of_run reached
    have ended : Over middle.system final := by
      refine @exec_invariant _ _ (step env) (Over middle.system) ?_ after removed final ?_ run
      · intro shelf action next held taken
        exact held.step taken
      · refine ⟨gone, same ▸ settled, congrArg System.world same, fun id run found => ?_⟩
        rw [same] at found
        refine ⟨idle id run found ?_, run, found, rfl⟩
        rcases settled.runs id run found with leaving | returned
        · rw [leaving]
          rfl
        · rw [returned]
          rfl
    exact ⟨(load_of_gone ended.gone).1, (load_of_gone ended.gone).2, ended.world,
      fun id run found => (ended.runs id run found).2⟩

/-- The run has ended when its owner deletes the job. -/
def endedActions : List Action :=
  (dispatchEvents ++ copyEvents).map .engine ++ [.check "alice"]

/-- The run is about to copy the object when its owner deletes the job. -/
def copyingActions : List Action :=
  (dispatchEvents ++ [Event.run 0 {}]).map .engine ++ [.check "alice"]

def shelfAfter (actions : List Action) : Shelf :=
  (exec (step sampleEnv) (opening "alice" { state := .queued } sampleWorld) actions).getD
    (opening "alice" { state := .queued } sampleWorld)

theorem deleted_job_stays_deleted_ended :
    Settled (shelfAfter endedActions).system ∧
      (shelfAfter (endedActions ++ [.remove none, .engine (.pause 1)])).load = none := by
  have settled : Settled (shelfAfter endedActions).system := by
    refine ⟨fun id => rfl, fun id run found => ?_⟩
    have listed := (SortedStore.mem_entries_iff _ id run).mpr found
    cases List.mem_singleton.mp listed
    exact Or.inr rfl
  refine ⟨settled, ?_⟩
  have stays := @deleted_job_stays_deleted sampleEnv "alice" { state := .queued } sampleWorld
    endedActions [.engine (.pause 1)] (shelfAfter endedActions)
    (shelfAfter (endedActions ++ [.remove none])) _ rfl rfl rfl
  exact (stays.2.2 settled).1

/-- The worker copies the object. -/
def copyActions : List Action :=
  [Event.work 0 0 {}, .work 0 0 {}, .work 0 0 {}, .work 0 0 {}].map .engine

/-- The object is copied after the delete, and then the job is there again. -/
theorem deleted_job_returns :
    (¬ forall (env : Env) (owner : String) (job : Job) (world : World)
      (before after : List Action) (middle removed final : Shelf),
      exec (step env) (opening owner job world) before = some middle ->
      step env middle (.remove none) = some removed ->
      exec (step env) removed after = some final -> final.load = none) ∧
    ¬ forall (env : Env) (owner : String) (job : Job) (world : World)
      (before after : List Action) (middle removed final : Shelf),
      exec (step env) (opening owner job world) before = some middle ->
      step env middle (.remove none) = some removed ->
      exec (step env) removed after = some final ->
        forall id run, final.system.runs.get? id = some run -> Exists fun old =>
          middle.system.runs.get? id = some old ∧ run.copies = old.copies := by
  constructor
  · intro gone
    have missing := gone sampleEnv "alice" { state := .queued } sampleWorld copyingActions
      copyActions _ _ _ rfl rfl rfl
    exact Option.some_ne_none _ missing
  · intro still
    rcases still sampleEnv "alice" { state := .queued } sampleWorld copyingActions copyActions
      _ _ _ rfl rfl rfl 0 _ rfl with ⟨old, before, same⟩
    cases Option.some.inj before
    exact absurd same (by decide)

end Deletion
end Syncs
end Basement
