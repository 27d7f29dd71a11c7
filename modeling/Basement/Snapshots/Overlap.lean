import Basement.Snapshots.Pruning

namespace Basement
namespace Snapshots

open Library Library.Transition

/-!
# Runs of one backup

The cron callback and the run request lead into the same routine.  The callback claims the
backup's ID in a set of runs in flight before it enters the routine, skips the tick if the
ID is there, and releases it on every way out, a panic included.  The request enters the
routine directly.

The runs themselves are those of `Snapshots.Pruning`: copies, then for a snapshot backup the
retention pass.
-/

/-! ## The system -/

structure Row where
  backup : Backup
  disabled : Bool
  deriving DecidableEq, Repr

/-- How a goroutine came into `runAndRecord`: from `fire` or from `Trigger`. -/
inductive Entry where
  | scheduled
  | manual
  deriving DecidableEq, Repr

/-- Where a goroutine of the scheduler is: about to read the row, in the runner with one of
the runs, about to record its result, or about to release the ID. -/
inductive Call where
  | idle
  | entered (entry : Entry) (id : String)
  | running (entry : Entry) (id : String) (run : Nat)
  | ran (entry : Entry) (id : String)
  | leaving (id : String)
  deriving DecidableEq, Repr

/-- The ID that a goroutine has claimed. -/
def Call.claim : Call -> Option String
  | .entered .scheduled id => some id
  | .running .scheduled id _ => some id
  | .ran .scheduled id => some id
  | .leaving id => some id
  | _ => none

/-- The run of a goroutine, from the call of the runner until its result is recorded. -/
def Call.run : Call -> Option (Entry × String)
  | .running entry id _ => some (entry, id)
  | .ran entry id => some (entry, id)
  | _ => none

/-- The goroutine behind `runAndRecord`: a callback has still to release its claim. -/
def Entry.leave (id : String) : Entry -> Call
  | .scheduled => .leaving id
  | .manual => .idle

/-- The stored rows, the set of IDs in flight, the goroutines, and the world of the runs. -/
structure Scheduler where
  rows : SortedStore String Row
  inFlight : String -> Bool
  calls : Nat -> Call
  world : State

inductive SchedulerAction where
  | put (id : String) (row : Row)
  | delete (id : String)
  | upload (place : Drivers.Place) (key : String)
  | remove (place : Drivers.Place) (key : String)
  | fire (call : Nat) (id : String)
  | request (call : Nat) (id : String)
  | enter (call : Nat) (started : Int)
  | work (call : Nat) (event : Event)
  | finish (call : Nat)
  | record (call : Nat)
  | release (call : Nat)
  | panic (call : Nat)
  deriving DecidableEq, Repr

namespace Scheduler

def move (s : Scheduler) (call : Nat) (stage : Call) : Scheduler :=
  { s with calls := Function.update s.calls call stage }

/-- `fire`, up to `runAndRecord`. -/
def fire (s : Scheduler) (call : Nat) (id : String) : Scheduler :=
  if s.inFlight id then s
  else { s.move call (.entered .scheduled id) with inFlight := Function.update s.inFlight id true }

/-- `userRunBackupHandler`, up to the goroutine that calls `Trigger`. -/
def request (s : Scheduler) (call : Nat) (id : String) : Scheduler :=
  match s.rows.get? id with
  | none => s
  | some row => if row.disabled then s else s.move call (.entered .manual id)

/-- `runAndRecord`, up to the call of the runner. -/
def enter (s : Scheduler) (call : Nat) (entry : Entry) (id : String) (started : Int) :
    Option Scheduler :=
  match s.rows.get? id with
  | none => some (s.move call (entry.leave id))
  | some row =>
      if row.disabled then some (s.move call (entry.leave id))
      else
        (Snapshots.step [row.backup] s.world (.start row.backup started)).map fun world =>
          { s.move call (.running entry id s.world.tasks.length) with world := world }

/-- A panic in a callback is recovered, and its claim released.  Nothing recovers a panic in
the goroutine of a run request: the process ends, and starts again without goroutines. -/
def recover (s : Scheduler) (call : Nat) (id : String) : Entry -> Scheduler
  | .scheduled => s.move call (.leaving id)
  | .manual => { s with inFlight := fun _ => false, calls := fun _ => .idle }

def step (s : Scheduler) : SchedulerAction -> Option Scheduler
  | .put id row => some { s with rows := s.rows.put id row }
  | .delete id => some { s with rows := s.rows.erase id }
  | .upload place key =>
      (Snapshots.step [] s.world (.upload place key)).map fun world => { s with world := world }
  | .remove place key =>
      (Snapshots.step [] s.world (.remove place key)).map fun world => { s with world := world }
  | .fire call id => if s.calls call = .idle then some (s.fire call id) else none
  | .request call id => if s.calls call = .idle then some (s.request call id) else none
  | .enter call started =>
      match s.calls call with
      | .entered entry id => s.enter call entry id started
      | _ => none
  | .work call event =>
      match s.calls call with
      | .running _ _ run =>
          (Snapshots.step [] s.world (.work run event)).map fun world => { s with world := world }
      | _ => none
  | .finish call =>
      match s.calls call with
      | .running entry id run =>
          if s.world.tasks[run]? = some .done then some (s.move call (.ran entry id)) else none
      | _ => none
  | .record call =>
      match s.calls call with
      | .ran entry id => some (s.move call (entry.leave id))
      | _ => none
  | .release call =>
      match s.calls call with
      | .leaving id =>
          some { s.move call .idle with inFlight := Function.update s.inFlight id false }
      | _ => none
  | .panic call =>
      match s.calls call with
      | .entered entry id => some (s.recover call id entry)
      | .running entry id _ => some (s.recover call id entry)
      | .ran entry id => some (s.recover call id entry)
      | _ => none

/-- A scheduler with stored rows, before the first tick. -/
def start (rows : SortedStore String Row) : Scheduler :=
  ⟨rows, fun _ => false, fun _ => .idle, Snapshots.start⟩

/-! ## One run at a time -/

/-- No two goroutines have a run of one backup. -/
def OneRun (s : Scheduler) : Prop :=
  forall i j entry other id, (s.calls i).run = some (entry, id) ->
    (s.calls j).run = some (other, id) -> i = j

/-- No retention pass works beside a copying run of the same backup. -/
def NoPruneBesideCopy (s : Scheduler) : Prop :=
  forall i j entry other id run copying, s.calls i = .running entry id run ->
    s.calls j = .running other id copying ->
      (Exists fun b => Exists fun started => Exists fun pending => Exists fun failed =>
        s.world.tasks[copying]? = some (.copying b started pending failed)) ->
      ((Exists fun b => Exists fun started => Exists fun continuation => Exists fun found =>
          s.world.tasks[run]? = some (.listing b started continuation found)) ∨
        Exists fun b => Exists fun folders => Exists fun sweep =>
          s.world.tasks[run]? = some (.pruning b folders sweep)) -> i = j

theorem OneRun.noPruneBesideCopy {s : Scheduler} (one : s.OneRun) : s.NoPruneBesideCopy := by
  intro i j entry other id run copying here there _ _
  apply one i j entry other id
  · rw [here]
    rfl
  · rw [there]
    rfl

/-- A run that begins beside another one of its backup was not requested, and neither was the
other. -/
def Unrequested (s : Scheduler) : SchedulerAction -> Prop
  | .enter call _ => forall entry id row, s.calls call = .entered entry id ->
      s.rows.get? id = some row -> row.disabled = false ->
        forall other beside, (s.calls other).run = some (beside, id) ->
          entry = .scheduled ∧ beside = .scheduled
  | _ => True

/-- The claims of the callbacks: each is in the set, and no two are the same. -/
structure Guarded (s : Scheduler) : Prop where
  marked : forall i id, (s.calls i).claim = some id -> s.inFlight id = true
  distinct : forall i j id, (s.calls i).claim = some id -> (s.calls j).claim = some id -> i = j

/-- What a step does to the goroutines. -/
inductive Move (s : Scheduler) : SchedulerAction -> Scheduler -> Prop where
  | kept {action : SchedulerAction} {next : Scheduler} (quiet : s.Unrequested action)
      (calls : next.calls = s.calls) (inFlight : next.inFlight = s.inFlight) : Move s action next
  | moved {action : SchedulerAction} (quiet : s.Unrequested action) (call : Nat) (stage : Call)
      (claim : stage.claim = none ∨ stage.claim = (s.calls call).claim)
      (run : stage.run = none ∨ stage.run = (s.calls call).run) :
      Move s action (s.move call stage)
  | claimed (call : Nat) (id : String) (free : s.inFlight id = false) :
      Move s (.fire call id) { s.move call (.entered .scheduled id) with
        inFlight := Function.update s.inFlight id true }
  | began (call : Nat) (started : Int) (entry : Entry) (id : String) (row : Row) (world : State)
      (entered : s.calls call = .entered entry id) (found : s.rows.get? id = some row)
      (enabled : row.disabled = false) :
      Move s (.enter call started)
        { s.move call (.running entry id s.world.tasks.length) with world := world }
  | released (call : Nat) (id : String) (leaving : s.calls call = .leaving id) :
      Move s (.release call)
        { s.move call .idle with inFlight := Function.update s.inFlight id false }
  | crashed (call : Nat) :
      Move s (.panic call) { s with inFlight := fun _ => false, calls := fun _ => .idle }

section Steps

variable {s next : Scheduler} {action : SchedulerAction}

theorem leave_claim (entry : Entry) (id : String) :
    (entry.leave id).claim = none ∨ (entry.leave id).claim = (Call.ran entry id).claim := by
  cases entry
  · exact Or.inr rfl
  · exact Or.inl rfl

theorem leave_run (entry : Entry) (id : String) : (entry.leave id).run = none := by
  cases entry <;> rfl

theorem enter_moves {call : Nat} {started : Int} {entry : Entry} {id : String}
    (entered : s.calls call = .entered entry id)
    (taken : s.enter call entry id started = some next) : s.Move (.enter call started) next := by
  have same : (s.calls call).claim = (Call.ran entry id).claim := by
    rw [entered]
    cases entry <;> rfl
  have left : (entry.leave id).claim = none ∨ (entry.leave id).claim = (s.calls call).claim := by
    rw [same]
    exact leave_claim entry id
  unfold enter at taken
  cases found : s.rows.get? id with
  | none =>
      rw [found] at taken
      cases taken
      refine Move.moved ?_ call _ left (Or.inl (leave_run entry id))
      intro held at_ row here stored
      rw [entered] at here
      cases here
      rw [found] at stored
      cases stored
  | some row =>
      rw [found] at taken
      cases off : row.disabled with
      | true =>
          simp only [off, if_true] at taken
          cases taken
          refine Move.moved ?_ call _ left (Or.inl (leave_run entry id))
          intro held at_ other here stored enabled
          rw [entered] at here
          cases here
          cases Option.some.inj (found.symm.trans stored)
          rw [off] at enabled
          cases enabled
      | false =>
          simp only [off, Bool.false_eq_true, if_false] at taken
          rcases Option.map_eq_some_iff.mp taken with ⟨world, _, rfl⟩
          exact Move.began call started entry id row world entered found off

theorem step_moves (taken : s.step action = some next) : s.Move action next := by
  cases action with
  | put id row =>
      cases taken
      exact Move.kept trivial rfl rfl
  | delete id =>
      cases taken
      exact Move.kept trivial rfl rfl
  | upload place key =>
      simp only [step] at taken
      rcases Option.map_eq_some_iff.mp taken with ⟨world, _, rfl⟩
      exact Move.kept trivial rfl rfl
  | remove place key =>
      simp only [step] at taken
      rcases Option.map_eq_some_iff.mp taken with ⟨world, _, rfl⟩
      exact Move.kept trivial rfl rfl
  | fire call id =>
      simp only [step] at taken
      split at taken
      · cases taken
        unfold fire
        cases free : s.inFlight id with
        | true => exact Move.kept trivial rfl rfl
        | false => exact Move.claimed call id free
      · cases taken
  | request call id =>
      have quiet : s.Unrequested (.request call id) := trivial
      simp only [step] at taken
      split at taken
      · cases taken
        unfold request
        split
        · exact Move.kept trivial rfl rfl
        · split
          · exact Move.kept trivial rfl rfl
          · exact Move.moved quiet call _ (Or.inl rfl) (Or.inl rfl)
      · cases taken
  | enter call started =>
      simp only [step] at taken
      split at taken
      · rename_i entry id entered
        exact enter_moves entered taken
      · cases taken
  | work call event =>
      simp only [step] at taken
      split at taken
      · rcases Option.map_eq_some_iff.mp taken with ⟨world, _, rfl⟩
        exact Move.kept trivial rfl rfl
      · cases taken
  | finish call =>
      have quiet : s.Unrequested (.finish call) := trivial
      simp only [step] at taken
      split at taken
      · rename_i entry id run running
        split at taken
        · cases taken
          refine Move.moved quiet call _ (Or.inr ?_) (Or.inr ?_) <;> rw [running]
          · cases entry <;> rfl
          · rfl
        · cases taken
      · cases taken
  | record call =>
      have quiet : s.Unrequested (.record call) := trivial
      simp only [step] at taken
      split at taken
      · rename_i entry id ran
        cases taken
        refine Move.moved quiet call _ ?_ (Or.inl (leave_run entry id))
        rw [ran]
        exact leave_claim entry id
      · cases taken
  | release call =>
      simp only [step] at taken
      split at taken
      · rename_i id leaving
        cases taken
        exact Move.released call id leaving
      · cases taken
  | panic call =>
      have quiet : s.Unrequested (.panic call) := trivial
      have recovered : forall entry id, (s.calls call).claim = (Call.ran entry id).claim ->
          s.Move (.panic call) (s.recover call id entry) := by
        intro entry id same
        cases entry with
        | scheduled =>
            refine Move.moved quiet call _ (Or.inr ?_) (Or.inl rfl)
            rw [same]
            rfl
        | manual => exact Move.crashed call
      simp only [step] at taken
      split at taken
      · rename_i entry id entered
        cases taken
        apply recovered
        rw [entered]
        cases entry <;> rfl
      · rename_i entry id run running
        cases taken
        apply recovered
        rw [running]
        cases entry <;> rfl
      · rename_i entry id ran
        cases taken
        apply recovered
        rw [ran]
      · cases taken

/-- A goroutine that moves on keeps its claim or gives it up; the others keep theirs. -/
theorem move_claim {call : Nat} {stage : Call}
    (claim : stage.claim = none ∨ stage.claim = (s.calls call).claim) {i : Nat} {id : String}
    (claims : (Function.update s.calls call stage i).claim = some id) :
    (s.calls i).claim = some id := by
  by_cases same : i = call
  · subst same
    rw [Function.update_self] at claims
    rcases claim with none | kept
    · rw [none] at claims
      cases claims
    · rw [← kept, claims]
  · rwa [Function.update_of_ne same] at claims

theorem move_run {call : Nat} {stage : Call}
    (run : stage.run = none ∨ stage.run = (s.calls call).run) {i : Nat} {entry : Entry}
    {id : String} (runs : (Function.update s.calls call stage i).run = some (entry, id)) :
    (s.calls i).run = some (entry, id) := by
  by_cases same : i = call
  · subst same
    rw [Function.update_self] at runs
    rcases run with none | kept
    · rw [none] at runs
      cases runs
    · rw [← kept, runs]
  · rwa [Function.update_of_ne same] at runs

theorem Guarded.of_claims (guarded : s.Guarded) (inFlight : next.inFlight = s.inFlight)
    (claims : forall i id, (next.calls i).claim = some id -> (s.calls i).claim = some id) :
    next.Guarded where
  marked := by
    intro i id here
    rw [inFlight]
    exact guarded.marked i id (claims i id here)
  distinct := by
    intro i j id here there
    exact guarded.distinct i j id (claims i id here) (claims j id there)

theorem Guarded.claimed (guarded : s.Guarded) (call : Nat) {id : String}
    (free : s.inFlight id = false) :
    Guarded { s.move call (.entered .scheduled id) with
      inFlight := Function.update s.inFlight id true } := by
  have others : forall i other, i ≠ call ->
      (Function.update s.calls call (.entered .scheduled id) i).claim = some other ->
        (s.calls i).claim = some other ∧ other ≠ id := by
    intro i other apart claims
    rw [Function.update_of_ne apart] at claims
    refine ⟨claims, ?_⟩
    rintro rfl
    rw [guarded.marked i other claims] at free
    cases free
  have own : forall other,
      (Function.update s.calls call (.entered .scheduled id) call).claim = some other ->
        id = other := by
    intro other claims
    rw [Function.update_self] at claims
    exact Option.some.inj claims
  refine ⟨?_, ?_⟩
  · intro i other claims
    by_cases same : i = call
    · subst same
      rw [← own other claims]
      exact Function.update_self id true s.inFlight
    · rcases others i other same claims with ⟨before, apart⟩
      exact (Function.update_of_ne apart true s.inFlight).trans (guarded.marked i other before)
  · intro i j other here there
    by_cases first : i = call
    · by_cases second : j = call
      · rw [first, second]
      · subst first
        exact absurd (own other here).symm (others j other second there).2
    · by_cases second : j = call
      · subst second
        exact absurd (own other there).symm (others i other first here).2
      · exact guarded.distinct i j other (others i other first here).1
          (others j other second there).1

theorem Guarded.released (guarded : s.Guarded) {call : Nat} {id : String}
    (leaving : s.calls call = .leaving id) :
    Guarded { s.move call .idle with inFlight := Function.update s.inFlight id false } := by
  have claims : forall i other, (Function.update s.calls call Call.idle i).claim = some other ->
      (s.calls i).claim = some other :=
    fun i other => move_claim (Or.inl rfl)
  refine ⟨?_, fun i j other here there =>
    guarded.distinct i j other (claims i other here) (claims j other there)⟩
  intro i other here
  have apart : other ≠ id := by
    rintro rfl
    have same : i = call := by
      apply guarded.distinct i call other (claims i other here)
      rw [leaving]
      rfl
    subst same
    change (Function.update s.calls i Call.idle i).claim = some other at here
    rw [Function.update_self] at here
    cases here
  exact (Function.update_of_ne apart false s.inFlight).trans
    (guarded.marked i other (claims i other here))

theorem began_claim {call run : Nat} {entry : Entry} {id : String}
    (entered : s.calls call = .entered entry id) :
    (Call.running entry id run).claim = (s.calls call).claim := by
  rw [entered]
  cases entry <;> rfl

/-- The claims stay distinct and marked, whatever happens. -/
theorem Guarded.step (guarded : s.Guarded) (taken : s.step action = some next) :
    next.Guarded := by
  cases step_moves taken with
  | kept quiet calls inFlight =>
      apply guarded.of_claims inFlight
      intro i id here
      rwa [calls] at here
  | moved quiet call stage claim run =>
      exact guarded.of_claims rfl fun i id => move_claim claim
  | claimed call id free => exact guarded.claimed call free
  | began call started entry id row world entered found enabled =>
      refine guarded.of_claims ?_ ?_
      · rfl
      · intro i other
        exact move_claim (Or.inr (began_claim entered))
  | released call id leaving => exact guarded.released leaving
  | crashed call =>
      refine ⟨?_, ?_⟩
      · intro i id claims
        cases claims
      · intro i j id claims
        cases claims

theorem OneRun.of_runs (one : s.OneRun)
    (runs : forall i entry id, (next.calls i).run = some (entry, id) ->
      (s.calls i).run = some (entry, id)) : next.OneRun := by
  intro i j entry other id here there
  exact one i j entry other id (runs i entry id here) (runs j other id there)

/-- Two callbacks never have a run of one backup, nor does one that is about to begin. -/
theorem Guarded.alone (guarded : s.Guarded) {call other : Nat} {id : String}
    (entered : s.calls call = .entered .scheduled id)
    (running : (s.calls other).run = some (.scheduled, id)) : False := by
  have claims : (s.calls other).claim = some id := by
    cases stage : s.calls other with
    | running entry held run =>
        rw [stage] at running
        cases running
        rfl
    | ran entry held =>
        rw [stage] at running
        cases running
        rfl
    | _ =>
        rw [stage] at running
        cases running
  have same : call = other := by
    refine guarded.distinct call other id ?_ claims
    rw [entered]
    rfl
  subst same
  rw [entered] at running
  cases running

/-- A run that begins is the only one of its backup exactly if none was requested beside it. -/
theorem oneRun_began_iff (guarded : s.Guarded) (one : s.OneRun) {call : Nat} {started : Int}
    {entry : Entry} {id : String} {row : Row} {world : State}
    (entered : s.calls call = .entered entry id) (found : s.rows.get? id = some row)
    (enabled : row.disabled = false) :
    OneRun { s.move call (.running entry id s.world.tasks.length) with world := world } ↔
      s.Unrequested (.enter call started) := by
  have own : (Function.update s.calls call (.running entry id s.world.tasks.length) call).run =
      some (entry, id) := by
    rw [Function.update_self]
    rfl
  have idle : (s.calls call).run = none := by
    rw [entered]
    rfl
  constructor
  · intro after held at_ other here _ _ j beside runs
    rw [entered] at here
    cases here
    have apart : j ≠ call := by
      rintro rfl
      rw [idle] at runs
      cases runs
    have there : (Function.update s.calls call (.running entry id s.world.tasks.length) j).run =
        some (beside, id) := by
      rwa [Function.update_of_ne apart]
    exact absurd (after call j entry beside id own there).symm apart
  · intro quiet
    have alone : forall j beside, (s.calls j).run = some (beside, id) -> False := by
      intro j beside runs
      rcases quiet entry id row entered found enabled j beside runs with ⟨rfl, rfl⟩
      exact guarded.alone entered runs
    have split : forall i held at_,
        (Function.update s.calls call (.running entry id s.world.tasks.length) i).run =
          some (held, at_) -> i = call ∧ at_ = id ∨ (s.calls i).run = some (held, at_) := by
      intro i held at_ runs
      by_cases same : i = call
      · subst same
        rw [own] at runs
        cases runs
        exact Or.inl ⟨rfl, rfl⟩
      · rw [Function.update_of_ne same] at runs
        exact Or.inr runs
    intro i j first second at_ here there
    rcases split i first at_ here with ⟨hereCall, rfl⟩ | hereOld
    · rcases split j second at_ there with ⟨thereCall, _⟩ | thereOld
      · rw [hereCall, thereCall]
      · exact (alone j second thereOld).elim
    · rcases split j second at_ there with ⟨_, rfl⟩ | thereOld
      · exact (alone i first hereOld).elim
      · exact one i j first second at_ hereOld thereOld

theorem oneRun_step_iff (guarded : s.Guarded) (one : s.OneRun)
    (taken : s.step action = some next) : next.OneRun ↔ s.Unrequested action := by
  cases step_moves taken with
  | kept quiet calls inFlight =>
      refine iff_of_true ?_ quiet
      intro i j entry other id here there
      rw [calls] at here there
      exact one i j entry other id here there
  | moved quiet call stage claim run =>
      refine iff_of_true (one.of_runs ?_) quiet
      intro i entry id
      exact move_run run
  | claimed call id free =>
      refine iff_of_true (one.of_runs ?_) trivial
      intro i entry other
      exact move_run (Or.inl rfl)
  | began call started entry id row world entered found enabled =>
      exact oneRun_began_iff guarded one entered found enabled
  | released call id leaving =>
      refine iff_of_true (one.of_runs ?_) trivial
      intro i entry other
      exact move_run (Or.inl rfl)
  | crashed call =>
      refine iff_of_true ?_ trivial
      intro i j entry other id here
      cases here

end Steps

theorem start_guarded (rows : SortedStore String Row) : (start rows).Guarded where
  marked := by
    intro i id claims
    cases claims
  distinct := by
    intro i j id claims
    cases claims

theorem start_oneRun (rows : SortedStore String Row) : (start rows).OneRun := by
  intro i j entry other id runs
  cases runs

/-- Along a run of the scheduler there is never more than one run of a backup in progress, and
no retention pass beside a copying run of its backup, exactly if no run begins beside another
one of its backup when one of the two was requested. -/
theorem one_run_throughout_iff (rows : SortedStore String Row) {actions : List SchedulerAction}
    {final : Scheduler} (run : exec step (start rows) actions = some final) :
    Throughout step (fun s => s.OneRun ∧ s.NoPruneBesideCopy) (start rows) actions ↔
      Meets step Unrequested (start rows) actions := by
  refine throughout_iff_meets (fun _ _ _ held taken => Guarded.step held taken) ?_
    (start_guarded rows) ⟨start_oneRun rows, (start_oneRun rows).noPruneBesideCopy⟩ run
  intro s action next guarded now taken
  rw [← oneRun_step_iff guarded now.1 taken]
  exact ⟨fun both => both.1, fun one => ⟨one, one.noPruneBesideCopy⟩⟩

def photoRow : Row := ⟨namedBackup "b1" "Photos", false⟩

def photoRows : SortedStore String Row := SortedStore.empty.put "b1" photoRow

/-- A tick, and a run request while the tick's run is still copying. -/
def requestedBesideTick : List SchedulerAction :=
  [.upload photoRow.backup.src.place "2026/cat.jpg", .fire 0 "b1", .enter 0 0, .request 1 "b1",
    .enter 1 60]

/-- The scheduled run and the requested one are in progress together, each with its copy still
to make. -/
theorem requested_run_overlaps : Exists fun final =>
    exec step (start photoRows) requestedBesideTick = some final ∧
      final.calls 0 = .running .scheduled "b1" 0 ∧ final.calls 1 = .running .manual "b1" 1 ∧
        ¬ Throughout step (fun s => s.OneRun ∧ s.NoPruneBesideCopy) (start photoRows)
          requestedBesideTick := by
  refine ⟨_, rfl, rfl, rfl, ?_⟩
  intro always
  have one := (always requestedBesideTick [] _ (List.append_nil _).symm rfl).1
  cases one 0 1 .scheduled .manual "b1" rfl rfl

theorem one_run_throughout_iff_requested : Exists fun final =>
    exec step (start photoRows) requestedBesideTick = some final ∧
      (Throughout step (fun s => s.OneRun ∧ s.NoPruneBesideCopy) (start photoRows)
          requestedBesideTick ↔
        Meets step Unrequested (start photoRows) requestedBesideTick) :=
  ⟨_, rfl, one_run_throughout_iff photoRows rfl⟩

end Scheduler

end Snapshots
end Basement
