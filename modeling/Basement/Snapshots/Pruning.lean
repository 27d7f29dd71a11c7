import Basement.Snapshots.Retention
import Basement.Snapshots.Runs

namespace Basement
namespace Snapshots

open Library Drivers Api

/-!
# What the retention pass deletes

Backups run and prune while users write and delete objects in the same buckets.  Every
object carries who wrote it, and every deletion of a retention pass is recorded with the
writer of the object that went.

A run holds the keys that it still has to copy; a retention pass holds the timestamps it
has found, then the folders it has still to empty and the listed keys of the current one.
A page of a listing has any length, as the server decides.
-/

/-! ## The system -/

inductive Writer where
  | user
  | run (backup : String)
  deriving DecidableEq, Repr

/-- Who wrote each object of each bucket. -/
abbrev Objects := Place -> SortedStore String Writer

structure Deletion where
  backup : String
  place : Place
  key : String
  writer : Writer
  deriving DecidableEq, Repr

/-- Where the loop of `deleteAllUnderPrefix` stands: before a page, or with the rest of one
and the place where the next page starts, if the listing was truncated. -/
inductive Sweep where
  | list (continuation : Option String)
  | delete (page : List String) (next : Option (Option String))
  deriving DecidableEq, Repr

/-- What one goroutine of the runner is doing. -/
inductive Task where
  | copying (b : Backup) (started : Int) (pending : List String) (failed : Bool)
  | listing (b : Backup) (started : Int) (continuation : Option String) (found : List Int)
  | pruning (b : Backup) (folders : List String) (sweep : Sweep)
  | done
  deriving DecidableEq, Repr

/-- What a task can meet next. -/
inductive Event where
  | copy (srcKey : String)
  | skip (srcKey : String)
  | fail
  | finish
  | listRoot (count : Nat)
  | rootFails
  | listFolder (count : Nat)
  | folderFails
  | delete
  | deleteFails
  deriving DecidableEq, Repr

/-- What a step of a task does to the objects. -/
inductive Effect where
  | nothing
  | write (place : Place) (key : String) (writer : Writer)
  | delete (backup : String) (place : Place) (key : String)
  deriving DecidableEq, Repr

/-- The entries under a prefix behind the continuation. -/
def listedAfter (objects : SortedStore String Writer) (root : String) (continuation : Option String) :
    List (String × Writer) :=
  (objects.restrict fun key => root.toList.isPrefixOf key.toList).after continuation

/-- A page of them, and the continuation if more follow. -/
def listPage (objects : SortedStore String Writer) (root : String) (continuation : Option String)
    (count : Nat) : List String × Option (Option String) :=
  (((listedAfter objects root continuation).take count).map Prod.fst,
    if count < (listedAfter objects root continuation).length then
      some (SortedStore.nextCursor continuation ((listedAfter objects root continuation).take count))
    else none)

/-- On to the next folder. -/
def nextFolder (b : Backup) (folders : List String) : Task :=
  match folders with
  | [] => .done
  | folder :: rest => .pruning b (folder :: rest) (.list none)

/-- The loop over the keys of a page and over the pages of a folder. -/
def sweepOn (b : Backup) (folders : List String) (page : List String) (next : Option (Option String)) :
    Task :=
  match page, next with
  | key :: rest, next => .pruning b folders (.delete (key :: rest) next)
  | [], some continuation => .pruning b folders (.list continuation)
  | [], none => nextFolder b folders.tail

/-- The folders of `pruneSnapshots`, from the timestamps found. -/
def pruneFolders (b : Backup) (started : Int) (found : List Int) : List String :=
  (planPrune found (resolveRetention b.retention) started).2.map (snapshotPrefix b.name)

/-- A successful run of a snapshot backup goes on with the retention pass. -/
def afterRun (b : Backup) (started : Int) : Task :=
  match b.mode with
  | .mirror => .done
  | .snapshot => .listing b started none []

/-- A copy goes through, is skipped or fails, or the run ends. -/
def copyStep (b : Backup) (started : Int) (pending : List String) (failed : Bool) :
    Event -> Option (Task × Effect)
  | .copy srcKey =>
      if srcKey ∈ pending then
        some (.copying b started (pending.erase srcKey) failed,
          .write b.dst.place (b.dstKey started srcKey) (.run b.id))
      else none
  | .skip srcKey => some (.copying b started (pending.erase srcKey) failed, .nothing)
  | .fail => some (.copying b started pending true, .nothing)
  | .finish =>
      if failed = true then some (.done, .nothing)
      else if pending = [] then some (afterRun b started, .nothing)
      else none
  | _ => none

/-- More timestamps, and perhaps a page behind them. -/
def foundMore (b : Backup) (started : Int) (found : List Int) (next : Option (Option String)) : Task :=
  match next with
  | some continuation => .listing b started continuation found
  | none => nextFolder b (pruneFolders b started found)

/-- A page of `listSnapshotTimestamps` arrives or fails. -/
def listStep (objects : Objects) (b : Backup) (started : Int) (continuation : Option String)
    (found : List Int) : Event -> Option (Task × Effect)
  | .listRoot count =>
      some (foundMore b started
        (found ++ listSnapshotTimestamps (snapshotRoot b.name)
          (listPage (objects b.dst.place) (snapshotRoot b.name) continuation count).1)
        (listPage (objects b.dst.place) (snapshotRoot b.name) continuation count).2, .nothing)
  | .rootFails => some (.done, .nothing)
  | _ => none

/-- A page of `deleteAllUnderPrefix` arrives, or one of its objects is deleted; an error ends the
folder. -/
def sweepStep (objects : Objects) (b : Backup) (folders : List String) :
    Sweep -> Event -> Option (Task × Effect)
  | .list continuation, .listFolder count =>
      match folders with
      | [] => none
      | folder :: rest =>
          some (sweepOn b (folder :: rest)
            (listPage (objects b.dst.place) folder continuation count).1
            (listPage (objects b.dst.place) folder continuation count).2, .nothing)
  | .list _, .folderFails => some (nextFolder b folders.tail, .nothing)
  | .delete (key :: rest) next, .delete =>
      some (sweepOn b folders rest next, .delete b.id b.dst.place key)
  | .delete _ _, .deleteFails => some (nextFolder b folders.tail, .nothing)
  | _, _ => none

/-- One step of a task. -/
def Task.step (objects : Objects) : Task -> Event -> Option (Task × Effect)
  | .copying b started pending failed => copyStep b started pending failed
  | .listing b started continuation found => listStep objects b started continuation found
  | .pruning b folders sweep => sweepStep objects b folders sweep
  | .done => fun _ => none

structure State where
  objects : Objects
  tasks : List Task
  deleted : List Deletion

inductive Action where
  | upload (place : Place) (key : String)
  | remove (place : Place) (key : String)
  | start (b : Backup) (started : Int)
  | work (task : Nat) (event : Event)
  deriving DecidableEq, Repr

def Objects.write (objects : Objects) (place : Place) (key : String) (writer : Writer) : Objects :=
  Function.update objects place ((objects place).put key writer)

def Objects.erase (objects : Objects) (place : Place) (key : String) : Objects :=
  Function.update objects place ((objects place).erase key)

/-- The objects and the deletions after an effect; the deletion of an absent key deletes
nothing. -/
def State.apply (state : State) : Effect -> State
  | .nothing => state
  | .write place key writer => { state with objects := state.objects.write place key writer }
  | .delete backup place key =>
      { state with
        objects := state.objects.erase place key
        deleted :=
          match (state.objects place).get? key with
          | some writer => state.deleted ++ [⟨backup, place, key, writer⟩]
          | none => state.deleted }

/-- A step of the system, in which the stored backups are run. -/
def step (backups : List Backup) (state : State) : Action -> Option State
  | .upload place key => some (state.apply (.write place key .user))
  | .remove place key => some { state with objects := state.objects.erase place key }
  | .start b started =>
      if b ∈ backups then
        some { state with
          tasks := state.tasks ++ [.copying b started
            (keysUnder (state.objects b.src.place) (planPrefix b.srcPrefix)) false] }
      else none
  | .work i event =>
      match state.tasks[i]? with
      | none => none
      | some task =>
          match task.step state.objects event with
          | none => none
          | some (next, effect) =>
              some { state.apply effect with tasks := state.tasks.set i next }

/-- Nothing stored and nothing running. -/
def start : State := ⟨fun _ => SortedStore.empty, [], []⟩

/-! ## Deletions stay in the folders of their backup -/

/-- The object lies in a snapshot folder of the backup. -/
def InFolder (b : Backup) (place : Place) (key : String) : Prop :=
  place = b.dst.place ∧ Exists fun t => Exists fun rest => key = snapshotPrefix b.name t ++ rest

/-- The listed keys of a sweep lie in snapshot folders. -/
def Sweep.Within (b : Backup) : Sweep -> Prop
  | .list _ => True
  | .delete page _ => forall key, key ∈ page -> InFolder b b.dst.place key

/-- A task works for a stored backup, and empties its snapshot folders only. -/
def Task.Ready (backups : List Backup) : Task -> Prop
  | .copying b _ _ _ => b ∈ backups
  | .listing b _ _ _ => b ∈ backups ∧ b.mode = .snapshot
  | .pruning b folders sweep =>
      (b ∈ backups ∧ b.mode = .snapshot) ∧
        (forall folder, folder ∈ folders -> Exists fun t => folder = snapshotPrefix b.name t) ∧
        sweep.Within b
  | .done => True

/-- A deletion is one in a snapshot folder of its backup. -/
def Effect.Confined (backups : List Backup) : Effect -> Prop
  | .delete backup place key => Exists fun b =>
      (b ∈ backups ∧ b.mode = .snapshot) ∧ backup = b.id ∧ InFolder b place key
  | _ => True

variable {backups : List Backup}

theorem nextFolder_ready {b : Backup} {folders : List String}
    (stored : b ∈ backups ∧ b.mode = .snapshot)
    (named : forall folder, folder ∈ folders -> Exists fun t => folder = snapshotPrefix b.name t) :
    (nextFolder b folders).Ready backups := by
  cases folders with
  | nil => trivial
  | cons folder rest => exact ⟨stored, named, trivial⟩

theorem sweepOn_ready {b : Backup} {folders page : List String} {next : Option (Option String)}
    (stored : b ∈ backups ∧ b.mode = .snapshot)
    (named : forall folder, folder ∈ folders -> Exists fun t => folder = snapshotPrefix b.name t)
    (within : forall key, key ∈ page -> InFolder b b.dst.place key) :
    (sweepOn b folders page next).Ready backups := by
  cases page with
  | cons key rest => exact ⟨stored, named, within⟩
  | nil =>
      cases next with
      | some continuation => exact ⟨stored, named, trivial⟩
      | none => exact nextFolder_ready stored fun folder member => named folder (List.mem_of_mem_tail member)

theorem pruneFolders_named {b : Backup} {started : Int} {found : List Int} {folder : String}
    (member : folder ∈ pruneFolders b started found) : Exists fun t => folder = snapshotPrefix b.name t := by
  rcases List.mem_map.mp member with ⟨t, _, same⟩
  exact ⟨t, same.symm⟩

/-- A page lists keys under its prefix. -/
theorem mem_listPage {objects : SortedStore String Writer} {root key : String}
    {continuation : Option String} {count : Nat}
    (member : key ∈ (listPage objects root continuation count).1) :
    Exists fun rest => key = root ++ rest := by
  rcases List.mem_map.mp member with ⟨entry, listed, rfl⟩
  have found := ((SortedStore.mem_after _ _ _ _).mp (List.mem_of_mem_take listed)).2
  rw [SortedStore.get?_restrict] at found
  split at found
  · rename_i under
    exact (isPrefixOf_iff _ _).mp under
  · cases found

theorem copyStep_ready {b : Backup} {started : Int} {pending : List String} {failed : Bool}
    {event : Event} {next : Task} {effect : Effect} (stored : b ∈ backups)
    (taken : copyStep b started pending failed event = some (next, effect)) :
    next.Ready backups ∧ effect.Confined backups := by
  have after : (afterRun b started).Ready backups := by
    unfold afterRun
    cases mode : b.mode with
    | mirror => trivial
    | snapshot => exact ⟨stored, mode⟩
  cases event <;> simp only [copyStep] at taken
  case copy srcKey =>
    split at taken
    · cases Option.some.inj taken
      exact ⟨stored, trivial⟩
    · cases taken
  case finish =>
    split at taken
    · cases Option.some.inj taken
      exact ⟨trivial, trivial⟩
    · split at taken
      · cases Option.some.inj taken
        exact ⟨after, trivial⟩
      · cases taken
  case skip =>
    cases Option.some.inj taken
    exact ⟨stored, trivial⟩
  case fail =>
    cases Option.some.inj taken
    exact ⟨stored, trivial⟩
  all_goals cases taken

theorem listStep_ready {objects : Objects} {b : Backup} {started : Int} {continuation : Option String}
    {found : List Int} {event : Event} {next : Task} {effect : Effect}
    (stored : b ∈ backups ∧ b.mode = .snapshot)
    (taken : listStep objects b started continuation found event = some (next, effect)) :
    next.Ready backups ∧ effect.Confined backups := by
  have more : forall found following, (foundMore b started found following).Ready backups := by
    intro found following
    cases following with
    | some continuation => exact stored
    | none => exact nextFolder_ready stored fun _ member => pruneFolders_named member
  cases event <;> simp only [listStep] at taken
  case listRoot count =>
    cases Option.some.inj taken
    exact ⟨more _ _, trivial⟩
  case rootFails =>
    cases Option.some.inj taken
    exact ⟨trivial, trivial⟩
  all_goals cases taken

theorem sweepStep_ready {objects : Objects} {b : Backup} {folders : List String} {sweep : Sweep}
    {event : Event} {next : Task} {effect : Effect} (stored : b ∈ backups ∧ b.mode = .snapshot)
    (named : forall folder, folder ∈ folders -> Exists fun t => folder = snapshotPrefix b.name t)
    (within : sweep.Within b)
    (taken : sweepStep objects b folders sweep event = some (next, effect)) :
    next.Ready backups ∧ effect.Confined backups := by
  have later : (nextFolder b folders.tail).Ready backups :=
    nextFolder_ready stored fun folder member => named folder (List.mem_of_mem_tail member)
  unfold sweepStep at taken
  split at taken
  · split at taken
    · cases taken
    · rename_i folder rest
      cases Option.some.inj taken
      rcases named folder List.mem_cons_self with ⟨t, rfl⟩
      refine ⟨sweepOn_ready stored named fun key member => ?_, trivial⟩
      rcases mem_listPage member with ⟨below, same⟩
      exact ⟨rfl, t, below, same⟩
  · cases Option.some.inj taken
    exact ⟨later, trivial⟩
  · rename_i key rest following
    cases Option.some.inj taken
    exact ⟨sweepOn_ready stored named fun other member => within other (List.mem_cons_of_mem _ member),
      b, stored, rfl, within key List.mem_cons_self⟩
  · cases Option.some.inj taken
    exact ⟨later, trivial⟩
  · cases taken

/-- What a task does next is again for its backup, and in its folders. -/
theorem Task.step_ready {objects : Objects} {task next : Task} {event : Event} {effect : Effect}
    (ready : task.Ready backups) (taken : task.step objects event = some (next, effect)) :
    next.Ready backups ∧ effect.Confined backups := by
  cases task with
  | copying b started pending failed => exact copyStep_ready ready taken
  | listing b started continuation found => exact listStep_ready ready taken
  | pruning b folders sweep => exact sweepStep_ready ready.1 ready.2.1 ready.2.2 taken
  | done => cases taken

/-- Tasks and deletions keep to the snapshot folders of stored backups. -/
structure Confined (backups : List Backup) (state : State) : Prop where
  ready : forall task, task ∈ state.tasks -> task.Ready backups
  deleted : forall deletion, deletion ∈ state.deleted -> Exists fun b =>
    (b ∈ backups ∧ b.mode = .snapshot) ∧ deletion.backup = b.id ∧ InFolder b deletion.place deletion.key

/-- What an effect adds to the record of deletions. -/
theorem State.mem_apply_deleted {state : State} {effect : Effect} {deletion : Deletion}
    (member : deletion ∈ (state.apply effect).deleted) : deletion ∈ state.deleted ∨
      effect = .delete deletion.backup deletion.place deletion.key ∧
        (state.objects deletion.place).get? deletion.key = some deletion.writer := by
  cases effect with
  | nothing => exact Or.inl member
  | write place key writer => exact Or.inl member
  | delete backup place key =>
      simp only [State.apply] at member
      split at member
      · rename_i writer found
        rcases List.mem_append.mp member with earlier | now
        · exact Or.inl earlier
        · rw [List.mem_singleton.mp now]
          exact Or.inr ⟨rfl, found⟩
      · exact Or.inl member

/-- A step is one of a user, a new run, or a step of a task with its effect. -/
theorem step_cases {state next : State} {action : Action}
    (taken : step backups state action = some next) :
    (Exists fun place => Exists fun key => action = .upload place key ∧
        next = state.apply (.write place key .user)) ∨
      (Exists fun place => Exists fun key => action = .remove place key ∧
        next = { state with objects := state.objects.erase place key }) ∨
      (Exists fun b => Exists fun started => Exists fun pending => b ∈ backups ∧
        action = .start b started ∧
        next = { state with tasks := state.tasks ++ [.copying b started pending false] }) ∨
      Exists fun i => Exists fun event => Exists fun task => Exists fun later => Exists fun effect =>
        action = .work i event ∧ state.tasks[i]? = some task ∧
          task.step state.objects event = some (later, effect) ∧
          next = { state.apply effect with tasks := state.tasks.set i later } := by
  cases action with
  | upload place key => exact Or.inl ⟨place, key, rfl, (Option.some.inj taken).symm⟩
  | remove place key => exact Or.inr (Or.inl ⟨place, key, rfl, (Option.some.inj taken).symm⟩)
  | start b started =>
      simp only [step] at taken
      split at taken
      · rename_i stored
        exact Or.inr (Or.inr (Or.inl ⟨b, started, _, stored, rfl, (Option.some.inj taken).symm⟩))
      · cases taken
  | work i event =>
      simp only [step] at taken
      cases found : state.tasks[i]? with
      | none => simp [found] at taken
      | some task =>
          simp only [found] at taken
          cases stepped : task.step state.objects event with
          | none => simp [stepped] at taken
          | some both =>
              rcases both with ⟨later, effect⟩
              simp only [stepped] at taken
              exact Or.inr (Or.inr (Or.inr ⟨i, event, task, later, effect, rfl, found, stepped,
                (Option.some.inj taken).symm⟩))

theorem step_confined {state next : State} {action : Action} (held : Confined backups state)
    (taken : step backups state action = some next) : Confined backups next := by
  rcases step_cases taken with ⟨place, key, _, rfl⟩ | ⟨place, key, _, rfl⟩ |
    ⟨b, started, pending, stored, _, rfl⟩ | ⟨i, event, task, later, effect, _, found, stepped, rfl⟩
  · exact ⟨held.ready, held.deleted⟩
  · exact ⟨held.ready, held.deleted⟩
  · refine ⟨?_, held.deleted⟩
    intro task member
    rcases List.mem_append.mp member with earlier | new
    · exact held.ready task earlier
    · rw [List.mem_singleton.mp new]
      exact stored
  · have both := Task.step_ready (held.ready task (List.mem_of_getElem? found)) stepped
    refine ⟨?_, ?_⟩
    · intro other member
      rcases List.mem_or_eq_of_mem_set member with earlier | rfl
      · exact held.ready other earlier
      · exact both.1
    · intro deletion member
      rcases State.mem_apply_deleted member with earlier | ⟨rfl, _⟩
      · exact held.deleted deletion earlier
      · exact both.2

/-- In every run, a backup's retention pass deletes in the backup's snapshot folders only. -/
theorem deletions_confined {actions : List Action} {final : State}
    (run : Transition.exec (step backups) start actions = some final) : Confined backups final :=
  Transition.exec_invariant (fun _ _ _ held taken => step_confined held taken)
    ⟨fun _ never => absurd never List.not_mem_nil, fun _ never => absurd never List.not_mem_nil⟩ run

/-! ## Who wrote what is deleted -/

/-- A write that stays out of the snapshot folders of all backups but the writer's. -/
def KeepsOut (backups : List Backup) (writer : Writer) (place : Place) (key : String) : Prop :=
  forall b, b ∈ backups ∧ b.mode = .snapshot -> InFolder b place key -> writer = .run b.id

/-- The write of the action, if it makes one, stays out of the others' folders. -/
def Apart (backups : List Backup) (state : State) : Action -> Prop
  | .upload place key => KeepsOut backups .user place key
  | .work i (.copy srcKey) => forall b started pending failed,
      state.tasks[i]? = some (.copying b started pending failed) ->
        KeepsOut backups (.run b.id) b.dst.place (b.dstKey started srcKey)
  | _ => True

/-- Every object in a snapshot folder was written by a run of its backup, and so was everything
that has been deleted. -/
structure Owned (backups : List Backup) (state : State) : Prop where
  confined : Confined backups state
  owner : forall b, b ∈ backups ∧ b.mode = .snapshot -> forall place key writer,
    InFolder b place key -> (state.objects place).get? key = some writer -> writer = .run b.id
  deleted : forall deletion, deletion ∈ state.deleted -> deletion.writer = .run deletion.backup

theorem Objects.get?_write (objects : Objects) (place other : Place) (key otherKey : String)
    (writer : Writer) : ((objects.write place key writer) other).get? otherKey =
      if other = place ∧ otherKey = key then some writer else (objects other).get? otherKey := by
  unfold Objects.write
  by_cases same : other = place
  · subst same
    rw [Function.update_self, SortedStore.get?_put]
    simp
  · rw [Function.update_of_ne same, if_neg fun both => same both.1]

theorem Objects.get?_erase {objects : Objects} {place other : Place} {key otherKey : String}
    {writer : Writer} (found : ((objects.erase place key) other).get? otherKey = some writer) :
    (objects other).get? otherKey = some writer := by
  unfold Objects.erase at found
  by_cases same : other = place
  · subst same
    rw [Function.update_self] at found
    exact (SortedStore.get?_erase_eq_some.mp found).2
  · rwa [Function.update_of_ne same] at found

/-- The objects after an effect whose write stays out of the others' folders. -/
theorem owner_apply {state : State} {effect : Effect} {b : Backup}
    (stored : b ∈ backups ∧ b.mode = .snapshot)
    (held : forall place key writer, InFolder b place key ->
      (state.objects place).get? key = some writer -> writer = .run b.id)
    (apart : forall place key writer, effect = .write place key writer ->
      KeepsOut backups writer place key) {place : Place} {key : String} {writer : Writer}
    (inside : InFolder b place key)
    (found : ((state.apply effect).objects place).get? key = some writer) : writer = .run b.id := by
  cases effect with
  | nothing => exact held place key writer inside found
  | write other otherKey author =>
      simp only [State.apply, Objects.get?_write] at found
      split at found
      · rename_i here
        rcases here with ⟨rfl, rfl⟩
        cases Option.some.inj found
        exact apart _ _ _ rfl b stored inside
      · exact held place key writer inside found
  | delete backup other otherKey => exact held place key writer inside (Objects.get?_erase found)

/-- Only a copy writes, and it writes where the plan puts its key. -/
theorem Task.step_writes {objects : Objects} {task next : Task} {event : Event} {place : Place}
    {key : String} {writer : Writer}
    (taken : task.step objects event = some (next, .write place key writer)) :
    Exists fun b => Exists fun started => Exists fun pending => Exists fun failed =>
      Exists fun srcKey => task = .copying b started pending failed ∧ event = .copy srcKey ∧
        place = b.dst.place ∧ key = b.dstKey started srcKey ∧ writer = .run b.id := by
  cases task with
  | copying b started pending failed =>
      cases event <;> simp only [Task.step, copyStep] at taken
      case copy srcKey =>
        split at taken
        · cases Option.some.inj taken
          exact ⟨b, started, pending, failed, srcKey, rfl, rfl, rfl, rfl, rfl⟩
        · cases taken
      case finish =>
        split at taken
        · cases taken
        · split at taken <;> cases taken
      all_goals cases taken
  | listing b started continuation found =>
      cases event <;> simp only [Task.step, listStep] at taken <;> cases taken
  | pruning b folders sweep =>
      simp only [Task.step, sweepStep] at taken
      split at taken
      · split at taken <;> cases taken
      all_goals cases taken
  | done => cases taken

theorem step_owned {state next : State} {action : Action} (held : Owned backups state)
    (apart : Apart backups state action) (taken : step backups state action = some next) :
    Owned backups next := by
  have confined := step_confined held.confined taken
  rcases step_cases taken with ⟨place, key, rfl, rfl⟩ | ⟨place, key, _, rfl⟩ |
    ⟨b, started, pending, stored, _, rfl⟩ | ⟨i, event, task, later, effect, rfl, found, stepped, rfl⟩
  · refine ⟨confined, ?_, held.deleted⟩
    intro b stored place key writer inside present
    refine owner_apply stored (held.owner b stored) ?_ inside present
    intro _ _ _ same
    cases same
    exact apart
  · refine ⟨confined, ?_, held.deleted⟩
    intro b stored place key writer inside present
    exact held.owner b stored place key writer inside (Objects.get?_erase present)
  · exact ⟨confined, held.owner, held.deleted⟩
  · have both := Task.step_ready (held.confined.ready task (List.mem_of_getElem? found)) stepped
    refine ⟨confined, ?_, ?_⟩
    · intro b stored place key writer inside present
      refine owner_apply stored (held.owner b stored) ?_ inside present
      rintro place key writer rfl
      rcases Task.step_writes stepped with ⟨b, started, pending, failed, srcKey, rfl, rfl, rfl, rfl, rfl⟩
      exact apart b started pending failed found
    · intro deletion member
      rcases State.mem_apply_deleted member with earlier | ⟨rfl, present⟩
      · exact held.deleted deletion earlier
      · rcases both.2 with ⟨b, stored, same, inside⟩
        rw [same]
        exact held.owner b stored _ _ _ inside present

/-- In every run whose writes keep out of the snapshot folders of other backups, the retention
passes delete objects of their own backup only. -/
theorem prune_deletes_own_objects {actions : List Action} {final : State}
    (apart : Transition.Meets (step backups) (Apart backups) start actions)
    (run : Transition.exec (step backups) start actions = some final) :
    forall deletion, deletion ∈ final.deleted -> deletion.writer = .run deletion.backup := by
  have initially : Owned backups start := by
    have nothing : Transition.exec (step backups) start [] = some start := rfl
    refine ⟨deletions_confined nothing, ?_, fun _ never => absurd never List.not_mem_nil⟩
    intro b _ place key writer _ found
    cases found
  exact (Transition.exec_invariant_of_meets
    (fun _ _ _ held apart taken => step_owned held apart taken) initially apart run).deleted

/-- A single backup, into a bucket that the users leave alone, keeps out of nobody's way. -/
theorem meets_alone {b : Backup} {actions : List Action}
    (elsewhere : forall place key, .upload place key ∈ actions -> place ≠ b.dst.place) :
    Transition.Meets (step [b]) (Apart [b]) start actions := by
  have nothing : Transition.exec (step [b]) start [] = some start := rfl
  refine Transition.meets_of_invariant (fun _ _ _ held taken => step_confined held taken)
    (deletions_confined nothing) ?_
  intro state action held member
  cases action with
  | upload place key =>
      rintro other ⟨stored, _⟩ ⟨here, _⟩
      rw [List.mem_singleton.mp stored] at here
      exact absurd here (elsewhere place key member)
  | remove place key => trivial
  | start other started => trivial
  | work i event =>
      cases event
      case copy srcKey =>
        intro author started pending failed found other stored _
        have ready := held.ready _ (List.mem_of_getElem? found)
        rw [List.mem_singleton.mp ready, List.mem_singleton.mp stored.1]
      all_goals trivial

/-! ## Two backups of one slug -/

def namedBackup (id name : String) : Backup where
  id := id
  name := name
  src := ⟨⟨"https://one", ⟨"garage", false⟩⟩, "photos"⟩
  srcPrefix := "2026"
  dst := ⟨⟨"https://two", ⟨"minio", false⟩⟩, "vault"⟩
  dstPrefix := ""
  mode := .snapshot
  retention := {}

/-- One backup makes a snapshot in January 2024, another one in June 2026, and then prunes. -/
def twoSnapshots (first second : Backup) : List Action :=
  [.upload first.src.place "2026/cat.jpg",
    .start first (dateTime ⟨2024, 1, 5⟩ 3 0 0), .work 0 (.copy "2026/cat.jpg"),
    .start second (dateTime ⟨2026, 6, 1⟩ 3 0 0), .work 1 (.copy "2026/cat.jpg"), .work 1 .finish,
    .work 1 (.listRoot 10), .work 1 (.listFolder 10), .work 1 .delete]

/-- A backup alone prunes its own snapshot. -/
theorem prune_deletes_own_objects_photo : Exists fun final =>
    Transition.exec (step [namedBackup "b1" "Photos"]) start
        (twoSnapshots (namedBackup "b1" "Photos") (namedBackup "b1" "Photos")) = some final ∧
      final.deleted.length = 1 ∧
      forall deletion, deletion ∈ final.deleted -> deletion.writer = .run deletion.backup := by
  have deleted : (Transition.exec (step [namedBackup "b1" "Photos"]) start
      (twoSnapshots (namedBackup "b1" "Photos") (namedBackup "b1" "Photos"))).map
        (fun final => final.deleted.length) = some 1 := by
    decide +kernel
  rcases Option.map_eq_some_iff.mp deleted with ⟨final, run, one⟩
  refine ⟨final, run, one, prune_deletes_own_objects (meets_alone ?_) run⟩
  intro place key member
  simp only [twoSnapshots, List.mem_cons, Action.upload.injEq, reduceCtorEq, List.not_mem_nil,
    or_false] at member
  rw [member.1]
  decide

/-- Two names with one slug: the second backup prunes the first one's snapshot. -/
theorem shared_slug_prune_deletes_foreign_snapshot :
    ¬ forall (backups : List Backup) (actions : List Action) (final : State),
      (backups.map Backup.id).Nodup -> Transition.exec (step backups) start actions = some final ->
        forall deletion, deletion ∈ final.deleted -> deletion.writer = .run deletion.backup := by
  intro stated
  have deleted : (Transition.exec
      (step [namedBackup "b1" "My Backup", namedBackup "b2" "my-backup"]) start
      (twoSnapshots (namedBackup "b1" "My Backup") (namedBackup "b2" "my-backup"))).map
        State.deleted =
      some [⟨"b2", (namedBackup "b2" "my-backup").dst.place,
        "my-backup/2024-01-05_03:00:00/cat.jpg", .run "b1"⟩] := by
    decide +kernel
  rcases Option.map_eq_some_iff.mp deleted with ⟨final, run, same⟩
  have own := stated _ _ final (by decide) run _ (by rw [same]; exact List.mem_singleton_self _)
  exact absurd own (by decide)

end Snapshots
end Basement
