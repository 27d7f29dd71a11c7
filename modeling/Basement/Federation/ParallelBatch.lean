import Basement.Federation.Records
import Basement.Library.Transition
import Mathlib.Algebra.GroupWithZero.Nat
import Mathlib.Algebra.Ring.Int.Defs

namespace Basement
namespace Federation
namespace ParallelBatch

open Library Library.Transition

/-!
# A batch of copies

`replicateBatch` hands the entries of a diff to workers, a bounded number at a time, and waits for
them.  Every access to what they share is a step of its own: the first error, the two counters, the
slots, and the cancellation of the context, which may come at any moment.  A copy may succeed,
fail, panic, time out or never return.

The wait at the end is also left when the context is cancelled.  Then the counters and the first
error are read while workers may still be copying, and no error says so.  `batch_complete_iff` says
when a batch without an error is complete, and what the pass records in any case.
-/

/-! ## The batch -/

/-- Where a worker stands, between two accesses to what is shared. -/
inductive Stage where
  | copying
  | counting
  | sizing
  | reporting
  | failing (error : String)
  | releasing
  | leaving
  | gone

/-- A worker, whether its copy succeeded, and whether it is counted. -/
structure Worker where
  entry : DiffEntry
  stage : Stage := .copying
  landed : Bool := false
  counted : Bool := false

/-- Where the dispatching function stands. -/
inductive Phase where
  | checking
  | acquiring
  | waiting
  | loadingCopied
  | loadingBytes (copied : Nat)
  | loadingError (copied : Nat) (bytes : Int)
  | returned (copied : Nat) (bytes : Int) (error : Option String)

structure State where
  todo : List DiffEntry
  workers : List Worker := []
  phase : Phase := .checking
  cancelled : Option String := none
  firstErr : Option String := none
  copied : Nat := 0
  bytes : Int := 0

def start (diff : List DiffEntry) : State := { todo := diff }

/-- The step of a worker: a copy returns, a counter is added to, the audit entry is written or
panics, an error is saved, the slot is freed, or the worker ends. -/
inductive Move where
  | land
  | fail (error : String)
  | count
  | size
  | report (panic : Option String)
  | record
  | release
  | leave

inductive Action where
  | cancel (error : String)
  | check
  | acquire
  | giveUp
  | drained
  | abandon
  | loadCopied
  | loadBytes
  | loadError
  | worker (index : Nat) (move : Move)

/-- The worker has a slot of the semaphore. -/
def Worker.holdsSlot (worker : Worker) : Bool :=
  match worker.stage with
  | .leaving | .gone => false
  | _ => true

def Worker.isGone (worker : Worker) : Bool :=
  match worker.stage with
  | .gone => true
  | _ => false

/-- `setFirstErr`. -/
def State.setFirstErr (state : State) (error : String) : State :=
  { state with firstErr := some (state.firstErr.getD error) }

def State.setWorker (state : State) (index : Nat) (worker : Worker) : State :=
  { state with workers := state.workers.set index worker }

def State.move (state : State) (index : Nat) (worker : Worker) : Move -> Option State
  | .land =>
      match worker.stage with
      | .copying => some (state.setWorker index { worker with stage := .counting, landed := true })
      | _ => none
  | .fail error =>
      match worker.stage with
      | .copying => some (state.setWorker index { worker with stage := .failing error })
      | _ => none
  | .count =>
      match worker.stage with
      | .counting =>
          some { state.setWorker index { worker with stage := .sizing, counted := true } with
            copied := state.copied + 1 }
      | _ => none
  | .size =>
      match worker.stage with
      | .sizing =>
          some { state.setWorker index { worker with stage := .reporting } with
            bytes := state.bytes + worker.entry.size }
      | _ => none
  | .report panic =>
      match worker.stage with
      | .reporting =>
          some (state.setWorker index { worker with stage := panic.elim .releasing .failing })
      | _ => none
  | .record =>
      match worker.stage with
      | .failing error =>
          some ((state.setWorker index { worker with stage := .releasing }).setFirstErr error)
      | _ => none
  | .release =>
      match worker.stage with
      | .releasing => some (state.setWorker index { worker with stage := .leaving })
      | _ => none
  | .leave =>
      match worker.stage with
      | .leaving => some (state.setWorker index { worker with stage := .gone })
      | _ => none

/-- `replicateBatch` with the number of slots, and its workers. -/
def step (slots : Nat) (state : State) : Action -> Option State
  | .cancel error =>
      match state.cancelled with
      | none => some { state with cancelled := some error }
      | some _ => none
  | .check =>
      match state.phase with
      | .checking =>
          if state.todo = [] then some { state with phase := .waiting }
          else
            match state.cancelled with
            | some error => some { state.setFirstErr error with phase := .waiting }
            | none => some { state with phase := .acquiring }
      | _ => none
  | .acquire =>
      match state.phase, state.todo with
      | .acquiring, entry :: rest =>
          if state.workers.countP Worker.holdsSlot < slots then
            some { state with
              todo := rest
              workers := state.workers ++ [{ entry }]
              phase := .checking }
          else none
      | _, _ => none
  | .giveUp =>
      match state.phase, state.cancelled with
      | .acquiring, some error => some { state.setFirstErr error with phase := .waiting }
      | _, _ => none
  | .drained =>
      match state.phase with
      | .waiting =>
          if state.workers.all Worker.isGone then some { state with phase := .loadingCopied }
          else none
      | _ => none
  | .abandon =>
      match state.phase, state.cancelled with
      | .waiting, some _ => some { state with phase := .loadingCopied }
      | _, _ => none
  | .loadCopied =>
      match state.phase with
      | .loadingCopied => some { state with phase := .loadingBytes state.copied }
      | _ => none
  | .loadBytes =>
      match state.phase with
      | .loadingBytes copied => some { state with phase := .loadingError copied state.bytes }
      | _ => none
  | .loadError =>
      match state.phase with
      | .loadingError copied bytes =>
          some { state with phase := .returned copied bytes state.firstErr }
      | _ => none
  | .worker index move =>
      match state.workers[index]? with
      | none => none
      | some worker => state.move index worker move

/-! ## What the pass makes of it -/

/-- The entries that were not copied, as `replicateToReplica` counts them. -/
def pendingObjects (diff : List DiffEntry) (replicated : Nat) : Int :=
  (diff.length : Int) - replicated

def pendingBytes (diff : List DiffEntry) (replicated : Nat) : Int :=
  ((diff.drop replicated).map DiffEntry.size).sum

/-- The end of `replicateToReplica`. -/
def conclude (now : Int) (failures : Nat) (stored : Option ReplicaTarget) (replica : ReplicaTarget)
    (dr : DiffResult) (diff : List DiffEntry) (replicated : Nat) (error : Option String) :
    ReplicaTarget :=
  match error with
  | some _ => recordFailure failures stored replica
  | none =>
      recordSuccess now replica (pendingObjects diff replicated) (pendingBytes diff replicated) dr

/-! ## What a batch is to do -/

/-- The entries whose copies succeeded. -/
def State.landed (state : State) : List DiffEntry :=
  (state.workers.filter Worker.landed).map Worker.entry

/-- A batch that returned without error copied every entry, and counted them all. -/
def Honest (diff : List DiffEntry) (state : State) : Prop :=
  forall copied bytes, state.phase = .returned copied bytes none ->
    state.landed = diff ∧ copied = diff.length

/-- What the pass records of a batch that returned accounts for the entries that were not copied,
and advances the watermark only when there are none. -/
def Accounted (diff : List DiffEntry) (state : State) : Prop :=
  forall copied bytes error, state.phase = .returned copied bytes error ->
    (diff.length : Int) - state.landed.length ≤ pendingObjects diff copied ∧
      forall now failures stored replica dr,
        (conclude now failures stored replica dr diff copied error).lastSync = replica.lastSync ∨
          state.landed = diff

/-- An error is saved, or every worker is counted. -/
def Quiet (state : State) : Prop :=
  state.firstErr ≠ none ∨ forall worker, worker ∈ state.workers -> worker.counted = true

/-- The wait is given up in a quiet state only. -/
def Unhurried (state : State) : Action -> Prop
  | .abandon => Quiet state
  | _ => True

instance decidableQuiet (state : State) : Decidable (Quiet state) :=
  inferInstanceAs (Decidable (_ ∨ _))

instance decidableUnhurried (state : State) : forall action, Decidable (Unhurried state action)
  | .abandon => decidableQuiet state
  | .cancel _ | .check | .acquire | .giveUp | .drained | .loadCopied | .loadBytes | .loadError
  | .worker _ _ => .isTrue trivial

/-! ## Workers -/

/-- What is known of a worker, given whether an error is saved. -/
def Worker.Ok (failed : Prop) (worker : Worker) : Prop :=
  match worker.stage with
  | .copying => worker.landed = false ∧ worker.counted = false
  | .counting => worker.landed = true ∧ worker.counted = false
  | .sizing | .reporting => worker.landed = true ∧ worker.counted = true
  | .failing _ => worker.counted = true -> worker.landed = true
  | .releasing | .leaving | .gone =>
      (worker.counted = true -> worker.landed = true) ∧ (worker.counted = true ∨ failed)

theorem Worker.Ok.mono {failed later : Prop} {worker : Worker} (ok : worker.Ok failed)
    (implies : failed -> later) : worker.Ok later := by
  unfold Worker.Ok at *
  split at ok
  all_goals first | exact ok | exact ⟨ok.1, ok.2.imp id implies⟩

theorem Worker.Ok.landed {failed : Prop} {worker : Worker} (ok : worker.Ok failed)
    (counted : worker.counted = true) : worker.landed = true := by
  unfold Worker.Ok at ok
  split at ok
  · rw [ok.2] at counted
    cases counted
  · exact ok.1
  · exact ok.1
  · exact ok.1
  · exact ok counted
  all_goals exact ok.1 counted

/-- What a move does: one worker goes on, and nothing that was said is taken back. -/
structure Moved (state next : State) (index : Nat) (before after : Worker) : Prop where
  workers : next.workers = state.workers.set index after
  todo : next.todo = state.todo
  phase : next.phase = state.phase
  entry : after.entry = before.entry
  firstErr : state.firstErr ≠ none -> next.firstErr ≠ none
  counted : before.counted = true -> after.counted = true
  landed : before.landed = true -> after.landed = true
  copied : next.copied + (if before.counted then 1 else 0) =
    state.copied + if after.counted then 1 else 0
  ok : before.Ok (state.firstErr ≠ none) -> after.Ok (next.firstErr ≠ none)

theorem moved {state next : State} {index : Nat} {before : Worker} {move : Move}
    (fresh : before.Ok (state.firstErr ≠ none)) (taken : state.move index before move = some next) :
    Exists fun after => Moved state next index before after := by
  rcases before with ⟨entry, stage, landed, counted⟩
  cases move with
  | land =>
      cases stage with
      | copying =>
          cases taken
          exact ⟨_, rfl, rfl, rfl, rfl, id, id, fun _ => rfl, rfl, fun ok => ⟨rfl, ok.2⟩⟩
      | _ => cases taken
  | fail error =>
      cases stage with
      | copying =>
          cases taken
          refine ⟨_, rfl, rfl, rfl, rfl, id, id, id, rfl, fun ok impossible => ?_⟩
          exact absurd impossible (Bool.eq_false_iff.mp ok.2)
      | _ => cases taken
  | count =>
      cases stage with
      | counting =>
          cases taken
          refine ⟨_, rfl, rfl, rfl, rfl, id, fun _ => rfl, id, ?_, fun ok => ⟨ok.1, rfl⟩⟩
          rw [show counted = false from fresh.2]
          rfl
      | _ => cases taken
  | size =>
      cases stage with
      | sizing =>
          cases taken
          exact ⟨_, rfl, rfl, rfl, rfl, id, id, id, rfl, id⟩
      | _ => cases taken
  | report panic =>
      cases stage with
      | reporting =>
          cases taken
          refine ⟨_, rfl, rfl, rfl, rfl, id, id, id, rfl, fun ok => ?_⟩
          cases panic with
          | none => exact ⟨fun _ => ok.1, Or.inl ok.2⟩
          | some error => exact fun _ => ok.1
      | _ => cases taken
  | record =>
      cases stage with
      | failing error =>
          cases taken
          exact ⟨_, rfl, rfl, rfl, rfl, fun _ => Option.some_ne_none _, id, id, rfl, fun ok =>
            ⟨ok, Or.inr (Option.some_ne_none _)⟩⟩
      | _ => cases taken
  | release =>
      cases stage with
      | releasing =>
          cases taken
          exact ⟨_, rfl, rfl, rfl, rfl, id, id, id, rfl, id⟩
      | _ => cases taken
  | leave =>
      cases stage with
      | leaving =>
          cases taken
          exact ⟨_, rfl, rfl, rfl, rfl, id, id, id, rfl, id⟩
      | _ => cases taken

/-- Every worker is counted. -/
def State.Complete (state : State) : Prop :=
  forall worker, worker ∈ state.workers -> worker.counted = true

theorem Moved.complete {state next : State} {index : Nat} {before after : Worker}
    (found : state.workers[index]? = some before) (moved : Moved state next index before after)
    (complete : state.Complete) : next.Complete := by
  intro worker member
  rw [moved.workers] at member
  rcases List.mem_or_eq_of_mem_set member with old | rfl
  · exact complete worker old
  · exact moved.counted (complete before (List.mem_of_getElem? found))

theorem Moved.length {state next : State} {index : Nat} {before after : Worker}
    (moved : Moved state next index before after) : next.workers.length = state.workers.length := by
  rw [moved.workers, List.length_set]

theorem Moved.quiet {state next : State} {index : Nat} {before after : Worker}
    (found : state.workers[index]? = some before) (moved : Moved state next index before after)
    (quiet : Quiet state) : Quiet next :=
  quiet.imp moved.firstErr (moved.complete found)

/-! ## Steps -/

/-- What a step can be, with what it needs. -/
inductive Taken (state : State) : Action -> State -> Prop where
  | cancelled (error : String) (running : state.cancelled = none) :
      Taken state (.cancel error) { state with cancelled := some error }
  | dispatched (phase : state.phase = .checking) (todo : state.todo = []) :
      Taken state .check { state with phase := .waiting }
  | stopped (error : String) (phase : state.phase = .checking)
      (cancelled : state.cancelled = some error) :
      Taken state .check { state.setFirstErr error with phase := .waiting }
  | checked (phase : state.phase = .checking) (running : state.cancelled = none) :
      Taken state .check { state with phase := .acquiring }
  | acquired (entry : DiffEntry) (rest : List DiffEntry) (phase : state.phase = .acquiring)
      (todo : state.todo = entry :: rest) :
      Taken state .acquire { state with
        todo := rest, workers := state.workers ++ [{ entry }], phase := .checking }
  | gaveUp (error : String) (phase : state.phase = .acquiring)
      (cancelled : state.cancelled = some error) :
      Taken state .giveUp { state.setFirstErr error with phase := .waiting }
  | drained (phase : state.phase = .waiting)
      (gone : forall worker, worker ∈ state.workers -> worker.isGone = true) :
      Taken state .drained { state with phase := .loadingCopied }
  | abandoned (error : String) (phase : state.phase = .waiting)
      (cancelled : state.cancelled = some error) :
      Taken state .abandon { state with phase := .loadingCopied }
  | readCopied (phase : state.phase = .loadingCopied) :
      Taken state .loadCopied { state with phase := .loadingBytes state.copied }
  | readBytes (copied : Nat) (phase : state.phase = .loadingBytes copied) :
      Taken state .loadBytes { state with phase := .loadingError copied state.bytes }
  | readError (copied : Nat) (bytes : Int) (phase : state.phase = .loadingError copied bytes) :
      Taken state .loadError { state with phase := .returned copied bytes state.firstErr }
  | moved (index : Nat) (move : Move) (worker : Worker) (next : State)
      (found : state.workers[index]? = some worker)
      (taken : state.move index worker move = some next) : Taken state (.worker index move) next

theorem taken_of_step {slots : Nat} {state next : State} {action : Action}
    (taken : step slots state action = some next) : Taken state action next := by
  cases action with
  | cancel error =>
      simp only [step] at taken
      split at taken
      · rename_i running
        cases taken
        exact .cancelled error running
      · cases taken
  | check =>
      simp only [step] at taken
      split at taken
      · rename_i phase
        split at taken
        · rename_i todo
          cases taken
          exact .dispatched phase todo
        · split at taken
          · rename_i error cancelled
            cases taken
            exact .stopped error phase cancelled
          · rename_i running
            cases taken
            exact .checked phase running
      · cases taken
  | acquire =>
      simp only [step] at taken
      split at taken
      · rename_i entry rest phase todo
        split at taken
        · cases taken
          exact .acquired entry rest phase todo
        · cases taken
      · cases taken
  | giveUp =>
      simp only [step] at taken
      split at taken
      · rename_i error phase cancelled
        cases taken
        exact .gaveUp error phase cancelled
      · cases taken
  | drained =>
      simp only [step] at taken
      split at taken
      · rename_i phase
        split at taken
        · rename_i gone
          cases taken
          exact .drained phase (List.all_eq_true.mp gone)
        · cases taken
      · cases taken
  | abandon =>
      simp only [step] at taken
      split at taken
      · rename_i error phase cancelled
        cases taken
        exact .abandoned error phase cancelled
      · cases taken
  | loadCopied =>
      simp only [step] at taken
      split at taken
      · rename_i phase
        cases taken
        exact .readCopied phase
      · cases taken
  | loadBytes =>
      simp only [step] at taken
      split at taken
      · rename_i phase
        cases taken
        exact .readBytes _ phase
      · cases taken
  | loadError =>
      simp only [step] at taken
      split at taken
      · rename_i phase
        cases taken
        exact .readError _ _ phase
      · cases taken
  | worker index move =>
      simp only [step] at taken
      split at taken
      · cases taken
      · rename_i worker found
        exact .moved index move worker next found taken

/-! ## What holds in every run -/

/-- The dispatching function is still in its loop. -/
def Phase.dispatching : Phase -> Bool
  | .checking | .acquiring => true
  | _ => false

/-- The count the dispatching function has read. -/
def Phase.count : Phase -> Option Nat
  | .loadingBytes copied | .loadingError copied _ | .returned copied _ _ => some copied
  | _ => none

/-- The workers have the first entries of the diff, the counter counts them, and the loop is left
with an entry to do only after an error. -/
structure Sound (diff : List DiffEntry) (state : State) : Prop where
  split : state.workers.map Worker.entry ++ state.todo = diff
  workers : forall worker, worker ∈ state.workers -> worker.Ok (state.firstErr ≠ none)
  copied : state.copied = state.workers.countP Worker.counted
  dispatched : state.phase.dispatching = false -> state.todo = [] ∨ state.firstErr ≠ none
  loaded : forall count, state.phase.count = some count -> count ≤ state.copied

theorem Sound.start (diff : List DiffEntry) : Sound diff (start diff) where
  split := rfl
  workers := by
    rintro worker ⟨⟩
  copied := rfl
  dispatched := by
    rintro ⟨⟩
  loaded := by
    rintro count ⟨⟩

theorem Moved.copied_le {state next : State} {index : Nat} {before after : Worker}
    (moved : Moved state next index before after) : state.copied ≤ next.copied := by
  have copied := moved.copied
  cases counted : before.counted with
  | true =>
      rw [moved.counted counted, counted] at copied
      exact Nat.le_of_eq (Nat.add_right_cancel copied).symm
  | false =>
      rw [counted] at copied
      exact (Nat.le_add_right _ _).trans_eq copied.symm

theorem Sound.worker {diff : List DiffEntry} {state next : State} {index : Nat}
    {before after : Worker} (held : Sound diff state)
    (found : state.workers[index]? = some before) (moved : Moved state next index before after) :
    Sound diff next where
  split := by
    have same : (state.workers.map Worker.entry).set index before.entry =
        state.workers.map Worker.entry := by
      rcases List.getElem?_eq_some_iff.mp found with ⟨bound, rfl⟩
      rw [← List.map_set, List.set_getElem_self]
    rw [moved.workers, moved.todo, List.map_set, moved.entry, same]
    exact held.split
  workers := by
    intro worker member
    rw [moved.workers] at member
    rcases List.mem_or_eq_of_mem_set member with old | rfl
    · exact (held.workers worker old).mono moved.firstErr
    · exact moved.ok (held.workers before (List.mem_of_getElem? found))
  copied := by
    rcases List.getElem?_eq_some_iff.mp found with ⟨bound, rfl⟩
    have among : (if state.workers[index].counted then 1 else 0) ≤
        state.workers.countP Worker.counted := by
      split_ifs with counted
      · exact List.countP_pos_iff.mpr ⟨_, List.getElem_mem bound, counted⟩
      · exact Nat.zero_le _
    have copied := moved.copied
    rw [moved.workers, List.countP_set bound]
    rw [held.copied] at copied
    omega
  dispatched := by
    rw [moved.phase, moved.todo]
    intro left
    exact (held.dispatched left).imp id moved.firstErr
  loaded := by
    rw [moved.phase]
    intro count read
    exact (held.loaded count read).trans moved.copied_le

/-- The dispatching function goes on, and nobody else does. -/
theorem Sound.phase {diff : List DiffEntry} {state : State} (held : Sound diff state)
    (phase : Phase)
    (dispatched : phase.dispatching = false -> state.todo = [] ∨ state.firstErr ≠ none)
    (loaded : forall count, phase.count = some count -> count ≤ state.copied) :
    Sound diff { state with phase } :=
  ⟨held.split, held.workers, held.copied, dispatched, loaded⟩

theorem Sound.setFirstErr {diff : List DiffEntry} {state : State} (held : Sound diff state)
    (error : String) : Sound diff (state.setFirstErr error) where
  split := held.split
  workers := fun worker member =>
    (held.workers worker member).mono fun _ => Option.some_ne_none _
  copied := held.copied
  dispatched := fun _ => Or.inr (Option.some_ne_none _)
  loaded := held.loaded

/-- A fresh worker takes the next entry. -/
theorem Sound.acquire {diff : List DiffEntry} {state : State} {entry : DiffEntry}
    {rest : List DiffEntry} (held : Sound diff state) (todo : state.todo = entry :: rest) :
    Sound diff { state with
      todo := rest, workers := state.workers ++ [{ entry }], phase := .checking } where
  split := by
    rw [List.map_append, List.append_assoc, ← held.split, todo]
    rfl
  workers := by
    intro worker member
    rcases List.mem_append.mp member with old | new
    · exact held.workers worker old
    · cases List.mem_singleton.mp new
      exact ⟨rfl, rfl⟩
  copied := by
    rw [List.countP_append, held.copied]
    rfl
  dispatched := by
    rintro ⟨⟩
  loaded := by
    rintro count ⟨⟩

theorem Sound.step {diff : List DiffEntry} {slots : Nat} {state next : State} {action : Action}
    (held : Sound diff state) (taken : step slots state action = some next) : Sound diff next := by
  have read := held.loaded
  cases taken_of_step taken with
  | cancelled error _ =>
      exact ⟨held.split, held.workers, held.copied, held.dispatched, held.loaded⟩
  | dispatched _ todo => exact held.phase .waiting (fun _ => Or.inl todo) (by rintro count ⟨⟩)
  | stopped error _ _ =>
      exact (held.setFirstErr error).phase .waiting (fun _ => Or.inr (Option.some_ne_none _))
        (by rintro count ⟨⟩)
  | checked _ _ => exact held.phase .acquiring (by rintro ⟨⟩) (by rintro count ⟨⟩)
  | acquired entry rest _ todo => exact held.acquire todo
  | gaveUp error _ _ =>
      exact (held.setFirstErr error).phase .waiting (fun _ => Or.inr (Option.some_ne_none _))
        (by rintro count ⟨⟩)
  | drained phase _ =>
      exact held.phase .loadingCopied (fun _ => held.dispatched (by rw [phase]; rfl))
        (by rintro count ⟨⟩)
  | abandoned _ phase _ =>
      exact held.phase .loadingCopied (fun _ => held.dispatched (by rw [phase]; rfl))
        (by rintro count ⟨⟩)
  | readCopied phase =>
      refine held.phase _ (fun _ => held.dispatched (by rw [phase]; rfl)) ?_
      rintro count ⟨⟩
      exact Nat.le_refl _
  | readBytes copied phase =>
      rw [phase] at read
      exact held.phase _ (fun _ => held.dispatched (by rw [phase]; rfl)) read
  | readError copied bytes phase =>
      rw [phase] at read
      exact held.phase _ (fun _ => held.dispatched (by rw [phase]; rfl)) read
  | moved index move before _ found taken =>
      have fresh := held.workers before (List.mem_of_getElem? found)
      rcases moved fresh taken with ⟨after, moved⟩
      exact held.worker found moved

theorem Sound.of_run {diff : List DiffEntry} {slots : Nat} {actions : List Action} {final : State}
    (run : exec (ParallelBatch.step slots) (ParallelBatch.start diff) actions = some final) :
    Sound diff final :=
  exec_invariant (fun _ _ _ held taken => Sound.step held taken) (Sound.start diff) run

theorem Sound.copied_eq {diff : List DiffEntry} {state : State} (held : Sound diff state)
    (complete : state.Complete) : state.copied = state.workers.length := by
  rw [held.copied]
  exact List.countP_eq_length.mpr complete

theorem Sound.length {diff : List DiffEntry} {state : State} (held : Sound diff state) :
    diff.length = state.workers.length + state.todo.length := by
  rw [← held.split, List.length_append, List.length_map]

/-- The counter reaches the length of the diff only when every entry is copied. -/
theorem Sound.complete_of_le {diff : List DiffEntry} {state : State} (held : Sound diff state)
    (all : diff.length ≤ state.copied) : state.todo = [] ∧ state.Complete := by
  have length := held.length
  have copied := held.copied
  have most := @List.countP_le_length _ Worker.counted state.workers
  constructor
  · exact List.eq_nil_of_length_eq_zero (by omega)
  · exact List.countP_eq_length.mp (by omega)

theorem Sound.landed_eq {diff : List DiffEntry} {state : State} (held : Sound diff state)
    (todo : state.todo = []) (complete : state.Complete) : state.landed = diff := by
  have all : state.workers.filter Worker.landed = state.workers :=
    List.filter_eq_self.mpr fun worker member =>
      (held.workers worker member).landed (complete worker member)
  rw [State.landed, all, ← held.split, todo, List.append_nil]

theorem Sound.copied_le_landed {diff : List DiffEntry} {state : State} (held : Sound diff state) :
    state.copied ≤ state.landed.length := by
  rw [held.copied, State.landed, List.length_map, ← List.countP_eq_length_filter]
  exact List.countP_mono_left fun worker member => (held.workers worker member).landed

theorem Sound.accounted {diff : List DiffEntry} {state : State} (held : Sound diff state) :
    Accounted diff state := by
  intro copied bytes error returned
  have read : copied ≤ state.copied := held.loaded copied (by rw [returned]; rfl)
  have landed := held.copied_le_landed
  refine ⟨by unfold pendingObjects; omega, ?_⟩
  intro now failures stored replica dr
  cases error with
  | some error => exact Or.inl rfl
  | none =>
      rw [conclude, recordSuccess_lastSync]
      split_ifs with drained
      · have pending := (fullyDrained_iff.mp drained).1
        have all := held.complete_of_le (by unfold pendingObjects at pending; omega)
        exact Or.inr (held.landed_eq all.1 all.2)
      · exact Or.inl rfl

/-! ## Runs whose wait is not given up early -/

/-- What is known from the end of the wait on. -/
def Settled (state : State) : Prop :=
  match state.phase with
  | .loadingCopied => Quiet state
  | .loadingBytes copied | .loadingError copied _ =>
      state.firstErr ≠ none ∨ state.Complete ∧ copied = state.workers.length
  | .returned copied _ error =>
      error ≠ none ∨ state.todo = [] ∧ state.Complete ∧ copied = state.workers.length
  | _ => True

/-- When every worker is gone, each was counted or saved an error. -/
theorem Sound.quiet_of_gone {diff : List DiffEntry} {state : State} (held : Sound diff state)
    (gone : forall worker, worker ∈ state.workers -> worker.isGone = true) : Quiet state := by
  by_cases failed : state.firstErr ≠ none
  · exact Or.inl failed
  · refine Or.inr ?_
    intro worker member
    have ok := held.workers worker member
    have ended := gone worker member
    rcases worker with ⟨entry, stage, landed, counted⟩
    cases stage with
    | gone => exact ok.2.resolve_right failed
    | _ => cases ended

/-- What a move of a worker leaves settled. -/
theorem Settled.worker {state next : State} {index : Nat} {before after : Worker}
    (settled : Settled state) (found : state.workers[index]? = some before)
    (moved : Moved state next index before after) : Settled next := by
  unfold Settled at *
  rw [moved.phase, moved.length, moved.todo]
  split at settled
  · exact moved.quiet found settled
  · exact settled.imp moved.firstErr (And.imp_left (moved.complete found))
  · exact settled.imp moved.firstErr (And.imp_left (moved.complete found))
  · exact settled.imp id (And.imp_right (And.imp_left (moved.complete found)))
  · trivial

theorem Settled.step {diff : List DiffEntry} {slots : Nat} {state next : State} {action : Action}
    (held : Sound diff state) (settled : Settled state) (unhurried : Unhurried state action)
    (taken : step slots state action = some next) : Settled next := by
  cases taken_of_step taken with
  | cancelled error _ => exact settled
  | dispatched _ _ => trivial
  | stopped _ _ _ => trivial
  | checked _ _ => trivial
  | acquired _ _ _ _ => trivial
  | gaveUp _ _ _ => trivial
  | drained _ gone => exact held.quiet_of_gone gone
  | abandoned _ _ _ => exact unhurried
  | readCopied phase =>
      simp only [Settled, phase] at settled
      exact settled.imp id fun complete => ⟨complete, held.copied_eq complete⟩
  | readBytes copied phase =>
      simp only [Settled, phase] at settled
      exact settled
  | readError copied bytes phase =>
      simp only [Settled, phase] at settled
      by_cases failed : state.firstErr ≠ none
      · exact Or.inl failed
      · have todo := (held.dispatched (by rw [phase]; rfl)).resolve_right failed
        exact Or.inr ⟨todo, settled.resolve_left failed⟩
  | moved index move before _ found taken =>
      have fresh := held.workers before (List.mem_of_getElem? found)
      rcases moved fresh taken with ⟨after, moved⟩
      exact settled.worker found moved

theorem Settled.honest {diff : List DiffEntry} {state : State} (held : Sound diff state)
    (settled : Settled state) : Honest diff state := by
  intro copied bytes returned
  simp only [Settled, returned] at settled
  rcases settled with impossible | ⟨todo, complete, counted⟩
  · exact absurd rfl impossible
  · refine ⟨held.landed_eq todo complete, ?_⟩
    rw [counted, held.length, todo]
    rfl

/-- The wait is over. -/
def Phase.pastWait : Phase -> Bool
  | .checking | .acquiring | .waiting => false
  | _ => true

theorem phase_of_move {state next : State} {index : Nat} {worker : Worker} {move : Move}
    (taken : state.move index worker move = some next) : next.phase = state.phase := by
  rcases worker with ⟨entry, stage, landed, counted⟩
  cases move <;> cases stage <;> cases taken <;> rfl

theorem pastWait_step {slots : Nat} {state next : State} {action : Action}
    (past : state.phase.pastWait = true) (taken : step slots state action = some next) :
    next.phase.pastWait = true ∧ action ≠ .abandon := by
  cases taken_of_step taken with
  | cancelled error _ => exact ⟨past, by rintro ⟨⟩⟩
  | dispatched phase _ => rw [phase] at past; cases past
  | stopped _ phase _ => rw [phase] at past; cases past
  | checked phase _ => rw [phase] at past; cases past
  | acquired _ _ phase _ => rw [phase] at past; cases past
  | gaveUp _ phase _ => rw [phase] at past; cases past
  | drained phase _ => rw [phase] at past; cases past
  | abandoned _ phase _ => rw [phase] at past; cases past
  | readCopied _ => exact ⟨rfl, by rintro ⟨⟩⟩
  | readBytes _ _ => exact ⟨rfl, by rintro ⟨⟩⟩
  | readError _ _ _ => exact ⟨rfl, by rintro ⟨⟩⟩
  | moved index move before _ found taken =>
      rw [phase_of_move taken]
      exact ⟨past, by rintro ⟨⟩⟩

theorem honest_of_quiet {diff : List DiffEntry} {slots : Nat} {state next last : State}
    {rest : List Action} (held : Sound diff state) (quiet : Quiet state)
    (taken : step slots state .abandon = some next)
    (run : exec (ParallelBatch.step slots) next rest = some last) : Honest diff last := by
  have kept : Sound diff last ∧ Settled last ∧ last.phase.pastWait = true := by
    refine @exec_invariant _ _ (ParallelBatch.step slots)
      (fun state => Sound diff state ∧ Settled state ∧ state.phase.pastWait = true) ?_ rest next
      last ?_ run
    · rintro state action next ⟨sound, settled, past⟩ taken
      have still := pastWait_step past taken
      refine ⟨sound.step taken, settled.step sound ?_ taken, still.1⟩
      cases action with
      | abandon => exact absurd rfl still.2
      | _ => trivial
    · refine ⟨held.step taken, ?_⟩
      cases taken_of_step taken with
      | abandoned _ _ _ => exact ⟨quiet, rfl⟩
  exact kept.2.1.honest kept.1

/-- The batch that reads at once what the abandoned workers left. -/
theorem quiet_of_honest {diff : List DiffEntry} {slots : Nat} {state next : State}
    (held : Sound diff state) (taken : step slots state .abandon = some next)
    (honest : forall rest last, exec (ParallelBatch.step slots) next rest = some last ->
      Honest diff last) : Quiet state := by
  cases taken_of_step taken with
  | abandoned _ _ _ =>
      cases failed : state.firstErr with
      | some error => exact Or.inl (by rw [failed]; exact Option.some_ne_none _)
      | none =>
          have all := honest [.loadCopied, .loadBytes, .loadError] _ rfl state.copied state.bytes
            (by rw [← failed])
          exact Or.inr (held.complete_of_le (Nat.le_of_eq all.2.symm)).2

/-- A batch that returns no error is complete in every run whose wait is not given up while a
worker has neither been counted nor saved an error.  Giving it up then is what makes room for an
incomplete batch, each time.  What the pass records accounts for the rest in every run. -/
theorem batch_complete_iff {slots : Nat} {diff : List DiffEntry} {actions : List Action}
    {final : State} (run : exec (step slots) (start diff) actions = some final) :
    (Meets (step slots) Unhurried (start diff) actions ->
      Throughout (step slots) (Honest diff) (start diff) actions) ∧
    (forall next, step slots final .abandon = some next ->
      ((forall rest last, exec (step slots) next rest = some last -> Honest diff last) ↔
        Quiet final)) ∧
    Throughout (step slots) (Accounted diff) (start diff) actions := by
  have sound := Sound.of_run run
  refine ⟨?_, ?_, ?_⟩
  · intro unhurried
    have kept : Throughout (step slots) (fun state => Sound diff state ∧ Settled state)
        (start diff) actions :=
      throughout_of_meets (fun _ _ _ held here taken =>
        ⟨held.1.step taken, held.2.step held.1 here taken⟩) ⟨Sound.start diff, trivial⟩ unhurried
    exact kept.imp fun _ held => held.2.honest held.1
  · intro next taken
    exact ⟨quiet_of_honest sound taken, fun quiet _ _ rest => honest_of_quiet sound quiet taken rest⟩
  · intro first second middle _ before
    exact (Sound.of_run before).accounted

def twoEntries : List DiffEntry := [{ key := "a", size := 3 }, { key := "b", size := 4 }]

/-- The context is cancelled while the second worker copies, which sees it and saves the error
before the wait is given up. -/
def sampleActions : List Action :=
  [.check, .acquire, .worker 0 .land, .worker 0 .count, .worker 0 .size, .worker 0 (.report none),
    .worker 0 .release, .check, .acquire, .check, .cancel "context deadline exceeded",
    .worker 1 (.fail "context deadline exceeded"), .worker 1 .record, .abandon, .loadCopied,
    .loadBytes, .loadError]

theorem sampleActions_run : (exec (step 1) (start twoEntries) sampleActions).isSome = true := by
  decide +kernel

theorem batch_complete_iff_sample :
    Throughout (step 1) (Honest twoEntries) (start twoEntries) sampleActions ∧
      Throughout (step 1) (Accounted twoEntries) (start twoEntries) sampleActions :=
  have all := batch_complete_iff (Option.some_get sampleActions_run).symm
  ⟨all.1 (by decide +kernel), all.2.2⟩

/-- The context is cancelled while the only worker copies, and the wait is given up before the
worker comes back: nothing is copied, and no error is returned. -/
theorem abandoned_batch_has_no_error :
    Exists fun final =>
      exec (step 1) (start [{ key := "a", size := 3 }])
          [.check, .acquire, .check, .cancel "context deadline exceeded", .abandon, .loadCopied,
            .loadBytes, .loadError] = some final ∧
        final.phase = .returned 0 0 none ∧ final.landed = [] ∧
        ¬ Honest [{ key := "a", size := 3 }] final := by
  refine ⟨_, rfl, rfl, rfl, ?_⟩
  intro honest
  have all := honest 0 0 rfl
  cases all.2

end ParallelBatch
end Federation
end Basement
