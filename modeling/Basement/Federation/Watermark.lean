import Basement.Federation.Replication
import Basement.Library.Transition

namespace Basement
namespace Federation
namespace Replication

open Library

/-!
# The watermark

The next `computeDiff` skips, without a HEAD, every object that the stored `LastSync`
filters.  The watermark is safe when each of these objects is on the replica in its
current version.

Every watermark the engine may still write is either the one in the row, or one that
a snapshot of the row carries: in the pass, in a queued task, or in a computed update
that is not stored yet.  These are the marks of a world.  A step either leaves the
marks alone, or adds the wall clock to them.

The invariant has two parts.  All marks are safe.  And for each key that nobody else
wrote since the pass took its snapshot, the pass knows what is still to do: the key is
ahead in the listing, or waiting in the page, in the batch or in a flight, or else the
replica has the object.
-/

variable {contentOf : String -> Body}

/-! ## Safe watermarks -/

/-- Everything the watermark filters is on the replica. -/
def Clean (primary replica : Contents contentOf) (mark : Int) : Prop :=
  forall key object, primary.get? key = some object -> filtered mark object.mtime = true ->
    Same (primary.get? key) (replica.get? key)

/-- A user's write keeps a watermark safe that does not filter the new object. -/
theorem Clean.setPrimary {primary replica : Contents contentOf} {mark : Int}
    (clean : Clean primary replica mark) {key : String} {written : Option (Object contentOf)}
    (recent : forall object, written = some object -> filtered mark object.mtime = false) :
    Clean (primary.set key written) replica mark := by
  intro other object found old
  rw [SortedStore.get?_set] at found ⊢
  split at found
  · rw [recent object found] at old
    cases old
  · rename_i different
    rw [if_neg different]
    exact clean other object found old

/-- A write to the replica keeps a watermark safe that does not filter the primary's
object, or when it brings the primary's contents. -/
theorem Clean.setReplica {primary replica : Contents contentOf} {mark : Int}
    (clean : Clean primary replica mark) {key : String} {written : Option (Object contentOf)}
    (lands : forall object, primary.get? key = some object ->
      written.map (fun held => held.body) = some object.body ∨ filtered mark object.mtime = false) :
    Clean primary (replica.set key written) mark := by
  intro other object found old
  rw [SortedStore.get?_set]
  by_cases same : other = key
  · subst same
    rw [if_pos rfl]
    rcases lands object found with brings | recent
    · rcases Option.map_eq_some_iff.mp brings with ⟨held, here, body⟩
      intro current present
      cases Option.some.inj (found.symm.trans present)
      exact ⟨held, here, body⟩
    · rw [recent] at old
      cases old
  · rw [if_neg same]
    exact clean other object found old

/-! ## Marks -/

def Stage.Mark : Stage contentOf -> Int -> Prop
  | .recording upd, mark => mark = upd.lastSync
  | _, _ => False

def Pass.Mark (pass : Pass contentOf) (mark : Int) : Prop :=
  mark = pass.snap.lastSync ∨ pass.stage.Mark mark

def Job.Mark : Job -> Int -> Prop
  | .opening task, mark => mark = task.target.lastSync
  | .putting task _, mark => mark = task.target.lastSync
  | .deleting task, mark => mark = task.target.lastSync
  | .succeeded task, mark => mark = task.target.lastSync
  | .failing _ target, mark => mark = target.lastSync
  | .recording upd, mark => mark = upd.lastSync

/-- A watermark that is stored, or that a snapshot carries. -/
def World.Mark (world : World contentOf) (mark : Int) : Prop :=
  mark = world.record.lastSync ∨
  (Exists fun task => task ∈ world.queue ∧ mark = task.target.lastSync) ∨
  (Exists fun pass => world.poller = some pass ∧ pass.Mark mark) ∨
  (Exists fun job => world.worker = some job ∧ job.Mark mark)

/-- No mark filters an object of this age. -/
def World.Unfiltered (world : World contentOf) (mtime : Int) : Prop :=
  forall mark, world.Mark mark -> filtered mark mtime = false

/-- What arrives at the replica is what the primary has there, or nothing filters the
primary's object. -/
def World.LandsWell (world : World contentOf) (key : String) (body : Option Body) : Prop :=
  forall object, world.primary.get? key = some object ->
    body = some object.body ∨ world.Unfiltered object.mtime

/-- The wall clock becomes a mark: a pass ends fully drained, or a put task succeeded. -/
def Advances (world : World contentOf) : Action contentOf -> Prop
  | .pass .finishPass => Exists fun pass => Exists fun batch =>
      world.poller = some pass ∧ pass.stage = .copying batch ∧ batch.todo = [] ∧
        batch.flights = [] ∧ batch.failed = false ∧
          fullyDrained batch.pendingObjects batch.dr = true
  | .job (.finishTask _) => Exists fun task =>
      world.worker = some (.succeeded task) ∧ task.isDelete = false
  | _ => False

section Marks

variable {world next : World contentOf} {mark : Int}

theorem World.Mark.ofPass {pass : Pass contentOf} (running : world.poller = some pass)
    (held : pass.Mark mark) : world.Mark mark :=
  Or.inr (Or.inr (Or.inl ⟨pass, running, held⟩))

theorem World.Mark.ofJob {job : Job} (running : world.worker = some job)
    (held : job.Mark mark) : world.Mark mark :=
  Or.inr (Or.inr (Or.inr ⟨job, running, held⟩))

/-- A step that moves the pass on adds the marks of its new stage. -/
theorem mark_setStage {pass : Pass contentOf} {before : World contentOf}
    {stage : Stage contentOf} (running : world.poller = some pass)
    (record : before.record = world.record) (queue : before.queue = world.queue)
    (worker : before.worker = world.worker) (held : (before.setStage pass stage).Mark mark) :
    world.Mark mark ∨ stage.Mark mark := by
  rcases held with stored | queued | ⟨now, moved, marks⟩ | working
  · exact Or.inl (Or.inl (by rw [← record]; exact stored))
  · exact Or.inl (Or.inr (Or.inl (by rw [← queue]; exact queued)))
  · cases Option.some.inj moved
    rcases marks with snap | staged
    · exact Or.inl (World.Mark.ofPass running (Or.inl snap))
    · exact Or.inr staged
  · exact Or.inl (Or.inr (Or.inr (Or.inr (by rw [← worker]; exact working))))

/-- Keys that a pass remembers carry no marks. -/
theorem mark_wrote {key : String} : (world.wrote key).Mark mark ↔ world.Mark mark := by
  unfold World.Mark World.wrote
  cases world.poller with
  | none => simp
  | some pass => simp [Pass.Mark]

/-- Storing an update makes its watermark the row's. -/
theorem mark_stored {upd : ReplicaTarget} {persisted : Bool}
    (stored : mark =
      (if persisted then world.record.withHealth upd else world.record).lastSync) :
    mark = upd.lastSync ∨ mark = world.record.lastSync := by
  cases persisted with
  | true => exact Or.inl (by simpa using stored)
  | false => exact Or.inr stored

theorem passMove_marks {pass : Pass contentOf} {action : PassAction contentOf}
    (running : world.poller = some pass) (moved : PassMove world pass action next)
    (held : next.Mark mark) :
    world.Mark mark ∨ (mark = world.clock ∧ Advances world (.pass action)) := by
  cases moved with
  | reported failures loaded stage =>
      rcases mark_setStage running rfl rfl rfl held with before | same
      · exact Or.inl before
      · exact Or.inl (World.Mark.ofPass running (Or.inl same))
  | finished batch stage todo flights ok =>
      rcases mark_setStage running rfl rfl rfl held with before | same
      · exact Or.inl before
      · change mark = _ at same
        rw [recordSuccess_lastSync] at same
        split at same
        · rename_i drained
          exact Or.inr ⟨same, pass, batch, running, stage, todo, flights, ok, drained⟩
        · exact Or.inl (World.Mark.ofPass running (Or.inl same))
  | stored upd persisted stage =>
      rcases held with written | queued | ⟨now, gone, _⟩ | working
      · rcases mark_stored written with fresh | old
        · exact Or.inl (World.Mark.ofPass running (Or.inr (by rw [stage]; exact fresh)))
        · exact Or.inl (Or.inl old)
      · exact Or.inl (Or.inr (Or.inl queued))
      · cases gone
      · exact Or.inl (Or.inr (Or.inr (Or.inr working)))
  | resolved | failed | listed | scanned | filled | turned | ended | opened | refused | landed
  | broke | abandoned =>
      rcases mark_setStage running rfl rfl rfl held with before | none
      · exact Or.inl before
      · cases none

/-- A step that moves the worker on replaces its marks. -/
theorem mark_setWorker (world before : World contentOf) {worker : Option Job}
    (record : before.record = world.record) (queue : before.queue = world.queue)
    (poller : forall other, before.Mark other -> world.Mark other)
    (held : { before with worker := worker }.Mark mark) :
    world.Mark mark ∨ Exists fun job => worker = some job ∧ job.Mark mark := by
  rcases held with stored | queued | running | working
  · exact Or.inl (Or.inl (by rw [← record]; exact stored))
  · exact Or.inl (Or.inr (Or.inl (by rw [← queue]; exact queued)))
  · exact Or.inl (poller mark (Or.inr (Or.inr (Or.inl running))))
  · exact Or.inr working

/-- A step that moves the worker on within its task keeps the marks. -/
theorem mark_worked (before : World contentOf) {job after : Job}
    (working : world.worker = some job) (record : before.record = world.record)
    (queue : before.queue = world.queue)
    (poller : forall other, before.Mark other -> world.Mark other)
    (held : { before with worker := some after }.Mark mark)
    (carries : after.Mark mark -> job.Mark mark) : world.Mark mark := by
  rcases mark_setWorker world before record queue poller held with known | ⟨_, now, marks⟩
  · exact known
  · cases Option.some.inj now
    exact World.Mark.ofJob working (carries marks)

theorem jobMove_marks {job : Job} {action : JobAction contentOf}
    (working : world.worker = some job) (moved : JobMove world job action next)
    (held : next.Mark mark) :
    world.Mark mark ∨ (mark = world.clock ∧ Advances world (.job action)) := by
  cases moved with
  | opened | refused | putFailed | deleteFailed | reported =>
      exact Or.inl (mark_worked world working rfl rfl (fun _ => id) held id)
  | landed task body object same =>
      exact Or.inl (mark_worked (world.setReplica task.singleKey (some object)) working rfl rfl
        (fun _ => mark_wrote.mp) held id)
  | deleted task =>
      exact Or.inl (mark_worked (world.setReplica task.singleKey none) working rfl rfl
        (fun _ => mark_wrote.mp) held id)
  | finished task loaded =>
      rcases mark_setWorker world world rfl rfl (fun _ => id) held with before | ⟨_, same, marks⟩
      · exact Or.inl before
      · cases Option.some.inj same
        cases kind : task.isDelete with
        | true =>
            rw [kind] at marks
            cases loaded with
            | true => exact Or.inl (Or.inl marks)
            | false => exact Or.inl (World.Mark.ofJob working marks)
        | false =>
            rw [kind] at marks
            exact Or.inr ⟨marks, task, working, kind⟩
  | stored upd persisted =>
      rcases held with written | queued | running | ⟨_, gone, _⟩
      · rcases mark_stored written with fresh | old
        · exact Or.inl (World.Mark.ofJob working fresh)
        · exact Or.inl (Or.inl old)
      · exact Or.inl (Or.inr (Or.inl queued))
      · exact Or.inl (Or.inr (Or.inr (Or.inl running)))
      · cases gone

/-- A task that leaves the queue takes its mark along. -/
theorem mark_dequeued {task : EventTask} {rest : List EventTask}
    (waiting : world.queue = task :: rest) (held : { world with queue := rest }.Mark mark) :
    world.Mark mark := by
  rcases held with stored | ⟨other, member, same⟩ | running | working
  · exact Or.inl stored
  · exact Or.inr (Or.inl ⟨other, by rw [waiting]; exact List.mem_cons_of_mem _ member, same⟩)
  · exact Or.inr (Or.inr (Or.inl running))
  · exact Or.inr (Or.inr (Or.inr working))

/-- A task that the worker takes brings its mark. -/
theorem mark_taken {task : EventTask} {rest : List EventTask} {job : Job}
    (waiting : world.queue = task :: rest) (marks : job.Mark mark -> mark = task.target.lastSync)
    (held : { world with queue := rest, worker := some job }.Mark mark) : world.Mark mark := by
  rcases held with stored | queued | running | ⟨_, same, own⟩
  · exact Or.inl stored
  · exact mark_dequeued waiting (Or.inr (Or.inl queued))
  · exact Or.inr (Or.inr (Or.inl running))
  · cases Option.some.inj same
    exact Or.inr (Or.inl ⟨task, by rw [waiting]; exact List.mem_cons_self, marks own⟩)

/-- A step leaves the marks alone or adds the wall clock to them. -/
theorem step_marks {action : Action contentOf} (taken : step world action = some next)
    (held : next.Mark mark) :
    world.Mark mark ∨ (mark = world.clock ∧ Advances world action) := by
  cases step_moves taken with
  | waited elapsed => exact Or.inl held
  | userPut key version => exact Or.inl (mark_wrote.mp held)
  | userDeleted key => exact Or.inl (mark_wrote.mp held)
  | loaded idle =>
      rcases held with stored | queued | ⟨now, same, marks⟩ | working
      · exact Or.inl (Or.inl stored)
      · exact Or.inl (Or.inr (Or.inl queued))
      · cases Option.some.inj same
        exact Or.inl (Or.inl (marks.resolve_right id))
      · exact Or.inl (Or.inr (Or.inr (Or.inr working)))
  | passed pass action next running moved => exact passMove_marks running moved held
  | queued key isDelete =>
      rcases held with stored | ⟨task, member, same⟩ | running | working
      · exact Or.inl (Or.inl stored)
      · rcases List.mem_append.mp member with old | new
        · exact Or.inl (Or.inr (Or.inl ⟨task, old, same⟩))
        · rw [List.mem_singleton.mp new] at same
          exact Or.inl (Or.inl same)
      · exact Or.inl (Or.inr (Or.inr (Or.inl running)))
      · exact Or.inl (Or.inr (Or.inr (Or.inr working)))
  | overflowed key isDelete => exact Or.inl held
  | unresolved task rest waiting => exact Or.inl (mark_taken waiting id held)
  | taken task rest waiting =>
      refine Or.inl (mark_taken waiting ?_ held)
      intro marks
      cases kind : task.isDelete with
      | true =>
          rw [kind] at marks
          exact marks
      | false =>
          rw [kind] at marks
          exact marks
  | dropped task rest waiting => exact Or.inl (mark_dequeued waiting held)
  | worked job action next working moved => exact jobMove_marks working moved held
  | strayed index stray object found body => exact Or.inl (mark_wrote.mp held)
  | leakGone | leakRead => exact Or.inl held

end Marks

/-! ## Writes that no mark filters -/

/-- What a step writes is recent, or is what the primary has. -/
def Harmless (world : World contentOf) : Action contentOf -> Prop
  | .userPut _ _ => world.Unfiltered (wholeSecond world.clock)
  | .pass (.putLands index _) => forall pass batch flight, world.poller = some pass ->
      pass.stage = .copying batch -> batch.flights[index]? = some flight ->
        world.LandsWell flight.entry.key (some flight.body)
  | .job (.putLands _) => forall task body, world.worker = some (.putting task body) ->
      world.LandsWell task.singleKey (some body)
  | .job .deleteLands => forall task, world.worker = some (.deleting task) ->
      world.LandsWell task.singleKey none
  | .strayLands index _ => forall stray, world.strays[index]? = some stray ->
      world.LandsWell stray.key stray.body
  | _ => True

/-- A harmless step keeps every mark safe. -/
theorem step_clean {world next : World contentOf} {action : Action contentOf} {mark : Int}
    (harmless : Harmless world action) (taken : step world action = some next)
    (marked : world.Mark mark) (clean : Clean world.primary world.replica mark) :
    Clean next.primary next.replica mark := by
  have lands : forall key (written : Option (Object contentOf)),
      world.LandsWell key (written.map fun held => held.body) ->
        Clean world.primary (world.replica.set key written) mark := by
    intro key written well
    apply clean.setReplica
    intro object found
    exact (well object found).imp_right fun unfiltered => unfiltered mark marked
  cases step_moves taken with
  | userPut key version =>
      apply clean.setPrimary
      intro object same
      cases Option.some.inj same
      exact harmless mark marked
  | userDeleted key =>
      apply clean.setPrimary
      intro object none
      cases none
  | passed pass action next running moved =>
      cases moved with
      | landed batch index flight object stage flying body =>
          apply lands flight.entry.key (some object)
          rw [Option.map_some, body]
          exact harmless pass batch flight running stage flying
      | resolved | failed | listed | scanned | filled | turned | ended | opened | refused | broke
      | abandoned | finished | reported | stored => exact clean
  | worked job action next working moved =>
      cases moved with
      | landed task body object same =>
          apply lands task.singleKey (some object)
          rw [Option.map_some, same]
          exact harmless task body working
      | deleted task => exact lands task.singleKey none (harmless task working)
      | opened | refused | putFailed | deleteFailed | finished | reported | stored => exact clean
  | strayed index stray object found body =>
      apply lands stray.key object
      rw [body]
      exact harmless stray found
  | waited | loaded | queued | overflowed | unresolved | taken | dropped | leakGone | leakRead =>
      exact clean

/-! ## What the pass still has to do -/

/-- The entries of the batch that are copied or still to come. -/
def Batch.accounted (batch : Batch) : Nat :=
  batch.replicated + batch.todo.length + batch.flights.length

/-- The entries that the batch started with. -/
def Batch.size (batch : Batch) : Nat := (batch.dr.entries.take maxBatchPerTick).length

/-- A copy failed, or an entry was given up: the batch cannot end as a drained one. -/
def Batch.Troubled (batch : Batch) : Prop := batch.failed = true ∨ batch.accounted < batch.size

/-- The scan is below a full batch, and the batch accounts for no entry twice. -/
def Stage.Below : Stage contentOf -> Prop
  | .listing _ dr => dr.entries.length < maxBatchPerTick
  | .scanning _ _ _ dr => dr.entries.length < maxBatchPerTick
  | .copying batch => batch.accounted ≤ batch.size
  | _ => True

section Batch

variable {batch : Batch} {index : Nat}

theorem DiffResult.batch_accounted (dr : DiffResult) :
    (DiffResult.batch dr).accounted = (DiffResult.batch dr).size := by
  simp [Batch.accounted, Batch.size, DiffResult.batch]

theorem Batch.accounted_opened {entry : DiffEntry} (flight : Flight)
    (waiting : batch.todo[index]? = some entry) :
    Batch.accounted { batch with
      todo := batch.todo.eraseIdx index, flights := flight :: batch.flights } =
        batch.accounted := by
  rcases List.getElem?_eq_some_iff.mp waiting with ⟨below, _⟩
  simp only [Batch.accounted, List.length_eraseIdx_of_lt below, List.length_cons]
  omega

theorem Batch.accounted_landed {flight : Flight} (flying : batch.flights[index]? = some flight) :
    Batch.accounted { batch with
      flights := batch.flights.eraseIdx index, replicated := batch.replicated + 1 } =
        batch.accounted := by
  rcases List.getElem?_eq_some_iff.mp flying with ⟨below, _⟩
  simp only [Batch.accounted, List.length_eraseIdx_of_lt below]
  omega

/-- Whatever a batch gives up, it accounts for less. -/
theorem Batch.accounted_le (batch : Batch) (todo : List DiffEntry) (flights : List Flight)
    (failed : Bool) (fewerTodo : todo.length ≤ batch.todo.length)
    (fewerFlights : flights.length ≤ batch.flights.length) :
    Batch.accounted { batch with todo := todo, flights := flights, failed := failed } ≤
      batch.accounted := by
  simp only [Batch.accounted]
  omega

/-- A batch without failures that drained has accounted for every entry. -/
theorem Batch.not_troubled_of_drained (ok : batch.failed = false)
    (drained : fullyDrained batch.pendingObjects batch.dr = true) : ¬ batch.Troubled := by
  have nothingLeft := (fullyDrained_iff.mp drained).1
  rintro (failed | lost)
  · rw [ok] at failed
    cases failed
  · unfold Batch.accounted Batch.size at lost
    unfold Batch.pendingObjects at nothingLeft
    omega

/-- A batch that is abandoned without a trace had nothing left to do. -/
theorem Batch.nothing_abandoned (below : batch.accounted ≤ batch.size) {noticed : Bool}
    (untroubled : ¬ Batch.Troubled { batch with
      todo := [], flights := [], failed := batch.failed || noticed }) :
    batch.todo = [] ∧ batch.flights = [] ∧ ¬ batch.Troubled := by
  rcases not_or.mp untroubled with ⟨ok, whole⟩
  have ok : (batch.failed || noticed) ≠ true := ok
  have whole : ¬ batch.replicated + 0 + 0 < batch.size := whole
  unfold Batch.accounted at below
  refine ⟨List.length_eq_zero_iff.mp (by omega), List.length_eq_zero_iff.mp (by omega), ?_⟩
  rintro (failed | lost)
  · exact ok (by simp [failed])
  · unfold Batch.accounted at lost
    omega

end Batch

/-- What a pass knows of a key that nobody else wrote, from the objects that the two
sides have there. -/
def Stage.Knows (key : String) (onPrimary onReplica : Option (Object contentOf)) :
    Stage contentOf -> Prop
  | .listing cursor dr =>
      key ∈ dr.keys ∨ SortedStore.Behind cursor key ∨ Same onPrimary onReplica
  | .scanning rest cursor more dr =>
      (forall object, (key, object) ∈ rest -> onPrimary = some object) ∧
      (key ∈ dr.keys ∨ (more = true ∧ SortedStore.Behind cursor key) ∨
        (Exists fun object => (key, object) ∈ rest) ∨ Same onPrimary onReplica)
  | .copying batch =>
      (forall flight, flight ∈ batch.flights -> flight.entry.key = key ->
        forall object, onPrimary = some object -> flight.body = object.body) ∧
      (batch.dr.truncated = true ∨ batch.Troubled ∨ key ∈ batch.todo.map DiffEntry.key ∨
        (Exists fun flight => flight ∈ batch.flights ∧ flight.entry.key = key) ∨
        Same onPrimary onReplica)
  | _ => True

/-- The invariant of the pass in progress. -/
def World.PassInv (world : World contentOf) : Prop :=
  forall pass, world.poller = some pass -> pass.stage.Below ∧
    forall key, key ∉ pass.written ->
      pass.stage.Knows key (world.primary.get? key) (world.replica.get? key)

/-- A batch that drained leaves nothing out. -/
theorem Stage.Knows.same {key : String} {onPrimary onReplica : Option (Object contentOf)}
    {batch : Batch} (knows : Stage.Knows key onPrimary onReplica (.copying batch))
    (todo : batch.todo = []) (flights : batch.flights = []) (ok : batch.failed = false)
    (drained : fullyDrained batch.pendingObjects batch.dr = true) : Same onPrimary onReplica := by
  rcases knows.2 with cut | troubled | waiting | ⟨flight, flying, _⟩ | same
  · rw [(fullyDrained_iff.mp drained).2] at cut
    cases cut
  · exact absurd troubled (Batch.not_troubled_of_drained ok drained)
  · rw [todo] at waiting
    cases waiting
  · rw [flights] at flying
    cases flying
  · exact same

/-- Removing one element leaves the others. -/
theorem mem_eraseIdx_of_ne {α : Type} {items : List α} {index : Nat} {item other : α}
    (at_index : items[index]? = some item) (member : other ∈ items) :
    other = item ∨ other ∈ items.eraseIdx index := by
  rcases List.mem_iff_getElem?.mp member with ⟨place, found⟩
  by_cases same : place = index
  · subst same
    exact Or.inl (Option.some.inj (found.symm.trans at_index))
  · exact Or.inr (List.mem_eraseIdx_iff_getElem?.mpr ⟨place, same, found⟩)

/-- The batch of a complete scan knows every queued key. -/
theorem Stage.knows_batch {key : String} {onPrimary onReplica : Option (Object contentOf)}
    {dr : DiffResult} (known : dr.truncated = true ∨
      (dr.entries.length < maxBatchPerTick ∧ (key ∈ dr.keys ∨ Same onPrimary onReplica))) :
    Stage.Knows key onPrimary onReplica (.copying (DiffResult.batch dr)) := by
  refine ⟨fun flight flying => absurd flying List.not_mem_nil, ?_⟩
  rcases known with cut | ⟨below, queued | same⟩
  · exact Or.inl cut
  · refine Or.inr (Or.inr (Or.inl ?_))
    simp only [DiffResult.batch, List.take_of_length_le (Nat.le_of_lt below)]
    exact queued
  · exact Or.inr (Or.inr (Or.inr (Or.inr same)))

section Pass

variable {world next : World contentOf} {pass : Pass contentOf}

/-- The invariant of the pass after a step of its own, from what it knows of each key
at its new stage. -/
theorem World.PassInv.setStage {before : World contentOf} {stage : Stage contentOf}
    (below : stage.Below)
    (knows : forall key, key ∉ pass.written ->
      stage.Knows key (before.primary.get? key) (before.replica.get? key)) :
    (before.setStage pass stage).PassInv := by
  intro other running
  cases Option.some.inj running
  exact ⟨below, knows⟩

/-- One scanned object: what the pass knows of it and of the keys still ahead. -/
theorem Stage.Knows.scan {key : String} {listed : String × Object contentOf}
    {rest : List (String × Object contentOf)} {cursor : Option String} {more : Bool}
    {dr after : DiffResult} {answered : Bool} {snap : ReplicaTarget}
    (clean : Clean world.primary world.replica snap.lastSync)
    (result : scanObject snap.lastSync (if answered then world.replica.get? listed.1 else none)
      listed dr = .ok after)
    (knows : Stage.Knows key (world.primary.get? key) (world.replica.get? key)
      (.scanning (listed :: rest) cursor more dr)) :
    Stage.Knows key (world.primary.get? key) (world.replica.get? key)
      (.scanning rest cursor more after) := by
  rcases scanObject_ok result with ⟨decided, kept, _⟩
  refine ⟨fun object ahead => knows.1 object (List.mem_cons_of_mem _ ahead), ?_⟩
  rcases knows.2 with queued | beyond | ⟨object, ahead⟩ | same
  · exact Or.inl (kept key queued)
  · exact Or.inr (Or.inl beyond)
  · rcases List.mem_cons.mp ahead with now | later
    · subst now
      have current := knows.1 object List.mem_cons_self
      rcases decided with old | equal | queued
      · exact Or.inr (Or.inr (Or.inr (clean key object current old)))
      · cases answered with
        | false => cases equal
        | true =>
            have same := same_of_needsCopy_eq_false equal
            rw [← current] at same
            exact Or.inr (Or.inr (Or.inr same))
      · exact Or.inl queued
    · exact Or.inr (Or.inr (Or.inl ⟨object, later⟩))
  · exact Or.inr (Or.inr (Or.inr same))

/-- A page is listed: a key that was ahead is on the page or behind its end. -/
theorem Stage.Knows.list {key : String} {cursor : Option String} {dr : DiffResult} (limit : Nat)
    (knows : Stage.Knows key (world.primary.get? key) (world.replica.get? key)
      (.listing cursor dr)) :
    Stage.Knows key (world.primary.get? key) (world.replica.get? key)
      (.scanning (world.primary.page cursor limit)
        (SortedStore.nextCursor cursor (world.primary.page cursor limit))
        (decide (limit < (world.primary.after cursor).length)) dr) := by
  refine ⟨fun object onPage => (SortedStore.mem_page onPage).2, ?_⟩
  rcases knows with queued | behind | same
  · exact Or.inl queued
  · cases found : world.primary.get? key with
    | none => exact Or.inr (Or.inr (Or.inr fun object none => by cases none))
    | some object =>
        rcases world.primary.mem_page_or_behind limit behind found with onPage | ⟨beyond, far⟩
        · exact Or.inr (Or.inr (Or.inl ⟨object, onPage⟩))
        · refine Or.inr (Or.inl ⟨decide_eq_true ?_, far⟩)
          refine not_le.mp fun all => ?_
          rw [List.drop_eq_nil_of_le all] at beyond
          cases beyond
  · exact Or.inr (Or.inr (Or.inr same))

/-- A page is done and more follow: what is still ahead is behind the cursor. -/
theorem Stage.Knows.turn {key : String} {onPrimary onReplica : Option (Object contentOf)}
    {cursor : Option String} {more : Bool} {dr : DiffResult}
    (knows : Stage.Knows key onPrimary onReplica (.scanning [] cursor more dr)) :
    Stage.Knows key onPrimary onReplica (.listing cursor dr) := by
  rcases knows.2 with queued | ⟨_, behind⟩ | ⟨_, ahead⟩ | same
  · exact Or.inl queued
  · exact Or.inr (Or.inl behind)
  · cases ahead
  · exact Or.inr (Or.inr same)

/-- The last page is done: nothing is ahead any more. -/
theorem Stage.Knows.last {key : String} {onPrimary onReplica : Option (Object contentOf)}
    {cursor : Option String} {dr : DiffResult}
    (knows : Stage.Knows key onPrimary onReplica (.scanning [] cursor false dr)) :
    key ∈ dr.keys ∨ Same onPrimary onReplica := by
  rcases knows.2 with queued | ⟨ahead, _⟩ | ⟨_, ahead⟩ | same
  · exact Or.inl queued
  · cases ahead
  · cases ahead
  · exact Or.inr same

/-- A stream is opened: the entry is in flight, with what the primary has. -/
theorem Stage.Knows.openStream {key : String} {batch : Batch} {index : Nat} {entry : DiffEntry}
    {object : Object contentOf} (waiting : batch.todo[index]? = some entry)
    (found : world.primary.get? entry.key = some object)
    (knows : Stage.Knows key (world.primary.get? key) (world.replica.get? key)
      (.copying batch)) :
    Stage.Knows key (world.primary.get? key) (world.replica.get? key)
      (.copying { batch with
        todo := batch.todo.eraseIdx index
        flights := ⟨entry, object.body⟩ :: batch.flights }) := by
  rcases knows with ⟨bodies, todo⟩
  constructor
  · intro flight flying here current present
    rcases List.mem_cons.mp flying with new | old
    · subst new
      simp only at here
      rw [here] at found
      cases Option.some.inj (found.symm.trans present)
      rfl
    · exact bodies flight old here current present
  · rcases todo with cut | troubled | queued | ⟨flight, flying, here⟩ | same
    · exact Or.inl cut
    · exact Or.inr (Or.inl (troubled.imp_right
        (Batch.accounted_opened ⟨entry, object.body⟩ waiting).trans_lt))
    · rcases List.mem_map.mp queued with ⟨other, member, here⟩
      rcases mem_eraseIdx_of_ne waiting member with this | remains
      · subst this
        exact Or.inr (Or.inr (Or.inr (Or.inl ⟨_, List.mem_cons_self, here⟩)))
      · exact Or.inr (Or.inr (Or.inl (List.mem_map.mpr ⟨other, remains, here⟩)))
    · exact Or.inr (Or.inr (Or.inr (Or.inl ⟨flight, List.mem_cons_of_mem _ flying, here⟩)))
    · exact Or.inr (Or.inr (Or.inr (Or.inr same)))

/-- A flight lands: the replica has its object, and the other keys are as before. -/
theorem Stage.Knows.putLands {key : String} {batch : Batch} {index : Nat} {flight : Flight}
    {object : Object contentOf} (flying : batch.flights[index]? = some flight)
    (body : object.body = flight.body)
    (knows : Stage.Knows key (world.primary.get? key) (world.replica.get? key)
      (.copying batch)) :
    Stage.Knows key (world.primary.get? key)
      ((world.replica.put flight.entry.key object).get? key)
      (.copying { batch with
        flights := batch.flights.eraseIdx index, replicated := batch.replicated + 1 }) := by
  rcases knows with ⟨bodies, todo⟩
  refine ⟨fun other remains => bodies other (List.mem_of_mem_eraseIdx remains), ?_⟩
  by_cases here : flight.entry.key = key
  · refine Or.inr (Or.inr (Or.inr (Or.inr ?_)))
    intro current present
    refine ⟨object, ?_, ?_⟩
    · simp only [SortedStore.get?_put, here, if_true]
    · rw [body]
      exact bodies flight (List.mem_of_getElem? flying) here current present
  · rw [SortedStore.get?_put, if_neg (Ne.symm here)]
    rcases todo with cut | troubled | queued | ⟨other, aloft, there⟩ | same
    · exact Or.inl cut
    · exact Or.inr (Or.inl (troubled.imp_right (Batch.accounted_landed flying).trans_lt))
    · exact Or.inr (Or.inr (Or.inl queued))
    · rcases mem_eraseIdx_of_ne flying aloft with this | remains
      · subst this
        exact absurd there here
      · exact Or.inr (Or.inr (Or.inr (Or.inl ⟨other, remains, there⟩)))
    · exact Or.inr (Or.inr (Or.inr (Or.inr same)))

/-- A batch is abandoned: either that shows, or nothing was left to do. -/
theorem Stage.Knows.abandon {key : String} {onPrimary onReplica : Option (Object contentOf)}
    {batch : Batch} (noticed : Bool) (below : batch.accounted ≤ batch.size)
    (knows : Stage.Knows key onPrimary onReplica (.copying batch)) :
    Stage.Knows key onPrimary onReplica (.copying { batch with
      todo := [], flights := [], failed := batch.failed || noticed }) := by
  refine ⟨fun flight flying => absurd flying List.not_mem_nil, ?_⟩
  by_cases troubled : Batch.Troubled
      { batch with todo := [], flights := [], failed := batch.failed || noticed }
  · exact Or.inr (Or.inl troubled)
  · rcases Batch.nothing_abandoned below troubled with ⟨todo, flights, calm⟩
    rcases knows.2 with cut | was | queued | ⟨flight, aloft, _⟩ | same
    · exact Or.inl cut
    · exact absurd was calm
    · rw [todo] at queued
      cases queued
    · rw [flights] at aloft
      cases aloft
    · exact Or.inr (Or.inr (Or.inr (Or.inr same)))

/-- A step of the pass keeps its invariant. -/
theorem passMove_inv {action : PassAction contentOf} (running : world.poller = some pass)
    (clean : Clean world.primary world.replica pass.snap.lastSync) (inv : world.PassInv)
    (moved : PassMove world pass action next) : next.PassInv := by
  rcases inv pass running with ⟨below, knows⟩
  cases moved with
  | resolved stage =>
      apply World.PassInv.setStage (by simp [Stage.Below, maxBatchPerTick])
      intro key _
      exact Or.inr (Or.inl trivial)
  | failed => exact World.PassInv.setStage trivial fun _ _ => trivial
  | listed cursor dr limit stage =>
      rw [stage] at below knows
      apply World.PassInv.setStage
      · exact below
      · intro key unwritten
        exact (knows key unwritten).list limit
  | scanned listed rest cursor more dr after answered stage result =>
      rw [stage] at below knows
      apply World.PassInv.setStage
      · exact (scanObject_ok result).2.2 below
      · intro key unwritten
        exact (knows key unwritten).scan clean result
  | filled listed rest cursor more dr after answered stage result =>
      apply World.PassInv.setStage
      · exact (DiffResult.batch_accounted _).le
      · intro key _
        exact Stage.knows_batch (Or.inl (scanObject_error result))
  | turned cursor more dr after stage result =>
      rw [stage] at below knows
      rcases pageEnd_ok result with ⟨_, rfl⟩
      apply World.PassInv.setStage
      · exact below
      · intro key unwritten
        exact (knows key unwritten).turn
  | ended cursor more dr after stage result =>
      rw [stage] at below knows
      apply World.PassInv.setStage
      · exact (DiffResult.batch_accounted _).le
      · intro key unwritten
        apply Stage.knows_batch
        rcases pageEnd_error result with ⟨last, rfl⟩ | cut
        · subst last
          exact Or.inr ⟨below, (knows key unwritten).last⟩
        · exact Or.inl cut
  | opened batch index entry object stage waiting found =>
      rw [stage] at below knows
      have count := Batch.accounted_opened ⟨entry, object.body⟩ waiting
      apply World.PassInv.setStage
      · exact count.trans_le below
      · intro key unwritten
        exact (knows key unwritten).openStream waiting found
  | refused batch index ok stage =>
      rw [stage] at below knows
      have count := batch.accounted_le _ _ true (List.length_eraseIdx_le batch.todo index) le_rfl
      apply World.PassInv.setStage
      · exact count.trans below
      · intro key unwritten
        exact ⟨(knows key unwritten).1, Or.inr (Or.inl (Or.inl rfl))⟩
  | landed batch index flight object stage flying body =>
      rw [stage] at below knows
      have count := Batch.accounted_landed flying
      apply World.PassInv.setStage
      · exact count.trans_le below
      · intro key unwritten
        exact (knows key unwritten).putLands flying body
  | broke batch index flight stage flying =>
      rw [stage] at below knows
      have count := batch.accounted_le _ _ true le_rfl (List.length_eraseIdx_le batch.flights index)
      apply World.PassInv.setStage
      · exact count.trans below
      · intro key unwritten
        exact ⟨fun other remains => (knows key unwritten).1 other (List.mem_of_mem_eraseIdx remains),
          Or.inr (Or.inl (Or.inl rfl))⟩
  | abandoned batch noticed stage =>
      rw [stage] at below knows
      have count := batch.accounted_le [] [] (batch.failed || noticed) (Nat.zero_le _)
        (Nat.zero_le _)
      apply World.PassInv.setStage
      · exact count.trans below
      · intro key unwritten
        exact (knows key unwritten).abandon noticed below
  | finished | reported => exact World.PassInv.setStage trivial fun _ _ => trivial
  | stored upd persisted stage =>
      intro other running
      cases running

/-- A write by somebody else: the pass remembers the key and loses nothing about the
others. -/
theorem World.PassInv.wrote {before : World contentOf} {key : String} (inv : world.PassInv)
    (poller : before.poller = world.poller)
    (others : forall other, other ≠ key ->
      before.primary.get? other = world.primary.get? other ∧
      before.replica.get? other = world.replica.get? other) : (before.wrote key).PassInv := by
  intro pass running
  rcases Option.map_eq_some_iff.mp running with ⟨old, held, rfl⟩
  rcases inv old (poller ▸ held) with ⟨below, knows⟩
  refine ⟨below, ?_⟩
  intro other unwritten
  have different : other ≠ key := fun same => unwritten (same ▸ List.mem_cons_self)
  have before_same := others other different
  change old.stage.Knows other (before.primary.get? other) (before.replica.get? other)
  rw [before_same.1, before_same.2]
  exact knows other fun listed => unwritten (List.mem_cons_of_mem _ listed)

theorem World.PassInv.setPrimary (inv : world.PassInv) (key : String)
    (object : Option (Object contentOf)) : (world.setPrimary key object).PassInv := by
  refine inv.wrote rfl ?_
  intro other different
  exact ⟨by simp only [SortedStore.get?_set, if_neg different], rfl⟩

theorem World.PassInv.setReplica {before : World contentOf} (inv : world.PassInv)
    (poller : before.poller = world.poller) (primary : before.primary = world.primary)
    (replica : before.replica = world.replica) (key : String)
    (object : Option (Object contentOf)) : (before.setReplica key object).PassInv := by
  refine inv.wrote poller ?_
  intro other different
  exact ⟨by rw [← primary], by simp only [SortedStore.get?_set, if_neg different, replica]⟩

/-- Every step keeps the invariant of the pass. -/
theorem step_passInv {action : Action contentOf}
    (clean : forall mark, world.Mark mark -> Clean world.primary world.replica mark)
    (inv : world.PassInv) (taken : step world action = some next) : next.PassInv := by
  cases step_moves taken with
  | userPut key version => exact inv.setPrimary key _
  | userDeleted key => exact inv.setPrimary key none
  | loaded idle =>
      intro pass running
      cases Option.some.inj running
      exact ⟨trivial, fun _ _ => trivial⟩
  | passed pass action next running moved =>
      exact passMove_inv running (clean _ (World.Mark.ofPass running (Or.inl rfl))) inv moved
  | worked job action next working moved =>
      cases moved with
      | landed task body object same => exact inv.setReplica rfl rfl rfl task.singleKey _
      | deleted task => exact inv.setReplica rfl rfl rfl task.singleKey none
      | opened | refused | putFailed | deleteFailed | finished | reported | stored => exact inv
  | strayed index stray object found body => exact inv.setReplica rfl rfl rfl stray.key object
  | waited | queued | overflowed | unresolved | taken | dropped | leakGone | leakRead => exact inv

end Pass

/-! ## Advancing the watermark -/

/-- At a step that makes the clock a mark, what the clock filters is on the replica:
for a pass, among the objects that somebody else wrote since its snapshot; for an
event, among all objects. -/
def Drained (world : World contentOf) : Action contentOf -> Prop
  | .pass .finishPass => Advances world (.pass .finishPass) ->
      forall pass key object, world.poller = some pass -> key ∈ pass.written ->
        world.primary.get? key = some object -> filtered world.clock object.mtime = true ->
          Same (world.primary.get? key) (world.replica.get? key)
  | .job (.finishTask loaded) => Advances world (.job (.finishTask loaded)) ->
      Clean world.primary world.replica world.clock
  | _ => True

/-- The invariant: all marks are safe, and the pass knows what is left to do. -/
structure SafeInv (world : World contentOf) : Prop where
  clean : forall mark, world.Mark mark -> Clean world.primary world.replica mark
  pass : world.PassInv

/-- When a step makes the clock a mark, the clock is a safe watermark. -/
theorem SafeInv.advance {world : World contentOf} {action : Action contentOf}
    (inv : SafeInv world) (drained : Drained world action) (advances : Advances world action) :
    Clean world.primary world.replica world.clock := by
  cases action with
  | pass action =>
      cases action with
      | finishPass =>
          have all := drained advances
          rcases advances with ⟨pass, batch, running, stage, todo, flights, ok, finished⟩
          rcases inv.pass pass running with ⟨_, knows⟩
          intro key object found old
          by_cases written : key ∈ pass.written
          · exact all pass key object running written found old
          · have known := knows key written
            rw [stage] at known
            exact known.same todo flights ok finished
      | resolve | listPage | headObject | endPage | openStream | putLands | putFails
      | abandonBatch | loadLag | storeRecord => cases advances
  | job action =>
      cases action with
      | finishTask => exact drained advances
      | openStream | putLands | deleteLands | callFails | loadLag | storeRecord => cases advances
  | tick | userPut | userDelete | loadRecord | notify | takeTask | dropTask | strayLands
  | leakedReads => cases advances

/-- A step leaves the contents alone when it makes the clock a mark. -/
theorem advances_contents {world next : World contentOf} {action : Action contentOf}
    (advances : Advances world action) (taken : step world action = some next) :
    next.primary = world.primary ∧ next.replica = world.replica := by
  cases step_moves taken with
  | passed pass action next running moved =>
      cases moved with
      | failed | finished => exact ⟨rfl, rfl⟩
      | resolved | listed | scanned | filled | turned | ended | opened | refused | landed | broke
      | abandoned | reported | stored => cases advances
  | worked job action next working moved =>
      cases moved with
      | finished => exact ⟨rfl, rfl⟩
      | opened | refused | landed | deleted | putFailed | deleteFailed | reported | stored =>
          cases advances
  | waited | userPut | userDeleted | loaded | queued | overflowed | unresolved | taken | dropped
  | strayed | leakGone | leakRead => cases advances

/-- A harmless and drained step keeps the invariant. -/
theorem SafeInv.step {world next : World contentOf} {action : Action contentOf}
    (inv : SafeInv world) (harmless : Harmless world action) (drained : Drained world action)
    (taken : step world action = some next) : SafeInv next where
  clean := by
    intro mark held
    rcases step_marks taken held with marked | ⟨rfl, advances⟩
    · exact step_clean harmless taken marked (inv.clean mark marked)
    · rcases advances_contents advances taken with ⟨primary, replica⟩
      rw [primary, replica]
      exact inv.advance drained advances
  pass := step_passInv inv.clean inv.pass taken

end Replication
end Federation
end Basement
