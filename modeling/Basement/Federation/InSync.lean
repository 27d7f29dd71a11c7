import Basement.Federation.PollingPass

namespace Basement
namespace Federation
namespace InSync

open Library Transition
open Replication (World Batch Pass Stage PassMove JobMove Move)

/-!
# What the health `in-sync` says

Four recorders write the health of a replica: the end of a pass that succeeded, the end of
a pass or a task that failed, the success of an event's put and that of an event's delete.
Only the first has looked at the whole primary.  The put's recorder is handed a scan of one
object, and the delete's judges by the stored lag alone.

Here a run of the engine on one replica is watched from outside.  The watcher keeps the
verdict on the scan of the pass in progress, and the verdict on the last pass that came to
an end.  A pass that did not get to its scan leaves the last verdict as it was.
-/

variable {contentOf : String -> Body}

/-! ## The displayed health -/

/-- `computeHealth`, which the handlers display and nobody stores. -/
def computeHealth (lastSync now lagAlertSec : Int) (failureCount : Nat) : Health :=
  if brokenFailureThreshold ≤ failureCount then .broken
  else if lastSync = 0 then .pending
  else if lagAlertSec ≤ 0 then .inSync
  else if 10 * (lagAlertSec * second) < now - lastSync then .stale
  else if lagAlertSec * second < now - lastSync then .lagging
  else .inSync

/-- What is displayed as in sync has a watermark, fresh enough for the alert. -/
theorem computeHealth_inSync_iff {lastSync now lagAlertSec : Int} {failureCount : Nat} :
    computeHealth lastSync now lagAlertSec failureCount = .inSync ↔
      failureCount < brokenFailureThreshold ∧ lastSync ≠ 0 ∧
        (lagAlertSec ≤ 0 ∨ now - lastSync ≤ lagAlertSec * second) := by
  unfold computeHealth
  constructor
  · intro shown
    split at shown
    · cases shown
    · rename_i sound
      split at shown
      · cases shown
      · rename_i synced
        refine ⟨not_le.mp sound, synced, ?_⟩
        split at shown
        · exact Or.inl ‹_›
        · split at shown
          · cases shown
          · split at shown
            · cases shown
            · exact Or.inr (not_lt.mp ‹_›)
  · rintro ⟨sound, synced, fresh⟩
    rw [if_neg (not_le.mpr sound), if_neg synced]
    split
    · rfl
    · rename_i alert
      have near : now - lastSync ≤ lagAlertSec * second := fresh.resolve_left alert
      have far : now - lastSync ≤ 10 * (lagAlertSec * second) := by
        unfold second at near ⊢
        omega
      rw [if_neg (not_lt.mpr far), if_neg (not_lt.mpr near)]

/-! ## The watched engine -/

/-- What came out of the scan of a pass: whether it stopped early, whether it or one of its
copies failed, and how many of the objects it found are still to be copied. -/
structure Verdict where
  truncated : Bool
  failed : Bool
  pending : Int
  deriving DecidableEq, Repr

/-- Nothing that the scan counted is still pending. -/
def Verdict.clean (verdict : Verdict) : Bool :=
  !verdict.truncated && !verdict.failed && decide (verdict.pending ≤ 0)

structure Watched (contentOf : String -> Body) where
  world : World contentOf
  scan : Option Verdict
  last : Option Verdict

/-- A step of the engine, or a handler that displays the health. -/
inductive Action (contentOf : String -> Body) where
  | engine (action : Replication.Action contentOf)
  | computeHealth (now lagAlertSec : Int) (failureCount : Nat)

def Watched.verdict (watched : Watched contentOf) : Option Verdict :=
  match watched.world.poller with
  | some ⟨_, .copying batch, _⟩ =>
      some ⟨batch.dr.truncated, batch.failed, batch.pendingObjects⟩
  | _ => none

/-- The verdict on the pass in progress after a step. -/
def Watched.scanAfter (watched : Watched contentOf) :
    Replication.Action contentOf -> Option Verdict
  | .loadRecord => none
  | .pass (.listPage none) => some ⟨false, true, 0⟩
  | .pass .finishPass => watched.verdict
  | _ => watched.scan

/-- The verdict on the last pass that has ended, after a step. -/
def Watched.lastAfter (watched : Watched contentOf) :
    Replication.Action contentOf -> Option Verdict
  | .pass (.storeRecord _) => watched.scan.or watched.last
  | _ => watched.last

def step (watched : Watched contentOf) : Action contentOf -> Option (Watched contentOf)
  | .engine action =>
      (Replication.step watched.world action).map fun world =>
        ⟨world, watched.scanAfter action, watched.lastAfter action⟩
  | .computeHealth _ _ _ => some watched

/-- A replica that has just been added, and a clock that is past Go's zero time. -/
structure Watched.Fresh (watched : Watched contentOf) : Prop where
  clock : 0 < watched.world.clock
  health : watched.world.record.health = .unset
  poller : watched.world.poller = none
  worker : watched.world.worker = none
  last : watched.last = none

/-! ## The property, and when it holds -/

/-- The last scan, if there was one, left nothing pending. -/
def Settled (last : Option Verdict) : Prop :=
  forall verdict, last = some verdict -> verdict.clean = true

instance : forall last, Decidable (Settled last)
  | none => .isTrue nofun
  | some verdict => decidable_of_iff (verdict.clean = true)
      ⟨fun clean _ same => Option.some.inj same ▸ clean, fun settled => settled verdict rfl⟩

/-- In-sync means in sync. -/
def Genuine (watched : Watched contentOf) : Prop :=
  watched.world.record.health = .inSync ->
    watched.world.record.lastSync ≠ 0 ∧ Settled watched.last

/-- The row that an event task is about to store. -/
def Watched.taskRow (watched : Watched contentOf) : Option ReplicaTarget :=
  match watched.world.worker with
  | some (.recording upd) => some upd
  | _ => none

/-- A row that says `in-sync` has a watermark, and the last scan left nothing pending. -/
def Backed (last : Option Verdict) : Option ReplicaTarget -> Prop
  | none => True
  | some upd => upd.health = .inSync -> upd.lastSync ≠ 0 ∧ Settled last

/-- The step stores the row of an event task. -/
def storesTask : Action contentOf -> Bool
  | .engine (.job (.storeRecord persisted)) => persisted
  | _ => false

/-- The step loses the row of a pass. -/
def losesPass : Action contentOf -> Bool
  | .engine (.pass (.storeRecord persisted)) => !persisted
  | _ => false

/-- The steps that the recorders are right about.  An event task stores `in-sync` only with a
watermark, and while the last scan left nothing pending; and the row of a pass whose scan
left something pending is not lost while `in-sync` is stored. -/
def Sound (watched : Watched contentOf) (action : Action contentOf) : Prop :=
  (storesTask action = true -> Backed watched.last watched.taskRow) ∧
    (losesPass action = true -> watched.world.record.health = .inSync -> Settled watched.scan)

instance (last : Option Verdict) : forall row, Decidable (Backed last row)
  | none => .isTrue trivial
  | some _ => inferInstanceAs (Decidable (_ -> _))

instance (watched : Watched contentOf) (action : Action contentOf) :
    Decidable (Sound watched action) :=
  inferInstanceAs (Decidable (_ ∧ _))

/-! ## What a step does to the row -/

/-- Only the last store call of a pass or of a task changes the row. -/
theorem record_same {world next : World contentOf} {action : Replication.Action contentOf}
    (taken : Replication.step world action = some next)
    (pass : forall persisted, action ≠ .pass (.storeRecord persisted))
    (job : forall persisted, action ≠ .job (.storeRecord persisted)) :
    next.record = world.record := by
  cases Replication.step_moves taken with
  | passed _ action _ _ moved =>
      cases moved with
      | stored upd persisted _ => exact absurd rfl (pass persisted)
      | _ => rfl
  | worked _ action _ _ moved =>
      cases moved with
      | stored upd persisted => exact absurd rfl (job persisted)
      | _ => rfl
  | _ => rfl

theorem storeRecord_pass {world next : World contentOf} {persisted : Bool}
    (taken : Replication.step world (.pass (.storeRecord persisted)) = some next) :
    Exists fun pass => Exists fun upd => world.poller = some pass ∧ pass.stage = .recording upd ∧
      next = { world with
        poller := none
        record := if persisted then world.record.withHealth upd else world.record } := by
  rcases Option.bind_eq_some_iff.mp taken with ⟨pass, running, stored⟩
  simp only [Replication.passStep] at stored
  split at stored
  · rename_i upd stage
    exact ⟨pass, upd, running, stage, (Option.some.inj stored).symm⟩
  · cases stored

theorem storeRecord_job {world next : World contentOf} {persisted : Bool}
    (taken : Replication.step world (.job (.storeRecord persisted)) = some next) :
    Exists fun upd => world.worker = some (.recording upd) ∧
      next = { world with
        worker := none
        record := if persisted then world.record.withHealth upd else world.record } := by
  rcases Option.bind_eq_some_iff.mp taken with ⟨job, working, stored⟩
  simp only [Replication.jobStep] at stored
  split at stored
  · rename_i upd
    exact ⟨upd, working, (Option.some.inj stored).symm⟩
  · cases stored

/-! ## The row a pass is about to store -/

theorem recordFailure_health (failures : Nat) (stored : Option ReplicaTarget)
    (replica : ReplicaTarget) : (recordFailure failures stored replica).health ≠ .inSync := by
  unfold recordFailure
  split <;> nofun

/-- A pass that is about to store `in-sync` has a watermark and has left nothing pending. -/
def PassBacked (scan : Option Verdict) (pass : Pass contentOf) : Prop :=
  forall upd, pass.stage = .recording upd -> upd.health = .inSync ->
    upd.lastSync ≠ 0 ∧ Exists fun verdict => scan = some verdict ∧ verdict.clean = true

/-- The clock is past zero, and the pass in progress is backed by its scan. -/
structure Inv (watched : Watched contentOf) : Prop where
  clock : 0 < watched.world.clock
  pass : forall pass, watched.world.poller = some pass -> PassBacked watched.scan pass

/-- The recorder of a pass says `in-sync` exactly if its scan left nothing pending. -/
theorem recordSuccess_backed {now : Int} {batch : Batch} {snap : ReplicaTarget}
    (clock : 0 < now) (ok : batch.failed = false)
    (inSync : (recordSuccess now snap batch.pendingObjects batch.pendingBytes batch.dr).health =
      .inSync) :
    (recordSuccess now snap batch.pendingObjects batch.pendingBytes batch.dr).lastSync ≠ 0 ∧
      Verdict.clean ⟨batch.dr.truncated, batch.failed, batch.pendingObjects⟩ = true := by
  cases drained : fullyDrained batch.pendingObjects batch.dr with
  | false => simp [recordSuccess, drained] at inSync
  | true =>
      rcases fullyDrained_iff.mp drained with ⟨pending, whole⟩
      refine ⟨?_, ?_⟩
      · simp only [recordSuccess, drained, if_true]
        omega
      · simp [Verdict.clean, whole, ok, pending]

theorem PassBacked.of_stage {scan : Option Verdict} {before after : Pass contentOf}
    (backed : PassBacked scan before) (same : after.stage = before.stage) :
    PassBacked scan after := by
  intro upd stage
  exact backed upd (same.symm.trans stage)

/-- A pass that is not about to store a row. -/
theorem passBacked_of_ne {scan : Option Verdict} {pass : Pass contentOf}
    (other : forall upd, pass.stage ≠ .recording upd) : PassBacked scan pass :=
  fun upd stage => absurd stage (other upd)

/-- A write to a bucket marks the pass in progress and leaves its stage. -/
theorem wrote_backed {world : World contentOf} {scan : Option Verdict}
    (backed : forall pass, world.poller = some pass -> PassBacked scan pass) (key : String) :
    forall pass, (world.wrote key).poller = some pass -> PassBacked scan pass := by
  intro pass running
  rcases Option.map_eq_some_iff.mp running with ⟨before, was, rfl⟩
  exact (backed before was).of_stage rfl

/-- The scan of a pass backs the row it goes on to store. -/
theorem passMove_backed {watched : Watched contentOf} {next : World contentOf}
    {pass : Pass contentOf} {action : Replication.PassAction contentOf}
    (clock : 0 < watched.world.clock) (running : watched.world.poller = some pass)
    (moved : PassMove watched.world pass action next) :
    forall after, next.poller = some after ->
      PassBacked (watched.scanAfter (.pass action)) after := by
  intro after polling
  cases moved with
  | finished batch stage todo flights ok =>
      cases Option.some.inj polling
      intro upd same inSync
      cases same
      rcases recordSuccess_backed clock ok inSync with ⟨lastSync, clean⟩
      refine ⟨lastSync, _, ?_, clean⟩
      rcases pass with ⟨snap, stage', written⟩
      cases stage
      simp only [Watched.scanAfter, Watched.verdict, running]
  | reported failures loaded stage =>
      cases Option.some.inj polling
      intro upd same inSync
      cases same
      exact absurd inSync (recordFailure_health _ _ _)
  | stored upd persisted stage => cases polling
  | _ =>
      cases Option.some.inj polling
      exact passBacked_of_ne nofun

theorem jobMove_backed {world next : World contentOf} {scan : Option Verdict}
    {job : Replication.Job} {action : Replication.JobAction contentOf}
    (backed : forall pass, world.poller = some pass -> PassBacked scan pass)
    (moved : JobMove world job action next) :
    forall pass, next.poller = some pass -> PassBacked scan pass := by
  cases moved with
  | landed _ _ _ _ => exact wrote_backed backed _
  | deleted _ => exact wrote_backed backed _
  | _ => exact backed

variable {watched next : Watched contentOf} {action : Action contentOf}

theorem Inv.step (invariant : Inv watched) (taken : step watched action = some next) :
    Inv next := by
  cases action with
  | computeHealth _ _ _ =>
      cases Option.some.inj taken
      exact invariant
  | engine action =>
      rcases Option.map_eq_some_iff.mp taken with ⟨world, stepped, rfl⟩
      cases Replication.step_moves stepped with
      | waited elapsed =>
          refine ⟨?_, invariant.pass⟩
          have before := invariant.clock
          change 0 < watched.world.clock + elapsed
          omega
      | userPut key version => exact ⟨invariant.clock, wrote_backed invariant.pass key⟩
      | userDeleted key => exact ⟨invariant.clock, wrote_backed invariant.pass key⟩
      | loaded idle =>
          refine ⟨invariant.clock, ?_⟩
          intro pass running
          cases Option.some.inj running
          exact passBacked_of_ne nofun
      | passed pass action world running moved =>
          refine ⟨?_, passMove_backed invariant.clock running moved⟩
          have same : world.clock = watched.world.clock := by cases moved <;> rfl
          change 0 < world.clock
          rw [same]
          exact invariant.clock
      | worked job action world working moved =>
          refine ⟨?_, jobMove_backed invariant.pass moved⟩
          have same : world.clock = watched.world.clock := by cases moved <;> rfl
          change 0 < world.clock
          rw [same]
          exact invariant.clock
      | strayed _ _ _ _ _ => exact ⟨invariant.clock, wrote_backed invariant.pass _⟩
      | _ => exact ⟨invariant.clock, invariant.pass⟩

/-! ## The theorem -/

theorem settled_or {scan last : Option Verdict} (settled : Settled last) :
    Settled (scan.or last) ↔ Settled scan := by
  cases scan with
  | none => exact ⟨fun _ => nofun, fun _ => settled⟩
  | some verdict => exact Iff.rfl

/-- A step keeps in-sync genuine exactly if it is sound. -/
theorem genuine_step_iff (invariant : Inv watched) (genuine : Genuine watched)
    (taken : step watched action = some next) : Genuine next ↔ Sound watched action := by
  cases action with
  | computeHealth _ _ _ =>
      cases Option.some.inj taken
      exact ⟨fun _ => ⟨nofun, nofun⟩, fun _ => genuine⟩
  | engine action =>
      rcases Option.map_eq_some_iff.mp taken with ⟨world, stepped, rfl⟩
      by_cases pass : Exists fun persisted => action = .pass (.storeRecord persisted)
      · rcases pass with ⟨persisted, rfl⟩
        rcases storeRecord_pass stepped with ⟨pass, upd, running, stage, rfl⟩
        cases persisted with
        | true =>
            refine ⟨fun _ => ⟨nofun, nofun⟩, fun _ inSync => ?_⟩
            rcases invariant.pass pass running upd stage inSync with ⟨lastSync, verdict, scan, clean⟩
            refine ⟨lastSync, ?_⟩
            intro other same
            change watched.scan.or watched.last = some other at same
            rw [scan] at same
            cases Option.some.inj same
            exact clean
        | false =>
            constructor
            · intro after
              refine ⟨nofun, fun _ inSync => ?_⟩
              exact (settled_or (genuine inSync).2).mp (after inSync).2
            · intro sound inSync
              exact ⟨(genuine inSync).1, (settled_or (genuine inSync).2).mpr (sound.2 rfl inSync)⟩
      · by_cases job : Exists fun persisted => action = .job (.storeRecord persisted)
        · rcases job with ⟨persisted, rfl⟩
          rcases storeRecord_job stepped with ⟨upd, working, rfl⟩
          cases persisted with
          | true =>
              have row : watched.taskRow = some upd := by simp only [Watched.taskRow, working]
              constructor
              · intro after
                refine ⟨fun _ => ?_, nofun⟩
                rw [row]
                exact after
              · intro sound
                have backed := sound.1 rfl
                rw [row] at backed
                exact backed
          | false => exact ⟨fun _ => ⟨nofun, nofun⟩, fun _ => genuine⟩
        · have kept := record_same stepped (fun persisted same => pass ⟨persisted, same⟩)
            fun persisted same => job ⟨persisted, same⟩
          have last : watched.lastAfter action = watched.last := by
            unfold Watched.lastAfter
            split
            · exact absurd ⟨_, rfl⟩ pass
            · rfl
          have sound : Sound watched (.engine action) := by
            refine ⟨fun stores => ?_, fun loses => ?_⟩
            · unfold storesTask at stores
              split at stores
              · rename_i same
                cases same
                exact absurd ⟨_, rfl⟩ job
              · cases stores
            · unfold losesPass at loses
              split at loses
              · rename_i same
                cases same
                exact absurd ⟨_, rfl⟩ pass
              · cases loses
          refine ⟨fun _ => sound, fun _ inSync => ?_⟩
          change world.record.lastSync ≠ 0 ∧ Settled (watched.lastAfter action)
          rw [kept, last]
          exact genuine (kept ▸ inSync)

/-- A replica with nothing on either side, a hundred seconds into the clock. -/
def sampleWatched : Watched tagBody :=
  ⟨{ Replication.samplePass with poller := none }, none, none⟩

theorem sampleWatched_fresh : sampleWatched.Fresh :=
  ⟨by decide, rfl, rfl, rfl, rfl⟩

/-- The first pass finds nothing to do; then a photo is uploaded and its event handled. -/
def passThenUpload : List (Action tagBody) :=
  [.engine .loadRecord, .engine (.pass (.resolve true)), .engine (.pass (.listPage (some 1))),
    .engine (.pass .endPage), .engine (.pass .finishPass), .engine (.pass (.storeRecord true)),
    .engine (.userPut "cat" (sampleVersion "e1")), .engine (.notify "cat" false),
    .engine (.takeTask true), .engine (.job (.openStream true)),
    .engine (.job (.putLands ⟨sampleVersion "e1", 101 * second⟩)),
    .engine (.job (.finishTask true)), .engine (.job (.storeRecord true)),
    .computeHealth (105 * second) 300 0]

/-- The first thing that happens to a new replica is the event of a delete. -/
def deleteFirst : List (Action tagBody) :=
  [.engine (.notify "cat" true), .engine (.takeTask true), .engine (.job .deleteLands),
    .engine (.job (.finishTask true)), .engine (.job (.storeRecord true))]

end InSync
end Federation
end Basement
