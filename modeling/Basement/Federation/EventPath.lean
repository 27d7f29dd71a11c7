import Basement.Federation.PollingPass

namespace Basement
namespace Federation
namespace Replication

open Library

/-!
# The event path beside the polling passes

Webhook events queue tasks, each with the row as it was at the event, and the worker
copies or deletes one object at a time while passes, users and abandoned calls go on.
A put task that succeeds writes the wall clock into the row, as a drained pass does:
it says of the whole bucket what it knows of one object.

The backlog is what the replica does not have.  It stays ahead of the watermark in
every run in which an event put is recorded only when nothing of the backlog is behind
the clock, and in which no write puts an object behind a watermark.
-/

variable {contentOf : String -> Body}

/-- No pass is running, and no event is queued or being handled. -/
structure World.AtRest (world : World contentOf) : Prop where
  poller : world.poller = none
  queue : world.queue = []
  worker : world.worker = none

/-- A step that leaves the backlog ahead of the watermark: its write is recent or in
sync, and when it makes the clock a watermark, the clock filters nothing of the backlog. -/
def KeepsBacklog (world : World contentOf) (action : Action contentOf) : Prop :=
  Harmless world action ∧ Drained world action

theorem World.AtRest.safeInv {world : World contentOf} (rest : world.AtRest)
    (clean : Clean world.primary world.replica world.record.lastSync) : SafeInv world where
  clean := by
    rintro mark (stored | ⟨task, queued, _⟩ | ⟨pass, running, _⟩ | ⟨job, working, _⟩)
    · rw [stored]
      exact clean
    · rw [rest.queue] at queued
      cases queued
    · rw [rest.poller] at running
      cases running
    · rw [rest.worker] at working
      cases working
  pass := by
    intro pass running
    rw [rest.poller] at running
    cases running

/-- A photo is uploaded, and its event is handled within five seconds. -/
def uploadEvent : List (Action tagBody) :=
  [.userPut "cat" (sampleVersion "e1"), .notify "cat" false, .takeTask true,
    .job (.openStream true), .job (.putLands ⟨sampleVersion "e1", 101 * second⟩),
    .tick 5000000000, .job (.finishTask true), .job (.storeRecord true)]

/-- A hundred seconds into the clock, with nothing on either side. -/
def emptyAtRest : World tagBody := { samplePass with poller := none }

/-- An album from the tenth second that the replica does not have yet. -/
def albumBacklog : World tagBody :=
  { emptyAtRest with
    primary := SortedStore.empty.put "album" ⟨sampleVersion "e0", 10 * second⟩ }

end Replication
end Federation
end Basement
