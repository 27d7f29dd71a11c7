import Basement.Api.Backups
import Basement.Library.Transition
import Mathlib.Logic.Function.Basic

namespace Basement
namespace Api

open Library Library.Transition
open Backups (Backup BackupRequest validateBackupRequest)

/-!
# Cron entries of the backups

The handlers write the store first and tell the scheduler afterwards.  A created backup is
added with the row that was created.  An update makes the scheduler read the row again, remove
the entry and add it with what was read, each under its own lock.  A deletion removes the
entry.

Between these calls other requests about the same backup may come.  A backup's entry is
accounted for if it is what the stored row calls for, or if a request in flight is going to
make it so.
-/

namespace Schedules

/-! ## The scheduler's entries -/

/-- An entry of the cron library, and the backup that its callback fires. -/
structure CronEntry where
  entryID : Nat
  schedule : String
  backupID : String
  deriving DecidableEq, Repr

/-- The cron library's entries, its last entry ID, and the map `entries` of the scheduler. -/
structure CronTable where
  cron : List CronEntry
  lastID : Nat
  entries : SortedStore String Nat

/-- `isSchedulable`. -/
def isSchedulable (b : Backup) : Bool :=
  !b.disabled && b.schedule != "" && b.schedule != "manual"

/-- The schedules that a stored row calls for. -/
def wanted : Option Backup -> List String
  | none => []
  | some b => if isSchedulable b then [b.schedule] else []

namespace CronTable

/-- `Scheduler.Remove`. -/
def remove (table : CronTable) (id : String) : CronTable :=
  match table.entries.get? id with
  | none => table
  | some entryID =>
      { table with
        cron := table.cron.filter fun entry => entry.entryID != entryID
        entries := table.entries.erase id }

/-- `cron.AddFunc` for a schedule that parses, and its place in the map. -/
def register (table : CronTable) (id schedule : String) : CronTable where
  cron := table.cron ++ [⟨table.lastID + 1, schedule, id⟩]
  lastID := table.lastID + 1
  entries := table.entries.put id (table.lastID + 1)

/-- `Scheduler.Add`.  Its errors are logged by the handlers. -/
def add (parses : String -> Bool) (table : CronTable) (id : String) (b : Backup) : CronTable :=
  if isSchedulable b then
    if parses b.schedule then (table.remove id).register id b.schedule else table
  else table

/-- The schedules of a backup's entries. -/
def registered (table : CronTable) (id : String) : List String :=
  (table.cron.filter fun entry => entry.backupID == id).map CronEntry.schedule

/-- The entries are those of the map, and no entry ID is used twice. -/
structure Sound (table : CronTable) : Prop where
  named : forall entry, entry ∈ table.cron ->
    table.entries.get? entry.backupID = some entry.entryID
  kept : forall id entryID, table.entries.get? id = some entryID ->
    Exists fun entry => entry ∈ table.cron ∧ entry.entryID = entryID ∧ entry.backupID = id
  unique : forall first second, first ∈ table.cron -> second ∈ table.cron ->
    first.entryID = second.entryID -> first.backupID = second.backupID
  below : forall entry, entry ∈ table.cron -> entry.entryID ≤ table.lastID

def empty : CronTable := ⟨[], 0, SortedStore.empty⟩

theorem empty_sound : empty.Sound where
  named := by
    intro entry absent
    cases absent
  kept := by
    intro id entryID absent
    cases absent
  unique := by
    intro first second absent
    cases absent
  below := by
    intro entry absent
    cases absent

variable {table : CronTable}

/-- Removing a backup's entry removes all of its entries and no other's. -/
theorem remove_cron (sound : table.Sound) (id : String) :
    (table.remove id).cron = table.cron.filter fun entry => entry.backupID != id := by
  unfold remove
  cases held : table.entries.get? id with
  | none =>
      symm
      apply List.filter_eq_self.mpr
      intro entry member
      rw [bne_iff_ne]
      intro same
      have named := sound.named entry member
      rw [same, held] at named
      cases named
  | some entryID =>
      apply List.filter_congr
      intro entry member
      rw [Bool.eq_iff_iff, bne_iff_ne, bne_iff_ne]
      apply not_congr
      constructor
      · intro same
        rcases sound.kept id entryID held with ⟨other, listed, number, backup⟩
        rw [← backup]
        exact sound.unique entry other member listed (same.trans number.symm)
      · intro same
        have named := sound.named entry member
        rw [same, held] at named
        exact (Option.some.inj named).symm

theorem remove_entries (id other : String) :
    (table.remove id).entries.get? other = if other = id then none else table.entries.get? other := by
  unfold remove
  cases held : table.entries.get? id with
  | none =>
      by_cases same : other = id
      · rw [if_pos same, same, held]
      · rw [if_neg same]
  | some entryID => exact SortedStore.get?_erase table.entries id other

theorem mem_of_mem_remove (sound : table.Sound) {id : String} {entry : CronEntry}
    (member : entry ∈ (table.remove id).cron) : entry ∈ table.cron := by
  rw [remove_cron sound] at member
  exact List.mem_of_mem_filter member

/-- Adding brings no entry but that of the backup added. -/
theorem mem_of_mem_add (sound : table.Sound) {parses : String -> Bool} {id : String} {b : Backup}
    {entry : CronEntry} (member : entry ∈ (table.add parses id b).cron) :
    entry ∈ table.cron ∨ entry.backupID = id := by
  unfold add at member
  split at member
  · split at member
    · rcases List.mem_append.mp member with old | new
      · exact Or.inl (mem_of_mem_remove sound old)
      · rw [List.mem_singleton.mp new]
        exact Or.inr rfl
    · exact Or.inl member
  · exact Or.inl member

theorem remove_lastID (id : String) : (table.remove id).lastID = table.lastID := by
  unfold remove
  cases table.entries.get? id <;> rfl

theorem Sound.remove (sound : table.Sound) (id : String) : (table.remove id).Sound where
  named := by
    intro entry member
    rw [remove_cron sound, List.mem_filter, bne_iff_ne] at member
    rw [remove_entries, if_neg member.2]
    exact sound.named entry member.1
  kept := by
    intro other entryID held
    rw [remove_entries] at held
    by_cases same : other = id
    · rw [if_pos same] at held
      cases held
    · rw [if_neg same] at held
      rcases sound.kept other entryID held with ⟨entry, member, number, rfl⟩
      refine ⟨entry, ?_, number, rfl⟩
      rw [remove_cron sound, List.mem_filter, bne_iff_ne]
      exact ⟨member, same⟩
  unique := by
    intro first second here there
    rw [remove_cron sound, List.mem_filter] at here there
    exact sound.unique first second here.1 there.1
  below := by
    intro entry member
    rw [remove_cron sound, List.mem_filter] at member
    rw [remove_lastID]
    exact sound.below entry member.1

/-- A new entry for a backup that has none. -/
theorem Sound.register (sound : table.Sound) {id : String} (schedule : String)
    (free : table.entries.get? id = none) : (table.register id schedule).Sound where
  named := by
    intro entry member
    unfold CronTable.register at member ⊢
    rcases List.mem_append.mp member with old | new
    · have named := sound.named entry old
      rw [SortedStore.get?_put, if_neg ?_]
      · exact named
      · rintro same
        rw [same, free] at named
        cases named
    · rw [List.mem_singleton.mp new]
      exact SortedStore.get?_put_self _ _ _
  kept := by
    intro other entryID held
    unfold CronTable.register at held ⊢
    rw [SortedStore.get?_put] at held
    by_cases same : other = id
    · rw [if_pos same] at held
      cases held
      exact ⟨_, List.mem_append_right _ (List.mem_singleton_self _), rfl, same.symm⟩
    · rw [if_neg same] at held
      rcases sound.kept other entryID held with ⟨entry, member, both⟩
      exact ⟨entry, List.mem_append_left _ member, both⟩
  unique := by
    intro first second here there same
    have fresh : forall entry, entry ∈ table.cron -> entry.entryID ≠ table.lastID + 1 :=
      fun entry member => (Nat.lt_succ_of_le (sound.below entry member)).ne
    unfold CronTable.register at here there
    rcases List.mem_append.mp here with oldFirst | newFirst
    · rcases List.mem_append.mp there with oldSecond | newSecond
      · exact sound.unique first second oldFirst oldSecond same
      · rw [List.mem_singleton.mp newSecond] at same
        exact absurd same (fresh first oldFirst)
    · rcases List.mem_append.mp there with oldSecond | newSecond
      · rw [List.mem_singleton.mp newFirst] at same
        exact absurd same.symm (fresh second oldSecond)
      · rw [List.mem_singleton.mp newFirst, List.mem_singleton.mp newSecond]
  below := by
    intro entry member
    unfold CronTable.register at member ⊢
    rcases List.mem_append.mp member with old | new
    · exact (sound.below entry old).trans (Nat.le_succ _)
    · rw [List.mem_singleton.mp new]

theorem Sound.add (sound : table.Sound) (parses : String -> Bool) (id : String) (b : Backup) :
    (table.add parses id b).Sound := by
  unfold CronTable.add
  split
  · split
    · apply (sound.remove id).register
      rw [remove_entries, if_pos rfl]
    · exact sound
  · exact sound

/-- After `Remove` a backup has no entry, and the others have theirs. -/
theorem registered_remove (sound : table.Sound) (id other : String) :
    (table.remove id).registered other = if other = id then [] else table.registered other := by
  unfold registered
  rw [remove_cron sound, List.filter_filter]
  by_cases same : other = id
  · rw [if_pos same, same, List.map_eq_nil_iff, List.filter_eq_nil_iff]
    intro entry _
    simp
  · rw [if_neg same]
    congr 1
    apply List.filter_congr
    intro entry _
    rw [Bool.eq_iff_iff, Bool.and_eq_true, beq_iff_eq, bne_iff_ne]
    refine ⟨fun both => both.1, ?_⟩
    rintro rfl
    exact ⟨rfl, same⟩

/-- After `Add` of a schedulable backup it has the one entry. -/
theorem registered_add (sound : table.Sound) {parses : String -> Bool} (id : String) {b : Backup}
    (schedulable : isSchedulable b = true) (parsed : parses b.schedule = true) (other : String) :
    (table.add parses id b).registered other =
      if other = id then [b.schedule] else table.registered other := by
  unfold add
  rw [if_pos schedulable, if_pos parsed]
  have old := registered_remove sound id other
  unfold registered at old ⊢
  unfold register
  rw [List.filter_append, List.map_append, old]
  by_cases same : other = id
  · rw [if_pos same, if_pos same, same]
    simp
  · rw [if_neg same, if_neg same]
    have apart : (id == other) = false := beq_eq_false_iff_ne.mpr (Ne.symm same)
    simp [apart]

end CronTable

/-! ## The system -/

/-- Where a request is after its write of the store: before `Add` of a created or reread row,
before the read of `Reschedule`, before its `Remove`, or before a last `Remove`. -/
inductive Stage where
  | idle
  | adding (id : String) (b : Backup)
  | reloading (id : String)
  | removing (id : String) (b : Backup)
  | dropping (id : String)
  deriving DecidableEq, Repr

/-- The stored rows, the IDs given out so far, the scheduler, and the requests in flight. -/
structure Server where
  rows : SortedStore String Backup
  issued : List String
  table : CronTable
  requests : Nat -> Stage

/-- The calls of the store and of the scheduler.  New IDs are UUIDs. -/
inductive Action where
  | create (call : Nat) (uuid userID : String) (req : BackupRequest)
  | update (call : Nat) (userID id : String) (req : BackupRequest)
  | delete (call : Nat) (userID id : String)
  | reload (call : Nat)
  | remove (call : Nat)
  | add (call : Nat)
  deriving DecidableEq, Repr

/-- `ValidateSchedule`. -/
def validSchedule (parses : String -> Bool) (schedule : String) : Bool :=
  schedule == "" || schedule == "manual" || parses schedule

def accepts (parses : String -> Bool) (req : BackupRequest) : Bool :=
  validateBackupRequest req == none && validSchedule parses req.schedule

/-- `loadOwnedBackup`. -/
def Server.owned (server : Server) (userID id : String) : Option Backup :=
  (server.rows.get? id).filter fun b => b.ownerUserID == userID

def Server.at (server : Server) (call : Nat) (stage : Stage) : Server :=
  { server with requests := Function.update server.requests call stage }

def step (parses : String -> Bool) (server : Server) : Action -> Option Server
  | .create call uuid userID req =>
      if server.requests call = .idle ∧ uuid ∉ server.issued then
        if accepts parses req then
          some { server.at call (.adding uuid (req.backup userID)) with
            rows := server.rows.put uuid (req.backup userID)
            issued := uuid :: server.issued }
        else some server
      else none
  | .update call userID id req =>
      if server.requests call = .idle then
        match server.owned userID id with
        | none => some server
        | some b =>
            if accepts parses req then
              some { server.at call (.reloading id) with
                rows := server.rows.put id (req.backup b.ownerUserID) }
            else some server
      else none
  | .delete call userID id =>
      if server.requests call = .idle then
        match server.owned userID id with
        | none => some server
        | some _ => some { server.at call (.dropping id) with rows := server.rows.erase id }
      else none
  | .reload call =>
      match server.requests call with
      | .reloading id =>
          match server.rows.get? id with
          | none => some (server.at call (.dropping id))
          | some b => some (server.at call (.removing id b))
      | _ => none
  | .remove call =>
      match server.requests call with
      | .removing id b => some { server.at call (.adding id b) with table := server.table.remove id }
      | .dropping id => some { server.at call .idle with table := server.table.remove id }
      | _ => none
  | .add call =>
      match server.requests call with
      | .adding id b => some { server.at call .idle with table := server.table.add parses id b }
      | _ => none

/-- `LoadAll`: every stored row is added. -/
def loadAll (parses : String -> Bool) (rows : List (String × Backup)) (table : CronTable) :
    CronTable :=
  rows.foldl (fun loaded row => loaded.add parses row.1 row.2) table

/-- A server after its start. -/
def boot (parses : String -> Bool) (rows : SortedStore String Backup) : Server where
  rows := rows
  issued := rows.entries.map Prod.fst
  table := loadAll parses rows.entries CronTable.empty
  requests := fun _ => .idle

/-! ## Entries that follow the store -/

namespace Server

/-- All requests have finished. -/
def AtRest (server : Server) : Prop := forall call, server.requests call = .idle

/-- The backup's entries are those its stored row calls for. -/
def Matches (server : Server) (id : String) : Prop :=
  server.table.registered id = wanted (server.rows.get? id)

/-- Every stored row that is enabled and has a schedule has its one entry, and there is no
other entry. -/
def Follows (server : Server) : Prop := forall id, server.Matches id

/-- A request that is going to set the backup's entry as the stored row calls for. -/
def Repairs (server : Server) (id : String) : Stage -> Prop
  | .idle => False
  | .adding about b =>
      about = id ∧ isSchedulable b = true ∧ wanted (server.rows.get? id) = wanted (some b)
  | .reloading about => about = id
  | .removing about b => about = id ∧ wanted (server.rows.get? id) = wanted (some b)
  | .dropping about => about = id

def AccountedAt (server : Server) (id : String) : Prop :=
  server.Matches id ∨ Exists fun call => server.Repairs id (server.requests call)

def Accounted (server : Server) : Prop := forall id, server.AccountedAt id

def OthersRepair (server : Server) (call : Nat) (id : String) : Prop :=
  Exists fun other => other ≠ call ∧ server.Repairs id (server.requests other)

/-- A row is removed or added with a copy that calls for what the stored row calls for, or
another request is still to set its entry.  Removing is right also if the stored row calls
for no entry, and adding a row that is not schedulable does nothing. -/
def Coherent (server : Server) : Action -> Prop
  | .remove call => forall id b, server.requests call = .removing id b ->
      wanted (server.rows.get? id) = [] ∨ wanted (server.rows.get? id) = wanted (some b) ∨
        server.OthersRepair call id
  | .add call => forall id b, server.requests call = .adding id b -> isSchedulable b = true ->
      wanted (server.rows.get? id) = wanted (some b) ∨ server.OthersRepair call id
  | _ => True

/-- The schedule of a schedulable row parses. -/
def Parsed (parses : String -> Bool) (b : Backup) : Prop :=
  isSchedulable b = true -> parses b.schedule = true

/-- What a request in flight is about was given out, and what it carries parses. -/
def StageSound (parses : String -> Bool) (server : Server) : Stage -> Prop
  | .idle => True
  | .adding id b => id ∈ server.issued ∧ Parsed parses b
  | .reloading id => id ∈ server.issued
  | .removing id b => id ∈ server.issued ∧ Parsed parses b
  | .dropping id => id ∈ server.issued ∧ server.rows.get? id = none

structure Sound (parses : String -> Bool) (server : Server) : Prop where
  table : server.table.Sound
  entries : forall entry, entry ∈ server.table.cron -> entry.backupID ∈ server.issued
  rows : forall id b, server.rows.get? id = some b -> id ∈ server.issued ∧ Parsed parses b
  requests : forall call, StageSound parses server (server.requests call)

/-- What a step can do. -/
inductive Move (parses : String -> Bool) (server : Server) : Action -> Server -> Prop where
  | refused {action : Action} (quiet : server.Coherent action) : Move parses server action server
  | created (call : Nat) (uuid userID : String) (req : BackupRequest)
      (idle : server.requests call = .idle) (fresh : uuid ∉ server.issued)
      (accepted : accepts parses req = true) :
      Move parses server (.create call uuid userID req)
        { server.at call (.adding uuid (req.backup userID)) with
          rows := server.rows.put uuid (req.backup userID)
          issued := uuid :: server.issued }
  | updated (call : Nat) (userID id : String) (req : BackupRequest) (b : Backup)
      (idle : server.requests call = .idle) (found : server.rows.get? id = some b)
      (accepted : accepts parses req = true) :
      Move parses server (.update call userID id req)
        { server.at call (.reloading id) with
          rows := server.rows.put id (req.backup b.ownerUserID) }
  | deleted (call : Nat) (userID id : String) (b : Backup)
      (idle : server.requests call = .idle) (found : server.rows.get? id = some b) :
      Move parses server (.delete call userID id)
        { server.at call (.dropping id) with rows := server.rows.erase id }
  | reloaded (call : Nat) (id : String) (b : Backup)
      (stage : server.requests call = .reloading id) (found : server.rows.get? id = some b) :
      Move parses server (.reload call) (server.at call (.removing id b))
  | vanished (call : Nat) (id : String) (stage : server.requests call = .reloading id)
      (gone : server.rows.get? id = none) :
      Move parses server (.reload call) (server.at call (.dropping id))
  | removed (call : Nat) (id : String) (b : Backup)
      (stage : server.requests call = .removing id b) :
      Move parses server (.remove call)
        { server.at call (.adding id b) with table := server.table.remove id }
  | dropped (call : Nat) (id : String) (stage : server.requests call = .dropping id) :
      Move parses server (.remove call)
        { server.at call .idle with table := server.table.remove id }
  | added (call : Nat) (id : String) (b : Backup)
      (stage : server.requests call = .adding id b) :
      Move parses server (.add call)
        { server.at call .idle with table := server.table.add parses id b }

section Steps

variable {parses : String -> Bool} {server next : Server} {action : Action}

theorem owned_eq_some {userID id : String} {b : Backup} (held : server.owned userID id = some b) :
    server.rows.get? id = some b :=
  (Option.filter_eq_some_iff.mp held).1

theorem step_moves (taken : step parses server action = some next) :
    Move parses server action next := by
  cases action with
  | create call uuid userID req =>
      simp only [step] at taken
      split at taken
      · rename_i free
        split at taken
        · rename_i accepted
          cases taken
          exact Move.created call uuid userID req free.1 free.2 accepted
        · cases taken
          exact Move.refused trivial
      · cases taken
  | update call userID id req =>
      simp only [step] at taken
      split at taken
      · rename_i idle
        split at taken
        · cases taken
          exact Move.refused trivial
        · rename_i b held
          split at taken
          · rename_i accepted
            cases taken
            exact Move.updated call userID id req b idle (owned_eq_some held) accepted
          · cases taken
            exact Move.refused trivial
      · cases taken
  | delete call userID id =>
      simp only [step] at taken
      split at taken
      · rename_i idle
        split at taken
        · cases taken
          exact Move.refused trivial
        · rename_i b held
          cases taken
          exact Move.deleted call userID id b idle (owned_eq_some held)
      · cases taken
  | reload call =>
      simp only [step] at taken
      split at taken
      · rename_i id stage
        split at taken
        · rename_i gone
          cases taken
          exact Move.vanished call id stage gone
        · rename_i b found
          cases taken
          exact Move.reloaded call id b stage found
      · cases taken
  | remove call =>
      simp only [step] at taken
      split at taken
      · rename_i id b stage
        cases taken
        exact Move.removed call id b stage
      · rename_i id stage
        cases taken
        exact Move.dropped call id stage
      · cases taken
  | add call =>
      simp only [step] at taken
      split at taken
      · rename_i id b stage
        cases taken
        exact Move.added call id b stage
      · cases taken

/-- A request that is accepted has a schedule that parses, if it needs one. -/
theorem accepts_parsed {req : BackupRequest} (accepted : accepts parses req = true)
    (owner : String) : Parsed parses (req.backup owner) := by
  intro schedulable
  simp only [accepts, validSchedule, Bool.and_eq_true, Bool.or_eq_true, beq_iff_eq] at accepted
  simp only [isSchedulable, BackupRequest.backup, Bool.and_eq_true, bne_iff_ne] at schedulable
  rcases accepted.2 with (empty | manual) | parsed
  · exact absurd empty schedulable.1.2
  · exact absurd manual schedulable.2
  · exact parsed

/-! ### What every run keeps -/

theorem StageSound.mono {stage : Stage} (sound : StageSound parses server stage)
    (issued : forall id, id ∈ server.issued -> id ∈ next.issued)
    (gone : forall id, id ∈ server.issued -> server.rows.get? id = none ->
      next.rows.get? id = none) : StageSound parses next stage := by
  cases stage with
  | idle => trivial
  | adding id b => exact ⟨issued id sound.1, sound.2⟩
  | reloading id => exact issued id sound
  | removing id b => exact ⟨issued id sound.1, sound.2⟩
  | dropping id => exact ⟨issued id sound.1, gone id sound.1 sound.2⟩

/-- One request moves on, and the others stay sound. -/
theorem requests_sound (sound : server.Sound parses) {call : Nat} {stage : Stage}
    (requests : next.requests = Function.update server.requests call stage)
    (issued : forall id, id ∈ server.issued -> id ∈ next.issued)
    (gone : forall id, id ∈ server.issued -> server.rows.get? id = none ->
      next.rows.get? id = none)
    (here : StageSound parses next stage) (other : Nat) :
    StageSound parses next (next.requests other) := by
  rw [requests]
  by_cases same : other = call
  · rwa [same, Function.update_self]
  · rw [Function.update_of_ne same]
    exact (sound.requests other).mono issued gone

/-- A stored row is replaced or added. -/
theorem rows_put_sound (sound : server.Sound parses) {id : String} {b : Backup}
    {issued : List String} (known : forall other, other ∈ server.issued -> other ∈ issued)
    (own : id ∈ issued) (parsed : Parsed parses b) (other : String) (held : Backup)
    (found : (server.rows.put id b).get? other = some held) :
    other ∈ issued ∧ Parsed parses held := by
  rw [SortedStore.get?_put] at found
  by_cases same : other = id
  · rw [if_pos same] at found
    cases found
    rw [same]
    exact ⟨own, parsed⟩
  · rw [if_neg same] at found
    have old := sound.rows other held found
    exact ⟨known other old.1, old.2⟩

theorem Sound.step (sound : server.Sound parses)
    (taken : Schedules.step parses server action = some next) : next.Sound parses := by
  cases step_moves taken with
  | refused quiet => exact sound
  | created call uuid userID req idle fresh accepted =>
      have parsed := accepts_parsed accepted userID
      have grows : forall id, id ∈ server.issued -> id ∈ uuid :: server.issued :=
        fun id => List.mem_cons_of_mem uuid
      refine ⟨sound.table, fun entry member => grows _ (sound.entries entry member), ?_, ?_⟩
      · exact rows_put_sound sound grows List.mem_cons_self parsed
      · refine requests_sound sound rfl grows ?_ ⟨List.mem_cons_self, parsed⟩
        intro id issued gone
        rw [← gone]
        apply SortedStore.get?_put_of_ne
        rintro rfl
        exact fresh issued
  | updated call userID id req b idle found accepted =>
      have known := (sound.rows id b found).1
      refine ⟨sound.table, sound.entries, ?_, ?_⟩
      · exact rows_put_sound sound (fun _ issued => issued) known
          (accepts_parsed accepted b.ownerUserID)
      · refine requests_sound sound rfl (fun _ issued => issued) ?_ known
        intro other issued gone
        rw [← gone]
        apply SortedStore.get?_put_of_ne
        rintro rfl
        rw [found] at gone
        cases gone
  | deleted call userID id b idle found =>
      refine ⟨sound.table, sound.entries, ?_, ?_⟩
      · exact SortedStore.Every.erase sound.rows id
      · refine requests_sound sound rfl (fun _ issued => issued) ?_ ⟨(sound.rows id b found).1, ?_⟩
        · intro other issued gone
          rw [SortedStore.get?_erase, gone, ite_self]
        · change (server.rows.erase id).get? id = none
          rw [SortedStore.get?_erase, if_pos rfl]
  | reloaded call id b stage found =>
      refine ⟨sound.table, sound.entries, sound.rows, ?_⟩
      exact requests_sound sound rfl (fun _ issued => issued) (fun _ _ gone => gone)
        (sound.rows id b found)
  | vanished call id stage gone =>
      have known := sound.requests call
      rw [stage] at known
      refine ⟨sound.table, sound.entries, sound.rows, ?_⟩
      exact requests_sound sound rfl (fun _ issued => issued) (fun _ _ gone => gone) ⟨known, gone⟩
  | removed call id b stage =>
      have known := sound.requests call
      rw [stage] at known
      refine ⟨sound.table.remove id, ?_, sound.rows, ?_⟩
      · intro entry member
        exact sound.entries entry (CronTable.mem_of_mem_remove sound.table member)
      · exact requests_sound sound rfl (fun _ issued => issued) (fun _ _ gone => gone) known
  | dropped call id stage =>
      refine ⟨sound.table.remove id, ?_, sound.rows, ?_⟩
      · intro entry member
        exact sound.entries entry (CronTable.mem_of_mem_remove sound.table member)
      · exact requests_sound sound rfl (fun _ issued => issued) (fun _ _ gone => gone) trivial
  | added call id b stage =>
      have known := sound.requests call
      rw [stage] at known
      refine ⟨sound.table.add parses id b, ?_, sound.rows, ?_⟩
      · intro entry member
        rcases CronTable.mem_of_mem_add sound.table member with old | new
        · exact sound.entries entry old
        · rw [new]
          exact known.1
      · exact requests_sound sound rfl (fun _ issued => issued) (fun _ _ gone => gone) trivial

/-! ### What is accounted for -/

/-- Whether a request repairs an entry depends on the stored row of that entry only. -/
theorem repairs_congr {id : String} (rows : next.rows.get? id = server.rows.get? id)
    (stage : Stage) : next.Repairs id stage ↔ server.Repairs id stage := by
  cases stage <;> simp only [Repairs, rows]

/-- A backup that the step is not about stays accounted for. -/
theorem AccountedAt.elsewhere {other : String} (accounted : server.AccountedAt other) {call : Nat}
    {stage : Stage} (rows : next.rows.get? other = server.rows.get? other)
    (registered : next.table.registered other = server.table.registered other)
    (requests : next.requests = Function.update server.requests call stage)
    (own : ¬ server.Repairs other (server.requests call)) : next.AccountedAt other := by
  rcases accounted with matching | ⟨repairer, repairs⟩
  · left
    unfold Matches at matching ⊢
    rw [registered, rows, matching]
  · right
    refine ⟨repairer, ?_⟩
    rw [repairs_congr rows, requests, Function.update_of_ne]
    · exact repairs
    · rintro rfl
      exact own repairs

/-- A request whose new stage repairs a backup accounts for it. -/
theorem accountedAt_of_own {id : String} {call : Nat} {stage : Stage}
    (requests : next.requests = Function.update server.requests call stage)
    (repairs : next.Repairs id stage) : next.AccountedAt id := by
  right
  refine ⟨call, ?_⟩
  rw [requests, Function.update_self]
  exact repairs

/-- After a step of a request that leaves the row, the backup is repaired by that request in its
new stage, or by another one. -/
theorem repaired_iff {id : String} {call : Nat} {stage : Stage}
    (rows : next.rows.get? id = server.rows.get? id)
    (requests : next.requests = Function.update server.requests call stage) :
    (Exists fun repairer => next.Repairs id (next.requests repairer)) ↔
      server.Repairs id stage ∨ server.OthersRepair call id := by
  constructor
  · rintro ⟨repairer, repairs⟩
    rw [repairs_congr rows, requests] at repairs
    by_cases own : repairer = call
    · rw [own, Function.update_self] at repairs
      exact Or.inl repairs
    · rw [Function.update_of_ne own] at repairs
      exact Or.inr ⟨repairer, own, repairs⟩
  · rintro (own | ⟨other, apart, repairs⟩)
    · refine ⟨call, ?_⟩
      rw [repairs_congr rows, requests, Function.update_self]
      exact own
    · refine ⟨other, ?_⟩
      rw [repairs_congr rows, requests, Function.update_of_ne apart]
      exact repairs

theorem registered_of_fresh (sound : server.Sound parses) {id : String}
    (fresh : id ∉ server.issued) : server.table.registered id = [] := by
  unfold CronTable.registered
  rw [List.map_eq_nil_iff, List.filter_eq_nil_iff]
  intro entry member
  rw [beq_iff_eq]
  rintro rfl
  exact fresh (sound.entries entry member)

/-- Removing the entry of a row that was read keeps its backup accounted for exactly if the
copy is current, the row calls for no entry, or another request repairs it. -/
theorem accountedAt_removed_iff (sound : server.Sound parses) {call : Nat} {id : String}
    {b : Backup} :
    AccountedAt { server.at call (.adding id b) with table := server.table.remove id } id ↔
      wanted (server.rows.get? id) = [] ∨ wanted (server.rows.get? id) = wanted (some b) ∨
        server.OthersRepair call id := by
  have removed : (server.table.remove id).registered id = [] := by
    rw [CronTable.registered_remove sound.table, if_pos rfl]
  have repaired := @repaired_iff server
    { server.at call (.adding id b) with table := server.table.remove id } id call _ rfl rfl
  constructor
  · rintro (matching | repairs)
    · left
      rw [← removed]
      exact matching.symm
    · rcases repaired.mp repairs with own | others
      · exact Or.inr (Or.inl own.2.2)
      · exact Or.inr (Or.inr others)
  · rintro (none | current | others)
    · left
      exact removed.trans none.symm
    · cases schedulable : isSchedulable b with
      | false =>
          left
          refine removed.trans (Eq.trans ?_ current.symm)
          simp [wanted, schedulable]
      | true => exact accountedAt_of_own rfl ⟨rfl, schedulable, current⟩
    · exact Or.inr (repaired.mpr (Or.inr others))

/-- Adding a schedulable copy keeps its backup accounted for exactly if the copy is current or
another request repairs it. -/
theorem accountedAt_added_iff (sound : server.Sound parses) {call : Nat} {id : String}
    {b : Backup} (parsed : Parsed parses b) (schedulable : isSchedulable b = true) :
    AccountedAt { server.at call .idle with table := server.table.add parses id b } id ↔
      wanted (server.rows.get? id) = wanted (some b) ∨ server.OthersRepair call id := by
  have added : (server.table.add parses id b).registered id = wanted (some b) := by
    rw [CronTable.registered_add sound.table id schedulable (parsed schedulable), if_pos rfl]
    simp [wanted, schedulable]
  have repaired := @repaired_iff server
    { server.at call .idle with table := server.table.add parses id b } id call _ rfl rfl
  constructor
  · rintro (matching | repairs)
    · left
      rw [← added]
      exact matching.symm
    · rcases repaired.mp repairs with own | others
      · exact own.elim
      · exact Or.inr others
  · rintro (current | others)
    · left
      exact added.trans current.symm
    · exact Or.inr (repaired.mpr (Or.inr others))

/-- One step keeps every backup accounted for exactly if it is coherent. -/
theorem accounted_step_iff (sound : server.Sound parses) (accounted : server.Accounted)
    (taken : Schedules.step parses server action = some next) :
    next.Accounted ↔ server.Coherent action := by
  cases step_moves taken with
  | refused quiet => exact iff_of_true accounted quiet
  | created call uuid userID req idle fresh accepted =>
      refine iff_of_true ?_ trivial
      intro other
      by_cases same : other = uuid
      · have stored : (server.rows.put uuid (req.backup userID)).get? other =
            some (req.backup userID) := by
          rw [same, SortedStore.get?_put_self]
        cases schedulable : isSchedulable (req.backup userID) with
        | false =>
            left
            refine Eq.trans (registered_of_fresh sound ?_) ?_
            · rwa [same]
            · change [] = wanted ((server.rows.put uuid (req.backup userID)).get? other)
              rw [stored]
              simp [wanted, schedulable]
        | true =>
            exact accountedAt_of_own rfl ⟨same.symm, schedulable, congrArg wanted stored⟩
      · refine (accounted other).elsewhere (SortedStore.get?_put_of_ne _ _ same) rfl rfl ?_
        rw [idle]
        exact id
  | updated call userID id req b idle found accepted =>
      refine iff_of_true ?_ trivial
      intro other
      by_cases same : other = id
      · exact accountedAt_of_own rfl same.symm
      · refine (accounted other).elsewhere (SortedStore.get?_put_of_ne _ _ same) rfl rfl ?_
        rw [idle]
        exact False.elim
  | deleted call userID id b idle found =>
      refine iff_of_true ?_ trivial
      intro other
      by_cases same : other = id
      · exact accountedAt_of_own rfl same.symm
      · refine (accounted other).elsewhere ?_ rfl rfl ?_
        · change (server.rows.erase id).get? other = server.rows.get? other
          rw [SortedStore.get?_erase, if_neg same]
        · rw [idle]
          exact False.elim
  | reloaded call id b stage found =>
      refine iff_of_true ?_ trivial
      intro other
      by_cases same : other = id
      · refine accountedAt_of_own rfl ⟨same.symm, congrArg wanted ?_⟩
        rw [same]
        exact found
      · refine (accounted other).elsewhere rfl rfl rfl ?_
        rw [stage]
        exact fun about => same about.symm
  | vanished call id stage gone =>
      refine iff_of_true ?_ trivial
      intro other
      by_cases same : other = id
      · exact accountedAt_of_own rfl same.symm
      · refine (accounted other).elsewhere rfl rfl rfl ?_
        rw [stage]
        exact fun about => same about.symm
  | removed call id b stage =>
      constructor
      · intro after about copy here
        rw [stage] at here
        cases here
        exact (accountedAt_removed_iff sound).mp (after id)
      · intro coherent other
        by_cases same : other = id
        · rw [same]
          exact (accountedAt_removed_iff sound).mpr (coherent id b stage)
        · refine (accounted other).elsewhere rfl ?_ rfl ?_
          · exact (CronTable.registered_remove sound.table id other).trans (if_neg same)
          · rw [stage]
            exact fun repairs => same repairs.1.symm
  | dropped call id stage =>
      refine iff_of_true ?_ ?_
      · intro other
        by_cases same : other = id
        · left
          have known := sound.requests call
          rw [stage] at known
          unfold Matches
          rw [same]
          refine Eq.trans (CronTable.registered_remove sound.table id id) ?_
          rw [if_pos rfl]
          change [] = wanted (server.rows.get? id)
          rw [known.2]
          rfl
        · refine (accounted other).elsewhere rfl ?_ rfl ?_
          · exact (CronTable.registered_remove sound.table id other).trans (if_neg same)
          · rw [stage]
            exact fun about => same about.symm
      · intro about copy here
        rw [stage] at here
        cases here
  | added call id b stage =>
      have known := sound.requests call
      rw [stage] at known
      cases schedulable : isSchedulable b with
      | false =>
          refine iff_of_true ?_ ?_
          · intro other
            refine (accounted other).elsewhere rfl ?_ rfl ?_
            · simp [CronTable.add, schedulable]
            · rw [stage]
              rintro ⟨_, active, _⟩
              rw [schedulable] at active
              cases active
          · intro about copy here active
            rw [stage] at here
            cases here
            rw [schedulable] at active
            cases active
      | true =>
          constructor
          · intro after about copy here _
            rw [stage] at here
            cases here
            exact (accountedAt_added_iff sound known.2 schedulable).mp (after id)
          · intro coherent other
            by_cases same : other = id
            · rw [same]
              exact (accountedAt_added_iff sound known.2 schedulable).mpr
                (coherent id b stage schedulable)
            · refine (accounted other).elsewhere rfl ?_ rfl ?_
              · exact (CronTable.registered_add sound.table id schedulable
                  (known.2 schedulable) other).trans (if_neg same)
              · rw [stage]
                exact fun repairs => same repairs.1.symm

end Steps

/-- At rest, what is accounted for is in order. -/
theorem Accounted.follows {server : Server} (accounted : server.Accounted)
    (rest : server.AtRest) : server.Follows := by
  intro id
  rcases accounted id with matching | ⟨call, repairs⟩
  · exact matching
  · rw [rest call] at repairs
    exact repairs.elim

theorem Follows.accounted {server : Server} (follows : server.Follows) : server.Accounted :=
  fun id => Or.inl (follows id)

/-! ### A server after its start -/

/-- Adding a row gives its backup what the row calls for, if it had no entry. -/
theorem registered_add_wanted {parses : String -> Bool} {table : CronTable} (sound : table.Sound)
    {id : String} {b : Backup} (parsed : Parsed parses b) (free : table.registered id = [])
    (other : String) : (table.add parses id b).registered other =
      if other = id then wanted (some b) else table.registered other := by
  cases schedulable : isSchedulable b with
  | true =>
      rw [CronTable.registered_add sound id schedulable (parsed schedulable)]
      simp [wanted, schedulable]
  | false =>
      have same : table.add parses id b = table := by simp [CronTable.add, schedulable]
      rw [same]
      by_cases own : other = id
      · rw [if_pos own, own, free]
        simp [wanted, schedulable]
      · rw [if_neg own]

/-- `LoadAll` gives each row what it calls for. -/
theorem loadAll_registered {parses : String -> Bool} (rows : List (String × Backup)) :
    forall table : CronTable, table.Sound -> (rows.map Prod.fst).Nodup ->
      (forall row, row ∈ rows -> Parsed parses row.2) ->
      (forall row, row ∈ rows -> table.registered row.1 = []) ->
        (loadAll parses rows table).Sound ∧
          (forall row, row ∈ rows ->
            (loadAll parses rows table).registered row.1 = wanted (some row.2)) ∧
          forall id, id ∉ rows.map Prod.fst ->
            (loadAll parses rows table).registered id = table.registered id := by
  induction rows with
  | nil =>
      intro table sound _ _ _
      refine ⟨sound, ?_, fun id _ => rfl⟩
      intro row absent
      cases absent
  | cons first rest ih =>
      intro table sound distinct parsed free
      rw [List.map_cons, List.nodup_cons] at distinct
      have parsedFirst := parsed first List.mem_cons_self
      have added := registered_add_wanted sound parsedFirst (free first List.mem_cons_self)
      have apart : forall row, row ∈ rest -> row.1 ≠ first.1 := by
        intro row member same
        exact distinct.1 (List.mem_map.mpr ⟨row, member, same⟩)
      have later := ih (table.add parses first.1 first.2) (sound.add parses first.1 first.2)
        distinct.2 (fun row member => parsed row (List.mem_cons_of_mem first member)) ?_
      · refine ⟨later.1, ?_, ?_⟩
        · intro row member
          rcases List.mem_cons.mp member with rfl | tail
          · refine (later.2.2 row.1 distinct.1).trans ?_
            rw [added, if_pos rfl]
          · exact later.2.1 row tail
        · intro id absent
          rw [List.map_cons, List.mem_cons, not_or] at absent
          refine (later.2.2 id absent.2).trans ?_
          rw [added, if_neg absent.1]
      · intro row member
        rw [added, if_neg (apart row member)]
        exact free row (List.mem_cons_of_mem first member)

section Boot

variable {parses : String -> Bool} {rows : SortedStore String Backup}

theorem boot_loaded (parsed : forall id b, rows.get? id = some b -> Parsed parses b) :
    (boot parses rows).table.Sound ∧
      (forall row, row ∈ rows.entries ->
        (boot parses rows).table.registered row.1 = wanted (some row.2)) ∧
      forall id, id ∉ rows.entries.map Prod.fst -> (boot parses rows).table.registered id = [] := by
  apply loadAll_registered rows.entries CronTable.empty CronTable.empty_sound
  · exact List.pairwise_map.mpr (rows.sorted.imp fun before => ne_of_lt before)
  · rintro ⟨id, b⟩ member
    exact parsed id b ((rows.mem_entries_iff id b).mp member)
  · intro row _
    rfl

theorem mem_issued_of_get? {id : String} {b : Backup} (found : rows.get? id = some b) :
    id ∈ (boot parses rows).issued :=
  List.mem_map.mpr ⟨(id, b), (rows.mem_entries_iff id b).mpr found, rfl⟩

theorem boot_follows (parsed : forall id b, rows.get? id = some b -> Parsed parses b) :
    (boot parses rows).Follows := by
  intro id
  unfold Matches
  change (boot parses rows).table.registered id = wanted (rows.get? id)
  cases held : rows.get? id with
  | some b => exact (boot_loaded parsed).2.1 (id, b) ((rows.mem_entries_iff id b).mpr held)
  | none =>
      apply (boot_loaded parsed).2.2
      intro listed
      rcases List.mem_map.mp listed with ⟨⟨other, b⟩, member, rfl⟩
      have found := (rows.mem_entries_iff other b).mp member
      rw [held] at found
      cases found

theorem boot_sound (parsed : forall id b, rows.get? id = some b -> Parsed parses b) :
    (boot parses rows).Sound parses where
  table := (boot_loaded parsed).1
  entries := by
    intro entry member
    by_contra absent
    have none := (boot_loaded parsed).2.2 entry.backupID absent
    unfold CronTable.registered at none
    rw [List.map_eq_nil_iff, List.filter_eq_nil_iff] at none
    exact none entry member (beq_self_eq_true entry.backupID)
  rows := fun id b found => ⟨mem_issued_of_get? found, parsed id b found⟩
  requests := fun _ => trivial

/-- Every backup is accounted for along a run exactly if all steps are coherent. -/
theorem accounted_throughout_iff (parsed : forall id b, rows.get? id = some b -> Parsed parses b)
    {actions : List Action} {final : Server}
    (run : exec (step parses) (boot parses rows) actions = some final) :
    Throughout (step parses) Accounted (boot parses rows) actions ↔
      Meets (step parses) Coherent (boot parses rows) actions :=
  throughout_iff_meets (fun _ _ _ held taken => Sound.step held taken)
    (fun _ _ _ held now taken => accounted_step_iff held now taken)
    (boot_sound parsed) (boot_follows parsed).accounted run

/-- In every run from a start whose steps are coherent, the scheduler's entries are those of
the stored rows whenever no request is in flight. -/
theorem entries_follow_store (parsed : forall id b, rows.get? id = some b -> Parsed parses b)
    {actions : List Action} {final : Server}
    (run : exec (step parses) (boot parses rows) actions = some final)
    (coherent : Meets (step parses) Coherent (boot parses rows) actions) :
    Throughout (step parses) (fun server => server.AtRest -> server.Follows) (boot parses rows)
      actions := by
  intro first second middle split reached rest
  have accounted := (accounted_throughout_iff parsed run).mpr coherent first second middle split
    reached
  exact accounted.follows rest

end Boot

def nightly (schedule : String) : BackupRequest where
  name := "Photos"
  srcRegionID := "r1"
  srcBucket := "photos"
  dstRegionID := "r2"
  dstBucket := "vault"
  schedule := schedule

def nightlyRows : SortedStore String Backup :=
  SortedStore.empty.put "b1" ((nightly "0 1 * * *").backup "ann")

theorem nightlyRows_parsed : forall id b, nightlyRows.get? id = some b ->
    Parsed (fun _ => true) b :=
  fun _ _ _ _ => rfl

/-- Two updates, the second of which is made while the first one's row has been reread. -/
def overlappingUpdates : List Action :=
  [.update 0 "ann" "b1" (nightly "0 2 * * *"), .reload 0,
    .update 1 "ann" "b1" (nightly "0 3 * * *"), .reload 1, .remove 1, .add 1, .remove 0, .add 0]

/-- The late `Add` of the first update replaces the entry of the second one. -/
theorem overlapping_updates_leave_stale_entry : Exists fun final =>
    exec (step fun _ => true) (boot (fun _ => true) nightlyRows) overlappingUpdates = some final ∧
      final.AtRest ∧ wanted (final.rows.get? "b1") = ["0 3 * * *"] ∧
        final.table.registered "b1" = ["0 2 * * *"] ∧
          ¬ Throughout (step fun _ => true) (fun server => server.AtRest -> server.Follows)
            (boot (fun _ => true) nightlyRows) overlappingUpdates := by
  refine ⟨_, rfl, ?_⟩
  have rest : forall final, exec (step fun _ => true) (boot (fun _ => true) nightlyRows)
      overlappingUpdates = some final -> final.AtRest := by
    intro final run call
    cases run
    cases call with
    | zero => rfl
    | succ call => cases call <;> rfl
  refine ⟨rest _ rfl, rfl, rfl, ?_⟩
  intro always
  have follows : ["0 2 * * *"] = ["0 3 * * *"] :=
    always overlappingUpdates [] _ (List.append_nil _).symm rfl (rest _ rfl) "b1"
  exact absurd follows (by decide)

/-- An update that nothing interrupts. -/
def oneUpdate : List Action :=
  [.update 0 "ann" "b1" (nightly "0 2 * * *"), .reload 0, .remove 0, .add 0]

theorem oneUpdate_coherent :
    Meets (step fun _ => true) Coherent (boot (fun _ => true) nightlyRows) oneUpdate := by
  refine meets_of_step trivial rfl (meets_of_step trivial rfl
    (meets_of_step ?_ rfl (meets_of_step ?_ rfl trivial)))
  · intro id b here
    cases here
    exact Or.inr (Or.inl rfl)
  · intro id b here _
    cases here
    exact Or.inl rfl

theorem entries_follow_store_one_update : Exists fun final =>
    exec (step fun _ => true) (boot (fun _ => true) nightlyRows) oneUpdate = some final ∧
      final.table.registered "b1" = ["0 2 * * *"] ∧
        Throughout (step fun _ => true) (fun server => server.AtRest -> server.Follows)
          (boot (fun _ => true) nightlyRows) oneUpdate :=
  ⟨_, rfl, rfl, entries_follow_store nightlyRows_parsed rfl oneUpdate_coherent⟩

end Server

end Schedules

end Api
end Basement
