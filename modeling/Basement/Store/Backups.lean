import Basement.Library.SavedMemory
import Basement.Library.SortedStore
import Mathlib.Data.String.Basic

namespace Basement
namespace Store
namespace Backups

open Library

/-!
# The backup store

The store keeps the backups in memory by their IDs and writes all of them to `backups.json` after
every change.  `Create` takes its row back when the write fails; the other operations keep what
they have changed.
-/

/-! ## Records -/

/-- `RetentionPolicy`. -/
structure RetentionPolicy where
  keepDaily : Int := 0
  keepWeekly : Int := 0
  keepMonthly : Int := 0
  deriving DecidableEq, Repr

/-- `BackupResult`, with times in nanoseconds. -/
structure BackupResult where
  startedAt : Int
  completedAt : Int
  objectsCopied : Int := 0
  bytesCopied : Int := 0
  errors : List String := []
  success : Bool
  jobID : String := ""
  snapshotPrefix : String := ""
  snapshotsPruned : Int := 0
  bytesReclaimed : Int := 0
  deriving DecidableEq, Repr

/-- `Backup`. -/
structure Backup where
  id : String := ""
  ownerUserID : String
  name : String
  srcRegionID : String
  srcBucket : String
  srcPrefix : String := ""
  dstRegionID : String
  dstBucket : String
  dstPrefix : String := ""
  schedule : String
  lastRunAt : Option Int := none
  lastResult : Option BackupResult := none
  history : List BackupResult := []
  createdAt : Int := 0
  updatedAt : Int := 0
  disabled : Bool := false
  mode : String := ""
  retention : RetentionPolicy := {}
  deriving DecidableEq, Repr

abbrev Rows := SortedStore String Backup

/-- The ID that a call draws, its clock, and the error of its write. -/
structure CallIO where
  uuid : String := ""
  now : Int := 0
  writeError : Option String := none

/-! ## Reads -/

def errNotFound : String := "backup not found"

def get (rows : Rows) (id : String) : Except String Backup :=
  match rows.get? id with
  | none => .error errNotFound
  | some b => .ok b

/-- `All`.  The order of a map is no order. -/
def all (rows : Rows) : List Backup := rows.entries.map Prod.snd

def listForUser (rows : Rows) (userID : String) : List Backup :=
  (all rows).filter fun b => b.ownerUserID = userID

/-- What the reads answer. -/
structure Reads where
  get : String -> Except String Backup
  listForUser : String -> List Backup
  all : List Backup

def reads (rows : Rows) : Reads := ⟨get rows, listForUser rows, all rows⟩

theorem get_eq_ok {rows : Rows} {id : String} {b : Backup} :
    get rows id = .ok b ↔ rows.get? id = some b := by
  unfold get
  cases rows.get? id with
  | none => exact ⟨by rintro ⟨⟩, by rintro ⟨⟩⟩
  | some found => exact ⟨fun same => congrArg some (Except.ok.inj same),
      fun same => congrArg Except.ok (Option.some.inj same)⟩

/-- The reads tell any two stores apart. -/
theorem reads_eq_iff {first second : Rows} : reads first = reads second ↔ first = second := by
  constructor
  · intro same
    apply SortedStore.ext_get?
    intro id
    apply Option.ext
    intro b
    have answers : get first id = get second id := congrFun (congrArg Reads.get same) id
    rw [← get_eq_ok, ← get_eq_ok, answers]
  · exact fun same => congrArg reads same

/-! ## Operations -/

/-- `Create`.  The row is removed again when it cannot be written. -/
def create (rows : Rows) (b : Backup) (io : CallIO) : Except String Backup × Rows :=
  let created := { b with id := io.uuid, createdAt := io.now, updatedAt := io.now }
  saving io.writeError created (rows.put io.uuid created)
    ((rows.put io.uuid created).erase io.uuid)

/-- A row after an update: identity and history are the server's. -/
def Backup.patched (cur patch : Backup) (now : Int) : Backup :=
  { cur with
    name := patch.name
    srcRegionID := patch.srcRegionID
    srcBucket := patch.srcBucket
    srcPrefix := patch.srcPrefix
    dstRegionID := patch.dstRegionID
    dstBucket := patch.dstBucket
    dstPrefix := patch.dstPrefix
    schedule := patch.schedule
    disabled := patch.disabled
    mode := patch.mode
    retention := patch.retention
    updatedAt := now }

/-- `Update`. -/
def update (rows : Rows) (id : String) (patch : Backup) (io : CallIO) :
    Except String Backup × Rows :=
  match rows.get? id with
  | none => (.error errNotFound, rows)
  | some cur =>
      let changed := cur.patched patch io.now
      saving io.writeError changed (rows.put id changed) (rows.put id changed)

/-- `Delete`. -/
def delete (rows : Rows) (id : String) (io : CallIO) : Except String Unit × Rows :=
  match rows.get? id with
  | none => (.error errNotFound, rows)
  | some _ => saving io.writeError () (rows.erase id) (rows.erase id)

def maxErrorsPerResult : Nat := 10

def maxHistory : Nat := 10

/-- A result with its errors bounded. -/
def BackupResult.trimmed (r : BackupResult) : BackupResult :=
  { r with errors := r.errors.take maxErrorsPerResult }

/-- A row after a run: the newest result is first. -/
def Backup.recorded (cur : Backup) (r : BackupResult) (now : Int) : Backup :=
  { cur with
    lastResult := some r.trimmed
    lastRunAt := some r.startedAt
    history := (r.trimmed :: cur.history).take maxHistory
    updatedAt := now }

/-- `RecordResult`. -/
def recordResult (rows : Rows) (id : String) (r : BackupResult) (io : CallIO) :
    Except String Unit × Rows :=
  match rows.get? id with
  | none => (.error errNotFound, rows)
  | some cur =>
      let changed := cur.recorded r io.now
      saving io.writeError () (rows.put id changed) (rows.put id changed)

/-! ## When a failed write is unseen -/

/-- An update gives what the row says already, at the time of its last change. -/
structure Backup.Restated (cur patch : Backup) (now : Int) : Prop where
  name : patch.name = cur.name
  srcRegionID : patch.srcRegionID = cur.srcRegionID
  srcBucket : patch.srcBucket = cur.srcBucket
  srcPrefix : patch.srcPrefix = cur.srcPrefix
  dstRegionID : patch.dstRegionID = cur.dstRegionID
  dstBucket : patch.dstBucket = cur.dstBucket
  dstPrefix : patch.dstPrefix = cur.dstPrefix
  schedule : patch.schedule = cur.schedule
  disabled : patch.disabled = cur.disabled
  mode : patch.mode = cur.mode
  retention : patch.retention = cur.retention
  now : now = cur.updatedAt

/-- The row has the result already, and nothing but the result. -/
structure Backup.Rerecorded (cur : Backup) (r : BackupResult) (now : Int) : Prop where
  lastResult : cur.lastResult = some { r with errors := r.errors.take maxErrorsPerResult }
  lastRunAt : cur.lastRunAt = some r.startedAt
  history : cur.history =
    List.replicate maxHistory { r with errors := r.errors.take maxErrorsPerResult }
  now : now = cur.updatedAt

theorem Backup.patched_eq_self_iff {cur patch : Backup} {now : Int} :
    cur.patched patch now = cur ↔ cur.Restated patch now := by
  constructor
  · intro same
    have field : forall {α : Type} (read : Backup -> α),
        read (cur.patched patch now) = read cur := fun read => congrArg read same
    exact ⟨field Backup.name, field Backup.srcRegionID, field Backup.srcBucket,
      field Backup.srcPrefix, field Backup.dstRegionID, field Backup.dstBucket,
      field Backup.dstPrefix, field Backup.schedule, field Backup.disabled, field Backup.mode,
      field Backup.retention, field Backup.updatedAt⟩
  · rintro ⟨name, srcRegionID, srcBucket, srcPrefix, dstRegionID, dstBucket, dstPrefix, schedule,
      disabled, mode, retention, now⟩
    unfold Backup.patched
    rw [name, srcRegionID, srcBucket, srcPrefix, dstRegionID, dstBucket, dstPrefix, schedule,
      disabled, mode, retention, now]

/-- Only a full history of one result stays when the result is put in front. -/
theorem take_cons_eq_self_iff {α : Type} {item : α} {items : List α} {bound : Nat} :
    (item :: items).take bound = items ↔ items = List.replicate bound item := by
  induction bound generalizing items with
  | zero => exact eq_comm
  | succ bound ih =>
      rw [List.take_succ_cons, List.replicate_succ]
      cases items with
      | nil => exact ⟨by rintro ⟨⟩, by rintro ⟨⟩⟩
      | cons head tail =>
          rw [List.cons.injEq, List.cons.injEq]
          constructor
          · rintro ⟨rfl, rest⟩
            exact ⟨rfl, ih.mp rest⟩
          · rintro ⟨rfl, rest⟩
            exact ⟨rfl, ih.mpr rest⟩

theorem Backup.recorded_eq_self_iff {cur : Backup} {r : BackupResult} {now : Int} :
    cur.recorded r now = cur ↔ cur.Rerecorded r now := by
  constructor
  · intro same
    have field : forall {α : Type} (read : Backup -> α),
        read (cur.recorded r now) = read cur := fun read => congrArg read same
    exact ⟨(field Backup.lastResult).symm, (field Backup.lastRunAt).symm,
      take_cons_eq_self_iff.mp (field Backup.history), field Backup.updatedAt⟩
  · rintro ⟨lastResult, lastRunAt, history, now⟩
    have kept : (r.trimmed :: cur.history).take maxHistory = cur.history :=
      take_cons_eq_self_iff.mpr history
    unfold Backup.recorded
    rw [kept, now, ← lastRunAt, show some r.trimmed = cur.lastResult from lastResult.symm]

section Operations

variable {rows : Rows} {id : String} {io : CallIO}

theorem create_unseen_iff {b : Backup} : FailsUnseen reads rows (create rows b io) ↔
    (io.writeError = none ∨ rows.get? io.uuid = none) :=
  failsUnseen_saving_iff.trans
    (or_congr Iff.rfl (reads_eq_iff.trans SortedStore.erase_put_eq_self_iff))

/-- A change of a stored row that is kept when it cannot be written. -/
theorem put_unseen_iff {α : Type} {cur changed : Backup} {value : α}
    (found : rows.get? id = some cur) :
    FailsUnseen reads rows
        (saving io.writeError value (rows.put id changed)
          (rows.put id changed)) ↔
      (io.writeError = none ∨ changed = cur) := by
  refine failsUnseen_saving_iff.trans (or_congr Iff.rfl (reads_eq_iff.trans ?_))
  rw [SortedStore.put_eq_self_iff, found, Option.some.injEq]
  exact eq_comm

theorem update_unseen_iff {patch : Backup} :
    FailsUnseen reads rows (update rows id patch io) ↔
      forall cur, rows.get? id = some cur ->
        io.writeError = none ∨ cur.Restated patch io.now := by
  unfold update
  cases found : rows.get? id with
  | none => exact ⟨by rintro _ _ ⟨⟩, fun _ => FailsUnseen.refused errNotFound⟩
  | some cur =>
      simp only [Option.some.injEq, forall_eq']
      exact (put_unseen_iff found).trans (or_congr Iff.rfl Backup.patched_eq_self_iff)

theorem delete_unseen_iff : FailsUnseen reads rows (delete rows id io) ↔
    (io.writeError = none ∨ rows.get? id = none) := by
  unfold delete
  cases found : rows.get? id with
  | none => exact ⟨fun _ => Or.inr rfl, fun _ => FailsUnseen.refused errNotFound⟩
  | some cur =>
      refine failsUnseen_saving_iff.trans (or_congr Iff.rfl (reads_eq_iff.trans ?_))
      rw [SortedStore.erase_eq_self_iff, found]

theorem recordResult_unseen_iff {r : BackupResult} :
    FailsUnseen reads rows (recordResult rows id r io) ↔
      forall cur, rows.get? id = some cur ->
        io.writeError = none ∨ cur.Rerecorded r io.now := by
  unfold recordResult
  cases found : rows.get? id with
  | none => exact ⟨by rintro _ _ ⟨⟩, fun _ => FailsUnseen.refused errNotFound⟩
  | some cur =>
      simp only [Option.some.injEq, forall_eq']
      exact (put_unseen_iff found).trans (or_congr Iff.rfl Backup.recorded_eq_self_iff)

end Operations

end Backups
end Store
end Basement
