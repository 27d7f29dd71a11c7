import Basement.Snapshots.Pruning
import Basement.Snapshots.Restore
import Basement.Snapshots.Windows

namespace Basement
namespace Snapshots
namespace Renames

open Library Drivers Api Federation
open Library.Transition (Meets Throughout exec throughout_iff_meets)

/-!
# Snapshots of a backup that is edited

A run writes below a folder that it computes from the name of the backup.  The list, the restore
and the retention pass compute the folders again, from the name at their time.  The result of a
run records its folder, but nothing reads it.

A snapshot is one that was written by a run, as long as one of its objects is left.  Beside the
runs, the prunes and the edits, other people write to all buckets and delete whatever does not
belong to a snapshot.
-/

/-! ## The system -/

/-- What a run wrote: its time, the prefix that its result records, and the keys of its plan. -/
structure Snapshot where
  started : Int
  folder : String
  keys : List String
  deriving DecidableEq, Repr

structure Vault where
  backup : Backup
  storage : Storage
  snapshots : List Snapshot

/-- The destination bucket. -/
def Vault.objects (vault : Vault) : SortedStore String StoredObject :=
  vault.storage vault.backup.dst.place

/-- An object of the snapshot is left. -/
def Snapshot.isLeft (objects : SortedStore String StoredObject) (snapshot : Snapshot) : Bool :=
  snapshot.keys.any fun key => (objects.get? key).isSome

/-- Forget the snapshots of which no object is left. -/
def Vault.settle (vault : Vault) : Vault :=
  { vault with snapshots := vault.snapshots.filter (Snapshot.isLeft vault.objects) }

/-- `deleteAllUnderPrefix`, which may stop after some objects with an error. -/
def deleteAllUnderPrefix (place : Place) (stop : Option Nat) (storage : Storage) (folder : String) :
    Storage :=
  let keys := keysUnder (storage place) folder
  let deleted := stop.elim keys keys.take
  Function.update storage place (deleted.foldl SortedStore.erase (storage place))

/-- The timestamps of the snapshots that the list, the restore and the retention pass find. -/
def listed (b : Backup) (storage : Storage) : List Int :=
  listSnapshotTimestamps (snapshotRoot b.name)
    (keysUnder (storage b.dst.place) (snapshotRoot b.name))

/-- `pruneSnapshots`, with the errors of the deletions by their folders. -/
def pruneSnapshots (b : Backup) (started : Int) (stops : String -> Option Nat) (storage : Storage) :
    Storage :=
  (pruneFolders b started (listed b storage)).foldl
    (fun storage folder => deleteAllUnderPrefix b.dst.place (stops folder) storage folder) storage

inductive Event where
  | run (etag : ETags) (answers : Answers) (schedule : List SyncAction -> List SyncAction)
      (started : Int)
  | prune (started : Int) (stops : String -> Option Nat)
  | edit (req : Backups.BackupRequest)
  | put (place : Place) (key : String) (object : StoredObject)
  | erase (place : Place) (key : String)

/-- The snapshot that a run of these actions has written. -/
def Backup.snapshot (b : Backup) (started : Int) (actions : List SyncAction) : Snapshot :=
  ⟨started, snapshotPrefix b.name started, actions.map SyncAction.dstKey⟩

/-- The key belongs to a snapshot. -/
def Vault.Holds (vault : Vault) (place : Place) (key : String) : Prop :=
  place = vault.backup.dst.place ∧ Exists fun s => s ∈ vault.snapshots ∧ key ∈ s.keys

instance (vault : Vault) (place : Place) (key : String) : Decidable (vault.Holds place key) :=
  inferInstanceAs (Decidable (_ ∧ _))

/-- What the request makes of the backup, if its source and destination are the backup's. -/
def Backup.edited (b : Backup) (req : Backups.BackupRequest) : Backup :=
  { b with
    name := trimSpace req.name
    retention := Backups.applyBackupRetention req.mode req.retention }

/-- Successful runs, prunes and accepted edits of a snapshot backup.  The workers of a run execute
the actions of its plan in any order. -/
def step (vault : Vault) : Event -> Option Vault
  | .run etag answers schedule started =>
      match vault.backup.plan etag answers started vault.storage,
          vault.backup.run etag answers schedule started vault.storage with
      | .ok plan, some (actions, after) =>
          if vault.backup.mode = .snapshot ∧ actions.Perm plan then
            some (Vault.settle { vault with
              storage := after
              snapshots := vault.snapshots ++ [Backup.snapshot vault.backup started actions] })
          else none
      | _, _ => none
  | .prune started stops =>
      some (Vault.settle { vault with
        storage := pruneSnapshots vault.backup started stops vault.storage })
  | .edit req =>
      if Backups.validateBackupRequest req = none ∧
          Backups.applyBackupMode req.mode = vault.backup.mode then
        some { vault with backup := Backup.edited vault.backup req }
      else none
  | .put place key object =>
      some { vault with
        storage := Function.update vault.storage place ((vault.storage place).put key object) }
  | .erase place key =>
      if vault.Holds place key then none
      else some { vault with
        storage := Function.update vault.storage place ((vault.storage place).erase key) }

/-! ## What is claimed, and when it holds -/

/-- The snapshot is found under the backup's name, read from where it was written, and whole. -/
structure Snapshot.Reachable (b : Backup) (storage : Storage) (s : Snapshot) : Prop where
  found : wholeSecond s.started ∈ listed b storage
  read : snapshotPrefix b.name (wholeSecond s.started) = s.folder
  within : forall key, key ∈ s.keys -> Exists fun rest => key = s.folder ++ rest

def Vault.Reachable (vault : Vault) : Prop :=
  forall s, s ∈ vault.snapshots -> s.Reachable vault.backup vault.storage

/-- The run copies the key below its snapshot's folder: a key that it moves, or one that lies
there. -/
def Lands (b : Backup) (started : Int) (key : String) : Prop :=
  b.srcPrefix ≠ "" ∧ key ≠ planPrefix b.srcPrefix ∨
    Exists fun rest => key = snapshotPrefix b.name started ++ rest

/-- A run that copies something copies all of it below the folder of a year of four digits, and an
edit keeps the slug of the name unless there are no snapshots. -/
def KeepsReachable (vault : Vault) : Event -> Prop
  | .run _ _ _ started => vault.backup.selected vault.storage = [] ∨
      FourDigitYear started ∧ forall key, key ∈ vault.backup.selected vault.storage ->
        Lands vault.backup started key
  | .edit req => vault.snapshots = [] ∨
      slugifyName (trimSpace req.name) = slugifyName vault.backup.name
  | _ => True

/-- Every snapshot has an object left. -/
def Vault.Sound (vault : Vault) : Prop :=
  forall s, s ∈ vault.snapshots -> s.isLeft vault.objects = true

/-! ## Folders -/

theorem snapshotPrefix_eq_iff {name other : String} {t : Int} :
    snapshotPrefix name t = snapshotPrefix other t ↔ slugifyName name = slugifyName other := by
  unfold snapshotPrefix
  rw [String.append_left_inj, String.append_left_inj, String.append_left_inj]

theorem Snapshot.isLeft_iff {objects : SortedStore String StoredObject} {s : Snapshot} :
    s.isLeft objects = true ↔ Exists fun key => key ∈ s.keys ∧ objects.get? key ≠ none := by
  simp [Snapshot.isLeft, Option.isSome_iff_ne_none]

/-- Whatever is listed is of a year of four digits. -/
theorem year_of_listed {b : Backup} {storage : Storage} {t : Int}
    (found : wholeSecond t ∈ listed b storage) : FourDigitYear t := by
  rcases List.mem_filterMap.mp found with ⟨folder, _, parsed⟩
  have whole := (folderTime_iff.mpr ⟨folder, parsed⟩).2
  unfold FourDigitYear at whole ⊢
  rwa [dayOf_wholeSecond] at whole

/-- A restore that asks for a reachable snapshot by its time reads from where it was written. -/
theorem Snapshot.Reachable.restore {b : Backup} {storage : Storage} {s : Snapshot}
    (reachable : s.Reachable b storage) (snapshot : b.mode = .snapshot) (answers : Answers)
    (schedule : List String -> List String) (target : Bucket) {req : RestoreRequest}
    (asked : req.snapshotTimestamp = formatTimestamp s.started) :
    b.restore answers schedule target req storage =
      .ok (copyRestoreTree answers schedule b.dst target s.folder (trimSpace req.dstPrefix)
        req.overwriteExisting storage) := by
  have resolved : resolveRestoreTimestamp b.name (listed b storage) req.snapshotTimestamp =
      .ok (wholeSecond s.started) := by
    rw [asked]
    exact resolveRestoreTimestamp_named.mpr ⟨year_of_listed reachable.found, rfl, reachable.found⟩
  unfold listed at resolved
  unfold Backup.restore
  rw [snapshot]
  dsimp only
  rw [resolved, ← reachable.read]

theorem restore_photo : (photoBackup "2026/").restore {} (fun keys => keys)
    prefixedRestoration.target prefixedRestoration.req prefixedRun.after =
      .ok (copyRestoreTree {} (fun keys => keys) vaultSide prefixedRestoration.target
        "photos/2026-06-01_03:00:00/" "2026" false prefixedRun.after) := by
  have reachable : Snapshot.Reachable (photoBackup "2026/") prefixedRun.after
      ⟨photoTime, "photos/2026-06-01_03:00:00/", ["photos/2026-06-01_03:00:00/cat.jpg"]⟩ := by
    refine ⟨by decide +kernel, by decide +kernel, ?_⟩
    intro key member
    exact ⟨"cat.jpg", (List.mem_singleton.mp member).trans (by decide +kernel)⟩
  exact reachable.restore rfl {} (fun keys => keys) prefixedRestoration.target (by decide +kernel)

/-- A snapshot with an object below its folder is found if its year has four digits. -/
theorem listed_iff {b : Backup} {storage : Storage} {s : Snapshot}
    (left : s.isLeft (storage b.dst.place) = true)
    (read : snapshotPrefix b.name s.started = s.folder)
    (within : forall key, key ∈ s.keys -> Exists fun rest => key = s.folder ++ rest) :
    wholeSecond s.started ∈ listed b storage ↔ FourDigitYear s.started := by
  constructor
  · exact year_of_listed
  · intro year
    rcases Snapshot.isLeft_iff.mp left with ⟨key, member, present⟩
    rcases within key member with ⟨rest, rfl⟩
    rw [← read] at present
    refine mem_listSnapshotTimestamps year (mem_keysUnder.mpr ⟨present, formatTimestamp s.started ++
      "/" ++ rest, ?_⟩)
    simp [snapshotPrefix, snapshotRoot, String.append_assoc]

/-- What makes a snapshot reachable, beside the object that is left. -/
structure Snapshot.Fits (b : Backup) (s : Snapshot) : Prop where
  year : FourDigitYear s.started
  read : snapshotPrefix b.name s.started = s.folder
  within : forall key, key ∈ s.keys -> Exists fun rest => key = s.folder ++ rest

theorem Snapshot.reachable_iff {b : Backup} {storage : Storage} {s : Snapshot}
    (left : s.isLeft (storage b.dst.place) = true) : s.Reachable b storage ↔ s.Fits b := by
  constructor
  · rintro ⟨found, read, within⟩
    rw [snapshotPrefix_wholeSecond] at read
    exact ⟨(listed_iff left read within).mp found, read, within⟩
  · rintro ⟨year, read, within⟩
    refine ⟨(listed_iff left read within).mpr year, ?_, within⟩
    rw [snapshotPrefix_wholeSecond]
    exact read

/-- In a sound vault it does not depend on the objects what is reachable. -/
theorem Vault.Sound.reachable_iff {vault : Vault} (sound : vault.Sound) :
    vault.Reachable ↔ forall s, s ∈ vault.snapshots -> s.Fits vault.backup :=
  forall_congr' fun s => ⟨fun all member => (Snapshot.reachable_iff (sound s member)).mp (all member),
    fun all member => (Snapshot.reachable_iff (sound s member)).mpr (all member)⟩

/-- The planned key lies in the folder exactly if the run moves it there or finds it there. -/
theorem dstKey_in_folder_iff {b : Backup} (snapshot : b.mode = .snapshot) {started : Int}
    {storage : Storage} {key : String} (selected : key ∈ b.selected storage) :
    (Exists fun rest => b.dstKey started key = snapshotPrefix b.name started ++ rest) ↔
      Lands b started key := by
  have named := b.jobPrefix_ne_empty snapshot started
  have folder := b.jobPrefix_folder snapshot started
  unfold Lands
  by_cases moved : b.srcPrefix ≠ "" ∧ key ≠ planPrefix b.srcPrefix
  · rcases (mem_keysUnder.mp selected).2 with ⟨relative, rfl⟩
    have below : relative ≠ "" := by
      rintro rfl
      exact moved.2 String.append_empty
    refine iff_of_true ⟨relative, ?_⟩ (Or.inl moved)
    rw [Backup.dstKey, planDstKey_append moved.1 named below, folder]
  · rw [or_iff_right moved]
    have unmoved : b.dstKey started key = key := by
      by_cases whole : b.srcPrefix = ""
      · rw [Backup.dstKey, whole, planDstKey_of_empty]
      · have itself : key = planPrefix b.srcPrefix := by
          by_contra other
          exact moved ⟨whole, other⟩
        rw [Backup.dstKey, itself, planDstKey_self]
    rw [unmoved]

/-! ## What a run leaves in the destination bucket -/

section

variable {b : Backup} {etag : ETags} {answers : Answers} {started : Int} {storage after : Storage}
  {actions plan : List SyncAction}

/-- A worker deletes nothing, and the key of its action is there afterwards. -/
theorem work_present {action : SyncAction} (worked : b.work answers storage action = some after) :
    (forall place key, (storage place).get? key ≠ none -> (after place).get? key ≠ none) ∧
      ((action.type = .skip -> (storage b.dst.place).get? action.dstKey ≠ none) ->
        (after b.dst.place).get? action.dstKey ≠ none) := by
  unfold Backup.work at worked
  cases kind : action.type with
  | skip =>
      rw [kind] at worked
      cases Option.some.inj worked
      exact ⟨fun _ _ present => present, fun skipped => skipped rfl⟩
  | copy =>
      rw [kind] at worked
      dsimp only at worked
      cases copied : copyStored copyObject b.src b.dst action.srcKey action.dstKey
          (answers.copy action.srcKey) storage with
      | error error =>
          rw [copied] at worked
          cases worked
      | ok stored =>
          rw [copied] at worked
          cases Option.some.inj worked
          rcases copyStored_ok copied with ⟨object, rfl, _⟩
          constructor
          · intro place key present
            rw [Storage.get?_put_at]
            split
            · exact Option.some_ne_none object
            · exact present
          · intro _
            rw [Storage.get?_put_at, if_pos ⟨rfl, rfl⟩]
            exact Option.some_ne_none object

/-- Every key of the actions is there after the run, if the skipped ones were before. -/
theorem run_present (run : exec (b.work answers) storage actions = some after)
    (skipped : forall action, action ∈ actions -> action.type = .skip ->
      (storage b.dst.place).get? action.dstKey ≠ none) :
    (forall place key, (storage place).get? key ≠ none -> (after place).get? key ≠ none) ∧
      forall action, action ∈ actions -> (after b.dst.place).get? action.dstKey ≠ none := by
  induction actions generalizing storage with
  | nil =>
      cases Option.some.inj run
      exact ⟨fun _ _ present => present, fun _ member => absurd member List.not_mem_nil⟩
  | cons action rest ih =>
      rcases Transition.exec_cons.mp run with ⟨middle, worked, tail⟩
      rcases work_present worked with ⟨kept, own⟩
      have later := ih tail fun other member skip =>
        kept _ _ (skipped other (List.mem_cons_of_mem _ member) skip)
      refine ⟨fun place key present => later.1 place key (kept place key present), ?_⟩
      intro other member
      rcases List.mem_cons.mp member with rfl | listed
      · exact later.1 _ _ (own (skipped other List.mem_cons_self))
      · exact later.2 other listed

theorem plan_skipped (planned : b.plan etag answers started storage = .ok plan)
    {action : SyncAction} (member : action ∈ plan) (skip : action.type = .skip) :
    (storage b.dst.place).get? action.dstKey ≠ none := by
  unfold Backup.plan at planned
  split at planned
  · cases planned
  · cases Except.ok.inj planned
    rcases List.mem_map.mp member with ⟨srcKey, _, rfl⟩
    intro absent
    have unmatched := etagMatches_of_absent etag (answers.stat (b.dstKey started srcKey))
      (b.src.at srcKey) (show storage.world (b.dst.at (b.dstKey started srcKey)) = none from absent)
    simp [planAction, unmatched] at skip

theorem plan_keys (planned : b.plan etag answers started storage = .ok plan) :
    plan.map SyncAction.dstKey = (b.selected storage).map (b.dstKey started) := by
  unfold Backup.plan at planned
  split at planned
  · cases planned
  · cases Except.ok.inj planned
    rw [List.map_map]
    rfl

/-- After a run the keys of its snapshot are there, and so is whatever was there before. -/
theorem snapshot_present {schedule : List SyncAction -> List SyncAction}
    (planned : b.plan etag answers started storage = .ok plan)
    (ran : b.run etag answers schedule started storage = some (actions, after))
    (all : actions.Perm plan) :
    (forall place key, (storage place).get? key ≠ none -> (after place).get? key ≠ none) ∧
      forall key, key ∈ (Backup.snapshot b started actions).keys ->
        (after b.dst.place).get? key ≠ none := by
  unfold Backup.run at ran
  rw [planned] at ran
  dsimp only at ran
  rcases Option.map_eq_some_iff.mp ran with ⟨stored, executed, same⟩
  rcases Prod.mk.inj same with ⟨rfl, rfl⟩
  have present := run_present executed fun action member skip =>
    plan_skipped planned (all.mem_iff.mp member) skip
  refine ⟨present.1, ?_⟩
  intro key member
  rcases List.mem_map.mp member with ⟨action, listed, rfl⟩
  exact present.2 action listed

/-- The snapshot's keys are the planned ones. -/
theorem mem_snapshot_keys (planned : b.plan etag answers started storage = .ok plan)
    (all : actions.Perm plan) {key : String} :
    key ∈ (Backup.snapshot b started actions).keys ↔
      Exists fun srcKey => srcKey ∈ b.selected storage ∧ b.dstKey started srcKey = key := by
  have keys := (all.map SyncAction.dstKey).mem_iff (a := key)
  rw [plan_keys planned] at keys
  exact keys.trans List.mem_map

end

/-! ## The steps -/

variable {vault next : Vault}

theorem settle_sound (vault : Vault) : vault.settle.Sound :=
  fun _ member => (List.mem_filter.mp member).2

/-- What a successful run of the backup is. -/
theorem step_run {etag : ETags} {answers : Answers}
    {schedule : List SyncAction -> List SyncAction} {started : Int}
    (taken : step vault (.run etag answers schedule started) = some next) :
    Exists fun plan => Exists fun actions => Exists fun after =>
      vault.backup.plan etag answers started vault.storage = .ok plan ∧
        vault.backup.run etag answers schedule started vault.storage = some (actions, after) ∧
          vault.backup.mode = .snapshot ∧ actions.Perm plan ∧
            next = Vault.settle { vault with
              storage := after
              snapshots := vault.snapshots ++ [Backup.snapshot vault.backup started actions] } := by
  simp only [step] at taken
  cases planned : vault.backup.plan etag answers started vault.storage with
  | error error =>
      rw [planned] at taken
      cases taken
  | ok plan =>
      rw [planned] at taken
      cases ran : vault.backup.run etag answers schedule started vault.storage with
      | none =>
          rw [ran] at taken
          cases taken
      | some outcome =>
          rcases outcome with ⟨actions, after⟩
          rw [ran] at taken
          dsimp only at taken
          split at taken
          · rename_i both
            exact ⟨plan, actions, after, rfl, rfl, both.1, both.2, (Option.some.inj taken).symm⟩
          · cases taken

/-- What other people do leaves the objects of the snapshots. -/
theorem Vault.Sound.of_present (sound : vault.Sound) {storage : Storage}
    (kept : forall s, s ∈ vault.snapshots -> forall key, key ∈ s.keys ->
      vault.objects.get? key ≠ none -> (storage vault.backup.dst.place).get? key ≠ none) :
    Vault.Sound { vault with storage } := by
  intro s member
  rcases Snapshot.isLeft_iff.mp (sound s member) with ⟨key, own, present⟩
  exact Snapshot.isLeft_iff.mpr ⟨key, own, kept s member key own present⟩

theorem Vault.Sound.step {event : Event} (sound : vault.Sound)
    (taken : step vault event = some next) : next.Sound := by
  cases event with
  | run etag answers schedule started =>
      rcases step_run taken with ⟨_, _, _, _, _, _, _, rfl⟩
      exact settle_sound _
  | prune started stops =>
      cases Option.some.inj taken
      exact settle_sound _
  | edit req =>
      simp only [Renames.step] at taken
      split at taken
      · cases Option.some.inj taken
        exact sound
      · cases taken
  | put place key object =>
      cases Option.some.inj taken
      refine sound.of_present fun s member kept own present => ?_
      by_cases here : vault.backup.dst.place = place
      · subst here
        rw [Function.update_self, SortedStore.get?_put]
        split
        · exact Option.some_ne_none object
        · exact present
      · rw [Function.update_of_ne here]
        exact present
  | erase place key =>
      simp only [Renames.step] at taken
      split at taken
      · cases taken
      · rename_i foreign
        cases Option.some.inj taken
        refine sound.of_present fun s member kept own present => ?_
        by_cases here : vault.backup.dst.place = place
        · subst here
          have apart : kept ≠ key := fun same => foreign ⟨rfl, s, member, same ▸ own⟩
          rw [Function.update_self, SortedStore.get?_erase, if_neg apart]
          exact present
        · rw [Function.update_of_ne here]
          exact present

/-- A run keeps snapshots reachable exactly if its own one is. -/
theorem run_reachable_iff {etag : ETags} {answers : Answers}
    {schedule : List SyncAction -> List SyncAction} {started : Int}
    (fits : forall s, s ∈ vault.snapshots -> s.Fits vault.backup)
    (taken : step vault (.run etag answers schedule started) = some next) :
    (forall s, s ∈ next.snapshots -> s.Fits next.backup) ↔
      KeepsReachable vault (.run etag answers schedule started) := by
  rcases step_run taken with ⟨plan, actions, after, planned, ran, mode, all, rfl⟩
  have present := snapshot_present planned ran all
  have keys := fun key => @mem_snapshot_keys vault.backup etag answers started vault.storage actions
    plan planned all key
  constructor
  · intro fitting
    by_cases nothing : vault.backup.selected vault.storage = []
    · exact Or.inl nothing
    · rcases List.exists_mem_of_ne_nil _ nothing with ⟨first, chosen⟩
      have own := (keys (vault.backup.dstKey started first)).mpr ⟨first, chosen, rfl⟩
      have new : Snapshot.Fits vault.backup (Backup.snapshot vault.backup started actions) := by
        refine fitting _ (List.mem_filter.mpr ⟨List.mem_append_right _ List.mem_cons_self, ?_⟩)
        exact Snapshot.isLeft_iff.mpr ⟨_, own, present.2 _ own⟩
      refine Or.inr ⟨new.year, ?_⟩
      intro key selected
      exact (dstKey_in_folder_iff mode selected).mp
        (new.within _ ((keys _).mpr ⟨key, selected, rfl⟩))
  · intro keeps s member
    rcases List.mem_filter.mp member with ⟨listed, left⟩
    rcases List.mem_append.mp listed with old | new
    · exact fits s old
    · cases List.mem_singleton.mp new
      rcases Snapshot.isLeft_iff.mp left with ⟨key, own, _⟩
      rcases (keys key).mp own with ⟨first, chosen, _⟩
      rcases keeps with nothing | ⟨year, lands⟩
      · rw [nothing] at chosen
        cases chosen
      · refine ⟨year, rfl, ?_⟩
        intro other listed
        rcases (keys other).mp listed with ⟨srcKey, selected, rfl⟩
        exact (dstKey_in_folder_iff mode selected).mpr (lands srcKey selected)

/-- An edit keeps snapshots reachable exactly if it keeps the slug or there are none. -/
theorem edit_reachable_iff {req : Backups.BackupRequest}
    (fits : forall s, s ∈ vault.snapshots -> s.Fits vault.backup)
    (taken : step vault (.edit req) = some next) :
    (forall s, s ∈ next.snapshots -> s.Fits next.backup) ↔ KeepsReachable vault (.edit req) := by
  simp only [step] at taken
  split at taken
  · cases Option.some.inj taken
    constructor
    · intro fitting
      by_cases none : vault.snapshots = []
      · exact Or.inl none
      · rcases List.exists_mem_of_ne_nil _ none with ⟨s, member⟩
        have same := (fitting s member).read.trans (fits s member).read.symm
        exact Or.inr (snapshotPrefix_eq_iff.mp same)
    · rintro (none | slug) s member
      · have listed : s ∈ vault.snapshots := member
        rw [none] at listed
        cases listed
      · have old := fits s member
        exact ⟨old.year, (snapshotPrefix_eq_iff.mpr slug).trans old.read, old.within⟩
  · cases taken

theorem step_reachable_iff {event : Event} (sound : vault.Sound) (reachable : vault.Reachable)
    (taken : step vault event = some next) : next.Reachable ↔ KeepsReachable vault event := by
  have fits := sound.reachable_iff.mp reachable
  refine (sound.step taken).reachable_iff.trans ?_
  cases event with
  | run etag answers schedule started => exact run_reachable_iff fits taken
  | edit req => exact edit_reachable_iff fits taken
  | prune started stops =>
      cases Option.some.inj taken
      exact iff_of_true (fun s member => fits s (List.mem_filter.mp member).1) trivial
  | put place key object =>
      cases Option.some.inj taken
      exact iff_of_true fits trivial
  | erase place key =>
      simp only [step] at taken
      split at taken
      · cases taken
      · cases Option.some.inj taken
        exact iff_of_true fits trivial

/-- Every snapshot is reachable throughout a run exactly if no edit moves the folders of snapshots
there are, and every run copies below its folder. -/
theorem snapshots_reachable_iff {start final : Vault} {events : List Event}
    (fresh : start.snapshots = []) (run : exec step start events = some final) :
    Throughout step Vault.Reachable start events ↔ Meets step KeepsReachable start events := by
  refine throughout_iff_meets (fun _ _ _ sound taken => Vault.Sound.step sound taken)
    (fun _ _ _ sound reachable taken => step_reachable_iff sound reachable taken) ?_ ?_ run
  · intro s member
    rw [fresh] at member
    cases member
  · intro s member
    rw [fresh] at member
    cases member

/-! ## A backup that is renamed -/

def photoVault : Vault := ⟨photoBackup "2026/", photoStorage, []⟩

/-- The form of the backup with another name. -/
def renameRequest (name : String) : Backups.BackupRequest where
  name := name
  srcRegionID := "r1"
  srcBucket := "photos"
  dstRegionID := "r2"
  dstBucket := "vault"
  schedule := "0 3 * * *"
  mode := "snapshot"

/-- A run, and the backup gets another name. -/
def runAndRename (name : String) : List Event :=
  [.run (fun _ _ => "") {} (fun actions => actions) photoTime, .edit (renameRequest name)]

def renamedVault (name : String) : Vault :=
  (exec step photoVault (runAndRename name)).getD photoVault

/-- A name with the same slug leaves the snapshot where it is looked for. -/
theorem snapshots_reachable_iff_capitals :
    Throughout step Vault.Reachable photoVault (runAndRename " PHOTOS ") := by
  have run : exec step photoVault (runAndRename " PHOTOS ") = some (renamedVault " PHOTOS ") := by
    rfl
  have selected : (photoBackup "2026/").selected photoStorage = ["2026/cat.jpg"] := by
    rfl
  refine (@snapshots_reachable_iff photoVault _ _ rfl run).mpr ⟨Or.inr ⟨by decide, ?_⟩, ?_⟩
  · intro key member
    have only := List.mem_singleton.mp (selected ▸ member)
    rw [only]
    exact Or.inl (by decide)
  · intro next taken
    cases taken
    exact ⟨Or.inr (by decide +kernel), fun _ _ => trivial⟩

/-- After a rename the list does not have the snapshot. -/
theorem rename_loses_snapshots :
    ¬ forall (start final : Vault) (events : List Event), start.snapshots = [] ->
      exec step start events = some final -> Throughout step Vault.Reachable start events := by
  intro stated
  have run : exec step photoVault (runAndRename "Pictures") = some (renamedVault "Pictures") := by
    rfl
  have reachable := stated photoVault _ _ rfl run (runAndRename "Pictures") [] _
    (List.append_nil _).symm run
  have found := (reachable _ (List.mem_singleton.mpr rfl)).found
  have none : listed (renamedVault "Pictures").backup (renamedVault "Pictures").storage = [] := by
    decide +kernel
  rw [none] at found
  cases found

end Renames
end Snapshots
end Basement
