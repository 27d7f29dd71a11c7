import Basement.Snapshots.Runs

namespace Basement
namespace Snapshots

open Library Drivers Api Federation

/-!
# Restoring a snapshot

A restore finds the folder of a snapshot again by its timestamp and copies every object in
it to the target, below the destination prefix of the request.  The prefix that the run has
taken off the source keys is not put back.
-/

/-- The body of a restore request, its region and bucket resolved. -/
structure RestoreRequest where
  snapshotTimestamp : String
  dstPrefix : String := ""
  overwriteExisting : Bool := false
  deriving DecidableEq, Repr

/-- The newest of some timestamps. -/
def newest (first : Int) (rest : List Int) : Int :=
  rest.foldl (fun newest ts => if newest < ts then ts else newest) first

/-- `resolveRestoreTimestamp`, from the timestamps under the snapshot root. -/
def resolveRestoreTimestamp (name : String) (timestamps : List Int) (requested : String) :
    Except String Int :=
  match timestamps with
  | [] => .error ("no snapshots available for backup " ++ name.quote)
  | first :: rest =>
      if trimSpace requested = "" ∨ trimSpace requested = "latest" then .ok (newest first rest)
      else
        match parseSnapshotTimestamp (trimSpace requested) with
        | none =>
            .error ("invalid snapshot timestamp " ++ (trimSpace requested).quote ++
              " (expected layout 2006-01-02_15:04:05 or \"latest\")")
        | some want =>
            if want ∈ first :: rest then .ok want else .error "snapshot timestamp not found"

/-- `strings.TrimPrefix`. -/
def trimPrefix (s root : String) : String :=
  if root.toList.isPrefixOf s.toList = true then String.ofList (s.toList.drop root.toList.length)
  else s

/-- Where a restore puts an object of the snapshot. -/
def restoreDstKey (srcPrefix dstPrefix key : String) : String :=
  if dstPrefix = "" then trimPrefix key srcPrefix else dstPrefix ++ "/" ++ trimPrefix key srcPrefix

/-- `appendBounded`. -/
def appendBounded (existing : List String) (msg : String) : List String :=
  if 10 ≤ existing.length then existing else existing ++ [msg]

/-- A restore under way: the storage, the keys copied so far with their new keys, the number
of objects skipped, and the errors. -/
structure Restoring where
  storage : Storage
  written : List (String × String) := []
  skipped : Nat := 0
  errors : List String := []

/-- What the loop of `copyRestoreTree` does with one listed object. -/
def restoreObject (answers : Answers) (src dst : Bucket) (srcPrefix dstPrefix : String)
    (overwrite : Bool) (state : Restoring) (key : String) : Restoring :=
  if trimPrefix key srcPrefix = "" then state
  else if overwrite = false ∧ answers.stat (restoreDstKey srcPrefix dstPrefix key) = none ∧
      (state.storage dst.place).get? (restoreDstKey srcPrefix dstPrefix key) ≠ none then
    { state with skipped := state.skipped + 1 }
  else
    match copyStored copyRestoreObject src dst key (restoreDstKey srcPrefix dstPrefix key)
        (answers.copy key) state.storage with
    | .error error =>
        { state with errors := appendBounded state.errors ("copy " ++ key.quote ++ ": " ++ error) }
    | .ok after =>
        { state with
          storage := after
          written := state.written ++ [(key, restoreDstKey srcPrefix dstPrefix key)] }

/-- `copyRestoreTree`; the workers finish the objects in the order of the schedule. -/
def copyRestoreTree (answers : Answers) (schedule : List String -> List String) (src dst : Bucket)
    (srcPrefix dstPrefix : String) (overwrite : Bool) (storage : Storage) : Restoring :=
  match answers.list with
  | some error => { storage := storage, errors := ["list snapshot: " ++ error] }
  | none =>
      (schedule (keysUnder (storage src.place) srcPrefix)).foldl
        (restoreObject answers src dst srcPrefix (trimSuffix dstPrefix "/") overwrite)
        { storage := storage }

/-- `runRestore`, with its target resolved and the listing of the snapshot root answered. -/
def Backup.restore (b : Backup) (answers : Answers) (schedule : List String -> List String)
    (target : Bucket) (req : RestoreRequest) (storage : Storage) : Except String Restoring :=
  match b.mode with
  | .mirror => .error "restore requires a snapshot-mode backup; this backup is mirror-mode"
  | .snapshot =>
      match resolveRestoreTimestamp b.name
          (listSnapshotTimestamps (snapshotRoot b.name)
            (keysUnder (storage b.dst.place) (snapshotRoot b.name))) req.snapshotTimestamp with
      | .error error => .error error
      | .ok ts =>
          .ok (copyRestoreTree answers schedule b.dst target (snapshotPrefix b.name ts)
            (trimSpace req.dstPrefix) req.overwriteExisting storage)

/-! ## Finding the snapshot again -/

theorem trimSpace_of_plain {s : String} (plain : forall char, char ∈ s.toList -> isSpace char = false) :
    trimSpace s = s := by
  have kept : forall chars : List Char, (forall char, char ∈ chars -> char ∈ s.toList) ->
      chars.dropWhile isSpace = chars := by
    intro chars within
    cases chars with
    | nil => rfl
    | cons first rest =>
        rw [List.dropWhile_cons, plain first (within first List.mem_cons_self)]
        rfl
  rw [trimSpace, kept s.toList fun _ member => member,
    kept _ fun _ member => List.mem_reverse.mp member, List.reverse_reverse, String.ofList_toList]

theorem isSpace_of_isDigit {char : Char} (digit : char.isDigit = true) : isSpace char = false := by
  cases space : isSpace char with
  | false => rfl
  | true =>
      exfalso
      simp only [isSpace, Bool.or_eq_true, Bool.and_eq_true, decide_eq_true_eq, List.mem_cons,
        List.not_mem_nil, or_false] at space
      rcases space with listed | wide
      · rcases listed with rfl | rfl | rfl | rfl | rfl | rfl | rfl | rfl | rfl | rfl | rfl | rfl | rfl | rfl
        all_goals exact absurd digit (by decide)
      · have small := (Char.isDigit_iff_toNat.mp digit).2
        have large : '\u2000'.toNat ≤ char.toNat := UInt32.le_iff_toNat_le.mp wide.1
        exact absurd (Nat.le_trans large small) (by decide)

/-- A timestamp has no space around it. -/
theorem trimSpace_format (t : Int) : trimSpace (formatTimestamp t) = formatTimestamp t := by
  refine trimSpace_of_plain fun char member => ?_
  rcases mem_formatTimestamp member with digit | rfl | rfl | rfl
  · exact isSpace_of_isDigit digit
  all_goals decide

/-- It is not one of the two texts that stand for the newest snapshot. -/
theorem format_named (t : Int) : ¬ (formatTimestamp t = "" ∨ formatTimestamp t = "latest") := by
  rintro (empty | latest)
  · have chars := congrArg String.toList empty
    simp [formatTimestamp, monthLayout] at chars
  · have member : 'l' ∈ (formatTimestamp t).toList := by
      rw [latest]
      decide
    rcases mem_formatTimestamp member with digit | same | same | same
    · exact absurd digit (by decide)
    all_goals exact absurd same (by decide)

/-- A request that names the time of a run resolves to the second of the run, if the year has
four digits and the snapshot is listed. -/
theorem resolveRestoreTimestamp_named {name : String} {started ts : Int} {timestamps : List Int} :
    resolveRestoreTimestamp name timestamps (formatTimestamp started) = .ok ts ↔
      FourDigitYear started ∧ ts = wholeSecond started ∧ wholeSecond started ∈ timestamps := by
  cases timestamps with
  | nil => simp [resolveRestoreTimestamp]
  | cons first rest =>
      simp only [resolveRestoreTimestamp, trimSpace_format, if_neg (format_named started),
        parseSnapshotTimestamp_format]
      by_cases year : FourDigitYear started
      · rw [parseTimestamp_format year]
        by_cases listed : wholeSecond started ∈ first :: rest
        · simp [year, listed, eq_comm]
        · simp [listed]
      · rw [parseTimestamp_format_none year]
        simp [year]

/-! ## The way of a key through both planners -/

theorem trimPrefix_append (root rest : String) : trimPrefix (root ++ rest) root = rest := by
  simp [trimPrefix]

/-- The job of a snapshot run has the snapshot's folder as its destination prefix. -/
theorem Backup.jobPrefix_folder {b : Backup} (snapshot : b.mode = .snapshot) (started : Int) :
    b.jobPrefix started ++ "/" = snapshotPrefix b.name started := by
  rw [Backup.jobPrefix, snapshot]
  simp only [snapshotPrefix, trimSuffix_append]

theorem Backup.jobPrefix_ne_empty {b : Backup} (snapshot : b.mode = .snapshot) (started : Int) :
    b.jobPrefix started ≠ "" := by
  rw [Backup.jobPrefix, snapshot]
  simp only [snapshotPrefix, trimSuffix_append, Ne, String.append_eq_empty_iff]
  exact fun both => absurd both.1.2 (by decide)

/-- The prefix a restore puts in front of the keys. -/
def RestoreRequest.folder (req : RestoreRequest) : String := trimSuffix (trimSpace req.dstPrefix) "/"

/-- The run puts the key into the snapshot's folder, and the restore puts it back. -/
def Travels (b : Backup) (started : Int) (folder key : String) : Prop :=
  Exists fun rest => rest ≠ "" ∧
    b.dstKey started key = snapshotPrefix b.name started ++ rest ∧
    restoreDstKey (snapshotPrefix b.name started) folder (snapshotPrefix b.name started ++ rest) = key

/-- What the way back takes: a key below a source prefix needs the source prefix as the
destination prefix of the restore.  A key the run does not move, because there is no source
prefix or because the key is the prefix itself, has to lie in the snapshot's folder already,
and the restore has to put it there again. -/
def ComesBack (b : Backup) (started : Int) (folder key : String) : Prop :=
  (b.srcPrefix ≠ "" ∧ key ≠ planPrefix b.srcPrefix ∧ folder ≠ "" ∧
      folder ++ "/" = planPrefix b.srcPrefix) ∨
    ((b.srcPrefix = "" ∨ key = planPrefix b.srcPrefix) ∧ folder = b.jobPrefix started ∧
      Exists fun rest => rest ≠ "" ∧ key = snapshotPrefix b.name started ++ rest)

theorem restoreDstKey_append (root folder rest : String) :
    restoreDstKey root folder (root ++ rest) = if folder = "" then rest else folder ++ "/" ++ rest := by
  rw [restoreDstKey, trimPrefix_append]

/-- A key that the run does not move. -/
theorem travels_unmoved_iff {b : Backup} (snapshot : b.mode = .snapshot) {started : Int}
    {folder key : String} (unmoved : b.dstKey started key = key) :
    Travels b started folder key ↔ folder = b.jobPrefix started ∧
      Exists fun rest => rest ≠ "" ∧ key = snapshotPrefix b.name started ++ rest := by
  have folderIs := b.jobPrefix_folder snapshot started
  have named := b.jobPrefix_ne_empty snapshot started
  simp only [Travels, unmoved, restoreDstKey_append]
  constructor
  · rintro ⟨rest, filled, moved, back⟩
    refine ⟨?_, rest, filled, moved⟩
    rw [moved] at back
    split at back
    · have empty := (String.append_left_inj rest).mp (String.empty_append.trans back)
      rw [← folderIs] at empty
      exact absurd (String.append_eq_empty_iff.mp empty.symm).1 named
    · have same := (String.append_left_inj rest).mp back
      rw [← folderIs] at same
      exact (String.append_left_inj "/").mp same
  · rintro ⟨rfl, rest, filled, moved⟩
    exact ⟨rest, filled, moved, by rw [if_neg named, folderIs, moved]⟩

/-- A key that the run moves from below the source prefix. -/
theorem travels_moved_iff {b : Backup} (snapshot : b.mode = .snapshot) {started : Int}
    {folder relative : String} (prefixed : b.srcPrefix ≠ "") (below : relative ≠ "") :
    Travels b started folder (planPrefix b.srcPrefix ++ relative) ↔
      folder ≠ "" ∧ folder ++ "/" = planPrefix b.srcPrefix := by
  have folderIs := b.jobPrefix_folder snapshot started
  have named := b.jobPrefix_ne_empty snapshot started
  have filled := planPrefix_ne_empty prefixed
  simp only [Travels, Backup.dstKey, planDstKey_append prefixed named below, restoreDstKey_append, folderIs,
    String.append_right_inj]
  constructor
  · rintro ⟨rest, _, rfl, back⟩
    split at back
    · exact absurd ((String.append_left_inj relative).mp (String.empty_append.trans back)).symm filled
    · rename_i given
      exact ⟨given, (String.append_left_inj relative).mp back⟩
  · rintro ⟨given, same⟩
    exact ⟨relative, below, rfl, by rw [if_neg given, same]⟩

/-- A selected key travels exactly under the conditions on its prefix. -/
theorem travels_iff {b : Backup} (snapshot : b.mode = .snapshot) {started : Int} {folder key : String}
    (selected : Exists fun relative => key = planPrefix b.srcPrefix ++ relative) :
    Travels b started folder key ↔ ComesBack b started folder key := by
  unfold ComesBack
  by_cases whole : b.srcPrefix = ""
  · have unmoved : b.dstKey started key = key := by
      rw [Backup.dstKey, whole, planDstKey_of_empty]
    rw [travels_unmoved_iff snapshot unmoved]
    simp [whole]
  · by_cases itself : key = planPrefix b.srcPrefix
    · have unmoved : b.dstKey started key = key := by
        rw [Backup.dstKey, itself, planDstKey_self]
      rw [travels_unmoved_iff snapshot unmoved]
      simp [itself]
    · rcases selected with ⟨relative, rfl⟩
      have below : relative ≠ "" := by
        rintro rfl
        exact itself String.append_empty
      rw [travels_moved_iff snapshot whole below]
      simp [whole, below]

/-! ## Runs and restores in which every call succeeds -/

/-- A run, with its copies in any order, that ends without an error. -/
structure SnapshotRun (b : Backup) (started : Int) (storage : Storage) where
  etag : ETags
  answers : Answers
  schedule : List SyncAction -> List SyncAction
  anyOrder : forall actions, (schedule actions).Perm actions
  actions : List SyncAction
  after : Storage
  ran : b.run etag answers schedule started storage = some (actions, after)

/-- A request to restore the snapshot that was started then, into an empty target. -/
structure Restoration (b : Backup) (started : Int) (storage : Storage) where
  answers : Answers
  schedule : List String -> List String
  anyOrder : forall keys, (schedule keys).Perm keys
  target : Bucket
  req : RestoreRequest
  named : req.snapshotTimestamp = formatTimestamp started
  emptyTarget : forall key, (storage target.place).get? key = none

variable {b : Backup} {started : Int} {storage before : Storage}

/-- What the restore does; a restore that finds no snapshot does nothing. -/
def Restoration.outcome (restoration : Restoration b started before) : Restoring :=
  match b.restore restoration.answers restoration.schedule restoration.target restoration.req before with
  | .ok state => state
  | .error _ => { storage := before }

/-- The keys in the snapshot's folder. -/
def Restoration.listed (_ : Restoration b started before) : List String :=
  keysUnder (before b.dst.place) (snapshotPrefix b.name started)

/-- The step of the restore's loop for one listed key. -/
def Restoration.step (restoration : Restoration b started before) (state : Restoring) (key : String) :
    Restoring :=
  restoreObject restoration.answers b.dst restoration.target (snapshotPrefix b.name started)
    restoration.req.folder restoration.req.overwriteExisting state key

/-- Where the restore puts a key of the snapshot. -/
def Restoration.dstKey (restoration : Restoration b started before) (key : String) : String :=
  restoreDstKey (snapshotPrefix b.name started) restoration.req.folder key

/-- No copy of the restore is diverted when it is made. -/
structure Restoration.Direct (restoration : Restoration b started before) : Prop where
  meets : Transition.Meets (fun state key => some (restoration.step state key))
    (fun state key =>
      ¬ Diverted b.dst restoration.target key (restoration.answers.copy key) state.storage)
    { storage := before } (restoration.schedule restoration.listed)

/-- No copy of the run is diverted when it is made. -/
structure SnapshotRun.Direct (run : SnapshotRun b started storage) : Prop where
  meets : Transition.Meets (b.work run.answers) (b.Direct run.answers) storage run.actions

/-- Every object the run wrote lies in the snapshot's folder. -/
def SnapshotRun.Contained (run : SnapshotRun b started storage) : Prop :=
  forall key, key ∈ writtenKeys run.actions ->
    Exists fun rest => key = snapshotPrefix b.name started ++ rest

/-- The restore writes the selected source objects and nothing else, each once, from its copy in
the snapshot to its original key, and with its bytes. -/
def Restoration.ReturnsSources (restoration : Restoration b started before) (storage : Storage) :
    Prop :=
  restoration.outcome.written.Perm
      ((b.selected storage).map fun key => (b.dstKey started key, key)) ∧
    forall key, key ∈ b.selected storage ->
      ((restoration.outcome.storage restoration.target.place).get? key).map StoredObject.body =
        ((storage b.src.place).get? key).map StoredObject.body

/-! ## What the restore's loop writes -/

/-- The outcome is the loop over the snapshot's folder, if the restore has found it. -/
theorem Restoration.outcome_eq (snapshot : b.mode = .snapshot)
    (restoration : Restoration b started before) :
    (FourDigitYear started ∧ wholeSecond started ∈ listSnapshotTimestamps (snapshotRoot b.name)
        (keysUnder (before b.dst.place) (snapshotRoot b.name)) ∧
      restoration.outcome =
        match restoration.answers.list with
        | some error => { storage := before, errors := ["list snapshot: " ++ error] }
        | none => (restoration.schedule restoration.listed).foldl restoration.step
            { storage := before }) ∨
    restoration.outcome.written = [] ∧ ¬ (FourDigitYear started ∧
      wholeSecond started ∈ listSnapshotTimestamps (snapshotRoot b.name)
        (keysUnder (before b.dst.place) (snapshotRoot b.name))) := by
  cases resolved : resolveRestoreTimestamp b.name (listSnapshotTimestamps (snapshotRoot b.name)
      (keysUnder (before b.dst.place) (snapshotRoot b.name))) (formatTimestamp started) with
  | ok ts =>
      rcases resolveRestoreTimestamp_named.mp resolved with ⟨year, rfl, member⟩
      refine Or.inl ⟨year, member, ?_⟩
      simp only [Restoration.outcome, Backup.restore, snapshot, restoration.named, resolved,
        copyRestoreTree, snapshotPrefix_wholeSecond]
      rfl
  | error error =>
      refine Or.inr ⟨?_, ?_⟩
      · simp only [Restoration.outcome, Backup.restore, snapshot, restoration.named, resolved]
      · rintro ⟨year, member⟩
        rw [resolveRestoreTimestamp_named.mpr ⟨year, rfl, member⟩] at resolved
        cases resolved

/-- What one step writes is the key it was given, moved. -/
theorem Restoration.mem_written_step (restoration : Restoration b started before) {state : Restoring}
    {key : String} {pair : String × String} (member : pair ∈ (restoration.step state key).written) :
    pair ∈ state.written ∨
      (trimPrefix key (snapshotPrefix b.name started) ≠ "" ∧ pair = (key, restoration.dstKey key)) := by
  unfold Restoration.step restoreObject at member
  split at member
  · exact Or.inl member
  · rename_i filled
    split at member
    · exact Or.inl member
    · split at member
      · exact Or.inl member
      · rcases List.mem_append.mp member with earlier | now
        · exact Or.inl earlier
        · exact Or.inr ⟨filled, List.mem_singleton.mp now⟩

theorem Restoration.mem_written (restoration : Restoration b started before) (keys : List String) :
    forall {state : Restoring} {pair : String × String},
      pair ∈ (keys.foldl restoration.step state).written -> pair ∈ state.written ∨
        Exists fun key => key ∈ keys ∧ trimPrefix key (snapshotPrefix b.name started) ≠ "" ∧
          pair = (key, restoration.dstKey key) := by
  induction keys with
  | nil => exact fun member => Or.inl member
  | cons key rest ih =>
      intro state pair member
      rw [List.foldl_cons] at member
      rcases ih member with earlier | ⟨other, listed, filled, moved⟩
      · rcases restoration.mem_written_step earlier with before | ⟨filled, moved⟩
        · exact Or.inl before
        · exact Or.inr ⟨key, List.mem_cons_self, filled, moved⟩
      · exact Or.inr ⟨other, List.mem_cons_of_mem _ listed, filled, moved⟩

theorem Restoration.mem_outcome (snapshot : b.mode = .snapshot)
    (restoration : Restoration b started before) {pair : String × String}
    (written : pair ∈ restoration.outcome.written) :
    FourDigitYear started ∧ Exists fun key => key ∈ restoration.listed ∧
      trimPrefix key (snapshotPrefix b.name started) ≠ "" ∧ pair = (key, restoration.dstKey key) := by
  rcases restoration.outcome_eq snapshot with ⟨year, _, outcome⟩ | ⟨nothing, _⟩
  · rw [outcome] at written
    cases answered : restoration.answers.list with
    | some error => simp [answered] at written
    | none =>
        simp only [answered] at written
        rcases restoration.mem_written _ written with never | ⟨key, scheduled, moved⟩
        · cases never
        · exact ⟨year, key, (restoration.anyOrder _).mem_iff.mp scheduled, moved⟩
  · rw [nothing] at written
    cases written

/-- An object that comes back to its key has travelled there through the snapshot. -/
theorem Restoration.travels_of_returnsSources (snapshot : b.mode = .snapshot)
    (restoration : Restoration b started before) (returned : restoration.ReturnsSources storage)
    {key : String} (selected : key ∈ b.selected storage) :
    FourDigitYear started ∧ Travels b started restoration.req.folder key := by
  have written := returned.1.mem_iff.mpr (List.mem_map_of_mem
    (f := fun key => (b.dstKey started key, key)) selected)
  rcases restoration.mem_outcome snapshot written with ⟨year, copy, listed, filled, moved⟩
  rcases (mem_keysUnder.mp listed).2 with ⟨rest, rfl⟩
  rw [trimPrefix_append] at filled
  rcases Prod.mk.inj moved with ⟨planned, back⟩
  exact ⟨year, rest, filled, planned, back.symm⟩

/-- A folder with an object is found. -/
theorem Restoration.outcome_of_listed (snapshot : b.mode = .snapshot)
    (restoration : Restoration b started before) (year : FourDigitYear started)
    (succeeds : restoration.outcome.errors = []) {key : String} (listed : key ∈ restoration.listed) :
    restoration.outcome =
      (restoration.schedule restoration.listed).foldl restoration.step { storage := before } := by
  rcases mem_keysUnder.mp listed with ⟨present, rest, rfl⟩
  have underRoot : snapshotPrefix b.name started ++ rest ∈
      keysUnder (before b.dst.place) (snapshotRoot b.name) := by
    refine mem_keysUnder.mpr ⟨present, formatTimestamp started ++ "/" ++ rest, ?_⟩
    simp only [snapshotPrefix, snapshotRoot, String.append_assoc]
  rcases restoration.outcome_eq snapshot with ⟨_, _, outcome⟩ | ⟨_, notFound⟩
  · rw [outcome] at succeeds ⊢
    cases answered : restoration.answers.list with
    | some error => simp [answered] at succeeds
    | none => rfl
  · exact absurd ⟨year, mem_listSnapshotTimestamps year underRoot⟩ notFound

/-! ## What a restore without errors leaves -/

theorem appendBounded_ne_nil (existing : List String) (msg : String) :
    appendBounded existing msg ≠ [] := by
  unfold appendBounded
  split
  · rename_i full
    rintro rfl
    simp at full
  · simp

/-- An error stays. -/
theorem Restoration.errors_step (restoration : Restoration b started before) {state : Restoring}
    {key : String} (none : (restoration.step state key).errors = []) : state.errors = [] := by
  unfold Restoration.step restoreObject at none
  split at none
  · exact none
  · split at none
    · exact none
    · split at none
      · exact absurd none (appendBounded_ne_nil _ _)
      · exact none

theorem Restoration.errors_foldl (restoration : Restoration b started before) (keys : List String) :
    forall {state : Restoring}, (keys.foldl restoration.step state).errors = [] ->
      state.errors = [] := by
  induction keys with
  | nil => exact fun none => none
  | cons key rest ih =>
      intro state none
      rw [List.foldl_cons] at none
      exact restoration.errors_step (ih none)

/-- The step for an object whose new key is free, if it adds no error. -/
theorem Restoration.step_free (restoration : Restoration b started before) {state : Restoring}
    {key : String} (below : trimPrefix key (snapshotPrefix b.name started) ≠ "")
    (free : (state.storage restoration.target.place).get? (restoration.dstKey key) = none)
    (none : (restoration.step state key).errors = []) : Exists fun after =>
      copyStored copyRestoreObject b.dst restoration.target key (restoration.dstKey key)
          (restoration.answers.copy key) state.storage = .ok after ∧
        (restoration.step state key).storage = after ∧
        (restoration.step state key).written =
          state.written ++ [(key, restoration.dstKey key)] := by
  unfold Restoration.dstKey at free
  unfold Restoration.step restoreObject at none ⊢
  rw [if_neg below, if_neg fun held => held.2.2 free] at none ⊢
  split at none
  · exact absurd none (appendBounded_ne_nil _ _)
  · rename_i after copied
    exact ⟨after, copied, rfl, rfl⟩

theorem map_snd_pairs (keys : List String) (new : String -> String) :
    (keys.map fun key => (key, new key)).map Prod.snd = keys.map new := by
  rw [List.map_map]
  rfl

/-- Objects with free keys of their own are all copied. -/
theorem Restoration.foldl_copied (restoration : Restoration b started before)
    (apart : b.dst.place ≠ restoration.target.place) (keys : List String) :
    forall {state : Restoring},
      (forall key, key ∈ keys -> trimPrefix key (snapshotPrefix b.name started) ≠ "") ->
      (keys.map restoration.dstKey).Nodup ->
      (forall key, key ∈ keys ->
        (state.storage restoration.target.place).get? (restoration.dstKey key) = none) ->
      Transition.Meets (fun state key => some (restoration.step state key))
        (fun state key =>
          ¬ Diverted b.dst restoration.target key (restoration.answers.copy key) state.storage)
        state keys ->
      (keys.foldl restoration.step state).errors = [] ->
        (keys.foldl restoration.step state).written =
            state.written ++ keys.map (fun key => (key, restoration.dstKey key)) ∧
          Copied b.dst restoration.target (keys.map fun key => (key, restoration.dstKey key))
            state.storage (keys.foldl restoration.step state).storage := by
  induction keys with
  | nil =>
      intro state _ _ _ _ _
      exact ⟨(List.append_nil _).symm, Copied.nil _ _ _⟩
  | cons key rest ih =>
      intro state below once free direct none
      rw [List.foldl_cons] at none ⊢
      have both := Transition.meets_cons direct rfl
      have parts := List.nodup_cons.mp once
      rcases restoration.step_free (below key List.mem_cons_self) (free key List.mem_cons_self)
        (restoration.errors_foldl rest none) with ⟨after, copied, stored, logged⟩
      have stillFree : forall other, other ∈ rest ->
          ((restoration.step state key).storage restoration.target.place).get?
            (restoration.dstKey other) = Option.none := by
        intro other member
        rcases copyStored_ok copied with ⟨object, written, _⟩
        rw [stored, written, Storage.get?_put_at, if_neg]
        · exact free other (List.mem_cons_of_mem _ member)
        · rintro ⟨_, same⟩
          apply parts.1
          rw [← same]
          exact List.mem_map_of_mem member
      have later := ih (fun other member => below other (List.mem_cons_of_mem _ member)) parts.2
        stillFree both.2 none
      refine ⟨?_, ?_⟩
      · rw [later.1, logged, List.map_cons, List.append_assoc, List.singleton_append]
      · rw [List.map_cons]
        rw [stored] at later
        refine Copied.cons copied both.1 ?_ (fun same => absurd same apart) later.2
        rw [map_snd_pairs]
        exact parts.1

/-! ## What a run leaves in a new folder -/

/-- The actions of a run are those of its plan. -/
theorem SnapshotRun.split (run : SnapshotRun b started storage) :
    run.actions = run.schedule ((b.selected storage).map
        (planAction run.etag run.answers storage b started)) ∧
      Transition.exec (b.work run.answers) storage run.actions = some run.after := by
  have ran := run.ran
  unfold Backup.run Backup.plan at ran
  cases answered : run.answers.list with
  | some error => simp [answered] at ran
  | none =>
      simp only [answered] at ran
      rcases Option.map_eq_some_iff.mp ran with ⟨after, executed, same⟩
      rcases Prod.mk.inj same with ⟨actions, rfl⟩
      rw [actions] at executed
      exact ⟨actions.symm, executed⟩

theorem SnapshotRun.mem_actions (run : SnapshotRun b started storage) {action : SyncAction} :
    action ∈ run.actions ↔ Exists fun key => key ∈ b.selected storage ∧
      planAction run.etag run.answers storage b started key = action := by
  rw [run.split.1, (run.anyOrder _).mem_iff, List.mem_map]

theorem SnapshotRun.pairs_perm (run : SnapshotRun b started storage) :
    (run.actions.map keysOf).Perm ((b.selected storage).map fun key => (key, b.dstKey started key)) := by
  rw [run.split.1]
  have perm := (run.anyOrder ((b.selected storage).map
    (planAction run.etag run.answers storage b started))).map keysOf
  rwa [List.map_map] at perm

/-- No object lies in the snapshot's folder. -/
def FreshFolder (b : Backup) (started : Int) (storage : Storage) : Prop :=
  keysUnder (storage b.dst.place) (snapshotPrefix b.name started) = []

theorem FreshFolder.absent (fresh : FreshFolder b started storage) (rest : String) :
    (storage b.dst.place).get? (snapshotPrefix b.name started ++ rest) = none := by
  by_contra present
  have listed := mem_keysUnder.mpr ⟨present, rest, rfl⟩
  rw [fresh] at listed
  cases listed

section Travelling

variable {folder : String}
  (travels : forall key, key ∈ b.selected storage -> Travels b started folder key)

include travels

/-- The keys of the snapshot, taken back, are the selected keys. -/
theorem map_restoreDstKey_map_dstKey :
    ((b.selected storage).map (b.dstKey started)).map
      (restoreDstKey (snapshotPrefix b.name started) folder) = b.selected storage := by
  rw [List.map_map]
  refine (List.map_congr_left fun key selected => ?_).trans (List.map_id _)
  rcases travels key selected with ⟨rest, _, moved, back⟩
  rw [Function.comp_apply, moved, back, id]

theorem map_dstKey_nodup : ((b.selected storage).map (b.dstKey started)).Nodup := by
  have distinct := keysUnder_nodup (storage b.src.place) (planPrefix b.srcPrefix)
  change (b.selected storage).Nodup at distinct
  rw [← map_restoreDstKey_map_dstKey travels] at distinct
  exact distinct.of_map _

/-- In a new folder nothing is skipped. -/
theorem SnapshotRun.all_copy (run : SnapshotRun b started storage)
    (fresh : FreshFolder b started storage) {action : SyncAction} (member : action ∈ run.actions) :
    action.type = .copy := by
  rcases run.mem_actions.mp member with ⟨key, selected, rfl⟩
  rcases travels key selected with ⟨rest, _, moved, _⟩
  have absent : storage.world (b.dst.at (b.dstKey started key)) = none := by
    rw [moved]
    exact fresh.absent rest
  simp [planAction, etagMatches_of_absent _ _ _ absent]

theorem SnapshotRun.copied (run : SnapshotRun b started storage) (fresh : FreshFolder b started storage)
    (direct : run.Direct) : Copied b.src b.dst (run.actions.map keysOf) storage run.after := by
  refine Backup.work_copied (fun action member => run.all_copy travels fresh member) ?_ ?_
    direct.meets run.split.2
  · refine ((run.pairs_perm.map Prod.snd).nodup_iff).mpr ?_
    rw [map_snd_pairs]
    exact map_dstKey_nodup travels
  · intro same first second one two equal
    rcases run.mem_actions.mp one with ⟨key, selected, rfl⟩
    rcases run.mem_actions.mp two with ⟨other, otherSelected, rfl⟩
    rcases travels key selected with ⟨rest, _, moved, _⟩
    have present := (mem_keysUnder.mp otherSelected).1
    have readAt : other = b.dstKey started key := equal.symm
    rw [readAt, moved, same] at present
    exact present (fresh.absent rest)

/-- The folder then holds the moved keys. -/
theorem SnapshotRun.folder_perm (run : SnapshotRun b started storage)
    (fresh : FreshFolder b started storage) (direct : run.Direct) :
    (keysUnder (run.after b.dst.place) (snapshotPrefix b.name started)).Perm
      ((b.selected storage).map (b.dstKey started)) := by
  have copied := run.copied travels fresh direct
  have pairs : forall key, key ∈ (run.actions.map keysOf).map Prod.snd ↔
      key ∈ (b.selected storage).map (b.dstKey started) := by
    intro key
    rw [(run.pairs_perm.map Prod.snd).mem_iff, map_snd_pairs]
  refine (List.perm_ext_iff_of_nodup (keysUnder_nodup _ _) (map_dstKey_nodup travels)).mpr ?_
  intro key
  rw [← pairs, mem_keysUnder]
  constructor
  · rintro ⟨present, rest, rfl⟩
    by_contra unwritten
    rw [copied.kept _ _ fun _ => unwritten] at present
    exact present (fresh.absent rest)
  · intro written
    rcases List.mem_map.mp ((pairs key).mp written) with ⟨source, selected, rfl⟩
    rcases travels source selected with ⟨rest, _, moved, _⟩
    rcases List.mem_map.mp written with ⟨pair, member, same⟩
    rcases copied.carried pair member with ⟨_, object, _, stored, _⟩
    rw [same] at stored
    exact ⟨by rw [stored]; exact Option.some_ne_none _, rest, moved⟩

end Travelling

/-! ## Backup, then restore -/

/-- If the folder holds the moved keys, the restore copies all of them back. -/
theorem Restoration.outcome_copied (snapshot : b.mode = .snapshot)
    (restoration : Restoration b started before) (restoreDirect : restoration.Direct)
    (succeeds : restoration.outcome.errors = [])
    (folder : restoration.listed.Perm ((b.selected storage).map (b.dstKey started)))
    (travels : forall key, key ∈ b.selected storage ->
      FourDigitYear started ∧ Travels b started restoration.req.folder key)
    {key : String} (selected : key ∈ b.selected storage) :
    restoration.outcome.written =
        (restoration.schedule restoration.listed).map (fun copy => (copy, restoration.dstKey copy)) ∧
      Copied b.dst restoration.target
        ((restoration.schedule restoration.listed).map fun copy => (copy, restoration.dstKey copy))
        before restoration.outcome.storage := by
  have ways := fun key selected => (travels key selected).2
  have listed := folder.mem_iff.mpr (List.mem_map_of_mem (f := b.dstKey started) selected)
  have apart : b.dst.place ≠ restoration.target.place := by
    intro same
    exact (mem_keysUnder.mp listed).1 (same ▸ restoration.emptyTarget _)
  have scheduled := (restoration.anyOrder restoration.listed).trans folder
  have outcome := restoration.outcome_of_listed snapshot (travels key selected).1 succeeds listed
  rw [outcome] at succeeds ⊢
  refine restoration.foldl_copied apart (restoration.schedule restoration.listed) ?below ?once
    (fun _ _ => restoration.emptyTarget _) restoreDirect.meets succeeds
  case below =>
    intro copy member
    rcases List.mem_map.mp (scheduled.mem_iff.mp member) with ⟨source, chosen, rfl⟩
    rcases ways source chosen with ⟨rest, filled, moved, _⟩
    rw [moved, trimPrefix_append]
    exact filled
  case once =>
    have back := scheduled.map restoration.dstKey
    refine back.nodup_iff.mpr ?_
    have same : ((b.selected storage).map (b.dstKey started)).map restoration.dstKey =
        b.selected storage := map_restoreDstKey_map_dstKey ways
    rw [same]
    exact keysUnder_nodup _ _

/-- If every selected key travels, the restore brings every object back. -/
theorem Restoration.returnsSources (snapshot : b.mode = .snapshot)
    {run : SnapshotRun b started storage} {restoration : Restoration b started before}
    (fresh : FreshFolder b started storage) (runDirect : run.Direct)
    (kept : before b.dst.place = run.after b.dst.place) (restoreDirect : restoration.Direct)
    (succeeds : restoration.outcome.errors = [])
    (travels : forall key, key ∈ b.selected storage ->
      FourDigitYear started ∧ Travels b started restoration.req.folder key) :
    restoration.ReturnsSources storage := by
  have ways := fun key selected => (travels key selected).2
  have folder : restoration.listed.Perm ((b.selected storage).map (b.dstKey started)) := by
    rw [Restoration.listed, kept]
    exact run.folder_perm ways fresh runDirect
  have returns : forall key, key ∈ b.selected storage ->
      restoration.dstKey (b.dstKey started key) = key := by
    intro key selected
    rcases ways key selected with ⟨rest, _, moved, returned⟩
    rw [Restoration.dstKey, moved, returned]
  have scheduled := (restoration.anyOrder restoration.listed).trans folder
  refine ⟨?_, ?_⟩
  · cases empty : b.selected storage with
    | nil =>
        have nothing : restoration.outcome.written = [] := by
          refine List.eq_nil_iff_forall_not_mem.mpr fun pair written => ?_
          rcases restoration.mem_outcome snapshot written with ⟨_, key, listed, _⟩
          rw [empty] at folder
          rw [folder.eq_nil] at listed
          cases listed
        rw [nothing, List.map_nil]
    | cons first others =>
        have selected : first ∈ b.selected storage := by
          rw [empty]
          exact List.mem_cons_self
        rw [(restoration.outcome_copied snapshot restoreDirect succeeds folder travels selected).1,
          ← empty]
        have perm := scheduled.map fun copy => (copy, restoration.dstKey copy)
        rw [List.map_map] at perm
        refine perm.trans (List.Perm.of_eq (List.map_congr_left fun key chosen => ?_))
        rw [Function.comp_apply, returns key chosen]
  · intro key selected
    have second := (restoration.outcome_copied snapshot restoreDirect succeeds folder travels
      selected).2
    have first := run.copied ways fresh runDirect
    rcases first.carried (key, b.dstKey started key)
      (run.pairs_perm.mem_iff.mpr (List.mem_map_of_mem selected)) with
      ⟨source, copy, read, stored, bytes⟩
    rcases second.carried (b.dstKey started key, key) (List.mem_map.mpr ⟨b.dstKey started key,
      scheduled.mem_iff.mpr (List.mem_map_of_mem selected), by rw [returns key selected]⟩) with
      ⟨held, object, found, restored, same⟩
    rw [kept, stored] at found
    cases Option.some.inj found
    rw [restored, read, Option.map_some, Option.map_some, same, bytes]

/-- Backup and then restore returns the selected objects exactly if each of their keys comes
back. -/
theorem backup_restore_iff (snapshot : b.mode = .snapshot) (run : SnapshotRun b started storage)
    (restoration : Restoration b started before) (fresh : FreshFolder b started storage)
    (kept : before b.dst.place = run.after b.dst.place) (runDirect : run.Direct)
    (restoreDirect : restoration.Direct) (succeeds : restoration.outcome.errors = []) :
    run.Contained ∧ restoration.ReturnsSources storage ↔
      forall key, key ∈ b.selected storage ->
        FourDigitYear started ∧ ComesBack b started restoration.req.folder key := by
  have exactly : forall key, key ∈ b.selected storage ->
      (Travels b started restoration.req.folder key ↔
        ComesBack b started restoration.req.folder key) :=
    fun key selected => travels_iff snapshot (mem_keysUnder.mp selected).2
  constructor
  · rintro ⟨_, returned⟩ key selected
    have way := restoration.travels_of_returnsSources snapshot returned selected
    exact ⟨way.1, (exactly key selected).mp way.2⟩
  · intro comesBack
    have travels : forall key, key ∈ b.selected storage ->
        FourDigitYear started ∧ Travels b started restoration.req.folder key := fun key selected =>
      ⟨(comesBack key selected).1, (exactly key selected).mpr (comesBack key selected).2⟩
    refine ⟨?_, Restoration.returnsSources snapshot fresh runDirect kept restoreDirect succeeds travels⟩
    intro written member
    rcases List.mem_map.mp member with ⟨action, listed, rfl⟩
    rcases run.mem_actions.mp (List.mem_filter.mp listed).1 with ⟨key, selected, rfl⟩
    rcases (travels key selected).2 with ⟨rest, _, moved, _⟩
    exact ⟨rest, moved⟩

/-! ## A backup of photos -/

def photoSide : Bucket := ⟨⟨"https://one", ⟨"garage", false⟩⟩, "photos"⟩

def vaultSide : Bucket := ⟨⟨"https://two", ⟨"minio", false⟩⟩, "vault"⟩

/-- The first of June 2026, three o'clock. -/
def photoTime : Int := dateTime ⟨2026, 6, 1⟩ 3 0 0

def photoBackup (srcPrefix : String) : Backup where
  id := "b1"
  name := "Photos"
  src := photoSide
  srcPrefix := srcPrefix
  dst := vaultSide
  dstPrefix := ""
  mode := .snapshot
  retention := Backups.defaultRetention

/-- One bucket with one object. -/
def photoStorage : Storage := fun place =>
  if place = photoSide.place then SortedStore.empty.put "2026/cat.jpg" ⟨[1, 2], "image/jpeg"⟩
  else SortedStore.empty

def photoAfter (key : String) : Storage :=
  photoStorage.put (vaultSide.at key) ⟨[1, 2], "image/jpeg"⟩

/-- A run without faults, in the order of the listing. -/
def plainRun {actions : List SyncAction} {after : Storage}
    (ran : b.run (fun _ _ => "") {} (fun actions => actions) started storage = some (actions, after)) :
    SnapshotRun b started storage where
  etag _ _ := ""
  answers := {}
  schedule actions := actions
  anyOrder _ := List.Perm.refl _
  actions := actions
  after := after
  ran := ran

def prefixedRun : SnapshotRun (photoBackup "2026/") photoTime photoStorage :=
  plainRun (show _ = some ([⟨"2026/cat.jpg", "photos/2026-06-01_03:00:00/cat.jpg", .copy⟩],
    photoAfter "photos/2026-06-01_03:00:00/cat.jpg") from rfl)

def prefixedRestoration : Restoration (photoBackup "2026/") photoTime prefixedRun.after where
  answers := {}
  schedule keys := keys
  anyOrder _ := List.Perm.refl _
  target := ⟨⟨"https://three", ⟨"garage", false⟩⟩, "fresh"⟩
  req := ⟨"2026-06-01_03:00:00", "2026", false⟩
  named := by decide
  emptyTarget _ := rfl

/-- Drivers of two types never divert a copy. -/
theorem not_diverted {src dst : Bucket} (differs : src.driver.caps.driver ≠ dst.driver.caps.driver)
    (key : String) (faults : Faults) (storage : Storage) : ¬ Diverted src dst key faults storage :=
  fun diverted => differs diverted.1.2.2.1

theorem SnapshotRun.direct_of_types (run : SnapshotRun b started storage)
    (differs : b.src.driver.caps.driver ≠ b.dst.driver.caps.driver) : run.Direct :=
  ⟨Transition.meets_of_forall (fun _ _ _ => not_diverted differs _ _ _) _ _⟩

theorem Restoration.direct_of_types (restoration : Restoration b started before)
    (differs : b.dst.driver.caps.driver ≠ restoration.target.driver.caps.driver) :
    restoration.Direct :=
  ⟨Transition.meets_of_forall (fun _ _ => not_diverted differs _ _ _) _ _⟩

/-- With the source prefix named again, the photo comes back. -/
theorem backup_restore_iff_photo :
    prefixedRun.Contained ∧ prefixedRestoration.ReturnsSources photoStorage := by
  have exactly := backup_restore_iff rfl prefixedRun prefixedRestoration (by rfl) rfl
    (prefixedRun.direct_of_types (by decide)) (prefixedRestoration.direct_of_types (by decide))
    (by rfl)
  have selected : (photoBackup "2026/").selected photoStorage = ["2026/cat.jpg"] := by rfl
  rw [exactly, selected]
  intro key member
  rw [List.mem_singleton.mp member]
  exact ⟨by decide, Or.inl (by decide)⟩

def wholeRun : SnapshotRun (photoBackup "") photoTime photoStorage :=
  plainRun (show _ = some ([⟨"2026/cat.jpg", "2026/cat.jpg", .copy⟩], photoAfter "2026/cat.jpg")
    from rfl)

/-- A backup of a whole bucket writes beside its snapshot. -/
theorem whole_bucket_backup_leaves_folder :
    ¬ forall (b : Backup) (started : Int) (storage : Storage) (run : SnapshotRun b started storage),
      b.mode = .snapshot -> FreshFolder b started storage -> run.Direct ->
        run.Contained ∧ forall (before : Storage) (restoration : Restoration b started before),
          before b.dst.place = run.after b.dst.place -> restoration.Direct ->
            restoration.outcome.errors = [] -> restoration.ReturnsSources storage := by
  intro stated
  have contained := (stated (photoBackup "") photoTime photoStorage wholeRun rfl (by rfl)
    (wholeRun.direct_of_types (by decide))).1
  have written : "2026/cat.jpg" ∈ writtenKeys wholeRun.actions := by
    decide
  rcases contained _ written with ⟨rest, moved⟩
  have under := (isPrefixOf_iff _ _).mpr ⟨rest, moved⟩
  exact absurd under (by decide)

end Snapshots
end Basement
