import Basement.Library.AtomicReplace

namespace Basement
namespace Store

open Library Library.DurableFiles

/-!
# The data directory

Every store keeps one file in the data directory and replaces it as a whole, under its lock.  The
stores do this in three ways: `saveJSON` and `writeSecret` sync the file and then the directory,
three stores sync the file only, and three sync nothing.  All of them write beside the file, at
its path with `.tmp`, and rename.

`Machine.step` runs the saves of all stores against one another, with failing calls, the process
killed and the power lost at any point.  Not in the table are the group mappings, whose store
saves outside its lock, and the sync jobs, which have directories of their own.
-/

namespace DataDirectory

abbrev Bytes := List UInt8

/-! ## How the stores write -/

/-- `saveJSON`. -/
def saveJSON : Writer := { reopens := true, syncs := true, settles := true }

/-- `writeSecret`, which writes and syncs through one handle. -/
def writeSecret : Writer := { syncs := true, removesTorn := true, settles := true }

/-- `fileEnforcer.saveLocked`. -/
def savePolicies : Writer := { reopens := true, syncs := true }

/-- `FileStore.saveLocked` of the cluster secrets. -/
def saveClusterSecrets : Writer := { reopens := true, syncs := true }

/-- `fileStore.writeLocked` of the service accounts. -/
def writeServiceAccounts : Writer := { reopens := true, syncs := true }

/-- `fileStore.writeLocked` of the webhooks. -/
def writeWebhooks : Writer := {}

/-- `fileStore.writeLocked` of the federated buckets. -/
def writeFederatedBuckets : Writer := {}

/-- `fileStore.writeLocked` of the backups. -/
def writeBackups : Writer := {}

/-- The files of the data directory, with the functions that write them. -/
def files : List (String × Writer) := [
  ("users.json", saveJSON),
  ("shares.json", saveJSON),
  ("connections.json", saveJSON),
  ("user_regions.json", saveJSON),
  ("org_capabilities.json", saveJSON),
  ("user_skins.json", saveJSON),
  ("invites.json", saveJSON),
  (".jwt-secret", writeSecret),
  (".initial-admin-password", writeSecret),
  ("policies.json", savePolicies),
  ("cluster_secrets.json", saveClusterSecrets),
  ("service_accounts.json", writeServiceAccounts),
  ("webhooks.json", writeWebhooks),
  ("federated_buckets.json", writeFederatedBuckets),
  ("backups.json", writeBackups)]

/-- A path outside the table is written by no store. -/
def writer (path : String) : Writer := (files.lookup path).getD writeBackups

def listed (path : String) : Bool := (files.lookup path).isSome

/-- No file of a store is named like a temporary one. -/
theorem files_permanent :
    (files.all fun file => !(".tmp".toList.isSuffixOf file.1.toList)) = true := by decide +kernel

/-- The temporary file of a path is beside it. -/
def naming : Naming String where
  isTarget := listed
  temporary path := path ++ ".tmp"
  injective first second same := by
    have texts := congrArg String.toList same
    rw [String.toList_append, String.toList_append] at texts
    exact String.toList_injective (List.append_cancel_right texts)
  apart path isListed other same := by
    rcases List.lookup_isSome_iff.mp isListed with ⟨file, member, found⟩
    have permanent := List.all_eq_true.mp files_permanent file member
    rw [Bool.not_eq_true', ← Bool.not_eq_true] at permanent
    apply permanent
    rw [List.isSuffixOf_iff_suffix, ← eq_of_beq found, ← same, String.toList_append]
    exact List.suffix_append _ _

abbrev Directory := Machine String Bytes

abbrev Event := Action String Bytes

def step : Directory -> Event -> Option Directory := Machine.step naming writer

/-- A process that has just started. -/
def opened (disk : Disk String Bytes) : Directory := { disk := disk }

/-! ## Loading and saving values -/

/-- `json.MarshalIndent` and `json.Unmarshal` at the type of a store. -/
structure Codec (Value : Type) where
  zero : Value
  marshalIndent : Value -> Except String Bytes
  unmarshal : Bytes -> Except String Value
  unmarshal_marshalIndent : forall value data, marshalIndent value = .ok data ->
    unmarshal (data ++ [10]) = .ok value

namespace Codec

variable {Value : Type} (codec : Codec Value)

/-- `loadJSON`; `fault` is why the file cannot be read, if there is such a reason. -/
def loadJSON (fault : Option String) (path : String) (directory : Directory) :
    Except String Value :=
  match fault with
  | some error => .error ("reading " ++ path ++ ": " ++ error)
  | none =>
      match directory.disk.read path with
      | none => .ok codec.zero
      | some data =>
          if data = [] then .ok codec.zero
          else
            match codec.unmarshal data with
            | .error error => .error ("unmarshaling " ++ path ++ ": " ++ error)
            | .ok value => .ok value

/-- `saveJSON` up to its first call on the temporary file; `fault` is why the directory cannot be
created. -/
def beginSave (fault : Option String) (path : String) (value : Value) : Except String Event :=
  match fault with
  | some error => .error ("creating dir for " ++ path ++ ": " ++ error)
  | none =>
      match codec.marshalIndent value with
      | .error error => .error ("marshaling: " ++ error)
      | .ok data => .ok (.begin path (data ++ [10]))

variable {codec}

theorem beginSave_ok {fault : Option String} {path : String} {value : Value} {event : Event}
    (begun : codec.beginSave fault path value = .ok event) :
    Exists fun data => codec.marshalIndent value = .ok data ∧
      event = .begin path (data ++ [10]) := by
  unfold beginSave at begun
  cases fault with
  | some error => cases begun
  | none =>
      cases marshalled : codec.marshalIndent value with
      | error error => simp [marshalled] at begun
      | ok data =>
          simp only [marshalled, Except.ok.injEq] at begun
          exact ⟨data, rfl, begun.symm⟩

/-- A file that was saved is loaded as it was saved. -/
theorem loadJSON_saved {path : String} {value : Value} {data : Bytes} {directory : Directory}
    (marshalled : codec.marshalIndent value = .ok data)
    (there : directory.disk.read path = some (data ++ [10])) :
    codec.loadJSON none path directory = .ok value := by
  have written : data ++ [10] ≠ [] := List.append_ne_nil_of_right_ne_nil _ (List.cons_ne_nil _ _)
  simp only [loadJSON, there, if_neg written, codec.unmarshal_marshalIndent value data marshalled]

theorem loadJSON_congr {path : String} {fault : Option String} {directory other : Directory}
    (same : directory.disk.read path = other.disk.read path) :
    codec.loadJSON fault path directory = codec.loadJSON fault path other := by
  unfold loadJSON
  rw [same]

end Codec

/-- A store of one switch. -/
def switchCodec : Codec Bool where
  zero := false
  marshalIndent value := .ok (if value then "true".toUTF8.toList else "false".toUTF8.toList)
  unmarshal data :=
    if data = "true\n".toUTF8.toList then .ok true
    else if data = "false\n".toUTF8.toList then .ok false
    else .error "unexpected end of JSON input"
  unmarshal_marshalIndent value data marshalled := by
    cases Except.ok.inj marshalled
    cases value <;> decide +kernel

/-- A data directory before the first start. -/
def emptyDisk : Disk String Bytes := ⟨[], fun _ => none, []⟩

theorem emptyDisk_clean : Machine.Clean naming emptyDisk := by
  refine ⟨rfl, ?_, ?_, ?_⟩
  · intro name file named
    cases named
  · intro first second file named
    cases named
  · intro held member
    cases member

/-- `saveJSON` up to its rename. -/
def renamedSave : List Event :=
  .begin "users.json" "true\n".toUTF8.toList :: List.replicate 5 (.call "users.json" .done)

/-- The power is lost behind the rename of a save and in the middle of the next one. -/
def powerCut : List Event :=
  renamedSave ++ [.call "users.json" .failed, .begin "users.json" "false\n".toUTF8.toList,
    .call "users.json" (.torn []), .lose 3 fun _ => []]

/-! ## Runs -/

variable {disk : Disk String Bytes} {actions : List Event} {final : Directory} {path : String}

/-- Whatever saves of whatever stores run, fail, are killed or lose power, in any order: a file
reads as what it was at the start or as the whole of what one of the saves was given.  For the
stores that sync nothing this is so until the power is lost. -/
theorem read_of_run (clean : Machine.Clean naming disk) (isListed : listed path = true)
    (durable : (writer path).syncs = true ∨ forall reached left, .lose reached left ∉ actions)
    (run : Transition.exec step (opened disk) actions = some final) :
    final.disk.read path = disk.read path ∨
      Exists fun content => .begin path content ∈ actions ∧
        final.disk.read path = some content := by
  let kept : String -> Bool := fun other => decide (other = path)
  have only : forall other, kept other = true -> other = path := fun other => of_decide_eq_true
  have first : (opened disk).Satisfies naming writer kept fun other content => other = path ->
      content = disk.read path ∨
        Exists fun given => .begin path given ∈ actions ∧ content = some given := by
    refine ⟨clean.sound writer, ?_, ?_⟩
    · intro other saving busy
      cases busy
    · intro world case other listedOther same
      rw [clean.read case listedOther, same]
      exact Or.inl rfl
  have last := first.exec (fun other listedOther => only other listedOther ▸ isListed) ?_ ?_ run
  · exact last.read (decide_eq_true rfl) rfl
  · rintro other content begun rfl
    exact Or.inr ⟨content, begun, rfl⟩
  · intro reached left lost other listedOther
    rw [only other listedOther]
    exact durable.resolve_right fun never => never reached left lost

theorem read_of_run_power_cut : Exists fun final =>
    Transition.exec step (opened emptyDisk) powerCut = some final ∧
      (final.disk.read "users.json" = none ∨ Exists fun content =>
        .begin "users.json" content ∈ powerCut ∧ final.disk.read "users.json" = some content) :=
  ⟨_, rfl, read_of_run emptyDisk_clean (by decide +kernel) (Or.inl (by decide +kernel)) rfl⟩

/-- Once the directory has been synced after a save, whatever a file of a store that syncs then
reads as, it reads as later on, power losses included, until it is saved again. -/
theorem read_after_settle {before : List Event} {middle after : Directory} {settler : String}
    {content : Bytes} (clean : Machine.Clean naming disk) (isListed : listed path = true)
    (durable : (writer path).syncs = true)
    (reached : Transition.exec step (opened disk) before = some middle)
    (settling : middle.saving settler = some ⟨content, .settle⟩)
    (synced : step middle (.call settler .done) = some after)
    (idle : after.saving path = none)
    (run : Transition.exec step after actions = some final)
    (unsaved : forall given, .begin path given ∉ actions) :
    final.disk.read path = middle.disk.read path ∧
      (settler = path -> final.disk.read path = some content) := by
  have sound := (clean.sound writer).run reached
  have lasts := sound.settled isListed durable settling rfl synced idle run unsaved
  refine ⟨lasts, ?_⟩
  rintro rfl
  rw [lasts]
  exact sound.published settler _ settling rfl

theorem read_after_settle_power_cut : Exists fun middle => Exists fun after => Exists fun final =>
    Transition.exec step (opened emptyDisk) renamedSave = some middle ∧
      step middle (.call "users.json" .done) = some after ∧
        Transition.exec step after [.lose 0 fun _ => []] = some final ∧
          final.disk.read "users.json" = some "true\n".toUTF8.toList := by
  have unsaved : forall given,
      (.begin "users.json" given : Event) ∉ [Action.lose 0 fun _ => ([] : Bytes)] := by
    intro given member
    cases List.mem_singleton.mp member
  exact ⟨_, _, _, rfl, rfl, rfl, (read_after_settle emptyDisk_clean (by decide +kernel)
    (by decide +kernel) (show Transition.exec step (opened emptyDisk) renamedSave = some _ from rfl)
    rfl rfl rfl rfl unsaved).2 rfl⟩

/-- `saveJSON` answers nil exactly if `loadJSON` then finds its value, and with an error only if
`loadJSON` finds what it found before. -/
theorem loadJSON_of_answer {Value : Type} {codec : Codec Value} {before : List Event}
    {directory begun middle : Directory} {value : Value} {fault : Option String} {event : Event}
    {outcome : Outcome Bytes} {ok : Bool} (clean : Machine.Clean naming disk)
    (reached : Transition.exec step (opened disk) before = some directory)
    (saved : codec.beginSave fault path value = .ok event)
    (started : step directory event = some begun)
    (run : Transition.exec step begun actions = some middle)
    (once : forall given, .begin path given ∉ actions)
    (called : middle.call naming writer path outcome = some (final, some ok)) :
    codec.loadJSON none path final =
      if ok then .ok value else codec.loadJSON none path directory := by
  have sound := (clean.sound writer).run reached
  rcases Codec.beginSave_ok saved with ⟨data, marshalled, rfl⟩
  have answered := sound.answered started run once called
  cases ok with
  | true => exact Codec.loadJSON_saved marshalled answered
  | false => exact Codec.loadJSON_congr answered

theorem loadJSON_of_answer_switch : Exists fun begun => Exists fun middle => Exists fun final =>
    step (opened emptyDisk) (.begin "users.json" ("true".toUTF8.toList ++ [10])) = some begun ∧
      Transition.exec step begun (List.replicate 5 (.call "users.json" .done)) = some middle ∧
        middle.call naming writer "users.json" .failed = some (final, some true) ∧
          switchCodec.loadJSON none "users.json" final = .ok true := by
  refine ⟨_, _, _, rfl, rfl, rfl, ?_⟩
  have saved : switchCodec.beginSave none "users.json" true =
      .ok (.begin "users.json" ("true".toUTF8.toList ++ [10])) := rfl
  have once : forall given,
      (.begin "users.json" given : Event) ∉ List.replicate 5 (Action.call "users.json" .done) := by
    intro given member
    cases List.eq_of_mem_replicate member
  exact loadJSON_of_answer emptyDisk_clean (Transition.exec_nil _) saved rfl
    (show Transition.exec step _ (List.replicate 5 (.call "users.json" .done)) = some _ from rfl)
    once (show Machine.call naming writer _ "users.json" .failed = some (_, some true) from rfl)

end DataDirectory

end Store
end Basement
