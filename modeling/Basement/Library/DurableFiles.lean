import Mathlib.Data.List.Basic
import Mathlib.Data.Set.Insert
import Mathlib.Logic.Function.Basic

namespace Basement
namespace Library

/-!
# Files and power loss

A directory gives numbered files their names.  Its changes reach the disk in the order they were
made, some time later; the content of a file is on the disk once the file is synced.  A power loss
keeps some first part of the changes of the directory, and leaves anything at all in a file that
was not synced.

What programs rely on is said without files: `Possible` is what the names read as now, together
with everything they can read as after a power loss at this moment.
-/

namespace DurableFiles

/-- A file, and whether its content is on the disk. -/
structure File (Content : Type) where
  content : Content
  synced : Bool
  deriving DecidableEq, Repr

/-- The numbers of the files the names stand for. -/
abbrev Names (Name : Type) := Name -> Option Nat

/-- A change of a directory. -/
inductive Entry (Name : Type) where
  | link (name : Name) (file : Nat)
  | rename (source target : Name)
  | unlink (name : Name)
  deriving DecidableEq, Repr

variable {Name Content : Type} [DecidableEq Name]

def Entry.apply (names : Names Name) : Entry Name -> Names Name
  | .link name file => Function.update names name (some file)
  | .rename source target =>
      match names source with
      | none => names
      | some file => Function.update (Function.update names target (some file)) source none
  | .unlink name => Function.update names name none

/-- `settled` is the directory on the disk, `journal` what has not reached it. -/
structure Disk (Name Content : Type) where
  files : List (File Content)
  settled : Names Name
  journal : List (Entry Name)

namespace Disk

/-- The directory as programs see it. -/
def names (disk : Disk Name Content) : Names Name := disk.journal.foldl Entry.apply disk.settled

/-- What some names read as, if they stand for the given files. -/
def view (kept : Name -> Bool) (files : List (File Content)) (names : Names Name) (name : Name) :
    Option Content :=
  if kept name then (names name).bind fun file => (files[file]?).map File.content else none

def read (disk : Disk Name Content) (name : Name) : Option Content :=
  (disk.names name).bind fun file => (disk.files[file]?).map File.content

/-- Open for writing, which empties or creates the file, and write. -/
def write (disk : Disk Name Content) (name : Name) (content : Content) : Disk Name Content :=
  match disk.names name with
  | some file => { disk with files := disk.files.set file ⟨content, false⟩ }
  | none =>
      { disk with
        files := disk.files ++ [⟨content, false⟩]
        journal := disk.journal ++ [.link name disk.files.length] }

def sync (disk : Disk Name Content) (name : Name) : Disk Name Content :=
  match disk.names name with
  | some file =>
      { disk with files := disk.files.modify file fun held => { held with synced := true } }
  | none => disk

def rename (disk : Disk Name Content) (source target : Name) : Disk Name Content :=
  { disk with journal := disk.journal ++ [.rename source target] }

def unlink (disk : Disk Name Content) (name : Name) : Disk Name Content :=
  { disk with journal := disk.journal ++ [.unlink name] }

/-- Sync the directory. -/
def settle (disk : Disk Name Content) : Disk Name Content :=
  { disk with settled := disk.names, journal := [] }

/-- What is left of a disk when the power is lost. -/
def lose (disk : Disk Name Content) (reached : Nat) (left : Nat -> Content) :
    Disk Name Content where
  files := disk.files.mapIdx fun file held =>
    if held.synced then held else ⟨left file, true⟩
  settled := (disk.journal.take reached).foldl Entry.apply disk.settled
  journal := []

/-! ## The directories a power loss can leave -/

def Leaves (disk : Disk Name Content) (names : Names Name) : Prop :=
  Exists fun reached => names = (disk.journal.take reached).foldl Entry.apply disk.settled

theorem leaves_names (disk : Disk Name Content) : disk.Leaves disk.names :=
  ⟨disk.journal.length, by rw [List.take_length]; rfl⟩

theorem leaves_settled {disk : Disk Name Content} (quiet : disk.journal = [])
    {names : Names Name} : disk.Leaves names ↔ names = disk.settled := by
  constructor
  · rintro ⟨reached, rfl⟩
    rw [quiet, List.take_nil]
    rfl
  · rintro rfl
    exact ⟨0, rfl⟩

theorem names_append {disk : Disk Name Content} {entry : Entry Name}
    {files : List (File Content)} :
    names { disk with files := files, journal := disk.journal ++ [entry] } =
      entry.apply disk.names := by
  unfold names
  rw [List.foldl_append]
  rfl

theorem leaves_append {disk : Disk Name Content} {entry : Entry Name}
    {files : List (File Content)} {names : Names Name} :
    Leaves { disk with files := files, journal := disk.journal ++ [entry] } names ↔
      disk.Leaves names ∨ names = entry.apply disk.names := by
  constructor
  · rintro ⟨reached, rfl⟩
    rcases Nat.lt_or_ge disk.journal.length reached with all | part
    · apply Or.inr
      rw [List.take_of_length_le (by rw [List.length_append]; exact all)]
      exact names_append
    · apply Or.inl
      refine ⟨reached, ?_⟩
      rw [List.take_append_of_le_length part]
  · rintro (⟨reached, rfl⟩ | rfl)
    · refine ⟨min reached disk.journal.length, ?_⟩
      rw [List.take_append_of_le_length (Nat.min_le_right ..), List.take_eq_take_min]
    · refine ⟨(disk.journal ++ [entry]).length, ?_⟩
      rw [List.take_length]
      exact names_append.symm

theorem leaves_settle {disk : Disk Name Content} {names : Names Name} :
    disk.settle.Leaves names ↔ names = disk.names := leaves_settled rfl

end Disk

/-! ## What can be read, now and after a power loss -/

/-- What names read as: now, and in each case that a power loss can leave. -/
@[ext] structure Possible (Name Content : Type) where
  current : Name -> Option Content
  afterLoss : Set (Name -> Option Content)
  now : current ∈ afterLoss

namespace Possible

variable {before after : Possible Name Content}

/-- A name reads as something else from now on, and may do so after a power loss. -/
def publish (before : Possible Name Content) (name : Name) (content : Content) :
    Possible Name Content where
  current := Function.update before.current name (some content)
  afterLoss := insert (Function.update before.current name (some content)) before.afterLoss
  now := Set.mem_insert _ _

/-- Nothing is one of the cases but the names as they read. -/
def certain (world : Name -> Option Content) : Possible Name Content where
  current := world
  afterLoss := {world}
  now := rfl

/-- One step: nothing is seen of it, a name is given another content, everything so far is made to
last, or the power is lost. -/
inductive Next (publishes : Name -> Content -> Prop) (before : Possible Name Content) :
    Possible Name Content -> Prop where
  | unseen : Next publishes before before
  | publish (name : Name) (content : Content) (holds : publishes name content) :
      Next publishes before (before.publish name content)
  | settle : Next publishes before (certain before.current)
  | lose (world : Name -> Option Content) (case : world ∈ before.afterLoss) :
      Next publishes before (certain world)

/-- A property of every case stays one if what is published has it. -/
theorem Next.all {publishes : Name -> Content -> Prop} {holds : (Name -> Option Content) -> Prop}
    (next : Next publishes before after)
    (kept : forall world name content, holds world -> publishes name content ->
      holds (Function.update world name (some content)))
    (all : forall world, world ∈ before.afterLoss -> holds world) :
    forall world, world ∈ after.afterLoss -> holds world := by
  cases next with
  | unseen => exact all
  | publish name content published =>
      rintro world (rfl | earlier)
      · exact kept before.current name content (all before.current before.now) published
      · exact all world earlier
  | settle =>
      rintro world rfl
      exact all before.current before.now
  | lose left case =>
      rintro world rfl
      exact all _ case

end Possible

/-- The names of a disk, as far as `kept` goes. -/
def Disk.possible (kept : Name -> Bool) (disk : Disk Name Content) : Possible Name Content where
  current := view kept disk.files disk.names
  afterLoss := fun world =>
    Exists fun names => disk.Leaves names ∧ world = view kept disk.files names
  now := ⟨disk.names, disk.leaves_names, rfl⟩

theorem Disk.possible_current (disk : Disk Name Content) (kept : Name -> Bool) {name : Name}
    (listed : kept name = true) : (disk.possible kept).current name = disk.read name := by
  change view kept disk.files disk.names name = _
  rw [view, if_pos listed]
  rfl

end DurableFiles

end Library
end Basement
