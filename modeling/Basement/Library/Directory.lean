import Mathlib.Data.List.Basic

namespace Basement
namespace Library

/-!
# Directories and open files

A directory has at most one entry for a name, and an entry points at a file.  Who has opened a
file keeps it when the entry is renamed or removed, so files are numbered, and writing goes to the
number.

This is what replacing a file by renaming a temporary one rests on.
-/

/-- The files ever created, and where the names point. -/
structure Directory (Name : Type) where
  files : List (List UInt8)
  entry : Name -> Option Nat
  entry_lt : forall {name file}, entry name = some file -> file < files.length

/-- What a file holds after a chunk is written at an offset; a gap reads as zeros. -/
def writeAt (contents chunk : List UInt8) (offset : Nat) : List UInt8 :=
  if chunk = [] then contents
  else
    contents.take offset ++ List.replicate (offset - contents.length) 0 ++ chunk ++
      contents.drop (offset + chunk.length)

/-- A text that is written from its start on is there up to the offset. -/
theorem writeAt_take (text : List UInt8) (offset count : Nat) :
    writeAt (text.take offset) ((text.drop offset).take count) offset =
      text.take (offset + count) := by
  have written : text.take (offset + count) = text.take offset ++ (text.drop offset).take count :=
    List.take_add
  unfold writeAt
  split
  · rename_i nothing
    rw [written, nothing, List.append_nil]
  · rename_i something
    have within : offset ≤ text.length := by
      refine Nat.le_of_not_lt fun past => something ?_
      rw [List.drop_eq_nil_of_le (Nat.le_of_lt past), List.take_nil]
    have dropped : (text.take offset).drop
        (offset + ((text.drop offset).take count).length) = [] := by
      refine List.drop_eq_nil_of_le ?_
      rw [List.length_take_of_le within]
      exact Nat.le_add_right _ _
    rw [dropped, List.append_nil, List.take_take, Nat.min_self, List.length_take_of_le within,
      Nat.sub_self, List.replicate_zero, List.append_nil, written]

namespace Directory

variable {Name : Type}

/-- What a reader of the name gets. -/
def read (directory : Directory Name) (name : Name) : Option (List UInt8) :=
  (directory.entry name).bind fun file => directory.files[file]?

/-- Replace the contents of an open file. -/
def store (directory : Directory Name) (file : Nat) (contents : List UInt8) : Directory Name where
  files := directory.files.set file contents
  entry := directory.entry
  entry_lt := fun found => by
    rw [List.length_set]
    exact directory.entry_lt found

/-- Write a chunk to an open file. -/
def write (directory : Directory Name) (file offset : Nat) (chunk : List UInt8) : Directory Name :=
  directory.store file (writeAt (directory.files.getD file []) chunk offset)

/-- A new empty file under a name. -/
def create [DecidableEq Name] (directory : Directory Name) (name : Name) : Directory Name where
  files := directory.files ++ [[]]
  entry := fun other => if other = name then some directory.files.length else directory.entry other
  entry_lt := fun {other file} found => by
    rw [List.length_append, List.length_singleton]
    split at found
    · cases Option.some.inj found
      exact Nat.lt_succ_self _
    · exact Nat.lt_succ_of_lt (directory.entry_lt found)

/-- Open for writing from the start: the file of the name is emptied, or there is a new one. -/
def truncate [DecidableEq Name] (directory : Directory Name) (name : Name) :
    Directory Name × Nat :=
  match directory.entry name with
  | some file => (directory.store file [], file)
  | none => (directory.create name, directory.files.length)

/-- Drop the entry of a name. -/
def remove [DecidableEq Name] (directory : Directory Name) (name : Name) : Directory Name where
  files := directory.files
  entry := fun other => if other = name then none else directory.entry other
  entry_lt := fun {other file} found => by
    split at found
    · cases found
    · exact directory.entry_lt found

/-- Move the entry of one name to another; there must be one. -/
def rename [DecidableEq Name] (directory : Directory Name) (source target : Name) :
    Option (Directory Name) :=
  if directory.entry source = none then none
  else
    some {
      files := directory.files
      entry := fun other =>
        if other = target then directory.entry source
        else if other = source then none else directory.entry other
      entry_lt := fun {other file} found => by
        split at found
        · exact directory.entry_lt found
        · split at found
          · cases found
          · exact directory.entry_lt found }

theorem files_store {directory : Directory Name} {file : Nat}
    (bound : file < directory.files.length) (contents : List UInt8) :
    (directory.store file contents).files[file]? = some contents :=
  List.getElem?_set_self bound

/-- The opened file is the one of the name, and it is empty. -/
theorem truncate_entry [DecidableEq Name] (directory : Directory Name) (name : Name) :
    (directory.truncate name).1.entry name = some (directory.truncate name).2 := by
  unfold truncate
  split
  · rename_i file found
    exact found
  · exact if_pos rfl

theorem truncate_files [DecidableEq Name] (directory : Directory Name) (name : Name) :
    (directory.truncate name).1.files[(directory.truncate name).2]? = some [] := by
  unfold truncate
  split
  · rename_i file found
    exact files_store (directory.entry_lt found) []
  · exact List.getElem?_concat_length

theorem write_take {directory : Directory Name} {file offset : Nat} {text : List UInt8}
    (before : directory.files[file]? = some (text.take offset)) (count : Nat) :
    (directory.write file offset ((text.drop offset).take count)).files[file]? =
      some (text.take (offset + count)) := by
  rcases List.getElem?_eq_some_iff.mp before with ⟨bound, _⟩
  have contents : directory.files.getD file [] = text.take offset := by
    rw [List.getD_eq_getElem?_getD, before, Option.getD_some]
  unfold write
  rw [files_store bound, contents, writeAt_take]

theorem read_of_entry {directory : Directory Name} {name : Name} {file : Nat}
    (found : directory.entry name = some file) : directory.read name = directory.files[file]? := by
  unfold read
  rw [found, Option.bind_some]

/-- The target then reads as the source did, and the source is gone. -/
theorem rename_spec [DecidableEq Name] {directory renamed : Directory Name} {source target : Name}
    (different : source ≠ target) (moved : directory.rename source target = some renamed) :
    renamed.read target = directory.read source ∧ renamed.entry source = none ∧
      directory.entry source ≠ none := by
  unfold rename at moved
  split at moved
  · cases moved
  · rename_i there
    cases Option.some.inj moved
    refine ⟨?_, ?_, there⟩
    · unfold read
      dsimp only
      rw [if_pos rfl]
    · dsimp only
      rw [if_neg different, if_pos rfl]

end Directory

end Library
end Basement
