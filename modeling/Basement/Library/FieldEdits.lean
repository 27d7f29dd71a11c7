import Mathlib.Data.List.Basic

namespace Basement
namespace Library

/-!
# Edits of records by fields

A record gives every field a value, and an edit gives some fields a new one.  Of a list of edits
the last one that mentions a field decides the field.  An edit that was computed from an older
record does what it should exactly if the older record agrees with the current one wherever the
edit is silent.
-/

/-- A value for every field. -/
abbrev Record {Field : Type*} (Value : Field -> Type*) := (field : Field) -> Value field

/-- A new value for some of the fields. -/
abbrev Edit {Field : Type*} (Value : Field -> Type*) := (field : Field) -> Option (Value field)

namespace Edit

variable {Field : Type*} {Value : Field -> Type*}

/-- The record with the mentioned fields replaced. -/
def apply (edit : Edit Value) (record : Record Value) : Record Value :=
  fun field => (edit field).getD (record field)

/-- One edit after another: the later one decides where it says anything. -/
def andThen (first second : Edit Value) : Edit Value :=
  fun field => (second field).or (first field)

/-- What a list of edits last wrote to each field. -/
def lastWritten (edits : List (Edit Value)) : Edit Value := edits.foldl andThen fun _ => none

@[simp] theorem lastWritten_append (edits : List (Edit Value)) (edit : Edit Value) :
    lastWritten (edits ++ [edit]) = (lastWritten edits).andThen edit := by
  unfold lastWritten
  rw [List.foldl_append]
  rfl

theorem andThen_of_some {first second : Edit Value} {field : Field} {value : Value field}
    (mentioned : second field = some value) : first.andThen second field = some value := by
  unfold andThen
  rw [mentioned]
  rfl

theorem andThen_of_none {first second : Edit Value} {field : Field}
    (silent : second field = none) : first.andThen second field = first field := by
  unfold andThen
  rw [silent]
  rfl

theorem apply_of_some {edit : Edit Value} {record : Record Value} {field : Field}
    {value : Value field} (mentioned : edit field = some value) : edit.apply record field = value := by
  unfold apply
  rw [mentioned]
  rfl

theorem apply_of_none {edit : Edit Value} {record : Record Value} {field : Field}
    (silent : edit field = none) : edit.apply record field = record field := by
  unfold apply
  rw [silent]
  rfl

/-- One edit after another changes a record as the two in turn. -/
theorem apply_andThen (first second : Edit Value) (record : Record Value) :
    (first.andThen second).apply record = second.apply (first.apply record) := by
  funext field
  unfold apply andThen
  cases second field <;> rfl

end Edit

end Library
end Basement
