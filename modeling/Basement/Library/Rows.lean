import Mathlib.Data.List.Basic

namespace Basement
namespace Library

/-!
# Rows in a list

A table kept as a list is searched from the front.  The row that a search finds is the one that
a change or a removal acts on, and what stands before it does not match.
-/

variable {Row : Type*} {selected : Row -> Bool} {change : Row -> Row} {rows : List Row} {row : Row}

/-- Change the first row that matches. -/
def updateFirst (selected : Row -> Bool) (change : Row -> Row) : List Row -> List Row
  | [] => []
  | row :: rest =>
      if selected row then change row :: rest else row :: updateFirst selected change rest

theorem exists_first (found : rows.find? selected = some row) :
    Exists fun before => Exists fun after => rows = before ++ row :: after ∧
      selected row = true ∧ forall other, other ∈ before -> selected other = false := by
  rcases List.find?_eq_some_iff_append.mp found with ⟨matched, before, after, rfl, passed⟩
  refine ⟨before, after, rfl, matched, ?_⟩
  intro other member
  simpa using passed other member

theorem updateFirst_append {before after : List Row}
    (passed : forall other, other ∈ before -> selected other = false)
    (matched : selected row = true) :
    updateFirst selected change (before ++ row :: after) = before ++ change row :: after := by
  induction before with
  | nil => exact if_pos matched
  | cons head before ih =>
      have skipped : selected head = false := passed head List.mem_cons_self
      have rest := ih fun other member => passed other (List.mem_cons_of_mem head member)
      rw [List.cons_append, updateFirst, skipped, if_neg Bool.false_ne_true, rest]
      rfl

theorem eraseP_append {before after : List Row}
    (passed : forall other, other ∈ before -> selected other = false)
    (matched : selected row = true) :
    (before ++ row :: after).eraseP selected = before ++ after := by
  rw [List.eraseP_append_right, List.eraseP_cons_of_pos matched]
  intro other member
  rw [passed other member]
  exact Bool.false_ne_true

/-- A change that still matches is what the next search finds. -/
theorem find?_updateFirst (found : rows.find? selected = some row)
    (kept : selected (change row) = true) :
    (updateFirst selected change rows).find? selected = some (change row) := by
  rcases exists_first found with ⟨before, after, rfl, matched, passed⟩
  rw [updateFirst_append passed matched, List.find?_eq_some_iff_append]
  refine ⟨kept, before, after, rfl, ?_⟩
  intro other member
  simpa using passed other member

/-- A change of the first match changes the rows only if it changes that row. -/
theorem updateFirst_eq_self_iff (found : rows.find? selected = some row) :
    updateFirst selected change rows = rows ↔ change row = row := by
  rcases exists_first found with ⟨before, after, rfl, matched, passed⟩
  rw [updateFirst_append passed matched, List.append_cancel_left_eq, List.cons.injEq]
  exact ⟨And.left, fun same => ⟨same, rfl⟩⟩

/-- A change that a view does not show leaves the view of the rows as it is. -/
theorem map_updateFirst {Seen : Type*} {view : Row -> Seen}
    (kept : forall row, view (change row) = view row) :
    (updateFirst selected change rows).map view = rows.map view := by
  induction rows with
  | nil => rfl
  | cons row rest ih =>
      unfold updateFirst
      split
      · rw [List.map_cons, List.map_cons, kept]
      · rw [List.map_cons, List.map_cons, ih]

/-- Removing the first match is seen in the length. -/
theorem length_eraseP_lt (found : rows.find? selected = some row) :
    (rows.eraseP selected).length < rows.length := by
  rcases exists_first found with ⟨before, after, rfl, matched, passed⟩
  rw [eraseP_append passed matched, List.length_append, List.length_append, List.length_cons]
  exact Nat.lt_succ_self _

end Library
end Basement
