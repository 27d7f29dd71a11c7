import Mathlib.Algebra.GroupWithZero.Nat
import Mathlib.Data.List.Basic

namespace Basement
namespace Library

/-!
# The weight of what is settled

A list of items goes with a list of weights.  `settled` adds up the weights of the items that
satisfy a predicate.  Settling one more item adds its weight, and once all items are settled
the sum is the total.
-/

variable {α : Type} (done : α -> Bool)

def settled : List α -> List Nat -> Nat
  | item :: items, weight :: weights => (if done item then weight else 0) + settled items weights
  | _, _ => 0

variable {done}

theorem settled_le_sum (items : List α) (weights : List Nat) :
    settled done items weights ≤ weights.sum := by
  induction items generalizing weights with
  | nil => exact Nat.zero_le _
  | cons item items ih =>
      cases weights with
      | nil => exact Nat.zero_le _
      | cons weight weights =>
          have rest := ih weights
          have head : (if done item then weight else 0) ≤ weight := by
            split
            · exact Nat.le_refl weight
            · exact Nat.zero_le weight
          rw [List.sum_cons]
          exact Nat.add_le_add head rest

/-- When all items are settled, so is the whole weight. -/
theorem settled_eq_sum {items : List α} {weights : List Nat}
    (all : forall item, item ∈ items -> done item = true)
    (fits : weights.length = items.length) : settled done items weights = weights.sum := by
  induction items generalizing weights with
  | nil =>
      rw [List.length_eq_zero_iff.mp fits]
      rfl
  | cons item items ih =>
      cases weights with
      | nil => cases fits
      | cons weight weights =>
          have rest := ih (fun other member => all other (List.mem_cons_of_mem item member))
            (Nat.succ.inj fits)
          unfold settled
          rw [if_pos (all item List.mem_cons_self), rest, List.sum_cons]

theorem settled_eq_zero {items : List α} (none : forall item, item ∈ items -> done item = false)
    (weights : List Nat) : settled done items weights = 0 := by
  induction items generalizing weights with
  | nil => rfl
  | cons item items ih =>
      cases weights with
      | nil => rfl
      | cons weight weights =>
          have rest := ih (fun other member => none other (List.mem_cons_of_mem item member)) weights
          unfold settled
          rw [none item List.mem_cons_self, rest]
          rfl

/-- An item that becomes settled adds its weight. -/
theorem settled_set {items : List α} {index : Nat} {old : α} (found : items[index]? = some old)
    (before : done old = false) (item : α) (weights : List Nat) :
    settled done (items.set index item) weights =
      settled done items weights + if done item then (weights[index]?).getD 0 else 0 := by
  induction items generalizing index weights with
  | nil => cases found
  | cons head items ih =>
      cases weights with
      | nil => cases index <;> simp [settled]
      | cons weight weights =>
          cases index with
          | zero =>
              cases Option.some.inj found
              simp only [List.set_cons_zero, settled, before, Bool.false_eq_true, if_false,
                List.getElem?_cons_zero, Option.getD_some]
              omega
          | succ index =>
              have rest := ih found weights
              simp only [List.set_cons_succ, settled, List.getElem?_cons_succ, rest]
              omega

end Library
end Basement
