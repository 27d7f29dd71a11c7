import Mathlib.Data.List.Basic
import Mathlib.Data.List.DropRight
import Mathlib.Logic.Function.Basic

namespace Basement
namespace Library

/-!
# Ring buffers

A ring keeps the latest items pushed to it in a fixed number of slots.  It knows the slot to be
written next and how many slots are in use, and overwrites the oldest item when all are.

`Holds` relates a ring to all the items ever pushed: the item at a position of that list is in
the slot of the same number modulo the capacity, as long as fewer than a capacity of items came
after it.  A snapshot of the ring is then the end of the list.
-/

/-- The latest items, at most one a slot. -/
structure RingBuffer (α : Type*) (capacity : Nat) where
  slots : Fin capacity -> α
  next : Fin capacity
  count : Nat
  bounded : count ≤ capacity

namespace RingBuffer

variable {α : Type*} {capacity : Nat}

theorem capacity_pos (ring : RingBuffer α capacity) : 0 < capacity := ring.next.pos

/-- The slot a number falls on. -/
def slot (ring : RingBuffer α capacity) (position : Nat) : Fin capacity :=
  ⟨position % capacity, Nat.mod_lt _ ring.capacity_pos⟩

/-- No slot is in use. -/
def empty [Inhabited α] (positive : 0 < capacity) : RingBuffer α capacity :=
  ⟨fun _ => default, ⟨0, positive⟩, 0, Nat.zero_le _⟩

/-- Write the next slot. -/
def push (ring : RingBuffer α capacity) (item : α) : RingBuffer α capacity where
  slots := Function.update ring.slots ring.next item
  next := ring.slot (ring.next + 1)
  count := if ring.count < capacity then ring.count + 1 else ring.count
  bounded := by
    have := ring.bounded
    split <;> omega

/-- The slots in use, the oldest first. -/
def snapshot (ring : RingBuffer α capacity) : List α :=
  (List.range ring.count).map fun position =>
    ring.slots (ring.slot ((ring.next + capacity - ring.count) % capacity + position))

/-- The ring is what pushing the items leaves. -/
structure Holds (ring : RingBuffer α capacity) (items : List α) : Prop where
  next : (ring.next : Nat) = items.length % capacity
  count : ring.count = min items.length capacity
  kept : forall position (listed : position < items.length), items.length ≤ position + capacity ->
    ring.slots (ring.slot position) = items.get ⟨position, listed⟩

theorem holds_empty [Inhabited α] (positive : 0 < capacity) :
    (empty positive : RingBuffer α capacity).Holds [] where
  next := by simp [empty]
  count := by simp [empty]
  kept := by
    intro position listed
    exact absurd listed (Nat.not_lt_zero _)

/-- Two of the latest positions do not share a slot. -/
theorem slot_injective (ring : RingBuffer α capacity) {first second : Nat} (order : first < second)
    (near : second < first + capacity) : ring.slot first ≠ ring.slot second := by
  intro same
  have remainders : first % capacity = second % capacity := Fin.mk.inj same
  have multiple : second - first < capacity := by omega
  have zero := Nat.sub_mod_eq_zero_of_mod_eq remainders.symm
  rw [Nat.mod_eq_of_lt multiple] at zero
  omega

theorem Holds.push {ring : RingBuffer α capacity} {items : List α} (holds : ring.Holds items)
    (item : α) : (ring.push item).Holds (items ++ [item]) where
  next := by
    change (ring.next + 1) % capacity = (items ++ [item]).length % capacity
    rw [holds.next, Nat.mod_add_mod, List.length_append, List.length_singleton]
  count := by
    have := holds.count
    simp only [RingBuffer.push, List.length_append, List.length_singleton]
    split <;> omega
  kept := by
    intro position listed near
    have written : ring.next = ring.slot items.length := Fin.ext holds.next
    simp only [List.length_append, List.length_singleton] at listed near
    change Function.update ring.slots ring.next item (ring.slot position) = _
    rcases Nat.lt_or_ge position items.length with earlier | latest
    · have other : ring.slot position ≠ ring.next :=
        written ▸ ring.slot_injective earlier (by omega)
      rw [Function.update_of_ne other, holds.kept position earlier (by omega)]
      simp [List.getElem_append_left earlier]
    · have last : position = items.length := by omega
      subst last
      rw [written, Function.update_self]
      simp

/-- A snapshot is the latest of the items, as many as there are slots. -/
theorem Holds.snapshot_eq {ring : RingBuffer α capacity} {items : List α}
    (holds : ring.Holds items) : ring.snapshot = items.rtake capacity := by
  have positive := ring.capacity_pos
  have used := holds.count
  apply List.ext_getElem
  · simp only [snapshot, List.length_map, List.length_range, List.rtake, List.length_drop]
    omega
  · intro position taken dropped
    simp only [snapshot, List.length_map, List.length_range] at taken
    have start : (ring.next + capacity - ring.count) % capacity =
        (items.length - ring.count) % capacity := by
      rw [holds.next]
      rcases Nat.lt_or_ge items.length capacity with partly | wrapped
      · have whole : ring.count = items.length := by omega
        rw [whole, Nat.mod_eq_of_lt partly, Nat.add_sub_cancel_left, Nat.sub_self, Nat.mod_self,
          Nat.zero_mod]
      · have full : ring.count = capacity := by omega
        rw [full, Nat.add_sub_cancel, Nat.mod_mod, ← Nat.mod_eq_sub_mod wrapped]
    have same : ring.slot ((ring.next + capacity - ring.count) % capacity + position) =
        ring.slot (items.length - ring.count + position) := by
      apply Fin.ext
      change (_ + position) % capacity = _ % capacity
      rw [start, Nat.mod_add_mod]
    simp only [snapshot, List.getElem_map, List.getElem_range, same, List.rtake, List.getElem_drop]
    rw [holds.kept _ (by omega) (by omega), List.get_eq_getElem]
    have offset : items.length - ring.count = items.length - capacity := by omega
    simp only [offset]

end RingBuffer

end Library
end Basement
