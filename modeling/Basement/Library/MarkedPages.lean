import Mathlib.Data.List.Nodup
import Mathlib.Data.List.TakeWhile

namespace Basement
namespace Library

/-!
# Reading page by page

A service gives a list out in pages.  A call has a marker and answers with a page and the marker of
the next call, if there is one, and a client calls until there is none.  As long as the calls answer
what they should, the client has read the first pages and stands before the next one.

The pages of a list are its cuts at the multiples of a size.
-/

namespace MarkedPages

/-! ## Calls -/

section

variable {Marker Page : Type*} (call : Marker -> Option (Page × Option Marker))

/-- Call with each returned marker until there is none; a failed call fails the reading. -/
def readAll : Nat -> Marker -> Option (List Page)
  | 0, _ => none
  | fuel + 1, marker =>
      match call marker with
      | none => none
      | some (page, none) => some [page]
      | some (page, some next) => (readAll fuel next).map fun later => page :: later

variable {call}

theorem readAll_last {marker : Marker} {page : Page} (last : call marker = some (page, none))
    (fuel : Nat) : readAll call (fuel + 1) marker = some [page] := by
  rw [readAll, last]

theorem readAll_more {marker next : Marker} {page : Page}
    (more : call marker = some (page, some next)) (fuel : Nat) :
    readAll call (fuel + 1) marker = (readAll call fuel next).map fun later => page :: later := by
  rw [readAll, more]

/-- A reading begins with the page of its first call. -/
theorem first_page {fuel : Nat} {marker : Marker} {pages : List Page}
    (read : readAll call fuel marker = some pages) :
    Exists fun page => Exists fun next => Exists fun later =>
      call marker = some (page, next) ∧ pages = page :: later := by
  cases fuel with
  | zero => cases read
  | succ fuel =>
      cases answer : call marker with
      | none =>
          rw [readAll, answer] at read
          cases read
      | some reply =>
          rcases reply with ⟨page, _ | next⟩
          · rw [readAll_last answer] at read
            cases read
            exact ⟨page, none, [], rfl, rfl⟩
          · rw [readAll_more answer] at read
            rcases Option.map_eq_some_iff.mp read with ⟨later, _, rfl⟩
            exact ⟨page, some next, later, rfl, rfl⟩

variable {mark : Nat -> Marker} {page : Nat -> Page}

/-- After as many calls as answer what they should, a reading stands before the next page. -/
theorem readAll_steps {count : Nat}
    (steps : forall index, index < count ->
      call (mark index) = some (page index, some (mark (index + 1)))) {fuel : Nat}
    {pages : List Page} (read : readAll call fuel (mark 0) = some pages) :
    Exists fun left => Exists fun later => readAll call left (mark count) = some later ∧
      pages = (List.range count).map page ++ later := by
  induction count with
  | zero => exact ⟨fuel, pages, read, rfl⟩
  | succ count ih =>
      rcases ih fun index small => steps index (Nat.lt_succ_of_lt small) with
        ⟨left, later, reading, same⟩
      have next := steps count (Nat.lt_succ_self count)
      cases left with
      | zero => cases reading
      | succ left =>
          rw [readAll_more next] at reading
          rcases Option.map_eq_some_iff.mp reading with ⟨rest, further, rfl⟩
          refine ⟨left, rest, further, ?_⟩
          rw [same, List.range_succ, List.map_append, List.append_assoc]
          rfl

/-- If the calls answer what they should up to the last one, all pages are read. -/
theorem readAll_all {count : Nat}
    (steps : forall index, index < count ->
      call (mark index) = some (page index, some (mark (index + 1))))
    (last : call (mark count) = some (page count, none)) :
    readAll call (count + 1) (mark 0) = some ((List.range (count + 1)).map page) := by
  induction count generalizing mark page with
  | zero => exact readAll_last last 0
  | succ count ih =>
      rw [readAll_more (steps 0 (Nat.succ_pos count))]
      have rest := @ih (fun index => mark (index + 1)) (fun index => page (index + 1))
        (fun index small => steps (index + 1) (Nat.succ_lt_succ small)) last
      have whole : (List.range (count + 1 + 1)).map page =
          page 0 :: (List.range (count + 1)).map fun index => page (index + 1) := by
        rw [@List.range_succ_eq_map (count + 1), List.map_cons, List.map_map]
        rfl
      rw [show mark 1 = mark (0 + 1) from rfl, rest, Option.map_some, whole]

end

/-! ## Cuts of a list -/

variable {Row : Type*}

/-- The page of a list at an index. -/
def chunk (rows : List Row) (size index : Nat) : List Row := (rows.drop (index * size)).take size

theorem chunk_sublist (rows : List Row) (size index : Nat) : (chunk rows size index).Sublist rows :=
  (List.take_sublist _ _).trans (List.drop_sublist _ _)

/-- As many elements as pass a test at the start of the list, or fewer of them, pass it. -/
theorem of_mem_take_takeWhile {rows : List Row} {test : Row -> Bool} {count : Nat} {row : Row}
    (listed : row ∈ rows.take (min count (rows.takeWhile test).length)) : test row = true := by
  have first := List.prefix_iff_eq_take.mp (List.takeWhile_prefix (l := rows) test)
  apply List.mem_takeWhile_imp (p := test)
  rw [first]
  exact List.take_subset_take_left rows (Nat.min_le_right count _) listed

/-- If an element of the first ones stands behind another, the other is one of the first ones. -/
theorem mem_take_of_nodup {front rest : List Row} {next row : Row} {count : Nat}
    (nodup : (front ++ next :: rest).Nodup)
    (listed : row ∈ (front ++ next :: rest).take count) (behind : row ∈ next :: rest) :
    next ∈ (front ++ next :: rest).take count := by
  have early : front.length < count := by
    by_contra far
    rw [List.take_append_of_le_length (by omega)] at listed
    exact List.disjoint_of_nodup_append nodup (List.take_subset _ _ listed) behind
  rcases Nat.exists_eq_succ_of_ne_zero (Nat.sub_ne_zero_of_lt early) with ⟨room, some⟩
  rw [List.take_append, some]
  simp

/-- In a list without duplicates two elements do not stand in both orders. -/
theorem not_both_orders {rows : List Row} (nodup : rows.Nodup) {first second : Row}
    (one : [first, second].Sublist rows) : ¬ [second, first].Sublist rows := by
  intro other
  induction rows with
  | nil => cases one
  | cons row rest ih =>
      have parts := List.nodup_cons.mp nodup
      cases one with
      | cons _ inside =>
          cases other with
          | cons _ also => exact ih parts.2 inside also
          | cons_cons _ _ => exact parts.1 (inside.subset (by simp))
      | cons_cons _ behind =>
          cases other with
          | cons _ also => exact parts.1 (also.subset (by simp))
          | cons_cons _ _ => exact parts.1 (behind.subset (by simp))

/-- Bringing the marked elements to the end changes nothing if none stands before an unmarked one. -/
theorem partition_eq {rows : List Row} {marked : Row -> Bool}
    (ordered : rows.Pairwise fun first second => marked first = true -> marked second = true) :
    rows.filter (fun row => !marked row) ++ rows.filter marked = rows := by
  induction rows with
  | nil => rfl
  | cons row rest ih =>
      have parts := List.pairwise_cons.mp ordered
      cases here : marked row with
      | false =>
          rw [List.filter_cons_of_pos (by simp [here]), List.filter_cons_of_neg (by simp [here]),
            List.cons_append, ih parts.2]
      | true =>
          have all : forall other, other ∈ rest -> marked other = true :=
            fun other listed => parts.1 other listed here
          have none : rest.filter (fun row => !marked row) = [] := by
            rw [List.filter_eq_nil_iff]
            intro other listed
            simp [all other listed]
          rw [List.filter_cons_of_neg (by simp [here]), List.filter_cons_of_pos here, none,
            List.filter_eq_self.mpr all, List.nil_append]

end MarkedPages

end Library
end Basement
