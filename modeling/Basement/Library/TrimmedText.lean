import Mathlib.Data.List.DropRight

namespace Basement
namespace Library

/-!
# Trimmed texts

A text loses its blanks at both ends before it is read.  What counts as a blank is a parameter.

A line of cells is joined by a delimiter and taken apart at it again.  If the delimiter is no
blank, trimming the line changes nothing about it.  If it is one, the line keeps its cells from
the first one on that is not empty, up to the last one that is not.
-/

namespace TrimmedText

variable {α : Type*} {blank : α -> Bool}

/-- The text without the blanks at its ends. -/
def trim (blank : α -> Bool) (text : List α) : List α := (text.dropWhile blank).rdropWhile blank

/-- There are no blanks at the ends of the text. -/
def Trimmed (blank : α -> Bool) (text : List α) : Prop := trim blank text = text

instance [DecidableEq α] (text : List α) : Decidable (Trimmed blank text) :=
  inferInstanceAs (Decidable (_ = _))

/-! ## Ends -/

theorem trim_blanks_append {front : List α} (blanks : forall c, c ∈ front -> blank c = true)
    (text : List α) : trim blank (front ++ text) = trim blank text := by
  rw [trim, List.dropWhile_append_of_pos blanks, trim]

theorem trim_concat {c : α} (isBlank : blank c = true) (text : List α) :
    trim blank (text ++ [c]) = trim blank text := by
  unfold trim
  rw [List.dropWhile_append]
  split
  · rename_i empty
    rw [List.isEmpty_iff.mp empty, List.dropWhile_cons, if_pos isBlank]
    rfl
  · exact List.rdropWhile_concat_pos _ _ _ isBlank

theorem trim_append_blanks {tail : List α} (blanks : forall c, c ∈ tail -> blank c = true)
    (text : List α) : trim blank (text ++ tail) = trim blank text := by
  induction tail generalizing text with
  | nil => rw [List.append_nil]
  | cons c tail ih =>
      have rest := fun d member => blanks d (List.mem_cons_of_mem c member)
      rw [List.append_cons, ih rest, trim_concat (blanks c List.mem_cons_self)]

theorem trim_rdropWhile (text : List α) :
    trim blank (text.rdropWhile blank) = trim blank text := by
  have blanks : forall c, c ∈ text.rtakeWhile blank -> blank c = true :=
    fun c member => List.mem_rtakeWhile_imp member
  calc trim blank (text.rdropWhile blank)
      = trim blank (text.rdropWhile blank ++ text.rtakeWhile blank) :=
        (trim_append_blanks blanks _).symm
    _ = trim blank text := by rw [List.rdropWhile_append_rtakeWhile]

theorem dropWhile_eq_self {text : List α}
    (first : forall c, text.head? = some c -> blank c = false) : text.dropWhile blank = text := by
  cases text with
  | nil => rfl
  | cons c rest => rw [List.dropWhile_cons, if_neg (by simp [first c rfl])]

theorem trimmed_of_ends {text : List α}
    (first : forall c, text.head? = some c -> blank c = false)
    (last : forall c, text.getLast? = some c -> blank c = false) : Trimmed blank text := by
  rw [Trimmed, trim, dropWhile_eq_self first, List.rdropWhile_eq_self_iff]
  intro some
  simp [last _ (List.getLast?_eq_some_getLast some)]

theorem Trimmed.head {text : List α} (trimmed : Trimmed blank text) {c : α}
    (first : text.head? = some c) : blank c = false := by
  rcases List.head?_eq_some_iff.mp first with ⟨rest, rfl⟩
  by_contra isBlank
  rw [Bool.not_eq_false] at isBlank
  have shorter : (trim blank (c :: rest)).length ≤ rest.length := by
    rw [trim, List.dropWhile_cons, if_pos isBlank]
    exact (List.rdropWhile_prefix _ _).length_le.trans (List.dropWhile_suffix _).length_le
  rw [trimmed] at shorter
  exact absurd shorter (Nat.not_succ_le_self _)

theorem Trimmed.getLast {text : List α} (trimmed : Trimmed blank text) {c : α}
    (last : text.getLast? = some c) : blank c = false := by
  rcases List.getLast?_eq_some_iff.mp last with ⟨front, rfl⟩
  by_contra isBlank
  rw [Bool.not_eq_false] at isBlank
  have shorter : (trim blank (front ++ [c])).length ≤ front.length := by
    rw [trim_concat isBlank]
    exact (List.rdropWhile_prefix _ _).length_le.trans (List.dropWhile_suffix _).length_le
  rw [trimmed, List.length_append] at shorter
  exact absurd shorter (Nat.not_succ_le_self _)

theorem trimmed_of_forall {text : List α} (plain : forall c, c ∈ text -> blank c = false) :
    Trimmed blank text :=
  trimmed_of_ends (fun c first => plain c (List.mem_of_head? first))
    fun c last => plain c (List.mem_of_getLast? last)

/-- A text that does not begin with a blank keeps its first symbol. -/
theorem head?_trim {c : α} (plain : blank c = false) (rest : List α) :
    (trim blank (c :: rest)).head? = some c := by
  have first : forall d, (c :: rest).head? = some d -> blank d = false :=
    fun d same => Option.some.inj same ▸ plain
  rw [trim, dropWhile_eq_self first]
  have before := List.rdropWhile_prefix blank (c :: rest)
  cases kept : (c :: rest).rdropWhile blank with
  | nil =>
      have blanks := List.rdropWhile_eq_nil_iff.mp kept c List.mem_cons_self
      rw [plain] at blanks
      cases blanks
  | cons d tail =>
      rw [kept] at before
      exact congrArg some (List.cons_prefix_cons.mp before).1

theorem rdropWhile_append_cons {c : α} (plain : blank c = false) (front rest : List α) :
    (front ++ c :: rest).rdropWhile blank = front ++ c :: rest.rdropWhile blank := by
  induction rest using List.reverseRecOn with
  | nil => exact List.rdropWhile_concat_neg _ _ _ (by simp [plain])
  | append_singleton rest last ih =>
      rw [← List.cons_append, ← List.append_assoc]
      by_cases isBlank : blank last = true
      · rw [List.rdropWhile_concat_pos _ _ _ isBlank, ih,
          List.rdropWhile_concat_pos _ _ _ isBlank]
      · rw [List.rdropWhile_concat_neg _ _ _ isBlank, List.rdropWhile_concat_neg _ _ _ isBlank,
          List.append_assoc, List.cons_append]

/-- Behind a symbol that is no blank only the blanks at the end are lost. -/
theorem trim_append_cons {front : List α}
    (first : forall c, front.head? = some c -> blank c = false) {c : α} (plain : blank c = false)
    (rest : List α) :
    trim blank (front ++ c :: rest) = front ++ c :: rest.rdropWhile blank := by
  have start : forall d, (front ++ c :: rest).head? = some d -> blank d = false := by
    intro d head
    cases front with
    | nil => exact Option.some.inj head ▸ plain
    | cons e tail => exact first d head
  rw [trim, dropWhile_eq_self start, rdropWhile_append_cons plain]

/-! ## Joined cells -/

section joined

variable (delimiter : α)

/-- The cells with the delimiter between them. -/
def join (cells : List (List α)) : List α := [delimiter].intercalate cells

theorem join_singleton (cell : List α) : join delimiter [cell] = cell := List.intercalate_singleton

theorem join_cons_cons (cell next : List α) (cells : List (List α)) :
    join delimiter (cell :: next :: cells) =
      cell ++ delimiter :: join delimiter (next :: cells) := by
  rw [join, List.intercalate_cons_cons, List.append_assoc]
  rfl

theorem join_concat {cells : List (List α)} (some : cells ≠ []) (cell : List α) :
    join delimiter (cells ++ [cell]) = join delimiter cells ++ delimiter :: cell := by
  induction cells with
  | nil => exact absurd rfl some
  | cons first cells ih =>
      cases cells with
      | nil => rw [List.singleton_append, join_cons_cons, join_singleton, join_singleton]
      | cons next cells =>
          have rest := ih (List.cons_ne_nil _ _)
          rw [List.cons_append] at rest
          rw [List.cons_append, List.cons_append, join_cons_cons, rest, join_cons_cons,
            List.append_assoc, List.cons_append]

theorem mem_join {cells : List (List α)} {c : α} (member : c ∈ join delimiter cells) :
    c = delimiter ∨ Exists fun cell => cell ∈ cells ∧ c ∈ cell := by
  induction cells with
  | nil => cases member
  | cons first cells ih =>
      cases cells with
      | nil =>
          rw [join_singleton] at member
          exact Or.inr ⟨first, List.mem_singleton_self _, member⟩
      | cons next cells =>
          rw [join_cons_cons] at member
          rcases List.mem_append.mp member with inFirst | behind
          · exact Or.inr ⟨first, List.mem_cons_self, inFirst⟩
          · rcases List.mem_cons.mp behind with same | inRest
            · exact Or.inl same
            · rcases ih inRest with same | ⟨cell, inCells, inCell⟩
              · exact Or.inl same
              · exact Or.inr ⟨cell, List.mem_cons_of_mem _ inCells, inCell⟩

theorem head?_join {first : List α} {cells : List (List α)} {c : α}
    (head : (join delimiter (first :: cells)).head? = some c) :
    first.head? = some c ∨ first = [] ∧ c = delimiter := by
  cases cells with
  | nil =>
      rw [join_singleton] at head
      exact Or.inl head
  | cons next cells =>
      rw [join_cons_cons] at head
      cases first with
      | nil => exact Or.inr ⟨rfl, (Option.some.inj head).symm⟩
      | cons d rest => exact Or.inl head

theorem getLast?_join {last : List α} {cells : List (List α)} {c : α}
    (ends : (join delimiter (cells ++ [last])).getLast? = some c) :
    last.getLast? = some c ∨ last = [] ∧ c = delimiter := by
  by_cases some : cells = []
  · rw [some, List.nil_append, join_singleton] at ends
    exact Or.inl ends
  · rw [join_concat delimiter some] at ends
    rcases List.eq_nil_or_concat last with rfl | ⟨front, d, rfl⟩
    · rw [List.getLast?_concat] at ends
      exact Or.inr ⟨rfl, (Option.some.inj ends).symm⟩
    · rw [List.concat_eq_append, ← List.cons_append, ← List.append_assoc,
        List.getLast?_concat] at ends
      rw [List.concat_eq_append, List.getLast?_concat]
      exact Or.inl ends

/-- A delimiter that is no blank holds the ends of a line. -/
theorem trimmed_join {delimiter : α} (plain : blank delimiter = false) {cells : List (List α)}
    (trimmed : forall cell, cell ∈ cells -> Trimmed blank cell) :
    Trimmed blank (join delimiter cells) := by
  apply trimmed_of_ends
  · intro c head
    cases cells with
    | nil => cases head
    | cons first cells =>
        rcases head?_join delimiter head with inFirst | ⟨_, same⟩
        · exact (trimmed first List.mem_cons_self).head inFirst
        · rw [same]
          exact plain
  · intro c ends
    rcases List.eq_nil_or_concat cells with rfl | ⟨front, last, rfl⟩
    · cases ends
    · rw [List.concat_eq_append] at ends trimmed
      rcases getLast?_join delimiter ends with inLast | ⟨_, same⟩
      · exact (trimmed last (List.mem_append_right _ (List.mem_singleton_self _))).getLast inLast
      · rw [same]
        exact plain

/-- A delimiter that is a blank is lost with the empty cells at the end, and with nothing else if
the first cell is not empty. -/
theorem exists_trim_join {delimiter : α} (isBlank : blank delimiter = true) {first : List α}
    (some : first ≠ []) {cells : List (List α)}
    (trimmed : forall cell, cell ∈ first :: cells -> Trimmed blank cell) :
    Exists fun kept => Exists fun count => cells = kept ++ List.replicate count [] ∧
      trim blank (join delimiter (first :: cells)) = join delimiter (first :: kept) := by
  induction cells using List.reverseRecOn with
  | nil =>
      refine ⟨[], 0, rfl, ?_⟩
      rw [join_singleton]
      exact trimmed first List.mem_cons_self
  | append_singleton cells last ih =>
      have inFront : forall cell, cell ∈ first :: cells -> cell ∈ first :: (cells ++ [last]) :=
        fun cell member => List.cons_append ▸ List.mem_append_left [last] member
      by_cases empty : last = []
      · rcases ih fun cell member => trimmed cell (inFront cell member) with
          ⟨kept, count, rfl, same⟩
        refine ⟨kept, count + 1, ?_, ?_⟩
        · rw [empty, List.append_assoc, List.replicate_succ']
        · rw [empty, ← List.cons_append, join_concat _ (List.cons_ne_nil _ _),
            trim_append_blanks (by simp [isBlank]), same]
      · refine ⟨cells ++ [last], 0, (List.append_nil _).symm, ?_⟩
        apply trimmed_of_ends
        · intro c head
          rcases head?_join delimiter head with inFirst | ⟨none, _⟩
          · exact (trimmed first List.mem_cons_self).head inFirst
          · exact absurd none some
        · intro c ends
          rw [← List.cons_append] at ends
          rcases getLast?_join delimiter ends with inLast | ⟨none, _⟩
          · exact (trimmed last (by simp)).getLast inLast
          · exact absurd none empty

end joined

end TrimmedText
end Library
end Basement
