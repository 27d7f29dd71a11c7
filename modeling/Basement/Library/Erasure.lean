import Mathlib.Data.List.Infix

namespace Basement
namespace Library

/-!
# Erasing words from a text

`eraseWord` leaves out the occurrences of one word, from the left and without overlap.
`eraseWords` does so for several words, one after the other, and `eraseUntilStable` until
nothing changes any more.  All three return the text as it was exactly when it contains
none of the words.
-/

variable {α : Type} [DecidableEq α]

/-- Leave out every occurrence of a word.  The first `skip` letters of the text belong to
an occurrence that was found already. -/
def eraseWord (word : List α) : Nat -> List α -> List α
  | _, [] => []
  | skip + 1, _ :: rest => eraseWord word skip rest
  | 0, letter :: rest =>
      if word.isPrefixOf (letter :: rest) then eraseWord word (word.length - 1) rest
      else letter :: eraseWord word 0 rest

def eraseWords (words : List (List α)) (text : List α) : List α :=
  words.foldl (fun kept word => eraseWord word 0 kept) text

theorem eraseWord_sublist (word : List α) (skip : Nat) (text : List α) :
    (eraseWord word skip text).Sublist text := by
  induction text generalizing skip with
  | nil => cases skip <;> exact List.nil_sublist []
  | cons letter rest ih =>
      cases skip with
      | succ skip => exact (ih skip).cons letter
      | zero =>
          unfold eraseWord
          split
          · exact (ih _).cons letter
          · exact (ih 0).cons_cons letter

/-- A text without the word is left alone, and no other. -/
theorem eraseWord_eq_self_iff {word : List α} (nonempty : word ≠ []) (text : List α) :
    eraseWord word 0 text = text ↔ ¬ word <:+: text := by
  induction text with
  | nil =>
      rw [List.infix_nil]
      exact iff_of_true rfl nonempty
  | cons letter rest ih =>
      unfold eraseWord
      split
      · rename_i found
        have first : word <+: letter :: rest := List.isPrefixOf_iff_prefix.mp found
        refine iff_of_false ?_ (not_not_intro first.isInfix)
        intro same
        have shorter := (eraseWord_sublist word (word.length - 1) rest).length_le
        rw [same, List.length_cons] at shorter
        exact absurd shorter (Nat.not_succ_le_self _)
      · rename_i absent
        have notFirst : ¬ word <+: letter :: rest :=
          fun first => absent (List.isPrefixOf_iff_prefix.mpr first)
        rw [List.cons_inj_right, ih, List.infix_cons_iff, not_or]
        exact (and_iff_right notFirst).symm

theorem eraseWords_sublist (words : List (List α)) (text : List α) :
    (eraseWords words text).Sublist text := by
  induction words generalizing text with
  | nil => exact List.Sublist.refl text
  | cons word words ih => exact (ih _).trans (eraseWord_sublist word 0 text)

theorem eraseWords_eq_self_iff {words : List (List α)}
    (nonempty : forall word, word ∈ words -> word ≠ []) (text : List α) :
    eraseWords words text = text ↔ forall word, word ∈ words -> ¬ word <:+: text := by
  induction words with
  | nil =>
      refine iff_of_true rfl ?_
      intro word absent
      cases absent
  | cons word words ih =>
      have later := ih fun other member => nonempty other (List.mem_cons_of_mem _ member)
      rw [List.forall_mem_cons, ← eraseWord_eq_self_iff (nonempty word List.mem_cons_self) text,
        ← later]
      constructor
      · intro same
        -- The first pass leaves all of the text, since the others add nothing to it.
        have kept : (eraseWord word 0 text) = text := by
          apply (eraseWord_sublist word 0 text).eq_of_length_le
          have shorter := (eraseWords_sublist words (eraseWord word 0 text)).length_le
          rwa [show eraseWords words (eraseWord word 0 text) = text from same] at shorter
        refine ⟨kept, ?_⟩
        rwa [show eraseWords (word :: words) text = eraseWords words (eraseWord word 0 text) from rfl,
          kept] at same
      · rintro ⟨kept, rest⟩
        rw [show eraseWords (word :: words) text = eraseWords words (eraseWord word 0 text) from rfl,
          kept, rest]

theorem eraseWords_length_lt {words : List (List α)} {text : List α}
    (changed : eraseWords words text ≠ text) : (eraseWords words text).length < text.length := by
  have shorter := eraseWords_sublist words text
  apply lt_of_le_of_ne shorter.length_le
  intro same
  exact changed (shorter.eq_of_length same)

/-- Erase the words again and again, until the text stays as it is. -/
def eraseUntilStable (words : List (List α)) (text : List α) : List α :=
  if eraseWords words text = text then text
  else eraseUntilStable words (eraseWords words text)
  termination_by text.length
  decreasing_by exact eraseWords_length_lt ‹_›

theorem eraseUntilStable_length_le (words : List (List α)) (text : List α) :
    (eraseUntilStable words text).length ≤ text.length := by
  fun_induction eraseUntilStable words text with
  | case1 text stable => exact le_refl _
  | case2 text changed ih => exact ih.trans (eraseWords_length_lt changed).le

theorem eraseUntilStable_eq_self_iff {words : List (List α)}
    (nonempty : forall word, word ∈ words -> word ≠ []) (text : List α) :
    eraseUntilStable words text = text ↔ forall word, word ∈ words -> ¬ word <:+: text := by
  rw [← eraseWords_eq_self_iff nonempty text]
  constructor
  · intro same
    by_contra changed
    have shorter := eraseUntilStable_length_le words (eraseWords words text)
    unfold eraseUntilStable at same
    rw [if_neg changed] at same
    rw [same] at shorter
    exact absurd (eraseWords_length_lt changed) (Nat.not_lt.mpr shorter)
  · intro stable
    unfold eraseUntilStable
    rw [if_pos stable]

end Library
end Basement
