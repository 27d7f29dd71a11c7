import Mathlib.Data.List.Infix

namespace Basement
namespace Library

/-!
# Scopes with a wildcard at the end

A scope is a text of parts that a separator keeps apart.  As a pattern it covers itself; a
lone wildcard covers everything; and a wildcard behind a separator covers every continuation
of what stands before it.  The empty text covers nothing and is not covered.

A pattern is a scope itself, so covering is a relation on one type.  It is reflexive on the
scopes that are not empty and transitive, and two patterns that cover a common scope are
comparable.  Hence what two patterns cover together is what the narrower one covers.
-/

/-- The two symbols of a scope grammar. -/
structure ScopeSymbols (α : Type*) where
  separator : α
  wildcard : α
  differ : separator ≠ wildcard

namespace ScopeSymbols

variable {α : Type*} (symbols : ScopeSymbols α)

/-- The pattern ends in a wildcard of its own. -/
def Open (pattern : List α) : Prop := [symbols.separator, symbols.wildcard] <:+ pattern

instance [DecidableEq α] (pattern : List α) : Decidable (symbols.Open pattern) :=
  inferInstanceAs (Decidable ([symbols.separator, symbols.wildcard] <:+ pattern))

/-- The pattern covers the scope. -/
def Covers (pattern scope : List α) : Prop :=
  pattern ≠ [] ∧ scope ≠ [] ∧
    (pattern = [symbols.wildcard] ∨ pattern = scope ∨
      symbols.Open pattern ∧ pattern.dropLast <+: scope)

instance [DecidableEq α] (pattern scope : List α) : Decidable (symbols.Covers pattern scope) :=
  inferInstanceAs (Decidable (_ ∧ _))

variable {symbols}

theorem covers_refl {scope : List α} (some : scope ≠ []) : symbols.Covers scope scope :=
  ⟨some, some, Or.inr (Or.inl rfl)⟩

/-- What stands before the wildcard of an open pattern ends in a separator. -/
theorem Open.eq_append {pattern : List α} (isOpen : symbols.Open pattern) :
    Exists fun parts => pattern = parts ++ [symbols.separator, symbols.wildcard] ∧
      pattern.dropLast = parts ++ [symbols.separator] := by
  rcases isOpen with ⟨parts, rfl⟩
  refine ⟨parts, rfl, ?_⟩
  rw [List.dropLast_append_of_ne_nil (by simp)]
  rfl

/-- A prefix that ends in a separator lies before the wildcard. -/
theorem prefix_dropLast {parts pattern : List α} (isOpen : symbols.Open pattern)
    (before : parts ++ [symbols.separator] <+: pattern) :
    parts ++ [symbols.separator] <+: pattern.dropLast := by
  rcases isOpen.eq_append with ⟨front, same, shorter⟩
  have whole : pattern = pattern.dropLast ++ [symbols.wildcard] := by
    rw [shorter, same, List.append_assoc]
    rfl
  rw [whole] at before
  rcases List.prefix_concat_iff.mp before with equal | inside
  · have last := (List.append_inj' equal rfl).2
    exact absurd (List.cons.inj last).1 symbols.differ
  · exact inside

theorem covers_trans {first second third : List α} (one : symbols.Covers first second)
    (two : symbols.Covers second third) : symbols.Covers first third := by
  rcases one with ⟨firstSome, _, any | rfl | ⟨firstOpen, inside⟩⟩
  · exact ⟨firstSome, two.2.1, Or.inl any⟩
  · exact two
  · refine ⟨firstSome, two.2.1, Or.inr (Or.inr ⟨firstOpen, ?_⟩)⟩
    rcases firstOpen.eq_append with ⟨parts, same, shorter⟩
    rcases two.2.2 with any | rfl | ⟨secondOpen, further⟩
    · -- a lone wildcard does not begin with parts and a separator
      rw [shorter, any] at inside
      have length := inside.length_le
      have empty : parts = [] := by
        simpa using length
      rw [empty] at inside
      exact absurd (List.cons_prefix_cons.mp inside).1 symbols.differ
    · exact inside
    · rw [shorter] at inside ⊢
      exact (prefix_dropLast secondOpen inside).trans further

/-- Patterns that cover a common scope are comparable. -/
theorem covers_comparable {first second scope : List α} (one : symbols.Covers first scope)
    (two : symbols.Covers second scope) :
    symbols.Covers first second ∨ symbols.Covers second first := by
  rcases one with ⟨firstSome, scopeSome, any | rfl | ⟨firstOpen, inside⟩⟩
  · exact Or.inl ⟨firstSome, two.1, Or.inl any⟩
  · exact Or.inr two
  · rcases two with ⟨secondSome, _, any | rfl | ⟨secondOpen, further⟩⟩
    · exact Or.inr ⟨secondSome, firstSome, Or.inl any⟩
    · exact Or.inl ⟨firstSome, scopeSome, Or.inr (Or.inr ⟨firstOpen, inside⟩)⟩
    · rcases List.prefix_or_prefix_of_prefix inside further with shorter | longer
      · exact Or.inl ⟨firstSome, secondSome,
          Or.inr (Or.inr ⟨firstOpen, shorter.trans (List.dropLast_prefix second)⟩)⟩
      · exact Or.inr ⟨secondSome, firstSome,
          Or.inr (Or.inr ⟨secondOpen, longer.trans (List.dropLast_prefix first)⟩)⟩

/-- What two patterns cover together is what the narrower one covers. -/
theorem covers_both_iff {first second scope : List α} :
    symbols.Covers first scope ∧ symbols.Covers second scope ↔
      symbols.Covers first second ∧ symbols.Covers second scope ∨
        symbols.Covers second first ∧ symbols.Covers first scope := by
  constructor
  · rintro ⟨one, two⟩
    rcases covers_comparable one two with wider | narrower
    · exact Or.inl ⟨wider, two⟩
    · exact Or.inr ⟨narrower, one⟩
  · rintro (⟨wider, two⟩ | ⟨narrower, one⟩)
    · exact ⟨covers_trans wider two, two⟩
    · exact ⟨one, covers_trans narrower one⟩

/-- A pattern covers another one if it covers all that the other one covers. -/
theorem covers_iff_forall {first second : List α} :
    symbols.Covers first second ↔
      second ≠ [] ∧ forall scope, symbols.Covers second scope -> symbols.Covers first scope := by
  constructor
  · intro wider
    exact ⟨wider.2.1, fun scope covered => covers_trans wider covered⟩
  · rintro ⟨some, all⟩
    exact all second (covers_refl some)

end ScopeSymbols

end Library
end Basement
