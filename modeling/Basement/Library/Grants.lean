import Mathlib.Logic.Basic

namespace Basement
namespace Library

/-!
# Grants at scopes

A grant gives a permission to a subject at a scope, and it permits at every scope its own one
covers.  Covering is transitive, and a scope that covers anything covers itself.  Then what a set
of grants permits is decided at the grants: it lies within what another set permits as soon as
each single grant, at its own scope, does.
-/

/-- A covering of scopes by scopes. -/
structure Covering (Scope : Type*) where
  Covers : Scope -> Scope -> Prop
  trans : forall {first second third}, Covers first second -> Covers second third ->
    Covers first third
  self : forall {first second}, Covers first second -> Covers first first

/-- The grants: who may do what, and at which scope it was granted. -/
abbrev Grants (Subject Permission Scope : Type*) := Subject -> Permission -> Scope -> Prop

/-- The grants of both. -/
def Grants.join {Subject Permission Scope : Type*} (grants other : Grants Subject Permission Scope) :
    Grants Subject Permission Scope :=
  fun who what held => grants who what held ∨ other who what held

namespace Covering

variable {Subject Permission Scope : Type*} (scopes : Covering Scope)

/-- Some grant to the subject covers the scope. -/
def Permits (grants : Grants Subject Permission Scope) (who : Subject) (what : Permission)
    (place : Scope) : Prop :=
  Exists fun held => grants who what held ∧ scopes.Covers held place

/-- A scope without coverage takes no part in any decision. -/
def Proper (scope : Scope) : Prop := scopes.Covers scope scope

variable {scopes} {grants other shared lost gained : Grants Subject Permission Scope}

theorem permits_self {who : Subject} {what : Permission} {held : Scope}
    (granted : grants who what held) (proper : scopes.Proper held) :
    scopes.Permits grants who what held := ⟨held, granted, proper⟩

/-- Permission at a scope is permission at every scope it covers. -/
theorem Permits.covered {who : Subject} {what : Permission} {wider place : Scope}
    (permitted : scopes.Permits grants who what wider) (covers : scopes.Covers wider place) :
    scopes.Permits grants who what place := by
  rcases permitted with ⟨held, granted, above⟩
  exact ⟨held, granted, scopes.trans above covers⟩

theorem Permits.mono {who : Subject} {what : Permission} {place : Scope}
    (permitted : scopes.Permits grants who what place)
    (more : forall held, grants who what held -> other who what held) :
    scopes.Permits other who what place := by
  rcases permitted with ⟨held, granted, above⟩
  exact ⟨held, more held granted, above⟩

/-- Inclusion is decided at the grants. -/
theorem permits_le_iff :
    (forall who what place, scopes.Permits grants who what place ->
      scopes.Permits other who what place) ↔
    forall who what held, scopes.Proper held -> grants who what held ->
      scopes.Permits other who what held := by
  constructor
  · intro within who what held proper granted
    exact within who what held (permits_self granted proper)
  · rintro within who what place ⟨held, granted, above⟩
    exact (within who what held (scopes.self above) granted).covered above

theorem permits_join_iff {who : Subject} {what : Permission} {place : Scope} :
    scopes.Permits (grants.join other) who what place ↔
      scopes.Permits grants who what place ∨ scopes.Permits other who what place := by
  constructor
  · rintro ⟨held, granted | granted, above⟩
    · exact Or.inl ⟨held, granted, above⟩
    · exact Or.inr ⟨held, granted, above⟩
  · rintro (⟨held, granted, above⟩ | ⟨held, granted, above⟩)
    · exact ⟨held, Or.inl granted, above⟩
    · exact ⟨held, Or.inr granted, above⟩

/-- Further grants change nothing exactly if each was permitted before. -/
theorem extend_iff :
    (forall who what place, scopes.Permits (shared.join gained) who what place ↔
      scopes.Permits shared who what place) ↔
    forall who what held, scopes.Proper held -> gained who what held ->
      scopes.Permits shared who what held := by
  constructor
  · intro same who what held proper granted
    exact (same who what held).mp (permits_self (Or.inr granted) proper)
  · intro gains who what place
    constructor
    · refine permits_le_iff.mpr ?_ who what place
      intro who what held proper granted
      rcases granted with granted | granted
      · exact permits_self granted proper
      · exact gains who what held proper granted
    · exact fun permitted => permitted.mono fun held granted => Or.inl granted

/-- Grants are exchanged for others.  Nothing changes exactly if each grant that is gained was
permitted before and each one that is lost still is. -/
theorem exchange_iff :
    (forall who what place, scopes.Permits (shared.join gained) who what place ↔
      scopes.Permits (shared.join lost) who what place) ↔
    (forall who what held, scopes.Proper held -> gained who what held ->
      scopes.Permits (shared.join lost) who what held) ∧
    (forall who what held, scopes.Proper held -> lost who what held ->
      scopes.Permits (shared.join gained) who what held) := by
  constructor
  · intro same
    refine ⟨?_, ?_⟩
    · intro who what held proper granted
      exact (same who what held).mp (permits_self (Or.inr granted) proper)
    · intro who what held proper granted
      exact (same who what held).mpr (permits_self (Or.inr granted) proper)
  · rintro ⟨gains, losses⟩ who what place
    constructor
    · refine permits_le_iff.mpr ?_ who what place
      intro who what held proper granted
      rcases granted with granted | granted
      · exact permits_self (Or.inl granted) proper
      · exact gains who what held proper granted
    · refine permits_le_iff.mpr ?_ who what place
      intro who what held proper granted
      rcases granted with granted | granted
      · exact permits_self (Or.inl granted) proper
      · exact losses who what held proper granted

end Covering

end Library
end Basement
