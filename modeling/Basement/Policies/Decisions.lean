import Basement.Library.Grants
import Basement.Policies.Enforcer

namespace Basement
namespace Policies

open ServiceAccounts
open Library (Covering Grants)

/-!
# Decisions as grants at scopes

Every assignment whose role exists is a set of grants at the assignment's scope, one for each
capability the role's expressions expand to, and `Can` is what these grants permit.  Two states
of the store thus decide alike as soon as the grants in which they differ are permitted by both.
-/

def scopeCovering : Covering String where
  Covers assignmentScope requestedScope := scopeMatches assignmentScope requestedScope = true
  trans := scopeMatches_trans
  self covers := scopeMatches_refl (ne_empty_of_scopeMatches covers).1

theorem scopeCovering_proper {scope : String} : scopeCovering.Proper scope ↔ scope ≠ "" :=
  ⟨fun covers => (ne_empty_of_scopeMatches covers).1, scopeMatches_refl⟩

/-- The role with the ID exists and lists the capability. -/
def roleLists (enforcer : Enforcer) (roleID capability : String) : Bool :=
  match enforcer.roleByID roleID with
  | none => false
  | some role => role.lists capability

theorem grants_iff {enforcer : Enforcer} {row : Api.RoleAssignment} {capability scope : String} :
    enforcer.grants row capability scope = true ↔
      scopeMatches row.scope scope = true ∧ roleLists enforcer row.roleID capability = true := by
  unfold Enforcer.grants roleLists
  cases enforcer.roleByID row.roleID with
  | none => exact iff_of_false Bool.false_ne_true fun both => Bool.false_ne_true both.2
  | some role => exact Bool.and_eq_true_iff

/-- Only registered capabilities are listed. -/
theorem mem_registry_of_mem_expand {capExpr capability : String}
    (listed : capability ∈ expand capExpr) : capability ∈ registry := by
  unfold expand at listed
  split at listed
  · cases listed
  · split at listed
    · exact listed
    · split at listed
      · exact (List.mem_filter.mp listed).1
      · split at listed
        · rename_i registered
          cases List.mem_singleton.mp listed
          exact registered
        · cases listed

theorem roleLists_ne_empty {enforcer : Enforcer} {roleID capability : String}
    (listed : roleLists enforcer roleID capability = true) : capability ≠ "" := by
  unfold roleLists at listed
  split at listed
  · cases listed
  · rcases List.any_eq_true.mp listed with ⟨capExpr, _, inside⟩
    rintro rfl
    exact absurd (mem_registry_of_mem_expand (List.contains_iff_mem.mp inside)) (by decide)

/-- The grants that some of the rows make. -/
def grantsOf (enforcer : Enforcer) (rows : List Api.RoleAssignment) : Grants String String String :=
  fun userID capability scope => userID ≠ "" ∧ Exists fun row => row ∈ rows ∧
    row.userID = userID ∧ row.scope = scope ∧ roleLists enforcer row.roleID capability = true

/-- `Can` is what the rows permit. -/
theorem can_iff_permits {enforcer : Enforcer} {userID capability scope : String} :
    enforcer.can userID capability scope = true ↔
      scopeCovering.Permits (grantsOf enforcer enforcer.assignments) userID capability scope := by
  rw [can_iff]
  constructor
  · rintro ⟨⟨user, _, _⟩, row, member, own, granted⟩
    have parts := grants_iff.mp granted
    exact ⟨row.scope, ⟨user, row, member, own, rfl, parts.2⟩, parts.1⟩
  · rintro ⟨held, ⟨user, row, member, own, rfl, listed⟩, covers⟩
    exact ⟨⟨user, roleLists_ne_empty listed, (ne_empty_of_scopeMatches covers).2⟩, row, member, own,
      grants_iff.mpr ⟨covers, listed⟩⟩

/-- The rows of one part and the rows of the other. -/
theorem grantsOf_append {enforcer : Enforcer} {first second : List Api.RoleAssignment} :
    grantsOf enforcer (first ++ second) =
      (grantsOf enforcer first).join (grantsOf enforcer second) := by
  funext userID capability scope
  refine propext ⟨?_, ?_⟩
  · rintro ⟨user, row, member, facts⟩
    rcases List.mem_append.mp member with here | there
    · exact Or.inl ⟨user, row, here, facts⟩
    · exact Or.inr ⟨user, row, there, facts⟩
  · rintro (⟨user, row, member, facts⟩ | ⟨user, row, member, facts⟩)
    · exact ⟨user, row, List.mem_append_left _ member, facts⟩
    · exact ⟨user, row, List.mem_append_right _ member, facts⟩

/-- The rows that a test selects and the others. -/
theorem grantsOf_filter {enforcer : Enforcer} {rows : List Api.RoleAssignment}
    (chosen : Api.RoleAssignment -> Bool) :
    grantsOf enforcer rows =
      (grantsOf enforcer (rows.filter fun row => !chosen row)).join
        (grantsOf enforcer (rows.filter chosen)) := by
  funext userID capability scope
  refine propext ⟨?_, ?_⟩
  · rintro ⟨user, row, member, facts⟩
    cases choice : chosen row with
    | false =>
        refine Or.inl ⟨user, row, List.mem_filter.mpr ⟨member, ?_⟩, facts⟩
        rw [choice]
        rfl
    | true => exact Or.inr ⟨user, row, List.mem_filter.mpr ⟨member, choice⟩, facts⟩
  · rintro (⟨user, row, member, facts⟩ | ⟨user, row, member, facts⟩)
    · exact ⟨user, row, (List.mem_filter.mp member).1, facts⟩
    · exact ⟨user, row, (List.mem_filter.mp member).1, facts⟩

/-- Enforcers that find the same roles make the same grants of the same rows. -/
theorem grantsOf_congr {enforcer other : Enforcer} {rows : List Api.RoleAssignment}
    (same : forall row, row ∈ rows -> enforcer.roleByID row.roleID = other.roleByID row.roleID) :
    grantsOf enforcer rows = grantsOf other rows := by
  funext userID capability scope
  unfold grantsOf roleLists
  refine propext (and_congr_right fun _ => exists_congr fun row => ?_)
  refine and_congr_right fun member => ?_
  rw [same row member]

/-! ## Equal decisions -/

/-- `Can` answers every question alike. -/
def SameDecisions (pf after : PolicyFile) : Prop :=
  forall userID capability scope,
    after.enforcer.can userID capability scope = pf.enforcer.can userID capability scope

theorem SameDecisions.refl (pf : PolicyFile) : SameDecisions pf pf := fun _ _ _ => rfl

theorem sameDecisions_iff {pf after : PolicyFile} :
    SameDecisions pf after ↔ forall userID capability scope,
      scopeCovering.Permits (grantsOf after.enforcer after.triples) userID capability scope ↔
        scopeCovering.Permits (grantsOf pf.enforcer pf.triples) userID capability scope := by
  refine forall_congr' fun userID => forall_congr' fun capability => forall_congr' fun scope => ?_
  rw [Bool.eq_iff_iff, can_iff_permits, can_iff_permits]
  exact Iff.rfl

end Policies
end Basement
