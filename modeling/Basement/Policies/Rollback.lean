import Basement.Policies.Decisions
import Basement.Policies.ManualGrants

namespace Basement
namespace Policies

open ServiceAccounts (Enforcer)
open Library (Covering Grants)

/-!
# Calls that return an error

Deleting, unassigning and reconciling put the memory back when the file cannot be written.
Upserting and assigning do not, and the enforcer then decides with a change it reported as failed.
When this shows in the decisions depends on the state: a row adds nothing if its user was permitted
all of it before, and a role that is replaced in memory may be shadowed by a later one with its ID.
-/

/-! ## The role an ID finds -/

/-- How many roles have the ID. -/
def roleCount (roles : List Role) (id : String) : Nat := roles.countP fun r => r.id = id

theorem roleCount_cons (r : Role) (roles : List Role) (id : String) :
    roleCount (r :: roles) id = roleCount roles id + if r.id = id then 1 else 0 := by
  unfold roleCount
  rw [List.countP_cons]
  simp only [decide_eq_true_iff]

/-- More than one role has the ID. -/
def Doubled (pf : PolicyFile) (id : String) : Prop := 2 ≤ roleCount pf.roles id

instance (pf : PolicyFile) (id : String) : Decidable (Doubled pf id) :=
  inferInstanceAs (Decidable (_ ≤ _))

/-- The last of the roles with the ID. -/
def lastRole (roles : List Role) (id : String) : Option ServiceAccounts.Role :=
  (roles.map Role.toRole).reverse.find? fun role => role.id = id

theorem lastRole_cons (r : Role) (roles : List Role) (id : String) :
    lastRole (r :: roles) id =
      (lastRole roles id).or (if r.id = id then some r.toRole else none) := by
  unfold lastRole
  rw [List.map_cons, List.reverse_cons, List.find?_append, List.find?_singleton]
  simp only [decide_eq_true_iff]

theorem lastRole_eq_none {roles : List Role} {id : String} :
    lastRole roles id = none ↔ roleCount roles id = 0 := by
  unfold lastRole roleCount
  rw [List.find?_eq_none, List.countP_eq_zero]
  constructor
  · intro none r member
    exact none r.toRole (List.mem_reverse.mpr (List.mem_map_of_mem member))
  · intro none role member
    rcases List.mem_map.mp (List.mem_reverse.mp member) with ⟨r, listed, rfl⟩
    exact none r listed

/-- The role an ID finds after a role was replaced or appended. -/
theorem lastRole_upsertIn (r : Role) (roles : List Role) (id : String) :
    lastRole (upsertIn r roles) id =
      if id = r.id ∧ roleCount roles r.id < 2 then some r.toRole
      else lastRole roles id := by
  induction roles with
  | nil =>
      rw [upsertIn, lastRole_cons]
      by_cases own : id = r.id
      · rw [if_pos own.symm, if_pos ⟨own, Nat.zero_lt_two⟩]
        rfl
      · rw [if_neg fun same => own same.symm, if_neg fun both => own both.1]
        rfl
  | cons first rest ih =>
      unfold upsertIn
      split
      · rename_i replaced
        rw [lastRole_cons, lastRole_cons, roleCount_cons, if_pos replaced]
        by_cases own : id = r.id
        · subst own
          rw [if_pos rfl, if_pos replaced]
          by_cases later : lastRole rest r.id = none
          · rw [if_pos ⟨rfl, by rw [lastRole_eq_none.mp later]; exact Nat.one_lt_two⟩, later]
            rfl
          · rw [if_neg fun both => later (lastRole_eq_none.mpr (by omega))]
            rcases Option.ne_none_iff_exists'.mp later with ⟨role, found⟩
            rw [found]
            rfl
        · rw [if_neg fun same => own same.symm, if_neg fun both => own both.1,
            if_neg fun same => own (same.symm.trans replaced)]
      · rename_i kept
        rw [lastRole_cons, lastRole_cons, ih, roleCount_cons, if_neg kept, Nat.add_zero]
        split
        · rfl
        · rfl

/-! ## What an unsaved role changes -/

/-- The enforcer without the rows of one role. -/
def PolicyFile.othersOf (pf : PolicyFile) (id : String) : Enforcer :=
  { pf.enforcer with assignments := pf.triples.filter fun row => row.roleID ≠ id }

/-- The new expressions of a role grant nothing new to those who have it, and what they no longer
grant other rows grant. -/
def RoleCovered (pf : PolicyFile) (r : Role) : Prop :=
  forall row, row ∈ pf.triples -> row.roleID = r.id -> row.userID ≠ "" -> row.scope ≠ "" ->
    forall capability,
      (r.lists capability = true -> pf.enforcer.can row.userID capability row.scope = true) ∧
      (roleLists pf.enforcer r.id capability = true -> r.lists capability = true ∨
        (pf.othersOf r.id).can row.userID capability row.scope = true)

/-- The grants a role with these expressions makes to the users who have it. -/
def upsertGrants (pf : PolicyFile) (r : Role) : Grants String String String :=
  fun userID capability scope => userID ≠ "" ∧ Exists fun row => row ∈ pf.triples ∧
    row.roleID = r.id ∧ row.userID = userID ∧ row.scope = scope ∧ r.lists capability = true

theorem othersOf_can {pf : PolicyFile} {id userID capability scope : String} :
    (pf.othersOf id).can userID capability scope = true ↔
      scopeCovering.Permits
        (grantsOf pf.enforcer (pf.triples.filter fun row => row.roleID ≠ id))
        userID capability scope := by
  rw [can_iff_permits, grantsOf_congr fun row _ => rfl]
  rfl

theorem upserted_grants {pf : PolicyFile} {r : Role} (single : ¬ Doubled pf r.id) :
    grantsOf (PolicyFile.enforcer { pf with roles := upsertIn r pf.roles }) pf.triples =
      (grantsOf pf.enforcer (pf.triples.filter fun row => row.roleID ≠ r.id)).join
        (upsertGrants pf r) := by
  have found := lastRole_upsertIn r pf.roles
  rw [grantsOf_filter fun row => decide (row.roleID = r.id)]
  have others : grantsOf (PolicyFile.enforcer { pf with roles := upsertIn r pf.roles })
      (pf.triples.filter fun row => !decide (row.roleID = r.id)) =
      grantsOf pf.enforcer (pf.triples.filter fun row => row.roleID ≠ r.id) := by
    simp only [ne_eq, decide_not]
    refine grantsOf_congr fun row member => ?_
    have other : ¬ row.roleID = r.id := by simpa using (List.mem_filter.mp member).2
    exact (found row.roleID).trans (if_neg fun both => other both.1)
  rw [others]
  congr 1
  funext userID capability scope
  refine propext (and_congr_right fun _ => exists_congr fun row => ?_)
  rw [List.mem_filter, decide_eq_true_iff, and_assoc]
  refine and_congr_right fun _ => and_congr_right fun own => ?_
  have now : (PolicyFile.enforcer { pf with roles := upsertIn r pf.roles }).roleByID row.roleID =
      some r.toRole := (found row.roleID).trans (if_pos ⟨own, Nat.not_le.mp single⟩)
  unfold roleLists
  rw [now]

/-- A role in memory that was not saved changes no decision exactly if its rows are covered. -/
theorem upserted_sameDecisions_iff {pf : PolicyFile} {r : Role} (single : ¬ Doubled pf r.id) :
    SameDecisions pf { pf with roles := upsertIn r pf.roles } ↔ RoleCovered pf r := by
  have before : grantsOf pf.enforcer pf.triples =
      (grantsOf pf.enforcer (pf.triples.filter fun row => row.roleID ≠ r.id)).join
        (grantsOf pf.enforcer (pf.triples.filter fun row => row.roleID = r.id)) := by
    simpa only [← decide_not] using grantsOf_filter fun row => decide (row.roleID = r.id)
  have exchange := @Covering.exchange_iff _ _ _ scopeCovering
    (grantsOf pf.enforcer (pf.triples.filter fun row => row.roleID ≠ r.id))
    (grantsOf pf.enforcer (pf.triples.filter fun row => row.roleID = r.id)) (upsertGrants pf r)
  rw [← before, ← upserted_grants single] at exchange
  rw [sameDecisions_iff]
  refine exchange.trans ?_
  constructor
  · rintro ⟨gains, losses⟩ row member own user scope capability
    refine ⟨fun listed => ?_, fun listed => ?_⟩
    · exact can_iff_permits.mpr (gains _ _ _ (scopeCovering_proper.mpr scope)
        ⟨user, row, member, own, rfl, rfl, listed⟩)
    · have lost := losses row.userID capability row.scope (scopeCovering_proper.mpr scope)
        ⟨user, row, List.mem_filter.mpr ⟨member, decide_eq_true own⟩, rfl, rfl, own ▸ listed⟩
      rw [upserted_grants single, Covering.permits_join_iff] at lost
      rcases lost with elsewhere | ⟨_, ⟨_, _, _, _, _, _, kept⟩, _⟩
      · exact Or.inr (othersOf_can.mpr elsewhere)
      · exact Or.inl kept
  · intro covered
    refine ⟨?_, ?_⟩
    · rintro userID capability scope proper ⟨user, row, member, own, rfl, rfl, listed⟩
      exact can_iff_permits.mp ((covered row member own user (scopeCovering_proper.mp proper)
        capability).1 listed)
    · rintro userID capability scope proper ⟨user, row, member, rfl, rfl, listed⟩
      have parts := List.mem_filter.mp member
      have own : row.roleID = r.id := of_decide_eq_true parts.2
      rw [upserted_grants single, Covering.permits_join_iff]
      rcases (covered row parts.1 own user (scopeCovering_proper.mp proper) capability).2
        (own ▸ listed) with kept | elsewhere
      · exact Or.inr ⟨row.scope, ⟨user, row, parts.1, own, rfl, rfl, kept⟩, proper⟩
      · exact Or.inl (othersOf_can.mp elsewhere)

/-- Only the last of several roles with an ID counts, and the first is replaced. -/
theorem upserted_sameDecisions_of_doubled {pf : PolicyFile} {r : Role}
    (doubled : Doubled pf r.id) : SameDecisions pf { pf with roles := upsertIn r pf.roles } := by
  have same : forall id, (PolicyFile.enforcer { pf with roles := upsertIn r pf.roles }).roleByID id =
      pf.enforcer.roleByID id := fun id =>
    (lastRole_upsertIn r pf.roles id).trans (if_neg fun both => Nat.not_le.mpr both.2 doubled)
  rw [sameDecisions_iff]
  intro userID capability scope
  have grants := @grantsOf_congr _ _ pf.triples fun row _ => same row.roleID
  exact Iff.of_eq (congrArg (fun grants => scopeCovering.Permits grants userID capability scope)
    grants)

/-! ## What an unsaved row changes -/

theorem withRow_grants (pf : PolicyFile) (a : RoleAssignment) :
    grantsOf (pf.withRow a).enforcer (pf.withRow a).triples =
      (grantsOf pf.enforcer pf.triples).join (grantsOf pf.enforcer [a.toRoleAssignment]) := by
  rw [triples_withRow, grantsOf_append]
  rfl

theorem withRow_sameDecisions_iff {pf : PolicyFile} {a : RoleAssignment} (user : a.userID ≠ "")
    (scope : a.scope ≠ "") :
    SameDecisions pf (pf.withRow a) ↔
      forall capability, roleLists pf.enforcer a.roleID capability = true ->
        pf.enforcer.can a.userID capability a.scope = true := by
  rw [sameDecisions_iff, withRow_grants]
  refine Covering.extend_iff.trans ?_
  constructor
  · intro gains capability listed
    exact can_iff_permits.mpr (gains _ _ _ (scopeCovering_proper.mpr scope)
      ⟨user, _, List.mem_cons_self, rfl, rfl, listed⟩)
  · rintro covered userID capability place proper ⟨_, row, member, rfl, rfl, listed⟩
    cases List.mem_singleton.mp member
    exact can_iff_permits.mp (covered capability listed)

/-! ## Failed calls -/

/-- Nothing of a failing call shows in the decisions: it fails before it changes the memory, or what
it leaves there was permitted before. -/
def Undone (pf : PolicyFile) : Call -> Prop
  | .upsertRole r =>
      r.id = "" ∨ validateRoleCapabilities r.capabilities ≠ .ok () ∨ Doubled pf r.id ∨
        RoleCovered pf r
  | .assignRole a =>
      a.userID = "" ∨ a.roleID = "" ∨ a.scope = "" ∨ pf.hasRole a.roleID = false ∨
        forall capability, roleLists pf.enforcer a.roleID capability = true ->
          pf.enforcer.can a.userID capability a.scope = true
  | _ => True

theorem upsertRole_sameDecisions_iff (e : FileEnforcer) (r : Role) (written : Except String Unit) :
    SameDecisions e.toPolicyFile (e.upsertRole r written).1.toPolicyFile ↔
      Undone e.toPolicyFile (.upsertRole r) := by
  unfold FileEnforcer.upsertRole
  by_cases empty : r.id = ""
  · rw [if_pos empty]
    exact iff_of_true (SameDecisions.refl _) (Or.inl empty)
  · rw [if_neg empty]
    cases valid : validateRoleCapabilities r.capabilities with
    | error err =>
        refine iff_of_true (SameDecisions.refl _) (Or.inr (Or.inl ?_))
        rw [valid]
        exact fun impossible => by cases impossible
    | ok done =>
        dsimp only
        rw [FileEnforcer.saveLocked_memory]
        by_cases doubled : Doubled e.toPolicyFile r.id
        · exact iff_of_true (upserted_sameDecisions_of_doubled doubled)
            (Or.inr (Or.inr (Or.inl doubled)))
        · refine (upserted_sameDecisions_iff doubled).trans ?_
          constructor
          · exact fun covered => Or.inr (Or.inr (Or.inr covered))
          · rintro (empty' | invalid | doubled' | covered)
            · exact absurd empty' empty
            · exact absurd valid invalid
            · exact absurd doubled' doubled
            · exact covered

theorem assignRole_sameDecisions_iff {e : FileEnforcer} {a : RoleAssignment}
    {written : Except String Unit} {err : String}
    (failed : (e.assignRole a written).2 = .error err) :
    SameDecisions e.toPolicyFile (e.assignRole a written).1.toPolicyFile ↔
      Undone e.toPolicyFile (.assignRole a) := by
  unfold FileEnforcer.assignRole at failed ⊢
  by_cases missing : a.userID = "" ∨ a.roleID = "" ∨ a.scope = ""
  · rw [if_pos missing]
    refine iff_of_true (SameDecisions.refl _) ?_
    rcases missing with user | role | scope
    · exact Or.inl user
    · exact Or.inr (Or.inl role)
    · exact Or.inr (Or.inr (Or.inl scope))
  · rw [if_neg missing] at failed ⊢
    by_cases unknown : ¬ e.hasRole a.roleID = true
    · rw [if_pos unknown]
      exact iff_of_true (SameDecisions.refl _)
        (Or.inr (Or.inr (Or.inr (Or.inl (Bool.eq_false_iff.mpr unknown)))))
    · rw [if_neg unknown] at failed ⊢
      by_cases old : a.toRoleAssignment ∈ e.triples
      · rw [if_pos old] at failed
        cases failed
      · rw [if_neg old, FileEnforcer.saveLocked_memory]
        refine (withRow_sameDecisions_iff (fun empty => missing (Or.inl empty))
          fun empty => missing (Or.inr (Or.inr empty))).trans ?_
        constructor
        · exact fun covered => Or.inr (Or.inr (Or.inr (Or.inr covered)))
        · rintro (user | role | scope | none | covered)
          · exact absurd (Or.inl user) missing
          · exact absurd (Or.inr (Or.inl role)) missing
          · exact absurd (Or.inr (Or.inr scope)) missing
          · exact absurd (Bool.eq_false_iff.mp none) unknown
          · exact covered

/-- Deleting, unassigning and reconciling leave the memory as it was when they fail. -/
theorem rolled_back {pf after : PolicyFile} {call : Call} {err : String}
    (effect : Effect pf call after (.error err)) (notUpsert : forall r, call ≠ .upsertRole r)
    (notAssign : forall a, call ≠ .assignRole a) (notSeed : forall name, call ≠ .seedEnvAdmin name) :
    SameDecisions pf after := by
  cases effect with
  | refused call err => exact SameDecisions.refl _
  | upserted r result => exact absurd rfl (notUpsert r)
  | assigned a result known fresh => exact absurd rfl (notAssign a)
  | seeded username result after closed => exact absurd rfl (notSeed username)

/-- A call that returns an error changes no decision exactly if nothing of it shows. -/
theorem failed_call_unchanged_iff {e : FileEnforcer} {event : Event} {err : String}
    (mutator : forall username, event.call ≠ .seedEnvAdmin username)
    (failed : (e.perform event).2 = .error err) :
    SameDecisions e.toPolicyFile (e.perform event).1.toPolicyFile ↔
      Undone e.toPolicyFile event.call := by
  have effect := perform_effect e event
  rw [failed] at effect
  rcases event with ⟨call, written⟩
  cases call with
  | upsertRole r => exact upsertRole_sameDecisions_iff e r _
  | assignRole a => exact assignRole_sameDecisions_iff failed
  | seedEnvAdmin username => exact absurd rfl (mutator username)
  | deleteRole id =>
      exact iff_of_true (rolled_back effect (fun _ => Call.noConfusion) (fun _ => Call.noConfusion)
        fun _ => Call.noConfusion) trivial
  | unassignRole triple =>
      exact iff_of_true (rolled_back effect (fun _ => Call.noConfusion) (fun _ => Call.noConfusion)
        fun _ => Call.noConfusion) trivial
  | syncOIDCAssignments userID wanted order =>
      exact iff_of_true (rolled_back effect (fun _ => Call.noConfusion) (fun _ => Call.noConfusion)
        fun _ => Call.noConfusion) trivial

/-- Assigning a role that the user has at a wider scope fails at the file. -/
theorem failed_call_unchanged_iff_alice :
    SameDecisions (firstStore.assignRole (clusterGrant "alice" "") (.ok ())).1.toPolicyFile
        ((firstStore.assignRole (clusterGrant "alice" "") (.ok ())).1.perform
          ⟨.assignRole { clusterGrant "alice" "" with scope := "cluster:east" },
            fun _ => .error "disk full"⟩).1.toPolicyFile ↔
      Undone (firstStore.assignRole (clusterGrant "alice" "") (.ok ())).1.toPolicyFile
        (.assignRole { clusterGrant "alice" "" with scope := "cluster:east" }) :=
  @failed_call_unchanged_iff (firstStore.assignRole (clusterGrant "alice" "") (.ok ())).1
    ⟨.assignRole { clusterGrant "alice" "" with scope := "cluster:east" },
      fun _ => .error "disk full"⟩ "disk full" (fun _ => Call.noConfusion) (by decide +kernel)

/-- The assignment could not be saved, the operator was told so, and it is in force. -/
theorem failed_assignment_in_force :
    ¬ forall (e : FileEnforcer) (event : Event) (err : String),
      (forall username, event.call ≠ .seedEnvAdmin username) ->
      (e.perform event).2 = .error err ->
        SameDecisions e.toPolicyFile (e.perform event).1.toPolicyFile := by
  intro unchanged
  have same := unchanged firstStore
    ⟨.assignRole (clusterGrant "alice" ""), fun _ => .error "disk full"⟩ "disk full"
    (fun _ => Call.noConfusion) (by decide +kernel) "alice" "cluster:edit" "cluster:east"
  exact absurd same (by decide +kernel)

end Policies
end Basement
