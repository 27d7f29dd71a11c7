import Mathlib.Data.List.Sort
import Mathlib.Data.String.Basic
import Basement.Policies.Decisions

namespace Basement
namespace Policies

open ServiceAccounts (expand scopeMatches ne_empty_of_scopeMatches)

/-!
# The gate, the listing and the simulator

Three functions answer what a user may do.  `Can` is the gate.  `Capabilities` lists everything
the user may do at a scope, and the pages show their buttons by it.  `CanWithReason` explains one
answer to an administrator.  Each of them goes through the assignments in a loop of its own, and
all three come to the same assignments: those that grant.
-/

/-! ## The simulator -/

/-- `ReasoningStep`. -/
structure ReasoningStep where
  step : String
  detail : String
  deriving DecidableEq, Repr

/-- `rolesByID`: of the roles with an ID the last one counts. -/
def PolicyFile.roleByID (pf : PolicyFile) (id : String) : Option Role :=
  pf.roles.reverse.find? fun role => role.id = id

/-- The first expression of a role that expands to the capability, or nothing. -/
def matchingExpr (capability : String) : List String -> String
  | [] => ""
  | capExpr :: rest =>
      if capability ∈ expand capExpr then capExpr else matchingExpr capability rest

/-- What the simulator says of an assignment that grants. -/
def grantedSteps (a : RoleAssignment) (capability scope expr : String) : List ReasoningStep :=
  [⟨"scope matches", "assignment " ++ a.roleID ++ " @ " ++ a.scope ++ " covers requested scope " ++
      scope⟩,
    if expr = capability then
      ⟨"capability granted", "role " ++ a.roleID.quote ++ " lists " ++ capability ++ " directly"⟩
    else
      ⟨"capability granted via wildcard", "role " ++ a.roleID.quote ++ " lists " ++ expr ++
        " which expands to include " ++ capability⟩]

/-- The loop of `CanWithReason` over the assignments of the user: what it says, and the assignment
at which it stops. -/
def PolicyFile.consider (pf : PolicyFile) (capability scope : String) :
    List RoleAssignment -> List ReasoningStep × Option RoleAssignment
  | [] => ([], none)
  | a :: rest =>
      match pf.roleByID a.roleID with
      | none =>
          let later := pf.consider capability scope rest
          (⟨"skip: dangling assignment", a.userID ++ " @ " ++ a.scope ++ " references role " ++
            a.roleID.quote ++ " which no longer exists"⟩ :: later.1, later.2)
      | some role =>
          if scopeMatches a.scope scope = false then
            let later := pf.consider capability scope rest
            (⟨"skip: scope mismatch", "assignment " ++ a.roleID ++ " @ " ++ a.scope ++
              " does not cover requested scope " ++ scope⟩ :: later.1, later.2)
          else if matchingExpr capability role.capabilities = "" then
            let later := pf.consider capability scope rest
            (⟨"skip: capability not in role", "scope matched (" ++ a.scope ++ " covers " ++ scope ++
              ") but role " ++ a.roleID.quote ++ " does not grant " ++ capability⟩ :: later.1,
              later.2)
          else
            (grantedSteps a capability scope (matchingExpr capability role.capabilities), some a)

/-- The assignments of the user, in the order of the rows. -/
def PolicyFile.userAssignments (pf : PolicyFile) (userID : String) : List RoleAssignment :=
  pf.assignments.filter fun a => a.userID = userID

/-- `CanWithReason`: the decision, the assignment behind it and the trail. -/
def PolicyFile.canWithReason (pf : PolicyFile) (userID capability scope : String) :
    Bool × List RoleAssignment × List ReasoningStep :=
  if userID = "" ∨ capability = "" ∨ scope = "" then
    (false, [], [⟨"invalid request", "userId, capability, and scope are all required"⟩])
  else if (pf.userAssignments userID).length = 0 then
    (false, [], [⟨"no assignments", "user " ++ userID.quote ++
      " has zero role assignments — secure default is deny"⟩])
  else
    let considered := pf.consider capability scope (pf.userAssignments userID)
    let first : ReasoningStep := ⟨"user has assignments", "user " ++ userID.quote ++ " has " ++
      toString (pf.userAssignments userID).length ++
      " assignment(s); checking each against capability " ++ capability.quote ++ " at scope " ++
      scope.quote⟩
    match considered.2 with
    | some a => (true, [a], first :: considered.1)
    | none =>
        (false, [], first :: considered.1 ++ [⟨"deny", "no assignment for " ++ userID.quote ++
          " grants " ++ capability ++ " at scope " ++ scope⟩])

/-! ## The gate and the listing -/

/-- `Can`. -/
def PolicyFile.can (pf : PolicyFile) (userID capability scope : String) : Bool :=
  (pf.canWithReason userID capability scope).1

/-- What an assignment puts into `seen`. -/
def PolicyFile.leaves (pf : PolicyFile) (a : RoleAssignment) : List String :=
  match pf.roleByID a.roleID with
  | none => []
  | some role => role.capabilities.flatMap expand

/-- `Capabilities`: the keys of `seen`, sorted. -/
def PolicyFile.capabilities (pf : PolicyFile) (userID scope : String) : List String :=
  if userID = "" ∨ scope = "" then []
  else
    (((pf.assignments.filter fun a => a.userID = userID ∧ scopeMatches a.scope scope = true).flatMap
      pf.leaves).dedup).mergeSort fun first second => decide (first ≤ second)

/-! ## Assignments that grant -/

/-- The assignment's scope covers the requested one, and the role it names exists and has an
expression that expands to the capability. -/
def PolicyFile.Grants (pf : PolicyFile) (a : RoleAssignment) (capability scope : String) : Prop :=
  scopeMatches a.scope scope = true ∧ Exists fun role => pf.roleByID a.roleID = some role ∧
    Exists fun capExpr => capExpr ∈ role.capabilities ∧ capability ∈ expand capExpr

/-- An assignment of the user that grants the capability at the scope. -/
structure PolicyFile.Granting (pf : PolicyFile) (userID capability scope : String)
    (a : RoleAssignment) : Prop where
  listed : a ∈ pf.assignments
  own : a.userID = userID
  grants : pf.Grants a capability scope

/-- The empty text, which stands for no expression, expands to nothing. -/
theorem matchingExpr_ne_empty_iff {capability : String} (capExprs : List String) :
    matchingExpr capability capExprs ≠ "" ↔
      Exists fun capExpr => capExpr ∈ capExprs ∧ capability ∈ expand capExpr := by
  induction capExprs with
  | nil =>
      refine iff_of_false (fun different => different rfl) ?_
      rintro ⟨_, member, _⟩
      cases member
  | cons capExpr rest ih =>
      unfold matchingExpr
      by_cases inside : capability ∈ expand capExpr
      · rw [if_pos inside]
        refine iff_of_true ?_ ⟨capExpr, List.mem_cons_self, inside⟩
        rintro rfl
        cases inside
      · rw [if_neg inside, ih]
        constructor
        · rintro ⟨other, member, expands⟩
          exact ⟨other, List.mem_cons_of_mem _ member, expands⟩
        · rintro ⟨other, member, expands⟩
          rcases List.mem_cons.mp member with rfl | later
          · exact absurd expands inside
          · exact ⟨other, later, expands⟩

/-- One round of the simulator: it stops at an assignment that grants and skips the others. -/
theorem consider_cons (pf : PolicyFile) (capability scope : String) (a : RoleAssignment)
    (rest : List RoleAssignment) :
    pf.Grants a capability scope ∧ (pf.consider capability scope (a :: rest)).2 = some a ∨
      ¬ pf.Grants a capability scope ∧
        (pf.consider capability scope (a :: rest)).2 = (pf.consider capability scope rest).2 := by
  unfold PolicyFile.Grants
  rw [PolicyFile.consider]
  cases named : pf.roleByID a.roleID with
  | none =>
      refine Or.inr ⟨?_, rfl⟩
      rintro ⟨_, _, known, _⟩
      cases known
  | some role =>
      dsimp only
      split
      · rename_i outside
        refine Or.inr ⟨fun grants => ?_, rfl⟩
        rw [outside] at grants
        exact absurd grants.1 Bool.false_ne_true
      · rename_i covers
        rw [Bool.not_eq_false] at covers
        have expressions := @matchingExpr_ne_empty_iff capability role.capabilities
        split
        · rename_i none
          refine Or.inr ⟨?_, rfl⟩
          rintro ⟨_, other, known, listed⟩
          cases known
          exact expressions.mpr listed none
        · rename_i found
          exact Or.inl ⟨⟨covers, role, rfl, expressions.mp found⟩, rfl⟩

/-- The simulator stops at an assignment exactly if one of them grants, and then at one that
does. -/
theorem consider_some {pf : PolicyFile} {capability scope : String} {rows : List RoleAssignment}
    {a : RoleAssignment} (stops : (pf.consider capability scope rows).2 = some a) :
    a ∈ rows ∧ pf.Grants a capability scope := by
  induction rows with
  | nil => cases stops
  | cons first rest ih =>
      rcases consider_cons pf capability scope first rest with ⟨grants, here⟩ | ⟨_, later⟩
      · rw [here] at stops
        cases stops
        exact ⟨List.mem_cons_self, grants⟩
      · rw [later] at stops
        exact ⟨List.mem_cons_of_mem _ (ih stops).1, (ih stops).2⟩

theorem consider_none {pf : PolicyFile} {capability scope : String} {rows : List RoleAssignment}
    (passes : (pf.consider capability scope rows).2 = none) :
    forall a, a ∈ rows -> ¬ pf.Grants a capability scope := by
  induction rows with
  | nil =>
      intro a member
      cases member
  | cons first rest ih =>
      intro a member
      rcases consider_cons pf capability scope first rest with ⟨_, here⟩ | ⟨refuses, later⟩
      · rw [here] at passes
        cases passes
      · rw [later] at passes
        rcases List.mem_cons.mp member with rfl | listed
        · exact refuses
        · exact ih passes a listed

theorem mem_userAssignments {pf : PolicyFile} {userID : String} {a : RoleAssignment} :
    a ∈ pf.userAssignments userID ↔ a ∈ pf.assignments ∧ a.userID = userID := by
  rw [PolicyFile.userAssignments, List.mem_filter, decide_eq_true_iff]

/-- Who is granted something has asked for something. -/
theorem PolicyFile.Grants.present {pf : PolicyFile} {a : RoleAssignment}
    {capability scope : String} (grants : pf.Grants a capability scope) :
    capability ≠ "" ∧ scope ≠ "" := by
  rcases grants with ⟨covers, role, _, capExpr, _, expands⟩
  refine ⟨?_, (ne_empty_of_scopeMatches covers).2⟩
  rintro rfl
  exact absurd (mem_registry_of_mem_expand expands) (by decide)

/-! ## The three answers -/

/-- What the simulator reports when it allows. -/
theorem canWithReason_reports {pf : PolicyFile} {userID capability scope : String}
    {found : List RoleAssignment} {steps : List ReasoningStep}
    (allows : pf.canWithReason userID capability scope = (true, found, steps)) :
    Exists fun a => found = [a] ∧ pf.Granting userID capability scope a := by
  unfold PolicyFile.canWithReason at allows
  split at allows
  · cases allows
  · split at allows
    · cases allows
    · dsimp only at allows
      split at allows
      · rename_i a stops
        cases allows
        rcases consider_some stops with ⟨member, grants⟩
        rcases mem_userAssignments.mp member with ⟨listed, own⟩
        exact ⟨a, rfl, listed, own, grants⟩
      · cases allows

theorem can_of_granting {pf : PolicyFile} {userID capability scope : String} {a : RoleAssignment}
    (user : userID ≠ "") (granting : pf.Granting userID capability scope a) :
    pf.can userID capability scope = true := by
  have member := mem_userAssignments.mpr ⟨granting.listed, granting.own⟩
  rcases granting.grants.present with ⟨named, placed⟩
  have filled : (pf.userAssignments userID).length ≠ 0 :=
    Nat.ne_of_gt (List.length_pos_of_mem member)
  unfold PolicyFile.can PolicyFile.canWithReason
  rw [if_neg (by tauto), if_neg filled]
  dsimp only
  cases stops : (pf.consider capability scope (pf.userAssignments userID)).2 with
  | some _ => rfl
  | none => exact absurd granting.grants (consider_none stops a member)

/-- The gate opens exactly for assignments that grant. -/
theorem can_iff_granting {pf : PolicyFile} {userID capability scope : String} :
    pf.can userID capability scope = true ↔
      userID ≠ "" ∧ Exists fun a => pf.Granting userID capability scope a := by
  constructor
  · intro allowed
    have user : userID ≠ "" := by
      rintro rfl
      cases allowed
    have allows : pf.canWithReason userID capability scope =
        (true, (pf.canWithReason userID capability scope).2) := Prod.ext allowed rfl
    rcases canWithReason_reports allows with ⟨a, _, granting⟩
    exact ⟨user, a, granting⟩
  · rintro ⟨user, a, granting⟩
    exact can_of_granting user granting

theorem mem_leaves {pf : PolicyFile} {a : RoleAssignment} {capability : String} :
    capability ∈ pf.leaves a ↔ Exists fun role => pf.roleByID a.roleID = some role ∧
      Exists fun capExpr => capExpr ∈ role.capabilities ∧ capability ∈ expand capExpr := by
  unfold PolicyFile.leaves
  cases pf.roleByID a.roleID with
  | none =>
      refine iff_of_false List.not_mem_nil ?_
      rintro ⟨_, known, _⟩
      cases known
  | some role =>
      simp only [List.mem_flatMap, Option.some.injEq]
      constructor
      · intro listed
        exact ⟨role, rfl, listed⟩
      · rintro ⟨_, rfl, listed⟩
        exact listed

/-- The listing has what some assignment grants. -/
theorem mem_capabilities {pf : PolicyFile} {userID capability scope : String} :
    capability ∈ pf.capabilities userID scope ↔
      userID ≠ "" ∧ Exists fun a => pf.Granting userID capability scope a := by
  unfold PolicyFile.capabilities
  split
  · rename_i missing
    refine iff_of_false List.not_mem_nil ?_
    rintro ⟨user, a, granting⟩
    rcases missing with none | none
    · exact user none
    · exact granting.grants.present.2 none
  · rename_i present
    rw [List.mem_mergeSort, List.mem_dedup, List.mem_flatMap]
    constructor
    · rintro ⟨a, chosen, listed⟩
      rw [List.mem_filter, decide_eq_true_iff] at chosen
      exact ⟨fun none => present (Or.inl none), a, chosen.1, chosen.2.1, chosen.2.2,
        mem_leaves.mp listed⟩
    · rintro ⟨_, a, granting⟩
      refine ⟨a, List.mem_filter.mpr ⟨granting.listed, ?_⟩, mem_leaves.mpr granting.grants.2⟩
      exact decide_eq_true ⟨granting.own, granting.grants.1⟩

/-! ## One permission -/

/-- The model of the decisions finds the same roles. -/
theorem roleByID_enforcer (pf : PolicyFile) (id : String) :
    pf.enforcer.roleByID id = (pf.roleByID id).map Role.toRole := by
  change (pf.roles.map Role.toRole).reverse.find? (fun role => decide (role.id = id)) = _
  rw [← List.map_reverse, List.find?_map]
  rfl

theorem grants_toRoleAssignment {pf : PolicyFile} {a : RoleAssignment}
    {capability scope : String} :
    pf.enforcer.grants a.toRoleAssignment capability scope = true ↔
      pf.Grants a capability scope := by
  unfold ServiceAccounts.Enforcer.grants PolicyFile.Grants
  rw [roleByID_enforcer]
  cases pf.roleByID a.roleID with
  | none =>
      refine iff_of_false Bool.false_ne_true ?_
      rintro ⟨_, _, known, _⟩
      cases known
  | some role =>
      simp only [Option.map_some, Bool.and_eq_true, ServiceAccounts.Role.lists, List.any_eq_true,
        List.contains_iff_mem, Option.some.injEq, exists_eq_left']

/-- The decision without its explanation is the decision. -/
theorem can_enforcer (pf : PolicyFile) (userID capability scope : String) :
    pf.can userID capability scope = pf.enforcer.can userID capability scope := by
  rw [Bool.eq_iff_iff, can_iff_granting, ServiceAccounts.can_iff]
  constructor
  · rintro ⟨user, a, granting⟩
    exact ⟨⟨user, granting.grants.present⟩, a.toRoleAssignment,
      List.mem_map_of_mem granting.listed, granting.own,
      grants_toRoleAssignment.mpr granting.grants⟩
  · rintro ⟨⟨user, _⟩, triple, listed, own, granted⟩
    rcases List.mem_map.mp listed with ⟨a, member, rfl⟩
    exact ⟨user, a, member, own, grants_toRoleAssignment.mp granted⟩

/-- The gate opens for a capability exactly if the listing has it, exactly if an assignment of a
user with a name grants it, and the assignment that the simulator reports does. -/
theorem permission_views_agree (pf : PolicyFile) (userID capability scope : String) :
    (pf.can userID capability scope = true ↔ capability ∈ pf.capabilities userID scope) ∧
    (capability ∈ pf.capabilities userID scope ↔
      userID ≠ "" ∧ Exists fun a => pf.Granting userID capability scope a) ∧
    (forall found steps, pf.canWithReason userID capability scope = (true, found, steps) ->
      Exists fun a => found = [a] ∧ pf.Granting userID capability scope a) :=
  ⟨can_iff_granting.trans mem_capabilities.symm, mem_capabilities,
    fun _ _ => canWithReason_reports⟩

/-! ## Roles that share an ID, and a user without a name -/

/-- Some role with the assignment's ID has an expression for the capability. -/
def PolicyFile.SomeRoleLists (pf : PolicyFile) (a : RoleAssignment) (capability : String) : Prop :=
  Exists fun role => role ∈ pf.roles ∧ role.id = a.roleID ∧
    Exists fun capExpr => capExpr ∈ role.capabilities ∧ capability ∈ expand capExpr

/-- The views agree on some assignment of the user, whatever the user's name is, whose role ID
belongs to some role with the capability. -/
def SomeAssignmentDecides (pf : PolicyFile) (userID capability scope : String) : Prop :=
  pf.can userID capability scope = true ↔
    Exists fun a => a ∈ pf.assignments ∧ a.userID = userID ∧ scopeMatches a.scope scope = true ∧
      pf.SomeRoleLists a capability

def viewerRole (capabilities : List String) : Role :=
  { id := "viewer", label := "Viewer", description := "", capabilities := capabilities,
    seed := false, deprecated := false }

def viewerRow (userID : String) : RoleAssignment :=
  { userID := userID, roleID := "viewer", scope := "bucket:*", source := "manual",
    autoAssigned := false }

/-- A second role with the ID hides the first. -/
def shadowedRole : PolicyFile := ⟨[viewerRole ["bucket:*"], viewerRole []], [viewerRow "alice"]⟩

/-- A row without a user. -/
def namelessRow : PolicyFile := ⟨[viewerRole ["bucket:*"]], [viewerRow ""]⟩

/-- The gate stays shut for a role that another one hides, and for a user without a name. -/
theorem some_assignment_does_not_decide :
    ¬ SomeAssignmentDecides shadowedRole "alice" "bucket:view" "bucket:photos" ∧
      ¬ SomeAssignmentDecides namelessRow "" "bucket:view" "bucket:photos" := by
  constructor
  · intro decides
    refine absurd (decides.mpr ⟨viewerRow "alice", List.mem_singleton_self _, rfl, by decide +kernel,
      viewerRole ["bucket:*"], List.mem_cons_self, rfl, "bucket:*", List.mem_singleton_self _,
      by decide +kernel⟩) (by decide +kernel)
  · intro decides
    refine absurd (decides.mpr ⟨viewerRow "", List.mem_singleton_self _, rfl, by decide +kernel,
      viewerRole ["bucket:*"], List.mem_singleton_self _, rfl, "bucket:*",
      List.mem_singleton_self _, by decide +kernel⟩) (by decide +kernel)

end Policies
end Basement
