import Basement.Api.Shares
import Basement.Library.ScopePatterns

namespace Basement
namespace ServiceAccounts

open Library
open Api (RoleAssignment trimSuffix)

/-!
# Capabilities, roles and scopes

The capabilities are compiled in.  A role lists capability expressions, an assignment binds a
user to a role at a scope, and the enforcer permits what some assignment covers.  A scope is a
text of parts between colons, with a wildcard at its end or none.
-/

/-! ## The registry -/

/-- The keys of `Registry`, in the order in which `Expand` sorts them. -/
def registry : List String :=
  ["bucket:create", "bucket:delete", "bucket:edit_alias", "bucket:set_quota", "bucket:view",
    "cluster:create", "cluster:delete", "cluster:edit", "cluster:edit_layout", "cluster:test",
    "cluster:view_layout", "host:manage_drivers", "host:manage_org_caps", "host:manage_policies",
    "host:manage_signup_mode", "host:manage_users", "key:create", "key:delete",
    "key:edit_permissions", "key:view", "objects:delete", "objects:get", "objects:list",
    "objects:put", "objects:share_create", "objects:share_revoke", "policy:assign_role",
    "policy:edit_matrix", "policy:view_matrix"]

/-- `Validate`: only the registered capabilities themselves pass, not the shorthands. -/
def validate (capID : String) : Except String Unit :=
  if capID = "" then .error "policy: empty capability ID"
  else if capID ∈ registry then .ok ()
  else .error ("policy: unknown capability " ++ capID.quote)

theorem validate_ok {capID : String} (valid : validate capID = .ok ()) : capID ∈ registry := by
  unfold validate at valid
  split at valid
  · cases valid
  · split at valid
    · assumption
    · cases valid

/-- `Expand`. -/
def expand (capExpr : String) : List String :=
  if capExpr = "" then []
  else if capExpr = "*:*" then registry
  else if ":*".toList.isSuffixOf capExpr.toList then
    registry.filter fun id => (trimSuffix capExpr ":*" ++ ":").toList.isPrefixOf id.toList
  else if capExpr ∈ registry then [capExpr]
  else []

/-- A registered capability stands for itself. -/
theorem expand_registered {capID : String} (registered : capID ∈ registry) :
    expand capID = [capID] := by
  have plain : forall id, id ∈ registry ->
      id ≠ "" ∧ id ≠ "*:*" ∧ ":*".toList.isSuffixOf id.toList = false := by decide +kernel
  rcases plain capID registered with ⟨notEmpty, notAll, notDomain⟩
  rw [expand, if_neg notEmpty, if_neg notAll, notDomain, if_neg Bool.false_ne_true,
    if_pos registered]

/-! ## Scopes -/

def scopeSymbols : ScopeSymbols Char := ⟨':', '*', by decide⟩

/-- `ScopeMatches`. -/
def scopeMatches (assignmentScope requestedScope : String) : Bool :=
  if assignmentScope = "" ∨ requestedScope = "" then false
  else if assignmentScope = "*" then true
  else if assignmentScope = requestedScope then true
  else ":*".toList.isSuffixOf assignmentScope.toList &&
    assignmentScope.toList.dropLast.isPrefixOf requestedScope.toList

/-- The matcher is the covering of scope patterns. -/
theorem scopeMatches_iff {assignmentScope requestedScope : String} :
    scopeMatches assignmentScope requestedScope = true ↔
      scopeSymbols.Covers assignmentScope.toList requestedScope.toList := by
  have empty : forall s : String, s.toList = [] ↔ s = "" := fun s => String.toList_eq_nil_iff
  have star : assignmentScope.toList = ['*'] ↔ assignmentScope = "*" :=
    ⟨fun same => String.toList_injective same, fun same => congrArg String.toList same⟩
  have equal : assignmentScope.toList = requestedScope.toList ↔ assignmentScope = requestedScope :=
    String.toList_inj
  unfold ScopeSymbols.Covers ScopeSymbols.Open scopeSymbols scopeMatches
  simp only [ne_eq, empty, star, equal]
  split
  · tauto
  · split
    · tauto
    · split
      · tauto
      · rw [Bool.and_eq_true, List.isSuffixOf_iff_suffix, List.isPrefixOf_iff_prefix]
        tauto

theorem scopeMatches_refl {scope : String} (some : scope ≠ "") : scopeMatches scope scope = true :=
  scopeMatches_iff.mpr (ScopeSymbols.covers_refl fun empty => some
    (String.toList_eq_nil_iff.mp empty))

theorem scopeMatches_trans {first second third : String}
    (one : scopeMatches first second = true) (two : scopeMatches second third = true) :
    scopeMatches first third = true :=
  scopeMatches_iff.mpr (ScopeSymbols.covers_trans (scopeMatches_iff.mp one)
    (scopeMatches_iff.mp two))

/-- A scope matches another one if it matches all that the other one matches. -/
theorem scopeMatches_iff_forall {first second : String} :
    scopeMatches first second = true ↔
      second ≠ "" ∧ forall scope, scopeMatches second scope = true ->
        scopeMatches first scope = true := by
  simp only [scopeMatches_iff]
  rw [ScopeSymbols.covers_iff_forall, Ne, String.toList_eq_nil_iff]
  refine and_congr_right fun _ => ⟨fun all scope => all scope.toList, fun all scope covered => ?_⟩
  have wider := all (String.ofList scope)
  rw [String.toList_ofList] at wider
  exact wider covered

/-- The matcher is a preorder on the scopes that are not empty. -/
theorem scopeMatches_preorder (first second third : String) :
    (first ≠ "" -> scopeMatches first first = true) ∧
      (scopeMatches first second = true -> scopeMatches second third = true ->
        scopeMatches first third = true) ∧
      (scopeMatches first second = true ↔
        second ≠ "" ∧ forall scope, scopeMatches second scope = true ->
          scopeMatches first scope = true) :=
  ⟨scopeMatches_refl, scopeMatches_trans, scopeMatches_iff_forall⟩

/-- What two scopes match together is what the narrower one matches. -/
theorem scopeMatches_both_iff {first second scope : String} :
    scopeMatches first scope = true ∧ scopeMatches second scope = true ↔
      scopeMatches first second = true ∧ scopeMatches second scope = true ∨
        scopeMatches second first = true ∧ scopeMatches first scope = true := by
  simp only [scopeMatches_iff]
  exact ScopeSymbols.covers_both_iff

theorem ne_empty_of_scopeMatches {pattern scope : String}
    (covers : scopeMatches pattern scope = true) : pattern ≠ "" ∧ scope ≠ "" := by
  have parts := scopeMatches_iff.mp covers
  exact ⟨fun empty => parts.1 (congrArg String.toList empty),
    fun empty => parts.2.1 (congrArg String.toList empty)⟩

/-! ## The enforcer -/

structure Role where
  id : String
  capabilities : List String
  deriving DecidableEq, Repr

/-- What the enforcer holds of `policies.json`. -/
structure Enforcer where
  roles : List Role
  assignments : List RoleAssignment
  deriving DecidableEq, Repr

/-- `rolesByID`: of the roles with an ID the last one counts. -/
def Enforcer.roleByID (enforcer : Enforcer) (id : String) : Option Role :=
  enforcer.roles.reverse.find? fun role => role.id = id

/-- Some expression of the role expands to the capability. -/
def Role.lists (role : Role) (capability : String) : Bool :=
  role.capabilities.any fun capExpr => (expand capExpr).contains capability

/-- The assignment's role exists, its scope matches, and the role lists the capability. -/
def Enforcer.grants (enforcer : Enforcer) (assignment : RoleAssignment)
    (capability scope : String) : Bool :=
  match enforcer.roleByID assignment.roleID with
  | none => false
  | some role => scopeMatches assignment.scope scope && role.lists capability

/-- `CanWithReason`, without the explanations: the decision and the assignment behind it. -/
def Enforcer.canWithReason (enforcer : Enforcer) (userID capability scope : String) :
    Bool × List RoleAssignment :=
  if userID = "" ∨ capability = "" ∨ scope = "" then (false, [])
  else
    match (enforcer.assignments.filter fun a => a.userID = userID).find? fun a =>
        enforcer.grants a capability scope with
    | some assignment => (true, [assignment])
    | none => (false, [])

/-- `Can`. -/
def Enforcer.can (enforcer : Enforcer) (userID capability scope : String) : Bool :=
  (enforcer.canWithReason userID capability scope).1

/-- What `Can` decides. -/
theorem can_iff {enforcer : Enforcer} {userID capability scope : String} :
    enforcer.can userID capability scope = true ↔
      (userID ≠ "" ∧ capability ≠ "" ∧ scope ≠ "") ∧
        Exists fun assignment => assignment ∈ enforcer.assignments ∧ assignment.userID = userID ∧
          enforcer.grants assignment capability scope = true := by
  unfold Enforcer.can Enforcer.canWithReason
  split
  · rename_i missing
    refine iff_of_false (by decide) ?_
    rintro ⟨present, _⟩
    tauto
  · rename_i present
    push Not at present
    cases found : (enforcer.assignments.filter fun a => a.userID = userID).find? fun a =>
        enforcer.grants a capability scope with
    | some assignment =>
        have listed := List.mem_filter.mp (List.mem_of_find?_eq_some found)
        have granted := List.find?_some found
        exact iff_of_true rfl ⟨present, assignment, listed.1, of_decide_eq_true listed.2, granted⟩
    | none =>
        refine iff_of_false (by decide) ?_
        rintro ⟨_, assignment, listed, own, granted⟩
        exact List.find?_eq_none.mp found assignment
          (List.mem_filter.mpr ⟨listed, decide_eq_true own⟩) granted

/-- The deployment's view of the enforcer, in which the roles are a parameter. -/
theorem can_eq_deployment (site : Api.Deployment) (enforcer : Enforcer)
    (same : site.assignments = enforcer.assignments) (covers : site.covers = enforcer.grants)
    (userID capability scope : String) :
    site.can userID capability scope = enforcer.can userID capability scope := by
  rw [Bool.eq_iff_iff, can_iff]
  unfold Api.Deployment.can
  rw [same, covers]
  simp only [Bool.and_eq_true, bne_iff_ne, List.any_eq_true, beq_iff_eq]
  tauto

/-- Permission at a scope is permission at every scope it covers. -/
theorem can_of_scopeMatches {enforcer : Enforcer} {userID capability wider scope : String}
    (permitted : enforcer.can userID capability wider = true)
    (covers : scopeMatches wider scope = true) : enforcer.can userID capability scope = true := by
  rcases can_iff.mp permitted with ⟨⟨user, cap, _⟩, assignment, listed, own, granted⟩
  refine can_iff.mpr ⟨⟨user, cap, (ne_empty_of_scopeMatches covers).2⟩, assignment, listed, own, ?_⟩
  unfold Enforcer.grants at granted ⊢
  cases found : enforcer.roleByID assignment.roleID with
  | none =>
      rw [found] at granted
      cases granted
  | some role =>
      rw [found] at granted
      rw [Bool.and_eq_true] at granted
      simp only [Bool.and_eq_true]
      exact ⟨scopeMatches_trans granted.1 covers, granted.2⟩

end ServiceAccounts
end Basement
