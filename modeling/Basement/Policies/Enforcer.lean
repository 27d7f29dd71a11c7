import Mathlib.Data.List.Dedup
import Basement.ServiceAccounts.Policy

namespace Basement
namespace Policies

open ServiceAccounts (Enforcer registry validate expand)
open Api (trimSuffix)

/-!
# The policy store

The enforcer holds the roles and the assignments of `policies.json` in memory.  Each mutator
changes the memory under the lock and then writes the whole file.  What the write returns is an
argument of the mutators here, so that a call with a failing disk is a call like any other.

The questions the enforcer answers are those of `ServiceAccounts.Enforcer`, to which the store
maps by dropping what no decision reads: labels, flags and sources.
-/

/-! ## Roles, assignments and the file -/

/-- `Role`. -/
structure Role extends ServiceAccounts.Role where
  label : String
  description : String
  seed : Bool
  deprecated : Bool
  deriving DecidableEq, Repr

/-- `RoleAssignment`.  Its user, role and scope are the triple that identifies it. -/
structure RoleAssignment extends Api.RoleAssignment where
  source : String
  autoAssigned : Bool
  deriving DecidableEq, Repr

/-- `policyFile`. -/
structure PolicyFile where
  roles : List Role
  assignments : List RoleAssignment
  deriving DecidableEq, Repr

/-- The triples in the order of the rows. -/
def PolicyFile.triples (pf : PolicyFile) : List Api.RoleAssignment :=
  pf.assignments.map RoleAssignment.toRoleAssignment

/-- What the decisions read. -/
def PolicyFile.enforcer (pf : PolicyFile) : Enforcer :=
  ⟨pf.roles.map Role.toRole, pf.triples⟩

/-- A role with the ID exists: `roleExists` and `validRole`. -/
def PolicyFile.hasRole (pf : PolicyFile) (id : String) : Bool := pf.roles.any fun r => r.id = id

theorem PolicyFile.hasRole_iff {pf : PolicyFile} {id : String} :
    pf.hasRole id = true ↔ Exists fun r => r ∈ pf.roles ∧ r.id = id := by
  unfold PolicyFile.hasRole
  rw [List.any_eq_true]
  exact exists_congr fun r => and_congr_right fun _ => decide_eq_true_iff

/-- `fileEnforcer`: the memory and what is at `path`, where a missing or empty file is `none`. -/
structure FileEnforcer extends PolicyFile where
  disk : Option PolicyFile
  deriving DecidableEq, Repr

/-- `Can`. -/
def FileEnforcer.can (e : FileEnforcer) (userID capability scope : String) : Bool :=
  e.enforcer.can userID capability scope

/-- `saveLocked`, when writing the file returns `written`. -/
def FileEnforcer.saveLocked (e : FileEnforcer) (written : Except String Unit) :
    FileEnforcer × Except String Unit :=
  match written with
  | .ok () => ({ e with disk := some e.toPolicyFile }, .ok ())
  | .error err => (e, .error err)

theorem FileEnforcer.saveLocked_memory (e : FileEnforcer) (written : Except String Unit) :
    (e.saveLocked written).1.toPolicyFile = e.toPolicyFile := by
  cases written <;> rfl

/-! ## Capability expressions of a role -/

/-- One round of the loop in `ValidateRoleCapabilities`. -/
def validateRoleCapability (c : String) : Except String Unit :=
  if c = "*:*" then .ok ()
  else if ":*".toList.isSuffixOf c.toList then
    if trimSuffix c ":*" = "" then
      .error ("policy: malformed capability expression " ++ c.quote)
    else if registry.any fun id => (trimSuffix c ":*" ++ ":").toList.isPrefixOf id.toList then
      .ok ()
    else .error ("policy: capability expression " ++ c.quote ++ " matches no registered capability")
  else validate c

/-- `ValidateRoleCapabilities`. -/
def validateRoleCapabilities : List String -> Except String Unit
  | [] => .ok ()
  | c :: rest =>
      match validateRoleCapability c with
      | .error err => .error err
      | .ok () => validateRoleCapabilities rest

/-! ## Mutators -/

/-- The loop of `UpsertRole` and what follows it: the first role with the ID is replaced and
keeps its flags, a new role gets none. -/
def upsertIn (r : Role) : List Role -> List Role
  | [] => [{ r with seed := false, deprecated := false }]
  | existing :: rest =>
      if existing.id = r.id then
        { r with seed := existing.seed, deprecated := existing.deprecated } :: rest
      else existing :: upsertIn r rest

/-- `UpsertRole`. -/
def FileEnforcer.upsertRole (e : FileEnforcer) (r : Role) (written : Except String Unit) :
    FileEnforcer × Except String Unit :=
  if r.id = "" then (e, .error "policy: role ID required")
  else
    match validateRoleCapabilities r.capabilities with
    | .error err => (e, .error err)
    | .ok () => { e with roles := upsertIn r e.roles }.saveLocked written

/-- `DeleteRole`. -/
def FileEnforcer.deleteRole (e : FileEnforcer) (id : String) (written : Except String Unit) :
    FileEnforcer × Except String Unit :=
  if id = "" then (e, .error "policy: role ID required")
  else
    match e.roles.find? fun r => r.id = id with
    | none => (e, .error ("policy: role " ++ id.quote ++ " not found"))
    | some role =>
        if role.seed then
          (e, .error ("policy: role " ++ id.quote ++ " is a seed role and cannot be deleted"))
        else
          match ({ e with
              roles := e.roles.eraseP fun r => r.id = id
              assignments := e.assignments.filter fun a => a.roleID ≠ id }).saveLocked written with
          | (saved, .ok ()) => (saved, .ok ())
          | (_, .error err) => (e, .error err)

/-- The row `AssignRole` appends. -/
def RoleAssignment.normalised (a : RoleAssignment) : RoleAssignment :=
  let source := if a.source = "" then "manual" else a.source
  { a with source := source, autoAssigned := source = "oidc" }

/-- `AssignRole`. -/
def FileEnforcer.assignRole (e : FileEnforcer) (a : RoleAssignment)
    (written : Except String Unit) : FileEnforcer × Except String Unit :=
  if a.userID = "" ∨ a.roleID = "" ∨ a.scope = "" then
    (e, .error "policy: assignment requires userId, roleId, and scope")
  else if ¬ e.hasRole a.roleID then
    (e, .error ("policy: role " ++ a.roleID.quote ++ " does not exist"))
  else if a.toRoleAssignment ∈ e.triples then (e, .ok ())
  else { e with assignments := e.assignments ++ [a.normalised] }.saveLocked written

/-- `UnassignRole`. -/
def FileEnforcer.unassignRole (e : FileEnforcer) (triple : Api.RoleAssignment)
    (written : Except String Unit) : FileEnforcer × Except String Unit :=
  if triple.userID = "" ∨ triple.roleID = "" ∨ triple.scope = "" then
    (e, .error "policy: unassign requires userId, roleId, and scope")
  else if triple ∉ e.triples then (e, .ok ())
  else
    match ({ e with
        assignments := e.assignments.filter fun a => a.toRoleAssignment ≠ triple }).saveLocked
          written with
    | (saved, .ok ()) => (saved, .ok ())
    | (_, .error err) => (e, .error err)

/-! ## The reconciliation at an OIDC login -/

/-- `wantedSet`: a map from role and scope to the row, which the key determines. -/
def PolicyFile.wantedSet (pf : PolicyFile) (userID : String) (wanted : List RoleAssignment) :
    List RoleAssignment :=
  ((wanted.filter fun w => w.roleID ≠ "" ∧ w.scope ≠ "" ∧ pf.hasRole w.roleID).map fun w =>
    { userID := userID, roleID := w.roleID, scope := w.scope, source := "oidc",
      autoAssigned := true }).dedup

/-- Equal keys in `wantedSet`. -/
def RoleAssignment.SameKey (a w : RoleAssignment) : Prop :=
  w.roleID = a.roleID ∧ w.scope = a.scope

instance (a w : RoleAssignment) : Decidable (a.SameKey w) :=
  inferInstanceAs (Decidable (_ ∧ _))

/-- `delete(wantedSet, key{a.RoleID, a.Scope})`. -/
def deleteKey (wantedSet : List RoleAssignment) (a : RoleAssignment) : List RoleAssignment :=
  wantedSet.filter fun w => ¬ a.SameKey w

/-- What the walk through the existing assignments leaves. -/
structure Walked where
  kept : List RoleAssignment
  revoked : List RoleAssignment
  wantedSet : List RoleAssignment
  deriving DecidableEq, Repr

/-- The walk of `SyncOIDCAssignments`. -/
def walk (userID : String) : List RoleAssignment -> List RoleAssignment -> Walked
  | [], wantedSet => ⟨[], [], wantedSet⟩
  | a :: rest, wantedSet =>
      if a.userID ≠ userID ∨ a.source ≠ "oidc" then
        let after := walk userID rest
          (if a.userID = userID ∧ a.source ≠ "oidc" then deleteKey wantedSet a else wantedSet)
        { after with kept := a :: after.kept }
      else if wantedSet.any fun w => a.SameKey w then
        let after := walk userID rest (deleteKey wantedSet a)
        { after with kept := { a with source := "oidc", autoAssigned := true } :: after.kept }
      else
        let after := walk userID rest wantedSet
        { after with revoked := a :: after.revoked }

/-- The order in which a loop goes through a map. -/
structure MapOrder where
  arrange : List RoleAssignment -> List RoleAssignment
  perm : forall rows, (arrange rows).Perm rows

/-- `SyncOIDCAssignments`: what was added and what was revoked. -/
def FileEnforcer.syncOIDCAssignments (e : FileEnforcer) (userID : String)
    (wanted : List RoleAssignment) (order : MapOrder) (written : Except String Unit) :
    FileEnforcer × Except String (List RoleAssignment × List RoleAssignment) :=
  if userID = "" then (e, .error "policy: SyncOIDCAssignments requires userId")
  else
    let walked := walk userID e.assignments (e.wantedSet userID wanted)
    let added := order.arrange walked.wantedSet
    let synced := { e with assignments := walked.kept ++ added }
    if added.length = 0 ∧ walked.revoked.length = 0 then (synced, .ok (added, walked.revoked))
    else
      match synced.saveLocked written with
      | (saved, .ok ()) => (saved, .ok (added, walked.revoked))
      | (_, .error err) => (e, .error ("policy: persisting OIDC sync: " ++ err))

/-! ## Seeding -/

/-- The rows `SeedEnvAdmin` wants for the admin. -/
def adminGrants (username : String) : List RoleAssignment :=
  [{ userID := username, roleID := "host_admin", scope := "host:*", source := "",
      autoAssigned := false },
    { userID := username, roleID := "host_admin", scope := "*", source := "",
      autoAssigned := false },
    { userID := username, roleID := "cluster_admin", scope := "cluster:*", source := "",
      autoAssigned := false }]

/-- The loop of `SeedEnvAdmin`, in which the n-th round's save returns `written n`. -/
def FileEnforcer.assignAll (e : FileEnforcer) (username : String) (written : Nat -> Except String Unit) :
    List RoleAssignment -> FileEnforcer × Except String Unit
  | [] => (e, .ok ())
  | a :: rest =>
      match e.assignRole a (written 0) with
      | (after, .error err) =>
          (after, .error ("policy: seeding env-admin " ++ username.quote ++ " with " ++ a.roleID ++
            "/" ++ a.scope ++ ": " ++ err))
      | (after, .ok ()) => after.assignAll username (fun round => written (round + 1)) rest

/-- `SeedEnvAdmin`. -/
def FileEnforcer.seedEnvAdmin (e : FileEnforcer) (username : String)
    (written : Nat -> Except String Unit) : FileEnforcer × Except String Unit :=
  if username = "" then (e, .ok ())
  else if e.assignments.any fun a => a.userID = username then (e, .ok ())
  else e.assignAll username written (adminGrants username)

/-- The roles of `seedDefaults`. -/
def seedRoles : List Role :=
  [{ id := "host_admin"
     label := "Host Admin"
     description := "Full control over basement itself and every cluster, bucket, key, object, " ++
       "and policy."
     capabilities := ["*:*"]
     seed := true
     deprecated := false },
    { id := "cluster_admin"
      label := "Cluster Admin"
      description := "Manages buckets, keys, layout on a cluster they're assigned to."
      capabilities := ["cluster:edit", "cluster:test", "cluster:view_layout",
        "cluster:edit_layout", "bucket:*", "key:*", "objects:list"]
      seed := true
      deprecated := false }]

/-- `seedDefaults`: the built-in roles and no assignments. -/
def seedDefaults : PolicyFile := ⟨seedRoles, []⟩

/-- `load`: a missing or empty file gives an empty cache. -/
def load (disk : Option PolicyFile) : FileEnforcer :=
  ⟨disk.getD ⟨[], []⟩, disk⟩

/-- `Open`. -/
def openStore (disk : Option PolicyFile) (written : Except String Unit) :
    Except String FileEnforcer :=
  if (load disk).roles.length = 0 then
    match ({ load disk with toPolicyFile := seedDefaults }).saveLocked written with
    | (saved, .ok ()) => .ok saved
    | (_, .error err) => .error ("policy: seeding defaults: " ++ err)
  else .ok (load disk)

/-! ## Calls -/

/-- A call of a mutator. -/
inductive Call where
  | upsertRole (r : Role)
  | deleteRole (id : String)
  | assignRole (a : RoleAssignment)
  | unassignRole (triple : Api.RoleAssignment)
  | syncOIDCAssignments (userID : String) (wanted : List RoleAssignment) (order : MapOrder)
  | seedEnvAdmin (username : String)

/-- A call and what the saves return that it makes. -/
structure Event where
  call : Call
  written : Nat -> Except String Unit

/-- The call, without the rows a reconciliation reports. -/
def FileEnforcer.perform (e : FileEnforcer) (event : Event) : FileEnforcer × Except String Unit :=
  match event.call with
  | .upsertRole r => e.upsertRole r (event.written 0)
  | .deleteRole id => e.deleteRole id (event.written 0)
  | .assignRole a => e.assignRole a (event.written 0)
  | .unassignRole triple => e.unassignRole triple (event.written 0)
  | .syncOIDCAssignments userID wanted order =>
      let synced := e.syncOIDCAssignments userID wanted order (event.written 0)
      (synced.1, synced.2.map fun _ => ())
  | .seedEnvAdmin username => e.seedEnvAdmin username event.written

/-- The store after the call, whatever the call returns. -/
def step (e : FileEnforcer) (event : Event) : Option FileEnforcer := some (e.perform event).1

/-- The call returns no error. -/
def Succeeds (e : FileEnforcer) (event : Event) : Prop := (e.perform event).2 = .ok ()

end Policies
end Basement
