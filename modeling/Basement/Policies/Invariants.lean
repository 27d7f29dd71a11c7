import Mathlib.Data.List.Nodup
import Basement.Library.Transition
import Basement.Policies.Enforcer

namespace Basement
namespace Policies

open Library.Transition

/-!
# What the mutators can do to the store

`Effect` says once what each call can do to the roles and the assignments, together with what the
call then returns.  The invariants of the store are read from it: the triples are distinct, every
row names a role, the role IDs are distinct, the two marks of provenance agree, and the built-in
roles, and only they, carry the seed flag.
-/

/-! ## Replacing a role -/

theorem mem_upsertIn {r x : Role} {roles : List Role} (member : x ∈ upsertIn r roles) :
    x ∈ roles ∨ x.id = r.id ∧
      (x.seed = true -> Exists fun existing => existing ∈ roles ∧ existing.id = r.id ∧
        existing.seed = true) := by
  induction roles with
  | nil =>
      rw [upsertIn, List.mem_singleton] at member
      subst member
      exact Or.inr ⟨rfl, fun impossible => Bool.noConfusion impossible⟩
  | cons existing rest ih =>
      unfold upsertIn at member
      split at member
      · rename_i same
        rcases List.mem_cons.mp member with rfl | later
        · exact Or.inr ⟨rfl, fun flag => ⟨existing, List.mem_cons_self, same, flag⟩⟩
        · exact Or.inl (List.mem_cons_of_mem _ later)
      · rcases List.mem_cons.mp member with rfl | later
        · exact Or.inl List.mem_cons_self
        · rcases ih later with old | ⟨own, flags⟩
          · exact Or.inl (List.mem_cons_of_mem _ old)
          · refine Or.inr ⟨own, fun flag => ?_⟩
            rcases flags flag with ⟨source, listed, rest⟩
            exact ⟨source, List.mem_cons_of_mem _ listed, rest⟩

/-- The ID of every role stays, with the flag of a role that has one. -/
theorem upsertIn_keeps {r existing : Role} {roles : List Role} (member : existing ∈ roles) :
    Exists fun x => x ∈ upsertIn r roles ∧ x.id = existing.id ∧ x.seed = existing.seed := by
  induction roles with
  | nil => cases member
  | cons first rest ih =>
      unfold upsertIn
      split
      · rename_i same
        rcases List.mem_cons.mp member with rfl | later
        · exact ⟨_, List.mem_cons_self, same.symm, rfl⟩
        · exact ⟨existing, List.mem_cons_of_mem _ later, rfl, rfl⟩
      · rcases List.mem_cons.mp member with rfl | later
        · exact ⟨existing, List.mem_cons_self, rfl, rfl⟩
        · rcases ih later with ⟨x, listed, facts⟩
          exact ⟨x, List.mem_cons_of_mem _ listed, facts⟩

theorem upsertIn_ids_nodup {r : Role} {roles : List Role}
    (unique : (roles.map fun x => x.id).Nodup) :
    ((upsertIn r roles).map fun x => x.id).Nodup := by
  induction roles with
  | nil => exact List.nodup_singleton _
  | cons first rest ih =>
      have parts := List.nodup_cons.mp unique
      unfold upsertIn
      split
      · rename_i same
        refine List.nodup_cons.mpr ⟨?_, parts.2⟩
        change r.id ∉ _
        rw [← same]
        exact parts.1
      · rename_i different
        refine List.nodup_cons.mpr ⟨?_, ih parts.2⟩
        intro listed
        rcases List.mem_map.mp listed with ⟨x, member, same⟩
        rcases mem_upsertIn member with old | ⟨own, _⟩
        · exact parts.1 (List.mem_map.mpr ⟨x, old, same⟩)
        · exact different (same.symm.trans own)

/-! ## The walk of a reconciliation -/

theorem mem_deleteKey {wantedSet : List RoleAssignment} {a w : RoleAssignment} :
    w ∈ deleteKey wantedSet a ↔ w ∈ wantedSet ∧ ¬ a.SameKey w := by
  unfold deleteKey
  rw [List.mem_filter, decide_eq_true_iff]

/-- A row of the user that the groups made. -/
def FromGroups (userID : String) (a : RoleAssignment) : Prop :=
  a.userID = userID ∧ a.source = "oidc"

instance (userID : String) (a : RoleAssignment) : Decidable (FromGroups userID a) :=
  inferInstanceAs (Decidable (_ ∧ _))

/-- What becomes of a row: the rows that the groups made stay if they are wanted. -/
def outcome (userID : String) (wantedSet : List RoleAssignment) (a : RoleAssignment) :
    Option RoleAssignment :=
  if FromGroups userID a then
    if wantedSet.any fun w => a.SameKey w then
      some { a with source := "oidc", autoAssigned := true }
    else none
  else some a

/-- The user has a row with the key. -/
def Covered (userID : String) (rows : List RoleAssignment) (w : RoleAssignment) : Prop :=
  Exists fun a => a ∈ rows ∧ a.userID = userID ∧ a.SameKey w

instance (userID : String) (rows : List RoleAssignment) (w : RoleAssignment) :
    Decidable (Covered userID rows w) :=
  inferInstanceAs (Decidable (Exists fun a => a ∈ rows ∧ a.userID = userID ∧ a.SameKey w))

theorem covered_cons {userID : String} {a : RoleAssignment} {rest : List RoleAssignment}
    {w : RoleAssignment} :
    Covered userID (a :: rest) w ↔ a.userID = userID ∧ a.SameKey w ∨ Covered userID rest w := by
  unfold Covered
  rw [List.exists_mem_cons_iff]

/-- The wanted keys behind a row. -/
def wantedBehind (userID : String) (a : RoleAssignment) (wantedSet : List RoleAssignment) :
    List RoleAssignment :=
  if a.userID = userID then deleteKey wantedSet a else wantedSet

/-- One round of the walk. -/
theorem walk_cons (userID : String) (a : RoleAssignment) (rest wantedSet : List RoleAssignment) :
    walk userID (a :: rest) wantedSet =
      { kept := (outcome userID wantedSet a).toList ++
          (walk userID rest (wantedBehind userID a wantedSet)).kept
        revoked := (if outcome userID wantedSet a = none then [a] else []) ++
          (walk userID rest (wantedBehind userID a wantedSet)).revoked
        wantedSet := (walk userID rest (wantedBehind userID a wantedSet)).wantedSet } := by
  rw [walk]
  unfold outcome FromGroups wantedBehind
  by_cases own : a.userID = userID
  · by_cases oidc : a.source = "oidc"
    · by_cases listed : (wantedSet.any fun w => decide (a.SameKey w)) = true
      · simp [own, oidc, listed]
      · have missing : deleteKey wantedSet a = wantedSet := by
          rw [deleteKey, List.filter_eq_self]
          intro w member
          refine decide_eq_true fun key => listed ?_
          exact List.any_eq_true.mpr ⟨w, member, decide_eq_true key⟩
        simp [own, oidc, listed, missing]
    · simp [own, oidc]
  · simp [own]

/-- The walk leaves those of the wanted keys that no row of the user has. -/
theorem walk_wantedSet_eq (userID : String) (rows : List RoleAssignment) : forall wantedSet,
    (walk userID rows wantedSet).wantedSet =
      wantedSet.filter fun w => ¬ Covered userID rows w := by
  induction rows with
  | nil =>
      intro wantedSet
      refine (List.filter_eq_self.mpr fun w _ => decide_eq_true ?_).symm
      rintro ⟨_, member, _⟩
      cases member
  | cons a rest ih =>
      intro wantedSet
      rw [walk_cons, ih]
      unfold wantedBehind deleteKey
      by_cases own : a.userID = userID
      · rw [if_pos own, List.filter_filter]
        refine List.filter_congr fun w _ => ?_
        rw [← Bool.decide_and]
        refine decide_eq_decide.mpr ?_
        rw [covered_cons]
        tauto
      · rw [if_neg own]
        refine List.filter_congr fun w _ => decide_eq_decide.mpr ?_
        rw [covered_cons]
        tauto

theorem walk_wantedSet_sublist (userID : String) (rows wantedSet : List RoleAssignment) :
    (walk userID rows wantedSet).wantedSet.Sublist wantedSet := by
  rw [walk_wantedSet_eq]
  exact List.filter_sublist

theorem outcome_other {userID : String} {a : RoleAssignment} (other : ¬ FromGroups userID a)
    (wantedSet : List RoleAssignment) : outcome userID wantedSet a = some a := by
  unfold outcome
  rw [if_neg other]

/-- What becomes of a row is the row, or one of the groups with its triple. -/
theorem outcome_some {userID : String} {wantedSet : List RoleAssignment} {a row : RoleAssignment}
    (became : outcome userID wantedSet a = some row) :
    row = a ∨ FromGroups userID a ∧ row = ⟨a.toRoleAssignment, "oidc", true⟩ := by
  unfold outcome at became
  split at became
  · rename_i fromGroups
    split at became
    · cases became
      exact Or.inr ⟨fromGroups, rfl⟩
    · cases became
  · cases became
    exact Or.inl rfl

theorem outcome_triple {userID : String} {wantedSet : List RoleAssignment} {a row : RoleAssignment}
    (became : outcome userID wantedSet a = some row) :
    row.toRoleAssignment = a.toRoleAssignment := by
  rcases outcome_some became with rfl | ⟨_, rfl⟩ <;> rfl

/-- Every kept row is what became of a row. -/
theorem mem_walk_kept {userID : String} {rows : List RoleAssignment} {row : RoleAssignment} :
    forall {wantedSet}, row ∈ (walk userID rows wantedSet).kept ->
      Exists fun a => a ∈ rows ∧ Exists fun wantedThen => outcome userID wantedThen a = some row := by
  induction rows with
  | nil =>
      intro wantedSet member
      cases member
  | cons first rest ih =>
      intro wantedSet member
      rw [walk_cons, List.mem_append, Option.mem_toList] at member
      rcases member with here | later
      · exact ⟨first, List.mem_cons_self, wantedSet, here⟩
      · rcases ih later with ⟨a, old, became⟩
        exact ⟨a, List.mem_cons_of_mem _ old, became⟩

/-- The kept rows are rows from before, up to the marks of provenance. -/
theorem walk_kept_sublist (userID : String) (rows : List RoleAssignment) :
    forall wantedSet,
      ((walk userID rows wantedSet).kept.map RoleAssignment.toRoleAssignment).Sublist
        (rows.map RoleAssignment.toRoleAssignment) := by
  induction rows with
  | nil => exact fun _ => List.Sublist.refl _
  | cons a rest ih =>
      intro wantedSet
      rw [walk_cons]
      cases result : outcome userID wantedSet a with
      | none => exact (ih _).cons _
      | some row =>
          rw [List.map_cons, ← outcome_triple result]
          exact (ih _).cons_cons _

theorem walk_kept_flags {userID : String} {rows : List RoleAssignment}
    (flagged : forall a, a ∈ rows -> (a.autoAssigned = true ↔ a.source = "oidc"))
    (wantedSet : List RoleAssignment) (row : RoleAssignment)
    (member : row ∈ (walk userID rows wantedSet).kept) :
    row.autoAssigned = true ↔ row.source = "oidc" := by
  rcases mem_walk_kept member with ⟨a, old, wantedThen, became⟩
  rcases outcome_some became with rfl | ⟨_, rfl⟩
  · exact flagged row old
  · exact iff_of_true rfl rfl

/-- The rows of other users and the manual rows are kept as they are. -/
theorem walk_keeps {userID : String} {rows : List RoleAssignment} {a : RoleAssignment}
    (member : a ∈ rows) (untouched : a.userID ≠ userID ∨ a.source ≠ "oidc") :
    forall wantedSet, a ∈ (walk userID rows wantedSet).kept := by
  have other : ¬ FromGroups userID a := by
    rintro ⟨own, oidc⟩
    exact untouched.elim (fun different => different own) fun manual => manual oidc
  induction rows with
  | nil => cases member
  | cons first rest ih =>
      intro wantedSet
      rw [walk_cons]
      rcases List.mem_cons.mp member with rfl | later
      · rw [outcome_other other]
        exact List.mem_cons_self
      · exact List.mem_append_right _ (ih later _)

/-- What is still wanted after the walk is not among the kept rows. -/
theorem walk_disjoint {userID : String} {rows wantedSet : List RoleAssignment}
    {w a : RoleAssignment} (left : w ∈ (walk userID rows wantedSet).wantedSet)
    (member : a ∈ (walk userID rows wantedSet).kept) (own : a.userID = userID) :
    ¬ a.SameKey w := by
  intro key
  rw [walk_wantedSet_eq, List.mem_filter, decide_eq_true_iff] at left
  rcases mem_walk_kept member with ⟨old, listed, wantedThen, became⟩
  have same := outcome_triple became
  exact left.2 ⟨old, listed, (congrArg Api.RoleAssignment.userID same).symm.trans own,
    key.1.trans (congrArg Api.RoleAssignment.roleID same),
    key.2.trans (congrArg Api.RoleAssignment.scope same)⟩

theorem mem_wantedSet {pf : PolicyFile} {userID : String} {wanted : List RoleAssignment}
    {w : RoleAssignment} (member : w ∈ pf.wantedSet userID wanted) :
    w = ⟨⟨userID, w.roleID, w.scope⟩, "oidc", true⟩ ∧ pf.hasRole w.roleID = true := by
  unfold PolicyFile.wantedSet at member
  rw [List.mem_dedup, List.mem_map] at member
  rcases member with ⟨source, chosen, rfl⟩
  rw [List.mem_filter, decide_eq_true_iff] at chosen
  exact ⟨rfl, chosen.2.2.2⟩

/-! ## Effects -/

/-- The assignments after a reconciliation. -/
def PolicyFile.synced (pf : PolicyFile) (userID : String) (wanted : List RoleAssignment)
    (order : MapOrder) : PolicyFile :=
  let walked := walk userID pf.assignments (pf.wantedSet userID wanted)
  { pf with assignments := walked.kept ++ order.arrange walked.wantedSet }

def PolicyFile.withoutRole (pf : PolicyFile) (id : String) : PolicyFile :=
  { roles := pf.roles.eraseP fun r => r.id = id
    assignments := pf.assignments.filter fun a => a.roleID ≠ id }

def PolicyFile.without (pf : PolicyFile) (triple : Api.RoleAssignment) : PolicyFile :=
  { pf with assignments := pf.assignments.filter fun a => a.toRoleAssignment ≠ triple }

def PolicyFile.withRow (pf : PolicyFile) (a : RoleAssignment) : PolicyFile :=
  { pf with assignments := pf.assignments ++ [a.normalised] }

/-- What a call can do to the roles and the assignments, and what it then returns. -/
inductive Effect (pf : PolicyFile) : Call -> PolicyFile -> Except String Unit -> Prop where
  | refused (call : Call) (err : String) : Effect pf call pf (.error err)
  | idle (call : Call) : Effect pf call pf (.ok ())
  | upserted (r : Role) (result : Except String Unit) :
      Effect pf (.upsertRole r) { pf with roles := upsertIn r pf.roles } result
  | deleted (id : String) (role : Role) (first : (pf.roles.find? fun r => r.id = id) = some role)
      (plain : role.seed = false) : Effect pf (.deleteRole id) (pf.withoutRole id) (.ok ())
  | assigned (a : RoleAssignment) (result : Except String Unit) (known : pf.hasRole a.roleID = true)
      (fresh : a.toRoleAssignment ∉ pf.triples) : Effect pf (.assignRole a) (pf.withRow a) result
  | unassigned (triple : Api.RoleAssignment) :
      Effect pf (.unassignRole triple) (pf.without triple) (.ok ())
  | synced (userID : String) (wanted : List RoleAssignment) (order : MapOrder) :
      Effect pf (.syncOIDCAssignments userID wanted order) (pf.synced userID wanted order) (.ok ())
  | seeded (username : String) (result : Except String Unit) (after : PolicyFile)
      (closed : forall property : PolicyFile -> Prop, property pf ->
        (forall middle a, property middle -> middle.hasRole a.roleID = true ->
          a.toRoleAssignment ∉ middle.triples -> property (middle.withRow a)) -> property after) :
      Effect pf (.seedEnvAdmin username) after result

theorem assignRole_effect (e : FileEnforcer) (a : RoleAssignment) (written : Except String Unit) :
    (e.assignRole a written).1.toPolicyFile = e.toPolicyFile ∨
      e.hasRole a.roleID = true ∧ a.toRoleAssignment ∉ e.triples ∧
        (e.assignRole a written).1.toPolicyFile = e.withRow a := by
  unfold FileEnforcer.assignRole
  split
  · exact Or.inl rfl
  · split
    · exact Or.inl rfl
    · rename_i known
      split
      · exact Or.inl rfl
      · rename_i fresh
        exact Or.inr ⟨not_not.mp known, fresh, FileEnforcer.saveLocked_memory _ _⟩

/-- The rounds of seeding keep what each appended row keeps. -/
theorem assignAll_closed (property : PolicyFile -> Prop)
    (row : forall middle a, property middle -> middle.hasRole a.roleID = true ->
      a.toRoleAssignment ∉ middle.triples -> property (middle.withRow a)) (username : String)
    (rows : List RoleAssignment) :
    forall (e : FileEnforcer) (written : Nat -> Except String Unit), property e.toPolicyFile ->
      property (e.assignAll username written rows).1.toPolicyFile := by
  induction rows with
  | nil => intro e written initially; exact initially
  | cons a rest ih =>
      intro e written initially
      have next : property (e.assignRole a (written 0)).1.toPolicyFile := by
        rcases assignRole_effect e a (written 0) with same | ⟨known, fresh, appended⟩
        · rw [same]
          exact initially
        · rw [appended]
          exact row _ a initially known fresh
      unfold FileEnforcer.assignAll
      split
      · rename_i after err assigned
        rw [assigned] at next
        exact next
      · rename_i after assigned
        rw [assigned] at next
        exact ih after _ next

theorem perform_effect (e : FileEnforcer) (event : Event) :
    Effect e.toPolicyFile event.call (e.perform event).1.toPolicyFile (e.perform event).2 := by
  rcases event with ⟨call, written⟩
  cases call with
  | upsertRole r =>
      change Effect _ _ (e.upsertRole r (written 0)).1.toPolicyFile (e.upsertRole r (written 0)).2
      unfold FileEnforcer.upsertRole
      split
      · exact Effect.refused _ _
      · split
        · exact Effect.refused _ _
        · rw [FileEnforcer.saveLocked_memory]
          exact Effect.upserted r _
  | deleteRole id =>
      change Effect _ _ (e.deleteRole id (written 0)).1.toPolicyFile (e.deleteRole id (written 0)).2
      unfold FileEnforcer.deleteRole
      split
      · exact Effect.refused _ _
      · split
        · exact Effect.refused _ _
        · rename_i role first
          split
          · exact Effect.refused _ _
          · rename_i plain
            cases written 0 with
            | ok done => exact Effect.deleted id role first (Bool.eq_false_iff.mpr plain)
            | error err => exact Effect.refused _ _
  | assignRole a =>
      change Effect _ _ (e.assignRole a (written 0)).1.toPolicyFile (e.assignRole a (written 0)).2
      unfold FileEnforcer.assignRole
      split
      · exact Effect.refused _ _
      · split
        · exact Effect.refused _ _
        · rename_i known
          split
          · exact Effect.idle _
          · rename_i fresh
            rw [FileEnforcer.saveLocked_memory]
            exact Effect.assigned a _ (not_not.mp known) fresh
  | unassignRole triple =>
      change Effect _ _ (e.unassignRole triple (written 0)).1.toPolicyFile
        (e.unassignRole triple (written 0)).2
      unfold FileEnforcer.unassignRole
      split
      · exact Effect.refused _ _
      · split
        · exact Effect.idle _
        · cases written 0 with
          | ok done => exact Effect.unassigned triple
          | error err => exact Effect.refused _ _
  | syncOIDCAssignments userID wanted order =>
      change Effect _ _ (e.syncOIDCAssignments userID wanted order (written 0)).1.toPolicyFile
        ((e.syncOIDCAssignments userID wanted order (written 0)).2.map fun _ => ())
      unfold FileEnforcer.syncOIDCAssignments
      split
      · exact Effect.refused _ _
      · dsimp only
        split
        · exact Effect.synced userID wanted order
        · cases written 0 with
          | ok done => exact Effect.synced userID wanted order
          | error err => exact Effect.refused _ _
  | seedEnvAdmin username =>
      change Effect _ _ (e.seedEnvAdmin username written).1.toPolicyFile
        (e.seedEnvAdmin username written).2
      unfold FileEnforcer.seedEnvAdmin
      split
      · exact Effect.idle _
      · split
        · exact Effect.idle _
        · exact Effect.seeded username _ _ fun property initially row =>
            assignAll_closed property row username _ e written initially

/-! ## The invariants -/

/-- The IDs of the built-in roles. -/
def seedIDs : List String := ["host_admin", "cluster_admin"]

/-- The invariants of the store. -/
structure Sound (pf : PolicyFile) : Prop where
  distinct : pf.triples.Nodup
  named : forall a, a ∈ pf.assignments -> pf.hasRole a.roleID = true
  unique : (pf.roles.map fun r => r.id).Nodup
  flagged : forall a, a ∈ pf.assignments -> (a.autoAssigned = true ↔ a.source = "oidc")
  builtIn : forall id, id ∈ seedIDs ->
    Exists fun r => r ∈ pf.roles ∧ r.id = id ∧ r.seed = true
  onlyBuiltIn : forall r, r ∈ pf.roles -> r.seed = true -> r.id ∈ seedIDs

theorem seedDefaults_sound : Sound seedDefaults where
  distinct := List.nodup_nil
  named := fun _ member => by cases member
  unique := by decide
  flagged := fun _ member => by cases member
  builtIn := by decide
  onlyBuiltIn := by decide

/-- Of two roles with the same ID there is one. -/
theorem Sound.role_eq {pf : PolicyFile} (sound : Sound pf) {r x : Role} (member : r ∈ pf.roles)
    (other : x ∈ pf.roles) (same : r.id = x.id) : r = x :=
  List.inj_on_of_nodup_map sound.unique member other same

theorem hasRole_upsertIn {pf : PolicyFile} {r : Role} {id : String} (known : pf.hasRole id = true) :
    PolicyFile.hasRole { pf with roles := upsertIn r pf.roles } id = true := by
  rcases PolicyFile.hasRole_iff.mp known with ⟨existing, member, rfl⟩
  rcases upsertIn_keeps (r := r) member with ⟨x, listed, same, _⟩
  exact PolicyFile.hasRole_iff.mpr ⟨x, listed, same⟩

theorem Sound.upserted {pf : PolicyFile} (sound : Sound pf) (r : Role) :
    Sound { pf with roles := upsertIn r pf.roles } where
  distinct := sound.distinct
  named := fun a member => hasRole_upsertIn (sound.named a member)
  unique := upsertIn_ids_nodup sound.unique
  flagged := sound.flagged
  builtIn := by
    intro id seed
    rcases sound.builtIn id seed with ⟨existing, member, own, flag⟩
    rcases upsertIn_keeps (r := r) member with ⟨x, listed, same, sameFlag⟩
    exact ⟨x, listed, same.trans own, sameFlag.trans flag⟩
  onlyBuiltIn := by
    intro x member flag
    rcases mem_upsertIn member with old | ⟨own, flags⟩
    · exact sound.onlyBuiltIn x old flag
    · rcases flags flag with ⟨existing, listed, same, seed⟩
      have id := sound.onlyBuiltIn existing listed seed
      rwa [same, ← own] at id

/-- Erasing a role leaves the roles with other IDs. -/
theorem mem_eraseRole {roles : List Role} {id : String} {r : Role} (member : r ∈ roles)
    (other : r.id ≠ id) : r ∈ roles.eraseP fun x => x.id = id := by
  refine (List.mem_eraseP_of_neg ?_).mpr member
  intro same
  exact other (of_decide_eq_true same)

theorem Sound.withoutRole {pf : PolicyFile} (sound : Sound pf) {id : String} {role : Role}
    (first : (pf.roles.find? fun r => r.id = id) = some role) (plain : role.seed = false) :
    Sound (pf.withoutRole id) where
  distinct := sound.distinct.sublist (List.filter_sublist.map _)
  named := by
    intro a member
    have parts := List.mem_filter.mp member
    have other : a.roleID ≠ id := of_decide_eq_true parts.2
    rcases PolicyFile.hasRole_iff.mp (sound.named a parts.1) with ⟨r, listed, own⟩
    exact PolicyFile.hasRole_iff.mpr ⟨r, mem_eraseRole listed (own ▸ other), own⟩
  unique := sound.unique.sublist (List.eraseP_sublist.map _)
  flagged := fun a member => sound.flagged a (List.mem_filter.mp member).1
  builtIn := by
    intro seedID listed
    rcases sound.builtIn seedID listed with ⟨r, member, own, flag⟩
    refine ⟨r, mem_eraseRole member ?_, own, flag⟩
    intro same
    have named : role.id = id :=
      of_decide_eq_true (@List.find?_some _ (fun r : Role => decide (r.id = id)) _ _ first)
    have one := sound.role_eq member (List.mem_of_find?_eq_some first) (same.trans named.symm)
    rw [one, plain] at flag
    cases flag
  onlyBuiltIn := fun r member => sound.onlyBuiltIn r (List.eraseP_sublist.subset member)

theorem Sound.without {pf : PolicyFile} (sound : Sound pf) (triple : Api.RoleAssignment) :
    Sound (pf.without triple) where
  distinct := sound.distinct.sublist (List.filter_sublist.map _)
  named := fun a member => sound.named a (List.mem_filter.mp member).1
  unique := sound.unique
  flagged := fun a member => sound.flagged a (List.mem_filter.mp member).1
  builtIn := sound.builtIn
  onlyBuiltIn := sound.onlyBuiltIn

theorem normalised_flags (a : RoleAssignment) :
    a.normalised.autoAssigned = true ↔ a.normalised.source = "oidc" := decide_eq_true_iff

theorem triples_withRow (pf : PolicyFile) (a : RoleAssignment) :
    (pf.withRow a).triples = pf.triples ++ [a.toRoleAssignment] := by
  unfold PolicyFile.triples PolicyFile.withRow
  rw [List.map_append]
  rfl

theorem withRow_nodup {pf : PolicyFile} {a : RoleAssignment} (distinct : pf.triples.Nodup)
    (fresh : a.toRoleAssignment ∉ pf.triples) : (pf.withRow a).triples.Nodup := by
  rw [triples_withRow]
  exact List.nodup_append'.mpr ⟨distinct, List.nodup_singleton _,
    List.disjoint_singleton.mpr fresh⟩

theorem Sound.withRow {pf : PolicyFile} (sound : Sound pf) (a : RoleAssignment)
    (known : pf.hasRole a.roleID = true) (fresh : a.toRoleAssignment ∉ pf.triples) :
    Sound (pf.withRow a) where
  distinct := withRow_nodup sound.distinct fresh
  named := by
    intro row member
    rcases List.mem_append.mp member with old | new
    · exact sound.named row old
    · cases List.mem_singleton.mp new
      exact known
  unique := sound.unique
  flagged := by
    intro row member
    rcases List.mem_append.mp member with old | new
    · exact sound.flagged row old
    · cases List.mem_singleton.mp new
      exact normalised_flags a
  builtIn := sound.builtIn
  onlyBuiltIn := sound.onlyBuiltIn

/-- The rows that are left of the wanted ones. -/
theorem mem_left {pf : PolicyFile} {userID : String} {wanted rows : List RoleAssignment}
    {order : MapOrder} {w : RoleAssignment}
    (member : w ∈ order.arrange (walk userID rows (pf.wantedSet userID wanted)).wantedSet) :
    w ∈ (walk userID rows (pf.wantedSet userID wanted)).wantedSet ∧
      w = ⟨⟨userID, w.roleID, w.scope⟩, "oidc", true⟩ ∧ pf.hasRole w.roleID = true := by
  have left := (order.perm _).mem_iff.mp member
  exact ⟨left, mem_wantedSet ((walk_wantedSet_sublist _ _ _).subset left)⟩

/-- A kept row has the triple of a row from before. -/
theorem mem_kept {userID : String} {rows wantedSet : List RoleAssignment} {a : RoleAssignment}
    (member : a ∈ (walk userID rows wantedSet).kept) :
    Exists fun row => row ∈ rows ∧ row.toRoleAssignment = a.toRoleAssignment :=
  List.mem_map.mp ((walk_kept_sublist userID rows wantedSet).subset (List.mem_map_of_mem member))

/-- A reconciliation makes no duplicate triple. -/
theorem synced_nodup {pf : PolicyFile} (distinct : pf.triples.Nodup) (userID : String)
    (wanted : List RoleAssignment) (order : MapOrder) :
    (pf.synced userID wanted order).triples.Nodup := by
  unfold PolicyFile.triples PolicyFile.synced
  rw [List.map_append, List.nodup_append']
  refine ⟨distinct.sublist (walk_kept_sublist _ _ _), ?_, ?_⟩
  · refine List.Nodup.map_on ?_ ((order.perm _).nodup_iff.mpr
      ((List.nodup_dedup _).sublist (walk_wantedSet_sublist _ _ _)))
    intro w member v other same
    rw [(mem_left member).2.1, (mem_left other).2.1]
    rw [congrArg Api.RoleAssignment.roleID same, congrArg Api.RoleAssignment.scope same]
  · intro triple kept left
    rcases List.mem_map.mp kept with ⟨a, member, rfl⟩
    rcases List.mem_map.mp left with ⟨w, wantedHere, same⟩
    have facts := mem_left wantedHere
    have own : a.userID = userID :=
      (congrArg Api.RoleAssignment.userID same).symm.trans
        (congrArg (fun row : RoleAssignment => row.userID) facts.2.1)
    exact walk_disjoint facts.1 member own
      ⟨congrArg Api.RoleAssignment.roleID same, congrArg Api.RoleAssignment.scope same⟩

theorem Sound.synced {pf : PolicyFile} (sound : Sound pf) (userID : String)
    (wanted : List RoleAssignment) (order : MapOrder) : Sound (pf.synced userID wanted order) where
  distinct := synced_nodup sound.distinct userID wanted order
  named := by
    intro a member
    rcases List.mem_append.mp member with kept | added
    · rcases mem_kept kept with ⟨row, old, same⟩
      rw [← congrArg Api.RoleAssignment.roleID same]
      exact sound.named row old
    · exact (mem_left added).2.2
  unique := sound.unique
  flagged := by
    intro a member
    rcases List.mem_append.mp member with kept | added
    · exact walk_kept_flags sound.flagged _ a kept
    · rw [(mem_left added).2.1]
      exact iff_of_true rfl rfl
  builtIn := sound.builtIn
  onlyBuiltIn := sound.onlyBuiltIn

theorem Sound.effect {pf after : PolicyFile} {call : Call} {result : Except String Unit}
    (sound : Sound pf) (effect : Effect pf call after result) : Sound after := by
  cases effect with
  | refused call err => exact sound
  | idle call => exact sound
  | upserted r result => exact sound.upserted r
  | deleted id role first plain => exact sound.withoutRole first plain
  | assigned a result known fresh => exact sound.withRow a known fresh
  | unassigned triple => exact sound.without triple
  | synced userID wanted order => exact sound.synced userID wanted order
  | seeded username result after closed =>
      exact closed Sound sound fun middle a held known fresh => held.withRow a known fresh

/-- A store opened where no file was holds the built-in roles. -/
theorem openStore_none {written : Except String Unit} {e : FileEnforcer}
    (opened : openStore none written = .ok e) : e.toPolicyFile = seedDefaults := by
  cases written with
  | ok done =>
      cases opened
      rfl
  | error err => cases opened

/-- The seeded store keeps its invariants under all calls, whatever their saves return. -/
theorem seeded_store_sound {written : Except String Unit} {start final : FileEnforcer}
    {events : List Event} (seeded : openStore none written = .ok start)
    (run : exec step start events = some final) : Sound final.toPolicyFile := by
  refine @exec_invariant _ _ step (fun e => Sound e.toPolicyFile) ?_ events start final ?_ run
  · intro e event next sound taken
    cases Option.some.inj taken
    exact sound.effect (perform_effect e event)
  · rw [openStore_none seeded]
    exact seedDefaults_sound

/-- The admin is seeded while the second save of the seeding fails, and an operator then tries
to delete a built-in role. -/
theorem seeded_store_sound_alice :
    Sound (((⟨seedDefaults, some seedDefaults⟩ : FileEnforcer).perform
      ⟨.seedEnvAdmin "alice", fun round => if round = 1 then .error "disk full" else .ok ()⟩).1.perform
        ⟨.deleteRole "host_admin", fun _ => .ok ()⟩).1.toPolicyFile :=
  @seeded_store_sound (.ok ()) ⟨seedDefaults, some seedDefaults⟩ _
    [⟨.seedEnvAdmin "alice", fun round => if round = 1 then .error "disk full" else .ok ()⟩,
      ⟨.deleteRole "host_admin", fun _ => .ok ()⟩] rfl rfl

end Policies
end Basement
