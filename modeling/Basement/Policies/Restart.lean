import Basement.Policies.Rollback

namespace Basement
namespace Policies

open ServiceAccounts (Enforcer scopeMatches)
open Library (Covering Grants)
open Library.Transition

/-!
# The boot sequence

At every boot the rows of the role `bucket_user` are dropped from the file, the store is opened,
and the admin named by the environment is seeded if no row of theirs is left.  Each step was meant
for an older file or for the first boot, and each runs on every file.
-/

/-! ## Boot -/

/-- The file without the rows that the migration drops. -/
def PolicyFile.migrated (pf : PolicyFile) : PolicyFile :=
  { pf with assignments := pf.assignments.filter fun a => a.roleID ≠ "bucket_user" }

/-- `MigrateBucketUserAssignments`: the file after it.  What it returns is only logged. -/
def migrateBucketUserAssignments (disk : Option PolicyFile) (written : Except String Unit) :
    Option PolicyFile :=
  match disk with
  | none => none
  | some pf =>
      if (pf.assignments.countP fun a => a.roleID = "bucket_user") = 0 then some pf
      else
        match written with
        | .ok () => some pf.migrated
        | .error _ => some pf

/-- What the writes of a boot return. -/
structure BootWrites where
  migration : Except String Unit
  opening : Except String Unit
  seeding : Nat -> Except String Unit

/-- The policy part of `main`: an error ends the process. -/
def boot (disk : Option PolicyFile) (adminUser : String) (written : BootWrites) :
    Except String FileEnforcer :=
  match openStore (migrateBucketUserAssignments disk written.migration) written.opening with
  | .error err => .error err
  | .ok e =>
      match e.seedEnvAdmin adminUser written.seeding with
      | (_, .error err) => .error err
      | (seeded, .ok ()) => .ok seeded

/-- All writes succeed. -/
def allWritten : BootWrites := ⟨.ok (), .ok (), fun _ => .ok ()⟩

/-! ## The file follows the memory -/

/-- The file holds the roles and the triples of the memory. -/
def InSync (e : FileEnforcer) : Prop :=
  Exists fun pf => e.disk = some pf ∧ pf.roles = e.roles ∧ pf.triples = e.triples

theorem InSync.enforcer {e : FileEnforcer} (sync : InSync e) :
    Exists fun pf => e.disk = some pf ∧ pf.roles = e.roles ∧ pf.triples = e.triples ∧
      pf.enforcer = e.enforcer := by
  rcases sync with ⟨pf, disk, roles, triples⟩
  refine ⟨pf, disk, roles, triples, ?_⟩
  unfold PolicyFile.enforcer
  rw [roles, triples]

theorem saveLocked_inSync {e : FileEnforcer} {written : Except String Unit}
    (succeeded : (e.saveLocked written).2 = .ok ()) : InSync (e.saveLocked written).1 := by
  cases written with
  | ok done => exact ⟨e.toPolicyFile, rfl, rfl, rfl⟩
  | error err => cases succeeded

theorem assignRole_inSync {e : FileEnforcer} {a : RoleAssignment} {written : Except String Unit}
    (sync : InSync e) (succeeded : (e.assignRole a written).2 = .ok ()) :
    InSync (e.assignRole a written).1 := by
  unfold FileEnforcer.assignRole at succeeded ⊢
  split at succeeded
  · cases succeeded
  · rename_i present
    rw [if_neg present]
    split at succeeded
    · cases succeeded
    · rename_i known
      rw [if_neg known]
      split at succeeded
      · rename_i old
        rw [if_pos old]
        exact sync
      · rename_i fresh
        rw [if_neg fresh]
        exact saveLocked_inSync succeeded

theorem assignAll_inSync {username : String} {rows : List RoleAssignment} :
    forall {e : FileEnforcer} {written : Nat -> Except String Unit}, InSync e ->
      (e.assignAll username written rows).2 = .ok () ->
        InSync (e.assignAll username written rows).1 := by
  induction rows with
  | nil => intro e written sync _; exact sync
  | cons a rest ih =>
      intro e written sync succeeded
      unfold FileEnforcer.assignAll at succeeded ⊢
      cases assigned : e.assignRole a (written 0) with
      | mk after result =>
          rw [assigned] at succeeded
          cases result with
          | error err => cases succeeded
          | ok done =>
              have next := @assignRole_inSync e a (written 0) sync (congrArg Prod.snd assigned)
              rw [assigned] at next
              exact ih next succeeded

theorem seedEnvAdmin_inSync {e : FileEnforcer} {username : String}
    {written : Nat -> Except String Unit} (sync : InSync e)
    (succeeded : (e.seedEnvAdmin username written).2 = .ok ()) :
    InSync (e.seedEnvAdmin username written).1 := by
  unfold FileEnforcer.seedEnvAdmin at succeeded ⊢
  split
  · exact sync
  · rename_i named
    rw [if_neg named] at succeeded
    split
    · exact sync
    · rename_i none
      rw [if_neg none] at succeeded
      exact assignAll_inSync sync succeeded

/-- A reconciliation that neither adds nor revokes leaves every triple. -/
theorem walk_kept_all {userID : String} {rows : List RoleAssignment} :
    forall {wantedSet : List RoleAssignment}, (walk userID rows wantedSet).revoked = [] ->
      (walk userID rows wantedSet).kept.map RoleAssignment.toRoleAssignment =
        rows.map RoleAssignment.toRoleAssignment := by
  induction rows with
  | nil => intro wantedSet _; rfl
  | cons a rest ih =>
      intro wantedSet nothing
      unfold walk at nothing ⊢
      split at nothing
      · rename_i untouched
        rw [if_pos untouched]
        exact congrArg (a.toRoleAssignment :: ·) (ih nothing)
      · rename_i touched
        rw [if_neg touched]
        split at nothing
        · rename_i known
          rw [if_pos known]
          exact congrArg (a.toRoleAssignment :: ·) (ih nothing)
        · cases nothing

theorem syncOIDC_inSync {e : FileEnforcer} {userID : String} {wanted : List RoleAssignment}
    {order : MapOrder} {written : Except String Unit} (sync : InSync e)
    (succeeded : ((e.syncOIDCAssignments userID wanted order written).2.map fun _ => ()) = .ok ()) :
    InSync (e.syncOIDCAssignments userID wanted order written).1 := by
  unfold FileEnforcer.syncOIDCAssignments at succeeded ⊢
  split
  · exact sync
  · rename_i user
    rw [if_neg user] at succeeded
    dsimp only at succeeded ⊢
    split
    · rename_i quiet
      rcases sync with ⟨pf, disk, roles, triples⟩
      refine ⟨pf, disk, roles, triples.trans ?_⟩
      have added := List.eq_nil_of_length_eq_zero quiet.1
      have revoked := List.eq_nil_of_length_eq_zero quiet.2
      change _ = List.map _ (_ ++ _)
      rw [added, List.append_nil]
      exact (walk_kept_all revoked).symm
    · rename_i busy
      rw [if_neg busy] at succeeded
      cases written with
      | ok done => exact ⟨_, rfl, rfl, rfl⟩
      | error err => cases succeeded

theorem upsertRole_inSync {e : FileEnforcer} {r : Role} {written : Except String Unit}
    (sync : InSync e) (succeeded : (e.upsertRole r written).2 = .ok ()) :
    InSync (e.upsertRole r written).1 := by
  unfold FileEnforcer.upsertRole at succeeded ⊢
  split
  · exact sync
  · rename_i named
    rw [if_neg named] at succeeded
    split
    · exact sync
    · rename_i valid
      rw [valid] at succeeded
      exact saveLocked_inSync succeeded

theorem deleteRole_inSync {e : FileEnforcer} {id : String} {written : Except String Unit}
    (sync : InSync e) : InSync (e.deleteRole id written).1 := by
  unfold FileEnforcer.deleteRole
  split
  · exact sync
  · split
    · exact sync
    · split
      · exact sync
      · cases written with
        | ok done => exact ⟨_, rfl, rfl, rfl⟩
        | error err => exact sync

theorem unassignRole_inSync {e : FileEnforcer} {triple : Api.RoleAssignment}
    {written : Except String Unit} (sync : InSync e) :
    InSync (e.unassignRole triple written).1 := by
  unfold FileEnforcer.unassignRole
  split
  · exact sync
  · split
    · exact sync
    · cases written with
      | ok done => exact ⟨_, rfl, rfl, rfl⟩
      | error err => exact sync

theorem InSync.perform {e : FileEnforcer} {event : Event} (sync : InSync e)
    (succeeds : Succeeds e event) : InSync (e.perform event).1 := by
  rcases event with ⟨call, written⟩
  cases call with
  | upsertRole r => exact upsertRole_inSync sync succeeds
  | deleteRole id => exact deleteRole_inSync sync
  | assignRole a => exact assignRole_inSync sync succeeds
  | unassignRole triple => exact unassignRole_inSync sync
  | syncOIDCAssignments userID wanted order => exact syncOIDC_inSync sync succeeds
  | seedEnvAdmin username => exact seedEnvAdmin_inSync sync succeeds

theorem openStore_inSync {disk : Option PolicyFile} {written : Except String Unit}
    {e : FileEnforcer} (opened : openStore disk written = .ok e) : InSync e := by
  unfold openStore at opened
  split at opened
  · cases written with
    | ok done =>
        cases opened
        exact ⟨_, rfl, rfl, rfl⟩
    | error err => cases opened
  · rename_i some
    cases opened
    cases disk with
    | none => exact absurd rfl some
    | some pf => exact ⟨pf, rfl, rfl, rfl⟩

theorem boot_inSync {disk : Option PolicyFile} {adminUser : String} {written : BootWrites}
    {e : FileEnforcer} (booted : boot disk adminUser written = .ok e) : InSync e := by
  unfold boot at booted
  split at booted
  · cases booted
  · rename_i start opened
    split at booted
    · cases booted
    · rename_i seeded succeeded
      cases booted
      have sync := @seedEnvAdmin_inSync start adminUser written.seeding (openStore_inSync opened)
        (congrArg Prod.snd succeeded)
      rw [succeeded] at sync
      exact sync

/-- After successful calls on a booted store the file holds the memory. -/
theorem inSync_of_run {disk : Option PolicyFile} {adminUser : String} {written : BootWrites}
    {start e : FileEnforcer} {events : List Event} (booted : boot disk adminUser written = .ok start)
    (succeed : Meets step Succeeds start events) (run : exec step start events = some e) :
    InSync e := by
  refine @exec_invariant_of_meets _ _ step Succeeds InSync ?_ events start e
    (boot_inSync booted) succeed run
  intro before event next sync succeeds taken
  cases Option.some.inj taken
  exact sync.perform succeeds

/-! ## What a restart computes -/

theorem PolicyFile.migrated_triples (pf : PolicyFile) :
    pf.migrated.triples = pf.triples.filter fun row => row.roleID ≠ "bucket_user" := by
  unfold PolicyFile.triples PolicyFile.migrated
  rw [List.filter_map]
  rfl

theorem migrate_allWritten (pf : PolicyFile) :
    migrateBucketUserAssignments (some pf) (.ok ()) = some pf.migrated := by
  unfold migrateBucketUserAssignments
  dsimp only
  split
  · rename_i none
    have all : (pf.assignments.filter fun a => a.roleID ≠ "bucket_user") = pf.assignments := by
      refine List.filter_eq_self.mpr fun a member => decide_eq_true fun own => ?_
      exact List.countP_eq_zero.mp none a member (decide_eq_true own)
    unfold PolicyFile.migrated
    rw [all]
  · rfl

/-- With an empty list of roles the built-in ones are seeded, and the rows go with them. -/
theorem openStore_migrated (pf : PolicyFile) :
    openStore (migrateBucketUserAssignments (some pf) (.ok ())) (.ok ()) =
      .ok (if pf.roles = [] then firstStore else ⟨pf.migrated, some pf.migrated⟩) := by
  rw [migrate_allWritten]
  have loaded : (load (some pf.migrated)).roles = pf.roles := rfl
  unfold openStore
  rw [loaded]
  by_cases none : pf.roles = []
  · rw [if_pos none, if_pos (List.length_eq_zero_iff.mpr none)]
    rfl
  · rw [if_neg none, if_neg fun empty => none (List.length_eq_zero_iff.mp empty)]
    rfl

theorem assignRole_roles (e : FileEnforcer) (a : RoleAssignment) (written : Except String Unit) :
    (e.assignRole a written).1.roles = e.roles := by
  rcases assignRole_effect e a written with same | ⟨_, _, appended⟩
  · exact congrArg PolicyFile.roles same
  · have same := congrArg PolicyFile.roles appended
    exact same

/-- Seeding succeeds only if every role it grants exists. -/
theorem assignAll_hasRole {username : String} {rows : List RoleAssignment} :
    forall {e : FileEnforcer} {written : Nat -> Except String Unit},
      (e.assignAll username written rows).2 = .ok () ->
        forall a, a ∈ rows -> e.hasRole a.roleID = true := by
  induction rows with
  | nil => intro e written _ a member; cases member
  | cons first rest ih =>
      intro e written succeeded a member
      unfold FileEnforcer.assignAll at succeeded
      cases assigned : e.assignRole first (written 0) with
      | mk after result =>
          rw [assigned] at succeeded
          cases result with
          | error err => cases succeeded
          | ok done =>
              rcases List.mem_cons.mp member with rfl | later
              · exact (assignRole_ok (congrArg Prod.snd assigned)).2.1
              · have known := ih succeeded a later
                have same := assignRole_roles e first (written 0)
                rw [assigned] at same
                unfold PolicyFile.hasRole at known ⊢
                rwa [← same]

theorem assignRole_fresh {e : FileEnforcer} {a : RoleAssignment}
    (present : a.userID ≠ "" ∧ a.roleID ≠ "" ∧ a.scope ≠ "") (known : e.hasRole a.roleID = true)
    (fresh : a.toRoleAssignment ∉ e.triples) :
    e.assignRole a (.ok ()) =
      (⟨e.toPolicyFile.withRow a, some (e.toPolicyFile.withRow a)⟩, .ok ()) := by
  unfold FileEnforcer.assignRole
  rw [if_neg (by tauto), if_neg (not_not.mpr known), if_neg fresh]
  rfl

/-- New rows of existing roles are all appended. -/
theorem assignAll_fresh {username : String} {rows : List RoleAssignment} :
    forall {e : FileEnforcer}, (rows.map RoleAssignment.toRoleAssignment).Nodup ->
      (forall a, a ∈ rows -> (a.userID ≠ "" ∧ a.roleID ≠ "" ∧ a.scope ≠ "") ∧
        e.hasRole a.roleID = true ∧ a.toRoleAssignment ∉ e.triples) ->
      (e.assignAll username (fun _ => .ok ()) rows).2 = .ok () ∧
        (e.assignAll username (fun _ => .ok ()) rows).1.roles = e.roles ∧
        (e.assignAll username (fun _ => .ok ()) rows).1.triples =
          e.triples ++ rows.map RoleAssignment.toRoleAssignment := by
  induction rows with
  | nil => intro e _ _; exact ⟨rfl, rfl, (List.append_nil _).symm⟩
  | cons first rest ih =>
      intro e distinct new
      have parts := List.nodup_cons.mp distinct
      rcases new first List.mem_cons_self with ⟨present, known, fresh⟩
      unfold FileEnforcer.assignAll
      rw [assignRole_fresh present known fresh]
      have rest := @ih ⟨e.toPolicyFile.withRow first, some (e.toPolicyFile.withRow first)⟩ parts.2 ?_
      · refine ⟨rest.1, rest.2.1, rest.2.2.trans ?_⟩
        change (e.toPolicyFile.withRow first).triples ++ _ = _
        rw [triples_withRow, List.append_assoc]
        rfl
      · intro a member
        rcases new a (List.mem_cons_of_mem _ member) with ⟨fields, role, absent⟩
        refine ⟨fields, role, ?_⟩
        change a.toRoleAssignment ∉ (e.toPolicyFile.withRow first).triples
        rw [triples_withRow]
        intro listed
        rcases List.mem_append.mp listed with old | same
        · exact absent old
        · exact parts.1 (List.mem_map.mpr ⟨a, member, List.mem_singleton.mp same⟩)

/-- The admin has a row that the migration keeps, or there is no admin. -/
def KeepsAdmin (rows : List Api.RoleAssignment) (adminUser : String) : Prop :=
  adminUser = "" ∨ Exists fun row => row ∈ rows ∧ row.userID = adminUser

theorem seedEnvAdmin_kept {e : FileEnforcer} {adminUser : String}
    {written : Nat -> Except String Unit} (keeps : KeepsAdmin e.triples adminUser) :
    e.seedEnvAdmin adminUser written = (e, .ok ()) := by
  unfold FileEnforcer.seedEnvAdmin
  split
  · rfl
  · rename_i named
    rcases keeps with empty | ⟨row, member, own⟩
    · exact absurd empty named
    · rcases List.mem_map.mp member with ⟨a, listed, rfl⟩
      rw [if_pos (List.any_eq_true.mpr ⟨a, listed, decide_eq_true own⟩)]

/-- The triples of the seeded rows. -/
def adminTriples (adminUser : String) : List Api.RoleAssignment :=
  (adminGrants adminUser).map RoleAssignment.toRoleAssignment

theorem mem_adminTriples {adminUser : String} {row : Api.RoleAssignment}
    (member : row ∈ adminTriples adminUser) : row.userID = adminUser ∧
      (row.roleID = "host_admin" ∨ row.roleID = "cluster_admin") ∧ row.scope ≠ "" := by
  unfold adminTriples adminGrants at member
  simp only [List.map_cons, List.map_nil, List.mem_cons, List.not_mem_nil, or_false] at member
  rcases member with rfl | rfl | rfl
  · exact ⟨rfl, Or.inl rfl, (by decide : "host:*" ≠ "")⟩
  · exact ⟨rfl, Or.inl rfl, (by decide : "*" ≠ "")⟩
  · exact ⟨rfl, Or.inr rfl, (by decide : "cluster:*" ≠ "")⟩

theorem seedEnvAdmin_seeds {e : FileEnforcer} {adminUser : String}
    (loses : ¬ KeepsAdmin e.triples adminUser) (host : e.hasRole "host_admin" = true)
    (cluster : e.hasRole "cluster_admin" = true) :
    (e.seedEnvAdmin adminUser fun _ => .ok ()).2 = .ok () ∧
      (e.seedEnvAdmin adminUser fun _ => .ok ()).1.roles = e.roles ∧
      (e.seedEnvAdmin adminUser fun _ => .ok ()).1.triples =
        e.triples ++ adminTriples adminUser := by
  have named : adminUser ≠ "" := fun empty => loses (Or.inl empty)
  have none : ¬ (e.assignments.any fun a => a.userID = adminUser) = true := by
    intro some
    rcases List.any_eq_true.mp some with ⟨a, member, own⟩
    exact loses (Or.inr ⟨_, List.mem_map_of_mem member, of_decide_eq_true own⟩)
  unfold FileEnforcer.seedEnvAdmin
  rw [if_neg named, if_neg none]
  refine assignAll_fresh ?_ ?_
  · unfold adminGrants
    simp
  · intro a member
    have facts := mem_adminTriples (List.mem_map_of_mem member)
    refine ⟨⟨facts.1 ▸ named, ?_, facts.2.2⟩, ?_, ?_⟩
    · rcases facts.2.1 with own | own
      · exact own ▸ (by decide : "host_admin" ≠ "")
      · exact own ▸ (by decide : "cluster_admin" ≠ "")
    · rcases facts.2.1 with own | own
      · exact own ▸ host
      · exact own ▸ cluster
    · exact fun listed => loses (Or.inr ⟨_, listed, facts.1⟩)

/-- Without the built-in roles the seeding fails and the server does not start. -/
theorem seedEnvAdmin_hasRoles {e : FileEnforcer} {adminUser : String}
    {written : Nat -> Except String Unit} (loses : ¬ KeepsAdmin e.triples adminUser)
    (succeeded : (e.seedEnvAdmin adminUser written).2 = .ok ()) :
    e.hasRole "host_admin" = true ∧ e.hasRole "cluster_admin" = true := by
  unfold FileEnforcer.seedEnvAdmin at succeeded
  split at succeeded
  · rename_i empty
    exact absurd (Or.inl empty) loses
  · split at succeeded
    · rename_i some
      rcases List.any_eq_true.mp some with ⟨a, member, own⟩
      exact absurd (Or.inr ⟨_, List.mem_map_of_mem member, of_decide_eq_true own⟩) loses
    · have known := assignAll_hasRole succeeded
      exact ⟨known _ (List.mem_cons_self),
        known _ (List.mem_cons_of_mem _ (List.mem_cons_of_mem _ List.mem_cons_self))⟩

/-! ## When a restart changes nothing -/

/-- The enforcer of roles and rows. -/
def enforcerOf (roles : List Role) (rows : List Api.RoleAssignment) : Enforcer :=
  ⟨roles.map Role.toRole, rows⟩

/-- The rows that the migration keeps. -/
def keptRows (rows : List Api.RoleAssignment) : List Api.RoleAssignment :=
  rows.filter fun row => row.roleID ≠ "bucket_user"

/-- What each row of the role `bucket_user` grants at its scope is granted by the other rows of
its user, or else. -/
def DroppedCovered (roles : List Role) (rows : List Api.RoleAssignment)
    (otherwise : Api.RoleAssignment -> String -> Prop) : Prop :=
  forall row, row ∈ rows -> row.roleID = "bucket_user" -> row.userID ≠ "" -> row.scope ≠ "" ->
    forall capability, roleLists (enforcerOf roles rows) row.roleID capability = true ->
      (enforcerOf roles (keptRows rows)).can row.userID capability row.scope = true ∨
        otherwise row capability

/-- The roles and the rows on which a boot decides nothing anew. -/
inductive Restartable (roles : List Role) (rows : List Api.RoleAssignment) (adminUser : String) :
    Prop where
  /-- All roles were deleted, so the built-in ones return; they give nobody anything. -/
  | noRoles (none : roles = []) (noAdmin : adminUser = "")
  /-- The admin is not seeded, and the rows that are dropped add nothing. -/
  | kept (some : roles ≠ []) (keeps : KeepsAdmin (keptRows rows) adminUser)
      (dropped : DroppedCovered roles rows fun _ _ => False)
  /-- The admin is seeded, and what the seeded rows grant was permitted by rows that are dropped. -/
  | reseeded (loses : ¬ KeepsAdmin (keptRows rows) adminUser)
      (host : PolicyFile.hasRole ⟨roles, []⟩ "host_admin" = true)
      (cluster : PolicyFile.hasRole ⟨roles, []⟩ "cluster_admin" = true)
      (seeds : forall grant, grant ∈ adminTriples adminUser -> forall capability,
        roleLists (enforcerOf roles rows) grant.roleID capability = true ->
          (enforcerOf roles rows).can adminUser capability grant.scope = true)
      (dropped : DroppedCovered roles rows fun row capability =>
        Exists fun grant => grant ∈ adminTriples adminUser ∧ grant.userID = row.userID ∧
          roleLists (enforcerOf roles rows) grant.roleID capability = true ∧
          scopeMatches grant.scope row.scope = true)

/-- The grants of the rows that the migration drops. -/
def droppedGrants (roles : List Role) (rows : List Api.RoleAssignment) :
    Grants String String String :=
  grantsOf (enforcerOf roles rows) (rows.filter fun row => row.roleID = "bucket_user")

/-- The grants that the rows make are those of the kept rows and those of the dropped ones. -/
theorem grants_split (roles : List Role) (rows : List Api.RoleAssignment) :
    grantsOf (enforcerOf roles rows) rows =
      (grantsOf (enforcerOf roles rows) (keptRows rows)).join (droppedGrants roles rows) := by
  unfold keptRows droppedGrants
  simpa only [← decide_not] using
    @grantsOf_filter (enforcerOf roles rows) rows fun row => row.roleID = "bucket_user"

theorem can_enforcerOf {roles : List Role} {rows others : List Api.RoleAssignment}
    {userID capability scope : String} :
    (enforcerOf roles others).can userID capability scope = true ↔
      scopeCovering.Permits (grantsOf (enforcerOf roles rows) others) userID capability scope :=
  can_iff_permits

/-- Dropping the rows of `bucket_user` changes nothing exactly if they add nothing. -/
theorem dropped_iff (roles : List Role) (rows : List Api.RoleAssignment) :
    (forall userID capability scope, (enforcerOf roles (keptRows rows)).can userID capability scope =
      (enforcerOf roles rows).can userID capability scope) ↔
        DroppedCovered roles rows fun _ _ => False := by
  have extend := @Covering.extend_iff _ _ _ scopeCovering
    (grantsOf (enforcerOf roles rows) (keptRows rows)) (droppedGrants roles rows)
  rw [← grants_split] at extend
  have same : (forall userID capability scope,
      (enforcerOf roles (keptRows rows)).can userID capability scope =
        (enforcerOf roles rows).can userID capability scope) ↔
      forall userID capability scope,
        scopeCovering.Permits (grantsOf (enforcerOf roles rows) rows) userID capability scope ↔
          scopeCovering.Permits (grantsOf (enforcerOf roles rows) (keptRows rows)) userID capability
            scope := by
    refine forall_congr' fun userID => forall_congr' fun capability =>
      forall_congr' fun scope => ?_
    rw [Bool.eq_iff_iff, @can_enforcerOf roles rows, @can_enforcerOf roles rows]
    exact Iff.comm
  refine same.trans (extend.trans ?_)
  constructor
  · intro covered row member own user scope capability listed
    exact Or.inl (can_enforcerOf.mpr (covered _ _ _ (scopeCovering_proper.mpr scope)
      ⟨user, row, List.mem_filter.mpr ⟨member, decide_eq_true own⟩, rfl, rfl, listed⟩))
  · rintro covered userID capability scope proper ⟨user, row, member, rfl, rfl, listed⟩
    have parts := List.mem_filter.mp member
    rcases covered row parts.1 (of_decide_eq_true parts.2) user (scopeCovering_proper.mp proper)
      capability listed with still | impossible
    · exact can_enforcerOf.mp still
    · cases impossible

/-- Seeding the admin in their place changes nothing exactly if neither the seeded rows nor the
dropped ones add anything. -/
theorem reseeded_iff {roles : List Role} {rows : List Api.RoleAssignment} {adminUser : String}
    (named : adminUser ≠ "") :
    (forall userID capability scope,
      (enforcerOf roles (keptRows rows ++ adminTriples adminUser)).can userID capability scope =
        (enforcerOf roles rows).can userID capability scope) ↔
      (forall grant, grant ∈ adminTriples adminUser -> forall capability,
        roleLists (enforcerOf roles rows) grant.roleID capability = true ->
          (enforcerOf roles rows).can adminUser capability grant.scope = true) ∧
      DroppedCovered roles rows fun row capability =>
        Exists fun grant => grant ∈ adminTriples adminUser ∧ grant.userID = row.userID ∧
          roleLists (enforcerOf roles rows) grant.roleID capability = true ∧
          scopeMatches grant.scope row.scope = true := by
  have exchange := @Covering.exchange_iff _ _ _ scopeCovering
    (grantsOf (enforcerOf roles rows) (keptRows rows)) (droppedGrants roles rows)
    (grantsOf (enforcerOf roles rows) (adminTriples adminUser))
  rw [← grants_split] at exchange
  have same : (forall userID capability scope,
      (enforcerOf roles (keptRows rows ++ adminTriples adminUser)).can userID capability scope =
        (enforcerOf roles rows).can userID capability scope) ↔
      forall userID capability scope,
        scopeCovering.Permits ((grantsOf (enforcerOf roles rows) (keptRows rows)).join
            (grantsOf (enforcerOf roles rows) (adminTriples adminUser))) userID capability scope ↔
          scopeCovering.Permits (grantsOf (enforcerOf roles rows) rows) userID capability scope := by
    refine forall_congr' fun userID => forall_congr' fun capability =>
      forall_congr' fun scope => ?_
    rw [Bool.eq_iff_iff, @can_enforcerOf roles rows, @can_enforcerOf roles rows, grantsOf_append]
  refine same.trans (exchange.trans (and_congr ?_ ?_))
  · constructor
    · intro gains grant member capability listed
      have facts := mem_adminTriples member
      exact can_enforcerOf.mpr (gains _ _ _ (scopeCovering_proper.mpr facts.2.2)
        ⟨named, grant, member, facts.1, rfl, listed⟩)
    · rintro gains userID capability scope proper ⟨_, grant, member, rfl, rfl, listed⟩
      rw [(mem_adminTriples member).1]
      exact can_enforcerOf.mp (gains grant member capability listed)
  · constructor
    · intro losses row member own user scope capability listed
      have lost := losses _ _ _ (scopeCovering_proper.mpr scope)
        ⟨user, row, List.mem_filter.mpr ⟨member, decide_eq_true own⟩, rfl, rfl, listed⟩
      rcases Covering.permits_join_iff.mp lost with still | ⟨_, ⟨_, grant, seeded, facts⟩, covers⟩
      · exact Or.inl (can_enforcerOf.mpr still)
      · exact Or.inr ⟨grant, seeded, facts.1, facts.2.2, facts.2.1 ▸ covers⟩
    · rintro losses userID capability scope proper ⟨user, row, member, rfl, rfl, listed⟩
      have parts := List.mem_filter.mp member
      refine Covering.permits_join_iff.mpr ?_
      rcases losses row parts.1 (of_decide_eq_true parts.2) user (scopeCovering_proper.mp proper)
        capability listed with still | ⟨grant, seeded, sameUser, granted, covers⟩
      · exact Or.inl (can_enforcerOf.mp still)
      · exact Or.inr ⟨grant.scope, ⟨user, grant, seeded, sameUser, rfl, granted⟩, covers⟩

/-! ## The restart of a deployment -/

/-- What the seeded superuser scope permits at once. -/
theorem firstStore_seeded {adminUser : String} (named : adminUser ≠ "") :
    (enforcerOf seedRoles (adminTriples adminUser)).can adminUser "bucket:create" "*" = true := by
  have listed : roleLists (enforcerOf seedRoles []) "host_admin" "bucket:create" = true := by
    decide +kernel
  refine ServiceAccounts.can_iff.mpr ⟨⟨named, by decide, by decide⟩,
    ⟨adminUser, "host_admin", "*"⟩, ?_, rfl,
    grants_iff.mpr ⟨scopeCovering_proper.mpr (by decide : "*" ≠ ""), listed⟩⟩
  exact List.mem_cons_of_mem _ List.mem_cons_self

/-- The store that a restart opens. -/
def PolicyFile.opened (pf : PolicyFile) : FileEnforcer :=
  if pf.roles = [] then firstStore else ⟨pf.migrated, some pf.migrated⟩

theorem PolicyFile.opened_of_roles {pf : PolicyFile} (some : pf.roles ≠ []) :
    pf.opened.roles = pf.roles ∧ pf.opened.triples = keptRows pf.triples := by
  unfold PolicyFile.opened
  rw [if_neg some]
  exact ⟨rfl, pf.migrated_triples⟩

/-- A restart opens the store and seeds the admin. -/
theorem boot_ok_iff {pf : PolicyFile} {adminUser : String} {again : FileEnforcer} :
    boot (some pf) adminUser allWritten = .ok again ↔
      pf.opened.seedEnvAdmin adminUser (fun _ => .ok ()) = (again, .ok ()) := by
  unfold boot allWritten
  dsimp only
  rw [openStore_migrated]
  change (match pf.opened.seedEnvAdmin adminUser (fun _ => .ok ()) with
    | (_, .error err) => Except.error err
    | (seeded, .ok ()) => Except.ok seeded) = Except.ok again ↔ _
  generalize pf.opened.seedEnvAdmin adminUser (fun _ => .ok ()) = done
  rcases done with ⟨seeded, err | ok⟩
  · constructor <;> intro impossible <;> cases impossible
  · constructor <;> intro same <;> cases same <;> rfl

theorem sameDecisions_enforcerOf {pf after : PolicyFile} {roles : List Role}
    {rows : List Api.RoleAssignment} (sameRoles : after.roles = roles)
    (sameRows : after.triples = rows) :
    SameDecisions pf after ↔ forall userID capability scope,
      (enforcerOf roles rows).can userID capability scope =
        (enforcerOf pf.roles pf.triples).can userID capability scope := by
  subst sameRoles sameRows
  exact Iff.rfl

theorem can_noRoles {rows : List Api.RoleAssignment} {userID capability scope : String} :
    (enforcerOf [] rows).can userID capability scope = false := by
  refine Bool.eq_false_iff.mpr fun permitted => ?_
  rcases can_iff_permits.mp permitted with ⟨_, ⟨_, row, _, _, _, listed⟩, _⟩
  cases listed

theorem can_noRows {roles : List Role} {userID capability scope : String} :
    (enforcerOf roles []).can userID capability scope = false := by
  refine Bool.eq_false_iff.mpr fun permitted => ?_
  rcases can_iff_permits.mp permitted with ⟨_, ⟨_, row, member, _⟩, _⟩
  cases member

/-- Without roles nothing was permitted, and after a restart the admin is permitted everything. -/
theorem restart_noRoles {pf : PolicyFile} {adminUser : String} (none : pf.roles = []) :
    (Exists fun again => boot (some pf) adminUser allWritten = .ok again ∧
      SameDecisions pf again.toPolicyFile) ↔ adminUser = "" := by
  have opened : pf.opened = firstStore := if_pos none
  constructor
  · rintro ⟨again, booted, same⟩
    by_contra named
    have loses : ¬ KeepsAdmin firstStore.triples adminUser := by
      rintro (empty | ⟨row, member, _⟩)
      · exact named empty
      · cases member
    have seeds := seedEnvAdmin_seeds loses (by decide) (by decide)
    rw [boot_ok_iff, opened] at booted
    rw [booted] at seeds
    have decided := (sameDecisions_enforcerOf seeds.2.1 seeds.2.2).mp same adminUser
      "bucket:create" "*"
    rw [none, can_noRoles] at decided
    exact Bool.false_ne_true (decided.symm.trans (firstStore_seeded named))
  · intro noAdmin
    refine ⟨firstStore, boot_ok_iff.mpr ?_, ?_⟩
    · rw [opened, seedEnvAdmin_kept (Or.inl noAdmin)]
    · refine (sameDecisions_enforcerOf rfl rfl).mpr fun userID capability scope => ?_
      rw [none, can_noRoles]
      exact can_noRows

/-- A restart that leaves the admin alone. -/
theorem restart_kept {pf : PolicyFile} {adminUser : String} (some : pf.roles ≠ [])
    (keeps : KeepsAdmin (keptRows pf.triples) adminUser) :
    (Exists fun again => boot (.some pf) adminUser allWritten = .ok again ∧
      SameDecisions pf again.toPolicyFile) ↔
        DroppedCovered pf.roles pf.triples fun _ _ => False := by
  have opened := PolicyFile.opened_of_roles some
  have seeded := @seedEnvAdmin_kept pf.opened adminUser (fun _ => .ok ()) (opened.2 ▸ keeps)
  have exact := (sameDecisions_enforcerOf opened.1 opened.2).trans
    (dropped_iff pf.roles pf.triples)
  constructor
  · rintro ⟨again, booted, same⟩
    cases (boot_ok_iff.mp booted).symm.trans seeded
    exact exact.mp same
  · intro covered
    exact ⟨pf.opened, boot_ok_iff.mpr seeded, exact.mpr covered⟩

/-- A restart that seeds the admin. -/
theorem restart_reseeded {pf : PolicyFile} {adminUser : String} (some : pf.roles ≠ [])
    (loses : ¬ KeepsAdmin (keptRows pf.triples) adminUser) :
    (Exists fun again => boot (.some pf) adminUser allWritten = .ok again ∧
      SameDecisions pf again.toPolicyFile) ↔ Restartable pf.roles pf.triples adminUser := by
  have opened := PolicyFile.opened_of_roles some
  have lost : ¬ KeepsAdmin pf.opened.triples adminUser := opened.2 ▸ loses
  have named : adminUser ≠ "" := fun empty => loses (Or.inl empty)
  have roleIn : forall id, pf.opened.hasRole id = PolicyFile.hasRole ⟨pf.roles, []⟩ id := by
    intro id
    unfold PolicyFile.hasRole
    rw [opened.1]
  constructor
  · rintro ⟨again, booted, same⟩
    have seeded := boot_ok_iff.mp booted
    have roles := seedEnvAdmin_hasRoles lost (congrArg Prod.snd seeded)
    have seeds := seedEnvAdmin_seeds lost roles.1 roles.2
    rw [seeded, opened.1, opened.2] at seeds
    have covered := (reseeded_iff named).mp
      ((sameDecisions_enforcerOf seeds.2.1 seeds.2.2).mp same)
    exact Restartable.reseeded loses (roleIn _ ▸ roles.1) (roleIn _ ▸ roles.2) covered.1 covered.2
  · intro restartable
    cases restartable with
    | noRoles none _ => exact absurd none some
    | kept _ keeps _ => exact absurd keeps loses
    | reseeded _ host cluster grants dropped =>
        have seeds := seedEnvAdmin_seeds lost ((roleIn _).trans host) ((roleIn _).trans cluster)
        rw [opened.1, opened.2] at seeds
        refine ⟨(pf.opened.seedEnvAdmin adminUser fun _ => .ok ()).1,
          boot_ok_iff.mpr (Prod.ext rfl seeds.1), ?_⟩
        exact (sameDecisions_enforcerOf seeds.2.1 seeds.2.2).mpr
          ((reseeded_iff named).mpr ⟨grants, dropped⟩)

/-- What a restart of the file decides is what the file decided, exactly for these files. -/
theorem restart_sameDecisions_iff (pf : PolicyFile) (adminUser : String) :
    (Exists fun again => boot (some pf) adminUser allWritten = .ok again ∧
      SameDecisions pf again.toPolicyFile) ↔ Restartable pf.roles pf.triples adminUser := by
  by_cases none : pf.roles = []
  · refine (restart_noRoles none).trans ⟨Restartable.noRoles none, fun restartable => ?_⟩
    cases restartable with
    | noRoles _ noAdmin => exact noAdmin
    | kept some _ _ => exact absurd none some
    | reseeded _ host _ _ _ =>
        rw [none] at host
        cases host
  · by_cases keeps : KeepsAdmin (keptRows pf.triples) adminUser
    · refine (restart_kept none keeps).trans ⟨Restartable.kept none keeps, fun restartable => ?_⟩
      cases restartable with
      | noRoles empty _ => exact absurd empty none
      | kept _ _ dropped => exact dropped
      | reseeded loses _ _ _ _ => exact absurd keeps loses
    · exact restart_reseeded none keeps

/-- After successful calls on a booted deployment, a restart with the same admin decides every
question as before exactly if the roles and the rows are ones on which a boot does nothing. -/
theorem policy_survives_restart_iff {disk : Option PolicyFile} {adminUser : String}
    {written : BootWrites} {start e : FileEnforcer} {events : List Event}
    (booted : boot disk adminUser written = .ok start)
    (succeed : Meets step Succeeds start events) (run : exec step start events = some e) :
    (Exists fun again => boot e.disk adminUser allWritten = .ok again ∧
      forall userID capability scope,
        again.can userID capability scope = e.can userID capability scope) ↔
      Restartable e.roles e.triples adminUser := by
  rcases (inSync_of_run booted succeed run).enforcer with ⟨pf, onDisk, roles, triples, same⟩
  have exact := restart_sameDecisions_iff pf adminUser
  unfold SameDecisions at exact
  rw [roles, triples, same] at exact
  rw [onDisk]
  exact exact

/-- The store after the first boot with an admin. -/
def seededStore : FileEnforcer := (firstStore.seedEnvAdmin "admin" fun _ => .ok ()).1

/-- An operator adds a grant for another user, which a restart keeps. -/
theorem policy_survives_restart_iff_alice :
    (Exists fun again =>
      boot (seededStore.assignRole (clusterGrant "alice" "") (.ok ())).1.disk "admin" allWritten =
        .ok again ∧
      forall userID capability scope, again.can userID capability scope =
        (seededStore.assignRole (clusterGrant "alice" "") (.ok ())).1.can userID capability scope) ↔
      Restartable (seededStore.assignRole (clusterGrant "alice" "") (.ok ())).1.roles
        (seededStore.assignRole (clusterGrant "alice" "") (.ok ())).1.triples "admin" :=
  @policy_survives_restart_iff none "admin" allWritten seededStore _
    [⟨.assignRole (clusterGrant "alice" ""), fun _ => .ok ()⟩] (by decide +kernel)
    ⟨by unfold Succeeds; decide +kernel, fun _ _ => trivial⟩ rfl

/-- The operator takes all three grants from the seeded admin, and the next boot returns them. -/
theorem revoked_admin_returns :
    ¬ forall (disk : Option PolicyFile) (adminUser : String) (written : BootWrites)
        (start e : FileEnforcer) (events : List Event), boot disk adminUser written = .ok start ->
      (forall event, event ∈ events -> forall username, event.call ≠ .seedEnvAdmin username) ->
      Meets step Succeeds start events -> exec step start events = some e ->
        Exists fun again => boot e.disk adminUser allWritten = .ok again ∧
          forall userID capability scope,
            again.can userID capability scope = e.can userID capability scope := by
  intro survives
  have first : boot none "admin" allWritten = .ok seededStore := by decide +kernel
  have second : boot firstStore.disk "admin" allWritten = .ok seededStore := by decide +kernel
  have narrowed : exec step seededStore
      [⟨.unassignRole ⟨"admin", "host_admin", "host:*"⟩, fun _ => .ok ()⟩,
        ⟨.unassignRole ⟨"admin", "host_admin", "*"⟩, fun _ => .ok ()⟩,
        ⟨.unassignRole ⟨"admin", "cluster_admin", "cluster:*"⟩, fun _ => .ok ()⟩] =
      some firstStore := by decide +kernel
  rcases survives none "admin" allWritten seededStore firstStore _ first (by simp)
    (by
      refine ⟨by unfold Succeeds; decide +kernel, fun next taken => ?_⟩
      cases Option.some.inj taken
      refine ⟨by unfold Succeeds; decide +kernel, fun next taken => ?_⟩
      cases Option.some.inj taken
      exact ⟨by unfold Succeeds; decide +kernel, fun _ _ => trivial⟩) narrowed
    with ⟨again, booted, same⟩
  cases Except.ok.inj (second.symm.trans booted)
  exact absurd (same "admin" "bucket:create" "*") (by decide +kernel)

end Policies
end Basement
