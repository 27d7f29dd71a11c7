import Basement.Policies.Invariants

namespace Basement
namespace Policies

open Library.Transition

/-!
# Grants by hand and grants by a group

A row carries one mark that says who made it.  A reconciliation at an OIDC login may only revoke
rows that a reconciliation made, so a row that an operator made stays.  `AssignRole` over a row
with the same triple does nothing, and the mark of the row stays what it was.
-/

/-- The user has the role at the scope: the row is there and the role exists. -/
def Holds (pf : PolicyFile) (triple : Api.RoleAssignment) : Prop :=
  triple ∈ pf.triples ∧ pf.hasRole triple.roleID = true

instance (pf : PolicyFile) (triple : Api.RoleAssignment) : Decidable (Holds pf triple) :=
  inferInstanceAs (Decidable (_ ∧ _))

/-- The call takes the grant back: a successful `UnassignRole` of exactly that triple, or a
successful `DeleteRole` of the role. -/
def Releases (triple : Api.RoleAssignment) (e : FileEnforcer) (event : Event) : Prop :=
  match event.call with
  | .unassignRole other => other = triple ∧ Succeeds e event
  | .deleteRole id => id = triple.roleID ∧ Succeeds e event
  | _ => False

/-- A row of the triple that a reconciliation made. -/
def AutoGranted (pf : PolicyFile) (triple : Api.RoleAssignment) : Prop :=
  Exists fun row => row ∈ pf.assignments ∧ row.toRoleAssignment = triple ∧ row.source = "oidc"

/-- A row of the triple that an operator made, and its role. -/
def GrantedByHand (pf : PolicyFile) (triple : Api.RoleAssignment) : Prop :=
  (Exists fun row => row ∈ pf.assignments ∧ row.toRoleAssignment = triple ∧ row.source ≠ "oidc") ∧
    pf.hasRole triple.roleID = true

theorem GrantedByHand.holds {pf : PolicyFile} {triple : Api.RoleAssignment}
    (granted : GrantedByHand pf triple) : Holds pf triple := by
  rcases granted with ⟨⟨row, member, rfl, _⟩, known⟩
  exact ⟨List.mem_map_of_mem member, known⟩

/-! ## A grant by hand stays -/

theorem hasRole_withoutRole {pf : PolicyFile} {id other : String} (known : pf.hasRole other = true)
    (different : other ≠ id) : (pf.withoutRole id).hasRole other = true := by
  rcases PolicyFile.hasRole_iff.mp known with ⟨r, member, own⟩
  exact PolicyFile.hasRole_iff.mpr ⟨r, mem_eraseRole member (own ▸ different), own⟩

/-- No effect but the two releasing ones takes a grant by hand. -/
theorem GrantedByHand.effect {pf after : PolicyFile} {triple : Api.RoleAssignment} {call : Call}
    {result : Except String Unit} (granted : GrantedByHand pf triple)
    (effect : Effect pf call after result)
    (stays : call = .unassignRole triple ∨ call = .deleteRole triple.roleID -> result ≠ .ok ()) :
    GrantedByHand after triple := by
  rcases granted with ⟨⟨row, member, own, manual⟩, known⟩
  cases effect with
  | refused call err => exact ⟨⟨row, member, own, manual⟩, known⟩
  | idle call => exact ⟨⟨row, member, own, manual⟩, known⟩
  | upserted r result => exact ⟨⟨row, member, own, manual⟩, hasRole_upsertIn known⟩
  | deleted id role first plain =>
      have other : triple.roleID ≠ id := by
        rintro rfl
        exact stays (Or.inr rfl) rfl
      refine ⟨⟨row, List.mem_filter.mpr ⟨member, decide_eq_true ?_⟩, own, manual⟩,
        hasRole_withoutRole known other⟩
      rw [← own] at other
      exact other
  | assigned a result known' fresh =>
      exact ⟨⟨row, List.mem_append_left _ member, own, manual⟩, known⟩
  | unassigned released =>
      have other : row.toRoleAssignment ≠ released := by
        rintro rfl
        exact stays (Or.inl (congrArg Call.unassignRole own)) rfl
      exact ⟨⟨row, List.mem_filter.mpr ⟨member, decide_eq_true other⟩, own, manual⟩, known⟩
  | synced userID wanted order =>
      exact ⟨⟨row, List.mem_append_left _ (walk_keeps member (Or.inr manual) _), own, manual⟩,
        known⟩
  | seeded username result after closed =>
      refine closed (fun pf => GrantedByHand pf triple) ⟨⟨row, member, own, manual⟩, known⟩ ?_
      rintro middle a ⟨⟨row, member, own, manual⟩, known⟩ _ _
      exact ⟨⟨row, List.mem_append_left _ member, own, manual⟩, known⟩

theorem GrantedByHand.step {e : FileEnforcer} {event : Event} {triple : Api.RoleAssignment}
    (granted : GrantedByHand e.toPolicyFile triple) (stays : ¬ Releases triple e event) :
    GrantedByHand (e.perform event).1.toPolicyFile triple := by
  refine granted.effect (perform_effect e event) ?_
  rcases event with ⟨call, written⟩
  rintro (rfl | rfl) succeeds
  · exact stays ⟨rfl, succeeds⟩
  · exact stays ⟨rfl, succeeds⟩

theorem normalised_manual {a : RoleAssignment} (manual : a.source ≠ "oidc") :
    a.normalised.source ≠ "oidc" := by
  change (if a.source = "" then "manual" else a.source) ≠ "oidc"
  split
  · decide
  · exact manual

/-- What a successful `AssignRole` found and what it left. -/
theorem assignRole_ok {e : FileEnforcer} {a : RoleAssignment} {written : Except String Unit}
    (granted : (e.assignRole a written).2 = .ok ()) :
    a.userID ≠ "" ∧ e.hasRole a.roleID = true ∧
      (a.toRoleAssignment ∈ e.triples ∧ (e.assignRole a written).1 = e ∨
        a.toRoleAssignment ∉ e.triples ∧
          (e.assignRole a written).1.toPolicyFile = e.withRow a) := by
  unfold FileEnforcer.assignRole at granted ⊢
  split at granted
  · cases granted
  · rename_i present
    split at granted
    · cases granted
    · rename_i known
      refine ⟨fun empty => present (Or.inl empty), not_not.mp known, ?_⟩
      rw [if_neg present, if_neg known]
      by_cases old : a.toRoleAssignment ∈ e.triples
      · rw [if_pos old]
        exact Or.inl ⟨old, rfl⟩
      · rw [if_neg old]
        exact Or.inr ⟨old, FileEnforcer.saveLocked_memory _ _⟩

/-- Without a row from a group mapping, a successful `AssignRole` leaves a grant by hand. -/
theorem grantedByHand_of_assignRole {e : FileEnforcer} {a : RoleAssignment}
    {written : Except String Unit} (manual : a.source ≠ "oidc")
    (granted : (e.assignRole a written).2 = .ok ())
    (none : ¬ AutoGranted e.toPolicyFile a.toRoleAssignment) :
    GrantedByHand (e.assignRole a written).1.toPolicyFile a.toRoleAssignment := by
  rcases assignRole_ok granted with ⟨_, known, ⟨old, same⟩ | ⟨_, appended⟩⟩
  · rw [same]
    rcases List.mem_map.mp old with ⟨row, member, own⟩
    exact ⟨⟨row, member, own, fun oidc => none ⟨row, member, own, oidc⟩⟩, known⟩
  · rw [appended]
    exact ⟨⟨a.normalised, List.mem_append_right _ List.mem_cons_self, rfl,
      normalised_manual manual⟩, known⟩

/-! ## A grant by a group does not -/

/-- If nothing is wanted, the rows of the user that a reconciliation made are revoked. -/
theorem walk_kept_unwanted {userID : String} {rows : List RoleAssignment} {a : RoleAssignment}
    (member : a ∈ (walk userID rows []).kept) :
    a ∈ rows ∧ (a.userID ≠ userID ∨ a.source ≠ "oidc") := by
  induction rows with
  | nil => cases member
  | cons first rest ih =>
      have nothing : wantedBehind userID first [] = [] := by
        unfold wantedBehind
        split <;> rfl
      rw [walk_cons, nothing, List.mem_append, Option.mem_toList] at member
      rcases member with here | later
      · unfold outcome at here
        split at here
        · cases here
        · rename_i untouched
          cases here
          exact ⟨List.mem_cons_self, not_and_or.mp untouched⟩
      · exact ⟨List.mem_cons_of_mem _ (ih later).1, (ih later).2⟩

/-- An OIDC login whose groups are worth the wanted rows. -/
def oidcLogin (userID : String) (wanted : List RoleAssignment) : Event :=
  ⟨.syncOIDCAssignments userID wanted ⟨fun rows => rows, fun _ => List.Perm.refl _⟩,
    fun _ => .ok ()⟩

theorem emptyLogin_assignments {e : FileEnforcer} {userID : String} (user : userID ≠ "") :
    (e.perform (oidcLogin userID [])).1.assignments = (walk userID e.assignments []).kept := by
  have left : (walk userID e.assignments []).wantedSet = [] :=
    List.sublist_nil.mp (walk_wantedSet_sublist _ _ _)
  have kept : (walk userID e.assignments []).kept ++ (walk userID e.assignments []).wantedSet =
      (walk userID e.assignments []).kept := by
    rw [left, List.append_nil]
  change (e.syncOIDCAssignments userID [] _ (.ok ())).1.assignments = _
  unfold FileEnforcer.syncOIDCAssignments
  rw [if_neg user]
  dsimp only
  split
  · exact kept
  · exact kept

theorem emptyLogin_revokes {e : FileEnforcer} {triple : Api.RoleAssignment}
    (distinct : e.triples.Nodup) (user : triple.userID ≠ "")
    (auto : AutoGranted e.toPolicyFile triple) :
    ¬ Holds (e.perform (oidcLogin triple.userID [])).1.toPolicyFile triple := by
  rintro ⟨listed, _⟩
  rcases List.mem_map.mp listed with ⟨a, member, own⟩
  rw [emptyLogin_assignments user] at member
  rcases walk_kept_unwanted member with ⟨old, untouched⟩
  rcases auto with ⟨row, rowMember, rowOwn, oidc⟩
  have same : a = row := List.inj_on_of_nodup_map distinct old rowMember (own.trans rowOwn.symm)
  rcases untouched with other | manual
  · exact other (congrArg Api.RoleAssignment.userID own)
  · exact manual (same ▸ oidc)

theorem nodup_effect {pf after : PolicyFile} {call : Call} {result : Except String Unit}
    (distinct : pf.triples.Nodup) (effect : Effect pf call after result) :
    after.triples.Nodup := by
  cases effect with
  | refused call err => exact distinct
  | idle call => exact distinct
  | upserted r result => exact distinct
  | deleted id role first plain => exact distinct.sublist (List.filter_sublist.map _)
  | assigned a result known fresh => exact withRow_nodup distinct fresh
  | unassigned triple => exact distinct.sublist (List.filter_sublist.map _)
  | synced userID wanted order => exact synced_nodup distinct userID wanted order
  | seeded username result after closed =>
      exact closed (fun pf => pf.triples.Nodup) distinct fun middle a held _ fresh =>
        withRow_nodup held fresh

/-- No call makes a duplicate triple. -/
theorem nodup_run {start final : FileEnforcer} {events : List Event} (distinct : start.triples.Nodup)
    (run : exec step start events = some final) : final.triples.Nodup := by
  refine @exec_invariant _ _ step (fun e => e.triples.Nodup) ?_ events start final distinct run
  intro e event next held taken
  cases Option.some.inj taken
  exact nodup_effect held (perform_effect e event)

/-- A grant by hand survives every later sequence of calls that does not take it back exactly if
no reconciliation had made a row of the same triple when the grant was made. -/
theorem manual_grant_survives_iff {start before : FileEnforcer} {earlier : List Event}
    {a : RoleAssignment} {written : Except String Unit} (distinct : start.triples.Nodup)
    (run : exec step start earlier = some before) (manual : a.source ≠ "oidc")
    (granted : (before.assignRole a written).2 = .ok ()) :
    (forall later final,
      Meets step (fun e event => ¬ Releases a.toRoleAssignment e event)
        (before.assignRole a written).1 later ->
      exec step (before.assignRole a written).1 later = some final ->
        Holds final.toPolicyFile a.toRoleAssignment) ↔
      ¬ AutoGranted before.toPolicyFile a.toRoleAssignment := by
  constructor
  · intro survives auto
    rcases assignRole_ok granted with ⟨user, _, ⟨_, same⟩ | ⟨fresh, _⟩⟩
    · rw [same] at survives
      refine emptyLogin_revokes (nodup_run distinct run) user auto ?_
      exact survives [oidcLogin a.userID []] _ ⟨fun released => released, fun _ _ => trivial⟩ rfl
    · rcases auto with ⟨row, member, own, _⟩
      exact fresh (own ▸ List.mem_map_of_mem member)
  · intro none later final meets run
    have kept : GrantedByHand final.toPolicyFile a.toRoleAssignment := by
      refine @exec_invariant_of_meets _ _ step _
        (fun e => GrantedByHand e.toPolicyFile a.toRoleAssignment) ?_ later _ final
        (grantedByHand_of_assignRole manual granted none) meets run
      intro e event next held stays taken
      cases Option.some.inj taken
      exact held.step stays
    exact kept.holds

/-- The store after the first boot of a deployment without an admin. -/
def firstStore : FileEnforcer := ⟨seedDefaults, some seedDefaults⟩

def clusterGrant (userID source : String) : RoleAssignment :=
  { userID := userID, roleID := "cluster_admin", scope := "cluster:*", source := source,
    autoAssigned := false }

theorem manual_grant_survives_iff_alice :
    (forall later final,
      Meets step (fun e event => ¬ Releases (clusterGrant "alice" "").toRoleAssignment e event)
        (firstStore.assignRole (clusterGrant "alice" "") (.ok ())).1 later ->
      exec step (firstStore.assignRole (clusterGrant "alice" "") (.ok ())).1 later = some final ->
        Holds final.toPolicyFile (clusterGrant "alice" "").toRoleAssignment) ↔
      ¬ AutoGranted firstStore.toPolicyFile (clusterGrant "alice" "").toRoleAssignment :=
  @manual_grant_survives_iff firstStore firstStore [] (clusterGrant "alice" "") (.ok ())
    List.nodup_nil rfl (by decide) (by decide +kernel)

/-- The group gave alice the role first.  The operator grants it by hand, she leaves the group, and
her next login revokes the role. -/
theorem manual_grant_revoked :
    ¬ forall (start before : FileEnforcer) (earlier : List Event) (a : RoleAssignment)
        (written : Except String Unit), start.triples.Nodup ->
      exec step start earlier = some before -> a.source ≠ "oidc" ->
      (before.assignRole a written).2 = .ok () ->
      forall later final, Meets step (fun e event => ¬ Releases a.toRoleAssignment e event)
          (before.assignRole a written).1 later ->
        exec step (before.assignRole a written).1 later = some final ->
          Holds final.toPolicyFile a.toRoleAssignment := by
  intro survives
  have stays := survives firstStore _ [oidcLogin "alice" [clusterGrant "alice" ""]]
    (clusterGrant "alice" "manual") (.ok ()) List.nodup_nil rfl (by decide) (by decide +kernel)
    [oidcLogin "alice" []] _ ⟨fun released => released, fun _ _ => trivial⟩ rfl
  exact absurd stays (by decide +kernel)

end Policies
end Basement
