import Basement.Policies.ManualGrants

namespace Basement
namespace Policies

/-!
# What a reconciliation comes to

The walk of `SyncOIDCAssignments` consumes the set of wanted keys while it goes through the rows.
As no triple occurs twice, what it takes out for one row is not missed at another, and every row
can be looked at by itself.  The rows that the groups made are afterwards the wanted ones, less
those that an operator made.
-/

/-! ## The walk, row by row -/

theorem triple_ext {first second : Api.RoleAssignment} (user : first.userID = second.userID)
    (role : first.roleID = second.roleID) (scope : first.scope = second.scope) :
    first = second := by
  cases first
  cases second
  exact Api.RoleAssignment.mk.injEq _ _ _ _ _ _ ▸ ⟨user, role, scope⟩

/-- What is taken out for one row is not missed at a row with another triple. -/
theorem outcome_deleteKey {userID : String} {a other : RoleAssignment}
    (own : a.userID = userID) (distinct : a.toRoleAssignment ≠ other.toRoleAssignment)
    (wantedSet : List RoleAssignment) :
    outcome userID (deleteKey wantedSet a) other = outcome userID wantedSet other := by
  unfold outcome
  by_cases fromGroups : FromGroups userID other
  · have same : (deleteKey wantedSet a).any (fun w => other.SameKey w) =
        wantedSet.any fun w => other.SameKey w := by
      rw [Bool.eq_iff_iff, List.any_eq_true, List.any_eq_true]
      refine exists_congr fun w => and_congr_left fun key => ?_
      rw [mem_deleteKey]
      refine and_iff_left fun clash => distinct ?_
      have otherKey : other.SameKey w := of_decide_eq_true key
      exact triple_ext (own.trans fromGroups.1.symm)
        (clash.1.symm.trans otherKey.1) (clash.2.symm.trans otherKey.2)
    rw [if_pos fromGroups, if_pos fromGroups, same]
  · rw [if_neg fromGroups, if_neg fromGroups]

/-- Without duplicate triples every row comes out of the walk as it does alone. -/
theorem walk_rows_eq (userID : String) {rows : List RoleAssignment}
    (distinct : (rows.map RoleAssignment.toRoleAssignment).Nodup) : forall wantedSet,
    (walk userID rows wantedSet).kept = rows.filterMap (outcome userID wantedSet) ∧
      (walk userID rows wantedSet).revoked =
        rows.filter fun a => outcome userID wantedSet a = none := by
  induction rows with
  | nil => exact fun _ => ⟨rfl, rfl⟩
  | cons a rest ih =>
      intro wantedSet
      have parts := List.nodup_cons.mp distinct
      have behind : forall other, other ∈ rest ->
          outcome userID (wantedBehind userID a wantedSet) other =
            outcome userID wantedSet other := by
        intro other member
        unfold wantedBehind
        split
        · rename_i own
          refine outcome_deleteKey own (fun same => parts.1 ?_) wantedSet
          exact same ▸ List.mem_map_of_mem member
        · rfl
      rcases ih parts.2 (wantedBehind userID a wantedSet) with ⟨kept, revoked⟩
      rw [walk_cons, kept, revoked, List.filterMap_congr behind]
      have same : (rest.filter fun other =>
          decide (outcome userID (wantedBehind userID a wantedSet) other = none)) =
            rest.filter fun other => decide (outcome userID wantedSet other = none) :=
        List.filter_congr fun other member => by rw [behind other member]
      rw [same]
      constructor
      · cases result : outcome userID wantedSet a with
        | none => rw [List.filterMap_cons_none result]; rfl
        | some row => rw [List.filterMap_cons_some result]; rfl
      · by_cases gone : outcome userID wantedSet a = none
        · simp [gone]
        · simp [gone]

/-! ## Rows and triples -/

/-- A row of the triple that an operator made. -/
def HeldByHand (pf : PolicyFile) (triple : Api.RoleAssignment) : Prop :=
  Exists fun row => row ∈ pf.assignments ∧ row.toRoleAssignment = triple ∧ row.source ≠ "oidc"

/-- Some wanted entry stands for the triple, and the role exists. -/
def WantedTriple (pf : PolicyFile) (userID : String) (wanted : List RoleAssignment)
    (triple : Api.RoleAssignment) : Prop :=
  triple.userID = userID ∧ triple.roleID ≠ "" ∧ triple.scope ≠ "" ∧
    pf.hasRole triple.roleID = true ∧
      Exists fun w => w ∈ wanted ∧ w.roleID = triple.roleID ∧ w.scope = triple.scope

/-- The row a reconciliation makes for a triple. -/
def groupRow (triple : Api.RoleAssignment) : RoleAssignment := ⟨triple, "oidc", true⟩

theorem mem_wantedSet_iff {pf : PolicyFile} {userID : String} {wanted : List RoleAssignment}
    {w : RoleAssignment} :
    w ∈ pf.wantedSet userID wanted ↔
      WantedTriple pf userID wanted w.toRoleAssignment ∧ w = groupRow w.toRoleAssignment := by
  unfold PolicyFile.wantedSet
  rw [List.mem_dedup, List.mem_map]
  constructor
  · rintro ⟨source, chosen, rfl⟩
    rw [List.mem_filter, decide_eq_true_iff] at chosen
    rcases chosen with ⟨listed, role, scope, known⟩
    exact ⟨⟨rfl, role, scope, known, source, listed, rfl, rfl⟩, rfl⟩
  · rintro ⟨⟨own, role, scope, known, source, listed, sameRole, sameScope⟩, made⟩
    refine ⟨source, ?_, ?_⟩
    · rw [List.mem_filter, decide_eq_true_iff, sameRole, sameScope]
      exact ⟨listed, role, scope, known⟩
    · rw [made, sameRole, sameScope, ← own]
      rfl

theorem outcome_fromGroups {pf : PolicyFile} {userID : String} {wanted : List RoleAssignment}
    {a : RoleAssignment} (fromGroups : FromGroups userID a)
    (asked : WantedTriple pf userID wanted a.toRoleAssignment) :
    outcome userID (pf.wantedSet userID wanted) a = some (groupRow a.toRoleAssignment) := by
  unfold outcome
  rw [if_pos fromGroups, if_pos]
  · rfl
  · refine List.any_eq_true.mpr ⟨groupRow a.toRoleAssignment, ?_, decide_eq_true ⟨rfl, rfl⟩⟩
    exact mem_wantedSet_iff.mpr ⟨asked, rfl⟩

theorem outcome_revoked {pf : PolicyFile} {userID : String} {wanted : List RoleAssignment}
    {a : RoleAssignment} (fromGroups : FromGroups userID a)
    (unasked : ¬ WantedTriple pf userID wanted a.toRoleAssignment) :
    outcome userID (pf.wantedSet userID wanted) a = none := by
  unfold outcome
  rw [if_pos fromGroups, if_neg]
  intro listed
  rcases List.any_eq_true.mp listed with ⟨w, member, key⟩
  have asked := (mem_wantedSet_iff.mp member).1
  have sameKey : a.SameKey w := of_decide_eq_true key
  refine unasked ?_
  rw [triple_ext (fromGroups.1.trans asked.1.symm) sameKey.1.symm sameKey.2.symm]
  exact asked

/-- Who has a row with the key of a wanted row has a row with its triple. -/
theorem covered_iff {pf : PolicyFile} {userID : String} {triple : Api.RoleAssignment}
    (own : triple.userID = userID) :
    Covered userID pf.assignments (groupRow triple) ↔
      AutoGranted pf triple ∨ HeldByHand pf triple := by
  constructor
  · rintro ⟨a, member, user, key⟩
    have same : a.toRoleAssignment = triple :=
      triple_ext (user.trans own.symm) key.1.symm key.2.symm
    by_cases oidc : a.source = "oidc"
    · exact Or.inl ⟨a, member, same, oidc⟩
    · exact Or.inr ⟨a, member, same, oidc⟩
  · rintro (⟨a, member, same, _⟩ | ⟨a, member, same, _⟩)
    · exact ⟨a, member, (congrArg Api.RoleAssignment.userID same).trans own,
        congrArg Api.RoleAssignment.roleID same.symm, congrArg Api.RoleAssignment.scope same.symm⟩
    · exact ⟨a, member, (congrArg Api.RoleAssignment.userID same).trans own,
        congrArg Api.RoleAssignment.roleID same.symm, congrArg Api.RoleAssignment.scope same.symm⟩

/-- Without duplicate triples a row is made by hand or by the groups, not both. -/
theorem AutoGranted.not_byHand {pf : PolicyFile} {triple : Api.RoleAssignment}
    (distinct : pf.triples.Nodup) (auto : AutoGranted pf triple) : ¬ HeldByHand pf triple := by
  rintro ⟨row, member, own, manual⟩
  rcases auto with ⟨other, otherMember, otherOwn, oidc⟩
  have same : row = other :=
    List.inj_on_of_nodup_map distinct member otherMember (own.trans otherOwn.symm)
  exact manual (same ▸ oidc)

/-! ## After the reconciliation -/

section Synced

variable {pf : PolicyFile} {userID : String} {wanted : List RoleAssignment} {order : MapOrder}

/-- A row is there afterwards if it is what became of an old row, or if it is a wanted row that
the user had no row for. -/
theorem mem_synced (distinct : pf.triples.Nodup) {row : RoleAssignment} :
    row ∈ (pf.synced userID wanted order).assignments ↔
      (Exists fun a => a ∈ pf.assignments ∧
        outcome userID (pf.wantedSet userID wanted) a = some row) ∨
      row ∈ pf.wantedSet userID wanted ∧ ¬ Covered userID pf.assignments row := by
  unfold PolicyFile.synced
  simp only
  rw [List.mem_append, (walk_rows_eq userID distinct _).1, List.mem_filterMap,
    (order.perm _).mem_iff, walk_wantedSet_eq, List.mem_filter, decide_eq_true_iff]

/-- The triples that the groups gave the user are the wanted ones, less those by hand. -/
theorem autoGranted_synced (distinct : pf.triples.Nodup) {triple : Api.RoleAssignment}
    (own : triple.userID = userID) :
    AutoGranted (pf.synced userID wanted order) triple ↔
      WantedTriple pf userID wanted triple ∧ ¬ HeldByHand pf triple := by
  constructor
  · rintro ⟨row, member, rfl, oidc⟩
    rcases (mem_synced distinct).mp member with ⟨a, old, became⟩ | ⟨asked, uncovered⟩
    · by_cases fromGroups : FromGroups userID a
      · by_cases asked : WantedTriple pf userID wanted a.toRoleAssignment
        · rw [outcome_fromGroups fromGroups asked] at became
          cases became
          exact ⟨asked, AutoGranted.not_byHand distinct ⟨a, old, rfl, fromGroups.2⟩⟩
        · rw [outcome_revoked fromGroups asked] at became
          cases became
      · rw [outcome_other fromGroups] at became
        cases became
        exact absurd ⟨own, oidc⟩ fromGroups
    · rcases mem_wantedSet_iff.mp asked with ⟨asked, made⟩
      rw [made, covered_iff own] at uncovered
      exact ⟨asked, fun byHand => uncovered (Or.inr byHand)⟩
  · rintro ⟨asked, free⟩
    refine ⟨groupRow triple, (mem_synced distinct).mpr ?_, rfl, rfl⟩
    by_cases auto : AutoGranted pf triple
    · rcases auto with ⟨a, old, rfl, oidc⟩
      exact Or.inl ⟨a, old, outcome_fromGroups ⟨own, oidc⟩ asked⟩
    · refine Or.inr ⟨mem_wantedSet_iff.mpr ⟨asked, rfl⟩, ?_⟩
      rw [covered_iff own]
      rintro (here | byHand)
      · exact auto here
      · exact free byHand

/-- The other rows stay, in their order. -/
theorem synced_others (distinct : pf.triples.Nodup) :
    ((pf.synced userID wanted order).assignments.filter fun a => ¬ FromGroups userID a) =
      pf.assignments.filter fun a => ¬ FromGroups userID a := by
  unfold PolicyFile.synced
  simp only
  have added : (order.arrange (walk userID pf.assignments
      (pf.wantedSet userID wanted)).wantedSet).filter (fun a => decide (¬ FromGroups userID a)) =
        [] := by
    refine List.filter_eq_nil_iff.mpr fun w member => ?_
    rw [(order.perm _).mem_iff] at member
    rcases mem_wantedSet_iff.mp ((walk_wantedSet_sublist _ _ _).subset member) with ⟨asked, made⟩
    rw [decide_eq_true_iff, not_not, made]
    exact ⟨asked.1, rfl⟩
  rw [List.filter_append, added, List.append_nil, (walk_rows_eq userID distinct _).1,
    List.filter_filterMap, ← List.filterMap_eq_filter]
  refine List.filterMap_congr fun a _ => ?_
  by_cases fromGroups : FromGroups userID a
  · by_cases asked : WantedTriple pf userID wanted a.toRoleAssignment
    · have made : FromGroups userID (groupRow a.toRoleAssignment) := ⟨fromGroups.1, rfl⟩
      rw [outcome_fromGroups fromGroups asked]
      simp [Option.filter, Option.guard, made, fromGroups]
    · rw [outcome_revoked fromGroups asked]
      simp [Option.guard, fromGroups]
  · rw [outcome_other fromGroups]
    simp [Option.filter, Option.guard, fromGroups]

/-- The reconciliation reports as added what the groups had not given the user before. -/
theorem mem_added (distinct : pf.triples.Nodup) {triple : Api.RoleAssignment} :
    triple ∈ (order.arrange (walk userID pf.assignments
        (pf.wantedSet userID wanted)).wantedSet).map RoleAssignment.toRoleAssignment ↔
      triple.userID = userID ∧ AutoGranted (pf.synced userID wanted order) triple ∧
        ¬ AutoGranted pf triple := by
  rw [((order.perm _).map _).mem_iff, walk_wantedSet_eq, List.mem_map]
  constructor
  · rintro ⟨w, member, rfl⟩
    rw [List.mem_filter, decide_eq_true_iff] at member
    rcases mem_wantedSet_iff.mp member.1 with ⟨asked, made⟩
    have uncovered := member.2
    rw [made, covered_iff asked.1] at uncovered
    exact ⟨asked.1, (autoGranted_synced distinct asked.1).mpr
      ⟨asked, fun byHand => uncovered (Or.inr byHand)⟩, fun auto => uncovered (Or.inl auto)⟩
  · rintro ⟨own, after, fresh⟩
    rcases (autoGranted_synced distinct own).mp after with ⟨asked, free⟩
    refine ⟨groupRow triple, ?_, rfl⟩
    rw [List.mem_filter, decide_eq_true_iff, covered_iff own]
    refine ⟨mem_wantedSet_iff.mpr ⟨asked, rfl⟩, ?_⟩
    rintro (auto | byHand)
    · exact fresh auto
    · exact free byHand

/-- It reports as revoked what the groups gave the user no longer. -/
theorem mem_revoked (distinct : pf.triples.Nodup) {triple : Api.RoleAssignment} :
    triple ∈ (walk userID pf.assignments (pf.wantedSet userID wanted)).revoked.map
        RoleAssignment.toRoleAssignment ↔
      triple.userID = userID ∧ AutoGranted pf triple ∧
        ¬ AutoGranted (pf.synced userID wanted order) triple := by
  rw [(walk_rows_eq userID distinct _).2, List.mem_map]
  constructor
  · rintro ⟨a, member, rfl⟩
    rw [List.mem_filter, decide_eq_true_iff] at member
    by_cases fromGroups : FromGroups userID a
    · by_cases asked : WantedTriple pf userID wanted a.toRoleAssignment
      · rw [outcome_fromGroups fromGroups asked] at member
        cases member.2
      · refine ⟨fromGroups.1, ⟨a, member.1, rfl, fromGroups.2⟩, ?_⟩
        rw [autoGranted_synced distinct fromGroups.1]
        exact fun both => asked both.1
    · rw [outcome_other fromGroups] at member
      cases member.2
  · rintro ⟨own, ⟨a, member, rfl, oidc⟩, gone⟩
    refine ⟨a, List.mem_filter.mpr ⟨member, decide_eq_true ?_⟩, rfl⟩
    refine outcome_revoked ⟨own, oidc⟩ fun asked => gone ?_
    rw [autoGranted_synced distinct own]
    exact ⟨asked, AutoGranted.not_byHand distinct ⟨a, member, rfl, oidc⟩⟩

/-! ## Again -/

/-- Every row that is there afterwards comes out of a second walk as it is. -/
theorem outcome_synced (distinct : pf.triples.Nodup) {row : RoleAssignment}
    (member : row ∈ (pf.synced userID wanted order).assignments) :
    outcome userID (pf.wantedSet userID wanted) row = some row := by
  rcases (mem_synced distinct).mp member with ⟨a, _, became⟩ | ⟨asked, _⟩
  · by_cases fromGroups : FromGroups userID a
    · by_cases asked : WantedTriple pf userID wanted a.toRoleAssignment
      · rw [outcome_fromGroups fromGroups asked] at became
        cases became
        exact @outcome_fromGroups pf userID wanted (groupRow a.toRoleAssignment)
          ⟨fromGroups.1, rfl⟩ asked
      · rw [outcome_revoked fromGroups asked] at became
        cases became
    · rw [outcome_other fromGroups] at became
      cases became
      exact outcome_other fromGroups _
  · rcases mem_wantedSet_iff.mp asked with ⟨asked, made⟩
    have fromGroups : FromGroups userID row := by
      rw [made]
      exact ⟨asked.1, rfl⟩
    rw [outcome_fromGroups fromGroups asked, ← made]

/-- The user has a row for every wanted key. -/
theorem covered_synced (distinct : pf.triples.Nodup) {w : RoleAssignment}
    (asked : w ∈ pf.wantedSet userID wanted) :
    Covered userID (pf.synced userID wanted order).assignments w := by
  by_cases old : Covered userID pf.assignments w
  · rcases old with ⟨a, member, own, key⟩
    by_cases fromGroups : FromGroups userID a
    · have wantedRow : WantedTriple pf userID wanted a.toRoleAssignment := by
        have same : a.toRoleAssignment = w.toRoleAssignment :=
          triple_ext (own.trans (mem_wantedSet_iff.mp asked).1.1.symm) key.1.symm key.2.symm
        rw [same]
        exact (mem_wantedSet_iff.mp asked).1
      exact ⟨groupRow a.toRoleAssignment, (mem_synced distinct).mpr
        (Or.inl ⟨a, member, outcome_fromGroups fromGroups wantedRow⟩), own, key⟩
    · exact ⟨a, (mem_synced distinct).mpr (Or.inl ⟨a, member, outcome_other fromGroups _⟩), own,
        key⟩
  · exact ⟨w, (mem_synced distinct).mpr (Or.inr ⟨asked, old⟩),
      (mem_wantedSet_iff.mp asked).1.1, rfl, rfl⟩

theorem walk_synced (distinct : pf.triples.Nodup) :
    walk userID (pf.synced userID wanted order).assignments
        ((pf.synced userID wanted order).wantedSet userID wanted) =
      ⟨(pf.synced userID wanted order).assignments, [], []⟩ := by
  have rows := walk_rows_eq userID (synced_nodup distinct userID wanted order)
    (pf.wantedSet userID wanted)
  have left := walk_wantedSet_eq userID (pf.synced userID wanted order).assignments
    (pf.wantedSet userID wanted)
  have kept := List.filterMap_congr fun row member => @outcome_synced pf userID wanted order
    distinct row member
  rw [List.filterMap_some] at kept
  have revoked : ((pf.synced userID wanted order).assignments.filter fun a =>
      outcome userID (pf.wantedSet userID wanted) a = none) = [] := by
    refine List.filter_eq_nil_iff.mpr fun row member gone => ?_
    rw [decide_eq_true_iff, outcome_synced distinct member] at gone
    cases gone
  have none : ((pf.wantedSet userID wanted).filter fun w =>
      ¬ Covered userID (pf.synced userID wanted order).assignments w) = [] := by
    refine List.filter_eq_nil_iff.mpr fun w member uncovered => ?_
    rw [decide_eq_true_iff] at uncovered
    exact uncovered (covered_synced distinct member)
  change walk userID _ (pf.wantedSet userID wanted) = _
  cases again : walk userID (pf.synced userID wanted order).assignments
      (pf.wantedSet userID wanted) with
  | mk keptRows revokedRows wantedLeft =>
      rw [again] at rows left
      simp only at rows left
      rw [rows.1, rows.2, left, kept, revoked, none]

end Synced

/-! ## What the call leaves and reports -/

/-- What a reconciliation that succeeds has done to the rows, and what it reports. -/
structure Reconciled (before after : PolicyFile) (userID : String) (wanted : List RoleAssignment)
    (added revoked : List RoleAssignment) : Prop where
  granted : forall triple, triple.userID = userID ->
    (AutoGranted after triple ↔ WantedTriple before userID wanted triple ∧ ¬ HeldByHand before triple)
  others : (after.assignments.filter fun a => ¬ FromGroups userID a) =
    before.assignments.filter fun a => ¬ FromGroups userID a
  roles : after.roles = before.roles
  distinct : after.triples.Nodup
  newlyGranted : forall triple, triple ∈ added.map RoleAssignment.toRoleAssignment ↔
    triple.userID = userID ∧ AutoGranted after triple ∧ ¬ AutoGranted before triple
  addedOnce : (added.map RoleAssignment.toRoleAssignment).Nodup
  noLonger : forall triple, triple ∈ revoked.map RoleAssignment.toRoleAssignment ↔
    triple.userID = userID ∧ AutoGranted before triple ∧ ¬ AutoGranted after triple
  revokedOnce : (revoked.map RoleAssignment.toRoleAssignment).Nodup

theorem reconciled_synced {pf : PolicyFile} (distinct : pf.triples.Nodup) (userID : String)
    (wanted : List RoleAssignment) (order : MapOrder) :
    Reconciled pf (pf.synced userID wanted order) userID wanted
      (order.arrange (walk userID pf.assignments (pf.wantedSet userID wanted)).wantedSet)
      (walk userID pf.assignments (pf.wantedSet userID wanted)).revoked where
  granted _ own := autoGranted_synced distinct own
  others := synced_others distinct
  roles := rfl
  distinct := synced_nodup distinct userID wanted order
  newlyGranted _ := mem_added distinct
  addedOnce := by
    have after := synced_nodup distinct userID wanted order
    unfold PolicyFile.triples PolicyFile.synced at after
    rw [List.map_append] at after
    exact (List.nodup_append'.mp after).2.1
  noLonger _ := mem_revoked distinct
  revokedOnce := by
    rw [(walk_rows_eq userID distinct _).2]
    exact distinct.sublist (List.filter_sublist.map _)

/-- What a call that succeeds leaves in memory and reports. -/
theorem syncOIDCAssignments_ok {e after : FileEnforcer} {userID : String}
    {wanted added revoked : List RoleAssignment} {order : MapOrder} {written : Except String Unit}
    (done : e.syncOIDCAssignments userID wanted order written = (after, .ok (added, revoked))) :
    userID ≠ "" ∧ after.toPolicyFile = e.synced userID wanted order ∧
      added = order.arrange (walk userID e.assignments (e.wantedSet userID wanted)).wantedSet ∧
      revoked = (walk userID e.assignments (e.wantedSet userID wanted)).revoked := by
  unfold FileEnforcer.syncOIDCAssignments at done
  split at done
  · cases done
  · rename_i user
    refine ⟨user, ?_⟩
    dsimp only at done
    split at done
    · cases done
      exact ⟨rfl, rfl, rfl⟩
    · cases written with
      | ok _ =>
          cases done
          exact ⟨rfl, rfl, rfl⟩
      | error err => cases done

theorem syncOIDCAssignments_error {e after : FileEnforcer} {userID err : String}
    {wanted : List RoleAssignment} {order : MapOrder} {written : Except String Unit}
    (failed : e.syncOIDCAssignments userID wanted order written = (after, .error err)) :
    after = e := by
  unfold FileEnforcer.syncOIDCAssignments at failed
  split at failed
  · cases failed
    rfl
  · dsimp only at failed
    split at failed
    · cases failed
    · cases written with
      | ok _ => cases failed
      | error problem =>
          cases failed
          rfl

/-- A call for what is there already changes nothing. -/
theorem syncOIDCAssignments_idle {e : FileEnforcer} {userID : String}
    {wanted : List RoleAssignment} (user : userID ≠ "")
    (settled : walk userID e.assignments (e.wantedSet userID wanted) = ⟨e.assignments, [], []⟩)
    (order : MapOrder) (written : Except String Unit) :
    e.syncOIDCAssignments userID wanted order written = (e, .ok ([], [])) := by
  have nothing : order.arrange [] = [] := List.perm_nil.mp (order.perm [])
  unfold FileEnforcer.syncOIDCAssignments
  rw [if_neg user, settled]
  dsimp only
  rw [nothing, if_pos ⟨rfl, rfl⟩, List.append_nil]

/-- A reconciliation leaves of the groups' triples exactly the wanted ones with a role, less those
by hand, and everything else as it is.  It reports the difference, a second call finds none, and a
call that fails has changed nothing. -/
theorem reconciliation_exact {e : FileEnforcer} (distinct : e.triples.Nodup) (userID : String)
    (wanted : List RoleAssignment) (order : MapOrder) (written : Except String Unit) :
    (forall after added revoked,
      e.syncOIDCAssignments userID wanted order written = (after, .ok (added, revoked)) ->
        Reconciled e.toPolicyFile after.toPolicyFile userID wanted added revoked ∧
          forall again saved,
            after.syncOIDCAssignments userID wanted again saved = (after, .ok ([], []))) ∧
    (forall after err,
      e.syncOIDCAssignments userID wanted order written = (after, .error err) -> after = e) := by
  refine ⟨?_, fun after err => syncOIDCAssignments_error⟩
  intro after added revoked done
  rcases syncOIDCAssignments_ok done with ⟨user, memory, rfl, rfl⟩
  have settled := @walk_synced e.toPolicyFile userID wanted order distinct
  rw [← memory] at settled
  refine ⟨?_, syncOIDCAssignments_idle user settled⟩
  rw [memory]
  exact reconciled_synced distinct userID wanted order

/-- Alice has one role by hand and one from a group she has left, and she is now in two groups. -/
def groupChange : FileEnforcer where
  roles := seedRoles
  assignments := [clusterGrant "alice" "manual",
    { clusterGrant "alice" "oidc" with scope := "cluster:east" }, clusterGrant "bob" "oidc"]
  disk := none

def groupsNow : List RoleAssignment :=
  [clusterGrant "alice" "", { clusterGrant "alice" "" with scope := "cluster:west" },
    { clusterGrant "alice" "" with roleID := "gone" }, clusterGrant "alice" ""]

def rowOrder : MapOrder := ⟨fun rows => rows, fun _ => List.Perm.refl _⟩

theorem reconciliation_exact_alice :
    Reconciled groupChange.toPolicyFile
      (groupChange.syncOIDCAssignments "alice" groupsNow rowOrder (.ok ())).1.toPolicyFile "alice"
      groupsNow
      [groupRow ⟨"alice", "cluster_admin", "cluster:west"⟩]
      [{ clusterGrant "alice" "oidc" with scope := "cluster:east" }] :=
  ((@reconciliation_exact groupChange (by decide +kernel) "alice" groupsNow rowOrder (.ok ())).1
    _ _ _ (by decide +kernel)).1

end Policies
end Basement
