import Basement.Library.Transition

namespace Basement
namespace Drivers
namespace GarageLayout

open Library Library.Transition

/-!
# Staging a layout change on Garage

Two drivers encode one change of a node for two versions of the admin API of Garage.  A body is
modelled by the members that are written: the first version leaves out an empty zone, an empty
list of tags and a capacity that is nil, the second one always writes zone, tags and gateway.

The APIs are parameters.  What is used of them is `DocumentedV1` and `DocumentedV2`: a removal
stages a removal, an update replaces the role of the node by what the body says, and the first
version refuses an update without zone or tags and takes a node without capacity for a gateway.
A call stages effects on nodes, or is refused.  Both drivers return an empty diff, which is left out.

A change is realized when the node is removed if the role says so and only then, and when a field
that it does not set keeps its value.  `staged_alike_iff` says when the two drivers both do this.
-/

/-! ## Changes and bodies -/

structure LayoutChange where
  nodeID : String
  role : Option String := none
  zone : Option String := none
  capacity : Option Int := none
  tags : List String := []

/-- `nodeRoleChangeV1`. -/
structure NodeRoleChangeV1 where
  id : String
  zone : String := ""
  capacity : Option Int := none
  tags : List String := []
  remove : Bool := false

/-- The members of an entry that are written. -/
structure BodyV1 where
  id : String
  zone : Option String
  capacity : Option Int
  tags : Option (List String)
  remove : Option Bool

def NodeRoleChangeV1.body (entry : NodeRoleChangeV1) : BodyV1 where
  id := entry.id
  zone := if entry.zone = "" then none else some entry.zone
  capacity := entry.capacity
  tags := if entry.tags = [] then none else some entry.tags
  remove := if entry.remove then some true else none

/-- `layoutNodeRole`. -/
structure LayoutNodeRole where
  id : String
  zone : String
  tags : List String
  capacity : Option Int
  gateway : Option Bool

/-- `updateClusterLayoutRequest`.  A removal that is false is not written. -/
structure UpdateClusterLayoutRequest where
  nodeID : String
  newRole : Option LayoutNodeRole
  gateway : Option Bool
  remove : Bool

/-- The entry of the first driver. -/
def requestV1 (change : LayoutChange) : NodeRoleChangeV1 :=
  if change.zone = none ∧ change.capacity = none ∧ change.tags = [] ∧ change.role = none then
    { id := change.nodeID, remove := true }
  else
    { id := change.nodeID, zone := change.zone.getD "", capacity := change.capacity,
      tags := change.tags }

/-- The request of the second driver. -/
def requestV2 (change : LayoutChange) : UpdateClusterLayoutRequest :=
  if (change.role = some "gateway" ∨ change.role = some "storage") ∨ change.zone ≠ none ∨
      change.capacity ≠ none ∨ change.tags ≠ [] then
    { nodeID := change.nodeID
      newRole := some
        { id := change.nodeID
          zone := change.zone.getD ""
          tags := change.tags
          capacity := change.capacity
          gateway := some (decide (change.role = some "gateway")) }
      gateway := none
      remove := false }
  else
    { nodeID := change.nodeID, newRole := none, gateway := none
      remove := decide (change.role = some "remove") }

/-! ## What is staged -/

structure Role where
  zone : String
  capacity : Option Int
  tags : List String
  gateway : Bool

inductive Effect where
  | remove
  | assign (role : Role)

/-- The roles of the nodes, with what is staged. -/
abbrev Layout := String -> Option Role

def Layout.put (layout : Layout) (entry : String × Effect) : Layout := fun node =>
  if node = entry.1 then
    match entry.2 with
    | .remove => none
    | .assign role => some role
  else layout node

def Layout.stage (layout : Layout) (effects : List (String × Effect)) : Layout :=
  effects.foldl Layout.put layout

/-- `POST /v1/layout`. -/
abbrev ApiV1 := List BodyV1 -> Option (List (String × Effect))

/-- `POST /v2/UpdateClusterLayout`. -/
abbrev ApiV2 := UpdateClusterLayoutRequest -> Option (List (String × Effect))

structure DocumentedV1 (api : ApiV1) : Prop where
  removal : forall node, api [⟨node, none, none, none, some true⟩] = some [(node, .remove)]
  update : forall node zone capacity tags,
    api [⟨node, some zone, capacity, some tags, none⟩] =
      some [(node, .assign ⟨zone, capacity, tags, capacity.isNone⟩)]
  incomplete : forall body, body.remove = none -> body.zone = none ∨ body.tags = none ->
    api [body] = none

structure DocumentedV2 (api : ApiV2) : Prop where
  removal : forall node, api ⟨node, none, none, true⟩ = some [(node, .remove)]
  update : forall node role, api ⟨node, some role, none, false⟩ =
    some [(node, .assign ⟨role.zone, role.capacity, role.tags, role.gateway.getD false⟩)]

/-- `StageLayout` of the first driver. -/
def stageLayoutV1 (api : ApiV1) (change : LayoutChange) : Option (List (String × Effect)) :=
  api [(requestV1 change).body]

/-- `StageLayout` of the second driver. -/
def stageLayoutV2 (api : ApiV2) (change : LayoutChange) : Option (List (String × Effect)) :=
  api (requestV2 change)

/-! ## What a change means -/

/-- The role is the current one with the fields of the change. -/
structure Follows (change : LayoutChange) (current : Option Role) (role : Role) : Prop where
  zone : change.zone = some role.zone ∨
    change.zone = none ∧ forall old, current = some old -> role.zone = old.zone
  capacity : (Exists fun bytes => change.capacity = some bytes ∧ role.capacity = some bytes) ∨
    change.capacity = none ∧ forall old, current = some old -> role.capacity = old.capacity
  tags : change.tags ≠ [] ∧ role.tags = change.tags ∨
    change.tags = [] ∧ forall old, current = some old -> role.tags = old.tags
  gateway : change.role = some "gateway" ∧ role.gateway = true ∨
    change.role = some "storage" ∧ role.gateway = false ∨
    change.role ≠ some "gateway" ∧ change.role ≠ some "storage" ∧
      forall old, current = some old -> role.gateway = old.gateway

/-- The change sets no field. -/
def LayoutChange.Silent (change : LayoutChange) : Prop :=
  change.role = none ∧ change.zone = none ∧ change.capacity = none ∧ change.tags = []

/-- The effects are those that the change asks for. -/
inductive Realizes (current : Option Role) (change : LayoutChange) :
    List (String × Effect) -> Prop
  | removal (asked : change.role = some "remove") : Realizes current change
      [(change.nodeID, .remove)]
  | update {role : Role} (kept : change.role ≠ some "remove")
      (follows : Follows change current role) :
      Realizes current change [(change.nodeID, .assign role)]
  | nothing (silent : change.Silent) : Realizes current change []

/-- The drivers stage the changes one after the other, both the same and as asked. -/
def Alike (apiV1 : ApiV1) (apiV2 : ApiV2) : Layout -> List LayoutChange -> Prop
  | _, [] => True
  | layout, change :: rest =>
      Exists fun effects =>
        stageLayoutV1 apiV1 change = some effects ∧ stageLayoutV2 apiV2 change = some effects ∧
          Realizes (layout change.nodeID) change effects ∧
            Alike apiV1 apiV2 (layout.stage effects) rest

/-- The change says all that an update needs, and loses nothing of the current role. -/
structure Complete (current : Option Role) (change : LayoutChange) : Prop where
  zone : Exists fun zone => change.zone = some zone ∧ zone ≠ ""
  tags : change.tags ≠ []
  kept : change.role ≠ some "remove"
  role : change.role = some "gateway" ∧ change.capacity = none ∧
      (forall old, current = some old -> old.capacity = none) ∨
    change.role ≠ some "gateway" ∧ change.capacity ≠ none ∧
      (change.role = some "storage" ∨ forall old, current = some old -> old.gateway = false)

/-! ## One change -/

section Documented

variable {apiV1 : ApiV1} {apiV2 : ApiV2}

/-- The first driver takes a change that sets nothing for a removal. -/
theorem stageLayoutV1_silent (documented : DocumentedV1 apiV1) {change : LayoutChange}
    (silent : change.Silent) : stageLayoutV1 apiV1 change = some [(change.nodeID, .remove)] := by
  rcases silent with ⟨role, zone, capacity, tags⟩
  rw [stageLayoutV1, requestV1, if_pos ⟨zone, capacity, tags, role⟩]
  exact documented.removal change.nodeID

theorem requestV1_of_not_silent {change : LayoutChange} (spoken : ¬ change.Silent) :
    requestV1 change =
      { id := change.nodeID, zone := change.zone.getD "", capacity := change.capacity,
        tags := change.tags } := by
  rw [requestV1, if_neg]
  rintro ⟨zone, capacity, tags, role⟩
  exact spoken ⟨role, zone, capacity, tags⟩

/-- Any other change is refused by the first API when zone or tags are missing. -/
theorem stageLayoutV1_incomplete (documented : DocumentedV1 apiV1) {change : LayoutChange}
    (spoken : ¬ change.Silent) (missing : change.zone.getD "" = "" ∨ change.tags = []) :
    stageLayoutV1 apiV1 change = none := by
  rw [stageLayoutV1, requestV1_of_not_silent spoken]
  refine documented.incomplete _ rfl ?_
  rcases missing with zone | tags
  · exact Or.inl (if_pos zone)
  · exact Or.inr (if_pos tags)

theorem stageLayoutV1_update (documented : DocumentedV1 apiV1) {change : LayoutChange}
    {zone : String} (given : change.zone = some zone) (named : zone ≠ "")
    (tags : change.tags ≠ []) : stageLayoutV1 apiV1 change =
      some [(change.nodeID,
        .assign ⟨zone, change.capacity, change.tags, change.capacity.isNone⟩)] := by
  have spoken : ¬ change.Silent := fun silent => tags silent.2.2.2
  rw [stageLayoutV1, requestV1_of_not_silent spoken, NodeRoleChangeV1.body]
  simp only [given, Option.getD_some, if_neg named, if_neg tags]
  exact documented.update ..

theorem stageLayoutV2_update (documented : DocumentedV2 apiV2) {change : LayoutChange}
    {zone : String} (given : change.zone = some zone) : stageLayoutV2 apiV2 change =
      some [(change.nodeID, .assign ⟨zone, change.capacity, change.tags,
        decide (change.role = some "gateway")⟩)] := by
  have written : change.zone ≠ none := by
    rw [given]
    exact Option.some_ne_none zone
  rw [stageLayoutV2, requestV2, if_pos (Or.inr (Or.inl written)), given]
  exact documented.update ..

/-- What the two updates say of the role, when they say the same. -/
theorem complete_of_follows {change : LayoutChange} {current : Option Role} {zone : String}
    (given : change.zone = some zone) (named : zone ≠ "") (tags : change.tags ≠ [])
    (kept : change.role ≠ some "remove")
    (same : change.capacity.isNone = decide (change.role = some "gateway"))
    (follows : Follows change current
      ⟨zone, change.capacity, change.tags, change.capacity.isNone⟩) :
    Complete current change := by
  refine ⟨⟨zone, given, named⟩, tags, kept, ?_⟩
  by_cases gateway : change.role = some "gateway"
  · rw [decide_eq_true gateway, Option.isNone_iff_eq_none] at same
    refine Or.inl ⟨gateway, same, ?_⟩
    intro old present
    rcases follows.capacity with ⟨bytes, set, _⟩ | ⟨_, unchanged⟩
    · exact absurd (set.symm.trans same) (Option.some_ne_none bytes)
    · exact (unchanged old present).symm.trans same
  · have set : change.capacity ≠ none := by
      intro none
      rw [decide_eq_false gateway, none] at same
      exact absurd same (by decide)
    refine Or.inr ⟨gateway, set, ?_⟩
    rcases follows.gateway with ⟨asked, _⟩ | ⟨storage, _⟩ | ⟨_, _, unchanged⟩
    · exact absurd asked gateway
    · exact Or.inl storage
    · refine Or.inr (fun old present => (unchanged old present).symm.trans ?_)
      exact Option.isNone_eq_false_iff.mpr (Option.isSome_iff_ne_none.mpr set)

theorem follows_of_complete {change : LayoutChange} {current : Option Role} {zone : String}
    (given : change.zone = some zone) (complete : Complete current change) :
    change.capacity.isNone = decide (change.role = some "gateway") ∧
      Follows change current
        ⟨zone, change.capacity, change.tags, change.capacity.isNone⟩ := by
  rcases complete.role with ⟨gateway, none, before⟩ | ⟨other, set, role⟩
  · refine ⟨?_, Or.inl given, Or.inr ⟨none, ?_⟩, Or.inl ⟨complete.tags, rfl⟩, Or.inl ⟨gateway, ?_⟩⟩
    · rw [none, decide_eq_true gateway]
      rfl
    · exact fun old present => none.trans (before old present).symm
    · rw [none]
      rfl
  · rcases Option.ne_none_iff_exists'.mp set with ⟨bytes, present⟩
    have storage : change.capacity.isNone = false := by
      rw [present]
      rfl
    refine ⟨storage.trans (decide_eq_false other).symm, Or.inl given,
      Or.inl ⟨bytes, present, present⟩, Or.inl ⟨complete.tags, rfl⟩, ?_⟩
    by_cases asked : change.role = some "storage"
    · exact Or.inr (Or.inl ⟨asked, storage⟩)
    · refine Or.inr (Or.inr ⟨other, asked, fun old was => ?_⟩)
      exact storage.trans ((role.resolve_left asked) old was).symm

/-- The two drivers stage one change alike when it is complete. -/
theorem staged_one_iff (documentedV1 : DocumentedV1 apiV1) (documentedV2 : DocumentedV2 apiV2)
    (current : Option Role) (change : LayoutChange) :
    (Exists fun effects => stageLayoutV1 apiV1 change = some effects ∧
      stageLayoutV2 apiV2 change = some effects ∧ Realizes current change effects) ↔
      Complete current change := by
  constructor
  · rintro ⟨effects, first, second, realizes⟩
    by_cases silent : change.Silent
    · rw [stageLayoutV1_silent documentedV1 silent] at first
      cases first
      cases realizes with
      | removal asked => exact absurd (silent.1.symm.trans asked) (Option.some_ne_none _).symm
    · by_cases missing : change.zone.getD "" = "" ∨ change.tags = []
      · rw [stageLayoutV1_incomplete documentedV1 silent missing] at first
        cases first
      · rcases not_or.mp missing with ⟨blank, tags⟩
        cases given : change.zone with
        | none => exact absurd (by rw [given]; rfl) blank
        | some zone =>
            have named : zone ≠ "" := by rwa [given, Option.getD_some] at blank
            rw [stageLayoutV1_update documentedV1 given named tags] at first
            rw [stageLayoutV2_update documentedV2 given] at second
            cases first
            cases realizes with
            | update kept follows =>
                have same : change.capacity.isNone = decide (change.role = some "gateway") := by
                  simpa using second.symm
                exact complete_of_follows given named tags kept same follows
  · intro complete
    rcases complete.zone with ⟨zone, given, named⟩
    rcases follows_of_complete given complete with ⟨same, follows⟩
    refine ⟨_, stageLayoutV1_update documentedV1 given named complete.tags, ?_,
      .update complete.kept follows⟩
    rw [stageLayoutV2_update documentedV2 given, same]

/-! ## Lists of changes -/

/-- Stage one change with the first driver. -/
def step (api : ApiV1) (layout : Layout) (change : LayoutChange) : Option Layout :=
  (stageLayoutV1 api change).map layout.stage

/-- The drivers stage a list of changes alike when each one is complete where it is staged. -/
theorem staged_alike_iff (documentedV1 : DocumentedV1 apiV1) (documentedV2 : DocumentedV2 apiV2)
    (layout : Layout) (changes : List LayoutChange) :
    Alike apiV1 apiV2 layout changes ↔
      Meets (step apiV1) (fun before change => Complete (before change.nodeID) change) layout
        changes := by
  induction changes generalizing layout with
  | nil => exact Iff.rfl
  | cons change rest ih =>
      constructor
      · rintro ⟨effects, first, second, realizes, alike⟩
        have taken : step apiV1 layout change = some (layout.stage effects) :=
          congrArg (Option.map layout.stage) first
        exact meets_of_step ((staged_one_iff documentedV1 documentedV2 _ _).mp
          ⟨effects, first, second, realizes⟩) taken ((ih _).mp alike)
      · intro meets
        rcases (staged_one_iff documentedV1 documentedV2 _ _).mpr meets.1 with
          ⟨effects, first, second, realizes⟩
        have taken : step apiV1 layout change = some (layout.stage effects) :=
          congrArg (Option.map layout.stage) first
        exact ⟨effects, first, second, realizes, (ih _).mpr (meets.2 _ taken)⟩

end Documented

/-! ## Two clusters -/

namespace Sample

/-- One entry of the body of the first API. -/
def entryV1 (body : BodyV1) : Option (String × Effect) :=
  match body.remove, body.zone, body.tags with
  | some true, _, _ => some (body.id, .remove)
  | _, some zone, some tags =>
      some (body.id, .assign ⟨zone, body.capacity, tags, body.capacity.isNone⟩)
  | _, _, _ => none

def apiV1 (bodies : List BodyV1) : Option (List (String × Effect)) := bodies.mapM entryV1

def apiV2 (request : UpdateClusterLayoutRequest) : Option (List (String × Effect)) :=
  match request.newRole, request.remove with
  | some role, _ => some [(request.nodeID,
      .assign ⟨role.zone, role.capacity, role.tags, role.gateway.getD false⟩)]
  | none, true => some [(request.nodeID, .remove)]
  | none, false => none

theorem documentedV1 : DocumentedV1 apiV1 where
  removal _ := rfl
  update _ _ _ _ := rfl
  incomplete body kept missing := by
    have refused : entryV1 body = none := by
      rcases missing with zone | tags
      · simp [entryV1, kept, zone]
      · simp [entryV1, kept, tags]
    simp [apiV1, refused]

theorem documentedV2 : DocumentedV2 apiV2 where
  removal _ := rfl
  update _ _ := rfl

/-- One storage node. -/
def layout : Layout := fun node =>
  if node = "n1" then some ⟨"geneva", some 100, ["fast"], false⟩ else none

end Sample

/-- A storage node is resized and a gateway is added. -/
theorem staged_alike_iff_sample :
    Alike Sample.apiV1 Sample.apiV2 Sample.layout
      [{ nodeID := "n1", zone := some "geneva", capacity := some 200, tags := ["fast"] },
        { nodeID := "n2", role := some "gateway", zone := some "lyon", tags := ["edge"] }] := by
  refine (staged_alike_iff Sample.documentedV1 Sample.documentedV2 _ _).mpr ?_
  refine meets_of_step ⟨⟨_, rfl, by decide⟩, by decide, by decide, Or.inr ⟨by decide, by decide,
    Or.inr ?_⟩⟩ rfl (meets_of_step ⟨⟨_, rfl, by decide⟩, by decide, by decide,
      Or.inl ⟨rfl, rfl, ?_⟩⟩ rfl trivial)
  · intro old present
    cases present
    rfl
  · intro old present
    cases present

/-- A change that sets nothing removes the node, and a removal is refused. -/
theorem removals_differ :
    ¬ Alike Sample.apiV1 Sample.apiV2 Sample.layout [{ nodeID := "n1" }] ∧
      ¬ Alike Sample.apiV1 Sample.apiV2 Sample.layout
        [{ nodeID := "n1", role := some "remove" }] := by
  constructor
  · rintro ⟨effects, first, _, realizes, _⟩
    cases first
    cases realizes with
    | removal asked => cases asked
  · rintro ⟨effects, first, _⟩
    cases first

end GarageLayout
end Drivers
end Basement
