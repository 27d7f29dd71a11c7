import Basement.Api.Syncs
import Mathlib.Data.List.Perm.Lattice

namespace Basement
namespace Syncs
namespace Planning

open Api (planPrefix planDstKey planPrefix_ne_empty planDstKey_of_empty planDstKey_self
  planDstKey_append planDstKey_append_root)

/-!
# Planning a sync

`Plan` lists the source page by page and takes one action for every object.  Where an object goes
is told by its key alone: the source prefix is taken off and the destination prefix put in front.

A prefix is meant as a folder, whether or not it is written with a slash at its end.  `planPrefix`
is that folder; `Plan` makes the source prefix one, and the destination prefix it uses as it is.
-/

/-- `driver.ObjectInfo`, as far as the plan reads it. -/
structure ObjectInfo where
  key : String
  etag : String
  isDir : Bool
  deriving DecidableEq, Repr

/-- `driver.ObjectPage`. -/
structure ObjectPage where
  objects : List ObjectInfo
  isTruncated : Bool
  nextContinuation : String
  deriving DecidableEq, Repr

/-- `sync.Action`. -/
structure Action where
  srcBucket : String
  srcKey : String
  dstBucket : String
  dstKey : String
  actionType : Api.ActionType
  reason : String
  objectInfo : ObjectInfo
  deriving DecidableEq, Repr

/-- The buckets and prefixes of a job, with the answers of its two drivers: a page for a prefix and
a continuation, and the ETag of a key of the destination. -/
structure Request where
  srcBucket : String
  srcPrefix : String
  dstBucket : String
  dstPrefix : String
  listObjects : String -> String -> Except String ObjectPage
  statObject : String -> Except String String

variable (req : Request)

/-- The action for one object. -/
def Request.action (obj : ObjectInfo) : Action :=
  let dstKey := planDstKey req.srcPrefix req.dstPrefix obj.key
  match req.statObject dstKey with
  | .ok etag =>
      if etag = obj.etag then
        ⟨req.srcBucket, obj.key, req.dstBucket, dstKey, .skip, "etag_match", obj⟩
      else ⟨req.srcBucket, obj.key, req.dstBucket, dstKey, .copy, "", obj⟩
  | .error _ => ⟨req.srcBucket, obj.key, req.dstBucket, dstKey, .copy, "", obj⟩

/-- The actions for one page. -/
def Request.page (objects : List ObjectInfo) : List Action :=
  (objects.filter fun obj => !obj.isDir).map req.action

/-- The loop of `Plan` over the pages; `none` is a loop that has not ended with its fuel. -/
def Request.planFrom (req : Request) : Nat -> String -> Option (Except String (List Action))
  | 0, _ => none
  | fuel + 1, continuation =>
      match req.listObjects (planPrefix req.srcPrefix) continuation with
      | .error error => some (.error ("listing source objects: " ++ error))
      | .ok page =>
          if page.isTruncated = false ∨ page.nextContinuation = "" then
            some (.ok (req.page page.objects))
          else
            (req.planFrom fuel page.nextContinuation).map fun rest =>
              rest.map fun actions => req.page page.objects ++ actions

/-- `Plan`. -/
def Request.plan (fuel : Nat) : Option (Except String (List Action)) := req.planFrom fuel ""

/-! ## The pages of a listing -/

/-- The source gives these pages, one after the other, from a continuation on. -/
inductive Request.Lists : String -> List (List ObjectInfo) -> Prop
  | last {continuation : String} (page : ObjectPage)
      (answer : req.listObjects (planPrefix req.srcPrefix) continuation = .ok page)
      (ends : page.isTruncated = false ∨ page.nextContinuation = "") :
      Lists continuation [page.objects]
  | more {continuation : String} (page : ObjectPage) (rest : List (List ObjectInfo))
      (answer : req.listObjects (planPrefix req.srcPrefix) continuation = .ok page)
      (goesOn : ¬ (page.isTruncated = false ∨ page.nextContinuation = ""))
      (later : Lists page.nextContinuation rest) : Lists continuation (page.objects :: rest)

/-- The loop ends once it has seen the pages, with the actions of all of them. -/
theorem Request.Lists.planFrom {req : Request} {continuation : String}
    {pages : List (List ObjectInfo)} (lists : req.Lists continuation pages) {fuel : Nat}
    (enough : pages.length ≤ fuel) :
    req.planFrom fuel continuation = some (.ok (req.page pages.flatten)) := by
  induction lists generalizing fuel with
  | last page answer ends =>
      cases fuel with
      | zero => exact absurd enough (by simp)
      | succ fuel => simp [Request.planFrom, answer, ends]
  | more page rest answer goesOn later ih =>
      cases fuel with
      | zero => exact absurd enough (by simp)
      | succ fuel =>
          rw [List.length_cons] at enough
          rw [Request.planFrom, answer]
          dsimp only
          rw [if_neg goesOn, ih (Nat.le_of_succ_le_succ enough), List.flatten_cons]
          simp [Request.page, Except.map]

/-! ## Where a key belongs -/

/-- The destination prefix as a folder, followed by the key relative to the source prefix. -/
def Placed (srcPrefix dstPrefix srcKey dstKey : String) : Prop :=
  Exists fun relative =>
    srcKey = planPrefix srcPrefix ++ relative ∧ dstKey = planPrefix dstPrefix ++ relative

/-- The prefixes of a job fit a key: both are empty, or the destination prefix has no slash at its
end; the object of the source folder itself has no other folder to go to. -/
def Fits (srcPrefix dstPrefix srcKey : String) : Prop :=
  if srcPrefix = "" then dstPrefix = ""
  else if srcKey = planPrefix srcPrefix then planPrefix dstPrefix = planPrefix srcPrefix
  else dstPrefix.toList.getLast? ≠ some '/'

instance (srcPrefix dstPrefix srcKey : String) : Decidable (Fits srcPrefix dstPrefix srcKey) :=
  inferInstanceAs (Decidable (if srcPrefix = "" then dstPrefix = ""
    else if srcKey = planPrefix srcPrefix then planPrefix dstPrefix = planPrefix srcPrefix
    else dstPrefix.toList.getLast? ≠ some '/'))

/-- A key has one place. -/
theorem placed_append_iff (srcPrefix dstPrefix relative dstKey : String) :
    Placed srcPrefix dstPrefix (planPrefix srcPrefix ++ relative) dstKey ↔
      dstKey = planPrefix dstPrefix ++ relative := by
  constructor
  · rintro ⟨other, same, placed⟩
    rw [(String.append_right_inj _).mp same]
    exact placed
  · exact fun placed => ⟨relative, rfl, placed⟩

theorem planPrefix_eq_slash_iff {dstPrefix : String} (named : dstPrefix ≠ "") :
    dstPrefix ++ "/" = planPrefix dstPrefix ↔ dstPrefix.toList.getLast? ≠ some '/' := by
  unfold planPrefix
  by_cases ended : dstPrefix.toList.getLast? = some '/'
  · rw [if_neg fun both => both.2 ended]
    apply iff_of_false
    · intro same
      have longer := congrArg String.length same
      rw [String.length_append] at longer
      exact Nat.ne_of_gt (Nat.lt_add_of_pos_right (by decide)) longer
    · exact not_not.mpr ended
  · rw [if_pos ⟨named, ended⟩]
    exact iff_of_true rfl ended

/-- `Plan` puts a key where it belongs exactly if the prefixes fit it. -/
theorem placed_planDstKey_iff (srcPrefix dstPrefix relative : String) :
    Placed srcPrefix dstPrefix (planPrefix srcPrefix ++ relative)
        (planDstKey srcPrefix dstPrefix (planPrefix srcPrefix ++ relative)) ↔
      Fits srcPrefix dstPrefix (planPrefix srcPrefix ++ relative) := by
  rw [placed_append_iff, Fits]
  by_cases whole : srcPrefix = ""
  · subst whole
    rw [if_pos rfl, planDstKey_of_empty, show planPrefix "" = "" from rfl, String.empty_append]
    by_cases root : dstPrefix = ""
    · subst root
      exact iff_of_true String.empty_append.symm rfl
    · apply iff_of_false _ root
      intro same
      exact planPrefix_ne_empty root ((String.append_left_inj relative).mp
        (String.empty_append.trans same)).symm
  · rw [if_neg whole]
    by_cases itself : relative = ""
    · subst itself
      rw [String.append_empty, String.append_empty, if_pos rfl, planDstKey_self]
      exact eq_comm
    · have below : planPrefix srcPrefix ++ relative ≠ planPrefix srcPrefix := by
        intro same
        exact itself ((String.append_right_inj _).mp (same.trans String.append_empty.symm))
      rw [if_neg below]
      by_cases root : dstPrefix = ""
      · subst root
        rw [planDstKey_append_root whole itself]
        exact iff_of_true String.empty_append.symm (by simp)
      · rw [planDstKey_append whole root itself, String.append_left_inj,
          planPrefix_eq_slash_iff root]

/-! ## The plan -/

/-- The objects that a plan is about. -/
def under (srcPrefix : String) (obj : ObjectInfo) : Bool :=
  (planPrefix srcPrefix).toList.isPrefixOf obj.key.toList

theorem append_of_under {srcPrefix : String} {obj : ObjectInfo}
    (below : under srcPrefix obj = true) :
    Exists fun relative => obj.key = planPrefix srcPrefix ++ relative := by
  rcases List.isPrefixOf_iff_prefix.mp below with ⟨rest, split⟩
  refine ⟨String.ofList rest, ?_⟩
  apply String.toList_inj.mp
  rw [String.toList_append, String.toList_ofList, split]

theorem action_keys (obj : ObjectInfo) : (req.action obj).srcKey = obj.key ∧
    (req.action obj).dstKey = planDstKey req.srcPrefix req.dstPrefix obj.key := by
  cases answer : req.statObject (planDstKey req.srcPrefix req.dstPrefix obj.key) with
  | error error => simp only [Request.action, answer, and_self]
  | ok etag =>
      simp only [Request.action, answer]
      split <;> exact ⟨rfl, rfl⟩

/-- The actions of a plan that puts every object where it belongs have keys of their own. -/
theorem dstKeys_nodup {req : Request} {actions : List Action}
    (distinct : (actions.map Action.srcKey).Nodup)
    (placed : forall action, action ∈ actions ->
      Placed req.srcPrefix req.dstPrefix action.srcKey action.dstKey) :
    (actions.map Action.dstKey).Nodup := by
  apply List.Nodup.map_on _ (List.Nodup.of_map Action.srcKey distinct)
  intro first one second two same
  rcases placed first one with ⟨relative, firstKey, firstPlace⟩
  rcases placed second two with ⟨other, secondKey, secondPlace⟩
  rw [firstPlace, secondPlace] at same
  apply List.inj_on_of_nodup_map distinct one two
  rw [firstKey, secondKey, (String.append_right_inj _).mp same]

/-- A plan sees every page of the listing and takes one action for every object under the source
prefix.  The actions have destinations of their own, in the destination prefix as a folder, exactly
if the prefixes fit each of the keys. -/
theorem plan_places_keys_iff (req : Request) {pages : List (List ObjectInfo)}
    (lists : req.Lists "" pages) {source : List ObjectInfo}
    (distinct : (source.map ObjectInfo.key).Nodup)
    (listed : pages.flatten.Perm (source.filter (under req.srcPrefix))) :
    Exists fun actions =>
      (forall fuel, pages.length ≤ fuel -> req.plan fuel = some (.ok actions)) ∧
      (actions.map Action.srcKey).Perm
        ((source.filter fun obj => under req.srcPrefix obj && !obj.isDir).map ObjectInfo.key) ∧
      ((actions.map Action.dstKey).Nodup ∧ (forall action, action ∈ actions ->
          Placed req.srcPrefix req.dstPrefix action.srcKey action.dstKey) ↔
        forall obj, obj ∈ source -> under req.srcPrefix obj = true -> obj.isDir = false ->
          Fits req.srcPrefix req.dstPrefix obj.key) := by
  have kept : (pages.flatten.filter fun obj => !obj.isDir).Perm
      (source.filter fun obj => under req.srcPrefix obj && !obj.isDir) := by
    have filtered := listed.filter fun obj => !obj.isDir
    rw [List.filter_filter] at filtered
    simpa only [Bool.and_comm] using filtered
  have keys : ((req.page pages.flatten).map Action.srcKey) =
      (pages.flatten.filter fun obj => !obj.isDir).map ObjectInfo.key := by
    rw [Request.page, List.map_map]
    exact List.map_congr_left fun obj _ => (action_keys req obj).1
  have member : forall obj, obj ∈ (pages.flatten.filter fun obj => !obj.isDir) ↔
      obj ∈ source ∧ under req.srcPrefix obj = true ∧ obj.isDir = false := by
    intro obj
    rw [kept.mem_iff, List.mem_filter]
    simp
  have placed : forall obj, under req.srcPrefix obj = true ->
      (Placed req.srcPrefix req.dstPrefix (req.action obj).srcKey (req.action obj).dstKey ↔
        Fits req.srcPrefix req.dstPrefix obj.key) := by
    intro obj below
    rcases append_of_under below with ⟨relative, split⟩
    rw [(action_keys req obj).1, (action_keys req obj).2, split]
    exact placed_planDstKey_iff _ _ _
  refine ⟨req.page pages.flatten, fun fuel enough => lists.planFrom enough, ?_, ?_⟩
  · rw [keys]
    exact kept.map _
  · constructor
    · rintro ⟨_, all⟩ obj present below object
      exact (placed obj below).mp (all _ (List.mem_map_of_mem
        ((member obj).mpr ⟨present, below, object⟩)))
    · intro fits
      have all : forall action, action ∈ req.page pages.flatten ->
          Placed req.srcPrefix req.dstPrefix action.srcKey action.dstKey := by
        intro action planned
        rcases List.mem_map.mp planned with ⟨obj, found, rfl⟩
        rcases (member obj).mp found with ⟨present, below, object⟩
        exact (placed obj below).mpr (fits obj present below object)
      refine ⟨dstKeys_nodup ?_ all, all⟩
      rw [keys, (kept.map ObjectInfo.key).nodup_iff]
      exact distinct.sublist ((List.filter_sublist).map _)

/-- A source with one object, listed on one page; the destination is empty. -/
def sampleRequest (srcPrefix dstPrefix key : String) : Request where
  srcBucket := "photos"
  srcPrefix := srcPrefix
  dstBucket := "archive"
  dstPrefix := dstPrefix
  listObjects := fun _ _ => .ok ⟨[⟨key, "e1", false⟩], false, ""⟩
  statObject := fun _ => .error "NoSuchKey"

theorem sampleRequest_lists (srcPrefix dstPrefix key : String) :
    (sampleRequest srcPrefix dstPrefix key).Lists "" [[⟨key, "e1", false⟩]] :=
  .last ⟨[⟨key, "e1", false⟩], false, ""⟩ rfl (Or.inl rfl)

theorem plan_places_keys_sample :
    Exists fun actions => (forall fuel, 1 ≤ fuel ->
      (sampleRequest "2024" "backup" "2024/a.png").plan fuel = some (.ok actions)) ∧
        forall action, action ∈ actions ->
          Placed "2024" "backup" action.srcKey action.dstKey := by
  have distinct : ([(⟨"2024/a.png", "e1", false⟩ : ObjectInfo)].map ObjectInfo.key).Nodup := by
    decide
  rcases plan_places_keys_iff (sampleRequest "2024" "backup" "2024/a.png")
    (sampleRequest_lists _ _ _) distinct (by decide) with ⟨actions, planned, _, placed⟩
  refine ⟨actions, planned, (placed.mpr ?_).2⟩
  intro obj listed _ _
  rw [List.mem_singleton.mp listed]
  exact (show Fits "2024" "backup" "2024/a.png" by decide)

/-- A whole bucket is to go into a folder: its objects stay outside. -/
theorem whole_bucket_misplaced :
    ¬ forall (req : Request) (pages : List (List ObjectInfo)) (source : List ObjectInfo)
      (fuel : Nat) (actions : List Action), req.Lists "" pages ->
      (source.map ObjectInfo.key).Nodup ->
      pages.flatten.Perm (source.filter (under req.srcPrefix)) ->
      req.plan fuel = some (.ok actions) -> forall action, action ∈ actions ->
        Placed req.srcPrefix req.dstPrefix action.srcKey action.dstKey := by
  intro stated
  have placed := stated (sampleRequest "" "backup" "a.png") _ [⟨"a.png", "e1", false⟩] 1 _
    (sampleRequest_lists _ _ _) (List.nodup_singleton _) (by decide)
    ((sampleRequest_lists "" "backup" "a.png").planFrom (Nat.le_refl 1)) _ List.mem_cons_self
  have fits := (placed_planDstKey_iff "" "backup" "a.png").mp placed
  exact absurd fits (by decide)

/-! ## The plan of a job -/

/-- What the rest of the engine reads of an action. -/
def Action.summary (action : Action) : Api.SyncAction :=
  ⟨action.srcKey, action.dstKey, action.actionType⟩

/-- For the answers of a service the actions are those that the runs of a job execute. -/
theorem action_summary (service : Api.Service) (world : Drivers.World) (src dst : Api.Side)
    (job : Api.SyncJob) {obj : ObjectInfo} (sourcePrefix : req.srcPrefix = job.srcPrefix)
    (folder : req.dstPrefix = job.dstPrefix)
    (answers : forall key, req.statObject key =
      match Api.statObject service world dst job.dstBucket key with
      | some held => .ok (service.etag held)
      | none => .error "NoSuchKey")
    (present : (world (src.driver.at ⟨job.srcBucket, obj.key⟩)).map service.etag = some obj.etag) :
    (req.action obj).summary = Api.planAction service world src dst job obj.key := by
  have answer := answers (planDstKey req.srcPrefix req.dstPrefix obj.key)
  rw [sourcePrefix, folder] at answer
  cases stat : Api.statObject service world dst job.dstBucket
      (planDstKey job.srcPrefix job.dstPrefix obj.key) with
  | none =>
      rw [stat] at answer
      simp only [Request.action, Api.planAction, sourcePrefix, folder, answer, stat]
      rfl
  | some held =>
      rw [stat] at answer
      simp only [Request.action, Api.planAction, sourcePrefix, folder, answer, stat, present,
        Option.some.injEq]
      by_cases same : service.etag held = obj.etag
      · rw [if_pos same, if_pos same.symm]
        rfl
      · rw [if_neg same, if_neg (Ne.symm same)]
        rfl

end Planning
end Syncs
end Basement
