import Basement.Gateway.Paths
import Mathlib.Data.List.Perm.Subperm

namespace Basement
namespace Gateway

open Library Drivers

/-!
# Removing a path

A path with a slash at its end is removed as a folder: the keys under it are listed page by page
and deleted.  Any other path is removed as an object, and as a folder only if that fails for a
missing object.  A service deletes a missing object without an error.
-/

/-- How the calls of one removal fail: deletions by key, listings by continuation. -/
structure RemovalFaults where
  delete : String -> Option Failure
  list : String -> Option DriverError
  deleteBucket : Option Failure

variable (site : Site) (pager : Pager) (regions : Except FsError (List Region))

/-- `Backend.DeleteBucket`, of a bucket without objects. -/
def deleteBucket (regionID bucket : String) (fault : Option Failure) (storage : Storage) : Reply :=
  match site.driverForRegion regionID with
  | .error error => (.error error, storage)
  | .ok endpoint =>
      attempt fault storage fun storage =>
        if (storage (site.place endpoint bucket)).entries.isEmpty then .ok storage
        else .error (.invalid "BucketNotEmpty")

/-- The deletions of one page. -/
def deleteKeys (regionID bucket : String) (faults : RemovalFaults) :
    List String -> Storage -> Reply
  | [], storage => (.ok (), storage)
  | key :: rest, storage =>
      match site.deleteObject regionID bucket key (faults.delete key) storage with
      | (.ok _, after) => deleteKeys regionID bucket faults rest after
      | (.error error, after) =>
          if error = .notFound then deleteKeys regionID bucket faults rest after
          else (.error error, after)

/-- `deletePrefix`, for as many pages as there is fuel. -/
def deletePrefix (regionID bucket keyPrefix : String) (faults : RemovalFaults) :
    Nat -> String -> Storage -> Option Reply
  | 0, _, _ => none
  | fuel + 1, token, storage =>
      match site.listObjects pager regionID bucket keyPrefix none token 1000 (faults.list token)
        storage with
      | .error error => some (.error error, storage)
      | .ok page =>
          match deleteKeys site regionID bucket faults page.objects storage with
          | (.error error, after) => some (.error error, after)
          | (.ok _, after) =>
              if !page.isTruncated || page.nextContinuation == "" then some (.ok (), after)
              else deletePrefix regionID bucket keyPrefix faults fuel page.nextContinuation after

/-- `RemoveAll`. -/
def removeAll (name : String) (faults : RemovalFaults) (fuel : Nat) (storage : Storage) :
    Option Reply :=
  match parsePath regions name with
  | .error error => some (.error error, storage)
  | .ok .root | .ok (.region _) => some (.error .permission, storage)
  | .ok (.bucket region bucket) =>
      some (deleteBucket site region.id bucket faults.deleteBucket storage)
  | .ok (.object region bucket key) =>
      if endsWithSlash key then deletePrefix site pager region.id bucket key faults fuel "" storage
      else
        match site.deleteObject region.id bucket key (faults.delete key) storage with
        | (.ok _, after) => some (.ok (), after)
        | (.error error, after) =>
            if error ≠ .notFound then some (.error error, after)
            else deletePrefix site pager region.id bucket (key ++ "/") faults fuel "" after

/-! ## What a removal is to do -/

/-- A key is one or lies under it. -/
def Below (root key : String) : Prop := key = root ∨ Exists fun rest => key = root ++ "/" ++ rest

/-- The objects of some keys of one bucket are gone, and no other has changed. -/
def Cleared (place : Place) (gone : String -> Prop) (storage after : Storage) : Prop :=
  (forall key, gone key -> (after place).get? key = none) ∧
    forall other key, (other = place -> ¬ gone key) ->
      (after other).get? key = (storage other).get? key

/-- A removal of a path ends, and if it reports success the path and what is below it are gone. -/
def RemovesAll (name : String) (faults : RemovalFaults) (place : Place) (key : String)
    (storage : Storage) : Prop :=
  forall fuel, (storage place).entries.length < fuel ->
    Exists fun reply => removeAll site pager regions name faults fuel storage = some reply ∧
      (reply.1 = .ok () -> Cleared place (Below (trimSuffixSlash key)) storage reply.2)

/-- Only one of the two things that a path may stand for is there. -/
def OnlyNamed (place : Place) (key : String) (storage : Storage) : Prop :=
  if endsWithSlash key then (storage place).get? (trimSuffixSlash key) = none
  else forall rest, (storage place).get? (key ++ "/" ++ rest) = none

/-! ## What it does -/

section Removal

variable {site : Site} {pager : Pager} {regions : Except FsError (List Region)}
  {regionID bucket endpoint : String} {faults : RemovalFaults}

theorem Cleared.congr {place : Place} {first second : String -> Prop} {storage after : Storage}
    (cleared : Cleared place first storage after) (same : forall key, first key ↔ second key) :
    Cleared place second storage after :=
  ⟨fun key gone => cleared.1 key ((same key).mpr gone),
    fun other key kept => cleared.2 other key fun here gone => kept here ((same key).mp gone)⟩

/-- Keys that were absent may be counted in. -/
theorem Cleared.widen {place : Place} {first second : String -> Prop} {storage after : Storage}
    (cleared : Cleared place first storage after) (wider : forall key, first key -> second key)
    (absent : forall key, second key -> first key ∨ (storage place).get? key = none) :
    Cleared place second storage after := by
  refine ⟨?_, fun other key kept => cleared.2 other key fun here gone => kept here (wider key gone)⟩
  intro key gone
  by_cases inside : first key
  · exact cleared.1 key inside
  · rw [cleared.2 place key fun _ => inside]
    exact (absent key gone).resolve_left inside

theorem Cleared.trans {place : Place} {first second : String -> Prop}
    {storage middle after : Storage} (one : Cleared place first storage middle)
    (two : Cleared place second middle after) :
    Cleared place (fun key => first key ∨ second key) storage after := by
  refine ⟨?_, ?_⟩
  · intro key gone
    by_cases last : second key
    · exact two.1 key last
    · rw [two.2 place key fun _ => last]
      exact one.1 key (gone.resolve_right last)
  · intro other key kept
    rw [two.2 other key fun here gone => kept here (Or.inr gone),
      one.2 other key fun here gone => kept here (Or.inl gone)]

theorem cleared_erase (site : Site) (endpoint bucket key : String) (storage : Storage) :
    Cleared (site.place endpoint bucket) (· = key) storage
      (storage.erase (site.location endpoint bucket key)) := by
  have erased (held : String) : ((storage.erase (site.location endpoint bucket key))
      (site.place endpoint bucket)).get? held =
        if held = key then none else (storage (site.place endpoint bucket)).get? held := by
    have place : (site.location endpoint bucket key).place = site.place endpoint bucket := rfl
    rw [Storage.erase, place, Function.update_self, SortedStore.get?_erase]
    rfl
  refine ⟨?_, ?_⟩
  · intro held same
    rw [erased, if_pos same]
  · intro other held kept
    by_cases here : other = site.place endpoint bucket
    · rw [here, erased, if_neg (kept here)]
    · rw [Storage.erase, Function.update_of_ne]
      exact here

/-- Some call fails. -/
def RemovalFaults.Faulty (faults : RemovalFaults) : Prop :=
  (Exists fun key => faults.delete key ≠ none) ∨ Exists fun token => faults.list token ≠ none

/-- A deletion fails with an error that is not that of a missing object, or has deleted. -/
theorem deleteObject_cases (driver : site.driverForRegion regionID = .ok endpoint)
    (bucket key : String) (fault : Option Failure) (storage : Storage) :
    (Exists fun error => Exists fun after => error ≠ .notFound ∧ fault ≠ none ∧
      site.deleteObject regionID bucket key fault storage = (.error error, after)) ∨
      site.deleteObject regionID bucket key fault storage =
        (.ok (), storage.erase (site.location endpoint bucket key)) := by
  rw [Site.deleteObject, driver]
  have erased : erasing (site.location endpoint bucket key) storage =
      .ok (storage.erase (site.location endpoint bucket key)) := rfl
  rcases attempt_ok fault erased with ⟨-, done⟩ | ⟨failure, failed, broken⟩
  · exact Or.inr done
  · refine Or.inl ⟨_, _, ?_, failed ▸ Option.some_ne_none failure, broken⟩
    cases failure.error with
    | unsupported => exact fun same => by cases same
    | invalid message => exact fun same => by cases same

/-- The deletions of a page fail, or have deleted its keys. -/
theorem deleteKeys_cases (driver : site.driverForRegion regionID = .ok endpoint) (bucket : String)
    (keys : List String) : forall storage,
    (faults.Faulty ∧ Exists fun error => Exists fun after =>
      deleteKeys site regionID bucket faults keys storage = (.error error, after)) ∨
      Exists fun after => deleteKeys site regionID bucket faults keys storage = (.ok (), after) ∧
        Cleared (site.place endpoint bucket) (· ∈ keys) storage after := by
  induction keys with
  | nil =>
      intro storage
      exact Or.inr ⟨storage, rfl, fun _ gone => absurd gone List.not_mem_nil, fun _ _ _ => rfl⟩
  | cons key rest ih =>
      intro storage
      rw [deleteKeys]
      rcases deleteObject_cases driver bucket key (faults.delete key) storage with
        ⟨error, after, known, fault, failed⟩ | done
      · rw [failed]
        simp only [if_neg known]
        exact Or.inl ⟨Or.inl ⟨key, fault⟩, error, after, rfl⟩
      · rw [done]
        rcases ih (storage.erase (site.location endpoint bucket key)) with failed |
          ⟨after, same, cleared⟩
        · exact Or.inl failed
        · refine Or.inr ⟨after, same, ?_⟩
          have both := (cleared_erase site endpoint bucket key storage).trans cleared
          simpa only [List.mem_cons] using both

/-- A listing fails, or answers for the cursor of its token. -/
theorem listObjects_cases (driver : site.driverForRegion regionID = .ok endpoint)
    (pager : Pager) (bucket keyPrefix : String) (delimiter : Option Char) {token : String}
    {cursor : Option String} (told : pager.cursor token = some cursor) {limit : Nat}
    (positive : 0 < limit) (fault : Option DriverError) (storage : Storage) :
    (fault ≠ none ∧ Exists fun error => site.listObjects pager regionID bucket keyPrefix delimiter
      token limit fault storage = .error error) ∨
      Exists fun page => site.listObjects pager regionID bucket keyPrefix delimiter token limit
          fault storage = .ok page ∧
        pager.Answers (rows (storage (site.place endpoint bucket)) keyPrefix delimiter) cursor
          page := by
  rw [Site.listObjects, driver]
  cases fault with
  | some error => exact Or.inl ⟨Option.some_ne_none error, _, rfl⟩
  | none =>
      have given : 0 < if limit = 0 then 1000 else limit := by
        rw [if_neg (Nat.ne_of_gt positive)]
        exact positive
      rcases pager.listObjects_answers (storage (site.place endpoint bucket)) keyPrefix delimiter
        told given with ⟨page, same, answers⟩
      refine Or.inr ⟨page, ?_, answers⟩
      simp only [same]

/-- A key under a prefix that is left after a page was there before and is not of the page. -/
theorem Cleared.left {place : Place} {keyPrefix key : String} {keys : List String}
    {storage after : Storage} (cleared : Cleared place (· ∈ keys) storage after)
    (member : key ∈ keysUnder (after place) keyPrefix) :
    key ∉ keys ∧ key ∈ keysUnder (storage place) keyPrefix := by
  rcases mem_keysUnder.mp member with ⟨present, below⟩
  have off : key ∉ keys := fun here => present (cleared.1 key here)
  rw [cleared.2 _ key fun _ => off] at present
  exact ⟨off, mem_keysUnder.mpr ⟨present, below⟩⟩

/-- A page with a key under the prefix leaves fewer of them. -/
theorem Cleared.fewer {place : Place} {keyPrefix last : String} {keys : List String}
    {storage after : Storage} (cleared : Cleared place (· ∈ keys) storage after)
    (taken : last ∈ keys) (held : last ∈ keysUnder (storage place) keyPrefix) :
    (keysUnder (after place) keyPrefix).length < (keysUnder (storage place) keyPrefix).length := by
  have within : keysUnder (after place) keyPrefix ⊆
      (keysUnder (storage place) keyPrefix).erase last := by
    intro key member
    have left := cleared.left member
    have other : key ≠ last := by
      rintro rfl
      exact left.1 taken
    exact (List.mem_erase_of_ne other).mpr left.2
  have most := ((keysUnder_nodup _ _).subperm within).length_le
  rw [List.length_erase_of_mem held] at most
  have some := List.length_pos_of_mem held
  omega

/-- The keys under a prefix that are left lie behind the cursor, so every page takes some, and the
last one takes the rest. -/
theorem deletePrefix_ends (driver : site.driverForRegion regionID = .ok endpoint)
    (bucket keyPrefix : String) : forall fuel token storage cursor,
    pager.cursor token = some cursor ->
    (forall key, key ∈ keysUnder (storage (site.place endpoint bucket)) keyPrefix ->
      SortedStore.Behind cursor key) ->
    (keysUnder (storage (site.place endpoint bucket)) keyPrefix).length < fuel ->
    Exists fun reply =>
      deletePrefix site pager regionID bucket keyPrefix faults fuel token storage = some reply ∧
        ((faults.Faulty ∧ reply.1 ≠ .ok ()) ∨ (reply.1 = .ok () ∧
          Cleared (site.place endpoint bucket) (fun key => Exists fun rest => key = keyPrefix ++ rest)
            storage reply.2)) := by
  intro fuel
  induction fuel with
  | zero =>
      intro token storage cursor _ _ enough
      exact absurd enough (Nat.not_lt_zero _)
  | succ fuel ih =>
      intro token storage cursor told passed enough
      rw [deletePrefix]
      rcases listObjects_cases driver pager bucket keyPrefix none told (by decide : 0 < 1000)
        (faults.list token) storage with ⟨fault, error, failed⟩ | ⟨page, listed, answers⟩
      · rw [failed]
        exact ⟨_, rfl, Or.inl ⟨Or.inr ⟨token, fault⟩, fun same => by cases same⟩⟩
      · rw [listed]
        dsimp only
        have onPage : forall key, key ∈ page.objects ->
            key ∈ keysUnder (storage (site.place endpoint bucket)) keyPrefix := by
          intro key member
          exact (get?_rows_flat.mp (answers.sound .object key member).2).1
        rcases deleteKeys_cases driver bucket page.objects storage with
          ⟨fault, error, after, failed⟩ | ⟨after, done, cleared⟩
        · rw [failed]
          exact ⟨_, rfl, Or.inl ⟨fault, fun same => by cases same⟩⟩
        · rw [done]
          dsimp only
          have under : forall key, key ∈ page.objects -> Exists fun rest => key = keyPrefix ++ rest :=
            fun key member => (mem_keysUnder.mp (onPage key member)).2
          cases long : page.isTruncated with
          | false =>
              refine ⟨_, rfl, Or.inr ⟨rfl, cleared.widen under ?_⟩⟩
              intro key below
              by_cases present : (storage (site.place endpoint bucket)).get? key = none
              · exact Or.inr present
              · have member := mem_keysUnder.mpr ⟨present, below⟩
                exact Or.inl (answers.whole long .object key (passed key member)
                  (get?_rows_flat.mpr ⟨member, rfl⟩))
          | true =>
              rcases answers.further long with ⟨last, next, ⟨kind, has⟩, beyond⟩
              have goesOn : (page.nextContinuation == "") = false := by
                rw [next]
                exact beq_eq_false_iff_ne.mpr (pager.token_ne last)
              simp only [Bool.not_true, goesOn, Bool.or_self, Bool.false_eq_true, if_false]
              have here : last ∈ page.objects := by
                have found := get?_rows_flat.mp (answers.sound kind last has).2
                rw [found.2] at has
                exact has
              have fewer := cleared.fewer here (onPage last here)
              have behind : forall key,
                  key ∈ keysUnder (after (site.place endpoint bucket)) keyPrefix ->
                    SortedStore.Behind (some last) key := by
                intro key member
                have held := cleared.left member
                exact (beyond .object key (passed key held.2)
                  (get?_rows_flat.mpr ⟨held.2, rfl⟩)).resolve_left held.1
              rw [next]
              rcases ih (pager.token last) after (some last) (pager.cursor_token last) behind
                (by omega) with ⟨reply, same, failed | ⟨ok, rest⟩⟩
              · exact ⟨reply, same, Or.inl failed⟩
              · refine ⟨reply, same, Or.inr ⟨ok, (cleared.trans rest).congr ?_⟩⟩
                intro key
                exact or_iff_right_of_imp (under key)

theorem keysUnder_length_le {ν : Type} (objects : SortedStore String ν) (root : String) :
    (keysUnder objects root).length ≤ objects.entries.length :=
  le_trans (List.length_filter_le _ _) (le_of_eq (List.length_map _))

theorem ne_append_slash (root rest : String) : root ≠ root ++ "/" ++ rest := by
  intro same
  have lengths := congrArg (fun text : String => text.toList.length) same
  rw [String.toList_append, String.toList_append, List.length_append, List.length_append] at lengths
  have one : "/".toList.length = 1 := rfl
  omega

/-- A path with a slash at its end is removed as a folder. -/
theorem removeAll_folder {name key : String} {region : Region}
    (parsed : parsePath regions name = .ok (.object region bucket key))
    (driver : site.driverForRegion region.id = .ok endpoint) (slash : endsWithSlash key = true)
    (faults : RemovalFaults) (storage : Storage) {fuel : Nat}
    (enough : (storage (site.place endpoint bucket)).entries.length < fuel) :
    Exists fun reply => removeAll site pager regions name faults fuel storage = some reply ∧
      ((faults.Faulty ∧ reply.1 ≠ .ok ()) ∨ (reply.1 = .ok () ∧
        Cleared (site.place endpoint bucket) (fun other => Exists fun rest => other = key ++ rest)
          storage reply.2)) := by
  have removes : removeAll site pager regions name faults fuel storage =
      deletePrefix site pager region.id bucket key faults fuel "" storage := by
    rw [removeAll, parsed]
    exact if_pos slash
  rw [removes]
  exact deletePrefix_ends driver bucket key fuel "" storage none pager.cursor_empty
    (fun _ _ => trivial) (lt_of_le_of_lt (keysUnder_length_le _ _) enough)

/-- Any other path is removed as an object, and that succeeds whether or not there is one. -/
theorem removeAll_object {name key : String} {region : Region}
    (parsed : parsePath regions name = .ok (.object region bucket key))
    (driver : site.driverForRegion region.id = .ok endpoint) (plain : endsWithSlash key ≠ true)
    (faults : RemovalFaults) (fuel : Nat) (storage : Storage) :
    (Exists fun reply => removeAll site pager regions name faults fuel storage = some reply ∧
      reply.1 ≠ .ok () ∧ faults.delete key ≠ none) ∨
      removeAll site pager regions name faults fuel storage =
        some (.ok (), storage.erase (site.location endpoint bucket key)) := by
  rw [removeAll, parsed]
  simp only [if_neg plain]
  rcases deleteObject_cases driver bucket key (faults.delete key) storage with
    ⟨error, after, known, fault, failed⟩ | done
  · rw [failed]
    simp only [if_pos known]
    exact Or.inl ⟨_, rfl, (fun same => by cases same), fault⟩
  · rw [done]
    exact Or.inr rfl

/-- No call fails. -/
def noFaults : RemovalFaults := ⟨fun _ => none, fun _ => none, none⟩

theorem noFaults_not_faulty : ¬ noFaults.Faulty := by
  rintro (⟨_, fault⟩ | ⟨_, fault⟩)
  · exact fault rfl
  · exact fault rfl

/-- A removal takes a path and what is below it exactly if only one of the two is there: nothing
below a path without a slash at its end, and no object at a path with one. -/
theorem remove_all_removes_iff {name key : String} {region : Region}
    (parsed : parsePath regions name = .ok (.object region bucket key))
    (driver : site.driverForRegion region.id = .ok endpoint) (storage : Storage) :
    (forall faults, RemovesAll site pager regions name faults (site.place endpoint bucket) key
      storage) ↔ OnlyNamed (site.place endpoint bucket) key storage := by
  by_cases slash : endsWithSlash key = true
  · have folder := trimSuffixSlash_of_slash slash
    rw [OnlyNamed, if_pos slash]
    constructor
    · intro all
      have enough := Nat.lt_succ_self (storage (site.place endpoint bucket)).entries.length
      rcases @removeAll_folder site pager regions _ _ _ _ _ parsed driver slash noFaults storage _
        enough with ⟨reply, same, ⟨faulty, -⟩ | ⟨ok, cleared⟩⟩
      · exact absurd faulty noFaults_not_faulty
      · rcases all noFaults _ enough with ⟨again, second, promised⟩
        rw [same] at second
        cases second
        rw [← (promised ok).1 (trimSuffixSlash key) (Or.inl rfl), cleared.2]
        rintro - ⟨rest, under⟩
        exact ne_append_slash _ rest (under.trans (congrArg (· ++ rest) folder))
    · intro absent faults fuel enough
      rcases @removeAll_folder site pager regions _ _ _ _ _ parsed driver slash faults storage _
        enough with ⟨reply, same, ⟨-, failed⟩ | ⟨ok, cleared⟩⟩
      · exact ⟨reply, same, fun ok => absurd ok failed⟩
      · refine ⟨reply, same, fun _ => cleared.widen ?_ ?_⟩
        · rintro other ⟨rest, under⟩
          exact Or.inr ⟨rest, by rw [← folder]; exact under⟩
        · rintro other (here | ⟨rest, under⟩)
          · rw [here]
            exact Or.inr absent
          · exact Or.inl ⟨rest, by rw [folder]; exact under⟩
  · have self : trimSuffixSlash key = key := if_neg slash
    have erased := cleared_erase site endpoint bucket key storage
    have deleted (faults : RemovalFaults) (fuel : Nat) :=
      @removeAll_object site pager regions _ _ _ _ _ parsed driver slash faults fuel storage
    rw [OnlyNamed, if_neg slash]
    constructor
    · intro all rest
      rcases all noFaults _ (Nat.lt_succ_self _) with ⟨reply, same, promised⟩
      rcases deleted noFaults ((storage (site.place endpoint bucket)).entries.length + 1) with
        ⟨other, -, -, fault⟩ | made
      · exact absurd rfl fault
      · rw [made] at same
        cases same
        have gone := (promised rfl).1 (key ++ "/" ++ rest) (Or.inr ⟨rest, by rw [self]⟩)
        rwa [erased.2 _ _ fun _ same => ne_append_slash key rest same.symm] at gone
    · intro alone faults fuel _
      rcases deleted faults fuel with ⟨reply, same, failed, -⟩ | made
      · exact ⟨reply, same, fun ok => absurd ok failed⟩
      · refine ⟨_, made, fun _ => erased.widen ?_ ?_⟩
        · intro other same
          rw [self]
          exact Or.inl same
        · rw [self]
          rintro other (same | ⟨rest, rfl⟩)
          · exact Or.inl same
          · exact Or.inr (alone rest)

end Removal

/-! ## A folder without its slash -/

/-- The folder `trip` with one picture. -/
def tripStorage : Storage :=
  Storage.put (fun _ => .empty) ⟨"s3.example", "photos", "trip/a"⟩ ⟨[1, 2, 3], "image/png"⟩

theorem tripStorage_holds :
    (tripStorage (homeSite.place "s3.example" "photos")).get? ("trip" ++ "/" ++ "a") =
      some ⟨[1, 2, 3], "image/png"⟩ := by
  decide

theorem parsePath_trip :
    parsePath homeRegions "/home/photos/trip" = .ok (.object ⟨"r1", "home"⟩ "photos" "trip") := by
  decide

theorem remove_all_removes_iff_trip :
    parsePath homeRegions "/home/photos/trip" = .ok (.object ⟨"r1", "home"⟩ "photos" "trip") ∧
      ((forall faults, RemovesAll homeSite (namedPager 1000 (by decide)) homeRegions
          "/home/photos/trip" faults (homeSite.place "s3.example" "photos") "trip" tripStorage) ↔
        OnlyNamed (homeSite.place "s3.example" "photos") "trip" tripStorage) :=
  ⟨parsePath_trip, remove_all_removes_iff parsePath_trip rfl tripStorage⟩

/-- The folder is removed without an error, and its picture is still there. -/
theorem remove_folder_leaves_picture :
    Exists fun after =>
      removeAll homeSite (namedPager 1000 (by decide)) homeRegions "/home/photos/trip" noFaults 2
        tripStorage = some (.ok (), after) ∧
      (after (homeSite.place "s3.example" "photos")).get? "trip/a" ≠ none ∧
      ¬ RemovesAll homeSite (namedPager 1000 (by decide)) homeRegions "/home/photos/trip" noFaults
        (homeSite.place "s3.example" "photos") "trip" tripStorage := by
  have erased := cleared_erase homeSite "s3.example" "photos" "trip" tripStorage
  have kept : ((tripStorage.erase (homeSite.location "s3.example" "photos" "trip"))
      (homeSite.place "s3.example" "photos")).get? ("trip" ++ "/" ++ "a") ≠ none := by
    rw [erased.2 _ _ fun _ same => ne_append_slash "trip" "a" same.symm, tripStorage_holds]
    exact Option.some_ne_none _
  have made (fuel : Nat) := @removeAll_object homeSite (namedPager 1000 (by decide)) homeRegions
    _ _ _ _ _ parsePath_trip rfl (by decide) noFaults fuel tripStorage
  rcases made 2 with ⟨_, -, -, fault⟩ | done
  · exact absurd rfl fault
  · refine ⟨_, done, kept, ?_⟩
    intro removes
    rcases removes 2 (by decide) with ⟨reply, same, promised⟩
    rw [done] at same
    cases same
    exact kept ((promised rfl).1 _ (Or.inr ⟨"a", rfl⟩))

end Gateway
end Basement
