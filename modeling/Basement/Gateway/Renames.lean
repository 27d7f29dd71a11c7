import Basement.Gateway.Paths

namespace Basement
namespace Gateway

open Library Drivers

/-!
# Renaming a file

A rename copies the object to its new key and then deletes the old one.  The two keys come from
paths, and neither they nor their locations are compared.

The copy reads what the service takes for its source, which need not be the object of the path.
-/

variable (site : Site) (regions : Except FsError (List Region))

/-- `Rename`. -/
def rename (oldName newName : String) (copyFault deleteFault : Option Failure)
    (storage : Storage) : Reply :=
  match parsePath regions oldName with
  | .error error => (.error error, storage)
  | .ok src =>
      match parsePath regions newName with
      | .error error => (.error error, storage)
      | .ok dst =>
          match src, dst with
          | .object srcRegion srcBucket srcKey, .object dstRegion dstBucket dstKey =>
              if srcRegion.id ≠ dstRegion.id then (.error .permission, storage)
              else if endsWithSlash srcKey || endsWithSlash dstKey then
                (.error .permission, storage)
              else
                match site.copyObject srcRegion.id srcBucket srcKey dstRegion.id dstBucket dstKey
                  copyFault storage with
                | (.error error, after) => (.error error, after)
                | (.ok _, after) =>
                    site.deleteObject srcRegion.id srcBucket srcKey deleteFault after
          | _, _ => (.error .permission, storage)

/-! ## What a rename is to do -/

/-- The file is at the new path and only there, or a failed rename has left it at one of the
two. -/
structure KeepsFile (oldName newName : String) (storage : Storage) (reply : Reply) : Prop where
  moved : reply.1 = .ok () -> Exists fun src => Exists fun dst => Exists fun object =>
    Exists fun moved => Names site regions oldName src ∧ Names site regions newName dst ∧
      storage.world src = some object ∧ reply.2.world dst = some moved ∧
      moved.body = object.body ∧
      (forall other, other ≠ src -> other ≠ dst -> reply.2.world other = storage.world other) ∧
      (src ≠ dst -> reply.2.world src = none)
  failed : forall error, reply.1 = .error error -> forall src object,
    Names site regions oldName src -> storage.world src = some object ->
      Exists fun location => Exists fun held =>
        (location = src ∨ Names site regions newName location) ∧
          reply.2.world location = some held ∧ held.body = object.body

/-- The pair of paths is of two keys of one region, and the region has a driver. -/
structure Accepts (oldName newName endpoint srcBucket srcKey dstBucket dstKey : String) :
    Prop where
  paths : Exists fun srcRegion => Exists fun dstRegion =>
    parsePath regions oldName = .ok (.object srcRegion srcBucket srcKey) ∧
      parsePath regions newName = .ok (.object dstRegion dstBucket dstKey) ∧
      srcRegion.id = dstRegion.id ∧ site.driverForRegion srcRegion.id = .ok endpoint
  srcKey : endsWithSlash srcKey = false
  dstKey : endsWithSlash dstKey = false

/-- Where the service finds a source, the source is there with the bytes it reads, and is not
the destination. -/
def Movable (oldName newName : String) (storage : Storage) : Prop :=
  forall endpoint srcBucket srcKey dstBucket dstKey,
    Accepts site regions oldName newName endpoint srcBucket srcKey dstBucket dstKey ->
      forall read, site.copyRead endpoint srcBucket srcKey storage = some read ->
        site.location endpoint srcBucket srcKey ≠ site.location endpoint dstBucket dstKey ∧
          Exists fun object =>
            storage.world (site.location endpoint srcBucket srcKey) = some object ∧
              object.body = read.body

/-! ## What it does -/

section Rename

variable {site : Site} {regions : Except FsError (List Region)} {oldName newName : String}
  {storage : Storage}

/-- The copy and the deletion of an accepted pair. -/
def move (site : Site) (endpoint srcBucket srcKey dstBucket dstKey : String)
    (copyFault deleteFault : Option Failure) (storage : Storage) : Reply :=
  match attempt copyFault storage
    (site.serverSideCopy endpoint srcBucket srcKey dstBucket dstKey) with
  | (.error error, after) => (.error error, after)
  | (.ok _, after) => attempt deleteFault after (erasing (site.location endpoint srcBucket srcKey))

theorem Accepts.rename_eq {endpoint srcBucket srcKey dstBucket dstKey : String}
    (accepted : Accepts site regions oldName newName endpoint srcBucket srcKey dstBucket dstKey)
    (copyFault deleteFault : Option Failure) (storage : Storage) :
    rename site regions oldName newName copyFault deleteFault storage =
      move site endpoint srcBucket srcKey dstBucket dstKey copyFault deleteFault storage := by
  rcases accepted.paths with ⟨srcRegion, dstRegion, parsedOld, parsedNew, same, driver⟩
  rw [rename, parsedOld, parsedNew]
  simp only [same, ne_eq, not_true_eq_false, if_false, accepted.srcKey, accepted.dstKey,
    Bool.or_self, Bool.false_eq_true, Site.copyObject, Site.deleteObject]
  rw [same] at driver
  rw [driver, move]

/-- A rename is refused or made. -/
theorem rename_cases (site : Site) (regions : Except FsError (List Region))
    (oldName newName : String) :
    (forall copyFault deleteFault storage, Exists fun error =>
      rename site regions oldName newName copyFault deleteFault storage =
        (.error error, storage)) ∨
      Exists fun endpoint => Exists fun srcBucket => Exists fun srcKey =>
        Exists fun dstBucket => Exists fun dstKey =>
          Accepts site regions oldName newName endpoint srcBucket srcKey dstBucket dstKey := by
  by_cases accepted : Exists fun endpoint => Exists fun srcBucket => Exists fun srcKey =>
    Exists fun dstBucket => Exists fun dstKey =>
      Accepts site regions oldName newName endpoint srcBucket srcKey dstBucket dstKey
  · exact Or.inr accepted
  · left
    intro copyFault deleteFault storage
    rw [rename]
    cases parsedOld : parsePath regions oldName with
    | error error => exact ⟨error, rfl⟩
    | ok src =>
        cases parsedNew : parsePath regions newName with
        | error error => exact ⟨error, rfl⟩
        | ok dst =>
            cases src with
            | root => exact ⟨_, rfl⟩
            | region held => exact ⟨_, rfl⟩
            | bucket held name => exact ⟨_, rfl⟩
            | object srcRegion srcBucket srcKey =>
                cases dst with
                | root => exact ⟨_, rfl⟩
                | region held => exact ⟨_, rfl⟩
                | bucket held name => exact ⟨_, rfl⟩
                | object dstRegion dstBucket dstKey =>
                    dsimp only
                    split
                    · exact ⟨_, rfl⟩
                    · rename_i same
                      split
                      · exact ⟨_, rfl⟩
                      · rename_i plain
                        rw [Bool.not_eq_true, Bool.or_eq_false_iff] at plain
                        rw [Site.copyObject, if_neg same]
                        cases driver : site.driverForRegion srcRegion.id with
                        | error error => exact ⟨error, rfl⟩
                        | ok endpoint =>
                            exact absurd ⟨endpoint, srcBucket, srcKey, dstBucket, dstKey,
                              ⟨srcRegion, dstRegion, parsedOld, parsedNew, not_not.mp same,
                                driver⟩, plain.1, plain.2⟩ accepted

theorem Accepts.names {endpoint srcBucket srcKey dstBucket dstKey : String}
    (accepted : Accepts site regions oldName newName endpoint srcBucket srcKey dstBucket dstKey) :
    Names site regions oldName (site.location endpoint srcBucket srcKey) ∧
      Names site regions newName (site.location endpoint dstBucket dstKey) := by
  rcases accepted.paths with ⟨srcRegion, dstRegion, parsedOld, parsedNew, same, driver⟩
  refine ⟨⟨srcRegion, srcBucket, srcKey, endpoint, parsedOld, driver, rfl⟩,
    ⟨dstRegion, dstBucket, dstKey, endpoint, parsedNew, ?_, rfl⟩⟩
  rw [← same]
  exact driver

/-- A failed rename that has changed nothing keeps the file. -/
theorem keepsFile_unchanged (site : Site) (regions : Except FsError (List Region))
    (oldName newName : String) (error : FsError) (storage : Storage) :
    KeepsFile site regions oldName newName storage (.error error, storage) where
  moved done := by cases done
  failed _ _ src object _ present := ⟨src, object, Or.inl rfl, present, rfl⟩

/-- A failed rename keeps the file whose bytes are at one of the two paths. -/
theorem keepsFile_failed {src location : Location} {object held : StoredObject} {after : Storage}
    (named : Names site regions oldName src) (present : storage.world src = some object)
    (reached : location = src ∨ Names site regions newName location)
    (there : after.world location = some held) (bytes : held.body = object.body)
    (error : FsError) : KeepsFile site regions oldName newName storage (.error error, after) where
  moved done := by cases done
  failed := by
    intro _ _ other moved namedOther heldThere
    cases namedOther.unique named
    rw [present] at heldThere
    cases heldThere
    exact ⟨location, held, reached, there, bytes⟩

/-- A move between two locations, from a source that the service reads as it is. -/
theorem Accepts.keepsFile {endpoint srcBucket srcKey dstBucket dstKey : String}
    (accepted : Accepts site regions oldName newName endpoint srcBucket srcKey dstBucket dstKey)
    {object read : StoredObject} (found : site.copyRead endpoint srcBucket srcKey storage = some read)
    (apart : site.location endpoint srcBucket srcKey ≠ site.location endpoint dstBucket dstKey)
    (present : storage.world (site.location endpoint srcBucket srcKey) = some object)
    (bytes : object.body = read.body) (copyFault deleteFault : Option Failure) :
    KeepsFile site regions oldName newName storage
      (move site endpoint srcBucket srcKey dstBucket dstKey copyFault deleteFault storage) := by
  have named := accepted.names
  generalize srcIs : site.location endpoint srcBucket srcKey = src at *
  generalize dstIs : site.location endpoint dstBucket dstKey = dst at *
  have copied : site.serverSideCopy endpoint srcBucket srcKey dstBucket dstKey storage =
      .ok (storage.put dst read) := by
    rw [Site.serverSideCopy, found, dstIs]
  have kept : (storage.put dst read).world src = some object := by
    rw [Storage.world_put, Function.update_of_ne apart, present]
  have arrived : (storage.put dst read).world dst = some read := by
    rw [Storage.world_put, Function.update_self]
  have stays : ((storage.put dst read).erase src).world dst = some read := by
    rw [Storage.world_erase, Function.update_of_ne (Ne.symm apart), arrived]
  rw [move, srcIs]
  rcases attempt_ok copyFault copied with ⟨rfl, done⟩ | ⟨failure, rfl, broken⟩
  · rw [done]
    dsimp only
    have erased : erasing src (storage.put dst read) = .ok ((storage.put dst read).erase src) := rfl
    rcases attempt_ok deleteFault erased with ⟨rfl, gone⟩ | ⟨failure, rfl, broken⟩
    · rw [gone]
      refine ⟨fun _ => ⟨src, dst, object, read, named.1, named.2, present, stays, bytes.symm,
        ?_, ?_⟩, fun error done => by cases done⟩
      · intro other notSrc notDst
        rw [Storage.world_erase, Function.update_of_ne notSrc, Storage.world_put,
          Function.update_of_ne notDst]
      · intro _
        rw [Storage.world_erase, Function.update_self]
    · rw [broken]
      refine keepsFile_failed named.1 present (Or.inr named.2) ?_ bytes.symm _
      split
      · exact stays
      · exact arrived
  · rw [broken]
    refine keepsFile_failed named.1 present (Or.inl rfl) ?_ rfl _
    split
    · exact kept
    · exact present

/-- A move that nothing disturbs, from a source that the service finds. -/
theorem move_eq {endpoint srcBucket srcKey : String} {read : StoredObject}
    (found : site.copyRead endpoint srcBucket srcKey storage = some read)
    (dstBucket dstKey : String) :
    move site endpoint srcBucket srcKey dstBucket dstKey none none storage =
      (.ok (), (storage.put (site.location endpoint dstBucket dstKey) read).erase
        (site.location endpoint srcBucket srcKey)) := by
  rw [move, attempt, Site.serverSideCopy, found]
  rfl

/-- A rename between two names of one location reports success, and the object is gone. -/
theorem Accepts.rename_in_place {endpoint srcBucket srcKey dstBucket dstKey : String}
    (accepted : Accepts site regions oldName newName endpoint srcBucket srcKey dstBucket dstKey)
    (same : site.location endpoint srcBucket srcKey = site.location endpoint dstBucket dstKey)
    {read : StoredObject} (found : site.copyRead endpoint srcBucket srcKey storage = some read) :
    Exists fun after =>
      rename site regions oldName newName none none storage = (.ok (), after) ∧
        after.world = Function.update storage.world (site.location endpoint srcBucket srcKey) none := by
  refine ⟨_, (accepted.rename_eq none none storage).trans (move_eq found dstBucket dstKey), ?_⟩
  rw [Storage.world_erase, Storage.world_put, ← same, Function.update_idem]

/-- A rename keeps the file, however its calls fail, exactly if it moves what its paths name. -/
theorem rename_keeps_file_iff (site : Site) (regions : Except FsError (List Region))
    (oldName newName : String) (storage : Storage) :
    (forall copyFault deleteFault, KeepsFile site regions oldName newName storage
      (rename site regions oldName newName copyFault deleteFault storage)) ↔
      Movable site regions oldName newName storage := by
  constructor
  · intro keeps endpoint srcBucket srcKey dstBucket dstKey accepted read found
    have kept := keeps none none
    rw [accepted.rename_eq] at kept
    rw [move_eq found] at kept
    rcases kept.moved rfl with ⟨src, dst, object, moved, namedOld, namedNew, present, arrived,
      bytes, -, -⟩
    rw [namedOld.unique accepted.names.1] at present
    rw [namedNew.unique accepted.names.2, Storage.world_erase] at arrived
    have apart : site.location endpoint srcBucket srcKey ≠
        site.location endpoint dstBucket dstKey := by
      intro same
      rw [← same, Function.update_self] at arrived
      cases arrived
    rw [Function.update_of_ne (Ne.symm apart), Storage.world_put, Function.update_self] at arrived
    cases arrived
    exact ⟨apart, object, present, bytes.symm⟩
  · intro movable copyFault deleteFault
    rcases rename_cases site regions oldName newName with refused |
      ⟨endpoint, srcBucket, srcKey, dstBucket, dstKey, accepted⟩
    · rcases refused copyFault deleteFault storage with ⟨error, same⟩
      rw [same]
      exact keepsFile_unchanged site regions oldName newName error storage
    · rw [accepted.rename_eq]
      cases found : site.copyRead endpoint srcBucket srcKey storage with
      | none =>
          have fails : site.serverSideCopy endpoint srcBucket srcKey dstBucket dstKey storage =
              .error (.invalid "NoSuchKey") := by
            rw [Site.serverSideCopy, found]
          rcases attempt_error copyFault fails with ⟨error, same⟩
          rw [move, same]
          exact keepsFile_unchanged site regions oldName newName error storage
      | some read =>
          rcases movable endpoint srcBucket srcKey dstBucket dstKey accepted read found with
            ⟨apart, object, present, bytes⟩
          exact accepted.keepsFile found apart present bytes copyFault deleteFault

end Rename

/-! ## Two spellings of one path -/

/-- A storage with the object `a` in the bucket `photos`. -/
def photoStorage : Storage :=
  Storage.put (fun _ => .empty) ⟨"s3.example", "photos", "a"⟩ ⟨[1, 2, 3], "image/png"⟩

/-- The object is renamed from `/home/photos/a` to `/home/photos//a` and is gone. -/
theorem rename_respelled_loses_file :
    (rename homeSite homeRegions "/home/photos/a" "/home/photos//a" none none photoStorage).1 =
        .ok () ∧
      ¬ forall copyFault deleteFault,
        KeepsFile homeSite homeRegions "/home/photos/a" "/home/photos//a" photoStorage
          (rename homeSite homeRegions "/home/photos/a" "/home/photos//a" copyFault deleteFault
            photoStorage) := by
  have accepted : Accepts homeSite homeRegions "/home/photos/a" "/home/photos//a" "s3.example"
      "photos" "a" "photos" "a" :=
    ⟨⟨⟨"r1", "home"⟩, ⟨"r1", "home"⟩, by decide, by decide, rfl, rfl⟩, by decide, by decide⟩
  have read : requestedObject ⟨"photos", "a"⟩ = some ⟨"photos", "a"⟩ := by
    rw [requestedObject, (copySource_names_iff _ _).mpr ⟨by decide, by decide⟩, Option.bind_some,
      splitPath_objectPath _ (by decide)]
  have found : homeSite.copyRead "s3.example" "photos" "a" photoStorage =
      some ⟨[1, 2, 3], "image/png"⟩ := by
    rw [Site.copyRead, read]
    rfl
  rcases accepted.rename_in_place rfl found with ⟨after, done, lost⟩
  rw [done]
  refine ⟨rfl, ?_⟩
  intro keeps
  have kept := keeps none none
  rw [done] at kept
  rcases kept.moved rfl with ⟨src, dst, object, moved, -, named, -, arrived, -⟩
  rw [named.unique accepted.names.2, lost] at arrived
  cases arrived

end Gateway
end Basement
