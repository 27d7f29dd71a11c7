import Basement.Drivers.Copy
import Basement.Library.SortedStore

namespace Basement
namespace Drivers

open Library

/-!
# Buckets that can be listed

The copy paths look at single objects.  Backups, restores and the retention pass also list
buckets, so here every bucket is a sorted store of its objects.  The world of the copy paths
is a view of it, and a copy that succeeds is one write to the destination's bucket.
-/

/-- A bucket of an endpoint. -/
structure Place where
  endpoint : String
  bucket : String
  deriving DecidableEq, Repr

def Location.place (location : Location) : Place := ⟨location.endpoint, location.bucket⟩

/-- The objects of every bucket. -/
abbrev Storage := Place -> SortedStore String StoredObject

def Storage.world (storage : Storage) : World :=
  fun location => (storage location.place).get? location.key

def Storage.put (storage : Storage) (location : Location) (object : StoredObject) : Storage :=
  Function.update storage location.place ((storage location.place).put location.key object)

def Storage.erase (storage : Storage) (location : Location) : Storage :=
  Function.update storage location.place ((storage location.place).erase location.key)

/-- The keys of a bucket under a prefix, as a listing without delimiter reports them. -/
def keysUnder {ν : Type} (objects : SortedStore String ν) (root : String) : List String :=
  (objects.entries.map Prod.fst).filter fun key => root.toList.isPrefixOf key.toList

/-- A bucket and the driver that reaches it. -/
structure Bucket where
  driver : Driver
  name : String
  deriving DecidableEq, Repr

def Bucket.place (bucket : Bucket) : Place := ⟨bucket.driver.endpoint, bucket.name⟩

def Bucket.at (bucket : Bucket) (key : String) : Location := bucket.driver.at ⟨bucket.name, key⟩

/-- The copy paths `copyObject` and `copyRestoreObject`. -/
abbrev CopyPath :=
  Driver -> Driver -> ObjectName -> ObjectName -> Faults -> World -> Except String World

/-- The storage after a copy that left the world so. -/
def Storage.settle (storage : Storage) (location : Location) (world : World) : Storage :=
  match world location with
  | some object => storage.put location object
  | none => storage

/-- One copy between two buckets. -/
def copyStored (path : CopyPath) (src dst : Bucket) (srcKey dstKey : String) (faults : Faults)
    (storage : Storage) : Except String Storage :=
  match path src.driver dst.driver ⟨src.name, srcKey⟩ ⟨dst.name, dstKey⟩ faults storage.world with
  | .error error => .error error
  | .ok after => .ok (storage.settle (dst.at dstKey) after)

/-- The copy is handed to the destination endpoint, which holds other bytes under the
source's names. -/
def Diverted (src dst : Bucket) (srcKey : String) (faults : Faults) (storage : Storage) : Prop :=
  OffersServerSideCopy src.driver dst.driver faults ∧
    HoldsForeignObject src.driver dst.driver ⟨src.name, srcKey⟩ faults storage.world

/-! ## Listings -/

theorem isPrefixOf_iff (root key : String) :
    root.toList.isPrefixOf key.toList = true ↔ Exists fun rest => key = root ++ rest := by
  rw [List.isPrefixOf_iff_prefix]
  constructor
  · rintro ⟨rest, split⟩
    refine ⟨String.ofList rest, ?_⟩
    rw [← String.toList_inj, String.toList_append, String.toList_ofList, split]
  · rintro ⟨rest, rfl⟩
    rw [String.toList_append]
    exact List.prefix_append _ _

theorem mem_keysUnder {ν : Type} {objects : SortedStore String ν} {root key : String} :
    key ∈ keysUnder objects root ↔
      objects.get? key ≠ none ∧ Exists fun rest => key = root ++ rest := by
  rw [keysUnder, List.mem_filter, isPrefixOf_iff, List.mem_map]
  refine and_congr_left fun _ => ?_
  constructor
  · rintro ⟨⟨listed, value⟩, member, rfl⟩
    rw [(objects.mem_entries_iff listed value).mp member]
    exact Option.some_ne_none value
  · intro present
    rcases Option.ne_none_iff_exists'.mp present with ⟨value, found⟩
    exact ⟨(key, value), (objects.mem_entries_iff key value).mpr found, rfl⟩

theorem keysUnder_nodup {ν : Type} (objects : SortedStore String ν) (root : String) :
    (keysUnder objects root).Nodup := by
  have distinct : (objects.entries.map Prod.fst).Nodup :=
    List.pairwise_map.mpr (objects.sorted.imp fun before => ne_of_lt before)
  exact distinct.filter _

/-! ## What a copy does -/

theorem Storage.get?_put (storage : Storage) (location : Location) (object : StoredObject)
    (place : Place) (key : String) :
    ((storage.put location object) place).get? key =
      if place = location.place ∧ key = location.key then some object
      else (storage place).get? key := by
  unfold Storage.put
  by_cases same : place = location.place
  · subst same
    rw [Function.update_self, SortedStore.get?_put]
    simp
  · rw [Function.update_of_ne same, if_neg fun both => same both.1]

theorem Storage.get?_put_at (storage : Storage) (bucket : Bucket) (key : String)
    (object : StoredObject) (place : Place) (other : String) :
    ((storage.put (bucket.at key) object) place).get? other =
      if place = bucket.place ∧ other = key then some object else (storage place).get? other :=
  storage.get?_put (bucket.at key) object place other

theorem Location.eq_of_place {location other : Location} (place : location.place = other.place)
    (key : location.key = other.key) : location = other := by
  cases location
  cases other
  cases place
  cases key
  rfl

theorem Storage.world_put (storage : Storage) (location : Location) (object : StoredObject) :
    (storage.put location object).world = Function.update storage.world location (some object) := by
  funext other
  unfold Storage.world
  rw [Storage.get?_put]
  by_cases same : other = location
  · rw [same, if_pos ⟨rfl, rfl⟩, Function.update_self]
  · rw [Function.update_of_ne same, if_neg]
    exact fun both => same (Location.eq_of_place both.1 both.2)

theorem Storage.world_erase (storage : Storage) (location : Location) :
    (storage.erase location).world = Function.update storage.world location none := by
  funext other
  unfold Storage.world Storage.erase
  by_cases here : other.place = location.place
  · rw [here, Function.update_self, SortedStore.get?_erase]
    by_cases same : other.key = location.key
    · rw [if_pos same, Location.eq_of_place here same, Function.update_self]
    · rw [if_neg same, Function.update_of_ne fun both => same (congrArg Location.key both), here]
  · rw [Function.update_of_ne here, Function.update_of_ne]
    exact fun both => here (congrArg Location.place both)

/-- The world has got an object at the location, and nothing else has changed. -/
def Stores (location : Location) (world after : World) : Prop :=
  Exists fun object => after = Function.update world location (some object)

theorem serverSideCopy_stores {driver : Driver} {src dst : ObjectName} {fault : Option String}
    {world after : World} (copied : driver.serverSideCopy src dst fault world = .ok after) :
    Stores (driver.at dst) world after := by
  unfold Driver.serverSideCopy at copied
  cases failed : fault with
  | some error => simp [failed] at copied
  | none =>
      cases held : world (driver.at src) with
      | none => simp [failed, held] at copied
      | some object => exact ⟨object, by simpa [failed, held] using copied.symm⟩

theorem streamThrough_stores {srcDriver dstDriver : Driver} {src dst : ObjectName}
    {streamText putText : String} {faults : Faults} {world after : World}
    (streamed : streamThrough srcDriver dstDriver src dst streamText putText faults world =
      .ok after) : Stores (dstDriver.at dst) world after := by
  unfold streamThrough at streamed
  cases read : srcDriver.streamObject src faults.streamObject world with
  | error error => simp [read] at streamed
  | ok object =>
      unfold Driver.putObjectStream at streamed
      cases failed : faults.putObjectStream with
      | some error => simp [read, failed] at streamed
      | none => exact ⟨object, by simpa [read, failed] using streamed.symm⟩

theorem copyChecked_stores {texts : CopyTexts} {srcDriver dstDriver : Driver} {src dst : ObjectName}
    {faults : Faults} {world after : World}
    (copied : copyChecked texts srcDriver dstDriver src dst faults world = .ok after) :
    Stores (dstDriver.at dst) world after := by
  unfold copyChecked at copied
  cases srcTold : srcDriver.capabilities faults.srcCapabilities with
  | error error => simp [srcTold] at copied
  | ok srcCaps =>
      cases dstTold : dstDriver.capabilities faults.dstCapabilities with
      | error error => simp [srcTold, dstTold] at copied
      | ok dstCaps =>
          simp only [srcTold, dstTold, fastOrStream] at copied
          split at copied
          · cases accepted : dstDriver.serverSideCopy src dst faults.serverSideCopy world with
            | ok fast =>
                rw [accepted] at copied
                cases Except.ok.inj copied
                exact serverSideCopy_stores accepted
            | error error =>
                rw [accepted] at copied
                exact streamThrough_stores copied
          · exact streamThrough_stores copied

/-- A copy that succeeds writes one object, and the source's bytes unless it was diverted. -/
theorem copyStored_ok {texts : CopyTexts} {src dst : Bucket} {srcKey dstKey : String}
    {faults : Faults} {storage after : Storage}
    (copied : copyStored (copyChecked texts) src dst srcKey dstKey faults storage = .ok after) :
    Exists fun object => after = storage.put (dst.at dstKey) object ∧
      (¬ Diverted src dst srcKey faults storage -> Exists fun source =>
        (storage src.place).get? srcKey = some source ∧ object.body = source.body) := by
  unfold copyStored at copied
  cases made : copyChecked texts src.driver dst.driver ⟨src.name, srcKey⟩ ⟨dst.name, dstKey⟩ faults
      storage.world with
  | error error => simp [made] at copied
  | ok world =>
      rcases copyChecked_stores made with ⟨object, rfl⟩
      rw [made] at copied
      have settled := Except.ok.inj copied
      unfold Storage.settle at settled
      have held : Function.update storage.world (dst.driver.at ⟨dst.name, dstKey⟩) (some object)
          (dst.at dstKey) = some object := Function.update_self _ _ _
      rw [held] at settled
      refine ⟨object, settled.symm, fun direct => ?_⟩
      have carries := (copyChecked_carriesSource_iff texts src.driver dst.driver ⟨src.name, srcKey⟩
        ⟨dst.name, dstKey⟩ faults storage.world).mpr direct
      rcases carries _ made with ⟨source, present, same⟩
      have bytes : object.body = source.body := by
        rw [Function.update_self] at same
        exact Option.some.inj same
      exact ⟨source, present, bytes⟩

/-- The objects of some keys have been copied, each under its new key, and nothing else has
changed. -/
structure Copied (src dst : Bucket) (pairs : List (String × String)) (storage after : Storage) :
    Prop where
  kept : forall place key, (place = dst.place -> key ∉ pairs.map Prod.snd) ->
    (after place).get? key = (storage place).get? key
  carried : forall pair, pair ∈ pairs -> Exists fun source => Exists fun object =>
    (storage src.place).get? pair.1 = some source ∧ (after dst.place).get? pair.2 = some object ∧
      object.body = source.body

theorem Copied.nil (src dst : Bucket) (storage : Storage) : Copied src dst [] storage storage where
  kept _ _ _ := rfl
  carried _ member := absurd member List.not_mem_nil

/-- One more copy in front, to a key that the others neither read nor write. -/
theorem Copied.cons {texts : CopyTexts} {src dst : Bucket} {srcKey dstKey : String}
    {rest : List (String × String)} {faults : Faults} {storage middle after : Storage}
    (copied : copyStored (copyChecked texts) src dst srcKey dstKey faults storage = .ok middle)
    (direct : ¬ Diverted src dst srcKey faults storage) (once : dstKey ∉ rest.map Prod.snd)
    (unread : src.place = dst.place -> dstKey ∉ rest.map Prod.fst)
    (later : Copied src dst rest middle after) :
    Copied src dst ((srcKey, dstKey) :: rest) storage after := by
  rcases copyStored_ok copied with ⟨object, rfl, bytes⟩
  rcases bytes direct with ⟨source, present, same⟩
  refine ⟨?_, ?_⟩
  · intro place key elsewhere
    rw [later.kept place key fun here member => elsewhere here (List.mem_cons_of_mem _ member),
      Storage.get?_put_at, if_neg]
    rintro ⟨here, written⟩
    exact elsewhere here (List.mem_cons.mpr (Or.inl written))
  · intro other member
    rcases List.mem_cons.mp member with rfl | listed
    · refine ⟨source, object, present, ?_, same⟩
      rw [later.kept _ _ fun _ => once, Storage.get?_put_at]
      exact if_pos ⟨rfl, rfl⟩
    · rcases later.carried other listed with ⟨held, moved, read, stored, equal⟩
      refine ⟨held, moved, ?_, stored, equal⟩
      rw [Storage.get?_put_at, if_neg] at read
      · exact read
      · rintro ⟨here, written⟩
        exact unread here (written ▸ List.mem_map_of_mem listed)

end Drivers
end Basement
