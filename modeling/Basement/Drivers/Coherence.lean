import Basement.Api.Regions
import Basement.Drivers.Registry
import Basement.Library.TaggedCache
import Basement.Library.Transition

namespace Basement
namespace Drivers

open Library Library.Transition
open Api (trimSpace)

/-!
# Cached drivers and edits of their configuration

A lookup that misses the cache reads the configuration, builds a driver from it outside of the
lock and files the driver in a last step.  An edit writes the store first and evicts the cached
driver in a later call.  Between any two of these steps every other lookup and edit can take
place.

Each write of a store has a number, and a row or a driver carries the write it goes back to.
An origin is retired when the edit that replaced it has returned from its first call of
`Invalidate` or `InvalidateUserRegion`.
-/

/-! ## Origins -/

/-- The stores that drivers are configured by. -/
inductive Tier where
  | connection | region
  deriving DecidableEq, Repr

/-- The row of a store, and the number of the write that gave it its contents. -/
structure Origin where
  tier : Tier
  id : String
  write : Nat
  deriving DecidableEq, Repr

structure Sourced (α : Type) where
  value : α
  origin : Origin
  deriving DecidableEq

/-- A factory whose drivers remember where their config comes from. -/
def Factory.sourced {Driver : Type} (factory : Factory Driver) (origin : Origin) :
    Factory (Sourced Driver) where
  opens name cfg := (factory.opens name cfg).map fun drv => ⟨drv, origin⟩
  config drv := factory.config drv.value
  bound := by
    intro name cfg drv opened
    cases built : factory.opens name cfg with
    | error error =>
        rw [built] at opened
        cases opened
    | ok made =>
        rw [built] at opened
        cases opened
        exact factory.bound built

/-- The driver type and the config of a connection. -/
abbrev ConnectionRow := String × DriverConfig

/-- What `Update` of the connection store makes of a row. -/
def patchedRow (conn : ConnectionRow) (driver : String) (config : Option DriverConfig) :
    ConnectionRow :=
  (if driver = "" then conn.1 else driver, config.getD conn.2)

/-- What the rotation of a region's key makes of the region. -/
def RegionArgs.rotated (args : RegionArgs) (accessKeyID secretKey : String) : RegionArgs :=
  { args with accessKeyID := accessKeyID, secretKey := secretKey }

/-! ## The system -/

/-- A lookup that has not returned, with the origins that were retired when it started. -/
inductive Lookup (Driver : Type) where
  | missed (connID : String) (retired : List Origin)
  | built (connID : String) (retired : List Origin) (drv : Sourced Driver)
  | builtRegion (args : RegionArgs) (retired : List Origin) (drv : Sourced Driver)

/-- A driver that a lookup returned, with the origins that were retired when it started. -/
structure Answer (Driver : Type) where
  drv : Sourced Driver
  retired : List Origin

/-- The call of `Invalidate` that an edit still has to make. -/
structure ConnectionPurge where
  connID : String
  replaced : Origin

/-- The calls of `InvalidateUserRegion` that an edit still has to make: an endpoint and an
access key ID for each. -/
structure RegionPurge where
  keys : List (String × String)
  replaced : Origin

/-- The stores, the registry, what is under way, and what lookups have returned.  `copies` are
the regions as handlers have read them. -/
structure Serving (Driver : Type) where
  connections : SortedStore String (Sourced ConnectionRow)
  regions : SortedStore String (Sourced RegionArgs)
  registry : Registry (Sourced Driver)
  writes : Nat := 0
  lookups : List (Lookup Driver) := []
  copies : List (Sourced RegionArgs) := []
  purges : List ConnectionPurge := []
  regionPurges : List RegionPurge := []
  retired : List Origin := []
  answers : List (Answer Driver) := []

/-- An installation without connections and regions. -/
def Serving.new (Driver : Type) (wired : Bool) : Serving Driver where
  connections := SortedStore.empty
  regions := SortedStore.empty
  registry := Registry.new (Sourced Driver) wired

inductive ServingAction where
  | createConnection (id : String) (row : ConnectionRow)
  | updateConnection (id driver : String) (config : Option DriverConfig)
  | deleteConnection (id : String)
  | invalidate (purge : Nat)
  | createRegion (id : String) (args : RegionArgs)
  | readRegion (id : String)
  | rotateRegion (copy : Nat) (accessKeyID secretKey : String)
  | deleteRegion (copy : Nat)
  | invalidateRegion (purge : Nat)
  | startFor (connID : String)
  | startForRegion (copy : Nat)
  | load (lookup : Nat)
  | finish (lookup : Nat)

variable {Driver : Type}

/-- A connection gets new contents, or none. -/
def Serving.writeConnection (s : Serving Driver) (id : String) (row : Option ConnectionRow) :
    Serving Driver :=
  { s with
    connections := s.connections.set id (row.map fun row => ⟨row, .connection, id, s.writes⟩)
    writes := s.writes + 1 }

/-- A region gets new contents, or none. -/
def Serving.writeRegion (s : Serving Driver) (id : String) (row : Option RegionArgs) :
    Serving Driver :=
  { s with
    regions := s.regions.set id (row.map fun row => ⟨row, .region, id, s.writes⟩)
    writes := s.writes + 1 }

/-- The evictions after a rotation: for the key as the handler read it, and for the new key if
that is another one. -/
def rotationKeys (copy updated : RegionArgs) : List (String × String) :=
  (copy.endpoint, copy.accessKeyID) ::
    if updated.accessKeyID = copy.accessKeyID then []
    else [(updated.endpoint, updated.accessKeyID)]

variable (factory : Factory Driver)

def Serving.step (s : Serving Driver) : ServingAction -> Option (Serving Driver)
  | .createConnection id row =>
      if s.connections.get? id = none then some (s.writeConnection id (some row)) else none
  | .updateConnection id driver config =>
      match s.connections.get? id with
      | none => none
      | some cur => some { s.writeConnection id (some (patchedRow cur.value driver config)) with
          purges := s.purges ++ [⟨id, cur.origin⟩] }
  | .deleteConnection id =>
      match s.connections.get? id with
      | none => none
      | some cur => some { s.writeConnection id none with purges := s.purges ++ [⟨id, cur.origin⟩] }
  | .invalidate purge =>
      match s.purges[purge]? with
      | none => none
      | some pending => some { s with
          registry := s.registry.invalidate pending.connID
          retired := pending.replaced :: s.retired
          purges := s.purges.eraseIdx purge }
  | .createRegion id args =>
      if s.regions.get? id = none then some (s.writeRegion id (some args)) else none
  | .readRegion id =>
      match s.regions.get? id with
      | none => none
      | some row => some { s with copies := s.copies ++ [row] }
  | .rotateRegion copy accessKeyID secretKey =>
      match s.copies[copy]? with
      | none => none
      | some held =>
          if trimSpace accessKeyID = "" ∨ trimSpace secretKey = "" then none
          else
            match s.regions.get? held.origin.id with
            | none => none
            | some cur =>
                let updated := cur.value.rotated (trimSpace accessKeyID) (trimSpace secretKey)
                some { s.writeRegion held.origin.id (some updated) with
                  regionPurges :=
                    s.regionPurges ++ [⟨rotationKeys held.value updated, cur.origin⟩] }
  | .deleteRegion copy =>
      match s.copies[copy]? with
      | none => none
      | some held =>
          match s.regions.get? held.origin.id with
          | none => none
          | some cur => some { s.writeRegion held.origin.id none with
              regionPurges := s.regionPurges ++
                [⟨[(held.value.endpoint, held.value.accessKeyID)], cur.origin⟩] }
  | .invalidateRegion purge =>
      match s.regionPurges[purge]? with
      | none => none
      | some ⟨[], _⟩ => none
      | some ⟨key :: rest, replaced⟩ => some { s with
          registry := s.registry.invalidateUserRegion key.1 key.2
          retired := replaced :: s.retired
          regionPurges := s.regionPurges.set purge ⟨rest, replaced⟩ }
  | .startFor connID =>
      match s.registry.cache.get? connID with
      | some cached => some { s with answers := s.answers ++ [⟨cached, s.retired⟩] }
      | none => some { s with lookups := s.lookups ++ [.missed connID s.retired] }
  | .startForRegion copy =>
      match s.copies[copy]? with
      | none => none
      | some held =>
          if held.value.Complete ∧ s.registry.regionsWired = true then
            match s.registry.regionCache.get?
              (joinKey held.value.endpoint held.value.accessKeyID) with
            | some cached => some { s with answers := s.answers ++ [⟨cached, s.retired⟩] }
            | none =>
                match (factory.sourced held.origin).opens "garage-v1" (regionConfig held.value) with
                | .error _ => some s
                | .ok drv => some { s with
                    lookups := s.lookups ++ [.builtRegion held.value s.retired drv] }
          else some s
  | .load lookup =>
      match s.lookups[lookup]? with
      | some (.missed connID retired) =>
          match s.connections.get? connID with
          | none => some { s with lookups := s.lookups.eraseIdx lookup }
          | some row =>
              match (factory.sourced row.origin).opens row.value.1 row.value.2 with
              | .error _ => some { s with lookups := s.lookups.eraseIdx lookup }
              | .ok drv => some { s with lookups := s.lookups.set lookup (.built connID retired drv) }
      | _ => none
  | .finish lookup =>
      match s.lookups[lookup]? with
      | some (.built connID retired drv) => some { s with
          registry := { s.registry with cache := s.registry.cache.put connID drv }
          lookups := s.lookups.eraseIdx lookup
          answers := s.answers ++ [⟨drv, retired⟩] }
      | some (.builtRegion args retired drv) => some { s with
          registry := { s.registry with
            regionCache :=
              s.registry.regionCache.put (joinKey args.endpoint args.accessKeyID) drv }
          lookups := s.lookups.eraseIdx lookup
          answers := s.answers ++ [⟨drv, retired⟩] }
      | _ => none

/-! ## Stale drivers -/

/-- No lookup has returned a driver whose origin was retired when the lookup started, and none
that starts now finds one in the cache. -/
structure Serving.Fresh (s : Serving Driver) : Prop where
  answers : forall answer, answer ∈ s.answers -> answer.drv.origin ∉ answer.retired
  cache : s.registry.cache.Current Sourced.origin s.retired
  regionCache : s.registry.regionCache.Current Sourced.origin s.retired

/-- The driver that the lookup has built. -/
def Lookup.drv? : Lookup Driver -> Option (Sourced Driver)
  | .missed _ _ => none
  | .built _ _ drv => some drv
  | .builtRegion _ _ drv => some drv

/-- A lookup files no driver whose origin is retired by now, and the first eviction for a region
reaches all drivers of the region as it was before the edit. -/
def Serving.Undisturbed (s : Serving Driver) : ServingAction -> Prop
  | .finish lookup => forall pending drv, s.lookups[lookup]? = some pending ->
      pending.drv? = some drv -> drv.origin ∉ s.retired
  | .invalidateRegion purge => forall key rest replaced,
      s.regionPurges[purge]? = some ⟨key :: rest, replaced⟩ ->
        s.registry.regionCache.Every fun other drv =>
          drv.origin = replaced -> other = joinKey key.1 key.2
  | _ => True

variable {factory}

/-- A driver from a sourced factory has the origin it was asked for with. -/
theorem Factory.sourced_origin {origin : Origin} {name : String} {cfg : DriverConfig}
    {drv : Sourced Driver} (opened : (factory.sourced origin).opens name cfg = .ok drv) :
    drv.origin = origin := by
  cases built : factory.opens name cfg with
  | error error =>
      simp only [Factory.sourced, built] at opened
      cases opened
  | ok made =>
      simp only [Factory.sourced, built] at opened
      cases opened
      rfl

/-! ## What a step can do -/

/-- An edit, a lookup that is served, and a lookup that goes on.  `quiet` edits disturb no
lookup. -/
inductive Serving.Move (s : Serving Driver) : ServingAction -> Serving Driver -> Prop where
  | createdConnection (id : String) (row : ConnectionRow) :
      Move s (.createConnection id row) (s.writeConnection id (some row))
  | createdRegion (id : String) (args : RegionArgs) :
      Move s (.createRegion id args) (s.writeRegion id (some args))
  | replacedConnection {action : ServingAction} {id : String} {cur : Sourced ConnectionRow}
      (quiet : s.Undisturbed action) (row : Option ConnectionRow)
      (found : s.connections.get? id = some cur) :
      Move s action
        { s.writeConnection id row with purges := s.purges ++ [⟨id, cur.origin⟩] }
  | replacedRegion {action : ServingAction} {id : String} {cur : Sourced RegionArgs}
      (quiet : s.Undisturbed action) (args : Option RegionArgs) (keys : List (String × String))
      (found : s.regions.get? id = some cur) :
      Move s action
        { s.writeRegion id args with regionPurges := s.regionPurges ++ [⟨keys, cur.origin⟩] }
  | evicted {purge : Nat} {pending : ConnectionPurge} (found : s.purges[purge]? = some pending) :
      Move s (.invalidate purge) { s with
        registry := s.registry.invalidate pending.connID
        retired := pending.replaced :: s.retired
        purges := s.purges.eraseIdx purge }
  | evictedRegion {purge : Nat} {key : String × String} {rest : List (String × String)}
      {replaced : Origin} (found : s.regionPurges[purge]? = some ⟨key :: rest, replaced⟩) :
      Move s (.invalidateRegion purge) { s with
        registry := s.registry.invalidateUserRegion key.1 key.2
        retired := replaced :: s.retired
        regionPurges := s.regionPurges.set purge ⟨rest, replaced⟩ }
  | copied {id : String} {row : Sourced RegionArgs} (found : s.regions.get? id = some row) :
      Move s (.readRegion id) { s with copies := s.copies ++ [row] }
  | served {connID : String} {drv : Sourced Driver}
      (cached : s.registry.cache.get? connID = some drv) :
      Move s (.startFor connID) { s with answers := s.answers ++ [⟨drv, s.retired⟩] }
  | servedRegion {copy : Nat} {key : String} {drv : Sourced Driver}
      (cached : s.registry.regionCache.get? key = some drv) :
      Move s (.startForRegion copy) { s with answers := s.answers ++ [⟨drv, s.retired⟩] }
  | refused (copy : Nat) : Move s (.startForRegion copy) s
  | missed (connID : String) :
      Move s (.startFor connID) { s with lookups := s.lookups ++ [.missed connID s.retired] }
  | missedRegion {copy : Nat} {held : Sourced RegionArgs} {drv : Sourced Driver}
      (read : s.copies[copy]? = some held) (built : drv.origin = held.origin) :
      Move s (.startForRegion copy)
        { s with lookups := s.lookups ++ [.builtRegion held.value s.retired drv] }
  | gaveUp (lookup : Nat) : Move s (.load lookup) { s with lookups := s.lookups.eraseIdx lookup }
  | loaded {lookup : Nat} {connID : String} {retired : List Origin} {row : Sourced ConnectionRow}
      {drv : Sourced Driver} (found : s.lookups[lookup]? = some (.missed connID retired))
      (present : s.connections.get? connID = some row) (built : drv.origin = row.origin) :
      Move s (.load lookup) { s with lookups := s.lookups.set lookup (.built connID retired drv) }
  | filed {lookup : Nat} {connID : String} {retired : List Origin} {drv : Sourced Driver}
      (found : s.lookups[lookup]? = some (.built connID retired drv)) :
      Move s (.finish lookup) { s with
        registry := { s.registry with cache := s.registry.cache.put connID drv }
        lookups := s.lookups.eraseIdx lookup
        answers := s.answers ++ [⟨drv, retired⟩] }
  | filedRegion {lookup : Nat} {args : RegionArgs} {retired : List Origin} {drv : Sourced Driver}
      (found : s.lookups[lookup]? = some (.builtRegion args retired drv)) :
      Move s (.finish lookup) { s with
        registry := { s.registry with
          regionCache := s.registry.regionCache.put (joinKey args.endpoint args.accessKeyID) drv }
        lookups := s.lookups.eraseIdx lookup
        answers := s.answers ++ [⟨drv, retired⟩] }

theorem Serving.step_moves {s next : Serving Driver} {action : ServingAction}
    (taken : s.step factory action = some next) : s.Move action next := by
  cases action with
  | createConnection id row =>
      simp only [Serving.step] at taken
      split at taken
      · cases taken
        exact Move.createdConnection id row
      · cases taken
  | updateConnection id driver config =>
      simp only [Serving.step] at taken
      split at taken
      · cases taken
      · rename_i cur found
        cases taken
        refine Move.replacedConnection ?_ _ found
        trivial
  | deleteConnection id =>
      simp only [Serving.step] at taken
      split at taken
      · cases taken
      · rename_i cur found
        cases taken
        refine Move.replacedConnection ?_ none found
        trivial
  | invalidate purge =>
      simp only [Serving.step] at taken
      split at taken
      · cases taken
      · rename_i pending found
        cases taken
        exact Move.evicted found
  | createRegion id args =>
      simp only [Serving.step] at taken
      split at taken
      · cases taken
        exact Move.createdRegion id args
      · cases taken
  | readRegion id =>
      simp only [Serving.step] at taken
      split at taken
      · cases taken
      · rename_i row found
        cases taken
        exact Move.copied found
  | rotateRegion copy accessKeyID secretKey =>
      simp only [Serving.step] at taken
      split at taken
      · cases taken
      · split at taken
        · cases taken
        · split at taken
          · cases taken
          · rename_i cur found
            cases taken
            refine Move.replacedRegion ?_ _ _ found
            trivial
  | deleteRegion copy =>
      simp only [Serving.step] at taken
      split at taken
      · cases taken
      · split at taken
        · cases taken
        · rename_i cur found
          cases taken
          refine Move.replacedRegion ?_ none _ found
          trivial
  | invalidateRegion purge =>
      simp only [Serving.step] at taken
      split at taken
      · cases taken
      · cases taken
      · rename_i key rest replaced found
        cases taken
        exact Move.evictedRegion found
  | startFor connID =>
      simp only [Serving.step] at taken
      split at taken
      · rename_i drv cached
        cases taken
        exact Move.served cached
      · cases taken
        exact Move.missed connID
  | startForRegion copy =>
      simp only [Serving.step] at taken
      split at taken
      · cases taken
      · rename_i held read
        split at taken
        · split at taken
          · rename_i drv cached
            cases taken
            exact Move.servedRegion cached
          · split at taken
            · cases taken
              exact Move.refused copy
            · rename_i drv opened
              cases taken
              exact Move.missedRegion read (Factory.sourced_origin opened)
        · cases taken
          exact Move.refused copy
  | load lookup =>
      simp only [Serving.step] at taken
      split at taken
      · rename_i connID retired found
        split at taken
        · cases taken
          exact Move.gaveUp lookup
        · rename_i row present
          split at taken
          · cases taken
            exact Move.gaveUp lookup
          · rename_i drv opened
            cases taken
            exact Move.loaded found present (Factory.sourced_origin opened)
      · cases taken
  | finish lookup =>
      simp only [Serving.step] at taken
      split at taken
      · rename_i connID retired drv found
        cases taken
        exact Move.filed found
      · rename_i args retired drv found
        cases taken
        exact Move.filedRegion found
      · cases taken

/-! ## What keeps its origin -/

/-- The origin is a write of the row. -/
def Origin.Of (tier : Tier) (id : String) (origin : Origin) : Prop :=
  origin.tier = tier ∧ origin.id = id

/-- A lookup knows no more origins to be retired than there are, and its driver is of the row
that it is about. -/
def Lookup.Sound (retired : List Origin) : Lookup Driver -> Prop
  | .missed _ known => known ⊆ retired
  | .built connID known drv => known ⊆ retired ∧ drv.origin.Of .connection connID
  | .builtRegion _ known drv => known ⊆ retired ∧ drv.origin.tier = .region

theorem Lookup.Sound.retire {retired : List Origin} {lookup : Lookup Driver}
    (sound : lookup.Sound retired) (old : Origin) : lookup.Sound (old :: retired) := by
  have more : forall {known : List Origin}, known ⊆ retired -> known ⊆ old :: retired :=
    fun fewer => List.Subset.trans fewer (List.subset_cons_self _ _)
  cases lookup with
  | missed connID known => exact more sound
  | built connID known drv => exact ⟨more sound.1, sound.2⟩
  | builtRegion args known drv => exact ⟨more sound.1, sound.2⟩

/-- Rows, copies, drivers and evictions have the origins they should have. -/
structure Serving.Sound (s : Serving Driver) : Prop where
  connections : s.connections.Every fun id row => row.origin.Of .connection id
  regions : s.regions.Every fun id row => row.origin.Of .region id
  copies : forall copy, copy ∈ s.copies -> copy.origin.tier = .region
  cache : s.registry.cache.Every fun id drv => drv.origin.Of .connection id
  regionCache : s.registry.regionCache.Every fun _ drv => drv.origin.tier = .region
  lookups : forall lookup, lookup ∈ s.lookups -> lookup.Sound s.retired
  purges : forall purge, purge ∈ s.purges -> purge.replaced.Of .connection purge.connID
  regionPurges : forall purge, purge ∈ s.regionPurges -> purge.replaced.tier = .region

theorem Serving.new_sound (wired : Bool) : (Serving.new Driver wired).Sound where
  connections := SortedStore.every_empty _
  regions := SortedStore.every_empty _
  copies := nofun
  cache := SortedStore.every_empty _
  regionCache := SortedStore.every_empty _
  lookups := nofun
  purges := nofun
  regionPurges := nofun

/-- What holds of a list and of one more element holds of both. -/
private theorem all_append_single {α : Type} {property : α -> Prop} {items : List α} {last : α}
    (all : forall item, item ∈ items -> property item) (holds : property last) :
    forall item, item ∈ items ++ [last] -> property item :=
  List.forall_mem_append.mpr ⟨all, List.forall_mem_singleton.mpr holds⟩

theorem Serving.Sound.writeConnection {s : Serving Driver} (sound : s.Sound) (id : String)
    (row : Option ConnectionRow) : (s.writeConnection id row).Sound where
  connections := by
    cases row with
    | none => exact sound.connections.erase id
    | some row => exact sound.connections.put ⟨rfl, rfl⟩
  regions := sound.regions
  copies := sound.copies
  cache := sound.cache
  regionCache := sound.regionCache
  lookups := sound.lookups
  purges := sound.purges
  regionPurges := sound.regionPurges

theorem Serving.Sound.writeRegion {s : Serving Driver} (sound : s.Sound) (id : String)
    (row : Option RegionArgs) : (s.writeRegion id row).Sound where
  connections := sound.connections
  regions := by
    cases row with
    | none => exact sound.regions.erase id
    | some row => exact sound.regions.put ⟨rfl, rfl⟩
  copies := sound.copies
  cache := sound.cache
  regionCache := sound.regionCache
  lookups := sound.lookups
  purges := sound.purges
  regionPurges := sound.regionPurges

/-- Fewer lookups, and one lookup in the place of another. -/
private theorem sound_erase {s : Serving Driver} (sound : s.Sound) (lookup : Nat) :
    forall other, other ∈ s.lookups.eraseIdx lookup -> other.Sound s.retired :=
  fun other member => sound.lookups other (List.mem_of_mem_eraseIdx member)

theorem Serving.Sound.step {s next : Serving Driver} {action : ServingAction} (sound : s.Sound)
    (taken : s.step factory action = some next) : next.Sound := by
  cases Serving.step_moves taken with
  | createdConnection id row => exact sound.writeConnection id _
  | createdRegion id args => exact sound.writeRegion id _
  | replacedConnection quiet row found =>
      exact { sound.writeConnection _ row with
        purges := all_append_single sound.purges (sound.connections _ _ found) }
  | replacedRegion quiet args keys found =>
      exact { sound.writeRegion _ args with
        regionPurges := all_append_single sound.regionPurges (sound.regions _ _ found).1 }
  | evicted found =>
      exact { sound with
        cache := sound.cache.erase _
        lookups := fun lookup member => (sound.lookups lookup member).retire _
        purges := fun other member => sound.purges other (List.mem_of_mem_eraseIdx member) }
  | evictedRegion found =>
      have pending := sound.regionPurges _ (List.mem_of_getElem? found)
      exact { sound with
        regionCache := sound.regionCache.erase _
        lookups := fun lookup member => (sound.lookups lookup member).retire _
        regionPurges := by
          intro other member
          rcases List.mem_or_eq_of_mem_set member with earlier | same
          · exact sound.regionPurges other earlier
          · rw [same]
            exact pending }
  | copied found =>
      exact { sound with copies := all_append_single sound.copies (sound.regions _ _ found).1 }
  | served cached => exact { sound with }
  | servedRegion cached => exact { sound with }
  | refused copy => exact sound
  | missed connID =>
      exact { sound with
        lookups := all_append_single sound.lookups (List.Subset.refl s.retired) }
  | missedRegion read built =>
      refine { sound with
        lookups := all_append_single sound.lookups ⟨List.Subset.refl s.retired, ?_⟩ }
      rw [built]
      exact sound.copies _ (List.mem_of_getElem? read)
  | gaveUp lookup => exact { sound with lookups := sound_erase sound lookup }
  | loaded found present built =>
      have known := sound.lookups _ (List.mem_of_getElem? found)
      refine { sound with lookups := ?_ }
      intro other member
      rcases List.mem_or_eq_of_mem_set member with earlier | same
      · exact sound.lookups other earlier
      · rw [same]
        refine ⟨known, ?_⟩
        rw [built]
        exact sound.connections _ _ present
  | filed found =>
      exact { sound with
        cache := sound.cache.put
          (sound.lookups _ (List.mem_of_getElem? found)).2
        lookups := sound_erase sound _ }
  | filedRegion found =>
      exact { sound with
        regionCache := sound.regionCache.put
          (sound.lookups _ (List.mem_of_getElem? found)).2
        lookups := sound_erase sound _ }

/-! ## When every lookup is served with a current driver -/

/-- A step that leaves the caches, the retired origins and the answers alone. -/
private theorem fresh_same {s next : Serving Driver} (fresh : s.Fresh)
    (cache : next.registry.cache = s.registry.cache)
    (regionCache : next.registry.regionCache = s.registry.regionCache)
    (retired : next.retired = s.retired) (answers : next.answers = s.answers) : next.Fresh where
  answers := answers ▸ fresh.answers
  cache := by
    rw [cache, retired]
    exact fresh.cache
  regionCache := by
    rw [regionCache, retired]
    exact fresh.regionCache

/-- A driver from the cache is as current as the cache. -/
private theorem fresh_answered {s : Serving Driver} (fresh : s.Fresh) {drv : Sourced Driver}
    (current : drv.origin ∉ s.retired) :
    ({ s with answers := s.answers ++ [⟨drv, s.retired⟩] } : Serving Driver).Fresh where
  answers := all_append_single fresh.answers current
  cache := fresh.cache
  regionCache := fresh.regionCache

theorem fresh_invalidate {s : Serving Driver} (sound : s.Sound) (fresh : s.Fresh)
    {pending : ConnectionPurge} (listed : pending ∈ s.purges) (purges : List ConnectionPurge) :
    ({ s with
      registry := s.registry.invalidate pending.connID
      retired := pending.replaced :: s.retired
      purges := purges } : Serving Driver).Fresh where
  answers := fresh.answers
  cache := by
    apply (SortedStore.current_erase_retire_iff fresh.cache _ _).mpr
    intro id drv found same
    rw [← (sound.cache id drv found).2, same]
    exact (sound.purges _ listed).2
  regionCache := by
    apply fresh.regionCache.retire
    intro key drv found same
    have region : drv.origin.tier = .region := sound.regionCache key drv found
    rw [same, (sound.purges _ listed).1] at region
    cases region

theorem fresh_invalidateRegion_iff {s : Serving Driver} (sound : s.Sound) (fresh : s.Fresh)
    {pending : RegionPurge} (listed : pending ∈ s.regionPurges) (key : String × String)
    (purges : List RegionPurge) :
    ({ s with
      registry := s.registry.invalidateUserRegion key.1 key.2
      retired := pending.replaced :: s.retired
      regionPurges := purges } : Serving Driver).Fresh ↔
      s.registry.regionCache.Every fun other drv =>
        drv.origin = pending.replaced -> other = joinKey key.1 key.2 := by
  have reached := SortedStore.current_erase_retire_iff fresh.regionCache
    (joinKey key.1 key.2) pending.replaced
  constructor
  · intro after
    exact reached.mp after.regionCache
  · intro all
    refine ⟨fresh.answers, ?_, reached.mpr all⟩
    apply fresh.cache.retire
    intro id drv found same
    have connection : drv.origin.tier = .connection := (sound.cache id drv found).1
    rw [same, sound.regionPurges _ listed] at connection
    cases connection

theorem undisturbed_finish_iff {s : Serving Driver} {lookup : Nat} {pending : Lookup Driver}
    {drv : Sourced Driver} (found : s.lookups[lookup]? = some pending)
    (built : pending.drv? = some drv) :
    s.Undisturbed (.finish lookup) ↔ drv.origin ∉ s.retired := by
  constructor
  · intro undisturbed
    exact undisturbed pending drv found built
  · intro current other made same again
    rw [← Option.some.inj (found.symm.trans same), built] at again
    exact Option.some.inj again ▸ current

/-- A lookup that files its driver leaves everything current exactly if the driver is. -/
theorem fresh_filed_iff {s : Serving Driver} (sound : s.Sound) (fresh : s.Fresh) {lookup : Nat}
    {connID : String} {known : List Origin} {drv : Sourced Driver}
    (found : s.lookups[lookup]? = some (.built connID known drv)) :
    ({ s with
      registry := { s.registry with cache := s.registry.cache.put connID drv }
      lookups := s.lookups.eraseIdx lookup
      answers := s.answers ++ [⟨drv, known⟩] } : Serving Driver).Fresh ↔
      s.Undisturbed (.finish lookup) := by
  have filed := SortedStore.current_put_iff fresh.cache connID drv
  have fewer := (sound.lookups _ (List.mem_of_getElem? found)).1
  rw [undisturbed_finish_iff found rfl]
  constructor
  · intro after
    exact filed.mp after.cache
  · intro current
    exact ⟨all_append_single fresh.answers fun stale => current (fewer stale),
      filed.mpr current, fresh.regionCache⟩

theorem fresh_filedRegion_iff {s : Serving Driver} (sound : s.Sound) (fresh : s.Fresh)
    {lookup : Nat} {args : RegionArgs} {known : List Origin} {drv : Sourced Driver}
    (found : s.lookups[lookup]? = some (.builtRegion args known drv)) :
    ({ s with
      registry := { s.registry with
        regionCache := s.registry.regionCache.put (joinKey args.endpoint args.accessKeyID) drv }
      lookups := s.lookups.eraseIdx lookup
      answers := s.answers ++ [⟨drv, known⟩] } : Serving Driver).Fresh ↔
      s.Undisturbed (.finish lookup) := by
  have filed := SortedStore.current_put_iff fresh.regionCache
    (joinKey args.endpoint args.accessKeyID) drv
  have fewer := (sound.lookups _ (List.mem_of_getElem? found)).1
  rw [undisturbed_finish_iff found rfl]
  constructor
  · intro after
    exact filed.mp after.regionCache
  · intro current
    exact ⟨all_append_single fresh.answers fun stale => current (fewer stale),
      fresh.cache, filed.mpr current⟩

/-- A step leaves everything current exactly if it is undisturbed. -/
theorem Serving.Fresh.step_iff {s next : Serving Driver} {action : ServingAction} (sound : s.Sound)
    (fresh : s.Fresh) (taken : s.step factory action = some next) :
    next.Fresh ↔ s.Undisturbed action := by
  cases Serving.step_moves taken with
  | createdConnection id row => exact iff_of_true (fresh_same fresh rfl rfl rfl rfl) trivial
  | createdRegion id args => exact iff_of_true (fresh_same fresh rfl rfl rfl rfl) trivial
  | replacedConnection quiet row found =>
      exact iff_of_true (fresh_same fresh rfl rfl rfl rfl) quiet
  | replacedRegion quiet args keys found =>
      exact iff_of_true (fresh_same fresh rfl rfl rfl rfl) quiet
  | evicted found =>
      exact iff_of_true (fresh_invalidate sound fresh (List.mem_of_getElem? found) _) trivial
  | evictedRegion found =>
      rw [fresh_invalidateRegion_iff sound fresh (List.mem_of_getElem? found)]
      constructor
      · intro reached otherKey otherRest other same
        cases Option.some.inj (found.symm.trans same)
        exact reached
      · intro undisturbed
        exact undisturbed _ _ _ found
  | copied found => exact iff_of_true (fresh_same fresh rfl rfl rfl rfl) trivial
  | served cached => exact iff_of_true (fresh_answered fresh (fresh.cache _ _ cached)) trivial
  | servedRegion cached =>
      exact iff_of_true (fresh_answered fresh (fresh.regionCache _ _ cached)) trivial
  | refused copy => exact iff_of_true fresh trivial
  | missed connID => exact iff_of_true (fresh_same fresh rfl rfl rfl rfl) trivial
  | missedRegion read built => exact iff_of_true (fresh_same fresh rfl rfl rfl rfl) trivial
  | gaveUp lookup => exact iff_of_true (fresh_same fresh rfl rfl rfl rfl) trivial
  | loaded found present built => exact iff_of_true (fresh_same fresh rfl rfl rfl rfl) trivial
  | filed found => exact fresh_filed_iff sound fresh found
  | filedRegion found => exact fresh_filedRegion_iff sound fresh found

theorem Serving.new_fresh (wired : Bool) : (Serving.new Driver wired).Fresh where
  answers := nofun
  cache := SortedStore.every_empty _
  regionCache := SortedStore.every_empty _

/-- No lookup that starts after an eviction is served with a driver from the configuration that
the edit replaced, exactly if no lookup files such a driver after the eviction and the
eviction reaches all of them. -/
theorem no_stale_driver_iff (factory : Factory Driver) (wired : Bool)
    {actions : List ServingAction} {final : Serving Driver}
    (run : exec (Serving.step factory) (Serving.new Driver wired) actions = some final) :
    Throughout (Serving.step factory) Serving.Fresh (Serving.new Driver wired) actions ↔
      Meets (Serving.step factory) Serving.Undisturbed (Serving.new Driver wired) actions :=
  throughout_iff_meets (fun _ _ _ sound taken => sound.step taken)
    (fun _ _ _ sound fresh taken => fresh.step_iff sound taken)
    (Serving.new_sound wired) (Serving.new_fresh wired) run

/-! ## Lookups that nothing comes between -/

/-- The origin is that of no row. -/
structure Serving.Past (s : Serving Driver) (origin : Origin) : Prop where
  earlier : origin.write < s.writes
  connections : s.connections.Every fun _ row => row.origin ≠ origin
  regions : s.regions.Every fun _ row => row.origin ≠ origin

/-- The origins that edits have replaced. -/
def Serving.replaced (s : Serving Driver) : List Origin :=
  s.retired ++ s.purges.map ConnectionPurge.replaced ++ s.regionPurges.map RegionPurge.replaced

/-- The writes are numbered in turn, and what an edit has replaced is past. -/
structure Serving.Numbered (s : Serving Driver) : Prop where
  connections : s.connections.Every fun _ row => row.origin.write < s.writes
  regions : s.regions.Every fun _ row => row.origin.write < s.writes
  replaced : forall origin, origin ∈ s.replaced -> s.Past origin

theorem Serving.new_numbered (wired : Bool) : (Serving.new Driver wired).Numbered where
  connections := SortedStore.every_empty _
  regions := SortedStore.every_empty _
  replaced := nofun

/-- A property of the rows survives a write if the new row has it. -/
private theorem every_set {α : Type} {rows : SortedStore String α} {property : String -> α -> Prop}
    (every : rows.Every property) {id : String} {row : Option α}
    (holds : forall value, row = some value -> property id value) :
    (rows.set id row).Every property := by
  cases row with
  | none => exact every.erase id
  | some value => exact every.put (holds value rfl)

theorem Serving.Past.writeConnection {s : Serving Driver} {origin : Origin} (past : s.Past origin)
    (id : String) (row : Option ConnectionRow) : (s.writeConnection id row).Past origin where
  earlier := Nat.lt_succ_of_lt past.earlier
  connections := by
    apply every_set past.connections
    intro value written same
    rcases Option.map_eq_some_iff.mp written with ⟨_, _, rfl⟩
    exact absurd past.earlier (same ▸ Nat.lt_irrefl _)
  regions := past.regions

theorem Serving.Past.writeRegion {s : Serving Driver} {origin : Origin} (past : s.Past origin)
    (id : String) (row : Option RegionArgs) : (s.writeRegion id row).Past origin where
  earlier := Nat.lt_succ_of_lt past.earlier
  connections := past.connections
  regions := by
    apply every_set past.regions
    intro value written same
    rcases Option.map_eq_some_iff.mp written with ⟨_, _, rfl⟩
    exact absurd past.earlier (same ▸ Nat.lt_irrefl _)

theorem Serving.Numbered.writeConnection {s : Serving Driver} (numbered : s.Numbered) (id : String)
    (row : Option ConnectionRow) : (s.writeConnection id row).Numbered where
  connections := by
    apply every_set fun other value found =>
      Nat.lt_succ_of_lt (numbered.connections other value found)
    intro value written
    rcases Option.map_eq_some_iff.mp written with ⟨_, _, rfl⟩
    exact Nat.lt_succ_self _
  regions other value found := Nat.lt_succ_of_lt (numbered.regions other value found)
  replaced origin member := (numbered.replaced origin member).writeConnection id row

theorem Serving.Numbered.writeRegion {s : Serving Driver} (numbered : s.Numbered) (id : String)
    (row : Option RegionArgs) : (s.writeRegion id row).Numbered where
  connections other value found := Nat.lt_succ_of_lt (numbered.connections other value found)
  regions := by
    apply every_set fun other value found =>
      Nat.lt_succ_of_lt (numbered.regions other value found)
    intro value written
    rcases Option.map_eq_some_iff.mp written with ⟨_, _, rfl⟩
    exact Nat.lt_succ_self _
  replaced origin member := (numbered.replaced origin member).writeRegion id row

/-- The row that a write overwrites is past. -/
theorem Serving.past_of_writeConnection {s : Serving Driver} (sound : s.Sound)
    (numbered : s.Numbered) {id : String} {cur : Sourced ConnectionRow}
    (found : s.connections.get? id = some cur) (row : Option ConnectionRow) :
    (s.writeConnection id row).Past cur.origin where
  earlier := Nat.lt_succ_of_lt (numbered.connections id cur found)
  connections := by
    intro other value kept same
    have here := numbered.connections id cur found
    by_cases own : other = id
    · rw [own, Serving.writeConnection, SortedStore.get?_set, if_pos rfl] at kept
      rcases Option.map_eq_some_iff.mp kept with ⟨_, _, rfl⟩
      exact absurd here (same ▸ Nat.lt_irrefl _)
    · rw [Serving.writeConnection, SortedStore.get?_set, if_neg own] at kept
      have there := (sound.connections other value kept).2
      rw [same, (sound.connections id cur found).2] at there
      exact own there.symm
  regions := by
    intro other value kept same
    have there := (sound.regions other value kept).1
    rw [same, (sound.connections id cur found).1] at there
    cases there

theorem Serving.past_of_writeRegion {s : Serving Driver} (sound : s.Sound)
    (numbered : s.Numbered) {id : String} {cur : Sourced RegionArgs}
    (found : s.regions.get? id = some cur) (row : Option RegionArgs) :
    (s.writeRegion id row).Past cur.origin where
  earlier := Nat.lt_succ_of_lt (numbered.regions id cur found)
  connections := by
    intro other value kept same
    have there := (sound.connections other value kept).1
    rw [same, (sound.regions id cur found).1] at there
    cases there
  regions := by
    intro other value kept same
    have here := numbered.regions id cur found
    by_cases own : other = id
    · rw [own, Serving.writeRegion, SortedStore.get?_set, if_pos rfl] at kept
      rcases Option.map_eq_some_iff.mp kept with ⟨_, _, rfl⟩
      exact absurd here (same ▸ Nat.lt_irrefl _)
    · rw [Serving.writeRegion, SortedStore.get?_set, if_neg own] at kept
      have there := (sound.regions other value kept).2
      rw [same, (sound.regions id cur found).2] at there
      exact own there.symm

theorem Serving.mem_replaced {s : Serving Driver} {origin : Origin} :
    origin ∈ s.replaced ↔ origin ∈ s.retired ∨
      (Exists fun purge => purge ∈ s.purges ∧ purge.replaced = origin) ∨
        Exists fun purge => purge ∈ s.regionPurges ∧ purge.replaced = origin := by
  simp [Serving.replaced]

/-- A step that writes no row, and after which no other origins are replaced. -/
private theorem numbered_same {s next : Serving Driver} (numbered : s.Numbered)
    (connections : next.connections = s.connections) (regions : next.regions = s.regions)
    (writes : next.writes = s.writes)
    (fewer : forall origin, origin ∈ next.replaced -> s.Past origin) : next.Numbered where
  connections := by
    rw [connections, writes]
    exact numbered.connections
  regions := by
    rw [regions, writes]
    exact numbered.regions
  replaced origin member := by
    rcases fewer origin member with ⟨earlier, noConnection, noRegion⟩
    exact ⟨writes ▸ earlier, connections ▸ noConnection, regions ▸ noRegion⟩

private theorem past_of_purges {s : Serving Driver} (numbered : s.Numbered)
    {pending : ConnectionPurge} (past : s.Past pending.replaced) {origin : Origin}
    (member : origin ∈ ({ s with purges := s.purges ++ [pending] } : Serving Driver).replaced) :
    s.Past origin := by
  rcases Serving.mem_replaced.mp member with done | ⟨purge, listed, rfl⟩ | region
  · exact numbered.replaced origin (Serving.mem_replaced.mpr (Or.inl done))
  · rcases List.mem_append.mp listed with earlier | last
    · exact numbered.replaced _ (Serving.mem_replaced.mpr (Or.inr (Or.inl ⟨purge, earlier, rfl⟩)))
    · rw [List.mem_singleton.mp last]
      exact past
  · exact numbered.replaced origin (Serving.mem_replaced.mpr (Or.inr (Or.inr region)))

private theorem past_of_regionPurges {s : Serving Driver} (numbered : s.Numbered)
    {pending : RegionPurge} (past : s.Past pending.replaced) {origin : Origin}
    (member : origin ∈
      ({ s with regionPurges := s.regionPurges ++ [pending] } : Serving Driver).replaced) :
    s.Past origin := by
  rcases Serving.mem_replaced.mp member with done | connection | ⟨purge, listed, rfl⟩
  · exact numbered.replaced origin (Serving.mem_replaced.mpr (Or.inl done))
  · exact numbered.replaced origin (Serving.mem_replaced.mpr (Or.inr (Or.inl connection)))
  · rcases List.mem_append.mp listed with earlier | last
    · exact numbered.replaced _ (Serving.mem_replaced.mpr (Or.inr (Or.inr ⟨purge, earlier, rfl⟩)))
    · rw [List.mem_singleton.mp last]
      exact past

theorem Serving.Numbered.step {s next : Serving Driver} {action : ServingAction} (sound : s.Sound)
    (numbered : s.Numbered) (taken : s.step factory action = some next) : next.Numbered := by
  cases Serving.step_moves taken with
  | createdConnection id row => exact numbered.writeConnection id _
  | createdRegion id args => exact numbered.writeRegion id _
  | @replacedConnection action id cur quiet row found =>
      have written := numbered.writeConnection id row
      exact numbered_same written rfl rfl rfl fun origin member =>
        past_of_purges written (Serving.past_of_writeConnection sound numbered found _) member
  | @replacedRegion action id cur quiet args keys found =>
      have written := numbered.writeRegion id args
      exact numbered_same written rfl rfl rfl fun origin member =>
        past_of_regionPurges written (Serving.past_of_writeRegion sound numbered found _) member
  | evicted found =>
      refine numbered_same numbered rfl rfl rfl fun origin member => ?_
      apply numbered.replaced
      rw [Serving.mem_replaced] at member ⊢
      rcases member with done | ⟨other, listed, same⟩ | region
      · rcases List.mem_cons.mp done with rfl | earlier
        · exact Or.inr (Or.inl ⟨_, List.mem_of_getElem? found, rfl⟩)
        · exact Or.inl earlier
      · exact Or.inr (Or.inl ⟨other, List.mem_of_mem_eraseIdx listed, same⟩)
      · exact Or.inr (Or.inr region)
  | evictedRegion found =>
      refine numbered_same numbered rfl rfl rfl fun origin member => ?_
      apply numbered.replaced
      rw [Serving.mem_replaced] at member ⊢
      rcases member with done | connection | ⟨other, listed, rfl⟩
      · rcases List.mem_cons.mp done with rfl | earlier
        · exact Or.inr (Or.inr ⟨_, List.mem_of_getElem? found, rfl⟩)
        · exact Or.inl earlier
      · exact Or.inr (Or.inl connection)
      · rcases List.mem_or_eq_of_mem_set listed with earlier | rfl
        · exact Or.inr (Or.inr ⟨other, earlier, rfl⟩)
        · exact Or.inr (Or.inr ⟨_, List.mem_of_getElem? found, rfl⟩)
  | refused copy => exact numbered
  | _ => exact numbered_same numbered rfl rfl rfl numbered.replaced

/-- A configuration that is in the store is not retired. -/
theorem connection_not_retired (factory : Factory Driver) {wired : Bool}
    {actions : List ServingAction} {s : Serving Driver}
    (run : exec (Serving.step factory) (Serving.new Driver wired) actions = some s) {id : String}
    {row : Sourced ConnectionRow} (found : s.connections.get? id = some row) :
    row.origin ∉ s.retired := by
  have both : s.Sound ∧ s.Numbered := by
    refine @exec_invariant _ _ _ (fun s => s.Sound ∧ s.Numbered) ?_ _ _ _ ?_ run
    · rintro state action next ⟨sound, numbered⟩ taken
      exact ⟨sound.step taken, numbered.step sound taken⟩
    · exact ⟨Serving.new_sound wired, Serving.new_numbered wired⟩
  intro stale
  exact (both.2.replaced row.origin (Serving.mem_replaced.mpr (Or.inl stale))).connections id row
    found rfl

/-- A lookup that nothing comes between is `Registry.For`, and it is undisturbed. -/
theorem uninterrupted_lookup {s : Serving Driver} {connID : String} {row : Sourced ConnectionRow}
    {drv : Sourced Driver} (found : s.connections.get? connID = some row)
    (current : row.origin ∉ s.retired) (missed : s.registry.cache.get? connID = none)
    (opened : (factory.sourced row.origin).opens row.value.1 row.value.2 = .ok drv) :
    Exists fun final =>
      exec (Serving.step factory) s
          [.startFor connID, .load s.lookups.length, .finish s.lookups.length] = some final ∧
        Meets (Serving.step factory) Serving.Undisturbed s
          [.startFor connID, .load s.lookups.length, .finish s.lookups.length] ∧
        (.ok drv, final.registry) =
          s.registry.forConnection (factory.sourced row.origin) connID (.ok row.value) := by
  have start : s.step factory (.startFor connID) =
      some { s with lookups := s.lookups ++ [.missed connID s.retired] } := by
    simp only [Serving.step, missed]
  have load : ({ s with lookups := s.lookups ++ [.missed connID s.retired] } : Serving Driver).step
      factory (.load s.lookups.length) =
        some { s with lookups := s.lookups ++ [.built connID s.retired drv] } := by
    simp [Serving.step, found, opened]
  have finish : ({ s with lookups := s.lookups ++ [.built connID s.retired drv] } :
      Serving Driver).step factory (.finish s.lookups.length) =
        some { s with
          registry := { s.registry with cache := s.registry.cache.put connID drv }
          lookups := s.lookups
          answers := s.answers ++ [⟨drv, s.retired⟩] } := by
    simp [Serving.step, List.eraseIdx_append_of_length_le]
  refine ⟨_, exec_cons.mpr ⟨_, start, exec_cons.mpr ⟨_, load, exec_cons.mpr ⟨_, finish, rfl⟩⟩⟩,
    ?_, ?_⟩
  · have filed : Serving.Undisturbed
        { s with lookups := s.lookups ++ [.built connID s.retired drv] }
        (.finish s.lookups.length) := by
      apply (undisturbed_finish_iff List.getElem?_concat_length rfl).mpr
      rw [Factory.sourced_origin opened]
      exact current
    exact meets_of_step trivial start (meets_of_step trivial load (meets_of_step filed finish trivial))
  · simp only [Registry.forConnection, missed, opened]

/-- A lookup for a region that nothing comes between is `ForUserRegion`. -/
theorem uninterrupted_region_lookup {s : Serving Driver} {copy : Nat} {held : Sourced RegionArgs}
    {drv : Sourced Driver} (read : s.copies[copy]? = some held) (complete : held.value.Complete)
    (wired : s.registry.regionsWired = true)
    (missed : s.registry.regionCache.get?
      (joinKey held.value.endpoint held.value.accessKeyID) = none)
    (opened : (factory.sourced held.origin).opens "garage-v1" (regionConfig held.value) = .ok drv) :
    Exists fun final =>
      exec (Serving.step factory) s [.startForRegion copy, .finish s.lookups.length] = some final ∧
        (.ok drv, final.registry) =
          s.registry.forUserRegion (factory.sourced held.origin) held.value := by
  have start : s.step factory (.startForRegion copy) =
      some { s with lookups := s.lookups ++ [.builtRegion held.value s.retired drv] } := by
    simp [Serving.step, read, complete, wired, missed, opened]
  have finish : ({ s with lookups := s.lookups ++ [.builtRegion held.value s.retired drv] } :
      Serving Driver).step factory (.finish s.lookups.length) =
        some { s with
          registry := { s.registry with
            regionCache := s.registry.regionCache.put
              (joinKey held.value.endpoint held.value.accessKeyID) drv }
          lookups := s.lookups
          answers := s.answers ++ [⟨drv, s.retired⟩] } := by
    simp [Serving.step, List.eraseIdx_append_of_length_le]
  refine ⟨_, exec_cons.mpr ⟨_, start, exec_cons.mpr ⟨_, finish, rfl⟩⟩, ?_⟩
  rw [Registry.forUserRegion_served (factory.sourced held.origin) complete wired, missed, opened]

/-! ## A lookup that an edit overtakes -/

/-- A Garage cluster that is reached with a token. -/
def sampleConnection (token : String) : ConnectionRow :=
  ("garage-v1", SortedStore.empty.put "admin_token" token)

/-- The lookup reads the old token, the edit and its eviction take place, and the lookup files
the driver that it has built.  The next lookup finds it. -/
def overtakenLookup : List ServingAction :=
  [.createConnection "c1" (sampleConnection "old"), .startFor "c1", .load 0,
    .updateConnection "c1" "" (some (sampleConnection "new").2), .invalidate 0, .finish 0,
    .startFor "c1"]

theorem replaced_driver_is_served :
    ¬ forall (actions : List ServingAction) (final : Serving DriverConfig),
      exec (Serving.step sampleFactory) (Serving.new DriverConfig true) actions = some final ->
        forall answer, answer ∈ final.answers -> answer.drv.origin ∉ answer.retired := by
  intro stated
  have run := (Option.some_get (show (exec (Serving.step sampleFactory)
    (Serving.new DriverConfig true) overtakenLookup).isSome = true by decide +kernel)).symm
  have fresh := stated overtakenLookup _ run
  exact absurd fresh (by decide +kernel)

/-- An edit whose lookups come before it or after it. -/
def lookupsApart : List ServingAction :=
  [.createConnection "c1" (sampleConnection "old"), .startFor "c1", .load 0, .finish 0,
    .updateConnection "c1" "" (some (sampleConnection "new").2), .invalidate 0, .startFor "c1",
    .load 0, .finish 0]

theorem no_stale_driver_iff_apart :
    Throughout (Serving.step sampleFactory) Serving.Fresh (Serving.new DriverConfig true)
        lookupsApart ↔
      Meets (Serving.step sampleFactory) Serving.Undisturbed (Serving.new DriverConfig true)
        lookupsApart :=
  no_stale_driver_iff sampleFactory true
    (Option.some_get (show (exec (Serving.step sampleFactory) (Serving.new DriverConfig true)
      lookupsApart).isSome = true by decide +kernel)).symm

end Drivers
end Basement
