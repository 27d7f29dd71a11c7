import Basement.Api.Regions
import Basement.Library.Transition

namespace Basement
namespace Api
namespace Backups

open Library

/-!
# Backups and the reach of their owners

A backup names its source and its destination by free text.  At every run, restore
and snapshot listing the text is resolved again: the ID of a region of the owner is
exchanged for an administrator's connection at the same endpoint, and any other
text is taken for a connection ID.

The system below runs the backup requests of all users together with the changes
of the keychains and of the connections.  An operation opens its drivers when it
starts; each object access is recorded with the driver it went through and with
the keyring at that moment.  A driver registry entry of a connection is dropped
when the connection changes, so a connection's driver is the connection.  The
drivers of regions are cached by endpoint and access key ID, which the model keeps.
-/

/-! ## Backup records -/

inductive BackupMode where
  | mirror
  | snapshot
  deriving DecidableEq, Repr

structure RetentionPolicy where
  keepDaily : Int := 0
  keepWeekly : Int := 0
  keepMonthly : Int := 0
  deriving DecidableEq, Repr

/-- `DefaultRetention`. -/
def defaultRetention : RetentionPolicy := ⟨7, 4, 12⟩

structure Backup where
  ownerUserID : String
  name : String
  srcRegionID : String
  srcBucket : String
  dstRegionID : String
  dstBucket : String
  schedule : String
  disabled : Bool
  mode : BackupMode
  retention : RetentionPolicy
  deriving DecidableEq, Repr

/-- The body of a create or update request. -/
structure BackupRequest where
  name : String
  srcRegionID : String
  srcBucket : String
  dstRegionID : String
  dstBucket : String
  schedule : String
  disabled : Bool := false
  mode : String := ""
  retention : Option RetentionPolicy := none
  deriving DecidableEq, Repr

structure RestoreRequest where
  snapshotTimestamp : String
  dstRegionID : String := ""
  dstBucket : String := ""
  deriving DecidableEq, Repr

/-- `validateBackupRequest`: the code and the message of the first objection.  The
identifiers of source and destination only have to be present. -/
def validateBackupRequest (req : BackupRequest) : Option (String × String) :=
  if trimSpace req.name = "" then some ("INVALID_NAME", "Name is required")
  else if req.srcRegionID = "" ∨ req.srcBucket = "" then
    some ("INVALID_SOURCE", "Source region and bucket are required")
  else if req.dstRegionID = "" ∨ req.dstBucket = "" then
    some ("INVALID_DESTINATION", "Destination region and bucket are required")
  else if req.schedule = "" then
    some ("INVALID_SCHEDULE",
      "Schedule is required (use \"manual\" for run-on-demand only)")
  else if req.mode ≠ "" ∧ req.mode ≠ "mirror" ∧ req.mode ≠ "snapshot" then
    some ("INVALID_MODE", "Mode must be \"mirror\" or \"snapshot\"")
  else
    match req.retention with
    | none => none
    | some keep =>
        if keep.keepDaily < 0 ∨ keep.keepWeekly < 0 ∨ keep.keepMonthly < 0 then
          some ("INVALID_RETENTION", "Retention keep counts must be zero or positive")
        else none

/-- `applyBackupMode`, after the validation. -/
def applyBackupMode (mode : String) : BackupMode :=
  if mode = "snapshot" then .snapshot else .mirror

/-- `applyBackupRetention`. -/
def applyBackupRetention (mode : String) (retention : Option RetentionPolicy) : RetentionPolicy :=
  match applyBackupMode mode with
  | .mirror => {}
  | .snapshot =>
      match retention with
      | none => defaultRetention
      | some keep => if keep = {} then defaultRetention else keep

/-- The record a valid request describes. -/
def BackupRequest.backup (req : BackupRequest) (ownerUserID : String) : Backup where
  ownerUserID := ownerUserID
  name := trimSpace req.name
  srcRegionID := req.srcRegionID
  srcBucket := req.srcBucket
  dstRegionID := req.dstRegionID
  dstBucket := req.dstBucket
  schedule := req.schedule
  disabled := req.disabled
  mode := applyBackupMode req.mode
  retention := applyBackupRetention req.mode req.retention

/-! ## Drivers -/

/-- What the deployment decides: who is an administrator, which cron expressions
parse, and which connections' drivers can be built and are not locked. -/
structure Config where
  urls : URLLibrary
  isAdmin : String -> Bool
  validSchedule : String -> Bool
  opens : Connection -> Bool

/-- The driver an access went through. -/
inductive Via where
  | connection (conn : Connection)
  | region (key : Credentials)
  deriving DecidableEq, Repr

inductive Operation where
  | list
  | stat
  | read
  | write
  | delete
  deriving DecidableEq, Repr

/-- An access on behalf of a user's backup, with the keyring at that moment. -/
structure Access where
  owner : String
  operation : Operation
  bucket : String
  via : Via
  ring : Keyring

abbrev RegionDrivers := SortedStore String Credentials

/-- The cache key of a region's driver: the secret is not part of it. -/
def cacheKey (endpoint accessKeyID : String) : String :=
  endpoint ++ "|" ++ accessKeyID

/-- `Registry.ForUserRegion`. -/
def forUserRegion (drivers : RegionDrivers) (key : Credentials) : Option Credentials × RegionDrivers :=
  if key.endpoint = "" ∨ key.accessKeyID = "" ∨ key.secretKey = "" then (none, drivers)
  else
    match drivers.get? (cacheKey key.endpoint key.accessKeyID) with
    | some cached => (some cached, drivers)
    | none => (some key, drivers.put (cacheKey key.endpoint key.accessKeyID) key)

/-- `Registry.For`. -/
def openConnection (cfg : Config) (ring : Keyring) (connID : String) : Option Connection :=
  (ring.connection connID).filter cfg.opens

/-- `resolveBackupConn`. -/
def resolveBackupConn (cfg : Config) (ring : Keyring) (userID raw : String) :
    Except String String :=
  if raw = "" then .error "empty connection identifier"
  else
    match ring.ownedRegion userID raw with
    | some region =>
        match resolveRegionToConnection cfg.urls ring userID raw with
        | .ok connID => .ok connID
        | .error _ => .error ("region has no admin bridge (endpoint " ++ region.endpoint.quote ++ ")")
    | none => .ok raw

/-- Resolve and open one side of an operation. -/
def openSide (cfg : Config) (ring : Keyring) (userID raw : String) : Option Connection :=
  match resolveBackupConn cfg ring userID raw with
  | .error _ => none
  | .ok connID => openConnection cfg ring connID

/-! ## Operations -/

/-- The accesses of a copy from one connection to another, and those that the
destination sees besides. -/
def copyAccesses (ring : Keyring) (owner : String) (src dst : Connection)
    (srcBucket dstBucket : String) (also : List Operation) : List Access :=
  [⟨owner, .list, srcBucket, .connection src, ring⟩, ⟨owner, .stat, dstBucket, .connection dst, ring⟩,
    ⟨owner, .read, srcBucket, .connection src, ring⟩,
    ⟨owner, .write, dstBucket, .connection dst, ring⟩] ++
    also.map fun operation => ⟨owner, operation, dstBucket, .connection dst, ring⟩

/-- `runBackupOnce`, with the prune pass of a snapshot backup. -/
def runBackupOnce (cfg : Config) (ring : Keyring) (b : Backup) : List Access :=
  match openSide cfg ring b.ownerUserID b.srcRegionID, openSide cfg ring b.ownerUserID b.dstRegionID with
  | some src, some dst =>
      copyAccesses ring b.ownerUserID src dst b.srcBucket b.dstBucket
        (match b.mode with
          | .mirror => []
          | .snapshot => [.list, .delete])
  | _, _ => []

/-- Where a restore writes to: the request's region, or back to the source. -/
def restoreDestination (b : Backup) (req : RestoreRequest) : String :=
  if trimSpace req.dstRegionID = "" then b.srcRegionID else trimSpace req.dstRegionID

/-- `userRestoreBackupHandler` and `runRestore`: the backup's destination is read. -/
def runRestore (cfg : Config) (ring : Keyring) (b : Backup) (req : RestoreRequest) : List Access :=
  if b.mode ≠ .snapshot then []
  else if trimSpace req.snapshotTimestamp = "" then []
  else
    match openSide cfg ring b.ownerUserID b.dstRegionID,
        openSide cfg ring b.ownerUserID (restoreDestination b req) with
    | some src, some dst =>
        copyAccesses ring b.ownerUserID src dst b.dstBucket
          (if trimSpace req.dstBucket = "" then b.srcBucket else trimSpace req.dstBucket) []
    | _, _ => []

/-- `snapshotListingDriver`. -/
def snapshotListingDriver (cfg : Config) (ring : Keyring) (drivers : RegionDrivers)
    (ownerUserID dstRegionID : String) : Option Via × RegionDrivers :=
  match ring.ownedRegion ownerUserID dstRegionID with
  | some region =>
      let built := forUserRegion drivers region.credentials
      (built.1.map .region, built.2)
  | none => ((openSide cfg ring ownerUserID dstRegionID).map .connection, drivers)

/-! ## The system -/

structure Server where
  ring : Keyring
  drivers : RegionDrivers
  backups : SortedStore String Backup
  accesses : List Access

/-- A request of a user or an administrator, or a due schedule.  New IDs are
UUIDs. -/
inductive Request where
  | createRegion (uuid userID endpoint accessKeyID secretKey : String)
  | rotateRegion (userID regionID accessKeyID secretKey : String)
  | deleteRegion (userID regionID : String)
  | openRegion (userID regionID : String)
  | putConnection (conn : Connection)
  | deleteConnection (connID : String)
  | createBackup (uuid userID : String) (req : BackupRequest)
  | updateBackup (userID backupID : String) (req : BackupRequest)
  | deleteBackup (userID backupID : String)
  | runBackup (userID backupID : String)
  | fireBackup (backupID : String)
  | restoreBackup (userID backupID : String) (req : RestoreRequest)
  | listSnapshots (userID backupID : String)
  deriving DecidableEq, Repr

/-- `loadOwnedBackup`. -/
def Server.ownedBackup (server : Server) (userID backupID : String) : Option Backup :=
  (server.backups.get? backupID).filter fun b => b.ownerUserID == userID

def Server.record (server : Server) (accesses : List Access) : Server :=
  { server with accesses := server.accesses ++ accesses }

/-- Whether the scheduler has an entry for a backup. -/
def Backup.schedulable (b : Backup) : Bool :=
  !b.disabled && b.schedule != "manual"

def acceptsRequest (cfg : Config) (req : BackupRequest) : Bool :=
  validateBackupRequest req == none && cfg.validSchedule req.schedule

def step (cfg : Config) (server : Server) : Request -> Option Server
  | .createRegion uuid userID endpoint accessKeyID secretKey =>
      if server.ring.regions.get? uuid ≠ none then none
      else if trimSpace accessKeyID = "" ∨ trimSpace secretKey = "" then some server
      else
        match normalizeEndpoint cfg.urls endpoint with
        | none => some server
        | some canon =>
            some { server with ring := { server.ring with
              regions := server.ring.regions.put uuid
                ⟨userID, canon, trimSpace accessKeyID, trimSpace secretKey⟩ } }
  | .rotateRegion userID regionID accessKeyID secretKey =>
      match server.ring.ownedRegion userID regionID with
      | none => some server
      | some region =>
          if trimSpace accessKeyID = "" ∨ trimSpace secretKey = "" then some server
          else
            some { server with
              ring := { server.ring with
                regions := server.ring.regions.put regionID
                  { region with
                    accessKeyID := trimSpace accessKeyID, secretKey := trimSpace secretKey } }
              drivers := (server.drivers.erase (cacheKey region.endpoint region.accessKeyID)).erase
                (cacheKey region.endpoint (trimSpace accessKeyID)) }
  | .deleteRegion userID regionID =>
      match server.ring.ownedRegion userID regionID with
      | none => some server
      | some region =>
          some { server with
            ring := { server.ring with regions := server.ring.regions.erase regionID }
            drivers := server.drivers.erase (cacheKey region.endpoint region.accessKeyID) }
  | .openRegion userID regionID =>
      match server.ring.ownedRegion userID regionID with
      | none => some server
      | some region =>
          some { server with drivers := (forUserRegion server.drivers region.credentials).2 }
  | .putConnection conn =>
      some { server with ring := { server.ring with
        conns := server.ring.conns.filter (fun old => old.id ≠ conn.id) ++ [conn] } }
  | .deleteConnection connID =>
      some { server with ring := { server.ring with
        conns := server.ring.conns.filter fun old => old.id ≠ connID } }
  | .createBackup uuid userID req =>
      if server.backups.get? uuid ≠ none then none
      else if acceptsRequest cfg req then
        some { server with backups := server.backups.put uuid (req.backup userID) }
      else some server
  | .updateBackup userID backupID req =>
      match server.ownedBackup userID backupID with
      | none => some server
      | some b =>
          if acceptsRequest cfg req then
            some { server with backups := server.backups.put backupID (req.backup b.ownerUserID) }
          else some server
  | .deleteBackup userID backupID =>
      match server.ownedBackup userID backupID with
      | none => some server
      | some _ => some { server with backups := server.backups.erase backupID }
  | .runBackup userID backupID =>
      match server.ownedBackup userID backupID with
      | none => some server
      | some b =>
          if b.disabled then some server else some (server.record (runBackupOnce cfg server.ring b))
  | .fireBackup backupID =>
      match server.backups.get? backupID with
      | none => some server
      | some b =>
          if b.schedulable then some (server.record (runBackupOnce cfg server.ring b))
          else some server
  | .restoreBackup userID backupID req =>
      match server.ownedBackup userID backupID with
      | none => some server
      | some b => some (server.record (runRestore cfg server.ring b req))
  | .listSnapshots userID backupID =>
      match server.ownedBackup userID backupID with
      | none => some server
      | some b =>
          if b.mode ≠ .snapshot then some server
          else
            let built := snapshotListingDriver cfg server.ring server.drivers b.ownerUserID
              b.dstRegionID
            some (Server.record { server with drivers := built.2 }
              (built.1.toList.map fun via => ⟨b.ownerUserID, .list, b.dstBucket, via, server.ring⟩))

/-! ## Reach -/

/-- What the creation of a sync demands of a connection, and a driver built from
credentials in the user's own keychain. -/
def Reaches (cfg : Config) (ring : Keyring) (userID : String) : Via -> Prop
  | .connection conn =>
      conn.id ∈ userVisibleConnections cfg.urls ring (cfg.isAdmin userID) userID ∨
        userOwnsConnection ring userID conn.id = true
  | .region key => Exists fun region => region ∈ ring.keychain userID ∧ region.credentials = key

/-- An access of a user without the admin role is within the user's reach at the
moment it happens. -/
def Access.WithinReach (cfg : Config) (access : Access) : Prop :=
  cfg.isAdmin access.owner = false -> Reaches cfg access.ring access.owner access.via

/-- The text is a region of the user, or a connection that passes the test the
sync handler makes. -/
def Granted (cfg : Config) (ring : Keyring) (userID raw : String) : Prop :=
  ring.ownedRegion userID raw ≠ none ∨
    hasConnectionAccess cfg.urls ring (cfg.isAdmin userID) userID raw = true

/-- Both sides of an operation are granted, unless one of them does not open. -/
def SidesGranted (cfg : Config) (ring : Keyring) (userID src dst : String) : Prop :=
  (openSide cfg ring userID src).isSome -> (openSide cfg ring userID dst).isSome ->
    Granted cfg ring userID src ∧ Granted cfg ring userID dst

/-- The driver in the cache under a region's endpoint and access key, when there is
one, was built from a region of the same user. -/
def CachedDriverIsOwn (drivers : RegionDrivers) (ring : Keyring) (userID : String)
    (region : UserRegion) : Prop :=
  forall key, drivers.get? (cacheKey region.endpoint region.accessKeyID) = some key ->
    Exists fun own => own ∈ ring.keychain userID ∧ own.credentials = key

/-- The condition on a request and the server it reaches. -/
def KeepsWithinReach (cfg : Config) (server : Server) : Request -> Prop
  | .runBackup userID backupID => forall b, server.ownedBackup userID backupID = some b ->
      b.disabled = false -> cfg.isAdmin b.ownerUserID = false ->
        SidesGranted cfg server.ring b.ownerUserID b.srcRegionID b.dstRegionID
  | .fireBackup backupID => forall b, server.backups.get? backupID = some b ->
      b.schedulable = true -> cfg.isAdmin b.ownerUserID = false ->
        SidesGranted cfg server.ring b.ownerUserID b.srcRegionID b.dstRegionID
  | .restoreBackup userID backupID req => forall b, server.ownedBackup userID backupID = some b ->
      b.mode = .snapshot -> cfg.isAdmin b.ownerUserID = false ->
        SidesGranted cfg server.ring b.ownerUserID b.dstRegionID (restoreDestination b req)
  | .listSnapshots userID backupID => forall b, server.ownedBackup userID backupID = some b ->
      b.mode = .snapshot -> cfg.isAdmin b.ownerUserID = false ->
        match server.ring.ownedRegion b.ownerUserID b.dstRegionID with
        | some region => CachedDriverIsOwn server.drivers server.ring b.ownerUserID region
        | none => (openSide cfg server.ring b.ownerUserID b.dstRegionID).isSome ->
            Granted cfg server.ring b.ownerUserID b.dstRegionID
  | _ => True

section Reach

variable {cfg : Config} {ring : Keyring} {userID : String}

theorem openConnection_eq_some {connID : String} {conn : Connection}
    (opened : openConnection cfg ring connID = some conn) :
    ring.connection connID = some conn ∧ conn.id = connID := by
  rcases Option.filter_eq_some_iff.mp opened with ⟨found, _⟩
  have same := List.find?_some found
  exact ⟨found, by simpa using same⟩

/-- The connection that a side opens is within reach exactly when its text is
granted: a region leads to a visible connection, any other text to itself. -/
theorem reaches_openSide_iff {raw : String} {conn : Connection}
    (opened : openSide cfg ring userID raw = some conn) :
    Reaches cfg ring userID (.connection conn) ↔ Granted cfg ring userID raw := by
  unfold openSide at opened
  cases resolved : resolveBackupConn cfg ring userID raw with
  | error text =>
      rw [resolved] at opened
      cases opened
  | ok connID =>
      rw [resolved] at opened
      rcases openConnection_eq_some opened with ⟨found, rfl⟩
      unfold resolveBackupConn at resolved
      split at resolved
      · cases resolved
      · cases owned : ring.ownedRegion userID raw with
        | some region =>
            rw [owned] at resolved
            simp only at resolved
            cases bridge : resolveRegionToConnection cfg.urls ring userID raw with
            | error error =>
                rw [bridge] at resolved
                cases resolved
            | ok id =>
                rw [bridge] at resolved
                cases Except.ok.inj resolved
                have visible := resolveRegionToConnection_visible (cfg.isAdmin userID) bridge
                exact iff_of_true (Or.inl visible) (Or.inl (by simp [owned]))
        | none =>
            rw [owned] at resolved
            cases Except.ok.inj resolved
            simp only [Reaches, Granted, owned, ne_eq, not_true_eq_false, false_or,
              hasConnectionAccess_iff]
            exact or_iff_left_of_imp (visible_of_userOwnsConnection (cfg.isAdmin userID))

/-- A copy stays within reach when its two sides are granted. -/
theorem copyAccesses_withinReach {src dst : Connection} {srcRaw dstRaw : String}
    (srcBucket dstBucket : String) (also : List Operation)
    (srcOpened : openSide cfg ring userID srcRaw = some src)
    (dstOpened : openSide cfg ring userID dstRaw = some dst)
    (granted : cfg.isAdmin userID = false -> SidesGranted cfg ring userID srcRaw dstRaw) :
    forall access, access ∈ copyAccesses ring userID src dst srcBucket dstBucket also ->
      access.WithinReach cfg := by
  intro access member
  have fields : access.owner = userID ∧ access.ring = ring ∧
      (access.via = .connection src ∨ access.via = .connection dst) := by
    simp only [copyAccesses, List.mem_append, List.mem_cons, List.not_mem_nil, or_false,
      List.mem_map] at member
    rcases member with (rfl | rfl | rfl | rfl) | ⟨operation, _, rfl⟩ <;> simp
  rcases fields with ⟨rfl, rfl, via⟩
  intro notAdmin
  have both := granted notAdmin (by simp [srcOpened]) (by simp [dstOpened])
  rcases via with via | via
  · rw [via]
    exact (reaches_openSide_iff srcOpened).mpr both.1
  · rw [via]
    exact (reaches_openSide_iff dstOpened).mpr both.2

theorem runBackupOnce_withinReach {b : Backup}
    (granted : cfg.isAdmin b.ownerUserID = false ->
      SidesGranted cfg ring b.ownerUserID b.srcRegionID b.dstRegionID) :
    forall access, access ∈ runBackupOnce cfg ring b -> access.WithinReach cfg := by
  intro access member
  unfold runBackupOnce at member
  split at member
  · rename_i src dst srcOpened dstOpened
    exact copyAccesses_withinReach _ _ _ srcOpened dstOpened granted access member
  · cases member

theorem runRestore_withinReach {b : Backup} {req : RestoreRequest}
    (granted : b.mode = .snapshot -> cfg.isAdmin b.ownerUserID = false ->
      SidesGranted cfg ring b.ownerUserID b.dstRegionID (restoreDestination b req)) :
    forall access, access ∈ runRestore cfg ring b req -> access.WithinReach cfg := by
  intro access member
  unfold runRestore at member
  split at member
  · cases member
  · rename_i snapshot
    split at member
    · cases member
    · split at member
      · rename_i src dst srcOpened dstOpened
        exact copyAccesses_withinReach _ _ _ srcOpened dstOpened
          (granted (not_not.mp snapshot)) access member
      · cases member

/-- The driver of an owned region: the cached one, or a new one from its own
credentials. -/
theorem forUserRegion_reaches {drivers : RegionDrivers} {region : UserRegion} {key : Credentials}
    (owned : region ∈ ring.keychain userID)
    (cached : CachedDriverIsOwn drivers ring userID region)
    (built : (forUserRegion drivers region.credentials).1 = some key) :
    Reaches cfg ring userID (.region key) := by
  unfold forUserRegion at built
  split at built
  · cases built
  · split at built
    · rename_i found
      cases Option.some.inj built
      exact cached _ found
    · cases Option.some.inj built
      exact ⟨region, owned, rfl⟩

/-- The driver of a snapshot listing. -/
theorem snapshotListingDriver_reaches {drivers : RegionDrivers} {raw : String} {via : Via}
    (kept : match ring.ownedRegion userID raw with
      | some region => CachedDriverIsOwn drivers ring userID region
      | none => (openSide cfg ring userID raw).isSome -> Granted cfg ring userID raw)
    (built : (snapshotListingDriver cfg ring drivers userID raw).1 = some via) :
    Reaches cfg ring userID via := by
  unfold snapshotListingDriver at built
  cases owned : ring.ownedRegion userID raw with
  | some region =>
      rw [owned] at built kept
      rcases Option.map_eq_some_iff.mp built with ⟨key, key_built, rfl⟩
      exact forUserRegion_reaches (Keyring.mem_keychain_of_ownedRegion owned) kept key_built
  | none =>
      rw [owned] at built kept
      rcases Option.map_eq_some_iff.mp built with ⟨conn, opened, rfl⟩
      exact (reaches_openSide_iff opened).mpr (kept (by simp [opened]))

end Reach

/-! ## Runs -/

/-- Every access so far was within its owner's reach. -/
def Server.AllWithinReach (cfg : Config) (server : Server) : Prop :=
  forall access, access ∈ server.accesses -> access.WithinReach cfg

theorem Server.AllWithinReach.record {cfg : Config} {server : Server} {accesses : List Access}
    (before : server.AllWithinReach cfg)
    (added : forall access, access ∈ accesses -> access.WithinReach cfg) :
    (server.record accesses).AllWithinReach cfg := by
  intro access member
  rcases List.mem_append.mp member with old | new
  · exact before access old
  · exact added access new

theorem Server.AllWithinReach.of_same_accesses {cfg : Config} {server next : Server}
    (before : server.AllWithinReach cfg) (same : next.accesses = server.accesses) :
    next.AllWithinReach cfg := by
  intro access member
  rw [same] at member
  exact before access member

/-- A request that opens drivers for a backup. -/
def Request.opensForBackup : Request -> Bool
  | .runBackup _ _ | .fireBackup _ | .restoreBackup _ _ _ | .listSnapshots _ _ => true
  | _ => false

/-- Only these add accesses. -/
theorem step_accesses {cfg : Config} {server next : Server} {request : Request}
    (quiet : request.opensForBackup = false) (taken : step cfg server request = some next) :
    next.accesses = server.accesses := by
  cases request with
  | createRegion uuid userID endpoint accessKeyID secretKey =>
      simp only [step] at taken
      split at taken
      · cases taken
      · split at taken
        · cases taken; rfl
        · split at taken <;> (cases taken; rfl)
  | rotateRegion userID regionID accessKeyID secretKey =>
      simp only [step] at taken
      split at taken
      · cases taken; rfl
      · split at taken <;> (cases taken; rfl)
  | deleteRegion userID regionID =>
      simp only [step] at taken
      split at taken <;> (cases taken; rfl)
  | openRegion userID regionID =>
      simp only [step] at taken
      split at taken <;> (cases taken; rfl)
  | putConnection conn =>
      cases taken
      rfl
  | deleteConnection connID =>
      cases taken
      rfl
  | createBackup uuid userID req =>
      simp only [step] at taken
      split at taken
      · cases taken
      · split at taken <;> (cases taken; rfl)
  | updateBackup userID backupID req =>
      simp only [step] at taken
      split at taken
      · cases taken; rfl
      · split at taken <;> (cases taken; rfl)
  | deleteBackup userID backupID =>
      simp only [step] at taken
      split at taken <;> (cases taken; rfl)
  | runBackup userID backupID => cases quiet
  | fireBackup backupID => cases quiet
  | restoreBackup userID backupID req => cases quiet
  | listSnapshots userID backupID => cases quiet

theorem step_withinReach {cfg : Config} {server next : Server} {request : Request}
    (before : server.AllWithinReach cfg) (keeps : KeepsWithinReach cfg server request)
    (taken : step cfg server request = some next) : next.AllWithinReach cfg := by
  cases request with
  | runBackup userID backupID =>
      simp only [step] at taken
      cases found : server.ownedBackup userID backupID with
      | none =>
          simp only [found] at taken
          cases taken
          exact before
      | some b =>
          simp only [found] at taken
          cases disabled : b.disabled with
          | true =>
              rw [if_pos disabled] at taken
              cases taken
              exact before
          | false =>
              rw [if_neg (by simp [disabled])] at taken
              cases taken
              exact before.record (runBackupOnce_withinReach (keeps b found disabled))
  | fireBackup backupID =>
      simp only [step] at taken
      cases found : server.backups.get? backupID with
      | none =>
          simp only [found] at taken
          cases taken
          exact before
      | some b =>
          simp only [found] at taken
          cases schedulable : b.schedulable with
          | false =>
              rw [if_neg (by simp [schedulable])] at taken
              cases taken
              exact before
          | true =>
              rw [if_pos schedulable] at taken
              cases taken
              exact before.record (runBackupOnce_withinReach (keeps b found schedulable))
  | restoreBackup userID backupID req =>
      simp only [step] at taken
      cases found : server.ownedBackup userID backupID with
      | none =>
          simp only [found] at taken
          cases taken
          exact before
      | some b =>
          simp only [found] at taken
          cases taken
          exact before.record (runRestore_withinReach (keeps b found))
  | listSnapshots userID backupID =>
      simp only [step] at taken
      cases found : server.ownedBackup userID backupID with
      | none =>
          simp only [found] at taken
          cases taken
          exact before
      | some b =>
          simp only [found] at taken
          by_cases snapshot : b.mode = .snapshot
          · rw [if_neg (not_not.mpr snapshot)] at taken
            cases taken
            apply Server.AllWithinReach.record (before.of_same_accesses rfl)
            intro access member
            rcases List.mem_map.mp member with ⟨via, built, rfl⟩
            intro notAdmin
            have kept := keeps b found snapshot notAdmin
            exact snapshotListingDriver_reaches kept (Option.mem_toList.mp built)
          · rw [if_pos snapshot] at taken
            cases taken
            exact before
  | createRegion | rotateRegion | deleteRegion | openRegion | putConnection | deleteConnection
  | createBackup | updateBackup | deleteBackup =>
      exact before.of_same_accesses (step_accesses rfl taken)

/-- A backup acts only within its owner's reach.  In every run whose backup
operations name regions of the owner or connections that the sync handler would
grant the owner, each access is within the reach its owner has at that moment. -/
theorem backups_stay_within_reach (cfg : Config) {start final : Server} {requests : List Request}
    (fresh : start.accesses = [])
    (keeps : Transition.Meets (step cfg) (KeepsWithinReach cfg) start requests)
    (run : Transition.exec (step cfg) start requests = some final) :
    forall access, access ∈ final.accesses -> access.WithinReach cfg := by
  have initially : start.AllWithinReach cfg := by
    intro access member
    rw [fresh] at member
    cases member
  exact Transition.exec_invariant_of_meets
    (fun _ _ _ before kept taken => step_withinReach before kept taken) initially keeps run

/-- One connection of the administrator, and no administrator among the users. -/
def sampleConfig : Config := ⟨sampleURLs, fun _ => false, fun _ => true, fun _ => true⟩

def sampleServer : Server where
  ring := ⟨[{ id := "c1", driver := .awsS3, s3Endpoint := "https://s3.local:443" }],
    SortedStore.empty⟩
  drivers := SortedStore.empty
  backups := SortedStore.empty
  accesses := []

/-- A backup of one bucket into another with the given text on both sides. -/
def sampleRequest (identifier : String) : BackupRequest where
  name := "nightly"
  srcRegionID := identifier
  srcBucket := "photos"
  dstRegionID := identifier
  dstBucket := "copies"
  schedule := "manual"
  mode := "snapshot"

def backUp (identifier : String) : List Request :=
  [.createBackup "b1" "eve" (sampleRequest identifier), .runBackup "eve" "b1"]

def registerRegion : Request :=
  .createRegion "r1" "eve" "https://s3.local" "GK1" "secret"

theorem backups_stay_within_reach_region : Exists fun final =>
    Transition.exec (step sampleConfig) sampleServer (registerRegion :: backUp "r1") = some final ∧
    final.accesses.length = 6 ∧
    (forall access, access ∈ final.accesses -> access.WithinReach sampleConfig) := by
  have keeps : Transition.Meets (step sampleConfig) (KeepsWithinReach sampleConfig) sampleServer
      (registerRegion :: backUp "r1") := by
    refine Transition.meets_of_step trivial rfl (Transition.meets_of_step trivial rfl
      (Transition.meets_of_step ?_ rfl trivial))
    intro b found _ _
    cases Option.some.inj found
    exact fun _ _ => ⟨Or.inl (by decide), Or.inl (by decide)⟩
  exact ⟨_, rfl, rfl, backups_stay_within_reach sampleConfig rfl keeps rfl⟩

/-- A user without any region runs a backup through the administrator's connection
by writing its ID in the region fields. -/
theorem backup_runs_through_foreign_connection :
    ¬ forall (start final : Server) (requests : List Request), start.accesses = [] ->
      Transition.exec (step sampleConfig) start requests = some final ->
        forall access, access ∈ final.accesses -> access.WithinReach sampleConfig := by
  intro stated
  have reach := stated sampleServer _ (backUp "c1") rfl rfl _ List.mem_cons_self rfl
  rcases reach with visible | owns
  · exact absurd visible (by decide)
  · exact absurd owns (by decide)

end Backups
end Api
end Basement
