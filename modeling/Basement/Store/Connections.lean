import Basement.Api.Regions
import Basement.Library.Transition
import Mathlib.Data.List.Forall2

namespace Basement
namespace Store

open Library
open Api (trimSpace)

/-!
# The connection store

Connections live in memory with one unified config map.  Every mutation rewrites
`connections.json`; with a JWT secret the sensitive config keys of a row are sealed
into one blob and only the others are written in the clear.  Opening the store reads
the file back.

The file is modelled by the rows that it parses to.  A nonempty slice of ciphertext
is a `Blob`, and an empty one is `none`.  What can go wrong during a save, and the
random bytes it draws, are arguments.  `strings.ToLower` is a parameter as well.
-/

/-! ## Records -/

abbrev Bytes := List UInt8

abbrev ConfigMap := SortedStore String String

/-- `SupportedDrivers`. -/
def supportedDrivers : List String := ["garage", "garage-v1", "aws-s3", "minio"]

/-- `sensitiveConfigKeys`. -/
def sensitiveConfigKeys : List String := ["admin_token", "secret_key", "s3_secret_key", "auth_token"]

def isSensitive (key : String) : Bool := sensitiveConfigKeys.contains key

/-- A connection in memory: `config` includes the secrets. -/
structure Connection (Blob : Type) where
  id : String
  label : String
  driver : String
  config : ConfigMap
  configEnc : Option Blob := none
  configEncCSK : Option Blob := none
  color : String
  owner : String
  createdAt : Int

/-- `connectionDisk`, a row of the file. -/
structure ConnectionDisk (Blob : Type) where
  id : String
  label : String
  driver : String
  config : ConfigMap
  configEnc : Option Blob
  configEncCSK : Option Blob
  color : String
  owner : String
  createdAt : Int

/-- The connection a caller hands to `Create` or `Update`; its config can be nil. -/
structure ConnectionInput (Blob : Type) where
  id : String := ""
  label : String := ""
  driver : String := ""
  config : Option ConfigMap := none
  configEncCSK : Option Blob := none
  color : String := ""
  owner : String := ""
  createdAt : Int := 0

/-- The secret envelope over the marshalled map: a random nonce goes into the blob, and
the key that sealed a map opens it. -/
structure Envelope (Blob : Type) where
  encryptSecret : Bytes -> Nat -> ConfigMap -> Blob
  decryptSecret : Bytes -> Blob -> Option ConfigMap
  decrypt_encrypt : forall secret nonce plain,
    decryptSecret secret (encryptSecret secret nonce plain) = some plain

/-- The nonce of each row of a save, and the errors it meets. -/
structure SaveIO where
  nonce : Nat -> Nat := id
  encryptError : Nat -> Option String := fun _ => none
  writeError : Option String := none

/-- An open store, with the contents of its file. -/
structure Connections (Blob : Type) where
  jwtSecret : Option Bytes
  cache : List (Connection Blob)
  file : Option (List (ConnectionDisk Blob))

variable {Blob : Type} (lower : String -> String) (box : Envelope Blob)

/-! ## Saving -/

/-- `toDisk`, when nothing fails. -/
def toDisk (jwtSecret : Option Bytes) (nonce : Nat) (c : Connection Blob) : ConnectionDisk Blob :=
  match jwtSecret with
  | none =>
      { id := c.id, label := c.label, driver := c.driver, config := c.config, configEnc := none
        configEncCSK := c.configEncCSK, color := c.color, owner := c.owner
        createdAt := c.createdAt }
  | some secret =>
      let sensitive := c.config.restrict isSensitive
      { id := c.id, label := c.label, driver := c.driver
        config := c.config.restrict fun key => !isSensitive key
        configEnc :=
          if sensitive.entries.isEmpty then none
          else some (box.encryptSecret secret nonce sensitive)
        configEncCSK := c.configEncCSK, color := c.color, owner := c.owner
        createdAt := c.createdAt }

/-- The error of `toDisk` for a row: only a row with secrets is encrypted. -/
def toDiskError (jwtSecret : Option Bytes) (fault : Option String) (c : Connection Blob) :
    Option String :=
  if jwtSecret.isSome ∧ ¬ (c.config.restrict isSensitive).entries.isEmpty then
    fault.map fun error => "encrypting sensitive subset: " ++ error
  else none

/-- The loop of `saveLocked`.  The ciphertext of each row that was prepared goes back
into the cache, also when a later row fails. -/
def prepareRows (jwtSecret : Option Bytes) (io : SaveIO) :
    Nat -> List (Connection Blob) -> List (Connection Blob) × Except String (List (ConnectionDisk Blob))
  | _, [] => ([], .ok [])
  | index, c :: rest =>
      match toDiskError jwtSecret (io.encryptError index) c with
      | some error =>
          (c :: rest, .error ("preparing connection " ++ c.id.quote ++ " for disk: " ++ error))
      | none =>
          let row := toDisk box jwtSecret (io.nonce index) c
          let tail := prepareRows jwtSecret io (index + 1) rest
          ({ c with configEnc := row.configEnc, configEncCSK := row.configEncCSK } :: tail.1,
            tail.2.map (row :: ·))

/-- `saveLocked`. -/
def Connections.saveLocked (store : Connections Blob) (io : SaveIO) :
    Except String Unit × Connections Blob :=
  let prepared := prepareRows box store.jwtSecret io 0 store.cache
  match prepared.2 with
  | .error error => (.error error, { store with cache := prepared.1 })
  | .ok rows =>
      match io.writeError with
      | some error => (.error error, { store with cache := prepared.1 })
      | none => (.ok (), { store with cache := prepared.1, file := some rows })

/-! ## Operations -/

/-- The form in which labels are compared. -/
def labelKey (label : String) : String := trimSpace (lower label)

/-- `Connections.Create`, with the random ID and the time as arguments. -/
def Connections.create (store : Connections Blob) (uuid : String) (now : Int) (io : SaveIO)
    (c : ConnectionInput Blob) : Except String (Connection Blob) × Connections Blob :=
  if c.driver ∉ supportedDrivers then (.error ("unsupported driver: " ++ c.driver.quote), store)
  else if labelKey lower c.label = "" then (.error "label must be non-empty", store)
  else if store.cache.any fun existing =>
      labelKey lower existing.label == labelKey lower c.label then
    (.error ("duplicate label (case-insensitive): " ++ c.label.quote), store)
  else
    let row : Connection Blob :=
      { id := if c.id = "" then uuid else c.id
        label := c.label
        driver := c.driver
        config := c.config.getD SortedStore.empty
        configEncCSK := c.configEncCSK
        color := if c.color = "" then "#C9874B" else c.color
        owner := c.owner
        createdAt := if c.createdAt = 0 then now else c.createdAt }
    let saved := Connections.saveLocked box { store with cache := store.cache ++ [row] } io
    match saved.1 with
    | .error error =>
        (.error ("persisting connection: " ++ error),
          { saved.2 with cache := saved.2.cache.dropLast })
    | .ok () => (.ok row, saved.2)

/-- Overwrite the first row with an ID. -/
def setRow (id : String) (row : Connection Blob) : List (Connection Blob) -> List (Connection Blob)
  | [] => []
  | c :: rest => if c.id = id then row :: rest else c :: setRow id row rest

/-- The label part of `Connections.Update`. -/
def patchLabel (cache : List (Connection Blob)) (id : String) (patch : ConnectionInput Blob)
    (conn : Connection Blob) : Except String (Connection Blob) :=
  if patch.label = "" then .ok conn
  else if labelKey lower patch.label = "" then .error "label must be non-empty"
  else if cache.any fun existing =>
      existing.id != id && labelKey lower existing.label == labelKey lower patch.label then
    .error ("duplicate label (case-insensitive): " ++ patch.label.quote)
  else .ok { conn with label := patch.label }

/-- `Connections.Update`.  A driver that is refused leaves the new label in memory. -/
def Connections.update (store : Connections Blob) (id : String) (io : SaveIO)
    (patch : ConnectionInput Blob) : Except String (Connection Blob) × Connections Blob :=
  match store.cache.find? fun c => c.id == id with
  | none => (.error ("connection not found: " ++ id), store)
  | some before =>
      match patchLabel lower store.cache id patch before with
      | .error error => (.error error, store)
      | .ok conn =>
          if patch.driver ≠ "" ∧ patch.driver ∉ supportedDrivers then
            (.error ("unsupported driver: " ++ patch.driver.quote),
              { store with cache := setRow id conn store.cache })
          else
            let conn := { conn with
              driver := if patch.driver = "" then conn.driver else patch.driver
              config := patch.config.getD conn.config
              color := if patch.color = "" then conn.color else patch.color }
            let saved := Connections.saveLocked box
              { store with cache := setRow id conn store.cache } io
            match saved.1 with
            | .error error =>
                (.error ("persisting update: " ++ error),
                  { saved.2 with cache := setRow id before saved.2.cache })
            | .ok () => (.ok ((saved.2.cache.find? fun c => c.id == id).getD conn), saved.2)

/-- `Connections.Delete`. -/
def Connections.delete (store : Connections Blob) (id : String) (io : SaveIO) :
    Except String Unit × Connections Blob :=
  match store.cache.find? fun c => c.id == id with
  | none => (.error ("connection not found: " ++ id), store)
  | some _ =>
      let saved := Connections.saveLocked box
        { store with cache := store.cache.eraseP fun c => c.id == id } io
      match saved.1 with
      | .error error =>
          (.error ("persisting delete: " ++ error), { saved.2 with cache := store.cache })
      | .ok () => (.ok (), saved.2)

/-! ## Opening -/

/-- One row of `load`; `none` is a row that is dropped.  A row with ciphertext under the
JWT key and none under the cluster's own key counts as a leftover of an old version. -/
def loadRow (jwtSecret : Option Bytes) (d : ConnectionDisk Blob) :
    Except String (Option (Connection Blob)) :=
  let c : Connection Blob :=
    { id := d.id, label := d.label, driver := d.driver, config := d.config, configEnc := d.configEnc
      configEncCSK := d.configEncCSK, color := d.color, owner := d.owner, createdAt := d.createdAt }
  match jwtSecret, d.configEnc with
  | some secret, some enc =>
      if d.configEncCSK.isNone then .ok none
      else
        match box.decryptSecret secret enc with
        | none => .error ("decrypting ConfigEnc for connection " ++ d.id.quote)
        | some dec => .ok (some { c with config := d.config.merge dec })
  | _, _ => .ok (some c)

/-- The loop of `load`. -/
def loadRows (jwtSecret : Option Bytes) :
    List (ConnectionDisk Blob) -> Except String (List (Connection Blob))
  | [] => .ok []
  | d :: rest =>
      match loadRow box jwtSecret d with
      | .error error => .error error
      | .ok row => (loadRows jwtSecret rest).map (row.toList ++ ·)

/-- A row that is kept and has a secret in the clear makes `load` rewrite the file. -/
def needsMigration (jwtSecret : Option Bytes) (rows : List (ConnectionDisk Blob)) : Bool :=
  jwtSecret.isSome && rows.any fun d =>
    !(d.configEnc.isSome && d.configEncCSK.isNone) &&
      d.config.entries.any fun entry => isSensitive entry.1

/-- `openConnections`. -/
def openConnections (jwtSecret : Option Bytes) (file : Option (List (ConnectionDisk Blob)))
    (io : SaveIO) : Except String (Connections Blob) :=
  match file with
  | none => .ok ⟨jwtSecret, [], none⟩
  | some rows =>
      match loadRows box jwtSecret rows with
      | .error error => .error ("loading existing connections: " ++ error)
      | .ok cache =>
          if needsMigration jwtSecret rows then
            match Connections.saveLocked box ⟨jwtSecret, cache, file⟩ io with
            | (.error error, _) =>
                .error ("loading existing connections: " ++
                  "re-saving connections after at-rest migration: " ++ error)
            | (.ok (), store) => .ok store
          else .ok ⟨jwtSecret, cache, file⟩

/-- `OpenConnectionsWithKey`. -/
def openConnectionsWithKey (jwtSecret : Bytes) (file : Option (List (ConnectionDisk Blob)))
    (io : SaveIO) : Except String (Connections Blob) :=
  if jwtSecret = [] then .error "OpenConnectionsWithKey: empty jwtSecret"
  else openConnections box (some jwtSecret) file io

/-! ## Histories -/

/-- A call of one of the three mutations. -/
inductive Call (Blob : Type) where
  | create (uuid : String) (now : Int) (io : SaveIO) (c : ConnectionInput Blob)
  | update (id : String) (io : SaveIO) (patch : ConnectionInput Blob)
  | delete (id : String) (io : SaveIO)

/-- A call that returns success; one that returns an error is not a step. -/
def perform (store : Connections Blob) : Call Blob -> Option (Connections Blob)
  | .create uuid now io c =>
      match Connections.create lower box store uuid now io c with
      | (.error _, _) => none
      | (.ok _, next) => some next
  | .update id io patch =>
      match Connections.update lower box store id io patch with
      | (.error _, _) => none
      | (.ok _, next) => some next
  | .delete id io =>
      match Connections.delete box store id io with
      | (.error _, _) => none
      | (.ok _, next) => some next

/-- What a connection is to its readers: the ID, the label, the driver and the config. -/
def Connection.shown (c : Connection Blob) : String × String × String × ConfigMap :=
  (c.id, c.label, c.driver, c.config)

/-- A connection that `load` does not take for a leftover of an old version. -/
def Connection.Reloadable (c : Connection Blob) : Prop :=
  (forall key, isSensitive key = true -> c.config.get? key = none) ∨ c.configEncCSK ≠ none

theorem restrict_isEmpty_iff {config : ConfigMap} {keep : String -> Bool} :
    (config.restrict keep).entries.isEmpty = true ↔
      forall key, keep key = true -> config.get? key = none := by
  simp only [SortedStore.isEmpty_iff, SortedStore.get?_restrict, ite_eq_right_iff]

instance (c : Connection Blob) : Decidable c.Reloadable :=
  decidable_of_iff
    ((c.config.restrict isSensitive).entries.isEmpty = true ∨ c.configEncCSK.isSome = true) (by
      unfold Connection.Reloadable
      rw [restrict_isEmpty_iff, Option.isSome_iff_ne_none])

/-! ## What the file holds -/

section Files

variable {box} {secret : Bytes}

/-- The row is what a save writes for the connection. -/
def Written (box : Envelope Blob) (secret : Bytes) (c : Connection Blob) (d : ConnectionDisk Blob) :
    Prop :=
  Exists fun nonce => d = toDisk box (some secret) nonce c

/-- The file holds the connections in memory; a store that never saved has neither. -/
def Synced (box : Envelope Blob) (secret : Bytes) (store : Connections Blob) : Prop :=
  store.jwtSecret = some secret ∧
    match store.file with
    | none => store.cache = []
    | some rows => List.Forall₂ (Written box secret) store.cache rows

theorem prepareRows_written {io : SaveIO} {cache : List (Connection Blob)} :
    forall {index : Nat} {rows : List (ConnectionDisk Blob)},
      (prepareRows box (some secret) io index cache).2 = .ok rows ->
        List.Forall₂ (Written box secret) (prepareRows box (some secret) io index cache).1 rows := by
  induction cache with
  | nil =>
      intro index rows prepared
      cases prepared
      exact .nil
  | cons c rest ih =>
      intro index rows prepared
      unfold prepareRows at prepared ⊢
      cases fault : toDiskError (some secret) (io.encryptError index) c with
      | some error =>
          rw [fault] at prepared
          cases prepared
      | none =>
          simp only [fault] at prepared ⊢
          cases tail : (prepareRows box (some secret) io (index + 1) rest).2 with
          | error error =>
              rw [tail] at prepared
              cases prepared
          | ok others =>
              rw [tail] at prepared
              cases prepared
              exact .cons ⟨io.nonce index, rfl⟩ (ih tail)

/-- A save that succeeds leaves file and memory in step. -/
theorem saveLocked_synced {store : Connections Blob} {io : SaveIO}
    (secured : store.jwtSecret = some secret) (saved : (store.saveLocked box io).1 = .ok ()) :
    Synced box secret (store.saveLocked box io).2 := by
  unfold Connections.saveLocked at saved ⊢
  rw [secured] at saved ⊢
  cases prepared : (prepareRows box (some secret) io 0 store.cache).2 with
  | error error =>
      simp only [prepared] at saved
      cases saved
  | ok rows =>
      simp only [prepared] at saved ⊢
      cases failed : io.writeError with
      | some error =>
          rw [failed] at saved
          cases saved
      | none => exact ⟨rfl, prepareRows_written prepared⟩

/-- The store after a call is what a successful save of some edited cache left behind. -/
def SavedFrom (box : Envelope Blob) (store next : Connections Blob) : Prop :=
  Exists fun cache => Exists fun io =>
    Connections.saveLocked box { store with cache := cache } io = (.ok (), next)

theorem create_saves {store next : Connections Blob} {uuid : String} {now : Int} {io : SaveIO}
    {c : ConnectionInput Blob} {row : Connection Blob}
    (created : store.create lower box uuid now io c = (.ok row, next)) :
    SavedFrom box store next := by
  unfold Connections.create at created
  split at created
  · cases created
  · split at created
    · cases created
    · split at created
      · cases created
      · simp only at created
        split at created
        · cases created
        · rename_i saved
          cases created
          exact ⟨_, io, Prod.ext saved rfl⟩

theorem update_saves {store next : Connections Blob} {id : String} {io : SaveIO}
    {patch : ConnectionInput Blob} {row : Connection Blob}
    (updated : store.update lower box id io patch = (.ok row, next)) :
    SavedFrom box store next := by
  unfold Connections.update at updated
  split at updated
  · cases updated
  · split at updated
    · cases updated
    · split at updated
      · cases updated
      · simp only at updated
        split at updated
        · cases updated
        · rename_i saved
          cases updated
          exact ⟨_, io, Prod.ext saved rfl⟩

theorem delete_saves {store next : Connections Blob} {id : String} {io : SaveIO}
    (deleted : store.delete box id io = (.ok (), next)) : SavedFrom box store next := by
  unfold Connections.delete at deleted
  split at deleted
  · cases deleted
  · simp only at deleted
    split at deleted
    · cases deleted
    · rename_i saved
      cases deleted
      exact ⟨_, io, Prod.ext saved rfl⟩

/-- Every call that succeeds ends in a save that succeeds. -/
theorem perform_saves {store next : Connections Blob} {call : Call Blob}
    (performed : perform lower box store call = some next) : SavedFrom box store next := by
  cases call with
  | create uuid now io c =>
      simp only [perform] at performed
      split at performed
      · cases performed
      · rename_i created
        cases performed
        exact create_saves lower created
  | update id io patch =>
      simp only [perform] at performed
      split at performed
      · cases performed
      · rename_i updated
        cases performed
        exact update_saves lower updated
  | delete id io =>
      simp only [perform] at performed
      split at performed
      · cases performed
      · rename_i deleted
        cases performed
        exact delete_saves deleted

theorem perform_synced {store next : Connections Blob} {call : Call Blob}
    (synced : Synced box secret store) (performed : perform lower box store call = some next) :
    Synced box secret next := by
  rcases perform_saves lower performed with ⟨cache, io, saved⟩
  have start : ({ store with cache := cache } : Connections Blob).jwtSecret = some secret := synced.1
  have kept := saveLocked_synced start (by rw [saved])
  rw [saved] at kept
  exact kept

/-! ## Reading the file back -/

/-- A row is read back as its connection, or dropped when it looks like a leftover. -/
theorem loadRow_written {c : Connection Blob} {d : ConnectionDisk Blob}
    (written : Written box secret c d) :
    loadRow box (some secret) d =
      .ok (if c.Reloadable then some { c with configEnc := d.configEnc } else none) := by
  rcases written with ⟨nonce, rfl⟩
  unfold loadRow toDisk
  cases plain : (c.config.restrict isSensitive).entries.isEmpty with
  | true =>
      have clear := restrict_isEmpty_iff.mp plain
      have whole : (c.config.restrict fun key => !isSensitive key) = c.config := by
        apply SortedStore.ext_get?
        intro key
        rw [SortedStore.get?_restrict]
        cases secretKey : isSensitive key with
        | true => simp [clear key secretKey]
        | false => simp
      have kept : c.Reloadable := Or.inl clear
      simp only [plain, if_true, whole, kept]
  | false =>
      have sealed : ¬ forall key, isSensitive key = true -> c.config.get? key = none := by
        rw [← restrict_isEmpty_iff, plain]
        simp
      cases parallel : c.configEncCSK with
      | none =>
          have dropped : ¬ c.Reloadable := by simp [Connection.Reloadable, sealed, parallel]
          simp only [plain, Bool.false_eq_true, if_false, Option.isNone_none, if_true, dropped]
      | some own =>
          have kept : c.Reloadable := Or.inr (by simp [parallel])
          simp only [plain, Bool.false_eq_true, if_false, Option.isNone_some, box.decrypt_encrypt,
            SortedStore.merge_restrict, kept, if_true]

theorem loadRows_written {cache : List (Connection Blob)} {rows : List (ConnectionDisk Blob)}
    (written : List.Forall₂ (Written box secret) cache rows) :
    Exists fun loaded => loadRows box (some secret) rows = .ok loaded ∧
      loaded.map Connection.shown =
        (cache.filter fun c => decide c.Reloadable).map Connection.shown := by
  induction written with
  | nil => exact ⟨[], rfl, rfl⟩
  | cons row _ ih =>
      rename_i c d rest others _
      rcases ih with ⟨loaded, read, same⟩
      simp only [loadRows, loadRow_written row, read, Except.map]
      by_cases kept : c.Reloadable
      · refine ⟨{ c with configEnc := d.configEnc } :: loaded, by simp [kept], ?_⟩
        simp [kept, same, Connection.shown]
      · exact ⟨loaded, by simp [kept], by simp [kept, same]⟩

/-- What a save wrote needs no migration. -/
theorem needsMigration_written {cache : List (Connection Blob)} {rows : List (ConnectionDisk Blob)}
    (written : List.Forall₂ (Written box secret) cache rows) :
    needsMigration (some secret) rows = false := by
  induction written with
  | nil => rfl
  | cons row _ ih =>
      rename_i c d rest others _
      have clear : (d.config.entries.any fun entry => isSensitive entry.1) = false := by
        rcases row with ⟨nonce, rfl⟩
        simp [toDisk, SortedStore.restrict]
      simp only [needsMigration, Option.isSome_some, Bool.true_and, List.any_cons, clear,
        Bool.and_false, Bool.false_or] at ih ⊢
      exact ih

/-- Opening the file again gives the connections that do not look like leftovers. -/
theorem reopen_synced {store : Connections Blob} (io : SaveIO) (synced : Synced box secret store)
    (keyed : secret ≠ []) :
    Exists fun reopened => openConnectionsWithKey box secret store.file io = .ok reopened ∧
      reopened.cache.map Connection.shown =
        (store.cache.filter fun c => decide c.Reloadable).map Connection.shown := by
  rcases synced with ⟨_, held⟩
  cases contents : store.file with
  | none =>
      rw [contents] at held
      simp only at held
      refine ⟨⟨some secret, [], none⟩, by simp [openConnectionsWithKey, openConnections, keyed], ?_⟩
      simp [held]
  | some rows =>
      rw [contents] at held
      rcases loadRows_written held with ⟨loaded, read, same⟩
      refine ⟨⟨some secret, loaded, some rows⟩, ?_, same⟩
      simp [openConnectionsWithKey, openConnections, keyed, read, needsMigration_written held]

/-- A restart gives back the same connections exactly when none of them looks like a
leftover: its secrets are sealed under the JWT key and not under the cluster's own. -/
theorem restart_restores_iff {start final : Connections Blob} {calls : List (Call Blob)}
    (firstTry io : SaveIO)
    (opened : openConnectionsWithKey box secret none firstTry = .ok start)
    (run : Transition.exec (perform lower box) start calls = some final) :
    (Exists fun reopened => openConnectionsWithKey box secret final.file io = .ok reopened ∧
        reopened.cache.map Connection.shown = final.cache.map Connection.shown) ↔
      forall c, c ∈ final.cache -> c.Reloadable := by
  have keyed : secret ≠ [] := by
    intro empty
    simp [openConnectionsWithKey, empty] at opened
  have initially : Synced box secret start := by
    simp only [openConnectionsWithKey, openConnections, keyed, if_false] at opened
    cases opened
    exact ⟨rfl, rfl⟩
  have synced : Synced box secret final :=
    Transition.exec_invariant (fun _ _ _ held taken => perform_synced lower held taken) initially run
  rcases reopen_synced io synced keyed with ⟨reopened, read, same⟩
  constructor
  · rintro ⟨other, readOther, restored⟩
    cases Except.ok.inj (read.symm.trans readOther)
    have count := congrArg List.length (same.symm.trans restored)
    simp only [List.length_map] at count
    intro c member
    exact of_decide_eq_true (List.length_filter_eq_length_iff.mp count c member)
  · intro all
    have whole : (final.cache.filter fun c => decide c.Reloadable) = final.cache :=
      List.filter_eq_self.mpr fun c member => decide_eq_true (all c member)
    exact ⟨reopened, read, by rw [same, whole]⟩

end Files

/-! ## A server with two connections -/

/-- An envelope that shows the key, the nonce and the map it was made from. -/
def sampleBox : Envelope (Bytes × Nat × ConfigMap) where
  encryptSecret secret nonce plain := (secret, nonce, plain)
  decryptSecret secret blob := if blob.1 = secret then some blob.2.2 else none
  decrypt_encrypt secret nonce plain := by simp

def sampleStart : Connections (Bytes × Nat × ConfigMap) := ⟨some [7], [], none⟩

/-- An S3 connection that has no key yet. -/
def createKeyless : Call (Bytes × Nat × ConfigMap) :=
  .create "id-1" 100 {}
    { label := "Archive", driver := "aws-s3"
      config := some (SortedStore.empty.put "region" "eu-west-1") }

/-- A Garage connection with its admin token. -/
def createWithToken : Call (Bytes × Nat × ConfigMap) :=
  .create "id-2" 100 {}
    { label := "Production", driver := "garage"
      config := some (SortedStore.empty.put "admin_token" "t0ken") }

/-- The store after a connection without a key was created. -/
def keylessStore : Connections (Bytes × Nat × ConfigMap) :=
  (perform id sampleBox sampleStart createKeyless).getD sampleStart

theorem restart_restores_iff_keyless :
    Exists fun reopened => openConnectionsWithKey sampleBox [7] keylessStore.file {} = .ok reopened ∧
      reopened.cache.map Connection.shown = keylessStore.cache.map Connection.shown := by
  have run : Transition.exec (perform id sampleBox) sampleStart [createKeyless] =
      some keylessStore := rfl
  have reloadable : forall c, c ∈ keylessStore.cache -> c.Reloadable := by decide
  exact (restart_restores_iff id {} {} rfl run).mpr reloadable

/-- A Garage connection is gone after the first restart. -/
theorem connection_with_token_is_lost :
    ¬ forall (start final : Connections (Bytes × Nat × ConfigMap))
      (calls : List (Call (Bytes × Nat × ConfigMap))) (firstTry io : SaveIO),
      openConnectionsWithKey sampleBox [7] none firstTry = .ok start ->
        Transition.exec (perform id sampleBox) start calls = some final ->
          Exists fun reopened => openConnectionsWithKey sampleBox [7] final.file io = .ok reopened ∧
            reopened.cache.map Connection.shown = final.cache.map Connection.shown := by
  intro stated
  rcases stated sampleStart _ [createWithToken] {} {} rfl rfl with ⟨reopened, read, same⟩
  cases read
  cases same

end Store
end Basement
