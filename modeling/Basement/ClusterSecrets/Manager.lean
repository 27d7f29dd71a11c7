import Basement.Library.SortedStore
import Basement.Library.Transition
import Mathlib.Data.String.Basic

namespace Basement
namespace ClusterSecrets

open Library

/-!
# The cluster secret manager

Each cluster has a secret key, the CSK, which encrypts what is stored for the cluster.  The store
holds one record for each admin of the cluster, the key wrapped under the admin's password.  The
plain key is in a cache in memory, from an unlock to a lock.

The cipher and the derivation of a key from a password are ideal: a box opens with the key that
sealed it and with no other, and the wrapping key is the pair of the password and the salt.  A
CSK is known by the number of its drawing.

A call runs up to its first access to the store or to the cache and goes on with the next one
when it is resumed, so that calls interleave at these accesses.  Only the mutex of
`BootstrapFirstAdmin` is held across several of them.
-/

/-! ## Boxes and records -/

/-- A ciphertext: the key that sealed it and what it hides. -/
structure Sealed (Key Content : Type) where
  key : Key
  content : Content
  deriving DecidableEq, Repr

/-- `aesGCMOpenRaw`. -/
def Sealed.unseal {Key Content : Type} [DecidableEq Key] (box : Sealed Key Content) (key : Key) :
    Option Content :=
  if box.key = key then some box.content else none

abbrev CSK := Nat

/-- What `argon2.IDKey` derives. -/
structure WrappingKey where
  password : String
  salt : Nat
  deriving DecidableEq, Repr

structure WrappedCSK where
  clusterID : String
  adminUserID : String
  wrapped : Sealed WrappingKey CSK
  salt : Nat
  deriving DecidableEq, Repr

/-- `wrap`. -/
def wrap (csk : CSK) (clusterID adminUserID password : String) (salt : Nat) : WrappedCSK :=
  ⟨clusterID, adminUserID, ⟨⟨password, salt⟩, csk⟩, salt⟩

/-- `tryUnwrap`. -/
def tryUnwrap (rec : WrappedCSK) (password : String) : Option CSK :=
  rec.wrapped.unseal ⟨password, rec.salt⟩

theorem tryUnwrap_eq_some {rec : WrappedCSK} {password : String} {csk : CSK}
    (unwrapped : tryUnwrap rec password = some csk) : rec.wrapped.content = csk := by
  unfold tryUnwrap Sealed.unseal at unwrapped
  split at unwrapped
  · exact Option.some.inj unwrapped
  · cases unwrapped

/-! ## The store -/

/-- `GetWrappedCSKs`. -/
def getWrappedCSKs (records : List WrappedCSK) (clusterID : String) : List WrappedCSK :=
  records.filter fun rec => rec.clusterID = clusterID

/-- `PutWrappedCSK`, which replaces the first record of the cluster's admin. -/
def putWrappedCSK : List WrappedCSK -> WrappedCSK -> List WrappedCSK
  | [], rec => [rec]
  | old :: rest, rec =>
      if old.clusterID = rec.clusterID ∧ old.adminUserID = rec.adminUserID then rec :: rest
      else old :: putWrappedCSK rest rec

/-- `DeleteWrappedCSK`. -/
def deleteWrappedCSK (records : List WrappedCSK) (clusterID adminUserID : String) :
    List WrappedCSK :=
  records.eraseP fun rec => rec.clusterID = clusterID && rec.adminUserID = adminUserID

theorem mem_putWrappedCSK {records : List WrappedCSK} {rec other : WrappedCSK}
    (member : other ∈ putWrappedCSK records rec) : other = rec ∨ other ∈ records := by
  induction records with
  | nil => exact Or.inl (List.mem_singleton.mp member)
  | cons old rest ih =>
      rw [putWrappedCSK] at member
      split at member
      · rcases List.mem_cons.mp member with same | later
        · exact Or.inl same
        · exact Or.inr (List.mem_cons_of_mem _ later)
      · rcases List.mem_cons.mp member with same | later
        · exact Or.inr (List.mem_cons.mpr (Or.inl same))
        · exact (ih later).imp_right (List.mem_cons_of_mem _)

theorem mem_of_mem_deleteWrappedCSK {records : List WrappedCSK} {clusterID adminUserID : String}
    {rec : WrappedCSK} (member : rec ∈ deleteWrappedCSK records clusterID adminUserID) :
    rec ∈ records :=
  List.mem_of_mem_eraseP member

/-! ## The parts of the calls -/

inductive SecretError where
  | clusterRequired
  | namesRequired
  | passwordRequired
  | locked
  | invalidPassword
  | noWrappedCSK
  | unknownAdmin
  | adminAlreadyExists
  | unreadable
  | load (error : String)
  | persist (error : String)
  deriving DecidableEq, Repr

/-- `err.Error()`. -/
def SecretError.text : SecretError -> String
  | .clusterRequired => "clustersecret: clusterID required"
  | .namesRequired => "clustersecret: clusterID and adminUserID required"
  | .passwordRequired => "clustersecret: password required"
  | .locked => "clustersecret: cluster locked"
  | .invalidPassword => "clustersecret: invalid password"
  | .noWrappedCSK => "clustersecret: no wrapped CSK"
  | .unknownAdmin => "clustersecret: unknown admin"
  | .adminAlreadyExists => "clustersecret: admin already exists"
  | .unreadable => "cipher: message authentication failed"
  | .load error => "clustersecret: load wrapped CSKs: " ++ error
  | .persist error => "clustersecret: persist wrapped CSK: " ++ error

/-- `Unlock` up to the key that it caches. -/
def unlockKey (records : List WrappedCSK) (clusterID password : String)
    (storeError : Option String) : Except SecretError CSK :=
  if clusterID = "" then .error .clusterRequired
  else if password = "" then .error .invalidPassword
  else
    match storeError with
    | some error => .error (.load error)
    | none =>
        if (getWrappedCSKs records clusterID).isEmpty then .error .noWrappedCSK
        else
          match (getWrappedCSKs records clusterID).findSome? fun rec => tryUnwrap rec password with
          | some csk => .ok csk
          | none => .error .invalidPassword

/-- `UnlockAs` up to the key that it caches. -/
def unlockAsKey (records : List WrappedCSK) (clusterID adminUserID password : String)
    (storeError : Option String) : Except SecretError CSK :=
  if clusterID = "" ∨ adminUserID = "" then .error .namesRequired
  else if password = "" then .error .invalidPassword
  else
    match storeError with
    | some error => .error (.load error)
    | none =>
        if (getWrappedCSKs records clusterID).isEmpty then .error .noWrappedCSK
        else
          match (getWrappedCSKs records clusterID).find? fun rec =>
              rec.adminUserID = adminUserID with
          | none => .error .unknownAdmin
          | some rec =>
              match tryUnwrap rec password with
              | some csk => .ok csk
              | none => .error .invalidPassword

/-- The arguments of `AddAdmin` and of `BootstrapFirstAdmin`. -/
def checkAdmin (clusterID adminUserID password : String) : Except SecretError Unit :=
  if clusterID = "" ∨ adminUserID = "" then .error .namesRequired
  else if password = "" then .error .passwordRequired
  else .ok ()

/-- The copy of the cached key that `AddAdmin` and `Encrypt` take. -/
def copyKey (csks : SortedStore String CSK) (clusterID : String) : Except SecretError CSK :=
  match csks.get? clusterID with
  | some csk => .ok csk
  | none => .error .locked

/-- `AddAdmin` from its copy of the key to the record that it stores. -/
def addAdminRecord (records : List WrappedCSK) (clusterID adminUserID password : String) (csk : CSK)
    (salt : Nat) (storeError : Option String) : Except SecretError WrappedCSK :=
  match storeError with
  | some error => .error (.load error)
  | none =>
      if (getWrappedCSKs records clusterID).any fun rec => rec.adminUserID = adminUserID then
        .error .adminAlreadyExists
      else .ok (wrap csk clusterID adminUserID password salt)

/-- The check of `BootstrapFirstAdmin` under its mutex. -/
def bootstrapCheck (records : List WrappedCSK) (clusterID : String) (storeError : Option String) :
    Except SecretError Unit :=
  match storeError with
  | some error => .error (.load error)
  | none =>
      if (getWrappedCSKs records clusterID).isEmpty then .ok () else .error .adminAlreadyExists

/-- `Decrypt`. -/
def decrypt (csks : SortedStore String CSK) (clusterID : String) (ciphertext : Sealed CSK String) :
    Except SecretError String :=
  match copyKey csks clusterID with
  | .error error => .error error
  | .ok csk =>
      match ciphertext.unseal csk with
      | some plaintext => .ok plaintext
      | none => .error .unreadable

theorem unlockKey_ok {records : List WrappedCSK} {clusterID password : String}
    {storeError : Option String} {csk : CSK}
    (unlocked : unlockKey records clusterID password storeError = .ok csk) :
    Exists fun rec => rec ∈ getWrappedCSKs records clusterID ∧ rec.wrapped.content = csk := by
  unfold unlockKey at unlocked
  split at unlocked
  · cases unlocked
  · split at unlocked
    · cases unlocked
    · split at unlocked
      · cases unlocked
      · split at unlocked
        · cases unlocked
        · split at unlocked
          · rename_i found
            cases unlocked
            rcases List.exists_of_findSome?_eq_some found with ⟨rec, member, unwrapped⟩
            exact ⟨rec, member, tryUnwrap_eq_some unwrapped⟩
          · cases unlocked

theorem unlockAsKey_ok {records : List WrappedCSK} {clusterID adminUserID password : String}
    {storeError : Option String} {csk : CSK}
    (unlocked : unlockAsKey records clusterID adminUserID password storeError = .ok csk) :
    Exists fun rec => rec ∈ getWrappedCSKs records clusterID ∧ rec.wrapped.content = csk := by
  unfold unlockAsKey at unlocked
  split at unlocked
  · cases unlocked
  · split at unlocked
    · cases unlocked
    · split at unlocked
      · cases unlocked
      · split at unlocked
        · cases unlocked
        · split at unlocked
          · cases unlocked
          · rename_i rec found
            split at unlocked
            · rename_i unwrapped
              cases unlocked
              exact ⟨rec, List.mem_of_find?_eq_some found, tryUnwrap_eq_some unwrapped⟩
            · cases unlocked

theorem addAdminRecord_ok {records : List WrappedCSK} {clusterID adminUserID password : String}
    {csk : CSK} {salt : Nat} {storeError : Option String} {rec : WrappedCSK}
    (made : addAdminRecord records clusterID adminUserID password csk salt storeError = .ok rec) :
    rec = wrap csk clusterID adminUserID password salt := by
  unfold addAdminRecord at made
  split at made
  · cases made
  · split at made
    · cases made
    · exact (Except.ok.inj made).symm

theorem copyKey_ok {csks : SortedStore String CSK} {clusterID : String} {csk : CSK}
    (copied : copyKey csks clusterID = .ok csk) : csks.get? clusterID = some csk := by
  unfold copyKey at copied
  split at copied
  · rename_i found
    rw [found, Except.ok.inj copied]
  · cases copied

/-! ## Calls in flight -/

/-- What a call that is not finished has yet to do, and the key it has in hand. -/
inductive Call where
  | unlocking (clusterID : String) (csk : CSK)
  | adding (clusterID adminUserID password : String) (csk : CSK)
  | added (rec : WrappedCSK)
  | bootstrapping (clusterID adminUserID password : String)
  | bootstrapped (clusterID : String) (csk : CSK)
  | encrypting (clusterID plaintext : String) (csk : CSK)
  deriving DecidableEq, Repr

/-- A ciphertext that `Encrypt` has returned. -/
structure Secret where
  clusterID : String
  box : Sealed CSK String
  deriving DecidableEq, Repr

structure Manager where
  records : List WrappedCSK
  csks : SortedStore String CSK
  bootstrapMu : Bool
  calls : SortedStore Nat Call
  secrets : List Secret

inductive Request where
  | unlock (clusterID password : String)
  | unlockAs (clusterID adminUserID password : String)
  | addAdmin (clusterID adminUserID password : String)
  | bootstrapFirstAdmin (clusterID adminUserID password : String)
  | encrypt (clusterID plaintext : String)
  | removeAdmin (clusterID adminUserID : String)
  | lock (clusterID : String)
  | lockAll
  deriving DecidableEq, Repr

/-- What a part of a call draws, and the error of its access to the store. -/
structure Draw where
  csk : CSK := 0
  salt : Nat := 0
  storeError : Option String := none
  deriving DecidableEq, Repr

inductive Event where
  | call (id : Nat) (request : Request) (draw : Draw)
  | resume (id : Nat) (draw : Draw)
  | restart
  deriving DecidableEq, Repr

def Manager.park (manager : Manager) (id : Nat) (call : Call) : Manager :=
  { manager with calls := manager.calls.put id call }

def Manager.finish (manager : Manager) (id : Nat) : Manager :=
  { manager with calls := manager.calls.erase id }

/-- The first part of a call; a second bootstrap waits for the mutex. -/
def Manager.begin (manager : Manager) (id : Nat) (draw : Draw) : Request -> Option Manager
  | .unlock clusterID password =>
      match unlockKey manager.records clusterID password draw.storeError with
      | .error _ => some manager
      | .ok csk => some (manager.park id (.unlocking clusterID csk))
  | .unlockAs clusterID adminUserID password =>
      match unlockAsKey manager.records clusterID adminUserID password draw.storeError with
      | .error _ => some manager
      | .ok csk => some (manager.park id (.unlocking clusterID csk))
  | .addAdmin clusterID adminUserID password =>
      match checkAdmin clusterID adminUserID password, copyKey manager.csks clusterID with
      | .ok _, .ok csk => some (manager.park id (.adding clusterID adminUserID password csk))
      | _, _ => some manager
  | .bootstrapFirstAdmin clusterID adminUserID password =>
      match checkAdmin clusterID adminUserID password with
      | .error _ => some manager
      | .ok _ =>
          if manager.bootstrapMu then none
          else
            match bootstrapCheck manager.records clusterID draw.storeError with
            | .error _ => some manager
            | .ok _ =>
                some { manager with
                  bootstrapMu := true
                  calls := manager.calls.put id (.bootstrapping clusterID adminUserID password) }
  | .encrypt clusterID plaintext =>
      match copyKey manager.csks clusterID with
      | .error _ => some manager
      | .ok csk => some (manager.park id (.encrypting clusterID plaintext csk))
  | .removeAdmin clusterID adminUserID =>
      if clusterID = "" ∨ adminUserID = "" ∨ draw.storeError.isSome = true then some manager
      else
        some { manager with records := deleteWrappedCSK manager.records clusterID adminUserID }
  | .lock clusterID => some { manager with csks := manager.csks.erase clusterID }
  | .lockAll => some { manager with csks := SortedStore.empty }

/-- The next part of a call. -/
def Manager.resume (manager : Manager) (id : Nat) (draw : Draw) : Call -> Manager
  | .unlocking clusterID csk =>
      { manager.finish id with csks := manager.csks.put clusterID csk }
  | .adding clusterID adminUserID password csk =>
      match addAdminRecord manager.records clusterID adminUserID password csk draw.salt
          draw.storeError with
      | .error _ => manager.finish id
      | .ok rec => manager.park id (.added rec)
  | .added rec =>
      match draw.storeError with
      | some _ => manager.finish id
      | none => { manager.finish id with records := putWrappedCSK manager.records rec }
  | .bootstrapping clusterID adminUserID password =>
      match draw.storeError with
      | some _ => { manager.finish id with bootstrapMu := false }
      | none =>
          { manager.park id (.bootstrapped clusterID draw.csk) with
            records := putWrappedCSK manager.records
              (wrap draw.csk clusterID adminUserID password draw.salt) }
  | .bootstrapped clusterID csk =>
      { manager.finish id with
        csks := manager.csks.put clusterID csk
        bootstrapMu := false }
  | .encrypting clusterID plaintext csk =>
      { manager.finish id with secrets := manager.secrets ++ [⟨clusterID, ⟨csk, plaintext⟩⟩] }

def step (manager : Manager) : Event -> Option Manager
  | .call id request draw =>
      if (manager.calls.get? id).isSome then none else manager.begin id draw request
  | .resume id draw => (manager.calls.get? id).map (manager.resume id draw)
  | .restart =>
      some
        { manager with
          csks := SortedStore.empty, bootstrapMu := false, calls := SortedStore.empty }

/-- No records, no calls and no keys. -/
def start : Manager := ⟨[], SortedStore.empty, false, SortedStore.empty, []⟩

end ClusterSecrets
end Basement
