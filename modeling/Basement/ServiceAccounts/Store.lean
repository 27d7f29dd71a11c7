import Basement.Api.Regions
import Basement.Library.SortedStore
import Basement.Library.Transition

namespace Basement
namespace ServiceAccounts

open Library
open Api (trimSpace)

/-!
# The service-account store

A service account is a credential of its own: an access key, the hash of a secret, and the
capabilities and scopes it was given.  Deleting one sets its `RevokedAt`; the row stays.

A time is the number of nanoseconds since Go's zero time, so an instant that `IsZero` calls
zero is 0.  The identifiers and the secret that a call draws, its clock and the error of its
write are arguments.  Comparing a secret with a hash is a parameter.
-/

/-! ## Records -/

structure Capability where
  id : String
  scope : String
  deriving DecidableEq, Repr

structure ServiceAccount where
  id : String
  ownerUserID : String
  name : String
  accessKeyID : String
  secretKeyHash : String
  capabilities : List Capability
  scopes : List String
  createdAt : Int
  expiresAt : Option Int
  lastUsedAt : Option Int
  revokedAt : Option Int
  deriving DecidableEq, Repr

/-- `IsRevoked`. -/
def ServiceAccount.isRevoked (sa : ServiceAccount) : Bool :=
  sa.revokedAt.any fun revoked => revoked != 0

/-- `IsExpired`. -/
def ServiceAccount.isExpired (sa : ServiceAccount) (now : Int) : Bool :=
  sa.expiresAt.any fun expiry => expiry != 0 && decide (expiry < now)

/-- The rows by ID. -/
abbrev Accounts := SortedStore String ServiceAccount

inductive StoreError where
  | notFound
  | duplicateName
  | invalidName
  | ownerMissing
  | expiryPassed
  | rotateRevoked
  | rotateExpired
  | write (context error : String)
  deriving DecidableEq, Repr

/-- `err.Error()`. -/
def StoreError.text : StoreError -> String
  | .notFound => "service account not found"
  | .duplicateName => "duplicate service account name for owner"
  | .invalidName => "invalid service account name"
  | .ownerMissing => "ownerUserId is required"
  | .expiryPassed => "expiresAt must be in the future"
  | .rotateRevoked => "cannot rotate a revoked service account"
  | .rotateExpired => "cannot rotate an expired service account"
  | .write context error => context ++ error

/-- What a call draws and reads, and the error of its write. -/
structure CallIO where
  uuid : String := ""
  accessKeyID : String := ""
  secret : String := ""
  hash : String := ""
  now : Int := 0
  writeError : Option String := none
  deriving DecidableEq, Repr

/-- The fields a caller of `Create` chooses. -/
structure Template where
  ownerUserID : String
  name : String
  capabilities : List Capability
  scopes : List String
  expiresAt : Option Int
  deriving DecidableEq, Repr

/-- The fields of a patch; a list that is absent is left alone. -/
structure Patch where
  name : String := ""
  capabilities : Option (List Capability) := none
  scopes : Option (List String) := none
  expiresAt : Option Int := none
  deriving DecidableEq, Repr

/-! ## The calls -/

/-- A rune of `nameRegex`. -/
def nameRune (c : Char) : Bool :=
  ('A' ≤ c && c ≤ 'Z') || ('a' ≤ c && c ≤ 'z') || ('0' ≤ c && c ≤ '9') || c = '_' || c = '-'

/-- `validateName`. -/
def validateName (name : String) : Option String :=
  if 3 ≤ (trimSpace name).length ∧ (trimSpace name).length ≤ 64 ∧
      (trimSpace name).toList.all nameRune = true then
    some (trimSpace name)
  else none

/-- Another row of the owner that is not revoked has the name. -/
def nameTaken (accounts : Accounts) (ownerUserID name : String) (except : String -> Bool) : Bool :=
  accounts.entries.any fun entry =>
    !except entry.1 && entry.2.ownerUserID = ownerUserID && entry.2.name = name &&
      !entry.2.isRevoked

/-- An expiry that is set, if there is one. -/
def chosenExpiry (expiresAt : Option Int) : Option Int := expiresAt.filter fun expiry => expiry != 0

/-- The row of a new account. -/
def Template.created (template : Template) (name : String) (io : CallIO) : ServiceAccount where
  id := io.uuid
  ownerUserID := template.ownerUserID
  name := name
  accessKeyID := io.accessKeyID
  secretKeyHash := io.hash
  capabilities := template.capabilities
  scopes := template.scopes
  createdAt := io.now
  expiresAt := template.expiresAt
  lastUsedAt := none
  revokedAt := none

/-- `fileStore.Create`, with the secret it returns once.  A row that cannot be written is taken
back. -/
def create (accounts : Accounts) (template : Template) (io : CallIO) :
    Except StoreError (ServiceAccount × String) × Accounts :=
  match validateName template.name with
  | none => (.error .invalidName, accounts)
  | some name =>
      if trimSpace template.ownerUserID = "" then (.error .ownerMissing, accounts)
      else if (chosenExpiry template.expiresAt).any (fun expiry => decide (expiry ≤ io.now)) then
        (.error .expiryPassed, accounts)
      else if nameTaken accounts template.ownerUserID name (fun _ => false) then
        (.error .duplicateName, accounts)
      else
        match io.writeError with
        | some error =>
            (.error (.write "persisting service account: " error),
              (accounts.put io.uuid (template.created name io)).erase io.uuid)
        | none =>
            (.ok (template.created name io, io.secret),
              accounts.put io.uuid (template.created name io))

/-- `fileStore.Get`. -/
def get (accounts : Accounts) (id : String) : Except StoreError ServiceAccount :=
  match accounts.get? id with
  | none => .error .notFound
  | some sa => .ok sa

/-- The row with an access key. -/
def findByAccessKey (accounts : Accounts) (akid : String) : Option ServiceAccount :=
  (accounts.entries.find? fun entry => entry.2.accessKeyID = akid).map Prod.snd

/-- A row after an update; `name` is the validated name of the patch, if it has one. -/
def ServiceAccount.patched (cur : ServiceAccount) (name : Option String) (patch : Patch) :
    ServiceAccount :=
  { cur with
    name := name.getD cur.name
    capabilities := patch.capabilities.getD cur.capabilities
    scopes := patch.scopes.getD cur.scopes
    expiresAt := (chosenExpiry patch.expiresAt).or cur.expiresAt }

/-- The checks of `fileStore.Update` on a row: the new name, if the patch has one. -/
def checkPatch (accounts : Accounts) (cur : ServiceAccount) (id : String) (patch : Patch)
    (now : Int) : Except StoreError (Option String) :=
  if trimSpace patch.name = "" then
    if (chosenExpiry patch.expiresAt).any (fun expiry => decide (expiry ≤ now)) then
      .error .expiryPassed
    else .ok none
  else
    match validateName patch.name with
    | none => .error .invalidName
    | some name =>
        if name ≠ cur.name ∧
            nameTaken accounts cur.ownerUserID name (fun other => other = id) = true then
          .error .duplicateName
        else if (chosenExpiry patch.expiresAt).any (fun expiry => decide (expiry ≤ now)) then
          .error .expiryPassed
        else .ok (some name)

/-- `fileStore.Update`.  A row that cannot be written is put back as it was. -/
def update (accounts : Accounts) (id : String) (patch : Patch) (io : CallIO) :
    Except StoreError ServiceAccount × Accounts :=
  match accounts.get? id with
  | none => (.error .notFound, accounts)
  | some cur =>
      match checkPatch accounts cur id patch io.now with
      | .error error => (.error error, accounts)
      | .ok name =>
          match io.writeError with
          | some error =>
              (.error (.write "persisting service account update: " error),
                (accounts.put id (cur.patched name patch)).put id cur)
          | none => (.ok (cur.patched name patch), accounts.put id (cur.patched name patch))

/-- `fileStore.Delete`.  The row stays revoked in memory when the write fails. -/
def delete (accounts : Accounts) (id : String) (io : CallIO) : Except StoreError Unit × Accounts :=
  match accounts.get? id with
  | none => (.error .notFound, accounts)
  | some cur =>
      if cur.isRevoked then (.ok (), accounts)
      else
        match io.writeError with
        | some error =>
            (.error (.write "" error), accounts.put id { cur with revokedAt := some io.now })
        | none => (.ok (), accounts.put id { cur with revokedAt := some io.now })

/-- `fileStore.Rotate`, with the new secret.  A row that cannot be written is put back. -/
def rotate (accounts : Accounts) (id : String) (io : CallIO) :
    Except StoreError (ServiceAccount × String) × Accounts :=
  match accounts.get? id with
  | none => (.error .notFound, accounts)
  | some cur =>
      if cur.isRevoked then (.error .rotateRevoked, accounts)
      else if cur.isExpired io.now then (.error .rotateExpired, accounts)
      else
        match io.writeError with
        | some error =>
            (.error (.write "persisting service account rotation: " error),
              (accounts.put id { cur with secretKeyHash := io.hash }).put id cur)
        | none =>
            (.ok ({ cur with secretKeyHash := io.hash }, io.secret),
              accounts.put id { cur with secretKeyHash := io.hash })

/-- The shortest time between two writes of one row's last use. -/
def touchDebounce : Int := 60 * 1000000000

/-- `fileStore.TouchLastUsed`, with the times of the last writes.  The row in memory has the new
time in any case. -/
def touchLastUsed (accounts : Accounts) (lastTouchPersist : SortedStore String Int) (id : String)
    (io : CallIO) : Except StoreError Unit × Accounts × SortedStore String Int :=
  match accounts.get? id with
  | none => (.error .notFound, accounts, lastTouchPersist)
  | some cur =>
      let touched := accounts.put id { cur with lastUsedAt := some io.now }
      if (lastTouchPersist.get? id).any fun last => decide (io.now - last < touchDebounce) then
        (.ok (), touched, lastTouchPersist)
      else
        match io.writeError with
        | some error =>
            (.error (.write "persisting last-used bump: " error), touched, lastTouchPersist)
        | none => (.ok (), touched, lastTouchPersist.put id io.now)

/-- A row against whose hash a secret is compared. -/
def ServiceAccount.usable (sa : ServiceAccount) (now : Int) : Bool :=
  !sa.isRevoked && !sa.isExpired now && sa.secretKeyHash != ""

/-- `fileStore.VerifySecret`; the comparison with the dummy hash is for its time only. -/
def verifySecret (compare : String -> String -> Bool) (accounts : Accounts) (now : Int)
    (akid candidateSecret : String) : Except StoreError Bool :=
  match findByAccessKey accounts akid with
  | none => .error .notFound
  | some found =>
      .ok (found.usable now && compare found.secretKeyHash candidateSecret)

end ServiceAccounts
end Basement
