import Basement.Api.Syncs

namespace Basement
namespace Webhooks

open Library
open Api (trimSpace Refusal)

/-!
# Webhook subscriptions

A webhook posts the bucket events that pass its filters to an address of its owner's
choice.  This module has the records, the file store behind them and the handlers
through which users create, change and remove their webhooks.

The random bytes, the clock and the failures of a call are arguments, collected in
`CallIO`.  The URL parser and the classification of addresses are parameters.
-/

/-! ## Records -/

/-- `EventType`.  A request can carry any text. -/
inductive EventType where
  | objectCreated
  | objectDeleted
  | objectModified
  | unknown (text : String)
  deriving DecidableEq, Repr

def EventType.text : EventType -> String
  | .objectCreated => "object.created"
  | .objectDeleted => "object.deleted"
  | .objectModified => "object.modified"
  | .unknown text => text

/-- `KnownEventTypes`. -/
def knownEventTypes : List EventType := [.objectCreated, .objectDeleted, .objectModified]

/-- `IsKnownEvent`. -/
def isKnownEvent (t : EventType) : Bool := knownEventTypes.contains t

/-- An empty field does not narrow anything. -/
structure BucketFilter where
  regionID : String := ""
  bucket : String := ""
  deriving DecidableEq, Repr

structure DeliveryResult where
  deliveredAt : Int
  httpStatus : Nat := 0
  durationMs : Nat
  success : Bool
  error : String := ""
  deriving DecidableEq, Repr

structure Webhook where
  id : String
  ownerUserID : String
  name : String
  targetURL : String
  events : List EventType
  bucketFilter : Option BucketFilter
  prefixFilter : String
  secret : String
  enabled : Bool
  createdAt : Int
  updatedAt : Int
  lastDelivery : Option DeliveryResult
  failureCount : Nat
  deriving DecidableEq, Repr

structure EventEnvelope where
  id : String
  type : EventType
  occurredAt : Int
  regionID : String
  bucket : String
  key : String
  size : Int := 0
  etag : String := ""
  deriving DecidableEq, Repr

/-- The part of `Matches` that `ListForBucket` applies as well. -/
def Webhook.listedFor (w : Webhook) (regionID bucket : String) : Bool :=
  match w.bucketFilter with
  | none => true
  | some filter =>
      (filter.regionID = "" || filter.regionID = regionID) &&
        (filter.bucket = "" || filter.bucket = bucket)

/-- `Webhook.Matches`. -/
def Webhook.matchesEvent (w : Webhook) (e : EventEnvelope) : Bool :=
  w.enabled && w.events.contains e.type && w.listedFor e.regionID e.bucket &&
    (w.prefixFilter = "" || w.prefixFilter.toList.isPrefixOf e.key.toList)

/-! ## The store -/

abbrev Hooks := SortedStore String Webhook

inductive StoreError where
  | notFound
  | duplicateName
  | write (error : String)
  deriving DecidableEq, Repr

/-- `err.Error()`. -/
def StoreError.text : StoreError -> String
  | .notFound => "webhook not found"
  | .duplicateName => "duplicate webhook name for owner"
  | .write error => error

/-- The identifier and the secret that a call draws, its clock, and the error of its write. -/
structure CallIO where
  uuid : String := ""
  now : Int := 0
  generated : Except String String := .ok ""
  writeError : Option String := none

/-- The mutable fields of a webhook, as a caller of `Update` gives them. -/
structure WebhookPatch where
  name : String
  targetURL : String
  events : List EventType
  bucketFilter : Option BucketFilter
  prefixFilter : String
  secret : String := ""
  enabled : Bool
  deriving DecidableEq, Repr

/-- Another row of the owner has the name. -/
def nameTaken (hooks : Hooks) (ownerUserID name : String) (except : String -> Bool) : Bool :=
  hooks.entries.any fun entry =>
    !except entry.1 && entry.2.ownerUserID = ownerUserID && entry.2.name = name

/-- The row of a new webhook. -/
def WebhookPatch.created (fields : WebhookPatch) (ownerUserID : String) (io : CallIO) : Webhook where
  id := io.uuid
  ownerUserID := ownerUserID
  name := fields.name
  targetURL := fields.targetURL
  events := fields.events
  bucketFilter := fields.bucketFilter
  prefixFilter := fields.prefixFilter
  secret := fields.secret
  enabled := fields.enabled
  createdAt := io.now
  updatedAt := io.now
  lastDelivery := none
  failureCount := 0

/-- `fileStore.Create`.  A row that cannot be written is taken back. -/
def create (hooks : Hooks) (ownerUserID : String) (fields : WebhookPatch) (io : CallIO) :
    Except StoreError Webhook × Hooks :=
  if nameTaken hooks ownerUserID fields.name (fun _ => false) then (.error .duplicateName, hooks)
  else
    match io.writeError with
    | some error =>
        (.error (.write error), (hooks.put io.uuid (fields.created ownerUserID io)).erase io.uuid)
    | none =>
        (.ok (fields.created ownerUserID io), hooks.put io.uuid (fields.created ownerUserID io))

/-- `fileStore.Get`. -/
def get (hooks : Hooks) (id : String) : Except StoreError Webhook :=
  match hooks.get? id with
  | none => .error .notFound
  | some w => .ok w

/-- A row after an update: identity and history stay, and so does a secret for which no
new one is given. -/
def Webhook.patched (cur : Webhook) (patch : WebhookPatch) (now : Int) : Webhook :=
  { cur with
    name := patch.name
    targetURL := patch.targetURL
    events := patch.events
    bucketFilter := patch.bucketFilter
    prefixFilter := patch.prefixFilter
    secret := if patch.secret = "" then cur.secret else patch.secret
    enabled := patch.enabled
    updatedAt := now }

/-- `fileStore.Update`.  The row stays changed in memory when the write fails. -/
def update (hooks : Hooks) (id : String) (patch : WebhookPatch) (io : CallIO) :
    Except StoreError Webhook × Hooks :=
  match hooks.get? id with
  | none => (.error .notFound, hooks)
  | some cur =>
      if patch.name ≠ cur.name ∧
          nameTaken hooks cur.ownerUserID patch.name (fun other => other = id) then
        (.error .duplicateName, hooks)
      else
        match io.writeError with
        | some error => (.error (.write error), hooks.put id (cur.patched patch io.now))
        | none => (.ok (cur.patched patch io.now), hooks.put id (cur.patched patch io.now))

/-- `fileStore.Delete`. -/
def delete (hooks : Hooks) (id : String) (io : CallIO) : Except StoreError Unit × Hooks :=
  match hooks.get? id with
  | none => (.error .notFound, hooks)
  | some _ =>
      match io.writeError with
      | some error => (.error (.write error), hooks.erase id)
      | none => (.ok (), hooks.erase id)

/-- `fileStore.ListForBucket`. -/
def listForBucket (hooks : Hooks) (regionID bucket : String) : List Webhook :=
  (hooks.entries.map Prod.snd).filter fun w => w.listedFor regionID bucket

/-- `AutoDisableThreshold`. -/
def autoDisableThreshold : Nat := 10

/-- A row after a delivery: the threshold of failures in a row disables it. -/
def Webhook.delivered (cur : Webhook) (result : DeliveryResult) (now : Int) : Webhook :=
  let failures := if result.success then 0 else cur.failureCount + 1
  { cur with
    lastDelivery := some result
    failureCount := failures
    enabled := cur.enabled && (result.success || decide (failures < autoDisableThreshold))
    updatedAt := now }

/-- `fileStore.RecordDelivery`. -/
def recordDelivery (hooks : Hooks) (id : String) (result : DeliveryResult) (io : CallIO) :
    Except StoreError Webhook × Hooks :=
  match hooks.get? id with
  | none => (.error .notFound, hooks)
  | some cur =>
      match io.writeError with
      | some error => (.error (.write error), hooks.put id (cur.delivered result io.now))
      | none => (.ok (cur.delivered result io.now), hooks.put id (cur.delivered result io.now))

/-! ## Requests -/

/-- `webhookCreateRequest`, the body of a create and of an update. -/
structure WebhookCreateRequest where
  name : String
  targetURL : String
  events : List EventType
  bucketFilter : Option BucketFilter := none
  prefixFilter : String := ""
  secret : String := ""
  enabled : Option Bool := none
  deriving DecidableEq, Repr

/-- What `net.IP` says about an address. -/
structure AddressClass where
  isLoopback : Bool := false
  isPrivate : Bool := false
  isLinkLocalUnicast : Bool := false
  isLinkLocalMulticast : Bool := false
  isUnspecified : Bool := false
  isMulticast : Bool := false
  deriving DecidableEq, Repr

/-- The parts of a parsed target URL. -/
structure TargetURL where
  scheme : String
  host : String
  hostname : String
  deriving DecidableEq, Repr

/-- `url.Parse`, `strings.ToLower` and `net.ParseIP`. -/
structure TargetLibrary where
  parse : String -> Option TargetURL
  toLower : String -> String
  parseIP : String -> Option AddressClass

/-- `webhookTargetHostAllowed`. -/
def webhookTargetHostAllowed (library : TargetLibrary) (host : String) : Bool :=
  let lower := library.toLower host
  if host = "" then false
  else if lower = "localhost" || ".localhost".toList.isSuffixOf lower.toList ||
      lower = "metadata.google.internal" then false
  else
    match library.parseIP host with
    | none => true
    | some ip =>
        !(ip.isLoopback || ip.isPrivate || ip.isLinkLocalUnicast || ip.isLinkLocalMulticast ||
          ip.isUnspecified || ip.isMulticast)

/-- `webhookNameRegex`. -/
def webhookNameRegex (name : String) : Bool :=
  decide (3 ≤ name.length) && decide (name.length ≤ 64) &&
    name.toList.all fun c => c.isAlphanum || c = '_' || c = '-'

/-- `validateWebhookRequest`: the code and the message of the first objection.  Without
a region store the owned regions are nil, and the region of the filter is not checked. -/
def validateWebhookRequest (library : TargetLibrary) (req : WebhookCreateRequest)
    (ownedRegions : Option (String -> Bool)) : Option (String × String) :=
  let target := trimSpace req.targetURL
  if !webhookNameRegex (trimSpace req.name) then
    some ("INVALID_NAME", "Name must be 3-64 characters of letters, digits, dashes, or underscores")
  else if target = "" then some ("INVALID_TARGET_URL", "Target URL is required")
  else
    match (library.parse target).filter fun u => u.scheme ≠ "" && u.host ≠ "" with
    | none => some ("INVALID_TARGET_URL", "Target URL must be a fully-qualified URL")
    | some u =>
        if u.scheme ≠ "http" ∧ u.scheme ≠ "https" then
          some ("INVALID_TARGET_URL", "Target URL must use http or https")
        else if !webhookTargetHostAllowed library u.hostname then
          some ("INVALID_TARGET_URL", "Target URL host is not allowed (loopback, private, " ++
            "link-local and cloud-metadata addresses are blocked)")
        else if req.events.isEmpty then
          some ("INVALID_EVENTS", "At least one event type is required")
        else
          match req.events.find? fun e => !isKnownEvent e with
          | some e => some ("INVALID_EVENTS", "Unknown event type " ++ e.text.quote)
          | none =>
              match req.bucketFilter, ownedRegions with
              | some filter, some owned =>
                  if filter.regionID ≠ "" ∧ owned (trimSpace filter.regionID) = false then
                    some ("INVALID_REGION", "Bucket filter region must be one of your own regions")
                  else none
              | _, _ => none

/-- `webhookMinSecretLength`. -/
def webhookMinSecretLength : Nat := 16

/-- `resolveSecret`, with the outcome of `generateSecret`. -/
def resolveSecret (supplied : String) (generated : Except String String) :
    Except String (String × Bool) :=
  let supplied := trimSpace supplied
  if webhookMinSecretLength ≤ supplied.utf8ByteSize then .ok (supplied, false)
  else generated.map fun secret => (secret, true)

/-! ## Handlers -/

/-- A text as `uuid.New().String()` gives it. -/
def uuidShaped (id : String) : Bool :=
  decide (id.length = 36) &&
    id.toList.all fun c => c.isDigit || (decide ('a' ≤ c) && decide (c ≤ 'f')) || c = '-'

/-- The keychain entries of all users: the user who owns a region.  Its identifier was
minted when the region was registered. -/
structure Regions where
  owner : String -> Option String
  minted : forall {regionID userID : String}, owner regionID = some userID ->
    uuidShaped regionID = true

/-- `userOwnedRegionSet`. -/
def userOwnedRegionSet (regions : Regions) (userID : String) : String -> Bool :=
  fun regionID => regions.owner regionID = some userID

/-- The body of a response; every webhook in it has been through `redactWebhook`. -/
inductive WebhookReply where
  | shown (w : Webhook) (hasSecret : Bool)
  | minted (w : Webhook) (hasSecret : Bool) (secret : String)
  | removed
  | queued (id : String) (event : EventType)
  deriving DecidableEq, Repr

/-- `redactWebhook`. -/
def redactWebhook (w : Webhook) : WebhookReply :=
  .shown { w with secret := "" } (w.secret != "")

/-- `webhookMintResponse`. -/
def mintWebhook (w : Webhook) (secret : String) : WebhookReply :=
  .minted { w with secret := "" } (w.secret != "") secret

/-- The response to a failure of the store. -/
def storeFailure (error : StoreError) : Refusal := ⟨500, "WEBHOOK_STORE_ERROR", error.text, []⟩

/-- The response to an error of the store where a duplicate name can be the reason. -/
def storeRefusal : StoreError -> Refusal
  | .duplicateName =>
      ⟨409, "DUPLICATE_NAME",
        "You already have a webhook with this name. Pick a different name.", []⟩
  | error => storeFailure error

def noSession : Refusal := ⟨401, "UNAUTHORIZED", "No active session", []⟩

def secretRefusal (error : String) : Refusal :=
  ⟨500, "SECRET_GEN_FAILED", "Failed to generate signing secret: " ++ error, []⟩

/-- `requireOwnedWebhook`.  A webhook of somebody else is reported as missing. -/
def requireOwnedWebhook (hooks : Hooks) (userID id : String) : Except Refusal Webhook :=
  if userID = "" then .error noSession
  else if id = "" then .error ⟨400, "INVALID_ID", "Webhook ID required", []⟩
  else
    match hooks.get? id with
    | none => .error ⟨404, "WEBHOOK_NOT_FOUND", "Webhook not found", []⟩
    | some w =>
        if w.ownerUserID ≠ userID then
          .error ⟨404, "WEBHOOK_NOT_FOUND", "Webhook not found", []⟩
        else .ok w

/-- The fields that a valid request sets. -/
def WebhookCreateRequest.patch (req : WebhookCreateRequest) (secret : String) (enabled : Bool) :
    WebhookPatch where
  name := trimSpace req.name
  targetURL := trimSpace req.targetURL
  events := req.events
  bucketFilter := req.bucketFilter
  prefixFilter := req.prefixFilter
  secret := secret
  enabled := enabled

/-- The response to what the store answers. -/
def respond {α : Type} (refuse : StoreError -> Refusal) (reply : α -> WebhookReply)
    (answer : Except StoreError α × Hooks) : Except Refusal WebhookReply × Hooks :=
  match answer.1 with
  | .error error => (.error (refuse error), answer.2)
  | .ok value => (.ok (reply value), answer.2)

/-- `userCreateWebhookHandler`. -/
def userCreateWebhook (library : TargetLibrary) (regions : Regions) (hooks : Hooks)
    (userID : String) (req : WebhookCreateRequest) (io : CallIO) :
    Except Refusal WebhookReply × Hooks :=
  if userID = "" then (.error noSession, hooks)
  else
    match validateWebhookRequest library req (some (userOwnedRegionSet regions userID)) with
    | some (code, msg) => (.error ⟨400, code, msg, []⟩, hooks)
    | none =>
        match resolveSecret req.secret io.generated with
        | .error error => (.error (secretRefusal error), hooks)
        | .ok (secret, _) =>
            respond storeRefusal (fun created => mintWebhook created secret)
              (create hooks userID (req.patch secret (req.enabled.getD true)) io)

/-- The secret an update sets: none of its own keeps the stored one. -/
def rotatedSecret (supplied : String) (generated : Except String String) : Except String String :=
  if trimSpace supplied = "" then .ok ""
  else (resolveSecret (trimSpace supplied) generated).map Prod.fst

/-- `userUpdateWebhookHandler`. -/
def userUpdateWebhook (library : TargetLibrary) (regions : Regions) (hooks : Hooks)
    (userID id : String) (req : WebhookCreateRequest) (io : CallIO) :
    Except Refusal WebhookReply × Hooks :=
  match requireOwnedWebhook hooks userID id with
  | .error refusal => (.error refusal, hooks)
  | .ok existing =>
      match validateWebhookRequest library req (some (userOwnedRegionSet regions userID)) with
      | some (code, msg) => (.error ⟨400, code, msg, []⟩, hooks)
      | none =>
          match rotatedSecret req.secret io.generated with
          | .error error => (.error (secretRefusal error), hooks)
          | .ok secret =>
              respond storeRefusal
                (fun updated =>
                  if trimSpace req.secret = "" then redactWebhook updated
                  else mintWebhook updated secret)
                (update hooks existing.id (req.patch secret (req.enabled.getD existing.enabled)) io)

/-- The patch of `toggleWebhook`. -/
def Webhook.toggled (w : Webhook) (enable : Bool) : WebhookPatch where
  name := w.name
  targetURL := w.targetURL
  events := w.events
  bucketFilter := w.bucketFilter
  prefixFilter := w.prefixFilter
  enabled := enable

/-- `toggleWebhook`, the body of the enable and the disable handler. -/
def toggleWebhook (hooks : Hooks) (userID id : String) (enable : Bool) (io : CallIO) :
    Except Refusal WebhookReply × Hooks :=
  match requireOwnedWebhook hooks userID id with
  | .error refusal => (.error refusal, hooks)
  | .ok existing =>
      respond storeFailure redactWebhook (update hooks existing.id (existing.toggled enable) io)

/-- `userDeleteWebhookHandler`. -/
def userDeleteWebhook (hooks : Hooks) (userID id : String) (io : CallIO) :
    Except Refusal WebhookReply × Hooks :=
  match requireOwnedWebhook hooks userID id with
  | .error refusal => (.error refusal, hooks)
  | .ok existing => respond storeFailure (fun _ => .removed) (delete hooks existing.id io)

/-- The synthetic envelope of a test delivery, without the identifier `Emit` adds. -/
def Webhook.testEnvelope (w : Webhook) (type : EventType) (eventID : String) (now : Int) :
    EventEnvelope where
  id := eventID
  type := type
  occurredAt := now
  regionID :=
    match w.bucketFilter with
    | some filter => if filter.regionID = "" then "test-region" else filter.regionID
    | none => "test-region"
  bucket :=
    match w.bucketFilter with
    | some filter => if filter.bucket = "" then "test-bucket" else filter.bucket
    | none => "test-bucket"
  key :=
    if w.prefixFilter = "" then "test/synthetic-event.txt"
    else w.prefixFilter ++ "synthetic-event.txt"
  size := 42
  etag := "\"synthetic-test-event\""

/-- `userTestWebhookHandler`: the response, and the envelope it emits. -/
def userTestWebhook (hooks : Hooks) (userID id eventID : String) (now : Int) :
    Except Refusal (WebhookReply × EventEnvelope) :=
  match requireOwnedWebhook hooks userID id with
  | .error refusal => .error refusal
  | .ok existing =>
      if existing.enabled = false then
        .error ⟨400, "WEBHOOK_DISABLED",
          "Webhook is disabled — enable it before sending a test event", []⟩
      else
        match existing.events with
        | [] => .error ⟨400, "INVALID_EVENTS", "Webhook has no subscribed events to test against", []⟩
        | event :: _ => .ok (.queued existing.id event, existing.testEnvelope event eventID now)

/-! ## What a call changes -/

/-- The region a filter names, if any, belongs to the user. -/
def FilterOwned (regions : Regions) (userID : String) (filter : Option BucketFilter) : Prop :=
  forall narrowed, filter = some narrowed -> narrowed.regionID ≠ "" ->
    regions.owner (trimSpace narrowed.regionID) = some userID

/-- A row that the handlers can have written under an identifier. -/
structure Row (regions : Regions) (id : String) (w : Webhook) : Prop where
  id : w.id = id
  owned : FilterOwned regions w.ownerUserID w.bucketFilter

/-- Only rows of the user are replaced or removed, and only such rows come to be, a new
one under the identifier that was minted for it. -/
def OwnChange (regions : Regions) (userID : String) (minted : Option String)
    (before after : Hooks) : Prop :=
  forall id, after.get? id = before.get? id ∨
    ((forall w, before.get? id = some w -> w.ownerUserID = userID) ∧
      (before.get? id = none -> minted = some id) ∧
      forall w, after.get? id = some w -> w.ownerUserID = userID ∧ Row regions id w)

/-- The rows of one user. -/
def ownedBy (userID : String) (w : Webhook) : Bool := w.ownerUserID = userID

variable {regions : Regions} {hooks : Hooks} {userID id : String} {minted : Option String}

theorem OwnChange.refl (regions : Regions) (userID : String) (minted : Option String)
    (hooks : Hooks) : OwnChange regions userID minted hooks hooks := fun _ => Or.inl rfl

theorem owner_before {cur : Webhook} (found : hooks.get? id = some cur)
    (owner : cur.ownerUserID = userID) :
    forall w, hooks.get? id = some w -> w.ownerUserID = userID := by
  intro w other
  rw [found] at other
  cases other
  exact owner

theorem OwnChange.put (before : forall w, hooks.get? id = some w -> w.ownerUserID = userID)
    (fresh : hooks.get? id = none -> minted = some id) {w : Webhook}
    (owner : w.ownerUserID = userID) (row : Row regions id w) :
    OwnChange regions userID minted hooks (hooks.put id w) := by
  intro other
  rw [SortedStore.get?_put]
  by_cases same : other = id
  · subst same
    refine Or.inr ⟨before, fresh, ?_⟩
    intro stored found
    rw [if_pos rfl] at found
    cases found
    exact ⟨owner, row⟩
  · exact Or.inl (if_neg same)

theorem OwnChange.erase {cur : Webhook} (found : hooks.get? id = some cur)
    (owner : cur.ownerUserID = userID) :
    OwnChange regions userID minted hooks (hooks.erase id) := by
  intro other
  rw [SortedStore.get?_erase]
  by_cases same : other = id
  · subst same
    refine Or.inr ⟨owner_before found owner, by simp [found], ?_⟩
    intro stored after
    rw [if_pos rfl] at after
    cases after
  · exact Or.inl (if_neg same)

/-- What is not the user's stays as it was. -/
theorem OwnChange.others {after : Hooks} (change : OwnChange regions userID minted hooks after)
    {other : String} (different : other ≠ userID) :
    after.filter (ownedBy other) = hooks.filter (ownedBy other) := by
  apply SortedStore.filter_congr
  intro key
  rcases change key with same | ⟨before, _, own⟩
  · rw [same]
  · have hidden : forall {row : Option Webhook},
        (forall w, row = some w -> w.ownerUserID = userID) -> row.filter (ownedBy other) = none := by
      intro row all
      cases row with
      | none => rfl
      | some w =>
          have theirs : ¬ w.ownerUserID = other := fun mine =>
            different (mine.symm.trans (all w rfl))
          simp [Option.filter_some, ownedBy, theirs]
    rw [hidden before, hidden fun w found => (own w found).1]

/-- Rows stay rows. -/
theorem OwnChange.rows {after : Hooks} (change : OwnChange regions userID minted hooks after)
    (rows : forall id w, hooks.get? id = some w -> Row regions id w) :
    forall id w, after.get? id = some w -> Row regions id w := by
  intro key w found
  rcases change key with same | ⟨_, _, own⟩
  · exact rows key w (same ▸ found)
  · exact (own w found).2

theorem create_change {io : CallIO} (absent : hooks.get? io.uuid = none) {fields : WebhookPatch}
    (owned : FilterOwned regions userID fields.bucketFilter) :
    OwnChange regions userID (some io.uuid) hooks (create hooks userID fields io).2 := by
  unfold create
  split
  · exact OwnChange.refl _ _ _ _
  · have none_before : forall w, hooks.get? io.uuid = some w -> w.ownerUserID = userID := by
      simp [absent]
    split
    · simp only [SortedStore.erase_put absent]
      exact OwnChange.refl _ _ _ _
    · exact OwnChange.put none_before (fun _ => rfl) rfl ⟨rfl, owned⟩

theorem update_change {cur : Webhook} (found : hooks.get? id = some cur)
    (owner : cur.ownerUserID = userID) (row : Row regions id cur) {patch : WebhookPatch}
    (owned : FilterOwned regions userID patch.bucketFilter) (io : CallIO) :
    OwnChange regions userID none hooks (update hooks id patch io).2 := by
  have patched : (cur.patched patch io.now).ownerUserID = userID := owner
  have put : OwnChange regions userID none hooks (hooks.put id (cur.patched patch io.now)) :=
    OwnChange.put (owner_before found owner) (by simp [found]) patched
      ⟨row.id, by rw [patched]; exact owned⟩
  unfold update
  simp only [found]
  split
  · exact OwnChange.refl _ _ _ _
  · split <;> exact put

theorem delete_change {cur : Webhook} (found : hooks.get? id = some cur)
    (owner : cur.ownerUserID = userID) (io : CallIO) :
    OwnChange regions userID none hooks (delete hooks id io).2 := by
  unfold delete
  simp only [found]
  split <;> exact OwnChange.erase found owner

/-- A delivery is recorded on the row it was for, if that is still there. -/
theorem recordDelivery_change (owner : forall w, hooks.get? id = some w -> w.ownerUserID = userID)
    (rows : forall id w, hooks.get? id = some w -> Row regions id w) (result : DeliveryResult)
    (io : CallIO) : OwnChange regions userID none hooks (recordDelivery hooks id result io).2 := by
  unfold recordDelivery
  cases found : hooks.get? id with
  | none => exact OwnChange.refl _ _ _ _
  | some cur =>
      have row := rows id cur found
      have put : OwnChange regions userID none hooks (hooks.put id (cur.delivered result io.now)) :=
        OwnChange.put owner (by simp [found]) (owner cur found) ⟨row.id, row.owned⟩
      simp only
      split <;> exact put

theorem requireOwnedWebhook_ok {w : Webhook} (owned : requireOwnedWebhook hooks userID id = .ok w) :
    hooks.get? id = some w ∧ w.ownerUserID = userID := by
  unfold requireOwnedWebhook at owned
  split at owned
  · cases owned
  · split at owned
    · cases owned
    · split at owned
      · cases owned
      · split at owned
        · cases owned
        · rename_i found same
          cases owned
          exact ⟨found, not_not.mp same⟩

/-- A request that passes the validation names no region of somebody else. -/
theorem validateWebhookRequest_owned {library : TargetLibrary} {req : WebhookCreateRequest}
    (valid : validateWebhookRequest library req (some (userOwnedRegionSet regions userID)) = none) :
    FilterOwned regions userID req.bucketFilter := by
  intro narrowed filtered named
  unfold validateWebhookRequest at valid
  simp only [filtered] at valid
  split at valid
  · cases valid
  · split at valid
    · cases valid
    · split at valid
      · cases valid
      · split at valid
        · cases valid
        · split at valid
          · cases valid
          · split at valid
            · cases valid
            · split at valid
              · cases valid
              · split at valid
                · cases valid
                · rename_i allowed
                  simpa [named, userOwnedRegionSet] using allowed

@[simp] theorem respond_hooks {α : Type} (refuse : StoreError -> Refusal)
    (reply : α -> WebhookReply) (answer : Except StoreError α × Hooks) :
    (respond refuse reply answer).2 = answer.2 := by
  unfold respond
  split <;> rfl

theorem userCreateWebhook_change {library : TargetLibrary} {req : WebhookCreateRequest} {io : CallIO}
    (absent : hooks.get? io.uuid = none) :
    OwnChange regions userID (some io.uuid) hooks
      (userCreateWebhook library regions hooks userID req io).2 := by
  unfold userCreateWebhook
  split
  · exact OwnChange.refl _ _ _ _
  · split
    · exact OwnChange.refl _ _ _ _
    · rename_i valid
      split
      · exact OwnChange.refl _ _ _ _
      · rw [respond_hooks]
        exact create_change absent (validateWebhookRequest_owned valid)

theorem userUpdateWebhook_change {library : TargetLibrary} {req : WebhookCreateRequest} {io : CallIO}
    (rows : forall id w, hooks.get? id = some w -> Row regions id w) :
    OwnChange regions userID none hooks
      (userUpdateWebhook library regions hooks userID id req io).2 := by
  unfold userUpdateWebhook
  split
  · exact OwnChange.refl _ _ _ _
  · rename_i existing owned
    rcases requireOwnedWebhook_ok owned with ⟨found, owner⟩
    have row := rows id existing found
    split
    · exact OwnChange.refl _ _ _ _
    · rename_i valid
      split
      · exact OwnChange.refl _ _ _ _
      · rw [respond_hooks, row.id]
        exact update_change found owner row (validateWebhookRequest_owned valid) io

theorem toggleWebhook_change {enable : Bool} {io : CallIO}
    (rows : forall id w, hooks.get? id = some w -> Row regions id w) :
    OwnChange regions userID none hooks (toggleWebhook hooks userID id enable io).2 := by
  unfold toggleWebhook
  split
  · exact OwnChange.refl _ _ _ _
  · rename_i existing owned
    rcases requireOwnedWebhook_ok owned with ⟨found, owner⟩
    have row := rows id existing found
    rw [respond_hooks, row.id]
    exact update_change found owner row (owner ▸ row.owned) io

theorem userDeleteWebhook_change {io : CallIO}
    (rows : forall id w, hooks.get? id = some w -> Row regions id w) :
    OwnChange regions userID none hooks (userDeleteWebhook hooks userID id io).2 := by
  unfold userDeleteWebhook
  split
  · exact OwnChange.refl _ _ _ _
  · rename_i existing owned
    rcases requireOwnedWebhook_ok owned with ⟨found, owner⟩
    rw [respond_hooks, (rows id existing found).id]
    exact delete_change found owner io

/-! ## One user's part of the store -/

/-- The answer of a call, with one user's part of the store behind it. -/
def partOf {α : Type} (userID : String) (answer : α × Hooks) : α × Hooks :=
  (answer.1, answer.2.filter (ownedBy userID))

theorem nameTaken_part (hooks : Hooks) (userID name : String) (except : String -> Bool) :
    nameTaken (hooks.filter (ownedBy userID)) userID name except =
      nameTaken hooks userID name except := by
  unfold nameTaken SortedStore.filter
  rw [List.any_filter]
  congr 1
  funext entry
  by_cases mine : entry.2.ownerUserID = userID <;> simp [ownedBy, mine]

theorem get?_part {w : Webhook} (found : hooks.get? id = some w) (owner : w.ownerUserID = userID) :
    (hooks.filter (ownedBy userID)).get? id = some w := by
  rw [SortedStore.filter_get?, found]
  simp [Option.filter_some, ownedBy, owner]

theorem create_part (hooks : Hooks) (userID : String) (fields : WebhookPatch) (io : CallIO) :
    create (hooks.filter (ownedBy userID)) userID fields io =
      partOf userID (create hooks userID fields io) := by
  have kept : ownedBy userID (fields.created userID io) = true := by
    simp [ownedBy, WebhookPatch.created]
  unfold create
  rw [nameTaken_part]
  split
  · rfl
  · cases io.writeError with
    | none => rw [partOf, SortedStore.filter_put _ _ kept]
    | some error => rw [partOf, SortedStore.filter_erase, SortedStore.filter_put _ _ kept]

theorem update_part {cur : Webhook} (found : hooks.get? id = some cur)
    (owner : cur.ownerUserID = userID) (patch : WebhookPatch) (io : CallIO) :
    update (hooks.filter (ownedBy userID)) id patch io =
      partOf userID (update hooks id patch io) := by
  have kept : ownedBy userID (cur.patched patch io.now) = true := by
    simp [ownedBy, Webhook.patched, owner]
  unfold update
  rw [get?_part found owner, found]
  simp only [owner, nameTaken_part]
  split
  · rfl
  · cases io.writeError <;> rw [partOf, SortedStore.filter_put _ _ kept]

theorem delete_part {cur : Webhook} (found : hooks.get? id = some cur)
    (owner : cur.ownerUserID = userID) (io : CallIO) :
    delete (hooks.filter (ownedBy userID)) id io = partOf userID (delete hooks id io) := by
  unfold delete
  rw [get?_part found owner, found]
  cases io.writeError <;> rw [partOf, SortedStore.filter_erase]

/-- The result of a delivery is recorded in the part as it is in the store, whether the
webhook is still there or not. -/
theorem recordDelivery_part (owner : forall w, hooks.get? id = some w -> w.ownerUserID = userID)
    (result : DeliveryResult) (io : CallIO) :
    recordDelivery (hooks.filter (ownedBy userID)) id result io =
      partOf userID (recordDelivery hooks id result io) := by
  unfold recordDelivery
  cases found : hooks.get? id with
  | none =>
      rw [SortedStore.filter_get?, found]
      rfl
  | some cur =>
      have kept : ownedBy userID (cur.delivered result io.now) = true := by
        simp [ownedBy, Webhook.delivered, owner cur found]
      rw [get?_part found (owner cur found)]
      cases io.writeError <;> rw [partOf, SortedStore.filter_put _ _ kept]

theorem requireOwnedWebhook_part (hooks : Hooks) (userID id : String) :
    requireOwnedWebhook (hooks.filter (ownedBy userID)) userID id =
      requireOwnedWebhook hooks userID id := by
  unfold requireOwnedWebhook
  rw [SortedStore.filter_get?]
  cases hooks.get? id with
  | none => rfl
  | some w =>
      by_cases mine : w.ownerUserID = userID <;> simp [Option.filter_some, ownedBy, mine]

theorem respond_part {α : Type} (refuse : StoreError -> Refusal) (reply : α -> WebhookReply)
    (userID : String) (answer : Except StoreError α × Hooks) :
    respond refuse reply (partOf userID answer) = partOf userID (respond refuse reply answer) := by
  unfold respond partOf
  cases answer.1 <;> rfl

theorem userCreateWebhook_part (library : TargetLibrary) (regions : Regions) (hooks : Hooks)
    (userID : String) (req : WebhookCreateRequest) (io : CallIO) :
    userCreateWebhook library regions (hooks.filter (ownedBy userID)) userID req io =
      partOf userID (userCreateWebhook library regions hooks userID req io) := by
  unfold userCreateWebhook
  split
  · rfl
  · split
    · rfl
    · split
      · rfl
      · rw [create_part, respond_part]

theorem userUpdateWebhook_part (library : TargetLibrary)
    (rows : forall id w, hooks.get? id = some w -> Row regions id w) (req : WebhookCreateRequest)
    (io : CallIO) :
    userUpdateWebhook library regions (hooks.filter (ownedBy userID)) userID id req io =
      partOf userID (userUpdateWebhook library regions hooks userID id req io) := by
  unfold userUpdateWebhook
  rw [requireOwnedWebhook_part]
  split
  · rfl
  · rename_i existing owned
    rcases requireOwnedWebhook_ok owned with ⟨found, owner⟩
    split
    · rfl
    · split
      · rfl
      · rw [(rows id existing found).id, update_part found owner, respond_part]

theorem toggleWebhook_part (rows : forall id w, hooks.get? id = some w -> Row regions id w)
    (enable : Bool) (io : CallIO) :
    toggleWebhook (hooks.filter (ownedBy userID)) userID id enable io =
      partOf userID (toggleWebhook hooks userID id enable io) := by
  unfold toggleWebhook
  rw [requireOwnedWebhook_part]
  split
  · rfl
  · rename_i existing owned
    rcases requireOwnedWebhook_ok owned with ⟨found, owner⟩
    rw [(rows id existing found).id, update_part found owner, respond_part]

theorem userDeleteWebhook_part (rows : forall id w, hooks.get? id = some w -> Row regions id w)
    (io : CallIO) :
    userDeleteWebhook (hooks.filter (ownedBy userID)) userID id io =
      partOf userID (userDeleteWebhook hooks userID id io) := by
  unfold userDeleteWebhook
  rw [requireOwnedWebhook_part]
  split
  · rfl
  · rename_i existing owned
    rcases requireOwnedWebhook_ok owned with ⟨found, owner⟩
    rw [(rows id existing found).id, delete_part found owner, respond_part]

theorem userTestWebhook_part (hooks : Hooks) (userID id eventID : String) (now : Int) :
    userTestWebhook (hooks.filter (ownedBy userID)) userID id eventID now =
      userTestWebhook hooks userID id eventID now := by
  unfold userTestWebhook
  rw [requireOwnedWebhook_part]

end Webhooks
end Basement
