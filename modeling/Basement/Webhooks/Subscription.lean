import Basement.Library.FieldEdits
import Basement.Webhooks.Dispatch

namespace Basement
namespace Webhooks

open Library
open Api (trimSpace)

/-!
# One webhook under concurrent requests and deliveries

The update, enable and disable handlers read the webhook for the ownership check and write it
back in a separate call of the store.  A delivery works with the copy of the webhook that it was
dispatched with, and records its outcome when it ends.  Between any two of these steps every
other request and delivery can take place, and other webhooks can change at any time.

The ledger is the model's own: the edits in the order of their commits, what was recorded since
the webhook was last enabled, and how often `RecordDelivery` switched it off.  Beside it stands
the number of `webhook:auto_disabled` events in the audit log.

A write that fails leaves the row changed in memory, so such a commit counts as one.
-/

/-! ## What an edit is about -/

/-- The settings of a webhook that only an update sets. -/
inductive HookField where
  | targetURL | events | bucketFilter | prefixFilter | secret
  deriving DecidableEq, Repr

def HookField.Value : HookField -> Type
  | .targetURL => String
  | .events => List EventType
  | .bucketFilter => Option BucketFilter
  | .prefixFilter => String
  | .secret => String

instance (field : HookField) : DecidableEq field.Value :=
  match field with
  | .targetURL | .prefixFilter | .secret => inferInstanceAs (DecidableEq String)
  | .events => inferInstanceAs (DecidableEq (List EventType))
  | .bucketFilter => inferInstanceAs (DecidableEq (Option BucketFilter))

def Webhook.setting (w : Webhook) : Record HookField.Value
  | .targetURL => w.targetURL
  | .events => w.events
  | .bucketFilter => w.bucketFilter
  | .prefixFilter => w.prefixFilter
  | .secret => w.secret

/-- A handler between the ownership check and the call of `Update`. -/
inductive PendingEdit where
  | toggle (existing : Webhook) (enable : Bool)
  | update (existing : Webhook) (req : WebhookCreateRequest) (secret : String)
  deriving DecidableEq, Repr

def PendingEdit.existing : PendingEdit -> Webhook
  | .toggle existing _ => existing
  | .update existing _ _ => existing

/-- What the handler passes to `Update`. -/
def PendingEdit.patch : PendingEdit -> WebhookPatch
  | .toggle existing enable => existing.toggled enable
  | .update existing req secret => req.patch secret (req.enabled.getD existing.enabled)

/-- The settings that the request is to set. -/
def PendingEdit.mentions : PendingEdit -> Edit HookField.Value
  | .toggle _ _ => fun _ => none
  | .update _ req secret => fun
      | .targetURL => some (trimSpace req.targetURL)
      | .events => some req.events
      | .bucketFilter => some req.bucketFilter
      | .prefixFilter => some req.prefixFilter
      | .secret => if secret = "" then none else some secret

/-- An update whose body does not say whether the webhook is enabled. -/
def PendingEdit.omitsEnabled : PendingEdit -> Bool
  | .toggle _ _ => false
  | .update _ req _ => req.enabled.isNone

/-! ## The system -/

structure Ledger where
  committed : List (Edit HookField.Value) := []
  reenabled : Nat := 0
  recorded : List Bool := []
  carried : Nat := 0
  flips : List (List Bool) := []

/-- The store, the handlers and deliveries under way, and what has happened. -/
structure Subscription where
  hooks : Hooks
  edits : List PendingEdit := []
  deliveries : List Webhook := []
  ledger : Ledger := {}
  autoDisabled : Nat := 0

/-- `Update` stored the patch, whether it could be written or not. -/
def stored {α : Type} : Except StoreError α -> Bool
  | .ok _ => true
  | .error (.write _) => true
  | .error _ => false

/-- The webhook is enabled from now on: the deliveries recorded so far are left behind. -/
def Ledger.enabledAt (ledger : Ledger) (cur : Webhook) (enabled : Bool) : Ledger :=
  if cur.enabled = false ∧ enabled = true then
    { ledger with recorded := [], carried := cur.failureCount }
  else ledger

def Ledger.commit (ledger : Ledger) (cur : Webhook) (edit : PendingEdit) : Ledger :=
  { ledger.enabledAt cur edit.patch.enabled with
    committed := ledger.committed ++ [edit.mentions]
    reenabled :=
      if edit.omitsEnabled = true ∧ cur.enabled = false ∧ edit.patch.enabled = true then
        ledger.reenabled + 1
      else ledger.reenabled }

/-- The outcome brings the count of failures to the threshold. -/
def reachesThreshold (cur : Webhook) (result : DeliveryResult) : Bool :=
  !result.success && decide (autoDisableThreshold ≤ cur.failureCount + 1)

def Ledger.record (ledger : Ledger) (cur : Webhook) (result : DeliveryResult) : Ledger :=
  { ledger with
    recorded := ledger.recorded ++ [result.success]
    flips :=
      if cur.enabled && reachesThreshold cur result then
        ledger.flips ++ [ledger.recorded ++ [result.success]]
      else ledger.flips }

/-- The comparison at the end of `deliver`: the copy was enabled and the row is not. -/
def reportsAutoDisable (w : Webhook) : Except StoreError Webhook -> Bool
  | .ok post => w.enabled && !post.enabled
  | .error _ => false

inductive HookAction where
  | readToggle (userID : String) (enable : Bool)
  | readUpdate (userID : String) (regions : Regions) (req : WebhookCreateRequest)
      (generated : Except String String)
  | commit (edit : PendingEdit) (io : CallIO)
  | dispatch (env : EventEnvelope)
  | record (w : Webhook) (result : DeliveryResult) (io : CallIO)
  | abandon (w : Webhook)
  | others (hooks : Hooks)

variable (library : TargetLibrary) (id : String)

def Subscription.step (s : Subscription) : HookAction -> Option Subscription
  | .readToggle userID enable =>
      match requireOwnedWebhook s.hooks userID id with
      | .error _ => none
      | .ok existing => some { s with edits := s.edits ++ [.toggle existing enable] }
  | .readUpdate userID regions req generated =>
      match requireOwnedWebhook s.hooks userID id with
      | .error _ => none
      | .ok existing =>
          match validateWebhookRequest library req (some (userOwnedRegionSet regions userID)) with
          | some _ => none
          | none =>
              match rotatedSecret req.secret generated with
              | .error _ => none
              | .ok secret => some { s with edits := s.edits ++ [.update existing req secret] }
  | .commit edit io =>
      if edit ∈ s.edits then
        match s.hooks.get? id with
        | none => none
        | some cur =>
            let answer := update s.hooks edit.existing.id edit.patch io
            some { s with
              hooks := answer.2
              edits := s.edits.erase edit
              ledger := if stored answer.1 then s.ledger.commit cur edit else s.ledger }
      else none
  | .dispatch env =>
      match s.hooks.get? id with
      | none => none
      | some w => if w.matchesEvent env then some { s with deliveries := s.deliveries ++ [w] } else none
  | .record w result io =>
      if w ∈ s.deliveries then
        match s.hooks.get? id with
        | none => none
        | some cur =>
            let answer := recordDelivery s.hooks w.id result io
            some { s with
              hooks := answer.2
              deliveries := s.deliveries.erase w
              ledger := s.ledger.record cur result
              autoDisabled :=
                if reportsAutoDisable w answer.1 then s.autoDisabled + 1 else s.autoDisabled }
      else none
  | .abandon w =>
      if w ∈ s.deliveries then some { s with deliveries := s.deliveries.erase w } else none
  | .others hooks =>
      if hooks.get? id = s.hooks.get? id then some { s with hooks := hooks } else none

/-- A webhook that was just created. -/
def newlyCreated (hooks : Hooks) (ownerUserID : String) (fields : WebhookPatch) (io : CallIO) :
    Subscription where
  hooks := hooks.put io.uuid (fields.created ownerUserID io)

/-! ## What a step can do -/

variable {library id}

/-- The row is the webhook's, and every copy of it is of the webhook. -/
structure OfHook (id : String) (s : Subscription) (cur : Webhook) : Prop where
  found : s.hooks.get? id = some cur
  named : cur.id = id
  edits : forall edit, edit ∈ s.edits -> edit.existing.id = id
  deliveries : forall w, w ∈ s.deliveries -> w.id = id ∧ w.enabled = true

/-- What holds of the row holds of whatever the store finds. -/
theorem OfHook.forall_row_iff {s : Subscription} {cur : Webhook} (ofHook : OfHook id s cur)
    (property : Webhook -> Prop) :
    (forall row, s.hooks.get? id = some row -> property row) ↔ property cur := by
  constructor
  · intro all
    exact all cur ofHook.found
  · intro one row found
    rw [← Option.some.inj (ofHook.found.symm.trans found)]
    exact one

/-- `Update` does not find a reason to refuse the patch. -/
def Accepted (hooks : Hooks) (cur : Webhook) (id : String) (patch : WebhookPatch) : Prop :=
  ¬ (patch.name ≠ cur.name ∧
    nameTaken hooks cur.ownerUserID patch.name (fun other => other = id) = true)

instance (hooks : Hooks) (cur : Webhook) (id : String) (patch : WebhookPatch) :
    Decidable (Accepted hooks cur id patch) := inferInstanceAs (Decidable (¬ _))

/-- The action leaves the row alone. -/
def LeavesRow (hooks : Hooks) (cur : Webhook) (id : String) : HookAction -> Prop
  | .commit edit _ => ¬ Accepted hooks cur id edit.patch
  | .record _ _ _ => False
  | _ => True

/-- What a step does to the row, the ledger and the number of reports. -/
inductive HookMoved (id : String) (s : Subscription) (cur : Webhook) :
    HookAction -> Subscription -> Webhook -> Prop where
  | quiet (action : HookAction) (next : Subscription)
      (leaves : LeavesRow s.hooks cur id action) (ledger : next.ledger = s.ledger)
      (reports : next.autoDisabled = s.autoDisabled) :
      HookMoved id s cur action next cur
  | committed (edit : PendingEdit) (io : CallIO) (next : Subscription)
      (accepted : Accepted s.hooks cur id edit.patch)
      (ledger : next.ledger = s.ledger.commit cur edit)
      (reports : next.autoDisabled = s.autoDisabled) :
      HookMoved id s cur (.commit edit io) next (cur.patched edit.patch io.now)
  | recorded (w : Webhook) (result : DeliveryResult) (io : CallIO) (next : Subscription)
      (enabled : w.enabled = true) (ledger : next.ledger = s.ledger.record cur result)
      (reports : next.autoDisabled =
        if io.writeError = none ∧ (cur.delivered result io.now).enabled = false then
          s.autoDisabled + 1
        else s.autoDisabled) :
      HookMoved id s cur (.record w result io) next (cur.delivered result io.now)

/-- An update of a row that is there. -/
theorem update_found {hooks : Hooks} {cur : Webhook} (found : hooks.get? id = some cur)
    (patch : WebhookPatch) (io : CallIO) :
    (stored (update hooks id patch io).1 = true ∧ Accepted hooks cur id patch ∧
        (update hooks id patch io).2 = hooks.put id (cur.patched patch io.now)) ∨
      (stored (update hooks id patch io).1 = false ∧ ¬ Accepted hooks cur id patch ∧
        (update hooks id patch io).2 = hooks) := by
  unfold update
  rw [found]
  dsimp only
  split
  · rename_i taken
    exact Or.inr ⟨rfl, fun accepted => accepted taken, rfl⟩
  · rename_i free
    cases io.writeError <;> exact Or.inl ⟨rfl, free, rfl⟩

/-- A delivery recorded on a row that is there. -/
theorem recordDelivery_found {hooks : Hooks} {cur : Webhook} (found : hooks.get? id = some cur)
    (result : DeliveryResult) (io : CallIO) :
    recordDelivery hooks id result io =
      ((match io.writeError with
        | some error => .error (.write error)
        | none => .ok (cur.delivered result io.now)),
        hooks.put id (cur.delivered result io.now)) := by
  unfold recordDelivery
  rw [found]
  dsimp only
  cases io.writeError <;> rfl

/-- Every step does one of three things to the row, and keeps the copies of the webhook. -/
theorem hookMoved_of_step {s next : Subscription} {cur : Webhook} {action : HookAction}
    (ofHook : OfHook id s cur) (taken : s.step library id action = some next) :
    Exists fun after => HookMoved id s cur action next after ∧ OfHook id next after := by
  rcases ofHook with ⟨found, named, edits, deliveries⟩
  cases action with
  | readToggle userID enable =>
      simp only [Subscription.step] at taken
      split at taken
      · cases taken
      · rename_i existing owned
        cases taken
        have same := found.symm.trans (requireOwnedWebhook_ok owned).1
        refine ⟨cur, .quiet _ _ trivial rfl rfl, found, named, ?_, deliveries⟩
        apply List.forall_mem_append.mpr ⟨edits, List.forall_mem_singleton.mpr _⟩
        exact Option.some.inj same ▸ named
  | readUpdate userID regions req generated =>
      simp only [Subscription.step] at taken
      split at taken
      · cases taken
      · rename_i existing owned
        have same := found.symm.trans (requireOwnedWebhook_ok owned).1
        split at taken
        · cases taken
        · split at taken
          · cases taken
          · cases taken
            refine ⟨cur, .quiet _ _ trivial rfl rfl, found, named, ?_, deliveries⟩
            apply List.forall_mem_append.mpr ⟨edits, List.forall_mem_singleton.mpr _⟩
            exact Option.some.inj same ▸ named
  | commit edit io =>
      simp only [Subscription.step, found] at taken
      split at taken
      · rename_i pending
        cases taken
        have target := edits edit pending
        have remaining : forall other, other ∈ s.edits.erase edit -> other.existing.id = id :=
          fun other member => edits other (List.mem_of_mem_erase member)
        rcases update_found found edit.patch
          io with ⟨kept, accepted, hooks⟩ | ⟨kept, refused, hooks⟩
        · refine ⟨_, .committed edit io _ accepted ?_ rfl, ?_, named, remaining, deliveries⟩
          · rw [target, kept]
            rfl
          · rw [target, hooks, SortedStore.get?_put_self]
        · refine ⟨cur, .quiet _ _ refused ?_ rfl, ?_, named, remaining, deliveries⟩
          · rw [target, kept]
            rfl
          · rw [target, hooks]
            exact found
      · cases taken
  | dispatch env =>
      simp only [Subscription.step, found] at taken
      split at taken
      · rename_i matched
        cases taken
        refine ⟨cur, .quiet _ _ trivial rfl rfl, found, named, edits, ?_⟩
        apply List.forall_mem_append.mpr ⟨deliveries, List.forall_mem_singleton.mpr _⟩
        simp only [Webhook.matchesEvent, Bool.and_eq_true] at matched
        exact ⟨named, matched.1.1.1⟩
      · cases taken
  | record w result io =>
      simp only [Subscription.step, found] at taken
      split at taken
      · rename_i underway
        cases taken
        rcases deliveries w underway with ⟨target, enabled⟩
        have answer := recordDelivery_found found result io
        refine ⟨_, .recorded w result io _ enabled rfl ?_, ?_, named, edits, ?_⟩
        · rw [target, answer]
          cases io.writeError <;> simp [reportsAutoDisable, enabled]
        · rw [target, answer, SortedStore.get?_put_self]
        · exact fun other member => deliveries other (List.mem_of_mem_erase member)
      · cases taken
  | abandon w =>
      simp only [Subscription.step] at taken
      split at taken
      · cases taken
        refine ⟨cur, .quiet _ _ trivial rfl rfl, found, named, edits, ?_⟩
        exact fun other member => deliveries other (List.mem_of_mem_erase member)
      · cases taken
  | others hooks =>
      simp only [Subscription.step] at taken
      split at taken
      · rename_i same
        cases taken
        exact ⟨cur, .quiet _ _ trivial rfl rfl, same.trans found, named, edits, deliveries⟩
      · cases taken

theorem newlyCreated_ofHook (hooks : Hooks) (ownerUserID : String) (fields : WebhookPatch)
    (io : CallIO) : OfHook io.uuid (newlyCreated hooks ownerUserID fields io)
      (fields.created ownerUserID io) where
  found := SortedStore.get?_put_self _ _ _
  named := rfl
  edits := fun _ member => absurd member List.not_mem_nil
  deliveries := fun _ member => absurd member List.not_mem_nil

/-! ## A webhook of Ada's -/

def adasFields : WebhookPatch where
  name := "audit"
  targetURL := "https://hooks.example/in"
  events := [.objectDeleted]
  bucketFilter := none
  prefixFilter := ""
  secret := "0123456789abcdef"
  enabled := true

/-- The row as it was created. -/
def adasHook : Webhook := adasFields.created "ada" { uuid := "hook-1" }

/-- Its store, and nothing under way. -/
def adasStart : Subscription := newlyCreated SortedStore.empty "ada" adasFields { uuid := "hook-1" }

/-- An event the webhook is for. -/
def adasEvent : EventEnvelope where
  id := "event-1"
  type := .objectDeleted
  occurredAt := 5
  regionID := "region"
  bucket := "photos"
  key := "diary.txt"

end Webhooks
end Basement
