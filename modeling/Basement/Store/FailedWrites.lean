import Basement.Settings.GroupMappings
import Basement.Settings.OrgCapabilities
import Basement.Store.Backups
import Basement.Store.UserRegions
import Basement.Store.Users
import Basement.Webhooks.Hooks

namespace Basement

open Library

/-!
# Failed writes and what is read after them

Six stores keep their records in memory and in a file.  An operation that cannot write its file
answers with an error.  For each of their operations, this module says exactly when the reads
answer after such an error as they did before the call.
-/

/-! ## Webhooks -/

namespace Webhooks

/-- `fileStore.All`. -/
def all (hooks : Hooks) : List Webhook := hooks.entries.map Prod.snd

/-- `fileStore.ListForUser`. -/
def listForUser (hooks : Hooks) (userID : String) : List Webhook :=
  (all hooks).filter fun w => w.ownerUserID = userID

/-- What the reads answer. -/
structure Reads where
  get : String -> Except StoreError Webhook
  listForUser : String -> List Webhook
  all : List Webhook
  listForBucket : String -> String -> List Webhook

def reads (hooks : Hooks) : Reads := ⟨get hooks, listForUser hooks, all hooks, listForBucket hooks⟩

theorem get_eq_ok {hooks : Hooks} {id : String} {w : Webhook} :
    get hooks id = .ok w ↔ hooks.get? id = some w := by
  unfold get
  cases hooks.get? id with
  | none => exact ⟨by rintro ⟨⟩, by rintro ⟨⟩⟩
  | some found => exact ⟨fun same => congrArg some (Except.ok.inj same),
      fun same => congrArg Except.ok (Option.some.inj same)⟩

theorem reads_eq_iff {first second : Hooks} : reads first = reads second ↔ first = second := by
  constructor
  · intro same
    apply SortedStore.ext_get?
    intro id
    apply Option.ext
    intro w
    have answers : get first id = get second id := congrFun (congrArg Reads.get same) id
    rw [← get_eq_ok, ← get_eq_ok, answers]
  · exact fun same => congrArg reads same

/-- An update gives what the row says already, at the time of its last change. -/
structure Webhook.Restated (cur : Webhook) (patch : WebhookPatch) (now : Int) : Prop where
  name : patch.name = cur.name
  targetURL : patch.targetURL = cur.targetURL
  events : patch.events = cur.events
  bucketFilter : patch.bucketFilter = cur.bucketFilter
  prefixFilter : patch.prefixFilter = cur.prefixFilter
  secret : patch.secret = "" ∨ patch.secret = cur.secret
  enabled : patch.enabled = cur.enabled
  now : now = cur.updatedAt

/-- The row has the delivery, which succeeded, already. -/
structure Webhook.Redelivered (cur : Webhook) (result : DeliveryResult) (now : Int) : Prop where
  success : result.success = true
  lastDelivery : cur.lastDelivery = some result
  failureCount : cur.failureCount = 0
  now : now = cur.updatedAt

theorem Webhook.patched_eq_self_iff {cur : Webhook} {patch : WebhookPatch} {now : Int} :
    cur.patched patch now = cur ↔ cur.Restated patch now := by
  have secret : (if patch.secret = "" then cur.secret else patch.secret) = cur.secret ↔
      (patch.secret = "" ∨ patch.secret = cur.secret) := by
    by_cases empty : patch.secret = ""
    · rw [if_pos empty]
      exact ⟨fun _ => Or.inl empty, fun _ => rfl⟩
    · rw [if_neg empty, or_iff_right empty]
  constructor
  · intro same
    have field : forall {α : Type} (read : Webhook -> α),
        read (cur.patched patch now) = read cur := fun read => congrArg read same
    exact ⟨field Webhook.name, field Webhook.targetURL, field Webhook.events,
      field Webhook.bucketFilter, field Webhook.prefixFilter, secret.mp (field Webhook.secret),
      field Webhook.enabled, field Webhook.updatedAt⟩
  · rintro ⟨name, targetURL, events, bucketFilter, prefixFilter, given, enabled, now⟩
    unfold Webhook.patched
    rw [secret.mpr given, name, targetURL, events, bucketFilter, prefixFilter, enabled, now]

theorem Webhook.delivered_eq_self_iff {cur : Webhook} {result : DeliveryResult} {now : Int} :
    cur.delivered result now = cur ↔ cur.Redelivered result now := by
  constructor
  · intro same
    have field : forall {α : Type} (read : Webhook -> α),
        read (cur.delivered result now) = read cur := fun read => congrArg read same
    have failures : (if result.success = true then 0 else cur.failureCount + 1) =
        cur.failureCount := field Webhook.failureCount
    have success : result.success = true := by
      by_contra failed
      rw [if_neg failed] at failures
      exact Nat.succ_ne_self _ failures
    rw [if_pos success] at failures
    exact ⟨success, (field Webhook.lastDelivery).symm, failures.symm, field Webhook.updatedAt⟩
  · rintro ⟨success, lastDelivery, failureCount, now⟩
    unfold Webhook.delivered
    simp only [success, if_true, Bool.true_or, Bool.and_true, now, ← lastDelivery, ← failureCount]

section Operations

variable {hooks : Hooks} {id : String} {io : CallIO}

/-- A change of a stored row that is kept when it cannot be written. -/
theorem put_unseen_iff {α : Type} {cur changed : Webhook} {value : α}
    (found : hooks.get? id = some cur) :
    FailsUnseen reads hooks
        (saving (io.writeError.map StoreError.write) value (hooks.put id changed)
          (hooks.put id changed)) ↔
      (io.writeError = none ∨ changed = cur) := by
  refine failsUnseen_saving_iff.trans (or_congr Option.map_eq_none_iff (reads_eq_iff.trans ?_))
  rw [SortedStore.put_eq_self_iff, found, Option.some.injEq]
  exact eq_comm

theorem create_eq (ownerUserID : String) (fields : WebhookPatch) :
    create hooks ownerUserID fields io =
      if nameTaken hooks ownerUserID fields.name (fun _ => false) then
        (.error .duplicateName, hooks)
      else
        saving (io.writeError.map StoreError.write) (fields.created ownerUserID io)
          (hooks.put io.uuid (fields.created ownerUserID io))
          ((hooks.put io.uuid (fields.created ownerUserID io)).erase io.uuid) := by
  unfold create
  cases io.writeError <;> rfl

/-- Another webhook of the owner has the new name. -/
def Renames (hooks : Hooks) (id : String) (cur : Webhook) (patch : WebhookPatch) : Prop :=
  patch.name ≠ cur.name ∧ nameTaken hooks cur.ownerUserID patch.name (fun other => other = id)

instance (hooks : Hooks) (id : String) (cur : Webhook) (patch : WebhookPatch) :
    Decidable (Renames hooks id cur patch) := inferInstanceAs (Decidable (_ ∧ _))

theorem update_eq {cur : Webhook} (found : hooks.get? id = some cur) (patch : WebhookPatch) :
    update hooks id patch io =
      if Renames hooks id cur patch then (.error .duplicateName, hooks)
      else
        saving (io.writeError.map StoreError.write) (cur.patched patch io.now)
          (hooks.put id (cur.patched patch io.now)) (hooks.put id (cur.patched patch io.now)) := by
  unfold update
  rw [found]
  cases io.writeError <;> rfl

theorem delete_eq {cur : Webhook} (found : hooks.get? id = some cur) :
    delete hooks id io =
      saving (io.writeError.map StoreError.write) () (hooks.erase id) (hooks.erase id) := by
  unfold delete
  rw [found]
  cases io.writeError <;> rfl

theorem recordDelivery_eq {cur : Webhook} (found : hooks.get? id = some cur)
    (result : DeliveryResult) :
    recordDelivery hooks id result io =
      saving (io.writeError.map StoreError.write) (cur.delivered result io.now)
        (hooks.put id (cur.delivered result io.now))
        (hooks.put id (cur.delivered result io.now)) := by
  unfold recordDelivery
  rw [found]
  cases io.writeError <;> rfl

theorem create_unseen_iff {ownerUserID : String} {fields : WebhookPatch} :
    FailsUnseen reads hooks (create hooks ownerUserID fields io) ↔
      (nameTaken hooks ownerUserID fields.name (fun _ => false) = true ∨ io.writeError = none ∨
        hooks.get? io.uuid = none) := by
  rw [create_eq]
  split
  · rename_i taken
    exact ⟨fun _ => Or.inl taken, fun _ => FailsUnseen.refused _⟩
  · rename_i free
    rw [or_iff_right free]
    exact failsUnseen_saving_iff.trans (or_congr Option.map_eq_none_iff
      (reads_eq_iff.trans SortedStore.erase_put_eq_self_iff))

theorem update_unseen_iff {patch : WebhookPatch} :
    FailsUnseen reads hooks (update hooks id patch io) ↔
      forall cur, hooks.get? id = some cur ->
        Renames hooks id cur patch ∨ io.writeError = none ∨ cur.Restated patch io.now := by
  cases found : hooks.get? id with
  | none =>
      unfold update
      rw [found]
      exact ⟨by rintro _ _ ⟨⟩, fun _ => FailsUnseen.refused _⟩
  | some cur =>
      simp only [Option.some.injEq, forall_eq']
      rw [update_eq found]
      split
      · rename_i taken
        exact ⟨fun _ => Or.inl taken, fun _ => FailsUnseen.refused _⟩
      · rename_i free
        rw [or_iff_right free]
        exact (put_unseen_iff found).trans (or_congr Iff.rfl Webhook.patched_eq_self_iff)

theorem delete_unseen_iff : FailsUnseen reads hooks (delete hooks id io) ↔
    (io.writeError = none ∨ hooks.get? id = none) := by
  cases found : hooks.get? id with
  | none =>
      unfold delete
      rw [found]
      exact ⟨fun _ => Or.inr rfl, fun _ => FailsUnseen.refused _⟩
  | some cur =>
      rw [delete_eq found]
      refine failsUnseen_saving_iff.trans (or_congr Option.map_eq_none_iff (reads_eq_iff.trans ?_))
      rw [SortedStore.erase_eq_self_iff, found]

theorem recordDelivery_unseen_iff {result : DeliveryResult} :
    FailsUnseen reads hooks (recordDelivery hooks id result io) ↔
      forall cur, hooks.get? id = some cur ->
        io.writeError = none ∨ cur.Redelivered result io.now := by
  cases found : hooks.get? id with
  | none =>
      unfold recordDelivery
      rw [found]
      exact ⟨by rintro _ _ ⟨⟩, fun _ => FailsUnseen.refused _⟩
  | some cur =>
      simp only [Option.some.injEq, forall_eq']
      rw [recordDelivery_eq found]
      exact (put_unseen_iff found).trans (or_congr Iff.rfl Webhook.delivered_eq_self_iff)

end Operations

end Webhooks

/-! ## Settings -/

namespace Settings

/-- `OrgCapabilitiesStore.Update`. -/
def updateCapabilities (_ : OrgCapabilities) (capabilities : OrgCapabilities)
    (writeError : Option String) : Except String Unit × OrgCapabilities :=
  saving writeError () capabilities.clamped capabilities.clamped

/-- `MarkOnboardingCompleted`. -/
def markOnboardingCompleted (data : OrgCapabilities) (writeError : Option String) :
    Except String Unit × OrgCapabilities :=
  if data.onboardingCompleted then (.ok (), data)
  else
    saving writeError () { data with onboardingCompleted := true }
      { data with onboardingCompleted := true }

theorem OrgCapabilities.eq_iff_get {first second : OrgCapabilities} :
    first = second ↔ forall field, first.get field = second.get field := by
  constructor
  · rintro rfl field
    rfl
  · intro same
    cases first
    cases second
    rw [OrgCapabilities.mk.injEq]
    exact ⟨same .signupMode, same .enabledDrivers, same .allowUserBackends,
      same .userBackendDrivers, same .oidcOnly, same .adminSessionTTLSec, same .gateways,
      same .onboardingCompleted, same .activeSkin, same .userOverridableSkin,
      same .allowedUserSkins⟩

/-- What is stored reads as it is stored. -/
theorem get_read_clamped (caps : OrgCapabilities) (field : Field) :
    caps.clamped.read.get field = field.clamped (caps.get field) := by
  have stored := clamped_get_read caps.clamped field
  rw [get_clamped, Field.clamped_idem] at stored
  rw [← stored]
  cases field with
  | adminSessionTTLSec =>
      have bounds := clampAdminSessionTTL_bounds caps.adminSessionTTLSec
      have positive : ¬ clampAdminSessionTTL caps.adminSessionTTLSec ≤ 0 := by
        unfold adminSessionTTLMinSec at bounds
        omega
      have read : caps.clamped.read.get .adminSessionTTLSec =
          clampAdminSessionTTL caps.adminSessionTTLSec := if_neg positive
      rw [read]
      exact (clampAdminSessionTTL_idem _).symm
  | activeSkin => exact (skinOrDefault_idem _).symm
  | _ => rfl

/-- The settings given read as those that are stored. -/
def Rereads (data caps : OrgCapabilities) : Prop :=
  forall field : Field, field.clamped (caps.get field) = data.read.get field

theorem updateCapabilities_unseen_iff {data caps : OrgCapabilities} {writeError : Option String} :
    FailsUnseen OrgCapabilities.read data (updateCapabilities data caps writeError) ↔
      (writeError = none ∨ Rereads data caps) := by
  refine failsUnseen_saving_iff.trans (or_congr Iff.rfl (OrgCapabilities.eq_iff_get.trans ?_))
  exact forall_congr' fun field => by rw [get_read_clamped]

theorem markOnboardingCompleted_unseen_iff {data : OrgCapabilities} {writeError : Option String} :
    FailsUnseen OrgCapabilities.read data (markOnboardingCompleted data writeError) ↔
      (data.onboardingCompleted = true ∨ writeError = none) := by
  unfold markOnboardingCompleted
  split
  · rename_i completed
    exact ⟨fun _ => Or.inl completed, fun _ => FailsUnseen.answered⟩
  · rename_i pending
    rw [or_iff_right pending]
    refine failsUnseen_saving_iff.trans ⟨?_, Or.inl⟩
    rintro (saved | same)
    · exact saved
    · exact absurd (congrArg OrgCapabilities.onboardingCompleted same).symm pending

/-! ## Group mappings -/

namespace GroupMappings

/-- A whole call of `Replace`. -/
def replace (data : OIDCGroupMappings) (mappings : List OIDCGroupMapping) (now : Int)
    (writeError : Option String) : Except String Unit × OIDCGroupMappings :=
  match mappings.findIdx? OIDCGroupMapping.incomplete with
  | some i =>
      (.error ("oidc-group-mappings: mapping " ++ toString i ++
        " has an empty claim/claimValue/roleId/scope"), data)
  | none =>
      saving (writeError.map ("oidc-group-mappings: " ++ ·)) () ⟨mappings, now⟩ ⟨mappings, now⟩

/-- The memory after the call is what its first step assigns. -/
theorem assign_eq_replace {server next : Server} {index : Nat} {call : Call} {now : Int}
    (assigned : server.assign index call now = some next) (writeError : Option String) :
    next.data = (replace server.data call.mappings now writeError).2 := by
  unfold Server.assign at assigned
  split at assigned
  · cases checked : call.mappings.findIdx? OIDCGroupMapping.incomplete with
    | some i =>
        rw [checked] at assigned
        cases Option.some.inj assigned
        unfold replace
        rw [checked]
        rfl
    | none =>
        rw [checked] at assigned
        cases Option.some.inj assigned
        unfold replace
        rw [checked]
        cases writeError <;> rfl
  · cases assigned

/-- `Get`. -/
def read (data : OIDCGroupMappings) : OIDCGroupMappings := data

theorem replace_unseen_iff {data : OIDCGroupMappings} {mappings : List OIDCGroupMapping}
    {now : Int} {writeError : Option String} :
    FailsUnseen read data (replace data mappings now writeError) ↔
      (mappings.any OIDCGroupMapping.incomplete = true ∨ writeError = none ∨
        (mappings = data.mappings ∧ now = data.updatedAt)) := by
  unfold replace
  cases incomplete : mappings.findIdx? OIDCGroupMapping.incomplete with
  | some i =>
      have bad : mappings.any OIDCGroupMapping.incomplete = true := by
        rw [← List.findIdx?_isSome, incomplete]
        rfl
      exact ⟨fun _ => Or.inl bad, fun _ => FailsUnseen.refused _⟩
  | none =>
      have good : ¬ mappings.any OIDCGroupMapping.incomplete = true := by
        rw [← List.findIdx?_isSome, incomplete]
        exact Bool.false_ne_true
      rw [or_iff_right good]
      refine failsUnseen_saving_iff.trans (or_congr Option.map_eq_none_iff ?_)
      cases data
      exact Iff.of_eq (OIDCGroupMappings.mk.injEq ..)

end GroupMappings

end Settings

/-! ## All stores -/

namespace Store

open Settings (OrgCapabilities)
open Settings.GroupMappings (OIDCGroupMapping OIDCGroupMappings)

/-- The memory of the six stores; the users' preferences are beside the users. -/
structure Stores where
  backups : Backups.Rows := .empty
  webhooks : Webhooks.Hooks := .empty
  users : Users := []
  skins : UserSkins := .empty
  regions : UserRegions := {}
  capabilities : OrgCapabilities := Settings.defaultOrgCapabilities
  mappings : OIDCGroupMappings := Settings.GroupMappings.noMappings

/-- What all reads of the stores answer. -/
structure Stores.Reads where
  backups : Backups.Reads
  webhooks : Webhooks.Reads
  users : Users.Reads
  skins : String -> Option String
  regions : UserRegions.Reads
  capabilities : OrgCapabilities
  mappings : OIDCGroupMappings

def Stores.reads (urls : EndpointLibrary) (s : Stores) : Stores.Reads where
  backups := Backups.reads s.backups
  webhooks := Webhooks.reads s.webhooks
  users := Users.reads s.users
  skins := UserSkins.reads s.skins
  regions := UserRegions.reads urls s.regions
  capabilities := s.capabilities.read
  mappings := Settings.GroupMappings.read s.mappings

/-- A call of an operation that can change a store, with what it meets. -/
inductive Mutation where
  | createBackup (b : Backups.Backup) (io : Backups.CallIO)
  | updateBackup (id : String) (patch : Backups.Backup) (io : Backups.CallIO)
  | deleteBackup (id : String) (io : Backups.CallIO)
  | recordResult (id : String) (r : Backups.BackupResult) (io : Backups.CallIO)
  | createWebhook (ownerUserID : String) (fields : Webhooks.WebhookPatch) (io : Webhooks.CallIO)
  | updateWebhook (id : String) (patch : Webhooks.WebhookPatch) (io : Webhooks.CallIO)
  | deleteWebhook (id : String) (io : Webhooks.CallIO)
  | recordDelivery (id : String) (result : Webhooks.DeliveryResult) (io : Webhooks.CallIO)
  | createUser (u : User) (uuid : String) (now : Int) (writeError : Option String)
  | updateUser (id : String) (fn : User -> Option String × User) (writeError : Option String)
  | deleteUser (id : String) (writeError : Option String)
  | setSkin (userID skinName : String) (writeError : Option String)
  | deleteSkin (userID : String) (writeError : Option String)
  | createRegion (r : UserRegion) (io : UserRegions.CallIO)
  | updateRegion (id : String) (patch : UserRegion) (io : UserRegions.CallIO)
  | deleteRegion (id : String) (io : UserRegions.CallIO)
  | touchLastUsed (id : String) (io : UserRegions.CallIO)
  | updateCapabilities (capabilities : OrgCapabilities) (writeError : Option String)
  | markOnboardingCompleted (writeError : Option String)
  | replaceMappings (mappings : List OIDCGroupMapping) (now : Int) (writeError : Option String)

/-- An answer of which only the text of its error is kept. -/
def outcome {Error Value : Type} (text : Error -> String) (answer : Except Error Value) :
    Except String Unit :=
  (answer.mapError text).map fun _ => ()

theorem outcome_error_iff {Error Value : Type} {text : Error -> String}
    {answer : Except Error Value} :
    (Exists fun error => outcome text answer = .error error) ↔
      Exists fun error => answer = .error error := by
  cases answer with
  | error error => exact ⟨fun _ => ⟨error, rfl⟩, fun _ => ⟨text error, rfl⟩⟩
  | ok value => exact ⟨by rintro ⟨_, ⟨⟩⟩, by rintro ⟨_, ⟨⟩⟩⟩

section Parts

variable {Error Value Part PartView : Type} {text : Error -> String} {s : Stores}
  {urls : EndpointLibrary}

/-- The reply of one store as a reply of all of them. -/
def lift (text : Error -> String) (put : Part -> Stores) (reply : Except Error Value × Part) :
    Except String Unit × Stores :=
  (outcome text reply.1, put reply.2)

theorem lift_unseen_iff {put : Part -> Stores} {view : Part -> PartView} {before : Part}
    {reply : Except Error Value × Part}
    (seen : forall part, Stores.reads urls (put part) = Stores.reads urls s ↔ view part = view before) :
    FailsUnseen (Stores.reads urls) s (lift text put reply) ↔ FailsUnseen view before reply :=
  FailsUnseen.part outcome_error_iff seen

theorem reads_backups_iff (rows : Backups.Rows) :
    Stores.reads urls { s with backups := rows } = Stores.reads urls s ↔
      Backups.reads rows = Backups.reads s.backups := by
  simp only [Stores.reads, Stores.Reads.mk.injEq, and_true]

theorem reads_webhooks_iff (hooks : Webhooks.Hooks) :
    Stores.reads urls { s with webhooks := hooks } = Stores.reads urls s ↔
      Webhooks.reads hooks = Webhooks.reads s.webhooks := by
  simp only [Stores.reads, Stores.Reads.mk.injEq, true_and, and_true]

theorem reads_users_iff (users : Users) :
    Stores.reads urls { s with users := users } = Stores.reads urls s ↔
      Users.reads users = Users.reads s.users := by
  simp only [Stores.reads, Stores.Reads.mk.injEq, true_and, and_true]

theorem reads_skins_iff (skins : UserSkins) :
    Stores.reads urls { s with skins := skins } = Stores.reads urls s ↔
      UserSkins.reads skins = UserSkins.reads s.skins := by
  simp only [Stores.reads, Stores.Reads.mk.injEq, true_and, and_true]

theorem reads_regions_iff (regions : UserRegions) :
    Stores.reads urls { s with regions := regions } = Stores.reads urls s ↔
      UserRegions.reads urls regions = UserRegions.reads urls s.regions := by
  simp only [Stores.reads, Stores.Reads.mk.injEq, true_and, and_true]

theorem reads_capabilities_iff (capabilities : OrgCapabilities) :
    Stores.reads urls { s with capabilities := capabilities } = Stores.reads urls s ↔
      capabilities.read = s.capabilities.read := by
  simp only [Stores.reads, Stores.Reads.mk.injEq, true_and, and_true]

theorem reads_mappings_iff (mappings : OIDCGroupMappings) :
    Stores.reads urls { s with mappings := mappings } = Stores.reads urls s ↔
      Settings.GroupMappings.read mappings = Settings.GroupMappings.read s.mappings := by
  simp only [Stores.reads, Stores.Reads.mk.injEq, true_and]

end Parts

/-- The text of an error that is a text. -/
def verbatim (error : String) : String := error

/-- The call, with the text of its error. -/
def Stores.apply (urls : EndpointLibrary) (s : Stores) : Mutation -> Except String Unit × Stores
  | .createBackup b io =>
      lift verbatim (fun backups => { s with backups }) (Backups.create s.backups b io)
  | .updateBackup id patch io =>
      lift verbatim (fun backups => { s with backups }) (Backups.update s.backups id patch io)
  | .deleteBackup id io =>
      lift verbatim (fun backups => { s with backups }) (Backups.delete s.backups id io)
  | .recordResult id r io =>
      lift verbatim (fun backups => { s with backups }) (Backups.recordResult s.backups id r io)
  | .createWebhook ownerUserID fields io =>
      lift Webhooks.StoreError.text (fun webhooks => { s with webhooks })
        (Webhooks.create s.webhooks ownerUserID fields io)
  | .updateWebhook id patch io =>
      lift Webhooks.StoreError.text (fun webhooks => { s with webhooks })
        (Webhooks.update s.webhooks id patch io)
  | .deleteWebhook id io =>
      lift Webhooks.StoreError.text (fun webhooks => { s with webhooks })
        (Webhooks.delete s.webhooks id io)
  | .recordDelivery id result io =>
      lift Webhooks.StoreError.text (fun webhooks => { s with webhooks })
        (Webhooks.recordDelivery s.webhooks id result io)
  | .createUser u uuid now writeError =>
      lift verbatim (fun users => { s with users })
        (Users.createUser s.users u uuid now writeError)
  | .updateUser id fn writeError =>
      lift verbatim (fun users => { s with users }) (Users.updateUser s.users id fn writeError)
  | .deleteUser id writeError =>
      lift verbatim (fun users => { s with users }) (Users.deleteUser s.users id writeError)
  | .setSkin userID skinName writeError =>
      lift verbatim (fun skins => { s with skins })
        (UserSkins.set s.skins userID skinName writeError)
  | .deleteSkin userID writeError =>
      lift verbatim (fun skins => { s with skins }) (UserSkins.delete s.skins userID writeError)
  | .createRegion r io =>
      lift verbatim (fun regions => { s with regions }) (UserRegions.create urls s.regions r io)
  | .updateRegion id patch io =>
      lift verbatim (fun regions => { s with regions }) (UserRegions.update s.regions id patch io)
  | .deleteRegion id io =>
      lift verbatim (fun regions => { s with regions }) (UserRegions.delete s.regions id io)
  | .touchLastUsed id io =>
      lift verbatim (fun regions => { s with regions })
        (UserRegions.touchLastUsed s.regions id io)
  | .updateCapabilities given writeError =>
      lift verbatim (fun capabilities => { s with capabilities })
        (Settings.updateCapabilities s.capabilities given writeError)
  | .markOnboardingCompleted writeError =>
      lift verbatim (fun capabilities => { s with capabilities })
        (Settings.markOnboardingCompleted s.capabilities writeError)
  | .replaceMappings given now writeError =>
      lift verbatim (fun mappings => { s with mappings })
        (Settings.GroupMappings.replace s.mappings given now writeError)

/-- The call writes its file, is refused before it changes anything, takes its change back, or
changes nothing. -/
def Mutation.Harmless (s : Stores) : Mutation -> Prop
  | .createBackup _ io => io.writeError = none ∨ s.backups.get? io.uuid = none
  | .updateBackup id patch io => forall cur, s.backups.get? id = some cur ->
      io.writeError = none ∨ cur.Restated patch io.now
  | .deleteBackup id io => io.writeError = none ∨ s.backups.get? id = none
  | .recordResult id r io => forall cur, s.backups.get? id = some cur ->
      io.writeError = none ∨ cur.Rerecorded r io.now
  | .createWebhook ownerUserID fields io =>
      Webhooks.nameTaken s.webhooks ownerUserID fields.name (fun _ => false) = true ∨
        io.writeError = none ∨ s.webhooks.get? io.uuid = none
  | .updateWebhook id patch io => forall cur, s.webhooks.get? id = some cur ->
      Webhooks.Renames s.webhooks id cur patch ∨ io.writeError = none ∨
        cur.Restated patch io.now
  | .deleteWebhook id io => io.writeError = none ∨ s.webhooks.get? id = none
  | .recordDelivery id result io => forall cur, s.webhooks.get? id = some cur ->
      io.writeError = none ∨ cur.Redelivered result io.now
  | .createUser _ _ _ writeError => writeError = none
  | .updateUser id fn writeError => forall u, (s.users.find? fun u => u.id = id) = some u ->
      ((fn u).1 = none ∧ writeError = none) ∨ (fn u).2 = u
  | .deleteUser id writeError =>
      writeError = none ∨ (s.users.find? fun u => u.id = id) = none
  | .setSkin userID skinName writeError => userID = "" ∨ writeError = none ∨
      s.skins.get? userID = if skinName = "" then none else some skinName
  | .deleteSkin userID writeError => writeError = none ∨ s.skins.get? userID = none
  | .createRegion _ _ => True
  | .updateRegion id patch io =>
      forall row, (s.regions.cache.find? fun r => r.id = id) = some row ->
        io.writeError = none ∨ UserRegions.Unencrypted patch io ∨
          UserRegions.Restated row patch io
  | .deleteRegion id io =>
      io.writeError = none ∨ (s.regions.cache.find? fun r => r.id = id) = none
  | .touchLastUsed id io =>
      forall row, (s.regions.cache.find? fun r => r.id = id) = some row ->
        io.writeError = none ∨ UserRegions.debounced s.regions id io.now = true ∨
          io.now = row.lastUsedAt
  | .updateCapabilities capabilities writeError =>
      writeError = none ∨ Settings.Rereads s.capabilities capabilities
  | .markOnboardingCompleted writeError =>
      s.capabilities.onboardingCompleted = true ∨ writeError = none
  | .replaceMappings mappings now writeError =>
      mappings.any OIDCGroupMapping.incomplete = true ∨ writeError = none ∨
        (mappings = s.mappings.mappings ∧ now = s.mappings.updatedAt)

/-- An operation that answers with an error is unseen exactly if the call was harmless. -/
theorem failed_write_unseen_iff (urls : EndpointLibrary) (s : Stores) (call : Mutation) :
    FailsUnseen (Stores.reads urls) s (s.apply urls call) ↔ call.Harmless s := by
  cases call with
  | createBackup =>
      exact (lift_unseen_iff reads_backups_iff).trans Backups.create_unseen_iff
  | updateBackup =>
      exact (lift_unseen_iff reads_backups_iff).trans Backups.update_unseen_iff
  | deleteBackup =>
      exact (lift_unseen_iff reads_backups_iff).trans Backups.delete_unseen_iff
  | recordResult =>
      exact (lift_unseen_iff reads_backups_iff).trans Backups.recordResult_unseen_iff
  | createWebhook =>
      exact (lift_unseen_iff reads_webhooks_iff).trans Webhooks.create_unseen_iff
  | updateWebhook =>
      exact (lift_unseen_iff reads_webhooks_iff).trans Webhooks.update_unseen_iff
  | deleteWebhook =>
      exact (lift_unseen_iff reads_webhooks_iff).trans Webhooks.delete_unseen_iff
  | recordDelivery =>
      exact (lift_unseen_iff reads_webhooks_iff).trans Webhooks.recordDelivery_unseen_iff
  | createUser => exact (lift_unseen_iff reads_users_iff).trans Users.createUser_unseen_iff
  | updateUser => exact (lift_unseen_iff reads_users_iff).trans Users.updateUser_unseen_iff
  | deleteUser => exact (lift_unseen_iff reads_users_iff).trans Users.deleteUser_unseen_iff
  | setSkin => exact (lift_unseen_iff reads_skins_iff).trans UserSkins.set_unseen_iff
  | deleteSkin => exact (lift_unseen_iff reads_skins_iff).trans UserSkins.delete_unseen_iff
  | createRegion =>
      refine (lift_unseen_iff reads_regions_iff).trans ⟨fun _ => trivial, fun _ => ?_⟩
      exact UserRegions.create_unseen
  | updateRegion =>
      exact (lift_unseen_iff reads_regions_iff).trans UserRegions.update_unseen_iff
  | deleteRegion =>
      exact (lift_unseen_iff reads_regions_iff).trans UserRegions.delete_unseen_iff
  | touchLastUsed =>
      exact (lift_unseen_iff reads_regions_iff).trans UserRegions.touchLastUsed_unseen_iff
  | updateCapabilities =>
      exact (lift_unseen_iff reads_capabilities_iff).trans Settings.updateCapabilities_unseen_iff
  | markOnboardingCompleted =>
      exact (lift_unseen_iff reads_capabilities_iff).trans
        Settings.markOnboardingCompleted_unseen_iff
  | replaceMappings =>
      exact (lift_unseen_iff reads_mappings_iff).trans Settings.GroupMappings.replace_unseen_iff

def nightlyBackup : Backups.Backup where
  id := "b1"
  ownerUserID := "ann"
  name := "nightly"
  srcRegionID := "r1"
  srcBucket := "photos"
  dstRegionID := "r2"
  dstBucket := "mirror"
  schedule := "0 2 * * *"

/-- A delete that cannot be written has removed the backup from the listing. -/
theorem failed_delete_forgets_backup :
    ¬ forall (urls : EndpointLibrary) (s : Stores) (call : Mutation),
      FailsUnseen (Stores.reads urls) s (s.apply urls call) := by
  intro stated
  have same := stated ⟨Api.sampleURLs, fun _ => ""⟩
    { backups := SortedStore.empty.put "b1" nightlyBackup }
    (.deleteBackup "b1" { writeError := some "no space left on device" })
    "no space left on device" rfl
  exact absurd (congrArg (fun reads => reads.backups.all.length) same) (by decide)

end Store

end Basement
